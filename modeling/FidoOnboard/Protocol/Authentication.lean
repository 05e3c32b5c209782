import FidoOnboard.Protocol.Attendance
import FidoOnboard.Protocol.HeaderAgreement
import FidoOnboard.Protocol.VoucherAgreement

/-!
# A device and its owner

The device that a voucher was made for, against the server that has the voucher and
the key it ends in.
-/
namespace FidoOnboard.Authentication
open Server OwnerServer Client Shared VoucherTransfer VoucherChain VoucherAgreement
open CborParser EATokenPayload HeaderKeys

variable {P : Platform}

/-! ## The greeting of the owner -/

/-- Any first reading of a request remembers the hash of its body. -/
theorem receive_reqHash {h : OwnerHandler P} {around : Surroundings} {store : SessionStore OwnerSession}
    {req : HttpRequest} {info : Info} {body : h.Body} (hr : receive P h around store req = .ok (info, body)) :
    Hash.fromData P .sha256 req.body = .ok info.reqHash := by
  obtain ⟨_, _, h₁⟩ := Outcome.bind_eq_ok.mp hr
  obtain ⟨⟨ses, cookie⟩, _, h₂⟩ := Outcome.bind_eq_ok.mp h₁
  obtain ⟨reqHash, hhash, h₃⟩ := Outcome.bind_eq_ok.mp h₂
  obtain ⟨body₁, _, h₄⟩ := Outcome.bind_eq_ok.mp h₃
  obtain ⟨rfl, rfl⟩ := Prod.mk.inj (Outcome.ok.inj h₄)
  exact Outcome.unwrap_eq_ok.mp hhash

theorem reqHash_short (laws : To2Laws P) {data : Bytes} {reqHash : Hash}
    (h : Hash.fromData P .sha256 data = .ok reqHash) : reqHash.value.length ≤ 2 ^ 16 := by
  obtain ⟨htype, md, hmd, hvalue⟩ := Hash.fromData_eq_ok.mp h
  rw [htype] at hmd
  cases hmd
  exact laws.digest hvalue

/-- A payload is made, written and read. -/
theorem payload_made (laws : To2Laws P) {header half : Bytes} {num : Nat} {hmac reqHash : Hash} {nonce5 : Nonce}
    (hheader : header.length ≤ 2 ^ 16) (hnum : num < 2 ^ 16) (hhmac : hmac.value.length ≤ 2 ^ 16)
    (hnonce : nonce5.value.length = 16) (hpublic : half.length ≤ 2 ^ 16) (hhash : reqHash.value.length ≤ 2 ^ 16) :
    ∃ payload bytes contents, TO2ProveOVHdrPayload.new P header num hmac nonce5 ⟨.stSECP384R1, []⟩ half reqHash =
        .ok payload ∧ payload.contents.serializeData = .ok bytes ∧ bytes.length ≤ 2 ^ 62 ∧
      TO2ProveOVHdrPayload.deserializeData P bytes = .ok ⟨contents, header, num, hmac, nonce5, ⟨.stSECP384R1, []⟩,
        half, reqHash, maxMessageSize⟩ := by
  obtain ⟨c0, hc0, hlen0⟩ := laws.byteBuf header hheader
  obtain ⟨c1, hc1, hlen1⟩ := laws.number num hnum
  obtain ⟨c2, hc2, hlen2⟩ := laws.hash hmac hhmac
  obtain ⟨c3, hc3, hlen3⟩ := laws.bstr16 nonce5.value hnonce
  obtain ⟨c4, hc4, hlen4⟩ := laws.sigInfo
  obtain ⟨c5, hc5, hlen5⟩ := laws.byteBuf half hpublic
  obtain ⟨c6, hc6, hlen6⟩ := laws.hash reqHash hhash
  obtain ⟨c7, hc7, hlen7⟩ := laws.number maxMessageSize (by decide)
  let contents : ParsedArray size8 := build size8 [c0, c1, c2, c3, c4, c5, c6, c7] fun _ h => Option.some.inj h
  have hnew : TO2ProveOVHdrPayload.new P header num hmac nonce5 ⟨.stSECP384R1, []⟩ half reqHash =
      .ok ⟨contents, header, num, hmac, nonce5, ⟨.stSECP384R1, []⟩, half, reqHash, maxMessageSize⟩ := by
    simp only [TO2ProveOVHdrPayload.new, Nonce.serializeData, Codec.serializeData_eq_ok.mpr hc0,
      Codec.serializeData_eq_ok.mpr hc1, Codec.serializeData_eq_ok.mpr hc2, Codec.serializeData_eq_ok.mpr hc3,
      Codec.serializeData_eq_ok.mpr hc4, Codec.serializeData_eq_ok.mpr hc5, Codec.serializeData_eq_ok.mpr hc6,
      Codec.serializeData_eq_ok.mpr hc7, Outcome.ok_bind, contents]
  have hstart : encodeItemStart .array 8 = .ok [0x88] := by rfl
  have hwrite : contents.serializeData = .ok (0x88 :: contents.contents.flatten) := by
    change (do
      let arrayHead ← encodeItemStart .array 8
      Outcome.ok ([] ++ arrayHead ++ contents.contents.flatten) : Outcome Error Bytes) = _
    rw [hstart]
    rfl
  obtain ⟨read, hread⟩ := HeaderAgreement.payload_rereads laws.elements laws.transfer laws.greeting hnew hwrite hnum
    hnonce
  refine ⟨_, _, read, hnew, hwrite, ?_, hread⟩
  simp only [contents, build, List.flatten_cons, List.flatten_nil, List.length_cons, List.length_append,
    List.length_nil]
  omega

/-- A public part of the suite of the device fits into a message. -/
theorem public_short (laws : To2Laws P) {generated : KexSuite → Bytes → Prop} {kex : KeyExchange}
    (hc : KeyExchange.Created generated .ecdh384 kex) {half : Bytes} (h : kex.getPublic P = .ok half) :
    half.length ≤ 2 ^ 9 := by
  cases hc with
  | dhkex _ hnone => exact absurd rfl (hnone 48)
  | ecdh _ hsized hrandom =>
      cases Outcome.ok.inj hsized
      obtain ⟨⟨x, y⟩, hcoordinates, h₁⟩ := Outcome.bind_eq_ok.mp h
      cases Outcome.ok.inj h₁
      have hlens := laws.coordinates (Outcome.ofOption_eq_ok.mp hcoordinates)
      simp only [KeyExchange.encodeEcdhBstr, List.length_append, BigEndian.toBe_length, hrandom]
      omega

/-- What the owner service signs with: the owner's key, under the header of a ProveOVHdr, and the key that the
device is handed over to. -/
structure OwnerKeys (ud : OwnerServiceUD P) (key : P.PKey) : Prop where
  greets : ∀ nonce6 : Bytes, nonce6.length = 16 → ∃ nonceValue keyValue, P.valueOfBytes nonce6 = some nonceValue ∧
    P.valueToBytes nonceValue = some nonce6 ∧
    P.valueOfPublicKeyFields ud.ownerPubkey.toPublicKeyFields = some keyValue ∧
    Signs P ud.ownerKey key [(cuphOwnerPubKey.toI64, keyValue), (cuphNonce.toI64, nonceValue)]
  setup : ∀ guid nonce7 : Nonce, guid.value.length = 16 → nonce7.value.length = 16 → ∃ payload,
    setupDevicePayload ud ⟨guid.value⟩ nonce7 = .ok payload ∧ payload.length ≤ 2 ^ 62
  owner2 : ∃ key2, Signs P ud.owner2Key key2 []

/-- What the device reads of the answer to its HelloDevice. -/
structure Offered (v : OwnershipVoucher P) (key : P.PKey) (header half : Bytes) (nonce5 nonce6 : Nonce)
    (token : COSESign P) (payload : TO2ProveOVHdrPayload) : Prop where
  read : token.getPayloadUnverified (TO2ProveOVHdrPayload.deserializeData P) = .ok payload
  verified : token.getPayload (TO2ProveOVHdrPayload.deserializeData P) key = .ok payload
  nonce : token.getUnprotectedValue (Nonce.fromValue P) .cuphNonce = .ok (some nonce6)
  header : payload.ovHeader = header ∧ payload.hmac = v.headerHmac
  entries : payload.numOvEntries = v.numEntries
  reply : payload.nonce5 = nonce5 ∧ payload.bSignatureInfo = ⟨.stSECP384R1, []⟩
  offer : payload.aKeyExchange = half

theorem helloDevice_run (laws : To2Laws P) {ud : OwnerServiceUD P} {key : P.PKey} (howner : OwnerKeys ud key)
    {draws : Draws P} {stores : OwnerStores P} (info : Info) {guid : Guid} {nonce5 : Nonce} {v : OwnershipVoucher P}
    (hloads : draws.loadDataFails = false) (hv : stores.vouchers guid = some v) {draw : Random16}
    (hnonce : draws.nonce = some draw) {kex : KeyExchange} (hkex : KeyExchange.new draws.kex .ecdh384 = .ok kex)
    {half header : Bytes} (hpublic : kex.getPublic P = .ok half) (hpublicLen : half.length ≤ 2 ^ 9)
    (hheader : v.headerRaw = .ok header) (hheaderLen : header.length ≤ 2 ^ 16)
    (hhmac : v.headerHmac.value.length ≤ 2 ^ 16) (hnonce5 : nonce5.value.length = 16)
    (hhash : info.reqHash.value.length ≤ 2 ^ 16) : ∃ token payload,
      helloDevice ud draws stores info (HelloDevice.new guid nonce5 .ecdh384 .a256Gcm ⟨.stSECP384R1, []⟩) =
        .ok (token, withData info fun data => { data with
          deviceGuid := some guid, nonce6 := some ⟨draw.val⟩, ciphersuite := some .a256Gcm,
          aKeyExchange := some kex }) ∧
      COSESign.deserializeData P (rewritten token) = .ok (reread token) ∧
      Offered v key header half nonce5 ⟨draw.val⟩ (reread token) payload := by
  obtain ⟨made, bytes, contents, hmade, hbytes, hlen, hread⟩ := payload_made laws hheaderLen
    (Nat.mod_lt v.cachedEntries.len (by decide : 0 < 2 ^ 16)) hhmac hnonce5
    (Nat.le_trans hpublicLen (by decide)) hhash
  obtain ⟨nonceValue, keyValue, hnonceValue, hnonceRead, hkeyValue, hsigns⟩ := howner.greets draw.val draw.property
  obtain ⟨token, hnew, hcarries, _, _⟩ := hsigns.carries hlen
  have hmade : TO2ProveOVHdrPayload.new P header v.numEntries v.headerHmac nonce5 ⟨.stSECP384R1, []⟩ half
      info.reqHash = .ok made := hmade
  have hheader1 : COSEHeaderMap.insert P.valueOfBytes [] .cuphNonce draw.val =
      .ok [(cuphNonce.toI64, nonceValue)] := by
    simp [COSEHeaderMap.insert, hnonceValue, Outcome.ofOption, COSEHeaderMap.insertValue]
  have hheader2 : COSEHeaderMap.insert P.valueOfPublicKeyFields [(cuphNonce.toI64, nonceValue)] .cuphOwnerPubKey
      ud.ownerPubkey.toPublicKeyFields =
        .ok [(cuphOwnerPubKey.toI64, keyValue), (cuphNonce.toI64, nonceValue)] := by
    simp [COSEHeaderMap.insert, hkeyValue, Outcome.ofOption, COSEHeaderMap.insertValue, HeaderKeys.toI64]
  have hrun : helloDevice ud draws stores info (HelloDevice.new guid nonce5 .ecdh384 .a256Gcm ⟨.stSECP384R1, []⟩) =
      .ok (token, withData info fun data => { data with
        deviceGuid := some guid, nonce6 := some ⟨draw.val⟩, ciphersuite := some .a256Gcm,
        aKeyExchange := some kex }) := by
    simp only [helloDevice, HelloDevice.new, loadVoucher, hloads, hv, Outcome.check, if_true, Outcome.ofOption,
      Outcome.ok_bind, hkex, hnonce, Nonce.new, hpublic, hheader, hmade, hheader1, hheader2, hbytes, hnew, orInternal,
      Outcome.mapErr_ok, or_true]
  exact ⟨token, _, hrun, hcarries.sent,
    { read := hcarries.unverified hread
      verified := hcarries.verified laws.cose hread
      nonce := hcarries.nonce (by rfl) hnonceRead draw.property
      header := ⟨rfl, rfl⟩
      entries := rfl
      reply := ⟨rfl, rfl⟩
      offer := rfl }⟩

/-- A device at the server for the first time: its session is opened and its exchange begun. -/
structure Arrives {ud : OwnerServiceUD P} {turns : Nat → Turn (Draws P) (OwnerStores P)}
    (client : ServiceClient (peer (service ud) turns)) (generated : KexSuite → Bytes → Prop) (id : String)
    (guid : Guid) (v : OwnershipVoucher P) (nonce6 : Nonce) (kex : KeyExchange) : Prop where
  fresh : ∃ available world, client = ServiceClient.new available world
  named : Shared.Named client.peer.2
  voucher : client.peer.2.userData.vouchers guid = some v
  drawn : P.idFromCookieValue (turn client).around.cookie = some id
  nonce : ∃ draw : Random16, (turn client).draws.nonce = some draw ∧ nonce6 = ⟨draw.val⟩
  random : (turn client).draws.kex.Fresh generated
  kex : KeyExchange.new (turn client).draws.kex .ecdh384 = .ok kex

/-- The session between the greeting and the proof of the device. -/
def greeted (id : String) (guid : Guid) (nonce6 : Nonce) (kex : KeyExchange) (last : MessageType) :
    Session OwnerSession :=
  ⟨id, some last, none, ⟨some guid, some nonce6, some .a256Gcm, some kex, none, none, none⟩⟩

section Hello

variable {ud : OwnerServiceUD P} {turns : Nat → Turn (Draws P) (OwnerStores P)}
  {client : ServiceClient (peer (service ud) turns)} {generated : KexSuite → Bytes → Prop} {id : String}
  {guid : Guid} {v : OwnershipVoucher P} {nonce5 nonce6 : Nonce} {kex : KeyExchange}

theorem hello_read (laws : To2Laws P) (hguid : guid.value.length = 16) (hnonce5 : nonce5.value.length = 16) :
    ∃ data, (HelloDevice.new guid nonce5 .ecdh384 .a256Gcm ⟨.stSECP384R1, []⟩).serializeData P = .ok data ∧
      data.length ≤ contentLengthLimit ∧ HelloDevice.deserializeData P data =
        .ok (HelloDevice.new guid nonce5 .ecdh384 .a256Gcm ⟨.stSECP384R1, []⟩) := by
  obtain ⟨data, hwrite, hlen, hread⟩ := laws.helloDevice guid.value nonce5.value hguid hnonce5
  refine ⟨data, Codec.serializeData_eq_ok.mpr hwrite, hlen, ?_⟩
  simp only [HelloDevice.deserializeData, Codec.deserializeData_eq_ok.mpr hread, Outcome.ok_bind, checkBstr16, hguid,
    hnonce5, Outcome.check, if_true, Outcome.mapErr_ok, HelloDevice.new]

/-- The greeting of the device comes to its handler in a session of its own. -/
theorem Arrives.delivered (laws : To2Laws P) (ha : Arrives client generated id guid v nonce6 kex)
    (hattended : Attended turns client.peer.1 id guid v) (hguid : guid.value.length = 16)
    (hnonce5 : nonce5.value.length = 16) : ∃ data reqHash,
      (HelloDevice.new guid nonce5 .ecdh384 .a256Gcm ⟨.stSECP384R1, []⟩).serializeData P = .ok data ∧
      reqHash.value.length ≤ 2 ^ 16 ∧
      Shared.Delivered client To2.helloDevice To2.proveOVHdr data (handlerHelloDevice ud (turn client).draws)
        ⟨⟨id, none, none, default⟩, some (turn client).around.cookie, reqHash, !client.interoperableKdfAvailable⟩
        (HelloDevice.new guid nonce5 .ecdh384 .a256Gcm ⟨.stSECP384R1, []⟩) := by
  obtain ⟨available, world, hfresh⟩ := ha.fresh
  obtain ⟨data, hdata, hlen, hread⟩ := hello_read laws hguid hnonce5
  have htoken : client.authorizationToken = none := by rw [hfresh]; rfl
  have hreadable : Readable P (handlerHelloDevice ud (turn client).draws) data
      (⟨id, none, none, default⟩ : Session OwnerSession).lastMessageType
      (HelloDevice.new guid nonce5 .ecdh384 .a256Gcm ⟨.stSECP384R1, []⟩) :=
    ⟨hlen, laws.transfer.sha256 data, rfl, rfl, hread⟩
  obtain ⟨reqHash, hreceive⟩ := hreadable.receive To2.helloDevice.messageType
    (!client.interoperableKdfAvailable) rfl (openSession_fresh (found client).sessions ha.drawn)
  refine ⟨data, reqHash, hdata, reqHash_short laws (receive_reqHash hreceive), ?_⟩
  exact
    { plain := by rw [hfresh]; exact ⟨rfl, rfl, rfl, rfl, rfl⟩
      works := hattended.works client.peer.1 (Nat.le_refl _)
      route := rfl
      reply := rfl
      received := by rw [htoken]; exact hreceive }

theorem Arrives.hello (laws : To2Laws P) (ha : Arrives client generated id guid v nonce6 kex)
    (hattended : Attended turns client.peer.1 id guid v) {key : P.PKey} (howner : OwnerKeys ud key)
    {half header : Bytes} (hhalf : kex.getPublic P = .ok half) (hheader : v.headerRaw = .ok header)
    (hheaderLen : header.length ≤ 2 ^ 16) (hhmac : v.headerHmac.value.length ≤ 2 ^ 16)
    (hguid : guid.value.length = 16) (hnonce5 : nonce5.value.length = 16) : ∃ token payload c',
      client.sendRequest P To2.helloDevice To2.proveOVHdr
        ((HelloDevice.new guid nonce5 .ecdh384 .a256Gcm ⟨.stSECP384R1, []⟩).serializeData P)
        (COSESign.deserializeData P) none = .ok (token, c') ∧
      Offered v key header half nonce5 nonce6 token payload ∧
      InSession client.peer.1 client.interoperableKdfAvailable guid v c' id
        (greeted id guid nonce6 kex .to2ProveOVHdr) := by
  obtain ⟨draw, hnonce, rfl⟩ := ha.nonce
  obtain ⟨available, world, hfresh⟩ := ha.fresh
  obtain ⟨data, reqHash, hdata, hshort, hdelivered⟩ := ha.delivered laws hattended hguid hnonce5
  have htold : client.nonInteroperableKdfRequired = none := by rw [hfresh]; rfl
  have hkeys : client.encryptionKeys = .unencrypted := by rw [hfresh]; rfl
  have hworks : (turn client).Works := hattended.works client.peer.1 (Nat.le_refl _)
  have hfound : (found client).userData.vouchers guid = some v :=
    after_vouchers client.peer.2 ha.voucher fun stores hstores =>
      hattended.keeps client.peer.1 (Nat.le_refl _) stores hstores
  obtain ⟨token, payload, hrun, hsent, hoffered⟩ := helloDevice_run laws howner ⟨⟨id, none, none, default⟩,
      some (turn client).around.cookie, reqHash, !client.interoperableKdfAvailable⟩
    (hattended.draws client.peer.1 (Nat.le_refl _)).loads hfound hnonce ha.kex hhalf
    (public_short laws (KeyExchange.new_created ha.random ha.kex) hhalf) hheader hheaderLen hhmac hnonce5 hshort
  have hsend := hdelivered.answered (congrArg (Prod.mk (found client).userData) hrun) rfl (token_rewritten token) hsent
  rw [hdata]
  refine ⟨_, payload, _, hsend, hoffered, ?_⟩
  exact
    { joined :=
        { token := ⟨"Bearer " ++ (turn client).around.cookie, rfl, by
            rw [LockStep.bearerToken_bearer hworks.cookie]
            exact ha.drawn⟩
          stored := Function.update_self ..
          own := rfl
          last := rfl
          keys := hkeys
          named := Shared.Named.update (after_named ha.named _) (greeted id guid ⟨draw.val⟩ kex .to2ProveOVHdr)
            (found client).userData _ }
      later := Nat.lt_succ_self _
      voucher := hfound
      build := rfl
      told := by
        change some (client.nonInteroperableKdfRequired.getD (!ud.interoperableKdfAvailable)) = _
        rw [htold]
        rfl }

/-! ## The entries of the voucher -/

variable {first : Nat} {available : Bool} {c : ServiceClient (peer (service ud) turns)} {last : MessageType}

/-- One round of the loop, in the session of the greeting. -/
theorem InSession.entry (laws : To2Laws P) (ha : Attended turns first id guid v)
    (hs : InSession first available guid v c id (greeted id guid nonce6 kex last)) (hlast : Fetching (some last))
    {n : Nat} (hn : n < 2 ^ 8) {token : COSESign P} (hentry : v.entry n = .ok token)
    (entries : ParsedArray .dynamic) : ∃ c', getOvEntry P n entries c = .ok (entries.push (rewritten token), c') ∧
      InSession first available guid v c' id (greeted id guid nonce6 kex .to2OVNextEntry) := by
  have hwide : n < 2 ^ 16 := Nat.lt_of_lt_of_le hn (by decide)
  obtain ⟨body, hbody, hlen, hread⟩ := laws.transfer.getOVNextEntry n hn
  obtain ⟨raw, _, hraw⟩ := get_eq_ok.mp hentry
  obtain ⟨data, hdata, hback⟩ := ovNextEntry_roundTrip laws.transfer hwide hraw
  have hloads : (turn c).draws.loadDataFails = false := (ha.draws c.peer.1 (Nat.le_of_lt hs.later)).loads
  have hrun : ∀ reqHash, getOvNextEntry (turn c).draws (Shared.found c).userData
      ⟨greeted id guid nonce6 kex last, none, reqHash, !c.interoperableKdfAvailable⟩ n =
        .ok (⟨n, token⟩, ⟨greeted id guid nonce6 kex last, none, reqHash, !c.interoperableKdfAvailable⟩) := by
    intro reqHash
    simp only [getOvNextEntry, greeted, require, Outcome.ofOption, Outcome.ok_bind, loadVoucher, hloads,
      Outcome.check, if_true, hs.found ha, hentry, Outcome.unwrap, Nat.mod_eq_of_lt hwide]
  have hstep : Step c (greeted id guid nonce6 kex last) (greeted id guid nonce6 kex last) To2.getOVNextEntry
      To2.ovNextEntry none body (handlerGetOvNextEntry (turn c).draws) (OVNextEntry.deserializeData P)
      ⟨n, reread token⟩ (Shared.found c).userData :=
    { route := rfl
      messages := ⟨rfl, rfl, rfl⟩
      sequence := hlast
      requirement := rfl
      replyRequirement := rfl
      secured := by
        intro keys hkeys
        cases hkeys
      sent := ⟨body, rfl, Nat.le_trans hlen (by decide)⟩
      left := ⟨rfl, rfl⟩
      handled := ⟨n, Codec.deserializeData_eq_ok.mpr hread, fun reqHash =>
        ⟨⟨n, token⟩, data, data, congrArg (Prod.mk (Shared.found c).userData) (hrun reqHash), hdata, rfl, hback⟩⟩ }
  obtain ⟨c', hsend, _, hnext⟩ := hs.next laws ha hstep (hs.found ha)
  have hrewritten : (reread token).serializeData = .ok (rewritten token) := token_rewritten (reread token)
  refine ⟨c', ?_, hnext⟩
  simp only [getOvEntry, Nat.mod_eq_of_lt hn, Codec.serializeData_eq_ok.mpr hbody, hsend, Outcome.mapErr_ok,
    Outcome.ok_bind, Outcome.check, if_true, hrewritten]

/-- The loop from `n` on appends the entries from `n` on. -/
theorem InSession.entriesFrom (laws : To2Laws P) (ha : Attended turns first id guid v)
    (hs : InSession first available guid v c id (greeted id guid nonce6 kex last)) (hlast : Fetching (some last))
    {n remaining : Nat} (hsum : n + remaining = v.cachedEntries.len) (hfits : v.cachedEntries.len ≤ 2 ^ 8)
    (hentries : ∀ i < v.cachedEntries.len, ∃ token, v.entry i = .ok token) (entries : ParsedArray .dynamic) :
    ∃ items c', getOvEntriesFrom P n remaining entries c = .ok ({ entries with
        contents := entries.contents ++ items, sized := ParsedArraySize.sized_of_none rfl _ }, c') ∧
      List.Forall₂ (VoucherTransfer.Sent P) (v.cachedEntries.contents.drop n) items ∧
      InSession first available guid v c' id
        (greeted id guid nonce6 kex (if remaining = 0 then last else .to2OVNextEntry)) := by
  induction remaining generalizing n entries c last with
  | zero =>
      refine ⟨[], c, ?_, ?_, hs⟩
      · simp only [getOvEntriesFrom, List.append_nil]
      · rw [List.drop_eq_nil_of_le (by simp only [ParsedArray.len] at hsum; omega)]
        exact .nil
  | succ remaining ih =>
      obtain ⟨token, hentry⟩ := hentries n (by omega)
      obtain ⟨raw, hraw, hdecode⟩ := get_eq_ok.mp hentry
      obtain ⟨c₁, hround, hs₁⟩ := hs.entry laws ha hlast (by omega) hentry entries
      obtain ⟨items, c', hrest, hsent, hs'⟩ := ih hs₁ rfl (n := n + 1) (by omega) (entries.push (rewritten token))
      obtain ⟨hlt, hget⟩ := List.getElem?_eq_some_iff.mp hraw
      refine ⟨rewritten token :: items, c', ?_, ?_, ?_⟩
      · simp only [getOvEntriesFrom, hround, Outcome.ok_bind, hrest]
        simp only [ParsedArray.push, List.append_assoc, List.singleton_append]
      · rw [List.drop_eq_getElem_cons hlt, hget]
        exact .cons ⟨token, hdecode, rfl⟩ hsent
      · rw [if_neg (Nat.succ_ne_zero remaining)]
        rwa [ite_self] at hs'

end Hello

/-! ## The voucher on the device -/

/-- A voucher as it was made for the device, and handed on until its last entry names `key`. -/
structure Belongs (devcred : DeviceCredential) (v : OwnershipVoucher P) (header : Bytes) (key : PublicKey P) :
    Prop where
  read : ∃ data, OwnershipVoucher.deserializeData P data = .ok v
  written : v.headerRaw = .ok header ∧ header.length ≤ 2 ^ 16
  hmac : devcred.verifyHmac P header v.headerHmac = .ok () ∧ v.headerHmac.value.length ≤ 2 ^ 16
  manufacturer : ∃ hash, v.header.manufacturerPublicKeyHash devcred.pubkeyHash.hashType = .ok hash ∧
    devcred.pubkeyHash.compare hash = .ok ()
  chain : ∃ ps p, ValidChain v ps ∧ ps.getLast? = some p ∧ p.publicKey = key
  alike : HashedAlike v
  count : v.cachedEntries.len ≤ 2 ^ 8

section Belongs

variable {devcred : DeviceCredential} {v : OwnershipVoucher P} {header : Bytes} {key : PublicKey P}

theorem Belongs.entries (hb : Belongs devcred v header key) :
    ∀ i < v.cachedEntries.len, ∃ token, v.entry i = .ok token := by
  intro i hi
  obtain ⟨ps, _, hchain, _⟩ := hb.chain
  obtain ⟨hlen, hlinks⟩ := (validChain_iff.mp hchain).1
  have hlt : i < ps.length := by omega
  obtain ⟨_, _, hsigned⟩ := hlinks i ps[i] (List.getElem?_eq_getElem hlt)
  obtain ⟨raw, token, hraw, hdecode, _⟩ := hsigned.signed
  exact ⟨token, get_eq_ok.mpr ⟨raw, hraw, hdecode⟩⟩

theorem Belongs.nonempty (hb : Belongs devcred v header key) : v.cachedEntries.len ≠ 0 := by
  obtain ⟨ps, p, hchain, hlast, _⟩ := hb.chain
  intro hzero
  have hnil : ps = [] := List.eq_nil_of_length_eq_zero (hchain.1.trans hzero)
  rw [hnil] at hlast
  cases hlast

/-- The header in the voucher is the one that its bytes are read as. -/
theorem Belongs.cached (hb : Belongs devcred v header key) :
    OwnershipVoucherHeader.deserializeData P header = .ok v.header := by
  obtain ⟨data, hdata⟩ := hb.read
  obtain ⟨header', hget, hread⟩ := deserialized_header hdata
  have hraw : v.headerRaw = .ok header' := by
    rw [OwnershipVoucher.headerRaw, hget]
    rfl
  cases hraw.symm.trans hb.written.1
  exact hread

theorem dynamic_sized (items : List Bytes) : ParsedArraySize.dynamic.Sized items :=
  ParsedArraySize.sized_of_none rfl items

/-- The entries as the device has collected them. -/
def collected (items : List Bytes) : ParsedArray .dynamic :=
  ⟨none, none, items, dynamic_sized items⟩

/-- The device finds the owner in the voucher that it puts together. -/
theorem Belongs.rebuilt (laws : To2Laws P) (hb : Belongs devcred v header key) {items : List Bytes}
    (hsent : List.Forall₂ (VoucherTransfer.Sent P) v.cachedEntries.contents items) :
    ∃ v' p, OwnershipVoucher.fromParts .version1_1 header v.headerHmac (collected items) = .ok v' ∧
      ownerEntry (P := P) v' = .ok p ∧ p.publicKey = key := by
  obtain ⟨data, hdata⟩ := hb.read
  have hlen : v.cachedEntries.len < 2 ^ 16 := Nat.lt_of_le_of_lt hb.count (by decide)
  have hbuf : P.byteBuf.Faithful := fun value data hwrite => (laws.elements.byteBuf value data hwrite).2
  have hfits : 0 + v.cachedEntries.contents.length ≤ 2 ^ 16 := by
    simp only [ParsedArray.len] at hlen
    omega
  have hentries : transferAll P 0 v.cachedEntries.contents ParsedArray.newEmpty = .ok (collected items) :=
    transferAll_ok laws.transfer hfits hsent ParsedArray.newEmpty
  have hcount : (collected items).contents.length < 2 ^ 16 := by
    change items.length < 2 ^ 16
    rw [← hsent.length_eq]
    exact hlen
  have htag : CborRoundTrip.TagFits (collected items).tag := by
    intro tag htag
    cases htag
  obtain ⟨c0, hc0, _⟩ := laws.protocolVersion
  obtain ⟨c1, hc1, _⟩ := laws.byteBuf header hb.written.2
  obtain ⟨c2, hc2, _⟩ := laws.hash v.headerHmac hb.hmac.2
  obtain ⟨c3, hc3, _⟩ := laws.noChain
  obtain ⟨tagHead, arrayHead, hc4, _⟩ := CborRoundTrip.serializeData_ok htag hcount
  have hc3 : OptionX5Chain.serializeData (P := P) none = .ok c3 := Codec.serializeData_eq_ok.mpr hc3
  have hparts : ∃ v' : OwnershipVoucher P,
      OwnershipVoucher.fromParts .version1_1 header v.headerHmac (collected items) = .ok v' := by
    simp only [OwnershipVoucher.fromParts, Codec.serializeData_eq_ok.mpr hc0, Codec.serializeData_eq_ok.mpr hc1,
      Codec.serializeData_eq_ok.mpr hc2, hc3, hc4, hb.cached, Outcome.ok_bind, Outcome.ok.injEq, exists_eq']
  obtain ⟨v', hv'⟩ := hparts
  have hrebuild : rebuild v = .ok v' := by
    simp only [rebuild, hb.written.1, hentries, Outcome.ok_bind, hv']
  have hrebuilt := rebuild_rebuilt laws.transfer hbuf hdata hlen hrebuild
  obtain ⟨ps, p, hchain, hlast, hkey⟩ := hb.chain
  obtain ⟨hsigned, hbound⟩ := validChain_iff.mp hchain
  have hchain' : ValidChain v' ps := hrebuilt.validChain.mpr ⟨hsigned, (hb.alike ps hsigned).mp hbound⟩
  exact ⟨v', p, hv', ownerEntry_eq_ok.mpr ((lastEntry_eq_payload laws.cose).mpr ⟨ps, hchain', hlast⟩), hkey⟩

/-- What the owner has shown passes the checks of the device. -/
theorem Offered.checked (hb : Belongs devcred v header key) {half : Bytes} {nonce5 nonce6 : Nonce}
    {token : COSESign P} {payload : TO2ProveOVHdrPayload}
    (ho : Offered v key.pkey header half nonce5 nonce6 token payload) :
    checkProveOVHdr P devcred nonce5 .stSECP384R1 payload = .ok () := by
  obtain ⟨hheader, hhmac⟩ := ho.header
  obtain ⟨hnonce, hinfo⟩ := ho.reply
  obtain ⟨hash, hhash, hcompare⟩ := hb.manufacturer
  have hsame : (nonce5.eq nonce5).unwrap = (.ok true : Outcome ClientError Bool) :=
    Outcome.unwrap_eq_ok.mpr (memcmpEq_eq_true.mpr rfl)
  have hhash : OwnershipVoucherHeader.manufacturerPublicKeyHash v.header devcred.pubkeyHash.hashType = .ok hash := hhash
  simp only [checkProveOVHdr, hheader, hhmac, hnonce, hinfo, hsame, Outcome.ok_bind, Outcome.check, if_true,
    hb.hmac.1, hb.cached, hhash, hcompare, orResponse, Outcome.mapErr_ok]

theorem InSession.verified (laws : To2Laws P) (hb : Belongs devcred v header key) {ud : OwnerServiceUD P}
    {turns : Nat → Turn (Draws P) (OwnerStores P)} {first : Nat} {available : Bool} {guid : Guid} {id : String}
    {nonce5 nonce6 : Nonce} {kex : KeyExchange} {c : ServiceClient (peer (service ud) turns)}
    (ha : Attended turns first id guid v)
    (hs : InSession first available guid v c id (greeted id guid nonce6 kex .to2ProveOVHdr)) {half : Bytes}
    {token to1d : COSESign P} {payload : TO2ProveOVHdrPayload}
    (ho : Offered v key.pkey header half nonce5 nonce6 token payload)
    (hto1d : P.verifySignature to1d.cachedInner key.pkey = some true) : ∃ c',
      getAndVerifyOvHeaderSignature P c token payload payload.hmac to1d = .ok (payload, c') ∧
      InSession first available guid v c' id (greeted id guid nonce6 kex .to2OVNextEntry) := by
  obtain ⟨hheader, hhmac⟩ := ho.header
  have hlen : v.cachedEntries.len < 2 ^ 16 := Nat.lt_of_le_of_lt hb.count (by decide)
  obtain ⟨items, c', hloop, hsent, hs'⟩ := hs.entriesFrom laws ha rfl (Nat.zero_add _) hb.count hb.entries
    ParsedArray.newEmpty
  rw [if_neg hb.nonempty] at hs'
  obtain ⟨v', p, hparts, howner, rfl⟩ := hb.rebuilt laws hsent
  have hentries : getOvEntries P c payload.numOvEntries = .ok (collected items, c') := by
    rw [getOvEntries, ho.entries, numEntries_eq hlen]
    exact hloop
  refine ⟨c', ?_, hs'⟩
  simp only [getAndVerifyOvHeaderSignature, hentries, hheader, hhmac, hparts, howner, ho.verified, orResponse,
    Outcome.mapErr_ok, Outcome.ok_bind, COSESign.verify_eq_ok.mpr hto1d]

end Belongs

/-! ## The proof of the device -/

/-- A device that signs for `key`, and whose token fits into a request. -/
structure Prover (tools : DeviceTools P) (devcred : DeviceCredential) (signKey : P.PrivateKey) (key : P.PKey) :
    Prop where
  guid : devcred.guid.value.length = 16
  signer : tools.getSigner devcred.keyStorage = some signKey
  half : ∀ half : Bytes, half.length ≤ 2 ^ 9 → ∃ value, tools.valueOfProveDevicePayload half = some value ∧
    P.valueToProveDevicePayload value = some half
  claims : ∀ {value nonceValue ueidValue : P.Value} {half nonce ueid : Bytes},
    P.valueToProveDevicePayload value = some half → half.length ≤ 2 ^ 9 → P.valueToBytes nonceValue = some nonce →
    nonce.length = 16 → P.valueToBytes ueidValue = some ueid → ueid.length = 17 → ∃ payload claims,
      P.headerMap.intoWriter (claimsOf (some value) nonceValue ueidValue) = some payload ∧
        payload.length ≤ 2 ^ 10 ∧ P.headerMap.fromSlice payload = some claims ∧
        ∀ key, claims.lookup key = (claimsOf (some value) nonceValue ueidValue).lookup key
  signs : ∀ {nonceValue : P.Value} {nonce7 : Bytes}, P.valueToBytes nonceValue = some nonce7 →
    nonce7.length = 16 → Signs P signKey key [(euphNonce.toI64, nonceValue)]
  short : ∀ {nonceValue : P.Value} {nonce7 payload data : Bytes} {c : P.CoseSign1},
    P.valueToBytes nonceValue = some nonce7 → nonce7.length = 16 → payload.length ≤ 2 ^ 10 →
    P.coseNew payload [(euphNonce.toI64, nonceValue)] signKey = some c → P.coseIntoWriter c = some data →
      data.length < contentLengthLimit

/-- The token of ProveDevice, as the owner reads it. -/
structure Presented (tools : DeviceTools P) (devcred : DeviceCredential) (signKey : P.PrivateKey) (key : P.PKey)
    (half : Bytes) (nonce6 nonce7 : Nonce) (token : COSESign P) : Prop where
  made : ∃ value header, tools.valueOfProveDevicePayload half = some value ∧
    COSEHeaderMap.insert P.valueOfBytes [] .euphNonce nonce7.value = .ok header ∧
    COSESign.fromEat ⟨some value, nonce6, devcred.guid.asUeid, []⟩ header signKey = .ok token
  short : (rewritten token).length ≤ contentLengthLimit
  sent : COSESign.deserializeData P (rewritten token) = .ok (reread token)
  nonce : (reread token).getUnprotectedValue (Nonce.fromValue P) .euphNonce = .ok (some nonce7)
  eat : ∃ eat, (reread token).getEat key = .ok eat ∧ eat.nonce = nonce6 ∧
    eat.payloadAs P.valueToProveDevicePayload = .ok (some half)

section Proof

variable {tools : DeviceTools P} {devcred : DeviceCredential} {signKey : P.PrivateKey} {key : P.PKey} {half : Bytes}
  {nonce6 nonce7 : Nonce}

theorem Prover.presents (laws : To2Laws P) (hp : Prover tools devcred signKey key) (hhalf : half.length ≤ 2 ^ 9)
    (hnonce6 : nonce6.value.length = 16) (hnonce7 : nonce7.value.length = 16) :
    ∃ token, Presented tools devcred signKey key half nonce6 nonce7 token := by
  obtain ⟨value, hvalue, hread⟩ := hp.half half hhalf
  obtain ⟨nonceValue, ueidValue, hnonce, hueid, hmap⟩ := toMap_newEat laws.values (some value) nonce6 devcred.guid
  obtain ⟨nonce7Value, hmade, hnonce7Read⟩ := laws.values.bytes nonce7.value
  have hueidLen : devcred.guid.asUeid.length = 17 := by
    rw [Guid.asUeid, List.length_cons, hp.guid]
  obtain ⟨payload, claims, hwrite, hlen, hback, hsame⟩ :=
    hp.claims hread hhalf hnonce hnonce6 hueid hueidLen
  obtain ⟨token, hnew, hcarries, hinner, data, hdata, hrewritten⟩ :=
    (hp.signs hnonce7Read hnonce7).carries (Nat.le_trans hlen (by decide))
  obtain ⟨eat, heat, heatNonce, heatPayload⟩ := Redirection.claims_read hnonce hueid hnonce6 hsame
  have hclaims : (reread token).getPayload P.headerMap.deserializeData key = .ok claims :=
    hcarries.verified laws.cose (Codec.deserializeData_eq_ok.mpr hback)
  refine ⟨token, ?_⟩
  exact
    { made := by
        refine ⟨value, [(euphNonce.toI64, nonce7Value)], hvalue, ?_, ?_⟩
        · simp [COSEHeaderMap.insert, hmade, Outcome.ofOption, COSEHeaderMap.insertValue]
        · simp only [COSESign.fromEat, hmap, Outcome.ok_bind, Codec.serializeData_eq_ok.mpr hwrite, hnew]
      short := by
        have hshort := hp.short hnonce7Read hnonce7 hlen hinner hdata
        rw [hrewritten, List.length_cons]
        omega
      sent := hcarries.sent
      nonce := hcarries.nonce (by rfl) hnonce7Read hnonce7
      eat := by
        refine ⟨eat, Outcome.bind_eq_ok.mpr ⟨claims, hclaims, heat⟩, heatNonce, ?_⟩
        simp only [EATokenPayload.payloadAs, heatPayload, hread, Outcome.ofOption, Outcome.ok_bind] }

end Proof

/-- The session once the device has proved itself. -/
def proven (id : String) (guid : Guid) (nonce6 nonce7 : Nonce) (keys : EncryptionKeys) (last : MessageType)
    (loops : Option Nat) : Session OwnerSession :=
  ⟨id, some last, some keys, ⟨some guid, some nonce6, none, none, some nonce7, some true, loops⟩⟩

section Prove

variable {ud : OwnerServiceUD P} {turns : Nat → Turn (Draws P) (OwnerStores P)} {tools : DeviceTools P}
  {devcred : DeviceCredential} {signKey : P.PrivateKey} {key devKey : P.PKey} {half : Bytes} {nonce6 nonce7 : Nonce}
  {token : COSESign P} {v : OwnershipVoucher P} {guid : Guid} {id : String} {kex : KeyExchange}
  {last : MessageType} {keys : DerivedKeys}

theorem proveDevice_run (howner : OwnerKeys ud key) {draws : Draws P} {stores : OwnerStores P}
    (hdraws : Works draws) (hv : stores.vouchers guid = some v) (hkey : devicePublicKey v = .ok devKey)
    (hpresented : Presented tools devcred signKey devKey half nonce6 nonce7 token)
    (hnonce7 : nonce7.value.length = 16) {kdf : Bool}
    (hderived : kex.deriveKey P ud.interoperableKdfAvailable .ownerService .a256Gcm half kdf = .ok keys) :
    ∃ res, COSESign.deserializeData P (rewritten res) = .ok (reread res) ∧ ∀ cookie reqHash,
      proveDevice ud draws stores ⟨greeted id guid nonce6 kex last, cookie, reqHash, kdf⟩ (reread token) =
        .ok (res, ⟨proven id guid nonce6 nonce7 (.fromDerived .a256Gcm keys) last none, cookie, reqHash, kdf⟩) := by
  obtain ⟨draw, hguid⟩ := hdraws.guid
  obtain ⟨payload, hpayload, hlen⟩ := howner.setup ⟨draw.val⟩ nonce7 draw.property hnonce7
  obtain ⟨key2, hsigns⟩ := howner.owner2
  obtain ⟨res, hnew, hcarries, _⟩ := hsigns.carries hlen
  obtain ⟨eat, heat, hnonce, hclaim⟩ := hpresented.eat
  have hsame : (eat.nonce.eq nonce6).unwrap = (.ok true : Outcome Rejection Bool) := by
    rw [hnonce]
    exact Outcome.unwrap_eq_ok.mpr (memcmpEq_eq_true.mpr rfl)
  have hnewGuid : (Guid.new draws.guid).unwrap = (.ok ⟨draw.val⟩ : Outcome Rejection Guid) := by
    rw [hguid]
    rfl
  refine ⟨res, hcarries.sent, fun cookie reqHash => ?_⟩
  simp only [proveDevice, greeted, require, Outcome.ofOption, Outcome.ok_bind, loadVoucher, hdraws.loads, hv,
    Outcome.check, if_true, hkey, hpresented.nonce, heat, hclaim, hsame, hderived, hnewGuid, hpayload, hnew,
    orInternal, Outcome.mapErr_ok, withData, proven]

variable {first : Nat} {available : Bool} {c : ServiceClient (peer (service ud) turns)}

/-- ProveDevice, and SetupDevice under the new keys. -/
theorem InSession.proved (laws : To2Laws P) (howner : OwnerKeys ud key) (ha : Attended turns first id guid v)
    (hs : InSession first available guid v c id (greeted id guid nonce6 kex .to2OVNextEntry))
    (hp : Prover tools devcred signKey devKey) (hkey : devicePublicKey v = .ok devKey) {kexB : KeyExchange}
    (hhalf : kexB.getPublic P = .ok half) (hhalfLen : half.length ≤ 2 ^ 9) (hnonce6 : nonce6.value.length = 16)
    (hnonce7 : nonce7.value.length = 16)
    (hderived : kex.deriveKey P ud.interoperableKdfAvailable .ownerService .a256Gcm half (!available) = .ok keys) :
    ∃ c', performProvedevice tools devcred c kexB nonce6 nonce7 (.fromDerived .a256Gcm keys) = .ok c' ∧
      InSession first available guid v c' id
        (proven id guid nonce6 nonce7 (.fromDerived .a256Gcm keys) .to2SetupDevice none) := by
  obtain ⟨token, hpresented⟩ := hp.presents laws hhalfLen hnonce6 hnonce7
  obtain ⟨value, header, hvalue, hheader, htoken⟩ := hpresented.made
  have hencrypts := derived_encrypts laws hderived
  rw [← hs.build] at hderived
  obtain ⟨res, hread, hrun⟩ := @proveDevice_run P ud tools devcred signKey key devKey half nonce6 nonce7 token v guid
    id kex .to2OVNextEntry keys howner (turn c).draws (Shared.found c).userData
    (ha.draws c.peer.1 (Nat.le_of_lt hs.later)) (hs.found ha) hkey hpresented hnonce7 _ hderived
  obtain ⟨bytes, hbytes, _⟩ := hencrypts.encrypts (rewritten res)
  have hstep : Step c (greeted id guid nonce6 kex .to2OVNextEntry)
      (proven id guid nonce6 nonce7 (.fromDerived .a256Gcm keys) .to2OVNextEntry none) To2.proveDevice To2.setupDevice
      (some (.fromDerived .a256Gcm keys)) (rewritten token) (handlerProveDevice ud (turn c).draws)
      (COSESign.deserializeData P) (reread res) (Shared.found c).userData :=
    { route := rfl
      messages := ⟨rfl, rfl, rfl⟩
      sequence := rfl
      requirement := rfl
      replyRequirement := rfl
      secured := by
        intro keys' hkeys
        cases hkeys
        rfl
      sent := ⟨rewritten token, rfl, hpresented.short⟩
      left := ⟨rfl, rfl⟩
      handled := ⟨reread token, hpresented.sent, fun reqHash => ⟨res, rewritten res, bytes,
        congrArg (Prod.mk (Shared.found c).userData) (hrun none reqHash), token_rewritten res, hbytes, hread⟩⟩ }
  obtain ⟨c', hsend, _, hnext⟩ := hs.next laws ha hstep (hs.found ha)
  refine ⟨c', ?_, hnext⟩
  simp only [performProvedevice, hhalf, hvalue, hheader, hp.signer, htoken, orResponse, Outcome.mapErr_ok,
    Outcome.ofOption, Outcome.ok_bind, token_rewritten, hsend]

theorem InSession.ready (laws : To2Laws P) (ha : Attended turns first id guid v) {keys : EncryptionKeys}
    (hkeys : Encrypts P keys)
    (hs : InSession first available guid v c id (proven id guid nonce6 nonce7 keys .to2SetupDevice none)) :
    ∃ c', performDeviceserviceinfoready P c = .ok c' ∧
      InSession first available guid v c' id (proven id guid nonce6 nonce7 keys .to2OwnerServiceInfoReady none) := by
  obtain ⟨data, hdata, hlen, hread⟩ := laws.ready
  obtain ⟨val, hval, _, hback⟩ := laws.ownerReady
  have hfits : data.length + 2 ^ 7 ≤ contentLengthLimit :=
    Nat.le_trans (Nat.add_le_add_right hlen _) (by decide)
  obtain ⟨c', hsend, _, hnext⟩ := hs.secured laws ha hkeys _ ⟨rfl, rfl⟩ To2.deviceServiceInfoReady
    To2.ownerServiceInfoReady (handlerDeviceServiceInfoReady P) none rfl ⟨rfl, rfl, rfl⟩ rfl ⟨rfl, rfl⟩ hfits
    (Codec.deserializeData_eq_ok.mpr hread) (fun _ => rfl) (Codec.serializeData_eq_ok.mpr hval)
    (Codec.deserializeData_eq_ok.mpr hback) (hs.found ha)
  refine ⟨c', ?_, hnext⟩
  simp only [performDeviceserviceinfoready, Codec.serializeData_eq_ok.mpr hdata, hsend, orResponse, Outcome.mapErr_ok,
    Outcome.ok_bind]

end Prove

/-! ## Both phases -/

/-- What a device draws for a run. -/
structure Equipped (draws : DeviceDraws) (generated : KexSuite → Bytes → Prop) (nonce5 nonce7 : Nonce)
    (kex : KeyExchange) : Prop where
  nonce5 : ∃ draw : Random16, draws.nonce5 = some draw ∧ nonce5 = ⟨draw.val⟩
  nonce7 : ∃ draw : Random16, draws.nonce7 = some draw ∧ nonce7 = ⟨draw.val⟩
  random : draws.kex.Fresh generated
  kex : KeyExchange.new draws.kex .ecdh384 = .ok kex

/-- A device at its owner's server comes to a session that both hold the same keys of. -/
theorem device_authenticates {generated : KexSuite → Bytes → Prop} (laws : To2Laws P) (kexLaws : KexLaws P generated)
    {ud : OwnerServiceUD P} {turns : Nat → Turn (Draws P) (OwnerStores P)}
    {client : ServiceClient (peer (service ud) turns)} {tools : DeviceTools P} {draws : DeviceDraws}
    {devcred : DeviceCredential} {signKey : P.PrivateKey} {devKey : P.PKey} {key : PublicKey P}
    {v : OwnershipVoucher P} {header : Bytes} {id : String} {nonce5 nonce6 nonce7 : Nonce} {kexA kexB : KeyExchange}
    {to1d : COSESign P} (ha : Arrives client generated id devcred.guid v nonce6 kexA)
    (hattended : Attended turns client.peer.1 id devcred.guid v) (howner : OwnerKeys ud key.pkey)
    (hb : Belongs devcred v header key) (hp : Prover tools devcred signKey devKey)
    (hdevice : devicePublicKey v = .ok devKey) (he : Equipped draws generated nonce5 nonce7 kexB)
    (hto1d : P.verifySignature to1d.cachedInner key.pkey = some true) : ∃ keys c',
      authenticate tools draws devcred to1d client = .ok (nonce6, nonce7, c') ∧ Encrypts P keys ∧
      InSession client.peer.1 client.interoperableKdfAvailable devcred.guid v c' id
        (proven id devcred.guid nonce6 nonce7 keys .to2OwnerServiceInfoReady none) := by
  obtain ⟨draw5, hdraw5, rfl⟩ := he.nonce5
  obtain ⟨draw7, hdraw7, rfl⟩ := he.nonce7
  have hnonce6 : nonce6.value.length = 16 := by
    obtain ⟨draw, _, rfl⟩ := ha.nonce
    exact draw.property
  have hnonce5 : (Nonce.mk draw5.val).value.length = 16 := draw5.property
  have hnonce7 : (Nonce.mk draw7.val).value.length = 16 := draw7.property
  have hcreatedA := KeyExchange.new_created ha.random ha.kex
  have hcreatedB := KeyExchange.new_created he.random he.kex
  obtain ⟨halfA, halfB, hhalfA, hhalfB, hagree⟩ := KeyExchange.deriveKey_agree kexLaws hcreatedA hcreatedB
  obtain ⟨derived, hownerKeys, hdeviceKeys⟩ :=
    hagree .a256Gcm ud.interoperableKdfAvailable client.interoperableKdfAvailable
  obtain ⟨token, payload, c₁, hsend, hoffered, hs₁⟩ :=
    ha.hello laws hattended howner hhalfA hb.written.1 hb.written.2 hb.hmac.2 hp.guid hnonce5
  obtain ⟨c₂, hverify, hs₂⟩ := hs₁.verified laws hb hattended hoffered hto1d
  obtain ⟨c₃, hprove, hs₃⟩ := hs₂.proved laws howner hattended hp hdevice hhalfB
    (public_short laws hcreatedB hhalfB) hnonce6 hnonce7 hownerKeys
  obtain ⟨c', hready, hs'⟩ := hs₃.ready laws hattended (derived_encrypts laws hownerKeys)
  have hhello : performHellodevice P devcred client ⟨draw5.val⟩ .stSECP384R1 .ecdh384 .a256Gcm =
      .ok ((token, payload, payload.hmac), c₁) := by
    simp only [performHellodevice, hsend, Outcome.mapErr_ok, Outcome.ok_bind, hoffered.read, hoffered.checked hb,
      orResponse]
  have hnonce : getNonce6 token = .ok nonce6 := by
    simp only [getNonce6, hoffered.nonce, orResponse, Outcome.mapErr_ok, Outcome.ok_bind, Outcome.ofOption]
  have hderive : performKeyDerivation P draws.kex c₂ payload .ecdh384 .a256Gcm =
      .ok (kexB, .fromDerived .a256Gcm derived) := by
    simp only [performKeyDerivation, hs₂.told, hs₂.build, Outcome.ofOption, Outcome.ok_bind, he.kex, orResponse,
      Outcome.mapErr_ok, hoffered.offer, hdeviceKeys]
  refine ⟨.fromDerived .a256Gcm derived, c', ?_, derived_encrypts laws hownerKeys, hs'⟩
  simp only [authenticate, getNonce, hdraw5, hdraw7, Nonce.new, Outcome.ofOption, Outcome.ok_bind, orResponse,
    Outcome.mapErr_ok, hhello, hnonce, hverify, hderive, hprove, hready]

/-! ## The sample owner and the sample device -/

open Reference

theorem sampleOwnerKeys : OwnerKeys sampleUd [3, 1] where
  greets nonce6 hlen := ⟨_, _, rfl, rfl, rfl, (smallHeader_greeting hlen).signs [3, 1]⟩
  setup guid nonce7 hguid hnonce7 := by
    have hguidLen := string_length_le 2 guid.value
    have hnonceLen := string_length_le 2 nonce7.value
    have hinfo : (rendezvousInfoWire.write []).length ≤ 9 := by decide
    have hkey : (publicKeyFieldsWire.write sampleUd.owner2Pub.toPublicKeyFields).length ≤ 30 := by decide
    have hsize : (setupDeviceWire.write
        ⟨[], guid.value, nonce7.value, sampleUd.owner2Pub.toPublicKeyFields⟩).length ≤ 2 ^ 10 := by
      simp only [setupDeviceWire, Wire.via, Wire.framed, Wire.seq, List.length_append, List.length_cons,
        List.length_nil]
      omega
    exact ⟨_, Codec.serializeData_eq_ok.mpr (if_pos (Nat.le_trans hsize (by decide))),
      Nat.le_trans hsize (by decide)⟩
  owner2 := ⟨[4, 1], smallHeader_nil.signs [4, 1]⟩

/-- The claims of a device, with its half of the key exchange. -/
theorem claims_sendable {half nonce ueid : Bytes} (hhalf : half.length ≤ 2 ^ 9) (hnonce : nonce.length = 16)
    (hueid : ueid.length = 17) : Sendable (reference .release).headerMap
      (claimsOf (P := reference .release) (some (.array [.bytes half])) (.scalar (.bytes nonce))
        (.scalar (.bytes ueid))) (2 ^ 10) := by
  have hpayload : valueWire.ReadsBack (.array [.bytes half]) := by
    have hone : [Scalar.bytes half].length < 2 ^ 64 := (by decide : 1 < 2 ^ 64)
    apply readsBack_value_array hone
    intro item hitem
    cases List.mem_singleton.mp hitem
    exact readsBack_scalar_bytes (by omega)
  let claims : List (Int × Value) :=
    [(11, .scalar (.bytes ueid)), (10, .scalar (.bytes nonce)), (-257, .array [.bytes half])]
  have hitems : ∀ e ∈ claims, (Wire.int.seq valueWire).ReadsBack e := by
    intro e he
    simp only [claims, List.mem_cons, List.not_mem_nil, or_false] at he
    rcases he with rfl | rfl | rfl
    · exact (readsBack_key (n := 11) (by decide)).seq (readsBack_value_scalar (readsBack_scalar_bytes (by omega)))
    · exact (readsBack_key (n := 10) (by decide)).seq (readsBack_value_scalar (readsBack_scalar_bytes (by omega)))
    · exact (readsBack_key (n := -257) (by decide)).seq hpayload
  have hsize : ((Wire.head 5).write 3 ++ ((Wire.int.write 11 ++ (Wire.string 2).write ueid) ++
      ((Wire.int.write 10 ++ (Wire.string 2).write nonce) ++ ((Wire.int.write (-257) ++
        ((Wire.head 4).write 1 ++ ((Wire.string 2).write half ++ []))) ++ [])))).length ≤ 2 ^ 10 := by
    have hcount := head_length_le 5 3
    have hone := head_length_le 4 1
    have hueidKey := int_length_le 11
    have hnonceKey := int_length_le 10
    have hhalfKey := int_length_le (-257)
    have hueidLen := string_length_le 2 ueid
    have hnonceLen := string_length_le 2 nonce
    have hhalfLen := string_length_le 2 half
    simp only [List.length_append, List.length_nil]
    omega
  have hthree : claims.length < 2 ^ 64 := (by decide : 3 < 2 ^ 64)
  exact codec_sendable (by decide) hsize (Wire.readsBack_counted (by decide) hthree hitems)

theorem half_of_value {value : Value} {half : Bytes}
    (h : (reference .release).valueToProveDevicePayload value = some half) : value = .array [.bytes half] := by
  simp only [reference] at h
  split at h
  next value => rw [Option.some.inj h]
  next => cases h

/-- A device with the key `[9, 9]`. -/
theorem sampleProver {devcred : DeviceCredential} (hguid : devcred.guid.value.length = 16)
    (hsigner : sampleTools.getSigner devcred.keyStorage = some [9, 9]) :
    Prover sampleTools devcred [9, 9] [9, 9] where
  guid := hguid
  signer := hsigner
  half half _ := ⟨.array [.bytes half], rfl, rfl⟩
  claims {value nonceValue ueidValue half nonce ueid} hvalue hhalf hnonce hnonceLen hueid hueidLen := by
    cases half_of_value hvalue
    cases Redirection.bytes_of_value hnonce
    cases Redirection.bytes_of_value hueid
    obtain ⟨payload, hwrite, hlen, hread⟩ := claims_sendable hhalf hnonceLen hueidLen
    exact ⟨payload, _, hwrite, hlen, hread, fun _ => rfl⟩
  signs {nonceValue nonce7} hnonce hlen := by
    cases Redirection.bytes_of_value hnonce
    exact (smallHeader_nonce (by decide) hlen).signs [9, 9]
  short {nonceValue nonce7 payload data c} hnonce hlen hpayload hnew hdata := by
    cases Redirection.bytes_of_value hnonce
    exact (smallHeader_nonce (by decide) hlen).short hpayload hnew hdata

/-- What makes the voucher one that belongs to its device, computed. -/
def sampleChecks (v : OwnershipVoucher (reference .release)) (devcred : DeviceCredential) : Outcome Error Unit := do
  let header ← v.headerRaw
  devcred.verifyHmac (reference .release) header v.headerHmac
  let hash ← v.header.manufacturerPublicKeyHash devcred.pubkeyHash.hashType
  devcred.pubkeyHash.compare hash
  let p ← lastPayload v
  let ownerKey : Bytes ← .ok p.publicKey.pkey
  let deviceKey : Bytes ← (devicePublicKey v).mapErr fun _ => Error.cose
  let signKey : Bytes ← .ofOption .cose (sampleTools.getSigner devcred.keyStorage)
  Outcome.check (ownerKey = [3, 1] ∧ deviceKey = [9, 9] ∧ signKey = [9, 9] ∧ devcred.guid = ⟨List.replicate 16 7⟩ ∧
    header.length ≤ 2 ^ 16 ∧ v.headerHmac.value.length ≤ 2 ^ 16 ∧ v.cachedEntries.len = 2 ∧
    v.contents.contents[2]? = (reference .release).hashCodec.intoWriter v.headerHmac) Error.cose
  let raw ← v.cachedEntries.getRaw 0
  let token ← COSESign.deserializeData (reference .release) raw
  Outcome.check (raw = rewritten token) Error.cose

/-- The device that the voucher was made for. -/
structure SampleOwned (v : OwnershipVoucher (reference .release)) (devcred : DeviceCredential) (header : Bytes)
    (key : PublicKey (reference .release)) : Prop where
  belongs : Belongs devcred v header key
  ownerKey : key.pkey = [3, 1]
  deviceKey : devicePublicKey v = .ok [9, 9]
  signer : sampleTools.getSigner devcred.keyStorage = some [9, 9]
  guid : devcred.guid = ⟨List.replicate 16 7⟩

theorem sampleChecks_owned {v : OwnershipVoucher (reference .release)} {data : Bytes} {devcred : DeviceCredential}
    (hread : OwnershipVoucher.deserializeData (reference .release) data = .ok v)
    (h : sampleChecks v devcred = .ok ()) : ∃ header key, SampleOwned v devcred header key := by
  obtain ⟨header, hheader, h₁⟩ := Outcome.bind_eq_ok.mp h
  obtain ⟨_, hhmac, h₂⟩ := Outcome.bind_eq_ok.mp h₁
  obtain ⟨hash, hhash, h₃⟩ := Outcome.bind_eq_ok.mp h₂
  obtain ⟨_, hcompare, h₄⟩ := Outcome.bind_eq_ok.mp h₃
  obtain ⟨p, hlast, h₅⟩ := Outcome.bind_eq_ok.mp h₄
  obtain ⟨_, howner, h₆⟩ := Outcome.bind_eq_ok.mp h₅
  obtain ⟨_, hdevice, h₇⟩ := Outcome.bind_eq_ok.mp h₆
  obtain ⟨_, hsigner, h₈⟩ := Outcome.bind_eq_ok.mp h₇
  obtain ⟨_, hcheck, h₉⟩ := Outcome.bind_eq_ok.mp h₈
  obtain ⟨raw, hraw, h₁₀⟩ := Outcome.bind_eq_ok.mp h₉
  obtain ⟨token, htoken, hsame⟩ := Outcome.bind_eq_ok.mp h₁₀
  obtain ⟨rfl, rfl, rfl, hguid, hheaderLen, hhmacLen, hlen, hwritten⟩ := Outcome.check_eq_ok.mp hcheck
  have hcanonical : Canonical v := by
    refine ⟨hwritten, fun i x hi hx => ?_⟩
    obtain rfl : i = 0 := by omega
    obtain rfl := Option.some.inj (hx.symm.trans (getRaw_eq_ok.mp hraw))
    exact ⟨token, htoken, Outcome.check_eq_ok.mp hsame⟩
  obtain ⟨ps, hchain, hending⟩ := (lastEntry_eq_payload (coseLaws .release)).mp (lastPayload_eq_ok.mp hlast)
  refine ⟨header, p.publicKey, ?_⟩
  exact
    { belongs :=
        { read := ⟨data, hread⟩
          written := ⟨hheader, hheaderLen⟩
          hmac := ⟨hhmac, hhmacLen⟩
          manufacturer := ⟨hash, hhash, hcompare⟩
          chain := ⟨ps, p, hchain, hending, rfl⟩
          alike := hcanonical.hashedAlike
          count := by rw [hlen]; decide }
      ownerKey := Outcome.ok.inj howner
      deviceKey := Outcome.mapErr_eq_ok.mp hdevice
      signer := Outcome.ofOption_eq_ok.mp hsigner
      guid := hguid }

theorem sampleOwned : ∃ v devcred header key, SampleOwned v devcred header key := by
  have hrun : (do
      let stored ← sampleVoucher
      let v ← reloaded stored
      let devcred ← Client.sampleCredential v
      sampleChecks v devcred).isOk = true := by
    decide +kernel
  obtain ⟨_, h⟩ := Outcome.isOk_iff.mp hrun
  obtain ⟨stored, _, h₁⟩ := Outcome.bind_eq_ok.mp h
  obtain ⟨v, hreloaded, h₂⟩ := Outcome.bind_eq_ok.mp h₁
  obtain ⟨devcred, _, h₃⟩ := Outcome.bind_eq_ok.mp h₂
  obtain ⟨data, _, hread⟩ := Outcome.bind_eq_ok.mp hreloaded
  obtain ⟨header, key, howned⟩ := sampleChecks_owned hread h₃
  exact ⟨v, devcred, header, key, howned⟩

/-- Each request comes after a HelloDevice of somebody else. -/
def sampleTurns (k : Nat) : Turn (Draws (reference .release)) (OwnerStores (reference .release)) where
  others := [sampleRequest 9 "x" .to2HelloDevice none [0x80]]
  around := ⟨"a", 0, false, false, false⟩
  draws := OwnerServer.sampleDraws (UInt8.ofNat k)

/-- A new client of the owner that has the voucher. -/
def sampleOwner (v : OwnershipVoucher (reference .release)) : ServiceClient (peer (service sampleUd) sampleTurns) :=
  .new true (0, sampleServer v)

theorem sampleTurns_attended (v : OwnershipVoucher (reference .release)) :
    Attended sampleTurns 0 "a" ⟨List.replicate 16 7⟩ v where
  works k _ := ⟨rfl, rfl, rfl, (by decide : ' ' ∉ "a".toList)⟩
  draws k _ := ⟨rfl, rfl, ⟨_, rfl⟩⟩
  apart k _ input hinput := by
    cases List.mem_singleton.mp hinput
    constructor
    · intro hsame
      exact absurd (Option.some.inj hsame) (by decide)
    · intro hdr hheader
      cases hheader
  keeps k _ stores hstores := by
    cases List.mem_singleton.mp hstores

theorem repeated_fresh (key : Bytes) (b : UInt8) : KexEntropy.Fresh (fun _ _ => True)
    ⟨fun _ => some key, fun _ => some key, fun n => some (List.replicate n b)⟩ where
  ecKey _ := trivial
  dhKey _ := trivial
  random h := by
    obtain rfl := Option.some.inj h
    exact List.length_replicate

theorem sampleOwner_arrives (v : OwnershipVoucher (reference .release)) :
    Arrives (sampleOwner v) (fun _ _ => True) "a" ⟨List.replicate 16 7⟩ v ⟨List.replicate 16 0⟩
      (.ecdh .ecdh384 [0] (List.replicate 48 0)) where
  fresh := ⟨true, (0, sampleServer v), rfl⟩
  named hses := by cases hses
  voucher := by
    change (if (⟨List.replicate 16 7⟩ : Guid) = ⟨List.replicate 16 7⟩ then some v else none) = some v
    exact if_pos rfl
  drawn := rfl
  nonce := ⟨.repeated 0, rfl, rfl⟩
  random := repeated_fresh [0] 0
  kex := rfl

theorem sampleEquipped : Equipped sampleDeviceDraws (fun _ _ => True) ⟨List.replicate 16 5⟩
    ⟨List.replicate 16 0x79⟩ (.ecdh .ecdh384 [0x77] (List.replicate 48 0x78)) where
  nonce5 := ⟨.repeated 5, rfl, rfl⟩
  nonce7 := ⟨.repeated 0x79, rfl, rfl⟩
  random := repeated_fresh [0x77] 0x78
  kex := rfl

end FidoOnboard.Authentication
