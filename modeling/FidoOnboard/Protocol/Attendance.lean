import FidoOnboard.DataFormats.KeyAgreement
import FidoOnboard.HttpWrapper.Exchange
import FidoOnboard.OwnerServer.Interleaving
import FidoOnboard.Protocol.Redirection

/-!
# A device at the owner's server

What each message of TO2 relies on, and how the session of one device goes on while
others do what they like before each of its requests.
-/
namespace FidoOnboard.Authentication
open Server OwnerServer Client Shared VoucherTransfer
open CborGrammar CborParser HeaderKeys

variable {P : Platform}

/-! ## Tokens with a header -/

/-- Signatures made with `privateKey` are correct under `key`, over any payload and under this header. -/
structure Signs (P : Platform) (privateKey : P.PrivateKey) (key : P.PKey) (header : COSEHeaderMap P) : Prop where
  signs : ∀ payload : Bytes, payload.length ≤ 2 ^ 62 → ∃ (c : P.CoseSign1) (items : List Bytes),
    P.coseNew payload header privateKey = some c ∧ items.length = 4 ∧ (∀ x ∈ items, WellFormed .bounded x) ∧
    P.coseIntoWriter c = some (0x84 :: items.flatten) ∧
    P.coseFromBytes (0xd2 :: 0x84 :: items.flatten) = some c ∧ P.verifySignature c key = some true ∧
    P.getPayload c none = some payload ∧ ∀ k, P.getUnprotected c k = header.lookup k

/-- A token that arrives with the payload and the header it was made of. -/
structure Carries (key : P.PKey) (header : COSEHeaderMap P) (payload : Bytes) (token : COSESign P) : Prop where
  sent : COSESign.deserializeData P (rewritten token) = .ok (reread token)
  signed : P.verifySignature token.cachedInner key = some true
  payload : P.getPayload token.cachedInner none = some payload
  header : ∀ k, P.getUnprotected token.cachedInner k = header.lookup k

theorem Signs.carries {privateKey : P.PrivateKey} {key : P.PKey} {header : COSEHeaderMap P}
    (hs : Signs P privateKey key header) {payload : Bytes} (hlen : payload.length ≤ 2 ^ 62) : ∃ token,
      COSESign.new P payload header privateKey = .ok token ∧ Carries key header payload token ∧
      P.coseNew payload header privateKey = some token.cachedInner ∧
      ∃ data, P.coseIntoWriter token.cachedInner = some data ∧ rewritten token = 0xd2 :: data := by
  obtain ⟨c, items, hnew, hfour, hitems, hwrite, hback, hverify, hpayload, hheader⟩ := hs.signs payload hlen
  obtain ⟨token, hmade, rfl, hrewritten, hsent⟩ := Redirection.token_made hnew hfour hitems hwrite hback
  exact ⟨token, hmade, ⟨hsent, hverify, hpayload, hheader⟩, hnew, _, hwrite, hrewritten⟩

section Carries

variable {key : P.PKey} {header : COSEHeaderMap P} {payload : Bytes} {token : COSESign P}

theorem Carries.unverified {α : Type} (h : Carries key header payload token) {decode : Bytes → Outcome Error α}
    {value : α} (hdecode : decode payload = .ok value) :
    (reread token).getPayloadUnverified decode = .ok value := by
  have hpayload : P.getPayload (reread token).cachedInner none = some payload := h.payload
  simp only [COSESign.getPayloadUnverified, hpayload, Outcome.ofOption, Outcome.ok_bind, hdecode]

theorem Carries.verified {α : Type} (cose : CoseLaws P) (h : Carries key header payload token)
    {decode : Bytes → Outcome Error α} {value : α} (hdecode : decode payload = .ok value) :
    (reread token).getPayload decode key = .ok value :=
  (COSESign.getPayload_eq_ok cose).mpr ⟨h.signed, h.unverified hdecode⟩

/-- A nonce in the header is read from it. -/
theorem Carries.nonce (h : Carries key header payload token) {k : HeaderKeys} {value : P.Value} {nonce : Nonce}
    (hlookup : header.lookup k.toI64 = some value) (hbytes : P.valueToBytes value = some nonce.value)
    (hlen : nonce.value.length = 16) :
    (reread token).getUnprotectedValue (Nonce.fromValue P) k = .ok (some nonce) := by
  have hget : P.getUnprotected (reread token).cachedInner k.toI64 = some value := (h.header _).trans hlookup
  simp only [COSESign.getUnprotectedValue, hget, Nonce.fromValue, hbytes, Outcome.ofOption, Outcome.ok_bind,
    checkBstr16, hlen, Outcome.check, if_true, Outcome.mapErr_ok]

end Carries

/-! ## What the exchange relies on -/

/-- The value is written, in at most so many bytes. -/
def Written {α : Type} (c : Codec α) (value : α) (bound : Nat) : Prop :=
  ∃ data, c.intoWriter value = some data ∧ data.length ≤ bound

/-- And read back. -/
def Sendable {α : Type} (c : Codec α) (value : α) (bound : Nat) : Prop :=
  ∃ data, c.intoWriter value = some data ∧ data.length ≤ bound ∧ c.fromSlice data = some value

/-- Messages of a known size are written and read back, and keys of the right length encrypt. -/
structure To2Laws (P : Platform) : Prop where
  cose : CoseLaws P
  ciphers : CipherLaws P
  elements : ElementLaws P
  transfer : TransferLaws P
  greeting : GreetingLaws P
  values : ByteValueLaws P
  protocolVersion : Written P.protocolVersion .version1_1 (2 ^ 10)
  noChain : Written P.optionCertificates none (2 ^ 10)
  sigInfo : Written P.sigInfo ⟨.stSECP384R1, []⟩ (2 ^ 10)
  number : ∀ n < 2 ^ 16, Written P.u16 n (2 ^ 10)
  bstr16 : ∀ bytes : Bytes, bytes.length = 16 → Written P.bstr16 bytes (2 ^ 10)
  byteBuf : ∀ bytes : Bytes, bytes.length ≤ 2 ^ 16 → Written P.byteBuf bytes (2 ^ 17)
  hash : ∀ h : Hash, h.value.length ≤ 2 ^ 16 → Written P.hashCodec h (2 ^ 17)
  digest : ∀ {data d : Bytes}, P.hash .sha256 data = some d → d.length ≤ 2 ^ 16
  helloDevice : ∀ guid nonce5 : Bytes, guid.length = 16 → nonce5.length = 16 → Sendable P.helloDevice
    ⟨maxMessageSize, guid, nonce5, .ecdh384, .a256Gcm, ⟨.stSECP384R1, []⟩⟩ contentLengthLimit
  ready : Sendable P.deviceServiceInfoReady (none, none) (2 ^ 10)
  ownerReady : Sendable P.ownerServiceInfoReady none (2 ^ 10)
  oneNonce : ∀ bytes : Bytes, bytes.length = 16 → Sendable P.oneNonce bytes (2 ^ 10)
  coordinates : ∀ {key x y : Bytes}, P.ecPublic .ecdh384 key = some (x, y) → x.length ≤ 48 ∧ y.length ≤ 48
  kdf : ∀ {interoperable : Bool} {label info key out : Bytes},
    P.kdf interoperable CipherSuite.a256Gcm.kdfDigest label info key CipherSuite.a256Gcm.requiredKeylen = some out →
      out.length = CipherSuite.a256Gcm.requiredKeylen
  encrypts : ∀ key plain : Bytes, key.length = CipherSuite.a256Gcm.requiredKeylen → ∃ data,
    P.coseEncrypt key plain = some data ∧ data.length ≤ plain.length + 2 ^ 7

/-- Keys that encrypt whatever they are given. -/
structure Encrypts (P : Platform) (keys : EncryptionKeys) : Prop where
  present : keys.isSome = true
  encrypts : ∀ plain, ∃ data, keys.encrypt P plain = .ok data ∧ data.length ≤ plain.length + 2 ^ 7

theorem derived_encrypts (laws : To2Laws P) {kex : KeyExchange} {available nonInteroperable : Bool}
    {side : KeyDeriveSide} {other : Bytes} {keys : DerivedKeys}
    (h : kex.deriveKey P available side .a256Gcm other nonInteroperable = .ok keys) :
    Encrypts P (.fromDerived .a256Gcm keys) := by
  obtain ⟨secret, _, h₁⟩ := Outcome.bind_eq_ok.mp h
  obtain ⟨out, hout, h₂⟩ := Outcome.bind_eq_ok.mp h₁
  have hkeys : keys = .combined out := (Outcome.ok.inj h₂).symm
  have hlen := laws.kdf (Outcome.ofOption_eq_ok.mp hout)
  refine ⟨rfl, fun plain => ?_⟩
  obtain ⟨data, hdata, hsize⟩ := laws.encrypts out plain hlen
  refine ⟨data, ?_, hsize⟩
  simp [EncryptionKeys.encrypt, EncryptionKeys.fromDerived, EncryptionKeys.sevk, hkeys, hdata, Outcome.ofOption]

/-- The stores behind the handlers work, and a guid is drawn when one is needed. -/
structure Works (draws : Draws P) : Prop where
  loads : draws.loadDataFails = false
  marks : draws.storeMetadataFails = false
  guid : ∃ draw, draws.guid = some draw

/-! ## The session of the device -/

section Session

variable {ud : OwnerServiceUD P} {turns : Nat → Turn (Draws P) (OwnerStores P)}

/-- While the device is there the stores work, and nobody uses its session or takes its voucher away. -/
structure Attended (turns : Nat → Turn (Draws P) (OwnerStores P)) (first : Nat) (id : String) (guid : Guid)
    (v : OwnershipVoucher P) : Prop where
  works : ∀ k, first ≤ k → (turns k).Works
  draws : ∀ k, first ≤ k → Works (turns k).draws
  apart : ∀ k, first < k → ∀ input ∈ (turns k).others, Elsewhere P id input
  keeps : ∀ k, first ≤ k → ∀ stores, Input.tend stores ∈ (turns k).others → stores.vouchers guid = some v

theorem step_vouchers (s : OwnerState P) {input : Input (Draws P) (OwnerStores P)} {guid : Guid}
    {v : OwnershipVoucher P} (hv : s.userData.vouchers guid = some v)
    (hkeeps : ∀ stores, input = .tend stores → stores.vouchers guid = some v) :
    ((service ud).step s input).userData.vouchers guid = some v := by
  cases input with
  | forget id => exact hv
  | tend stores => exact hkeeps stores rfl
  | request around draws req =>
      rcases Service.step_userData (S := service ud) s around draws req with
        hsame | ⟨h, info, body, hroute, _, hdata⟩
      · rw [hsame]
        exact hv
      · have hisolated := (service_isolated ud).keeps hroute s.userData info body
        rw [hdata]
        exact (congrFun hisolated guid).trans hv

theorem after_vouchers (s : OwnerState P) {others : List (Input (Draws P) (OwnerStores P))} {guid : Guid}
    {v : OwnershipVoucher P} (hv : s.userData.vouchers guid = some v)
    (hkeeps : ∀ stores, Input.tend stores ∈ others → stores.vouchers guid = some v) :
    (after (service ud) s others).userData.vouchers guid = some v := by
  induction others generalizing s with
  | nil => exact hv
  | cons input others ih =>
      apply ih
      · apply step_vouchers s hv
        rintro stores rfl
        exact hkeeps stores List.mem_cons_self
      · exact fun stores hstores => hkeeps stores (List.mem_cons_of_mem _ hstores)

/-- The device in its session, after its first request. -/
structure InSession (first : Nat) (available : Bool) (guid : Guid) (v : OwnershipVoucher P)
    (c : ServiceClient (peer (service ud) turns)) (id : String) (ses : Session OwnerSession) : Prop where
  joined : Joined c id ses
  later : first < c.peer.1
  voucher : c.peer.2.userData.vouchers guid = some v
  build : c.interoperableKdfAvailable = available
  told : c.nonInteroperableKdfRequired = some (!ud.interoperableKdfAvailable)

variable {first : Nat} {available : Bool} {guid : Guid} {v : OwnershipVoucher P}
  {c : ServiceClient (peer (service ud) turns)} {id : String} {ses ses' : Session OwnerSession}

theorem InSession.found (hs : InSession first available guid v c id ses) (ha : Attended turns first id guid v) :
    (found c).userData.vouchers guid = some v :=
  after_vouchers c.peer.2 hs.voucher fun stores hstores => ha.keeps c.peer.1 (Nat.le_of_lt hs.later) stores hstores

/-- What a request and its answer have to meet, beside what holds of the session already. -/
structure Step {α : Type} (c : ServiceClient (peer (service ud) turns)) (ses ses' : Session OwnerSession)
    (om sm : Message) (newKeys : Option EncryptionKeys) (data : Bytes) (h : OwnerHandler P)
    (decode : Bytes → Outcome Error α) (value : α) (stores : OwnerStores P) : Prop where
  route : routes ud (turn c).draws om.messageType = some h
  messages : h.im = om ∧ h.om = sm ∧ sm.isValidPreviousMessage (some om.messageType) = true
  sequence : om.isValidPreviousMessage ses.lastMessageType = true
  requirement : om.encryptionRequirement = some (demanded ses.keys.isSome)
  replyRequirement : sm.encryptionRequirement = some (demanded (newKeys.getD ses.keys).isSome)
  secured : ∀ keys ∈ newKeys, keys.isSome = true
  sent : ∃ bytes, ses.keys.encrypt P data = .ok bytes ∧ bytes.length ≤ contentLengthLimit
  left : ses'.id = ses.id ∧ ses'.keys = newKeys.getD ses.keys
  handled : ∃ body, h.decode data = .ok body ∧ ∀ reqHash, ∃ reply val bytes,
    h.run (Shared.found c).userData ⟨ses, none, reqHash, !c.interoperableKdfAvailable⟩ body =
      (stores, .ok (reply, ⟨ses', none, reqHash, !c.interoperableKdfAvailable⟩)) ∧
    h.encode reply = .ok val ∧ ses'.keys.encrypt P val = .ok bytes ∧ decode val = .ok value

/-- The session goes on after a request that is answered. -/
theorem InSession.next {α : Type} (laws : To2Laws P) (ha : Attended turns first id guid v)
    (hs : InSession first available guid v c id ses) {om sm : Message} {newKeys : Option EncryptionKeys}
    {data : Bytes} {h : OwnerHandler P} {decode : Bytes → Outcome Error α} {value : α} {stores : OwnerStores P}
    (hstep : Step c ses ses' om sm newKeys data h decode value stores)
    (hstores : stores.vouchers guid = some v) : ∃ c',
      c.sendRequest P om sm (.ok data) decode newKeys = .ok (value, c') ∧ c'.peer.2.userData = stores ∧
      InSession first available guid v c' id { ses' with lastMessageType := some sm.messageType } := by
  obtain ⟨him, hom, hfollows⟩ := hstep.messages
  obtain ⟨c', hsend, hjoined, hpassed⟩ := Exchange.done laws.ciphers hs.joined
    { works := ha.works c.peer.1 (Nat.le_of_lt hs.later)
      apart := ha.apart c.peer.1 hs.later
      route := hstep.route
      request := him
      response := hom
      sequence := hstep.sequence
      follows := hfollows
      requirement := hstep.requirement
      replyRequirement := hstep.replyRequirement
      secured := hstep.secured
      sent := hstep.sent
      digests := laws.transfer.sha256
      own := hstep.left.1.trans hs.joined.own
      keys := hstep.left.2
      handled := hstep.handled }
  refine ⟨c', hsend, hpassed.stores, ?_⟩
  exact
    { joined := hjoined
      later := by
        rw [hpassed.turn]
        exact Nat.lt_succ_of_lt hs.later
      voucher := by
        rw [hpassed.stores]
        exact hstores
      build := hpassed.build.trans hs.build
      told := by
        rw [hpassed.told, hs.told]
        rfl }

/-- A message under the keys of the session, and its answer. -/
theorem InSession.secured {α : Type} (laws : To2Laws P) (ha : Attended turns first id guid v)
    (hs : InSession first available guid v c id ses) (hkeys : Encrypts P ses.keys) (ses' : Session OwnerSession)
    (hsame : ses'.id = ses.id ∧ ses'.keys = ses.keys) (om sm : Message) (h : OwnerHandler P) {data val : Bytes}
    {decode : Bytes → Outcome Error α} {value : α} {stores : OwnerStores P} {body : h.Body} (reply : h.Reply)
    (hroute : routes ud (turn c).draws om.messageType = some h)
    (hmessages : h.im = om ∧ h.om = sm ∧ sm.isValidPreviousMessage (some om.messageType) = true)
    (hsequence : om.isValidPreviousMessage ses.lastMessageType = true)
    (hsecret : om.encryptionRequirement = some .mustBeEncrypted ∧ sm.encryptionRequirement = some .mustBeEncrypted)
    (hlen : data.length + 2 ^ 7 ≤ contentLengthLimit) (hdecode : h.decode data = .ok body)
    (hrun : ∀ reqHash, h.run (Shared.found c).userData ⟨ses, none, reqHash, !c.interoperableKdfAvailable⟩ body =
      (stores, .ok (reply, ⟨ses', none, reqHash, !c.interoperableKdfAvailable⟩)))
    (hencode : h.encode reply = .ok val) (hback : decode val = .ok value)
    (hstores : stores.vouchers guid = some v) : ∃ c',
      c.sendRequest P om sm (.ok data) decode none = .ok (value, c') ∧ c'.peer.2.userData = stores ∧
      InSession first available guid v c' id { ses' with lastMessageType := some sm.messageType } := by
  obtain ⟨sent, hsent, hsentLen⟩ := hkeys.encrypts data
  obtain ⟨answer, hanswer, _⟩ := hkeys.encrypts val
  have hdemanded : ∀ keys : EncryptionKeys, keys.isSome = true →
      some EncryptionRequirement.mustBeEncrypted = some (demanded keys.isSome) := by
    intro keys hpresent
    rw [hpresent]
    rfl
  exact hs.next laws ha
    { route := hroute
      messages := hmessages
      sequence := hsequence
      requirement := hsecret.1.trans (hdemanded _ hkeys.present)
      replyRequirement := hsecret.2.trans (hdemanded _ hkeys.present)
      secured := by
        intro keys hnone
        cases hnone
      sent := ⟨sent, hsent, Nat.le_trans hsentLen hlen⟩
      left := hsame
      handled := ⟨body, hdecode, fun reqHash =>
        ⟨reply, val, answer, hrun reqHash, hencode, by rw [hsame.2]; exact hanswer, hback⟩⟩ } hstores

end Session

/-! ## The reference platform -/

open Reference

theorem codec_written {α : Type} {w : Wire α} {value : α} {bound : Nat} (hbound : bound ≤ isizeMax)
    (hlen : (w.write value).length ≤ bound) : Written (codec w) value bound :=
  ⟨_, if_pos (Nat.le_trans hlen hbound), hlen⟩

theorem codec_sendable {α : Type} {w : Wire α} {value : α} {bound : Nat} (hbound : bound ≤ isizeMax)
    (hlen : (w.write value).length ≤ bound) (hback : w.ReadsBack value) : Sendable (codec w) value bound :=
  ⟨_, if_pos (Nat.le_trans hlen hbound), hlen, hback.fromSlice⟩

theorem readsBack_helloDevice {guid nonce5 : Bytes} (hguid : guid.length = 16) (hnonce5 : nonce5.length = 16) :
    helloDeviceWire.ReadsBack ⟨maxMessageSize, guid, nonce5, .ecdh384, .a256Gcm, ⟨.stSECP384R1, []⟩⟩ ∧
      (helloDeviceWire.write ⟨maxMessageSize, guid, nonce5, .ecdh384, .a256Gcm, ⟨.stSECP384R1, []⟩⟩).length ≤
        2 ^ 10 := by
  constructor
  · have hkex : kexSuiteWire.ReadsBack .ecdh384 :=
      Wire.ReadsBack.via (readsBack_text (by decide)) (by decide)
    have hcipher : cipherSuiteWire.ReadsBack .a256Gcm :=
      Wire.ReadsBack.via (Wire.readsBack_ofNat (n := 3) (by decide)) (by decide)
    have hsize : (uintWire 16).ReadsBack maxMessageSize := readsBack_uint (by decide) (by decide)
    have hguid' : (Wire.string 2).ReadsBack guid := Wire.readsBack_string (by decide) (by omega)
    have hnonce5' : (Wire.string 2).ReadsBack nonce5 := Wire.readsBack_string (by decide) (by omega)
    have hinfo := (plain_sigInfo ⟨.stSECP384R1, []⟩ (by decide)).2
    refine Wire.ReadsBack.via (Wire.ReadsBack.framed ?_) rfl
    exact hsize.seq (hguid'.seq (hnonce5'.seq (hkex.seq (hcipher.seq hinfo))))
  · have hsize := head_length_le 0 maxMessageSize
    have hguidLen := string_length_le 2 guid
    have hnonceLen := string_length_le 2 nonce5
    have hrest : ((kexSuiteWire.seq (cipherSuiteWire.seq sigInfoWire)).write
        (.ecdh384, .a256Gcm, ⟨.stSECP384R1, []⟩)).length ≤ 64 := by decide
    simp only [helloDeviceWire, Wire.via, Wire.framed, Wire.seq, uint_write, List.length_append, List.length_cons,
      List.length_nil] at hrest ⊢
    omega

theorem to2Laws : To2Laws (reference .release) where
  cose := coseLaws .release
  ciphers := cipherLaws .release
  elements := elementLaws .release
  transfer := transferLaws .release
  greeting := greetingLaws .release
  values := EATokenPayload.byteValueLaws .release
  protocolVersion := codec_written (by decide) (by decide)
  noChain := codec_written (by decide) (by decide)
  sigInfo := codec_written (by decide) (by decide)
  number n _ := codec_written (by decide) (Nat.le_trans (head_length_le 0 n) (by decide))
  bstr16 bytes hlen := by
    have hsize := string_length_le 2 bytes
    exact codec_written (by decide) (by omega)
  byteBuf bytes hlen := by
    have hsize := string_length_le 2 bytes
    exact codec_written (by decide) (by omega)
  hash h hlen := by
    have hsize := hash_length_le h
    exact codec_written (by decide) (by omega)
  digest {data d} h := by
    cases h
    exact Nat.le_trans (digest_length .sha256 data) (by decide)
  helloDevice guid nonce5 hguid hnonce5 := by
    have hhello := readsBack_helloDevice hguid hnonce5
    exact codec_sendable (by decide) (Nat.le_trans hhello.2 (by decide)) hhello.1
  ready := codec_sendable (by decide) (by decide) (Wire.readsBack_none.seq Wire.readsBack_none).framed
  ownerReady := codec_sendable (by decide) (by decide) Wire.readsBack_none.framed
  oneNonce bytes hlen := by
    have hsize := string_length_le 2 bytes
    refine codec_sendable (by decide) ?_ (Wire.readsBack_string (by decide) (by omega)).framed
    simp only [Wire.framed, List.length_append, List.length_cons, List.length_nil]
    omega
  coordinates {key x y} h := by
    cases h
    exact ⟨digest_length .sha256 key, digest_length .sha256 (digest .sha256 key)⟩
  kdf {interoperable label info key out} h := by
    cases h
    simp only [List.length_take, digest, BigEndian.toBe_length]
    rfl
  encrypts key plain _ := by
    refine ⟨_, rfl, ?_⟩
    have hdigest := digest_length .sha256 (key ++ plain)
    simp only [List.length_append, List.length_cons]
    omega

/-- A header with the few small values that tokens of TO2 carry. -/
structure SmallHeader (header : List (Int × Value)) : Prop where
  numbers : ∀ e ∈ header, e.1.natAbs < 2 ^ 64
  values : ∀ e ∈ header, WellFormed .bounded (valueWire.write e.2) ∧ valueWire.ReadsBack e.2
  count : header.length ≤ 2
  size : (protectedWire.write header).length ≤ 2 ^ 10

/-- The keys and values of a header, one after the other. -/
def headerItems (header : List (Int × Value)) : List Bytes :=
  header.flatMap fun e => [Wire.int.write e.1, valueWire.write e.2]

theorem headerItems_length (header : List (Int × Value)) : (headerItems header).length = 2 * header.length := by
  induction header with
  | nil => rfl
  | cons e header ih =>
      simp only [headerItems, List.flatMap_cons, List.length_append, List.length_cons, List.length_nil] at ih ⊢
      omega

theorem headerItems_flatten (header : List (Int × Value)) :
    (headerItems header).flatten = header.flatMap (Wire.int.seq valueWire).write := by
  induction header with
  | nil => rfl
  | cons e header ih =>
      rw [List.flatMap_cons, ← ih]
      simp [headerItems, Wire.seq]

theorem readsBack_key {n : Int} (h : n.natAbs < 2 ^ 64) : Wire.int.ReadsBack n := by
  cases n with
  | ofNat n => exact Wire.readsBack_ofNat h
  | negSucc n => exact Wire.readsBack_negSucc (by simp only [Int.natAbs_negSucc] at h; omega)

section SmallHeader

variable {header : List (Int × Value)}

theorem SmallHeader.wellFormed (h : SmallHeader header) : WellFormed .bounded (protectedWire.write header) := by
  have hcount := h.count
  have hmap : Counting.bounded.mapItems header.length = some (headerItems header).length := by
    rw [headerItems_length]
    exact if_pos (by omega)
  simp only [protectedWire, Wire.counted, ← headerItems_flatten]
  refine .map (@head_wire .map header.length (by omega)) hmap ?_
  intro x hx
  obtain ⟨e, he, hmem⟩ := List.mem_flatMap.mp hx
  rcases List.mem_pair.mp hmem with rfl | rfl
  · exact wellFormed_int (h.numbers e he)
  · exact (h.values e he).1

theorem SmallHeader.readsBack (h : SmallHeader header) : protectedWire.ReadsBack header := by
  have hcount := h.count
  refine Wire.readsBack_counted (by decide) (by omega) ?_
  intro e he
  exact (readsBack_key (h.numbers e he)).seq (h.values e he).2

/-- Every byte string signs for itself, under such a header too. -/
theorem SmallHeader.signs (h : SmallHeader header) (key : Bytes) : Signs (reference .release) key key header where
  signs payload hlen := by
    let c : CoseSign1 := ⟨es256, header, payload, signature key es256 payload⟩
    let items : List Bytes := [(Wire.string 2).write es256, protectedWire.write header,
      (Wire.string 2).write payload, (Wire.string 2).write c.signature]
    have hsig : c.signature.length = 64 := signature_length _ _ _
    have hwrite : coseWire.write c = 0x84 :: items.flatten := by
      simp [coseWire, Wire.via, Wire.framed, Wire.seq, items, c, protectedWire]
    have hback : coseWire.ReadsBack c := by
      refine Wire.ReadsBack.via (Wire.ReadsBack.framed ?_) rfl
      have hprotected : es256.length < 2 ^ 64 := by decide
      exact (Wire.readsBack_string (by decide) hprotected).seq (h.readsBack.seq
        ((Wire.readsBack_string (by decide) (by simp only [c]; omega)).seq
          (Wire.readsBack_string (by decide) (by omega))))
    have hsize : (coseWire.write c).length ≤ isizeMax := by
      have hprotected := string_length_le 2 es256
      have hheader := h.size
      have hpayload := string_length_le 2 payload
      have hsignature := string_length_le 2 c.signature
      rw [hwrite]
      simp only [items, List.length_cons, List.length_flatten, List.map_cons, List.map_nil, List.sum_cons,
        List.sum_nil, List.length_nil, isizeMax, es256] at hprotected hheader hpayload hsignature ⊢
      omega
    refine ⟨c, items, if_pos (Nat.le_trans hlen (by decide)), rfl, ?_, ?_, ?_, ?_, rfl, fun k => rfl⟩
    · intro x hx
      simp only [items, List.mem_cons, List.not_mem_nil, or_false] at hx
      rcases hx with rfl | rfl | rfl | rfl
      · exact wellFormed_string (by decide)
      · exact h.wellFormed
      · exact wellFormed_string (Nat.le_trans hlen (by decide))
      · exact wellFormed_string (by rw [hsig]; decide)
    · rw [← hwrite]
      exact if_pos hsize
    · have hframed : (coseWire.framed [0xd2]).ReadsBack c := hback.framed
      have hread := hframed.fromSlice
      simp only [Wire.framed, hwrite] at hread
      exact hread
    · simp [reference, c]

/-- The token is not much longer than its payload. -/
theorem SmallHeader.short (h : SmallHeader header) {key payload data : Bytes} {c : CoseSign1}
    (hlen : payload.length ≤ 2 ^ 10) (hnew : (reference .release).coseNew payload header key = some c)
    (hdata : (reference .release).coseIntoWriter c = some data) : data.length < contentLengthLimit := by
  change (if payload.length ≤ isizeMax then some (⟨es256, header, payload, signature key es256 payload⟩ : CoseSign1)
    else none) = some c at hnew
  rw [if_pos (Nat.le_trans hlen (by decide))] at hnew
  cases hnew
  change (if (coseWire.write _).length ≤ isizeMax then some (coseWire.write _) else none) = some data at hdata
  split at hdata
  next =>
    cases hdata
    have hprotected := string_length_le 2 es256
    have hheader := h.size
    have hpayload := string_length_le 2 payload
    have hsignature := string_length_le 2 (signature key es256 payload)
    rw [signature_length] at hsignature
    simp only [coseWire, protectedWire, Wire.via, Wire.framed, Wire.seq, List.length_append, List.length_cons,
      List.length_nil, es256, contentLengthLimit] at hprotected hheader hpayload hsignature ⊢
    omega
  next => cases hdata

end SmallHeader

theorem value_bytes {data : Bytes} (hlen : data.length = 16) :
    WellFormed .bounded (valueWire.write (.scalar (.bytes data))) ∧ valueWire.ReadsBack (.scalar (.bytes data)) :=
  ⟨wellFormed_string (by rw [hlen]; decide), readsBack_value_scalar (readsBack_scalar_bytes (by omega))⟩

theorem smallHeader_nil : SmallHeader [] where
  numbers := by simp
  values := by simp
  count := by decide
  size := by decide

theorem smallHeader_nonce {key : HeaderKeys} (hkey : key.toI64.natAbs < 2 ^ 64) {nonce : Bytes}
    (hlen : nonce.length = 16) : SmallHeader [(key.toI64, .scalar (.bytes nonce))] where
  numbers e he := by
    cases List.mem_singleton.mp he
    exact hkey
  values e he := by
    cases List.mem_singleton.mp he
    exact value_bytes hlen
  count := (by decide : 1 ≤ 2)
  size := by
    have hnumber := int_length_le key.toI64
    have hnonce := string_length_le 2 nonce
    have hcount := head_length_le 5 1
    change ((Wire.head 5).write 1 ++ ((Wire.int.write key.toI64 ++ (Wire.string 2).write nonce) ++ [])).length ≤ 2 ^ 10
    simp only [List.length_append, List.length_nil]
    omega

/-- The key that the sample voucher ends in. -/
theorem value_key : WellFormed .bounded (valueWire.write (valueOfPublicKeyFields ⟨.secp256R1, .x509, [3, 1]⟩)) ∧
    valueWire.ReadsBack (valueOfPublicKeyFields ⟨.secp256R1, .x509, [3, 1]⟩) := by
  constructor
  · have hitems : ∀ x ∈ ([[0x0a], [0x01], [0x42, 3, 1]] : List Bytes), WellFormed .bounded x := by
      intro x hx
      simp only [List.mem_cons, List.not_mem_nil, or_false] at hx
      rcases hx with rfl | rfl | rfl
      · exact @wellFormed_int 10 (by decide)
      · exact @wellFormed_int 1 (by decide)
      · exact @wellFormed_string [3, 1] (by decide)
    exact @WellFormed.array .bounded 3 [0x83] _ ⟨3, [], rfl, .inline (by decide)⟩ rfl hitems
  · apply readsBack_value_array (by decide)
    intro item hitem
    simp only [List.mem_cons, List.not_mem_nil, or_false] at hitem
    rcases hitem with rfl | rfl | rfl
    · exact readsBack_scalar_nat (n := 10) (by decide)
    · exact readsBack_scalar_nat (n := 1) (by decide)
    · exact readsBack_scalar_bytes (by decide)

theorem smallHeader_greeting {nonce : Bytes} (hlen : nonce.length = 16) :
    SmallHeader [(cuphOwnerPubKey.toI64, valueOfPublicKeyFields ⟨.secp256R1, .x509, [3, 1]⟩),
      (cuphNonce.toI64, .scalar (.bytes nonce))] where
  numbers e he := by
    rcases List.mem_pair.mp he with rfl | rfl
    · exact (by decide : cuphOwnerPubKey.toI64.natAbs < 2 ^ 64)
    · exact (by decide : cuphNonce.toI64.natAbs < 2 ^ 64)
  values e he := by
    rcases List.mem_pair.mp he with rfl | rfl
    · exact value_key
    · exact value_bytes hlen
  count := Nat.le_refl 2
  size := by
    have hnonce := string_length_le 2 nonce
    have hkey : (valueWire.write (valueOfPublicKeyFields ⟨.secp256R1, .x509, [3, 1]⟩)).length ≤ 8 := by decide
    have hnumber := int_length_le cuphOwnerPubKey.toI64
    have hnumber' := int_length_le cuphNonce.toI64
    have hcount := head_length_le 5 2
    change ((Wire.head 5).write 2 ++ ((Wire.int.write cuphOwnerPubKey.toI64 ++
      valueWire.write (valueOfPublicKeyFields ⟨.secp256R1, .x509, [3, 1]⟩)) ++
        ((Wire.int.write cuphNonce.toI64 ++ (Wire.string 2).write nonce) ++ []))).length ≤ 2 ^ 10
    simp only [List.length_append, List.length_nil]
    omega

end FidoOnboard.Authentication
