import FidoOnboard.ManufacturingClient.Di
import FidoOnboard.ManufacturingServer.Vouchers
import FidoOnboard.OwnerServer.Handlers

/-!
# One header from DI to TO2

The manufacturer's header goes to the device, and by way of the session into the
voucher. The voucher is stored, read and handed on any number of times before its
header comes back to the device. The bytes under the HMAC are the same throughout.
-/
namespace FidoOnboard.HeaderAgreement
open CborParser CborGrammar CborRoundTrip ManufacturingServer VoucherChain VoucherExtend VoucherRoundTrip

variable {P : Platform}

/-! ## A voucher on its way -/

/-- Written and read, or handed on, any number of times. -/
inductive Carried (v : OwnershipVoucher P) : OwnershipVoucher P → Prop where
  | here : Carried v v
  | rewritten {u w : OwnershipVoucher P} {data : Bytes} (earlier : Carried v u)
      (written : u.serializeData = .ok data) (read : OwnershipVoucher.deserializeData P data = .ok w) :
      Carried v w
  | extended {u w : OwnershipVoucher P} {s : Handover P} (earlier : Carried v u)
      (step : u.extend s.privateKey s.extra s.nextParty = (.ok (), w)) : Carried v w

/-- What stays when a voucher is carried. -/
structure SameUnderHmac (v w : OwnershipVoucher P) : Prop where
  headerRaw : w.headerRaw = v.headerRaw
  hmac : w.cachedHeaderHmac = v.cachedHeaderHmac
  holds : VoucherHolds w w.contents.contents

theorem headerRaw_of_contents {v w : OwnershipVoucher P}
    (h : w.contents.contents[1]? = v.contents.contents[1]?) : w.headerRaw = v.headerRaw := by
  simp only [OwnershipVoucher.headerRaw, ParsedArray.get, ParsedArray.getRaw, h]

/-- What is read is the voucher that was written. -/
theorem rewritten_same (laws : ElementLaws P) {u w : OwnershipVoucher P} {data : Bytes}
    (hholds : VoucherHolds u u.contents.contents) (hwritten : u.serializeData = .ok data)
    (hread : OwnershipVoucher.deserializeData P data = .ok w) : SameUnderHmac u w := by
  obtain ⟨rest, hreader⟩ := OwnershipVoucher.deserializeData_eq_ok.mp hread
  have hreader' : OwnershipVoucher.deserializeFromReader P (data ++ []) = .ok (w, rest) := by
    rwa [List.append_nil]
  have hreadable : Readable u := voucher_read_only hholds hwritten hreader'
  obtain ⟨w', hback, hsame⟩ := voucher_reads hholds hwritten hreadable []
  rw [List.append_nil] at hback
  obtain ⟨rfl, _⟩ := Prod.mk.inj (Outcome.ok.inj (hback.symm.trans hreader))
  exact ⟨hsame.headerRaw, hsame.hmac, voucher_deserialized_holds laws hreader⟩

theorem Carried.same (laws : ElementLaws P) {v w : OwnershipVoucher P}
    (hholds : VoucherHolds v v.contents.contents) (h : Carried v w) : SameUnderHmac v w := by
  induction h with
  | here => exact ⟨rfl, rfl, hholds⟩
  | rewritten _ written read ih =>
      have hsame := rewritten_same laws ih.holds written read
      exact ⟨hsame.headerRaw.trans ih.headerRaw, hsame.hmac.trans ih.hmac, hsame.holds⟩
  | extended _ step ih =>
      obtain ⟨hextends, _⟩ := extend_frame step
      refine ⟨(headerRaw_of_contents (hextends.contents 1 (by decide))).trans ih.headerRaw,
        hextends.hmac.trans ih.hmac, ?_⟩
      exact extend_holds ih.holds step

theorem extendToOwner_carried {ud : ManufacturingServiceUD P} {v w : OwnershipVoucher P}
    (h : extendToOwner ud v = .ok w) : Carried v w := by
  unfold extendToOwner at h
  cases hkey : ud.manufacturerKey with
  | none =>
      simp only [hkey] at h
      obtain rfl := Outcome.ok.inj h
      exact .here
  | some key =>
      simp only [hkey] at h
      obtain ⟨owner, _, h₁⟩ := Outcome.bind_eq_ok.mp h
      obtain ⟨⟨⟩, hresult, h₂⟩ := Outcome.bind_eq_ok.mp h₁
      obtain rfl := Outcome.ok.inj h₂
      exact .extended (s := ⟨key, none, owner⟩) .here
        (Prod.ext (Server.orInternal_eq_ok.mp hresult) rfl)

/-! ## DI -/

/-- One device initialization: the credentials as they are sent, what the device makes of
them, and the voucher that its HMAC is stored in. -/
structure Initialization (ud : ManufacturingServiceUD P)
    (keyReference : ManufacturingClient.KeyReference P) where
  draws : Draws
  info : Info
  msg : Di.AppStart
  header : OwnershipVoucherHeader P
  info' : Info
  started : appStart ud draws info msg = .ok (header, info')
  sent : Bytes
  written : header.serializeData = .ok sent
  ovHeader : OwnershipVoucherHeader P
  received : OwnershipVoucherHeader.deserializeData P sent = .ok ovHeader
  writeFails : Bool
  ovHeaderBuf : Bytes
  ovHeaderHmac : HMac
  credential : DeviceCredential
  taken : ManufacturingClient.takeCredentials keyReference writeFails ovHeader =
    .ok (ovHeaderBuf, ovHeaderHmac, credential)
  body : Bytes
  answered : P.setHmac.serializeData ovHeaderHmac = .ok body
  hmac : HMac
  arrived : P.setHmac.deserializeData body = .ok hmac
  later : Server.Session ManufacturingSession
  keptHeader : later.data.ovHeader = info'.session.data.ovHeader
  keptChain : later.data.deviceCertificate = info'.session.data.deviceCertificate
  guid : Guid
  ov : OwnershipVoucher P
  stored : newVoucher ud later hmac = .ok (guid, ov)

section Initialization

variable {ud : ManufacturingServiceUD P} {keyReference : ManufacturingClient.KeyReference P}

/-- What the device reads it writes as it came. -/
theorem credentials_rewritten (laws : ElementLaws P) {draws : Draws} {info info' : Info} {msg : Di.AppStart}
    {header : OwnershipVoucherHeader P} (h : appStart ud draws info msg = .ok (header, info')) :
    ∃ sent ovHeader, header.serializeData = .ok sent ∧
      OwnershipVoucherHeader.deserializeData P sent = .ok ovHeader ∧ ovHeader.serializeData = .ok sent := by
  obtain ⟨_, _, serialized, _, hstarted, _⟩ := appStart_ok h
  obtain ⟨copy, hcopy, hsame⟩ := hstarted.reads_copy laws
  exact ⟨serialized, copy, hstarted.written, hcopy, hsame.written⟩

/-- The device has a copy of the header. -/
theorem Initialization.copy (laws : ElementLaws P) (di : Initialization ud keyReference) :
    Copy di.header di.ovHeader di.sent := by
  obtain ⟨_, _, serialized, _, hstarted, _⟩ := appStart_ok di.started
  obtain rfl := Outcome.ok.inj (hstarted.written.symm.trans di.written)
  obtain ⟨copy, hcopy, hsame⟩ := hstarted.reads_copy laws
  obtain rfl := Outcome.ok.inj (hcopy.symm.trans di.received)
  exact hsame

theorem Initialization.hmac_eq (greeting : GreetingLaws P) (di : Initialization ud keyReference) :
    di.hmac = di.ovHeaderHmac := by
  have hbody := greeting.setHmac _ _ (Codec.serializeData_eq_ok.mp di.answered)
  exact Option.some.inj ((Codec.deserializeData_eq_ok.mp di.arrived).symm.trans hbody)

/-- The voucher that a session leads to after AppStart: its header is the one that was sent. -/
theorem started_voucher (laws : ElementLaws P) {draws : Draws} {session later : Server.Session ManufacturingSession}
    {msg : Di.AppStart} {header : OwnershipVoucherHeader P} {mfgInfo : String} {chain : X5Chain P}
    {serialized : Bytes} {ders : List Bytes}
    (hstarted : Started ud draws session msg header mfgInfo chain serialized ders)
    (hremembers : Remembers later serialized ders) {hmac : HMac} {guid : Guid} {ov : OwnershipVoucher P}
    (hstored : newVoucher ud later hmac = .ok (guid, ov)) :
    ov.headerRaw = .ok serialized ∧ ov.cachedHeaderHmac = hmac ∧ VoucherHolds ov ov.contents.contents ∧
      guid = header.cachedGuid := by
  obtain ⟨copy, made, hrebuilt, hguid⟩ := hstarted.rebuilt laws hremembers hstored
  have hholds := (voucher_new_holds laws hrebuilt.copied.holds hrebuilt.assembled).2.2.2
  obtain ⟨hhmac, _, bytes, c1, _, hbytes, hwrite, helement, _⟩ := voucher_new_elements hrebuilt.assembled
  obtain rfl := Outcome.ok.inj (hrebuilt.copied.contents.symm.trans hbytes)
  have hraw : made.headerRaw = .ok serialized := by
    rw [OwnershipVoucher.headerRaw, Outcome.unwrap_eq_ok]
    exact get_eq_ok.mpr ⟨c1, helement, Codec.deserializeData_eq_ok.mpr (laws.byteBuf _ _ hwrite).2⟩
  have hsame := (extendToOwner_carried hrebuilt.handedOn).same laws hholds
  exact ⟨hsame.headerRaw.trans hraw, hsame.hmac.trans hhmac, hsame.holds, hguid⟩

/-- The header of the voucher is the one that was sent. -/
theorem Initialization.voucher (laws : ElementLaws P) (di : Initialization ud keyReference) :
    di.ov.headerRaw = .ok di.sent ∧ di.ov.cachedHeaderHmac = di.hmac ∧
      VoucherHolds di.ov di.ov.contents.contents ∧ di.guid = di.header.cachedGuid := by
  obtain ⟨_, _, serialized, _, hstarted, hinfo⟩ := appStart_ok di.started
  obtain rfl := Outcome.ok.inj (hstarted.written.symm.trans di.written)
  exact started_voucher laws hstarted ⟨by rw [di.keptHeader, hinfo]; rfl, by rw [di.keptChain, hinfo]; rfl⟩ di.stored

end Initialization

/-! ## TO2 -/

theorem u16_holds (transfer : TransferLaws P) {n : Nat} (hn : n < 2 ^ 16) {raw : Bytes}
    (h : P.u16.serializeData n = .ok raw) : Holds P P.u16 n raw := by
  obtain ⟨data, hdata, hwf, hread⟩ := transfer.u16 n hn
  obtain rfl := Option.some.inj (hdata.symm.trans (Codec.serializeData_eq_ok.mp h))
  exact ⟨CborExact.bounded_to_machine P.profile hwf, hread⟩

/-- The payload of a ProveOVHdr reads back, with everything it was made of. -/
theorem payload_rereads (elements : ElementLaws P) (transfer : TransferLaws P) (greeting : GreetingLaws P)
    {ovHeader aKeyExchange bytes : Bytes} {numOvEntries : Nat} {hmac helloDeviceHash : Hash} {nonce5 : Nonce}
    {sig : SigInfo} {payload : TO2ProveOVHdrPayload}
    (hnew : TO2ProveOVHdrPayload.new P ovHeader numOvEntries hmac nonce5 sig aKeyExchange helloDeviceHash =
      .ok payload) (hbytes : payload.contents.serializeData = .ok bytes)
    (hnum : numOvEntries < 2 ^ 16) (hnonce : nonce5.value.length = 16) :
    ∃ contents, TO2ProveOVHdrPayload.deserializeData P bytes = .ok ⟨contents, ovHeader, numOvEntries, hmac, nonce5,
      sig, aKeyExchange, helloDeviceHash, maxMessageSize⟩ := by
  obtain ⟨c0, hc0, h₁⟩ := Outcome.bind_eq_ok.mp hnew
  obtain ⟨c1, hc1, h₂⟩ := Outcome.bind_eq_ok.mp h₁
  obtain ⟨c2, hc2, h₃⟩ := Outcome.bind_eq_ok.mp h₂
  obtain ⟨c3, hc3, h₄⟩ := Outcome.bind_eq_ok.mp h₃
  obtain ⟨c4, hc4, h₅⟩ := Outcome.bind_eq_ok.mp h₄
  obtain ⟨c5, hc5, h₆⟩ := Outcome.bind_eq_ok.mp h₅
  obtain ⟨c6, hc6, h₇⟩ := Outcome.bind_eq_ok.mp h₆
  obtain ⟨c7, hc7, h₈⟩ := Outcome.bind_eq_ok.mp h₇
  obtain rfl := Outcome.ok.inj h₈
  have h0 : Holds P P.byteBuf ovHeader c0 := Plain.holds elements.byteBuf hc0
  have h1 : Holds P P.u16 numOvEntries c1 := u16_holds transfer hnum hc1
  have h2 : Holds P P.hashCodec hmac c2 := Plain.holds elements.hashCodec hc2
  have h3 : Holds P P.bstr16 nonce5.value c3 := Plain.holds elements.bstr16 hc3
  have h4 : Holds P P.sigInfo sig c4 := Plain.holds greeting.sigInfo hc4
  have h5 : Holds P P.byteBuf aKeyExchange c5 := Plain.holds elements.byteBuf hc5
  have h6 : Holds P P.hashCodec helloDeviceHash c6 := Plain.holds elements.hashCodec hc6
  have h7 : Holds P P.u16 maxMessageSize c7 := u16_holds transfer (by decide) hc7
  obtain ⟨head, _, hback⟩ := deserializeData_serializeData (p := P.profile) (by intro t ht; cases ht)
    (by simp [build]) (by simp [build, h0.1, h1.1, h2.1, h3.1, h4.1, h5.1, h6.1, h7.1]) hbytes
  have hnonceRead : Nonce.deserializeData P c3 = .ok nonce5 := by
    simp [Nonce.deserializeData, Codec.deserializeData_eq_ok.mpr h3.2, checkBstr16, hnonce, Outcome.check]
  simp only [TO2ProveOVHdrPayload.deserializeData, hback, Outcome.ok_bind, build, ParsedArray.get,
    ParsedArray.getRaw, List.getElem?_cons_zero, List.getElem?_cons_succ, hnonceRead,
    Codec.deserializeData_eq_ok.mpr h0.2, Codec.deserializeData_eq_ok.mpr h1.2,
    Codec.deserializeData_eq_ok.mpr h2.2, Codec.deserializeData_eq_ok.mpr h4.2,
    Codec.deserializeData_eq_ok.mpr h5.2, Codec.deserializeData_eq_ok.mpr h6.2,
    Codec.deserializeData_eq_ok.mpr h7.2]
  exact ⟨_, rfl⟩

/-- The header and the HMAC among it. -/
theorem payload_reads (elements : ElementLaws P) (transfer : TransferLaws P) (greeting : GreetingLaws P)
    {ovHeader aKeyExchange bytes : Bytes} {numOvEntries : Nat} {hmac helloDeviceHash : Hash} {nonce5 : Nonce}
    {sig : SigInfo} {payload : TO2ProveOVHdrPayload}
    (hnew : TO2ProveOVHdrPayload.new P ovHeader numOvEntries hmac nonce5 sig aKeyExchange helloDeviceHash =
      .ok payload) (hbytes : payload.contents.serializeData = .ok bytes)
    (hnum : numOvEntries < 2 ^ 16) (hnonce : nonce5.value.length = 16) :
    ∃ payload', TO2ProveOVHdrPayload.deserializeData P bytes = .ok payload' ∧
      payload'.ovHeader = ovHeader ∧ payload'.hmac = hmac := by
  obtain ⟨contents, hread⟩ := payload_rereads elements transfer greeting hnew hbytes hnum hnonce
  exact ⟨_, hread, rfl, rfl⟩

theorem helloDevice_nonce {body : Bytes} {hello : HelloDevice}
    (h : HelloDevice.deserializeData P body = .ok hello) : hello.nonce5.value.length = 16 := by
  obtain ⟨f, _, h₁⟩ := Outcome.bind_eq_ok.mp h
  obtain ⟨_, _, h₂⟩ := Outcome.bind_eq_ok.mp h₁
  obtain ⟨_, hnonce, h₃⟩ := Outcome.bind_eq_ok.mp h₂
  obtain rfl := Outcome.ok.inj h₃
  rw [Outcome.mapErr_eq_ok] at hnonce
  exact Outcome.check_eq_ok.mp hnonce

/-- The owner proves the header of the voucher it has loaded. -/
theorem greeted_payload (elements : ElementLaws P) (transfer : TransferLaws P) (greeting : GreetingLaws P)
    {owner : OwnerServer.OwnerServiceUD P} {draws : OwnerServer.Draws P} {stores : OwnerServer.OwnerStores P}
    {info info' : OwnerServer.Info} {body : Bytes} {hello : HelloDevice} {token : COSESign P}
    {v : OwnershipVoucher P} (hbody : HelloDevice.deserializeData P body = .ok hello)
    (hloaded : stores.vouchers hello.guid = some v)
    (h : OwnerServer.helloDevice owner draws stores info hello = .ok (token, info')) :
    ∃ payload, token.getPayloadUnverified (TO2ProveOVHdrPayload.deserializeData P) = .ok payload ∧
      v.headerRaw = .ok payload.ovHeader ∧ payload.hmac = v.cachedHeaderHmac := by
  obtain ⟨_, kex, _, _, aKeyExchange, headerRaw, bytes, v', made, hgreeted⟩ := OwnerServer.helloDevice_ok h
  obtain rfl := Option.some.inj (hloaded.symm.trans hgreeted.loaded)
  obtain ⟨payload, hread, hheader, hhmac⟩ := payload_reads elements transfer greeting hgreeted.made
    hgreeted.written (Nat.mod_lt _ (by decide)) (helloDevice_nonce hbody)
  obtain ⟨resHeader, hsigned⟩ := hgreeted.signed
  refine ⟨payload, ?_, ?_, hhmac⟩
  · have hinner := greeting.coseNew (COSESign.new_inner hsigned)
    simp only [COSESign.getPayloadUnverified, hinner, Outcome.ofOption, Outcome.ok_bind, hread]
  · rw [hheader]
    exact hgreeted.read

/-- From DI to TO2 the device and the voucher have the same header bytes, so that the HMAC of
the one is found correct in the other. -/
theorem header_bytes_agree (elements : ElementLaws P) (transfer : TransferLaws P)
    (greeting : GreetingLaws P) (ud : ManufacturingServiceUD P)
    (keyReference : ManufacturingClient.KeyReference P) :
    (∀ {draws : Draws} {info info' : Info} {msg : Di.AppStart} {header : OwnershipVoucherHeader P},
      appStart ud draws info msg = .ok (header, info') → ∃ sent ovHeader,
        header.serializeData = .ok sent ∧ OwnershipVoucherHeader.deserializeData P sent = .ok ovHeader ∧
        ovHeader.serializeData = .ok sent) ∧
    ∀ di : Initialization ud keyReference, di.credential.guid = di.guid ∧
      ∀ v, Carried di.ov v → v.headerRaw = .ok di.ovHeaderBuf ∧
      ∀ {owner : OwnerServer.OwnerServiceUD P} {draws : OwnerServer.Draws P}
        {stores : OwnerServer.OwnerStores P} {info info' : OwnerServer.Info} {body : Bytes}
        {hello : HelloDevice} {token : COSESign P}, HelloDevice.deserializeData P body = .ok hello →
        stores.vouchers hello.guid = some v →
        OwnerServer.helloDevice owner draws stores info hello = .ok (token, info') →
        ∃ payload, token.getPayloadUnverified (TO2ProveOVHdrPayload.deserializeData P) = .ok payload ∧
          payload.ovHeader = di.ovHeaderBuf ∧ payload.hmac = di.ovHeaderHmac ∧
          di.credential.verifyHmac P payload.ovHeader payload.hmac = .ok () := by
  refine ⟨credentials_rewritten elements, fun di => ?_⟩
  obtain ⟨hraw, hhmac, hholds, hguid⟩ := di.voucher elements
  obtain ⟨hwritten, hcredential, hstorage⟩ := ManufacturingClient.takeCredentials_ok di.taken
  have hcopy := di.copy elements
  refine ⟨?_, fun v hcarried => ?_⟩
  · rw [hcredential, hguid, hcopy.same.guid]
  · have hsame := hcarried.same elements hholds
    have hheader : v.headerRaw = .ok di.ovHeaderBuf := by
      rw [hsame.headerRaw, hraw, ← hwritten]
      exact hcopy.written.symm
    refine ⟨hheader, ?_⟩
    intro owner draws stores info info' body hello token hbody hloaded hhello
    obtain ⟨payload, hpayload, hproved, hproof⟩ :=
      greeted_payload elements transfer greeting hbody hloaded hhello
    have hbuf : payload.ovHeader = di.ovHeaderBuf := Outcome.ok.inj (hproved.symm.trans hheader)
    have hmac : payload.hmac = di.ovHeaderHmac := by
      rw [hproof, hsame.hmac, hhmac, di.hmac_eq greeting]
    refine ⟨payload, hpayload, hbuf, hmac, ?_⟩
    rw [DeviceCredential.verifyHmac_eq_ok, hbuf, hmac]
    exact ⟨_, hstorage, rfl⟩

/-! ## A device that comes back -/

open Reference ManufacturingClient

/-- Plain DI, with one key for every device. -/
def sampleUd : ManufacturingServiceUD (reference .release) where
  interoperableKdfAvailable := true
  publicKeyStore := some fun _ => some [8, 8]
  manufacturerCert := [1, 1, 1]
  manufacturerKey := some [1, 1]
  deviceCertKey := [6, 6]
  deviceCertChain := ⟨[[6, 6, 6]]⟩
  ownerCert := some (sampleKey 2)
  rendezvousInfo := [[[1], [2]]]
  enableDi := true
  diunConfiguration := none

def sampleDraws : Draws where
  kex := ⟨fun _ => none, fun _ => none, fun _ => none⟩
  guid := some (.repeated 7)
  serial := some [7]
  now := 0
  loadDataFails := false
  storeDataFails := false

def sampleInfo : Info := ⟨⟨"a", none, none, default⟩, some "a", ⟨.sha256, []⟩, false⟩

def sampleReference : KeyReference (reference .release) := .fileSystem [8, 8] [0x5e]

def sampleOwner : OwnerServer.OwnerServiceUD (reference .release) := ⟨[2, 1], sampleKey 2, [4, 1], sampleKey 4, true⟩

def sampleOwnerDraws : OwnerServer.Draws (reference .release) where
  nonce := some (.repeated 1)
  guid := none
  kex := ⟨fun _ => some [1], fun _ => some [1], fun n => some (List.replicate n 1)⟩
  serviceInfoApi _ _ := none
  loadDataFails := false
  storeMetadataFails := false

def sampleOwnerInfo : OwnerServer.Info := ⟨⟨"b", none, none, default⟩, some "b", ⟨.sha256, []⟩, false⟩

/-- From the first message of the device to the greeting of a new owner. -/
def sampleGreeting : Outcome String (COSESign (reference .release) × OwnerServer.Info) := do
  let msg ← context "" (Di.AppStart.new (reference .release) "device")
  let (header, info') ← context "" (appStart sampleUd sampleDraws sampleInfo msg)
  let sent ← context "" header.serializeData
  let ovHeader ← context "" (OwnershipVoucherHeader.deserializeData (reference .release) sent)
  let (_, hmac, credential) ← takeCredentials sampleReference false ovHeader
  let body ← context "" ((reference .release).setHmac.serializeData hmac)
  let hmac ← context "" ((reference .release).setHmac.deserializeData body)
  let (_, ov) ← context "" (newVoucher sampleUd info'.session hmac)
  let data ← context "" ov.serializeData
  let v ← context "" (OwnershipVoucher.deserializeData (reference .release) data)
  let hello ← context "" ((HelloDevice.new credential.guid ⟨List.replicate 16 5⟩ .ecdh256 .a128Gcm
    ⟨.stSECP256R1, []⟩).serializeData (reference .release))
  let hello ← context "" (HelloDevice.deserializeData (reference .release) hello)
  context "" (OwnerServer.helloDevice sampleOwner sampleOwnerDraws ⟨fun _ => some v, fun _ => false⟩
    sampleOwnerInfo hello)

theorem header_bytes_agree_sample : ∃ (di : Initialization sampleUd sampleReference)
    (v : OwnershipVoucher (reference .release)) (token : COSESign (reference .release))
    (info' : OwnerServer.Info) (hello : HelloDevice) (payload : TO2ProveOVHdrPayload), Carried di.ov v ∧
    OwnerServer.helloDevice sampleOwner sampleOwnerDraws ⟨fun _ => some v, fun _ => false⟩ sampleOwnerInfo
      hello = .ok (token, info') ∧
    token.getPayloadUnverified (TO2ProveOVHdrPayload.deserializeData (reference .release)) = .ok payload ∧
    di.credential.verifyHmac (reference .release) payload.ovHeader payload.hmac = .ok () := by
  have hrun : sampleGreeting.isOk = true := by decide +kernel
  obtain ⟨⟨token, ownerInfo⟩, h⟩ := Outcome.isOk_iff.mp hrun
  obtain ⟨msg, _, h₁⟩ := Outcome.bind_eq_ok.mp h
  obtain ⟨⟨header, info'⟩, hstart, h₂⟩ := Outcome.bind_eq_ok.mp h₁
  obtain ⟨sent, hsent, h₃⟩ := Outcome.bind_eq_ok.mp h₂
  obtain ⟨ovHeader, hreceived, h₄⟩ := Outcome.bind_eq_ok.mp h₃
  obtain ⟨⟨buf, hmac, credential⟩, htaken, h₅⟩ := Outcome.bind_eq_ok.mp h₄
  obtain ⟨body, hbody, h₆⟩ := Outcome.bind_eq_ok.mp h₅
  obtain ⟨hmac', harrived, h₇⟩ := Outcome.bind_eq_ok.mp h₆
  obtain ⟨⟨guid, ov⟩, hstored, h₈⟩ := Outcome.bind_eq_ok.mp h₇
  obtain ⟨data, hdata, h₉⟩ := Outcome.bind_eq_ok.mp h₈
  obtain ⟨v, hv, h₁₀⟩ := Outcome.bind_eq_ok.mp h₉
  obtain ⟨helloBody, _, h₁₁⟩ := Outcome.bind_eq_ok.mp h₁₀
  obtain ⟨hello, hhello, hgreeted⟩ := Outcome.bind_eq_ok.mp h₁₁
  rw [context_eq_ok] at hstart hsent hreceived hbody harrived hstored hdata hv hhello hgreeted
  let di : Initialization sampleUd sampleReference :=
    { draws := sampleDraws, info := sampleInfo, msg, header, info', started := hstart, sent
      written := hsent, ovHeader, received := hreceived, writeFails := false, ovHeaderBuf := buf
      ovHeaderHmac := hmac, credential, taken := htaken, body, answered := hbody, hmac := hmac'
      arrived := harrived, later := info'.session, keptHeader := rfl, keptChain := rfl, guid, ov
      stored := hstored }
  have hcarried : Carried di.ov v := .rewritten .here hdata hv
  have hagree := (header_bytes_agree (elementLaws .release) (transferLaws .release) (greetingLaws .release)
    sampleUd sampleReference).2 di
  obtain ⟨payload, hpayload, _, _, hverify⟩ := (hagree.2 v hcarried).2 hhello rfl hgreeted
  exact ⟨di, v, token, ownerInfo, hello, payload, hcarried, hgreeted, hpayload, hverify⟩

end FidoOnboard.HeaderAgreement
