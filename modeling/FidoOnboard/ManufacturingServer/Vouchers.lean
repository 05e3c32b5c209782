import FidoOnboard.DataFormats.VoucherRoundTrip
import FidoOnboard.ManufacturingServer.Handlers

/-!
# From AppStart to a stored voucher

AppStart leaves the header in the session as text and the certificates as bytes.
SetHMAC reads both back and finds what AppStart made.
-/
namespace FidoOnboard.ManufacturingServer
open CborParser CborGrammar CborRoundTrip Server VoucherExtend VoucherRoundTrip

variable {P : Platform} {ud : ManufacturingServiceUD P} {draws : Draws}
  {session : Session ManufacturingSession} {msg : Di.AppStart} {header : OwnershipVoucherHeader P}
  {mfgInfo : String} {chain : X5Chain P} {serialized : Bytes} {ders : List Bytes}

/-! ## The header that AppStart makes -/

/-- The fields that are not configuration, and the bytes the chain is hashed from. -/
structure Issued (header : OwnershipVoucherHeader P) (chain : X5Chain P) (draw : Random16)
    (chainHash : Hash) : Prop where
  guid : header.cachedGuid = ⟨draw.val⟩
  recorded : header.cachedDeviceCertificateChainHash = some chainHash
  hashed : ∃ bytes, chainBytes chain = .ok bytes ∧ Hash.fromData P .sha384 bytes = .ok chainHash
  holds : HeaderHolds header header.contents.contents

theorem newVoucherHeader_issued (laws : ElementLaws P)
    (h : newVoucherHeader ud draws mfgInfo chain = .ok header) :
    ∃ draw chainHash, Issued header chain draw chainHash := by
  obtain ⟨bytes, hbytes, h₁⟩ := Outcome.bind_eq_ok.mp h
  obtain ⟨chainHash, hhash, h₂⟩ := Outcome.bind_eq_ok.mp h₁
  obtain ⟨guid, hguid, h₃⟩ := Outcome.bind_eq_ok.mp h₂
  obtain ⟨key, hkey, hnew⟩ := Outcome.bind_eq_ok.mp h₃
  obtain ⟨draw, _, hdraw⟩ := Outcome.bind_eq_ok.mp hguid
  obtain rfl := Outcome.ok.inj hdraw
  obtain ⟨hcached, _, hchain, _, hholds⟩ := header_new_holds laws (.ofX509 hkey) hnew
  exact ⟨draw, chainHash, hcached, hchain, ⟨bytes, hbytes, hhash⟩, hholds⟩

/-- Writing a header takes the check that reading it makes. -/
theorem header_written (h : header.serializeData = .ok serialized) :
    checkDeviceInfo header.cachedDeviceInfo = .ok () ∧ header.contents.serializeData = .ok serialized := by
  obtain ⟨_, hcheck, hcontents⟩ := Outcome.bind_eq_ok.mp h
  exact ⟨hcheck, hcontents⟩

/-- A header with the same fields and the same bytes. -/
structure Copy (header header' : OwnershipVoucherHeader P) (serialized : Bytes) : Prop where
  same : SameHeader header header'
  holds : HeaderHolds header' header'.contents.contents
  contents : header'.contents.serializeData = .ok serialized
  written : header'.serializeData = .ok serialized

/-- Whoever reads what AppStart wrote has a copy of the header. -/
theorem Started.reads_copy (laws : ElementLaws P)
    (h : Started ud draws session msg header mfgInfo chain serialized ders) :
    ∃ header', OwnershipVoucherHeader.deserializeData P serialized = .ok header' ∧
      Copy header header' serialized := by
  obtain ⟨draw, chainHash, hissued⟩ := newVoucherHeader_issued laws h.issued
  obtain ⟨hcheck, hcontents⟩ := header_written h.written
  have hreadable : HeaderReadable header := by
    refine ⟨?_, hcheck, ?_⟩
    · rw [hissued.guid]
      exact draw.property
    · rw [hissued.recorded]
      rfl
  obtain ⟨header', hread, hsame⟩ := header_reads hissued.holds hcontents hreadable
  have hrewritten := header_rewritten hissued.holds hcontents hreadable hread
  refine ⟨header', hread, hsame, (header_deserialized_holds laws hread).2, hrewritten, ?_⟩
  rw [OwnershipVoucherHeader.serializeData, hsame.deviceInfo, hcheck]
  exact hrewritten

/-! ## What SetHMAC finds -/

/-- The entries that AppStart wrote to its session. -/
structure Remembers (session : Session ManufacturingSession) (serialized : Bytes) (ders : List Bytes) :
    Prop where
  ovHeader : session.data.ovHeader = some (String.ofList (Hex.encode serialized))
  deviceCertificate : session.data.deviceCertificate = some ders

theorem Remembers.sessionHeader (h : Remembers session serialized ders) :
    sessionHeader P session =
      orInternal Di.setHmac (OwnershipVoucherHeader.deserializeData P serialized) := by
  simp only [ManufacturingServer.sessionHeader, h.ovHeader, Outcome.ofOption, Outcome.ok_bind,
    String.toList_ofList, Hex.decode_encode]

theorem Remembers.sessionChain (laws : ElementLaws P) (h : Remembers session serialized ders)
    (hders : chain.toDer = some ders) : sessionChain P session = .ok chain := by
  simp only [ManufacturingServer.sessionChain, h.deviceCertificate, Option.bind_some,
    X5Chain.ofDer_toDer laws hders, Outcome.ofOption]

theorem extendToOwner_extends {v v' : OwnershipVoucher P} (h : extendToOwner ud v = .ok v') :
    Extends v v' := by
  unfold extendToOwner at h
  cases hkey : ud.manufacturerKey with
  | none =>
      simp only [hkey] at h
      obtain rfl := Outcome.ok.inj h
      exact Extends.refl v
  | some key =>
      simp only [hkey] at h
      obtain ⟨owner, _, h₁⟩ := Outcome.bind_eq_ok.mp h
      obtain ⟨⟨⟩, hresult, h₂⟩ := Outcome.bind_eq_ok.mp h₁
      obtain rfl := Outcome.ok.inj h₂
      exact (extend_frame (s := ⟨key, none, owner⟩) (Prod.ext (orInternal_eq_ok.mp hresult) rfl)).1

/-- The elements of a new voucher that hold its header and its chain. -/
theorem voucher_new_elements {hmac : HMac} {chain : Option (X5Chain P)} {v : OwnershipVoucher P}
    (h : OwnershipVoucher.new header hmac chain = .ok v) : v.cachedHeaderHmac = hmac ∧
      v.cachedDeviceCertificateChain = chain ∧ ∃ bytes c1 c3,
      header.contents.serializeData = .ok bytes ∧ P.byteBuf.intoWriter bytes = some c1 ∧
      v.contents.contents[1]? = some c1 ∧ OptionX5Chain.serializeData chain = .ok c3 ∧
      v.contents.contents[3]? = some c3 := by
  obtain ⟨bytes, hbytes, h₁⟩ := Outcome.bind_eq_ok.mp h
  obtain ⟨c0, _, h₂⟩ := Outcome.bind_eq_ok.mp h₁
  obtain ⟨c1, hc1, h₃⟩ := Outcome.bind_eq_ok.mp h₂
  obtain ⟨c2, _, h₄⟩ := Outcome.bind_eq_ok.mp h₃
  obtain ⟨c3, hc3, h₅⟩ := Outcome.bind_eq_ok.mp h₄
  obtain ⟨c4, _, h₆⟩ := Outcome.bind_eq_ok.mp h₅
  obtain rfl := Outcome.ok.inj h₆
  exact ⟨rfl, rfl, bytes, c1, c3, hbytes, Codec.serializeData_eq_ok.mp hc1, rfl, hc3, rfl⟩

/-- The voucher that SetHMAC makes of what AppStart left. -/
structure Rebuilt (ud : ManufacturingServiceUD P) (ov : OwnershipVoucher P)
    (header : OwnershipVoucherHeader P) (chain : X5Chain P) (serialized : Bytes) (hmac : HMac)
    (copy : OwnershipVoucherHeader P) (made : OwnershipVoucher P) : Prop where
  copied : Copy header copy serialized
  assembled : OwnershipVoucher.new copy hmac (some chain) = .ok made
  handedOn : extendToOwner ud made = .ok ov

theorem Rebuilt.extended {ov : OwnershipVoucher P} {hmac : HMac} {copy : OwnershipVoucherHeader P}
    {made : OwnershipVoucher P} (h : Rebuilt ud ov header chain serialized hmac copy made) :
    Extends made ov :=
  extendToOwner_extends h.handedOn

theorem Started.rebuilt (laws : ElementLaws P)
    (h : Started ud draws session msg header mfgInfo chain serialized ders)
    {later : Session ManufacturingSession} (hremembers : Remembers later serialized ders) {hmac : HMac}
    {guid : Guid} {ov : OwnershipVoucher P} (hnew : newVoucher ud later hmac = .ok (guid, ov)) :
    ∃ copy made, Rebuilt ud ov header chain serialized hmac copy made ∧ guid = header.cachedGuid := by
  obtain ⟨readHeader, readChain, made, hbuilt⟩ := newVoucher_ok hnew
  obtain ⟨copy, hcopy, hsame⟩ := h.reads_copy laws
  obtain rfl : readHeader = copy := by
    have := hbuilt.headerRead
    rw [hremembers.sessionHeader, hcopy] at this
    exact (Outcome.ok.inj this).symm
  obtain rfl : readChain = chain := by
    have := hbuilt.chainRead
    rw [hremembers.sessionChain laws h.encoded] at this
    exact (Outcome.ok.inj this).symm
  refine ⟨readHeader, made, ⟨hsame, hbuilt.assembled, hbuilt.extended⟩, ?_⟩
  rw [hbuilt.named, hsame.same.guid]

/-! ## The hash of the chain -/

/-- Every string grows when it is written. -/
theorem byteStrings_length {items : List Bytes} (h : List.Forall₂ ByteString ders items) :
    ders.flatten.length ≤ items.flatten.length := by
  induction h with
  | nil => exact Nat.le_refl _
  | cons hitem _ ih =>
      obtain ⟨head, _, rfl⟩ := hitem
      simp only [List.flatten_cons, List.length_append]
      omega

/-- The element of the voucher is longer than what AppStart hashes. -/
theorem chain_longer (chains : ChainLaws P) {raw : Bytes}
    (hwrite : P.optionCertificates.intoWriter (some ders) = some raw) :
    ders.flatten.length < raw.length := by
  obtain ⟨head, items, ⟨info, bs, rfl, _⟩, hitems, rfl⟩ := chains.optionCertificates hwrite
  have := byteStrings_length hitems
  simp only [List.length_append, List.length_cons]
  omega

theorem chainBytes_flatten {bytes : Bytes} (hders : chain.toDer = some ders)
    (h : chainBytes chain = .ok bytes) : bytes = ders.flatten := by
  obtain ⟨ders', hders', h₁⟩ := Outcome.bind_eq_ok.mp h
  obtain rfl : ders' = ders := Option.some.inj ((Outcome.ofOption_eq_ok.mp hders').symm.trans hders)
  exact (Outcome.ok.inj h₁).symm

theorem fromData_sha384_injective (injective : ∀ {a b : Bytes}, P.hash .sha384 a = P.hash .sha384 b → a = b)
    {a b : Bytes} {h : Hash} (ha : Hash.fromData P .sha384 a = .ok h)
    (hb : Hash.fromData P .sha384 b = .ok h) : a = b := by
  obtain ⟨htype, md, hmd, hdigest⟩ := Hash.fromData_eq_ok.mp ha
  obtain ⟨_, md', hmd', hdigest'⟩ := Hash.fromData_eq_ok.mp hb
  rw [htype] at hmd hmd'
  cases hmd
  cases hmd'
  exact injective (hdigest.trans hdigest'.symm)

/-- What the voucher answers is the hash of its fourth element as it was written. -/
theorem Rebuilt.chain_hash {ov : OwnershipVoucher P} {hmac : HMac} {copy : OwnershipVoucherHeader P}
    {made : OwnershipVoucher P} (h : Rebuilt ud ov header chain serialized hmac copy made)
    (hders : chain.toDer = some ders) :
    ∃ raw, P.optionCertificates.intoWriter (some ders) = some raw ∧
      ov.deviceCertificateChainHash .sha384 = some (Hash.fromData P .sha384 raw) := by
  obtain ⟨_, hchain, _, _, raw, _, _, _, hraw, helement⟩ := voucher_new_elements h.assembled
  obtain ⟨ders', hders', hwrite⟩ := Outcome.bind_eq_ok.mp hraw
  obtain rfl : ders' = ders := Option.some.inj ((Outcome.ofOption_eq_ok.mp hders').symm.trans hders)
  refine ⟨raw, Codec.serializeData_eq_ok.mp hwrite, ?_⟩
  rw [← h.extended.contents 3 (by decide)] at helement
  rw [OwnershipVoucher.deviceCertificateChainHash, h.extended.chain, hchain]
  simp only [Option.isNone_some, Bool.false_eq_true, if_false, ParsedArray.getHash,
    VoucherChain.getRaw_eq_ok.mpr helement, Outcome.ok_bind]

/-- The hash of the chain in the header is never the one the voucher answers: AppStart hashes
the certificates one after the other, the voucher its CBOR array of them. -/
theorem chain_hash_disagrees (elements : ElementLaws P) (chains : ChainLaws P)
    (injective : ∀ {a b : Bytes}, P.hash .sha384 a = P.hash .sha384 b → a = b) {info info' : Info}
    (hstart : appStart ud draws info msg = .ok (header, info')) {later : Session ManufacturingSession}
    (hheader : later.data.ovHeader = info'.session.data.ovHeader)
    (hchain : later.data.deviceCertificate = info'.session.data.deviceCertificate) {hmac : HMac}
    {guid : Guid} {ov : OwnershipVoucher P} (hnew : newVoucher ud later hmac = .ok (guid, ov)) :
    ∃ chainHash, header.cachedDeviceCertificateChainHash = some chainHash ∧
      ov.header.cachedDeviceCertificateChainHash = some chainHash ∧
      ov.deviceCertificateChainHash .sha384 ≠ some (.ok chainHash) := by
  obtain ⟨mfgInfo, chain, serialized, ders, hstarted, rfl⟩ := appStart_ok hstart
  obtain ⟨copy, made, hrebuilt, _⟩ := hstarted.rebuilt elements ⟨hheader, hchain⟩ hnew
  obtain ⟨draw, chainHash, hissued⟩ := newVoucherHeader_issued elements hstarted.issued
  obtain ⟨raw, hwrite, hanswer⟩ := hrebuilt.chain_hash hstarted.encoded
  have hholds := voucher_new_holds elements hrebuilt.copied.holds hrebuilt.assembled
  refine ⟨chainHash, hissued.recorded, ?_, ?_⟩
  · rw [OwnershipVoucher.header, hrebuilt.extended.header, hholds.1, hrebuilt.copied.same.chainHash,
      hissued.recorded]
  · intro hagrees
    obtain ⟨bytes, hbytes, hhash⟩ := hissued.hashed
    have hsame := fromData_sha384_injective injective hhash (Option.some.inj (hanswer.symm.trans hagrees))
    have hlonger := chain_longer chains hwrite
    rw [← hsame, chainBytes_flatten hstarted.encoded hbytes] at hlonger
    exact Nat.lt_irrefl _ hlonger

section HashSample

open Reference

/-- Hashing without collisions: the hash is the data. -/
def collisionFree : Platform := { reference .release with hash := fun _ data => some data }

theorem collisionFree_elementLaws : ElementLaws collisionFree where
  protocolVersion := (elementLaws .release).protocolVersion
  byteBuf := (elementLaws .release).byteBuf
  bstr16 := (elementLaws .release).bstr16
  text := (elementLaws .release).text
  rendezvousInfo := (elementLaws .release).rendezvousInfo
  publicKeyFields := (elementLaws .release).publicKeyFields
  hashCodec := (elementLaws .release).hashCodec
  optionHash := (elementLaws .release).optionHash
  certificates := (elementLaws .release).certificates
  optionCertificates := (elementLaws .release).optionCertificates
  x509_der := (elementLaws .release).x509_der
  publicKey_der := (elementLaws .release).publicKey_der

theorem collisionFree_chainLaws : ChainLaws collisionFree :=
  ⟨(chainLaws .release).optionCertificates⟩

theorem collisionFree_injective {a b : Bytes}
    (h : collisionFree.hash .sha384 a = collisionFree.hash .sha384 b) : a = b :=
  Option.some.inj h

/-- Plain DI, with one key for every device. -/
def plainUd : ManufacturingServiceUD collisionFree where
  interoperableKdfAvailable := true
  publicKeyStore := some fun _ => some [8, 8]
  manufacturerCert := [1, 1, 1]
  manufacturerKey := none
  deviceCertKey := [6, 6]
  deviceCertChain := ⟨[[6, 6, 6]]⟩
  ownerCert := none
  rendezvousInfo := []
  enableDi := true
  diunConfiguration := none

def plainDraws : Draws where
  kex := ⟨fun _ => none, fun _ => none, fun _ => none⟩
  guid := some (.repeated 7)
  serial := some [7]
  now := 0
  loadDataFails := false
  storeDataFails := false

def plainInfo : Info := ⟨⟨"a", none, none, default⟩, some "a", ⟨.sha256, []⟩, false⟩

/-- AppStart of "device" on a new session, and the voucher made of it. -/
def plainVoucher : Outcome Rejection (Di.AppStart × OwnershipVoucherHeader collisionFree × Info × Guid ×
    OwnershipVoucher collisionFree) := do
  let msg ← orInternal Di.appStart (Di.AppStart.new collisionFree "device")
  let (header, info) ← appStart plainUd plainDraws plainInfo msg
  let (guid, ov) ← newVoucher plainUd info.session ⟨.hmacSha384, [1]⟩
  .ok (msg, header, info, guid, ov)

theorem plainVoucher_ok {msg : Di.AppStart} {header : OwnershipVoucherHeader collisionFree} {info : Info}
    {guid : Guid} {ov : OwnershipVoucher collisionFree}
    (h : plainVoucher = .ok (msg, header, info, guid, ov)) :
    appStart plainUd plainDraws plainInfo msg = .ok (header, info) ∧
      newVoucher plainUd info.session ⟨.hmacSha384, [1]⟩ = .ok (guid, ov) := by
  obtain ⟨msg', _, h₁⟩ := Outcome.bind_eq_ok.mp h
  obtain ⟨⟨header', info'⟩, hstart, h₂⟩ := Outcome.bind_eq_ok.mp h₁
  obtain ⟨⟨guid', ov'⟩, hnew, h₃⟩ := Outcome.bind_eq_ok.mp h₂
  cases h₃
  exact ⟨hstart, hnew⟩

theorem chain_hash_disagrees_sample : ∃ msg header info guid ov,
    appStart plainUd plainDraws plainInfo msg = .ok (header, info) ∧
      newVoucher plainUd info.session ⟨.hmacSha384, [1]⟩ = .ok (guid, ov) ∧
      ∃ chainHash, header.cachedDeviceCertificateChainHash = some chainHash ∧
        ov.header.cachedDeviceCertificateChainHash = some chainHash ∧
        ov.deviceCertificateChainHash .sha384 ≠ some (.ok chainHash) := by
  have hok : plainVoucher.isOk = true := by decide +kernel
  obtain ⟨⟨msg, header, info, guid, ov⟩, h⟩ := Outcome.isOk_iff.mp hok
  obtain ⟨hstart, hnew⟩ := plainVoucher_ok h
  exact ⟨msg, header, info, guid, ov, hstart, hnew, chain_hash_disagrees collisionFree_elementLaws
    collisionFree_chainLaws collisionFree_injective hstart rfl rfl hnew⟩

/-- Two certificates of three bytes each. -/
def plainChain : Hash := ⟨.sha384, [6, 8, 8, 6, 6, 6]⟩

/-- The same two as an array of byte strings. -/
def plainChainArray : Hash := ⟨.sha384, [0x82, 0x43, 6, 8, 8, 0x43, 6, 6, 6]⟩

theorem chain_hashes_differ : ∃ msg header info guid ov,
    appStart plainUd plainDraws plainInfo msg = .ok (header, info) ∧
      newVoucher plainUd info.session ⟨.hmacSha384, [1]⟩ = .ok (guid, ov) ∧
      header.cachedDeviceCertificateChainHash = some plainChain ∧
      ov.deviceCertificateChainHash .sha384 = some (.ok plainChainArray) ∧
      plainChain ≠ plainChainArray := by
  have hok : (do
      let (_, header, _, _, ov) ← plainVoucher
      Outcome.check (header.cachedDeviceCertificateChainHash = some plainChain ∧
        ov.deviceCertificateChainHash .sha384 = some (Outcome.ok plainChainArray))
          Rejection.notFound).isOk = true := by
    decide +kernel
  obtain ⟨_, h⟩ := Outcome.isOk_iff.mp hok
  obtain ⟨⟨msg, header, info, guid, ov⟩, hvoucher, hcheck⟩ := Outcome.bind_eq_ok.mp h
  obtain ⟨hstart, hnew⟩ := plainVoucher_ok hvoucher
  obtain ⟨hheader, hvoucher⟩ := Outcome.check_eq_ok.mp hcheck
  exact ⟨msg, header, info, guid, ov, hstart, hnew, hheader, hvoucher, by decide⟩

end HashSample

end FidoOnboard.ManufacturingServer
