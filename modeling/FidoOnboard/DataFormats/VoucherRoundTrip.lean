import FidoOnboard.DataFormats.VoucherExtend

/-!
# Vouchers read back

The constructors take optional fields, any guid and any device info; the decoder
takes no `null`, only guids of sixteen bytes and only printable device info.
What is written is read back exactly when it stays within what the decoder takes.
-/
namespace FidoOnboard.VoucherRoundTrip
open CborParser CborGrammar CborRoundTrip VoucherChain VoucherExtend

variable {P : Platform}

/-! ## Headers -/

/-- What the decoder of a header asks for beyond the types of its fields. -/
structure HeaderReadable (h : OwnershipVoucherHeader P) : Prop where
  guid : h.cachedGuid.value.length = 16
  deviceInfo : checkDeviceInfo h.cachedDeviceInfo = .ok ()
  chainHash : h.cachedDeviceCertificateChainHash.isSome = true

structure SameHeader (h h' : OwnershipVoucherHeader P) : Prop where
  protocolVersion : h'.cachedProtocolVersion = h.cachedProtocolVersion
  guid : h'.cachedGuid = h.cachedGuid
  rendezvousInfo : h'.cachedRendezvousInfo = h.cachedRendezvousInfo
  deviceInfo : h'.cachedDeviceInfo = h.cachedDeviceInfo
  manufacturerPublicKey : h'.cachedManufacturerPublicKey = h.cachedManufacturerPublicKey
  chainHash : h'.cachedDeviceCertificateChainHash = h.cachedDeviceCertificateChainHash

/-- A raw element that the parser takes and that holds `value`. -/
def Holds {α : Type} (P : Platform) (c : Codec α) (value : α) (raw : Bytes) : Prop :=
  WellFormed (.machine P.profile) raw ∧ c.fromSlice raw = some value

/-- The same for an optional value, which may stand there as `null`. -/
def HoldsOption {α : Type} (P : Platform) (c : Codec (Option α)) (value : Option α) (raw : Bytes) :
    Prop :=
  c.fromSlice raw = some value ∧
    if value.isSome then WellFormed (.machine P.profile) raw else raw = [0xf6]

/-- The elements of the header hold what is cached. -/
inductive HeaderHolds (h : OwnershipVoucherHeader P) : List Bytes → Prop
  | mk {c0 c1 c2 c3 c4 c5 : Bytes} :
      Holds P P.protocolVersion h.cachedProtocolVersion c0 →
      Holds P P.bstr16 h.cachedGuid.value c1 →
      Holds P P.rendezvousInfo h.cachedRendezvousInfo c2 →
      Holds P P.text h.cachedDeviceInfo c3 →
      Holds P P.publicKeyFields h.cachedManufacturerPublicKey.toPublicKeyFields c4 →
      h.cachedManufacturerPublicKey.Reparses →
      HoldsOption P P.optionHash h.cachedDeviceCertificateChainHash c5 →
      HeaderHolds h [c0, c1, c2, c3, c4, c5]

theorem Plain.holds {α : Type} {c : Codec α} (h : c.Plain) {value : α} {raw : Bytes}
    (hw : c.serializeData value = .ok raw) : Holds P c value raw := by
  obtain ⟨hwf, hread⟩ := h value raw (Codec.serializeData_eq_ok.mp hw)
  exact ⟨CborExact.bounded_to_machine P.profile hwf, hread⟩

theorem PlainOption.holds {α : Type} {c : Codec (Option α)} (h : c.PlainOption) {value : Option α}
    {raw : Bytes} (hw : c.serializeData value = .ok raw) : HoldsOption P c value raw := by
  rw [Codec.serializeData_eq_ok] at hw
  cases value with
  | none =>
      obtain ⟨rfl, hread⟩ := h.absent raw hw
      exact ⟨hread, rfl⟩
  | some a =>
      obtain ⟨hwf, hread⟩ := h.present a raw hw
      exact ⟨hread, CborExact.bounded_to_machine P.profile hwf⟩

theorem header_new_holds (laws : ElementLaws P) {version : ProtocolVersion} {guid : Guid}
    {rendezvousInfo : P.RendezvousInfo} {deviceInfo : String} {key : PublicKey P}
    {chainHash : Option Hash} {h : OwnershipVoucherHeader P} (hkey : key.Made)
    (hnew : OwnershipVoucherHeader.new version guid rendezvousInfo deviceInfo key chainHash = .ok h) :
    h.cachedGuid = guid ∧ h.cachedDeviceInfo = trim deviceInfo ∧
      h.cachedDeviceCertificateChainHash = chainHash ∧ h.contents.tag = none ∧
      HeaderHolds h h.contents.contents := by
  obtain ⟨c0, hc0, h₁⟩ := Outcome.bind_eq_ok.mp hnew
  obtain ⟨c1, hc1, h₂⟩ := Outcome.bind_eq_ok.mp h₁
  obtain ⟨c2, hc2, h₃⟩ := Outcome.bind_eq_ok.mp h₂
  obtain ⟨c3, hc3, h₄⟩ := Outcome.bind_eq_ok.mp h₃
  obtain ⟨c4, hc4, h₅⟩ := Outcome.bind_eq_ok.mp h₄
  obtain ⟨c5, hc5, h₆⟩ := Outcome.bind_eq_ok.mp h₅
  obtain rfl := Outcome.ok.inj h₆
  exact ⟨rfl, rfl, rfl, rfl, .mk (Plain.holds laws.protocolVersion hc0) (Plain.holds laws.bstr16 hc1)
    (Plain.holds laws.rendezvousInfo hc2) (Plain.holds laws.text hc3)
    (Plain.holds laws.publicKeyFields hc4) (hkey.reparses laws) (PlainOption.holds laws.optionHash hc5)⟩

/-- Whatever was parsed as an array consists of items. -/
theorem deserializeData_items {p : Profile} {N : ParsedArraySize} {data : Bytes} {a : ParsedArray N}
    (h : ParsedArray.deserializeData p N data = .ok a) :
    ∀ x ∈ a.contents, WellFormed (.machine p) x := by
  obtain ⟨⟨a', rest⟩, hread, ha⟩ := Outcome.bind_eq_ok.mp h
  obtain rfl := Outcome.ok.inj ha
  obtain ⟨_, _, _, _, _, _, hitems⟩ := CborCorrect.deserializeFromReader_ok_iff.mp hread
  exact hitems

theorem six_elements (a : ParsedArray size6) :
    ∃ c0 c1 c2 c3 c4 c5, a.contents = [c0, c1, c2, c3, c4, c5] := by
  have hlen : a.contents.length = 6 := a.sized 6 rfl
  match a.contents, hlen with
  | [c0, c1, c2, c3, c4, c5], _ => exact ⟨c0, c1, c2, c3, c4, c5, rfl⟩

theorem header_deserialized_holds (laws : ElementLaws P) {data : Bytes} {h : OwnershipVoucherHeader P}
    (hdec : OwnershipVoucherHeader.deserializeData P data = .ok h) :
    HeaderReadable h ∧ HeaderHolds h h.contents.contents := by
  obtain ⟨contents, hparse, hof⟩ := Outcome.bind_eq_ok.mp hdec
  have hitems := deserializeData_items hparse
  obtain ⟨rfl, hversion, hguid, hinfo, htext, hcheck, hkey, hhash⟩ :=
    OwnershipVoucherHeader.ofArray_eq_ok.mp hof
  obtain ⟨c0, c1, c2, c3, c4, c5, hc⟩ := six_elements h.contents
  simp only [get_eq_ok, hc, List.getElem?_cons_zero, List.getElem?_cons_succ, Option.some.injEq,
    exists_eq_left', Codec.deserializeData_eq_ok, Guid.deserializeData_eq_ok,
    PublicKey.deserializeData_eq_ok] at hversion hguid hinfo htext hkey hhash
  simp only [hc, List.mem_cons, List.not_mem_nil, or_false, forall_eq_or_imp, forall_eq] at hitems
  obtain ⟨w0, w1, w2, w3, w4, w5⟩ := hitems
  have hsome : h.cachedDeviceCertificateChainHash.isSome = true := by
    cases hcached : h.cachedDeviceCertificateChainHash with
    | some hash => rfl
    | none =>
        rw [hcached] at hhash
        have hnull := laws.optionHash.null c5 hhash
        exact absurd (by rw [hnull]; rfl) w5.head_ne_null
  refine ⟨⟨hguid.2, hcheck, hsome⟩, ?_⟩
  rw [hc]
  exact .mk ⟨w0, hversion⟩ ⟨w1, hguid.1⟩ ⟨w2, hinfo⟩ ⟨w3, htext⟩ ⟨w4, hkey.1⟩ hkey.2
    ⟨hhash, by rwa [if_pos hsome]⟩

theorem HeaderHolds.items {h : OwnershipVoucherHeader P} {raw : List Bytes} (hholds : HeaderHolds h raw)
    (hsome : h.cachedDeviceCertificateChainHash.isSome = true) :
    ∀ x ∈ raw, WellFormed (.machine P.profile) x := by
  cases hholds with
  | mk h0 h1 h2 h3 h4 _ h5 =>
      have w5 := h5.2
      rw [if_pos hsome] at w5
      simp [h0.1, h1.1, h2.1, h3.1, h4.1, w5]

/-- The elements of `h` under another head, read as a header: the cached fields are those of `h`. -/
theorem HeaderHolds.ofArray {h h' : OwnershipVoucherHeader P} (contents : ParsedArray size6)
    (hholds : HeaderHolds h contents.contents) :
    OwnershipVoucherHeader.ofArray P contents = .ok h' ↔ h'.contents = contents ∧ SameHeader h h' ∧
      h.cachedGuid.value.length = 16 ∧ checkDeviceInfo h.cachedDeviceInfo = .ok () := by
  rw [OwnershipVoucherHeader.ofArray_eq_ok]
  generalize hc : contents.contents = raw at hholds
  cases hholds with
  | mk h0 h1 h2 h3 h4 hkey h5 =>
      simp only [get_eq_ok, hc, List.getElem?_cons_zero, List.getElem?_cons_succ, Option.some.injEq,
        exists_eq_left', Codec.deserializeData_eq_ok, Guid.deserializeData_eq_ok,
        PublicKey.deserializeData_eq_ok, h0.2, h1.2, h2.2, h3.2, h4.2, h5.1]
      constructor
      · rintro ⟨hcontents, hversion, ⟨hguid, hlen⟩, hinfo, htext, hcheck, ⟨hfields, hreparse⟩, hhash⟩
        rw [hguid, htext]
        exact ⟨hcontents, ⟨hversion.symm, Guid.ext hguid.symm, hinfo.symm, htext.symm,
          hreparse.unique hkey hfields.symm, hhash.symm⟩, hlen, hcheck⟩
      · rintro ⟨hcontents, hsame, hlen, hcheck⟩
        rw [hsame.protocolVersion, hsame.guid, hsame.rendezvousInfo, hsame.deviceInfo,
          hsame.manufacturerPublicKey, hsame.chainHash]
        exact ⟨hcontents, rfl, ⟨rfl, hlen⟩, rfl, rfl, hcheck, ⟨rfl, hkey⟩, rfl⟩

theorem header_reads {h : OwnershipVoucherHeader P} {data : Bytes}
    (hholds : HeaderHolds h h.contents.contents) (hser : h.contents.serializeData = .ok data)
    (hread : HeaderReadable h) :
    ∃ h', OwnershipVoucherHeader.deserializeData P data = .ok h' ∧ SameHeader h h' := by
  obtain ⟨htag, hlen⟩ := serializeData_fits hser
  obtain ⟨head, _, hback⟩ :=
    deserializeData_serializeData htag hlen (hholds.items hread.chainHash) hser
  let h' : OwnershipVoucherHeader P := { h with contents := { h.contents with header := head } }
  have hsame : SameHeader h h' := ⟨rfl, rfl, rfl, rfl, rfl, rfl⟩
  have hof : OwnershipVoucherHeader.ofArray P { h.contents with header := head } = .ok h' :=
    (HeaderHolds.ofArray { h.contents with header := head } hholds).mpr ⟨rfl, hsame, hread.guid, hread.deviceInfo⟩
  exact ⟨h', by simp only [OwnershipVoucherHeader.deserializeData, hback, Outcome.ok_bind, hof], hsame⟩

/-- What was read is written as the bytes it was read from. -/
theorem header_rewritten {h h' : OwnershipVoucherHeader P} {data : Bytes}
    (hholds : HeaderHolds h h.contents.contents) (hser : h.contents.serializeData = .ok data)
    (hread : HeaderReadable h) (hdec : OwnershipVoucherHeader.deserializeData P data = .ok h') :
    h'.contents.serializeData = .ok data := by
  obtain ⟨htag, hlen⟩ := serializeData_fits hser
  obtain ⟨head, _, hback⟩ :=
    deserializeData_serializeData htag hlen (hholds.items hread.chainHash) hser
  obtain ⟨contents, hparse, hof⟩ := Outcome.bind_eq_ok.mp hdec
  obtain rfl := Outcome.ok.inj (hback.symm.trans hparse)
  obtain ⟨hcontents, _⟩ := OwnershipVoucherHeader.ofArray_eq_ok.mp hof
  rw [hcontents]
  exact hser

/-- Only a readable header is read back. -/
theorem header_read_only {h h' : OwnershipVoucherHeader P} {data : Bytes}
    (hholds : HeaderHolds h h.contents.contents) (hser : h.contents.serializeData = .ok data)
    (hdec : OwnershipVoucherHeader.deserializeData P data = .ok h') : HeaderReadable h := by
  obtain ⟨contents, hparse, hof⟩ := Outcome.bind_eq_ok.mp hdec
  have hsome : h.cachedDeviceCertificateChainHash.isSome = true := by
    by_contra hnone
    generalize hc : h.contents.contents = raw at hholds
    cases hholds with
    | @mk c0 c1 c2 c3 c4 c5 h0 h1 h2 h3 h4 _ h5 =>
        obtain rfl : c5 = [0xf6] := by simpa [hnone] using h5.2
        obtain ⟨⟨a, rest⟩, hread, _⟩ := Outcome.bind_eq_ok.mp hparse
        exact @null_not_read P.profile size6 h.contents data [] [c0, c1, c2, c3, c4] [] hser hc
          (by simp [h0.1, h1.1, h2.1, h3.1, h4.1]) a rest (by rwa [List.append_nil])
  obtain ⟨htag, hlen⟩ := serializeData_fits hser
  obtain ⟨head, _, hback⟩ := deserializeData_serializeData htag hlen (hholds.items hsome) hser
  obtain rfl := Outcome.ok.inj (hback.symm.trans hparse)
  obtain ⟨_, _, hguid, hinfo⟩ :=
    (HeaderHolds.ofArray { h.contents with header := head } hholds).mp hof
  exact ⟨hguid, hinfo, hsome⟩

/-! ## Vouchers -/

/-- A voucher that the decoder takes. -/
structure Readable (v : OwnershipVoucher P) : Prop where
  chain : v.cachedDeviceCertificateChain.isSome = true
  header : HeaderReadable v.cachedHeader

structure SameVoucher (v v' : OwnershipVoucher P) : Prop where
  protocolVersion : v'.cachedProtocolVersion = v.cachedProtocolVersion
  headerRaw : v'.headerRaw = v.headerRaw
  header : SameHeader v.cachedHeader v'.cachedHeader
  hmac : v'.cachedHeaderHmac = v.cachedHeaderHmac
  chain : v'.cachedDeviceCertificateChain = v.cachedDeviceCertificateChain
  entries : v'.cachedEntries.contents = v.cachedEntries.contents

/-- The bytes of a header are read as `h`, or not at all. -/
structure HeaderReads (bytes : Bytes) (h : OwnershipVoucherHeader P) : Prop where
  reads : HeaderReadable h →
    ∃ h', OwnershipVoucherHeader.deserializeData P bytes = .ok h' ∧ SameHeader h h'
  only : ∀ h', OwnershipVoucherHeader.deserializeData P bytes = .ok h' → HeaderReadable h

/-- The last two elements: without a chain there is a `null`, behind which nothing is read. -/
structure TailHolds (v : OwnershipVoucher P) (chain entries : Bytes) : Prop where
  absent : v.cachedDeviceCertificateChain = none → chain = [0xf6]
  present : v.cachedDeviceCertificateChain.isSome = true →
    WellFormed (.machine P.profile) chain ∧
      OptionX5Chain.deserializeData P chain = .ok v.cachedDeviceCertificateChain ∧
      WellFormed (.machine P.profile) entries ∧
      ParsedArray.deserializeData P.profile .dynamic entries = .ok v.cachedEntries

/-- The elements of the voucher hold what is cached. -/
inductive VoucherHolds (v : OwnershipVoucher P) : List Bytes → Prop
  | mk {c0 c1 c2 c3 c4 header : Bytes} :
      Holds P P.protocolVersion v.cachedProtocolVersion c0 →
      Holds P P.byteBuf header c1 → HeaderReads header v.cachedHeader →
      Holds P P.hashCodec v.cachedHeaderHmac c2 →
      TailHolds v c3 c4 → VoucherHolds v [c0, c1, c2, c3, c4]

theorem SameHeader.refl (h : OwnershipVoucherHeader P) : SameHeader h h :=
  ⟨rfl, rfl, rfl, rfl, rfl, rfl⟩

theorem headerReads_of_holds {h : OwnershipVoucherHeader P} {bytes : Bytes}
    (hholds : HeaderHolds h h.contents.contents) (hser : h.contents.serializeData = .ok bytes) :
    HeaderReads bytes h :=
  ⟨header_reads hholds hser, fun _ => header_read_only hholds hser⟩

theorem headerReads_of_deserialized (laws : ElementLaws P) {h : OwnershipVoucherHeader P} {bytes : Bytes}
    (hdec : OwnershipVoucherHeader.deserializeData P bytes = .ok h) : HeaderReads bytes h :=
  ⟨fun _ => ⟨h, hdec, SameHeader.refl h⟩, fun _ _ => (header_deserialized_holds laws hdec).1⟩

/-- The optional chain as it is written. -/
theorem chain_written (laws : ElementLaws P) {chain : Option (X5Chain P)} {raw : Bytes}
    (h : OptionX5Chain.serializeData chain = .ok raw) :
    (chain = none → raw = [0xf6]) ∧ (chain.isSome = true → WellFormed (.machine P.profile) raw ∧
      OptionX5Chain.deserializeData P raw = .ok chain) := by
  cases chain with
  | none =>
      have hnull := (laws.optionCertificates.absent raw (Codec.serializeData_eq_ok.mp h)).1
      exact ⟨fun _ => hnull, nofun⟩
  | some chain =>
      obtain ⟨ders, hders, hwrite⟩ := Outcome.bind_eq_ok.mp h
      rw [Outcome.ofOption_eq_ok] at hders
      obtain ⟨hwf, hread⟩ := laws.optionCertificates.present ders raw (Codec.serializeData_eq_ok.mp hwrite)
      refine ⟨nofun, fun _ => ⟨CborExact.bounded_to_machine P.profile hwf, ?_⟩⟩
      simp [OptionX5Chain.deserializeData, Codec.deserializeData_eq_ok.mpr hread,
        X5Chain.ofDer_toDer laws hders, Outcome.ofOption]

theorem wellFormed_empty_array (c : Counting) : WellFormed c [0x80] :=
  @WellFormed.array c 0 [0x80] [] ⟨0, [], rfl, .inline (by decide)⟩ rfl (by simp)

theorem voucher_new_holds (laws : ElementLaws P) {header : OwnershipVoucherHeader P} {hmac : HMac}
    {chain : Option (X5Chain P)} {v : OwnershipVoucher P}
    (hheader : HeaderHolds header header.contents.contents)
    (hnew : OwnershipVoucher.new header hmac chain = .ok v) :
    v.cachedHeader = header ∧ v.cachedDeviceCertificateChain = chain ∧ v.contents.tag = none ∧
      VoucherHolds v v.contents.contents := by
  obtain ⟨bytes, hbytes, h₁⟩ := Outcome.bind_eq_ok.mp hnew
  obtain ⟨c0, hc0, h₂⟩ := Outcome.bind_eq_ok.mp h₁
  obtain ⟨c1, hc1, h₃⟩ := Outcome.bind_eq_ok.mp h₂
  obtain ⟨c2, hc2, h₄⟩ := Outcome.bind_eq_ok.mp h₃
  obtain ⟨c3, hc3, h₅⟩ := Outcome.bind_eq_ok.mp h₄
  obtain ⟨c4, hc4, h₆⟩ := Outcome.bind_eq_ok.mp h₅
  obtain rfl := Outcome.ok.inj (newEmpty_serializeData.symm.trans hc4)
  obtain rfl := Outcome.ok.inj h₆
  obtain ⟨habsent, hpresent⟩ := chain_written laws hc3
  refine ⟨rfl, rfl, rfl, .mk (Plain.holds laws.protocolVersion hc0) (Plain.holds laws.byteBuf hc1)
    (headerReads_of_holds hheader hbytes) (Plain.holds laws.hashCodec hc2) ⟨habsent, fun hs => ?_⟩⟩
  obtain ⟨hwf, hread⟩ := hpresent hs
  exact ⟨hwf, hread, wellFormed_empty_array _, deserializeData_empty _⟩

theorem voucher_fromParts_holds (laws : ElementLaws P) {version : ProtocolVersion} {header : Bytes}
    {hmac : HMac} {entries : ParsedArray .dynamic} {v : OwnershipVoucher P}
    (hparts : OwnershipVoucher.fromParts version header hmac entries = .ok v) :
    v.cachedDeviceCertificateChain = none ∧ v.contents.tag = none ∧
      VoucherHolds v v.contents.contents := by
  obtain ⟨c0, hc0, h₁⟩ := Outcome.bind_eq_ok.mp hparts
  obtain ⟨c1, hc1, h₂⟩ := Outcome.bind_eq_ok.mp h₁
  obtain ⟨c2, hc2, h₃⟩ := Outcome.bind_eq_ok.mp h₂
  obtain ⟨c3, hc3, h₄⟩ := Outcome.bind_eq_ok.mp h₃
  obtain ⟨c4, _, h₅⟩ := Outcome.bind_eq_ok.mp h₄
  obtain ⟨cached, hcached, h₆⟩ := Outcome.bind_eq_ok.mp h₅
  obtain rfl := Outcome.ok.inj h₆
  exact ⟨rfl, rfl, .mk (Plain.holds laws.protocolVersion hc0) (Plain.holds laws.byteBuf hc1)
    (headerReads_of_deserialized laws hcached) (Plain.holds laws.hashCodec hc2)
    ⟨(chain_written laws hc3).1, nofun⟩⟩

theorem five_elements (a : ParsedArray size5) :
    ∃ c0 c1 c2 c3 c4, a.contents = [c0, c1, c2, c3, c4] := by
  have hlen : a.contents.length = 5 := a.sized 5 rfl
  match a.contents, hlen with
  | [c0, c1, c2, c3, c4], _ => exact ⟨c0, c1, c2, c3, c4, rfl⟩

/-- An absent chain is read from nothing but `null`. -/
theorem chain_null (laws : ElementLaws P) {raw : Bytes}
    (h : OptionX5Chain.deserializeData P raw = .ok none) : raw = [0xf6] := by
  obtain ⟨ders, hders, h₁⟩ := Outcome.bind_eq_ok.mp h
  cases ders with
  | none => exact laws.optionCertificates.null raw (Codec.deserializeData_eq_ok.mp hders)
  | some ders =>
      obtain ⟨_, _, h₂⟩ := Outcome.bind_eq_ok.mp h₁
      cases h₂

theorem voucher_deserialized_holds (laws : ElementLaws P) {reader rest : Bytes} {v : OwnershipVoucher P}
    (hdec : OwnershipVoucher.deserializeFromReader P reader = .ok (v, rest)) :
    VoucherHolds v v.contents.contents := by
  obtain ⟨contents, hread, hof⟩ := OwnershipVoucher.deserializeFromReader_eq_ok.mp hdec
  obtain ⟨_, _, _, _, _, _, hitems⟩ := CborCorrect.deserializeFromReader_ok_iff.mp hread
  obtain ⟨rfl, hversion, ⟨header, hbuf, hheader⟩, hhmac, hchain, hentries⟩ :=
    OwnershipVoucher.fromParsedArray_eq_ok.mp hof
  obtain ⟨c0, c1, c2, c3, c4, hc⟩ := five_elements v.contents
  simp only [get_eq_ok, hc, List.getElem?_cons_zero, List.getElem?_cons_succ, Option.some.injEq,
    exists_eq_left', Codec.deserializeData_eq_ok] at hversion hbuf hhmac hchain hentries
  simp only [hc, List.mem_cons, List.not_mem_nil, or_false, forall_eq_or_imp, forall_eq] at hitems
  obtain ⟨w0, w1, w2, w3, w4⟩ := hitems
  rw [hc]
  refine .mk ⟨w0, hversion⟩ ⟨w1, hbuf⟩ (headerReads_of_deserialized laws hheader) ⟨w2, hhmac⟩ ⟨?_, ?_⟩
  · intro hnone
    rw [hnone] at hchain
    exact chain_null laws hchain
  · exact fun _ => ⟨w3, hchain, w4, hentries⟩

/-! ## Extensions -/

/-- The payload an extension signs. -/
def Payload (v : OwnershipVoucher P) (s : Handover P) (payload : Bytes) : Prop :=
  ∃ hdrInfo last key, v.header.getHdrInfoHash v.hashType = .ok hdrInfo ∧ v.currentOwner = .ok (last, key) ∧
    OwnershipVoucherEntryPayload.serializeData ⟨last, hdrInfo, s.extra, s.nextParty⟩ = .ok payload

/-- What a successful extension did: it signed an entry and wrote the entries again. -/
theorem extend_ok_inv {v v' : OwnershipVoucher P} {s : Handover P}
    (h : v.extend s.privateKey s.extra s.nextParty = (.ok (), v')) :
    ∃ payload signed item raw, Payload v s payload ∧ COSESign.new P payload [] s.privateKey = .ok signed ∧
      signed.serializeData = .ok item ∧ (v.cachedEntries.push item).serializeData = .ok raw ∧
      v' = appended v item raw := by
  unfold OwnershipVoucher.extend at h
  split at h
  · simp at h
  · dsimp only at h
    split at h
    · simp at h
    · simp at h
    · next item hsigned =>
        split at h
        · simp at h
        · simp at h
        · next raw hraw =>
            obtain ⟨hdrInfo, hinfo, h₁⟩ := Outcome.bind_eq_ok.mp hsigned
            obtain ⟨⟨last, key⟩, howner, h₂⟩ := Outcome.bind_eq_ok.mp h₁
            dsimp only at h₂
            split at h₂
            · cases h₂
            · obtain ⟨payload, hpayload, h₃⟩ := Outcome.bind_eq_ok.mp h₂
              obtain ⟨signed, hnew, hitem⟩ := Outcome.bind_eq_ok.mp h₃
              simp only [Prod.mk.injEq, true_and] at h
              exact ⟨payload, signed, item, raw, ⟨hdrInfo, last, key, hinfo, howner, hpayload⟩, hnew, hitem, hraw, h.symm⟩

/-- A token made here is one item: its elements were parsed from what the library wrote. -/
theorem signed_item {payload item : Bytes} {key : P.PrivateKey} {signed : COSESign P}
    (hnew : COSESign.new P payload [] key = .ok signed) (hitem : signed.serializeData = .ok item) :
    WellFormed (.machine P.profile) item := by
  obtain ⟨inner, _, h₁⟩ := Outcome.bind_eq_ok.mp hnew
  obtain ⟨data, _, h₂⟩ := Outcome.bind_eq_ok.mp h₁
  obtain ⟨contents, hparse, h₃⟩ := Outcome.bind_eq_ok.mp h₂
  obtain rfl := Outcome.ok.inj h₃
  rw [COSESign.serializeData_eq] at hitem
  have hitems := deserializeData_items hparse
  obtain ⟨htag, hlen⟩ := serializeData_fits hitem
  exact wellFormed_serializeData htag hlen hitems hitem

theorem extend_holds {v v' : OwnershipVoucher P} {s : Handover P}
    (hholds : VoucherHolds v v.contents.contents)
    (h : v.extend s.privateKey s.extra s.nextParty = (.ok (), v')) :
    VoucherHolds v' v'.contents.contents := by
  obtain ⟨payload, signed, item, raw, _, hsigned, hitem, hraw, rfl⟩ := extend_ok_inv h
  have hwf := signed_item hsigned hitem
  generalize hc : v.contents.contents = contents at hholds
  cases hholds with
  | @mk c0 c1 c2 c3 c4 header h0 h1 hheader h2 htail =>
      have hset : (appended v item raw).contents.contents = [c0, c1, c2, c3, raw] := by
        simp [appended, ParsedArray.set, hc]
      rw [hset]
      refine .mk h0 h1 hheader h2 ⟨htail.absent, fun hs => ?_⟩
      obtain ⟨hwchain, hchain, _, hentries⟩ := htail.present hs
      have hitems : ∀ x ∈ (v.cachedEntries.push item).contents, WellFormed (.machine P.profile) x := by
        intro x hx
        rcases List.mem_append.mp hx with hx | hx
        · exact deserializeData_items hentries x hx
        · rwa [List.mem_singleton.mp hx]
      have hnone : v.cachedEntries.header = none := by
        obtain ⟨⟨a, rest⟩, hread, ha⟩ := Outcome.bind_eq_ok.mp hentries
        obtain rfl := Outcome.ok.inj ha
        obtain ⟨_, _, _, _, _, hheader, _⟩ := CborCorrect.deserializeFromReader_ok_iff.mp hread
        simpa [ParsedArraySize.size] using hheader
      obtain ⟨htag, hlen⟩ := serializeData_fits hraw
      obtain ⟨head, hhead, hback⟩ := deserializeData_serializeData htag hlen hitems hraw
      refine ⟨hwchain, hchain, wellFormed_serializeData htag hlen hitems hraw, hback.trans ?_⟩
      rw [hhead rfl, ← hnone]
      rfl

theorem extend_frame {v v' : OwnershipVoucher P} {s : Handover P}
    (h : v.extend s.privateKey s.extra s.nextParty = (.ok (), v')) :
    Extends v v' ∧ v'.contents.tag = v.contents.tag := by
  obtain ⟨_, _, item, raw, _, _, _, _, rfl⟩ := extend_ok_inv h
  exact ⟨appended_extends v item raw, rfl⟩

theorem extendAll_holds {v v' : OwnershipVoucher P} {steps : List (Handover P)}
    (hholds : VoucherHolds v v.contents.contents) (h : extendAll v steps = (.ok (), v')) :
    Extends v v' ∧ v'.contents.tag = v.contents.tag ∧ VoucherHolds v' v'.contents.contents := by
  induction steps generalizing v with
  | nil =>
      obtain rfl : v = v' := (Prod.mk.inj h).2
      exact ⟨Extends.refl v, rfl, hholds⟩
  | cons s steps ih =>
      unfold extendAll at h
      split at h
      · next v₁ hstep =>
          obtain ⟨hrest, htag, hholds'⟩ := ih (extend_holds hholds hstep) h
          obtain ⟨hframe, htag'⟩ := extend_frame hstep
          exact ⟨hframe.trans hrest, htag.trans htag', hholds'⟩
      · next hfailed => exact absurd h (hfailed v')

/-! ## Reading back -/

theorem VoucherHolds.items {v : OwnershipVoucher P} {raw : List Bytes} (hholds : VoucherHolds v raw)
    (hsome : v.cachedDeviceCertificateChain.isSome = true) :
    ∀ x ∈ raw, WellFormed (.machine P.profile) x := by
  cases hholds with
  | mk h0 h1 _ h2 htail =>
      obtain ⟨w3, _, w4, _⟩ := htail.present hsome
      simp [h0.1, h1.1, h2.1, w3, w4]

theorem voucher_reads {v : OwnershipVoucher P} {data : Bytes}
    (hholds : VoucherHolds v v.contents.contents) (hser : v.serializeData = .ok data)
    (hread : Readable v) (rest : Bytes) :
    ∃ v', OwnershipVoucher.deserializeFromReader P (data ++ rest) = .ok (v', rest) ∧ SameVoucher v v' := by
  obtain ⟨htag, hlen⟩ := serializeData_fits hser
  obtain ⟨head, _, hback⟩ :=
    deserializeFromReader_serializeData htag hlen (hholds.items hread.chain) hser rest
  generalize hc : v.contents.contents = contents at hholds
  cases hholds with
  | @mk c0 c1 c2 c3 c4 header h0 h1 hheader h2 htail =>
      obtain ⟨h', hh', hsame⟩ := hheader.reads hread.header
      obtain ⟨_, hchain, _, hentries⟩ := htail.present hread.chain
      let v' : OwnershipVoucher P :=
        { v with contents := { v.contents with header := head }, cachedHeader := h' }
      refine ⟨v', OwnershipVoucher.deserializeFromReader_eq_ok.mpr ⟨_, hback,
        OwnershipVoucher.fromParsedArray_eq_ok.mpr ⟨rfl, ?_, ⟨header, ?_, hh'⟩, ?_, ?_, ?_⟩⟩,
        ⟨rfl, rfl, hsame, rfl, rfl, rfl⟩⟩
      · exact get_eq_ok.mpr ⟨c0, by simp [hc], Codec.deserializeData_eq_ok.mpr h0.2⟩
      · exact get_eq_ok.mpr ⟨c1, by simp [hc], Codec.deserializeData_eq_ok.mpr h1.2⟩
      · exact get_eq_ok.mpr ⟨c2, by simp [hc], Codec.deserializeData_eq_ok.mpr h2.2⟩
      · exact get_eq_ok.mpr ⟨c3, by simp [hc], hchain⟩
      · exact get_eq_ok.mpr ⟨c4, by simp [hc], hentries⟩

theorem voucher_read_only {v v' : OwnershipVoucher P} {data rest r : Bytes}
    (hholds : VoucherHolds v v.contents.contents) (hser : v.serializeData = .ok data)
    (hdec : OwnershipVoucher.deserializeFromReader P (data ++ rest) = .ok (v', r)) : Readable v := by
  obtain ⟨contents, hparse, hof⟩ := OwnershipVoucher.deserializeFromReader_eq_ok.mp hdec
  have hsome : v.cachedDeviceCertificateChain.isSome = true := by
    by_contra hnone
    generalize hc : v.contents.contents = raw at hholds
    cases hholds with
    | @mk c0 c1 c2 c3 c4 header h0 h1 hheader h2 htail =>
        obtain rfl : c3 = [0xf6] := htail.absent (by simpa using hnone)
        exact @null_not_read P.profile size5 v.contents data rest [c0, c1, c2] [c4] hser hc
          (by simp [h0.1, h1.1, h2.1]) contents r hparse
  obtain ⟨htag, hlen⟩ := serializeData_fits hser
  obtain ⟨head, _, hback⟩ :=
    deserializeFromReader_serializeData htag hlen (hholds.items hsome) hser rest
  obtain ⟨rfl, rfl⟩ := Prod.mk.inj (Outcome.ok.inj (hback.symm.trans hparse))
  obtain ⟨_, _, ⟨header', hbuf, hheader'⟩, _⟩ := OwnershipVoucher.fromParsedArray_eq_ok.mp hof
  generalize hc : v.contents.contents = raw at hholds
  cases hholds with
  | @mk c0 c1 c2 c3 c4 header h0 h1 hheader h2 htail =>
      obtain ⟨raw, hraw, hfrom⟩ := get_eq_ok.mp hbuf
      obtain rfl : c1 = raw := by simpa [hc] using hraw
      obtain rfl : header = header' :=
        Option.some.inj (h1.2.symm.trans (Codec.deserializeData_eq_ok.mp hfrom))
      exact ⟨hsome, hheader.only _ hheader'⟩

/-- What was read is written as the bytes it was read from. -/
theorem voucher_rewritten {v v' : OwnershipVoucher P} {data rest r : Bytes}
    (hholds : VoucherHolds v v.contents.contents) (hser : v.serializeData = .ok data)
    (hread : Readable v) (hdec : OwnershipVoucher.deserializeFromReader P (data ++ rest) = .ok (v', r)) :
    v'.serializeData = .ok data := by
  obtain ⟨htag, hlen⟩ := serializeData_fits hser
  obtain ⟨head, _, hback⟩ :=
    deserializeFromReader_serializeData htag hlen (hholds.items hread.chain) hser rest
  obtain ⟨contents, hparse, hof⟩ := OwnershipVoucher.deserializeFromReader_eq_ok.mp hdec
  obtain ⟨rfl, _⟩ := Prod.mk.inj (Outcome.ok.inj (hback.symm.trans hparse))
  obtain ⟨hcontents, _⟩ := OwnershipVoucher.fromParsedArray_eq_ok.mp hof
  rw [OwnershipVoucher.serializeData, hcontents]
  exact hser

/-- What is written is read back as the same voucher. -/
def RoundTrips (v : OwnershipVoucher P) : Prop :=
  ∃ data v', v.serializeData = .ok data ∧ OwnershipVoucher.deserializeData P data = .ok v' ∧
    SameVoucher v v'

theorem roundTrips_iff_readable {v : OwnershipVoucher P} (htag : TagFits v.contents.tag)
    (hholds : VoucherHolds v v.contents.contents) : RoundTrips v ↔ Readable v := by
  constructor
  · rintro ⟨data, v', hser, hdec, _⟩
    obtain ⟨rest, hread⟩ := OwnershipVoucher.deserializeData_eq_ok.mp hdec
    exact @voucher_read_only P v v' data [] rest hholds hser (by rwa [List.append_nil])
  · intro hread
    have hlen : v.contents.contents.length = 5 := v.contents.sized 5 rfl
    obtain ⟨_, _, hser, _⟩ := serializeData_ok htag (show v.contents.contents.length < 2 ^ 16 by omega)
    obtain ⟨v', hdec, hsame⟩ := voucher_reads hholds hser hread []
    rw [List.append_nil] at hdec
    exact ⟨_, v', hser, OwnershipVoucher.deserializeData_eq_ok.mpr ⟨[], hdec⟩, hsame⟩

/-- The two ways from a header to a voucher. Only `new` takes a chain. -/
inductive MadeFrom (header : OwnershipVoucherHeader P) (hmac : HMac) :
    Option (X5Chain P) → OwnershipVoucher P → Prop
  | new {chain : Option (X5Chain P)} {v : OwnershipVoucher P} :
      OwnershipVoucher.new header hmac chain = .ok v → MadeFrom header hmac chain v
  | fromParts {version : ProtocolVersion} {bytes : Bytes} {entries : ParsedArray .dynamic}
      {v : OwnershipVoucher P} : header.contents.serializeData = .ok bytes →
      OwnershipVoucher.fromParts version bytes hmac entries = .ok v → MadeFrom header hmac none v

theorem voucher_round_trip_iff (laws : ElementLaws P) {version : ProtocolVersion} {guid : Guid}
    {rendezvousInfo : P.RendezvousInfo} {deviceInfo : String} {key : PublicKey P}
    {chainHash : Option Hash} {header : OwnershipVoucherHeader P} {hmac : HMac}
    {chain : Option (X5Chain P)} {v₀ v : OwnershipVoucher P} {steps : List (Handover P)}
    (hkey : key.Made)
    (hheader : OwnershipVoucherHeader.new version guid rendezvousInfo deviceInfo key chainHash =
      .ok header)
    (hmade : MadeFrom header hmac chain v₀) (hext : extendAll v₀ steps = (.ok (), v)) :
    RoundTrips v ↔ chain.isSome = true ∧ chainHash.isSome = true ∧ guid.value.length = 16 ∧
      checkDeviceInfo (trim deviceInfo) = .ok () := by
  obtain ⟨hguid, hinfo, hhash, _, hholds⟩ := header_new_holds laws hkey hheader
  cases hmade with
  | new hnew =>
      obtain ⟨hcached, hchain, htag, hv⟩ := voucher_new_holds laws hholds hnew
      obtain ⟨hframe, htag', hv'⟩ := extendAll_holds hv hext
      rw [roundTrips_iff_readable (by simp [TagFits, htag', htag]) hv']
      constructor
      · rintro ⟨hsome, hr⟩
        rw [hframe.header, hcached] at hr
        rw [hframe.chain, hchain] at hsome
        exact ⟨hsome, hhash ▸ hr.chainHash, hguid ▸ hr.guid, hinfo ▸ hr.deviceInfo⟩
      · rintro ⟨hsome, hsomeHash, hlen, hcheck⟩
        refine ⟨?_, ?_⟩
        · rw [hframe.chain, hchain]
          exact hsome
        · rw [hframe.header, hcached]
          exact ⟨hguid ▸ hlen, hinfo ▸ hcheck, hhash ▸ hsomeHash⟩
  | fromParts _ hparts =>
      obtain ⟨hchain, htag, hv⟩ := voucher_fromParts_holds laws hparts
      obtain ⟨hframe, htag', hv'⟩ := extendAll_holds hv hext
      rw [roundTrips_iff_readable (by simp [TagFits, htag', htag]) hv']
      simp only [Option.isSome_none, Bool.false_eq_true, false_and, iff_false]
      intro hr
      have := hr.chain
      rw [hframe.chain, hchain] at this
      cases this

open Reference

theorem sampleKey_made (id : UInt8) : (sampleKey id).Made := .new (sampleKey_reparses id)

/-- A voucher with a chain, handed over once. -/
theorem voucher_round_trip_sample : ∃ v₀ v : OwnershipVoucher (reference .release),
    sampleBlank = .ok v₀ ∧ extendAll v₀ [⟨[1, 1], none, sampleKey 2⟩] = (.ok (), v) ∧ RoundTrips v := by
  have hrun : (sampleBlank >>= fun v =>
      (extendAll v [⟨[1, 1], none, sampleKey 2⟩]).1).isOk = true := by decide +kernel
  obtain ⟨_, hrun⟩ := Outcome.isOk_iff.mp hrun
  obtain ⟨v₀, hblank, hext⟩ := Outcome.bind_eq_ok.mp hrun
  obtain ⟨header, hsample, h₁⟩ := Outcome.bind_eq_ok.mp hblank
  obtain ⟨_, _, hnew⟩ := Outcome.bind_eq_ok.mp h₁
  obtain ⟨_, _, h₂⟩ := Outcome.bind_eq_ok.mp hsample
  obtain ⟨_, _, hheader⟩ := Outcome.bind_eq_ok.mp h₂
  refine ⟨v₀, _, hblank, Prod.ext hext rfl, ?_⟩
  exact (voucher_round_trip_iff (elementLaws .release) (sampleKey_made 1) hheader (.new hnew)
    (Prod.ext hext rfl)).mpr ⟨rfl, rfl, rfl, by decide⟩

/-- Without a chain the sample voucher is made and written. -/
def sampleUnchained : Outcome Error (OwnershipVoucher (reference .release)) := do
  let header ← sampleHeader
  OwnershipVoucher.new header ⟨.hmacSha256, []⟩ none

/-- The `null` in it is not read. -/
theorem unchained_voucher_not_read_back : ¬ ∀ (header : OwnershipVoucherHeader (reference .release))
    (hmac : HMac) (chain : Option (X5Chain (reference .release)))
    (v : OwnershipVoucher (reference .release)),
    sampleHeader = .ok header → OwnershipVoucher.new header hmac chain = .ok v → RoundTrips v := by
  intro h
  have hrun : (sampleUnchained >>= fun v => v.serializeData >>= fun data =>
      .ok (OwnershipVoucher.deserializeData (reference .release) data).isOk) =
      (.ok false : Outcome Error Bool) := by decide +kernel
  obtain ⟨v, hmade, h₁⟩ := Outcome.bind_eq_ok.mp hrun
  obtain ⟨data, hser, h₂⟩ := Outcome.bind_eq_ok.mp h₁
  obtain ⟨header, hheader, hnew⟩ := Outcome.bind_eq_ok.mp hmade
  obtain ⟨data', v', hser', hdec, _⟩ := h header _ none v hheader hnew
  obtain rfl := Outcome.ok.inj (hser.symm.trans hser')
  rw [hdec] at h₂
  cases h₂

end FidoOnboard.VoucherRoundTrip
