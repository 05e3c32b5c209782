import FidoOnboard.DataFormats.VoucherChain

/-!
# The characters of a device info

The check looks at the low byte of each character. From U+0100 on that byte may be one
of a printable character.
-/
namespace FidoOnboard
open CborParser

variable {P : Platform}

/-- U+0020 to U+007E. -/
def PrintableAscii (c : Char) : Prop := 0x20 ≤ c.toNat ∧ c.toNat ≤ 0x7e

/-- A character above U+00FF that is taken for one of these. -/
def Disguised (c : Char) : Prop := 0x100 ≤ c.toNat ∧ 0x20 ≤ c.toNat % 256 ∧ c.toNat % 256 ≤ 0x7e

instance (c : Char) : Decidable (PrintableAscii c) := inferInstanceAs (Decidable (_ ∧ _))

instance (c : Char) : Decidable (Disguised c) := inferInstanceAs (Decidable (_ ∧ _))

theorem not_printable_of_disguised {c : Char} (h : Disguised c) : ¬ PrintableAscii c := by
  intro hprintable
  have hlarge := h.1
  have hsmall := hprintable.2
  omega

/-- Of all characters, the check takes these two kinds. -/
theorem low_byte_iff (c : Char) : (32 ≤ c.toNat % 256 ∧ c.toNat % 256 < 127) ↔ PrintableAscii c ∨ Disguised c := by
  unfold PrintableAscii Disguised
  omega

theorem checkDeviceInfo_eq_ok {s : String} :
    checkDeviceInfo s = .ok () ↔ ∀ c ∈ s.toList, PrintableAscii c ∨ Disguised c := by
  unfold checkDeviceInfo
  rw [Outcome.check_eq_ok, List.all_eq_true]
  refine forall₂_congr fun c _ => ?_
  rw [decide_eq_true_iff]
  exact low_byte_iff c

theorem checkDeviceInfo_of_printable {s : String} (h : ∀ c ∈ s.toList, PrintableAscii c) :
    checkDeviceInfo s = .ok () :=
  checkDeviceInfo_eq_ok.mpr fun c hc => .inl (h c hc)

/-- Some character is neither, or none is disguised. -/
def Undisguised (s : String) : Prop :=
  (∃ c ∈ s.toList, ¬ PrintableAscii c ∧ ¬ Disguised c) ∨ ∀ c ∈ s.toList, ¬ Disguised c

/-- What passes the check is printable, whether it is looked at or not. -/
theorem undisguised_iff {s : String} :
    Undisguised s ↔ (checkDeviceInfo s = .ok () → ∀ c ∈ s.toList, PrintableAscii c) := by
  rw [checkDeviceInfo_eq_ok]
  constructor
  · rintro (⟨c, hc, hprintable, hdisguised⟩ | hnone) hcheck
    · exact absurd (hcheck c hc) (not_or.mpr ⟨hprintable, hdisguised⟩)
    · intro c hc
      exact (hcheck c hc).resolve_right (hnone c hc)
  · intro h
    by_cases hcheck : ∀ c ∈ s.toList, PrintableAscii c ∨ Disguised c
    case pos => exact .inr fun c hc hdisguised => not_printable_of_disguised hdisguised (h hcheck c hc)
    case neg =>
      simp only [not_forall, not_or] at hcheck
      obtain ⟨c, hc, hneither⟩ := hcheck
      exact .inl ⟨c, hc, hneither⟩

namespace OwnershipVoucherHeader

/-- The fields as they are read, whatever the characters of the device info are. -/
structure FieldsRead (P : Platform) (data : Bytes) (h : OwnershipVoucherHeader P) : Prop where
  contents : ParsedArray.deserializeData P.profile size6 data = .ok h.contents
  protocolVersion : h.contents.get P.protocolVersion.deserializeData 0 = .ok h.cachedProtocolVersion
  guid : h.contents.get (Guid.deserializeData P) 1 = .ok h.cachedGuid
  rendezvousInfo : h.contents.get P.rendezvousInfo.deserializeData 2 = .ok h.cachedRendezvousInfo
  deviceInfo : h.contents.get P.text.deserializeData 3 = .ok h.cachedDeviceInfo
  publicKey : h.contents.get (PublicKey.deserializeData P) 4 = .ok h.cachedManufacturerPublicKey
  chainHash : h.contents.get P.optionHash.deserializeData 5 = .ok h.cachedDeviceCertificateChainHash

theorem deserializeData_iff {data : Bytes} {h : OwnershipVoucherHeader P} :
    deserializeData P data = .ok h ↔ FieldsRead P data h ∧ checkDeviceInfo h.cachedDeviceInfo = .ok () := by
  constructor
  · intro hread
    obtain ⟨contents, hcontents, hof⟩ := Outcome.bind_eq_ok.mp hread
    obtain ⟨rfl, hversion, hguid, hinfo, htext, hcheck, hkey, hhash⟩ := ofArray_eq_ok.mp hof
    exact ⟨⟨hcontents, hversion, hguid, hinfo, htext, hkey, hhash⟩, hcheck⟩
  · rintro ⟨hfields, hcheck⟩
    apply Outcome.bind_eq_ok.mpr
    exact ⟨h.contents, hfields.contents, ofArray_eq_ok.mpr ⟨rfl, hfields.protocolVersion, hfields.guid,
      hfields.rendezvousInfo, hfields.deviceInfo, hcheck, hfields.publicKey, hfields.chainHash⟩⟩

end OwnershipVoucherHeader

/-- The same for a voucher and the header in it. -/
structure OwnershipVoucher.FieldsRead (P : Platform) (data : Bytes) (v : OwnershipVoucher P) : Prop where
  contents : ParsedArray.deserializeData P.profile size5 data = .ok v.contents
  protocolVersion : v.contents.get P.protocolVersion.deserializeData 0 = .ok v.cachedProtocolVersion
  header : ∃ header, v.contents.get P.byteBuf.deserializeData 1 = .ok header ∧
    OwnershipVoucherHeader.FieldsRead P header v.cachedHeader
  hmac : v.contents.get P.hashCodec.deserializeData 2 = .ok v.cachedHeaderHmac
  chain : v.contents.get (OptionX5Chain.deserializeData P) 3 = .ok v.cachedDeviceCertificateChain
  entries : v.contents.get (ParsedArray.deserializeData P.profile .dynamic) 4 = .ok v.cachedEntries

theorem OwnershipVoucher.deserializeData_iff {data : Bytes} {v : OwnershipVoucher P} :
    deserializeData P data = .ok v ↔
      FieldsRead P data v ∧ checkDeviceInfo v.cachedHeader.cachedDeviceInfo = .ok () := by
  have hopen : deserializeData P data = .ok v ↔ ∃ contents,
      ParsedArray.deserializeData P.profile size5 data = .ok contents ∧ fromParsedArray P contents = .ok v := by
    unfold deserializeData
    split
    next herr => simp [herr]
    next => exact Outcome.bind_eq_ok
  rw [hopen]
  constructor
  · rintro ⟨contents, hcontents, hof⟩
    obtain ⟨rfl, hversion, ⟨header, hraw, hheader⟩, hhmac, hchain, hentries⟩ := fromParsedArray_eq_ok.mp hof
    obtain ⟨hfields, hcheck⟩ := OwnershipVoucherHeader.deserializeData_iff.mp hheader
    exact ⟨⟨hcontents, hversion, ⟨header, hraw, hfields⟩, hhmac, hchain, hentries⟩, hcheck⟩
  · rintro ⟨hfields, hcheck⟩
    obtain ⟨header, hraw, hheader⟩ := hfields.header
    refine ⟨v.contents, hfields.contents, fromParsedArray_eq_ok.mpr ⟨rfl, hfields.protocolVersion, ?_, hfields.hmac,
      hfields.chain, hfields.entries⟩⟩
    exact ⟨header, hraw, OwnershipVoucherHeader.deserializeData_iff.mpr ⟨hheader, hcheck⟩⟩

/-! ## The law -/

/-- An accepted device info is printable. -/
def HeaderPrintable (P : Platform) (data : Bytes) : Prop :=
  ∀ h, OwnershipVoucherHeader.deserializeData P data = .ok h → ∀ c ∈ h.cachedDeviceInfo.toList, PrintableAscii c

def VoucherPrintable (P : Platform) (data : Bytes) : Prop :=
  ∀ v, OwnershipVoucher.deserializeData P data = .ok v →
    ∀ c ∈ v.cachedHeader.cachedDeviceInfo.toList, PrintableAscii c

def WrittenPrintable (h : OwnershipVoucherHeader P) : Prop :=
  ∀ bytes, h.serializeData = .ok bytes → ∀ c ∈ h.cachedDeviceInfo.toList, PrintableAscii c

theorem device_info_printable_iff (P : Platform) :
    (∀ s, (∀ c ∈ s.toList, PrintableAscii c) → checkDeviceInfo s = .ok ()) ∧
    (∀ data, HeaderPrintable P data ↔
      ∀ h, OwnershipVoucherHeader.FieldsRead P data h → Undisguised h.cachedDeviceInfo) ∧
    (∀ data, VoucherPrintable P data ↔
      ∀ v, OwnershipVoucher.FieldsRead P data v → Undisguised v.cachedHeader.cachedDeviceInfo) ∧
    (∀ h : OwnershipVoucherHeader P, WrittenPrintable h ↔
      ((∃ bytes, h.contents.serializeData = .ok bytes) → Undisguised h.cachedDeviceInfo)) := by
  refine ⟨fun s => checkDeviceInfo_of_printable, fun data => ?_, fun data => ?_, fun h => ?_⟩
  · refine forall_congr' fun h => ?_
    rw [OwnershipVoucherHeader.deserializeData_iff, and_imp, undisguised_iff]
  · refine forall_congr' fun v => ?_
    rw [OwnershipVoucher.deserializeData_iff, and_imp, undisguised_iff]
  · have hwritten (bytes : Bytes) : h.serializeData = .ok bytes ↔
        h.contents.serializeData = .ok bytes ∧ checkDeviceInfo h.cachedDeviceInfo = .ok () := by
      unfold OwnershipVoucherHeader.serializeData
      rw [Outcome.bind_eq_ok]
      constructor
      · rintro ⟨_, hcheck, hcontents⟩
        exact ⟨hcontents, hcheck⟩
      · rintro ⟨hcontents, hcheck⟩
        exact ⟨(), hcheck, hcontents⟩
    rw [undisguised_iff]
    unfold WrittenPrintable
    simp only [hwritten, and_imp, forall_exists_index]

section

open Reference VoucherChain

/-- The low bytes are those of "AB". -/
def disguisedInfo : String := "Łł"

/-- A header with such a device info, written and read. -/
def disguisedHeader : Outcome Error (Bytes × OwnershipVoucherHeader (reference .release)) := do
  let made ← OwnershipVoucherHeader.new .version1_1 ⟨List.replicate 16 7⟩ [] disguisedInfo (sampleKey 1)
    (some ⟨.sha256, List.replicate 32 0⟩)
  let data ← made.serializeData
  let h ← OwnershipVoucherHeader.deserializeData (reference .release) data
  Outcome.check (h.cachedDeviceInfo = disguisedInfo) .ioError
  .ok (data, h)

theorem disguised_header_accepted : ∃ data, ¬ HeaderPrintable (reference .release) data := by
  have hrun : disguisedHeader.isOk = true := by decide +kernel
  obtain ⟨_, hrun⟩ := Outcome.isOk_iff.mp hrun
  obtain ⟨made, -, h₁⟩ := Outcome.bind_eq_ok.mp hrun
  obtain ⟨data, -, h₂⟩ := Outcome.bind_eq_ok.mp h₁
  obtain ⟨h, hread, h₃⟩ := Outcome.bind_eq_ok.mp h₂
  obtain ⟨_, hinfo, -⟩ := Outcome.bind_eq_ok.mp h₃
  refine ⟨data, fun hprintable => ?_⟩
  have hchar := hprintable h hread 'Ł' (by rw [Outcome.check_eq_ok.mp hinfo]; decide)
  exact absurd hchar (by decide)

end

end FidoOnboard
