import FidoOnboard.DataFormats.CborAccepted
import FidoOnboard.DataFormats.CborPanics
import FidoOnboard.DataFormats.VoucherRoundTrip

/-!
# Bytes that stop the decoder of vouchers

Only the array parser stops the program, in a voucher or in the header inside it;
every other decoder answers with an error.
-/
namespace FidoOnboard.OwnershipVoucher
open CborParser CborGrammar CborPanics CborRoundTrip VoucherChain

variable {P : Platform}

theorem codec_ne_panic {α : Type} (c : Codec α) (data : Bytes) : c.deserializeData data ≠ .panic :=
  Outcome.ofOption_ne_panic _ _

theorem guid_ne_panic (data : Bytes) : Guid.deserializeData P data ≠ .panic := by
  refine Outcome.bind_ne_panic (codec_ne_panic _ _) fun value _ => ?_
  exact Outcome.bind_ne_panic (fun h => Outcome.check_ne_panic _ _ (Outcome.mapErr_eq_panic.mp h)) fun _ _ => nofun

theorem publicKey_ne_panic (data : Bytes) : PublicKey.deserializeData P data ≠ .panic := by
  refine Outcome.bind_ne_panic (codec_ne_panic _ _) fun fields _ => ?_
  have hparse : PublicKey.parseData P fields.encoding fields.data ≠ .panic := by
    unfold PublicKey.parseData
    split
    case h_1 => exact Outcome.bind_ne_panic (Outcome.ofOption_ne_panic _ _) fun _ _ => nofun
    case h_2 =>
      split
      case isTrue => exact nofun
      case isFalse =>
        have hchain : X5Chain.fromSlice P fields.data ≠ .panic :=
          Outcome.bind_ne_panic (codec_ne_panic _ _) fun _ _ => Outcome.ofOption_ne_panic _ _
        refine Outcome.bind_ne_panic hchain fun chain _ => ?_
        split
        · exact nofun
        · exact Outcome.bind_ne_panic (Outcome.ofOption_ne_panic _ _) fun _ _ => nofun
    case h_3 => exact nofun
    case h_4 => exact nofun
  intro h
  have hnew : PublicKey.new P fields ≠ .panic := Outcome.bind_ne_panic hparse fun _ _ => nofun
  exact hnew (Outcome.mapErr_eq_panic.mp h)

theorem chain_ne_panic (data : Bytes) : OptionX5Chain.deserializeData P data ≠ .panic := by
  refine Outcome.bind_ne_panic (codec_ne_panic _ _) fun ders _ => ?_
  cases ders with
  | none => exact nofun
  | some ders => exact Outcome.bind_ne_panic (Outcome.ofOption_ne_panic _ _) fun _ _ => nofun

theorem array_panic_iff {p : Profile} {N : ParsedArraySize} {data : Bytes} :
    ParsedArray.deserializeData p N data = .panic ↔ OverrunIn p N data := by
  rw [← deserializeFromReader_panic_iff]
  unfold ParsedArray.deserializeData
  cases ParsedArray.deserializeFromReader p N data with
  | ok read => exact iff_of_false nofun nofun
  | err e => exact iff_of_false nofun nofun
  | panic => exact iff_of_true rfl rfl

/-- Nothing but the array of a header stops its decoder. -/
theorem header_panic_iff {data : Bytes} :
    OwnershipVoucherHeader.deserializeData P data = .panic ↔ OverrunIn P.profile size6 data := by
  rw [← array_panic_iff]
  constructor
  · intro h
    refine (Outcome.bind_eq_panic.mp h).resolve_right ?_
    rintro ⟨contents, -, hof⟩
    have hlen : contents.contents.length = 6 := contents.sized 6 rfl
    have hget : ∀ {α : Type} {decode : Bytes → Outcome Error α} {n : Nat}, n < 6 → (∀ raw, decode raw ≠ .panic) →
        contents.get decode n ≠ .panic :=
      fun hn hdecode => get_ne_panic (hlen.symm ▸ hn) fun raw _ => hdecode raw
    refine absurd hof (Outcome.bind_ne_panic (hget (by decide) (codec_ne_panic _)) fun _ _ => ?_)
    refine Outcome.bind_ne_panic (hget (by decide) guid_ne_panic) fun _ _ => ?_
    refine Outcome.bind_ne_panic (hget (by decide) (codec_ne_panic _)) fun _ _ => ?_
    refine Outcome.bind_ne_panic (hget (by decide) (codec_ne_panic _)) fun _ _ => ?_
    refine Outcome.bind_ne_panic (Outcome.check_ne_panic _ _) fun _ _ => ?_
    refine Outcome.bind_ne_panic (hget (by decide) publicKey_ne_panic) fun _ _ => ?_
    exact Outcome.bind_ne_panic (hget (by decide) (codec_ne_panic _)) fun _ _ => nofun
  · intro h
    rw [OwnershipVoucherHeader.deserializeData, h, Outcome.panic_bind]

/-- The parser is led to a head it stops at, in the voucher or in the header inside it. -/
inductive Overruns (P : Platform) (data : Bytes) : Prop
  | voucher : OverrunIn P.profile size5 data → Overruns P data
  | header {tag : Option Nat} {c0 c1 c2 c3 c4 rest header : Bytes} {version : ProtocolVersion} :
      Accepts (.machine P.profile) size5 data tag [c0, c1, c2, c3, c4] rest →
      P.protocolVersion.fromSlice c0 = some version → P.byteBuf.fromSlice c1 = some header →
      OverrunIn P.profile size6 header → Overruns P data

theorem fromParsedArray_panic_iff {contents : ParsedArray size5}
    (hitems : ∀ x ∈ contents.contents, WellFormed (.machine P.profile) x) :
    fromParsedArray P contents = .panic ↔ ∃ version header,
      contents.get P.protocolVersion.deserializeData 0 = .ok version ∧
      contents.get P.byteBuf.deserializeData 1 = .ok header ∧ OverrunIn P.profile size6 header := by
  have hlen : contents.contents.length = 5 := contents.sized 5 rfl
  have hget : ∀ {α : Type} {decode : Bytes → Outcome Error α} {n : Nat}, n < 5 →
      (∀ raw ∈ contents.contents, decode raw ≠ .panic) → contents.get decode n ≠ .panic :=
    fun hn hdecode => get_ne_panic (hlen.symm ▸ hn) hdecode
  constructor
  · intro h
    rcases Outcome.bind_eq_panic.mp h with h₀ | ⟨version, hversion, h₁⟩
    · exact absurd h₀ (hget (by decide) fun _ _ => codec_ne_panic _ _)
    rcases Outcome.bind_eq_panic.mp h₁ with h₀ | ⟨header, hheader, h₂⟩
    · exact absurd h₀ (hget (by decide) fun _ _ => codec_ne_panic _ _)
    rcases Outcome.bind_eq_panic.mp h₂ with h₀ | ⟨_, _, h₃⟩
    · exact ⟨version, header, hversion, hheader, header_panic_iff.mp h₀⟩
    refine absurd h₃ (Outcome.bind_ne_panic (hget (by decide) fun _ _ => codec_ne_panic _ _) fun _ _ => ?_)
    refine Outcome.bind_ne_panic (hget (by decide) fun _ _ => chain_ne_panic _) fun _ _ => ?_
    refine Outcome.bind_ne_panic (hget (by decide) fun raw hraw => ?_) fun _ _ => nofun
    -- an element of an accepted array is an item, and no item stops the parser
    rw [ne_eq, array_panic_iff, ← deserializeFromReader_panic_iff]
    exact CborCorrect.wellFormed_ne_panic (hitems raw hraw) .dynamic
  · rintro ⟨version, header, hversion, hheader, hoverrun⟩
    simp only [fromParsedArray, hversion, hheader, Outcome.ok_bind, header_panic_iff.mpr hoverrun, Outcome.panic_bind]

theorem array_eq_ok_iff {p : Profile} {N : ParsedArraySize} {data : Bytes} {a : ParsedArray N} :
    ParsedArray.deserializeData p N data = .ok a ↔ ∃ rest, ParsedArray.deserializeFromReader p N data = .ok (a, rest) := by
  unfold ParsedArray.deserializeData
  cases ParsedArray.deserializeFromReader p N data with
  | ok read => simp [Prod.ext_iff, eq_comm]
  | err e => simp
  | panic => simp

theorem voucher_panic_iff {data : Bytes} : deserializeData P data = .panic ↔ Overruns P data := by
  unfold deserializeData
  cases harray : ParsedArray.deserializeData P.profile size5 data with
  | panic => exact iff_of_true rfl (.voucher (array_panic_iff.mp harray))
  | err e =>
      refine iff_of_false ?_ fun hover => ?_
      · split
        · exact nofun
        · exact nofun
      · cases hover with
        | voucher hover => exact absurd ((array_panic_iff.mpr hover).symm.trans harray) nofun
        | header haccepts =>
            rcases CborExact.accepts_iff_deserialize.mpr haccepts with ⟨_, _, hread⟩
            exact absurd ((array_eq_ok_iff.mpr ⟨_, hread⟩).symm.trans harray) nofun
  | ok contents =>
      change fromParsedArray P contents = .panic ↔ Overruns P data
      rw [fromParsedArray_panic_iff (VoucherRoundTrip.deserializeData_items harray)]
      rcases array_eq_ok_iff.mp harray with ⟨rest, hread⟩
      rcases VoucherRoundTrip.five_elements contents with ⟨c0, c1, c2, c3, c4, hc⟩
      rcases contents with ⟨tag, head, items, sized⟩
      subst hc
      simp only [get_eq_ok, List.getElem?_cons_zero, List.getElem?_cons_succ, Option.some.injEq,
        exists_eq_left', Codec.deserializeData_eq_ok]
      constructor
      · rintro ⟨version, header, hversion, hheader, hover⟩
        exact .header (CborExact.accepts_iff_deserialize.mp ⟨head, sized, hread⟩) hversion hheader hover
      · intro hover
        cases hover with
        | voucher hover => exact absurd ((array_panic_iff.mpr hover).symm.trans harray) nofun
        | header haccepts hversion hheader hover =>
            rcases CborExact.accepts_iff_deserialize.mpr haccepts with ⟨_, _, hagain⟩
            rcases Outcome.ok.inj (hread.symm.trans hagain) with ⟨rfl, rfl⟩
            exact ⟨_, _, hversion, hheader, hover⟩

theorem deserializeFromReader_panic_iff {reader : Bytes} :
    deserializeFromReader P reader = .panic ↔ Overruns P reader := by
  rw [← voucher_panic_iff]
  unfold deserializeFromReader deserializeData ParsedArray.deserializeData
  cases hread : ParsedArray.deserializeFromReader P.profile size5 reader with
  | ok read =>
      change (fromParsedArray P read.1 >>= fun v => .ok (v, read.2)) = .panic ↔
        fromParsedArray P read.1 = .panic
      rw [Outcome.bind_eq_panic]
      constructor
      · rintro (h | ⟨_, _, h⟩)
        · exact h
        · cases h
      · exact .inl
  | err e =>
      refine iff_of_false ?_ ?_
      · split <;> simp
      · split <;> simp_all
  | panic => exact iff_of_true rfl rfl

end FidoOnboard.OwnershipVoucher
