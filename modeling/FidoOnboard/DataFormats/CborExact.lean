import FidoOnboard.DataFormats.CborCorrect

/-!
# Counting modulo 2^64 against counting exactly

The parser follows the grammar with the counts it computes. It follows the
grammar with exact counts as long as no accepted reading meets a map whose pair
count doubles past `u64`, or a string that cannot be allocated.
-/
namespace FidoOnboard.CborExact
open CborParser CborGrammar CborCorrect PrefixNotation

theorem accepts_iff_deserialize {p : Profile} {N : ParsedArraySize} {b rest : Bytes}
    {tag : Option Nat} {contents : List Bytes} :
    (∃ header sized,
        ParsedArray.deserializeFromReader p N b = .ok (⟨tag, header, contents, sized⟩, rest)) ↔
      Accepts (.machine p) N b tag contents rest := by
  constructor
  · rintro ⟨header, sized, h⟩
    obtain ⟨tagHead, arrayHead, hb, htag, hhead, _, hitems⟩ := deserializeFromReader_ok_iff.mp h
    exact ⟨tagHead, arrayHead, hb, htag, hhead, sized, hitems⟩
  · rintro ⟨tagHead, arrayHead, hb, htag, hhead, sized, hitems⟩
    exact ⟨_, sized, deserializeFromReader_ok_iff.mpr ⟨tagHead, arrayHead, hb, htag, hhead, rfl, hitems⟩⟩

/-! ## Countings compared -/

theorem machine_below_exact (p : Profile) : Below (Token (.machine p)) (Token .exact) := by
  apply token_below
  intro v k k' hk hk'
  obtain rfl : 2 * v = k' := Option.some.inj hk'
  cases p with
  | debug =>
      simp only [Counting.machine, Counting.bounded, Option.ite_none_right_eq_some] at hk
      exact (Option.some.inj hk.2).symm.le
  | release =>
      simp only [Counting.machine, Option.ite_none_left_eq_some] at hk
      exact (Option.some.inj hk.2) ▸ Nat.mod_le _ _

theorem bounded_to_exact {x : Bytes} (h : WellFormed .bounded x) : WellFormed .exact x := by
  rw [wellFormed_iff_item] at h ⊢
  refine h.mono fun w k ht => ht.mono ?_ (fun _ _ => trivial)
  intro v k hk
  simp only [Counting.bounded, Option.ite_none_right_eq_some] at hk
  exact hk.2

theorem bounded_to_machine (p : Profile) {x : Bytes} (h : WellFormed .bounded x) :
    WellFormed (.machine p) x := by
  cases p with
  | debug => exact h
  | release =>
      rw [wellFormed_iff_item] at h ⊢
      refine h.mono fun w k ht => @Token.mono .bounded (.machine .release) ?_ (fun _ hs => hs) w k ht
      intro v k hk
      simp only [Counting.bounded, Option.ite_none_right_eq_some] at hk
      obtain ⟨hlt, rfl⟩ := hk.imp_right Option.some.inj
      simp only [Counting.machine, Nat.mod_eq_of_lt hlt]
      rw [if_neg (by omega)]

/-- A map counted alike by the machine and exactly did not overflow. -/
theorem token_bounded {p : Profile} {w : Bytes} {k : Nat} (h : Token (.machine p) w k)
    (h' : Token .exact w k) : Token .bounded w k := by
  cases p with
  | debug => exact h
  | release =>
      obtain ⟨m, v, hd, s, rfl, hh, hb⟩ := h
      obtain ⟨m', v', hd', s', he, hh', hb'⟩ := h'
      obtain ⟨rfl, rfl, rfl⟩ := hh.unique hh' he
      refine ⟨m, v, hd, s, rfl, hh, ?_⟩
      cases hb with
      | unsigned => exact .unsigned
      | negative => exact .negative
      | byteString hl hf => exact .byteString hl hf
      | textString hl hf => exact .textString hl hf
      | tag => exact .tag
      | array => exact .array
      | map hk =>
          generalize hs : s' = s₀ at hb'
          cases hb' with
          | map hk' =>
              obtain rfl : 2 * v = k := Option.some.inj hk'
              simp only [Counting.machine, Option.ite_none_left_eq_some] at hk
              have hlt : 2 * v < 2 ^ 64 := by
                have hmod := Option.some.inj hk.2
                have := Nat.mod_lt (2 * v) (show 0 < 2 ^ 64 by decide)
                omega
              exact .map (by simp only [Counting.bounded, if_pos hlt])

theorem wellFormed_bounded {p : Profile} {x : Bytes} (h : WellFormed (.machine p) x)
    (h' : WellFormed .exact x) : WellFormed .bounded x := by
  rw [wellFormed_iff_item] at h h' ⊢
  exact (h.counted_alike (machine_below_exact p) h').mono fun w k ht => token_bounded ht.1 ht.2

theorem accepts_recount {c c' : Counting} {N : ParsedArraySize} {b rest : Bytes}
    {tag : Option Nat} {contents : List Bytes} (h : Accepts c N b tag contents rest)
    (hc : ∀ x ∈ contents, WellFormed c' x) : Accepts c' N b tag contents rest := by
  obtain ⟨tagHead, arrayHead, hb, htag, hhead, sized, _⟩ := h
  exact ⟨tagHead, arrayHead, hb, htag, hhead, sized, hc⟩

/-! ## The parser against the exact grammar -/

/-- On `b` the parser returns what the grammar with exact counts says, and nothing else. -/
def FollowsGrammar (p : Profile) (N : ParsedArraySize) (b : Bytes) : Prop :=
  ∀ tag contents rest,
    (∃ header sized,
        ParsedArray.deserializeFromReader p N b = .ok (⟨tag, header, contents, sized⟩, rest)) ↔
      Accepts .exact N b tag contents rest

/-- However the maps of `b` are counted, exactly or by the machine, an array read
off its front holds no map of 2^63 pairs or more and no string longer than `isize::MAX`. -/
def CountsInRange (p : Profile) (N : ParsedArraySize) (b : Bytes) : Prop :=
  ∀ tag contents rest,
    Accepts .exact N b tag contents rest ∨ Accepts (.machine p) N b tag contents rest →
      ∀ x ∈ contents, WellFormed .bounded x

theorem followsGrammar_iff_countsInRange (p : Profile) (N : ParsedArraySize) (b : Bytes) :
    FollowsGrammar p N b ↔ CountsInRange p N b := by
  simp only [FollowsGrammar, accepts_iff_deserialize]
  constructor
  · intro h tag contents rest hacc x hx
    have hboth : Accepts (.machine p) N b tag contents rest ∧ Accepts .exact N b tag contents rest :=
      hacc.elim (fun he => ⟨(h _ _ _).mpr he, he⟩) (fun hm => ⟨hm, (h _ _ _).mp hm⟩)
    obtain ⟨⟨_, _, _, _, _, _, hm⟩, ⟨_, _, _, _, _, _, he⟩⟩ := hboth
    exact wellFormed_bounded (hm x hx) (he x hx)
  · intro h tag contents rest
    constructor
    · intro hm
      exact accepts_recount hm fun x hx => bounded_to_exact (h _ _ _ (.inr hm) x hx)
    · intro he
      exact accepts_recount he fun x hx => bounded_to_machine p (h _ _ _ (.inl he) x hx)

/-- A release build reads an array of one map with 2^63 + 1 pairs off twelve bytes:
the item count wraps to two, and two integers follow. -/
def wrappingMap : Bytes := [0x81, 0xbb, 0x80, 0, 0, 0, 0, 0, 0, 1, 1, 2]

theorem wrappingMap_not_followsGrammar :
    ¬ FollowsGrammar .release (.static 1 (by decide)) wrappingMap := by
  intro h
  have hparse : ∃ header sized, ParsedArray.deserializeFromReader .release (.static 1 (by decide))
      wrappingMap = .ok (⟨none, header, [wrappingMap.tail], sized⟩, []) :=
    ⟨some [0x81], by decide, by decide +kernel⟩
  obtain ⟨_, _, _, _, _, _, hexact⟩ := (h none [wrappingMap.tail] []).mp hparse
  have hmachine := accepts_iff_deserialize.mp hparse
  obtain ⟨_, _, _, _, _, _, hwrapped⟩ := id hmachine
  -- counted alike, the map would be in range, and a debug build would not stop at it
  have hdebug : Accepts (.machine .debug) (.static 1 (by decide)) wrappingMap none
      [wrappingMap.tail] [] :=
    accepts_recount hmachine fun x hx => wellFormed_bounded (hwrapped x hx) (hexact x hx)
  obtain ⟨_, _, hpanic⟩ := accepts_iff_deserialize.mpr hdebug
  have hstop : ParsedArray.deserializeFromReader .debug (.static 1 (by decide)) wrappingMap =
      .panic := by decide +kernel
  rw [hstop] at hpanic
  cases hpanic

end FidoOnboard.CborExact
