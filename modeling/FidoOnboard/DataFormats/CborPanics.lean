import FidoOnboard.DataFormats.CborCorrect

/-!
# Inputs that stop the array parser

Three heads stop a build with overflow checks: one whose argument is cut off by
the end of the input, a string too long to allocate, and a map whose item count
leaves `u64`. The parser stops exactly on the inputs that lead it to one of them.
-/
namespace FidoOnboard.CborPanics
open CborParser CborGrammar CborCorrect PrefixNotation

/-- `w` starts a head of major type `m` and ends inside its argument. -/
def Truncated (m : MajorType) (w : Bytes) : Prop :=
  ∃ info size bs, w = initialByte m info :: bs ∧ argumentWidth info = some size ∧ bs.length < size

/-- What stops the loop when an item is to be read here. -/
inductive Fatal : Bytes → Prop
  | truncated {m : MajorType} {w : Bytes} : m ≠ .special → Truncated m w → Fatal w
  | byteString {v : Nat} {h r : Bytes} : Head .byteString v h → isizeMax < v → Fatal (h ++ r)
  | textString {v : Nat} {h r : Bytes} : Head .textString v h → isizeMax < v → Fatal (h ++ r)
  | map {v : Nat} {h r : Bytes} : Head .map v h → 2 ^ 64 ≤ 2 * v → Fatal (h ++ r)

/-- The parser for size `N` is led to a head it stops at: the tag in front, the
array head, or, behind items in range and with items still owed, an item. -/
inductive Overrun (N : ParsedArraySize) : Bytes → Prop
  | tag {w : Bytes} : Truncated .tag w → Overrun N w
  | arrayHead {tag : Option Nat} {t w : Bytes} :
      TagPrefix tag t → Truncated .array w → Overrun N (t ++ w)
  | item {tag : Option Nat} {n m : Nat} {t h z r : Bytes} :
      TagPrefix tag t → Head .array n h → (∀ size, N.size = some size → n = size) →
      Owing (Token .bounded) n z (m + 1) → Fatal r → Overrun N (t ++ (h ++ (z ++ r)))

/-! Without overflow checks the count of a map wraps, and stops nothing. -/

/-- What stops the loop of a build of either profile. -/
inductive FatalIn (p : Profile) : Bytes → Prop
  | truncated {m : MajorType} {w : Bytes} : m ≠ .special → Truncated m w → FatalIn p w
  | byteString {v : Nat} {h r : Bytes} : Head .byteString v h → isizeMax < v → FatalIn p (h ++ r)
  | textString {v : Nat} {h r : Bytes} : Head .textString v h → isizeMax < v → FatalIn p (h ++ r)
  | map {v : Nat} {h r : Bytes} : p = .debug → Head .map v h → 2 ^ 64 ≤ 2 * v → FatalIn p (h ++ r)

inductive OverrunIn (p : Profile) (N : ParsedArraySize) : Bytes → Prop
  | tag {w : Bytes} : Truncated .tag w → OverrunIn p N w
  | arrayHead {tag : Option Nat} {t w : Bytes} :
      TagPrefix tag t → Truncated .array w → OverrunIn p N (t ++ w)
  | item {tag : Option Nat} {n m : Nat} {t h z r : Bytes} :
      TagPrefix tag t → Head .array n h → (∀ size, N.size = some size → n = size) →
      Owing (Token (.machine p)) n z (m + 1) → FatalIn p r → OverrunIn p N (t ++ (h ++ (z ++ r)))

theorem fatal_iff {w : Bytes} : Fatal w ↔ FatalIn .debug w := by
  constructor
  · intro h
    cases h with
    | truncated hs ht => exact .truncated hs ht
    | byteString hh hv => exact .byteString hh hv
    | textString hh hv => exact .textString hh hv
    | map hh hv => exact .map rfl hh hv
  · intro h
    cases h with
    | truncated hs ht => exact .truncated hs ht
    | byteString hh hv => exact .byteString hh hv
    | textString hh hv => exact .textString hh hv
    | map _ hh hv => exact .map hh hv

theorem overrun_iff {N : ParsedArraySize} {w : Bytes} : Overrun N w ↔ OverrunIn .debug N w := by
  constructor
  · intro h
    cases h with
    | tag ht => exact .tag ht
    | arrayHead ht hw => exact .arrayHead ht hw
    | item ht hh hsize ho hf => exact .item ht hh hsize ho (fatal_iff.mp hf)
  · intro h
    cases h with
    | tag ht => exact .tag ht
    | arrayHead ht hw => exact .arrayHead ht hw
    | item ht hh hsize ho hf => exact .item ht hh hsize ho (fatal_iff.mpr hf)

/-! ## One head -/

theorem readByte_ne_panic (reader : Bytes) : readByte reader ≠ .panic := by
  cases reader <;> simp [readByte]

theorem readExact_ne_panic (n : Nat) (reader : Bytes) : readExact n reader ≠ .panic := by
  unfold readExact
  split <;> simp

theorem maybeFromU8_ok (b : UInt8) : ∃ m, MajorType.maybeFromU8 (b &&& maskType) = .ok m := by
  have hlt : b.toNat / 32 < 8 := by have := b.toNat_lt; omega
  unfold MajorType.maybeFromU8
  rw [toNat_and_maskType]
  generalize b.toNat / 32 = n at hlt
  match n, hlt with
  | 0, _ | 1, _ | 2, _ | 3, _ | 4, _ | 5, _ | 6, _ | 7, _ => exact ⟨_, rfl⟩

theorem readLen_panic_iff {reader : Bytes} {header : UInt8} :
    readLen reader header = .panic ↔
      ∃ size, argumentWidth (header &&& maskVal).toNat = some size ∧ reader.length < size := by
  unfold readLen
  dsimp only
  generalize (header &&& maskVal).toNat = minor
  cases hs : lengthSize minor with
  | none =>
      simp only [reduceCtorEq, false_iff, not_exists, not_and]
      intro size hw
      obtain ⟨n, rfl⟩ : ∃ n, size = n + 1 := by
        rw [argumentWidth_eq_some] at hw
        exact ⟨size - 1, by omega⟩
      rw [← lengthSize_eq_succ, hs] at hw
      simp at hw
  | some size =>
      cases size with
      | zero =>
          simp only [reduceCtorEq, false_iff, not_exists, not_and]
          intro size hw
          have := lengthSize_eq_zero.mp hs
          rw [argumentWidth_eq_some] at hw
          omega
      | succ n =>
          rw [lengthSize_eq_succ] at hs
          simp only [hs, Option.some.injEq, exists_eq_left', Outcome.bind_eq_panic, reduceCtorEq,
            and_false, exists_false, or_false]
          unfold readExact
          split <;> simp [Outcome.unwrap] <;> omega

theorem truncated_cons_iff {m : MajorType} {b : UInt8} {bs : Bytes} :
    Truncated m (b :: bs) ↔ MajorType.maybeFromU8 (b &&& maskType) = .ok m ∧
      ∃ size, argumentWidth (b &&& maskVal).toNat = some size ∧ bs.length < size := by
  constructor
  · rintro ⟨info, size, bs', he, hw, hlt⟩
    obtain ⟨hb, rfl⟩ := List.cons.inj he
    have hinfo : info ≤ 27 := by rw [argumentWidth_eq_some] at hw; omega
    obtain ⟨hm, hi⟩ := (eq_initialByte_iff hinfo).mp hb
    exact ⟨hm, size, hi.symm ▸ hw, hlt⟩
  · rintro ⟨hm, size, hw, hlt⟩
    have hinfo : (b &&& maskVal).toNat ≤ 27 := by rw [argumentWidth_eq_some] at hw; omega
    have hb : b = initialByte m (b &&& maskVal).toNat := (eq_initialByte_iff hinfo).mpr ⟨hm, rfl⟩
    exact ⟨_, size, bs, congrArg (· :: bs) hb, hw, hlt⟩

/-- A head read by its first byte stops where it is truncated. -/
theorem readLen_panic_iff_truncated {m : MajorType} {b : UInt8} {reader : Bytes}
    (hm : MajorType.maybeFromU8 (b &&& maskType) = .ok m) :
    readLen reader b = .panic ↔ Truncated m (b :: reader) := by
  rw [readLen_panic_iff, truncated_cons_iff]
  simp only [hm, true_and]

/-! ## One round -/

theorem mulU64_panic_iff {p : Profile} {v : Nat} : mulU64 p v 2 = .panic ↔ p = .debug ∧ 2 ^ 64 ≤ 2 * v := by
  unfold mulU64
  rw [Nat.mul_comm v 2]
  cases p with
  | debug =>
      dsimp only
      split <;> simp <;> omega
  | release => simp

/-- The heads whose argument alone stops the round. -/
def TooLarge (p : Profile) (m : MajorType) (v : Nat) : Prop :=
  (m = .byteString ∨ m = .textString) ∧ isizeMax < v ∨ m = .map ∧ p = .debug ∧ 2 ^ 64 ≤ 2 * v

theorem readBody_panic {p : Profile} {m : MajorType} {minor : UInt8} {s : LoopState} {v : Nat} {bs r : Bytes}
    (hr : readLen s.reader minor = .ok (v, bs, r)) :
    readBody p m minor s = .panic ↔ TooLarge p m v := by
  cases m with
  | unsigned | negative | array | tag | special => simp [readBody, hr, TooLarge]
  | byteString | textString =>
      by_cases h : isizeMax < v
      · simp [readBody, hr, TooLarge, h]
      · simp [readBody, hr, TooLarge, h, Outcome.bind_eq_panic, readExact_ne_panic]
  | map =>
      by_cases h : v = 0
      · subst h; simp [readBody, hr, TooLarge]
      · simp [readBody, hr, TooLarge, h, Outcome.bind_eq_panic, mulU64_panic_iff]

theorem readBody_panic_iff {p : Profile} {m : MajorType} {minor : UInt8} {s : LoopState} (hm : m ≠ .tag)
    (hs : m ≠ .special) :
    readBody p m minor s = .panic ↔ readLen s.reader minor = .panic ∨
      ∃ v bs r, readLen s.reader minor = .ok (v, bs, r) ∧ TooLarge p m v := by
  cases hr : readLen s.reader minor with
  | ok value =>
      obtain ⟨v, bs, r⟩ := value
      simp [readBody_panic hr]
  | err e => cases m <;> simp_all [readBody]
  | panic => cases m <;> simp_all [readBody]

theorem readLen_maskVal (reader : Bytes) (b : UInt8) :
    readLen reader (b &&& maskVal) = readLen reader b := by
  unfold readLen
  rw [maskVal_idem]

theorem finishItem_panic_iff {s : LoopState} : finishItem s = .panic ↔ s.leftAtDepth = [] := by
  obtain ⟨left, buf, items, reader⟩ := s
  cases left with
  | nil => simp [finishItem]
  | cons n st =>
      match n with
      | 0 | 1 | n + 2 => unfold finishItem; split <;> simp

theorem readBody_ne_nil {p : Profile} {m : MajorType} {minor : UInt8} {s s₁ : LoopState}
    (hne : s.leftAtDepth ≠ []) (h : readBody p m minor s = .ok s₁) : s₁.leftAtDepth ≠ [] := by
  cases m with
  | unsigned | negative =>
      obtain ⟨_, _, h⟩ := Outcome.bind_eq_ok.mp h
      obtain rfl := Outcome.ok.inj h
      exact hne
  | array =>
      obtain ⟨_, _, h⟩ := Outcome.bind_eq_ok.mp h
      obtain rfl := Outcome.ok.inj h
      dsimp only
      split
      · simp
      · exact hne
  | byteString | textString =>
      obtain ⟨_, _, h⟩ := Outcome.bind_eq_ok.mp h
      dsimp only at h
      split at h
      · cases h
      · obtain ⟨_, _, h⟩ := Outcome.bind_eq_ok.mp h
        obtain rfl := Outcome.ok.inj h
        exact hne
  | map =>
      obtain ⟨_, _, h⟩ := Outcome.bind_eq_ok.mp h
      dsimp only at h
      split at h
      · obtain ⟨_, _, h⟩ := Outcome.bind_eq_ok.mp h
        obtain rfl := Outcome.ok.inj h
        simp
      · obtain rfl := Outcome.ok.inj h
        exact hne
  | tag | special => cases h

theorem fatal_cons_iff {p : Profile} {m : MajorType} {b : UInt8} {reader : Bytes}
    (hm : MajorType.maybeFromU8 (b &&& maskType) = .ok m) :
    FatalIn p (b :: reader) ↔ m ≠ .special ∧ (readLen reader b = .panic ∨
      ∃ v bs r, readLen reader b = .ok (v, bs, r) ∧ TooLarge p m v) := by
  have hread {m' : MajorType} {v : Nat} {h r : Bytes} (hh : Head m' v h) (he : h ++ r = b :: reader) :
      m' = m ∧ ∃ bs, readLen reader b = .ok (v, bs, r) := by
    obtain ⟨info, bs, rfl, ha⟩ := hh
    obtain ⟨rfl, rfl⟩ := List.cons.inj he
    obtain ⟨hm', ha'⟩ := head_cons_iff.mp ⟨info, bs, rfl, ha⟩
    exact ⟨Outcome.ok.inj (hm'.symm.trans hm), bs, readLen_ok_iff.mpr ⟨rfl, ha'⟩⟩
  constructor
  · intro h
    generalize hw : b :: reader = w at h
    cases h with
    | truncated hs ht =>
        subst hw
        obtain rfl := Outcome.ok.inj (hm.symm.trans (truncated_cons_iff.mp ht).1)
        exact ⟨hs, .inl ((readLen_panic_iff_truncated hm).mpr ht)⟩
    | byteString hh hv =>
        obtain ⟨rfl, bs, hr⟩ := hread hh hw.symm
        exact ⟨by decide, .inr ⟨_, bs, _, hr, .inl ⟨.inl rfl, hv⟩⟩⟩
    | textString hh hv =>
        obtain ⟨rfl, bs, hr⟩ := hread hh hw.symm
        exact ⟨by decide, .inr ⟨_, bs, _, hr, .inl ⟨.inr rfl, hv⟩⟩⟩
    | map hp hh hv =>
        obtain ⟨rfl, bs, hr⟩ := hread hh hw.symm
        exact ⟨by decide, .inr ⟨_, bs, _, hr, .inr ⟨rfl, hp, hv⟩⟩⟩
  · rintro ⟨hs, h | ⟨v, bs, r, hr, hv⟩⟩
    · exact .truncated hs ((readLen_panic_iff_truncated hm).mp h)
    · obtain ⟨rfl, ha⟩ := readLen_ok_iff.mp hr
      have hh : Head m v (b :: bs) := head_cons_iff.mpr ⟨hm, ha⟩
      rcases hv with ⟨rfl | rfl, hv⟩ | ⟨rfl, hp, hv⟩
      · exact .byteString hh hv
      · exact .textString hh hv
      · exact .map hp hh hv

theorem not_fatal_nil {p : Profile} : ¬ FatalIn p [] := by
  intro h
  generalize hw : ([] : Bytes) = w at h
  cases h with
  | truncated _ ht => obtain ⟨_, _, _, he, _⟩ := ht; simp [← hw] at he
  | byteString hh _ | textString hh _ | map _ hh _ => obtain ⟨_, _, rfl, _⟩ := hh; simp at hw

/-- One round stops exactly in front of a fatal head. -/
theorem iteration_panic_iff {p : Profile} {s : LoopState} (hne : s.leftAtDepth ≠ []) :
    iteration p s = .panic ↔ FatalIn p s.reader := by
  cases hr : s.reader with
  | nil =>
      simp [iteration, hr, readByte, not_fatal_nil]
  | cons b reader =>
      obtain ⟨m, hm⟩ := maybeFromU8_ok b
      rw [fatal_cons_iff hm]
      simp only [iteration, hr, readByte, hm, Outcome.ok_bind]
      split
      · next ht =>
          subst ht
          simp [Outcome.bind_eq_panic, readLen_maskVal, TooLarge]
      · next ht =>
          by_cases hs : m = .special
          · subst hs; simp [readBody]
          · rw [Outcome.bind_eq_panic, readBody_panic_iff ht hs]
            simp only [readLen_maskVal, ne_eq, hs, not_false_eq_true, true_and, or_iff_left_iff_imp]
            rintro ⟨s₁, hbody, hf⟩
            exact absurd (finishItem_panic_iff.mp hf) (readBody_ne_nil (by exact hne) hbody)

/-! ## Whole inputs -/

theorem owing_zero {Token : Bytes → Nat → Prop} {z : Bytes} {m : Nat} (h : Owing Token 0 z m) :
    m = 0 := by
  cases h with
  | nil => rfl

/-- The loop stops when it is led, with items still owed, to a fatal head. -/
theorem loop_panic_iff {p : Profile} {fuel : Nat} {s : LoopState} (hpos : ∀ a ∈ s.leftAtDepth, a ≠ 0)
    (hfuel : s.reader.length ≤ fuel) :
    loop p fuel s = .panic ↔ ∃ z m r, s.reader = z ++ r ∧
      Owing (Token (.machine p)) s.leftAtDepth.sum z (m + 1) ∧ FatalIn p r := by
  induction fuel generalizing s with
  | zero =>
      have hnil : s.reader = [] := List.length_eq_zero_iff.mp (Nat.le_zero.mp hfuel)
      have hloop : loop p 0 s ≠ .panic := by
        unfold loop
        split <;> simp
      simp only [hloop, false_iff]
      rintro ⟨z, m, r, hr, _, hf⟩
      rw [hnil] at hr
      obtain rfl := (List.append_eq_nil_iff.mp hr.symm).2
      exact not_fatal_nil hf
  | succ fuel ih =>
      unfold loop
      split
      · next h0 =>
          simp only [reduceCtorEq, h0, List.sum_nil, false_iff]
          rintro ⟨z, m, r, _, ho, _⟩
          exact Nat.succ_ne_zero m (owing_zero ho)
      · next hne =>
          rw [Outcome.bind_eq_panic, iteration_panic_iff hne]
          have hstep {w r : Bytes} {k : Nat} (ht : Token (.machine p) w k)
              (hr : s.reader = w ++ r) : loop p fuel (LoopState.after s w k r) = .panic ↔
                ∃ z m r', r = z ++ r' ∧ Owing (Token (.machine p)) (k + (s.leftAtDepth.sum - 1)) z (m + 1) ∧
                  FatalIn p r' := by
            have hw : 0 < w.length := List.length_pos_iff.mpr ht.ne_nil
            have hsum := LoopState.after_sum hne hpos w k r
            have hone : 1 ≤ s.leftAtDepth.sum := by
              have := takeUnit_sum hne hpos
              omega
            rw [ih (by rw [LoopState.after_leftAtDepth]; exact takeUnit_pos (pushCount_pos hpos))
              (by rw [hr, List.length_append] at hfuel; simp only [LoopState.after_reader]; omega),
              LoopState.after_reader,
              show (LoopState.after s w k r).leftAtDepth.sum = k + (s.leftAtDepth.sum - 1) by omega]
          obtain ⟨n, hn⟩ : ∃ n, s.leftAtDepth.sum = n + 1 :=
            ⟨_, (takeUnit_sum hne hpos).symm⟩
          rw [hn, Nat.add_sub_cancel] at hstep
          rw [hn]
          constructor
          · rintro (hf | ⟨s', hi, hl⟩)
            · exact ⟨[], n, s.reader, rfl, .nil, hf⟩
            · obtain ⟨w, k, r, ht, hr, rfl⟩ := (iteration_ok_iff hne hpos).mp hi
              obtain ⟨z, m, r', rfl, ho, hf⟩ := (hstep ht hr).mp hl
              exact ⟨w ++ z, m, r', by rw [hr, List.append_assoc], .cons ht ho, hf⟩
          · rintro ⟨z, m, r, hr, ho, hf⟩
            cases ho with
            | nil => exact .inl (by rwa [hr])
            | @cons _ k _ w z ht ho =>
                rw [List.append_assoc] at hr
                exact .inr ⟨_, (iteration_ok_iff hne hpos).mpr ⟨w, k, z ++ r, ht, hr, rfl⟩,
                  (hstep ht hr).mpr ⟨z, m, r, rfl, ho, hf⟩⟩

theorem readItems_panic_iff {p : Profile} {N : ParsedArraySize} {tag : Option Nat} {headerBuf reader : Bytes}
    {n : Nat} (hn : n ≠ 0) :
    ParsedArray.readItems p N tag headerBuf n reader = .panic ↔
      ∃ z m r, reader = z ++ r ∧ Owing (Token (.machine p)) n z (m + 1) ∧ FatalIn p r := by
  have hrun := @loop_panic_iff p reader.length ⟨[n], [], [], reader⟩ (by simpa using hn) le_rfl
  simp only [List.sum_cons, List.sum_nil, Nat.add_zero] at hrun
  unfold ParsedArray.readItems
  rw [Outcome.bind_eq_panic, run, hrun]
  refine or_iff_left ?_
  rintro ⟨s, _, h⟩
  split at h
  · cases h
  · split at h <;> cases h

theorem readSized_panic_iff {p : Profile} {N : ParsedArraySize} {tag : Option Nat} {headerBuf reader : Bytes}
    {n : Nat} :
    ParsedArray.readSized p N tag headerBuf n reader = .panic ↔
      (∀ size, N.size = some size → n = size) ∧
        ∃ z m r, reader = z ++ r ∧ Owing (Token (.machine p)) n z (m + 1) ∧ FatalIn p r := by
  unfold ParsedArray.readSized
  split
  · next size hsize =>
      simp only [hsize, Option.some.injEq, forall_eq']
      by_cases hn : n = size
      · have h0 : n ≠ 0 := by
          cases N with
          | dynamic => cases hsize
          | static k hk =>
              obtain rfl : k = size := Option.some.inj hsize
              omega
        simp only [hn, ne_eq, not_true_eq_false, if_false, true_and]
        exact hn ▸ readItems_panic_iff h0
      · simp [hn]
  · next hsize =>
      simp only [hsize, reduceCtorEq, false_implies, implies_true, true_and]
      by_cases hn : n = 0
      · subst hn
        simp only [if_true, reduceCtorEq, false_iff]
        rintro ⟨z, m, r, _, ho, _⟩
        exact Nat.succ_ne_zero m (owing_zero ho)
      · simp only [hn, if_false]
        exact readItems_panic_iff hn

theorem readTag_panic_iff {reader : Bytes} : readTag reader = .panic ↔ Truncated .tag reader := by
  cases reader with
  | nil =>
      simp only [readTag, reduceCtorEq, false_iff]
      rintro ⟨_, _, _, he, _⟩
      cases he
  | cons first reader =>
      obtain ⟨m, hm⟩ := maybeFromU8_ok first
      simp only [readTag, hm, Outcome.ok_bind]
      by_cases ht : m = .tag
      · subst ht
        rw [← readLen_panic_iff_truncated hm]
        simp [Outcome.bind_eq_panic, readByte_ne_panic]
      · rw [truncated_cons_iff, hm]
        cases m <;> simp_all

theorem deserializeFromReader_front {p : Profile} {N : ParsedArraySize} {tag : Option Nat} {t r : Bytes} {first : UInt8}
    (ht : TagPrefix tag t) (hm : MajorType.maybeFromU8 (first &&& maskType) = .ok .array) :
    ParsedArray.deserializeFromReader p N (t ++ first :: r) = (do
      let (mapLen, mapLenBytes, reader) ← readLen r first
      ParsedArray.readSized p N tag (t ++ [first] ++ mapLenBytes) mapLen reader) := by
  have htag : readTag (t ++ first :: r) = .ok (tag, t ++ [first], first, r) :=
    readTag_ok_iff.mpr ⟨t, rfl, rfl, ht, fun _ => hm⟩
  simp [ParsedArray.deserializeFromReader, htag, hm]

/-- Behind the tag: the array head stops, or what follows it does. -/
theorem deserializeFromReader_panic_iff {p : Profile} {N : ParsedArraySize} {b : Bytes} :
    ParsedArray.deserializeFromReader p N b = .panic ↔ OverrunIn p N b := by
  constructor
  · intro h
    rcases Outcome.bind_eq_panic.mp h with ht | ⟨⟨tag, headerBuf, first, r⟩, ht, h₁⟩
    · exact .tag (readTag_panic_iff.mp ht)
    obtain ⟨t, rfl, _, hfront, _⟩ := readTag_ok_iff.mp ht
    obtain ⟨m, hm⟩ := maybeFromU8_ok first
    dsimp only at h₁
    rw [hm, Outcome.ok_bind] at h₁
    split at h₁
    · cases h₁
    · next harray =>
        obtain rfl : m = .array := by simpa using harray
        rcases Outcome.bind_eq_panic.mp h₁ with hl | ⟨⟨n, bs, r'⟩, hl, h₂⟩
        · exact .arrayHead hfront ((readLen_panic_iff_truncated hm).mp hl)
        · obtain ⟨rfl, ha⟩ := readLen_ok_iff.mp hl
          obtain ⟨hsize, z, m, r, rfl, ho, hf⟩ := readSized_panic_iff.mp h₂
          exact .item hfront (head_cons_iff.mpr ⟨hm, ha⟩) hsize ho hf
  · intro h
    cases h with
    | tag ht => simp [ParsedArray.deserializeFromReader, readTag_panic_iff.mpr ht]
    | @arrayHead tag t w ht hw =>
        obtain ⟨info, size, bs, rfl, hrest⟩ := id hw
        obtain ⟨hm, _⟩ := truncated_cons_iff.mp hw
        rw [deserializeFromReader_front ht hm, (readLen_panic_iff_truncated hm).mpr hw, Outcome.panic_bind]
    | @item tag n m t hd z r ht hh hsize ho hf =>
        obtain ⟨info, bs, rfl, hrest⟩ := id hh
        obtain ⟨hm, ha⟩ := head_cons_iff.mp hh
        have hl : readLen (bs ++ (z ++ r)) (initialByte .array info) = .ok (n, bs, z ++ r) :=
          readLen_ok_iff.mpr ⟨rfl, ha⟩
        rw [List.cons_append, deserializeFromReader_front ht hm, hl, Outcome.ok_bind]
        exact readSized_panic_iff.mpr ⟨hsize, z, m, r, rfl, ho, hf⟩

/-- A reading that neither returns nor reports an error has stopped. -/
def ReturnsOrReports {α : Type} (x : Outcome Error α) : Prop :=
  (∃ a, x = .ok a) ∨ ∃ e, x = .err e

theorem returnsOrReports_iff {α : Type} {x : Outcome Error α} : ReturnsOrReports x ↔ x ≠ .panic := by
  cases x <;> simp [ReturnsOrReports]

theorem parser_returns_iff_no_overrun (N : ParsedArraySize) (b : Bytes) :
    ReturnsOrReports (ParsedArray.deserializeFromReader .debug N b) ↔ ¬ Overrun N b := by
  rw [returnsOrReports_iff, ne_eq, deserializeFromReader_panic_iff, overrun_iff]

/-- An array of one text whose two length bytes were cut to one. -/
theorem truncated_length_stops :
    ¬ ReturnsOrReports (ParsedArray.deserializeFromReader .debug (.static 1 (by decide))
      [0x81, 0x79, 0x01]) := by
  rw [returnsOrReports_iff, not_not]
  decide +kernel

end FidoOnboard.CborPanics
