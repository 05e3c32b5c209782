import FidoOnboard.DataFormats.CborGrammar
import Mathlib.Tactic.IntervalCases

/-!
# The array parser accepts its grammar

The loop keeps a stack of counters, and a container takes the first unit of the
counter it has just pushed, while its last child takes the unit of the parent.
Read flat, the sum of the stack is the number of items still owed; that is all
the proof needs of the stack, apart from the bottom counter, which tells where a
top-level item ends.
-/
namespace FidoOnboard.CborCorrect
open CborParser CborGrammar PrefixNotation

/-! ## Single reads -/

theorem toNat_and_maskVal (b : UInt8) : (b &&& maskVal).toNat = b.toNat % 32 := by
  rw [UInt8.toNat_and]
  exact Nat.and_two_pow_sub_one_eq_mod b.toNat 5

theorem toNat_and_maskType (b : UInt8) : ((b &&& maskType) >>> 5).toNat = b.toNat / 32 := by
  have h : ∀ n < 256, ((UInt8.ofNat n &&& maskType) >>> 5).toNat = n / 32 := by decide +kernel
  simpa using h b.toNat b.toNat_lt

theorem maybeFromU8_ok_iff {b : UInt8} {m : MajorType} :
    MajorType.maybeFromU8 (b &&& maskType) = .ok m ↔ b.toNat / 32 = (MajorType.toU8 m).toNat := by
  have hlt : b.toNat / 32 < 8 := by have := b.toNat_lt; omega
  unfold MajorType.maybeFromU8
  rw [toNat_and_maskType]
  generalize b.toNat / 32 = q at hlt
  interval_cases q <;> cases m <;> simp [MajorType.toU8]

theorem eq_initialByte_iff {b : UInt8} {m : MajorType} {info : Nat} (h : info ≤ 27) :
    b = initialByte m info ↔
      MajorType.maybeFromU8 (b &&& maskType) = .ok m ∧ (b &&& maskVal).toNat = info := by
  rw [maybeFromU8_ok_iff, toNat_and_maskVal, ← UInt8.toNat_inj, initialByte_toNat m h]
  omega

theorem readByte_ok_iff {reader reader' : Bytes} {b : UInt8} :
    readByte reader = .ok (b, reader') ↔ reader = b :: reader' := by
  cases reader <;> simp [readByte]

theorem readExact_ok_iff {n : Nat} {reader buf reader' : Bytes} :
    readExact n reader = .ok (buf, reader') ↔ reader = buf ++ reader' ∧ buf.length = n := by
  unfold readExact
  split
  · next h =>
      simp only [Outcome.ok.injEq, Prod.mk.injEq]
      constructor
      · rintro ⟨rfl, rfl⟩
        exact ⟨(List.take_append_drop n reader).symm, List.length_take_of_le h⟩
      · rintro ⟨rfl, rfl⟩
        simp
  · next h =>
      simp only [reduceCtorEq, false_iff]
      rintro ⟨rfl, rfl⟩
      simp at h

theorem lengthSize_eq_zero {minor : Nat} : lengthSize minor = some 0 ↔ minor ≤ 23 := by
  unfold lengthSize
  by_cases h : minor ≤ 23
  · simp [h]
  · simp only [h, if_false, iff_false]
    split <;> simp

theorem lengthSize_eq_succ {minor size : Nat} :
    lengthSize minor = some (size + 1) ↔ argumentWidth minor = some (size + 1) := by
  rw [argumentWidth_eq_some]
  unfold lengthSize
  by_cases h : minor ≤ 23
  · simp only [h, if_true, Option.some.injEq]
    omega
  · simp only [h, if_false]
    split <;> simp_all

/-- `read_len` reads exactly an argument. -/
theorem readLen_ok_iff {reader reader' bs : Bytes} {header : UInt8} {v : Nat} :
    readLen reader header = .ok (v, bs, reader') ↔
      reader = bs ++ reader' ∧ Argument (header &&& maskVal).toNat v bs := by
  unfold readLen
  dsimp only
  generalize (header &&& maskVal).toNat = minor
  constructor
  · intro h
    split at h
    · cases h
    · next hz =>
        simp only [Outcome.ok.injEq, Prod.mk.injEq] at h
        obtain ⟨rfl, rfl, rfl⟩ := h
        exact ⟨rfl, .inline (lengthSize_eq_zero.mp hz)⟩
    · next size hz hs =>
        obtain ⟨size, rfl⟩ := Nat.exists_eq_succ_of_ne_zero hz
        obtain ⟨⟨buf, r⟩, hr, h⟩ := Outcome.bind_eq_ok.mp h
        simp only [Outcome.ok.injEq, Prod.mk.injEq] at h
        obtain ⟨rfl, rfl, rfl⟩ := h
        obtain ⟨rfl, hlen⟩ := readExact_ok_iff.mp (Outcome.unwrap_eq_ok.mp hr)
        exact ⟨rfl, .wide ((lengthSize_eq_succ.mp hs).trans (congrArg some hlen.symm))⟩
  · rintro ⟨rfl, ha⟩
    cases ha with
    | inline hv => simp [lengthSize_eq_zero.mpr hv]
    | wide hw =>
        obtain ⟨size, hs⟩ : ∃ size, bs.length = size + 1 := by
          rw [argumentWidth_eq_some] at hw
          exact Nat.exists_eq_succ_of_ne_zero (by omega)
        have hl : lengthSize minor = some (size + 1) :=
          lengthSize_eq_succ.mpr (hw.trans (congrArg some hs))
        have hr : ((readExact (size + 1) (bs ++ reader')).unwrap : Outcome Error _) =
            .ok (bs, reader') := Outcome.unwrap_eq_ok.mpr (readExact_ok_iff.mpr ⟨rfl, hs⟩)
        simp [hl, hr]

/-! ## One round of the loop -/

/-- The counter a token with `k` children leaves on the stack before the round ends. -/
def pushCount (k : Nat) (st : List Nat) : List Nat := if k = 0 then st else k :: st

def takeUnit : List Nat → List Nat
  | 1 :: st => st
  | (n + 2) :: st => (n + 1) :: st
  | st => st

/-- The state behind a token: `r` is left to read. -/
def LoopState.after (s : LoopState) (w : Bytes) (k : Nat) (r : Bytes) : LoopState :=
  let st := pushCount k s.leftAtDepth
  if st.length = 1 then ⟨takeUnit st, [], s.parsedItems ++ [s.toplevelBuf ++ w], r⟩
  else ⟨takeUnit st, s.toplevelBuf ++ w, s.parsedItems, r⟩

theorem mapItems_zero (p : Profile) : (Counting.machine p).mapItems 0 = some 0 := by
  cases p <;> simp [Counting.machine, Counting.bounded]

theorem mulU64_two {p : Profile} {v k : Nat} (hv : v ≠ 0) (hk : k ≠ 0) :
    mulU64 p v 2 = .ok k ↔ (Counting.machine p).mapItems v = some k := by
  unfold mulU64
  rw [Nat.mul_comm v 2]
  cases p with
  | debug =>
      simp only [Counting.machine, Counting.bounded]
      split <;> simp
  | release =>
      simp only [Counting.machine, ne_eq, hv, not_false_eq_true, true_and, Outcome.ok.injEq]
      split
      · next h => simp only [h, reduceCtorEq, iff_false]; omega
      · simp

theorem mapItems_ne_zero {p : Profile} {v k : Nat} (hv : v ≠ 0)
    (h : (Counting.machine p).mapItems v = some k) : k ≠ 0 := by
  cases p with
  | debug =>
      simp only [Counting.machine, Counting.bounded] at h
      split at h
      · have := Option.some.inj h; omega
      · cases h
  | release =>
      simp only [Counting.machine] at h
      split at h
      · cases h
      · have := Option.some.inj h; omega

/-- A counter of zero, which only a wrapped map count leaves, ends the parse. -/
theorem finishItem_zero {s s' : LoopState} {st : List Nat} (h : s.leftAtDepth = 0 :: st) :
    finishItem s ≠ .ok s' := by
  unfold finishItem
  split <;> simp [h]

theorem finishItem_ok {s : LoopState} (hne : s.leftAtDepth ≠ []) (hpos : ∀ n ∈ s.leftAtDepth, n ≠ 0) :
    finishItem s = .ok (if s.leftAtDepth.length = 1 then
        ⟨takeUnit s.leftAtDepth, [], s.parsedItems ++ [s.toplevelBuf], s.reader⟩
      else { s with leftAtDepth := takeUnit s.leftAtDepth }) := by
  obtain ⟨left, buf, items, reader⟩ := s
  cases left with
  | nil => exact absurd rfl hne
  | cons n st =>
      match n with
      | 0 => exact absurd rfl (hpos 0 (by simp))
      | 1 => unfold finishItem; split <;> simp_all [takeUnit]
      | n + 2 => unfold finishItem; split <;> simp_all [takeUnit]

theorem readBody_complete {p : Profile} {m : MajorType} {minor : UInt8} {s : LoopState}
    {v k : Nat} {bs str r : Bytes} (hm : m ≠ .tag) (ha : Argument (minor &&& maskVal).toNat v bs)
    (hb : Body (.machine p) m v str k) (hr : s.reader = bs ++ (str ++ r)) :
    readBody p m minor s = .ok
      ⟨pushCount k s.leftAtDepth, s.toplevelBuf ++ (bs ++ str), s.parsedItems, r⟩ := by
  have hlen := readLen_ok_iff.mpr ⟨hr, ha⟩
  cases hb with
  | unsigned | negative => simp [readBody, hlen, pushCount]
  | byteString hl hf | textString hl hf =>
      have hf : ¬ isizeMax < v := by cases p <;> exact Nat.not_lt.mpr hf
      have hx : readExact v (str ++ r) = .ok (str, r) := readExact_ok_iff.mpr ⟨rfl, hl⟩
      simp [readBody, hlen, hf, hx, pushCount]
  | tag => exact absurd rfl hm
  | array =>
      by_cases hv : v = 0 <;> simp [readBody, hlen, hv, pushCount]
  | map hk =>
      by_cases hv : v = 0
      · subst hv
        obtain rfl : 0 = k := Option.some.inj ((mapItems_zero p).symm.trans hk)
        simp [readBody, hlen, pushCount]
      · have hk0 := mapItems_ne_zero hv hk
        simp [readBody, hlen, hv, (mulU64_two hv hk0).mpr hk, pushCount, hk0]

theorem readBody_sound {p : Profile} {m : MajorType} {minor : UInt8} {s s₁ s' : LoopState}
    (h : readBody p m minor s = .ok s₁) (hf : finishItem s₁ = .ok s') :
    ∃ v bs str k r, Argument (minor &&& maskVal).toNat v bs ∧ Body (.machine p) m v str k ∧
      s.reader = bs ++ (str ++ r) ∧
      s₁ = ⟨pushCount k s.leftAtDepth, s.toplevelBuf ++ (bs ++ str), s.parsedItems, r⟩ := by
  cases m with
  | unsigned | negative =>
      obtain ⟨⟨v, bs, r⟩, hlen, h⟩ := Outcome.bind_eq_ok.mp h
      obtain ⟨hr, ha⟩ := readLen_ok_iff.mp hlen
      obtain rfl := Outcome.ok.inj h
      exact ⟨v, bs, [], 0, r, ha, by constructor, hr, by simp [pushCount]⟩
  | byteString | textString =>
      obtain ⟨⟨v, bs, r⟩, hlen, h⟩ := Outcome.bind_eq_ok.mp h
      obtain ⟨hr, ha⟩ := readLen_ok_iff.mp hlen
      dsimp only at h
      split at h
      · cases h
      · next hfit =>
          obtain ⟨⟨str, r'⟩, hx, hs⟩ := Outcome.bind_eq_ok.mp h
          obtain ⟨rfl, hl⟩ := readExact_ok_iff.mp hx
          obtain rfl := Outcome.ok.inj hs
          have hfit : (Counting.machine p).stringFits v := by cases p <;> exact Nat.not_lt.mp hfit
          exact ⟨v, bs, str, 0, r', ha, by constructor <;> assumption, hr, by simp [pushCount]⟩
  | array =>
      obtain ⟨⟨v, bs, r⟩, hlen, h⟩ := Outcome.bind_eq_ok.mp h
      obtain ⟨hr, ha⟩ := readLen_ok_iff.mp hlen
      obtain rfl := Outcome.ok.inj h
      refine ⟨v, bs, [], v, r, ha, .array, hr, ?_⟩
      by_cases hv : v = 0 <;> simp [pushCount, hv]
  | map =>
      obtain ⟨⟨v, bs, r⟩, hlen, h⟩ := Outcome.bind_eq_ok.mp h
      obtain ⟨hr, ha⟩ := readLen_ok_iff.mp hlen
      dsimp only at h
      split at h
      · next hv =>
          obtain ⟨k, hmul, h⟩ := Outcome.bind_eq_ok.mp h
          obtain rfl := Outcome.ok.inj h
          have hk : k ≠ 0 := by
            rintro rfl
            exact finishItem_zero rfl hf
          exact ⟨v, bs, [], k, r, ha, .map ((mulU64_two hv hk).mp hmul), hr,
            by simp [pushCount, hk]⟩
      · next hv =>
          obtain rfl : v = 0 := by simpa using hv
          obtain rfl := Outcome.ok.inj h
          exact ⟨0, bs, [], 0, r, ha, .map (mapItems_zero p), hr, by simp [pushCount]⟩
  | tag | special => cases h

theorem maskVal_idem (b : UInt8) : ((b &&& maskVal) &&& maskVal).toNat = (b &&& maskVal).toNat := by
  rw [toNat_and_maskVal, toNat_and_maskVal, Nat.mod_mod]

/-- A token, split at its first byte as a round reads it. -/
theorem token_iff {c : Counting} {w : Bytes} {k : Nat} :
    Token c w k ↔ ∃ b m v bs str, w = b :: (bs ++ str) ∧
      MajorType.maybeFromU8 (b &&& maskType) = .ok m ∧
      Argument ((b &&& maskVal) &&& maskVal).toNat v bs ∧ Body c m v str k := by
  constructor
  · rintro ⟨m, v, _, str, rfl, ⟨info, bs, rfl, ha⟩, hb⟩
    obtain ⟨hm, hi⟩ := (eq_initialByte_iff ha.info_le).mp rfl
    exact ⟨_, m, v, bs, str, rfl, hm, by rwa [maskVal_idem, hi], hb⟩
  · rintro ⟨b, m, v, bs, str, rfl, hm, ha, hb⟩
    rw [maskVal_idem] at ha
    have hi := (eq_initialByte_iff ha.info_le).mpr ⟨hm, rfl⟩
    exact ⟨m, v, b :: bs, str, rfl, ⟨_, bs, by rw [← hi], ha⟩, hb⟩

theorem pushCount_ne_nil {k : Nat} {st : List Nat} (hne : st ≠ []) : pushCount k st ≠ [] := by
  unfold pushCount
  split
  · exact hne
  · simp

theorem pushCount_pos {k : Nat} {st : List Nat} (hpos : ∀ n ∈ st, n ≠ 0) :
    ∀ n ∈ pushCount k st, n ≠ 0 := by
  unfold pushCount
  split
  · exact hpos
  · simpa using ⟨‹_›, hpos⟩

/-- What one round does, tags included: a tag is a token with one child, whose
counter is taken off again in the same round. -/
theorem iteration_ok_iff {p : Profile} {s s' : LoopState} (hne : s.leftAtDepth ≠ [])
    (hpos : ∀ n ∈ s.leftAtDepth, n ≠ 0) :
    iteration p s = .ok s' ↔
      ∃ w k r, Token (.machine p) w k ∧ s.reader = w ++ r ∧ s' = LoopState.after s w k r := by
  have htag (w r : Bytes) : LoopState.after s w 1 r =
      { s with toplevelBuf := s.toplevelBuf ++ w, reader := r } := by
    simp [LoopState.after, pushCount, takeUnit, hne]
  have hfin (k : Nat) (w r : Bytes) :
      finishItem ⟨pushCount k s.leftAtDepth, s.toplevelBuf ++ w, s.parsedItems, r⟩ =
        .ok (LoopState.after s w k r) := by
    rw [finishItem_ok (pushCount_ne_nil hne) (pushCount_pos hpos)]
    simp only [LoopState.after]
  constructor
  · intro h
    obtain ⟨⟨b, r⟩, hb, h⟩ := Outcome.bind_eq_ok.mp h
    rw [readByte_ok_iff] at hb
    obtain ⟨m, hm, h⟩ := Outcome.bind_eq_ok.mp h
    dsimp only at h hm
    split at h
    · next ht =>
        subst ht
        obtain ⟨⟨v, bs, r'⟩, hlen, hs⟩ := Outcome.bind_eq_ok.mp h
        obtain ⟨rfl, ha⟩ := readLen_ok_iff.mp hlen
        obtain rfl := Outcome.ok.inj hs
        refine ⟨b :: bs, 1, r', token_iff.mpr ⟨b, .tag, v, bs, [], by simp, hm, ha, .tag⟩, hb, ?_⟩
        rw [htag]
        simp
    · obtain ⟨s₁, hbody, hf⟩ := Outcome.bind_eq_ok.mp h
      obtain ⟨v, bs, str, k, r', ha, hB, hr, rfl⟩ := readBody_sound hbody hf
      refine ⟨b :: (bs ++ str), k, r', token_iff.mpr ⟨b, m, v, bs, str, rfl, hm, ha, hB⟩, ?_, ?_⟩
      · dsimp only at hr
        simp [hb, hr]
      · have he := hfin k (b :: (bs ++ str)) r'
        simp only [List.append_assoc, List.singleton_append] at hf
        exact Outcome.ok.inj (hf.symm.trans he)
  · rintro ⟨w, k, r, ht, hr, rfl⟩
    obtain ⟨b, m, v, bs, str, rfl, hm, ha, hB⟩ := token_iff.mp ht
    have hb : readByte s.reader = .ok (b, bs ++ (str ++ r)) :=
      readByte_ok_iff.mpr (by simp [hr])
    simp only [iteration, hb, hm, Outcome.ok_bind]
    split
    · next hmt =>
        subst hmt
        cases hB
        have hlen : readLen (bs ++ r) (b &&& maskVal) = .ok (v, bs, r) :=
          readLen_ok_iff.mpr ⟨rfl, ha⟩
        simp [hlen, htag]
    · next hmt =>
        rw [readBody_complete hmt ha hB rfl, Outcome.ok_bind, ← hfin]
        simp

/-! ## Whole runs -/

theorem takeUnit_cons {t : Nat} {st : List Nat} (ht : t ≠ 0) :
    takeUnit (t :: st) = if t = 1 then st else (t - 1) :: st := by
  match t with
  | 0 => exact absurd rfl ht
  | 1 => rfl
  | t + 2 => rfl

theorem takeUnit_pos {st : List Nat} (hpos : ∀ n ∈ st, n ≠ 0) : ∀ n ∈ takeUnit st, n ≠ 0 := by
  cases st with
  | nil => simp [takeUnit]
  | cons t st =>
      rw [takeUnit_cons (hpos t (by simp))]
      simp only [List.mem_cons, forall_eq_or_imp] at hpos
      split
      · exact hpos.2
      · simp only [List.mem_cons, forall_eq_or_imp]
        exact ⟨by omega, hpos.2⟩

theorem takeUnit_sum {st : List Nat} (hne : st ≠ []) (hpos : ∀ n ∈ st, n ≠ 0) :
    (takeUnit st).sum + 1 = st.sum := by
  cases st with
  | nil => exact absurd rfl hne
  | cons t st =>
      have ht := hpos t (by simp)
      rw [takeUnit_cons ht]
      split <;> simp only [List.sum_cons] <;> omega

theorem pushCount_sum (k : Nat) (st : List Nat) : (pushCount k st).sum = k + st.sum := by
  unfold pushCount
  split <;> simp_all

@[simp] theorem LoopState.after_leftAtDepth (s : LoopState) (w : Bytes) (k : Nat) (r : Bytes) :
    (LoopState.after s w k r).leftAtDepth = takeUnit (pushCount k s.leftAtDepth) := by
  unfold LoopState.after
  dsimp only
  split <;> rfl

@[simp] theorem LoopState.after_reader (s : LoopState) (w : Bytes) (k : Nat) (r : Bytes) :
    (LoopState.after s w k r).reader = r := by
  unfold LoopState.after
  dsimp only
  split <;> rfl

/-- A round takes the unit of its token and adds the token's children. -/
theorem LoopState.after_sum {s : LoopState} (hne : s.leftAtDepth ≠ [])
    (hpos : ∀ a ∈ s.leftAtDepth, a ≠ 0) (w : Bytes) (k : Nat) (r : Bytes) :
    (LoopState.after s w k r).leftAtDepth.sum + 1 = k + s.leftAtDepth.sum := by
  rw [LoopState.after_leftAtDepth, takeUnit_sum (pushCount_ne_nil hne) (pushCount_pos hpos), pushCount_sum]

/-- What holds between two rounds: the finished items are items, and the bytes
of the current one become an item as soon as the items owed above the bottom
counter, and one more, are read. -/
structure Inv (c : Counting) (input : Bytes) (n : Nat) (s : LoopState) : Prop where
  items : ∀ x ∈ s.parsedItems, Items (Token c) 1 x
  read : input = s.parsedItems.flatten ++ s.toplevelBuf ++ s.reader
  pos : ∀ a ∈ s.leftAtDepth, a ≠ 0
  owed : (s.leftAtDepth = [] ∧ s.toplevelBuf = [] ∧ s.parsedItems.length = n) ∨
    ∃ ups a, s.leftAtDepth = ups ++ [a] ∧ s.parsedItems.length + a = n ∧
      ∀ z, Items (Token c) (ups.sum + 1) z → Items (Token c) 1 (s.toplevelBuf ++ z)

/-- A token that ends a top-level item: nothing is owed above the bottom counter. -/
theorem Inv.after_close {c : Counting} {input : Bytes} {n a : Nat} {s : LoopState} {w r : Bytes}
    (h : Inv c input n s) (ht : Token c w 0) (hr : s.reader = w ++ r)
    (hst : s.leftAtDepth = [a]) (hn : s.parsedItems.length + a = n)
    (hz : ∀ z, Items (Token c) 1 z → Items (Token c) 1 (s.toplevelBuf ++ z)) :
    Inv c input n (LoopState.after s w 0 r) := by
  have ha : a ≠ 0 := h.pos a (by simp [hst])
  have he : LoopState.after s w 0 r =
      ⟨takeUnit [a], [], s.parsedItems ++ [s.toplevelBuf ++ w], r⟩ := by
    simp [LoopState.after, pushCount, hst]
  rw [he]
  refine ⟨?_, ?_, ?_, ?_⟩
  · intro x hx
    rcases List.mem_append.mp hx with hx | hx
    · exact h.items x hx
    · obtain rfl := List.mem_singleton.mp hx
      exact hz w (by simpa using @Items.cons _ (Token c) 0 0 w [] ht .nil)
  · simp [h.read, hr]
  · exact takeUnit_pos (hst ▸ h.pos)
  · rw [takeUnit_cons ha]
    by_cases h1 : a = 1
    · left
      simp only [h1, if_true, List.length_append, List.length_singleton, true_and]
      omega
    · right
      refine ⟨[], a - 1, by simp [h1], ?_, fun z hz' => by simpa using hz'⟩
      simp only [List.length_append, List.length_singleton]
      omega

/-- Any other token: the bytes go on being collected. -/
theorem Inv.after_open {c : Counting} {input : Bytes} {n k a t : Nat} {s : LoopState}
    {w r : Bytes} {ups us : List Nat} (h : Inv c input n s) (ht : Token c w k)
    (hr : s.reader = w ++ r) (hn : s.parsedItems.length + a = n)
    (hz : ∀ z, Items (Token c) (ups.sum + 1) z → Items (Token c) 1 (s.toplevelBuf ++ z))
    (hst : pushCount k s.leftAtDepth = t :: (us ++ [a])) (hsum : t + us.sum = k + ups.sum) :
    Inv c input n (LoopState.after s w k r) := by
  have hpos : ∀ x ∈ t :: (us ++ [a]), x ≠ 0 := hst ▸ pushCount_pos h.pos
  have ht0 : t ≠ 0 := hpos t (by simp)
  have he : LoopState.after s w k r =
      ⟨takeUnit (t :: (us ++ [a])), s.toplevelBuf ++ w, s.parsedItems, r⟩ := by
    simp [LoopState.after, hst]
  rw [he]
  refine ⟨h.items, by simp [h.read, hr], takeUnit_pos hpos, .inr ?_⟩
  refine ⟨if t = 1 then us else (t - 1) :: us, a, ?_, hn, fun z hz' => ?_⟩
  · rw [takeUnit_cons ht0]
    split <;> rfl
  · rw [List.append_assoc]
    apply hz
    refine .cons ht ?_
    have hk : (if t = 1 then us else (t - 1) :: us).sum + 1 = k + ups.sum := by
      split
      · omega
      · rw [List.sum_cons]
        omega
    rwa [hk] at hz'

theorem Inv.after {c : Counting} {input : Bytes} {n k : Nat} {s : LoopState} {w r : Bytes}
    (h : Inv c input n s) (hne : s.leftAtDepth ≠ []) (ht : Token c w k) (hr : s.reader = w ++ r) :
    Inv c input n (LoopState.after s w k r) := by
  rcases h.owed with ⟨h0, _⟩ | ⟨ups, a, hst, hn, hz⟩
  · exact absurd h0 hne
  · by_cases hk : k = 0
    · subst hk
      cases ups with
      | nil => exact h.after_close ht hr hst hn (by simpa using hz)
      | cons u us =>
          have hp : pushCount 0 s.leftAtDepth = u :: (us ++ [a]) := by simp [pushCount, hst]
          exact h.after_open ht hr hn hz hp (by simp)
    · have hp : pushCount k s.leftAtDepth = k :: (ups ++ [a]) := by simp [pushCount, hst, hk]
      exact h.after_open ht hr hn hz hp rfl

theorem loop_sound {p : Profile} {fuel : Nat} {input : Bytes} {n : Nat} {s s' : LoopState}
    (h : Inv (.machine p) input n s) (hl : loop p fuel s = .ok s') :
    Inv (.machine p) input n s' ∧ s'.leftAtDepth = [] := by
  induction fuel generalizing s with
  | zero =>
      unfold loop at hl
      split at hl
      · next h0 => obtain rfl := Outcome.ok.inj hl; exact ⟨h, h0⟩
      · cases hl
  | succ fuel ih =>
      unfold loop at hl
      split at hl
      · next h0 => obtain rfl := Outcome.ok.inj hl; exact ⟨h, h0⟩
      · next hne =>
          obtain ⟨s₁, hi, hl⟩ := Outcome.bind_eq_ok.mp hl
          obtain ⟨w, k, r, ht, hr, rfl⟩ := (iteration_ok_iff hne h.pos).mp hi
          exact ih (h.after hne ht hr) hl

/-- With as many items in front of the reader as the counters owe, the loop ends. -/
theorem loop_complete {p : Profile} {m : Nat} {z r : Bytes} (hz : Items (Token (.machine p)) m z)
    {fuel : Nat} {s : LoopState} (hpos : ∀ a ∈ s.leftAtDepth, a ≠ 0) (hsum : s.leftAtDepth.sum = m)
    (hr : s.reader = z ++ r) (hfuel : z.length ≤ fuel) :
    ∃ s', loop p fuel s = .ok s' ∧ s'.reader = r := by
  induction hz generalizing fuel s with
  | nil =>
      have h0 : s.leftAtDepth = [] := by
        cases hst : s.leftAtDepth with
        | nil => rfl
        | cons a st =>
            have ha := hpos a (by simp [hst])
            simp only [hst, List.sum_cons] at hsum
            omega
      refine ⟨s, ?_, by simpa using hr⟩
      cases fuel <;> simp [loop, h0]
  | @cons n k w z ht _ ih =>
      have hne : s.leftAtDepth ≠ [] := by
        intro h0
        simp [h0] at hsum
      have hw : 0 < w.length := List.length_pos_iff.mpr ht.ne_nil
      obtain ⟨fuel, rfl⟩ : ∃ f, fuel = f + 1 := by
        refine Nat.exists_eq_succ_of_ne_zero ?_
        simp only [List.length_append] at hfuel
        omega
      have hi := (iteration_ok_iff hne hpos).mpr
        ⟨w, k, z ++ r, ht, by rw [hr, List.append_assoc], rfl⟩
      have hsum' := LoopState.after_sum hne hpos w k (z ++ r)
      obtain ⟨s', hl, hs'⟩ := @ih fuel (LoopState.after s w k (z ++ r))
        (by rw [LoopState.after_leftAtDepth]; exact takeUnit_pos (pushCount_pos hpos)) (by omega)
        (LoopState.after_reader s w k (z ++ r)) (by simp only [List.length_append] at hfuel; omega)
      refine ⟨s', ?_, hs'⟩
      simp only [loop, hne, if_false, hi, Outcome.ok_bind, hl]

theorem machine_below (p : Profile) : Below (Token (.machine p)) (Token (.machine p)) :=
  token_below fun _ _ _ h h' => (Option.some.inj (h.symm.trans h')).le

theorem wellFormed_iff_items {c : Counting} {x : Bytes} :
    WellFormed c x ↔ Items (Token c) 1 x := by
  rw [wellFormed_iff_item, items_one]

/-- The loop, started on a positive count, reads exactly that many items. -/
theorem run_ok_iff {p : Profile} {n : Nat} (hn : n ≠ 0) {reader : Bytes} {s : LoopState} :
    run p ⟨[n], [], [], reader⟩ = .ok s ↔
      s.leftAtDepth = [] ∧ s.toplevelBuf = [] ∧ s.parsedItems.length = n ∧
      reader = s.parsedItems.flatten ++ s.reader ∧
      ∀ x ∈ s.parsedItems, WellFormed (.machine p) x := by
  have hstart : Inv (.machine p) reader n ⟨[n], [], [], reader⟩ :=
    ⟨by simp, by simp, by simpa using hn, .inr ⟨[], n, rfl, by simp, by simp⟩⟩
  have hsound {s : LoopState} (h : run p ⟨[n], [], [], reader⟩ = .ok s) :
      s.leftAtDepth = [] ∧ s.toplevelBuf = [] ∧ s.parsedItems.length = n ∧
      reader = s.parsedItems.flatten ++ s.reader ∧
      ∀ x ∈ s.parsedItems, WellFormed (.machine p) x := by
    obtain ⟨hinv, h0⟩ := loop_sound hstart h
    rcases hinv.owed with ⟨_, hbuf, hlen⟩ | ⟨ups, a, hst, _⟩
    · have hread := hinv.read
      rw [hbuf, List.append_nil] at hread
      exact ⟨h0, hbuf, hlen, hread, fun x hx => wellFormed_iff_items.mpr (hinv.items x hx)⟩
    · simp [h0] at hst
  constructor
  · exact hsound
  · rintro ⟨h0, hbuf, hlen, hread, hitems⟩
    have hflat : Items (Token (.machine p)) n s.parsedItems.flatten := by
      rw [← hlen]
      exact Items.flatten fun x hx => wellFormed_iff_items.mp (hitems x hx)
    obtain ⟨s', hrun, hs'⟩ := @loop_complete p n _ s.reader hflat reader.length
      ⟨[n], [], [], reader⟩ (by simpa using hn) (by simp) hread (by simp [hread])
    obtain ⟨h0', hbuf', hlen', hread', hitems'⟩ := hsound hrun
    have heq : s'.parsedItems = s.parsedItems :=
      (flatten_unique (machine_below p) (hlen'.trans hlen.symm)
        (fun x hx => wellFormed_iff_items.mp (hitems' x hx))
        (fun x hx => wellFormed_iff_items.mp (hitems x hx)) (hread'.symm.trans hread)).1
    rw [run, hrun]
    obtain ⟨left, buf, items, r⟩ := s
    obtain ⟨left', buf', items', r'⟩ := s'
    simp_all

theorem head_cons_iff {m : MajorType} {v : Nat} {first : UInt8} {bs : Bytes} :
    Head m v (first :: bs) ↔ MajorType.maybeFromU8 (first &&& maskType) = .ok m ∧
      Argument (first &&& maskVal).toNat v bs := by
  constructor
  · rintro ⟨info, bs', he, ha⟩
    obtain ⟨rfl, rfl⟩ := List.cons.inj he
    obtain ⟨hm, hi⟩ := (eq_initialByte_iff ha.info_le).mp rfl
    exact ⟨hm, by rwa [hi]⟩
  · rintro ⟨hm, ha⟩
    exact ⟨_, bs, by rw [← (eq_initialByte_iff ha.info_le).mpr ⟨hm, rfl⟩], ha⟩

theorem readTag_ok_iff {reader headerBuf r : Bytes} {tag : Option Nat} {first : UInt8} :
    readTag reader = .ok (tag, headerBuf, first, r) ↔
      ∃ tagHead, reader = tagHead ++ first :: r ∧ headerBuf = tagHead ++ [first] ∧
        TagPrefix tag tagHead ∧
        (tag = none → MajorType.maybeFromU8 (first &&& maskType) = .ok .array) := by
  constructor
  · intro h
    cases reader with
    | nil => cases h
    | cons b reader =>
        obtain ⟨m, hm, h⟩ := Outcome.bind_eq_ok.mp h
        cases m with
        | tag =>
            obtain ⟨⟨v, bs, r₁⟩, hlen, h₁⟩ := Outcome.bind_eq_ok.mp h
            obtain ⟨⟨next, r₂⟩, hb, h₂⟩ := Outcome.bind_eq_ok.mp h₁
            obtain ⟨rfl, ha⟩ := readLen_ok_iff.mp hlen
            obtain rfl := readByte_ok_iff.mp hb
            simp only [Outcome.ok.injEq, Prod.mk.injEq] at h₂
            obtain ⟨rfl, rfl, rfl, rfl⟩ := h₂
            exact ⟨b :: bs, rfl, rfl, .some (head_cons_iff.mpr ⟨hm, ha⟩), by simp⟩
        | array =>
            simp only [Outcome.ok.injEq, Prod.mk.injEq] at h
            obtain ⟨rfl, rfl, rfl, rfl⟩ := h
            exact ⟨[], rfl, rfl, .none, fun _ => hm⟩
        | unsigned | negative | byteString | textString | map | special => cases h
  · rintro ⟨tagHead, rfl, rfl, ht, hnone⟩
    cases ht with
    | none => simp [readTag, hnone rfl]
    | @some v hd hh =>
        obtain ⟨info, bs, rfl, ha⟩ := id hh
        obtain ⟨hm, ha'⟩ := head_cons_iff.mp hh
        have hlen : readLen (bs ++ first :: r) (initialByte .tag info) = .ok (v, bs, first :: r) :=
          readLen_ok_iff.mpr ⟨rfl, ha'⟩
        simp [readTag, hm, hlen, readByte]

theorem readItems_ok_iff {p : Profile} {N : ParsedArraySize} {tag : Option Nat}
    {headerBuf reader rest : Bytes} {n : Nat} (hn : n ≠ 0) {a : ParsedArray N} :
    ParsedArray.readItems p N tag headerBuf n reader = .ok (a, rest) ↔
      a.tag = tag ∧ a.header = (if N.size.isSome then some headerBuf else none) ∧
      a.contents.length = n ∧ reader = a.contents.flatten ++ rest ∧
      ∀ x ∈ a.contents, WellFormed (.machine p) x := by
  constructor
  · intro h
    obtain ⟨s, hrun, h⟩ := Outcome.bind_eq_ok.mp h
    obtain ⟨h0, _, hlen, hread, hitems⟩ := (run_ok_iff hn).mp hrun
    simp only [h0, ne_eq, not_true_eq_false, if_false] at h
    split at h
    · simp only [Outcome.ok.injEq, Prod.mk.injEq] at h
      obtain ⟨rfl, rfl⟩ := h
      exact ⟨rfl, rfl, hlen, hread, hitems⟩
    · cases h
  · rintro ⟨rfl, hh, hlen, hread, hitems⟩
    have hrun : run p ⟨[n], [], [], reader⟩ = .ok ⟨[], [], a.contents, rest⟩ :=
      (run_ok_iff hn).mpr ⟨rfl, rfl, hlen, hread, hitems⟩
    simp only [ParsedArray.readItems, hrun, Outcome.ok_bind, ne_eq, not_true_eq_false, if_false,
      a.sized, dif_pos, Outcome.ok.injEq, Prod.mk.injEq, and_true]
    exact ParsedArray.ext rfl hh.symm rfl

/-- The part of the parse behind the array head. -/
theorem sizedItems_ok_iff {p : Profile} {N : ParsedArraySize} {tag : Option Nat}
    {headerBuf reader rest : Bytes} {n : Nat} {a : ParsedArray N} :
    ParsedArray.readSized p N tag headerBuf n reader = .ok (a, rest) ↔
      a.tag = tag ∧ a.header = (if N.size.isSome then some headerBuf else none) ∧
      a.contents.length = n ∧ reader = a.contents.flatten ++ rest ∧
      ∀ x ∈ a.contents, WellFormed (.machine p) x := by
  unfold ParsedArray.readSized
  split
  · next expected hsize =>
      have hpos : expected ≠ 0 := by
        cases N with
        | dynamic => cases hsize
        | static k hk => obtain rfl := Option.some.inj hsize; omega
      split
      · next hne =>
          simp only [reduceCtorEq, false_iff]
          rintro ⟨_, _, hlen, _⟩
          exact hne (hlen.symm.trans (a.sized expected hsize))
      · next heq =>
          obtain rfl : n = expected := by simpa using heq
          exact readItems_ok_iff hpos
  · next hsize =>
      split
      · next h0 =>
          subst h0
          simp only [Outcome.ok.injEq, Prod.mk.injEq, hsize, Option.isSome_none, Bool.false_eq_true,
            if_false, List.length_eq_zero_iff]
          constructor
          · rintro ⟨rfl, rfl⟩
            simp
          · rintro ⟨htag, hheader, hnil, hread, _⟩
            exact ⟨ParsedArray.ext htag.symm hheader.symm hnil.symm, by simpa [hnil] using hread⟩
      · next h0 => exact readItems_ok_iff h0

/-- What is accepted, with the bytes the heads took. -/
theorem deserializeFromReader_ok_iff {p : Profile} {N : ParsedArraySize} {b rest : Bytes}
    {a : ParsedArray N} :
    ParsedArray.deserializeFromReader p N b = .ok (a, rest) ↔
      ∃ tagHead arrayHead, b = tagHead ++ arrayHead ++ a.contents.flatten ++ rest ∧
        TagPrefix a.tag tagHead ∧ Head .array a.contents.length arrayHead ∧
        a.header = (if N.size.isSome then some (tagHead ++ arrayHead) else none) ∧
        ∀ x ∈ a.contents, WellFormed (.machine p) x := by
  constructor
  · intro h
    obtain ⟨⟨tag, headerBuf, first, r⟩, htag, h₁⟩ := Outcome.bind_eq_ok.mp h
    obtain ⟨tagHead, rfl, rfl, ht, _⟩ := readTag_ok_iff.mp htag
    obtain ⟨m, hm, h₂⟩ := Outcome.bind_eq_ok.mp h₁
    dsimp only at h₂ hm
    split at h₂
    · cases h₂
    · next hma =>
        obtain rfl : m = .array := by simpa using hma
        obtain ⟨⟨n, bs, r'⟩, hlen, h₃⟩ := Outcome.bind_eq_ok.mp h₂
        obtain ⟨rfl, ha⟩ := readLen_ok_iff.mp hlen
        obtain ⟨rfl, hheader, rfl, rfl, hitems⟩ := sizedItems_ok_iff.mp h₃
        exact ⟨tagHead, first :: bs, by simp, ht, head_cons_iff.mpr ⟨hm, ha⟩, by simpa using hheader,
          hitems⟩
  · rintro ⟨tagHead, arrayHead, rfl, ht, hhead, hheader, hitems⟩
    obtain ⟨info, bs, rfl, _⟩ := id hhead
    obtain ⟨hm, ha⟩ := head_cons_iff.mp hhead
    have htag : readTag (tagHead ++ initialByte .array info :: (bs ++ (a.contents.flatten ++ rest))) =
        .ok (a.tag, tagHead ++ [initialByte .array info], initialByte .array info,
          bs ++ (a.contents.flatten ++ rest)) :=
      readTag_ok_iff.mpr ⟨tagHead, rfl, rfl, ht, fun _ => hm⟩
    have hlen : readLen (bs ++ (a.contents.flatten ++ rest)) (initialByte .array info) =
        .ok (a.contents.length, bs, a.contents.flatten ++ rest) :=
      readLen_ok_iff.mpr ⟨rfl, ha⟩
    have hitems' : ParsedArray.readSized p N a.tag (tagHead ++ [initialByte .array info] ++ bs)
        a.contents.length (a.contents.flatten ++ rest) = .ok (a, rest) :=
      sizedItems_ok_iff.mpr ⟨rfl, by simpa using hheader, rfl, rfl, hitems⟩
    simp only [ParsedArray.deserializeFromReader, List.append_assoc, List.cons_append, htag, hm,
      Outcome.ok_bind, ne_eq, not_true_eq_false, if_false, hlen]
    simpa using hitems'

end FidoOnboard.CborCorrect
