import FidoOnboard.Base.PrefixNotation
import FidoOnboard.DataFormats.CborParser

/-!
# The grammar of the array parser

Well-formed items by the usual recursion, restricted to what the parser knows:
major types 0 to 6 and definite lengths. How many items a map of `m` pairs holds
is a parameter, since the exact answer and the one computed in `u64` differ.
-/
namespace FidoOnboard.CborGrammar
open CborParser PrefixNotation

/-- Number of argument bytes behind the additional information 24 to 27. -/
def argumentWidth : Nat → Option Nat
  | 24 => some 1
  | 25 => some 2
  | 26 => some 4
  | 27 => some 8
  | _ => none

/-- `bs` writes the argument `v` behind additional information `info`, in any width. -/
inductive Argument : Nat → Nat → Bytes → Prop
  | inline {v : Nat} : v ≤ 23 → Argument v v []
  | wide {info : Nat} {bs : Bytes} :
      argumentWidth info = some bs.length → Argument info (BigEndian.fromBe bs) bs

def initialByte (m : MajorType) (info : Nat) : UInt8 :=
  UInt8.ofNat (32 * (MajorType.toU8 m).toNat + info)

/-- `w` is a head of major type `m` with argument `v`. -/
def Head (m : MajorType) (v : Nat) (w : Bytes) : Prop :=
  ∃ info bs, w = initialByte m info :: bs ∧ Argument info v bs

/-- How counts and lengths are taken. -/
structure Counting where
  mapItems : Nat → Option Nat
  stringFits : Nat → Prop

/-- `m` pairs are `2 * m` items, as integers; a string may have any length. -/
def Counting.exact : Counting where
  mapItems m := some (2 * m)
  stringFits _ := True

/-- Only what stays in range: `2 * m` is a `u64` and a string can be allocated. -/
def Counting.bounded : Counting where
  mapItems m := if 2 * m < 2 ^ 64 then some (2 * m) else none
  stringFits n := n ≤ isizeMax

/-- What the loop does: a debug build stops at an overflow, a release build goes
on with the remainder, and stops only where that remainder is zero. -/
def Counting.machine : Profile → Counting
  | .debug => .bounded
  | .release =>
    { mapItems := fun m => if m ≠ 0 ∧ 2 * m % 2 ^ 64 = 0 then none else some (2 * m % 2 ^ 64)
      stringFits := fun n => n ≤ isizeMax }

/-- Well-formed data items. -/
inductive WellFormed (c : Counting) : Bytes → Prop
  | unsigned {v : Nat} {h : Bytes} : Head .unsigned v h → WellFormed c h
  | negative {v : Nat} {h : Bytes} : Head .negative v h → WellFormed c h
  | byteString {v : Nat} {h s : Bytes} :
      Head .byteString v h → s.length = v → c.stringFits v → WellFormed c (h ++ s)
  | textString {v : Nat} {h s : Bytes} :
      Head .textString v h → s.length = v → c.stringFits v → WellFormed c (h ++ s)
  | tag {v : Nat} {h x : Bytes} : Head .tag v h → WellFormed c x → WellFormed c (h ++ x)
  | array {v : Nat} {h : Bytes} {xs : List Bytes} :
      Head .array v h → xs.length = v → (∀ x ∈ xs, WellFormed c x) → WellFormed c (h ++ xs.flatten)
  | map {v : Nat} {h : Bytes} {xs : List Bytes} :
      Head .map v h → c.mapItems v = some xs.length → (∀ x ∈ xs, WellFormed c x) →
      WellFormed c (h ++ xs.flatten)

/-- The optional single tag in front of the array. -/
inductive TagPrefix : Option Nat → Bytes → Prop
  | none : TagPrefix none []
  | some {v : Nat} {h : Bytes} : Head .tag v h → TagPrefix (some v) h

/-- `b` starts with an optionally tagged array of the allowed size that holds
`contents`, and `rest` is what follows it. -/
def Accepts (c : Counting) (N : ParsedArraySize) (b : Bytes) (tag : Option Nat)
    (contents : List Bytes) (rest : Bytes) : Prop :=
  ∃ tagHead arrayHead, b = tagHead ++ arrayHead ++ contents.flatten ++ rest ∧
    TagPrefix tag tagHead ∧ Head .array contents.length arrayHead ∧ N.Sized contents ∧
    ∀ x ∈ contents, WellFormed c x

/-! ## Heads -/

theorem argumentWidth_eq_some {info n : Nat} :
    argumentWidth info = some n ↔
      info = 24 ∧ n = 1 ∨ info = 25 ∧ n = 2 ∨ info = 26 ∧ n = 4 ∨ info = 27 ∧ n = 8 := by
  unfold argumentWidth
  split <;> simp_all <;> omega

theorem Argument.info_le {info v : Nat} {bs : Bytes} (h : Argument info v bs) : info ≤ 27 := by
  cases h with
  | inline hv => omega
  | wide hw => rw [argumentWidth_eq_some] at hw; omega

theorem initialByte_toNat (m : MajorType) {info : Nat} (h : info ≤ 27) :
    (initialByte m info).toNat = 32 * (MajorType.toU8 m).toNat + info := by
  have hm : (MajorType.toU8 m).toNat ≤ 7 := by cases m <;> decide
  simp only [initialByte, UInt8.toNat_ofNat']
  omega

theorem toU8_inj {m m' : MajorType} (h : (MajorType.toU8 m).toNat = (MajorType.toU8 m').toNat) :
    m = m' := by
  revert h
  cases m <;> cases m' <;> decide

theorem initialByte_inj {m m' : MajorType} {info info' : Nat} (h : info ≤ 27) (h' : info' ≤ 27)
    (he : initialByte m info = initialByte m' info') : m = m' ∧ info = info' := by
  have hn := congrArg UInt8.toNat he
  rw [initialByte_toNat m h, initialByte_toNat m' h'] at hn
  exact ⟨toU8_inj (by omega), by omega⟩

/-- An argument ends where its additional information says. -/
theorem Argument.unique {info v v' : Nat} {bs bs' r r' : Bytes} (h : Argument info v bs)
    (h' : Argument info v' bs') (he : bs ++ r = bs' ++ r') : v = v' ∧ bs = bs' := by
  cases h with
  | inline hv =>
      cases h' with
      | inline => exact ⟨rfl, rfl⟩
      | wide hw => rw [argumentWidth_eq_some] at hw; omega
  | wide hw =>
      cases h' with
      | inline hv => rw [argumentWidth_eq_some] at hw; omega
      | wide hw' =>
          have hlen : bs.length = bs'.length := Option.some.inj (hw.symm.trans hw')
          obtain rfl := (List.append_inj he hlen).1
          exact ⟨rfl, rfl⟩

theorem Head.unique {m m' : MajorType} {v v' : Nat} {w w' r r' : Bytes} (h : Head m v w)
    (h' : Head m' v' w') (he : w ++ r = w' ++ r') : m = m' ∧ v = v' ∧ w = w' := by
  obtain ⟨info, bs, rfl, ha⟩ := h
  obtain ⟨info', bs', rfl, ha'⟩ := h'
  simp only [List.cons_append, List.cons.injEq] at he
  obtain ⟨rfl, rfl⟩ := initialByte_inj ha.info_le ha'.info_le he.1
  obtain ⟨rfl, rfl⟩ := ha.unique ha' he.2
  exact ⟨rfl, rfl, rfl⟩

theorem Head.first {m : MajorType} {v : Nat} {w : Bytes} (h : Head m v w) (r : Bytes) :
    ∃ info rest, w ++ r = initialByte m info :: rest ∧ info ≤ 27 := by
  obtain ⟨info, bs, rfl, ha⟩ := h
  exact ⟨info, bs ++ r, rfl, ha.info_le⟩

/-- No item starts with a byte of major type 7. -/
theorem WellFormed.first {c : Counting} {x : Bytes} (h : WellFormed c x) :
    ∃ m info rest, x = initialByte m info :: rest ∧ info ≤ 27 ∧ m ≠ .special := by
  have leaf {m : MajorType} {v : Nat} {w : Bytes} (hh : Head m v w) (hm : m ≠ .special) (r : Bytes) :
      ∃ m info rest, w ++ r = initialByte m info :: rest ∧ info ≤ 27 ∧ m ≠ .special := by
    obtain ⟨info, rest, he, hi⟩ := hh.first r
    exact ⟨m, info, rest, he, hi, hm⟩
  cases h with
  | unsigned hh | negative hh => simpa using leaf hh (by decide) []
  | byteString hh _ _ | textString hh _ _ | tag hh _ | array hh _ _ | map hh _ _ =>
      exact leaf hh (by decide) _

theorem WellFormed.ne_nil {c : Counting} {x : Bytes} (h : WellFormed c x) : x ≠ [] := by
  obtain ⟨_, _, _, rfl, _⟩ := h.first
  simp

/-- `null` is no item the parser knows. -/
theorem WellFormed.head_ne_null {c : Counting} {x : Bytes} (h : WellFormed c x) :
    x.head? ≠ some 0xf6 := by
  obtain ⟨m, info, rest, rfl, hi, hm⟩ := h.first
  intro he
  have hnull : initialByte m info = initialByte .special 22 := Option.some.inj he
  exact hm (initialByte_inj hi (by decide) hnull).1

/-! ## Tokens: a head with the bytes of a string behind it -/

/-- What stands behind a head inside its own token, and how many items follow. -/
inductive Body (c : Counting) : MajorType → Nat → Bytes → Nat → Prop
  | unsigned {v : Nat} : Body c .unsigned v [] 0
  | negative {v : Nat} : Body c .negative v [] 0
  | byteString {v : Nat} {s : Bytes} : s.length = v → c.stringFits v → Body c .byteString v s 0
  | textString {v : Nat} {s : Bytes} : s.length = v → c.stringFits v → Body c .textString v s 0
  | tag {v : Nat} : Body c .tag v [] 1
  | array {v : Nat} : Body c .array v [] v
  | map {v k : Nat} : c.mapItems v = some k → Body c .map v [] k

def Token (c : Counting) (w : Bytes) (k : Nat) : Prop :=
  ∃ m v h s, w = h ++ s ∧ Head m v h ∧ Body c m v s k

theorem Token.ne_nil {c : Counting} {w : Bytes} {k : Nat} (h : Token c w k) : w ≠ [] := by
  obtain ⟨_, _, _, _, rfl, ⟨_, _, rfl, _⟩, _⟩ := h
  simp

theorem Token.mono {c c' : Counting} (hm : ∀ v k, c.mapItems v = some k → c'.mapItems v = some k)
    (hs : ∀ v, c.stringFits v → c'.stringFits v) {w : Bytes} {k : Nat} (h : Token c w k) :
    Token c' w k := by
  obtain ⟨m, v, hd, s, rfl, hh, hb⟩ := h
  refine ⟨m, v, hd, s, rfl, hh, ?_⟩
  cases hb with
  | unsigned => exact .unsigned
  | negative => exact .negative
  | byteString hl hf => exact .byteString hl (hs _ hf)
  | textString hl hf => exact .textString hl (hs _ hf)
  | tag => exact .tag
  | array => exact .array
  | map hk => exact .map (hm _ _ hk)

/-- Tokens are cut alike under two countings; where the counts of maps are
ordered, so are the numbers of children. -/
theorem token_below {c c' : Counting}
    (hm : ∀ v k k', c.mapItems v = some k → c'.mapItems v = some k' → k ≤ k') :
    Below (Token c) (Token c') where
  nonempty h := h.ne_nil
  step := by
    rintro w k w' k' r r' ⟨m, v, h, s, rfl, hh, hb⟩ ⟨m', v', h', s', rfl, hh', hb'⟩ he
    simp only [List.append_assoc] at he
    obtain ⟨rfl, rfl, rfl⟩ := hh.unique hh' he
    have hs := List.append_cancel_left he
    cases hb with
    | unsigned => cases hb'; exact ⟨rfl, le_rfl⟩
    | negative => cases hb'; exact ⟨rfl, le_rfl⟩
    | byteString hl _ =>
        cases hb' with
        | byteString hl' _ =>
            rw [(List.append_inj hs (hl.trans hl'.symm)).1]
            exact ⟨rfl, le_rfl⟩
    | textString hl _ =>
        cases hb' with
        | textString hl' _ =>
            rw [(List.append_inj hs (hl.trans hl'.symm)).1]
            exact ⟨rfl, le_rfl⟩
    | tag => cases hb'; exact ⟨rfl, le_rfl⟩
    | array => cases hb'; exact ⟨rfl, le_rfl⟩
    | map hk =>
        cases hb' with
        | map hk' => exact ⟨rfl, hm _ _ _ hk hk'⟩

theorem wellFormed_iff_item {c : Counting} {x : Bytes} :
    WellFormed c x ↔ Item (Token c) x := by
  constructor
  · intro h
    have leaf {w : Bytes} (ht : Token c w 0) : Item (Token c) w := by
      simpa using @Item.mk _ (Token c) w [] ht (by simp)
    induction h with
    | unsigned hh => exact leaf ⟨_, _, _, [], by simp, hh, .unsigned⟩
    | negative hh => exact leaf ⟨_, _, _, [], by simp, hh, .negative⟩
    | byteString hh hl hf => exact leaf ⟨_, _, _, _, rfl, hh, .byteString hl hf⟩
    | textString hh hl hf => exact leaf ⟨_, _, _, _, rfl, hh, .textString hl hf⟩
    | @tag v h x hh _ ih =>
        simpa using @Item.mk _ (Token c) h [x] ⟨_, _, _, [], by simp, hh, .tag⟩ (by simpa using ih)
    | array hh hl _ ih => exact .mk ⟨_, _, _, [], by simp, hh, hl ▸ .array⟩ ih
    | map hh hk _ ih => exact .mk ⟨_, _, _, [], by simp, hh, .map hk⟩ ih
  · intro h
    induction h with
    | @mk w xs ht _ ih =>
        obtain ⟨m, v, h, s, rfl, hh, hb⟩ := ht
        generalize hn : xs.length = n at hb
        cases hb with
        | unsigned => obtain rfl := List.length_eq_zero_iff.mp hn; simpa using .unsigned hh
        | negative => obtain rfl := List.length_eq_zero_iff.mp hn; simpa using .negative hh
        | byteString hl hf =>
            obtain rfl := List.length_eq_zero_iff.mp hn
            simpa using .byteString hh hl hf
        | textString hl hf =>
            obtain rfl := List.length_eq_zero_iff.mp hn
            simpa using .textString hh hl hf
        | tag =>
            obtain ⟨x, rfl⟩ := List.length_eq_one_iff.mp hn
            simpa using .tag hh (ih x (by simp))
        | array => simpa using .array hh hn ih
        | map hk => simpa using .map hh (hn ▸ hk) ih

end FidoOnboard.CborGrammar
