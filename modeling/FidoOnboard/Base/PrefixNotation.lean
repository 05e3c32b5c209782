import Mathlib.Data.List.Basic
import Mathlib.Tactic.Common

/-!
# Counted items in prefix notation

A token announces how many items follow it as its children. An item is a token
with its children behind it; a text is read either by that recursion or flat,
with one counter of items still owed. The two readings agree, and a text is cut
into items in at most one way.
-/
namespace FidoOnboard.PrefixNotation

variable {α : Type*}

section Grammar

variable (Token : List α → Nat → Prop)

/-- The recursive reading. -/
inductive Item : List α → Prop
  | mk {w : List α} {xs : List (List α)} :
      Token w xs.length → (∀ x ∈ xs, Item x) → Item (w ++ xs.flatten)

/-- The flat reading: exactly `n` items are still owed. -/
inductive Items : Nat → List α → Prop
  | nil : Items 0 []
  | cons {n k : Nat} {w z : List α} : Token w k → Items (k + n) z → Items (n + 1) (w ++ z)

/-- The flat reading up to a point: of `n` items owed, `m` are still owed there. -/
inductive Owing : Nat → List α → Nat → Prop
  | nil {n : Nat} : Owing n [] n
  | cons {n k m : Nat} {w z : List α} :
      Token w k → Owing (k + n) z m → Owing (n + 1) (w ++ z) m

end Grammar

variable {Token Token' : List α → Nat → Prop}

theorem Items.append {m n : Nat} {x y : List α} (hx : Items Token m x) (hy : Items Token n y) :
    Items Token (m + n) (x ++ y) := by
  induction hx with
  | nil => simpa using hy
  | @cons m k w z ht _ ih =>
      rw [List.append_assoc, Nat.add_right_comm]
      exact .cons ht (by rwa [Nat.add_assoc] at ih)

theorem Items.flatten {xs : List (List α)} (h : ∀ x ∈ xs, Items Token 1 x) :
    Items Token xs.length xs.flatten := by
  induction xs with
  | nil => exact .nil
  | cons x xs ih =>
      rw [List.length_cons, Nat.add_comm, List.flatten_cons]
      exact (h x List.mem_cons_self).append (ih fun y hy => h y (List.mem_cons_of_mem x hy))

theorem Item.items {x : List α} (h : Item Token x) : Items Token 1 x := by
  induction h with
  | @mk w xs ht _ ih => exact .cons ht (Items.flatten ih)

/-- The children of the first token are the first `k` of the items behind it. -/
theorem Items.split {n : Nat} {x : List α} (h : Items Token n x) :
    ∃ xs : List (List α), xs.length = n ∧ xs.flatten = x ∧ ∀ y ∈ xs, Item Token y := by
  induction h with
  | nil => exact ⟨[], rfl, rfl, by simp⟩
  | @cons n k w z ht _ ih =>
      obtain ⟨xs, hlen, hflat, hitems⟩ := ih
      have htake : (xs.take k).length = k := by simp [hlen]
      refine ⟨(w ++ (xs.take k).flatten) :: xs.drop k, ?_, ?_, ?_⟩
      · simp [hlen]
      · rw [List.flatten_cons, List.append_assoc, ← List.flatten_append, List.take_append_drop,
          hflat]
      · intro y hy
        rcases List.mem_cons.mp hy with rfl | hy
        · exact .mk (htake.symm ▸ ht) fun v hv => hitems v (List.mem_of_mem_take hv)
        · exact hitems y (List.mem_of_mem_drop hy)

theorem items_one {x : List α} : Items Token 1 x ↔ Item Token x := by
  constructor
  · intro h
    obtain ⟨xs, hlen, rfl, hitems⟩ := h.split
    obtain ⟨y, rfl⟩ := List.length_eq_one_iff.mp hlen
    simpa using hitems y (by simp)
  · exact Item.items

theorem Item.mono (h : ∀ w k, Token w k → Token' w k) {x : List α} (hx : Item Token x) :
    Item Token' x := by
  induction hx with
  | mk ht _ ih => exact .mk (h _ _ ht) ih

/-- Two token readings that cut the same blocks, the second announcing at least
as many children. -/
structure Below (Token Token' : List α → Nat → Prop) : Prop where
  nonempty : ∀ {w k}, Token' w k → w ≠ []
  step : ∀ {w k w' k' r r'}, Token w k → Token' w' k' → w ++ r = w' ++ r' → w = w' ∧ k ≤ k'

theorem Items.nil_count (hne : ∀ {w k}, Token w k → w ≠ []) {n : Nat}
    (h : Items Token n []) : n = 0 := by
  generalize hx : ([] : List α) = x at h
  cases h with
  | nil => rfl
  | cons ht _ => exact absurd (List.append_eq_nil_iff.mp hx.symm).1 (hne ht)

/-- A text that both readings close has every token counted alike: once the
counters differ the larger one cannot reach zero at the same letter. -/
theorem Items.counted_alike (hb : Below Token Token') {p q : Nat} {x : List α}
    (hp : Items Token p x) (hq : Items Token' q x) (hle : p ≤ q) :
    p = q ∧ Items (fun w k => Token w k ∧ Token' w k) p x := by
  induction hp generalizing q with
  | nil => exact ⟨(hq.nil_count hb.nonempty).symm, .nil⟩
  | @cons n k w z ht hz ih =>
      generalize hx : w ++ z = x at hq
      cases hq with
      | nil => omega
      | @cons m k' w' z' ht' hz' =>
          obtain ⟨rfl, hk⟩ := hb.step ht ht' hx
          obtain rfl := List.append_cancel_left hx
          obtain ⟨hsum, halike⟩ := ih hz' (by omega)
          obtain rfl : k = k' := by omega
          exact ⟨by omega, .cons ⟨ht, ht'⟩ halike⟩

theorem Item.counted_alike (hb : Below Token Token') {x : List α}
    (h : Item Token x) (h' : Item Token' x) : Item (fun w k => Token w k ∧ Token' w k) x :=
  items_one.mp (h.items.counted_alike hb h'.items (Nat.le_refl 1)).2

theorem Items.prefix_unique (hb : Below Token Token) {n : Nat} {x y r s : List α}
    (hx : Items Token n x) (hy : Items Token n y) (he : x ++ r = y ++ s) : x = y := by
  induction hx generalizing y with
  | nil => cases hy; rfl
  | @cons n k w z ht _ ih =>
      cases hy with
      | @cons _ k' w' z' ht' hz' =>
          simp only [List.append_assoc] at he
          obtain ⟨rfl, hk⟩ := hb.step ht ht' he
          obtain rfl : k = k' := Nat.le_antisymm hk (hb.step ht' ht he.symm).2
          rw [ih hz' (List.append_cancel_left he)]

/-- A text is cut into a given number of items in one way only. -/
theorem flatten_unique (hb : Below Token Token) {xs ys : List (List α)} {r s : List α}
    (hlen : xs.length = ys.length) (hxs : ∀ x ∈ xs, Items Token 1 x)
    (hys : ∀ y ∈ ys, Items Token 1 y) (he : xs.flatten ++ r = ys.flatten ++ s) :
    xs = ys ∧ r = s := by
  induction xs generalizing ys with
  | nil =>
      obtain rfl := List.length_eq_zero_iff.mp hlen.symm
      exact ⟨rfl, by simpa using he⟩
  | cons x xs ih =>
      cases ys with
      | nil => simp at hlen
      | cons y ys =>
          simp only [List.flatten_cons, List.append_assoc] at he
          obtain rfl := (hxs x (by simp)).prefix_unique hb (hys y (by simp)) he
          obtain ⟨rfl, hr⟩ := ih (Nat.succ.inj hlen) (fun v hv => hxs v (by simp [hv]))
            (fun v hv => hys v (by simp [hv])) (List.append_cancel_left he)
          exact ⟨rfl, hr⟩

end FidoOnboard.PrefixNotation
