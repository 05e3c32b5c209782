import Mathlib.Data.List.Basic
import Mathlib.Data.List.Induction
import Mathlib.Tactic.Common

/-!
# Resolving paths part by part

One part leads back to where the part before it started. It is cancelled with that
part, and dropped where there is none.
-/
namespace FidoOnboard.LexicalPath

variable {α : Type} [DecidableEq α] (up : α)

def step (place : List α) (part : α) : List α := if part = up then place.dropLast else place ++ [part]

/-- Where the parts lead from a place. -/
def follow (place parts : List α) : List α := parts.foldl (step up) place

def resolve (parts : List α) : List α := follow up [] parts

/-- How far up the parts lead first, and where they lead from there. -/
def normalStep : Nat × List α → α → Nat × List α
  | (climbs, []), part => if part = up then (climbs + 1, []) else (climbs, [part])
  | (climbs, name :: names), part =>
    (climbs, if part = up then (name :: names).dropLast else name :: names ++ [part])

def normal (parts : List α) : Nat × List α := parts.foldl (normalStep up) (0, [])

variable {up}

theorem follow_append (place first second : List α) :
    follow up place (first ++ second) = follow up (follow up place first) second :=
  List.foldl_append

theorem resolve_append (first second : List α) :
    resolve up (first ++ second) = follow up (resolve up first) second :=
  follow_append [] first second

theorem follow_normal (place parts : List α) :
    follow up place parts = place.take (place.length - (normal up parts).1) ++ (normal up parts).2 := by
  induction parts using List.reverseRecOn with
  | nil => simp [follow, normal]
  | append_singleton parts part ih =>
      have hfollow : follow up place (parts ++ [part]) = step up (follow up place parts) part := by
        simp [follow]
      have hnormal : normal up (parts ++ [part]) = normalStep up (normal up parts) part := by
        simp [normal]
      rw [hfollow, hnormal, ih]
      rcases normal up parts with ⟨climbs, _ | ⟨name, names⟩⟩
      · by_cases hpart : part = up
        · simp only [step, normalStep, if_pos hpart, List.append_nil]
          rw [List.dropLast_eq_take, List.length_take, List.take_take]
          congr 1
          omega
        · simp [step, normalStep, hpart]
      · by_cases hpart : part = up
        · simp only [step, normalStep, if_pos hpart]
          rw [List.dropLast_append_of_ne_nil (List.cons_ne_nil name names)]
        · simp [step, normalStep, hpart]

/-- The place is not left for good exactly when the parts lead back down the way they led up. -/
theorem prefix_follow_iff (place parts : List α) : place <+: follow up place parts ↔
    place.drop (place.length - (normal up parts).1) <+: (normal up parts).2 := by
  rw [follow_normal]
  have hsplit := List.take_append_drop (place.length - (normal up parts).1) place
  nth_rewrite 1 [← hsplit]
  exact List.prefix_append_right_inj _

end FidoOnboard.LexicalPath
