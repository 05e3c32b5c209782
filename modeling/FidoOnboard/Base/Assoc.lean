import Mathlib.Data.List.AList

/-! Keeping the entries of a finite map whose value passes a test. -/
namespace FidoOnboard.Assoc

variable {α β : Type} [DecidableEq α]

def keep (p : β → Bool) (m : AList fun _ : α => β) : AList fun _ : α => β :=
  ⟨m.entries.filter fun e => p e.2, List.NodupKeys.sublist List.filter_sublist m.nodupKeys⟩

theorem lookup_keep (p : β → Bool) (m : AList fun _ : α => β) (a : α) :
    (keep p m).lookup a = (m.lookup a).filter p := by
  ext b
  simp only [← Option.mem_def, AList.mem_lookup_iff, keep, List.mem_filter]
  simp only [Option.mem_def, Option.filter_eq_some_iff, ← AList.mem_lookup_iff]

section Named

variable {κ γ : Type} [DecidableEq κ] {f : κ → α}

/-- Inserting and erasing, seen through names that tell the keys apart. -/
theorem lookup_insert_named (hf : Function.Injective f) (g : β → γ) (m : AList fun _ : α => β) (k : κ)
    (b : β) : (fun k' => ((m.insert (f k) b).lookup (f k')).map g) =
      Function.update (fun k' => (m.lookup (f k')).map g) k (some (g b)) := by
  funext k'
  by_cases hk : k' = k
  · subst hk
    simp
  · rw [Function.update_of_ne hk, AList.lookup_insert_ne fun h => hk (hf h)]

theorem lookup_erase_named (hf : Function.Injective f) (g : β → γ) (m : AList fun _ : α => β) (k : κ) :
    (fun k' => ((m.erase (f k)).lookup (f k')).map g) =
      Function.update (fun k' => (m.lookup (f k')).map g) k none := by
  funext k'
  by_cases hk : k' = k
  · subst hk
    simp
  · rw [Function.update_of_ne hk, AList.lookup_erase_ne fun h => hk (hf h)]

end Named

/-- A finite map that stands for another one, each entry related to the value it stands for. -/
def Represents {κ γ : Type} (f : κ → α) (R : β → γ → Prop) (m : AList fun _ : α => β) (g : κ → Option γ) : Prop :=
  ∀ k, Option.Rel R (m.lookup (f k)) (g k)

namespace Represents

variable {κ γ : Type} {f : κ → α} {R : β → γ → Prop} {m : AList fun _ : α => β} {g : κ → Option γ}

theorem empty : Represents f R ∅ fun _ => none := fun _ => .none

theorem insert [DecidableEq κ] (hf : Function.Injective f) (h : Represents f R m g) {k : κ} {b : β} {c : γ} (hR : R b c) :
    Represents f R (m.insert (f k) b) (Function.update g k (some c)) := by
  intro k'
  by_cases hk : k' = k
  · subst hk
    rw [AList.lookup_insert, Function.update_self]
    exact .some hR
  · rw [AList.lookup_insert_ne fun h => hk (hf h), Function.update_of_ne hk]
    exact h k'

theorem erase [DecidableEq κ] (hf : Function.Injective f) (h : Represents f R m g) (k : κ) :
    Represents f R (m.erase (f k)) (Function.update g k none) := by
  intro k'
  by_cases hk : k' = k
  · subst hk
    rw [AList.lookup_erase, Function.update_self]
    exact .none
  · rw [AList.lookup_erase_ne fun h => hk (hf h), Function.update_of_ne hk]
    exact h k'

theorem absent (h : Represents f R m g) {k : κ} (hg : g k = none) : m.lookup (f k) = none := by
  have := h k
  rw [hg] at this
  cases hm : m.lookup (f k) with
  | none => rfl
  | some b =>
      rw [hm] at this
      cases this

theorem present (h : Represents f R m g) {k : κ} {c : γ} (hg : g k = some c) :
    ∃ b, m.lookup (f k) = some b ∧ R b c := by
  have := h k
  rw [hg] at this
  cases hm : m.lookup (f k) with
  | none =>
      rw [hm] at this
      cases this
  | some b =>
      rw [hm] at this
      cases this with
      | some hR => exact ⟨b, rfl, hR⟩

theorem vacant (h : Represents f R m g) {k : κ} (hm : m.lookup (f k) = none) : g k = none := by
  cases hg : g k with
  | none => rfl
  | some c =>
      obtain ⟨b, hb, _⟩ := h.present hg
      rw [hm] at hb
      cases hb

/-- Changing an entry in both. -/
theorem modify [DecidableEq κ] (hf : Function.Injective f) (h : Represents f R m g) {k : κ} {b b' : β} {u : γ → γ}
    (hb : m.lookup (f k) = some b) (hR : ∀ c, R b c → R b' (u c)) :
    Represents f R (m.insert (f k) b') (Function.update g k ((g k).map u)) := by
  have hrel := h k
  rw [hb] at hrel
  cases hg : g k with
  | none =>
      rw [hg] at hrel
      cases hrel
  | some c =>
      rw [hg] at hrel
      cases hrel with
      | some hbc => exact h.insert hf (hR c hbc)

/-- There is nothing to change. -/
theorem update_vacant [DecidableEq κ] (h : Represents f R m g) {k : κ} (u : γ → γ) (hm : m.lookup (f k) = none) :
    Function.update g k ((g k).map u) = g := by
  rw [h.vacant hm, Option.map_none, ← h.vacant hm, Function.update_eq_self]

end Represents
end FidoOnboard.Assoc
