import Mathlib.Data.List.Basic
import Mathlib.Tactic.Common

/-! # Lists that are cut at every separator -/
namespace FidoOnboard.Splitting

variable {α : Type} [BEq α] [LawfulBEq α]

theorem not_mem_of_mem_splitOn {c : α} {s piece : List α} (h : piece ∈ s.splitOn c) : c ∉ piece := by
  induction s generalizing piece with
  | nil =>
      rw [List.splitOn_nil, List.mem_singleton] at h
      simp [h]
  | cons d s ih =>
      rw [List.splitOn_cons_eq_if_modifyHead] at h
      cases hs : s.splitOn c with
      | nil => exact absurd hs (List.splitOn_ne_nil c s)
      | cons head rest =>
          rw [hs] at h ih
          split at h
          case isTrue =>
            rw [List.mem_cons] at h
            rcases h with rfl | h
            · simp
            · exact ih h
          case isFalse hne =>
            rw [List.modifyHead_cons, List.mem_cons] at h
            rcases h with rfl | h
            · rw [List.mem_cons, not_or]
              exact ⟨fun heq => hne (beq_iff_eq.mpr heq.symm), ih List.mem_cons_self⟩
            · exact ih (List.mem_cons_of_mem _ h)

theorem splitOn_append_of_not_mem {x : α} {a : List α} (h : x ∉ a) (b : List α) :
    (a ++ b).splitOn x = (b.splitOn x).modifyHead (a ++ ·) := by
  induction a with
  | nil =>
      cases hb : b.splitOn x with
      | nil => exact absurd hb (List.splitOn_ne_nil x b)
      | cons head rest => simp [hb]
  | cons y a ih =>
      have hne : (y == x) = false := by
        simp only [List.mem_cons, not_or] at h
        simpa using fun heq => h.1 heq.symm
      rw [List.cons_append, List.splitOn_cons_eq_if_modifyHead, hne, ih (fun hmem => h (List.mem_cons_of_mem _ hmem))]
      cases hb : b.splitOn x with
      | nil => exact absurd hb (List.splitOn_ne_nil x b)
      | cons head rest => simp

end FidoOnboard.Splitting
