import FidoOnboard.Base.Outcome

/-!
# Attempts, one after the other

A loop that goes on after a failure and ends with the first success. Each attempt
may change the state, whether it succeeds or not.
-/
namespace FidoOnboard

/-- What an attempt comes to: the last one stops the program. -/
inductive Verdict (β : Type*) where
  | success (value : β)
  | failure
  | stop

abbrev Attempt (σ β : Type*) := σ → σ × Verdict β

namespace Attempt

variable {σ β : Type*}

def search : List (Attempt σ β) → Attempt σ β
  | [], s => (s, .failure)
  | attempt :: attempts, s =>
    match attempt s with
    | (s, .success value) => (s, .success value)
    | (s, .failure) => search attempts s
    | (s, .stop) => (s, .stop)

/-- Each of the attempts fails, from one state to another. -/
inductive Fails : List (Attempt σ β) → σ → σ → Prop where
  | nil {s : σ} : Fails [] s s
  | cons {attempt : Attempt σ β} {attempts : List (Attempt σ β)} {s s₁ s₂ : σ} (first : attempt s = (s₁, .failure))
      (rest : Fails attempts s₁ s₂) : Fails (attempt :: attempts) s s₂

/-- The first attempt that does not fail comes to `verdict`. -/
structure EndsWith (attempts : List (Attempt σ β)) (s s' : σ) (verdict : Verdict β) : Prop where
  first : ∃ before attempt after s₁, attempts = before ++ attempt :: after ∧ Fails before s s₁ ∧
    attempt s₁ = (s', verdict)

variable {attempts : List (Attempt σ β)} {s s' : σ}

theorem Fails.search_append {before after : List (Attempt σ β)} (h : Fails before s s') :
    search (before ++ after) s = search after s' := by
  induction h with
  | nil => rfl
  | cons first _ ih => simp only [List.cons_append, search, first, ih]

/-- A search that ends with anything but a failure ends with the first attempt that does. -/
theorem search_ends {verdict : Verdict β} (hverdict : verdict ≠ .failure) :
    search attempts s = (s', verdict) ↔ EndsWith attempts s s' verdict := by
  constructor
  · intro h
    induction attempts generalizing s with
    | nil =>
        cases h
        exact absurd rfl hverdict
    | cons attempt attempts ih =>
        rcases hattempt : attempt s with ⟨s₁, value | _ | _⟩
        · simp only [search, hattempt] at h
          exact ⟨[], attempt, attempts, s, rfl, .nil, hattempt.trans h⟩
        · simp only [search, hattempt] at h
          obtain ⟨before, last, after, s₂, rfl, hfails, hlast⟩ := (ih h).first
          exact ⟨attempt :: before, last, after, s₂, rfl, .cons hattempt hfails, hlast⟩
        · simp only [search, hattempt] at h
          exact ⟨[], attempt, attempts, s, rfl, .nil, hattempt.trans h⟩
  · rintro ⟨before, last, after, s₁, rfl, hfails, hlast⟩
    rw [hfails.search_append, search, hlast]
    cases verdict with
    | success value => rfl
    | failure => exact absurd rfl hverdict
    | stop => rfl

theorem search_success {value : β} :
    search attempts s = (s', .success value) ↔ EndsWith attempts s s' (.success value) :=
  search_ends fun h => by cases h

/-- What every attempt that succeeds establishes. -/
theorem search_establishes {Q : σ → β → Prop} {value : β} (h : search attempts s = (s', .success value))
    (each : ∀ attempt ∈ attempts, ∀ s₁ s₂ value, attempt s₁ = (s₂, .success value) → Q s₂ value) : Q s' value := by
  obtain ⟨before, last, after, s₁, rfl, _, hlast⟩ := (search_success.mp h).first
  exact each last (List.mem_append_right _ List.mem_cons_self) s₁ s' value hlast

end Attempt
end FidoOnboard
