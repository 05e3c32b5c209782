import Mathlib.Data.List.Basic

/-!
# Runs of a system with memory

A run is the list of the moments gone through, latest first, and the state it
has reached. Which input may come next can depend on all that came before.
-/
namespace FidoOnboard

variable {σ ι : Type*}

inductive Run (start : σ → Prop) (allowed : List (σ × ι) → σ → ι → Prop) (step : σ → ι → σ) :
    List (σ × ι) → σ → Prop where
  | start {s : σ} (h : start s) : Run start allowed step [] s
  | next {past : List (σ × ι)} {s : σ} {input : ι} (run : Run start allowed step past s)
      (ok : allowed past s input) : Run start allowed step ((s, input) :: past) (step s input)

namespace Run

variable {start : σ → Prop} {allowed : List (σ × ι) → σ → ι → Prop} {step : σ → ι → σ}

/-- A property of the past and the state reached, kept by every allowed step. -/
theorem invariant {I : List (σ × ι) → σ → Prop} (base : ∀ s, start s → I [] s)
    (keep : ∀ past s input, I past s → allowed past s input → I ((s, input) :: past) (step s input))
    {past : List (σ × ι)} {s : σ} (run : Run start allowed step past s) : I past s := by
  induction run with
  | start h => exact base _ h
  | next _ ok ih => exact keep _ _ _ ih ok

/-- A relation between a moment and all states after it: every step establishes it for its
own moment and keeps it for the ones before, given an invariant of the run. -/
theorem since {I : List (σ × ι) → σ → Prop} {R : σ × ι → σ → Prop}
    (inv : ∀ {past s}, Run start allowed step past s → I past s)
    (now : ∀ past s input, I past s → allowed past s input → R (s, input) (step s input))
    (later : ∀ past s input, I past s → allowed past s input →
      ∀ m ∈ past, R m s → R m (step s input))
    {past : List (σ × ι)} {s : σ} (run : Run start allowed step past s) : ∀ m ∈ past, R m s := by
  induction run with
  | start h => exact fun m hm => absurd hm List.not_mem_nil
  | next run ok ih =>
      intro m hm
      rcases List.mem_cons.mp hm with rfl | hm
      · exact now _ _ _ (inv run) ok
      · exact later _ _ _ (inv run) ok m hm (ih m hm)

/-- A run under stronger assumptions is one under weaker ones. -/
theorem mono {start' : σ → Prop} {allowed' : List (σ × ι) → σ → ι → Prop}
    (hstart : ∀ s, start s → start' s)
    (hallowed : ∀ past s input, allowed past s input → allowed' past s input)
    {past : List (σ × ι)} {s : σ} (run : Run start allowed step past s) :
    Run start' allowed' step past s := by
  induction run with
  | start h => exact .start (hstart _ h)
  | next _ ok ih => exact .next ih (hallowed _ _ _ ok)

/-- Every moment of a run ends a run of its own. -/
theorem of_mem {past : List (σ × ι)} {s : σ} (run : Run start allowed step past s) {m : σ × ι}
    (hm : m ∈ past) : ∃ before, Run start allowed step before m.1 ∧ allowed before m.1 m.2 ∧
      ∀ n ∈ before, n ∈ past := by
  induction run with
  | start h => exact absurd hm List.not_mem_nil
  | next run ok ih =>
      rcases List.mem_cons.mp hm with rfl | hm
      · exact ⟨_, run, ok, fun n hn => List.mem_cons_of_mem _ hn⟩
      · obtain ⟨before, hrun, hok, hsub⟩ := ih hm
        exact ⟨before, hrun, hok, fun n hn => List.mem_cons_of_mem _ (hsub n hn)⟩

end Run

/-- What holds of every moment, given what came before it. -/
def Throughout (Q : List (σ × ι) → σ → ι → Prop) : List (σ × ι) → Prop
  | [] => True
  | (s, input) :: past => Q past s input ∧ Throughout Q past

theorem Run.throughout_congr {start : σ → Prop} {allowed : List (σ × ι) → σ → ι → Prop} {step : σ → ι → σ}
    {Q R : List (σ × ι) → σ → ι → Prop}
    (h : ∀ past s input, Run start allowed step past s → allowed past s input →
      (Q past s input ↔ R past s input))
    {past : List (σ × ι)} {s : σ} (run : Run start allowed step past s) :
    Throughout Q past ↔ Throughout R past := by
  induction run with
  | start _ => exact Iff.rfl
  | next run ok ih => exact and_congr (h _ _ _ run ok) ih

end FidoOnboard
