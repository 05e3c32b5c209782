import Mathlib.Data.List.Basic

/-!
# Leases that are renewed in rounds

A keeper pauses, then works. A lease that would end too soon is taken anew while it
works. Leases are granted for nanoseconds, and whether one has ended is told by the
full units of a clock.
-/
namespace FidoOnboard.Leases

structure Lease where
  since : Nat
  length : Nat
  deriving DecidableEq, Repr

/-- At `t` the clock has not counted the unit in which the lease ends. -/
def Lease.Covers (unit : Nat) (l : Lease) (t : Nat) : Prop :=
  l.since ≤ t ∧ t / unit < (l.since + l.length) / unit

variable {unit pause work : Nat}

/-- One round, from `now` to `now'`, with the leases taken in it. -/
structure Round (unit pause work : Nat) (now now' : Nat) (held taken : List Lease) : Prop where
  times : ∃ start, now ≤ start ∧ start ≤ now + pause ∧ start ≤ now' ∧ now' ≤ start + work ∧
    (∀ l ∈ taken, start ≤ l.since ∧ l.since ≤ now' ∧ pause + 2 * work + unit ≤ l.length) ∧
    (taken = [] → ∀ l ∈ held.head?, start + (pause + 2 * work + unit) ≤ l.since + l.length)

/-- Rounds, one after the other, with all leases ever taken, the latest first. -/
inductive Rounds (unit pause work : Nat) : Nat → List Lease → Prop where
  | start (now : Nat) : Rounds unit pause work now []
  | next {now now' : Nat} {held taken : List Lease} (rounds : Rounds unit pause work now held)
      (round : Round unit pause work now now' held taken) : Rounds unit pause work now' (taken ++ held)

/-- The latest lease outlasts the next round. -/
def Lasts (unit pause work now : Nat) (held : List Lease) : Prop :=
  ∀ l ∈ held.head?, now + pause + work + unit ≤ l.since + l.length

theorem Lease.covers_of_le {l : Lease} {t : Nat} (hunit : 0 < unit) (hsince : l.since ≤ t)
    (h : t + unit ≤ l.since + l.length) : l.Covers unit t := by
  refine ⟨hsince, ?_⟩
  calc t / unit < t / unit + 1 := Nat.lt_succ_self _
    _ = (t + unit) / unit := (Nat.add_div_right t hunit).symm
    _ ≤ (l.since + l.length) / unit := Nat.div_le_div_right h

theorem Round.lasts {now now' : Nat} {held taken : List Lease} (round : Round unit pause work now now' held taken) :
    Lasts unit pause work now' (taken ++ held) := by
  obtain ⟨start, _, _, _, hend, htaken, hkept⟩ := round.times
  intro l hl
  cases taken with
  | nil =>
      have hlong := hkept rfl l hl
      omega
  | cons latest taken =>
      have hlong := htaken l (Option.some.inj hl ▸ List.mem_cons_self)
      omega

theorem Rounds.lasts {now : Nat} {held : List Lease} (rounds : Rounds unit pause work now held) :
    Lasts unit pause work now held := by
  induction rounds with
  | start now => exact fun l hl => by cases hl
  | next _ round _ => exact round.lasts

theorem Rounds.since_le {now : Nat} {held : List Lease} (rounds : Rounds unit pause work now held) :
    ∀ l ∈ held, l.since ≤ now := by
  induction rounds with
  | start now => exact fun l hl => absurd hl List.not_mem_nil
  | next _ round ih =>
      obtain ⟨start, hstart, _, hend, _, htaken, _⟩ := round.times
      intro l hl
      rcases List.mem_append.mp hl with hnew | hold
      · exact (htaken l hnew).2.1
      · have hle := ih l hold
        omega

/-- From its first lease on the keeper holds one all the time. -/
theorem Rounds.held_throughout (hunit : 0 < unit) {now : Nat} {held : List Lease}
    (rounds : Rounds unit pause work now held) :
    ∀ first ∈ held, ∀ t, first.since ≤ t → t ≤ now → ∃ l ∈ held, l.Covers unit t := by
  induction rounds with
  | start now => exact fun first hfirst => absurd hfirst List.not_mem_nil
  | @next now now' held taken rounds round ih =>
      obtain ⟨start, hstart, hpause, _, hend, htaken, _⟩ := round.times
      intro first hfirst t hsince ht
      rcases List.mem_append.mp hfirst with hnew | hold
      · have hlong := htaken first hnew
        exact ⟨first, hfirst, Lease.covers_of_le hunit hsince (by omega)⟩
      · by_cases hbefore : t ≤ now
        case pos =>
          obtain ⟨l, hl, hcovers⟩ := ih first hold t hsince hbefore
          exact ⟨l, List.mem_append_right _ hl, hcovers⟩
        case neg =>
          cases held with
          | nil => cases hold
          | cons latest held =>
              have hlong := rounds.lasts latest rfl
              have hlate := rounds.since_le latest List.mem_cons_self
              exact ⟨latest, List.mem_append_right _ List.mem_cons_self,
                Lease.covers_of_le hunit (by omega) (by omega)⟩

end FidoOnboard.Leases
