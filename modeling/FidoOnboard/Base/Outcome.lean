import Mathlib.Data.List.Basic
import Mathlib.Tactic.Common

/-!
# Results of fallible code that may also stop

A call either returns a value, returns an error the caller can handle, or
panics. A panic is kept apart from an error: no caller sees it, and a claim
that something "returns an error" is never satisfied by it.
-/
namespace FidoOnboard

universe u v w

inductive Outcome (ε : Type u) (α : Type v) where
  | ok (value : α)
  | err (error : ε)
  | panic
  deriving DecidableEq, Repr

namespace Outcome

variable {ε ε' : Type u} {α β : Type v}

def bind (x : Outcome ε α) (f : α → Outcome ε β) : Outcome ε β :=
  match x with
  | .ok a => f a
  | .err e => .err e
  | .panic => .panic

instance : Monad (Outcome ε) where
  pure := .ok
  bind := Outcome.bind

@[simp] theorem pure_eq (a : α) : (pure a : Outcome ε α) = .ok a := rfl

@[simp] theorem ok_bind (a : α) (f : α → Outcome ε β) : (Outcome.ok a >>= f) = f a := rfl

@[simp] theorem err_bind (e : ε) (f : α → Outcome ε β) :
    ((Outcome.err e : Outcome ε α) >>= f) = .err e := rfl

@[simp] theorem panic_bind (f : α → Outcome ε β) :
    ((Outcome.panic : Outcome ε α) >>= f) = .panic := rfl

instance : LawfulMonad (Outcome ε) :=
  .mk' _ (fun x => by cases x <;> rfl) (fun _ _ => rfl) (fun x _ _ => by cases x <;> rfl)

/-- The one inversion a sequence of `?` needs: a result was produced exactly
when every step before it produced one. -/
theorem bind_eq_ok {x : Outcome ε α} {f : α → Outcome ε β} {b : β} :
    (x >>= f) = .ok b ↔ ∃ a, x = .ok a ∧ f a = .ok b := by
  cases x with
  | ok a => simp only [ok_bind, Outcome.ok.injEq, exists_eq_left']
  | err e => simp only [err_bind, reduceCtorEq, false_and, exists_false]
  | panic => simp only [panic_bind, reduceCtorEq, false_and, exists_false]

/-- A sequence stops where its first step stops, or behind it. -/
theorem bind_eq_panic {x : Outcome ε α} {f : α → Outcome ε β} :
    (x >>= f) = .panic ↔ x = .panic ∨ ∃ a, x = .ok a ∧ f a = .panic := by
  cases x with
  | ok a => simp only [ok_bind, reduceCtorEq, false_or, Outcome.ok.injEq, exists_eq_left']
  | err e => simp only [err_bind, reduceCtorEq, false_and, exists_false, or_false]
  | panic => simp only [panic_bind, true_or]

theorem bind_eq_err {x : Outcome ε α} {f : α → Outcome ε β} {e : ε} :
    (x >>= f) = .err e ↔ x = .err e ∨ ∃ a, x = .ok a ∧ f a = .err e := by
  cases x with
  | ok a => simp only [ok_bind, reduceCtorEq, false_or, Outcome.ok.injEq, exists_eq_left']
  | err e' => simp only [err_bind, reduceCtorEq, false_and, exists_false, or_false, Outcome.err.injEq]
  | panic => simp only [panic_bind, reduceCtorEq, false_and, exists_false, or_false]

theorem bind_ne_err {x : Outcome ε α} {f : α → Outcome ε β} {e : ε} (hx : x ≠ .err e)
    (hf : ∀ a, x = .ok a → f a ≠ .err e) : (x >>= f) ≠ .err e := by
  intro h
  rcases bind_eq_err.mp h with hx' | ⟨a, ha, hfa⟩
  · exact hx hx'
  · exact hf a ha hfa

theorem bind_ne_panic {x : Outcome ε α} {f : α → Outcome ε β} (hx : x ≠ .panic)
    (hf : ∀ a, x = .ok a → f a ≠ .panic) : (x >>= f) ≠ .panic := by
  intro h
  rcases bind_eq_panic.mp h with hx' | ⟨a, ha, hfa⟩
  · exact hx hx'
  · exact hf a ha hfa

def isOk : Outcome ε α → Bool
  | .ok _ => true
  | _ => false

theorem isOk_iff {x : Outcome ε α} : x.isOk = true ↔ ∃ a, x = .ok a := by
  cases x <;> simp [isOk]

/-- `?` across error types. -/
def mapErr (f : ε → ε') : Outcome ε α → Outcome ε' α
  | .ok a => .ok a
  | .err e => .err (f e)
  | .panic => .panic

@[simp] theorem mapErr_ok (f : ε → ε') (a : α) : mapErr f (.ok a) = .ok a := rfl

@[simp] theorem mapErr_err (f : ε → ε') (e : ε) :
    mapErr f (.err e : Outcome ε α) = .err (f e) := rfl

@[simp] theorem mapErr_panic (f : ε → ε') : mapErr f (.panic : Outcome ε α) = .panic := rfl

@[simp] theorem mapErr_eq_ok {f : ε → ε'} {x : Outcome ε α} {a : α} :
    mapErr f x = .ok a ↔ x = .ok a := by
  cases x <;> simp [mapErr]

@[simp] theorem mapErr_eq_panic {f : ε → ε'} {x : Outcome ε α} : mapErr f x = .panic ↔ x = .panic := by
  cases x <;> simp [mapErr]

/-- `unwrap`: the error is not reported, the call stops. -/
def unwrap : Outcome ε α → Outcome ε' α
  | .ok a => .ok a
  | .err _ => .panic
  | .panic => .panic

@[simp] theorem unwrap_eq_ok {x : Outcome ε α} {a : α} :
    (unwrap x : Outcome ε' α) = .ok a ↔ x = .ok a := by
  cases x <;> simp [unwrap]

/-- `ok_or`. -/
def ofOption (e : ε) : Option α → Outcome ε α
  | some a => .ok a
  | none => .err e

@[simp] theorem ofOption_eq_ok {e : ε} {x : Option α} {a : α} :
    ofOption e x = .ok a ↔ x = some a := by
  cases x <;> simp [ofOption]

@[simp] theorem ofOption_ne_panic (e : ε) (x : Option α) : ofOption e x ≠ .panic := by
  cases x <;> simp [ofOption]

/-- A guard: `if` the test holds then go on, else return the error. -/
def check (p : Prop) [Decidable p] (e : ε) : Outcome ε PUnit :=
  if p then .ok ⟨⟩ else .err e

@[simp] theorem check_eq_ok {p : Prop} [Decidable p] {e : ε} {u : PUnit} :
    check p e = .ok u ↔ p := by
  unfold check
  split <;> simp [*]

theorem check_ne_panic (p : Prop) [Decidable p] (e : ε) : check p e ≠ .panic := by
  unfold check
  split
  · exact nofun
  · exact nofun

end Outcome
end FidoOnboard
