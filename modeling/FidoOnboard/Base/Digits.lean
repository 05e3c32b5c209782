import Mathlib.Data.Nat.Notation

/-!
# Numbers in digits

`u32::from_str_radix` for radixes up to ten.
-/
namespace FidoOnboard

/-- The number behind `acc`, as long as it stays below 2 ^ 32. -/
def u32Digits (radix : Nat) : List Char → Nat → Option Nat
  | [], acc => some acc
  | c :: cs, acc =>
    if '0' ≤ c ∧ c.toNat - '0'.toNat < radix ∧ radix * acc + (c.toNat - '0'.toNat) < 2 ^ 32 then
      u32Digits radix cs (radix * acc + (c.toNat - '0'.toNat))
    else none

/-- A plus sign may stand in front. -/
def u32FromStrRadix (radix : Nat) : List Char → Option Nat
  | [] => none
  | ['+'] => none
  | '+' :: digits => u32Digits radix digits 0
  | digits => u32Digits radix digits 0

example : u32FromStrRadix 8 "+644".toList = some 0o644 := by decide

end FidoOnboard
