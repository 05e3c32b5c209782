import FidoOnboard.Base.Outcome
import Mathlib.Data.UInt
import Mathlib.Tactic.Ring
import Mathlib.Tactic.Linarith

/-! Big-endian numbers, byte by byte, and writing them into a buffer. -/
namespace FidoOnboard

abbrev Bytes := List UInt8

namespace BigEndian

def fromBe : Bytes → Nat
  | [] => 0
  | b :: bs => b.toNat * 256 ^ bs.length + fromBe bs

def toBe : Nat → Nat → Bytes
  | 0, _ => []
  | width + 1, n => UInt8.ofNat (n / 256 ^ width) :: toBe width (n % 256 ^ width)

@[simp] theorem toBe_length (width n : Nat) : (toBe width n).length = width := by
  induction width generalizing n with
  | zero => rfl
  | succ width ih => simp only [toBe, List.length_cons, ih]

theorem fromBe_lt (bs : Bytes) : fromBe bs < 256 ^ bs.length := by
  induction bs with
  | nil => simp [fromBe]
  | cons b bs ih =>
      have hb : b.toNat ≤ 255 := Nat.le_of_lt_succ b.toNat_lt
      calc fromBe (b :: bs) < b.toNat * 256 ^ bs.length + 256 ^ bs.length := by
            simpa only [fromBe] using Nat.add_lt_add_left ih _
        _ = (b.toNat + 1) * 256 ^ bs.length := by ring
        _ ≤ 256 * 256 ^ bs.length := Nat.mul_le_mul_right _ (by omega)
        _ = 256 ^ (b :: bs).length := by rw [List.length_cons, pow_succ]; ring

theorem fromBe_toBe {width n : Nat} (h : n < 256 ^ width) : fromBe (toBe width n) = n := by
  induction width generalizing n with
  | zero => simp only [pow_zero, Nat.lt_one_iff] at h; simp [toBe, fromBe, h]
  | succ width ih =>
      have hpos : 0 < 256 ^ width := Nat.pow_pos (by decide)
      have hq : n / 256 ^ width < 256 := Nat.div_lt_of_lt_mul (by rwa [pow_succ] at h)
      have hb : (UInt8.ofNat (n / 256 ^ width)).toNat = n / 256 ^ width := by
        simpa only [UInt8.toNat_ofNat'] using Nat.mod_eq_of_lt hq
      simp only [toBe, fromBe, toBe_length, hb, ih (Nat.mod_lt n hpos)]
      exact Nat.div_add_mod' n (256 ^ width)

theorem fromBe_inj {bs bs' : Bytes} (hlen : bs.length = bs'.length)
    (h : fromBe bs = fromBe bs') : bs = bs' := by
  induction bs generalizing bs' with
  | nil => exact (List.length_eq_zero_iff.mp hlen.symm).symm
  | cons b bs ih =>
      cases bs' with
      | nil => cases hlen
      | cons b' bs' =>
          simp only [List.length_cons, Nat.add_right_cancel_iff] at hlen
          simp only [fromBe, hlen] at h
          have hlt := fromBe_lt bs
          have hlt' := fromBe_lt bs'
          rw [hlen] at hlt
          have hdiv := congrArg (· / 256 ^ bs'.length) h
          simp only [Nat.mul_comm _ (256 ^ bs'.length), Nat.mul_add_div (Nat.pow_pos (by decide : 0 < 256)),
            Nat.div_eq_of_lt hlt, Nat.div_eq_of_lt hlt', Nat.add_zero] at hdiv
          rw [UInt8.toNat_inj.mp hdiv, ih hlen (by rw [hdiv] at h; omega)]

theorem toBe_fromBe (bs : Bytes) : toBe bs.length (fromBe bs) = bs :=
  fromBe_inj (toBe_length _ _) (fromBe_toBe (fromBe_lt bs))

/-- Overwrites the first `width` bytes of the slice; a shorter slice panics. -/
def write {ε : Type} (width : Nat) (buf : Bytes) (n : Nat) : Outcome ε Bytes :=
  if width ≤ buf.length then .ok (toBe width n ++ buf.drop width) else .panic

end BigEndian
end FidoOnboard
