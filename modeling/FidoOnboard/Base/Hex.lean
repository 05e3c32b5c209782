import FidoOnboard.Base.BigEndian

/-!
# Hexadecimal text

Two lower-case digits for a byte. Reading also takes the upper-case ones.
-/
namespace FidoOnboard.Hex

def digits : List Char := "0123456789abcdef".toList

def digit (n : Nat) : Char := digits.getD n '0'

def value (c : Char) : Option Nat :=
  if '0' ≤ c ∧ c ≤ '9' then some (c.toNat - '0'.toNat)
  else if 'a' ≤ c ∧ c ≤ 'f' then some (c.toNat - 'a'.toNat + 10)
  else if 'A' ≤ c ∧ c ≤ 'F' then some (c.toNat - 'A'.toNat + 10)
  else none

def encode : Bytes → List Char
  | [] => []
  | b :: bs => digit (b.toNat / 16) :: digit (b.toNat % 16) :: encode bs

def decode : List Char → Option Bytes
  | [] => some []
  | [_] => none
  | high :: low :: rest => do
    let high ← value high
    let low ← value low
    let rest ← decode rest
    some (UInt8.ofNat (16 * high + low) :: rest)

theorem value_digit {n : Nat} (h : n < 16) : value (digit n) = some n := by
  have hall : ∀ m ∈ List.range 16, value (digit m) = some m := by decide
  exact hall n (List.mem_range.mpr h)

theorem decode_encode (bs : Bytes) : decode (encode bs) = some bs := by
  induction bs with
  | nil => rfl
  | cons b bs ih =>
      have hb := b.toNat_lt
      have hhigh : value (digit (b.toNat / 16)) = some (b.toNat / 16) := value_digit (by omega)
      have hlow : value (digit (b.toNat % 16)) = some (b.toNat % 16) := value_digit (by omega)
      have hsum : 16 * (b.toNat / 16) + b.toNat % 16 = b.toNat := by omega
      simp only [encode, decode, hhigh, hlow, ih, hsum, Option.bind_eq_bind, Option.bind_some,
        UInt8.ofNat_toNat]

theorem encode_injective : Function.Injective encode := by
  intro v w h
  have hdecoded : decode (encode v) = decode (encode w) := congrArg decode h
  rw [decode_encode, decode_encode] at hdecoded
  exact Option.some.inj hdecoded

theorem encode_append (v w : Bytes) : encode (v ++ w) = encode v ++ encode w := by
  induction v with
  | nil => rfl
  | cons b v ih => simp only [List.cons_append, encode, ih]

theorem mem_encode {v : Bytes} {c : Char} (h : c ∈ encode v) : ∃ n < 16, c = digit n := by
  induction v with
  | nil => cases h
  | cons b v ih =>
      have hb := b.toNat_lt
      rw [encode, List.mem_cons, List.mem_cons] at h
      rcases h with rfl | rfl | h
      · exact ⟨_, by omega, rfl⟩
      · exact ⟨_, by omega, rfl⟩
      · exact ih h

end FidoOnboard.Hex
