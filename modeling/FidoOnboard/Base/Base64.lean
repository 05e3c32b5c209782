import FidoOnboard.Base.BigEndian
import Mathlib.Data.List.Basic

/-!
# Base64 text

Three bytes as four digits of six bits, and padding where bytes are missing.
-/
namespace FidoOnboard.Base64

def ascii (text : String) : Bytes := text.toList.map fun c => UInt8.ofNat c.toNat

def digits : Bytes := ascii "ABCDEFGHIJKLMNOPQRSTUVWXYZabcdefghijklmnopqrstuvwxyz0123456789+/"

def digit (n : Nat) : UInt8 := digits.getD n 0

def value (c : UInt8) : Option Nat := digits.idxOf? c

def encode : Bytes → Bytes
  | [] => []
  | [a] => [digit (a.toNat / 4), digit (a.toNat % 4 * 16), 0x3d, 0x3d]
  | [a, b] =>
    [digit (a.toNat / 4), digit (a.toNat % 4 * 16 + b.toNat / 16), digit (b.toNat % 16 * 4), 0x3d]
  | a :: b :: c :: rest =>
    digit (a.toNat / 4) :: digit (a.toNat % 4 * 16 + b.toNat / 16) ::
      digit (b.toNat % 16 * 4 + c.toNat / 64) :: digit (c.toNat % 64) :: encode rest

/-- The bits that padding leaves over must be zero. -/
def decode : Bytes → Option Bytes
  | [] => some []
  | [w, x, 0x3d, 0x3d] => do
    let w ← value w
    let x ← value x
    if x % 16 = 0 then some [UInt8.ofNat (w * 4 + x / 16)] else none
  | [w, x, y, 0x3d] => do
    let w ← value w
    let x ← value x
    let y ← value y
    if y % 4 = 0 then some [UInt8.ofNat (w * 4 + x / 16), UInt8.ofNat (x % 16 * 16 + y / 4)] else none
  | w :: x :: y :: z :: rest => do
    let w ← value w
    let x ← value x
    let y ← value y
    let z ← value z
    let rest ← decode rest
    some (UInt8.ofNat (w * 4 + x / 16) :: UInt8.ofNat (x % 16 * 16 + y / 4) ::
      UInt8.ofNat (y % 4 * 64 + z) :: rest)
  | _ => none

theorem digit_spec {n : Nat} (h : n < 64) : value (digit n) = some n ∧ digit n ≠ 0x3d ∧ digit n ∈ digits := by
  have hall : ∀ m < 64, value (digit m) = some m ∧ digit m ≠ 0x3d ∧ digit m ∈ digits := by decide +kernel
  exact hall n h

theorem value_digit {n : Nat} (h : n < 64) : value (digit n) = some n := (digit_spec h).1

theorem digit_ne {n : Nat} (h : n < 64) : digit n ≠ 0x3d := (digit_spec h).2.1

theorem digit_mem {n : Nat} (h : n < 64) : digit n ∈ digits := (digit_spec h).2.2

theorem encode_mem {bytes : Bytes} {c : UInt8} (h : c ∈ encode bytes) : c ∈ digits ∨ c = 0x3d := by
  induction bytes using encode.induct with
  | case1 => exact absurd h List.not_mem_nil
  | case2 a =>
      have ha := a.toNat_lt
      simp only [encode, List.mem_cons, List.not_mem_nil, or_false] at h
      rcases h with rfl | rfl | rfl | rfl
      · exact .inl (digit_mem (by omega))
      · exact .inl (digit_mem (by omega))
      · exact .inr rfl
      · exact .inr rfl
  | case3 a b =>
      have ha := a.toNat_lt
      have hb := b.toNat_lt
      simp only [encode, List.mem_cons, List.not_mem_nil, or_false] at h
      rcases h with rfl | rfl | rfl | rfl
      · exact .inl (digit_mem (by omega))
      · exact .inl (digit_mem (by omega))
      · exact .inl (digit_mem (by omega))
      · exact .inr rfl
  | case4 a b c' rest ih =>
      have ha := a.toNat_lt
      have hb := b.toNat_lt
      have hc := c'.toNat_lt
      simp only [encode, List.mem_cons] at h
      rcases h with rfl | rfl | rfl | rfl | h
      · exact .inl (digit_mem (by omega))
      · exact .inl (digit_mem (by omega))
      · exact .inl (digit_mem (by omega))
      · exact .inl (digit_mem (by omega))
      · exact ih h

theorem decode_encode (bytes : Bytes) : decode (encode bytes) = some bytes := by
  induction bytes using encode.induct with
  | case1 => rfl
  | case2 a =>
      have ha := a.toNat_lt
      have hsum : a.toNat / 4 * 4 + a.toNat % 4 * 16 / 16 = a.toNat := by omega
      have hzero : a.toNat % 4 * 16 % 16 = 0 := by omega
      rw [encode, decode, value_digit (by omega), value_digit (by omega)]
      simp only [Option.bind_eq_bind, Option.bind_some, hzero, if_true, hsum, UInt8.ofNat_toNat]
  | case3 a b =>
      have ha := a.toNat_lt
      have hb := b.toNat_lt
      have hfirst : a.toNat / 4 * 4 + (a.toNat % 4 * 16 + b.toNat / 16) / 16 = a.toNat := by omega
      have hsecond : (a.toNat % 4 * 16 + b.toNat / 16) % 16 * 16 + b.toNat % 16 * 4 / 4 = b.toNat := by omega
      have hzero : b.toNat % 16 * 4 % 4 = 0 := by omega
      rw [encode, decode.eq_3 _ _ _ fun heq => absurd heq (digit_ne (by omega)), value_digit (by omega),
        value_digit (by omega), value_digit (by omega)]
      simp only [Option.bind_eq_bind, Option.bind_some, hzero, if_true, hfirst, hsecond, UInt8.ofNat_toNat]
  | case4 a b c rest ih =>
      have ha := a.toNat_lt
      have hb := b.toNat_lt
      have hc := c.toNat_lt
      have hfirst : a.toNat / 4 * 4 + (a.toNat % 4 * 16 + b.toNat / 16) / 16 = a.toNat := by omega
      have hsecond : (a.toNat % 4 * 16 + b.toNat / 16) % 16 * 16 + (b.toNat % 16 * 4 + c.toNat / 64) / 4 =
          b.toNat := by omega
      have hthird : (b.toNat % 16 * 4 + c.toNat / 64) % 4 * 64 + c.toNat % 64 = c.toNat := by omega
      rw [encode, decode.eq_4 _ _ _ _ _ (fun _ heq => absurd heq (digit_ne (by omega)))
        fun heq => absurd heq (digit_ne (by omega)), value_digit (by omega), value_digit (by omega),
        value_digit (by omega), value_digit (by omega), ih]
      simp only [Option.bind_eq_bind, Option.bind_some, hfirst, hsecond, hthird, UInt8.ofNat_toNat]

/-! ## Lines -/

def crlf : Bytes := [0x0d, 0x0a]

/-- The text in lines of `width`, with `room` on the first of them. -/
def wrap (width : Nat) : Nat → Bytes → Bytes
  | _, [] => []
  | room, c :: text =>
    if room ≤ 1 ∨ text = [] then c :: crlf ++ wrap width width text else c :: wrap width (room - 1) text

def unwrap (text : Bytes) : Bytes := text.filter (· ∉ crlf)

theorem wrap_mem {width : Nat} {text : Bytes} {c : UInt8} {room : Nat} (h : c ∈ wrap width room text) :
    c ∈ text ∨ c ∈ crlf := by
  induction text generalizing room with
  | nil => exact absurd h List.not_mem_nil
  | cons d text ih =>
      rw [wrap] at h
      split at h
      case isTrue =>
        rcases List.mem_append.mp h with h | h
        · rcases List.mem_cons.mp h with rfl | h
          · exact .inl List.mem_cons_self
          · exact .inr h
        · exact (ih h).imp_left (List.mem_cons_of_mem d)
      case isFalse =>
        rcases List.mem_cons.mp h with rfl | h
        · exact .inl List.mem_cons_self
        · exact (ih h).imp_left (List.mem_cons_of_mem d)

theorem unwrap_wrap {width : Nat} {text : Bytes} (room : Nat) (h : ∀ c ∈ text, c ∉ crlf) :
    unwrap (wrap width room text) = text := by
  induction text generalizing room with
  | nil => rfl
  | cons c text ih =>
      have hc : c ∉ crlf := h c List.mem_cons_self
      have htext : ∀ d ∈ text, d ∉ crlf := fun d hd => h d (List.mem_cons_of_mem c hd)
      have hcons (rest : Bytes) : unwrap (c :: rest) = c :: unwrap rest :=
        List.filter_cons_of_pos (decide_eq_true hc)
      rw [wrap]
      split
      case isTrue =>
        rw [List.cons_append, hcons]
        exact congrArg (c :: ·) (ih width htext)
      case isFalse => rw [hcons, ih (room - 1) htext]

theorem encode_plain {bytes : Bytes} {c : UInt8} (h : c ∈ encode bytes) : c ∉ crlf ∧ c ≠ 0x2d := by
  have hdigits : ∀ d ∈ digits, d ∉ crlf ∧ d ≠ 0x2d := by decide +kernel
  rcases encode_mem h with h | rfl
  · exact hdigits c h
  · decide

end FidoOnboard.Base64
