import FidoOnboard.Base.Hex

/-!
# UTF-8 text and its lossy reading

A byte sequence that is no character is read as U+FFFD. The bytes below 128 are
characters of their own wherever they stand.
-/
namespace FidoOnboard.Utf8

def encode (s : List Char) : Bytes := s.flatMap String.utf8EncodeChar

def replacement : Char := Char.ofNat 0xFFFD

def isContinuation (b : UInt8) : Bool := 0x80 ≤ b && b ≤ 0xBF

/-- The second bytes that may follow the first byte of a character of three or four bytes. -/
def secondFits (first second : UInt8) : Bool :=
  if first = 0xE0 then 0xA0 ≤ second && second ≤ 0xBF
  else if first = 0xED then 0x80 ≤ second && second ≤ 0x9F
  else if 0xE1 ≤ first && first ≤ 0xEF then isContinuation second
  else if first = 0xF0 then 0x90 ≤ second && second ≤ 0xBF
  else if first = 0xF4 then 0x80 ≤ second && second ≤ 0x8F
  else if 0xF1 ≤ first && first ≤ 0xF3 then isContinuation second
  else false

/-- How many bytes fall with a first byte that begins no character. -/
def brokenTail (first : UInt8) : Bytes → Nat
  | [] => 0
  | [second] => if secondFits first second then 1 else 0
  | second :: third :: _ =>
    if secondFits first second then
      if 0xF0 ≤ first && isContinuation third then 2 else 1
    else 0

def firstChar (bs : Bytes) : Option Char := bs.toByteArray.utf8DecodeChar? 0

/-- The number counts the bytes of the last character that are still to be passed over. -/
def lossyFrom : Nat → Bytes → List Char
  | _, [] => []
  | n + 1, _ :: bs => lossyFrom n bs
  | 0, b :: bs =>
    match firstChar (b :: bs) with
    | some c => c :: lossyFrom (c.utf8Size - 1) bs
    | none => replacement :: lossyFrom (brokenTail b bs) bs

/-- `String::from_utf8_lossy`. -/
def fromUtf8Lossy (bs : Bytes) : List Char := lossyFrom 0 bs

/-! ## Reading what was written -/

theorem encode_cons (c : Char) (s : List Char) : encode (c :: s) = String.utf8EncodeChar c ++ encode s := rfl

theorem encode_append (s t : List Char) : encode (s ++ t) = encode s ++ encode t := List.flatMap_append

theorem firstChar_encode (c : Char) (rest : Bytes) : firstChar (String.utf8EncodeChar c ++ rest) = some c := by
  rw [firstChar, List.toByteArray_append]
  exact ByteArray.utf8DecodeChar?_utf8EncodeChar_append

theorem eq_of_firstChar {bs : Bytes} {c : Char} (h : firstChar bs = some c) :
    ∃ rest, bs = String.utf8EncodeChar c ++ rest := by
  obtain ⟨l, hl⟩ := ByteArray.exists_of_utf8DecodeChar?_eq_some h
  refine ⟨l.data.toList, ?_⟩
  have hdata := congrArg (fun a => a.data.toList) hl
  simpa using hdata

theorem lossyFrom_drop (n : Nat) (bs : Bytes) : lossyFrom n bs = fromUtf8Lossy (bs.drop n) := by
  induction bs generalizing n with
  | nil => cases n <;> rfl
  | cons b bs ih =>
      cases n with
      | zero => rfl
      | succ n => exact ih n

theorem fromUtf8Lossy_char (c : Char) (rest : Bytes) :
    fromUtf8Lossy (String.utf8EncodeChar c ++ rest) = c :: fromUtf8Lossy rest := by
  have hfirst := firstChar_encode c rest
  have hlength := String.length_utf8EncodeChar c
  have hpos := c.utf8Size_pos
  cases hbytes : String.utf8EncodeChar c with
  | nil =>
      rw [hbytes] at hlength
      simp only [List.length_nil] at hlength
      omega
  | cons b bs =>
      rw [hbytes] at hfirst hlength
      simp only [List.length_cons] at hlength
      simp only [List.cons_append] at hfirst ⊢
      rw [fromUtf8Lossy, lossyFrom, hfirst]
      simp only [lossyFrom_drop, ← hlength, Nat.add_sub_cancel, List.drop_left]

theorem fromUtf8Lossy_encode (s : List Char) : fromUtf8Lossy (encode s) = s := by
  induction s with
  | nil => rfl
  | cons c s ih => rw [encode_cons, fromUtf8Lossy_char, ih]

/-! ## The bytes below 128 -/

def isAscii (c : Char) : Bool := c.toNat < 128

def asciiBytes (bs : Bytes) : Bytes := bs.filter (· < 0x80)

def asciiOf (s : List Char) : Bytes := (s.filter isAscii).map Char.toUInt8

theorem utf8EncodeChar_ascii {c : Char} (h : isAscii c) : String.utf8EncodeChar c = [c.toUInt8] := by
  have hle : c.val.toNat ≤ 127 := by
    simp only [isAscii, decide_eq_true_eq] at h
    exact Nat.le_of_lt_succ h
  exact String.utf8EncodeChar_eq_singleton (Char.utf8Size_eq_one_iff.mpr hle)

theorem utf8EncodeChar_wide {c : Char} (h : isAscii c = false) {b : UInt8}
    (hb : b ∈ String.utf8EncodeChar c) : 0x80 ≤ b := by
  have hlt : 127 < c.val.toNat := by
    simp only [isAscii, decide_eq_false_iff_not, Nat.not_lt] at h
    exact h
  have hcode : ∀ n < 256, 128 ≤ n → 0x80 ≤ UInt8.ofNat n := by
    intro n hn hwide
    rw [UInt8.le_iff_toNat_le, UInt8.toNat_ofNat_of_lt' hn]
    exact hwide
  unfold String.utf8EncodeChar at hb
  simp only [show ¬c.val.toNat ≤ 0x7f by omega, if_false] at hb
  split at hb
  · simp only [List.mem_cons, List.not_mem_nil, or_false] at hb
    rcases hb with rfl | rfl <;> exact hcode _ (by omega) (by omega)
  · split at hb
    · simp only [List.mem_cons, List.not_mem_nil, or_false] at hb
      rcases hb with rfl | rfl | rfl <;> exact hcode _ (by omega) (by omega)
    · simp only [List.mem_cons, List.not_mem_nil, or_false] at hb
      rcases hb with rfl | rfl | rfl | rfl <;> exact hcode _ (by omega) (by omega)

theorem asciiBytes_append (a b : Bytes) : asciiBytes (a ++ b) = asciiBytes a ++ asciiBytes b := List.filter_append ..

theorem asciiOf_append (s t : List Char) : asciiOf (s ++ t) = asciiOf s ++ asciiOf t := by
  simp [asciiOf]

theorem toUInt8_lt {c : Char} (h : isAscii c) : c.toUInt8 < 0x80 := by
  simp only [isAscii, decide_eq_true_eq] at h
  rw [UInt8.lt_iff_toNat_lt]
  change c.val.toNat % 256 < 128
  have : c.val.toNat < 128 := h
  omega

theorem toUInt8_inj {c d : Char} (hc : isAscii c) (hd : isAscii d) (h : c.toUInt8 = d.toUInt8) : c = d := by
  simp only [isAscii, decide_eq_true_eq] at hc hd
  have hmod : c.toNat % 256 = d.toNat % 256 := congrArg UInt8.toNat h
  exact Char.ext (UInt32.toNat_inj.mp (by change c.toNat = d.toNat; omega))

theorem asciiBytes_char (c : Char) : asciiBytes (String.utf8EncodeChar c) = asciiOf [c] := by
  cases h : isAscii c with
  | true => simp [utf8EncodeChar_ascii h, asciiBytes, asciiOf, h, toUInt8_lt h]
  | false =>
      have hwide : asciiBytes (String.utf8EncodeChar c) = [] := by
        rw [asciiBytes, List.filter_eq_nil_iff]
        intro b hb
        simpa using utf8EncodeChar_wide h hb
      simp [hwide, asciiOf, h]

theorem asciiBytes_encode (s : List Char) : asciiBytes (encode s) = asciiOf s := by
  induction s with
  | nil => rfl
  | cons c s ih =>
      rw [encode_cons, asciiBytes_append, asciiBytes_char, ih, ← asciiOf_append, List.singleton_append]

theorem isContinuation_wide {b : UInt8} (h : isContinuation b) : ¬b < 0x80 := by
  simp only [isContinuation, Bool.and_eq_true, decide_eq_true_eq] at h
  exact UInt8.not_lt.mpr h.1

theorem secondFits_wide {first second : UInt8} (h : secondFits first second) : ¬second < 0x80 := by
  have hrange : ∀ {low high : UInt8}, 0x80 ≤ low → (low ≤ second && second ≤ high) = true → ¬second < 0x80 := by
    intro low high hlow hboth
    simp only [Bool.and_eq_true, decide_eq_true_eq] at hboth
    exact UInt8.not_lt.mpr (UInt8.le_trans hlow hboth.1)
  unfold secondFits at h
  split at h
  · exact hrange (by decide) h
  split at h
  · exact hrange (by decide) h
  split at h
  · exact isContinuation_wide h
  split at h
  · exact hrange (by decide) h
  split at h
  · exact hrange (by decide) h
  split at h
  · exact isContinuation_wide h
  · cases h

/-- Nothing below 128 falls with a broken character. -/
theorem asciiBytes_brokenTail (b : UInt8) (bs : Bytes) :
    asciiBytes (bs.drop (brokenTail b bs)) = asciiBytes bs := by
  fun_cases brokenTail b bs with
  | case1 => rfl
  | case2 second h => simp [asciiBytes, secondFits_wide h]
  | case3 second h => rfl
  | case4 second third rest h hthird =>
      rw [Bool.and_eq_true] at hthird
      simp [asciiBytes, secondFits_wide h, isContinuation_wide hthird.2]
  | case5 second third rest h hthird => simp [asciiBytes, secondFits_wide h]
  | case6 second third rest h => rfl

theorem firstChar_ascii {b : UInt8} (h : b < 0x80) (bs : Bytes) : firstChar (b :: bs) = some (Char.ofUInt8 b) := by
  have hascii : isAscii (Char.ofUInt8 b) := by
    simp only [isAscii, decide_eq_true_eq]
    exact UInt8.lt_iff_toNat_lt.mp h
  have hbyte : (Char.ofUInt8 b).toUInt8 = b := UInt8.toUInt8_toUInt32 b
  have hchar := firstChar_encode (Char.ofUInt8 b) bs
  rw [utf8EncodeChar_ascii hascii, hbyte] at hchar
  exact hchar

/-- Reading keeps what is below 128, in its order. -/
theorem asciiOf_fromUtf8Lossy (bs : Bytes) : asciiOf (fromUtf8Lossy bs) = asciiBytes bs := by
  induction hn : bs.length using Nat.strong_induction_on generalizing bs with
  | _ n ih =>
      cases bs with
      | nil => rfl
      | cons b bs =>
          cases hfirst : firstChar (b :: bs) with
          | some c =>
              obtain ⟨rest, hrest⟩ := eq_of_firstChar hfirst
              have hlength := congrArg List.length hrest
              rw [List.length_append, String.length_utf8EncodeChar] at hlength
              have hpos := c.utf8Size_pos
              rw [hrest, fromUtf8Lossy_char, asciiBytes_append, asciiBytes_char, ← List.singleton_append,
                asciiOf_append, ih rest.length (by omega) rest rfl]
          | none =>
              have hwide : ¬b < 0x80 := by
                intro hlt
                rw [firstChar_ascii hlt] at hfirst
                cases hfirst
              have hread : fromUtf8Lossy (b :: bs) = replacement :: fromUtf8Lossy (bs.drop (brokenTail b bs)) := by
                rw [fromUtf8Lossy, lossyFrom, hfirst, lossyFrom_drop]
              have hsmall : (bs.drop (brokenTail b bs)).length < n := by
                rw [← hn, List.length_drop, List.length_cons]
                omega
              rw [hread, ← List.singleton_append, asciiOf_append, ih _ hsmall _ rfl, asciiBytes_brokenTail]
              simp [asciiOf, asciiBytes, hwide, show isAscii replacement = false by decide]

end FidoOnboard.Utf8
