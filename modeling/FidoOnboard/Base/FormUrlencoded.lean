import FidoOnboard.Base.Splitting
import FidoOnboard.Base.Utf8

/-!
# The query of a URL

A query is set with the query set of the URL standard, and read as
`application/x-www-form-urlencoded`. The ampersand, the equals sign, the plus
sign and the percent sign are written as they are.
-/
namespace FidoOnboard.FormUrlencoded
open Splitting Utf8

/-! ## Setting a query -/

/-- The query set of `http` and `https`. -/
def inQuerySet (b : UInt8) : Bool :=
  b ≤ 0x20 || 0x7F ≤ b || b == 0x22 || b == 0x23 || b == 0x27 || b == 0x3C || b == 0x3E

def upperDigit (n : UInt8) : UInt8 := if n < 10 then 0x30 + n else 0x37 + n

def percentEncodeByte (b : UInt8) : Bytes :=
  if inQuerySet b then [0x25, upperDigit (b / 16), upperDigit (b % 16)] else [b]

def percentEncode (bs : Bytes) : Bytes := bs.flatMap percentEncodeByte

def isTabOrNewline (c : Char) : Bool := c == '\t' || c == '\n' || c == '\r'

/-- Tabs and line breaks are dropped wherever they stand. -/
def setQuery (query : List Char) : Bytes := percentEncode (encode (query.filter fun c => !isTabOrNewline c))

/-! ## Reading it -/

def hexDigit (b : UInt8) : Option UInt8 := (Hex.value (Char.ofUInt8 b)).map UInt8.ofNat

/-- The byte that a percent sign and two digits stand for. -/
def escaped (b high low : UInt8) : Option UInt8 :=
  if b = 0x25 then
    match hexDigit high, hexDigit low with
    | some high, some low => some (16 * high + low)
    | _, _ => none
  else none

def percentDecode : Bytes → Bytes
  | b :: high :: low :: rest =>
    match escaped b high low with
    | some v => v :: percentDecode rest
    | none => b :: percentDecode (high :: low :: rest)
  | bs => bs

def replacePlus (bs : Bytes) : Bytes := bs.map fun b => if b = 0x2B then 0x20 else b

def decode (bs : Bytes) : List Char := fromUtf8Lossy (percentDecode (replacePlus bs))

/-- Name and value around the first equals sign. -/
def pair (sequence : Bytes) : List Char × List Char :=
  (decode (sequence.takeWhile (· ≠ 0x3D)), decode ((sequence.dropWhile (· ≠ 0x3D)).drop 1))

def parse (bs : Bytes) : List (List Char × List Char) := ((bs.splitOn 0x26).filter (· ≠ [])).map pair

/-! ## Single bytes -/

theorem forall_byte {p : UInt8 → Prop} (h : ∀ n : Fin 256, p ⟨⟨n⟩⟩) (b : UInt8) : p b := h b.toFin

/-- All that is asked of single bytes. -/
theorem byte_facts : ∀ b, (inQuerySet b → hexDigit b = none ∧ b ≠ 0x25 ∧ b ≠ 0x2B ∧ b ≠ 0x26) ∧
    escaped 0x25 (upperDigit (b / 16)) (upperDigit (b % 16)) = some b ∧
    (upperDigit (b / 16) ≠ 0x2B ∧ upperDigit (b % 16) ≠ 0x2B ∧
      upperDigit (b / 16) ≠ 0x26 ∧ upperDigit (b % 16) ≠ 0x26) ∧
    ((hexDigit b).isSome → b < 0x80 ∧ b ≠ 0x2B) ∧ hexDigit (if b = 0x2B then 0x20 else b) = hexDigit b ∧
    (b ≠ 0x3D → 0x3D ∉ percentEncodeByte b) :=
  forall_byte (by decide +kernel)

theorem inQuerySet_other (b : UInt8) : inQuerySet b → hexDigit b = none ∧ b ≠ 0x25 ∧ b ≠ 0x2B ∧ b ≠ 0x26 :=
  (byte_facts b).1

theorem escaped_upperDigits (b : UInt8) : escaped 0x25 (upperDigit (b / 16)) (upperDigit (b % 16)) = some b :=
  (byte_facts b).2.1

theorem upperDigits_other (b : UInt8) : upperDigit (b / 16) ≠ 0x2B ∧ upperDigit (b % 16) ≠ 0x2B ∧
    upperDigit (b / 16) ≠ 0x26 ∧ upperDigit (b % 16) ≠ 0x26 :=
  (byte_facts b).2.2.1

theorem hexDigit_ascii (b : UInt8) : (hexDigit b).isSome → b < 0x80 ∧ b ≠ 0x2B := (byte_facts b).2.2.2.1

theorem hexDigit_percent : hexDigit 0x25 = none := rfl

/-! ## Reading a query that was set -/

theorem escaped_ne {b : UInt8} (h : b ≠ 0x25) (high low : UInt8) : escaped b high low = none := if_neg h

theorem percentDecode_cons {b : UInt8} (h : b ≠ 0x25) (bs : Bytes) :
    percentDecode (b :: bs) = b :: percentDecode bs := by
  match bs with
  | [] => rfl
  | [_] => rfl
  | high :: low :: rest => rw [percentDecode, escaped_ne h]

/-- The byte that a percent sign in front of these bytes makes of them. -/
def leading : Bytes → Option UInt8
  | high :: low :: _ => escaped 0x25 high low
  | _ => none

theorem percentDecode_percent (bs : Bytes) : percentDecode (0x25 :: bs) =
    match leading bs with
    | some v => v :: percentDecode (bs.drop 2)
    | none => 0x25 :: percentDecode bs := by
  match bs with
  | [] => rfl
  | [_] => rfl
  | high :: low :: rest => rfl

theorem replacePlus_append (a b : Bytes) : replacePlus (a ++ b) = replacePlus a ++ replacePlus b := List.map_append

theorem escaped_replacePlus (high low : UInt8) :
    escaped 0x25 (if high = 0x2B then 0x20 else high) (if low = 0x2B then 0x20 else low) = escaped 0x25 high low := by
  have hplus (b : UInt8) : hexDigit (if b = 0x2B then 0x20 else b) = hexDigit b := (byte_facts b).2.2.2.2.1
  simp only [escaped, hplus]

theorem leading_replacePlus (bs : Bytes) : leading (replacePlus bs) = leading bs := by
  match bs with
  | [] => rfl
  | [_] => rfl
  | high :: low :: rest => exact escaped_replacePlus high low

theorem percentEncode_cons (b : UInt8) (bs : Bytes) :
    percentEncode (b :: bs) = percentEncodeByte b ++ percentEncode bs := rfl

/-- A byte that is encoded begins with a percent sign, and is no digit itself. -/
theorem leading_percentEncode (bs : Bytes) : leading (percentEncode bs) = leading bs := by
  match bs with
  | [] => rfl
  | [b] =>
      rw [percentEncode_cons, percentEncodeByte]
      split
      · rfl
      · rfl
  | high :: low :: rest =>
      rw [percentEncode_cons, percentEncodeByte]
      split
      case isTrue h =>
        have hnone := (inQuerySet_other high h).1
        simp [leading, escaped, hnone, hexDigit_percent]
      case isFalse h =>
        rw [percentEncode_cons, percentEncodeByte]
        split
        case isTrue hlow =>
          have hnone := (inQuerySet_other low hlow).1
          simp [leading, escaped, hnone, hexDigit_percent]
        case isFalse hlow => rfl

theorem hexDigit_of_escaped {b high low v : UInt8} (h : escaped b high low = some v) :
    b = 0x25 ∧ (hexDigit high).isSome ∧ (hexDigit low).isSome := by
  unfold escaped at h
  split at h
  case isTrue hb =>
    split at h
    case h_1 hhigh hlow => simp [hb, hhigh, hlow]
    case h_2 => cases h
  case isFalse => cases h

theorem percentEncodeByte_digit {b : UInt8} (h : (hexDigit b).isSome) : percentEncodeByte b = [b] := by
  refine if_neg fun hset => ?_
  rw [(inQuerySet_other b hset).1] at h
  cases h

theorem drop_percentEncode {bs : Bytes} {v : UInt8} (h : leading bs = some v) :
    (percentEncode bs).drop 2 = percentEncode (bs.drop 2) := by
  match bs with
  | [] => cases h
  | [_] => cases h
  | high :: low :: rest =>
      obtain ⟨-, hhigh, hlow⟩ := hexDigit_of_escaped h
      rw [percentEncode_cons, percentEncode_cons, percentEncodeByte_digit hhigh, percentEncodeByte_digit hlow]
      rfl

/-- The encoding is undone, whatever else the reading changes. -/
theorem percentDecode_percentEncode (bs : Bytes) :
    percentDecode (replacePlus (percentEncode bs)) = percentDecode (replacePlus bs) := by
  induction hn : bs.length using Nat.strong_induction_on generalizing bs with
  | _ n ih =>
      cases bs with
      | nil => rfl
      | cons b bs =>
          have hrest := ih bs.length (by rw [← hn]; simp) bs rfl
          rw [percentEncode_cons, percentEncodeByte, replacePlus_append]
          split
          case isTrue hset =>
            obtain ⟨-, hpercent, hplus, -⟩ := inQuerySet_other b hset
            obtain ⟨hhigh, hlow, -, -⟩ := upperDigits_other b
            have hdigits : replacePlus [0x25, upperDigit (b / 16), upperDigit (b % 16)] =
                [0x25, upperDigit (b / 16), upperDigit (b % 16)] := by
              simp [replacePlus, hhigh, hlow]
            have hraw : replacePlus (b :: bs) = b :: replacePlus bs := by simp [replacePlus, hplus]
            rw [hdigits, hraw, percentDecode_cons hpercent, ← hrest]
            simp only [List.cons_append, List.nil_append]
            rw [percentDecode, escaped_upperDigits]
          case isFalse hset =>
            by_cases hb : b = 0x25
            case pos =>
              subst hb
              have hraw : replacePlus (0x25 :: bs) = 0x25 :: replacePlus bs := rfl
              have hcoded : replacePlus [0x25] ++ replacePlus (percentEncode bs) =
                0x25 :: replacePlus (percentEncode bs) := rfl
              rw [hraw, hcoded, percentDecode_percent, percentDecode_percent, leading_replacePlus,
                leading_percentEncode, leading_replacePlus]
              cases hlead : leading bs with
              | none => exact congrArg _ hrest
              | some v =>
                  have hdrop := ih (bs.drop 2).length (by rw [← hn, List.length_drop, List.length_cons]; omega)
                    (bs.drop 2) rfl
                  rw [← drop_percentEncode hlead] at hdrop
                  simpa only [replacePlus, List.map_drop] using congrArg (v :: ·) hdrop
            case neg =>
              have hother : (if b = 0x2B then 0x20 else b) ≠ 0x25 := by
                split
                · decide
                · exact hb
              simp only [replacePlus, List.map_cons, List.map_nil, List.singleton_append] at hrest ⊢
              rw [percentDecode_cons hother, percentDecode_cons hother, hrest]

theorem decode_percentEncode (bs : Bytes) : decode (percentEncode bs) = decode bs := by
  rw [decode, percentDecode_percentEncode]
  rfl

/-! ## Cutting it -/

theorem splitOn_percentEncode (bs : Bytes) :
    (percentEncode bs).splitOn 0x26 = (bs.splitOn 0x26).map percentEncode := by
  induction bs with
  | nil => rfl
  | cons b bs ih =>
      rw [percentEncode_cons, List.splitOn_cons_eq_if_modifyHead]
      by_cases hb : b = 0x26
      case pos =>
        subst hb
        have hraw : percentEncodeByte 0x26 = [0x26] := by decide
        rw [hraw, List.singleton_append, List.splitOn_cons_eq_if_modifyHead, ih]
        rfl
      case neg =>
        have hnone : 0x26 ∉ percentEncodeByte b := by
          rw [percentEncodeByte]
          split
          · have hdigits := upperDigits_other b
            simp [Ne.symm hdigits.2.2.1, Ne.symm hdigits.2.2.2]
          · simpa using Ne.symm hb
        rw [splitOn_append_of_not_mem hnone, ih]
        simp only [beq_iff_eq, hb, if_false]
        cases bs.splitOn 0x26 with
        | nil => rfl
        | cons head rest => simp [percentEncode_cons]

theorem percentEncodeByte_ne_equals {b : UInt8} (h : b ≠ 0x3D) : ∀ c ∈ percentEncodeByte b, c ≠ 0x3D := by
  intro c hc
  rintro rfl
  exact (byte_facts b).2.2.2.2.2 h hc

theorem takeWhile_percentEncode (bs : Bytes) :
    (percentEncode bs).takeWhile (· ≠ 0x3D) = percentEncode (bs.takeWhile (· ≠ 0x3D)) ∧
    ((percentEncode bs).dropWhile (· ≠ 0x3D)).drop 1 = percentEncode ((bs.dropWhile (· ≠ 0x3D)).drop 1) := by
  induction bs with
  | nil => exact ⟨rfl, rfl⟩
  | cons b bs ih =>
      rw [percentEncode_cons]
      by_cases hb : b = 0x3D
      case pos =>
        subst hb
        exact ⟨rfl, rfl⟩
      case neg =>
        have hpass : ∀ c ∈ percentEncodeByte b, decide (c ≠ 0x3D) = true := by
          intro c hc
          simpa using percentEncodeByte_ne_equals hb c hc
        have htake : (b :: bs).takeWhile (· ≠ 0x3D) = b :: bs.takeWhile (· ≠ 0x3D) :=
          List.takeWhile_cons_of_pos (by simpa using hb)
        have hdrop : (b :: bs).dropWhile (· ≠ 0x3D) = bs.dropWhile (· ≠ 0x3D) :=
          List.dropWhile_cons_of_pos (by simpa using hb)
        rw [List.takeWhile_append_of_pos hpass, List.dropWhile_append_of_pos hpass, htake, hdrop,
          percentEncode_cons, ih.1, ih.2]
        exact ⟨rfl, rfl⟩

theorem pair_percentEncode (bs : Bytes) : pair (percentEncode bs) = pair bs := by
  rw [pair, (takeWhile_percentEncode bs).1, (takeWhile_percentEncode bs).2, decode_percentEncode,
    decode_percentEncode]
  rfl

theorem percentEncode_eq_nil {bs : Bytes} : percentEncode bs = [] ↔ bs = [] := by
  cases bs with
  | nil => simp [percentEncode]
  | cons b bs =>
      rw [percentEncode_cons, percentEncodeByte]
      split <;> simp

theorem parse_percentEncode (bs : Bytes) : parse (percentEncode bs) = parse bs := by
  rw [parse, splitOn_percentEncode, List.filter_map, List.map_map]
  have hpair : pair ∘ percentEncode = pair := funext pair_percentEncode
  rw [hpair, parse]
  congr 2
  funext bs
  simp [percentEncode_eq_nil]

/-! ## The text of a query -/

theorem toUInt8_mem_encode {c : Char} (h : isAscii c) {s : List Char} : c.toUInt8 ∈ encode s ↔ c ∈ s := by
  have hmem : c.toUInt8 ∈ encode s ↔ c.toUInt8 ∈ asciiOf s := by
    rw [← asciiBytes_encode, asciiBytes, List.mem_filter]
    simp [toUInt8_lt h]
  rw [hmem, asciiOf, List.mem_map]
  constructor
  · rintro ⟨d, hd, heq⟩
    rw [List.mem_filter] at hd
    rw [← toUInt8_inj hd.2 h heq]
    exact hd.1
  · intro hc
    exact ⟨c, List.mem_filter.mpr ⟨hc, h⟩, rfl⟩

theorem splitOn_encode {c : Char} (h : isAscii c) (s : List Char) :
    (encode s).splitOn c.toUInt8 = (s.splitOn c).map encode := by
  induction s with
  | nil => rfl
  | cons d s ih =>
      rw [encode_cons, List.splitOn_cons_eq_if_modifyHead]
      by_cases hd : d = c
      case pos =>
        subst hd
        rw [utf8EncodeChar_ascii h, List.singleton_append, List.splitOn_cons_eq_if_modifyHead, ih]
        simp [encode]
      case neg =>
        have hnone : c.toUInt8 ∉ String.utf8EncodeChar d := by
          intro hmem
          have hone : c.toUInt8 ∈ encode [d] := by simpa [encode] using hmem
          exact hd (List.mem_singleton.mp ((toUInt8_mem_encode h).mp hone)).symm
        rw [splitOn_append_of_not_mem hnone, ih]
        simp only [beq_iff_eq, hd, if_false]
        cases s.splitOn c with
        | nil => rfl
        | cons head rest => simp [encode_cons]

theorem encode_eq_nil {s : List Char} : encode s = [] ↔ s = [] := by
  cases s with
  | nil => simp [encode]
  | cons c s =>
      have hlength := String.length_utf8EncodeChar c
      have hpos := c.utf8Size_pos
      rw [encode_cons, List.append_eq_nil_iff]
      constructor
      · rintro ⟨hnil, -⟩
        rw [hnil, List.length_nil] at hlength
        omega
      · intro hnil
        cases hnil

/-- What is read of a text between two separators. -/
def decodeText (s : List Char) : List Char := decode (encode s)

theorem pair_encode {name value : List Char} (h : '=' ∉ name) :
    pair (encode (name ++ '=' :: value)) = (decodeText name, decodeText value) := by
  have hpass : ∀ b ∈ encode name, decide (b ≠ 0x3D) = true := by
    intro b hb
    have hne : b ≠ 0x3D := by
      rintro rfl
      exact h ((toUInt8_mem_encode (by decide)).mp hb)
    simpa using hne
  have hequals : String.utf8EncodeChar '=' = [0x3D] := by decide
  rw [encode_append, encode_cons, hequals, List.singleton_append, pair, List.takeWhile_append_of_pos hpass,
    List.dropWhile_append_of_pos hpass, List.takeWhile_cons_of_neg (by decide),
    List.dropWhile_cons_of_neg (by decide), List.append_nil]
  rfl

theorem parse_setQuery (query : List Char) : parse (setQuery query) =
    (((query.filter fun c => !isTabOrNewline c).splitOn '&').filter (· ≠ [])).map (pair ∘ encode) := by
  have hsplit := splitOn_encode (show isAscii '&' by decide) (query.filter fun c => !isTabOrNewline c)
  rw [setQuery, parse_percentEncode, parse]
  change List.map pair (List.filter _ ((encode _).splitOn '&'.toUInt8)) = _
  rw [hsplit, List.filter_map, List.map_map]
  congr 2
  funext s
  simp [encode_eq_nil]

/-! ## What a text must not contain -/

/-- A percent sign and two digits somewhere. -/
def hasEscape : Bytes → Bool
  | b :: high :: low :: rest => (escaped b high low).isSome || hasEscape (high :: low :: rest)
  | _ => false

theorem percentDecode_of_not_hasEscape {bs : Bytes} (h : hasEscape bs = false) : percentDecode bs = bs := by
  fun_induction percentDecode bs with
  | case1 b high low rest v hv ih =>
      rw [hasEscape, hv] at h
      cases h
  | case2 b high low rest hnone ih =>
      rw [hasEscape, hnone] at h
      rw [ih h]
  | case3 bs hshort => rfl

/-- Every escape that is read costs two of the bytes below 128. -/
theorem asciiBytes_percentDecode (bs : Bytes) :
    (asciiBytes (percentDecode bs)).length + (if hasEscape bs then 1 else 0) ≤ (asciiBytes bs).length := by
  fun_induction percentDecode bs with
  | case1 b high low rest v hv ih =>
      obtain ⟨hb, hhigh, hlow⟩ := hexDigit_of_escaped hv
      have hraw : asciiBytes (b :: high :: low :: rest) = b :: high :: low :: asciiBytes rest := by
        simp [asciiBytes, hb, (hexDigit_ascii _ hhigh).1, (hexDigit_ascii _ hlow).1]
      have hfirst : (asciiBytes (v :: percentDecode rest)).length ≤ (asciiBytes (percentDecode rest)).length + 1 := by
        rw [asciiBytes, List.filter_cons]
        split
        · exact le_rfl
        · exact Nat.le_succ _
      rw [hraw]
      simp only [List.length_cons]
      split at ih <;> split <;> omega
  | case2 b high low rest hnone ih =>
      rw [hasEscape, hnone]
      simp only [Option.isSome_none, Bool.false_or]
      simp only [asciiBytes, List.filter_cons (x := b)] at ih ⊢
      split
      · simp only [List.length_cons]
        omega
      · exact ih
  | case3 bs hshort =>
      have hnone : hasEscape bs = false := by
        unfold hasEscape
        split
        · exact absurd rfl (hshort _ _ _ _)
        · rfl
      simp [hnone]

theorem hasEscape_cons (b : UInt8) (bs : Bytes) :
    hasEscape (b :: bs) = ((b == 0x25 && (leading bs).isSome) || hasEscape bs) := by
  match bs with
  | [] => simp [hasEscape, leading]
  | [_] => simp [hasEscape, leading]
  | high :: low :: rest =>
      rw [hasEscape]
      by_cases hb : b = 0x25
      · subst hb
        rfl
      · simp [escaped_ne hb, hb]

theorem hasEscape_replacePlus (bs : Bytes) : hasEscape (replacePlus bs) = hasEscape bs := by
  induction bs with
  | nil => rfl
  | cons b bs ih =>
      have hb : ((if b = 0x2B then 0x20 else b) == (0x25 : UInt8)) = (b == 0x25) := by
        split
        case isTrue hplus => simp [hplus]
        case isFalse => rfl
      change hasEscape (_ :: replacePlus bs) = _
      rw [hasEscape_cons, hasEscape_cons, ih, leading_replacePlus, hb]

theorem hasEscape_eq_false {bs : Bytes} (h : 0x25 ∉ bs) : hasEscape bs = false := by
  induction bs with
  | nil => rfl
  | cons b bs ih =>
      simp only [List.mem_cons, not_or] at h
      simp [hasEscape_cons, Ne.symm h.1, ih h.2]

/-- No escape stands across a byte that has no part in one. -/
theorem hasEscape_append {x : UInt8} (hx : x ≠ 0x25) (hdigit : hexDigit x = none) (a b : Bytes) :
    hasEscape (a ++ x :: b) = (hasEscape a || hasEscape b) := by
  induction a with
  | nil => simp [hasEscape_cons, hx, hasEscape]
  | cons y a ih =>
      have hleading : leading (a ++ x :: b) = leading a := by
        match a with
        | [] =>
            cases b with
            | nil => rfl
            | cons z b => simp [leading, escaped, hdigit]
        | [z] => simp [leading, escaped, hdigit]
        | _ :: _ :: _ => rfl
      rw [List.cons_append, hasEscape_cons, hasEscape_cons, ih, hleading, Bool.or_assoc]

theorem decodeText_plain {s : List Char} (hplus : '+' ∉ s) (hescape : hasEscape (encode s) = false) :
    decodeText s = s := by
  have hbytes : replacePlus (encode s) = encode s := by
    refine (List.map_congr_left fun b hb => ?_).trans (List.map_id _)
    refine if_neg ?_
    rintro rfl
    exact hplus ((toUInt8_mem_encode (by decide)).mp hb)
  rw [decodeText, decode, hbytes, percentDecode_of_not_hasEscape hescape, fromUtf8Lossy_encode]

theorem asciiBytes_replacePlus (bs : Bytes) : (asciiBytes (replacePlus bs)).length = (asciiBytes bs).length := by
  induction bs with
  | nil => rfl
  | cons b bs ih =>
      have hb : ((if b = 0x2B then 0x20 else b) < (0x80 : UInt8)) ↔ b < 0x80 := by
        split
        case isTrue hplus => simp [hplus]
        case isFalse => rfl
      simp only [asciiBytes, replacePlus, List.map_cons, List.filter_cons, decide_eq_true_eq, hb] at ih ⊢
      split <;> simp [ih]

theorem asciiOf_decodeText (s : List Char) :
    (asciiOf (decodeText s)).length + (if hasEscape (encode s) then 1 else 0) ≤ (asciiOf s).length := by
  have hdecode := asciiBytes_percentDecode (replacePlus (encode s))
  rw [hasEscape_replacePlus, asciiBytes_replacePlus, asciiBytes_encode] at hdecode
  rwa [decodeText, decode, asciiOf_fromUtf8Lossy]

theorem plus_not_mem_decodeText {s : List Char} (h : hasEscape (encode s) = false) : '+' ∉ decodeText s := by
  intro hmem
  have hbyte : '+'.toUInt8 ∈ asciiOf (decodeText s) :=
    List.mem_map.mpr ⟨'+', List.mem_filter.mpr ⟨hmem, by decide⟩, rfl⟩
  rw [decodeText, decode, asciiOf_fromUtf8Lossy, percentDecode_of_not_hasEscape (by rwa [hasEscape_replacePlus]),
    asciiBytes, List.mem_filter, replacePlus, List.mem_map] at hbyte
  obtain ⟨⟨b, -, hb⟩, -⟩ := hbyte
  split at hb
  · exact absurd hb (by decide)
  case isFalse hne => exact hne hb

end FidoOnboard.FormUrlencoded
