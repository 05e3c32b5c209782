import FidoOnboard.Base.Hex
import Mathlib.Data.List.TakeWhile
import Mathlib.Tactic.Common

/-!
# URIs with an authority

The generic syntax of `scheme://userinfo@host:port/path?query#fragment`, read for
the host and the port that it names.
-/
namespace FidoOnboard.Uri

/-! ## Characters -/

def isHexDigit (c : Char) : Bool := (Hex.value c).isSome

def isUnreserved (c : Char) : Bool := c.isAlphanum || "-._~".toList.contains c

def isSubDelim (c : Char) : Bool := "!$&'()*+,;=".toList.contains c

def isNameChar (c : Char) : Bool := isUnreserved c || isSubDelim c

def isPathChar (c : Char) : Bool := isNameChar c || ":@/".toList.contains c

/-- What ends an authority. -/
def isDelimiter (c : Char) : Bool := "/?#".toList.contains c

def isGenDelim (c : Char) : Bool := isDelimiter c || ":@[]".toList.contains c

/-- Text of the allowed characters and of percent-encoded octets. -/
def isEncoded (allowed : Char → Bool) : List Char → Bool
  | [] => true
  | '%' :: high :: low :: rest => isHexDigit high && isHexDigit low && isEncoded allowed rest
  | c :: rest => allowed c && isEncoded allowed rest

/-! ## Addresses -/

/-- No leading zeros. -/
def decOctet (s : List Char) : Option UInt8 :=
  let n := Nat.ofDigitChars 10 s 0
  if Nat.toDigits 10 n = s ∧ n < 256 then some (UInt8.ofNat n) else none

def ipv4Address (s : List Char) : Option Bytes := do
  let octets ← (s.splitOn '.').mapM decOctet
  if octets.length = 4 then some octets else none

def h16 (s : List Char) : Option Bytes := do
  let digits ← s.mapM Hex.value
  let n := digits.foldl (fun n digit => 16 * n + digit) 0
  if 0 < s.length ∧ s.length ≤ 4 then some [UInt8.ofNat (n / 256), UInt8.ofNat (n % 256)] else none

/-- The last two groups may stand as an IPv4 address. -/
def groups : List (List Char) → Option Bytes
  | [] => some []
  | [last] => h16 last <|> ipv4Address last
  | piece :: rest => do
    let group ← h16 piece
    let rest ← groups rest
    some (group ++ rest)

/-- Both sides of the first `::`. -/
def splitAtGap : List Char → Option (List Char × List Char)
  | [] => none
  | ':' :: ':' :: rest => some ([], rest)
  | c :: rest => (splitAtGap rest).map fun (left, right) => (c :: left, right)

def ipv6Address (s : List Char) : Option Bytes :=
  let pieces (side : List Char) := if side = [] then [] else side.splitOn ':'
  match splitAtGap s with
  | none => do
    let octets ← groups (pieces s)
    if octets.length = 16 then some octets else none
  | some (left, right) => do
    let left ← (pieces left).mapM h16
    let left := left.flatten
    let right ← groups (pieces right)
    -- the gap stands for one group at least
    if left.length + right.length ≤ 14 then
      some (left ++ List.replicate (16 - left.length - right.length) 0 ++ right)
    else none

def isIpFuture : List Char → Bool
  | [] => false
  | v :: rest =>
    (v == 'v' || v == 'V') && !(rest.takeWhile isHexDigit).isEmpty &&
      match rest.dropWhile isHexDigit with
      | '.' :: _ :: _ => true
      | _ => false

/-- What stands between brackets. -/
def isIpLiteral (s : List Char) : Bool :=
  s.all (fun c => isNameChar c || c == ':') && ((ipv6Address s).isSome || isIpFuture s)

/-! ## Authorities -/

/-- A registered name may look like an IPv4 address. -/
def isHost : List Char → Bool
  | '[' :: rest => rest.dropWhile (· ≠ ']') == [']'] && isIpLiteral (rest.takeWhile (· ≠ ']'))
  | s => isEncoded isNameChar s

/-- The address that a host stands for, if it is one. -/
def hostAddress : List Char → Option Bytes
  | '[' :: rest => ipv6Address (rest.takeWhile (· ≠ ']'))
  | s => ipv4Address s

structure Authority where
  userinfo : Option (List Char)
  host : List Char
  port : Option Nat
  deriving DecidableEq

def splitHost : List Char → List Char × List Char
  | '[' :: rest =>
    ('[' :: rest.takeWhile (· ≠ ']') ++ (rest.dropWhile (· ≠ ']')).take 1, (rest.dropWhile (· ≠ ']')).drop 1)
  | s => (s.takeWhile (· ≠ ':'), s.dropWhile (· ≠ ':'))

/-- A port without digits is none. -/
def readPort : List Char → Option (Option Nat)
  | [] => some none
  | ':' :: digits =>
    if digits.all Char.isDigit then some (if digits = [] then none else some (Nat.ofDigitChars 10 digits 0))
    else none
  | _ => none

def readHost (userinfo : Option (List Char)) (s : List Char) : Option Authority :=
  if isHost (splitHost s).1 then (readPort (splitHost s).2).map (Authority.mk userinfo (splitHost s).1) else none

def readAuthority (s : List Char) : Option Authority :=
  if '@' ∈ s then
    let userinfo := s.takeWhile (· ≠ '@')
    if isEncoded (fun c => isNameChar c || c == ':') userinfo then
      readHost (some userinfo) (s.dropWhile (· ≠ '@')).tail
    else none
  else readHost none s

def isScheme : List Char → Bool
  | [] => false
  | c :: rest => c.isAlpha && rest.all fun c => c.isAlphanum || "+-.".toList.contains c

/-- Path, query and fragment; the query starts at the first `?`, and more of them may follow. -/
def isTail (s : List Char) : Bool :=
  isEncoded (fun c => isPathChar c || c == '?') (s.takeWhile (· ≠ '#')) &&
    isEncoded (fun c => isPathChar c || c == '?') (s.dropWhile (· ≠ '#')).tail

def parse (uri : List Char) : Option Authority :=
  match uri.dropWhile (· ≠ ':') with
  | ':' :: '/' :: '/' :: rest =>
    if isScheme (uri.takeWhile (· ≠ ':')) && isTail (rest.dropWhile fun c => !isDelimiter c) then
      readAuthority (rest.takeWhile fun c => !isDelimiter c)
    else none
  | _ => none

/-! ## Reading -/

section

variable {scheme host text digits : List Char} {c : Char}

theorem isHost_of_readHost {userinfo : Option (List Char)} {a : Authority} (h : readHost userinfo text = some a) :
    isHost a.host := by
  unfold readHost at h
  split at h
  case isTrue hhost =>
    rw [Option.map_eq_some_iff] at h
    rcases h with ⟨port, -, rfl⟩
    exact hhost
  case isFalse => exact absurd h nofun

theorem isHost_of_parse {a : Authority} (h : parse text = some a) : isHost a.host := by
  unfold parse at h
  split at h
  case h_1 =>
    rw [Option.ite_none_right_eq_some] at h
    have hread := h.2
    unfold readAuthority at hread
    split at hread
    case isTrue =>
      rw [Option.ite_none_right_eq_some] at hread
      exact isHost_of_readHost hread.2
    case isFalse => exact isHost_of_readHost hread
  case h_2 => exact absurd h nofun

/-- Without a delimiter all that follows the scheme is the authority. -/
theorem parse_append (hscheme : isScheme scheme) (htext : ∀ c ∈ text, isDelimiter c = false) :
    parse (scheme ++ ':' :: '/' :: '/' :: text) = readAuthority text := by
  have hcolon : ∀ c ∈ scheme, decide (c ≠ ':') = true := by
    intro c hc
    rw [decide_eq_true_eq]
    rintro rfl
    cases scheme with
    | nil => exact absurd hc List.not_mem_nil
    | cons d rest =>
        rw [isScheme, Bool.and_eq_true, List.all_eq_true] at hscheme
        rcases List.mem_cons.mp hc with rfl | hc
        · exact absurd hscheme.1 (by decide)
        · exact absurd (hscheme.2 ':' hc) (by decide)
  have hplain : ∀ c ∈ text, (!isDelimiter c) = true := fun c hc => by simp [htext c hc]
  have htake : text.takeWhile (fun c => !isDelimiter c) = text := List.takeWhile_eq_self_iff.mpr hplain
  have hdrop : text.dropWhile (fun c => !isDelimiter c) = [] := List.dropWhile_eq_nil_iff.mpr hplain
  have hbefore : (scheme ++ ':' :: '/' :: '/' :: text).takeWhile (· ≠ ':') = scheme := by
    rw [List.takeWhile_append_of_pos hcolon]
    simp
  have hafter : (scheme ++ ':' :: '/' :: '/' :: text).dropWhile (· ≠ ':') = ':' :: '/' :: '/' :: text := by
    rw [List.dropWhile_append_of_pos hcolon]
    simp
  have htail : isTail [] = true := rfl
  simp only [parse, hafter, hbefore, htake, hdrop, hscheme, htail, Bool.and_self, if_true]

theorem readPort_digits (hdigits : ∀ c ∈ digits, c.isDigit) (hne : digits ≠ []) :
    readPort (':' :: digits) = some (some (Nat.ofDigitChars 10 digits 0)) := by
  rw [readPort, if_pos (List.all_eq_true.mpr hdigits), if_neg hne]

theorem splitHost_plain (htext : ∀ rest, text ≠ '[' :: rest) :
    splitHost text = (text.takeWhile (· ≠ ':'), text.dropWhile (· ≠ ':')) := by
  unfold splitHost
  split
  case h_1 rest => exact absurd rfl (htext rest)
  case h_2 => rfl

theorem takeWhile_before {before after : List Char} (h : c ∉ before) :
    (before ++ c :: after).takeWhile (· ≠ c) = before := by
  have hne : ∀ d ∈ before, decide (d ≠ c) = true := by
    intro d hd
    rw [decide_eq_true_eq]
    rintro rfl
    exact h hd
  rw [List.takeWhile_append_of_pos hne]
  simp

theorem dropWhile_before {before after : List Char} (h : c ∉ before) :
    (before ++ c :: after).dropWhile (· ≠ c) = c :: after := by
  have hne : ∀ d ∈ before, decide (d ≠ c) = true := by
    intro d hd
    rw [decide_eq_true_eq]
    rintro rfl
    exact h hd
  rw [List.dropWhile_append_of_pos hne]
  simp

/-- A colon starts the port, and no port has another one. -/
theorem readAuthority_colon (hat : '@' ∉ text ++ ':' :: digits) (hbracket : '[' ∉ text) (hcolon : ':' ∈ text) :
    readAuthority (text ++ ':' :: digits) = none := by
  rcases List.eq_append_cons_of_mem hcolon with ⟨before, after, rfl, hbefore⟩
  have hplain : ∀ rest, before ++ ':' :: (after ++ ':' :: digits) ≠ '[' :: rest := by
    intro rest heq
    cases before with
    | nil => exact absurd (List.head_eq_of_cons_eq heq) (by decide)
    | cons d before =>
        have hd : d = '[' := List.head_eq_of_cons_eq heq
        exact hbracket (hd ▸ List.mem_cons_self)
  have hport : readPort (':' :: (after ++ ':' :: digits)) = none := by
    rw [readPort, if_neg]
    intro hall
    have hmem : ':' ∈ after ++ ':' :: digits := List.mem_append_right after List.mem_cons_self
    exact absurd (List.all_eq_true.mp hall ':' hmem) (by decide)
  rw [readAuthority, if_neg hat, readHost, List.append_assoc, List.cons_append, splitHost_plain hplain,
    dropWhile_before hbefore, hport]
  exact ite_self none

/-! ## Hosts -/

theorem isEncoded_mem {allowed : Char → Bool} (h : isEncoded allowed text) (hc : c ∈ text) :
    c = '%' ∨ isHexDigit c ∨ allowed c := by
  induction text using isEncoded.induct with
  | case1 => exact absurd hc List.not_mem_nil
  | case2 high low rest ih =>
      simp only [isEncoded, Bool.and_eq_true] at h
      simp only [List.mem_cons] at hc
      rcases hc with rfl | rfl | rfl | hc
      · exact .inl rfl
      · exact .inr (.inl h.1.1)
      · exact .inr (.inl h.1.2)
      · exact ih h.2 hc
  | case3 d rest hd ih =>
      rw [isEncoded.eq_3 _ _ _ hd, Bool.and_eq_true] at h
      rcases List.mem_cons.mp hc with rfl | hc
      · exact .inr (.inr h.1)
      · exact ih h.2 hc

theorem nameChar_of_genDelim (hc : isGenDelim c) : c ≠ '%' ∧ isHexDigit c = false ∧ isNameChar c = false := by
  have hmem : c ∈ "/?#:@[]".toList := by
    simpa [isGenDelim, isDelimiter, or_assoc] using hc
  have hall : ("/?#:@[]".toList.all fun d => d ≠ '%' ∧ isHexDigit d = false ∧ isNameChar d = false) = true := by
    decide
  exact of_decide_eq_true (List.all_eq_true.mp hall c hmem)

theorem genDelim_nameChar (h : isNameChar c) : isGenDelim c = false := by
  by_contra hgen
  rw [Bool.not_eq_false] at hgen
  rw [(nameChar_of_genDelim hgen).2.2] at h
  exact Bool.false_ne_true h

theorem genDelim_digit (h : c.isDigit) : isGenDelim c = false :=
  genDelim_nameChar (by simp [isNameChar, isUnreserved, Char.isAlphanum, h])

theorem plain_of_genDelim (h : isGenDelim c = false) : isDelimiter c = false ∧ c ≠ '@' := by
  constructor
  · rw [isGenDelim, Bool.or_eq_false_iff] at h
    exact h.1
  · rintro rfl
    exact absurd h (by decide)

theorem isEncoded_genDelim (h : isEncoded isNameChar text) (hc : isGenDelim c) : c ∉ text := by
  intro hmem
  rcases nameChar_of_genDelim hc with ⟨hpercent, hhex, hname⟩
  rcases isEncoded_mem h hmem with heq | hdigit | hallowed
  · exact hpercent heq
  · exact absurd hdigit (by simp [hhex])
  · exact absurd hallowed (by simp [hname])

theorem isHost_cases (h : isHost host) :
    (∃ inner, host = '[' :: (inner ++ [']']) ∧ ']' ∉ inner ∧ isIpLiteral inner) ∨ isEncoded isNameChar host := by
  unfold isHost at h
  split at h
  case h_1 rest =>
    rw [Bool.and_eq_true, beq_iff_eq] at h
    refine .inl ⟨rest.takeWhile (· ≠ ']'), ?_, fun hmem => ?_, h.2⟩
    · rw [← h.1, List.takeWhile_append_dropWhile]
    · exact absurd (List.mem_takeWhile_imp hmem) (by decide)
  case h_2 => exact .inr h

theorem isHost_char (h : isHost host) (hc : c ∈ host) : isDelimiter c = false ∧ c ≠ '@' := by
  rcases isHost_cases h with ⟨inner, rfl, -, hinner⟩ | hname
  case inl =>
    have hmem : c = '[' ∨ c = ']' ∨ isNameChar c ∨ c = ':' := by
      rw [isIpLiteral, Bool.and_eq_true, List.all_eq_true] at hinner
      simp only [List.mem_cons, List.mem_append, List.not_mem_nil, or_false] at hc
      rcases hc with heq | hc | heq
      · exact .inl heq
      · have hchar := hinner.1 c hc
        rw [Bool.or_eq_true, beq_iff_eq] at hchar
        exact .inr (.inr hchar)
      · exact .inr (.inl heq)
    rcases hmem with rfl | rfl | hchar | rfl
    case inr.inr.inl => exact plain_of_genDelim (genDelim_nameChar hchar)
    all_goals decide
  case inr =>
    apply plain_of_genDelim
    by_contra hgen
    rw [Bool.not_eq_false] at hgen
    exact isEncoded_genDelim hname hgen hc

/-- Where a host ends is seen from the host itself. -/
theorem splitHost_isHost (h : isHost host) : splitHost (host ++ ':' :: digits) = (host, ':' :: digits) := by
  rcases isHost_cases h with ⟨inner, rfl, hclose, -⟩ | hname
  case inl =>
    simp only [List.cons_append, List.append_assoc, List.nil_append, splitHost]
    rw [takeWhile_before hclose, dropWhile_before hclose]
    rfl
  case inr =>
    have hcolon : ':' ∉ host := isEncoded_genDelim hname (by decide)
    have hopen : '[' ∉ host := isEncoded_genDelim hname (by decide)
    rw [splitHost_plain, takeWhile_before hcolon, dropWhile_before hcolon]
    intro rest heq
    cases host with
    | nil => exact absurd (List.head_eq_of_cons_eq heq) (by decide)
    | cons d host => exact hopen (List.head_eq_of_cons_eq heq ▸ List.mem_cons_self)

/-- Plain characters make a registered name. -/
theorem isHost_names (h : ∀ c ∈ text, isNameChar c) : isHost text ∧ hostAddress text = ipv4Address text := by
  have hencoded : ∀ s : List Char, (∀ c ∈ s, isNameChar c) → isEncoded isNameChar s := by
    intro s hs
    induction s with
    | nil => rfl
    | cons c s ih =>
        have hc := hs c List.mem_cons_self
        rw [isEncoded.eq_3, hc, Bool.true_and]
        · exact ih fun d hd => hs d (List.mem_cons_of_mem c hd)
        · rintro high low rest rfl -
          exact absurd hc (by decide)
  have hopen : ∀ rest, text ≠ '[' :: rest := by
    rintro rest rfl
    exact absurd (h '[' List.mem_cons_self) (by decide)
  constructor
  · rw [isHost.eq_2 _ hopen]
    exact hencoded text h
  · exact hostAddress.eq_2 _ hopen

theorem decOctet_toDigits (b : UInt8) : decOctet (Nat.toDigits 10 b.toNat) = some b := by
  have hvalue : Nat.ofDigitChars 10 (Nat.toDigits 10 b.toNat) 0 = b.toNat := Nat.ofDigitChars_ten_toDigits
  simp only [decOctet, hvalue]
  rw [if_pos ⟨trivial, b.toNat_lt⟩, UInt8.ofNat_toNat]

theorem ipv4Address_octets {octets : Bytes} (h : octets.length = 4) :
    ipv4Address (['.'].intercalate (octets.map fun b => Nat.toDigits 10 b.toNat)) = some octets := by
  have hdot : ∀ piece ∈ octets.map (fun b => Nat.toDigits 10 b.toNat), '.' ∉ piece := by
    intro piece hpiece hmem
    rcases List.mem_map.mp hpiece with ⟨b, -, rfl⟩
    exact absurd (Nat.isDigit_of_mem_toDigits (by decide) (by decide) hmem) (by decide)
  have hne : octets.map (fun b => Nat.toDigits 10 b.toNat) ≠ [] := by
    rw [ne_eq, List.map_eq_nil_iff]
    rintro rfl
    exact absurd h (by decide)
  have hread : (octets.map fun b => Nat.toDigits 10 b.toNat).mapM decOctet = some octets := by
    clear h hdot hne
    induction octets with
    | nil => rfl
    | cons b octets ih => simp [decOctet_toDigits, ih]
  rw [ipv4Address, List.splitOn_intercalate '.' hdot hne, hread]
  exact if_pos h

/-- An authority of a text and a port; the text has no delimiter of an authority in it. -/
theorem parse_port (hscheme : isScheme scheme) (htext : ∀ c ∈ text, isDelimiter c = false ∧ c ≠ '@')
    (hdigits : ∀ c ∈ digits, c.isDigit) : '@' ∉ text ++ ':' :: digits ∧
    parse (scheme ++ ':' :: '/' :: '/' :: (text ++ ':' :: digits)) = readAuthority (text ++ ':' :: digits) := by
  have hplain : ∀ c ∈ text ++ ':' :: digits, isDelimiter c = false ∧ c ≠ '@' := by
    intro c hc
    rcases List.mem_append.mp hc with hc | hc
    · exact htext c hc
    · rcases List.mem_cons.mp hc with rfl | hc
      · decide
      · exact plain_of_genDelim (genDelim_digit (hdigits c hc))
  exact ⟨fun hmem => (hplain '@' hmem).2 rfl, parse_append hscheme fun c hc => (hplain c hc).1⟩

theorem parse_isHost (hscheme : isScheme scheme) (hhost : isHost host) (hdigits : ∀ c ∈ digits, c.isDigit)
    (hne : digits ≠ []) : parse (scheme ++ ':' :: '/' :: '/' :: (host ++ ':' :: digits)) =
      some ⟨none, host, some (Nat.ofDigitChars 10 digits 0)⟩ := by
  rcases parse_port hscheme (fun c hc => isHost_char hhost hc) hdigits with ⟨hat, hparse⟩
  rw [hparse, readAuthority, if_neg hat, readHost, splitHost_isHost hhost, if_pos hhost,
    readPort_digits hdigits hne]
  rfl

theorem parse_colon (hscheme : isScheme scheme) (htext : ∀ c ∈ text, c = ':' ∨ isGenDelim c = false)
    (hcolon : ':' ∈ text) (hdigits : ∀ c ∈ digits, c.isDigit) :
    parse (scheme ++ ':' :: '/' :: '/' :: (text ++ ':' :: digits)) = none := by
  have hplain : ∀ c ∈ text, isDelimiter c = false ∧ c ≠ '@' := by
    intro c hc
    rcases htext c hc with rfl | hgen
    · decide
    · exact plain_of_genDelim hgen
  have hbracket : '[' ∉ text := by
    intro hmem
    rcases htext '[' hmem with heq | hgen
    · exact absurd heq (by decide)
    · exact absurd hgen (by decide)
  rcases parse_port hscheme hplain hdigits with ⟨hat, hparse⟩
  rw [hparse, readAuthority_colon hat hbracket hcolon]

end

end FidoOnboard.Uri
