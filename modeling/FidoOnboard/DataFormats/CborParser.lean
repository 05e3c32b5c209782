import FidoOnboard.Base.BigEndian
import FidoOnboard.DataFormats.Errors

/-!
# `data-formats/src/cborparser.rs`

A reader is the list of bytes still to be read, threaded through every call.
Counts are `u64` values held as naturals; the one multiplication that can leave
the range goes through `mulU64`.
-/
namespace FidoOnboard

/-- How the crate was built: overflow checks stop a debug build, a release build wraps. -/
inductive Profile where
  | debug
  | release
  deriving DecidableEq, Repr

def mulU64 (p : Profile) (a b : Nat) : Outcome Error Nat :=
  match p with
  | .debug => if a * b < 2 ^ 64 then .ok (a * b) else .panic
  | .release => .ok (a * b % 2 ^ 64)

/-- The largest allocation a `Vec` may ask for. -/
def isizeMax : Nat := 2 ^ 63 - 1

namespace CborParser

inductive ParsedArraySize where
  | dynamic
  | static (n : Nat) (bounds : 1 ≤ n ∧ n ≤ 8)
  deriving DecidableEq, Repr

/-- `ParsedArraySize::SIZE`. -/
def ParsedArraySize.size : ParsedArraySize → Option Nat
  | .dynamic => none
  | .static n _ => some n

/-- The element count a size parameter allows. -/
def ParsedArraySize.Sized (N : ParsedArraySize) (contents : List Bytes) : Prop :=
  ∀ n, N.size = some n → contents.length = n

theorem ParsedArraySize.sized_of_none {N : ParsedArraySize} (h : N.size = none)
    (contents : List Bytes) : N.Sized contents := by
  intro n hn
  simp [h] at hn

instance (N : ParsedArraySize) (contents : List Bytes) : Decidable (N.Sized contents) :=
  match N with
  | .dynamic => .isTrue (ParsedArraySize.sized_of_none rfl contents)
  | .static n _ => decidable_of_iff (contents.length = n)
      ⟨fun h _ hn => Option.some.inj hn ▸ h, fun h => h n rfl⟩

abbrev size2 : ParsedArraySize := .static 2 (by decide)
abbrev size3 : ParsedArraySize := .static 3 (by decide)
abbrev size4 : ParsedArraySize := .static 4 (by decide)
abbrev size5 : ParsedArraySize := .static 5 (by decide)
abbrev size6 : ParsedArraySize := .static 6 (by decide)
abbrev size8 : ParsedArraySize := .static 8 (by decide)

@[ext] structure ParsedArray (N : ParsedArraySize) where
  tag : Option Nat
  header : Option Bytes
  contents : List Bytes
  sized : N.Sized contents
  deriving DecidableEq, Repr

def maskType : UInt8 := 0b11100000
def maskVal : UInt8 := 0b00011111

def MajorType.toU8 : MajorType → UInt8
  | .unsigned => 0
  | .negative => 1
  | .byteString => 2
  | .textString => 3
  | .array => 4
  | .map => 5
  | .tag => 6
  | .special => 7

def MajorType.maybeFromU8 (val : UInt8) : Outcome Error MajorType :=
  match (val >>> 5).toNat with
  | 0 => .ok .unsigned
  | 1 => .ok .negative
  | 2 => .ok .byteString
  | 3 => .ok .textString
  | 4 => .ok .array
  | 5 => .ok .map
  | 6 => .ok .tag
  | 7 => .ok .special
  | _ => .err (.arrayParseError (.invalidMajorType (val >>> 5)))

def encodeItemStart (majorType : MajorType) (val : Nat) : Outcome Error Bytes :=
  let start := MajorType.toU8 majorType <<< 5
  if val ≤ 23 then .ok [start ||| (UInt8.ofNat val &&& maskVal)]
  else if val ≤ 0xff then .ok [start ||| 24, UInt8.ofNat val]
  else if val ≤ 0xffff then do
    let rest ← BigEndian.write 2 [0, 0] val
    .ok ((start ||| 25) :: rest)
  else if val ≤ 0xffffffff then do
    -- the buffer behind the first byte has three bytes, the number needs four
    let rest ← BigEndian.write 4 [0, 0, 0] val
    .ok ((start ||| 26) :: rest)
  else do
    -- and here four, where the number needs eight
    let rest ← BigEndian.write 8 [0, 0, 0, 0] val
    .ok ((start ||| 27) :: rest)

def readExact (n : Nat) (reader : Bytes) : Outcome Error (Bytes × Bytes) :=
  if n ≤ reader.length then .ok (reader.take n, reader.drop n) else .err .ioError

/-- `read_exact` into the one-byte buffer. -/
def readByte : Bytes → Outcome Error (UInt8 × Bytes)
  | [] => .err .ioError
  | b :: reader => .ok (b, reader)

def lengthSize (minor : Nat) : Option Nat :=
  if minor ≤ 23 then some 0
  else match minor with
    | 24 => some 1
    | 25 => some 2
    | 26 => some 4
    | 27 => some 8
    | _ => none

/-- The value, its bytes, and the reader behind them. A short reader panics on
the `unwrap` of the read. -/
def readLen (reader : Bytes) (header : UInt8) : Outcome Error (Nat × Bytes × Bytes) :=
  let minor := (header &&& maskVal).toNat
  match lengthSize minor with
  | none => .err (.arrayParseError .lengthParseFailure)
  | some 0 => .ok (minor, [], reader)
  | some size => do
    let (buf, reader) ← (readExact size reader).unwrap
    .ok (BigEndian.fromBe buf, buf, reader)

/-- The optional tag and the first byte of the array head. -/
def readTag (reader : Bytes) : Outcome Error (Option Nat × Bytes × UInt8 × Bytes) :=
  match reader with
  | [] => .err (.arrayParseError .noData)
  | first :: reader => do
    match ← MajorType.maybeFromU8 (first &&& maskType) with
    | .tag => do
      let (tagVal, tagBytes, reader) ← readLen reader first
      let (next, reader) ← readByte reader
      .ok (some tagVal, first :: tagBytes ++ [next], next, reader)
    | .array => .ok (none, [first], first, reader)
    | tp => .err (.arrayParseError (.invalidTopLevelType tp))

structure LoopState where
  leftAtDepth : List Nat
  toplevelBuf : Bytes
  parsedItems : List Bytes
  reader : Bytes
  deriving DecidableEq, Repr

/-- The `match major_type` of the loop body: what is read behind the first byte
and which counter is pushed. -/
def readBody (p : Profile) (majorType : MajorType) (minor : UInt8) (s : LoopState) :
    Outcome Error LoopState :=
  match majorType with
  | .unsigned | .negative => do
    let (_, valBytes, reader) ← readLen s.reader minor
    .ok { s with toplevelBuf := s.toplevelBuf ++ valBytes, reader }
  | .byteString | .textString => do
    let (length, lenBytes, reader) ← readLen s.reader minor
    -- `vec![0; length as usize]` panics before reading when the request is too large
    if isizeMax < length then .panic
    else do
      let (buf, reader) ← readExact length reader
      .ok { s with toplevelBuf := s.toplevelBuf ++ lenBytes ++ buf, reader }
  | .array => do
    let (length, lenBytes, reader) ← readLen s.reader minor
    .ok { s with
      toplevelBuf := s.toplevelBuf ++ lenBytes, reader
      leftAtDepth := if length ≠ 0 then length :: s.leftAtDepth else s.leftAtDepth }
  | .map => do
    let (length, lenBytes, reader) ← readLen s.reader minor
    if length ≠ 0 then do
      let items ← mulU64 p length 2
      .ok { s with
        toplevelBuf := s.toplevelBuf ++ lenBytes, reader
        leftAtDepth := items :: s.leftAtDepth }
    else .ok { s with toplevelBuf := s.toplevelBuf ++ lenBytes, reader }
  | n => .err (.arrayParseError (.unsupportedMajorType (MajorType.toU8 n)))

/-- The end of the loop body: close a top-level item, then take one unit off the
innermost counter. -/
def finishItem (s : LoopState) : Outcome Error LoopState :=
  let s := if s.leftAtDepth.length = 1 then
      { s with parsedItems := s.parsedItems ++ [s.toplevelBuf], toplevelBuf := [] }
    else s
  match s.leftAtDepth with
  | [] => .panic
  | 1 :: rest => .ok { s with leftAtDepth := rest }
  | 0 :: _ => .err (.arrayParseError (.parseFailure "Array parse encountered 0 items left"))
  | (n + 2) :: rest => .ok { s with leftAtDepth := (n + 1) :: rest }

/-- One round of the loop, behind its test for the end. -/
def iteration (p : Profile) (s : LoopState) : Outcome Error LoopState := do
  let (b, reader) ← readByte s.reader
  let s := { s with toplevelBuf := s.toplevelBuf ++ [b], reader }
  let majorType ← MajorType.maybeFromU8 (b &&& maskType)
  let minor := b &&& maskVal
  if majorType = .tag then do
    let (_, tagBytes, reader) ← readLen s.reader minor
    .ok { s with toplevelBuf := s.toplevelBuf ++ tagBytes, reader }
  else do
    let s ← readBody p majorType minor s
    finishItem s

/-- Every round reads at least one byte, so the length of the reader bounds the
rounds; with nothing left to read the next round fails on its first read. -/
def loop (p : Profile) : Nat → LoopState → Outcome Error LoopState
  | 0, s => if s.leftAtDepth = [] then .ok s else .err .ioError
  | fuel + 1, s => if s.leftAtDepth = [] then .ok s else do
      let s ← iteration p s
      loop p fuel s

def run (p : Profile) (s : LoopState) : Outcome Error LoopState := loop p s.reader.length s

namespace ParsedArray

/-- The loop and the checks behind it. -/
def readItems (p : Profile) (N : ParsedArraySize) (tag : Option Nat) (headerBuf : Bytes)
    (mapLen : Nat) (reader : Bytes) : Outcome Error (ParsedArray N × Bytes) := do
  let s ← run p ⟨[mapLen], [], [], reader⟩
  if s.leftAtDepth ≠ [] then .err (.arrayParseError (.parseFailure "Too few items in array"))
  else if h : N.Sized s.parsedItems then
    .ok (⟨tag, if N.size.isSome then some headerBuf else none, s.parsedItems, h⟩, s.reader)
  else .err (.arrayParseError (.parseFailure "Too many items in array"))

/-- The test of the announced count against `N::SIZE`, then the items. -/
def readSized (p : Profile) (N : ParsedArraySize) (tag : Option Nat) (headerBuf : Bytes)
    (mapLen : Nat) (reader : Bytes) : Outcome Error (ParsedArray N × Bytes) :=
  match h : N.size with
  | some expectedLen =>
    if mapLen ≠ expectedLen then
      .err (.arrayParseError (.invalidNumberOfElements mapLen expectedLen))
    else readItems p N tag headerBuf mapLen reader
  | none =>
    if mapLen = 0 then .ok (⟨tag, none, [], ParsedArraySize.sized_of_none h []⟩, reader)
    else readItems p N tag headerBuf mapLen reader

def deserializeFromReader (p : Profile) (N : ParsedArraySize) (reader : Bytes) :
    Outcome Error (ParsedArray N × Bytes) := do
  let (tag, headerBuf, first, reader) ← readTag reader
  let firstMajorType ← MajorType.maybeFromU8 (first &&& maskType)
  if firstMajorType ≠ .array then .err (.arrayParseError (.invalidTopLevelType firstMajorType))
  else do
    let (mapLen, mapLenBytes, reader) ← readLen reader first
    readSized p N tag (headerBuf ++ mapLenBytes) mapLen reader

/-- `deserialize_data`: bytes behind the array are not looked at. -/
def deserializeData (p : Profile) (N : ParsedArraySize) (data : Bytes) :
    Outcome Error (ParsedArray N) := do
  let (array, _) ← deserializeFromReader p N data
  .ok array

def serializeData {N : ParsedArraySize} (a : ParsedArray N) : Outcome Error Bytes := do
  let tagHead ← match a.tag with
    | some tag => encodeItemStart .tag tag
    | none => .ok []
  let arrayHead ← encodeItemStart .array a.contents.length
  .ok (tagHead ++ arrayHead ++ a.contents.flatten)

def newEmpty : ParsedArray .dynamic := ⟨none, none, [], ParsedArraySize.sized_of_none rfl []⟩

def len (a : ParsedArray .dynamic) : Nat := a.contents.length

/-- `push` of an already serialized item. -/
def push (a : ParsedArray .dynamic) (item : Bytes) : ParsedArray .dynamic :=
  { a with contents := a.contents ++ [item], sized := ParsedArraySize.sized_of_none rfl _ }

/-- `contents[n]`. -/
def getRaw {N : ParsedArraySize} (a : ParsedArray N) (n : Nat) : Outcome Error Bytes :=
  match a.contents[n]? with
  | some raw => .ok raw
  | none => .panic

/-- `get`, with the decoder of the requested type. -/
def get {N : ParsedArraySize} {α : Type} (decode : Bytes → Outcome Error α) (a : ParsedArray N)
    (n : Nat) : Outcome Error α := do
  let raw ← a.getRaw n
  decode raw

/-- `set` of an already serialized item. -/
def set {N : ParsedArraySize} (a : ParsedArray N) (n : Nat) (item : Bytes) : ParsedArray N :=
  { a with
    contents := a.contents.set n item
    sized := fun k h => by rw [List.length_set]; exact a.sized k h }

def setTag {N : ParsedArraySize} (a : ParsedArray N) (tag : Option Nat) : ParsedArray N :=
  { a with tag }

end ParsedArray

/-- `ParsedArrayBuilder` with every element set, then `build`. -/
def build (N : ParsedArraySize) (contents : List Bytes) (h : N.Sized contents) : ParsedArray N :=
  ⟨none, none, contents, h⟩

theorem sized_pair (c0 c1 : Bytes) : size2.Sized [c0, c1] := fun _ h => Option.some.inj h

end CborParser
end FidoOnboard
