import FidoOnboard.DataFormats.CborValue
import FidoOnboard.DataFormats.ServiceInfo

/-! `serde_json::Value`, the CBOR it is written as, and the readers of `CborSimpleTypeExt`. -/
namespace FidoOnboard

/-- A number is an `u64`, a negative `i64` or a float, kept as its bits. -/
inductive JsonValue where
  | null
  | bool (value : Bool)
  | posInt (value : UInt64)
  | negInt (magnitude : UInt64)
  | float (bits : UInt64)
  | string (value : String)
  | array (items : List JsonValue)
  | object (items : List (String × JsonValue))

namespace JsonValue

mutual

/-- What `serde_cbor` reads where `ciborium` has written a JSON value. -/
def toCbor : JsonValue → CborValue
  | .null => .null
  | .bool b => .bool b
  | .posInt n => .integer n.toNat
  | .negInt n => .integer (-n.toNat)
  | .float bits => .float bits
  | .string s => .text s.toList
  | .array items => .array (itemsToCbor items)
  | .object items => .map (pairsToCbor items)

def itemsToCbor : List JsonValue → List CborValue
  | [] => []
  | item :: items => item.toCbor :: itemsToCbor items

def pairsToCbor : List (String × JsonValue) → List (CborValue × CborValue)
  | [] => []
  | (key, value) :: items => (.text key.toList, value.toCbor) :: pairsToCbor items

end

/-- `serde_json::to_value` of a `Vec<String>`. -/
def texts (items : List String) : JsonValue := .array (items.map .string)

theorem texts_toCbor (items : List String) :
    (texts items).toCbor = .array (items.map fun s => .text s.toList) := by
  have hitems : itemsToCbor (items.map .string) = items.map fun s => .text s.toList := by
    induction items with
    | nil => rfl
    | cons item items ih => simp [itemsToCbor, toCbor, ih]
  simp [texts, toCbor, hitems]

end JsonValue

namespace CborValue

def asBool : CborValue → Option Bool
  | .bool b => some b
  | _ => none

def asBytes : CborValue → Option Bytes
  | .bytes b => some b
  | _ => none

/-- `as u32` keeps the low bits. -/
def asU32 : CborValue → Option UInt32
  | .integer n => some (UInt32.ofNat (n % 2 ^ 32).toNat)
  | _ => none

def asU64 : CborValue → Option Nat
  | .integer n => some (n % 2 ^ 64).toNat
  | _ => none

def asStr : CborValue → Option String
  | .text s => some (String.ofList s)
  | _ => none

def asStrArray : CborValue → Option (List String)
  | .array items => items.mapM asStr
  | _ => none

theorem asStrArray_texts (items : List String) :
    asStrArray (.array (items.map fun s => .text s.toList)) = some items := by
  induction items with
  | nil => rfl
  | cons item items ih =>
      simp only [asStrArray] at ih ⊢
      simp [asStr, ih]

end CborValue

/-- More than a process can address, in characters or in bytes. -/
def sendable : Nat := 2 ^ 60

/-- Truths, numbers, texts and lists of texts. -/
inductive JsonValue.Plain : JsonValue → Prop
  | bool (b : Bool) : Plain (.bool b)
  | number (n : UInt64) : Plain (.posInt n)
  | text (s : String) (hsize : s.length ≤ sendable) : Plain (.string s)
  | texts (items : List String) (hsize : ∀ s ∈ items, s.length ≤ sendable)
      (hlength : items.length ≤ sendable) : Plain (.texts items)

/-- The values that the API replies with and that service info is read as. -/
structure ServiceInfoValues (P : Platform) where
  json : JsonValue → P.Json
  cbor : P.Value → CborValue
  texts : Codec (List String)
  /-- `Option<i32>`. -/
  exitCode : Codec (Option Int)

namespace ServiceInfoValues

variable {P : Platform}

/-- Some bytes that are read as the value. -/
def Holds (V : ServiceInfoValues P) (raw : Option Bytes) (value : CborValue) : Prop :=
  ∃ data v, raw = some data ∧ P.valueFromSlice data = some v ∧ V.cbor v = value

theorem Holds.isSome {V : ServiceInfoValues P} {raw : Option Bytes} {value : CborValue} (h : V.Holds raw value) :
    raw.isSome = true := by
  obtain ⟨data, _, rfl, _⟩ := h
  rfl

/-- JSON and CBOR give back what was put in, and writing into memory does not fail. -/
structure Laws (V : ServiceInfoValues P) : Prop where
  jsonAsStr : ∀ s, P.jsonAsStr (V.json (.string s)) = some s
  json : ∀ {value : JsonValue}, value.Plain → V.Holds (P.jsonIntoWriter (V.json value)) value.toCbor
  byteBuf : ∀ {data : Bytes}, data.length ≤ sendable → V.Holds (P.byteBuf.intoWriter data) (.bytes data)
  text : ∀ {s : String}, s.length ≤ sendable → (P.text.intoWriter s).isSome = true
  texts : ∀ {items : List String}, (JsonValue.texts items).Plain → (V.texts.intoWriter items).isSome = true
  exitCode : ∀ code, (V.exitCode.intoWriter code).isSome = true

end ServiceInfoValues
end FidoOnboard
