import FidoOnboard.DataFormats.Platform
import Mathlib.Data.List.Forall2

/-! `serde_cbor::Value`, and the values a `serde_yaml::Value` is turned into. -/
namespace FidoOnboard

/-- All NaNs of a float are one value. -/
def isNan (bits : UInt64) : Bool := 0x7ff0000000000000 < bits &&& 0x7fffffffffffffff

/-- A float is kept as its bits; a map as its entries, in any order. -/
inductive CborValue where
  | null
  | bool (value : Bool)
  | integer (value : Int)
  | float (bits : UInt64)
  | bytes (value : Bytes)
  | text (value : List Char)
  | array (items : List CborValue)
  | map (items : List (CborValue × CborValue))

/-- A number is an `u64`, a negative `i64` or a float. -/
inductive YamlValue where
  | null
  | bool (value : Bool)
  | posInt (value : UInt64)
  | negInt (magnitude : UInt64)
  | float (bits : UInt64)
  | string (value : List Char)
  | sequence (items : List YamlValue)
  | mapping (items : List (YamlValue × YamlValue))
  | tagged (tag : List Char) (value : YamlValue)

namespace CborValue

/-- What configurations hold, with numbers of at most 64 bits. -/
def Scalar : CborValue → Prop
  | .null => True
  | .integer n => n.natAbs < 2 ^ 64
  | .bytes _ => True
  | .text _ => True
  | _ => False

/-- A scalar is read as it was written. -/
def Faithful (codec : Codec CborValue) : Prop :=
  ∀ value data, value.Scalar → codec.intoWriter value = some data → codec.fromSlice data = some value

mutual

/-- `PartialEq`, which compares what the values are written as. -/
def same : CborValue → CborValue → Bool
  | .null, .null => true
  | .bool a, .bool b => a == b
  | .integer a, .integer b => a == b
  | .float a, .float b => a == b || (isNan a && isNan b)
  | .bytes a, .bytes b => a == b
  | .text a, .text b => a == b
  | .array as, .array bs => sameItems as bs
  | .map as, .map bs => as.length == bs.length && sameEntries as bs
  | _, _ => false

def sameItems : List CborValue → List CborValue → Bool
  | [], [] => true
  | a :: as, b :: bs => same a b && sameItems as bs
  | _, _ => false

/-- Each entry of the first map is one of the second. -/
def sameEntries : List (CborValue × CborValue) → List (CborValue × CborValue) → Bool
  | [], _ => true
  | (key, value) :: as, bs => (bs.any fun e => same key e.1 && same value e.2) && sameEntries as bs

end

/-- `BTreeMap::insert`: an entry under the same key loses its value. -/
def insertEntry (entries : List (CborValue × CborValue)) (entry : CborValue × CborValue) :
    List (CborValue × CborValue) :=
  if entries.any fun e => same e.1 entry.1 then
    entries.map fun e => if same e.1 entry.1 then (e.1, entry.2) else e
  else entries ++ [entry]

/-- The map that entries are collected into. -/
def collect (entries : List (CborValue × CborValue)) : List (CborValue × CborValue) :=
  entries.foldl insertEntry []

theorem sameItems_iff {as bs : List CborValue} :
    sameItems as bs = true ↔ List.Forall₂ (fun a b => same a b = true) as bs := by
  induction as generalizing bs with
  | nil =>
      cases bs with
      | nil => exact iff_of_true rfl .nil
      | cons b bs => exact iff_of_false nofun nofun
  | cons a as ih =>
      cases bs with
      | nil => exact iff_of_false nofun nofun
      | cons b bs => rw [sameItems, Bool.and_eq_true, ih, List.forall₂_cons]

theorem sameEntries_iff {as bs : List (CborValue × CborValue)} :
    sameEntries as bs = true ↔ ∀ e ∈ as, ∃ f ∈ bs, same e.1 f.1 = true ∧ same e.2 f.2 = true := by
  induction as with
  | nil => exact iff_of_true rfl (fun e he => absurd he List.not_mem_nil)
  | cons e as ih =>
      rw [sameEntries, Bool.and_eq_true, ih, List.any_eq_true, List.forall_mem_cons]
      simp only [Bool.and_eq_true]

/-- Entries under different keys all stay. -/
theorem collect_of_distinct {entries : List (CborValue × CborValue)}
    (h : entries.Pairwise fun e f => same e.1 f.1 = false) : collect entries = entries := by
  have hfold : ∀ before behind : List (CborValue × CborValue),
      (before ++ behind).Pairwise (fun e f => same e.1 f.1 = false) →
      behind.foldl insertEntry before = before ++ behind := by
    intro before behind hdistinct
    induction behind generalizing before with
    | nil => rw [List.foldl_nil, List.append_nil]
    | cons f behind ih =>
        have hnew : ¬ (before.any fun e => same e.1 f.1) = true := by
          rw [List.any_eq_true]
          rintro ⟨e, he, hsame⟩
          have hne := (List.pairwise_append.mp hdistinct).2.2 e he f List.mem_cons_self
          exact absurd (hne.symm.trans hsame) nofun
        rw [List.append_cons] at hdistinct ⊢
        rw [List.foldl_cons, insertEntry, if_neg hnew, ih _ hdistinct]
  exact hfold [] entries h

end CborValue

mutual

/-- `yaml_to_cbor`; what is inside a mapping is met by `unwrap`. -/
def yamlToCbor : YamlValue → Outcome String CborValue
  | .null => .ok .null
  | .bool b => .ok (.bool b)
  | .posInt n => .ok (.integer n.toNat)
  | .negInt n => .ok (.integer (-n.toNat))
  | .float bits => .ok (.float bits)
  | .string s => .ok (.text s)
  | .sequence items => do
    let items ← yamlItems items
    .ok (.array items)
  | .mapping items => do
    let items ← (yamlPairs items).unwrap
    .ok (.map (CborValue.collect items))
  | .tagged _ _ => .err "YAML tags are unsupported"

def yamlItems : List YamlValue → Outcome String (List CborValue)
  | [] => .ok []
  | item :: items => do
    let item ← yamlToCbor item
    let items ← yamlItems items
    .ok (item :: items)

def yamlPairs : List (YamlValue × YamlValue) → Outcome String (List (CborValue × CborValue))
  | [] => .ok []
  | (key, value) :: items => do
    let key ← yamlToCbor key
    let value ← yamlToCbor value
    let items ← yamlPairs items
    .ok ((key, value) :: items)

end

/-- The integer of a number, where it is one. -/
def YamlValue.asInteger : YamlValue → Option Int
  | .posInt n => some n.toNat
  | .negInt n => some (-n.toNat)
  | _ => none

def YamlValue.asText : YamlValue → Option (List Char)
  | .string s => some s
  | _ => none

theorem YamlValue.asInteger_lt {value : YamlValue} {n : Int} (h : value.asInteger = some n) :
    n.natAbs < 2 ^ 64 := by
  cases value with
  | posInt m =>
      obtain rfl := Option.some.inj h
      simpa using m.toNat_lt
  | negInt m =>
      obtain rfl := Option.some.inj h
      simpa using m.toNat_lt
  | _ => cases h

theorem yamlToCbor_integer {value : YamlValue} {n : Int} (h : yamlToCbor value = .ok (.integer n)) :
    value.asInteger = some n := by
  cases value with
  | posInt m => simpa [yamlToCbor, YamlValue.asInteger] using h
  | negInt m => simpa [yamlToCbor, YamlValue.asInteger] using h
  | sequence items =>
      obtain ⟨_, _, hitems⟩ := Outcome.bind_eq_ok.mp (by simpa only [yamlToCbor] using h)
      cases hitems
  | mapping items =>
      obtain ⟨_, _, hitems⟩ := Outcome.bind_eq_ok.mp (by simpa only [yamlToCbor] using h)
      cases hitems
  | _ => simp [yamlToCbor] at h

theorem yamlToCbor_text {value : YamlValue} {t : List Char} (h : yamlToCbor value = .ok (.text t)) :
    value.asText = some t := by
  cases value with
  | string s => simpa [yamlToCbor, YamlValue.asText] using h
  | sequence items =>
      obtain ⟨_, _, hitems⟩ := Outcome.bind_eq_ok.mp (by simpa only [yamlToCbor] using h)
      cases hitems
  | mapping items =>
      obtain ⟨_, _, hitems⟩ := Outcome.bind_eq_ok.mp (by simpa only [yamlToCbor] using h)
      cases hitems
  | _ => simp [yamlToCbor] at h

end FidoOnboard
