import FidoOnboard.DataFormats.JsonValue
import FidoOnboard.DataFormats.Reference

/-! The reference platform with JSON values that are written as the CBOR they stand for. -/
namespace FidoOnboard.Reference

def jsonText : JsonValue → Option Scalar
  | .string s => some (.text s)
  | _ => none

/-- The values that the API sends. -/
def jsonValue : JsonValue → Option Value
  | .bool b => some (.scalar (.bool b))
  | .posInt n => some (.scalar (.integer n.toNat))
  | .string s => some (.scalar (.text s))
  | .array items => (items.mapM jsonText).map .array
  | _ => none

def jsonPlatform (profile : Profile) : Platform :=
  { reference profile with
    Json := JsonValue
    jsonAsStr := fun
      | .string s => some s
      | _ => none
    jsonIntoWriter := fun value => (jsonValue value).map valueWire.write }

def scalarCbor : Scalar → CborValue
  | .integer n => .integer n
  | .bytes data => .bytes data
  | .text s => .text s.toList
  | .bool b => .bool b

def valueCbor : Value → CborValue
  | .scalar value => scalarCbor value
  | .array items => .array (items.map scalarCbor)

def jsonValues (profile : Profile) : ServiceInfoValues (jsonPlatform profile) where
  json value := value
  cbor := valueCbor
  texts := ⟨fun _ => none, fun items => some ((Wire.counted 4 textWire).write items)⟩
  exitCode := ⟨fun _ => none, fun code => some ((Wire.int.optional 0xf6).write code)⟩

theorem asBytes_length_le (s : String) : (asBytes s).length ≤ 4 * s.length := by
  have hsize : ∀ l : List Char, (String.ofList l).utf8ByteSize ≤ 4 * l.length := by
    intro l
    induction l with
    | nil => simp
    | cons c l ih =>
        have hc := c.utf8Size_le_four
        have hcons : (String.ofList (c :: l)).utf8ByteSize = c.utf8Size + (String.ofList l).utf8ByteSize := by
          rw [show c :: l = [c] ++ l from rfl, String.ofList_append, String.utf8ByteSize_append]
          simp
        rw [hcons, List.length_cons]
        omega
  have hbytes : (asBytes s).length = s.utf8ByteSize := Array.length_toList
  have := hsize s.toList
  rwa [String.ofList_toList, String.length_toList, ← hbytes] at this

theorem readsBack_sendable {s : String} (hsize : s.length ≤ sendable) : textWire.ReadsBack s := by
  have hle := asBytes_length_le s
  simp only [sendable] at hsize
  exact readsBack_text (by omega)

/-! ## Values are read back -/

theorem int_other {major n : Nat} (hm : major < 8) (hpos : 2 ≤ major) (rest : Bytes) :
    Wire.int.read ((Wire.head major).write n ++ rest) = none := by
  simp only [Wire.int, Wire.head_other hm (show major ≠ 0 by omega) rest,
    Wire.head_other hm (show major ≠ 1 by omega) rest]
  rfl

theorem string_other {major major' n : Nat} (hm : major < 8) (hne : major ≠ major') (rest : Bytes) :
    (Wire.string major').read ((Wire.head major).write n ++ rest) = none := by
  simp only [Wire.string, Wire.head_other hm hne rest]
  rfl

theorem text_other {major n : Nat} (hm : major < 8) (hne : major ≠ 3) (rest : Bytes) :
    textWire.read ((Wire.head major).write n ++ rest) = none := by
  simp only [textWire, Wire.via, string_other hm hne rest]
  rfl

theorem bool_other {major n : Nat} (hm : major < 7) (rest : Bytes) :
    boolWire.read ((Wire.head major).write n ++ rest) = none := by
  have hle := @Wire.info_le n
  have hb : (UInt8.ofNat (32 * major + Wire.info n)).toNat = 32 * major + Wire.info n := by
    rw [UInt8.toNat_ofNat']
    omega
  have htrue : UInt8.ofNat (32 * major + Wire.info n) ≠ 0xf5 := fun h => by
    rw [h] at hb
    have : (0xf5 : UInt8).toNat = 245 := rfl
    omega
  have hfalse : UInt8.ofNat (32 * major + Wire.info n) ≠ 0xf4 := fun h => by
    rw [h] at hb
    have : (0xf4 : UInt8).toNat = 244 := rfl
    omega
  simp only [boolWire, Wire.head, List.cons_append]
  split
  · next h => exact absurd (List.cons.inj h).1 htrue
  · next h => exact absurd (List.cons.inj h).1 hfalse
  · rfl

theorem readsBack_scalar_text {s : String} (hsize : s.length ≤ sendable) : scalarWire.ReadsBack (.text s) := by
  intro rest
  have hread := readsBack_sendable hsize rest
  have hwrite : textWire.write s ++ rest = (Wire.head 3).write (asBytes s).length ++ (asBytes s ++ rest) := by
    simp [textWire, Wire.via, Wire.string]
  simp only [scalarWire, hread]
  rw [hwrite, int_other (by decide) (by decide), string_other (by decide) (by decide)]

theorem readsBack_scalar_bytes {data : Bytes} (hsize : data.length < 2 ^ 64) :
    scalarWire.ReadsBack (.bytes data) := by
  intro rest
  have hread := Wire.readsBack_string (show (2 : Nat) < 8 by decide) hsize rest
  have hwrite : (Wire.string 2).write data ++ rest = (Wire.head 2).write data.length ++ (data ++ rest) := by
    simp [Wire.string]
  simp only [scalarWire, hread]
  rw [hwrite, int_other (by decide) (by decide)]

theorem readsBack_scalar_nat {n : Nat} (hn : n < 2 ^ 64) : scalarWire.ReadsBack (.integer n) := by
  intro rest
  have hread := Wire.readsBack_ofNat hn rest
  simp only [scalarWire]
  rw [show ((n : Int)) = .ofNat n from rfl, hread]

theorem readsBack_scalar_bool (b : Bool) : scalarWire.ReadsBack (.bool b) := by
  intro rest
  cases b with
  | true => rfl
  | false => rfl

theorem readsBack_value_scalar {value : Scalar} (h : scalarWire.ReadsBack value) :
    valueWire.ReadsBack (.scalar value) := by
  intro rest
  simp only [valueWire, h rest]

theorem readsBack_value_array {items : List Scalar} (hlength : items.length < 2 ^ 64)
    (h : ∀ item ∈ items, scalarWire.ReadsBack item) : valueWire.ReadsBack (.array items) := by
  intro rest
  have hread := Wire.readsBack_counted (show (4 : Nat) < 8 by decide) hlength h rest
  have hwrite : (Wire.counted 4 scalarWire).write items ++ rest =
      (Wire.head 4).write items.length ++ (items.flatMap scalarWire.write ++ rest) := by
    simp [Wire.counted]
  have hscalar : scalarWire.read ((Wire.head 4).write items.length ++
      (items.flatMap scalarWire.write ++ rest)) = none := by
    simp only [scalarWire, int_other (show (4 : Nat) < 8 by decide) (by decide),
      string_other (show (4 : Nat) < 8 by decide) (show (4 : Nat) ≠ 2 by decide),
      text_other (show (4 : Nat) < 8 by decide) (by decide), bool_other (show (4 : Nat) < 7 by decide)]
    rfl
  simp only [valueWire, hread]
  rw [hwrite, hscalar]
  rfl

theorem holds_value (profile : Profile) {value : Value} (h : valueWire.ReadsBack value) :
    (jsonValues profile).Holds (some (valueWire.write value)) (valueCbor value) :=
  ⟨_, value, rfl, h.fromSlice, rfl⟩

theorem jsonTexts (items : List String) :
    (items.map JsonValue.string).mapM jsonText = some (items.map Scalar.text) := by
  induction items with
  | nil => rfl
  | cons item items ih => simp [jsonText, ih]

theorem text_intoWriter (profile : Profile) {s : String} (hle : s.length ≤ sendable) :
    (jsonPlatform profile).text.intoWriter s = some (textWire.write s) := by
  simp only [sendable] at hle
  have hbytes := asBytes_length_le s
  have hlength := string_length_le 3 (asBytes s)
  refine if_pos ?_
  simp only [textWire, Wire.via, isizeMax]
  omega

theorem jsonLaws (profile : Profile) : (jsonValues profile).Laws where
  jsonAsStr s := rfl
  json hplain := by
    cases hplain with
    | bool b => exact holds_value profile (readsBack_value_scalar (readsBack_scalar_bool b))
    | number n =>
        exact holds_value profile (readsBack_value_scalar (readsBack_scalar_nat (n := n.toNat) n.toNat_lt))
    | text s hsize => exact holds_value profile (readsBack_value_scalar (readsBack_scalar_text hsize))
    | texts items hsize hlength =>
        have hvalue : jsonValue (.texts items) = some (.array (items.map .text)) := by
          simp only [JsonValue.texts, jsonValue, jsonTexts, Option.map_some]
        have hread : valueWire.ReadsBack (.array (items.map .text)) := by
          refine readsBack_value_array ?_ fun item h => ?_
          · simp only [sendable] at hlength
            rw [List.length_map]
            omega
          · obtain ⟨s, hs, rfl⟩ := List.mem_map.mp h
            exact readsBack_scalar_text (hsize s hs)
        have hcbor : valueCbor (.array (items.map .text)) = (JsonValue.texts items).toCbor := by
          simp [valueCbor, JsonValue.texts_toCbor, scalarCbor]
        have := holds_value profile hread
        rw [hcbor] at this
        simpa [jsonPlatform, jsonValues, hvalue] using this
  byteBuf {data} hle := by
    simp only [sendable] at hle
    have hlength := string_length_le 2 data
    have hwrite : (jsonPlatform profile).byteBuf.intoWriter data = some (valueWire.write (.scalar (.bytes data))) := by
      refine if_pos ?_
      simp only [isizeMax]
      omega
    rw [hwrite]
    exact holds_value profile (readsBack_value_scalar (readsBack_scalar_bytes (by omega)))
  text hle := by
    rw [text_intoWriter profile hle]
    rfl
  texts _ := rfl
  exitCode _ := rfl

end FidoOnboard.Reference
