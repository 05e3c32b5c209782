import FidoOnboard.DataFormats.Platform

/-! Hashes, nonces, identifiers and signed tokens of `data-formats/src/types.rs`. -/
namespace FidoOnboard
open CborParser

/-- `openssl::memcmp::eq`: slices of different lengths stop the program. -/
def memcmpEq (a b : Bytes) : Outcome Error Bool :=
  if a.length = b.length then .ok (decide (a = b)) else .panic

theorem memcmpEq_eq_true {a b : Bytes} : memcmpEq a b = .ok true ↔ a = b := by
  unfold memcmpEq
  split
  · simp
  · next h =>
      simp only [reduceCtorEq, false_iff]
      rintro rfl
      exact h rfl

namespace Hash

def fromData (P : Platform) (alg : HashType) (data : Bytes) : Outcome Error Hash := do
  let md ← .ofOption .unsupportedAlgorithm alg.messageDigest
  let value ← .ofOption .cryptoStack (P.hash md data)
  .ok ⟨alg, value⟩

def compareData (P : Platform) (h : Hash) (other : Bytes) : Outcome Error Unit := do
  let md ← .ofOption .unsupportedAlgorithm h.hashType.messageDigest
  let otherDigest ← .ofOption .cryptoStack (P.hash md other)
  if ← memcmpEq h.value otherDigest then .ok () else .err .incorrectHash

/-- `compare` through `PartialEq`, which looks at the values only. -/
def compare (h other : Hash) : Outcome Error Unit := do
  if ← memcmpEq h.value other.value then .ok () else .err .incorrectHash

/-- `h` holds the digest of `data` under the type it names. -/
def IsDigest (P : Platform) (h : Hash) (data : Bytes) : Prop :=
  ∃ md, h.hashType.messageDigest = some md ∧ P.hash md data = some h.value

theorem compare_eq_ok {h other : Hash} : h.compare other = .ok () ↔ h.value = other.value := by
  constructor
  · intro hc
    obtain ⟨b, hb, hr⟩ := Outcome.bind_eq_ok.mp hc
    cases b with
    | true => exact memcmpEq_eq_true.mp hb
    | false => cases hr
  · intro heq
    simp [compare, memcmpEq_eq_true.mpr heq]

theorem compareData_eq_ok {P : Platform} {h : Hash} {other : Bytes} :
    h.compareData P other = .ok () ↔ h.IsDigest P other := by
  constructor
  · intro hc
    obtain ⟨md, hmd, h₁⟩ := Outcome.bind_eq_ok.mp hc
    obtain ⟨digest, hdigest, h₂⟩ := Outcome.bind_eq_ok.mp h₁
    obtain ⟨b, hb, hr⟩ := Outcome.bind_eq_ok.mp h₂
    cases b with
    | true =>
        rw [Outcome.ofOption_eq_ok] at hmd hdigest
        exact ⟨md, hmd, memcmpEq_eq_true.mp hb ▸ hdigest⟩
    | false => cases hr
  · rintro ⟨md, hmd, hdigest⟩
    simp [compareData, hmd, hdigest, Outcome.ofOption, memcmpEq_eq_true.mpr rfl]

theorem fromData_eq_ok {P : Platform} {alg : HashType} {data : Bytes} {h : Hash} :
    fromData P alg data = .ok h ↔ h.hashType = alg ∧ h.IsDigest P data := by
  constructor
  · intro hf
    obtain ⟨md, hmd, h₁⟩ := Outcome.bind_eq_ok.mp hf
    obtain ⟨value, hvalue, h₂⟩ := Outcome.bind_eq_ok.mp h₁
    obtain rfl := Outcome.ok.inj h₂
    rw [Outcome.ofOption_eq_ok] at hmd hvalue
    exact ⟨rfl, md, hmd, hvalue⟩
  · rintro ⟨rfl, md, hmd, hvalue⟩
    simp [fromData, hmd, hvalue, Outcome.ofOption]

/-- A digest computed under the type a hash names, compared with that hash. -/
theorem fromData_compare {P : Platform} {h : Hash} {data : Bytes} :
    (∃ other, fromData P h.hashType data = .ok other ∧ h.compare other = .ok ()) ↔
      h.IsDigest P data := by
  constructor
  · rintro ⟨other, hother, hc⟩
    obtain ⟨htype, md, hmd, hvalue⟩ := fromData_eq_ok.mp hother
    exact ⟨md, htype ▸ hmd, compare_eq_ok.mp hc ▸ hvalue⟩
  · intro hd
    exact ⟨h, fromData_eq_ok.mpr ⟨rfl, hd⟩, compare_eq_ok.mpr rfl⟩

end Hash

/-- A 16-byte string on the wire; what the process builds itself is not checked. -/
structure Nonce where
  value : Bytes
  deriving DecidableEq, Repr

@[ext] structure Guid where
  value : Bytes
  deriving DecidableEq, Repr

/-- `Bstr16::check`, run by every decoder of a nonce or a guid. -/
def checkBstr16 (value : Bytes) : Outcome Error Unit :=
  .check (value.length = 16) (.inconsistentValue "Bstr16 is not 16 bytes")

namespace Guid

/-- The check runs inside the decoder, which reports it as its own error. -/
def deserializeData (P : Platform) (data : Bytes) : Outcome Error Guid := do
  let value ← P.bstr16.deserializeData data
  (checkBstr16 value).mapErr fun _ => .serdeCborError
  .ok ⟨value⟩

def serializeData (P : Platform) (g : Guid) : Outcome Error Bytes := P.bstr16.serializeData g.value

/-- `as_uuid`: a guid of another length stops the program. -/
def asUuid (g : Guid) : Outcome Error Bytes := if g.value.length = 16 then .ok g.value else .panic

def eatRand : UInt8 := 0x01

def asUeid (g : Guid) : Bytes := eatRand :: g.value

/-- An empty identifier is indexed out of bounds. -/
def fromUeid : Bytes → Outcome Error Guid
  | [] => .panic
  | b :: data => if b ≠ eatRand then .err (.inconsistentValue "Invalid UEID") else .ok ⟨data⟩

theorem deserializeData_eq_ok {P : Platform} {data : Bytes} {g : Guid} :
    deserializeData P data = .ok g ↔ P.bstr16.fromSlice data = some g.value ∧ g.value.length = 16 := by
  constructor
  · intro h
    obtain ⟨value, hvalue, h₁⟩ := Outcome.bind_eq_ok.mp h
    obtain ⟨_, hlen, h₂⟩ := Outcome.bind_eq_ok.mp h₁
    obtain rfl := Outcome.ok.inj h₂
    rw [Outcome.mapErr_eq_ok, checkBstr16, Outcome.check_eq_ok] at hlen
    exact ⟨Codec.deserializeData_eq_ok.mp hvalue, hlen⟩
  · rintro ⟨hvalue, hlen⟩
    simp [deserializeData, Codec.deserializeData_eq_ok.mpr hvalue, checkBstr16, hlen, Outcome.check]

end Guid

def cosesignTag : Nat := 18

/-- A signed token: the parsed array, always under its tag, and the library's view of it. -/
@[ext] structure COSESign (P : Platform) where
  contents : ParsedArray size4
  cachedInner : P.CoseSign1
  tagged : contents.tag = some cosesignTag

namespace COSESign

variable {P : Platform}

def ofArray (P : Platform) (array : ParsedArray size4) : Outcome Error (COSESign P) :=
  if h : array.tag ≠ some cosesignTag then
    if array.tag = none then .err (.inconsistentValue "Missing tag on COSESign")
    else .err (.inconsistentValue "Invalid tag on COSESign")
  else do
    let data ← array.serializeData
    let inner ← .ofOption .cose (P.coseFromBytes data)
    .ok ⟨array, inner, Decidable.not_not.mp h⟩

def deserializeData (P : Platform) (data : Bytes) : Outcome Error (COSESign P) := do
  let array ← ParsedArray.deserializeData P.profile size4 data
  ofArray P array

def serializeData (c : COSESign P) : Outcome Error Bytes :=
  if c.contents.tag ≠ some cosesignTag then
    .err (.inconsistentValue "Invalid tag on COSESign on serialize_data")
  else c.contents.serializeData

def newFromInner (P : Platform) (inner : P.CoseSign1) : Outcome Error (COSESign P) := do
  let data ← .ofOption .ciboriumSerError (P.coseIntoWriter inner)
  let contents ← ParsedArray.deserializeData P.profile size4 data
  .ok ⟨contents.setTag (some cosesignTag), inner, rfl⟩

/-- `COSESign::new` over the already serialized payload. -/
def new (P : Platform) (payload : Bytes) (unprotectedValues : List (Int × P.Value))
    (signKey : P.PrivateKey) : Outcome Error (COSESign P) := do
  let inner ← .ofOption .cose (P.coseNew payload unprotectedValues signKey)
  newFromInner P inner

/-- `COSESign::new_with_protected` over the already serialized payload. -/
def newWithProtected (P : Platform) (payload : Bytes) (protectedValues unprotectedValues : List (Int × P.Value))
    (signKey : P.PrivateKey) : Outcome Error (COSESign P) := do
  let inner ← .ofOption .cose
    (P.coseNewWithProtected payload protectedValues unprotectedValues signKey)
  newFromInner P inner

def verify (c : COSESign P) (signKey : P.PKey) : Outcome Error Unit := do
  if ← .ofOption .cose (P.verifySignature c.cachedInner signKey) then .ok ()
  else .err (.inconsistentValue "Signature verification failed")

variable {α : Type}

/-- The value stands for `UnverifiedValue<T>`: nothing was checked. -/
def getPayloadUnverified (decode : Bytes → Outcome Error α) (c : COSESign P) : Outcome Error α := do
  let payload ← .ofOption .cose (P.getPayload c.cachedInner none)
  decode payload

def getPayload (decode : Bytes → Outcome Error α) (c : COSESign P) (key : P.PKey) :
    Outcome Error α := do
  let payload ← .ofOption .cose (P.getPayload c.cachedInner (some key))
  decode payload

theorem getPayload_eq_ok (laws : CoseLaws P) {decode : Bytes → Outcome Error α} {c : COSESign P}
    {key : P.PKey} {value : α} :
    c.getPayload decode key = .ok value ↔
      P.verifySignature c.cachedInner key = some true ∧
        c.getPayloadUnverified decode = .ok value := by
  simp only [getPayload, getPayloadUnverified, Outcome.bind_eq_ok, Outcome.ofOption_eq_ok,
    laws.getPayload_key]
  constructor
  · rintro ⟨payload, ⟨hv, hp⟩, hd⟩
    exact ⟨hv, payload, hp, hd⟩
  · rintro ⟨hv, payload, hp, hd⟩
    exact ⟨payload, ⟨hv, hp⟩, hd⟩

theorem verify_eq_ok {c : COSESign P} {key : P.PKey} :
    c.verify key = .ok () ↔ P.verifySignature c.cachedInner key = some true := by
  unfold verify
  cases P.verifySignature c.cachedInner key with
  | none => simp [Outcome.ofOption]
  | some b => cases b <;> simp [Outcome.ofOption]

theorem newFromInner_inner {inner : P.CoseSign1} {c : COSESign P} (h : newFromInner P inner = .ok c) :
    c.cachedInner = inner := by
  obtain ⟨_, _, h₁⟩ := Outcome.bind_eq_ok.mp h
  obtain ⟨_, _, h₂⟩ := Outcome.bind_eq_ok.mp h₁
  rw [← Outcome.ok.inj h₂]

theorem new_inner {payload : Bytes} {unprotectedValues : List (Int × P.Value)} {signKey : P.PrivateKey}
    {c : COSESign P} (h : new P payload unprotectedValues signKey = .ok c) :
    P.coseNew payload unprotectedValues signKey = some c.cachedInner := by
  obtain ⟨inner, hinner, h₁⟩ := Outcome.bind_eq_ok.mp h
  rw [newFromInner_inner h₁]
  exact Outcome.ofOption_eq_ok.mp hinner

/-- The test on the tag never fails: every value carries it. -/
theorem serializeData_eq (c : COSESign P) : c.serializeData = c.contents.serializeData := by
  simp [serializeData, c.tagged]

end COSESign
end FidoOnboard
