import FidoOnboard.DataFormats.Types

/-! Entity attestation tokens of `data-formats/src/types.rs`. -/
namespace FidoOnboard

/-- `HashMap<i64, Value>`. -/
abbrev COSEHeaderMap (P : Platform) := List (Int × P.Value)

variable {P : Platform}

namespace COSEHeaderMap

/-- `HashMap::remove` on a copy: what stood there, and the rest. -/
def remove (m : COSEHeaderMap P) (key : HeaderKeys) : Option P.Value × COSEHeaderMap P :=
  (m.lookup key.toI64, m.filter fun e => e.1 ≠ key.toI64)

/-- `insert` of a value that is already a `Value`. -/
def insertValue (m : COSEHeaderMap P) (key : HeaderKeys) (value : P.Value) : COSEHeaderMap P :=
  (key.toI64, value) :: m.filter fun e => e.1 ≠ key.toI64

def insert {α : Type} (toValue : α → Option P.Value) (m : COSEHeaderMap P) (key : HeaderKeys)
    (value : α) : Outcome Error (COSEHeaderMap P) := do
  let value ← .ofOption .serdeCborError (toValue value)
  .ok (m.insertValue key value)

end COSEHeaderMap

/-- `serde_cbor::value::from_value` at a nonce. -/
def Nonce.fromValue (P : Platform) (value : P.Value) : Outcome Error Nonce := do
  let value ← .ofOption .serdeCborError (P.valueToBytes value)
  (checkBstr16 value).mapErr fun _ => .serdeCborError
  .ok ⟨value⟩

structure EATokenPayload (P : Platform) where
  payload : Option P.Value
  nonce : Nonce
  deviceGuid : Bytes
  otherClaims : COSEHeaderMap P

namespace EATokenPayload

/-- `payload()`: an absent payload is no error. -/
def payloadAs {α : Type} (fromValue : P.Value → Option α) (eat : EATokenPayload P) :
    Outcome Error (Option α) :=
  match eat.payload with
  | none => .ok none
  | some value => do
    let value ← .ofOption .serdeCborError (fromValue value)
    .ok (some value)

def fromMap (claims : COSEHeaderMap P) : Outcome Error (EATokenPayload P) := do
  let (payload, claims) := claims.remove .eatFDO
  let (nonce, claims) := claims.remove .eatNonce
  let nonce ← .ofOption (.inconsistentValue "Missing nonce") nonce
  let nonce ← Nonce.fromValue P nonce
  let (ueid, claims) := claims.remove .eatUeid
  let ueid ← .ofOption (.inconsistentValue "Missing UEID") ueid
  let ueid ← .ofOption .serdeCborError (P.valueToBytes ueid)
  let _ ← (Guid.fromUeid ueid).mapErr fun _ => .inconsistentValue "Invalid UEID"
  .ok ⟨payload, nonce, ueid, claims⟩

/-- `new_eat`. The guid is kept with the byte that marks a random identifier. -/
def newEat {α : Type} (toValue : α → Option P.Value) (payload : Option α) (nonce : Nonce) (deviceGuid : Guid) :
    Outcome Error (EATokenPayload P) :=
  match payload with
  | none => .ok ⟨none, nonce, deviceGuid.asUeid, []⟩
  | some payload => do
    let payload ← .ofOption .serdeCborError (toValue payload)
    .ok ⟨some payload, nonce, deviceGuid.asUeid, []⟩

/-- `to_map`: a claim that cannot be inserted stops the program. -/
def toMap (eat : EATokenPayload P) : Outcome Error (COSEHeaderMap P) := do
  let claims := match eat.payload with
    | none => eat.otherClaims
    | some payload => eat.otherClaims.insertValue .eatFDO payload
  let claims ← (COSEHeaderMap.insert P.valueOfBytes claims .eatNonce eat.nonce.value).unwrap
  (COSEHeaderMap.insert P.valueOfBytes claims .eatUeid eat.deviceGuid).unwrap

/-- `device_guid()`: the identifier was looked at when the token was read. -/
def getDeviceGuid (eat : EATokenPayload P) : Outcome Error Guid := (Guid.fromUeid eat.deviceGuid).unwrap

end EATokenPayload

namespace COSESign

def getEat (c : COSESign P) (key : P.PKey) : Outcome Error (EATokenPayload P) := do
  let claims ← c.getPayload P.headerMap.deserializeData key
  EATokenPayload.fromMap claims

/-- Nothing protects what this reads. -/
def getUnprotectedValue {α : Type} (fromValue : P.Value → Outcome Error α) (c : COSESign P)
    (key : HeaderKeys) : Outcome Error (Option α) :=
  match P.getUnprotected c.cachedInner key.toI64 with
  | none => .ok none
  | some value => do
    let value ← fromValue value
    .ok (some value)

/-- The header is read after the signature is verified. -/
def getProtectedValue {α : Type} (fromValue : P.Value → Outcome Error α) (c : COSESign P)
    (headerKey : HeaderKeys) (key : P.PKey) : Outcome Error (Option α) := do
  match ← .ofOption .cose (P.getProtected c.cachedInner key headerKey.toI64) with
  | none => .ok none
  | some value => do
    let value ← fromValue value
    .ok (some value)

theorem getEat_verified (laws : CoseLaws P) {c : COSESign P} {key : P.PKey} {eat : EATokenPayload P}
    (h : c.getEat key = .ok eat) : P.verifySignature c.cachedInner key = some true := by
  obtain ⟨claims, hclaims, _⟩ := Outcome.bind_eq_ok.mp h
  exact ((getPayload_eq_ok laws).mp hclaims).1

end COSESign
end FidoOnboard
