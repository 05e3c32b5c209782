import FidoOnboard.DataFormats.OwnershipVoucher

/-! Bodies of the first TO2 messages, and the device credential they are checked against. -/
namespace FidoOnboard
open CborParser

/-- Sixteen random bytes. -/
abbrev Random16 := { value : Bytes // value.length = 16 }

def Random16.repeated (b : UInt8) : Random16 := ⟨List.replicate 16 b, List.length_replicate⟩

def Nonce.new (draw : Option Random16) : Outcome Error Nonce := do
  let value ← .ofOption .cryptoStack draw
  .ok ⟨value.val⟩

def Guid.new (draw : Option Random16) : Outcome Error Guid := do
  let value ← .ofOption .cryptoStack draw
  .ok ⟨value.val⟩

def Nonce.deserializeData (P : Platform) (data : Bytes) : Outcome Error Nonce := do
  let value ← P.bstr16.deserializeData data
  (checkBstr16 value).mapErr fun _ => .serdeCborError
  .ok ⟨value⟩

def Nonce.serializeData (P : Platform) (n : Nonce) : Outcome Error Bytes := P.bstr16.serializeData n.value

/-- `PartialEq` of nonces. -/
def Nonce.eq (a b : Nonce) : Outcome Error Bool := memcmpEq a.value b.value

theorem Nonce.new_eq_ok {draw : Option Random16} {n : Nonce} (h : Nonce.new draw = .ok n) :
    ∃ value, draw = some value ∧ n = ⟨value.val⟩ := by
  obtain ⟨value, hvalue, h₁⟩ := Outcome.bind_eq_ok.mp h
  exact ⟨value, Outcome.ofOption_eq_ok.mp hvalue, (Outcome.ok.inj h₁).symm⟩

theorem Nonce.eq_ok_true {a b : Nonce} (h : a.eq b = .ok true) : a = b := by
  cases a
  cases b
  exact congrArg _ (memcmpEq_eq_true.mp h)

/-- `(2 ^ 16) - 1` in Rust, where `^` is exclusive or. -/
def maxMessageSize : Nat := (2 ^^^ 16) - 1

structure HelloDevice where
  maxDeviceMessageSize : Nat
  guid : Guid
  nonce5 : Nonce
  kexSuite : KexSuite
  cipherSuite : CipherSuite
  aSignatureInfo : SigInfo
  deriving DecidableEq, Repr

namespace HelloDevice

def new (guid : Guid) (nonce5 : Nonce) (kexSuite : KexSuite) (cipherSuite : CipherSuite)
    (aSignatureInfo : SigInfo) : HelloDevice :=
  ⟨maxMessageSize, guid, nonce5, kexSuite, cipherSuite, aSignatureInfo⟩

def serializeData (P : Platform) (m : HelloDevice) : Outcome Error Bytes :=
  P.helloDevice.serializeData
    ⟨m.maxDeviceMessageSize, m.guid.value, m.nonce5.value, m.kexSuite, m.cipherSuite, m.aSignatureInfo⟩

def deserializeData (P : Platform) (data : Bytes) : Outcome Error HelloDevice := do
  let f ← P.helloDevice.deserializeData data
  (checkBstr16 f.guid).mapErr fun _ => .serdeCborError
  (checkBstr16 f.nonce5).mapErr fun _ => .serdeCborError
  .ok ⟨f.maxDeviceMessageSize, ⟨f.guid⟩, ⟨f.nonce5⟩, f.kexSuite, f.cipherSuite, f.aSignatureInfo⟩

end HelloDevice

structure OVNextEntry (P : Platform) where
  entryNum : Nat
  entry : COSESign P

namespace OVNextEntry

variable {P : Platform}

def deserializeData (P : Platform) (data : Bytes) : Outcome Error (OVNextEntry P) := do
  let contents ← ParsedArray.deserializeData P.profile size2 data
  let entryNum ← contents.get P.u16.deserializeData 0
  let entry ← contents.get (COSESign.deserializeData P) 1
  .ok ⟨entryNum, entry⟩

def serializeData (m : OVNextEntry P) : Outcome Error Bytes := do
  let c0 ← P.u16.serializeData m.entryNum
  let c1 ← m.entry.serializeData
  (build size2 [c0, c1] (sized_pair c0 c1)).serializeData

end OVNextEntry

structure TO2ProveOVHdrPayload where
  contents : ParsedArray size8
  ovHeader : Bytes
  numOvEntries : Nat
  hmac : HMac
  nonce5 : Nonce
  bSignatureInfo : SigInfo
  aKeyExchange : Bytes
  helloDeviceHash : Hash
  maxOwnerMessageSize : Nat
  deriving DecidableEq, Repr

namespace TO2ProveOVHdrPayload

def deserializeData (P : Platform) (data : Bytes) : Outcome Error TO2ProveOVHdrPayload := do
  let contents ← ParsedArray.deserializeData P.profile size8 data
  let ovHeader ← contents.get P.byteBuf.deserializeData 0
  let numOvEntries ← contents.get P.u16.deserializeData 1
  let hmac ← contents.get P.hashCodec.deserializeData 2
  let nonce5 ← contents.get (Nonce.deserializeData P) 3
  let bSignatureInfo ← contents.get P.sigInfo.deserializeData 4
  let aKeyExchange ← contents.get P.byteBuf.deserializeData 5
  let helloDeviceHash ← contents.get P.hashCodec.deserializeData 6
  let maxOwnerMessageSize ← contents.get P.u16.deserializeData 7
  .ok
    { contents, ovHeader, numOvEntries, hmac, nonce5, bSignatureInfo, aKeyExchange, helloDeviceHash,
      maxOwnerMessageSize }

def new (P : Platform) (ovHeader : Bytes) (numOvEntries : Nat) (hmac : HMac) (nonce5 : Nonce)
    (bSignatureInfo : SigInfo) (aKeyExchange : Bytes) (helloDeviceHash : Hash) :
    Outcome Error TO2ProveOVHdrPayload := do
  let c0 ← P.byteBuf.serializeData ovHeader
  let c1 ← P.u16.serializeData numOvEntries
  let c2 ← P.hashCodec.serializeData hmac
  let c3 ← nonce5.serializeData P
  let c4 ← P.sigInfo.serializeData bSignatureInfo
  let c5 ← P.byteBuf.serializeData aKeyExchange
  let c6 ← P.hashCodec.serializeData helloDeviceHash
  let c7 ← P.u16.serializeData maxMessageSize
  .ok
    { contents := build size8 [c0, c1, c2, c3, c4, c5, c6, c7] (fun _ h => Option.some.inj h)
      ovHeader, numOvEntries, hmac, nonce5, bSignatureInfo, aKeyExchange, helloDeviceHash
      maxOwnerMessageSize := maxMessageSize }

end TO2ProveOVHdrPayload

/-- `HMac::from_digest`. -/
def Hash.fromDigest (hashType : HashType) (value : Bytes) : Outcome Error Hash :=
  if value.length ≠ hashType.digestSize then
    .err (.inconsistentValue "Digest string is invalid length")
  else .ok ⟨hashType, value⟩

theorem Hash.fromDigest_eq_ok {hashType : HashType} {value : Bytes} {h : Hash} :
    Hash.fromDigest hashType value = .ok h ↔ value.length = hashType.digestSize ∧ h = ⟨hashType, value⟩ := by
  unfold Hash.fromDigest
  by_cases hlength : value.length = hashType.digestSize
  · simp [hlength, eq_comm]
  · simp [hlength]

theorem Hash.fromDigest_hashType {hashType : HashType} {value : Bytes} {h : Hash}
    (hd : Hash.fromDigest hashType value = .ok h) : h.hashType = hashType := by
  rw [(Hash.fromDigest_eq_ok.mp hd).2]

inductive KeyStorage where
  | plain (hmacSecret privateKey : Bytes)
  | tpm (signingPublic signingPrivate hmacPublic hmacPrivate : Bytes)
  deriving DecidableEq, Repr

/-- The TPM answers with the hash type of its key, whatever type was asked for. -/
def KeyStorage.performHmac (P : Platform) (k : KeyStorage) (data : Bytes) (hmacType : HashType) :
    Outcome Error HMac :=
  match k with
  | .plain hmacSecret _ => do
    let mac ← .ofOption .cryptoStack (P.hmac hmacType.getMd hmacSecret data)
    Hash.fromDigest hmacType mac
  | .tpm _ _ hmacPublic hmacPrivate => do
    let (hashType, mac) ← .ofOption .cryptoStack (P.tpmHmac hmacPublic hmacPrivate data)
    Hash.fromDigest hashType mac

/-- The fields of a `FileDeviceCredential` that onboarding reads. -/
structure DeviceCredential where
  guid : Guid
  pubkeyHash : Hash
  keyStorage : KeyStorage
  deriving DecidableEq, Repr

def DeviceCredential.verifyHmac (P : Platform) (c : DeviceCredential) (data : Bytes) (hmac : HMac) :
    Outcome Error Unit := do
  let expected ← c.keyStorage.performHmac P data hmac.hashType
  if ← memcmpEq hmac.value expected.value then .ok () else .err .incorrectHash

theorem DeviceCredential.verifyHmac_eq_ok {P : Platform} {c : DeviceCredential} {data : Bytes}
    {hmac : HMac} : c.verifyHmac P data hmac = .ok () ↔
      ∃ expected, c.keyStorage.performHmac P data hmac.hashType = .ok expected ∧
        hmac.value = expected.value := by
  unfold verifyHmac
  constructor
  · intro h
    obtain ⟨expected, hexp, h₁⟩ := Outcome.bind_eq_ok.mp h
    obtain ⟨b, hb, h₂⟩ := Outcome.bind_eq_ok.mp h₁
    cases b with
    | true => exact ⟨expected, hexp, memcmpEq_eq_true.mp hb⟩
    | false => cases h₂
  · rintro ⟨expected, hexp, heq⟩
    simp [hexp, memcmpEq_eq_true.mpr heq]

end FidoOnboard
