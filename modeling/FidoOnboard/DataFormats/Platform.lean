import FidoOnboard.DataFormats.CborGrammar

/-!
# Code outside the repository

openssl, the COSE library and the two CBOR libraries behind `Serializable` are
parameters. What the proofs rely on is stated as named laws beside them.
-/
namespace FidoOnboard

/-- `serde_cbor::from_slice` and `ciborium::ser::into_writer` at one type. -/
structure Codec (α : Type) where
  fromSlice : Bytes → Option α
  intoWriter : α → Option Bytes

namespace Codec

variable {α : Type}

def deserializeData (c : Codec α) (data : Bytes) : Outcome Error α :=
  .ofOption .serdeCborError (c.fromSlice data)

def serializeData (c : Codec α) (value : α) : Outcome Error Bytes :=
  .ofOption .ciboriumSerError (c.intoWriter value)

@[simp] theorem deserializeData_eq_ok {c : Codec α} {data : Bytes} {value : α} :
    c.deserializeData data = .ok value ↔ c.fromSlice data = some value :=
  Outcome.ofOption_eq_ok

@[simp] theorem serializeData_eq_ok {c : Codec α} {data : Bytes} {value : α} :
    c.serializeData value = .ok data ↔ c.intoWriter value = some data :=
  Outcome.ofOption_eq_ok

/-- What was written is read back. -/
def Faithful (c : Codec α) : Prop :=
  ∀ value data, c.intoWriter value = some data → c.fromSlice data = some value

/-- Every value is written as one item of definite length, without `null`, booleans and
floats, and read back. -/
def Plain (c : Codec α) : Prop :=
  ∀ value data, c.intoWriter value = some data →
    CborGrammar.WellFormed .bounded data ∧ c.fromSlice data = some value

/-- The same for a type with an absent value, which is written as `null`; nothing else is
read as absent. -/
structure PlainOption (c : Codec (Option α)) : Prop where
  present : ∀ value data, c.intoWriter (some value) = some data →
    CborGrammar.WellFormed .bounded data ∧ c.fromSlice data = some (some value)
  absent : ∀ data, c.intoWriter none = some data → data = [0xf6] ∧ c.fromSlice data = some none
  null : ∀ data, c.fromSlice data = some none → data = [0xf6]

end Codec

/-- `str::as_bytes`. -/
def asBytes (s : String) : Bytes := s.toUTF8.data.toList

/-- The `Hash` record; `HMac` is the same type. -/
structure Hash where
  hashType : HashType
  value : Bytes
  deriving DecidableEq, Repr

abbrev HMac := Hash

/-- The three written fields of a `PublicKey`. -/
structure PublicKeyFields where
  keyType : PublicKeyType
  encoding : PublicKeyEncoding
  data : Bytes
  deriving DecidableEq, Repr

/-- `Option<HashMap<u128, ByteBuf>>`, the map in its iteration order. -/
abbrev ExtraType := Option (List (Nat × Bytes))

/-- The four written fields of an `OwnershipVoucherEntryPayload`. -/
structure EntryPayloadFields where
  hashPreviousEntry : Hash
  hashHeaderInfo : Hash
  extra : ExtraType
  publicKey : PublicKeyFields
  deriving DecidableEq, Repr

structure SigInfo where
  sigType : DeviceSigType
  info : Bytes
  deriving DecidableEq, Repr

/-- The written fields of a `HelloDevice` message; guid and nonce are byte strings here. -/
structure HelloDeviceFields where
  maxDeviceMessageSize : Nat
  guid : Bytes
  nonce5 : Bytes
  kexSuite : KexSuite
  cipherSuite : CipherSuite
  aSignatureInfo : SigInfo
  deriving DecidableEq, Repr

/-- The written fields of a `TO2SetupDevicePayload`. -/
structure SetupDeviceFields (RendezvousInfo : Type) where
  rendezvousInfo : RendezvousInfo
  guid : Bytes
  nonce7 : Bytes
  owner2Key : PublicKeyFields
  deriving DecidableEq, Repr

/-- The written fields of a `diun::Connect`. -/
structure ConnectFields where
  nonceDiun1 : Bytes
  kexSuite : KexSuite
  cipherSuite : CipherSuite
  keyExchange : Bytes
  deriving DecidableEq, Repr

structure ErrorMessage where
  errorCode : ErrorCode
  previousMessageType : MessageType
  errorString : String
  errorUuid : Nat
  deriving DecidableEq, Repr

/-- `pkey::Id`, as far as it is told apart. -/
inductive PKeyId where
  | ec
  | rsa
  | other
  deriving DecidableEq, Repr

/-- The `Nid` of a curve, as far as it is told apart. -/
inductive CurveName where
  | x9_62Prime256V1
  | secp384R1
  | other
  deriving DecidableEq, Repr

/-- Room the extra map takes when written, with the longest heads. -/
def extraWeight (extra : ExtraType) : Nat :=
  ((extra.getD []).map fun (_, value) => value.length + 18).sum

def EntryPayloadFields.weight (f : EntryPayloadFields) : Nat :=
  f.hashPreviousEntry.value.length + f.hashHeaderInfo.value.length + extraWeight f.extra +
    f.publicKey.data.length

structure Platform where
  profile : Profile
  /-- `openssl::pkey::PKey<Public>`. -/
  PKey : Type
  /-- `openssl::pkey::PKey<Private>`. -/
  PrivateKey : Type
  X509 : Type
  /-- `aws_nitro_enclaves_cose::CoseSign1`. -/
  CoseSign1 : Type
  /-- `serde_cbor::Value`. -/
  Value : Type
  /-- `serde_json::Value`. -/
  Json : Type
  /-- Only carried along, never looked into by what is modelled here. -/
  RendezvousInfo : Type
  /-- `Vec<TO2AddressEntry>`, carried along too. -/
  To2Addresses : Type
  hash : MessageDigest → Bytes → Option Bytes
  /-- `PKey::hmac` and a `Signer`: digest, secret, data. -/
  hmac : MessageDigest → Bytes → Bytes → Option Bytes
  /-- The HMAC of the TPM, with the type its key is made for: public part, private part, data. -/
  tpmHmac : Bytes → Bytes → Bytes → Option (HashType × Bytes)
  publicEq : PKey → PKey → Bool
  /-- The public half of a private key, which is all `public_eq` looks at. -/
  publicPart : PrivateKey → PKey
  privateKeyToDer : PrivateKey → Option Bytes
  publicKeyFromDer : Bytes → Option PKey
  publicKeyToDer : PKey → Option Bytes
  pkeyId : PKey → PKeyId
  /-- `ec_key()?.group().curve_name()`. -/
  pkeyCurve : PKey → Option (Option CurveName)
  pkeyBits : PKey → Nat
  x509FromDer : Bytes → Option X509
  x509ToDer : X509 → Option Bytes
  x509PublicKey : X509 → Option PKey
  x509Digest : X509 → MessageDigest → Option Bytes
  /-- `issuer.issued(subject) == X509VerifyResult::OK`. -/
  x509Issued : X509 → X509 → Bool
  x509Verify : X509 → PKey → Option Bool
  /-- An `X509Builder` filled as for a device: signer, its key, the common name, the key that
  is certified, the serial number and the time. -/
  x509Build : X509 → PrivateKey → String → PKey → Bytes → Nat → Option X509
  coseFromBytes : Bytes → Option CoseSign1
  /-- `CoseSign1::new` over a payload and an unprotected header. -/
  coseNew : Bytes → List (Int × Value) → PrivateKey → Option CoseSign1
  /-- `CoseSign1::new_with_protected`, the algorithm added to the protected header. -/
  coseNewWithProtected : Bytes → List (Int × Value) → List (Int × Value) → PrivateKey → Option CoseSign1
  /-- The `Serialize` instance of `CoseSign1`, untagged. -/
  coseIntoWriter : CoseSign1 → Option Bytes
  verifySignature : CoseSign1 → PKey → Option Bool
  getPayload : CoseSign1 → Option PKey → Option Bytes
  /-- `get_unprotected().get(key)`. -/
  getUnprotected : CoseSign1 → Int → Option Value
  /-- `get_protected_and_payload` with a key, and `get(key)` in its header. -/
  getProtected : CoseSign1 → PKey → Int → Option (Option Value)
  /-- `CoseEncrypt0::new` with AES-GCM, and its bytes: key, plaintext. -/
  coseEncrypt : Bytes → Bytes → Option Bytes
  /-- `CoseEncrypt0::from_bytes` and `decrypt`: key, ciphertext. -/
  coseDecrypt : Bytes → Bytes → Option Bytes
  /-- The private key of a fresh exchange, by its affine coordinates: suite, key. -/
  ecPublic : KexSuite → Bytes → Option (Bytes × Bytes)
  /-- The x coordinate of the product with the other side's point, `some none` when that
  is infinity or off the curve: suite, key, x, y. -/
  ecShared : KexSuite → Bytes → Bytes → Bytes → Option (Option Bytes)
  dhPublic : KexSuite → Bytes → Option Bytes
  dhShared : KexSuite → Bytes → Bytes → Option Bytes
  /-- `perform_kdf`: whether with the arguments that interoperate, the digest, label, info,
  key, and the length asked for. -/
  kdf : Bool → MessageDigest → Bytes → Bytes → Bytes → Nat → Option Bytes
  /-- `Session::id_from_cookie_value` of the session library. -/
  idFromCookieValue : String → Option String
  valueFromSlice : Bytes → Option Value
  valueToBytes : Value → Option Bytes
  valueToText : Value → Option String
  valueToList : Value → Option (List Value)
  valueToPublicKeyFields : Value → Option PublicKeyFields
  /-- A `TO2ProveDevicePayload`, which holds one byte string. -/
  valueToProveDevicePayload : Value → Option Bytes
  valueOfBytes : Bytes → Option Value
  valueOfPublicKeyFields : PublicKeyFields → Option Value
  jsonAsStr : Json → Option String
  jsonIntoWriter : Json → Option Bytes
  /-- `RendezvousInfo::new(Vec::new())`. -/
  emptyRendezvousInfo : RendezvousInfo
  bool : Codec Bool
  byteBuf : Codec Bytes
  text : Codec String
  protocolVersion : Codec ProtocolVersion
  hashCodec : Codec Hash
  optionHash : Codec (Option Hash)
  bstr16 : Codec Bytes
  rendezvousInfo : Codec RendezvousInfo
  publicKeyFields : Codec PublicKeyFields
  certificates : Codec (List Bytes)
  optionCertificates : Codec (Option (List Bytes))
  entryPayloadFields : Codec EntryPayloadFields
  /-- `HashMap<i64, Value>`, each key once. -/
  headerMap : Codec (List (Int × Value))
  u16 : Codec Nat
  u32 : Codec Nat
  sigInfo : Codec SigInfo
  helloDevice : Codec HelloDeviceFields
  /-- `GetOVNextEntry`, a tuple of one `u8`. -/
  getOVNextEntry : Codec Nat
  setupDevicePayload : Codec (SetupDeviceFields RendezvousInfo)
  deviceServiceInfoReady : Codec (Option HMac × Option Nat)
  ownerServiceInfoReady : Codec (Option Nat)
  deviceServiceInfo : Codec (Bool × List (String × Bytes))
  ownerServiceInfo : Codec (Bool × Bool × List (String × Bytes))
  /-- A tuple of one nonce: `Done`, `Done2`, `HelloAck`. -/
  oneNonce : Codec Bytes
  /-- `to0::Hello`, the empty sequence. -/
  hello : Codec Unit
  /-- A tuple of one `u32`. -/
  acceptOwner : Codec Nat
  to1DataPayload : Codec (To2Addresses × Hash)
  helloRV : Codec (Bytes × SigInfo)
  helloRVAck : Codec (Bytes × SigInfo)
  errorMessage : Codec ErrorMessage
  connect : Codec ConnectFields
  /-- `AcceptPayload`, a tuple of one sequence of numbers. -/
  acceptPayload : Codec Bytes
  requestKeyParameters : Codec (Option String)
  provideKeyParameters : Codec (PublicKeyType × Option (List KeyStorageType))
  provideKey : Codec (Bytes × KeyStorageType)
  diunDone : Codec MfgStringType
  /-- `AppStart`, a tuple of one byte string. -/
  appStart : Codec Bytes
  /-- `SetHMAC`, a tuple of one hash. -/
  setHmac : Codec HMac
  /-- `di::Done`, the empty sequence. -/
  diDone : Codec Unit

/-- What the COSE library documents about `get_payload`: without a key the stored
payload, with a key the same payload after the signature verified. -/
structure CoseLaws (P : Platform) : Prop where
  getPayload_key : ∀ {c : P.CoseSign1} {key : P.PKey} {payload : Bytes},
    P.getPayload c (some key) = some payload ↔
      P.verifySignature c key = some true ∧ P.getPayload c none = some payload

/-- Keys that the two CBOR libraries write as plain integers. -/
def ExtraKeysFit (extra : ExtraType) : Prop := ∀ m ∈ extra, ∀ e ∈ m, e.1 < 2 ^ 64

/-- What making and reading vouchers relies on. A decoded map may iterate in
another order than the one that was written. -/
structure VoucherLaws (P : Platform) : Prop where
  hash_total : ∀ md data, ∃ d, P.hash md data = some d ∧ d.length ≤ 64
  byteBuf : P.byteBuf.Faithful
  bstr16 : P.bstr16.Faithful
  text : P.text.Faithful
  entryPayload : ∀ f : EntryPayloadFields, ExtraKeysFit f.extra → f.weight < 2 ^ 61 →
    ∃ data extra, P.entryPayloadFields.intoWriter f = some data ∧ data.length ≤ 2 ^ 62 ∧
      P.entryPayloadFields.fromSlice data = some { f with extra } ∧ Option.Rel List.Perm extra f.extra

/-- The CBOR byte string that holds `value`. -/
def ByteString (value data : Bytes) : Prop :=
  ∃ head, CborGrammar.Head .byteString value.length head ∧ data = head ++ value

/-- What the element types of a voucher and its header rely on: each codec writes plain
items, certificates and keys are read back from their DER form. -/
structure ElementLaws (P : Platform) : Prop where
  protocolVersion : P.protocolVersion.Plain
  byteBuf : P.byteBuf.Plain
  bstr16 : P.bstr16.Plain
  text : P.text.Plain
  rendezvousInfo : P.rendezvousInfo.Plain
  publicKeyFields : P.publicKeyFields.Plain
  hashCodec : P.hashCodec.Plain
  optionHash : P.optionHash.PlainOption
  certificates : P.certificates.Plain
  optionCertificates : P.optionCertificates.PlainOption
  x509_der : ∀ cert der, P.x509ToDer cert = some der → P.x509FromDer der = some cert
  publicKey_der : ∀ key der, P.publicKeyToDer key = some der → P.publicKeyFromDer der = some key

/-- A digest has the length of its type. -/
structure DigestLaws (P : Platform) : Prop where
  hash_length : ∀ {t : HashType} {md : MessageDigest} {data d : Bytes}, t.messageDigest = some md →
    P.hash md data = some d → d.length = t.digestSize

/-- What making a device certificate relies on: it carries the key it was made for. -/
structure CertificateLaws (P : Platform) : Prop where
  build : ∀ {signer : P.X509} {signerKey : P.PrivateKey} {name : String} {key : P.PKey} {serial : Bytes}
    {now : Nat} {cert : P.X509}, P.x509Build signer signerKey name key serial now = some cert →
      P.x509PublicKey cert = some key

/-- How the certificates of a voucher are written: an array of byte strings. -/
structure ChainLaws (P : Platform) : Prop where
  optionCertificates : ∀ {ders : List Bytes} {data : Bytes},
    P.optionCertificates.intoWriter (some ders) = some data →
      ∃ (head : Bytes) (items : List Bytes), CborGrammar.Head .array ders.length head ∧
        List.Forall₂ ByteString ders items ∧ data = head ++ items.flatten

/-- What sending a voucher entry by entry relies on: a request of a few bytes that is
read back, a number that is one item, and a hash of the request. -/
structure TransferLaws (P : Platform) : Prop where
  sha256 : ∀ data, ∃ d, P.hash .sha256 data = some d
  getOVNextEntry : ∀ n < 2 ^ 8, ∃ data, P.getOVNextEntry.intoWriter n = some data ∧
    data.length ≤ 16 ∧ P.getOVNextEntry.fromSlice data = some n
  u16 : ∀ n < 2 ^ 16, ∃ data, P.u16.intoWriter n = some data ∧
    CborGrammar.WellFormed .bounded data ∧ P.u16.fromSlice data = some n

/-- What the answer to a HelloDevice relies on: its signature info is one item, and the token
carries the payload it was made of; and that an HMAC arrives in SetHMAC. -/
structure GreetingLaws (P : Platform) : Prop where
  sigInfo : P.sigInfo.Plain
  coseNew : ∀ {payload : Bytes} {unprotectedValues : List (Int × P.Value)} {key : P.PrivateKey}
    {c : P.CoseSign1}, P.coseNew payload unprotectedValues key = some c → P.getPayload c none = some payload
  setHmac : P.setHmac.Faithful

/-- An encrypted message is an array of three items under a tag, which is not read as one of
the two messages of DI that have one item each. -/
structure EnvelopeLaws (P : Platform) : Prop where
  appStart : ∀ {key plain data : Bytes}, P.coseEncrypt key plain = some data → P.appStart.fromSlice data = none
  setHmac : ∀ {key plain data : Bytes}, P.coseEncrypt key plain = some data → P.setHmac.fromSlice data = none

/-- What is encrypted under a key is decrypted under it. -/
structure CipherLaws (P : Platform) : Prop where
  decrypts : ∀ {key plain data : Bytes}, P.coseEncrypt key plain = some data → P.coseDecrypt key data = some plain

/-- Signatures made with `privateKey` are correct under `key`: signing succeeds, the
token is a four-element array that is read back under its tag, it verifies, and it
carries the payload. -/
structure SignsFor (P : Platform) (privateKey : P.PrivateKey) (key : P.PKey) : Prop where
  matching : P.publicEq key (P.publicPart privateKey) = true
  signs : ∀ payload : Bytes, payload.length ≤ 2 ^ 62 → ∃ (c : P.CoseSign1) (items : List Bytes),
    P.coseNew payload [] privateKey = some c ∧ items.length = 4 ∧
    (∀ x ∈ items, CborGrammar.WellFormed .bounded x) ∧
    P.coseIntoWriter c = some (0x84 :: items.flatten) ∧
    P.coseFromBytes (0xd2 :: 0x84 :: items.flatten) = some c ∧
    P.verifySignature c key = some true ∧ P.getPayload c none = some payload

end FidoOnboard
