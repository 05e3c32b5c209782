import FidoOnboard.DataFormats.DiTypes
import FidoOnboard.DataFormats.OwnershipVoucher
import FidoOnboard.HttpWrapper.Client

/-!
# `manufacturing-client/src/main.rs`, device initialization

The device takes a header from the manufacturer, keeps what it needs of it in its
credential, and answers with an HMAC under a secret that stays with the device.
-/
namespace FidoOnboard.ManufacturingClient

/-- `.context(..)`: a failure is known by the text it was given last. -/
def context {ε α : Type} (text : String) (x : Outcome ε α) : Outcome String α := x.mapErr fun _ => text

@[simp] theorem context_eq_ok {ε α : Type} {text : String} {x : Outcome ε α} {a : α} :
    context text x = .ok a ↔ x = .ok a :=
  Outcome.mapErr_eq_ok

/-- The connection to the TPM is left out: all of its state is in the blobs. -/
inductive KeyReference (P : Platform) where
  | fileSystem (signKey : P.PrivateKey) (hmacKey : Bytes)
  | semiTpm (signingPublic signingPrivate hmacPublic hmacPrivate : Bytes)

namespace KeyReference

variable {P : Platform}

def performHmac (data : Bytes) : KeyReference P → Outcome String HMac
  | .fileSystem _ hmacKey => do
    let hmac ← context "Error finalizing hmac computation" (.ofOption () (P.hmac .sha384 hmacKey data))
    context "Error converting result to hmac" (Hash.fromDigest .hmacSha384 hmac)
  | .semiTpm _ _ hmacPublic hmacPrivate => do
    let (hashType, hmac) ← context "Error computing hmac"
      (.ofOption () (P.tpmHmac hmacPublic hmacPrivate data))
    context "Error converting result to hmac" (Hash.fromDigest hashType hmac)

/-- What is written to the credential file, as far as onboarding reads it. A credential that cannot be
serialized fails like one that cannot be written. -/
def saveToCredential (writeFails : Bool) (guid : Guid) (manufacturerPublicKeyHash : Hash) :
    KeyReference P → Outcome String DeviceCredential
  | .fileSystem signKey hmacKey => do
    let privateKey ← context "Error serializing private sign key"
      (.ofOption () (P.privateKeyToDer signKey))
    Outcome.check (writeFails = false) "Error writing device credential"
    .ok ⟨guid, manufacturerPublicKeyHash, .plain hmacKey privateKey⟩
  | .semiTpm signingPublic signingPrivate hmacPublic hmacPrivate => do
    Outcome.check (writeFails = false) "Error writing device credential"
    .ok ⟨guid, manufacturerPublicKeyHash, .tpm signingPublic signingPrivate hmacPublic hmacPrivate⟩

/-- The storage that is saved computes the HMAC that was computed before. -/
theorem saveToCredential_hmac {k : KeyReference P} {data : Bytes} {hmac : HMac} {writeFails : Bool}
    {guid : Guid} {pubkeyHash : Hash} {credential : DeviceCredential}
    (hhmac : k.performHmac data = .ok hmac)
    (hsave : k.saveToCredential writeFails guid pubkeyHash = .ok credential) :
    credential.guid = guid ∧ credential.keyStorage.performHmac P data hmac.hashType = .ok hmac := by
  cases k with
  | fileSystem signKey hmacKey =>
      obtain ⟨privateKey, _, h₁⟩ := Outcome.bind_eq_ok.mp hsave
      obtain ⟨_, _, h₂⟩ := Outcome.bind_eq_ok.mp h₁
      obtain rfl := Outcome.ok.inj h₂
      obtain ⟨mac, hmac', hdigest⟩ := Outcome.bind_eq_ok.mp hhmac
      rw [context_eq_ok, Outcome.ofOption_eq_ok] at hmac'
      rw [context_eq_ok] at hdigest
      have htype : hmac.hashType = .hmacSha384 := Hash.fromDigest_hashType hdigest
      refine ⟨rfl, ?_⟩
      rw [htype]
      simp only [KeyStorage.performHmac, HashType.getMd, hmac', Outcome.ofOption, Outcome.ok_bind, hdigest]
  | semiTpm signingPublic signingPrivate hmacPublic hmacPrivate =>
      obtain ⟨_, _, h₁⟩ := Outcome.bind_eq_ok.mp hsave
      obtain rfl := Outcome.ok.inj h₁
      obtain ⟨⟨hashType, mac⟩, hmac', hdigest⟩ := Outcome.bind_eq_ok.mp hhmac
      rw [context_eq_ok, Outcome.ofOption_eq_ok] at hmac'
      rw [context_eq_ok] at hdigest
      refine ⟨rfl, ?_⟩
      simp only [KeyStorage.performHmac, hmac', Outcome.ofOption, Outcome.ok_bind, hdigest]

end KeyReference

variable {P : Platform} {server : Peer}

/-- `perform_di` between its two requests: the bytes under the HMAC, the HMAC, and the
credential that was saved. -/
def takeCredentials (keyReference : KeyReference P) (writeFails : Bool)
    (ovHeader : OwnershipVoucherHeader P) : Outcome String (Bytes × HMac × DeviceCredential) := do
  let ovHeaderBuf ← context "Error serializing Ownership Voucher header" ovHeader.serializeData
  let ovHeaderHmac ← context "Error computing HMac over Ownership Voucher Header"
    (keyReference.performHmac ovHeaderBuf)
  let manufacturerPublicKeyHash ← context "Error getting manufacturer public key hash"
    (ovHeader.manufacturerPublicKeyHash .sha384)
  let credential ← context "Error saving key reference to credential"
    (keyReference.saveToCredential writeFails ovHeader.cachedGuid manufacturerPublicKeyHash)
  .ok (ovHeaderBuf, ovHeaderHmac, credential)

/-- The credential is saved before the manufacturer has the HMAC. The library's own text behind a serialization
error is left out. -/
def performDi (P : Platform) (client : ServiceClient server) (keyReference : KeyReference P)
    (writeFails : Bool) (mfgInfo : String) :
    Outcome String (DeviceCredential × ServiceClient server) := do
  let appStart ← context "Serialization error (ciborium)" (Di.AppStart.new P mfgInfo)
  let (ovHeader, client) ← context "Error sending AppStart"
    (client.sendRequest P Di.appStart Di.setCredentials (appStart.serializeData P)
      (OwnershipVoucherHeader.deserializeData P) none)
  let (_, ovHeaderHmac, credential) ← takeCredentials keyReference writeFails ovHeader
  let (_, client) ← context "Error sending SetHmac"
    (client.sendRequest P Di.setHmac Di.done (P.setHmac.serializeData ovHeaderHmac)
      P.diDone.deserializeData none)
  .ok (credential, client)

theorem takeCredentials_ok {keyReference : KeyReference P} {writeFails : Bool}
    {ovHeader : OwnershipVoucherHeader P} {ovHeaderBuf : Bytes} {hmac : HMac}
    {credential : DeviceCredential}
    (h : takeCredentials keyReference writeFails ovHeader = .ok (ovHeaderBuf, hmac, credential)) :
    ovHeader.serializeData = .ok ovHeaderBuf ∧ credential.guid = ovHeader.cachedGuid ∧
      credential.keyStorage.performHmac P ovHeaderBuf hmac.hashType = .ok hmac := by
  obtain ⟨buf, hbuf, h₁⟩ := Outcome.bind_eq_ok.mp h
  obtain ⟨mac, hmac', h₂⟩ := Outcome.bind_eq_ok.mp h₁
  obtain ⟨pubkeyHash, _, h₃⟩ := Outcome.bind_eq_ok.mp h₂
  obtain ⟨saved, hsaved, h₄⟩ := Outcome.bind_eq_ok.mp h₃
  rw [context_eq_ok] at hbuf hmac' hsaved
  cases h₄
  exact ⟨hbuf, KeyReference.saveToCredential_hmac hmac' hsaved⟩

end FidoOnboard.ManufacturingClient
