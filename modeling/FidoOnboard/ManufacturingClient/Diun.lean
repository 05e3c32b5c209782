import FidoOnboard.DataFormats.Eat
import FidoOnboard.ManufacturingClient.Di

/-!
# `manufacturing-client/src/main.rs`, DIUN

The device agrees on keys with whoever shows a certificate it trusts, and hands over
the public part of a key it has just made.
-/
namespace FidoOnboard.ManufacturingClient

inductive DiunPublicKeyVerificationMode (P : Platform) where
  | hash (digest : Hash)
  | certs (bag : X5Bag P)
  | insecure

variable {P : Platform} {server : Peer}

/-- The leaf of a chain whose root is trusted. -/
def DiunPublicKeyVerificationMode.verify (chain : X5Chain P) :
    DiunPublicKeyVerificationMode P → Outcome Error P.X509
  | .hash digest => chain.verifyFromDigest digest
  | .certs bag => chain.verifyFromX5bag bag
  | .insecure => chain.insecureVerifyWithoutRootVerification

/-- `serde_cbor::value::from_value` at a public key. -/
def publicKeyFromValue (P : Platform) (value : P.Value) : Outcome Error (PublicKey P) := do
  let fields ← .ofOption .serdeCborError (P.valueToPublicKeyFields value)
  PublicKey.ofFields P fields

/-- The last step before the keys are in use. -/
def deriveNewKeys (P : Platform) (client : ServiceClient server) (keyExchange : KeyExchange)
    (ciphersuite : CipherSuite) (other : Bytes) (nonInteroperableKdfRequired : Bool) :
    Outcome String EncryptionKeys := do
  let newKeys ← context "Error performing key derivation"
    (keyExchange.deriveKey P client.interoperableKdfAvailable .device ciphersuite other
      nonInteroperableKdfRequired)
  .ok (.fromDerived ciphersuite newKeys)

/-- `perform_diun` between its first two requests. -/
def takeAccept (client : ServiceClient server) (pubKeyVerification : DiunPublicKeyVerificationMode P)
    (nonceDiun1 : Nonce) (keyExchange : KeyExchange) (ciphersuite : CipherSuite) (accept : COSESign P) :
    Outcome String EncryptionKeys := do
  let diunPubchain ← context "Error getting diun_pubkey"
    (accept.getUnprotectedValue (publicKeyFromValue P) .cuphOwnerPubKey)
  let diunPubchain ← .ofOption "No DIUN public key provided" diunPubchain
  let diunPubchain ← .ofOption "Error getting diun_pubkey: no chain" diunPubchain.certs
  let nonInteroperableKdfRequired ← .ofOption "Error getting non-interoperable KDF requirement"
    client.nonInteroperableKdfRequired
  let diunPubkey ← context "Error getting DIUN leaf key" (pubKeyVerification.verify diunPubchain)
  let diunPubkey ← .ofOption "Error getting DIUN public key" (P.x509PublicKey diunPubkey)
  let nonceFromServer ← context "Error getting nonce from reply"
    (accept.getProtectedValue (Nonce.fromValue P) .cuphNonce diunPubkey)
  let nonceFromServer ← .ofOption "No nonce provided by server" nonceFromServer
  let nonceMatches ← (nonceDiun1.eq nonceFromServer).unwrap
  Outcome.check (nonceMatches = true) "Nonce from server did not match challenge"
  let acceptPayload ← context "Error parsing Accept payload"
    (accept.getPayload P.acceptPayload.deserializeData diunPubkey)
  deriveNewKeys P client keyExchange ciphersuite acceptPayload nonInteroperableKdfRequired

/-- What DIUN draws: a nonce, its half of the exchange, and a new key of a type and for the
storage types it is allowed, as a reference with its public part in DER form and its storage. -/
structure DiunDraws (P : Platform) where
  nonce : Option Random16
  kex : KexEntropy
  newKey : PublicKeyType → Option (List KeyStorageType) →
    Outcome String (KeyReference P × Outcome String Bytes × KeyStorageType)

def performDiun (draws : DiunDraws P) (client : ServiceClient server)
    (pubKeyVerification : DiunPublicKeyVerificationMode P) :
    Outcome String ((KeyReference P × MfgStringType) × ServiceClient server) := do
  let nonceDiun1 ← context "Error generating diun_nonce_1" (Nonce.new draws.nonce)
  let keyExchange ← context "Error initializing key exchange" (KeyExchange.new draws.kex .ecdh384)
  let keyExchangePublic ← context "Error serializing public key exchange bit" (keyExchange.getPublic P)
  let (accept, client) ← context "Error sending Connect"
    (client.sendRequest P Diun.connect Diun.accept
      ((Diun.Connect.mk nonceDiun1 .ecdh384 .a256Gcm keyExchangePublic).serializeData P)
      (COSESign.deserializeData P) none)
  let newKeys ← takeAccept client pubKeyVerification nonceDiun1 keyExchange .a256Gcm accept
  let (keyParameters, client) ← context "Error requesting key parameters"
    (client.sendRequest P Diun.requestKeyParameters Diun.provideKeyParameters
      (P.requestKeyParameters.serializeData none) (Diun.ProvideKeyParameters.deserializeData P)
      (some newKeys))
  let (keyRef, publicKey, storage) ← context "Error getting new key"
    (draws.newKey keyParameters.keyType keyParameters.keyStorageTypesAllowed)
  let publicKey ← context "Error getting public key from key reference" publicKey
  let (done, client) ← context "Error sending ProvideKey"
    (client.sendRequest P Diun.provideKey Diun.done
      ((Diun.ProvideKey.mk publicKey storage).serializeData P) P.diunDone.deserializeData none)
  .ok ((keyRef, done), client)

/-- The keys come from the payload of the token and the answer's header. -/
theorem takeAccept_ok {client : ServiceClient server}
    {pubKeyVerification : DiunPublicKeyVerificationMode P} {nonceDiun1 : Nonce} {keyExchange : KeyExchange}
    {ciphersuite : CipherSuite} {accept : COSESign P} {keys : EncryptionKeys}
    (h : takeAccept client pubKeyVerification nonceDiun1 keyExchange ciphersuite accept = .ok keys) :
    ∃ required diunPubkey acceptPayload, client.nonInteroperableKdfRequired = some required ∧
      accept.getPayload P.acceptPayload.deserializeData diunPubkey = .ok acceptPayload ∧
      deriveNewKeys P client keyExchange ciphersuite acceptPayload required = .ok keys := by
  obtain ⟨_, _, h₁⟩ := Outcome.bind_eq_ok.mp h
  obtain ⟨_, _, h₂⟩ := Outcome.bind_eq_ok.mp h₁
  obtain ⟨_, _, h₃⟩ := Outcome.bind_eq_ok.mp h₂
  obtain ⟨required, hrequired, h₄⟩ := Outcome.bind_eq_ok.mp h₃
  obtain ⟨_, _, h₅⟩ := Outcome.bind_eq_ok.mp h₄
  obtain ⟨diunPubkey, _, h₆⟩ := Outcome.bind_eq_ok.mp h₅
  obtain ⟨_, _, h₇⟩ := Outcome.bind_eq_ok.mp h₆
  obtain ⟨_, _, h₈⟩ := Outcome.bind_eq_ok.mp h₇
  obtain ⟨_, _, h₉⟩ := Outcome.bind_eq_ok.mp h₈
  obtain ⟨_, _, h₁₀⟩ := Outcome.bind_eq_ok.mp h₉
  obtain ⟨acceptPayload, hpayload, hderive⟩ := Outcome.bind_eq_ok.mp h₁₀
  exact ⟨required, diunPubkey, acceptPayload, Outcome.ofOption_eq_ok.mp hrequired,
    context_eq_ok.mp hpayload, hderive⟩

end FidoOnboard.ManufacturingClient
