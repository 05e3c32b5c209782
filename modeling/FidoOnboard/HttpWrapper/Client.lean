import FidoOnboard.DataFormats.KeyExchange
import FidoOnboard.DataFormats.To2Types
import FidoOnboard.Messages

/-!
# `http-wrapper/src/client.rs`

A peer is any state machine that answers requests. Nothing is assumed of it: it
may drop a request, answer with any status, headers and bytes, and keep any state.
-/
namespace FidoOnboard

structure EncryptionKeys where
  cipherSuite : Option CipherSuite
  keys : Option DerivedKeys
  deriving DecidableEq, Repr

namespace EncryptionKeys

def unencrypted : EncryptionKeys := ⟨none, none⟩

def isNone (k : EncryptionKeys) : Bool := k.cipherSuite.isNone || k.keys.isNone

def isSome (k : EncryptionKeys) : Bool := !k.isNone

def fromDerived (cipherSuite : CipherSuite) (derivedKeys : DerivedKeys) : EncryptionKeys :=
  ⟨some cipherSuite, some derivedKeys⟩

/-- The key of a combined cipher; any other key under a cipher suite stops the program. -/
def sevk (k : EncryptionKeys) : Outcome Error Bytes :=
  match k.keys with
  | some (.combined sevk) => .ok sevk
  | _ => .panic

def encrypt (P : Platform) (k : EncryptionKeys) (plaintext : Bytes) : Outcome Error Bytes :=
  if k.cipherSuite.isNone then .ok plaintext
  else do
    let key ← k.sevk
    .ofOption .cose (P.coseEncrypt key plaintext)

def decrypt (P : Platform) (k : EncryptionKeys) (ciphertext : Bytes) : Outcome Error Bytes :=
  if k.cipherSuite.isNone then .ok ciphertext
  else do
    let key ← k.sevk
    .ofOption .cose (P.coseDecrypt key ciphertext)

@[simp] theorem isSome_unencrypted : unencrypted.isSome = false := rfl

@[simp] theorem encrypt_unencrypted (P : Platform) (plaintext : Bytes) :
    unencrypted.encrypt P plaintext = .ok plaintext := rfl

@[simp] theorem decrypt_unencrypted (P : Platform) (ciphertext : Bytes) :
    unencrypted.decrypt P ciphertext = .ok ciphertext := rfl

/-- Without keys nothing is decrypted: the bytes stay, or the program stops. -/
theorem decrypt_of_not_isSome {P : Platform} {k : EncryptionKeys} {ciphertext data : Bytes}
    (hk : k.isSome = false) (h : k.decrypt P ciphertext = .ok data) : data = ciphertext := by
  unfold decrypt at h
  split at h
  · exact (Outcome.ok.inj h).symm
  · next hsuite =>
      have hkeys : k.keys = none := by simpa [isSome, isNone, hsuite] using hk
      simp [sevk, hkeys] at h

theorem encrypt_of_not_isSome {P : Platform} {k : EncryptionKeys} {plaintext data : Bytes}
    (hk : k.isSome = false) (h : k.encrypt P plaintext = .ok data) : data = plaintext := by
  unfold encrypt at h
  split at h
  · exact (Outcome.ok.inj h).symm
  · next hsuite =>
      have hkeys : k.keys = none := by simpa [isSome, isNone, hsuite] using hk
      simp [sevk, hkeys] at h

/-- With keys everything is encrypted. -/
theorem encrypt_of_isSome {P : Platform} {k : EncryptionKeys} {plaintext data : Bytes}
    (hk : k.isSome = true) (h : k.encrypt P plaintext = .ok data) :
    ∃ key, P.coseEncrypt key plaintext = some data := by
  have hsuite : k.cipherSuite.isNone = false := by
    cases hsuite : k.cipherSuite with
    | none => simp [isSome, isNone, hsuite] at hk
    | some suite => rfl
  simp only [encrypt, hsuite, Bool.false_eq_true, if_false] at h
  obtain ⟨key, _, h₁⟩ := Outcome.bind_eq_ok.mp h
  exact ⟨key, Outcome.ofOption_eq_ok.mp h₁⟩

theorem decrypt_of_isSome {P : Platform} {k : EncryptionKeys} {ciphertext data : Bytes}
    (hk : k.isSome = true) (h : k.decrypt P ciphertext = .ok data) :
    ∃ key, P.coseDecrypt key ciphertext = some data := by
  have hsuite : k.cipherSuite.isNone = false := by
    cases hsuite : k.cipherSuite with
    | none => simp [isSome, isNone, hsuite] at hk
    | some suite => rfl
  simp only [decrypt, hsuite, Bool.false_eq_true, if_false] at h
  obtain ⟨key, _, h₁⟩ := Outcome.bind_eq_ok.mp h
  exact ⟨key, Outcome.ofOption_eq_ok.mp h₁⟩

theorem decrypt_encrypt {P : Platform} (laws : CipherLaws P) {k : EncryptionKeys} {plaintext data : Bytes}
    (h : k.encrypt P plaintext = .ok data) : k.decrypt P data = .ok plaintext := by
  unfold encrypt at h
  unfold decrypt
  split at h
  · next hsuite => rw [if_pos hsuite, Outcome.ok.inj h]
  · next hsuite =>
      obtain ⟨key, hkey, hdata⟩ := Outcome.bind_eq_ok.mp h
      rw [if_neg hsuite, hkey]
      simp only [Outcome.ok_bind, laws.decrypts (Outcome.ofOption_eq_ok.mp hdata), Outcome.ofOption]

end EncryptionKeys

/-- Whether a requirement is met by a connection that is or is not encrypted. -/
def requirementMet {ε : Type} (requirement : Option EncryptionRequirement) (isEncrypted : Bool)
    (unsatisfied : EncryptionRequirement → ε) : Outcome ε Unit :=
  match requirement with
  | none => .ok ()
  | some .mustBeEncrypted => .check (isEncrypted = true) (unsatisfied .mustBeEncrypted)
  | some .mustNotBeEncrypted => .check (isEncrypted = false) (unsatisfied .mustNotBeEncrypted)

structure HttpRequest where
  messageType : MessageType
  authorization : Option String
  nonInteroperableKdf : Bool
  body : Bytes
  deriving DecidableEq, Repr

/-- The `message-type` header, as far as it parses. -/
inductive TypeHeader where
  | absent
  | unreadable
  | present (messageType : MessageType)
  deriving DecidableEq, Repr

/-- An `authorization` header that is not a string is `some none`. -/
structure HttpResponse where
  success : Bool
  messageType : TypeHeader
  authorization : Option (Option String)
  nonInteroperableKdf : Bool
  body : Option Bytes
  deriving DecidableEq, Repr

/-- The other side of the connection. -/
structure Peer where
  State : Type
  respond : State → HttpRequest → State × Option HttpResponse

inductive RequestError where
  | crypto
  | dataFormat (error : Error)
  | request
  | missingMessageType
  | invalidMessageType
  | invalidMessage (received expected : MessageType)
  | error (message : ErrorMessage)
  | requestEncryptionNotSatisfied (requirement : EncryptionRequirement)
  | responseEncryptionNotSatisfied (requirement : EncryptionRequirement)
  | invalidSequenceRequest
  | invalidSequenceResponse
  deriving DecidableEq, Repr

structure ServiceClient (server : Peer) where
  authorizationToken : Option String
  encryptionKeys : EncryptionKeys
  lastMessageType : Option MessageType
  nonInteroperableKdfRequired : Option Bool
  /-- Whether this build of openssl has the standard key derivation. -/
  interoperableKdfAvailable : Bool
  peer : server.State

namespace ServiceClient

variable {server : Peer}

/-- A response without a type is taken as an error message unless it claims success. -/
def responseType (resp : HttpResponse) : Outcome RequestError MessageType :=
  match resp.messageType with
  | .present t => .ok t
  | .unreadable => .err .invalidMessageType
  | .absent => if resp.success then .err .missingMessageType else .ok .error

/-- `send_request`: request `om` with its body, response `sm` with its decoder. The
client is not looked at again after an error. -/
def sendRequest {α : Type} (P : Platform) (om sm : Message) (body : Outcome Error Bytes)
    (decode : Bytes → Outcome Error α) (newKeys : Option EncryptionKeys) (c : ServiceClient server) :
    Outcome RequestError (α × ServiceClient server) := do
  Outcome.check (om.isValidPreviousMessage c.lastMessageType = true) .invalidSequenceRequest
  Outcome.check (sm.isValidPreviousMessage (some om.messageType) = true) .invalidSequenceResponse
  requirementMet om.encryptionRequirement c.encryptionKeys.isSome .requestEncryptionNotSatisfied
  requirementMet sm.encryptionRequirement (c.encryptionKeys.isSome || newKeys.isSome)
    .responseEncryptionNotSatisfied
  let toSend ← body.mapErr .dataFormat
  let toSend ← (c.encryptionKeys.encrypt P toSend).mapErr fun _ => .crypto
  let keys := newKeys.getD c.encryptionKeys
  let (peer, resp) := server.respond c.peer
    ⟨om.messageType, c.authorizationToken, !c.interoperableKdfAvailable, toSend⟩
  let resp ← .ofOption .request resp
  let msgtype ← responseType resp
  let token ← match resp.authorization with
    | none => .ok c.authorizationToken
    | some (some token) => .ok (some token)
    | some none => .panic
  Outcome.check (msgtype = if resp.success then sm.messageType else .error)
    (.invalidMessage msgtype (if resp.success then sm.messageType else .error))
  let data ← .ofOption .request resp.body
  if resp.success then do
    let data ← (keys.decrypt P data).mapErr fun _ => .crypto
    let value ← (decode data).mapErr .dataFormat
    .ok (value, { c with
      authorizationToken := token, encryptionKeys := keys, lastMessageType := some sm.messageType,
      nonInteroperableKdfRequired := some (c.nonInteroperableKdfRequired.getD resp.nonInteroperableKdf),
      peer })
  else do
    let message ← (P.errorMessage.deserializeData data).mapErr .dataFormat
    .err (.error message)

/-- What has to hold before a request in the clear is sent. -/
structure Plain (c : ServiceClient server) (om sm : Message) : Prop where
  sequence : om.isValidPreviousMessage c.lastMessageType = true
  reply : sm.isValidPreviousMessage (some om.messageType) = true
  keys : c.encryptionKeys = .unencrypted
  requirement : om.encryptionRequirement = some .mustNotBeEncrypted
  replyRequirement : sm.encryptionRequirement = some .mustNotBeEncrypted

section Plain

variable {P : Platform} {c : ServiceClient server} {om sm : Message} {α : Type} {body : Outcome Error Bytes}
  {decode : Bytes → Outcome Error α} {data : Bytes} {peer : server.State}

theorem sendRequest_unanswered (h : c.Plain om sm) (hbody : body = .ok data)
    (hrespond : server.respond c.peer
      ⟨om.messageType, c.authorizationToken, !c.interoperableKdfAvailable, data⟩ = (peer, none)) :
    c.sendRequest P om sm body decode none = .err .request := by
  simp only [sendRequest, h.sequence, h.reply, h.keys, h.requirement, h.replyRequirement, hbody, hrespond,
    Outcome.check, if_true, Outcome.ok_bind, requirementMet, EncryptionKeys.isSome_unencrypted,
    Option.isSome_none, Bool.or_false, Outcome.mapErr_ok, EncryptionKeys.encrypt_unencrypted,
    Outcome.ofOption, Outcome.err_bind]

/-- A reply of the right type, without a new token. -/
theorem sendRequest_answered (h : c.Plain om sm) (hbody : body = .ok data) {kdf : Bool} {reply : Bytes}
    (hrespond : server.respond c.peer
      ⟨om.messageType, c.authorizationToken, !c.interoperableKdfAvailable, data⟩ =
        (peer, some ⟨true, .present sm.messageType, none, kdf, some reply⟩)) {value : α}
    (hdecode : decode reply = .ok value) :
    c.sendRequest P om sm body decode none = .ok (value, { c with
      lastMessageType := some sm.messageType
      nonInteroperableKdfRequired := some (c.nonInteroperableKdfRequired.getD kdf)
      peer }) := by
  simp only [sendRequest, h.sequence, h.reply, h.keys, h.requirement, h.replyRequirement, hbody, hrespond,
    Outcome.check, if_true, Outcome.ok_bind, requirementMet, EncryptionKeys.isSome_unencrypted,
    Option.isSome_none, Bool.or_false, Outcome.mapErr_ok, EncryptionKeys.encrypt_unencrypted,
    Outcome.ofOption, responseType, Option.getD_none, EncryptionKeys.decrypt_unencrypted, hdecode]

end Plain

end ServiceClient
end FidoOnboard
