import FidoOnboard.HttpWrapper.Client
import Mathlib.Logic.Function.Basic

/-!
# `http-wrapper/src/server.rs`

A request goes through three phases: the session is loaded and the body parsed,
the handler runs on a copy of the session, and the copy is written back. What
the server draws at random and which store operations fail are arguments.
-/
namespace FidoOnboard.Server

/-- A session with the handlers' own entries as `data`; no entry is set in a new one. -/
structure Session (δ : Type) where
  id : String
  lastMessageType : Option MessageType
  encryptionKeys : Option EncryptionKeys
  data : δ
  deriving DecidableEq, Repr

abbrev SessionStore (δ : Type) := String → Option (Session δ)

/-- `cookieValue` is set on a session made for this request and is not stored. -/
structure RequestInformation (δ : Type) where
  session : Session δ
  cookieValue : Option String
  reqHash : Hash
  nonInteroperableKdf : Bool
  deriving DecidableEq, Repr

inductive Rejection where
  | error (errorCode : ErrorCode) (previousMessageType : MessageType) (errorString : String)
  | parseError
  | notFound
  | payloadTooLarge
  deriving DecidableEq, Repr

/-- `Error::from_error::<M, _>`. -/
def Rejection.fromError (message : Message) : Rejection :=
  .error .internalServerError message.messageType "Internal server error"

/-- `.map_err(Error::from_error::<M, _>)`. -/
def orInternal {ε α : Type} (message : Message) (x : Outcome ε α) : Outcome Rejection α :=
  x.mapErr fun _ => .fromError message

@[simp] theorem orInternal_eq_ok {ε α : Type} {message : Message} {x : Outcome ε α} {a : α} :
    orInternal message x = .ok a ↔ x = .ok a :=
  Outcome.mapErr_eq_ok

/-- What the wrapper draws for a request, and which operations of the session store fail. -/
structure Surroundings where
  cookie : String
  errorUuid : Nat
  loadFails : Bool
  storeDataFails : Bool
  storeMetadataFails : Bool
  deriving DecidableEq, Repr

/-- One route: a message and its reply, and what is done in between. The handler may
change the stores behind `σ` even when it fails. -/
structure Handler (σ δ : Type) where
  im : Message
  om : Message
  Body : Type
  Reply : Type
  decode : Bytes → Outcome Error Body
  encode : Reply → Outcome Error Bytes
  run : σ → RequestInformation δ → Body → σ × Outcome Rejection (Reply × RequestInformation δ)

/-- For how many seconds a session is kept, where that was written. -/
abbrev SessionTtls := String → Option Nat

structure State (σ δ : Type) where
  sessions : SessionStore δ
  userData : σ
  sessionTtls : SessionTtls

variable {σ δ : Type}

/-- `Session::new`. -/
def Session.new [Inhabited δ] (P : Platform) (cookie : String) : Outcome Rejection (Session δ) := do
  let id ← (Outcome.ofOption () (P.idFromCookieValue cookie)).unwrap
  .ok ⟨id, none, none, default⟩

/-- The second word of the header, or all of it when there is only one. -/
def bearerToken (hdr : String) : String :=
  if ' ' ∈ hdr.toList then String.ofList ((hdr.toList.splitOn ' ').getD 1 []) else hdr

/-- The session a request is about. Unknown tokens get a new session, unreadable ones an error. -/
def openSession [Inhabited δ] (P : Platform) (im : Message) (around : Surroundings)
    (store : SessionStore δ) (authorization : Option String) :
    Outcome Rejection (Session δ × Option String) :=
  let fresh : Outcome Rejection (Session δ × Option String) := do
    let ses ← Session.new P around.cookie
    .ok (ses, some around.cookie)
  match authorization with
  | none => fresh
  | some hdr => do
    let id ← .ofOption (.error .internalServerError im.messageType "Error retrieving session")
      (P.idFromCookieValue (bearerToken hdr))
    Outcome.check (around.loadFails = false)
      (.error .internalServerError im.messageType "Error retrieving session")
    match store id with
    | some ses => .ok (ses, none)
    | none => fresh

def parseRequest {α : Type} (P : Platform) (im : Message) (decode : Bytes → Outcome Error α)
    (inbound : Bytes) (ses : Session δ) : Outcome Rejection α := do
  Outcome.check (im.isValidPreviousMessage ses.lastMessageType = true)
    (.error .internalServerError im.messageType "Message sequence error")
  let keys := ses.encryptionKeys.getD .unencrypted
  requirementMet im.encryptionRequirement keys.isSome fun _ =>
    .error .internalServerError im.messageType "IM encryption requirement not met"
  let inbound ← (keys.decrypt P inbound).mapErr fun _ =>
    .error .invalidMessageError im.messageType "Error decrypting"
  (decode inbound).mapErr fun _ => .parseError

def contentLengthLimit : Nat := 1024 * 16

/-- Everything up to the handler. It only reads the session store. -/
def receive [Inhabited δ] (P : Platform) (h : Handler σ δ) (around : Surroundings)
    (store : SessionStore δ) (req : HttpRequest) :
    Outcome Rejection (RequestInformation δ × h.Body) := do
  Outcome.check (req.body.length ≤ contentLengthLimit) .payloadTooLarge
  let (ses, cookie) ← openSession P h.im around store req.authorization
  let reqHash ← (Hash.fromData P .sha256 req.body).unwrap
  let body ← parseRequest P h.im h.decode req.body ses
  .ok (⟨ses, cookie, reqHash, req.nonInteroperableKdf⟩, body)

/-- The session as it is written back. -/
def RequestInformation.answered (info : RequestInformation δ) (om : Message) : Session δ :=
  { info.session with lastMessageType := some om.messageType }

/-- The data is written before its time to live: only the first failure leaves the old session. -/
def storeSession (im om : Message) (around : Surroundings) (store : SessionStore δ)
    (info : RequestInformation δ) :
    SessionStore δ × Outcome Rejection (Option String × EncryptionKeys) :=
  let failed : Rejection := .error .internalServerError im.messageType "Error storing session"
  if around.storeDataFails then (store, .err failed)
  else
    (Function.update store info.session.id (some (info.answered om)),
      if around.storeMetadataFails then .err failed
      else .ok (info.cookieValue, info.session.encryptionKeys.getD .unencrypted))

def sessionTtlSecs : Nat := 600

/-- The times to live beside the sessions: one that is written anew has none until it is given. -/
def storeSessionTtl (around : Surroundings) (ttls : SessionTtls) (id : String) : SessionTtls :=
  if around.storeDataFails then ttls
  else if around.storeMetadataFails then Function.update ttls id none
  else Function.update ttls id (some sessionTtlSecs)

theorem storeSessionTtl_stored {around : Surroundings} {ttls : SessionTtls} {id : String}
    (hdata : around.storeDataFails = false) (hmeta : around.storeMetadataFails = false) :
    storeSessionTtl around ttls id = Function.update ttls id (some sessionTtlSecs) := by
  rw [storeSessionTtl, hdata, hmeta]
  rfl

/-- `Message::to_response`: a reply that cannot be written is replaced by an error message. -/
def serializeResponse (P : Platform) (om : Message) (reply : Outcome Error Bytes) :
    Outcome Rejection Bytes :=
  match reply with
  | .ok data => .ok data
  | .panic => .panic
  | .err _ => (P.errorMessage.serializeData
      ⟨.internalServerError, om.messageType, "Error serializing response", 0⟩).unwrap

def toResponse (interoperableKdfAvailable success : Bool) (messageType : MessageType) (val : Bytes)
    (token : Option String) : HttpResponse :=
  ⟨success, .present messageType, token.map fun t => some ("Bearer " ++ t),
    !interoperableKdfAvailable, some val⟩

def encryptAndGenerateResponse (P : Platform) (interoperableKdfAvailable : Bool) (im om : Message)
    (val : Bytes) (token : Option String) (keys : EncryptionKeys) : Outcome Rejection HttpResponse := do
  requirementMet om.encryptionRequirement keys.isSome fun requirement =>
    .error .invalidMessageError im.messageType (match requirement with
      | .mustBeEncrypted => "Sequence error: must be encrypted"
      | .mustNotBeEncrypted => "Sequence error: must not be encrypted")
  let val ← (keys.encrypt P val).mapErr fun _ =>
    .error .invalidMessageError im.messageType "Error encrypting"
  .ok (toResponse interoperableKdfAvailable true om.messageType val token)

/-- The last phase: write the session back, then answer. -/
def conclude (P : Platform) (interoperableKdfAvailable : Bool) (h : Handler σ δ)
    (around : Surroundings) (store : SessionStore δ) (reply : h.Reply)
    (info : RequestInformation δ) : SessionStore δ × Outcome Rejection HttpResponse :=
  let (store, stored) := storeSession h.im h.om around store info
  (store, do
    let (token, keys) ← stored
    let val ← serializeResponse P h.om (h.encode reply)
    encryptAndGenerateResponse P interoperableKdfAvailable h.im h.om val token keys)

def fdoRequestFilter [Inhabited δ] (P : Platform) (interoperableKdfAvailable : Bool)
    (h : Handler σ δ) (around : Surroundings) (s : State σ δ) (req : HttpRequest) :
    State σ δ × Outcome Rejection HttpResponse :=
  match receive P h around s.sessions req with
  | .err e => (s, .err e)
  | .panic => (s, .panic)
  | .ok (info, body) =>
    match h.run s.userData info body with
    | (userData, .err e) => ({ s with userData }, .err e)
    | (userData, .panic) => ({ s with userData }, .panic)
    | (userData, .ok (reply, info)) =>
      let (sessions, response) := conclude P interoperableKdfAvailable h around s.sessions reply info
      (⟨sessions, userData, storeSessionTtl around s.sessionTtls info.session.id⟩, response)

def rejectionMessage (errorUuid : Nat) : Rejection → ErrorMessage
  | .error code previous text => ⟨code, previous, text, errorUuid⟩
  | .parseError => ⟨.messageBodyError, .invalid, "Invalid request body", errorUuid⟩
  | .notFound => ⟨.messageBodyError, .invalid, "Invalid request type", errorUuid⟩
  | .payloadTooLarge => ⟨.internalServerError, .invalid, "Error processing response", errorUuid⟩

/-- A panic drops the connection: nothing is sent. -/
def handleRejection (P : Platform) (interoperableKdfAvailable : Bool) (errorUuid : Nat) :
    Outcome Rejection HttpResponse → Option HttpResponse
  | .ok response => some response
  | .panic => none
  | .err e =>
    (P.errorMessage.intoWriter (rejectionMessage errorUuid e)).map fun val =>
      toResponse interoperableKdfAvailable false .error val none

/-- All routes of one server. -/
def serve [Inhabited δ] (P : Platform) (interoperableKdfAvailable : Bool)
    (routes : MessageType → Option (Handler σ δ)) (around : Surroundings) (s : State σ δ)
    (req : HttpRequest) : State σ δ × Option HttpResponse :=
  let (s, response) := match routes req.messageType with
    | none => (s, .err .notFound)
    | some h => fdoRequestFilter P interoperableKdfAvailable h around s req
  (s, handleRejection P interoperableKdfAvailable around.errorUuid response)

/-! ## What a request can do to the state -/

/-- Where the session of a request comes from. -/
inductive Origin [Inhabited δ] (P : Platform) (around : Surroundings) (store : SessionStore δ)
    (authorization : Option String) : Session δ → Prop where
  | stored {hdr id : String} {ses : Session δ} (header : authorization = some hdr)
      (token : P.idFromCookieValue (bearerToken hdr) = some id) (found : store id = some ses) :
      Origin P around store authorization ses
  | fresh {id : String} (drawn : P.idFromCookieValue around.cookie = some id)
      (unknown : ∀ hdr known, authorization = some hdr →
        P.idFromCookieValue (bearerToken hdr) = some known → store known = none) :
      Origin P around store authorization ⟨id, none, none, default⟩

/-- The keys of a session, or none. -/
def Session.keys (ses : Session δ) : EncryptionKeys := ses.encryptionKeys.getD .unencrypted

/-- All that is known of a request when its handler starts. -/
structure Received [Inhabited δ] (P : Platform) (h : Handler σ δ) (around : Surroundings)
    (store : SessionStore δ) (req : HttpRequest) (info : RequestInformation δ) (body : h.Body) :
    Prop where
  origin : Origin P around store req.authorization info.session
  sequence : h.im.isValidPreviousMessage info.session.lastMessageType = true
  encrypted : h.im.encryptionRequirement = some .mustBeEncrypted → info.session.keys.isSome = true
  plain : h.im.encryptionRequirement = some .mustNotBeEncrypted → info.session.keys.isSome = false
  body : ∃ data, info.session.keys.decrypt P req.body = .ok data ∧ h.decode data = .ok body

theorem Session.new_eq_ok [Inhabited δ] {P : Platform} {cookie : String} {ses : Session δ} :
    Session.new P cookie = .ok ses ↔
      ∃ id, P.idFromCookieValue cookie = some id ∧ ses = ⟨id, none, none, default⟩ := by
  unfold Session.new
  cases P.idFromCookieValue cookie with
  | none => simp [Outcome.ofOption, Outcome.unwrap]
  | some id => simp [Outcome.ofOption, Outcome.unwrap, eq_comm]

/-- A session is found under the token of the request, or new under a cookie drawn for it. -/
theorem openSession_cases [Inhabited δ] {P : Platform} {im : Message} {around : Surroundings}
    {store : SessionStore δ} {authorization : Option String} {ses : Session δ} {cookie : Option String}
    (h : openSession P im around store authorization = .ok (ses, cookie)) :
    (cookie = none ∧ ∃ hdr id, authorization = some hdr ∧ P.idFromCookieValue (bearerToken hdr) = some id ∧
      store id = some ses) ∨
    (cookie = some around.cookie ∧ ∃ id, P.idFromCookieValue around.cookie = some id ∧
      ses = ⟨id, none, none, default⟩ ∧ ∀ hdr known, authorization = some hdr →
        P.idFromCookieValue (bearerToken hdr) = some known → store known = none) := by
  have hfresh : (do
      let ses ← Session.new P around.cookie
      .ok (ses, some around.cookie) : Outcome Rejection (Session δ × Option String)) = .ok (ses, cookie) →
      cookie = some around.cookie ∧ ∃ id, P.idFromCookieValue around.cookie = some id ∧
        ses = ⟨id, none, none, default⟩ := by
    intro hx
    obtain ⟨ses, hses, h₁⟩ := Outcome.bind_eq_ok.mp hx
    obtain ⟨rfl, rfl⟩ := Prod.mk.inj (Outcome.ok.inj h₁)
    exact ⟨rfl, Session.new_eq_ok.mp hses⟩
  unfold openSession at h
  cases authorization with
  | none =>
      obtain ⟨hcookie, id, hid, hses⟩ := hfresh h
      exact .inr ⟨hcookie, id, hid, hses, fun _ _ hhdr => nomatch hhdr⟩
  | some hdr =>
      obtain ⟨id, hid, h₁⟩ := Outcome.bind_eq_ok.mp h
      obtain ⟨_, _, h₂⟩ := Outcome.bind_eq_ok.mp h₁
      rw [Outcome.ofOption_eq_ok] at hid
      cases hfound : store id with
      | none =>
          simp only [hfound] at h₂
          obtain ⟨hcookie, new, hnew, hses⟩ := hfresh h₂
          refine .inr ⟨hcookie, new, hnew, hses, ?_⟩
          intro hdr' known hhdr hknown
          obtain rfl := Option.some.inj hhdr
          rwa [← Option.some.inj (hid.symm.trans hknown)]
      | some found =>
          simp only [hfound, Outcome.ok.injEq, Prod.mk.injEq] at h₂
          obtain ⟨rfl, rfl⟩ := h₂
          exact .inl ⟨rfl, hdr, id, rfl, hid, hfound⟩

theorem openSession_origin [Inhabited δ] {P : Platform} {im : Message} {around : Surroundings}
    {store : SessionStore δ} {authorization : Option String} {ses : Session δ} {cookie : Option String}
    (h : openSession P im around store authorization = .ok (ses, cookie)) :
    Origin P around store authorization ses := by
  rcases openSession_cases h with ⟨_, hdr, id, hheader, htoken, hfound⟩ | ⟨_, id, hdrawn, rfl, hunknown⟩
  · exact .stored hheader htoken hfound
  · exact .fresh hdrawn hunknown

/-- A request with a token reads the session of the token, or makes a new one. -/
theorem Origin.of_token [Inhabited δ] {P : Platform} {around : Surroundings} {store : SessionStore δ}
    {hdr id : String} {ses : Session δ} (h : Origin P around store (some hdr) ses)
    (htoken : P.idFromCookieValue (bearerToken hdr) = some id) :
    store id = some ses ∨ store id = none ∧ ses.lastMessageType = none ∧
      P.idFromCookieValue around.cookie = some ses.id := by
  cases h with
  | stored hheader htoken' hfound =>
      obtain rfl := Option.some.inj hheader
      obtain rfl := Option.some.inj (htoken.symm.trans htoken')
      exact .inl hfound
  | fresh hdrawn hunknown => exact .inr ⟨hunknown hdr id rfl htoken, rfl, hdrawn⟩

theorem receive_received [Inhabited δ] {P : Platform} {h : Handler σ δ} {around : Surroundings}
    {store : SessionStore δ} {req : HttpRequest} {info : RequestInformation δ} {body : h.Body}
    (hr : receive P h around store req = .ok (info, body)) :
    Received P h around store req info body := by
  obtain ⟨_, _, h₁⟩ := Outcome.bind_eq_ok.mp hr
  obtain ⟨⟨ses, cookie⟩, hopen, h₂⟩ := Outcome.bind_eq_ok.mp h₁
  obtain ⟨reqHash, _, h₃⟩ := Outcome.bind_eq_ok.mp h₂
  obtain ⟨body₁, hparse, h₄⟩ := Outcome.bind_eq_ok.mp h₃
  simp only [Outcome.ok.injEq, Prod.mk.injEq] at h₄
  obtain ⟨rfl, rfl⟩ := h₄
  obtain ⟨_, hsequence, h₅⟩ := Outcome.bind_eq_ok.mp hparse
  obtain ⟨_, hrequirement, h₆⟩ := Outcome.bind_eq_ok.mp h₅
  obtain ⟨data, hdata, hdecode⟩ := Outcome.bind_eq_ok.mp h₆
  exact
    { origin := openSession_origin hopen
      sequence := Outcome.check_eq_ok.mp hsequence
      encrypted := by
        intro hmust
        rw [hmust] at hrequirement
        exact Outcome.check_eq_ok.mp hrequirement
      plain := by
        intro hmust
        rw [hmust] at hrequirement
        exact Outcome.check_eq_ok.mp hrequirement
      body := ⟨data, Outcome.mapErr_eq_ok.mp hdata, Outcome.mapErr_eq_ok.mp hdecode⟩ }

/-- The session is the one that was opened for the token, the flag the one of the request. -/
theorem receive_opened [Inhabited δ] {P : Platform} {h : Handler σ δ} {around : Surroundings}
    {store : SessionStore δ} {req : HttpRequest} {info : RequestInformation δ} {body : h.Body}
    (hr : receive P h around store req = .ok (info, body)) :
    openSession P h.im around store req.authorization = .ok (info.session, info.cookieValue) ∧
      info.nonInteroperableKdf = req.nonInteroperableKdf := by
  obtain ⟨_, _, h₁⟩ := Outcome.bind_eq_ok.mp hr
  obtain ⟨⟨ses, cookie⟩, hopen, h₂⟩ := Outcome.bind_eq_ok.mp h₁
  obtain ⟨reqHash, _, h₃⟩ := Outcome.bind_eq_ok.mp h₂
  obtain ⟨body₁, _, h₄⟩ := Outcome.bind_eq_ok.mp h₃
  obtain ⟨rfl, rfl⟩ := Prod.mk.inj (Outcome.ok.inj h₄)
  exact ⟨hopen, rfl⟩

/-- A request that got as far as writing its session back. -/
structure Accepted [Inhabited δ] (P : Platform) (h : Handler σ δ) (around : Surroundings)
    (s : State σ δ) (req : HttpRequest) (info : RequestInformation δ) (body : h.Body)
    (reply : h.Reply) (info' : RequestInformation δ) : Prop where
  received : receive P h around s.sessions req = .ok (info, body)
  handled : (h.run s.userData info body).2 = .ok (reply, info')
  stored : around.storeDataFails = false

/-- The state after a request, by how far it got. -/
inductive Effect [Inhabited δ] (P : Platform) (h : Handler σ δ) (around : Surroundings)
    (s : State σ δ) (req : HttpRequest) : State σ δ → Prop where
  | refused : Effect P h around s req s
  | failed {info : RequestInformation δ} {body : h.Body}
      (received : receive P h around s.sessions req = .ok (info, body)) :
      Effect P h around s req { s with userData := (h.run s.userData info body).1 }
  | accepted {info info' : RequestInformation δ} {body : h.Body} {reply : h.Reply}
      (accepted : Accepted P h around s req info body reply info') :
      Effect P h around s req
        ⟨Function.update s.sessions info'.session.id (some (info'.answered h.om)),
          (h.run s.userData info body).1, storeSessionTtl around s.sessionTtls info'.session.id⟩

theorem fdoRequestFilter_effect [Inhabited δ] (P : Platform) (available : Bool) (h : Handler σ δ)
    (around : Surroundings) (s : State σ δ) (req : HttpRequest) :
    Effect P h around s req (fdoRequestFilter P available h around s req).1 := by
  unfold fdoRequestFilter
  cases hreceive : receive P h around s.sessions req with
  | err e => exact .refused
  | panic => exact .refused
  | ok received =>
      obtain ⟨info, body⟩ := received
      have hfailed := Effect.failed hreceive
      cases hrun : h.run s.userData info body with
      | mk userData result =>
          rw [hrun] at hfailed
          cases result with
          | err e => simpa only [hrun] using hfailed
          | panic => simpa only [hrun] using hfailed
          | ok answer =>
              obtain ⟨reply, info'⟩ := answer
              simp only [hrun, conclude, storeSession]
              cases hfault : around.storeDataFails with
              | true =>
                  rw [storeSessionTtl, if_pos hfault]
                  exact hfailed
              | false =>
                  have haccepted : Accepted P h around s req info body reply info' :=
                    ⟨hreceive, by rw [hrun], hfault⟩
                  have := Effect.accepted haccepted
                  rwa [hrun] at this

/-! ## Answers -/

/-- A request was answered with `val`, and its session written back. -/
structure Answered [Inhabited δ] (P : Platform) (h : Handler σ δ) (around : Surroundings)
    (s : State σ δ) (req : HttpRequest) (info : RequestInformation δ) (body : h.Body)
    (reply : h.Reply) (info' : RequestInformation δ) (response : HttpResponse) : Prop where
  accepted : Accepted P h around s req info body reply info'
  messageType : response.messageType = .present h.om.messageType
  body : ∃ val, serializeResponse P h.om (h.encode reply) = .ok val ∧
    (h.om.encryptionRequirement = some .mustNotBeEncrypted → response.body = some val)

theorem handleRejection_answer {P : Platform} {available : Bool} {errorUuid : Nat}
    {r : Outcome Rejection HttpResponse} {response : HttpResponse}
    (h : handleRejection P available errorUuid r = some response)
    (hmessage : response.messageType ≠ .present .error) : r = .ok response := by
  cases r with
  | ok sent => exact congrArg _ (Option.some.inj h)
  | panic => cases h
  | err e =>
      obtain ⟨val, _, rfl⟩ := Option.map_eq_some_iff.mp h
      exact absurd rfl hmessage

theorem handleRejection_success {P : Platform} {available : Bool} {errorUuid : Nat}
    {r : Outcome Rejection HttpResponse} {response : HttpResponse}
    (h : handleRejection P available errorUuid r = some response) (hsuccess : response.success = true) :
    r = .ok response := by
  cases r with
  | ok sent => exact congrArg _ (Option.some.inj h)
  | panic => cases h
  | err e =>
      obtain ⟨val, _, rfl⟩ := Option.map_eq_some_iff.mp h
      cases hsuccess

/-- Every answer says which key derivation this build has. -/
theorem handleRejection_kdf {P : Platform} {available : Bool} {errorUuid : Nat}
    {r : Outcome Rejection HttpResponse} {response : HttpResponse}
    (h : handleRejection P available errorUuid r = some response)
    (hok : ∀ sent, r = .ok sent → sent.nonInteroperableKdf = !available) :
    response.nonInteroperableKdf = !available := by
  cases r with
  | ok sent =>
      obtain rfl := Option.some.inj h
      exact hok sent rfl
  | panic => cases h
  | err e =>
      obtain ⟨val, _, rfl⟩ := Option.map_eq_some_iff.mp h
      rfl

/-- How an answer that is no error is made from its reply: `val` are the bytes of the reply,
`data` those that are sent. -/
structure Sent (P : Platform) (available : Bool) (h : Handler σ δ) (reply : h.Reply)
    (info : RequestInformation δ) (val data : Bytes) (response : HttpResponse) : Prop where
  written : serializeResponse P h.om (h.encode reply) = .ok val
  encrypted : info.session.keys.encrypt P val = .ok data
  response : response = toResponse available true h.om.messageType data info.cookieValue
  mustBeEncrypted : h.om.encryptionRequirement = some .mustBeEncrypted → info.session.keys.isSome = true
  mustNotBeEncrypted : h.om.encryptionRequirement = some .mustNotBeEncrypted →
    info.session.keys.isSome = false

theorem conclude_sent {P : Platform} {available : Bool} {h : Handler σ δ} {around : Surroundings}
    {store : SessionStore δ} {reply : h.Reply} {info : RequestInformation δ} {response : HttpResponse}
    (hok : (conclude P available h around store reply info).2 = .ok response) :
    around.storeDataFails = false ∧ ∃ val data, Sent P available h reply info val data response := by
  simp only [conclude, storeSession] at hok
  cases hfault : around.storeDataFails with
  | true => simp [hfault] at hok
  | false =>
      simp only [hfault, Bool.false_eq_true, if_false] at hok
      obtain ⟨⟨token, keys⟩, hstored, h₁⟩ := Outcome.bind_eq_ok.mp hok
      obtain ⟨val, hval, h₂⟩ := Outcome.bind_eq_ok.mp h₁
      obtain ⟨_, hrequirement, h₃⟩ := Outcome.bind_eq_ok.mp h₂
      obtain ⟨data, hdata, h₄⟩ := Outcome.bind_eq_ok.mp h₃
      have htoken : token = info.cookieValue ∧ keys = info.session.keys := by
        split at hstored
        · cases hstored
        · obtain ⟨rfl, rfl⟩ := Prod.mk.inj (Outcome.ok.inj hstored)
          exact ⟨rfl, rfl⟩
      obtain ⟨rfl, rfl⟩ := htoken
      refine ⟨rfl, val, data, hval, Outcome.mapErr_eq_ok.mp hdata, (Outcome.ok.inj h₄).symm, ?_, ?_⟩
      · intro hmust
        rw [hmust] at hrequirement
        exact Outcome.check_eq_ok.mp hrequirement
      · intro hmust
        rw [hmust] at hrequirement
        exact Outcome.check_eq_ok.mp hrequirement

theorem fdoRequestFilter_sent [Inhabited δ] {P : Platform} {available : Bool} {h : Handler σ δ}
    {around : Surroundings} {s : State σ δ} {req : HttpRequest} {response : HttpResponse}
    (hok : (fdoRequestFilter P available h around s req).2 = .ok response) :
    ∃ info body reply info', Accepted P h around s req info body reply info' ∧
      ∃ val data, Sent P available h reply info' val data response := by
  unfold fdoRequestFilter at hok
  cases hreceive : receive P h around s.sessions req with
  | err e => simp [hreceive] at hok
  | panic => simp [hreceive] at hok
  | ok received =>
      obtain ⟨info, body⟩ := received
      cases hrun : h.run s.userData info body with
      | mk userData result =>
          cases result with
          | err e => simp [hreceive, hrun] at hok
          | panic => simp [hreceive, hrun] at hok
          | ok answer =>
              obtain ⟨reply, info'⟩ := answer
              simp only [hreceive, hrun] at hok
              obtain ⟨hstored, hsent⟩ := conclude_sent hok
              exact ⟨info, body, reply, info', ⟨hreceive, by rw [hrun], hstored⟩, hsent⟩

theorem Sent.answered [Inhabited δ] {P : Platform} {available : Bool} {h : Handler σ δ}
    {around : Surroundings} {s : State σ δ} {req : HttpRequest} {info info' : RequestInformation δ}
    {body : h.Body} {reply : h.Reply} {val data : Bytes} {response : HttpResponse}
    (hsent : Sent P available h reply info' val data response)
    (haccepted : Accepted P h around s req info body reply info') :
    Answered P h around s req info body reply info' response := by
  refine ⟨haccepted, by rw [hsent.response]; rfl, val, hsent.written, fun hplain => ?_⟩
  rw [hsent.response,
    EncryptionKeys.encrypt_of_not_isSome (hsent.mustNotBeEncrypted hplain) hsent.encrypted]
  rfl

/-! ## Requests that reach their handler -/

section Served

variable [Inhabited δ] {P : Platform} {kdf : Bool} {routes : MessageType → Option (Handler σ δ)}
  {h : Handler σ δ} {around : Surroundings} {s : State σ δ} {req : HttpRequest}
  {info : RequestInformation δ} {body : h.Body} {userData : σ}

theorem serve_handled (hroute : routes req.messageType = some h)
    (hreceive : receive P h around s.sessions req = .ok (info, body)) {reply : h.Reply}
    {info' : RequestInformation δ} (hrun : h.run s.userData info body = (userData, .ok (reply, info'))) :
    serve P kdf routes around s req =
      (⟨(conclude P kdf h around s.sessions reply info').1, userData,
          storeSessionTtl around s.sessionTtls info'.session.id⟩,
        handleRejection P kdf around.errorUuid (conclude P kdf h around s.sessions reply info').2) := by
  simp only [serve, hroute, fdoRequestFilter, hreceive, hrun]

theorem serve_panicked (hroute : routes req.messageType = some h)
    (hreceive : receive P h around s.sessions req = .ok (info, body))
    (hrun : h.run s.userData info body = (userData, .panic)) :
    serve P kdf routes around s req = ({ s with userData }, none) := by
  simp only [serve, hroute, fdoRequestFilter, hreceive, hrun, handleRejection]

omit [Inhabited δ] in
/-- The end of a request in the clear, when the store works. -/
theorem conclude_plain {store : SessionStore δ} (hdata : around.storeDataFails = false)
    (hmeta : around.storeMetadataFails = false) (hkeys : info.session.keys = .unencrypted)
    (hplain : h.om.encryptionRequirement = some .mustNotBeEncrypted) {reply : h.Reply} {val : Bytes}
    (hencode : h.encode reply = .ok val) :
    conclude P kdf h around store reply info =
      (Function.update store info.session.id (some (info.answered h.om)),
        .ok (toResponse kdf true h.om.messageType val info.cookieValue)) := by
  have hgetD : info.session.encryptionKeys.getD .unencrypted = .unencrypted := hkeys
  simp only [conclude, storeSession, hdata, hmeta, Bool.false_eq_true, if_false, hgetD, Outcome.ok_bind,
    hencode, serializeResponse, encryptAndGenerateResponse, hplain, EncryptionKeys.isSome_unencrypted,
    EncryptionKeys.encrypt_unencrypted, Outcome.mapErr_ok, requirementMet, Outcome.check, if_true]

end Served

end FidoOnboard.Server
