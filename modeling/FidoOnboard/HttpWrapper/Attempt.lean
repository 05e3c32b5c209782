import FidoOnboard.HttpWrapper.Client

/-!
# A call that may fail

`send_request` works on a client that stays in use after an error. It moves on to
the type of the reply and to the new keys before it knows whether there is a reply.
-/
namespace FidoOnboard.ServiceClient

variable {server : Peer} {α : Type}

/-- `ServiceClient::new`. -/
def new (interoperableKdfAvailable : Bool) (peer : server.State) : ServiceClient server :=
  ⟨none, .unencrypted, none, none, interoperableKdfAvailable, peer⟩

/-- The request as it leaves the client. -/
def prepare (P : Platform) (om sm : Message) (body : Outcome Error Bytes)
    (newKeys : Option EncryptionKeys) (c : ServiceClient server) : Outcome RequestError HttpRequest := do
  requirementMet om.encryptionRequirement c.encryptionKeys.isSome .requestEncryptionNotSatisfied
  requirementMet sm.encryptionRequirement (c.encryptionKeys.isSome || newKeys.isSome)
    .responseEncryptionNotSatisfied
  let toSend ← body.mapErr .dataFormat
  let toSend ← (c.encryptionKeys.encrypt P toSend).mapErr fun _ => .crypto
  .ok ⟨om.messageType, c.authorizationToken, !c.interoperableKdfAvailable, toSend⟩

/-- A response whose type is known, under the keys the client has by now. -/
def readResponse (P : Platform) (sm : Message) (decode : Bytes → Outcome Error α) (resp : HttpResponse)
    (msgtype : MessageType) (c : ServiceClient server) : Outcome RequestError α := do
  Outcome.check (msgtype = if resp.success then sm.messageType else .error)
    (.invalidMessage msgtype (if resp.success then sm.messageType else .error))
  let data ← .ofOption .request resp.body
  if resp.success then do
    let data ← (c.encryptionKeys.decrypt P data).mapErr fun _ => .crypto
    (decode data).mapErr .dataFormat
  else do
    let message ← (P.errorMessage.deserializeData data).mapErr .dataFormat
    .err (.error message)

/-- The token is taken over before anything else of the response is looked at. -/
def withToken (authorization : Option (Option String)) (c : ServiceClient server) :
    Outcome RequestError (ServiceClient server) :=
  match authorization with
  | none => .ok c
  | some (some token) => .ok { c with authorizationToken := some token }
  | some none => .panic

/-- The first response decides which key derivation is used. -/
def answered (resp : HttpResponse) (c : ServiceClient server) : ServiceClient server :=
  { c with
    nonInteroperableKdfRequired := some (c.nonInteroperableKdfRequired.getD resp.nonInteroperableKdf) }

def takeResponse (P : Platform) (sm : Message) (decode : Bytes → Outcome Error α) (resp : HttpResponse)
    (c : ServiceClient server) : ServiceClient server × Outcome RequestError α :=
  let c := c.answered resp
  match responseType resp with
  | .err e => (c, .err e)
  | .panic => (c, .panic)
  | .ok msgtype =>
    match c.withToken resp.authorization with
    | .err e => (c, .err e)
    | .panic => (c, .panic)
    | .ok c => (c, c.readResponse P sm decode resp msgtype)

/-- A request that was not answered leaves the client as it is. -/
def awaitResponse (P : Platform) (sm : Message) (decode : Bytes → Outcome Error α)
    (resp : Option HttpResponse) (c : ServiceClient server) :
    ServiceClient server × Outcome RequestError α :=
  match resp with
  | none => (c, .err .request)
  | some resp => c.takeResponse P sm decode resp

/-- The client once both types fit. -/
def advanced (sm : Message) (c : ServiceClient server) : ServiceClient server :=
  { c with lastMessageType := some sm.messageType }

/-- The client once its request is on its way. -/
def sent (newKeys : Option EncryptionKeys) (peer : server.State) (c : ServiceClient server) :
    ServiceClient server :=
  { c with encryptionKeys := newKeys.getD c.encryptionKeys, peer }

/-- `send_request` with the client it leaves behind. -/
def attempt (P : Platform) (om sm : Message) (body : Outcome Error Bytes)
    (decode : Bytes → Outcome Error α) (newKeys : Option EncryptionKeys) (c : ServiceClient server) :
    ServiceClient server × Outcome RequestError α :=
  if om.isValidPreviousMessage c.lastMessageType = true then
    if sm.isValidPreviousMessage (some om.messageType) = true then
      let c := c.advanced sm
      match c.prepare P om sm body newKeys with
      | .err e => (c, .err e)
      | .panic => (c, .panic)
      | .ok req =>
        let (peer, resp) := server.respond c.peer req
        (c.sent newKeys peer).awaitResponse P sm decode resp
    else (c, .err .invalidSequenceResponse)
  else (c, .err .invalidSequenceRequest)

/-- What the caller sees: the value and the client, or the error alone. -/
def seen : ServiceClient server × Outcome RequestError α → Outcome RequestError (α × ServiceClient server)
  | (c, .ok value) => .ok (value, c)
  | (_, .err e) => .err e
  | (_, .panic) => .panic

/-- A response of which type and token are known. -/
theorem seen_readResponse (P : Platform) (sm : Message) (decode : Bytes → Outcome Error α)
    (resp : HttpResponse) (msgtype : MessageType) (c : ServiceClient server) :
    seen (c, c.readResponse P sm decode resp msgtype) = (do
      let value ← c.readResponse P sm decode resp msgtype
      .ok (value, c)) := by
  cases c.readResponse P sm decode resp msgtype <;> rfl

theorem seen_takeResponse (P : Platform) (sm : Message) (decode : Bytes → Outcome Error α)
    (resp : HttpResponse) (c : ServiceClient server) :
    seen (c.takeResponse P sm decode resp) = (do
      let msgtype ← responseType resp
      let c ← (c.answered resp).withToken resp.authorization
      let value ← c.readResponse P sm decode resp msgtype
      .ok (value, c)) := by
  cases htype : responseType resp with
  | err e => simp [takeResponse, htype, seen]
  | panic => simp [takeResponse, htype, seen]
  | ok msgtype =>
      cases htoken : (c.answered resp).withToken resp.authorization with
      | err e => simp [takeResponse, htype, htoken, seen]
      | panic => simp [takeResponse, htype, htoken, seen]
      | ok c => simp only [takeResponse, htype, htoken, seen_readResponse, Outcome.ok_bind]

/-- The reading of a response with the client handed on in each branch. -/
theorem readResponse_bind (P : Platform) (sm : Message) (decode : Bytes → Outcome Error α)
    (resp : HttpResponse) (msgtype : MessageType) (c : ServiceClient server) :
    (c.readResponse P sm decode resp msgtype >>= fun value => .ok (value, c)) = (do
      Outcome.check (msgtype = if resp.success then sm.messageType else .error)
        (.invalidMessage msgtype (if resp.success then sm.messageType else .error))
      let data ← .ofOption .request resp.body
      if resp.success then do
        let data ← (c.encryptionKeys.decrypt P data).mapErr fun _ => .crypto
        let value ← (decode data).mapErr .dataFormat
        .ok (value, c)
      else do
        let message ← (P.errorMessage.deserializeData data).mapErr .dataFormat
        .err (.error message)) := by
  unfold readResponse
  cases Outcome.check (msgtype = if resp.success then sm.messageType else .error)
    (RequestError.invalidMessage msgtype (if resp.success then sm.messageType else .error)) with
  | err e => rfl
  | panic => rfl
  | ok _ =>
      cases resp.body with
      | none => rfl
      | some data =>
          cases resp.success with
          | true =>
              cases h : c.encryptionKeys.decrypt P data with
              | err e => simp [Outcome.ofOption, h]
              | panic => simp [Outcome.ofOption, h]
              | ok plain => cases h' : decode plain <;> simp [Outcome.ofOption, h, h']
          | false => cases h : P.errorMessage.deserializeData data <;> simp [Outcome.ofOption, h]

/-- `sendRequest` is what a caller sees who drops the client after an error. -/
theorem sendRequest_eq_attempt (P : Platform) (om sm : Message) (body : Outcome Error Bytes)
    (decode : Bytes → Outcome Error α) (newKeys : Option EncryptionKeys) (c : ServiceClient server) :
    c.sendRequest P om sm body decode newKeys = seen (c.attempt P om sm body decode newKeys) := by
  unfold attempt sendRequest
  by_cases hom : om.isValidPreviousMessage c.lastMessageType = true
  · by_cases hsm : sm.isValidPreviousMessage (some om.messageType) = true
    · simp only [Outcome.check, hom, hsm, if_true, Outcome.ok_bind, prepare, advanced]
      cases h₁ : requirementMet om.encryptionRequirement c.encryptionKeys.isSome
        RequestError.requestEncryptionNotSatisfied with
      | err e => simp [seen]
      | panic => simp [seen]
      | ok _ =>
          cases h₂ : requirementMet sm.encryptionRequirement
            (c.encryptionKeys.isSome || newKeys.isSome) RequestError.responseEncryptionNotSatisfied with
          | err e => simp [seen]
          | panic => simp [seen]
          | ok _ =>
              cases body with
              | err e => simp [seen]
              | panic => simp [seen]
              | ok data =>
                  simp only [Outcome.ok_bind, Outcome.mapErr_ok]
                  cases c.encryptionKeys.encrypt P data with
                  | err e => simp [seen]
                  | panic => simp [seen]
                  | ok toSend =>
                      simp only [Outcome.ok_bind, Outcome.mapErr_ok]
                      cases hrespond : server.respond c.peer
                        ⟨om.messageType, c.authorizationToken, !c.interoperableKdfAvailable, toSend⟩ with
                      | mk peer resp =>
                          simp only [hrespond]
                          cases resp with
                          | none => rfl
                          | some resp =>
                              simp only [awaitResponse, seen_takeResponse, Outcome.ofOption, Outcome.ok_bind,
                                readResponse_bind]
                              cases responseType resp with
                              | err e => rfl
                              | panic => rfl
                              | ok msgtype =>
                                  cases resp.authorization with
                                  | none => rfl
                                  | some token => cases token <;> rfl
    · simp [Outcome.check, hom, hsm, seen]
  · simp [Outcome.check, hom, seen]

/-! ## What a call leaves behind -/

/-- A request that was prepared meets what its message asks for. -/
structure Prepared (P : Platform) (om : Message) (c : ServiceClient server) (req : HttpRequest) :
    Prop where
  request : req.messageType = om.messageType ∧ req.authorization = c.authorizationToken ∧
    req.nonInteroperableKdf = !c.interoperableKdfAvailable
  encrypted : om.encryptionRequirement = some .mustBeEncrypted → c.encryptionKeys.isSome = true
  plain : om.encryptionRequirement = some .mustNotBeEncrypted → c.encryptionKeys.isSome = false
  body : ∃ data, c.encryptionKeys.encrypt P data = .ok req.body

theorem prepare_ok {P : Platform} {om sm : Message} {body : Outcome Error Bytes}
    {newKeys : Option EncryptionKeys} {c : ServiceClient server} {req : HttpRequest}
    (h : c.prepare P om sm body newKeys = .ok req) : Prepared P om c req := by
  obtain ⟨_, hrequirement, h₁⟩ := Outcome.bind_eq_ok.mp h
  obtain ⟨_, _, h₂⟩ := Outcome.bind_eq_ok.mp h₁
  obtain ⟨data, _, h₃⟩ := Outcome.bind_eq_ok.mp h₂
  obtain ⟨toSend, hencrypt, h₄⟩ := Outcome.bind_eq_ok.mp h₃
  obtain rfl := Outcome.ok.inj h₄
  refine ⟨⟨rfl, rfl, rfl⟩, ?_, ?_, data, Outcome.mapErr_eq_ok.mp hencrypt⟩
  · intro hmust
    rw [hmust] at hrequirement
    exact Outcome.check_eq_ok.mp hrequirement
  · intro hmust
    rw [hmust] at hrequirement
    exact Outcome.check_eq_ok.mp hrequirement

/-- The bytes that are sent are those of the message, under the keys of the client. -/
theorem prepare_body {P : Platform} {om sm : Message} {body : Outcome Error Bytes}
    {newKeys : Option EncryptionKeys} {c : ServiceClient server} {req : HttpRequest}
    (h : c.prepare P om sm body newKeys = .ok req) :
    ∃ data, body = .ok data ∧ c.encryptionKeys.encrypt P data = .ok req.body := by
  obtain ⟨_, _, h₁⟩ := Outcome.bind_eq_ok.mp h
  obtain ⟨_, _, h₂⟩ := Outcome.bind_eq_ok.mp h₁
  obtain ⟨data, hdata, h₃⟩ := Outcome.bind_eq_ok.mp h₂
  obtain ⟨toSend, hencrypt, h₄⟩ := Outcome.bind_eq_ok.mp h₃
  obtain rfl := Outcome.ok.inj h₄
  exact ⟨data, Outcome.mapErr_eq_ok.mp hdata, Outcome.mapErr_eq_ok.mp hencrypt⟩

/-- What waiting for a response does not touch. -/
structure Awaits (c c' : ServiceClient server) : Prop where
  keys : c'.encryptionKeys = c.encryptionKeys
  last : c'.lastMessageType = c.lastMessageType
  peer : c'.peer = c.peer
  build : c'.interoperableKdfAvailable = c.interoperableKdfAvailable

theorem withToken_awaits {authorization : Option (Option String)} {c c' : ServiceClient server}
    (h : c.withToken authorization = .ok c') : Awaits c c' ∧
      c'.nonInteroperableKdfRequired = c.nonInteroperableKdfRequired := by
  cases authorization with
  | none =>
      obtain rfl := Outcome.ok.inj h
      exact ⟨⟨rfl, rfl, rfl, rfl⟩, rfl⟩
  | some token =>
      cases token with
      | none => cases h
      | some token =>
          obtain rfl := Outcome.ok.inj h
          exact ⟨⟨rfl, rfl, rfl, rfl⟩, rfl⟩

theorem takeResponse_awaits (P : Platform) (sm : Message) (decode : Bytes → Outcome Error α)
    (resp : HttpResponse) (c : ServiceClient server) :
    Awaits c (c.takeResponse P sm decode resp).1 ∧
      (c.takeResponse P sm decode resp).1.nonInteroperableKdfRequired =
        some (c.nonInteroperableKdfRequired.getD resp.nonInteroperableKdf) := by
  have hanswered : Awaits c (c.answered resp) := ⟨rfl, rfl, rfl, rfl⟩
  simp only [takeResponse]
  cases responseType resp with
  | err e => exact ⟨hanswered, rfl⟩
  | panic => exact ⟨hanswered, rfl⟩
  | ok msgtype =>
      cases htoken : (c.answered resp).withToken resp.authorization with
      | err e => exact ⟨hanswered, rfl⟩
      | panic => exact ⟨hanswered, rfl⟩
      | ok c' =>
          obtain ⟨hawaits, hkdf⟩ := withToken_awaits htoken
          exact ⟨⟨hawaits.keys, hawaits.last, hawaits.peer, hawaits.build⟩, hkdf⟩

theorem awaitResponse_peer (P : Platform) (sm : Message) (decode : Bytes → Outcome Error α)
    (resp : Option HttpResponse) (c : ServiceClient server) :
    (c.awaitResponse P sm decode resp).1.peer = c.peer := by
  cases resp with
  | none => rfl
  | some resp => exact (takeResponse_awaits P sm decode resp c).1.peer

/-- A response that was taken as the reply. -/
structure Taken (P : Platform) (sm : Message) (decode : Bytes → Outcome Error α) (c : ServiceClient server)
    (resp : HttpResponse) (value : α) (c' : ServiceClient server) : Prop where
  success : resp.success = true
  messageType : resp.messageType = .present sm.messageType
  token : c.withToken resp.authorization = .ok { c with authorizationToken := c'.authorizationToken }
  body : ∃ data plain, resp.body = some data ∧ c.encryptionKeys.decrypt P data = .ok plain ∧
    decode plain = .ok value

theorem takeResponse_ok {P : Platform} {sm : Message} {decode : Bytes → Outcome Error α}
    {resp : HttpResponse} {c : ServiceClient server} {value : α}
    (h : (c.takeResponse P sm decode resp).2 = .ok value) :
    Taken P sm decode c resp value (c.takeResponse P sm decode resp).1 := by
  unfold takeResponse at h ⊢
  cases htype : responseType resp with
  | err e => simp [htype] at h
  | panic => simp [htype] at h
  | ok msgtype =>
      cases htoken : (c.answered resp).withToken resp.authorization with
      | err e => simp [htype, htoken] at h
      | panic => simp [htype, htoken] at h
      | ok c' =>
          simp only [htype, htoken] at h ⊢
          obtain ⟨_, hchecked, h₁⟩ := Outcome.bind_eq_ok.mp h
          obtain ⟨data, hdata, h₂⟩ := Outcome.bind_eq_ok.mp h₁
          rw [Outcome.check_eq_ok] at hchecked
          rw [Outcome.ofOption_eq_ok] at hdata
          cases hsuccess : resp.success with
          | false =>
              simp only [hsuccess, Bool.false_eq_true, if_false] at h₂
              obtain ⟨_, _, h₃⟩ := Outcome.bind_eq_ok.mp h₂
              cases h₃
          | true =>
              simp only [hsuccess, if_true] at h₂ hchecked
              obtain ⟨plain, hplain, h₃⟩ := Outcome.bind_eq_ok.mp h₂
              obtain ⟨hawaits, _⟩ := withToken_awaits htoken
              rw [hawaits.keys, Outcome.mapErr_eq_ok] at hplain
              refine ⟨hsuccess, ?_, ?_, data, plain, hdata, hplain, Outcome.mapErr_eq_ok.mp h₃⟩
              · unfold responseType at htype
                cases hheader : resp.messageType with
                | present t =>
                    simp only [hheader, Outcome.ok.injEq] at htype
                    rw [htype, hchecked]
                | unreadable => simp [hheader] at htype
                | absent => simp [hheader, hsuccess] at htype
              · cases hauth : resp.authorization with
                | none =>
                    rw [hauth] at htoken
                    obtain rfl := Outcome.ok.inj htoken
                    rfl
                | some token =>
                    cases token with
                    | none => simp [hauth, withToken] at htoken
                    | some token =>
                        rw [hauth] at htoken
                        obtain rfl := Outcome.ok.inj htoken
                        rfl

/-- A call is given up before anything is sent, or sends one request. -/
theorem attempt_cases (P : Platform) (om sm : Message) (body : Outcome Error Bytes)
    (decode : Bytes → Outcome Error α) (newKeys : Option EncryptionKeys) (c : ServiceClient server) :
    ((c.attempt P om sm body decode newKeys).1 = c ∨
      (c.attempt P om sm body decode newKeys).1 = c.advanced sm) ∧
      (∀ value, (c.attempt P om sm body decode newKeys).2 ≠ .ok value) ∨
    ∃ req, c.prepare P om sm body newKeys = .ok req ∧
      c.attempt P om sm body decode newKeys =
        ((c.advanced sm).sent newKeys (server.respond c.peer req).1).awaitResponse P sm decode
          (server.respond c.peer req).2 := by
  unfold attempt
  by_cases hom : om.isValidPreviousMessage c.lastMessageType = true
  · by_cases hsm : sm.isValidPreviousMessage (some om.messageType) = true
    · simp only [hom, hsm, if_true]
      cases hprepare : (c.advanced sm).prepare P om sm body newKeys with
      | err e => exact .inl ⟨.inr rfl, fun _ h => nomatch h⟩
      | panic => exact .inl ⟨.inr rfl, fun _ h => nomatch h⟩
      | ok req => exact .inr ⟨req, hprepare, rfl⟩
    · simp [hom, hsm]
  · simp [hom]

end FidoOnboard.ServiceClient
