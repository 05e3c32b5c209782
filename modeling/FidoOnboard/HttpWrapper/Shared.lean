import FidoOnboard.HttpWrapper.LockStep

/-!
# A server that others use too

A client sees the answers to its own requests. Before each of them the server may
serve any number of others, forget sessions and change its stores.
-/
namespace FidoOnboard.Shared
open Server

variable {P : Platform} {ρ σ δ : Type} [Inhabited δ]

/-- What the server does before it serves a request, and what it draws on that. -/
structure Turn (ρ σ : Type) where
  others : List (Input ρ σ)
  around : Surroundings
  draws : ρ

/-- The session store works, and the cookie has no blank. -/
structure Turn.Works (turn : Turn ρ σ) : Prop where
  load : turn.around.loadFails = false
  data : turn.around.storeDataFails = false
  metadata : turn.around.storeMetadataFails = false
  cookie : ' ' ∉ turn.around.cookie.toList

def after (S : Service P ρ σ δ) (s : State σ δ) (others : List (Input ρ σ)) : State σ δ :=
  others.foldl S.step s

/-- The server as the peer of one client, whose `k`-th request comes in turn `k`. -/
def peer (S : Service P ρ σ δ) (turns : Nat → Turn ρ σ) : Peer where
  State := Nat × State σ δ
  respond world req :=
    let s := after S world.2 (turns world.1).others
    let input : Input ρ σ := .request (turns world.1).around (turns world.1).draws req
    ((world.1 + 1, S.step s input), S.respond s input)

/-! ## Sessions of others -/

/-- Sessions are stored under their own id. -/
def Named (s : State σ δ) : Prop := ∀ {id ses}, s.sessions id = some ses → ses.id = id

/-- The input neither presents nor draws this session id, and does not forget it. -/
def Elsewhere (P : Platform) (id : String) : Input ρ σ → Prop
  | .request around _ req => P.idFromCookieValue around.cookie ≠ some id ∧
      ∀ hdr, req.authorization = some hdr → P.idFromCookieValue (bearerToken hdr) ≠ some id
  | .forget other => id ≠ other
  | .tend _ => True

variable {S : Service P ρ σ δ} {s : State σ δ} {id : String}

omit [Inhabited δ] in
/-- A session may be written under its own id. -/
theorem Named.update (hs : Named s) (ses : Session δ) (userData : σ) (sessionTtls : SessionTtls) :
    Named ⟨Function.update s.sessions ses.id (some ses), userData, sessionTtls⟩ := by
  intro id' other hother
  by_cases hsame : id' = ses.id
  · subst hsame
    cases (Function.update_self ..).symm.trans hother
    rfl
  · exact hs ((Function.update_of_ne hsame ..).symm.trans hother)

theorem step_named (hs : Named s) (input : Input ρ σ) : Named (S.step s input) := by
  intro id ses hses
  rcases Service.step_sessions (S := S) s input id with hsame | hnone | ⟨a, rfl, hafter⟩
  · rw [hsame] at hses
    exact hs hses
  · rw [hnone] at hses
    cases hses
  · obtain rfl := Option.some.inj (hafter.symm.trans hses)
    exact a.after_id

theorem after_named (hs : Named s) (others : List (Input ρ σ)) : Named (after S s others) := by
  induction others generalizing s with
  | nil => exact hs
  | cons input others ih => exact ih (step_named hs input)

/-- An acceptance reads the session that is presented, or the one that is drawn. -/
theorem acceptance_not_elsewhere (hs : Named s) {input : Input ρ σ} (a : S.Acceptance s input) :
    ¬ Elsewhere P a.id input := by
  intro helse
  have hmoved : ∀ id, Elsewhere P id input → Elsewhere P id (.request a.around a.draws a.req : Input ρ σ) := by
    intro id h
    rwa [← a.isRequest]
  have helse : Elsewhere P a.info.session.id (.request a.around a.draws a.req : Input ρ σ) := hmoved _ helse
  have horigin := a.received.origin
  generalize a.info.session = before at helse horigin
  cases horigin with
  | stored hheader htoken hfound => exact helse.2 _ hheader (hs hfound ▸ htoken)
  | fresh hdrawn _ => exact helse.1 hdrawn

theorem step_elsewhere (hs : Named s) {input : Input ρ σ} (helse : Elsewhere P id input) :
    (S.step s input).sessions id = s.sessions id := by
  cases input with
  | forget other => exact Function.update_of_ne helse ..
  | tend userData => rfl
  | request around draws req =>
      cases hroute : S.routes draws req.messageType with
      | none => simp only [Service.step, serve, hroute]
      | some h =>
          have heffect := fdoRequestFilter_effect P S.interoperableKdfAvailable h around s req
          have hstep : S.step s (.request around draws req) =
              (fdoRequestFilter P S.interoperableKdfAvailable h around s req).1 := by
            simp only [Service.step, serve, hroute]
          rw [hstep]
          generalize (fdoRequestFilter P S.interoperableKdfAvailable h around s req).1 = s' at *
          cases heffect with
          | refused => rfl
          | failed _ => rfl
          | accepted haccepted =>
              let a : S.Acceptance s (.request around draws req) :=
                ⟨around, draws, req, h, _, _, _, _, rfl, hroute, haccepted⟩
              refine Function.update_of_ne ?_ ..
              rintro rfl
              have hid : a.after.id = a.id := a.after_id
              exact acceptance_not_elsewhere hs a (hid ▸ helse)

theorem after_elsewhere (hs : Named s) {others : List (Input ρ σ)}
    (helse : ∀ input ∈ others, Elsewhere P id input) : (after S s others).sessions id = s.sessions id := by
  induction others generalizing s with
  | nil => rfl
  | cons input others ih =>
      have hrest := ih (step_named (S := S) hs input) fun i hi => helse i (List.mem_cons_of_mem _ hi)
      exact hrest.trans (step_elsewhere hs (helse input List.mem_cons_self))

/-! ## Sessions that are opened -/

section Receive

variable {h : Handler σ δ} {around : Surroundings} {store : SessionStore δ} {data : Bytes} {body : h.Body}
  {messageType : MessageType} {kdf : Bool}

/-- What a message in the clear has to meet to come to its handler. -/
structure Readable (P : Platform) (h : Handler σ δ) (data : Bytes) (last : Option MessageType)
    (body : h.Body) : Prop where
  length : data.length ≤ contentLengthLimit
  digest : ∃ digest, P.hash .sha256 data = some digest
  sequence : h.im.isValidPreviousMessage last = true
  requirement : h.im.encryptionRequirement = some .mustNotBeEncrypted
  decoded : h.decode data = .ok body

variable (messageType kdf) in
theorem Readable.receive {ses : Session δ} {cookie authorization : Option String}
    (hr : Readable P h data ses.lastMessageType body) (hkeys : ses.keys = .unencrypted)
    (hopen : openSession P h.im around store authorization = .ok (ses, cookie)) :
    ∃ reqHash, Server.receive P h around store ⟨messageType, authorization, kdf, data⟩ =
      .ok (⟨ses, cookie, reqHash, kdf⟩, body) := by
  obtain ⟨digest, hdigest⟩ := hr.digest
  have hhash : Hash.fromData P .sha256 data = .ok ⟨.sha256, digest⟩ :=
    Hash.fromData_eq_ok.mpr ⟨rfl, .sha256, rfl, hdigest⟩
  have hkeys : ses.encryptionKeys.getD .unencrypted = .unencrypted := hkeys
  have hparse : parseRequest P h.im h.decode data ses = .ok body := by
    simp only [parseRequest, hr.sequence, hr.requirement, Outcome.check, if_true, Outcome.ok_bind, hkeys,
      requirementMet, EncryptionKeys.isSome_unencrypted, EncryptionKeys.decrypt_unencrypted,
      Outcome.mapErr_ok, hr.decoded]
  refine ⟨⟨.sha256, digest⟩, ?_⟩
  refine Outcome.bind_eq_ok.mpr ⟨⟨⟩, Outcome.check_eq_ok.mpr hr.length, ?_⟩
  refine Outcome.bind_eq_ok.mpr ⟨_, hopen, ?_⟩
  refine Outcome.bind_eq_ok.mpr ⟨_, Outcome.unwrap_eq_ok.mpr hhash, ?_⟩
  exact Outcome.bind_eq_ok.mpr ⟨body, hparse, rfl⟩

variable (store) in
/-- Without a token a session is made under the cookie that is drawn. -/
theorem openSession_fresh {im : Message} {id : String} (hid : P.idFromCookieValue around.cookie = some id) :
    openSession P im around store none =
      (.ok (⟨id, none, none, default⟩, some around.cookie) : Outcome Rejection (Session δ × Option String)) := by
  simp only [openSession, Session.new, hid, Outcome.ofOption, Outcome.unwrap, Outcome.ok_bind]

variable (store) in
theorem openSession_stored {im : Message} {hdr id : String} {ses : Session δ} (hload : around.loadFails = false)
    (htoken : P.idFromCookieValue (bearerToken hdr) = some id) (hfound : store id = some ses) :
    openSession P im around store (some hdr) = .ok (ses, none) := by
  simp only [openSession, htoken, Outcome.ofOption, Outcome.ok_bind, hload, Outcome.check, if_true, hfound]

end Receive

/-! ## One request in the clear -/

section Request

variable {turns : Nat → Turn ρ σ}

/-- The turn in which the client's next request is served. -/
def turn (c : ServiceClient (peer S turns)) : Turn ρ σ := turns c.peer.1

/-- The state which that request finds. -/
def found (c : ServiceClient (peer S turns)) : State σ δ := after S c.peer.2 (turn c).others

/-- The client after an answer, when the handler leaves these stores and this session. -/
def answered (c : ServiceClient (peer S turns)) (sm : Message) (userData : σ) (info : RequestInformation δ) :
    ServiceClient (peer S turns) :=
  { c with
    authorizationToken := (info.cookieValue.map ("Bearer " ++ ·)).or c.authorizationToken
    lastMessageType := some sm.messageType
    nonInteroperableKdfRequired :=
      some (c.nonInteroperableKdfRequired.getD (!S.interoperableKdfAvailable))
    peer := (c.peer.1 + 1,
      ⟨Function.update (found c).sessions info.session.id (some (info.answered sm)), userData,
        storeSessionTtl (turn c).around (found c).sessionTtls info.session.id⟩) }

/-- The bytes of a request reach the handler of its route. -/
structure Delivered (c : ServiceClient (peer S turns)) (om sm : Message) (data : Bytes) (h : Handler σ δ)
    (info : RequestInformation δ) (body : h.Body) : Prop where
  plain : c.Plain om sm
  works : (turn c).Works
  route : S.routes (turn c).draws om.messageType = some h
  reply : h.om = sm
  received : receive P h (turn c).around (found c).sessions
    ⟨om.messageType, c.authorizationToken, !c.interoperableKdfAvailable, data⟩ = .ok (info, body)

variable {c : ServiceClient (peer S turns)} {om sm : Message} {data : Bytes} {h : Handler σ δ}
  {info : RequestInformation δ} {body : h.Body} {α : Type} {decode : Bytes → Outcome Error α}

theorem Delivered.respond (hd : Delivered c om sm data h info body) {reply : h.Reply}
    {info' : RequestInformation δ} {userData : σ} {val : Bytes}
    (hrun : h.run (found c).userData info body = (userData, .ok (reply, info')))
    (hkeys : info'.session.keys = .unencrypted) (hencode : h.encode reply = .ok val) :
    (peer S turns).respond c.peer
      ⟨om.messageType, c.authorizationToken, !c.interoperableKdfAvailable, data⟩ =
        ((answered c sm userData info').peer, some (toResponse S.interoperableKdfAvailable true sm.messageType val
          info'.cookieValue)) := by
  have hplain : h.om.encryptionRequirement = some .mustNotBeEncrypted := by
    rw [hd.reply]
    exact hd.plain.replyRequirement
  have hserve : serve P S.interoperableKdfAvailable (S.routes (turn c).draws) (turn c).around (found c)
      ⟨om.messageType, c.authorizationToken, !c.interoperableKdfAvailable, data⟩ = _ :=
    serve_handled hd.route hd.received hrun
  rw [conclude_plain hd.works.data hd.works.metadata hkeys hplain hencode, hd.reply] at hserve
  have hstep := congrArg Prod.fst hserve
  have hrespond := congrArg Prod.snd hserve
  exact Prod.ext (Prod.ext rfl hstep) hrespond

/-- What the handler replies is what the client gets. -/
theorem Delivered.answered (hd : Delivered c om sm data h info body) {reply : h.Reply}
    {info' : RequestInformation δ} {userData : σ} {val : Bytes} {value : α}
    (hrun : h.run (found c).userData info body = (userData, .ok (reply, info')))
    (hkeys : info'.session.keys = .unencrypted) (hencode : h.encode reply = .ok val)
    (hdecode : decode val = .ok value) :
    c.sendRequest P om sm (.ok data) decode none = .ok (value, answered c sm userData info') := by
  have hrespond := hd.respond hrun hkeys hencode
  have hplain := hd.plain
  simp only [ServiceClient.sendRequest, hplain.sequence, hplain.reply, hplain.keys, hplain.requirement,
    hplain.replyRequirement, Outcome.check, if_true, Outcome.ok_bind, requirementMet,
    EncryptionKeys.isSome_unencrypted, Option.isSome_none, Bool.or_false, Outcome.mapErr_ok,
    EncryptionKeys.encrypt_unencrypted, hrespond, Outcome.ofOption, ServiceClient.responseType, toResponse,
    Option.getD_none, EncryptionKeys.decrypt_unencrypted, hdecode]
  cases hcookie : info'.cookieValue with
  | none => simp [Shared.answered, hplain.keys, hcookie]
  | some cookie => simp [Shared.answered, hplain.keys, hcookie]

theorem sendRequest_taken {server : Peer} {c c' : ServiceClient server} {body : Outcome Error Bytes}
    {newKeys : Option EncryptionKeys} {value : α}
    (h : c.sendRequest P om sm body decode newKeys = .ok (value, c')) :
    ∃ req resp, c.prepare P om sm body newKeys = .ok req ∧ (server.respond c.peer req).2 = some resp ∧
      c'.peer = (server.respond c.peer req).1 ∧
      ServiceClient.Taken P sm decode ((c.advanced sm).sent newKeys (server.respond c.peer req).1) resp value c' := by
  rw [ServiceClient.sendRequest_eq_attempt] at h
  rcases ServiceClient.attempt_cases P om sm body decode newKeys c with ⟨_, hfailed⟩ | ⟨req, hprepare, heq⟩
  · cases hattempt : c.attempt P om sm body decode newKeys with
    | mk left result =>
        rw [hattempt] at h hfailed
        cases result with
        | ok found => exact absurd rfl (hfailed found)
        | err e => cases h
        | panic => cases h
  · rw [heq] at h
    cases hresp : (server.respond c.peer req).2 with
    | none =>
        rw [hresp] at h
        cases h
    | some resp =>
        rw [hresp] at h
        have htaken := fun value => @ServiceClient.takeResponse_ok _ _ P sm decode resp
          ((c.advanced sm).sent newKeys (server.respond c.peer req).1) value
        have hpeer := ServiceClient.awaitResponse_peer P sm decode (some resp)
          ((c.advanced sm).sent newKeys (server.respond c.peer req).1)
        cases hleft : ((c.advanced sm).sent newKeys (server.respond c.peer req).1).takeResponse P sm decode resp with
        | mk left result =>
            simp only [ServiceClient.awaitResponse, hleft] at h htaken hpeer
            cases result with
            | err e => cases h
            | panic => cases h
            | ok found =>
                obtain ⟨rfl, rfl⟩ := Prod.mk.inj (Outcome.ok.inj h)
                exact ⟨req, resp, hprepare, hresp, hpeer, htaken _ rfl⟩

/-- What is sent in the clear by a client without keys. -/
theorem prepare_plain {server : Peer} {c : ServiceClient server} {req : HttpRequest}
    (hkeys : c.encryptionKeys = .unencrypted) (hprepare : c.prepare P om sm (.ok data) none = .ok req) :
    req = ⟨om.messageType, c.authorizationToken, !c.interoperableKdfAvailable, data⟩ := by
  obtain ⟨bytes, hbytes, hencrypt⟩ := ServiceClient.prepare_body hprepare
  obtain ⟨htype, htoken, hkdf⟩ := (ServiceClient.prepare_ok hprepare).request
  cases hbytes
  rw [hkeys, EncryptionKeys.encrypt_unencrypted] at hencrypt
  obtain ⟨messageType, authorization, kdf, body⟩ := req
  cases hencrypt
  cases htype
  cases htoken
  cases hkdf
  rfl

/-- What the handler replies decides what the client gets. -/
theorem Delivered.answered_iff (hd : Delivered c om sm data h info body) {reply : h.Reply}
    {info' : RequestInformation δ} {userData : σ} {val : Bytes} {r : α × ServiceClient (peer S turns)}
    (hrun : h.run (found c).userData info body = (userData, .ok (reply, info')))
    (hkeys : info'.session.keys = .unencrypted) (hencode : h.encode reply = .ok val) :
    c.sendRequest P om sm (.ok data) decode none = .ok r ↔
      ∃ value, decode val = .ok value ∧ r = (value, Shared.answered c sm userData info') := by
  constructor
  · intro hsend
    obtain ⟨value, c'⟩ := r
    obtain ⟨req, resp, hprepare, hresp, _, htaken⟩ := sendRequest_taken hsend
    obtain rfl := prepare_plain hd.plain.keys hprepare
    rw [hd.respond hrun hkeys hencode] at hresp
    cases hresp
    obtain ⟨bytes, plain, hbytes, hdecrypt, hdecode⟩ := htaken.body
    have hclient : (((c.advanced sm).sent none (Shared.answered c sm userData info').peer).encryptionKeys) =
        .unencrypted := hd.plain.keys
    obtain rfl : val = bytes := Option.some.inj hbytes
    obtain rfl : val = plain := by
      rw [hd.respond hrun hkeys hencode] at hdecrypt
      rw [hclient, EncryptionKeys.decrypt_unencrypted] at hdecrypt
      exact Outcome.ok.inj hdecrypt
    rw [hd.answered hrun hkeys hencode hdecode] at hsend
    exact ⟨value, hdecode, (Outcome.ok.inj hsend).symm⟩
  · rintro ⟨value, hdecode, rfl⟩
    exact hd.answered hrun hkeys hencode hdecode

/-- Without a reply of the handler the client gets none. -/
theorem Delivered.refused (hd : Delivered c om sm data h info body)
    (hrun : ∀ r, (h.run (found c).userData info body).2 ≠ .ok r) (r : α × ServiceClient (peer S turns)) :
    c.sendRequest P om sm (.ok data) decode none ≠ .ok r := by
  obtain ⟨value, c'⟩ := r
  intro hsend
  obtain ⟨req, resp, hprepare, hresp, _, htaken⟩ := sendRequest_taken hsend
  obtain rfl := prepare_plain hd.plain.keys hprepare
  have hanswer : S.respond (found c) (.request (turn c).around (turn c).draws
      ⟨om.messageType, c.authorizationToken, !c.interoperableKdfAvailable, data⟩) = some resp := hresp
  obtain ⟨a, _⟩ := Service.respond_success hanswer htaken.success
  obtain ⟨around, draws, req, h', info', body', reply, info'', isRequest, hroute, haccepted⟩ := a
  cases isRequest
  cases hd.route.symm.trans hroute
  cases hd.received.symm.trans haccepted.received
  exact hrun _ haccepted.handled

end Request

end FidoOnboard.Shared
