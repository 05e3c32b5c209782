import FidoOnboard.HttpWrapper.Attempt
import FidoOnboard.HttpWrapper.Runs

/-!
# One client and one server

The client calls the server in any order. Each call may fail before anything is
sent, on the way, at the server, or when its answer is lost after the server has
stored its session.
-/
namespace FidoOnboard.LockStep
open Server

/-- What becomes of a request that is sent. -/
inductive Fate where
  | lost
  | unanswered
  | cut
  | delivered
  deriving DecidableEq, Repr

/-- The way of the next request, and what the server draws on it. -/
structure Delivery (ρ : Type) where
  fate : Fate
  around : Surroundings
  draws : ρ

variable {P : Platform} {ρ σ δ : Type} [Inhabited δ]

/-- The answer as it arrives; the body of one that is cut cannot be read. -/
def Fate.arrives (fate : Fate) (response : Option HttpResponse) : Option HttpResponse :=
  match fate with
  | .lost => none
  | .unanswered => none
  | .cut => response.map fun r => { r with body := none }
  | .delivered => response

/-- A server at the end of such a connection. -/
def peer (S : Service P ρ σ δ) : Peer where
  State := State σ δ × Delivery ρ
  respond world req :=
    let (s, delivery) := world
    let input : Input ρ σ := .request delivery.around delivery.draws req
    ((if delivery.fate = .lost then s else S.step s input, delivery),
      delivery.fate.arrives (S.respond s input))

abbrev Client (S : Service P ρ σ δ) := ServiceClient (peer S)

variable {S : Service P ρ σ δ}

/-- The server's side of a client's world. -/
def server (c : Client S) : State σ δ := c.peer.1

/-- The arguments of one `send_request`. -/
structure Call where
  om : Message
  sm : Message
  Reply : Type
  body : Outcome Error Bytes
  decode : Bytes → Outcome Error Reply
  newKeys : Option EncryptionKeys

inductive Event (ρ σ : Type) where
  | call (call : Call) (delivery : Delivery ρ)
  | forget (id : String)
  | tend (userData : σ)

/-- The client before a call whose request goes the way of `delivery`. -/
def facing (c : Client S) (delivery : Delivery ρ) : Client S :=
  { c with peer := (server c, delivery) }

def Call.request (call : Call) (c : Client S) : Outcome RequestError HttpRequest :=
  c.prepare P call.om call.sm call.body call.newKeys

def Call.attempt (call : Call) (delivery : Delivery ρ) (c : Client S) :
    Client S × Outcome RequestError call.Reply :=
  (facing c delivery).attempt P call.om call.sm call.body call.decode call.newKeys

/-- Sessions are forgotten and the stores behind the handlers change between calls. -/
def step (c : Client S) : Event ρ σ → Client S
  | .call call delivery => (call.attempt delivery c).1
  | .forget id => { c with peer := (S.step (server c) (.forget id), c.peer.2) }
  | .tend userData => { c with peer := (S.step (server c) (.tend userData), c.peer.2) }

/-- What the program's calls keep to: messages of the table, new keys with the message of the
exchange alone, made by one of the two constructors. When the server's handler accepts that
very message, it sets the keys that are passed. -/
structure Fits (exchange : MessageType) (c : Client S) (call : Call) (delivery : Delivery ρ) : Prop where
  request : call.om ∈ Message.all
  reply : call.sm ∈ Message.all
  newKeys : ∀ keys, call.newKeys = some keys →
    call.om.messageType = exchange ∧ (keys = .unencrypted ∨ keys.isSome = true)
  agreed : ∀ req (a : S.Acceptance (server c) (.request delivery.around delivery.draws req)),
    call.request c = .ok req → delivery.fate ≠ .lost → call.om.messageType = exchange →
      a.after.encryptionKeys = call.newKeys
  cookie : ' ' ∉ delivery.around.cookie.toList

def Allowed (exchange : MessageType) (_past : List (Client S × Event ρ σ)) (c : Client S) :
    Event ρ σ → Prop
  | .call call delivery => Fits exchange c call delivery
  | _ => True

/-- A new client, and a server without sessions. -/
def Start (c : Client S) : Prop :=
  (∃ available world, c = ServiceClient.new available world) ∧ ∀ id, (server c).sessions id = none

def Runs (S : Service P ρ σ δ) (exchange : MessageType) : List (Client S × Event ρ σ) → Client S → Prop :=
  Run Start (Allowed exchange) step

/-! ## What is kept -/

/-- The session of the client's token is where the client is. -/
def InLockStep (c : Client S) : Prop :=
  ∃ token id ses, c.authorizationToken = some token ∧
    P.idFromCookieValue (bearerToken token) = some id ∧ (server c).sessions id = some ses ∧
    ses.lastMessageType = c.lastMessageType ∧ ses.keys = c.encryptionKeys

/-- What one call does with messages that must be encrypted: the bytes that are sent come out
of an encryption, and what is accepted was decrypted. -/
structure NeverInClear (c : Client S) (call : Call) (delivery : Delivery ρ) : Prop where
  requestSent : ∀ req, call.request c = .ok req →
    call.om.encryptionRequirement = some .mustBeEncrypted →
      ∃ key plain, P.coseEncrypt key plain = some req.body
  requestAccepted : ∀ req (a : S.Acceptance (server c) (.request delivery.around delivery.draws req)),
    a.h.im.encryptionRequirement = some .mustBeEncrypted →
      ∃ key plain, P.coseDecrypt key req.body = some plain ∧ a.h.decode plain = .ok a.body
  replySent : ∀ req response m,
    S.respond (server c) (.request delivery.around delivery.draws req) = some response →
    m ∈ Message.all → response.messageType = .present m.messageType →
    m.encryptionRequirement = some .mustBeEncrypted →
      ∃ data key plain, response.body = some data ∧ P.coseEncrypt key plain = some data
  replyAccepted : ∀ value, (call.attempt delivery c).2 = .ok value →
    call.sm.encryptionRequirement = some .mustBeEncrypted →
      ∃ req response data key plain, call.request c = .ok req ∧
        S.respond (server c) (.request delivery.around delivery.draws req) = some response ∧
        response.body = some data ∧ P.coseDecrypt key data = some plain ∧ call.decode plain = .ok value

/-- What the messages and handlers of a server give the two sides to rely on. -/
structure Disciplined (S : Service P ρ σ δ) (exchange : MessageType) : Prop where
  routed : ∀ {draws : ρ} {t : MessageType} {h : Handler σ δ}, S.routes draws t = some h →
    h.im ∈ Message.all ∧ h.om ∈ Message.all ∧ h.im.messageType = t
  inClear : ∀ {m : Message}, m ∈ Message.all → m.messageType = exchange →
    m.encryptionRequirement = some .mustNotBeEncrypted
  keepsCookie : ∀ {draws : ρ} {t : MessageType} {h : Handler σ δ} {userData : σ}
    {info info' : RequestInformation δ} {body : h.Body} {reply : h.Reply},
    S.routes draws t = some h → (h.run userData info body).2 = .ok (reply, info') →
      info'.cookieValue = info.cookieValue
  keepsKeys : ∀ {draws : ρ} {t : MessageType} {h : Handler σ δ} {userData : σ}
    {info info' : RequestInformation δ} {body : h.Body} {reply : h.Reply},
    S.routes draws t = some h → (h.run userData info body).2 = .ok (reply, info') → t ≠ exchange →
      info'.session.encryptionKeys = info.session.encryptionKeys
  notPlain : ∀ {draws : ρ} {t : MessageType} {h : Handler σ δ} {key plain data : Bytes} {body : h.Body},
    S.routes draws t = some h → h.im.encryptionRequirement = none → P.coseEncrypt key plain = some data →
      h.decode data ≠ .ok body

/-- The keys of the client, and what the server has stored of it: whichever session has keys
has those of the client. -/
structure Invariant (c : Client S) : Prop where
  keys : c.encryptionKeys = .unencrypted ∨ c.encryptionKeys.isSome = true
  stored : ∀ {id ses}, (server c).sessions id = some ses →
    ses.id = id ∧ (ses.keys = .unencrypted ∨ ses.keys = c.encryptionKeys)

theorem Start.invariant {c : Client S} (h : Start c) : Invariant c := by
  obtain ⟨⟨available, world, rfl⟩, hempty⟩ := h
  refine ⟨.inl rfl, ?_⟩
  intro id ses hses
  rw [hempty] at hses
  cases hses

/-- A call in three parts: what the client is when the request is under way, what the server
is, and the answer it waits for. -/
theorem Call.attempt_cases (call : Call) (delivery : Delivery ρ) (c : Client S) :
    ((call.attempt delivery c).1 = facing c delivery ∨
      (call.attempt delivery c).1 = (facing c delivery).advanced call.sm) ∧
      (∀ value, (call.attempt delivery c).2 ≠ .ok value) ∨
    ∃ req, call.request c = .ok req ∧
      call.attempt delivery c =
        (((facing c delivery).advanced call.sm).sent call.newKeys
          (if delivery.fate = .lost then server c
            else S.step (server c) (.request delivery.around delivery.draws req), delivery)).awaitResponse
          P call.sm call.decode (delivery.fate.arrives
            (S.respond (server c) (.request delivery.around delivery.draws req))) :=
  ServiceClient.attempt_cases P call.om call.sm call.body call.decode call.newKeys (facing c delivery)

/-- The server after a call whose types fit, once its request is made. -/
theorem Call.server_sent {call : Call} {delivery : Delivery ρ} {c : Client S} {req : HttpRequest}
    (hom : call.om.isValidPreviousMessage c.lastMessageType = true)
    (hsm : call.sm.isValidPreviousMessage (some call.om.messageType) = true) (hreq : call.request c = .ok req) :
    server (call.attempt delivery c).1 = if delivery.fate = .lost then server c
      else S.step (server c) (.request delivery.around delivery.draws req) := by
  have hprepare : ((facing c delivery).advanced call.sm).prepare P call.om call.sm call.body call.newKeys =
    .ok req := hreq
  have hfacing : call.om.isValidPreviousMessage (facing c delivery).lastMessageType = true := hom
  unfold Call.attempt ServiceClient.attempt server
  simp only [hfacing, hsm, if_true, hprepare, ServiceClient.awaitResponse_peer]
  rfl

theorem Call.server_unsent {call : Call} {delivery : Delivery ρ} {c : Client S}
    (hreq : ∀ req, call.request c ≠ .ok req) : server (call.attempt delivery c).1 = server c := by
  rcases call.attempt_cases delivery c with ⟨hsame | hadvanced, _⟩ | ⟨req, hreq', _⟩
  · rw [hsame]
    rfl
  · rw [hadvanced]
    rfl
  · exact absurd hreq' (hreq req)

theorem Fate.arrives_eq_some {fate : Fate} {response : Option HttpResponse} {arrived : HttpResponse}
    (h : fate.arrives response = some arrived) :
    ∃ sent, response = some sent ∧ fate ≠ .lost ∧ arrived.success = sent.success ∧
      arrived.messageType = sent.messageType ∧ arrived.authorization = sent.authorization ∧
      arrived.nonInteroperableKdf = sent.nonInteroperableKdf ∧
      ∀ data, arrived.body = some data → sent.body = some data := by
  cases fate with
  | lost => cases h
  | unanswered => cases h
  | cut =>
      obtain ⟨sent, hsent, rfl⟩ := Option.map_eq_some_iff.mp h
      exact ⟨sent, hsent, by decide, rfl, rfl, rfl, rfl, fun _ hdata => nomatch hdata⟩
  | delivered => exact ⟨arrived, h, by decide, rfl, rfl, rfl, rfl, fun _ hdata => hdata⟩

/-- What an accepted request does to the keys of its session. -/
theorem Disciplined.keys_after {exchange : MessageType} (hS : Disciplined S exchange) {s : State σ δ}
    {input : Input ρ σ} (a : S.Acceptance s input) (hne : a.req.messageType ≠ exchange) :
    a.after.keys = a.before.keys := by
  have hkeys := hS.keepsKeys a.route a.accepted.handled hne
  exact congrArg (fun keys => Option.getD keys EncryptionKeys.unencrypted) hkeys

/-- The session a request works on has no keys or those of the client. -/
theorem Invariant.before {c : Client S} (hc : Invariant c) {input : Input ρ σ}
    (a : S.Acceptance (server c) input) :
    a.before.keys = .unencrypted ∨ a.before.keys = c.encryptionKeys := by
  have horigin := a.received.origin
  unfold Service.Acceptance.before
  generalize a.info.session = before at horigin
  cases horigin with
  | stored _ _ hfound => exact (hc.stored hfound).2
  | fresh _ _ => exact .inl rfl

/-- The header of a response is read back as the cookie it was made of. -/
theorem bearerToken_bearer {cookie : String} (h : ' ' ∉ cookie.toList) :
    bearerToken ("Bearer " ++ cookie) = cookie := by
  have hlist : ("Bearer " ++ cookie).toList = "Bearer".toList ++ ' ' :: cookie.toList := by
    simp [String.toList_append]
  have hsplit : (("Bearer " ++ cookie).toList.splitOn ' ') = ["Bearer".toList, cookie.toList] := by
    rw [hlist, List.splitOn_append_cons_self_of_not_mem (by decide), List.splitOn_eq_singleton h]
  unfold bearerToken
  rw [if_pos (by rw [hlist]; simp), hsplit]
  exact String.ofList_toList ..

section Calls

variable {exchange : MessageType} {c : Client S} {call : Call} {delivery : Delivery ρ} {req : HttpRequest}

/-- The keys are exchanged in the clear, by a client that has none. -/
theorem Fits.unencrypted (hS : Disciplined S exchange) (hfits : Fits exchange c call delivery)
    (hc : Invariant c) (hreq : call.request c = .ok req) (hom : call.om.messageType = exchange) :
    c.encryptionKeys = .unencrypted := by
  have hplain := (ServiceClient.prepare_ok hreq).plain (hS.inClear hfits.request hom)
  rcases hc.keys with hkeys | hsome
  · exact hkeys
  · rw [hplain] at hsome
    cases hsome

/-- The keys of the client once its request is under way. -/
theorem Fits.keys (hfits : Fits exchange c call delivery) (hc : Invariant c) :
    call.newKeys.getD c.encryptionKeys = .unencrypted ∨ (call.newKeys.getD c.encryptionKeys).isSome = true := by
  cases hnew : call.newKeys with
  | none => exact hc.keys
  | some keys => exact (hfits.newKeys keys hnew).2

/-- New keys are installed by a client that had none. -/
theorem Fits.keys_eq (hS : Disciplined S exchange) (hfits : Fits exchange c call delivery)
    (hc : Invariant c) (hreq : call.request c = .ok req) :
    c.encryptionKeys = .unencrypted ∨ call.newKeys.getD c.encryptionKeys = c.encryptionKeys := by
  cases hnew : call.newKeys with
  | none => exact .inr rfl
  | some keys => exact .inl (hfits.unencrypted hS hc hreq (hfits.newKeys keys hnew).1)

theorem Fits.newKeys_none (hfits : Fits exchange c call delivery) (hom : call.om.messageType ≠ exchange) :
    call.newKeys = none := by
  cases hnew : call.newKeys with
  | none => rfl
  | some keys => exact absurd (hfits.newKeys keys hnew).1 hom

theorem Call.request_type (hreq : call.request c = .ok req)
    (a : S.Acceptance (server c) (.request delivery.around delivery.draws req)) :
    a.req = req ∧ a.req.messageType = call.om.messageType := by
  obtain ⟨_, _, hsame⟩ := Input.request.inj a.isRequest
  rw [← hsame]
  exact ⟨rfl, (ServiceClient.prepare_ok hreq).request.1⟩

/-- What the server stores on a request of the client. -/
theorem Fits.after (hS : Disciplined S exchange) (hfits : Fits exchange c call delivery) (hc : Invariant c)
    (hreq : call.request c = .ok req) (hfate : delivery.fate ≠ .lost)
    (a : S.Acceptance (server c) (.request delivery.around delivery.draws req)) :
    a.after.keys = .unencrypted ∨ a.after.keys = call.newKeys.getD c.encryptionKeys := by
  obtain ⟨_, htype⟩ := Call.request_type hreq a
  by_cases hom : call.om.messageType = exchange
  · have hagreed := hfits.agreed req a hreq hfate hom
    unfold Session.keys
    rw [hagreed]
    cases hnew : call.newKeys with
    | none => exact .inl rfl
    | some keys => exact .inr rfl
  · rw [hS.keys_after a (by rw [htype]; exact hom), hfits.newKeys_none hom]
    exact hc.before a

/-- The sessions after a request that was sent. -/
theorem Fits.stored (hS : Disciplined S exchange) (hfits : Fits exchange c call delivery) (hc : Invariant c)
    (hreq : call.request c = .ok req) {id : String} {ses : Session δ}
    (hses : (if delivery.fate = .lost then server c
      else S.step (server c) (.request delivery.around delivery.draws req)).sessions id = some ses) :
    ses.id = id ∧ (ses.keys = .unencrypted ∨ ses.keys = call.newKeys.getD c.encryptionKeys) := by
  have hkept : ∀ {ses}, (server c).sessions id = some ses →
      ses.id = id ∧ (ses.keys = .unencrypted ∨ ses.keys = call.newKeys.getD c.encryptionKeys) := by
    intro ses hses
    obtain ⟨hid, hkeys⟩ := hc.stored hses
    rcases hfits.keys_eq hS hc hreq with hnone | hsame
    · rw [hnone, or_self] at hkeys
      exact ⟨hid, .inl hkeys⟩
    · exact ⟨hid, hsame.symm ▸ hkeys⟩
  by_cases hfate : delivery.fate = .lost
  · rw [if_pos hfate] at hses
    exact hkept hses
  · rw [if_neg hfate] at hses
    rcases Service.step_sessions (S := S) (server c) (.request delivery.around delivery.draws req) id with
      hsame | hnone | ⟨a, hid, hafter⟩
    · rw [hsame] at hses
      exact hkept hses
    · rw [hnone] at hses
      cases hses
    · obtain rfl := Option.some.inj (hafter.symm.trans hses)
      exact ⟨a.after_id.trans hid, hfits.after hS hc hreq hfate a⟩

theorem Fits.invariant (hS : Disciplined S exchange) (hfits : Fits exchange c call delivery)
    (hc : Invariant c) : Invariant (call.attempt delivery c).1 := by
  rcases call.attempt_cases delivery c with ⟨hsame | hadvanced, _⟩ | ⟨req, hreq, heq⟩
  · rw [hsame]
    exact ⟨hc.keys, hc.stored⟩
  · rw [hadvanced]
    exact ⟨hc.keys, hc.stored⟩
  · rw [heq]
    unfold ServiceClient.awaitResponse
    cases harrives : delivery.fate.arrives
      (S.respond (server c) (.request delivery.around delivery.draws req)) with
    | none => exact ⟨hfits.keys hc, hfits.stored hS hc hreq⟩
    | some resp =>
        obtain ⟨hawaits, _⟩ := ServiceClient.takeResponse_awaits P call.sm call.decode resp
          (((facing c delivery).advanced call.sm).sent call.newKeys
            (if delivery.fate = .lost then server c
              else S.step (server c) (.request delivery.around delivery.draws req), delivery))
        refine ⟨?_, ?_⟩
        · rw [hawaits.keys]
          exact hfits.keys hc
        · intro id ses hses
          rw [server, hawaits.peer] at hses
          rw [hawaits.keys]
          exact hfits.stored hS hc hreq hses

/-- Client and server have the same keys when the server accepts what the client sent. -/
theorem Fits.same_keys (hS : Disciplined S exchange) (hfits : Fits exchange c call delivery)
    (hc : Invariant c) (hreq : call.request c = .ok req) (hfate : delivery.fate ≠ .lost)
    (a : S.Acceptance (server c) (.request delivery.around delivery.draws req)) :
    a.after.keys = call.newKeys.getD c.encryptionKeys := by
  have hprepared := ServiceClient.prepare_ok hreq
  obtain ⟨hsame, htype⟩ := Call.request_type hreq a
  obtain ⟨him, _, hroute⟩ := hS.routed a.route
  have hom : a.h.im = call.om := Message.eq_of_messageType him hfits.request (hroute.trans htype)
  rcases hfits.after hS hc hreq hfate a with hnone | hkeys
  · rcases hfits.keys hc with hclient | hclient
    · rw [hnone, hclient]
    -- the server has no keys and the client does
    · exfalso
      by_cases hex : call.om.messageType = exchange
      · have hold := hfits.unencrypted hS hc hreq hex
        have hagreed := hfits.agreed req a hreq hfate hex
        unfold Session.keys at hnone
        rw [hagreed] at hnone
        rw [hold, hnone] at hclient
        cases hclient
      · rw [hfits.newKeys_none hex, Option.getD_none] at hclient
        rw [hS.keys_after a (by rw [htype]; exact hex)] at hnone
        have hreceived := a.received
        cases hrequirement : call.om.encryptionRequirement with
        | some requirement =>
            cases requirement with
            | mustBeEncrypted =>
                have hsome := hreceived.encrypted (by rw [hom]; exact hrequirement)
                change a.before.keys.isSome = true at hsome
                rw [hnone] at hsome
                cases hsome
            | mustNotBeEncrypted =>
                rw [hprepared.plain hrequirement] at hclient
                cases hclient
        | none =>
            obtain ⟨data, hdata⟩ := hprepared.body
            obtain ⟨key, hkey⟩ := EncryptionKeys.encrypt_of_isSome hclient hdata
            obtain ⟨plain, hplain, hdecode⟩ := hreceived.body
            change a.before.keys.decrypt P a.req.body = .ok plain at hplain
            rw [hnone, hsame] at hplain
            obtain rfl := Outcome.ok.inj hplain
            exact hS.notPlain a.route (by rw [hom]; exact hrequirement) hkey hdecode
  · exact hkeys

/-- The token the client has after an accepted request is the one of its session. -/
theorem Fits.token (hS : Disciplined S exchange) (hfits : Fits exchange c call delivery) (hc : Invariant c)
    (hreq : call.request c = .ok req)
    (a : S.Acceptance (server c) (.request delivery.around delivery.draws req)) :
    a.info'.cookieValue = none ∧ (∃ token, c.authorizationToken = some token ∧
      P.idFromCookieValue (bearerToken token) = some a.id) ∨
    ∃ cookie, a.info'.cookieValue = some cookie ∧ ' ' ∉ cookie.toList ∧
      P.idFromCookieValue cookie = some a.id := by
  obtain ⟨haround, _, hsame⟩ := Input.request.inj a.isRequest
  rw [hS.keepsCookie a.route a.accepted.handled]
  have hopen := (receive_opened a.accepted.received).1
  rw [← hsame, (ServiceClient.prepare_ok hreq).request.2.1] at hopen
  rcases openSession_cases hopen with ⟨hcookie, hdr, id, htoken, hid, hfound⟩ | ⟨hcookie, id, hid, hses, _⟩
  · refine .inl ⟨hcookie, hdr, htoken, ?_⟩
    rw [hid, ← (hc.stored hfound).1]
    rfl
  · refine .inr ⟨_, hcookie, ?_, ?_⟩
    · rw [← haround]
      exact hfits.cookie
    · rw [hid]
      unfold Service.Acceptance.id Service.Acceptance.before
      rw [hses]

/-- A call that returns a value: its request, the answer, and what the client took of it. -/
theorem Call.attempt_ok {value : call.Reply} (h : (call.attempt delivery c).2 = .ok value) :
    ∃ (req : HttpRequest) (arrived response : HttpResponse),
      call.request c = .ok req ∧ delivery.fate ≠ .lost ∧
      S.respond (server c) (.request delivery.around delivery.draws req) = some response ∧
      arrived.authorization = response.authorization ∧ response.success = true ∧
      response.messageType = .present call.sm.messageType ∧
      (∀ data, arrived.body = some data → response.body = some data) ∧
      ServiceClient.Taken P call.sm call.decode
        (((facing c delivery).advanced call.sm).sent call.newKeys
          (S.step (server c) (.request delivery.around delivery.draws req), delivery))
        arrived value (call.attempt delivery c).1 ∧
      ServiceClient.Awaits
        (((facing c delivery).advanced call.sm).sent call.newKeys
          (S.step (server c) (.request delivery.around delivery.draws req), delivery))
        (call.attempt delivery c).1 := by
  rcases call.attempt_cases delivery c with ⟨_, hfailed⟩ | ⟨req, hreq, heq⟩
  · exact absurd h (hfailed value)
  · cases harrives : delivery.fate.arrives
      (S.respond (server c) (.request delivery.around delivery.draws req)) with
    | none => simp [heq, harrives, ServiceClient.awaitResponse] at h
    | some arrived =>
        obtain ⟨response, hresponse, hfate, hsuccess, htype, hauth, _, hbody⟩ :=
          Fate.arrives_eq_some harrives
        rw [harrives, if_neg hfate] at heq
        simp only [ServiceClient.awaitResponse] at heq
        rw [heq] at h ⊢
        have htaken := ServiceClient.takeResponse_ok h
        exact ⟨req, arrived, response, hreq, hfate, hresponse, hauth, hsuccess ▸ htaken.success,
          htype ▸ htaken.messageType, hbody, htaken,
          (ServiceClient.takeResponse_awaits P call.sm call.decode arrived _).1⟩

/-- A call that returned a value, from both sides: the session the server stored is under the
token the client has now. -/
structure Exchanged (c : Client S) (call : Call) (delivery : Delivery ρ) (value : call.Reply) {req : HttpRequest}
    (a : S.Acceptance (server c) (.request delivery.around delivery.draws req)) (token : String) : Prop where
  request : call.request c = .ok req
  authorization : (call.attempt delivery c).1.authorizationToken = some token
  session : P.idFromCookieValue (bearerToken token) = some a.id
  stepped : server (call.attempt delivery c).1 = S.step (server c) (.request delivery.around delivery.draws req)
  last : a.after.lastMessageType = (call.attempt delivery c).1.lastMessageType
  keys : a.after.keys = (call.attempt delivery c).1.encryptionKeys
  answer : ∃ val data plain response, Sent P S.interoperableKdfAvailable a.h a.reply a.info' val data response ∧
    (call.attempt delivery c).1.encryptionKeys.decrypt P data = .ok plain ∧ call.decode plain = .ok value

theorem Fits.exchanged (hS : Disciplined S exchange) (hfits : Fits exchange c call delivery)
    (hc : Invariant c) {value : call.Reply} (h : (call.attempt delivery c).2 = .ok value) :
    ∃ (req : HttpRequest) (a : S.Acceptance (server c) (.request delivery.around delivery.draws req))
      (token : String), Exchanged c call delivery value a token := by
  obtain ⟨req, arrived, response, hreq, hfate, hresponse, hauth, hsuccess, htype, hbody, htaken, hawaits⟩ :=
    Call.attempt_ok h
  obtain ⟨a, val, data, hsent⟩ := Service.respond_success hresponse hsuccess
  have hserver : server (call.attempt delivery c).1 =
      S.step (server c) (.request delivery.around delivery.draws req) := by
    rw [server, hawaits.peer]
    rfl
  have hlast : a.after.lastMessageType = (call.attempt delivery c).1.lastMessageType := by
    rw [hawaits.last]
    rw [hsent.response] at htype
    exact congrArg some (TypeHeader.present.inj htype)
  have hkeys : a.after.keys = (call.attempt delivery c).1.encryptionKeys := by
    rw [hawaits.keys]
    exact hfits.same_keys hS hc hreq hfate a
  have hanswer : ∃ val data plain response,
      Sent P S.interoperableKdfAvailable a.h a.reply a.info' val data response ∧
      (call.attempt delivery c).1.encryptionKeys.decrypt P data = .ok plain ∧ call.decode plain = .ok value := by
    obtain ⟨data', plain, hdata, hplain, hdecode⟩ := htaken.body
    have hbody' := hbody data' hdata
    rw [hsent.response] at hbody'
    obtain rfl := Option.some.inj hbody'
    exact ⟨val, data, plain, response, hsent, by rw [hawaits.keys]; exact hplain, hdecode⟩
  have htoken := htaken.token
  rw [hauth, hsent.response] at htoken
  rcases hfits.token hS hc hreq a with ⟨hcookie, token, hold, hid⟩ | ⟨cookie, hcookie, hspace, hid⟩
  · refine ⟨req, a, token, hreq, ?_, hid, hserver, hlast, hkeys, hanswer⟩
    rw [hcookie] at htoken
    have hsame := congrArg ServiceClient.authorizationToken (Outcome.ok.inj htoken)
    rw [← hsame]
    exact hold
  · refine ⟨req, a, "Bearer " ++ cookie, hreq, ?_, ?_, hserver, hlast, hkeys, hanswer⟩
    · rw [hcookie] at htoken
      have hsame := congrArg ServiceClient.authorizationToken (Outcome.ok.inj htoken)
      exact hsame.symm
    · rw [bearerToken_bearer hspace]
      exact hid

/-- After a call that returns a value the server has stored the type the client is at, and the
client's keys, under the client's token. -/
theorem Fits.inLockStep (hS : Disciplined S exchange) (hfits : Fits exchange c call delivery)
    (hc : Invariant c) {value : call.Reply} (h : (call.attempt delivery c).2 = .ok value) :
    InLockStep (call.attempt delivery c).1 := by
  obtain ⟨req, a, token, hexchanged⟩ := hfits.exchanged hS hc h
  refine ⟨token, a.id, a.after, hexchanged.authorization, hexchanged.session, ?_, hexchanged.last, hexchanged.keys⟩
  rw [hexchanged.stepped]
  exact a.step_session

/-- Neither side sends or accepts in the clear what must be encrypted. -/
theorem Fits.neverInClear (hS : Disciplined S exchange) (hfits : Fits exchange c call delivery)
    (hc : Invariant c) : NeverInClear c call delivery where
  requestSent := by
    intro req hreq hmust
    have hprepared := ServiceClient.prepare_ok hreq
    obtain ⟨data, hdata⟩ := hprepared.body
    obtain ⟨key, hkey⟩ := EncryptionKeys.encrypt_of_isSome (hprepared.encrypted hmust) hdata
    exact ⟨key, data, hkey⟩
  requestAccepted := by
    intro req a hmust
    obtain ⟨_, _, hsame⟩ := Input.request.inj a.isRequest
    have hreceived := a.received
    obtain ⟨plain, hplain, hdecode⟩ := hreceived.body
    obtain ⟨key, hkey⟩ := EncryptionKeys.decrypt_of_isSome (hreceived.encrypted hmust) hplain
    exact ⟨key, plain, hsame ▸ hkey, hdecode⟩
  replySent := by
    intro req response m hresponse hm htype hmust
    have hne : response.messageType ≠ .present .error := by
      intro herror
      have hall : Message.errorMessage ∈ Message.all := by simp [Message.all]
      rw [Message.eq_of_messageType hm hall (TypeHeader.present.inj (htype.symm.trans herror))] at hmust
      cases hmust
    obtain ⟨a, val, data, hsent⟩ := Service.respond_sent hresponse hne
    rw [hsent.response] at htype ⊢
    have hom := Message.eq_of_messageType (hS.routed a.route).2.1 hm (TypeHeader.present.inj htype)
    obtain ⟨key, hkey⟩ := EncryptionKeys.encrypt_of_isSome
      (hsent.mustBeEncrypted (by rw [hom]; exact hmust)) hsent.encrypted
    exact ⟨data, key, val, rfl, hkey⟩
  replyAccepted := by
    intro value hok hmust
    obtain ⟨req, arrived, response, hreq, hfate, hresponse, hauth, hsuccess, htype, hbody, htaken, _⟩ :=
      Call.attempt_ok hok
    obtain ⟨data, plain, hdata, hplain, hdecode⟩ := htaken.body
    obtain ⟨a, val, sent, hsent⟩ := Service.respond_success hresponse hsuccess
    rw [hsent.response] at htype
    have hom := Message.eq_of_messageType (hS.routed a.route).2.1 hfits.reply
      (TypeHeader.present.inj htype)
    have hkeys := hsent.mustBeEncrypted (by rw [hom]; exact hmust)
    change a.after.keys.isSome = true at hkeys
    rw [hfits.same_keys hS hc hreq hfate a] at hkeys
    obtain ⟨key, hkey⟩ := EncryptionKeys.decrypt_of_isSome hkeys hplain
    exact ⟨req, response, data, key, plain, hreq, hresponse, hbody data hdata, hkey, hdecode⟩

end Calls

theorem Runs.invariant {exchange : MessageType} (hS : Disciplined S exchange)
    {past : List (Client S × Event ρ σ)} {c : Client S} (run : Runs S exchange past c) : Invariant c := by
  refine Run.invariant (I := fun _ c => Invariant c) (fun c hstart => hstart.invariant) ?_ run
  intro past c event hc hallowed
  cases event with
  | call call delivery => exact Fits.invariant hS hallowed hc
  | forget id =>
      refine ⟨hc.keys, ?_⟩
      intro other ses hses
      rcases Service.step_sessions (S := S) (server c) (.forget id) other with hsame | hnone | ⟨a, _⟩
      · exact hc.stored (hsame ▸ hses)
      · rw [server, step, hnone] at hses
        cases hses
      · cases a.isRequest
  | tend userData => exact ⟨hc.keys, hc.stored⟩

/-- Whatever calls were made and failed before, a call that returns a value leaves the two
sides in the same place. -/
theorem Runs.call {exchange : MessageType} (hS : Disciplined S exchange)
    {past : List (Client S × Event ρ σ)} {c : Client S} (run : Runs S exchange past c) {call : Call}
    {delivery : Delivery ρ} (hfits : Fits exchange c call delivery) :
    (∀ value, (call.attempt delivery c).2 = .ok value → InLockStep (call.attempt delivery c).1) ∧
      NeverInClear c call delivery :=
  ⟨fun _ h => hfits.inLockStep hS (run.invariant hS) h, hfits.neverInClear hS (run.invariant hS)⟩

end FidoOnboard.LockStep
