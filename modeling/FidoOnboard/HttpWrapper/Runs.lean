import FidoOnboard.Base.Runs
import FidoOnboard.HttpWrapper.Server

/-!
# Runs of a server

Requests on any number of sessions, each one processed before the next. Between
them sessions are forgotten and the stores behind the handlers may change. The
cookies and nonces a run draws are distinct.
-/
namespace FidoOnboard.Server

/-- The routes of a server for what a request draws, the nonce among the draws, and
what may happen to its stores from outside. -/
structure Service (P : Platform) (ρ σ δ : Type) where
  interoperableKdfAvailable : Bool
  routes : ρ → MessageType → Option (Handler σ δ)
  nonce : ρ → Option Random16
  tended : σ → σ → Prop
  keepsId : ∀ {draws : ρ} {t : MessageType} {h : Handler σ δ} {userData : σ}
    {info info' : RequestInformation δ} {body : h.Body} {reply : h.Reply},
    routes draws t = some h → (h.run userData info body).2 = .ok (reply, info') →
      info'.session.id = info.session.id

inductive Input (ρ σ : Type) where
  | request (around : Surroundings) (draws : ρ) (req : HttpRequest)
  | forget (id : String)
  | tend (userData : σ)

variable {P : Platform} {ρ σ δ : Type} [Inhabited δ]

/-- The session id this input would give to a new session. -/
def Input.sessionId (P : Platform) : Input ρ σ → Option String
  | .request around _ _ => P.idFromCookieValue around.cookie
  | _ => none

def Input.isRequest : Input ρ σ → Bool
  | .request .. => true
  | _ => false

namespace Service

variable (S : Service P ρ σ δ)

def step (s : State σ δ) : Input ρ σ → State σ δ
  | .request around draws req =>
    (serve P S.interoperableKdfAvailable (S.routes draws) around s req).1
  | .forget id =>
    { s with
      sessions := Function.update s.sessions id none
      sessionTtls := Function.update s.sessionTtls id none }
  | .tend userData => { s with userData }

/-- What is sent in answer to an input. -/
def respond (s : State σ δ) : Input ρ σ → Option HttpResponse
  | .request around draws req =>
    (serve P S.interoperableKdfAvailable (S.routes draws) around s req).2
  | _ => none

def drawnNonce : Input ρ σ → Option Bytes
  | .request _ draws _ => (S.nonce draws).map Subtype.val
  | _ => none

abbrev Past (σ δ ρ : Type) := List (State σ δ × Input ρ σ)

/-- Nothing is drawn twice. -/
structure Allowed (past : Past σ δ ρ) (s : State σ δ) (input : Input ρ σ) : Prop where
  sessionId : ∀ m ∈ past, ∀ id, input.sessionId P = some id → m.2.sessionId P ≠ some id
  nonce : ∀ m ∈ past, ∀ n, S.drawnNonce input = some n → S.drawnNonce m.2 ≠ some n
  tended : ∀ userData, input = .tend userData → S.tended s.userData userData

/-- From an empty session store. -/
def Runs : Past σ δ ρ → State σ δ → Prop :=
  Run (fun s => ∀ id, s.sessions id = none) S.Allowed S.step

/-- A request that is accepted in state `s`: what came in, and what is written back. -/
structure Acceptance (s : State σ δ) (input : Input ρ σ) where
  around : Surroundings
  draws : ρ
  req : HttpRequest
  h : Handler σ δ
  info : RequestInformation δ
  body : h.Body
  reply : h.Reply
  info' : RequestInformation δ
  isRequest : input = .request around draws req
  route : S.routes draws req.messageType = some h
  accepted : Accepted P h around s req info body reply info'

namespace Acceptance

variable {S} {s : State σ δ} {input : Input ρ σ} (a : S.Acceptance s input)

def before : Session δ := a.info.session

def after : Session δ := a.info'.answered a.h.om

def id : String := a.before.id

theorem received : Received P a.h a.around s.sessions a.req a.info a.body :=
  receive_received a.accepted.received

theorem after_id : a.after.id = a.id :=
  S.keepsId a.route a.accepted.handled

theorem sessionId_eq : input.sessionId P = P.idFromCookieValue a.around.cookie :=
  congrArg (Input.sessionId P) a.isRequest

theorem step_eq : S.step s input = ⟨Function.update s.sessions a.id (some a.after),
    (a.h.run s.userData a.info a.body).1, storeSessionTtl a.around s.sessionTtls a.id⟩ := by
  have hserve : S.step s input =
      (fdoRequestFilter P S.interoperableKdfAvailable a.h a.around s a.req).1 := by
    have hstep := congrArg (S.step s) a.isRequest
    simpa only [step, serve, a.route] using hstep
  have hhandled := a.accepted.handled
  rw [hserve, fdoRequestFilter, a.accepted.received, ← after_id]
  cases hrun : a.h.run s.userData a.info a.body with
  | mk userData result =>
      rw [hrun] at hhandled
      obtain rfl : result = .ok (a.reply, a.info') := hhandled
      simp only [hrun, conclude, storeSession, a.accepted.stored, Bool.false_eq_true, if_false]
      rfl

/-- An input is accepted in one way. -/
theorem unique (b : S.Acceptance s input) : b = a := by
  obtain ⟨around, draws, req, h, info, body, reply, info', hrequest, hroute, haccepted⟩ := a
  obtain ⟨around₁, draws₁, req₁, h₁, info₁, body₁, reply₁, info₁', hrequest₁, hroute₁, haccepted₁⟩ := b
  cases hrequest
  cases hrequest₁
  obtain rfl := Option.some.inj (hroute.symm.trans hroute₁)
  obtain ⟨rfl, rfl⟩ := Prod.mk.inj (Outcome.ok.inj (haccepted.received.symm.trans haccepted₁.received))
  obtain ⟨rfl, rfl⟩ := Prod.mk.inj (Outcome.ok.inj (haccepted.handled.symm.trans haccepted₁.handled))
  rfl

theorem step_session : (S.step s input).sessions a.id = some a.after := by
  rw [a.step_eq]
  exact Function.update_self ..

end Acceptance

variable {S}

/-- One session under one step. -/
theorem step_sessions (s : State σ δ) (input : Input ρ σ) (id : String) :
    (S.step s input).sessions id = s.sessions id ∨ (S.step s input).sessions id = none ∨
      ∃ a : S.Acceptance s input, a.id = id ∧ (S.step s input).sessions id = some a.after := by
  cases input with
  | forget other =>
      by_cases h : id = other
      · exact .inr (.inl (by rw [h]; exact Function.update_self ..))
      · exact .inl (Function.update_of_ne h ..)
  | tend userData => exact .inl rfl
  | request around draws req =>
      cases hroute : S.routes draws req.messageType with
      | none => exact .inl (by simp only [step, serve, hroute])
      | some h =>
          have heffect := fdoRequestFilter_effect P S.interoperableKdfAvailable h around s req
          have hstep : S.step s (.request around draws req) =
              (fdoRequestFilter P S.interoperableKdfAvailable h around s req).1 := by
            simp only [step, serve, hroute]
          rw [hstep]
          generalize (fdoRequestFilter P S.interoperableKdfAvailable h around s req).1 = s' at *
          cases heffect with
          | refused => exact .inl rfl
          | failed _ => exact .inl rfl
          | accepted haccepted =>
              let a : S.Acceptance s (.request around draws req) :=
                ⟨around, draws, req, h, _, _, _, _, rfl, hroute, haccepted⟩
              by_cases hid : id = a.id
              · refine .inr (.inr ⟨a, hid.symm, ?_⟩)
                rw [hid, ← a.after_id]
                exact Function.update_self ..
              · refine .inl (Function.update_of_ne ?_ ..)
                rw [← a.after_id] at hid
                exact hid

/-- A request that was answered was accepted. -/
theorem accepted_of_ok {s : State σ δ} {around : Surroundings} {draws : ρ} {req : HttpRequest}
    {response : HttpResponse}
    (hok : (match S.routes draws req.messageType with
      | none => (s, .err .notFound)
      | some h => fdoRequestFilter P S.interoperableKdfAvailable h around s req :
        State σ δ × Outcome Rejection HttpResponse).2 = .ok response) :
    ∃ (a : S.Acceptance s (.request around draws req)) (val data : Bytes),
      Sent P S.interoperableKdfAvailable a.h a.reply a.info' val data response := by
  cases hroute : S.routes draws req.messageType with
  | none => simp [hroute] at hok
  | some h =>
      simp only [hroute] at hok
      obtain ⟨info, body, reply, info', haccepted, val, data, hsent⟩ := fdoRequestFilter_sent hok
      exact ⟨⟨around, draws, req, h, info, body, reply, info', rfl, hroute, haccepted⟩, val, data, hsent⟩

/-- Every answer that is not an error comes from an accepted request. -/
theorem respond_sent {s : State σ δ} {input : Input ρ σ} {response : HttpResponse}
    (h : S.respond s input = some response) (hmessage : response.messageType ≠ .present .error) :
    ∃ (a : S.Acceptance s input) (val data : Bytes),
      Sent P S.interoperableKdfAvailable a.h a.reply a.info' val data response := by
  cases input with
  | forget id => cases h
  | tend userData => cases h
  | request around draws req => exact accepted_of_ok (handleRejection_answer h hmessage)

theorem respond_success {s : State σ δ} {input : Input ρ σ} {response : HttpResponse}
    (h : S.respond s input = some response) (hsuccess : response.success = true) :
    ∃ (a : S.Acceptance s input) (val data : Bytes),
      Sent P S.interoperableKdfAvailable a.h a.reply a.info' val data response := by
  cases input with
  | forget id => cases h
  | tend userData => cases h
  | request around draws req => exact accepted_of_ok (handleRejection_success h hsuccess)

/-- Every answer of a server, error or not, carries the same flag. -/
theorem respond_kdf {s : State σ δ} {input : Input ρ σ} {response : HttpResponse}
    (h : S.respond s input = some response) :
    response.nonInteroperableKdf = !S.interoperableKdfAvailable := by
  cases input with
  | forget id => cases h
  | tend userData => cases h
  | request around draws req =>
      refine handleRejection_kdf h ?_
      intro sent hsent
      obtain ⟨_, _, _, hsent⟩ := accepted_of_ok hsent
      rw [hsent.response]
      rfl

theorem respond_answered {s : State σ δ} {input : Input ρ σ} {response : HttpResponse}
    (h : S.respond s input = some response) (hmessage : response.messageType ≠ .present .error) :
    ∃ a : S.Acceptance s input,
      Answered P a.h a.around s a.req a.info a.body a.reply a.info' response := by
  obtain ⟨a, val, data, hsent⟩ := respond_sent h hmessage
  exact ⟨a, hsent.answered a.accepted⟩

/-- The stores change only under a handler that has started. -/
theorem step_userData (s : State σ δ) (around : Surroundings) (draws : ρ) (req : HttpRequest) :
    (S.step s (.request around draws req)).userData = s.userData ∨ ∃ h info body,
      S.routes draws req.messageType = some h ∧ receive P h around s.sessions req = .ok (info, body) ∧
        (S.step s (.request around draws req)).userData = (h.run s.userData info body).1 := by
  cases hroute : S.routes draws req.messageType with
  | none => exact .inl (by simp only [step, serve, hroute])
  | some h =>
      have heffect := fdoRequestFilter_effect P S.interoperableKdfAvailable h around s req
      have hstep : S.step s (.request around draws req) =
          (fdoRequestFilter P S.interoperableKdfAvailable h around s req).1 := by
        simp only [step, serve, hroute]
      rw [hstep]
      generalize (fdoRequestFilter P S.interoperableKdfAvailable h around s req).1 = s' at *
      cases heffect with
      | refused => exact .inl rfl
      | failed received => exact .inr ⟨h, _, _, rfl, received, rfl⟩
      | accepted haccepted => exact .inr ⟨h, _, _, rfl, haccepted.received, rfl⟩

/-- Sessions are stored under their own id, which was drawn for them. -/
theorem Runs.stored {past : Past σ δ ρ} {s : State σ δ} (run : S.Runs past s) :
    ∀ {id ses}, s.sessions id = some ses →
      ses.id = id ∧ ∃ m ∈ past, m.2.sessionId P = some id := by
  induction run with
  | start h =>
      intro id ses hses
      rw [h] at hses
      cases hses
  | @next past s input run ok ih =>
      intro id ses hses
      have hkept : ∀ {ses}, s.sessions id = some ses → ses.id = id ∧
          ∃ m ∈ (s, input) :: past, m.2.sessionId P = some id := by
        intro ses hses
        obtain ⟨hid, m, hm, hdrawn⟩ := ih hses
        exact ⟨hid, m, List.mem_cons_of_mem _ hm, hdrawn⟩
      rcases step_sessions s input id with hsame | hnone | ⟨a, hid, hafter⟩
      · rw [hsame] at hses
        exact hkept hses
      · rw [hnone] at hses
        cases hses
      · obtain rfl := Option.some.inj (hafter.symm.trans hses)
        refine ⟨a.after_id.trans hid, ?_⟩
        have horigin := a.received.origin
        generalize hbefore : a.info.session = before at horigin
        have hbid : before.id = id := hbefore ▸ hid
        cases horigin with
        | stored _ _ hfound =>
            have hnamed := (ih hfound).1
            rw [hbid] at hnamed
            rw [← hnamed] at hfound
            exact (hkept hfound).2
        | fresh hdrawn _ =>
            refine ⟨(s, input), List.mem_cons_self, ?_⟩
            exact a.sessionId_eq.trans (hbid ▸ hdrawn)

/-- A session that was ever stored has an id that no later step draws. -/
theorem Runs.seen {past : Past σ δ ρ} {s : State σ δ} (run : S.Runs past s) {m : State σ δ × Input ρ σ}
    (hm : m ∈ past) {id : String} {ses : Session δ} (hses : m.1.sessions id = some ses) :
    ∃ m' ∈ past, m'.2.sessionId P = some id := by
  obtain ⟨before, hrun, _, hsub⟩ := Run.of_mem run hm
  obtain ⟨_, m', hm', hdrawn⟩ := Runs.stored (S := S) hrun hses
  exact ⟨m', hsub m' hm', hdrawn⟩

/-- An accepted request continues a stored session, or starts one that no state of the
run has seen. -/
theorem Runs.origin {past : Past σ δ ρ} {s : State σ δ} {input : Input ρ σ} (run : S.Runs past s)
    (ok : S.Allowed past s input) (a : S.Acceptance s input) :
    s.sessions a.id = some a.before ∨
      a.before = ⟨a.id, none, none, default⟩ ∧ input.sessionId P = some a.id ∧
        s.sessions a.id = none ∧ ∀ m ∈ past, m.1.sessions a.id = none := by
  have horigin := a.received.origin
  have hbefore : a.before = a.info.session := rfl
  have haid : a.id = a.info.session.id := rfl
  generalize a.info.session = before at hbefore haid horigin
  cases horigin with
  | stored _ _ hfound =>
      left
      rw [haid, hbefore, (run.stored hfound).1]
      exact hfound
  | @fresh id hdrawn _ =>
      right
      have hinput : input.sessionId P = some a.id := by
        rw [a.sessionId_eq, haid]
        exact hdrawn
      refine ⟨by rw [hbefore, haid], hinput, ?_, ?_⟩
      · cases hs : s.sessions a.id with
        | none => rfl
        | some ses =>
            obtain ⟨_, m, hm, hd⟩ := run.stored hs
            exact absurd hd (ok.sessionId m hm _ hinput)
      · intro m hm
        cases hs : m.1.sessions a.id with
        | none => rfl
        | some ses =>
            obtain ⟨m', hm', hd⟩ := run.seen hm hs
            exact absurd hd (ok.sessionId m' hm' _ hinput)

/-- A request that needs one before it reads a stored session. -/
theorem Runs.received_stored {past : Past σ δ ρ} {s : State σ δ} (run : S.Runs past s) {h : Handler σ δ}
    {around : Surroundings} {req : HttpRequest} {info : RequestInformation δ} {body : h.Body}
    (hr : receive P h around s.sessions req = .ok (info, body))
    (hlast : info.session.lastMessageType ≠ none) : s.sessions info.session.id = some info.session := by
  have horigin := (receive_received hr).origin
  generalize info.session = ses at horigin hlast
  cases horigin with
  | stored _ _ hfound =>
      rw [(run.stored hfound).1]
      exact hfound
  | fresh _ _ => exact absurd rfl hlast

/-- A property of stored sessions and the past, established by the request that starts a
session and kept by those that continue it. -/
theorem Runs.sessions_induct {I : Past σ δ ρ → Session δ → Prop}
    (mono : ∀ m past ses, I past ses → I (m :: past) ses)
    (new : ∀ {past s input}, S.Runs past s → S.Allowed past s input → ∀ a : S.Acceptance s input,
      a.before = ⟨a.id, none, none, default⟩ → input.sessionId P = some a.id →
        I ((s, input) :: past) a.after)
    (continued : ∀ {past s input}, S.Runs past s → S.Allowed past s input →
      ∀ a : S.Acceptance s input, s.sessions a.id = some a.before → I past a.before →
        I ((s, input) :: past) a.after)
    {past : Past σ δ ρ} {s : State σ δ} (run : S.Runs past s) :
    ∀ {id ses}, s.sessions id = some ses → I past ses := by
  induction run with
  | start h =>
      intro id ses hses
      rw [h] at hses
      cases hses
  | @next past s input run ok ih =>
      intro id ses hses
      rcases step_sessions (S := S) s input id with hsame | hnone | ⟨a, rfl, hafter⟩
      · rw [hsame] at hses
        exact mono _ _ _ (ih hses)
      · rw [hnone] at hses
        cases hses
      · obtain rfl := Option.some.inj (hafter.symm.trans hses)
        rcases Runs.origin run ok a with hstored | ⟨hnew, hdrawn, _⟩
        · exact continued run ok a hstored (ih hstored)
        · exact new run ok a hnew hdrawn

/-- A session that is gone does not come back: its id would be drawn again. -/
theorem Runs.gone {past : Past σ δ ρ} {s : State σ δ} {input : Input ρ σ} (run : S.Runs past s)
    (ok : S.Allowed past s input) {id : String} (hdrawn : ∃ m ∈ past, m.2.sessionId P = some id)
    (hs : s.sessions id = none) : (S.step s input).sessions id = none := by
  rcases step_sessions (S := S) s input id with hsame | hnone | ⟨a, rfl, _⟩
  · rw [hsame, hs]
  · exact hnone
  · rcases run.origin ok a with hstored | ⟨_, hinput, _⟩
    · rw [hs] at hstored
      cases hstored
    · obtain ⟨m, hm, hd⟩ := hdrawn
      exact absurd hd (ok.sessionId m hm _ hinput)

/-- The id of a session that was ever accepted on was drawn by then. -/
theorem Runs.accepted_drawn {past : Past σ δ ρ} {s : State σ δ} (run : S.Runs past s)
    {m : State σ δ × Input ρ σ} (hm : m ∈ past) (a : S.Acceptance m.1 m.2) :
    ∃ m' ∈ past, m'.2.sessionId P = some a.id := by
  obtain ⟨before, hrun, hok, hsub⟩ := Run.of_mem run hm
  obtain ⟨_, m', hm', hdrawn⟩ := Runs.stored (S := S) (Run.next hrun hok) a.step_session
  rcases List.mem_cons.mp hm' with rfl | hm'
  · exact ⟨m, hm, hdrawn⟩
  · exact ⟨m', hsub m' hm', hdrawn⟩

section Kept

/-! A relation that every accepted request keeps between a session before and after holds
between any two times at which the session is stored. -/

variable {K : Session δ → Session δ → Prop} (refl : ∀ ses, K ses ses)
  (trans : ∀ {a b c}, K a b → K b c → K a c)
  (keeps : ∀ {past s input}, S.Runs past s → S.Allowed past s input →
    ∀ a : S.Acceptance s input, s.sessions a.id = some a.before → K a.before a.after)

include refl keeps

theorem Runs.kept_step {past : Past σ δ ρ} {s : State σ δ} {input : Input ρ σ} (run : S.Runs past s)
    (ok : S.Allowed past s input) {id : String} {ses ses' : Session δ} (hses : s.sessions id = some ses)
    (hses' : (S.step s input).sessions id = some ses') : K ses ses' := by
  rcases step_sessions (S := S) s input id with hsame | hnone | ⟨a, rfl, hafter⟩
  · rw [hsame, hses] at hses'
    exact Option.some.inj hses' ▸ refl ses
  · rw [hnone] at hses'
    cases hses'
  · obtain rfl := Option.some.inj (hafter.symm.trans hses')
    rcases run.origin ok a with hstored | ⟨_, _, hnone, _⟩
    · obtain rfl := Option.some.inj (hses.symm.trans hstored)
      exact keeps run ok a hses
    · rw [hses] at hnone
      cases hnone

include trans

theorem Runs.kept {past : Past σ δ ρ} {s : State σ δ} (run : S.Runs past s) :
    ∀ m ∈ past, ∀ {id ses ses'}, m.1.sessions id = some ses → s.sessions id = some ses' → K ses ses' := by
  intro m hm id ses ses' hses hses'
  induction run generalizing ses' with
  | start h => cases hm
  | @next past s input run ok ih =>
      rcases List.mem_cons.mp hm with rfl | hm
      · exact Runs.kept_step refl keeps run ok hses hses'
      · cases hs : s.sessions id with
        | some mid => exact trans (ih hm hs) (Runs.kept_step refl keeps run ok hs hses')
        | none =>
            rw [Runs.gone run ok (Runs.seen run hm hses) hs] at hses'
            cases hses'

/-- The same from what an accepted request wrote back. -/
theorem Runs.kept_after {past : Past σ δ ρ} {s : State σ δ} (run : S.Runs past s) :
    ∀ m ∈ past, ∀ a : S.Acceptance m.1 m.2, ∀ {ses}, s.sessions a.id = some ses → K a.after ses := by
  intro m hm a ses hses
  induction run generalizing ses with
  | start h => cases hm
  | @next past s input run ok ih =>
      rcases List.mem_cons.mp hm with rfl | hm
      · exact Option.some.inj (a.step_session.symm.trans hses) ▸ refl _
      · cases hs : s.sessions a.id with
        | some mid => exact trans (ih hm hs) (Runs.kept_step refl keeps run ok hs hses)
        | none =>
            rw [Runs.gone run ok (Runs.accepted_drawn run hm a) hs] at hses
            cases hses

end Kept

/-! ## The life of one session -/

/-- The accepted requests that made a session what it is, latest first: the first one
started it, each other one continued what the one before it wrote. -/
inductive Journey (S : Service P ρ σ δ) : Past σ δ ρ → Session δ → Prop where
  | start {m : State σ δ × Input ρ σ} (a : S.Acceptance m.1 m.2)
      (new : a.before = ⟨a.id, none, none, default⟩) : Journey S [m] a.after
  | next {m : State σ δ × Input ρ σ} {ms : Past σ δ ρ} (a : S.Acceptance m.1 m.2)
      (earlier : Journey S ms a.before) : Journey S (m :: ms) a.after

theorem Journey.answered {ms : Past σ δ ρ} {ses : Session δ} (h : S.Journey ms ses) :
    ses.lastMessageType ≠ none := by
  cases h with
  | start a _ => exact nofun
  | next a _ => exact nofun

/-- The last step of a journey. -/
theorem Journey.last {ms : Past σ δ ρ} {ses : Session δ} (h : S.Journey ms ses) :
    ∃ m rest, ms = m :: rest ∧ ∃ a : S.Acceptance m.1 m.2, a.after = ses ∧
      (a.before = ⟨a.id, none, none, default⟩ ∧ rest = [] ∨ S.Journey rest a.before) := by
  cases h with
  | @start m a new => exact ⟨m, [], rfl, a, rfl, .inl ⟨new, rfl⟩⟩
  | @next m ms a earlier => exact ⟨m, ms, rfl, a, rfl, .inr earlier⟩

/-- Every stored session has its journey in the past, and no other request was accepted on it. -/
theorem Runs.journey {past : Past σ δ ρ} {s : State σ δ} (run : S.Runs past s) {id : String}
    {ses : Session δ} (hses : s.sessions id = some ses) : ∃ ms, ms.Sublist past ∧ S.Journey ms ses ∧
      ∀ m ∈ past, ∀ a : S.Acceptance m.1 m.2, a.id = id → m ∈ ms := by
  induction run generalizing ses with
  | start h =>
      rw [h] at hses
      cases hses
  | @next past s input run ok ih =>
      by_cases hacc : ∃ a : S.Acceptance s input, a.id = id
      · obtain ⟨a, rfl⟩ := hacc
        obtain rfl := Option.some.inj (a.step_session.symm.trans hses)
        rcases Runs.origin run ok a with hstored | ⟨hnew, hdrawn, _⟩
        · obtain ⟨ms, hsub, hjourney, hall⟩ := ih hstored
          refine ⟨(s, input) :: ms, hsub.cons_cons _, .next (m := (s, input)) a hjourney, ?_⟩
          intro m hm a' hid
          rcases List.mem_cons.mp hm with rfl | hm
          · exact List.mem_cons_self
          · exact List.mem_cons_of_mem _ (hall m hm a' hid)
        · refine ⟨[(s, input)], (List.nil_sublist past).cons_cons _, .start (m := (s, input)) a hnew, ?_⟩
          intro m hm a' hid
          rcases List.mem_cons.mp hm with rfl | hm
          · exact List.mem_cons_self
          · obtain ⟨m', hm', hd⟩ := Runs.accepted_drawn run hm a'
            exact absurd (hid ▸ hd) (ok.sessionId m' hm' _ hdrawn)
      · rcases step_sessions (S := S) s input id with hsame | hnone | ⟨a, hid, _⟩
        · obtain ⟨ms, hsub, hjourney, hall⟩ := ih (hsame ▸ hses)
          refine ⟨ms, hsub.cons _, hjourney, ?_⟩
          intro m hm a' hid
          rcases List.mem_cons.mp hm with rfl | hm
          · exact absurd ⟨a', hid⟩ hacc
          · exact hall m hm a' hid
        · rw [hnone] at hses
          cases hses
        · exact absurd ⟨a, hid⟩ hacc

/-- Moments of a run that drew the same nonce are the same moment. -/
theorem Runs.nonce_unique {past : Past σ δ ρ} {s : State σ δ} (run : S.Runs past s)
    {m m' : State σ δ × Input ρ σ} (hm : m ∈ past) (hm' : m' ∈ past) {n : Bytes}
    (hn : S.drawnNonce m.2 = some n) (hn' : S.drawnNonce m'.2 = some n) : m = m' := by
  induction run with
  | start h => cases hm
  | @next past s input run ok ih =>
      rcases List.mem_cons.mp hm with rfl | hm
      · rcases List.mem_cons.mp hm' with rfl | hm'
        · rfl
        · exact absurd hn' (ok.nonce m' hm' n hn)
      · rcases List.mem_cons.mp hm' with rfl | hm'
        · exact absurd hn (ok.nonce m hm n hn')
        · exact ih hm hm'

/-! ## Runs from a list of requests -/

/-- The run a list of inputs makes, from a past on. -/
def replay (S : Service P ρ σ δ) : Past σ δ ρ → State σ δ → List (Input ρ σ) → Past σ δ ρ × State σ δ
  | past, s, [] => (past, s)
  | past, s, input :: rest => replay S ((s, input) :: past) (S.step s input) rest

theorem replay_concat (past : Past σ δ ρ) (s : State σ δ) (inputs : List (Input ρ σ))
    (last : Input ρ σ) : S.replay past s (inputs ++ [last]) =
      (((S.replay past s inputs).2, last) :: (S.replay past s inputs).1,
        S.step (S.replay past s inputs).2 last) := by
  induction inputs generalizing past s with
  | nil => rfl
  | cons input rest ih => exact ih _ _

/-- What neither of two inputs draws a second time. -/
def Distinct (S : Service P ρ σ δ) (a b : Input ρ σ) : Prop :=
  (b.sessionId P = none ∨ a.sessionId P ≠ b.sessionId P) ∧
    (S.drawnNonce b = none ∨ S.drawnNonce a ≠ S.drawnNonce b)

instance (S : Service P ρ σ δ) : DecidableRel S.Distinct :=
  fun _ _ => inferInstanceAs (Decidable (_ ∧ _))

omit [Inhabited δ] in
theorem allowed_of_distinct {past : Past σ δ ρ} {s : State σ δ} {input : Input ρ σ}
    (hrequest : input.isRequest = true) (hdistinct : ∀ m ∈ past, S.Distinct m.2 input) :
    S.Allowed past s input where
  sessionId m hm id hid heq := by
    rcases (hdistinct m hm).1 with hnone | hne
    · rw [hnone] at hid
      cases hid
    · exact hne (heq.trans hid.symm)
  nonce m hm n hn heq := by
    rcases (hdistinct m hm).2 with hnone | hne
    · rw [hnone] at hn
      cases hn
    · exact hne (heq.trans hn.symm)
  tended userData htend := by
    rw [htend] at hrequest
    cases hrequest

/-- Inputs that are allowed as long as nothing is drawn twice make a run. -/
theorem run_replay {start : State σ δ → Prop} {allowed : Past σ δ ρ → State σ δ → Input ρ σ → Prop}
    {past : Past σ δ ρ} {s : State σ δ} (run : Run start allowed S.step past s)
    {inputs : List (Input ρ σ)}
    (hallowed : ∀ input ∈ inputs, ∀ past s, (∀ m ∈ past, S.Distinct m.2 input) → allowed past s input)
    (hdistinct : inputs.Pairwise S.Distinct)
    (hpast : ∀ m ∈ past, ∀ input ∈ inputs, S.Distinct m.2 input) :
    Run start allowed S.step (S.replay past s inputs).1 (S.replay past s inputs).2 := by
  induction inputs generalizing past s with
  | nil => exact run
  | cons input rest ih =>
      have hok : allowed past s input :=
        hallowed input List.mem_cons_self past s fun m hm => hpast m hm _ List.mem_cons_self
      apply ih (Run.next run hok)
      · exact fun other hother => hallowed other (List.mem_cons_of_mem _ hother)
      · exact hdistinct.of_cons
      · intro m hm other hother
        rcases List.mem_cons.mp hm with rfl | hm
        · exact List.rel_of_pairwise_cons hdistinct hother
        · exact hpast m hm other (List.mem_cons_of_mem _ hother)

theorem Runs.replay {past : Past σ δ ρ} {s : State σ δ} (run : S.Runs past s) {inputs : List (Input ρ σ)}
    (hrequests : ∀ input ∈ inputs, input.isRequest = true) (hdistinct : inputs.Pairwise S.Distinct)
    (hpast : ∀ m ∈ past, ∀ input ∈ inputs, S.Distinct m.2 input) :
    S.Runs (S.replay past s inputs).1 (S.replay past s inputs).2 :=
  run_replay run (fun input hinput _ _ h => allowed_of_distinct (hrequests input hinput) h) hdistinct hpast

end Service
end FidoOnboard.Server
