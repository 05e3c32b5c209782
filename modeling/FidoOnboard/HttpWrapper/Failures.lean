import FidoOnboard.HttpWrapper.Runs

/-!
# Requests that fail

The writes of a request in their order. The first that fails ends the request,
and those before it are not taken back.
-/
namespace FidoOnboard.Server

/-- A store operation, and whether it fails. -/
structure Write (α : Type) where
  fails : Bool
  apply : α → α

section

variable {α : Type}

/-- The writes up to the first that fails. -/
def carryOut : List (Write α) → α → α
  | [], a => a
  | w :: ws, a => if w.fails then a else carryOut ws (w.apply a)

theorem carryOut_refused {ws : List (Write α)} (h : ∀ w ∈ ws.head?, w.fails = true) (a : α) :
    carryOut ws a = a := by
  cases ws with
  | nil => rfl
  | cons w ws => exact if_pos (h w rfl)

theorem carryOut_append {ws ws' : List (Write α)} (h : ∀ w ∈ ws, w.fails = false) (a : α) :
    carryOut (ws ++ ws') a = carryOut ws' (carryOut ws a) := by
  induction ws generalizing a with
  | nil => rfl
  | cons w ws ih =>
      obtain ⟨hw, hws⟩ := List.forall_mem_cons.mp h
      simp only [List.cons_append, carryOut, hw, Bool.false_eq_true, if_false]
      exact ih hws _

end

variable {P : Platform} {ρ σ δ : Type}

def Write.onUserData (w : Write σ) : Write (State σ δ) :=
  ⟨w.fails, fun s => { s with userData := w.apply s.userData }⟩

/-- The sessions and the times to live beside them. -/
abbrev SessionFiles (δ : Type) := SessionStore δ × SessionTtls

def State.sessionFiles (s : State σ δ) : SessionFiles δ := (s.sessions, s.sessionTtls)

def State.withSessionFiles (s : State σ δ) (files : SessionFiles δ) : State σ δ :=
  { s with sessions := files.1, sessionTtls := files.2 }

def Write.onSessions (w : Write (SessionFiles δ)) : Write (State σ δ) :=
  ⟨w.fails, fun s => s.withSessionFiles (w.apply s.sessionFiles)⟩

theorem carryOut_onUserData (ws : List (Write σ)) (s : State σ δ) :
    carryOut (ws.map Write.onUserData) s = { s with userData := carryOut ws s.userData } := by
  induction ws generalizing s with
  | nil => rfl
  | cons w ws ih =>
      simp only [List.map_cons, carryOut, Write.onUserData]
      split
      · rfl
      · rw [ih]

theorem carryOut_onSessions (ws : List (Write (SessionFiles δ))) (s : State σ δ) :
    carryOut (ws.map Write.onSessions) s = s.withSessionFiles (carryOut ws s.sessionFiles) := by
  induction ws generalizing s with
  | nil => rfl
  | cons w ws ih =>
      simp only [List.map_cons, carryOut, Write.onSessions]
      split
      · rfl
      · rw [ih]
        rfl

/-- Writes to the sessions do not concern the other stores. -/
theorem carryOut_userData (ws : List (Write σ)) (ws' : List (Write (SessionFiles δ))) (s : State σ δ) :
    (carryOut (ws.map Write.onUserData ++ ws'.map Write.onSessions) s).userData = carryOut ws s.userData := by
  induction ws generalizing s with
  | nil =>
      rw [List.map_nil, List.nil_append, carryOut_onSessions, carryOut]
      rfl
  | cons w ws ih =>
      simp only [List.map_cons, List.cons_append, carryOut, Write.onUserData]
      split
      · rfl
      · rw [ih]

namespace Service

variable [Inhabited δ] (S : Service P ρ σ δ)

/-- The two writes of `store_session`: the session, which takes the old file's place, and then
its time to live. -/
def storeSessionWrites (around : Surroundings) (ses : Session δ) : List (Write (SessionFiles δ)) :=
  [⟨around.storeDataFails, fun files =>
      (Function.update files.1 ses.id (some ses), Function.update files.2 ses.id none)⟩,
    ⟨around.storeMetadataFails, fun files => (files.1, Function.update files.2 ses.id (some sessionTtlSecs))⟩]

omit [Inhabited δ] in
/-- What the writes of a session leave is what `store_session` leaves. -/
theorem carryOut_storeSession (im om : Message) (around : Surroundings) (store : SessionStore δ)
    (ttls : SessionTtls) (info : RequestInformation δ) :
    carryOut (storeSessionWrites around (info.answered om)) (store, ttls) =
      ((storeSession im om around store info).1, storeSessionTtl around ttls info.session.id) := by
  simp only [storeSessionWrites, carryOut, storeSession, storeSessionTtl, RequestInformation.answered,
    Function.update_idem]
  split
  · rfl
  · split <;> rfl

/-- A request that reaches its handler writes its session back if the handler succeeds. -/
def sessionWrites (around : Surroundings) (draws : ρ) (s : State σ δ) (req : HttpRequest) :
    List (Write (SessionFiles δ)) :=
  match S.routes draws req.messageType with
  | none => []
  | some h =>
    match receive P h around s.sessions req with
    | .ok (info, body) =>
      match (h.run s.userData info body).2 with
      | .ok (_, info') => storeSessionWrites around (info'.answered h.om)
      | _ => []
    | _ => []

/-- What the handlers write into the stores behind them. -/
structure Plan where
  writes : Surroundings → ρ → State σ δ → HttpRequest → List (Write σ)
  followed : ∀ {around : Surroundings} {draws : ρ} {s : State σ δ} {req : HttpRequest} {h : Handler σ δ}
    {info : RequestInformation δ} {body : h.Body}, S.routes draws req.messageType = some h →
    receive P h around s.sessions req = .ok (info, body) →
      (h.run s.userData info body).1 = carryOut (writes around draws s req) s.userData
  finished : ∀ {around : Surroundings} {draws : ρ} {s : State σ δ} {req : HttpRequest} {h : Handler σ δ}
    {info info' : RequestInformation δ} {body : h.Body} {reply : h.Reply},
    S.routes draws req.messageType = some h → receive P h around s.sessions req = .ok (info, body) →
    (h.run s.userData info body).2 = .ok (reply, info') → ∀ w ∈ writes around draws s req, w.fails = false
  refused : ∀ {around : Surroundings} {draws : ρ} {s : State σ δ} {req : HttpRequest},
    (∀ h, S.routes draws req.messageType = some h → ∀ r, receive P h around s.sessions req ≠ .ok r) →
      writes around draws s req = []

variable {S}

/-- All writes of a request: the handler's come first. -/
def Plan.requestWrites (plan : S.Plan) (around : Surroundings) (draws : ρ) (s : State σ δ)
    (req : HttpRequest) : List (Write (State σ δ)) :=
  (plan.writes around draws s req).map Write.onUserData ++
    (S.sessionWrites around draws s req).map Write.onSessions

/-- A request leaves what its writes make of the state, up to the first that fails. -/
theorem Plan.step_request (plan : S.Plan) (around : Surroundings) (draws : ρ) (s : State σ δ)
    (req : HttpRequest) :
    S.step s (.request around draws req) = carryOut (plan.requestWrites around draws s req) s := by
  have hunreached : (∀ h, S.routes draws req.messageType = some h → ∀ r, receive P h around s.sessions req ≠ .ok r) →
      plan.requestWrites around draws s req = (S.sessionWrites around draws s req).map Write.onSessions := by
    intro hrefused
    rw [requestWrites, plan.refused hrefused, List.map_nil, List.nil_append]
  cases hroute : S.routes draws req.messageType with
  | none =>
      rw [hunreached (by simp [hroute])]
      simp only [step, serve, sessionWrites, hroute, List.map_nil, carryOut]
  | some h =>
      cases hreceive : receive P h around s.sessions req with
      | err e =>
          rw [hunreached (by simp [hroute, hreceive])]
          simp only [step, serve, fdoRequestFilter, sessionWrites, hroute, hreceive, List.map_nil, carryOut]
      | panic =>
          rw [hunreached (by simp [hroute, hreceive])]
          simp only [step, serve, fdoRequestFilter, sessionWrites, hroute, hreceive, List.map_nil, carryOut]
      | ok received =>
          obtain ⟨info, body⟩ := received
          have hfollowed := plan.followed hroute hreceive
          cases hrun : h.run s.userData info body with
          | mk userData result =>
              rw [hrun] at hfollowed
              obtain rfl : userData = _ := hfollowed
              cases result with
              | err e =>
                  simp only [step, serve, fdoRequestFilter, requestWrites, sessionWrites, hroute, hreceive, hrun,
                    List.map_nil, List.append_nil, carryOut_onUserData]
              | panic =>
                  simp only [step, serve, fdoRequestFilter, requestWrites, sessionWrites, hroute, hreceive, hrun,
                    List.map_nil, List.append_nil, carryOut_onUserData]
              | ok answer =>
                  obtain ⟨reply, info'⟩ := answer
                  have hfinished : ∀ w ∈ (plan.writes around draws s req).map Write.onUserData,
                      (w : Write (State σ δ)).fails = false := by
                    intro w hw
                    obtain ⟨w, hmem, rfl⟩ := List.mem_map.mp hw
                    exact plan.finished hroute hreceive (by rw [hrun]) w hmem
                  rw [requestWrites, carryOut_append hfinished, carryOut_onUserData, carryOut_onSessions]
                  simp only [step, serve, fdoRequestFilter, sessionWrites, hroute, hreceive, hrun]
                  rw [State.sessionFiles, carryOut_storeSession h.im]
                  rfl

theorem Plan.step_stores (plan : S.Plan) (around : Surroundings) (draws : ρ) (s : State σ δ)
    (req : HttpRequest) :
    (S.step s (.request around draws req)).userData = carryOut (plan.writes around draws s req) s.userData := by
  rw [plan.step_request, requestWrites, carryOut_userData]

theorem step_requestSessions (around : Surroundings) (draws : ρ) (s : State σ δ) (req : HttpRequest) :
    (S.step s (.request around draws req)).sessionFiles =
      carryOut (S.sessionWrites around draws s req) s.sessionFiles := by
  cases hroute : S.routes draws req.messageType with
  | none => simp only [step, serve, sessionWrites, hroute, carryOut, State.sessionFiles]
  | some h =>
      cases hreceive : receive P h around s.sessions req with
      | err e => simp only [step, serve, fdoRequestFilter, sessionWrites, hroute, hreceive, carryOut, State.sessionFiles]
      | panic => simp only [step, serve, fdoRequestFilter, sessionWrites, hroute, hreceive, carryOut, State.sessionFiles]
      | ok received =>
          obtain ⟨info, body⟩ := received
          cases hrun : h.run s.userData info body with
          | mk userData result =>
              cases result with
              | err e => simp only [step, serve, fdoRequestFilter, sessionWrites, hroute, hreceive, hrun, carryOut, State.sessionFiles]
              | panic => simp only [step, serve, fdoRequestFilter, sessionWrites, hroute, hreceive, hrun, carryOut, State.sessionFiles]
              | ok answer =>
                  simp only [step, serve, fdoRequestFilter, sessionWrites, hroute, hreceive, hrun, State.sessionFiles]
                  rw [carryOut_storeSession h.im]
                  rfl

/-! ## One writing route -/

/-- The handlers of one message write as `writes` says, and the others leave the stores alone. -/
structure Writer (S : Service P ρ σ δ) where
  messageType : MessageType
  handler : ρ → Handler σ δ
  route : ∀ draws, S.routes draws messageType = some (handler draws)
  writes : (draws : ρ) → RequestInformation δ → (handler draws).Body → List (Write σ)
  followed : ∀ draws userData info body,
    ((handler draws).run userData info body).1 = carryOut (writes draws info body) userData
  finished : ∀ draws userData info body r,
    ((handler draws).run userData info body).2 = .ok r → ∀ w ∈ writes draws info body, w.fails = false
  others : ∀ {draws t h}, S.routes draws t = some h → t ≠ messageType → ∀ userData info body,
    (h.run userData info body).1 = userData

variable (writer : S.Writer)

def Writer.storeWrites (around : Surroundings) (draws : ρ) (s : State σ δ) (req : HttpRequest) : List (Write σ) :=
  if req.messageType = writer.messageType then
    match receive P (writer.handler draws) around s.sessions req with
    | .ok (info, body) => writer.writes draws info body
    | _ => []
  else []

theorem Writer.storeWrites_received {around : Surroundings} {draws : ρ} {s : State σ δ} {req : HttpRequest}
    (h : req.messageType = writer.messageType) {info : RequestInformation δ} {body : (writer.handler draws).Body}
    (hreceive : receive P (writer.handler draws) around s.sessions req = .ok (info, body)) :
    writer.storeWrites around draws s req = writer.writes draws info body := by
  rw [storeWrites, if_pos h, hreceive]

def Writer.plan : S.Plan where
  writes := writer.storeWrites
  followed {around draws s req h info body} hroute hreceive := by
    by_cases hm : req.messageType = writer.messageType
    · rw [hm, writer.route] at hroute
      obtain rfl := Option.some.inj hroute
      rw [writer.storeWrites_received hm hreceive]
      exact writer.followed draws s.userData info body
    · rw [storeWrites, if_neg hm]
      exact writer.others hroute hm s.userData info body
  finished {around draws s req h info info' body reply} hroute hreceive hrun := by
    by_cases hm : req.messageType = writer.messageType
    · rw [hm, writer.route] at hroute
      obtain rfl := Option.some.inj hroute
      rw [writer.storeWrites_received hm hreceive]
      exact writer.finished draws s.userData info body _ hrun
    · rw [storeWrites, if_neg hm]
      exact nofun
  refused {around draws s req} hrefused := by
    by_cases hm : req.messageType = writer.messageType
    · have hnone := hrefused (writer.handler draws) (by rw [hm, writer.route])
      rw [storeWrites, if_pos hm]
      cases hreceive : receive P (writer.handler draws) around s.sessions req with
      | ok r => exact absurd hreceive (hnone r)
      | err e => rfl
      | panic => rfl
    · exact if_neg hm

end Service
end FidoOnboard.Server
