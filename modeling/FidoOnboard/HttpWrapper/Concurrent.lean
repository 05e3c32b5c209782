import FidoOnboard.HttpWrapper.Runs
import Mathlib.Data.Fintype.Defs

/-!
# Two requests at once

The three phases of a request are separate steps: nothing keeps another request
on the same session from running in between. Two requests are interleaved here
step by step.
-/
namespace FidoOnboard.Server

variable {P : Platform} {ρ σ δ : Type} [Inhabited δ]

/-- A request at its route. -/
structure Job (S : Service P ρ σ δ) where
  around : Surroundings
  draws : ρ
  req : HttpRequest
  h : Handler σ δ
  route : S.routes draws req.messageType = some h

/-- How far a request has come: before loading the session, before its handler, before
storing the session, or at its end. -/
inductive Stage (h : Handler σ δ) where
  | waiting
  | loaded (info : RequestInformation δ) (body : h.Body)
  | handled (reply : h.Reply) (info : RequestInformation δ)
  | finished (accepted : Bool)

namespace Job

variable {S : Service P ρ σ δ} (j : Job S)

/-- One step of a request, in the state as it is now. -/
def advance (s : State σ δ) : Stage j.h → State σ δ × Stage j.h
  | .waiting =>
    match receive P j.h j.around s.sessions j.req with
    | .ok (info, body) => (s, .loaded info body)
    | _ => (s, .finished false)
  | .loaded info body =>
    match j.h.run s.userData info body with
    | (userData, .ok (reply, info)) => ({ s with userData }, .handled reply info)
    | (userData, _) => ({ s with userData }, .finished false)
  | .handled reply info =>
    ({ s with
        sessions := (conclude P S.interoperableKdfAvailable j.h j.around s.sessions reply info).1
        sessionTtls := storeSessionTtl j.around s.sessionTtls info.session.id },
      .finished (!j.around.storeDataFails))
  | .finished accepted => (s, .finished accepted)

/-- The stage after `n` steps that all find the state `s`. -/
def stage (s : State σ δ) : Nat → Stage j.h
  | 0 => .waiting
  | n + 1 => (j.advance s (stage s n)).2

/-- The session that is written back, if any. -/
def written (s : State σ δ) : Option (Session δ) :=
  match j.stage s 2 with
  | .handled _ info => if j.around.storeDataFails then none else some (info.answered j.h.om)
  | _ => none

def accepted (s : State σ δ) : Bool := (j.written s).isSome

/-- The request on its own, without another one in between. -/
def process (s : State σ δ) : State σ δ :=
  (fdoRequestFilter P S.interoperableKdfAvailable j.h j.around s j.req).1

/-- What the request makes of the session stored under `id`. -/
def leaves (s : State σ δ) (id : String) (v : Option (Session δ)) : Option (Session δ) :=
  match j.written s with
  | some ses => if ses.id = id then some ses else v
  | none => v

/-- The request as a step of a run. -/
def input : Input ρ σ := .request j.around j.draws j.req

theorem step_input (s : State σ δ) : S.step s j.input = j.process s := by
  simp only [input, Service.step, serve, j.route, process]

theorem advance_handled_sessions (s : State σ δ) (reply : j.h.Reply) (info : RequestInformation δ) :
    (j.advance s (.handled reply info)).1.sessions = if j.around.storeDataFails then s.sessions
      else Function.update s.sessions info.session.id (some (info.answered j.h.om)) := by
  simp only [advance, conclude, storeSession]
  split <;> rfl

/-- Three steps in a row are the whole request. -/
theorem process_sessions (s : State σ δ) (id : String) :
    (j.process s).sessions id = j.leaves s id (s.sessions id) := by
  unfold process leaves written
  simp only [stage, advance, fdoRequestFilter]
  cases receive P j.h j.around s.sessions j.req with
  | err e => rfl
  | panic => rfl
  | ok received =>
      obtain ⟨info, body⟩ := received
      simp only
      cases j.h.run s.userData info body with
      | mk userData result =>
          cases result with
          | err e => rfl
          | panic => rfl
          | ok answer =>
              obtain ⟨reply, info'⟩ := answer
              simp only [conclude, storeSession]
              cases j.around.storeDataFails with
              | true => rfl
              | false =>
                  simp only [Bool.false_eq_true, if_false, RequestInformation.answered]
                  by_cases h : info'.session.id = id
                  · rw [if_pos h, h, Function.update_self]
                  · rw [if_neg h, Function.update_of_ne (Ne.symm h)]

theorem advance_process (s : State σ δ) :
    let x := j.advance s .waiting
    let y := j.advance x.1 x.2
    j.advance y.1 y.2 = (j.process s, .finished (j.accepted s)) := by
  unfold process accepted written
  simp only [stage, advance, fdoRequestFilter]
  cases receive P j.h j.around s.sessions j.req with
  | err e => rfl
  | panic => rfl
  | ok received =>
      obtain ⟨info, body⟩ := received
      simp only
      cases j.h.run s.userData info body with
      | mk userData result =>
          cases result with
          | err e => rfl
          | panic => rfl
          | ok answer =>
              simp only
              cases j.around.storeDataFails with
              | true => rfl
              | false => rfl

/-- After one step a request is loaded or refused. -/
theorem stage_one (s : State σ δ) :
    (∃ info body, j.stage s 1 = .loaded info body) ∨ j.stage s 1 = .finished false := by
  simp only [stage, advance]
  split
  · exact .inl ⟨_, _, rfl⟩
  · exact .inr rfl

theorem stage_two (s : State σ δ) :
    (∃ reply info, j.stage s 2 = .handled reply info) ∨ j.stage s 2 = .finished false := by
  change (∃ reply info, (j.advance s (j.stage s 1)).2 = .handled reply info) ∨
    (j.advance s (j.stage s 1)).2 = .finished false
  rcases j.stage_one s with ⟨info, body, h⟩ | h
  · simp only [h, advance]
    split
    · exact .inl ⟨_, _, rfl⟩
    · exact .inr rfl
  · simp only [h, advance]
    exact .inr trivial

end Job

inductive Side where
  | first
  | second
  deriving DecidableEq, Repr

instance : Fintype Side := ⟨{.first, .second}, fun side => by cases side <;> simp⟩

/-- Two requests and the state they share. -/
structure World {S : Service P ρ σ δ} (a b : Job S) where
  state : State σ δ
  first : Stage a.h
  second : Stage b.h

namespace World

variable {S : Service P ρ σ δ} {a b : Job S}

def tick (w : World a b) : Side → World a b
  | .first => { w with state := (a.advance w.state w.first).1, first := (a.advance w.state w.first).2 }
  | .second =>
    { w with state := (b.advance w.state w.second).1, second := (b.advance w.state w.second).2 }

def run : World a b → List Side → World a b
  | w, [] => w
  | w, side :: rest => run (w.tick side) rest

end World

/-- Each of the two takes its three steps. -/
def Complete (schedule : List Side) : Prop :=
  schedule.count .first = 3 ∧ schedule.count .second = 3

instance (schedule : List Side) : Decidable (Complete schedule) := inferInstanceAs (Decidable (_ ∧ _))

def firstThenSecond : List Side := [.first, .first, .first, .second, .second, .second]

def secondThenFirst : List Side := [.second, .second, .second, .first, .first, .first]

/-- The stored session at the end, and which of the two were accepted. -/
structure Result (δ : Type) where
  session : Option (Session δ)
  firstAccepted : Bool
  secondAccepted : Bool
  deriving DecidableEq, Repr

def Stage.isAccepted {h : Handler σ δ} : Stage h → Bool
  | .finished accepted => accepted
  | _ => false

section Results

variable {S : Service P ρ σ δ} (a b : Job S) (s : State σ δ) (id : String)

def interleaved (schedule : List Side) : Result δ :=
  let w := World.run (⟨s, .waiting, .waiting⟩ : World a b) schedule
  ⟨w.state.sessions id, w.first.isAccepted, w.second.isAccepted⟩

def serialFirst : Result δ :=
  ⟨(b.process (a.process s)).sessions id, a.accepted s, b.accepted (a.process s)⟩

def serialSecond : Result δ :=
  ⟨(a.process (b.process s)).sessions id, a.accepted (b.process s), b.accepted s⟩

end Results

/-- The load of each of the two comes before the store of the other. -/
def Overlapping : Nat → Nat → List Side → Prop
  | _, _, [] => True
  | i, j, .first :: rest => (i = 0 → j < 3) ∧ Overlapping (i + 1) j rest
  | i, j, .second :: rest => (j = 0 → i < 3) ∧ Overlapping i (j + 1) rest

instance decidableOverlapping : (i j : Nat) → (schedule : List Side) →
    Decidable (Overlapping i j schedule)
  | _, _, [] => .isTrue trivial
  | i, j, .first :: rest => @instDecidableAnd _ _ _ (decidableOverlapping (i + 1) j rest)
  | i, j, .second :: rest => @instDecidableAnd _ _ _ (decidableOverlapping i (j + 1) rest)

theorem complete_length {schedule : List Side} (h : Complete schedule) : schedule.length = 6 := by
  have hcount : schedule.length = schedule.count .first + schedule.count .second := by
    clear h
    induction schedule with
    | nil => rfl
    | cons side rest ih => cases side <;> simp [ih] <;> omega
  rw [hcount, h.1, h.2]

/-- Only the two serial schedules do not overlap. -/
theorem complete_cases {schedule : List Side} (h : Complete schedule) :
    schedule = firstThenSecond ∨ schedule = secondThenFirst ∨ Overlapping 0 0 schedule := by
  match schedule, complete_length h with
  | [x₁, x₂, x₃, x₄, x₅, x₆], _ =>
    revert x₁ x₂ x₃ x₄ x₅ x₆
    decide

/-! ## What an interleaving comes to -/

/-- The request carries a token of the session `id`. -/
def Job.OnSession {S : Service P ρ σ δ} (j : Job S) (id : String) : Prop :=
  ∃ hdr, j.req.authorization = some hdr ∧ P.idFromCookieValue (bearerToken hdr) = some id

/-- Handlers read only a part of the stores, and leave that part alone. -/
structure Isolated {τ : Type} (S : Service P ρ σ δ) (view : σ → τ) : Prop where
  keeps : ∀ {draws t h}, S.routes draws t = some h → ∀ userData info body,
    view (h.run userData info body).1 = view userData
  reads : ∀ {draws t h}, S.routes draws t = some h → ∀ {userData userData'}, view userData = view userData' →
    ∀ info body, (h.run userData info body).2 = (h.run userData' info body).2

/-- Receiving a request on a session reads that session and no other. -/
theorem receive_congr {h : Handler σ δ} {around : Surroundings} {store store' : SessionStore δ}
    {req : HttpRequest} {hdr id : String} (hauth : req.authorization = some hdr)
    (htoken : P.idFromCookieValue (bearerToken hdr) = some id) (hsame : store id = store' id) :
    receive P h around store req = receive P h around store' req := by
  have hopen : openSession P h.im around store req.authorization =
      openSession P h.im around store' req.authorization := by
    simp only [hauth, openSession, htoken, Outcome.ofOption, Outcome.ok_bind, hsame]
  simp only [receive, hopen]

section Overlap

variable {τ : Type} {S : Service P ρ σ δ} {view : σ → τ} (hS : Isolated S view) {s s' : State σ δ}
  {id : String}

include hS

theorem Job.advance_view (j : Job S) (st : Stage j.h) :
    view (j.advance s' st).1.userData = view s'.userData := by
  cases st with
  | waiting =>
      simp only [advance]
      split <;> rfl
  | loaded info body =>
      have hkeeps := hS.keeps j.route s'.userData info body
      simp only [advance]
      split
      next heq => rwa [heq] at hkeeps
      next heq => rwa [heq] at hkeeps
  | handled reply info => rfl
  | finished accepted => rfl

/-- A step finds what it would find in `s`, if nothing it reads has changed. -/
theorem Job.advance_stage (j : Job S) (hj : j.OnSession id) (hview : view s'.userData = view s.userData)
    {n : Nat} (hn : n < 3) (hload : n = 0 → s'.sessions id = s.sessions id) :
    (j.advance s' (j.stage s n)).2 = j.stage s (n + 1) := by
  obtain ⟨hdr, hauth, htoken⟩ := hj
  change (j.advance s' (j.stage s n)).2 = (j.advance s (j.stage s n)).2
  match n, hn with
  | 0, _ =>
    simp only [stage, advance, receive_congr hauth htoken (hload rfl)]
    split <;> rfl
  | 1, _ =>
    rcases j.stage_one s with ⟨info, body, h⟩ | h
    · have hreads := hS.reads j.route hview info body
      simp only [h, advance]
      cases hrun' : j.h.run s'.userData info body with
      | mk userData' result' =>
          cases hrun : j.h.run s.userData info body with
          | mk userData result =>
              simp only [hrun, hrun'] at hreads
              subst hreads
              cases result' with
              | ok answer => rfl
              | err e => rfl
              | panic => rfl
    · simp only [h, advance]
  | 2, _ =>
    rcases j.stage_two s with ⟨reply, info, h⟩ | h
    · simp only [h, advance]
    · simp only [h, advance]

omit hS

/-- Only the last step touches the stored session. -/
theorem Job.advance_session (j : Job S) {n : Nat} (hn : n < 3) :
    (j.advance s' (j.stage s n)).1.sessions id =
      if n = 2 then j.leaves s id (s'.sessions id) else s'.sessions id := by
  match n, hn with
  | 0, _ =>
    simp only [stage, advance]
    split <;> rfl
  | 1, _ =>
    rcases j.stage_one s with ⟨info, body, h⟩ | h
    · simp only [h, advance]
      split <;> rfl
    · simp only [h, advance]
      rfl
  | 2, _ =>
    rcases j.stage_two s with ⟨reply, info, h⟩ | h
    · rw [h, advance_handled_sessions, if_pos rfl]
      simp only [leaves, written, h]
      cases j.around.storeDataFails with
      | true => rfl
      | false =>
          simp only [Bool.false_eq_true, if_false, RequestInformation.answered]
          by_cases hid : info.session.id = id
          · rw [if_pos hid, hid, Function.update_self]
          · rw [if_neg hid, Function.update_of_ne (Ne.symm hid)]
    · simp only [h, advance, leaves, written]
      rfl

theorem Job.stage_three (j : Job S) : (j.stage s 3).isAccepted = j.accepted s := by
  change (j.advance s (j.stage s 2)).2.isAccepted = _
  rcases j.stage_two s with ⟨reply, info, h⟩ | h
  · simp only [accepted, written, h, advance, Stage.isAccepted]
    cases j.around.storeDataFails with
    | true => rfl
    | false => rfl
  · simp only [accepted, written, h, advance, Stage.isAccepted]
    rfl

/-- The stored session under a schedule, when the third step of each side writes it. -/
def slot {α : Type} (f g : α → α) : Nat → Nat → α → List Side → α
  | _, _, v, [] => v
  | i, j, v, .first :: rest => slot f g (i + 1) j (if i = 2 then f v else v) rest
  | i, j, v, .second :: rest => slot f g i (j + 1) (if j = 2 then g v else v) rest

variable {a b : Job S}

/-- Where two overlapping requests are after `i` and `j` steps. -/
structure Tracks (view : σ → τ) (s : State σ δ) (id : String) (i j : Nat) (v : Option (Session δ))
    (w : World a b) : Prop where
  first : w.first = a.stage s i
  second : w.second = b.stage s j
  view : view w.state.userData = view s.userData
  session : w.state.sessions id = v
  untouched : i < 3 → j < 3 → v = s.sessions id

include hS

theorem Tracks.tick_first (ha : a.OnSession id) {i j : Nat} {v : Option (Session δ)} {w : World a b}
    (h : Tracks view s id i j v w) (hi : i < 3) (hload : i = 0 → j < 3) :
    Tracks view s id (i + 1) j (if i = 2 then a.leaves s id v else v) (w.tick .first) where
  first := by
    simp only [World.tick, h.first]
    apply a.advance_stage hS ha h.view hi
    intro h0
    rw [h.session, h.untouched hi (hload h0)]
  second := h.second
  view := (a.advance_view hS w.first).trans h.view
  session := by
    simp only [World.tick, h.first]
    rw [a.advance_session hi, h.session]
  untouched hi' hj := by
    rw [if_neg (by omega)]
    exact h.untouched hi hj

theorem Tracks.tick_second (hb : b.OnSession id) {i j : Nat} {v : Option (Session δ)} {w : World a b}
    (h : Tracks view s id i j v w) (hj : j < 3) (hload : j = 0 → i < 3) :
    Tracks view s id i (j + 1) (if j = 2 then b.leaves s id v else v) (w.tick .second) where
  first := h.first
  second := by
    simp only [World.tick, h.second]
    apply b.advance_stage hS hb h.view hj
    intro h0
    rw [h.session, h.untouched (hload h0) hj]
  view := (b.advance_view hS w.second).trans h.view
  session := by
    simp only [World.tick, h.second]
    rw [b.advance_session hj, h.session]
  untouched hi hj' := by
    rw [if_neg (by omega)]
    exact h.untouched hi hj

theorem Tracks.run (ha : a.OnSession id) (hb : b.OnSession id) {rest : List Side} {i j : Nat}
    {v : Option (Session δ)} {w : World a b} (h : Tracks view s id i j v w)
    (hoverlap : Overlapping i j rest) (hi : i + rest.count .first = 3) (hj : j + rest.count .second = 3) :
    Tracks view s id 3 3 (slot (a.leaves s id) (b.leaves s id) i j v rest) (w.run rest) := by
  induction rest generalizing i j v w with
  | nil =>
      obtain rfl : i = 3 := hi
      obtain rfl : j = 3 := hj
      exact h
  | cons side rest ih =>
      cases side with
      | first =>
          simp only [List.count_cons_self, List.count_cons_of_ne (show Side.first ≠ .second by decide)] at hi hj
          exact ih (h.tick_first hS ha (by omega) hoverlap.1) hoverlap.2 (by omega) hj
      | second =>
          simp only [List.count_cons_self, List.count_cons_of_ne (show Side.second ≠ .first by decide)] at hi hj
          exact ih (h.tick_second hS hb (by omega) hoverlap.1) hoverlap.2 hi (by omega)

omit hS

/-- The side that takes the last step writes last. -/
theorem slot_complete {α : Type} (f g : α → α) (v : α) {schedule : List Side} (h : Complete schedule) :
    slot f g 0 0 v schedule = if schedule.getLast? = some .second then g (f v) else f (g v) := by
  match schedule, complete_length h with
  | [x₁, x₂, x₃, x₄, x₅, x₆], _ =>
    cases x₁ <;> cases x₂ <;> cases x₃ <;> cases x₄ <;> cases x₅ <;> cases x₆
    all_goals first
      | rfl
      | exact absurd h (by decide)

/-- An accepted request, phase by phase. -/
theorem Job.written_eq_some (j : Job S) {ses : Session δ} (h : j.written s = some ses) :
    ∃ info body reply info', Accepted P j.h j.around s j.req info body reply info' ∧
      ses = info'.answered j.h.om := by
  unfold written at h
  rcases j.stage_two s with ⟨reply, info', h₂⟩ | h₂
  · simp only [h₂] at h
    split at h
    · cases h
    · next hfault =>
        change (j.advance s (j.stage s 1)).2 = _ at h₂
        rcases j.stage_one s with ⟨info, body, h₁⟩ | h₁
        · refine ⟨info, body, reply, info', ⟨?_, ?_, by simpa using hfault⟩, (Option.some.inj h).symm⟩
          · simp only [stage, advance] at h₁
            split at h₁
            next heq =>
              cases h₁
              exact heq
            next => cases h₁
          · rw [h₁] at h₂
            simp only [advance] at h₂
            split at h₂
            next heq =>
              rw [heq]
              cases h₂
              rfl
            next => cases h₂
        · simp only [h₁, advance] at h₂
          cases h₂
  · simp only [h₂] at h
    cases h

theorem Job.exists_acceptance (j : Job S) (h : j.accepted s = true) :
    ∃ acc : S.Acceptance s j.input, acc.req = j.req ∧ j.written s = some acc.after := by
  obtain ⟨ses, hses⟩ := Option.isSome_iff_exists.mp h
  obtain ⟨info, body, reply, info', haccepted, rfl⟩ := j.written_eq_some hses
  exact ⟨⟨j.around, j.draws, j.req, j.h, info, body, reply, info', rfl, j.route, haccepted⟩, rfl, hses⟩

/-- What a request writes is the session it carries a token of, or one with a new id. -/
theorem Job.written_id (j : Job S) (hj : j.OnSession id) {ses : Session δ} (h : j.written s = some ses) :
    (∃ old, s.sessions id = some old ∧ ses.id = old.id) ∨
      s.sessions id = none ∧ P.idFromCookieValue j.around.cookie = some ses.id := by
  obtain ⟨hdr, hauth, htoken⟩ := hj
  obtain ⟨info, body, reply, info', haccepted, rfl⟩ := j.written_eq_some h
  have hid : info'.session.id = info.session.id := S.keepsId j.route haccepted.handled
  have horigin := (receive_received haccepted.received).origin
  rw [hauth] at horigin
  simp only [RequestInformation.answered, hid]
  rcases horigin.of_token htoken with hfound | ⟨hnone, _, hdrawn⟩
  · exact .inl ⟨_, hfound, rfl⟩
  · exact .inr ⟨hnone, hdrawn⟩

/-- A request either overwrites the session of its token or leaves it as it was. -/
theorem Job.leaves_eq (j : Job S) (hj : j.OnSession id)
    (hnamed : ∀ ses, s.sessions id = some ses → ses.id = id)
    (hfresh : P.idFromCookieValue j.around.cookie ≠ some id) {v : Option (Session δ)}
    (hv : s.sessions id = none → v = none) :
    j.leaves s id v = if j.accepted s then (j.process s).sessions id else v := by
  rw [process_sessions]
  unfold leaves accepted
  cases hw : j.written s with
  | none => rfl
  | some ses =>
      simp only [Option.isSome_some, if_true]
      rcases j.written_id hj hw with ⟨old, hold, hid⟩ | ⟨hnone, hid⟩
      · rw [hnamed old hold] at hid
        rw [if_pos hid, if_pos hid]
      · have hne : ses.id ≠ id := by
          rintro rfl
          exact hfresh hid
        rw [if_neg hne, if_neg hne, hv hnone, hnone]

/-- A token of no session does not become one of a new session. -/
theorem Job.process_none (j : Job S) (hj : j.OnSession id)
    (hfresh : P.idFromCookieValue j.around.cookie ≠ some id) (hnone : s.sessions id = none) :
    (j.process s).sessions id = none := by
  rw [process_sessions]
  unfold leaves
  cases hw : j.written s with
  | none => exact hnone
  | some ses =>
      rcases j.written_id hj hw with ⟨old, hold, _⟩ | ⟨_, hid⟩
      · rw [hnone] at hold
        cases hold
      · have hne : ses.id ≠ id := by
          rintro rfl
          exact hfresh hid
        simp only [if_neg hne, hnone]

include hS

/-- Two requests that overlap are both judged by the session they found. The one that
stores last leaves what it would have left alone. -/
theorem interleaved_overlapping (ha : a.OnSession id) (hb : b.OnSession id)
    (hnamed : ∀ ses, s.sessions id = some ses → ses.id = id)
    (hfresha : P.idFromCookieValue a.around.cookie ≠ some id)
    (hfreshb : P.idFromCookieValue b.around.cookie ≠ some id) {schedule : List Side}
    (hcomplete : Complete schedule) (hoverlap : Overlapping 0 0 schedule) :
    interleaved a b s id schedule =
      { session := if schedule.getLast? = some .second
          then (if b.accepted s then (b.process s).sessions id else (a.process s).sessions id)
          else (if a.accepted s then (a.process s).sessions id else (b.process s).sessions id)
        firstAccepted := a.accepted s
        secondAccepted := b.accepted s } := by
  have hstart : Tracks view s id 0 0 (s.sessions id) (⟨s, .waiting, .waiting⟩ : World a b) :=
    ⟨rfl, rfl, rfl, rfl, fun _ _ => rfl⟩
  have hend := hstart.run hS ha hb hoverlap (by rw [hcomplete.1]) (by rw [hcomplete.2])
  unfold interleaved
  simp only [hend.session, hend.first, hend.second, Job.stage_three]
  rw [slot_complete _ _ _ hcomplete, ← a.process_sessions, ← b.process_sessions,
    b.leaves_eq hb hnamed hfreshb (a.process_none ha hfresha),
    a.leaves_eq ha hnamed hfresha (b.process_none hb hfreshb)]

omit hS

theorem interleaved_firstThenSecond : interleaved a b s id firstThenSecond = serialFirst a b s id := by
  have hfirst := a.advance_process s
  have hsecond := b.advance_process (a.process s)
  simp only at hfirst hsecond
  simp only [interleaved, firstThenSecond, World.run, World.tick, hfirst, hsecond, serialFirst,
    Stage.isAccepted]

theorem interleaved_secondThenFirst : interleaved a b s id secondThenFirst = serialSecond a b s id := by
  have hsecond := b.advance_process s
  have hfirst := a.advance_process (b.process s)
  simp only at hfirst hsecond
  simp only [interleaved, secondThenFirst, World.run, World.tick, hfirst, hsecond, serialSecond,
    Stage.isAccepted]

end Overlap

end FidoOnboard.Server
