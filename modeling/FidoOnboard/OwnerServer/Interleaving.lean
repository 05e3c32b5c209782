import FidoOnboard.HttpWrapper.Concurrent
import FidoOnboard.OwnerServer.Invariant

/-!
# Concurrent TO2 requests on one session

No lock is held and no version is checked between loading a session and storing
it. Requests that do not overlap behave as in some order; of two that overlap, the
later one stores over what the earlier one has done.
-/
namespace FidoOnboard.OwnerServer
open Server

variable {P : Platform} {ud : OwnerServiceUD P}

theorem loadVoucher_congr {draws : Draws P} {stores stores' : OwnerStores P} {message : Message}
    {guid : Guid} (h : stores.vouchers = stores'.vouchers) :
    loadVoucher draws stores message guid = loadVoucher draws stores' message guid := by
  simp only [loadVoucher, h]

/-- The handlers read the vouchers and never change them. -/
theorem service_isolated (ud : OwnerServiceUD P) : Isolated (service ud) OwnerStores.vouchers where
  keeps := by
    intro draws t h hroute stores info body
    change routes ud draws t = some h at hroute
    unfold routes at hroute
    split at hroute
    next => cases hroute; rfl
    next => cases hroute; rfl
    next => cases hroute; rfl
    next => cases hroute; rfl
    next => cases hroute; rfl
    next =>
      cases hroute
      rcases done_stores draws stores info body with hsame | ⟨_, _, _, hmark⟩
      · exact congrArg OwnerStores.vouchers hsame
      · change (done draws stores info body).1.vouchers = stores.vouchers
        rw [hmark]
    next => cases hroute
  reads := by
    intro draws t h hroute stores stores' hsame info body
    change routes ud draws t = some h at hroute
    unfold routes at hroute
    split at hroute
    next =>
      cases hroute
      simp only [handlerHelloDevice, reading, helloDevice, loadVoucher_congr hsame]
    next =>
      cases hroute
      simp only [handlerGetOvNextEntry, reading, getOvNextEntry, loadVoucher_congr hsame]
    next =>
      cases hroute
      simp only [handlerProveDevice, reading, proveDevice, loadVoucher_congr hsame]
    next => cases hroute; rfl
    next => cases hroute; rfl
    next =>
      cases hroute
      simp only [handlerDone, done]
      split
      · rfl
      · rfl
      · split <;> rfl
    next => cases hroute

/-- Two requests that carry tokens of the session `id`, after a run. What they draw is
new, to the run and to each other. -/
structure SameSession (past : OwnerPast P) (s : OwnerState P) (id : String) (a b : Job (service ud)) :
    Prop where
  run : (service ud).Runs past s
  first : a.OnSession id
  second : b.OnSession id
  firstAllowed : (service ud).Allowed past s a.input
  secondAllowed : (service ud).Allowed past s b.input
  distinct : (service ud).Distinct a.input b.input ∧ (service ud).Distinct b.input a.input
  firstNew : P.idFromCookieValue a.around.cookie ≠ some id
  secondNew : P.idFromCookieValue b.around.cookie ≠ some id

section

variable {past : OwnerPast P} {s : OwnerState P} {id : String} {a b : Job (service ud)}

theorem SameSession.next (h : SameSession past s id a b) :
    (service ud).Runs ((s, a.input) :: past) (a.process s) := by
  rw [← a.step_input]
  exact Run.next h.run h.firstAllowed

theorem SameSession.secondNext (h : SameSession past s id a b) :
    (service ud).Allowed ((s, a.input) :: past) (a.process s) b.input where
  sessionId m hm id hid heq := by
    rcases List.mem_cons.mp hm with rfl | hm
    · rcases h.distinct.1.1 with hnone | hne
      · rw [hnone] at hid
        cases hid
      · exact hne (heq.trans hid.symm)
    · exact h.secondAllowed.sessionId m hm id hid heq
  nonce m hm n hn heq := by
    rcases List.mem_cons.mp hm with rfl | hm
    · rcases h.distinct.1.2 with hnone | hne
      · rw [hnone] at hn
        cases hn
      · exact hne (heq.trans hn.symm)
    · exact h.secondAllowed.nonce m hm n hn heq
  tended userData htend := by cases htend

theorem SameSession.named (h : SameSession past s id a b) :
    ∀ ses, s.sessions id = some ses → ses.id = id :=
  fun _ hses => (h.run.stored hses).1

/-- An accepted request reads the session of its token, if there is one. -/
theorem acceptance_before {j : Job (service ud)} (hj : j.OnSession id) {acc : Acceptance ud s j.input}
    (hreq : acc.req = j.req) : s.sessions id = some acc.before ∨
      s.sessions id = none ∧ acc.before.lastMessageType = none := by
  obtain ⟨hdr, hauth, htoken⟩ := hj
  have horigin := acc.received.origin
  rw [hreq, hauth] at horigin
  rcases horigin.of_token htoken with hfound | ⟨hnone, hlast, _⟩
  · exact .inl hfound
  · exact .inr ⟨hnone, hlast⟩

/-- In a serial order nothing undoes an accepted ProveDevice, and a second one fails. -/
theorem serial_proveDevice (h : SameSession past s id a b)
    (hprove : a.req.messageType = .to2ProveDevice) (hacc : a.accepted s = true) :
    (∀ ses, (b.process (a.process s)).sessions id = some ses →
      ses.encryptionKeys.isSome = true ∧ ses.data.aKeyExchange = none) ∧
    (b.req.messageType = .to2ProveDevice → b.accepted (a.process s) = false) := by
  obtain ⟨acc, hreq, _⟩ := a.exists_acceptance hacc
  have hprove₁ : acc.req.messageType = .to2ProveDevice := by rw [hreq, hprove]
  obtain ⟨hstored, _⟩ := proveDevice_before h.run h.firstAllowed acc hprove₁
  obtain ⟨_, _, ht⟩ := acceptance_transition acc
  rw [hprove₁] at ht
  obtain ⟨hlast, ⟨hkeys, hkex, _⟩, _⟩ := ht.of_proveDevice
  have hid : acc.id = id := by
    rcases acceptance_before h.first hreq with hfound | ⟨_, hnone⟩
    · exact h.named _ hfound
    · rw [hlast] at hnone
      cases hnone
  constructor
  · intro ses hses
    have hlater : (service ud).Runs ((a.process s, b.input) :: (s, a.input) :: past)
        (b.process (a.process s)) := by
      rw [← b.step_input]
      exact Run.next h.next h.secondNext
    have hkept : Kept acc.after ses := Service.Runs.kept_after Kept.refl Kept.trans
      (fun run _ a h => acceptance_kept run a h) hlater (s, a.input)
      (List.mem_cons_of_mem _ List.mem_cons_self) acc (hid ▸ hses)
    obtain ⟨k, hk⟩ := Option.isSome_iff_exists.mp hkeys
    exact ⟨Option.isSome_of_eq_some (hkept.keys k hk), hkept.aKeyExchange hkex⟩
  · intro hprove₂
    by_contra hagain
    obtain ⟨acc', hreq', _⟩ := b.exists_acceptance (Bool.eq_true_of_not_eq_false hagain)
    have hopening := (proveDevice_before h.next h.secondNext acc' (by rw [hreq', hprove₂])).2
    have hstored' : (a.process s).sessions acc.id = some acc'.before := by
      rcases acceptance_before h.second hreq' with hfound | ⟨_, hnone⟩
      · rw [hid]
        exact hfound
      · obtain ⟨_, _, hl⟩ := hopening.last
        rw [hnone] at hl
        cases hl
    have hproven := runs_proven_after h.next (s, a.input) List.mem_cons_self acc hprove₁ hstored'
    rw [hopening.unproven] at hproven
    cases hproven

/-- In a serial order nothing is accepted after Done. -/
theorem serial_done (h : SameSession past s id a b) (hdone : a.req.messageType = .to2Done)
    (hacc : a.accepted s = true) : b.accepted (a.process s) = false := by
  obtain ⟨acc, hreq, hwritten⟩ := a.exists_acceptance hacc
  obtain ⟨_, _, ht⟩ := acceptance_transition acc
  rw [hreq, hdone] at ht
  have hlast := ht.of_done
  have hbefore : acc.before.lastMessageType ≠ none := by
    generalize acc.after = after at ht
    cases ht with
    | done sequence => simp [sequence]
  have hid : acc.id = id := by
    rcases acceptance_before h.first hreq with hfound | ⟨_, hnone⟩
    · exact h.named _ hfound
    · exact absurd hnone hbefore
  have hafter : (a.process s).sessions id = some acc.after := by
    rw [← a.step_input, ← hid]
    exact acc.step_session
  by_contra hagain
  obtain ⟨acc', hreq', _⟩ := b.exists_acceptance (Bool.eq_true_of_not_eq_false hagain)
  obtain ⟨_, _, ht'⟩ := acceptance_transition acc'
  rcases acceptance_before h.second hreq' with hfound | ⟨hnone, _⟩
  · rw [hafter] at hfound
    rw [Option.some.inj hfound] at hlast
    exact ht'.not_done hlast
  · rw [hafter] at hnone
    cases hnone

/-- What two requests on one session come to, under any schedule of their steps. -/
structure Outcomes (id : String) (s : OwnerState P) (a b : Job (service ud)) (schedule : List Side) :
    Prop where
  serialFirst : schedule = firstThenSecond → interleaved a b s id schedule = serialFirst a b s id
  serialSecond : schedule = secondThenFirst → interleaved a b s id schedule = serialSecond a b s id
  overlapping : schedule ≠ firstThenSecond → schedule ≠ secondThenFirst →
    interleaved a b s id schedule =
      { session := if schedule.getLast? = some .second
          then (if b.accepted s then (b.process s).sessions id else (a.process s).sessions id)
          else (if a.accepted s then (a.process s).sessions id else (b.process s).sessions id)
        firstAccepted := a.accepted s
        secondAccepted := b.accepted s }
  proveDevice : schedule = firstThenSecond → a.req.messageType = .to2ProveDevice →
    (interleaved a b s id schedule).firstAccepted = true →
      (∀ ses, (interleaved a b s id schedule).session = some ses →
        ses.encryptionKeys.isSome = true ∧ ses.data.aKeyExchange = none) ∧
      (b.req.messageType = .to2ProveDevice → (interleaved a b s id schedule).secondAccepted = false)
  done : schedule = firstThenSecond → a.req.messageType = .to2Done →
    (interleaved a b s id schedule).firstAccepted = true →
      (interleaved a b s id schedule).secondAccepted = false

/-- Requests whose steps do not overlap are serial; for the others the session of the
one that stores last is all that remains. -/
theorem interleaved_outcomes (h : SameSession past s id a b) {schedule : List Side}
    (hcomplete : Complete schedule) : Outcomes id s a b schedule where
  serialFirst heq := by rw [heq, interleaved_firstThenSecond]
  serialSecond heq := by rw [heq, interleaved_secondThenFirst]
  overlapping hne₁ hne₂ := by
    rcases complete_cases hcomplete with heq | heq | hoverlap
    · exact absurd heq hne₁
    · exact absurd heq hne₂
    · exact interleaved_overlapping (service_isolated ud) h.first h.second h.named h.firstNew
        h.secondNew hcomplete hoverlap
  proveDevice heq hprove hacc := by
    rw [heq, interleaved_firstThenSecond] at *
    exact serial_proveDevice h hprove hacc
  done heq hdone hacc := by
    rw [heq, interleaved_firstThenSecond] at *
    exact serial_done h hdone hacc

end

/-! ## An entry fetched while the device proves itself -/

open Reference VoucherChain

def sampleProve (token : Bytes) : Job (service sampleUd) where
  around := ⟨"d", 0, false, false, false⟩
  draws := sampleDraws 3
  req := ⟨.to2ProveDevice, some "Bearer a", false, token⟩
  h := handlerProveDevice sampleUd (sampleDraws 3)
  route := rfl

def sampleFetch (body : Bytes) : Job (service sampleUd) where
  around := ⟨"e", 0, false, false, false⟩
  draws := sampleDraws 4
  req := ⟨.to2GetOVNextEntry, some "Bearer a", false, body⟩
  h := handlerGetOvNextEntry (sampleDraws 4)
  route := rfl

/-- Both load the session, both run, and the entry is stored last. -/
def sampleSchedule : List Side := [.first, .second, .first, .second, .first, .second]

/-- The session right before the token: the voucher has been sent, no keys are there. -/
theorem sample_sameSession : ∃ past s token body,
    SameSession past s "a" (sampleProve token) (sampleFetch body) ∧
    (interleaved (sampleProve token) (sampleFetch body) s "a" sampleSchedule).firstAccepted = true ∧
    (interleaved (sampleProve token) (sampleFetch body) s "a" sampleSchedule).secondAccepted = true ∧
    (∃ ses, (interleaved (sampleProve token) (sampleFetch body) s "a" sampleSchedule).session = some ses ∧
      ses.encryptionKeys = none ∧ ses.data.aKeyExchange.isSome = true) ∧
    interleaved (sampleProve token) (sampleFetch body) s "a" sampleSchedule ≠
      serialFirst (sampleProve token) (sampleFetch body) s "a" ∧
    interleaved (sampleProve token) (sampleFetch body) s "a" sampleSchedule ≠
      serialSecond (sampleProve token) (sampleFetch body) s "a" := by
  have hrun : (do
      let v ← sampleVoucher
      let inputs ← sampleInputs
      let token ← sampleToken
      let body ← (reference .release).getOVNextEntry.serializeData 0
      Outcome.check ((inputs.take 3).Pairwise (service sampleUd).Distinct) Error.cose
      Outcome.check (∀ input ∈ inputs.take 3, input.isRequest = true) Error.cose
      let run := (service sampleUd).replay [] (sampleServer v) (inputs.take 3)
      let a := sampleProve token
      let b := sampleFetch body
      Outcome.check (∀ m ∈ run.1, (service sampleUd).Distinct m.2 a.input) Error.cose
      Outcome.check (∀ m ∈ run.1, (service sampleUd).Distinct m.2 b.input) Error.cose
      Outcome.check ((service sampleUd).Distinct a.input b.input ∧ (service sampleUd).Distinct b.input a.input)
        Error.cose
      Outcome.check ((reference .release).idFromCookieValue a.around.cookie ≠ some "a" ∧
        (reference .release).idFromCookieValue b.around.cookie ≠ some "a") Error.cose
      let result := interleaved a b run.2 "a" sampleSchedule
      Outcome.check (result.firstAccepted = true ∧ result.secondAccepted = true) Error.cose
      Outcome.check (result ≠ serialFirst a b run.2 "a" ∧ result ≠ serialSecond a b run.2 "a") Error.cose
      let ses ← Outcome.ofOption Error.cose result.session
      Outcome.check (ses.encryptionKeys = none ∧ ses.data.aKeyExchange.isSome = true)
        Error.cose).isOk = true := by
    decide +kernel
  obtain ⟨_, h⟩ := Outcome.isOk_iff.mp hrun
  obtain ⟨v, _, h₁⟩ := Outcome.bind_eq_ok.mp h
  obtain ⟨inputs, _, h₂⟩ := Outcome.bind_eq_ok.mp h₁
  obtain ⟨token, _, h₃⟩ := Outcome.bind_eq_ok.mp h₂
  obtain ⟨body, _, h₄⟩ := Outcome.bind_eq_ok.mp h₃
  obtain ⟨_, hdistinct, h₅⟩ := Outcome.bind_eq_ok.mp h₄
  obtain ⟨_, hrequests, h₆⟩ := Outcome.bind_eq_ok.mp h₅
  obtain ⟨_, hfirst, h₇⟩ := Outcome.bind_eq_ok.mp h₆
  obtain ⟨_, hsecond, h₈⟩ := Outcome.bind_eq_ok.mp h₇
  obtain ⟨_, hapart, h₉⟩ := Outcome.bind_eq_ok.mp h₈
  obtain ⟨_, hnew, h₁₀⟩ := Outcome.bind_eq_ok.mp h₉
  obtain ⟨_, haccepted, h₁₁⟩ := Outcome.bind_eq_ok.mp h₁₀
  obtain ⟨_, hserial, h₁₂⟩ := Outcome.bind_eq_ok.mp h₁₁
  obtain ⟨ses, hses, hlost⟩ := Outcome.bind_eq_ok.mp h₁₂
  obtain ⟨haccepted₁, haccepted₂⟩ := Outcome.check_eq_ok.mp haccepted
  obtain ⟨hserial₁, hserial₂⟩ := Outcome.check_eq_ok.mp hserial
  have run : (service sampleUd).Runs ((service sampleUd).replay [] (sampleServer v) (inputs.take 3)).1
      ((service sampleUd).replay [] (sampleServer v) (inputs.take 3)).2 :=
    Service.Runs.replay (.start fun _ => rfl) (Outcome.check_eq_ok.mp hrequests)
      (Outcome.check_eq_ok.mp hdistinct) fun m hm => absurd hm List.not_mem_nil
  have hsame : SameSession _ _ "a" (sampleProve token) (sampleFetch body) := {
    run := run
    first := ⟨"Bearer a", rfl, by decide⟩
    second := ⟨"Bearer a", rfl, by decide⟩
    firstAllowed := Service.allowed_of_distinct rfl (Outcome.check_eq_ok.mp hfirst)
    secondAllowed := Service.allowed_of_distinct rfl (Outcome.check_eq_ok.mp hsecond)
    distinct := Outcome.check_eq_ok.mp hapart
    firstNew := (Outcome.check_eq_ok.mp hnew).1
    secondNew := (Outcome.check_eq_ok.mp hnew).2 }
  exact ⟨_, _, token, body, hsame, haccepted₁, haccepted₂,
    ⟨ses, Outcome.ofOption_eq_ok.mp hses, Outcome.check_eq_ok.mp hlost⟩, hserial₁, hserial₂⟩

theorem interleaved_outcomes_sample : ∃ past s, ∃ a b : Job (service sampleUd), SameSession past s "a" a b ∧
    a.accepted s = true ∧ b.accepted s = true ∧ Outcomes "a" s a b sampleSchedule := by
  obtain ⟨past, s, token, body, hsame, haccepted₁, haccepted₂, _⟩ := sample_sameSession
  have houtcomes : Outcomes "a" s (sampleProve token) (sampleFetch body) sampleSchedule :=
    interleaved_outcomes hsame (by decide)
  rw [houtcomes.overlapping (by decide) (by decide)] at haccepted₁ haccepted₂
  exact ⟨past, s, sampleProve token, sampleFetch body, hsame, haccepted₁, haccepted₂, houtcomes⟩

/-- Both are accepted, and the keys are gone again with the key exchange restored: no
serial order does that. -/
theorem interleaved_not_serial : ∃ past s, ∃ a b : Job (service sampleUd), ∃ schedule,
    SameSession past s "a" a b ∧ Complete schedule ∧
    interleaved a b s "a" schedule ≠ serialFirst a b s "a" ∧
    interleaved a b s "a" schedule ≠ serialSecond a b s "a" ∧
    a.req.messageType = .to2ProveDevice ∧
    (interleaved a b s "a" schedule).firstAccepted = true ∧
    ∃ ses, (interleaved a b s "a" schedule).session = some ses ∧ ses.encryptionKeys = none ∧
      ses.data.aKeyExchange.isSome = true := by
  obtain ⟨past, s, token, body, hsame, haccepted, _, hlost, hserial₁, hserial₂⟩ := sample_sameSession
  exact ⟨past, s, sampleProve token, sampleFetch body, sampleSchedule, hsame, by decide, hserial₁,
    hserial₂, rfl, haccepted, hlost⟩

end FidoOnboard.OwnerServer
