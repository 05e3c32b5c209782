import FidoOnboard.Client.ServiceInfoSteps

/-!
# What is asked of the machine behind the entries

Users, keys and the subscription as one list of set-ups, which is worked off up to the
first that does not get done.
-/
namespace FidoOnboard.Client

variable {M : Machine} {P : Platform} {p q : Progress M} {first second wanted : List Setup}
  {r : Progress M × Outcome ProcessError Unit}

/-- One set-up after the other, and what comes of the last that is tried. -/
def Machine.setups (M : Machine) : M.State → List Setup → M.State × Outcome Unit Unit
  | s, [] => (s, .ok ())
  | s, setup :: rest =>
    match M.setup s setup with
    | (s, .ok ()) => M.setups s rest
    | failed => failed

theorem Machine.setups_append (s : M.State) (first second : List Setup) :
    M.setups s (first ++ second) =
      match M.setups s first with
      | (s, .ok ()) => M.setups s second
      | failed => failed := by
  induction first generalizing s with
  | nil => rfl
  | cons setup first ih =>
      simp only [List.cons_append, Machine.setups]
      rcases M.setup s setup with ⟨s', _ | _ | _⟩
      · exact ih s'
      · rfl
      · rfl

/-- A list that is extended stops where it stopped before. -/
theorem Machine.setups_append_failed {s : M.State} (h : (M.setups s first).2 ≠ .ok ()) (second : List Setup) :
    M.setups s (first ++ second) = M.setups s first := by
  rw [Machine.setups_append]
  rcases hfirst : M.setups s first with ⟨s', _ | _ | _⟩
  · exact absurd (congrArg Prod.snd hfirst) h
  · rfl
  · rfl

/-- What comes of a step, without its value or the text of its error. -/
def answerOf {ε α : Type} : Outcome ε α → Outcome Unit Unit
  | .ok _ => .ok ()
  | .err _ => .err ()
  | .panic => .panic

theorem answerOf_eq_ok {ε : Type} {outcome : Outcome ε Unit} : answerOf outcome = .ok () ↔ outcome = .ok () := by
  cases outcome with
  | ok _ => simp [answerOf]
  | err e => simp [answerOf]
  | panic => simp [answerOf]

theorem answerOf_eq_err {ε α : Type} {outcome : Outcome ε α} : answerOf outcome = .err () ↔ ∃ e, outcome = .err e := by
  cases outcome with
  | ok _ => simp [answerOf]
  | err e => simp [answerOf]
  | panic => simp [answerOf]

theorem answerOf_eq_panic {ε α : Type} {outcome : Outcome ε α} : answerOf outcome = .panic ↔ outcome = .panic := by
  cases outcome with
  | ok _ => simp [answerOf]
  | err e => simp [answerOf]
  | panic => simp [answerOf]

/-- The step asks for these set-ups, and changes nothing else. -/
structure Asks (setups : List Setup) (p : Progress M) (r : Progress M × Outcome ProcessError Unit) : Prop where
  machine : r.1.machine = (M.setups p.machine setups).1
  answer : answerOf r.2 = (M.setups p.machine setups).2
  rest : r.1 = { p with machine := r.1.machine, actions := r.1.actions }

theorem Asks.none (p : Progress M) : Asks [] p (p, .ok ()) := ⟨rfl, rfl, rfl⟩

theorem Asks.one (text : String) (setup : Setup) (p : Progress M) : Asks [setup] p (performSetup text setup p) := by
  have hsetups : M.setups p.machine [setup] = M.setup p.machine setup := by
    simp only [Machine.setups]
    rcases M.setup p.machine setup with ⟨s, _ | _ | _⟩
    · rfl
    · rfl
    · rfl
  unfold performSetup
  rcases hrun : M.setup p.machine setup with ⟨s, _ | _ | _⟩
  · exact ⟨by rw [hsetups, hrun], by rw [hsetups, hrun]; rfl, rfl⟩
  · exact ⟨by rw [hsetups, hrun], by rw [hsetups, hrun]; rfl, rfl⟩
  · exact ⟨by rw [hsetups, hrun], by rw [hsetups, hrun]; rfl, rfl⟩

theorem Asks.next (h : Asks first p (q, .ok ())) (h' : Asks second q r) : Asks (first ++ second) p r := by
  have hfirst : M.setups p.machine first = (q.machine, .ok ()) := Prod.ext h.machine.symm h.answer.symm
  have hall : M.setups p.machine (first ++ second) = M.setups q.machine second := by
    rw [Machine.setups_append, hfirst]
  have hq : q = { p with machine := q.machine, actions := q.actions } := h.rest
  refine ⟨by rw [hall]; exact h'.machine, by rw [hall]; exact h'.answer, h'.rest.trans ?_⟩
  rw [hq]

theorem Asks.failed (h : Asks first p r) (hfailed : r.2 ≠ .ok ()) : (M.setups p.machine first).2 ≠ .ok () := by
  rw [← h.answer]
  exact fun hok => hfailed (answerOf_eq_ok.mp hok)

theorem Asks.stop (h : Asks first p r) (hfailed : r.2 ≠ .ok ()) (second : List Setup) :
    Asks (first ++ second) p r := by
  have hall := Machine.setups_append_failed (h.failed hfailed) second
  exact ⟨by rw [hall]; exact h.machine, by rw [hall]; exact h.answer, h.rest⟩

/-- One step and, if it gets done, another. -/
theorem Asks.bind {next : Progress M → Progress M × Outcome ProcessError Unit} : Asks first p r →
    (∀ q, r = (q, .ok ()) → Asks second q (next q)) → Asks (first ++ second) p
      (match r with
      | (p, .ok ()) => next p
      | failed => failed) := by
  intro h h'
  rcases r with ⟨q, _ | e | _⟩
  · exact h.next (h' q rfl)
  · exact h.stop (fun hok => by cases hok) second
  · exact h.stop (fun hok => by cases hok) second

/-! ## The lists -/

def keySetups (user : String) : Option String → List Setup
  | none => []
  | some keys => .createUser user :: (splitKeys keys).map (.installSshKey user)

/-- A user with a password, a user with keys, or one with both. -/
def accountSetups (p : Progress M) : Option (List Setup) :=
  if .fedoraIot .sshKey ∉ p.activeModules then some []
  else match p.sshkeyUser with
  | none => none
  | some user =>
    if p.sshkeyKeys = none ∧ p.sshkeyPassword = none then none
    else some (p.sshkeyPassword.toList.map (.createUserWithPassword user) ++ keySetups user p.sshkeyKeys)

def subscriptionSetups (p : Progress M) : Option (List Setup) :=
  if .redHatCom .subscriptionManager ∉ p.activeModules then some []
  else match p.rhsmOrganizationId, p.rhsmActivationKey, p.rhsmPerformInsights with
  | some organizationId, some activationKey, some performInsights =>
    some [.performRhsm organizationId activationKey performInsights]
  | _, _, _ => none

theorem installSshKeys_asks (user : String) (keys : List String) (p : Progress M) :
    Asks (keys.map (.installSshKey user)) p (installSshKeys user keys p) := by
  induction keys generalizing p with
  | nil => exact .none p
  | cons key keys ih =>
      have hone := Asks.one "Error installing SSH key" (.installSshKey user key) p
      exact hone.bind fun q _ => ih q

theorem finishPassword_asks (user : String) (p : Progress M) :
    Asks (p.sshkeyPassword.toList.map (.createUserWithPassword user)) p (finishPassword user p) := by
  unfold finishPassword
  cases p.sshkeyPassword with
  | none => exact .none p
  | some password => exact .one _ _ p

theorem finishKeys_asks (user : String) (p : Progress M) :
    Asks (keySetups user p.sshkeyKeys) p (finishKeys user p) := by
  unfold finishKeys
  cases p.sshkeyKeys with
  | none => exact .none p
  | some keys =>
      have hone := Asks.one "Error creating new user" (.createUser user) p
      exact hone.bind fun q _ => installSshKeys_asks user (splitKeys keys) q

theorem finishSshKey_asks (h : accountSetups p = some wanted) : Asks wanted p (finishSshKey p) := by
  by_cases hinactive : .fedoraIot .sshKey ∉ p.activeModules
  · obtain rfl : [] = wanted := by
      simpa only [accountSetups, if_pos hinactive, Option.some.injEq] using h
    rw [finishSshKey, if_pos hinactive]
    exact .none p
  · rw [accountSetups, if_neg hinactive] at h
    rw [finishSshKey, if_neg hinactive]
    rcases Option.eq_none_or_eq_some p.sshkeyUser with huser | ⟨user, huser⟩
    · simp only [huser, reduceCtorEq] at h
    · by_cases hmissing : p.sshkeyKeys = none ∧ p.sshkeyPassword = none
      · simp only [huser, if_pos hmissing, reduceCtorEq] at h
      · simp only [huser, if_neg hmissing, Option.some.injEq] at h ⊢
        subst h
        have hpassword := finishPassword_asks user p
        refine hpassword.bind ?_
        intro q hq
        rw [hq] at hpassword
        have hrest : q = { p with machine := q.machine, actions := q.actions } := hpassword.rest
        have hkeys : q.sshkeyKeys = p.sshkeyKeys := by rw [hrest]
        rw [← hkeys]
        exact finishKeys_asks user q

theorem finishSshKey_missing (h : accountSetups p = none) : ∃ e, finishSshKey p = (p, .err e) := by
  by_cases hinactive : .fedoraIot .sshKey ∉ p.activeModules
  · simp only [accountSetups, if_pos hinactive, reduceCtorEq] at h
  · rw [accountSetups, if_neg hinactive] at h
    rw [finishSshKey, if_neg hinactive]
    rcases Option.eq_none_or_eq_some p.sshkeyUser with huser | ⟨user, huser⟩
    · simp only [huser]
      exact ⟨_, rfl⟩
    · by_cases hmissing : p.sshkeyKeys = none ∧ p.sshkeyPassword = none
      · simp only [huser, if_pos hmissing]
        exact ⟨_, rfl⟩
      · simp only [huser, if_neg hmissing, reduceCtorEq] at h

/-- All three settings are there, or one is missing. -/
theorem subscription_cases (p : Progress M) :
    (∃ organizationId activationKey performInsights, p.rhsmOrganizationId = some organizationId ∧
      p.rhsmActivationKey = some activationKey ∧ p.rhsmPerformInsights = some performInsights) ∨
    p.rhsmOrganizationId = none ∨ p.rhsmActivationKey = none ∨ p.rhsmPerformInsights = none := by
  rcases Option.eq_none_or_eq_some p.rhsmOrganizationId with horganization | ⟨_, horganization⟩
  · exact .inr (.inl horganization)
  rcases Option.eq_none_or_eq_some p.rhsmActivationKey with hactivation | ⟨_, hactivation⟩
  · exact .inr (.inr (.inl hactivation))
  rcases Option.eq_none_or_eq_some p.rhsmPerformInsights with hinsights | ⟨_, hinsights⟩
  · exact .inr (.inr (.inr hinsights))
  exact .inl ⟨_, _, _, horganization, hactivation, hinsights⟩

theorem finishRhsm_asks (h : subscriptionSetups p = some wanted) : Asks wanted p (finishRhsm p) := by
  by_cases hinactive : .redHatCom .subscriptionManager ∉ p.activeModules
  · obtain rfl : [] = wanted := by
      simpa only [subscriptionSetups, if_pos hinactive, Option.some.injEq] using h
    rw [finishRhsm, if_pos hinactive]
    exact .none p
  · rw [subscriptionSetups, if_neg hinactive] at h
    rw [finishRhsm, if_neg hinactive]
    obtain ⟨_, _, _, horganization, hactivation, hinsights⟩ | hmissing | hmissing | hmissing :=
      subscription_cases p
    · simp only [horganization, hactivation, hinsights, Option.some.injEq] at h ⊢
      subst h
      exact .one _ _ p
    all_goals simp [hmissing] at h

theorem finishRhsm_missing (h : subscriptionSetups p = none) : ∃ e, finishRhsm p = (p, .err e) := by
  by_cases hinactive : .redHatCom .subscriptionManager ∉ p.activeModules
  · simp only [subscriptionSetups, if_pos hinactive, reduceCtorEq] at h
  · rw [subscriptionSetups, if_neg hinactive] at h
    rw [finishRhsm, if_neg hinactive]
    obtain ⟨_, _, _, horganization, hactivation, hinsights⟩ | hmissing | hmissing | hmissing :=
      subscription_cases p
    · simp only [horganization, hactivation, hinsights, reduceCtorEq] at h
    all_goals exact ⟨_, by simp [hmissing]; rfl⟩

theorem Asks.subscriptionSetups_eq (h : Asks wanted p r) : subscriptionSetups r.1 = subscriptionSetups p := by
  rw [h.rest]
  rfl

/-! ## Behind the entries -/

/-- Values are missing, or the machine does not do all that they ask for. -/
def SetupRefuses (p : Progress M) : Prop :=
  accountSetups p = none ∨ ∃ account, accountSetups p = some account ∧
    ((M.setups p.machine account).2 = .err () ∨ (M.setups p.machine account).2 = .ok () ∧
      ∀ subscription, subscriptionSetups p = some subscription →
        (M.setups p.machine (account ++ subscription)).2 = .err ())

def SetupStops (p : Progress M) : Prop :=
  ∃ account, accountSetups p = some account ∧ ((M.setups p.machine account).2 = .panic ∨
    ∃ subscription, subscriptionSetups p = some subscription ∧
      (M.setups p.machine (account ++ subscription)).2 = .panic)

/-- The four ways through users, keys and subscription. -/
inductive Finishes (p : Progress M) : Outcome Unit Unit → Prop where
  | nobody (missing : accountSetups p = none) : Finishes p (.err ())
  | account {account : List Setup} (wanted : accountSetups p = some account)
      (failed : (M.setups p.machine account).2 ≠ .ok ()) : Finishes p (M.setups p.machine account).2
  | unsubscribed {account : List Setup} (wanted : accountSetups p = some account)
      (done : (M.setups p.machine account).2 = .ok ()) (missing : subscriptionSetups p = none) : Finishes p (.err ())
  | subscription {account subscription : List Setup} (wanted : accountSetups p = some account)
      (done : (M.setups p.machine account).2 = .ok ()) (asked : subscriptionSetups p = some subscription) :
      Finishes p (M.setups p.machine (account ++ subscription)).2

theorem Finishes.err_iff {answer : Outcome Unit Unit} (h : Finishes p answer) : answer = .err () ↔ SetupRefuses p := by
  unfold SetupRefuses
  cases h with
  | nobody missing => exact iff_of_true rfl (.inl missing)
  | account wanted failed =>
      simp only [wanted, reduceCtorEq, false_or, Option.some.injEq, exists_eq_left', failed, false_and, or_false]
  | unsubscribed wanted done missing =>
      simp [wanted, done, missing]
  | subscription wanted done asked =>
      simp [wanted, done, asked]

theorem Finishes.panic_iff {answer : Outcome Unit Unit} (h : Finishes p answer) : answer = .panic ↔ SetupStops p := by
  unfold SetupStops
  cases h with
  | nobody missing => simp [missing]
  | account wanted failed =>
      have hsame (subscription : List Setup) := M.setups_append_failed failed subscription
      simp only [wanted, hsame, Option.some.injEq, exists_eq_left', iff_self_or]
      rintro ⟨_, -, hpanic⟩
      exact hpanic
  | unsubscribed wanted done missing =>
      simp [wanted, done, missing]
  | subscription wanted done asked =>
      simp [wanted, done, asked]

/-- The users and keys that were asked for are not all made. -/
theorem Asks.finishes {account : List Setup} {r : Progress M × Outcome ProcessError Unit} (h : Asks account p r)
    (haccount : accountSetups p = some account) (hfailed : r.2 ≠ .ok ()) : Finishes p (answerOf r.2) := by
  rw [h.answer]
  exact .account haccount (h.failed hfailed)

theorem Reached.finishes {V : ServiceInfoValues P} {pathPrefix : Option String} {machine : M.State}
    {siIn siOut : ServiceInfo} (h : Reached V pathPrefix machine siOut (entriesOf V siIn) p) :
    Finishes p (answerOf (processServiceinfoIn V pathPrefix machine siIn siOut).2) := by
  unfold Reached at h
  unfold processServiceinfoIn
  rw [h]
  dsimp only
  cases haccount : accountSetups p with
  | none =>
      obtain ⟨e, he⟩ := finishSshKey_missing haccount
      rw [he]
      exact .nobody haccount
  | some account =>
      have hasks := finishSshKey_asks haccount
      have hsame := hasks.subscriptionSetups_eq
      rcases hssh : finishSshKey p with ⟨q, ⟨⟩ | e | _⟩
      all_goals rw [hssh] at hasks hsame
      case err => exact hasks.finishes haccount (by simp)
      case panic => exact hasks.finishes haccount (by simp)
      case ok =>
        have hdone : (M.setups p.machine account).2 = .ok () := hasks.answer.symm
        cases hsubscription : subscriptionSetups p with
        | none =>
            obtain ⟨e, he⟩ := finishRhsm_missing (hsame.trans hsubscription)
            simp only [he]
            exact .unsubscribed haccount hdone hsubscription
        | some subscription =>
            have hall := hasks.next (finishRhsm_asks (hsame.trans hsubscription))
            have hfinishes := Finishes.subscription haccount hdone hsubscription
            rw [← hall.answer] at hfinishes
            dsimp only
            rcases hrhsm : finishRhsm q with ⟨r, ⟨⟩ | e | _⟩
            · rwa [hrhsm] at hfinishes
            · rwa [hrhsm] at hfinishes
            · rwa [hrhsm] at hfinishes

end FidoOnboard.Client
