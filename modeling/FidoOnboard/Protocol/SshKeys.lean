import FidoOnboard.Base.Splitting
import FidoOnboard.Client.DeployedFiles
import FidoOnboard.Client.Setups
import FidoOnboard.DataFormats.ReferenceJson
import FidoOnboard.DataFormats.ServiceInfoRoundTrip
import FidoOnboard.OwnerServer.Handlers

/-!
# SSH keys from the reply to the device

The owner joins the keys with semicolons, the device cuts at every semicolon and calls
`install_ssh_key` for each piece.
-/
namespace FidoOnboard.SshKeys
open Client OwnerServer

variable {P : Platform} {V : ServiceInfoValues P} {M : Machine} {pathPrefix : Option String}

/-! ## Joining and cutting -/

theorem splitKeys_no_separator {keys key : String} (h : key ∈ splitKeys keys) : ';' ∉ key.toList := by
  obtain ⟨piece, hpiece, rfl⟩ := List.mem_map.mp h
  rw [String.toList_ofList]
  exact Splitting.not_mem_of_mem_splitOn hpiece

theorem splitKeys_ne_nil (keys : String) : splitKeys keys ≠ [] := by
  intro h
  exact List.splitOn_ne_nil ';' keys.toList (List.map_eq_nil_iff.mp h)

theorem splitKeys_join {keys : List String} (hne : keys ≠ []) (hkeys : ∀ key ∈ keys, ';' ∉ key.toList) :
    splitKeys (String.intercalate ";" keys) = keys := by
  unfold splitKeys
  have hcut : ([';'].intercalate (keys.map String.toList)).splitOn ';' = keys.map String.toList := by
    apply List.splitOn_intercalate
    · intro piece hpiece
      obtain ⟨key, hkey, rfl⟩ := List.mem_map.mp hpiece
      exact hkeys key hkey
    · exact fun h => hne (List.map_eq_nil_iff.mp h)
  have hjoin : (String.intercalate ";" keys).toList = [';'].intercalate (keys.map String.toList) :=
    String.toList_intercalate
  rw [hjoin, hcut, List.map_map]
  exact (List.map_congr_left fun key _ => String.ofList_toList).trans (List.map_id keys)

/-- The first pieces are the keys only where all keys are whole pieces. -/
theorem take_splitKeys_join {keys : List String} {n : Nat} (hpos : 0 < n) :
    (splitKeys (String.intercalate ";" keys)).take n = keys ↔
      keys ≠ [] ∧ (∀ key ∈ keys, ';' ∉ key.toList) ∧ keys.length ≤ n := by
  constructor
  · intro h
    have hne : keys ≠ [] := by
      rintro rfl
      rcases List.take_eq_nil_iff.mp h with rfl | hnil
      · omega
      · exact splitKeys_ne_nil _ hnil
    have hkeys : ∀ key ∈ keys, ';' ∉ key.toList := by
      intro key hkey
      rw [← h] at hkey
      exact splitKeys_no_separator (List.mem_of_mem_take hkey)
    rw [splitKeys_join hne hkeys, List.take_eq_self_iff] at h
    exact ⟨hne, hkeys, h⟩
  · rintro ⟨hne, hkeys, hle⟩
    rw [splitKeys_join hne hkeys]
    exact List.take_of_length_le hle

/-! ## Calls that the device makes -/

/-- The system, and every set-up that is asked of it. -/
def logged (M : Machine) : Machine where
  State := M.State × List Setup
  createFile s path contents mode :=
    (((M.createFile s.1 path contents mode).1, s.2), (M.createFile s.1 path contents mode).2)
  output s command args := (((M.output s.1 command args).1, s.2), (M.output s.1 command args).2)
  setup s setup := (((M.setup s.1 setup).1, s.2 ++ [setup]), (M.setup s.1 setup).2)

def installed : Setup → Option String
  | .installSshKey _ key => some key
  | _ => none

/-- The keys for which `install_ssh_key` has been called. -/
def calls (p : Progress (logged M)) : List String := p.machine.2.filterMap installed

variable {p p' : Progress (logged M)} {key : String} {value : CborValue} {es : List Entry}

theorem calls_setup (text : String) (setup : Setup) (p : Progress (logged M)) :
    calls (performSetup text setup p).1 = calls p ++ (installed setup).toList := by
  obtain ⟨actions, hfst, -⟩ := performSetup_fst text setup p
  rw [hfst]
  simp only [calls, logged, List.filterMap_append]
  cases hinstalled : installed setup with
  | none => simp [hinstalled]
  | some key => simp [hinstalled]

/-- No key is installed, and what is known of the user is kept. -/
structure KeyFrame (p p' : Progress (logged M)) : Prop where
  calls : calls p' = calls p
  user : p'.sshkeyUser = p.sshkeyUser
  password : p'.sshkeyPassword = p.sshkeyPassword
  keys : p'.sshkeyKeys = p.sshkeyKeys

theorem KeyFrame.refl (p : Progress (logged M)) : KeyFrame p p := ⟨rfl, rfl, rfl, rfl⟩

theorem KeyFrame.trans {p p' p'' : Progress (logged M)} (h : KeyFrame p p') (h' : KeyFrame p' p'') :
    KeyFrame p p'' :=
  ⟨h'.calls.trans h.calls, h'.user.trans h.user, h'.password.trans h.password, h'.keys.trans h.keys⟩

theorem keyFrame_of_effect {module : ServiceInfoModule} (h : Effect p module p') (hmodule : module ≠ sshKeyModule) :
    KeyFrame p p' := by
  cases h with
  | sshKey => exact absurd rfl hmodule
  | nothing | reboot | rhsm | file | created | command | executed | disk => exact ⟨rfl, rfl, rfl, rfl⟩
  | rebound =>
      refine ⟨?_, rfl, rfl, rfl⟩
      simp [calls, logged, installed]

/-- An entry that is not of the module for SSH keys, accepted or not. -/
theorem processEntry_keyFrame {module : ServiceInfoModule} (V : ServiceInfoValues P) (pathPrefix : Option String)
    (p : Progress (logged M)) (key : String) (value : CborValue) (hmodule : module ≠ sshKeyModule) :
    KeyFrame p (processEntry V pathPrefix p module key value).1 ∧
      (sshKeyModule ∈ (processEntry V pathPrefix p module key value).1.activeModules ↔
        sshKeyModule ∈ p.activeModules) := by
  by_cases hkey : key = "active"
  case neg =>
    have heffect : Effect p module (processEntry V pathPrefix p module key value).1 :=
      processEntry_effect V pathPrefix p hkey
    refine ⟨keyFrame_of_effect heffect hmodule, ?_⟩
    rw [heffect.activeModules]
  case pos =>
    unfold processEntry
    rw [if_pos hkey]
    cases hactive : activeEntry p module value with
    | err e => exact ⟨.refl p, Iff.rfl⟩
    | panic => exact ⟨.refl p, Iff.rfl⟩
    | ok q =>
        obtain ⟨b, -, rfl⟩ := activeEntry_ok hactive
        refine ⟨⟨rfl, rfl, rfl, rfl⟩, ?_⟩
        cases b with
        | true => simp [keep, hmodule.symm]
        | false => simp [keep, hmodule.symm]

theorem processEntries_keyFrame (V : ServiceInfoValues P) (pathPrefix : Option String)
    (hes : ∀ entry ∈ es, entry.1 ≠ sshKeyModule) (p : Progress (logged M)) :
    KeyFrame p (processEntries V pathPrefix es p).1 ∧
      (sshKeyModule ∈ (processEntries V pathPrefix es p).1.activeModules ↔ sshKeyModule ∈ p.activeModules) := by
  induction es generalizing p with
  | nil => exact ⟨.refl p, Iff.rfl⟩
  | cons entry es ih =>
      obtain ⟨module, key, value⟩ := entry
      have hfirst := processEntry_keyFrame V pathPrefix p key value
        (hes (module, key, value) List.mem_cons_self)
      unfold processEntries
      split
      next q hq =>
        rw [hq] at hfirst
        have hrest := ih (fun entry hentry => hes entry (List.mem_cons_of_mem _ hentry)) q
        exact ⟨hfirst.1.trans hrest.1, hrest.2.trans hfirst.2⟩
      · exact hfirst

/-! ## The entries of the user -/

/-- What the device sees of a user with keys. -/
def userEntries (username : String) (password : Option String) (keys : List String) : List Entry :=
  (sshKeyModule, "active", .bool true) :: (sshKeyModule, "username", .text username.toList) ::
    (password.map fun password => (sshKeyModule, "password", CborValue.text password.toList)).toList ++
      [(sshKeyModule, "sshkeys", .text (String.intercalate ";" keys).toList)]

/-- The user as the device knows it behind these entries. -/
def withUser (p : Progress (logged M)) (username : String) (password : Option String) (keys : List String) :
    Progress (logged M) :=
  { p with
    activeModules := sshKeyModule :: p.activeModules
    sshkeyUser := some username
    sshkeyPassword := password.or p.sshkeyPassword
    sshkeyKeys := some (String.intercalate ";" keys) }

theorem processEntries_user (V : ServiceInfoValues P) (pathPrefix : Option String) (username : String)
    (password : Option String) (keys : List String) (p : Progress (logged M)) (rest : List Entry) :
    processEntries V pathPrefix (userEntries username password keys ++ rest) p =
      processEntries V pathPrefix rest (withUser p username password keys) := by
  cases password with
  | none => simp [userEntries, withUser, processEntries, processEntry, keep, activeEntry, sshKeyEntry, parsing,
      CborValue.asBool, CborValue.asStr, Outcome.ofOption, sshKeyModule, -String.toList_intercalate]
  | some password => simp [userEntries, withUser, processEntries, processEntry, keep, activeEntry, sshKeyEntry, parsing,
      CborValue.asBool, CborValue.asStr, Outcome.ofOption, sshKeyModule, -String.toList_intercalate]

/-! ## Behind the entries -/

/-- The set-ups that are tried: all up to the first that does not get done. -/
def tried (M : Machine) : M.State → List Setup → List Setup
  | _, [] => []
  | s, setup :: rest =>
    setup :: match M.setup s setup with
      | (s, .ok ()) => tried M s rest
      | _ => []

theorem logged_setups (s : M.State) (before wanted : List Setup) : (logged M).setups (s, before) wanted =
    (((M.setups s wanted).1, before ++ tried M s wanted), (M.setups s wanted).2) := by
  induction wanted generalizing s before with
  | nil => exact Prod.ext (Prod.ext rfl (List.append_nil before).symm) rfl
  | cons setup rest ih =>
      have hlogged : (logged M).setup (s, before) setup =
        (((M.setup s setup).1, before ++ [setup]), (M.setup s setup).2) := rfl
      simp only [Machine.setups, tried, hlogged]
      rcases M.setup s setup with ⟨s', ⟨⟩ | ⟨⟩ | _⟩
      · simpa using ih s' (before ++ [setup])
      · rfl
      · rfl

variable {s s' : M.State} {first : List Setup}

theorem tried_append_done (h : M.setups s first = (s', .ok ())) (second : List Setup) :
    tried M s (first ++ second) = first ++ tried M s' second := by
  induction first generalizing s with
  | nil =>
      obtain rfl := (Prod.mk.inj h).1
      rfl
  | cons setup first ih =>
      simp only [Machine.setups] at h
      simp only [List.cons_append, tried]
      rcases hsetup : M.setup s setup with ⟨s₁, ⟨⟩ | ⟨⟩ | _⟩
      · rw [hsetup] at h
        exact congrArg (setup :: ·) (ih h)
      · simp [hsetup] at h
      · simp [hsetup] at h

theorem tried_append_failed (h : (M.setups s first).2 ≠ .ok ()) (second : List Setup) :
    tried M s (first ++ second) = tried M s first := by
  induction first generalizing s with
  | nil => exact absurd rfl h
  | cons setup first ih =>
      simp only [Machine.setups] at h
      simp only [List.cons_append, tried]
      rcases hsetup : M.setup s setup with ⟨s₁, ⟨⟩ | ⟨⟩ | _⟩
      · rw [hsetup] at h
        exact congrArg (setup :: ·) (ih h)
      · rfl
      · rfl

theorem tried_subset (s : M.State) (wanted : List Setup) : tried M s wanted ⊆ wanted := by
  induction wanted generalizing s with
  | nil => exact List.Subset.refl []
  | cons setup rest ih =>
      simp only [tried]
      rcases M.setup s setup with ⟨s', ⟨⟩ | ⟨⟩ | _⟩
      · exact List.cons_subset_cons setup (ih s')
      · exact List.cons_subset_cons setup (List.nil_subset rest)
      · exact List.cons_subset_cons setup (List.nil_subset rest)

/-- Every piece is tried up to the first that fails. -/
theorem tried_keys (user : String) (pieces : List String) (s : M.State) : ∃ n,
    (tried M s (pieces.map (.installSshKey user))).filterMap installed = pieces.take n ∧ (pieces ≠ [] → 0 < n) ∧
      (pieces.length ≤ n ↔ (M.setups s (pieces.dropLast.map (.installSshKey user))).2 = .ok ()) := by
  induction pieces generalizing s with
  | nil => exact ⟨0, by simp [tried], by simp, by simp [Machine.setups]⟩
  | cons piece pieces ih =>
      have hlast (hnil : pieces = []) :
          (M.setups s ((piece :: pieces).dropLast.map (.installSshKey user))).2 = .ok () := by
        rw [hnil]
        rfl
      rcases hsetup : M.setup s (.installSshKey user piece) with ⟨s', outcome⟩
      by_cases hok : outcome = .ok ()
      case neg =>
        refine ⟨1, ?_, fun _ => Nat.one_pos, ?_⟩
        · simp only [List.map_cons, tried, hsetup]
          split
          next hdone => exact absurd (Prod.mk.inj hdone).2 hok
          · rfl
        · rw [List.length_cons]
          cases pieces with
          | nil => exact iff_of_true (Nat.le_refl 1) (hlast rfl)
          | cons next pieces =>
              refine iff_of_false (by simp) ?_
              simp only [List.dropLast_cons_cons, List.map_cons, Machine.setups, hsetup]
              split
              next hdone => exact absurd (Prod.mk.inj hdone).2 hok
              · exact hok
      case pos =>
        subst hok
        obtain ⟨n, htried, -, hall⟩ := ih s'
        refine ⟨n + 1, ?_, fun _ => Nat.succ_pos n, ?_⟩
        · simp only [List.map_cons, tried, hsetup, List.take_succ_cons]
          rw [List.filterMap_cons_some (by rfl), htried]
        · rw [List.length_cons, Nat.succ_le_succ_iff]
          cases pieces with
          | nil => exact iff_of_true (Nat.zero_le n) (hlast rfl)
          | cons next pieces =>
              rw [hall]
              simp only [List.dropLast_cons_cons, List.map_cons, Machine.setups, hsetup]

/-- Nothing has been asked for. -/
def unasked (machine : M.State) : (logged M).State := (machine, [])

/-- What is asked for before the first key. -/
def accountOf (username : String) (password : Option String) : List Setup :=
  password.toList.map (.createUserWithPassword username) ++ [.createUser username]

/-- Every pair has been accepted, and the machine does all of this. -/
def SetupsDone (V : ServiceInfoValues P) (pathPrefix : Option String) (machine : M.State) (outSi siOut : ServiceInfo)
    (wanted : List Setup) : Prop :=
  ∃ q, Reached V pathPrefix (unasked machine) siOut (entriesOf V outSi) q ∧
    (M.setups q.machine.1 wanted).2 = .ok ()

theorem account_not_installed {username : String} {password : Option String} {setups : List Setup}
    (h : setups ⊆ accountOf username password) : setups.filterMap installed = [] := by
  rw [List.filterMap_eq_nil_iff]
  intro setup hsetup
  rcases List.mem_append.mp (h hsetup) with hpassword | huser
  · obtain ⟨_, -, rfl⟩ := List.mem_map.mp hpassword
    rfl
  · obtain rfl := List.mem_singleton.mp huser
    rfl

theorem finishRhsm_calls (p : Progress (logged M)) : calls (finishRhsm p).1 = calls p := by
  unfold finishRhsm
  split
  · rfl
  split
  next organizationId activationKey performInsights _ _ _ =>
    exact (calls_setup _ (.performRhsm organizationId activationKey performInsights) p).trans (List.append_nil _)
  · rfl

variable {machine : M.State} {outSi siOut : ServiceInfo} {q : Progress (logged M)}

theorem processServiceinfoIn_calls (V : ServiceInfoValues P) (pathPrefix : Option String)
    (h : processEntries V pathPrefix (entriesOf V outSi) (.new (unasked machine) siOut) = (q, .ok ())) :
    calls (processServiceinfoIn V pathPrefix (unasked machine) outSi siOut).1 = calls (finishSshKey q).1 := by
  unfold processServiceinfoIn
  rw [h]
  dsimp only
  rcases finishSshKey q with ⟨p, ⟨⟩ | e | _⟩
  case err => rfl
  case panic => rfl
  case ok =>
    have hcalls := finishRhsm_calls p
    dsimp only
    rcases hrhsm : finishRhsm p with ⟨p', ⟨⟩ | e | _⟩
    all_goals
      rw [hrhsm] at hcalls
      exact hcalls

theorem processServiceinfoIn_calls_failed (V : ServiceInfoValues P) (pathPrefix : Option String)
    (h : (processEntries V pathPrefix (entriesOf V outSi) (.new (unasked machine) siOut)).2 ≠ .ok ()) :
    calls (processServiceinfoIn V pathPrefix (unasked machine) outSi siOut).1 =
      calls (processEntries V pathPrefix (entriesOf V outSi) (.new (unasked machine) siOut)).1 := by
  unfold processServiceinfoIn
  rcases hes : processEntries V pathPrefix (entriesOf V outSi) (.new (unasked machine) siOut) with ⟨p, ⟨⟩ | e | _⟩
  · rw [hes] at h
    exact absurd rfl h
  · rfl
  · rfl

/-- A user with keys who is asked for. -/
structure Asked (q : Progress (logged M)) (username : String) (password : Option String) (keys : List String) :
    Prop where
  active : sshKeyModule ∈ q.activeModules
  user : q.sshkeyUser = some username
  password : q.sshkeyPassword = password
  keys : q.sshkeyKeys = some (String.intercalate ";" keys)
  calls : calls q = []

theorem finishSshKey_calls {username : String} {password : Option String} {keys : List String}
    (h : Asked q username password keys) : calls (finishSshKey q).1 =
      (tried M q.machine.1 (accountOf username password ++
        (splitKeys (String.intercalate ";" keys)).map (.installSshKey username))).filterMap installed := by
  have hwanted : accountSetups q = some (accountOf username password ++
      (splitKeys (String.intercalate ";" keys)).map (.installSshKey username)) := by
    have hactive : ¬ ServiceInfoModule.fedoraIot .sshKey ∉ q.activeModules := not_not.mpr h.active
    simp [accountSetups, keySetups, accountOf, h.user, h.keys, h.password, if_neg hactive]
  have hasked := (finishSshKey_asks hwanted).machine
  have hlogged (wanted : List Setup) : ((logged M).setups q.machine wanted).1.2 =
    q.machine.2 ++ tried M q.machine.1 wanted :=
    congrArg (fun r => r.1.2) (logged_setups q.machine.1 q.machine.2 wanted)
  have hnone := h.calls
  unfold calls at hnone ⊢
  rw [hasked, hlogged, List.filterMap_append, hnone, List.nil_append]

/-! ## From the pairs of the user to the calls -/

variable {username : String} {password : Option String} {keys : List String} {rest : List Entry}

theorem asked_of_entries (pathPrefix : Option String) (machine : M.State) (siOut : ServiceInfo)
    (hentries : entriesOf V outSi = userEntries username password keys ++ rest)
    (hrest : ∀ entry ∈ rest, entry.1 ≠ sshKeyModule) :
    Asked (processEntries V pathPrefix (entriesOf V outSi) (.new (unasked machine) siOut)).1 username password keys := by
  rw [hentries, processEntries_user]
  obtain ⟨hframe, hactive⟩ := processEntries_keyFrame V pathPrefix hrest
    (withUser (.new (unasked machine) siOut) username password keys)
  exact ⟨hactive.mpr List.mem_cons_self, hframe.user, hframe.password.trans Option.or_none, hframe.keys, hframe.calls⟩

theorem install_calls_iff (hentries : entriesOf V outSi = userEntries username password keys ++ rest)
    (hrest : ∀ entry ∈ rest, entry.1 ≠ sshKeyModule) :
    calls (processServiceinfoIn V pathPrefix (unasked machine) outSi siOut).1 = keys ↔
      (keys = [] ∧ ¬ SetupsDone V pathPrefix machine outSi siOut (accountOf username password)) ∨
      (keys ≠ [] ∧ (∀ key ∈ keys, ';' ∉ key.toList) ∧ SetupsDone V pathPrefix machine outSi siOut
        (accountOf username password ++ keys.dropLast.map (.installSshKey username))) := by
  have hasked := asked_of_entries pathPrefix machine siOut hentries hrest
  -- Without an account there are no calls.
  have hstopped (hnone : calls (processServiceinfoIn V pathPrefix (unasked machine) outSi siOut).1 = [])
      (hnot : ¬ SetupsDone V pathPrefix machine outSi siOut (accountOf username password))
      (hnot' : ¬ SetupsDone V pathPrefix machine outSi siOut
        (accountOf username password ++ keys.dropLast.map (.installSshKey username))) :
      calls (processServiceinfoIn V pathPrefix (unasked machine) outSi siOut).1 = keys ↔
      (keys = [] ∧ ¬ SetupsDone V pathPrefix machine outSi siOut (accountOf username password)) ∨
      (keys ≠ [] ∧ (∀ key ∈ keys, ';' ∉ key.toList) ∧ SetupsDone V pathPrefix machine outSi siOut
        (accountOf username password ++ keys.dropLast.map (.installSshKey username))) := by
    simp only [hnone, hnot, hnot', not_false_iff, and_true, and_false, or_false]
    exact eq_comm
  by_cases hok : (processEntries V pathPrefix (entriesOf V outSi) (.new (unasked machine) siOut)).2 = .ok ()
  case neg =>
    have hnever (wanted : List Setup) : ¬ SetupsDone V pathPrefix machine outSi siOut wanted := by
      rintro ⟨q, hreached, -⟩
      exact hok (congrArg Prod.snd hreached)
    exact hstopped ((processServiceinfoIn_calls_failed V pathPrefix hok).trans hasked.calls) (hnever _) (hnever _)
  case pos =>
  rcases hes : processEntries V pathPrefix (entriesOf V outSi) (.new (unasked machine) siOut) with ⟨q, outcome⟩
  rw [hes] at hok hasked
  obtain rfl : outcome = .ok () := hok
  have hdone (wanted : List Setup) : SetupsDone V pathPrefix machine outSi siOut wanted ↔
      (M.setups q.machine.1 wanted).2 = .ok () := by
    refine ⟨?_, fun h => ⟨q, hes, h⟩⟩
    rintro ⟨q', hreached, h⟩
    obtain rfl := (Prod.mk.inj (hes.symm.trans hreached)).1
    exact h
  have hcalls := processServiceinfoIn_calls V pathPrefix hes
  rw [finishSshKey_calls hasked] at hcalls
  by_cases haccount : (M.setups q.machine.1 (accountOf username password)).2 = .ok ()
  case neg =>
    rw [tried_append_failed haccount, account_not_installed (tried_subset _ _)] at hcalls
    refine hstopped hcalls (mt (hdone _).mp haccount) (mt (hdone _).mp ?_)
    rw [Machine.setups_append_failed haccount]
    exact haccount
  case pos =>
  rcases hsetups : M.setups q.machine.1 (accountOf username password) with ⟨s, outcome⟩
  obtain rfl : outcome = .ok () := by rwa [hsetups] at haccount
  obtain ⟨n, htried, hpos, hall⟩ := tried_keys username (splitKeys (String.intercalate ";" keys)) s
  rw [tried_append_done hsetups, List.filterMap_append, account_not_installed (List.Subset.refl _), List.nil_append,
    htried] at hcalls
  rw [hcalls, take_splitKeys_join (hpos (splitKeys_ne_nil _)), hdone, hdone, Machine.setups_append, hsetups]
  simp only [not_true_eq_false, and_false, false_or]
  refine and_congr_right fun hne => and_congr_right fun hkeys => ?_
  rwa [splitKeys_join hne hkeys] at hall

/-! ## What the owner sends -/

/-- Texts and truths are read as they were written. -/
structure TextLaws (V : ServiceInfoValues P) : Prop where
  text : ∀ {s : String}, s.length ≤ sendable → V.Holds (P.text.intoWriter s) (.text s.toList)
  bool : ∀ b, V.Holds (P.bool.intoWriter b) (.bool b)

theorem sshKey_readable : sshKeyModule.Readable := ⟨by decide, rfl⟩

/-- A pair that the owner adds and the device reads. -/
theorem add_entries (key : String) {raw : Option Bytes} (h : V.Holds raw value) : ∃ pair : String × Bytes,
    (∀ info : ServiceInfo, info.add (.fedoraIot .sshKey) key raw = .ok (info ++ [pair])) ∧
      ∀ more, entriesOf V (pair :: more) = (sshKeyModule, key, value) :: entriesOf V more := by
  obtain ⟨data, v, rfl, hv, hcbor⟩ := h
  refine ⟨(sshKeyModule.toString ++ ":" ++ key, data), fun info => rfl, fun more => ?_⟩
  simp [entriesOf, ServiceInfo.iter, ServiceInfo.splitKey_readable sshKey_readable, hv, hcbor]

/-- Texts that fit into memory. -/
structure Sendable (username : String) (password : Option String) (keys : List String) : Prop where
  username : username.length ≤ sendable
  password : ∀ p, password = some p → p.length ≤ sendable
  keys : (String.intercalate ";" keys).length ≤ sendable

theorem addInitialUser_entries (laws : TextLaws V) (hsize : Sendable username password keys) :
    ∃ info, addInitialUser P ⟨username, password, some keys⟩ [] = .ok info ∧
      ∀ more, entriesOf V (info ++ more) = userEntries username password keys ++ entriesOf V more := by
  obtain ⟨active, haddActive, hactive⟩ := add_entries "active" (laws.bool true)
  obtain ⟨name, haddName, hname⟩ := add_entries "username" (laws.text hsize.username)
  obtain ⟨joined, haddJoined, hjoined⟩ := add_entries "sshkeys" (laws.text hsize.keys)
  cases password with
  | none =>
      refine ⟨[active, name, joined], ?_, fun more => ?_⟩
      · simp only [addInitialUser, haddActive, haddName, haddJoined, Outcome.ok_bind]
        rfl
      · simp [hactive, hname, hjoined, userEntries]
  | some password =>
      obtain ⟨secret, haddSecret, hsecret⟩ := add_entries "password" (laws.text (hsize.password password rfl))
      refine ⟨[active, name, secret, joined], ?_, fun more => ?_⟩
      · simp only [addInitialUser, haddActive, haddName, haddSecret, haddJoined, Outcome.ok_bind]
        rfl
      · simp [hactive, hname, hsecret, hjoined, userEntries]

/-- Whatever their keys are, the extra pairs are not read as pairs of the module for SSH keys. -/
def SparesSshKey (extras : List (ServiceInfoModule × String × P.Json)) : Prop :=
  ∀ extra ∈ extras, ∀ key found, ServiceInfo.splitKey (extra.1.toString ++ ":" ++ key) = some found →
    found.1 ≠ sshKeyModule

/-- No pair is read as one of the module. -/
def Spared (info : ServiceInfo) : Prop :=
  ∀ pair ∈ info, ∀ found, ServiceInfo.splitKey pair.1 = some found → found.1 ≠ sshKeyModule

theorem Spared.entries {info : ServiceInfo} (h : Spared info) : ∀ entry ∈ entriesOf V info, entry.1 ≠ sshKeyModule := by
  induction info with
  | nil =>
      intro entry hentry
      cases hentry
  | cons pair info ih =>
      obtain ⟨moduleKey, val⟩ := pair
      intro entry hentry
      cases hsplit : ServiceInfo.splitKey moduleKey with
      | none => simp [entriesOf, ServiceInfo.iter, hsplit] at hentry
      | some found =>
          cases hvalue : P.valueFromSlice val with
          | none => simp [entriesOf, ServiceInfo.iter, hsplit, hvalue] at hentry
          | some v =>
              have hcons : entriesOf V ((moduleKey, val) :: info) = (found.1, found.2, V.cbor v) :: entriesOf V info := by
                simp [entriesOf, ServiceInfo.iter, hsplit, hvalue]
              rw [hcons, List.mem_cons] at hentry
              rcases hentry with rfl | hrest
              · exact h _ List.mem_cons_self found hsplit
              · exact ih (fun pair hpair => h pair (List.mem_cons_of_mem _ hpair)) entry hrest

theorem addExtraCommand_eq {info info' : ServiceInfo} {extra : ServiceInfoModule × String × P.Json}
    (h : addExtraCommand P info extra = .ok info') :
    ∃ key data, info' = info ++ [(extra.1.toString ++ ":" ++ key, data)] := by
  obtain ⟨module, key, value⟩ := extra
  unfold addExtraCommand at h
  dsimp only at h
  split at h
  · obtain ⟨text, -, h₁⟩ := Outcome.bind_eq_ok.mp h
    obtain ⟨data, -, h₂⟩ := Outcome.bind_eq_ok.mp h₁
    obtain ⟨raw, -, h₃⟩ := Outcome.bind_eq_ok.mp h₂
    exact ⟨_, raw, (Outcome.ok.inj h₃).symm⟩
  · obtain ⟨raw, -, h₁⟩ := Outcome.bind_eq_ok.mp h
    exact ⟨_, raw, (Outcome.ok.inj h₁).symm⟩

theorem addExtraCommands_spared {extras : List (ServiceInfoModule × String × P.Json)} (hspares : SparesSshKey extras)
    {info info' : ServiceInfo} (h : extras.foldlM (addExtraCommand P) info = .ok info') :
    ∃ more, info' = info ++ more ∧ Spared more := by
  induction extras generalizing info with
  | nil =>
      refine ⟨[], ?_, ?_⟩
      · rw [List.append_nil]
        exact (Outcome.ok.inj h).symm
      · intro pair hpair
        cases hpair
  | cons extra extras ih =>
      rw [List.foldlM_cons] at h
      obtain ⟨between, hfirst, hrest⟩ := Outcome.bind_eq_ok.mp h
      obtain ⟨key, data, rfl⟩ := addExtraCommand_eq hfirst
      obtain ⟨more, rfl, hspared⟩ := ih (fun e he => hspares e (List.mem_cons_of_mem _ he)) hrest
      refine ⟨(extra.1.toString ++ ":" ++ key, data) :: more, by simp, ?_⟩
      intro pair hpair
      rw [List.mem_cons] at hpair
      rcases hpair with rfl | hpair
      · exact hspares extra List.mem_cons_self key
      · exact hspared pair hpair

theorem addReboot_spared {reboot : Bool} {info info' : ServiceInfo} (h : addReboot P reboot info = .ok info') :
    ∃ more, info' = info ++ more ∧ Spared more := by
  obtain ⟨between, hfirst, hsecond⟩ := Outcome.bind_eq_ok.mp h
  obtain ⟨first, -, h₁⟩ := Outcome.bind_eq_ok.mp hfirst
  obtain ⟨second, -, h₂⟩ := Outcome.bind_eq_ok.mp hsecond
  obtain rfl := Outcome.ok.inj h₁
  obtain rfl := Outcome.ok.inj h₂
  refine ⟨_, List.append_assoc .., ?_⟩
  intro pair hpair found hfound
  simp only [List.singleton_append, List.mem_cons, List.not_mem_nil, or_false] at hpair
  have hreadable : (ServiceInfoModule.fedoraIot .reboot).Readable := ⟨by decide, rfl⟩
  rcases hpair with rfl | rfl
  · rw [ServiceInfo.splitKey_readable hreadable] at hfound
    obtain rfl := Option.some.inj hfound
    decide
  · rw [ServiceInfo.splitKey_readable hreadable] at hfound
    obtain rfl := Option.some.inj hfound
    decide

/-! ## From end to end -/

variable {draws : Draws P} {guid : Guid} {inSi : ServiceInfo} {modules : List String}
  {reply : ServiceInfoApiReply P} {more done : Bool}

theorem performServiceInfo_entries (laws : TextLaws V) (hsize : Sendable username password keys)
    (hmodules : moduleList P inSi = .ok (some modules)) (hreply : draws.serviceInfoApi guid modules = some reply)
    (huser : reply.initialUser = some ⟨username, password, some keys⟩)
    (hspares : SparesSshKey (reply.extraCommands.getD []))
    (h : performServiceInfo draws guid inSi 0 = .ok (more, done, outSi)) :
    ∃ rest, entriesOf V outSi = userEntries username password keys ++ rest ∧
      ∀ entry ∈ rest, entry.1 ≠ sshKeyModule := by
  obtain ⟨info, hinfo, hentries⟩ := addInitialUser_entries laws hsize
  have hloop : ¬ (0 : Nat) ≠ 0 := by simp
  unfold performServiceInfo at h
  rw [if_neg hloop, hmodules, Outcome.ok_bind] at h
  simp only [Outcome.ofOption, Outcome.ok_bind, hreply, huser, hinfo] at h
  obtain ⟨withExtras, hextras, h₁⟩ := Outcome.bind_eq_ok.mp h
  obtain ⟨extras, rfl, hextrasSpared⟩ := addExtraCommands_spared hspares hextras
  cases hreboot : reply.reboot with
  | none =>
      simp only [hreboot, Outcome.ok.injEq, Prod.mk.injEq] at h₁
      obtain ⟨-, -, rfl⟩ := h₁
      exact ⟨_, hentries extras, hextrasSpared.entries⟩
  | some reboot =>
      simp only [hreboot] at h₁
      obtain ⟨withReboot, hadd, h₂⟩ := Outcome.bind_eq_ok.mp h₁
      obtain ⟨-, -, rfl⟩ : _ ∧ _ ∧ _ := by simpa using h₂
      obtain ⟨last, rfl, hlastSpared⟩ := addReboot_spared hadd
      have hspared : Spared (extras ++ last) := by
        intro pair hpair
        rcases List.mem_append.mp hpair with hfirst | hsecond
        · exact hextrasSpared pair hfirst
        · exact hlastSpared pair hsecond
      rw [List.append_assoc]
      exact ⟨_, hentries (extras ++ last), hspared.entries⟩

theorem keys_arrive_iff (laws : TextLaws V) (hsize : Sendable username password keys)
    (hmodules : moduleList P inSi = .ok (some modules)) (hreply : draws.serviceInfoApi guid modules = some reply)
    (huser : reply.initialUser = some ⟨username, password, some keys⟩)
    (hspares : SparesSshKey (reply.extraCommands.getD []))
    (hsent : performServiceInfo draws guid inSi 0 = .ok (more, done, outSi)) :
    calls (processServiceinfoIn V pathPrefix (unasked machine) outSi siOut).1 = keys ↔
      (keys = [] ∧ ¬ SetupsDone V pathPrefix machine outSi siOut (accountOf username password)) ∨
      (keys ≠ [] ∧ (∀ key ∈ keys, ';' ∉ key.toList) ∧ SetupsDone V pathPrefix machine outSi siOut
        (accountOf username password ++ keys.dropLast.map (.installSshKey username))) := by
  obtain ⟨rest, hentries, hrest⟩ := performServiceInfo_entries laws hsize hmodules hreply huser hspares hsent
  exact install_calls_iff hentries hrest

/-! ## Two keys, none, and one with a semicolon -/

section

open Reference

theorem textLaws (profile : Profile) : TextLaws (jsonValues profile) where
  text hle := by
    rw [text_intoWriter profile hle]
    exact holds_value profile (readsBack_value_scalar (readsBack_scalar_text hle))
  bool b := by
    have hwrite : (jsonPlatform profile).bool.intoWriter b = some (boolWire.write b) := by
      cases b with
      | true => rfl
      | false => rfl
    rw [hwrite]
    exact holds_value profile (readsBack_value_scalar (readsBack_scalar_bool b))

def keyDraws (keys : List String) : Draws (jsonPlatform .release) where
  nonce := none
  guid := none
  kex := ⟨fun _ => none, fun _ => none, fun _ => none⟩
  serviceInfoApi _ _ := some ⟨some ⟨"admin", none, some keys⟩, none, none⟩
  loadDataFails := false
  storeMetadataFails := false

def keyModules : ServiceInfo :=
  [("devmod:modules", valueWire.write (.array [.integer 0, .integer 1, .text "org.fedoraiot.sshkey"]))]

def sentKeys (keys : List String) : Outcome Error (Bool × Bool × ServiceInfo) :=
  performServiceInfo (keyDraws keys) ⟨[]⟩ keyModules 0

def arrived (outSi : ServiceInfo) : List String :=
  calls (processServiceinfoIn (jsonValues .release) none (unasked (M := plainMachine) ()) outSi []).1

def twoKeys : List String := ["ssh-ed25519 AAAA admin@example", "ssh-rsa BBBB backup"]

theorem twoKeys_arrive : ∃ outSi, sentKeys twoKeys = .ok (false, false, outSi) ∧ arrived outSi = twoKeys := by
  refine ⟨_, rfl, ?_⟩
  have hsize : Sendable "admin" none twoKeys := ⟨by decide, by simp, by decide +kernel⟩
  have hmodules : moduleList (jsonPlatform .release) keyModules = .ok (some ["org.fedoraiot.sshkey"]) := rfl
  have hreply : (keyDraws twoKeys).serviceInfoApi ⟨[]⟩ ["org.fedoraiot.sshkey"] =
    some ⟨some ⟨"admin", none, some twoKeys⟩, none, none⟩ := rfl
  apply (keys_arrive_iff (textLaws .release) hsize hmodules hreply rfl (by simp [SparesSshKey]) rfl).mpr
  exact .inr ⟨by decide, by decide +kernel, _, rfl, rfl⟩

def oneKey : List String := ["environment=\"PATH=/bin;/usr/bin\" ssh-ed25519 AAAA admin@example"]

theorem keys_cut : (∃ outSi, sentKeys [] = .ok (false, false, outSi) ∧ arrived outSi = [""] ∧ [""] ≠ ([] : List String)) ∧
    ∃ outSi, sentKeys oneKey = .ok (false, false, outSi) ∧ arrived outSi ≠ oneKey := by
  refine ⟨⟨_, rfl, rfl, by decide⟩, _, rfl, ?_⟩
  decide +kernel

end

end FidoOnboard.SshKeys
