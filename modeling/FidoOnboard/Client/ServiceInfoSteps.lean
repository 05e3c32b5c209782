import FidoOnboard.Client.ServiceInfo

/-!
# What one entry of service info can do

Said once for every module, as far as files, active modules and deployments go. The
runs that are looked at elsewhere follow from it by induction over the entries.
-/
namespace FidoOnboard.Client

variable {M : Machine} {P : Platform} {V : ServiceInfoValues P} {pathPrefix : Option String}
  {p p' : Progress M} {key : String} {value : CborValue}

abbrev Entry := ServiceInfoModule × String × CborValue

def fileModule : ServiceInfoModule := .fedoraIot .binaryFile

def Action.isDeployed : Action → Bool
  | .deployed .. => true
  | _ => false

/-! ## What an entry changes -/

def commandModule : ServiceInfoModule := .fedoraIot .command

def sshKeyModule : ServiceInfoModule := .fedoraIot .sshKey

/-- What an entry of an active module may change, accepted or not. -/
inductive Effect (p : Progress M) : ServiceInfoModule → Progress M → Prop where
  | nothing {module : ServiceInfoModule} : Effect p module p
  | sshKey {user password keys : Option String} :
      Effect p sshKeyModule { p with sshkeyUser := user, sshkeyPassword := password, sshkeyKeys := keys }
  | reboot {requested : Bool} : Effect p (.fedoraIot .reboot) { p with rebootRequested := requested }
  | rhsm {organizationId activationKey : Option String} {performInsights : Option Bool} :
      Effect p (.redHatCom .subscriptionManager) { p with
        rhsmOrganizationId := organizationId, rhsmActivationKey := activationKey,
        rhsmPerformInsights := performInsights }
  | file {binaryFile : BinaryFileInProgress} : Effect p fileModule { p with binaryFile }
  | created {path : String} {contents : Bytes} {mode : UInt32} {binaryFile : BinaryFileInProgress}
      {actions : List Action} (done : actions = p.actions ∨ actions = p.actions ++ [.deployed path contents mode]) :
      Effect p fileModule { p with
        machine := (M.createFile p.machine path contents mode).1, binaryFile, actions }
  | command {command : CommandInProgress} : Effect p commandModule { p with command }
  | executed {name : String} {args : List String} {mayFail returnStdout returnStderr : Bool} {siOut : ServiceInfo}
      {command : CommandInProgress} : Effect p commandModule { p with
        machine := (M.output p.machine name args).1, siOut, command
        actions := p.actions ++ [.executed name args mayFail returnStdout returnStderr] }
  | disk {diskEncryption : DiskEncryptionInProgress} :
      Effect p (.fedoraIot .diskEncryptionClevis) { p with diskEncryption }
  | rebound {diskLabel pin config : String} {reencrypt : Bool} {siOut : ServiceInfo}
      {diskEncryption : DiskEncryptionInProgress} {actions : List Action}
      (done : actions = p.actions ∨ actions = p.actions ++ [.performed (.rebindClevis diskLabel pin config reencrypt)]) :
      Effect p (.fedoraIot .diskEncryptionClevis) { p with
        machine := (M.setup p.machine (.rebindClevis diskLabel pin config reencrypt)).1, siOut, diskEncryption,
        actions }

theorem keep_eq_ok {r : Outcome ProcessError (Progress M)} : keep p r = (p', .ok ()) ↔ r = .ok p' := by
  cases r with
  | ok q => simp [keep]
  | err e => simp [keep]
  | panic => simp [keep]

theorem keep_failed {r : Outcome ProcessError (Progress M)} (h : (keep p r).2 ≠ .ok ()) : (keep p r).1 = p := by
  cases r with
  | ok q => exact absurd rfl h
  | err e => rfl
  | panic => rfl

theorem parsing_eq_ok {α : Type} {text : String} {read : Option α} {a : α} :
    parsing text read = .ok a ↔ read = some a :=
  Outcome.ofOption_eq_ok

/-- A step that only changes variables, or fails. -/
theorem effect_of_keep {module : ServiceInfoModule} {r : Outcome ProcessError (Progress M)}
    (h : ∀ q, r = .ok q → Effect p module q) : Effect p module (keep p r).1 := by
  cases r with
  | ok q => exact h q rfl
  | err e => exact .nothing
  | panic => exact .nothing

/-- A value that is read into one variable. -/
theorem effect_of_read {α : Type} {module : ServiceInfoModule} {x : Outcome ProcessError α} {set : α → Progress M}
    (hset : ∀ a, Effect p module (set a)) : Effect p module (keep p (x >>= fun a => .ok (set a))).1 := by
  apply effect_of_keep
  intro q hq
  obtain ⟨a, -, ha⟩ := Outcome.bind_eq_ok.mp hq
  rw [← Outcome.ok.inj ha]
  exact hset a

theorem effect_of_check {α : Type} {module : ServiceInfoModule} {c : Prop} [Decidable c] {e : ProcessError}
    {x : Outcome ProcessError α} {set : α → Progress M} (hset : ∀ a, Effect p module (set a)) :
    Effect p module (keep p (Outcome.check c e >>= fun _ => x >>= fun a => .ok (set a))).1 := by
  unfold Outcome.check
  split
  · exact effect_of_read hset
  · exact .nothing

theorem sshKeyEntry_effect : Effect p sshKeyModule (keep p (sshKeyEntry p key value)).1 := by
  unfold sshKeyEntry
  split
  · exact effect_of_read fun _ => .sshKey
  split
  · exact effect_of_read fun _ => .sshKey
  split
  · exact effect_of_read fun _ => .sshKey
  · exact .nothing

theorem rebootEntry_effect : Effect p (.fedoraIot .reboot) (keep p (rebootEntry p key value)).1 := by
  unfold rebootEntry
  split
  · exact effect_of_read fun _ => .reboot
  · exact .nothing

theorem rhsmEntry_effect : Effect p (.redHatCom .subscriptionManager) (keep p (rhsmEntry p key value)).1 := by
  unfold rhsmEntry
  split
  · exact effect_of_read fun _ => .rhsm
  split
  · exact effect_of_read fun _ => .rhsm
  split
  · exact effect_of_read fun _ => .rhsm
  · exact .nothing

theorem deploy_effect {path : String} {contents : Bytes} {mode : Option UInt32} :
    Effect p fileModule (deploy pathPrefix path contents mode p).1 := by
  unfold deploy
  split
  · exact .nothing
  · exact .nothing
  next destination _ =>
  split
  · exact .nothing
  dsimp only
  split
  next machine hcreated =>
    have hmachine := congrArg Prod.fst hcreated
    dsimp only at hmachine
    rw [← hmachine]
    exact .created (.inr rfl)
  next machine hfailed =>
    have hmachine := congrArg Prod.fst hfailed
    dsimp only at hmachine
    rw [← hmachine]
    exact .created (.inl rfl)

theorem binaryFileEntry_effect : Effect p fileModule (binaryFileEntry P pathPrefix p key value).1 := by
  unfold binaryFileEntry
  split
  · exact effect_of_check fun _ => .file
  split
  · apply effect_of_keep
    intro q hq
    obtain ⟨_, -, h₁⟩ := Outcome.bind_eq_ok.mp hq
    obtain ⟨length, -, h₂⟩ := Outcome.bind_eq_ok.mp h₁
    obtain ⟨contents, -, h₃⟩ := Outcome.bind_eq_ok.mp h₂
    rw [← Outcome.ok.inj h₃]
    exact .file
  split
  · apply effect_of_keep
    intro q hq
    obtain ⟨contents, -, h₁⟩ := Outcome.bind_eq_ok.mp hq
    obtain ⟨data, -, h₂⟩ := Outcome.bind_eq_ok.mp h₁
    rw [← Outcome.ok.inj h₂]
    exact .file
  split
  · exact effect_of_check fun _ => .file
  split
  · split
    · exact deploy_effect
    · exact .nothing
    · exact .nothing
  · exact .nothing

theorem execute_effect (V : ServiceInfoValues P) (p : Progress M) : Effect p commandModule (execute V p).1 := by
  unfold execute
  split
  · exact .nothing
  split
  · exact .nothing
  · exact .nothing
  dsimp only
  split
  · exact .executed
  split
  · exact .executed
  · exact .executed
  split
  · exact .executed
  · exact .executed

theorem commandEntry_effect (V : ServiceInfoValues P) (p : Progress M) (key : String) (value : CborValue) :
    Effect p commandModule (commandEntry V p key value).1 := by
  unfold commandEntry
  split
  · exact effect_of_check fun _ => .command
  split
  · exact effect_of_read fun _ => .command
  split
  · exact effect_of_read fun _ => .command
  split
  · exact effect_of_read fun _ => .command
  split
  · exact effect_of_read fun _ => .command
  split
  · exact execute_effect V p
  · exact .nothing

/-- What was done stands, whether it is reported or not. -/
theorem performSetup_fst (text : String) (setup : Setup) (p : Progress M) :
    ∃ actions, (performSetup text setup p).1 = { p with machine := (M.setup p.machine setup).1, actions } ∧
      (actions = p.actions ∨ actions = p.actions ++ [.performed setup]) := by
  unfold performSetup
  rcases M.setup p.machine setup with ⟨machine, _ | _ | _⟩
  · exact ⟨_, rfl, .inr rfl⟩
  · exact ⟨p.actions, rfl, .inl rfl⟩
  · exact ⟨p.actions, rfl, .inl rfl⟩

theorem executeClevis_effect (P : Platform) (p : Progress M) :
    Effect p (.fedoraIot .diskEncryptionClevis) (executeClevis P p).1 := by
  unfold executeClevis
  split
  · exact .nothing
  · exact .nothing
  · exact .nothing
  next diskLabel pin config _ _ _ =>
  obtain ⟨actions, hfst, hdone⟩ := performSetup_fst "Error executing clevis"
    (.rebindClevis diskLabel pin config p.diskEncryption.reencrypt) p
  split
  next q hsetup =>
    obtain rfl : q = _ := (congrArg Prod.fst hsetup).symm.trans hfst
    unfold keep
    split
    next q' hq' =>
      obtain ⟨siOut, -, h₁⟩ := Outcome.bind_eq_ok.mp hq'
      rw [← Outcome.ok.inj h₁]
      exact .rebound hdone
    · exact .rebound hdone
    · exact .rebound hdone
  next hfailed =>
    rw [hfst]
    exact .rebound hdone

theorem clevisEntry_effect (P : Platform) (p : Progress M) (key : String) (value : CborValue) :
    Effect p (.fedoraIot .diskEncryptionClevis) (clevisEntry P p key value).1 := by
  unfold clevisEntry
  split
  · exact effect_of_check fun _ => .disk
  split
  · exact effect_of_check fun _ => .disk
  split
  · exact effect_of_check fun _ => .disk
  split
  · exact effect_of_read fun _ => .disk
  split
  · exact executeClevis_effect P p
  · exact .nothing

theorem processEntry_effect (V : ServiceInfoValues P) (pathPrefix : Option String) (p : Progress M)
    {module : ServiceInfoModule} (hkey : key ≠ "active") :
    Effect p module (processEntry V pathPrefix p module key value).1 := by
  unfold processEntry
  rw [if_neg hkey]
  split
  · exact .nothing
  split
  · exact sshKeyEntry_effect
  · exact rebootEntry_effect
  · exact rhsmEntry_effect
  · exact binaryFileEntry_effect
  · exact commandEntry_effect V p key value
  · exact clevisEntry_effect P p key value
  · exact .nothing

theorem Effect.activeModules {module : ServiceInfoModule} (h : Effect p module p') :
    p'.activeModules = p.activeModules := by
  cases h with
  | nothing | sshKey | reboot | rhsm | file | created | command | executed | disk | rebound => rfl

/-! ## Entries of the other modules -/

/-- No file is touched, and no module is activated or deactivated. -/
structure Frame (p p' : Progress M) : Prop where
  activeModules : p'.activeModules = p.activeModules
  binaryFile : p'.binaryFile = p.binaryFile
  deployed : p'.actions.filter Action.isDeployed = p.actions.filter Action.isDeployed

theorem Frame.refl (p : Progress M) : Frame p p := ⟨rfl, rfl, rfl⟩

theorem Frame.trans {p p' p'' : Progress M} (h : Frame p p') (h' : Frame p' p'') : Frame p p'' :=
  ⟨h'.activeModules.trans h.activeModules, h'.binaryFile.trans h.binaryFile, h'.deployed.trans h.deployed⟩

theorem filter_concat_other {actions : List Action} {action : Action} (h : action.isDeployed = false) :
    (actions ++ [action]).filter Action.isDeployed = actions.filter Action.isDeployed := by
  simp [h]

theorem Effect.frame {module : ServiceInfoModule} (h : Effect p module p') (hmodule : module ≠ fileModule) :
    Frame p p' := by
  cases h with
  | file | created => exact absurd rfl hmodule
  | nothing | sshKey | reboot | rhsm | command | disk => exact ⟨rfl, rfl, rfl⟩
  | executed => exact ⟨rfl, rfl, filter_concat_other rfl⟩
  | rebound done =>
      rcases done with rfl | rfl
      · exact ⟨rfl, rfl, rfl⟩
      · exact ⟨rfl, rfl, filter_concat_other rfl⟩

/-- An entry of an active module other than the one for files. -/
theorem processEntry_frame (V : ServiceInfoValues P) (pathPrefix : Option String) (p : Progress M)
    {module : ServiceInfoModule} (hkey : key ≠ "active") (hmodule : module ≠ fileModule) :
    Frame p (processEntry V pathPrefix p module key value).1 :=
  (processEntry_effect V pathPrefix p hkey).frame hmodule

theorem performSetup_frame (text : String) (setup : Setup) (p : Progress M) :
    Frame p (performSetup text setup p).1 := by
  obtain ⟨actions, hfst, hdone⟩ := performSetup_fst text setup p
  rw [hfst]
  rcases hdone with rfl | rfl
  · exact ⟨rfl, rfl, rfl⟩
  · exact ⟨rfl, rfl, filter_concat_other rfl⟩

/-! ## Entries of the module for files -/

theorem checkFile_ok {file : BinaryFileInProgress} {key path : String} {value : CborValue} {contents : Bytes}
    (h : checkFile P file key value = .ok (path, contents)) : file.path = some path ∧
      file.length = some contents.length ∧ file.contents = some contents ∧
      ∃ hashType digest, hasher (shaType key) = .ok hashType ∧ value.asBytes = some digest ∧
        digest.length = hashType.digestSize ∧ Hash.IsDigest P ⟨hashType, digest⟩ contents := by
  obtain ⟨digest, hdigest, h₁⟩ := Outcome.bind_eq_ok.mp h
  obtain ⟨hashType, hhasher, h₂⟩ := Outcome.bind_eq_ok.mp h₁
  obtain ⟨hash, hhash, h₃⟩ := Outcome.bind_eq_ok.mp h₂
  obtain ⟨name, hname, h₄⟩ := Outcome.bind_eq_ok.mp h₃
  obtain ⟨length, hlength, h₅⟩ := Outcome.bind_eq_ok.mp h₄
  obtain ⟨bytes, hbytes, h₆⟩ := Outcome.bind_eq_ok.mp h₅
  obtain ⟨_, hsize, h₇⟩ := Outcome.bind_eq_ok.mp h₆
  obtain ⟨_, hcompare, h₈⟩ := Outcome.bind_eq_ok.mp h₇
  obtain ⟨rfl, rfl⟩ := Prod.mk.inj (Outcome.ok.inj h₈)
  have hcontents : file.contents = some bytes := by
    cases hfile : file.contents with
    | none => simp [hfile] at hbytes
    | some other => simpa [hfile] using hbytes
  obtain ⟨hdigestSize, rfl⟩ := Hash.fromDigest_eq_ok.mp (Outcome.mapErr_eq_ok.mp hhash)
  have hlast := Hash.compareData_eq_ok.mp (Outcome.mapErr_eq_ok.mp hcompare)
  rw [Outcome.check_eq_ok.mp hsize]
  exact ⟨Outcome.ofOption_eq_ok.mp hname, Outcome.ofOption_eq_ok.mp hlength, hcontents, hashType, digest, hhasher,
    parsing_eq_ok.mp hdigest, hdigestSize, hlast⟩

/-- The entry is a whole file: `deploy` is called on what was collected. -/
structure Calls (P : Platform) (p : Progress M) (entry : Entry) (path : String) (contents : Bytes) : Prop where
  module : entry.1 = fileModule
  active : fileModule ∈ p.activeModules
  named : "sha-".toList <+: entry.2.1.toList
  checked : checkFile P p.binaryFile entry.2.1 entry.2.2 = .ok (path, contents)

/-- The keys that are looked at. -/
def isFileKey (key : String) : Bool :=
  key = "name" ∨ key = "length" ∨ "data".toList <+: key.toList ∨ key = "mode" ∨ "sha-".toList <+: key.toList

/-- What an accepted entry makes of the file that is collected. -/
inductive FileStep (P : Platform) (pathPrefix : Option String) (p : Progress M) :
    String → CborValue → Progress M → Prop where
  | name {value : CborValue} {path : String} (unset : p.binaryFile.path = none) (read : value.asStr = some path) :
      FileStep P pathPrefix p "name" value { p with binaryFile := { p.binaryFile with path := some path } }
  | length {value : CborValue} {length : Nat} (unset : p.binaryFile.length = none)
      (read : value.asU64 = some length) : FileStep P pathPrefix p "length" value
        { p with binaryFile := { p.binaryFile with length := some length, contents := some [] } }
  | data {key : String} {value : CborValue} {contents data : Bytes} (named : "data".toList <+: key.toList)
      (collected : p.binaryFile.contents = some contents) (read : value.asBytes = some data) :
      FileStep P pathPrefix p key value
        { p with binaryFile := { p.binaryFile with contents := some (contents ++ data) } }
  | mode {value : CborValue} {mode : UInt32} (unset : p.binaryFile.mode = none) (read : value.asU32 = some mode) :
      FileStep P pathPrefix p "mode" value { p with binaryFile := { p.binaryFile with mode := some mode } }
  | sha {key : String} {value : CborValue} {path : String} {contents : Bytes} {p' : Progress M}
      (named : "sha-".toList <+: key.toList) (checked : checkFile P p.binaryFile key value = .ok (path, contents))
      (deployed : deploy pathPrefix path contents p.binaryFile.mode p = (p', .ok ())) :
      FileStep P pathPrefix p key value p'
  | other {key : String} {value : CborValue} (unnamed : isFileKey key = false) : FileStep P pathPrefix p key value p

theorem binaryFileEntry_ok (h : binaryFileEntry P pathPrefix p key value = (p', .ok ())) :
    FileStep P pathPrefix p key value p' := by
  unfold binaryFileEntry at h
  split at h
  next hkey =>
    subst hkey
    obtain ⟨_, hunset, h₁⟩ := Outcome.bind_eq_ok.mp (keep_eq_ok.mp h)
    obtain ⟨path, hpath, h₂⟩ := Outcome.bind_eq_ok.mp h₁
    obtain rfl := Outcome.ok.inj h₂
    exact .name (Outcome.check_eq_ok.mp hunset) (parsing_eq_ok.mp hpath)
  next hname =>
  split at h
  next hkey =>
    subst hkey
    obtain ⟨_, hunset, h₁⟩ := Outcome.bind_eq_ok.mp (keep_eq_ok.mp h)
    obtain ⟨length, hlength, h₂⟩ := Outcome.bind_eq_ok.mp h₁
    obtain ⟨contents, hcapacity, h₃⟩ := Outcome.bind_eq_ok.mp h₂
    obtain rfl := Outcome.ok.inj h₃
    unfold withCapacity at hcapacity
    split at hcapacity
    · cases hcapacity
    · obtain rfl := Outcome.ok.inj hcapacity
      exact .length (Outcome.check_eq_ok.mp hunset) (parsing_eq_ok.mp hlength)
  next hlength =>
  split at h
  next hkey =>
    obtain ⟨contents, hcontents, h₁⟩ := Outcome.bind_eq_ok.mp (keep_eq_ok.mp h)
    obtain ⟨data, hdata, h₂⟩ := Outcome.bind_eq_ok.mp h₁
    obtain rfl := Outcome.ok.inj h₂
    exact .data hkey (Outcome.ofOption_eq_ok.mp hcontents) (parsing_eq_ok.mp hdata)
  next hdata =>
  split at h
  next hkey =>
    subst hkey
    obtain ⟨_, hunset, h₁⟩ := Outcome.bind_eq_ok.mp (keep_eq_ok.mp h)
    obtain ⟨mode, hmode, h₂⟩ := Outcome.bind_eq_ok.mp h₁
    obtain rfl := Outcome.ok.inj h₂
    exact .mode (Outcome.check_eq_ok.mp hunset) (parsing_eq_ok.mp hmode)
  next hmode =>
  split at h
  next hkey =>
    split at h
    · next path contents hchecked => exact .sha hkey hchecked h
    · cases h
    · cases h
  next hsha =>
    obtain rfl := (Prod.mk.inj h).1
    exact .other (decide_eq_false (by simp only [hname, hlength, hdata, hmode, hsha, or_self, not_false_iff]))

theorem deploy_ok {path : String} {contents : Bytes} {mode : Option UInt32}
    (h : deploy pathPrefix path contents mode p = (p', .ok ())) : ∃ destination machine,
      destinationPath path pathPrefix = .ok destination ∧ p' = { p with
        machine, binaryFile := .new
        actions := p.actions ++ [.deployed destination contents (mode.getD 0o600)] } := by
  unfold deploy at h
  split at h
  · cases h
  · cases h
  next destination hdestination =>
  split at h
  · cases h
  dsimp only at h
  split at h
  · next machine _ =>
      obtain rfl := (Prod.mk.inj h).1
      exact ⟨destination, machine, hdestination, rfl⟩
  · cases h

theorem deploy_failed {path : String} {contents : Bytes} {mode : Option UInt32}
    (h : (deploy pathPrefix path contents mode p).2 ≠ .ok ()) :
    (deploy pathPrefix path contents mode p).1.actions = p.actions := by
  unfold deploy at h ⊢
  split
  · rfl
  · rfl
  next destination hdestination =>
  simp only [hdestination] at h
  split
  · rfl
  next hroot =>
  rw [if_neg hroot] at h
  dsimp only at h ⊢
  split
  · next hcreated =>
      rw [hcreated] at h
      exact absurd rfl h
  · rfl

theorem binaryFileEntry_failed (h : (binaryFileEntry P pathPrefix p key value).2 ≠ .ok ()) :
    (binaryFileEntry P pathPrefix p key value).1.actions = p.actions := by
  unfold binaryFileEntry at h ⊢
  by_cases hname : key = "name"
  · rw [if_pos hname] at h ⊢
    rw [keep_failed h]
  rw [if_neg hname] at h ⊢
  by_cases hlength : key = "length"
  · rw [if_pos hlength] at h ⊢
    rw [keep_failed h]
  rw [if_neg hlength] at h ⊢
  by_cases hdata : "data".toList <+: key.toList
  · rw [if_pos hdata] at h ⊢
    rw [keep_failed h]
  rw [if_neg hdata] at h ⊢
  by_cases hmode : key = "mode"
  · rw [if_pos hmode] at h ⊢
    rw [keep_failed h]
  rw [if_neg hmode] at h ⊢
  split
  case isFalse => rfl
  case isTrue hsha =>
  rw [if_pos hsha] at h
  cases hchecked : checkFile P p.binaryFile key value with
  | ok file =>
      rw [hchecked] at h
      exact deploy_failed h
  | err e => rfl
  | panic => rfl

theorem FileStep.activeModules (h : FileStep P pathPrefix p key value p') : p'.activeModules = p.activeModules := by
  cases h with
  | name | length | data | mode | other => rfl
  | sha _ _ deployed =>
      obtain ⟨_, _, _, rfl⟩ := deploy_ok deployed
      rfl

/-! ## Any accepted entry -/

theorem activeEntry_ok {module : ServiceInfoModule} (h : activeEntry p module value = .ok p') :
    ∃ b, value.asBool = some b ∧ p' = { p with activeModules :=
      if b then module :: p.activeModules else p.activeModules.filter (· ≠ module) } := by
  obtain ⟨b, hb, h₁⟩ := Outcome.bind_eq_ok.mp h
  refine ⟨b, parsing_eq_ok.mp hb, ?_⟩
  cases b with
  | true => exact (Outcome.ok.inj h₁).symm
  | false => exact (Outcome.ok.inj h₁).symm

/-- The three kinds of accepted entries: for any module, for another module, for files. -/
inductive EntryStep (P : Platform) (pathPrefix : Option String) (p : Progress M) (entry : Entry) :
    Progress M → Prop where
  | active {b : Bool} (key : entry.2.1 = "active") (read : entry.2.2.asBool = some b) :
      EntryStep P pathPrefix p entry { p with activeModules :=
        if b then entry.1 :: p.activeModules else p.activeModules.filter (· ≠ entry.1) }
  | elsewhere {p' : Progress M} (key : entry.2.1 ≠ "active") (other : entry.1 ≠ fileModule)
      (active : entry.1 ∈ p.activeModules) (frame : Frame p p') : EntryStep P pathPrefix p entry p'
  | file {p' : Progress M} (key : entry.2.1 ≠ "active") (module : entry.1 = fileModule)
      (active : fileModule ∈ p.activeModules) (step : FileStep P pathPrefix p entry.2.1 entry.2.2 p') :
      EntryStep P pathPrefix p entry p'

theorem processEntry_file (V : ServiceInfoValues P) (pathPrefix : Option String) (hkey : key ≠ "active")
    (hactive : fileModule ∈ p.activeModules) :
    processEntry V pathPrefix p fileModule key value = binaryFileEntry P pathPrefix p key value := by
  unfold processEntry
  rw [if_neg hkey, if_neg (not_not.mpr hactive)]
  rfl

theorem processEntry_inactive (V : ServiceInfoValues P) (pathPrefix : Option String) {module : ServiceInfoModule}
    (hkey : key ≠ "active") (hactive : module ∉ p.activeModules) :
    processEntry V pathPrefix p module key value = (p, .err (.nonActivated module)) := by
  unfold processEntry
  rw [if_neg hkey, if_pos hactive]

theorem processEntry_step {entry : Entry}
    (h : processEntry V pathPrefix p entry.1 entry.2.1 entry.2.2 = (p', .ok ())) :
    EntryStep P pathPrefix p entry p' := by
  by_cases hkey : entry.2.1 = "active"
  case pos =>
    unfold processEntry at h
    rw [if_pos hkey] at h
    obtain ⟨b, hb, rfl⟩ := activeEntry_ok (keep_eq_ok.mp h)
    exact .active hkey hb
  case neg =>
    by_cases hactive : entry.1 ∈ p.activeModules
    case neg =>
      rw [processEntry_inactive V pathPrefix hkey hactive] at h
      cases h
    case pos =>
      by_cases hmodule : entry.1 = fileModule
      case pos =>
        rw [hmodule] at h hactive
        rw [processEntry_file V pathPrefix hkey hactive] at h
        exact .file hkey hmodule hactive (binaryFileEntry_ok h)
      case neg =>
        have hframe : Frame p (processEntry V pathPrefix p entry.1 entry.2.1 entry.2.2).1 :=
          processEntry_frame V pathPrefix p hkey hmodule
        rw [h] at hframe
        exact .elsewhere hkey hmodule hactive hframe

/-- A refused entry leaves the files that are in place. -/
theorem processEntry_failed {module : ServiceInfoModule}
    (h : (processEntry V pathPrefix p module key value).2 ≠ .ok ()) :
    (processEntry V pathPrefix p module key value).1.actions.filter Action.isDeployed =
      p.actions.filter Action.isDeployed := by
  by_cases hkey : key = "active"
  case pos =>
    unfold processEntry at h ⊢
    rw [if_pos hkey] at h ⊢
    rw [keep_failed h]
  case neg =>
    by_cases hmodule : module = fileModule
    case neg => exact (processEntry_frame V pathPrefix p hkey hmodule).deployed
    case pos =>
      subst hmodule
      by_cases hactive : fileModule ∈ p.activeModules
      case neg => rw [processEntry_inactive V pathPrefix hkey hactive]
      case pos =>
        rw [processEntry_file V pathPrefix hkey hactive] at h ⊢
        rw [binaryFileEntry_failed h]

/-! ## Behind the entries -/

theorem installSshKeys_frame (user : String) (keys : List String) (p : Progress M) :
    Frame p (installSshKeys user keys p).1 := by
  induction keys generalizing p with
  | nil => exact .refl p
  | cons key keys ih =>
      have hsetup := performSetup_frame "Error installing SSH key" (.installSshKey user key) p
      unfold installSshKeys
      split
      · next p' hp' =>
          rw [hp'] at hsetup
          exact hsetup.trans (ih p')
      · exact hsetup

theorem finishPassword_frame (user : String) (p : Progress M) : Frame p (finishPassword user p).1 := by
  unfold finishPassword
  split
  · exact .refl p
  · exact performSetup_frame _ _ p

theorem finishKeys_frame (user : String) (p : Progress M) : Frame p (finishKeys user p).1 := by
  unfold finishKeys
  split
  · exact .refl p
  next keys _ =>
  have hsetup := performSetup_frame "Error creating new user" (.createUser user) p
  split
  · next p' hp' =>
      rw [hp'] at hsetup
      exact hsetup.trans (installSshKeys_frame user (splitKeys keys) p')
  · exact hsetup

theorem finishSshKey_frame (p : Progress M) : Frame p (finishSshKey p).1 := by
  unfold finishSshKey
  split
  · exact .refl p
  split
  · exact .refl p
  next user _ =>
  split
  · exact .refl p
  have hpassword := finishPassword_frame user p
  split
  · next p' hp' =>
      rw [hp'] at hpassword
      exact hpassword.trans (finishKeys_frame user p')
  · exact hpassword

theorem finishRhsm_frame (p : Progress M) : Frame p (finishRhsm p).1 := by
  unfold finishRhsm
  split
  · exact .refl p
  split
  · exact performSetup_frame _ _ p
  · exact .refl p

/-- Users and subscriptions are set up behind the entries, and no file. -/
theorem processServiceinfoIn_frame (V : ServiceInfoValues P) (pathPrefix : Option String) (machine : M.State)
    (siIn siOut : ServiceInfo) : Frame (processEntries V pathPrefix (entriesOf V siIn) (.new machine siOut)).1
      (processServiceinfoIn V pathPrefix machine siIn siOut).1 := by
  unfold processServiceinfoIn
  split
  · next p hp =>
      have hsshKey := finishSshKey_frame p
      rw [hp]
      split
      · next p' hp' =>
          rw [hp'] at hsshKey
          have hrhsm := finishRhsm_frame p'
          split
          · next hp'' => exact hsshKey.trans (by rwa [hp''] at hrhsm)
          · next hp'' => exact hsshKey.trans (by rwa [hp''] at hrhsm)
          · next hp'' => exact hsshKey.trans (by rwa [hp''] at hrhsm)
      · next hp' => rwa [hp'] at hsshKey
      · next hp' => rwa [hp'] at hsshKey
  · next hp =>
      rw [hp]
      exact .refl _
  · next hp =>
      rw [hp]
      exact .refl _

/-! ## Runs -/

/-- All these entries were accepted, and this is what they led to. -/
def Reached (V : ServiceInfoValues P) (pathPrefix : Option String) (machine : M.State) (siOut : ServiceInfo)
    (es : List Entry) (p : Progress M) : Prop :=
  processEntries V pathPrefix es (.new machine siOut) = (p, .ok ())

variable {machine : M.State} {siOut : ServiceInfo} {es : List Entry}

theorem reached_concat {entry : Entry} : Reached V pathPrefix machine siOut (es ++ [entry]) p' ↔
    ∃ p, Reached V pathPrefix machine siOut es p ∧
      processEntry V pathPrefix p entry.1 entry.2.1 entry.2.2 = (p', .ok ()) := by
  unfold Reached
  rw [processEntries_append]
  rcases hes : processEntries V pathPrefix es (.new machine siOut) with ⟨p, _ | e | _⟩
  · simp only [processEntries, Prod.mk.injEq, and_true, exists_eq_left']
    rcases processEntry V pathPrefix p entry.1 entry.2.1 entry.2.2 with ⟨q, _ | e | _⟩
    · simp
    · simp
    · simp
  · simp
  · simp

theorem Reached.of_append {es' : List Entry} (h : Reached V pathPrefix machine siOut (es ++ es') p) :
    ∃ q, Reached V pathPrefix machine siOut es q := by
  unfold Reached at h ⊢
  rw [processEntries_append] at h
  rcases hes : processEntries V pathPrefix es (.new machine siOut) with ⟨q, _ | e | _⟩
  · exact ⟨q, rfl⟩
  · simp [hes] at h
  · simp [hes] at h

/-- A run that is not accepted ends at the first entry that is not. -/
theorem processEntries_failed {start : Progress M} {r : Outcome ProcessError Unit} (hr : r ≠ .ok ()) :
    (processEntries V pathPrefix es start).2 = r ↔
      ∃ before entry after q, es = before ++ entry :: after ∧
        processEntries V pathPrefix before start = (q, .ok ()) ∧
        (processEntry V pathPrefix q entry.1 entry.2.1 entry.2.2).2 = r := by
  induction es generalizing start with
  | nil => simp [processEntries, hr.symm]
  | cons first es ih =>
      rcases hstep : processEntry V pathPrefix start first.1 first.2.1 first.2.2 with ⟨q, outcome⟩
      by_cases hok : outcome = .ok ()
      case pos =>
        subst hok
        have hsame (rest : List Entry) : processEntries V pathPrefix (first :: rest) start =
          processEntries V pathPrefix rest q := processEntries_step V hstep
        rw [hsame, ih]
        constructor
        · rintro ⟨before, entry, after, q', rfl, hbefore, hentry⟩
          exact ⟨first :: before, entry, after, q', rfl, (hsame before).trans hbefore, hentry⟩
        · rintro ⟨before, entry, after, q', hsplit, hbefore, hentry⟩
          cases before with
          | nil =>
              obtain rfl := (List.cons.inj hsplit).1
              obtain rfl := (Prod.mk.inj hbefore).1
              rw [hstep] at hentry
              exact absurd hentry.symm hr
          | cons other before =>
              obtain ⟨rfl, rfl⟩ := List.cons.inj hsplit
              exact ⟨before, entry, after, q', rfl, (hsame before).symm.trans hbefore, hentry⟩
      case neg =>
        have hsame (rest : List Entry) : processEntries V pathPrefix (first :: rest) start = (q, outcome) := by
          simp only [processEntries, hstep]
          split
          next hq => exact absurd (Prod.mk.inj hq).2 hok
          · rfl
        rw [hsame]
        constructor
        · intro h
          exact ⟨[], first, es, start, rfl, rfl, (congrArg Prod.snd hstep).trans h⟩
        · rintro ⟨before, entry, after, q', hsplit, hbefore, hentry⟩
          cases before with
          | nil =>
              obtain rfl := (List.cons.inj hsplit).1
              obtain rfl := (Prod.mk.inj hbefore).1
              exact (congrArg Prod.snd hstep).symm.trans hentry
          | cons other before =>
              obtain ⟨rfl, -⟩ := List.cons.inj hsplit
              exact absurd (Prod.mk.inj ((hsame before).symm.trans hbefore)).2 hok

end FidoOnboard.Client
