import FidoOnboard.Client.ServiceInfo
import FidoOnboard.ServiceInfoApiServer.Handlers

/-!
# Configured files and commands on the device

What is to happen for a configuration, and what the entries that arrive for it do.
They differ for a command that may fail and cannot be started.
-/
namespace FidoOnboard.ServiceInfoDelivery
open Client OwnerServer ServiceInfoApiServer

variable {P : Platform} {M : Machine}

/-! ## What is configured -/

/-- A file of the configuration with the contents it is read with. -/
structure FileItem where
  path : String
  contents : Bytes
  mode : Option UInt32
  deriving DecidableEq, Repr

def FileItem.of (fsRead : String → Option Bytes) (file : ServiceInfoFile) : Option FileItem := do
  let contents ← fsRead file.sourcePath
  match file.permissions with
  | none => some ⟨file.path, contents, none⟩
  | some permissions => do
    let mode ← fromStrRadix8 permissions
    some ⟨file.path, contents, some mode⟩

def FileItem.action (item : FileItem) : Action := .deployed item.path item.contents (item.mode.getD 0o600)

def commandAction (c : ServiceInfoCommand) : Action :=
  .executed c.command c.args c.mayFail c.returnStdout c.returnStderr

/-- An absolute path other than the root. -/
def Deployable (item : FileItem) : Prop := isAbsolute item.path = true ∧ components item.path ≠ []

/-- Sizes that a process can hold. -/
structure FileItem.Held (item : FileItem) : Prop where
  path : item.path.length ≤ sendable
  contents : 2 * item.contents.length ≤ sendable

structure CommandHeld (c : ServiceInfoCommand) : Prop where
  command : c.command.length ≤ sendable
  args : ∀ arg ∈ c.args, arg.length ≤ sendable
  count : c.args.length ≤ sendable

/-! ## What is to happen on the device -/

/-- The system after all files were written. -/
def filesState (M : Machine) (s : M.State) (items : List FileItem) : M.State :=
  items.foldl (fun s item => (M.createFile s item.path item.contents (item.mode.getD 0o600)).1) s

/-- A command has failed if it was not started or did not end with zero. -/
def succeeded : Option Output → Bool
  | none => false
  | some output => output.code = some 0

/-- The commands up to the first that fails and may not. -/
def due (M : Machine) : M.State → List ServiceInfoCommand → List Action
  | _, [] => []
  | s, c :: cs =>
    let (s, output) := M.output s c.command c.args
    commandAction c :: if c.mayFail || succeeded output then due M s cs else []

/-- Every file can be written where it is to go. -/
def Takes (M : Machine) : M.State → List FileItem → Prop
  | _, [] => True
  | s, item :: items =>
    (M.createFile s item.path item.contents (item.mode.getD 0o600)).2 = true ∧
      Takes M (M.createFile s item.path item.contents (item.mode.getD 0o600)).1 items

/-- No command that may fail is kept from being started while others are to follow. -/
def Continues (M : Machine) : M.State → List ServiceInfoCommand → Prop
  | _, [] => True
  | s, c :: cs =>
    let (s, output) := M.output s c.command c.args
    ((c.mayFail = true ∧ output = none) → cs = []) ∧
      ((c.mayFail || succeeded output) = true → Continues M s cs)

/-- What the device does: a command that cannot be started is the last. -/
def ran (M : Machine) : M.State → List ServiceInfoCommand → List Action
  | _, [] => []
  | s, c :: cs =>
    match M.output s c.command c.args with
    | (_, none) => [commandAction c]
    | (s, some output) => commandAction c :: if c.mayFail || succeeded (some output) then ran M s cs else []

theorem ran_eq_due_iff (s : M.State) (cs : List ServiceInfoCommand) :
    ran M s cs = due M s cs ↔ Continues M s cs := by
  induction cs generalizing s with
  | nil => simp [ran, due, Continues]
  | cons c cs ih =>
      rcases houtput : M.output s c.command c.args with ⟨s', _ | output⟩
      · cases hmay : c.mayFail with
        | false => simp [ran, due, Continues, houtput, hmay, succeeded]
        | true =>
            cases cs with
            | nil => simp [ran, due, Continues, houtput, hmay]
            | cons c' cs =>
                simp [ran, due, Continues, houtput, hmay]
      · by_cases hgo : (c.mayFail || succeeded (some output)) = true
        · simp [ran, due, Continues, houtput, hgo, ih s']
        · simp [ran, due, Continues, houtput, hgo]

/-! ## One file on the device -/

/-- The entries of a module as they arrive. -/
def forModule (module : ServiceInfoModule) (entries : List (String × CborValue)) :
    List (ServiceInfoModule × String × CborValue) :=
  entries.map fun (key, value) => (module, key, value)

def modeReceived : Option UInt32 → List (String × CborValue)
  | none => []
  | some mode => [("mode", .integer mode.toNat)]

def fileReceived (item : FileItem) (digest : Bytes) : List (String × CborValue) :=
  [("name", .text item.path.toList), ("length", .integer item.contents.length)] ++ modeReceived item.mode ++
    [("data001", .bytes item.contents), ("sha-384", .bytes digest)]

/-- The digest that goes with a file. -/
def IsSha384 (P : Platform) (data digest : Bytes) : Prop :=
  P.hash .sha384 data = some digest ∧ digest.length = 48

theorem checkFile_complete {item : FileItem} {digest : Bytes} (hdigest : IsSha384 P item.contents digest) :
    checkFile P ⟨some item.path, some item.contents.length, some item.contents, item.mode⟩ "sha-384"
      (.bytes digest) = .ok (item.path, item.contents) := by
  have htype : shaType "sha-384" = "384" := by decide +kernel
  have hfrom : Hash.fromDigest .sha384 digest = .ok ⟨.sha384, digest⟩ := by
    simp [Hash.fromDigest, HashType.digestSize, hdigest.2]
  have hcompare : Hash.compareData P ⟨.sha384, digest⟩ item.contents = .ok () :=
    Hash.compareData_eq_ok.mpr ⟨.sha384, rfl, hdigest.1⟩
  simp [checkFile, htype, hasher, CborValue.asBytes, parsing, Outcome.ofOption, hfrom, hcompare, Outcome.mapErr,
    Outcome.check]

section

variable {V : ServiceInfoValues P}

def withFile (p : Progress M) (file : BinaryFileInProgress) : Progress M := { p with binaryFile := file }

theorem binaryFile_active {p : Progress M} (hactive : .fedoraIot .binaryFile ∈ p.activeModules)
    (file : BinaryFileInProgress) {key : String} (hkey : key ≠ "active") (value : CborValue) :
    processEntry V none (withFile p file) (.fedoraIot .binaryFile) key value =
      binaryFileEntry P none (withFile p file) key value := by
  simp [processEntry, hkey, withFile, hactive]

theorem binaryFile_name {p : Progress M} {file : BinaryFileInProgress} (hpath : file.path = none)
    (path : String) :
    binaryFileEntry P none (withFile p file) "name" (.text path.toList) =
      (withFile p { file with path := some path }, .ok ()) := by
  simp [binaryFileEntry, withFile, keep, parsing, CborValue.asStr, Outcome.ofOption, Outcome.check, hpath]

theorem binaryFile_length {p : Progress M} {file : BinaryFileInProgress} (hlength : file.length = none)
    {length : Nat} (hle : length ≤ isizeMax) :
    binaryFileEntry P none (withFile p file) "length" (.integer length) =
      (withFile p { file with length := some length, contents := some [] }, .ok ()) := by
  have hu64 : ((length : Int) % 2 ^ 64).toNat = length := by
    simp only [isizeMax] at hle
    omega
  simp [binaryFileEntry, withFile, keep, parsing, CborValue.asU64, Outcome.ofOption, Outcome.check, hlength,
    withCapacity, Nat.not_lt.mpr hle, -Nat.reducePow, -Int.reducePow, hu64]

theorem binaryFile_mode {p : Progress M} {file : BinaryFileInProgress} (hmode : file.mode = none)
    (mode : UInt32) :
    binaryFileEntry P none (withFile p file) "mode" (.integer mode.toNat) =
      (withFile p { file with mode := some mode }, .ok ()) := by
  have hu32 : UInt32.ofNat ((mode.toNat : Int) % 2 ^ 32).toNat = mode := by
    have hlt := mode.toNat_lt
    have hsame : ((mode.toNat : Int) % 2 ^ 32).toNat = mode.toNat := by omega
    rw [hsame, UInt32.ofNat_toNat]
  simp [binaryFileEntry, withFile, keep, parsing, CborValue.asU32, Outcome.ofOption, Outcome.check, hmode,
    -Nat.reducePow, -Int.reducePow, hu32]

theorem binaryFile_data {p : Progress M} {file : BinaryFileInProgress} {contents : Bytes}
    (hcontents : file.contents = some contents) (data : Bytes) :
    binaryFileEntry P none (withFile p file) "data001" (.bytes data) =
      (withFile p { file with contents := some (contents ++ data) }, .ok ()) := by
  simp [binaryFileEntry, withFile, keep, parsing, CborValue.asBytes, Outcome.ofOption, hcontents]

/-- A file of which only the digest is missing. -/
def collected (item : FileItem) : BinaryFileInProgress :=
  ⟨some item.path, some item.contents.length, some item.contents, item.mode⟩

/-- The entries before the digest. -/
theorem processEntries_collect {p : Progress M} (hactive : .fedoraIot .binaryFile ∈ p.activeModules)
    {item : FileItem} (hheld : item.Held) (rest : List (ServiceInfoModule × String × CborValue)) :
    processEntries V none (forModule (.fedoraIot .binaryFile)
        ([("name", .text item.path.toList), ("length", .integer item.contents.length)] ++
          modeReceived item.mode ++ [("data001", .bytes item.contents)]) ++ rest) (withFile p .new) =
      processEntries V none rest (withFile p (collected item)) := by
  have hlength : item.contents.length ≤ isizeMax := by
    have := hheld.contents
    simp only [sendable] at this
    simp only [isizeMax]
    omega
  have hstep : ∀ (key : String) {file file' : BinaryFileInProgress} {value : CborValue}
      (rest : List (ServiceInfoModule × String × CborValue)), key ≠ "active" →
      binaryFileEntry P none (withFile p file) key value = (withFile p file', .ok ()) →
      processEntries V none ((.fedoraIot .binaryFile, key, value) :: rest) (withFile p file) =
        processEntries V none rest (withFile p file') := by
    intro key file file' value rest hkey hentry
    exact processEntries_step V ((binaryFile_active hactive file hkey value).trans hentry)
  cases hmode : item.mode with
  | none =>
      simp only [forModule, modeReceived, List.append_nil, List.cons_append, List.nil_append, List.map_cons,
        List.map_nil]
      rw [hstep "name" _ (by simp) (binaryFile_name rfl item.path),
        hstep "length" _ (by simp) (binaryFile_length rfl hlength),
        hstep "data001" _ (by simp) (binaryFile_data rfl item.contents)]
      simp [collected, hmode, BinaryFileInProgress.new]
  | some mode =>
      simp only [forModule, modeReceived, List.cons_append, List.nil_append, List.map_cons, List.map_nil]
      rw [hstep "name" _ (by simp) (binaryFile_name rfl item.path),
        hstep "length" _ (by simp) (binaryFile_length rfl hlength),
        hstep "mode" _ (by simp) (binaryFile_mode rfl mode),
        hstep "data001" _ (by simp) (binaryFile_data rfl item.contents)]
      simp [collected, hmode]

theorem binaryFile_sha {p : Progress M} {item : FileItem} {digest : Bytes}
    (hdigest : IsSha384 P item.contents digest) :
    binaryFileEntry P none (withFile p (collected item)) "sha-384" (.bytes digest) =
      deploy none item.path item.contents item.mode (withFile p (collected item)) := by
  have hcheck : checkFile P (withFile p (collected item)).binaryFile "sha-384" (.bytes digest) =
      .ok (item.path, item.contents) := checkFile_complete hdigest
  have hdata : ¬ "data".toList <+: "sha-384".toList := by decide
  have hsha : "sha-".toList <+: "sha-384".toList := by decide
  rw [binaryFileEntry, if_neg (by decide), if_neg (by decide), if_neg hdata, if_neg (by decide), if_pos hsha, hcheck]
  rfl

theorem deploy_item {p : Progress M} {item : FileItem} (hdeployable : Deployable item) :
    deploy none item.path item.contents item.mode p =
      if (M.createFile p.machine item.path item.contents (item.mode.getD 0o600)).2 then
        ({ p with
            machine := (M.createFile p.machine item.path item.contents (item.mode.getD 0o600)).1
            actions := p.actions ++ [item.action]
            binaryFile := .new }, .ok ())
      else ({ p with
          machine := (M.createFile p.machine item.path item.contents (item.mode.getD 0o600)).1 },
        .err (.context "Error deploying binary file")) := by
  obtain ⟨habsolute, hroot⟩ := hdeployable
  have hpath : destinationPath item.path none = .ok item.path := by
    simp [destinationPath, habsolute, Outcome.check]
  have hparent : hasParent item.path = true := by
    unfold hasParent
    rw [if_pos habsolute]
    exact decide_eq_true hroot
  simp only [deploy, hpath, hparent, Bool.true_eq_false, if_false]
  rcases M.createFile p.machine item.path item.contents (item.mode.getD 0o600) with ⟨machine, _ | _⟩
  · rfl
  · rfl

/-- All entries of one file: it is deployed, or an error ends the run. -/
theorem processEntries_file {p : Progress M} (hactive : .fedoraIot .binaryFile ∈ p.activeModules)
    (hnew : p.binaryFile = .new) {item : FileItem} {digest : Bytes} (hheld : item.Held)
    (hdeployable : Deployable item) (hdigest : IsSha384 P item.contents digest)
    (rest : List (ServiceInfoModule × String × CborValue)) :
    ((M.createFile p.machine item.path item.contents (item.mode.getD 0o600)).2 = true →
      processEntries V none (forModule (.fedoraIot .binaryFile) (fileReceived item digest) ++ rest) p =
        processEntries V none rest { p with
          machine := (M.createFile p.machine item.path item.contents (item.mode.getD 0o600)).1
          actions := p.actions ++ [item.action] }) ∧
    ((M.createFile p.machine item.path item.contents (item.mode.getD 0o600)).2 = false →
      ∃ p' e, processEntries V none (forModule (.fedoraIot .binaryFile) (fileReceived item digest) ++ rest) p =
        (p', .err e) ∧ p'.actions = p.actions) := by
  have hsplit : forModule (.fedoraIot .binaryFile) (fileReceived item digest) ++ rest =
      forModule (.fedoraIot .binaryFile) ([("name", .text item.path.toList),
        ("length", .integer item.contents.length)] ++ modeReceived item.mode ++
          [("data001", .bytes item.contents)]) ++ (.fedoraIot .binaryFile, "sha-384", .bytes digest) :: rest := by
    simp [forModule, fileReceived]
  have hentry : processEntry V none (withFile p (collected item)) (.fedoraIot .binaryFile) "sha-384"
      (.bytes digest) = deploy none item.path item.contents item.mode (withFile p (collected item)) :=
    (binaryFile_active hactive _ (by decide) _).trans (binaryFile_sha hdigest)
  have hstart : withFile p .new = p := by rw [← hnew]; rfl
  have hcollect := processEntries_collect (V := V) hactive hheld
    ((.fedoraIot .binaryFile, "sha-384", .bytes digest) :: rest)
  rw [hstart] at hcollect
  rw [hsplit, hcollect]
  simp only [processEntries]
  rw [hentry, deploy_item hdeployable]
  constructor
  · intro hcreated
    have hcreated' : (M.createFile (withFile p (collected item)).machine item.path item.contents
      (item.mode.getD 0o600)).2 = true := hcreated
    simp only [hcreated', if_true]
    simp only [withFile, ← hnew]
  · intro hrefused
    have hrefused' : (M.createFile (withFile p (collected item)).machine item.path item.contents
      (item.mode.getD 0o600)).2 = false := hrefused
    simp only [hrefused', Bool.false_eq_true, if_false]
    exact ⟨_, _, rfl, rfl⟩

/-- The files in a row. -/
theorem processEntries_files {p : Progress M} (hactive : .fedoraIot .binaryFile ∈ p.activeModules)
    (hnew : p.binaryFile = .new) {items : List FileItem} {digests : List Bytes}
    (hdigests : List.Forall₂ (fun item digest => IsSha384 P item.contents digest) items digests)
    (hheld : ∀ item ∈ items, item.Held) (hdeployable : ∀ item ∈ items, Deployable item)
    (rest : List (ServiceInfoModule × String × CborValue)) :
    (Takes M p.machine items →
      processEntries V none (forModule (.fedoraIot .binaryFile)
          (List.zipWith fileReceived items digests).flatten ++ rest) p =
        processEntries V none rest { p with
          machine := filesState M p.machine items, actions := p.actions ++ items.map FileItem.action }) ∧
    (¬ Takes M p.machine items → ∃ p' e,
      processEntries V none (forModule (.fedoraIot .binaryFile)
          (List.zipWith fileReceived items digests).flatten ++ rest) p = (p', .err e) ∧
        p'.actions.length < p.actions.length + items.length) := by
  induction hdigests generalizing p with
  | nil =>
      refine ⟨fun _ => ?_, fun h => absurd trivial h⟩
      simp [forModule, filesState]
  | @cons item digest items digests hdigest _ ih =>
      have hsplit : forModule (.fedoraIot .binaryFile)
          (List.zipWith fileReceived (item :: items) (digest :: digests)).flatten ++ rest =
          forModule (.fedoraIot .binaryFile) (fileReceived item digest) ++
            (forModule (.fedoraIot .binaryFile) (List.zipWith fileReceived items digests).flatten ++ rest) := by
        simp [forModule]
      rw [hsplit]
      obtain ⟨hcreated, hrefused⟩ := processEntries_file (V := V) hactive hnew (hheld item (by simp))
        (hdeployable item (by simp)) hdigest
        (forModule (.fedoraIot .binaryFile) (List.zipWith fileReceived items digests).flatten ++ rest)
      cases hcreate : (M.createFile p.machine item.path item.contents (item.mode.getD 0o600)).2 with
      | false =>
          refine ⟨fun h => absurd h.1 (by simp [hcreate]), fun _ => ?_⟩
          obtain ⟨p', e, hrun, hactions⟩ := hrefused hcreate
          exact ⟨p', e, hrun, by rw [hactions]; simp⟩
      | true =>
          obtain ⟨htakes, hnot⟩ := @ih { p with
              machine := (M.createFile p.machine item.path item.contents (item.mode.getD 0o600)).1
              actions := p.actions ++ [item.action] } hactive hnew
            (fun item h => hheld item (List.mem_cons_of_mem _ h))
            (fun item h => hdeployable item (List.mem_cons_of_mem _ h))
          rw [hcreated hcreate]
          refine ⟨fun h => ?_, fun h => ?_⟩
          · rw [htakes h.2]
            simp [filesState]
          · obtain ⟨p', e, hrun, hlt⟩ := hnot fun hrest => h ⟨hcreate, hrest⟩
            refine ⟨p', e, hrun, ?_⟩
            simp only [List.length_append, List.length_cons, List.length_nil] at hlt ⊢
            omega

/-! ## One command on the device -/

def commandReceived (c : ServiceInfoCommand) : List (String × CborValue) :=
  [("command", .text c.command.toList), ("args", .array (c.args.map fun s => .text s.toList)),
    ("may_fail", .bool c.mayFail), ("return_stdout", .bool c.returnStdout),
    ("return_stderr", .bool c.returnStderr), ("execute", .bool true)]

def withCommand (p : Progress M) (c : CommandInProgress) : Progress M := { p with command := c }

/-- A command that is only to be executed. -/
def gathered (c : ServiceInfoCommand) : CommandInProgress :=
  ⟨some c.command, c.args, c.mayFail, c.returnStdout, c.returnStderr⟩

theorem command_active {p : Progress M} (hactive : .fedoraIot .command ∈ p.activeModules)
    (c : CommandInProgress) {key : String} (hkey : key ≠ "active") (value : CborValue) :
    processEntry V none (withCommand p c) (.fedoraIot .command) key value =
      commandEntry V (withCommand p c) key value := by
  simp [processEntry, hkey, withCommand, hactive]

theorem processEntries_gather {p : Progress M} (hactive : .fedoraIot .command ∈ p.activeModules)
    (c : ServiceInfoCommand) (rest : List (ServiceInfoModule × String × CborValue)) :
    processEntries V none (forModule (.fedoraIot .command) (commandReceived c) ++ rest) (withCommand p .new) =
      match execute V (withCommand p (gathered c)) with
      | (p, .ok ()) => processEntries V none rest p
      | failed => failed := by
  have hstep : ∀ (key : String) {c c' : CommandInProgress} {value : CborValue}
      (rest : List (ServiceInfoModule × String × CborValue)), key ≠ "active" →
      commandEntry V (withCommand p c) key value = (withCommand p c', .ok ()) →
      processEntries V none ((.fedoraIot .command, key, value) :: rest) (withCommand p c) =
        processEntries V none rest (withCommand p c') := by
    intro key c c' value rest hkey hentry
    exact processEntries_step V ((command_active hactive c hkey value).trans hentry)
  have hcommand : commandEntry V (withCommand p .new) "command" (.text c.command.toList) =
      (withCommand p { CommandInProgress.new with command := some c.command }, .ok ()) := by
    simp [commandEntry, withCommand, keep, parsing, CborValue.asStr, Outcome.ofOption, Outcome.check,
      CommandInProgress.new]
  have hargs : ∀ c' : CommandInProgress,
      commandEntry V (withCommand p c') "args" (.array (c.args.map fun s => .text s.toList)) =
        (withCommand p { c' with args := c.args }, .ok ()) := by
    intro c'
    simp [commandEntry, withCommand, keep, parsing, CborValue.asStrArray_texts, Outcome.ofOption]
  have hmayFail : ∀ c' : CommandInProgress, commandEntry V (withCommand p c') "may_fail" (.bool c.mayFail) =
      (withCommand p { c' with mayFail := c.mayFail }, .ok ()) := by
    intro c'
    simp [commandEntry, withCommand, keep, parsing, CborValue.asBool, Outcome.ofOption]
  have hstdout : ∀ c' : CommandInProgress,
      commandEntry V (withCommand p c') "return_stdout" (.bool c.returnStdout) =
        (withCommand p { c' with returnStdout := c.returnStdout }, .ok ()) := by
    intro c'
    simp [commandEntry, withCommand, keep, parsing, CborValue.asBool, Outcome.ofOption]
  have hstderr : ∀ c' : CommandInProgress,
      commandEntry V (withCommand p c') "return_stderr" (.bool c.returnStderr) =
        (withCommand p { c' with returnStderr := c.returnStderr }, .ok ()) := by
    intro c'
    simp [commandEntry, withCommand, keep, parsing, CborValue.asBool, Outcome.ofOption]
  have hexecute : ∀ c' : CommandInProgress, processEntry V none (withCommand p c') (.fedoraIot .command)
      "execute" (.bool true) = execute V (withCommand p c') := by
    intro c'
    rw [command_active hactive c' (by decide)]
    simp [commandEntry]
  simp only [forModule, commandReceived, List.cons_append, List.nil_append, List.map_cons, List.map_nil]
  rw [hstep "command" _ (by simp) hcommand, hstep "args" _ (by simp) (hargs _),
    hstep "may_fail" _ (by simp) (hmayFail _), hstep "return_stdout" _ (by simp) (hstdout _),
    hstep "return_stderr" _ (by simp) (hstderr _)]
  simp only [processEntries, hexecute]
  rfl

theorem add_ok {raw : Option Bytes} (h : raw.isSome = true) (info : ServiceInfo) (module : ServiceInfoModule)
    (key : String) : ∃ info', info.add module key raw = .ok info' := by
  obtain ⟨data, rfl⟩ := Option.isSome_iff_exists.mp h
  exact ⟨_, rfl⟩

theorem reportStart_ok (laws : V.Laws) {c : ServiceInfoCommand} (hheld : CommandHeld c) (siOut : ServiceInfo) :
    ∃ siOut', reportStart V c.command c.args siOut = .ok siOut' := by
  obtain ⟨first, hfirst⟩ := add_ok (laws.text hheld.command) siOut (.fedoraIot .command) "command"
  obtain ⟨second, hsecond⟩ := add_ok (laws.texts (.texts c.args hheld.args hheld.count)) first
    (.fedoraIot .command) "args"
  exact ⟨second, by simp [reportStart, hfirst, hsecond]⟩

theorem reportOutput_ok (laws : V.Laws) (c : CommandInProgress) (output : Output) (siOut : ServiceInfo) :
    ∃ siOut', reportOutput V c output siOut = .ok siOut' := by
  have hbytes : ∀ (asked : Bool) (key : String) (data : Bytes) (siOut : ServiceInfo), data.length ≤ sendable →
      ∃ siOut', reportWhen asked key (P.byteBuf.intoWriter data) siOut = .ok siOut' := by
    intro asked key data siOut hle
    cases asked with
    | true => exact add_ok (laws.byteBuf hle).isSome siOut (.fedoraIot .command) key
    | false => exact ⟨siOut, rfl⟩
  obtain ⟨first, hfirst⟩ := hbytes c.returnStdout "stdout" output.stdout siOut output.stdout_le
  obtain ⟨second, hsecond⟩ := hbytes c.returnStderr "stderr" output.stderr first output.stderr_le
  obtain ⟨third, hthird⟩ := add_ok (laws.exitCode output.code) second (.fedoraIot .command) "exit_code"
  exact ⟨third, by simp only [reportOutput, hfirst, hsecond, hthird, Outcome.ok_bind]⟩

/-- The three ends of a command. -/
theorem execute_gathered (laws : V.Laws) (p : Progress M) {c : ServiceInfoCommand} (hheld : CommandHeld c) :
    ∃ siOut, execute V (withCommand p (gathered c)) =
      let p' : Progress M := { withCommand p (gathered c) with
        machine := (M.output p.machine c.command c.args).1, siOut, actions := p.actions ++ [commandAction c] }
      match (M.output p.machine c.command c.args).2 with
      | none => (p', .err (.context "Error running command"))
      | some output =>
        if c.mayFail || succeeded (some output) then (withCommand p' .new, .ok ())
        else (p', .err (.commandFailed c.command c.args output.stderr)) := by
  obtain ⟨started, hstarted⟩ := reportStart_ok laws hheld p.siOut
  rcases houtput : M.output p.machine c.command c.args with ⟨machine, _ | output⟩
  · refine ⟨started, ?_⟩
    simp only [execute, withCommand, gathered, hstarted, houtput, commandAction]
  · obtain ⟨reported, hreported⟩ := reportOutput_ok laws (gathered c) output started
    refine ⟨reported, ?_⟩
    have hends : (c.mayFail || succeeded (some output)) = true ↔ c.mayFail = true ∨ output.code = some 0 := by
      simp [succeeded]
    simp only [gathered] at hreported
    simp only [execute, withCommand, gathered, hstarted, houtput, commandAction, hreported]
    by_cases hgo : c.mayFail = true ∨ output.code = some 0
    · rw [if_pos hgo, if_pos (hends.mpr hgo)]
    · rw [if_neg hgo, if_neg (hends.not.mpr hgo)]

/-- The commands in a row. -/
theorem processEntries_commands (laws : V.Laws) {cs : List ServiceInfoCommand} (hheld : ∀ c ∈ cs, CommandHeld c)
    {p : Progress M} (hactive : .fedoraIot .command ∈ p.activeModules) (hnew : p.command = .new) :
    ∃ p' r, processEntries V none (forModule (.fedoraIot .command) (cs.flatMap commandReceived)) p = (p', r) ∧
      p'.actions = p.actions ++ ran M p.machine cs ∧ p'.activeModules = p.activeModules := by
  induction cs generalizing p with
  | nil => exact ⟨p, .ok (), rfl, by simp [ran], rfl⟩
  | cons c cs ih =>
      have hstart : withCommand p .new = p := by
        rw [← hnew]
        rfl
      have hsplit : forModule (.fedoraIot .command) ((c :: cs).flatMap commandReceived) =
          forModule (.fedoraIot .command) (commandReceived c) ++
            forModule (.fedoraIot .command) (cs.flatMap commandReceived) := by
        simp [forModule]
      have hgather := processEntries_gather (V := V) hactive c
        (forModule (.fedoraIot .command) (cs.flatMap commandReceived))
      rw [hstart] at hgather
      obtain ⟨siOut, hexecute⟩ := execute_gathered laws p (hheld c (by simp))
      rw [hsplit, hgather, hexecute]
      rcases houtput : M.output p.machine c.command c.args with ⟨machine, _ | output⟩
      · exact ⟨_, _, rfl, by simp [ran, houtput], rfl⟩
      · by_cases hgo : (c.mayFail || succeeded (some output)) = true
        · obtain ⟨p', r, hrest, hactions, hmodules⟩ := @ih (fun c h => hheld c (List.mem_cons_of_mem _ h))
            (withCommand { withCommand p (gathered c) with
              machine, siOut, actions := p.actions ++ [commandAction c] } .new) hactive rfl
          refine ⟨p', r, ?_, ?_, hmodules⟩
          · simp only [hgo, if_true]
            exact hrest
          · rw [hactions]
            simp [ran, houtput, hgo, withCommand]
        · simp only [hgo, if_false, Bool.false_eq_true]
          exact ⟨_, _, rfl, by simp [ran, houtput, hgo], rfl⟩

end

end FidoOnboard.ServiceInfoDelivery
