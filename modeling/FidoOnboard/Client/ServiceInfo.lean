import FidoOnboard.DataFormats.JsonValue
import FidoOnboard.DataFormats.To2Types

/-!
# `client-linuxapp/src/serviceinfo.rs`

The entries of an OwnerServiceInfo are worked off one by one. What an entry did to
the device stays when a later one fails.
-/
namespace FidoOnboard.Client

/-- What a process leaves behind; a process that was killed has no code. -/
structure Output where
  code : Option Int
  stdout : Bytes
  stderr : Bytes
  stdout_le : stdout.length ≤ sendable
  stderr_le : stderr.length ≤ sendable

/-- Work that is left to other programs. -/
inductive Setup where
  | createUserWithPassword (user password : String)
  | createUser (user : String)
  | installSshKey (user key : String)
  | performRhsm (organizationId activationKey : String) (performInsights : Bool)
  | rebindClevis (diskLabel pin config : String) (reencrypt : Bool)
  deriving DecidableEq, Repr

/-- The system that the client runs on. -/
structure Machine where
  State : Type
  /-- The directories, the file, its contents, its mode, and everything synced. -/
  createFile : State → String → Bytes → UInt32 → State × Bool
  /-- `Command::output`; nothing comes back from a command that cannot be started. -/
  output : State → String → List String → State × Option Output
  /-- A line of `/etc/passwd` that is cut short stops the program, and so does a password that
  comes back as something else than text. -/
  setup : State → Setup → State × Outcome Unit Unit

/-- What has been done to the device. -/
inductive Action where
  | deployed (path : String) (contents : Bytes) (mode : UInt32)
  | executed (command : String) (args : List String) (mayFail returnStdout returnStderr : Bool)
  | performed (setup : Setup)
  deriving DecidableEq, Repr

inductive ProcessError where
  /-- A value that is not of the type its key asks for. -/
  | parsing (text : String)
  /-- "Non-activated module {} got request". -/
  | nonActivated (module : ServiceInfoModule)
  /-- "Got {} {:?} after {:?}". -/
  | repeated (text : String) (value : CborValue)
  /-- "Got binary file data before length {:?}". -/
  | dataBeforeLength (value : CborValue)
  /-- "Unknown sha-{}". -/
  | unknownSha (shaType : String)
  /-- "Got binary file sha-{} before {}". -/
  | shaBefore (shaType text : String)
  /-- "Got binary file (path {}) with length {} but only {} bytes of data". -/
  | wrongLength (path : String) (length readBytes : Nat)
  /-- "Got binary file (path {}) with invalid digest: {:?}". -/
  | invalidDigest (path : String) (error : Error)
  | context (text : String)
  /-- "Command failed {} {:?} stderr: {}". -/
  | commandFailed (command : String) (args : List String) (stderr : Bytes)
  | data (error : Error)

structure BinaryFileInProgress where
  path : Option String
  length : Option Nat
  contents : Option Bytes
  mode : Option UInt32
  deriving DecidableEq, Repr

def BinaryFileInProgress.new : BinaryFileInProgress := ⟨none, none, none, none⟩

structure CommandInProgress where
  command : Option String
  args : List String
  mayFail : Bool
  returnStdout : Bool
  returnStderr : Bool
  deriving DecidableEq, Repr

def CommandInProgress.new : CommandInProgress := ⟨none, [], false, false, false⟩

structure DiskEncryptionInProgress where
  diskLabel : Option String
  pin : Option String
  config : Option String
  reencrypt : Bool
  deriving DecidableEq, Repr

def DiskEncryptionInProgress.new : DiskEncryptionInProgress := ⟨none, none, none, false⟩

/-- The variables of the loop, the system they act on, and what was done to it. -/
structure Progress (M : Machine) where
  activeModules : List ServiceInfoModule
  sshkeyUser : Option String
  sshkeyPassword : Option String
  sshkeyKeys : Option String
  rhsmOrganizationId : Option String
  rhsmActivationKey : Option String
  rhsmPerformInsights : Option Bool
  binaryFile : BinaryFileInProgress
  command : CommandInProgress
  diskEncryption : DiskEncryptionInProgress
  rebootRequested : Bool
  siOut : ServiceInfo
  machine : M.State
  actions : List Action

def Progress.new {M : Machine} (machine : M.State) (siOut : ServiceInfo) : Progress M :=
  ⟨[], none, none, none, none, none, none, .new, .new, .new, false, siOut, machine, []⟩

section

variable {M : Machine}

/-- A step that only changes variables; a failed one changes nothing. -/
def keep (p : Progress M) : Outcome ProcessError (Progress M) → Progress M × Outcome ProcessError Unit
  | .ok p' => (p', .ok ())
  | .err e => (p, .err e)
  | .panic => (p, .panic)

def parsing {α : Type} (text : String) (value : Option α) : Outcome ProcessError α :=
  .ofOption (.parsing text) value

def performSetup (text : String) (setup : Setup) (p : Progress M) : Progress M × Outcome ProcessError Unit :=
  match M.setup p.machine setup with
  | (machine, .ok ()) => ({ p with machine, actions := p.actions ++ [.performed setup] }, .ok ())
  | (machine, .err ()) => ({ p with machine }, .err (.context text))
  | (machine, .panic) => ({ p with machine }, .panic)

/-! ## Modules that only collect values -/

def sshKeyEntry (p : Progress M) (key : String) (value : CborValue) : Outcome ProcessError (Progress M) :=
  if key = "username" then do
    let value ← parsing "Error parsing username value" value.asStr
    .ok { p with sshkeyUser := some value }
  else if key = "password" then do
    let value ← parsing "Error parsing password value" value.asStr
    .ok { p with sshkeyPassword := some value }
  else if key = "sshkeys" then do
    let value ← parsing "Error parsing sshkey value" value.asStr
    .ok { p with sshkeyKeys := some value }
  else .ok p

def rebootEntry (p : Progress M) (key : String) (value : CborValue) : Outcome ProcessError (Progress M) :=
  if key = "reboot" then do
    let value ← parsing "Error parsing reboot value" value.asBool
    .ok { p with rebootRequested := value }
  else .ok p

def rhsmEntry (p : Progress M) (key : String) (value : CborValue) : Outcome ProcessError (Progress M) :=
  if key = "organization_id" then do
    let value ← parsing "Error parsing rhsm organization_id value" value.asStr
    .ok { p with rhsmOrganizationId := some value }
  else if key = "activation_key" then do
    let value ← parsing "Error parsing rhsm activation_key value" value.asStr
    .ok { p with rhsmActivationKey := some value }
  else if key = "perform_insights" then do
    let value ← parsing "Error parsing rhsm perform_insights value" value.asBool
    .ok { p with rhsmPerformInsights := some value }
  else .ok p

/-! ## Files -/

/-- The parts of an absolute path; neither `//` nor `/./` makes one. -/
def components (path : String) : List (List Char) :=
  (path.toList.splitOn '/').filter fun part => part ≠ [] && part ≠ ['.']

def isAbsolute (path : String) : Bool := path.toList.head? = some '/'

/-- `PathBuf::join`. -/
def join (base rest : List Char) : List Char :=
  if rest.head? = some '/' then rest
  else if base = [] ∨ base.getLast? = some '/' then base ++ rest
  else base ++ '/' :: rest

/-- The first slash is dropped before a path is put behind the prefix. -/
def destinationPath (path : String) (pathPrefix : Option String) : Outcome ProcessError String := do
  Outcome.check (isAbsolute path = true) (.context "Binary file path must be absolute")
  match pathPrefix with
  | none => .ok path
  | some pathPrefix => .ok (String.ofList (join pathPrefix.toList path.toList.tail))

/-- `Path::parent`: the root has none, and neither has the empty path. -/
def hasParent (path : String) : Bool := if isAbsolute path then components path ≠ [] else path ≠ ""

/-- Without a parent to be created the program stops. -/
def deploy (pathPrefix : Option String) (path : String) (contents : Bytes) (mode : Option UInt32)
    (p : Progress M) : Progress M × Outcome ProcessError Unit :=
  match destinationPath path pathPrefix with
  | .err e => (p, .err e)
  | .panic => (p, .panic)
  | .ok path =>
    if hasParent path = false then (p, .panic)
    else
      let mode := mode.getD 0o600
      match M.createFile p.machine path contents mode with
      | (machine, true) =>
        ({ p with machine, actions := p.actions ++ [.deployed path contents mode], binaryFile := .new }, .ok ())
      | (machine, false) => ({ p with machine }, .err (.context "Error deploying binary file"))

/-- The type is what stands between the first two dashes. -/
def shaType (key : String) : String := String.ofList (((key.toList.splitOn '-')[1]?).getD [])

def hasher (shaType : String) : Outcome ProcessError HashType :=
  if shaType = "256" then .ok .sha256
  else if shaType = "384" then .ok .sha384
  else .err (.unknownSha shaType)

/-- A file is complete when its digest arrives. -/
def checkFile (P : Platform) (file : BinaryFileInProgress) (key : String) (value : CborValue) :
    Outcome ProcessError (String × Bytes) := do
  let shaValue ← parsing ("Error parsing binary file sha-" ++ shaType key ++ " value") value.asBytes
  let hasher ← hasher (shaType key)
  let digest ← (Hash.fromDigest hasher shaValue).mapErr .data
  let path ← .ofOption (.shaBefore (shaType key) "name") file.path
  let length ← .ofOption (.shaBefore (shaType key) "length") file.length
  let contents ← (match file.contents with
    | none => .panic
    | some contents => .ok contents)
  Outcome.check (contents.length = length) (.wrongLength path length contents.length)
  (digest.compareData P contents).mapErr (.invalidDigest path)
  .ok (path, contents)

/-- A length that no `Vec` can have stops the program. -/
def withCapacity (length : Nat) : Outcome ProcessError Bytes :=
  if isizeMax < length then .panic else .ok []

def binaryFileEntry (P : Platform) (pathPrefix : Option String) (p : Progress M) (key : String)
    (value : CborValue) : Progress M × Outcome ProcessError Unit :=
  if key = "name" then keep p do
    Outcome.check (p.binaryFile.path = none) (.repeated "binary file path" value)
    let path ← parsing "Error parsing binary file name" value.asStr
    .ok { p with binaryFile := { p.binaryFile with path := some path } }
  else if key = "length" then keep p do
    Outcome.check (p.binaryFile.length = none) (.repeated "binary file length" value)
    let length ← parsing "Error parsing binary file length" value.asU64
    let contents ← withCapacity length
    .ok { p with binaryFile := { p.binaryFile with length := some length, contents := some contents } }
  else if "data".toList <+: key.toList then keep p do
    let contents ← .ofOption (.dataBeforeLength value) p.binaryFile.contents
    let data ← parsing "Error parsing binary file data" value.asBytes
    .ok { p with binaryFile := { p.binaryFile with contents := some (contents ++ data) } }
  else if key = "mode" then keep p do
    Outcome.check (p.binaryFile.mode = none) (.repeated "binary file mode" value)
    let mode ← parsing "Error parsing binary file mode" value.asU32
    .ok { p with binaryFile := { p.binaryFile with mode := some mode } }
  else if "sha-".toList <+: key.toList then
    match checkFile P p.binaryFile key value with
    | .ok (path, contents) => deploy pathPrefix path contents p.binaryFile.mode p
    | .err e => (p, .err e)
    | .panic => (p, .panic)
  else (p, .ok ())

/-! ## Commands -/

variable {P : Platform} (V : ServiceInfoValues P)

/-- What the owner is told before the command is started. -/
def reportStart (command : String) (args : List String) (siOut : ServiceInfo) : Outcome Error ServiceInfo := do
  let siOut ← siOut.add (.fedoraIot .command) "command" (P.text.intoWriter command)
  siOut.add (.fedoraIot .command) "args" (V.texts.intoWriter args)

def reportWhen (asked : Bool) (key : String) (value : Option Bytes) (siOut : ServiceInfo) :
    Outcome Error ServiceInfo :=
  if asked then siOut.add (.fedoraIot .command) key value else .ok siOut

def reportOutput (c : CommandInProgress) (output : Output) (siOut : ServiceInfo) :
    Outcome Error ServiceInfo := do
  let siOut ← reportWhen c.returnStdout "stdout" (P.byteBuf.intoWriter output.stdout) siOut
  let siOut ← reportWhen c.returnStderr "stderr" (P.byteBuf.intoWriter output.stderr) siOut
  siOut.add (.fedoraIot .command) "exit_code" (V.exitCode.intoWriter output.code)

/-- A command that cannot be started is an error whether it may fail or not. -/
def execute (p : Progress M) : Progress M × Outcome ProcessError Unit :=
  match p.command.command with
  | none => (p, .panic)
  | some command =>
    match reportStart V command p.command.args p.siOut with
    | .err e => (p, .err (.data e))
    | .panic => (p, .panic)
    | .ok siOut =>
      let (machine, output) := M.output p.machine command p.command.args
      let p := { p with machine, siOut, actions := p.actions ++ [.executed command p.command.args
        p.command.mayFail p.command.returnStdout p.command.returnStderr] }
      match output with
      | none => (p, .err (.context "Error running command"))
      | some output =>
        match reportOutput V p.command output p.siOut with
        | .err e => (p, .err (.data e))
        | .panic => (p, .panic)
        | .ok siOut =>
          if p.command.mayFail = true ∨ output.code = some 0 then ({ p with siOut, command := .new }, .ok ())
          else ({ p with siOut }, .err (.commandFailed command p.command.args output.stderr))

def commandEntry (p : Progress M) (key : String) (value : CborValue) :
    Progress M × Outcome ProcessError Unit :=
  if key = "command" then keep p do
    Outcome.check (p.command.command = none) (.repeated "command" value)
    let command ← parsing "Error parsing command" value.asStr
    .ok { p with command := { p.command with command := some command } }
  else if key = "args" then keep p do
    let args ← parsing "Error parsing command args" value.asStrArray
    .ok { p with command := { p.command with args } }
  else if key = "may_fail" then keep p do
    let mayFail ← parsing "Error parsing command may_fail" value.asBool
    .ok { p with command := { p.command with mayFail } }
  else if key = "return_stdout" then keep p do
    let returnStdout ← parsing "Error parsing command return_stdout" value.asBool
    .ok { p with command := { p.command with returnStdout } }
  else if key = "return_stderr" then keep p do
    let returnStderr ← parsing "Error parsing command return_stderr" value.asBool
    .ok { p with command := { p.command with returnStderr } }
  else if key = "execute" then execute V p
  else (p, .ok ())

/-! ## Disk encryption -/

def reportClevis (diskLabel : String) (reencrypt : Bool) (siOut : ServiceInfo) : Outcome Error ServiceInfo := do
  let siOut ← siOut.add (.fedoraIot .diskEncryptionClevis) "disk-label" (P.text.intoWriter diskLabel)
  let siOut ← siOut.add (.fedoraIot .diskEncryptionClevis) "bound" (P.bool.intoWriter true)
  siOut.add (.fedoraIot .diskEncryptionClevis) "reencrypt-initiated" (P.bool.intoWriter reencrypt)

/-- The report is thrown away with everything else when a later part fails. -/
def executeClevis (P : Platform) (p : Progress M) : Progress M × Outcome ProcessError Unit :=
  match p.diskEncryption.diskLabel, p.diskEncryption.pin, p.diskEncryption.config with
  | none, _, _ => (p, .err (.context "Disk label not set"))
  | some _, none, _ => (p, .err (.context "Disk encryption PIN not set"))
  | some _, some _, none => (p, .err (.context "Disk encryption config not set"))
  | some diskLabel, some pin, some config =>
    match performSetup "Error executing clevis" (.rebindClevis diskLabel pin config p.diskEncryption.reencrypt)
      p with
    | (p, .ok ()) => keep p ((reportClevis (P := P) diskLabel p.diskEncryption.reencrypt p.siOut).mapErr .data
        |>.bind fun siOut => .ok { p with siOut, diskEncryption := .new })
    | failed => failed

def clevisEntry (P : Platform) (p : Progress M) (key : String) (value : CborValue) :
    Progress M × Outcome ProcessError Unit :=
  if key = "disk-label" then keep p do
    Outcome.check (p.diskEncryption.diskLabel = none) (.repeated "clevis disk-label" value)
    let diskLabel ← parsing "Error parsing clevis disk-label" value.asStr
    .ok { p with diskEncryption := { p.diskEncryption with diskLabel := some diskLabel } }
  else if key = "pin" then keep p do
    Outcome.check (p.diskEncryption.pin = none) (.repeated "clevis pin" value)
    let pin ← parsing "Error parsing clevis pin" value.asStr
    .ok { p with diskEncryption := { p.diskEncryption with pin := some pin } }
  else if key = "config" then keep p do
    Outcome.check (p.diskEncryption.config = none) (.repeated "clevis config" value)
    let config ← parsing "Error parsing clevis pin config" value.asStr
    .ok { p with diskEncryption := { p.diskEncryption with config := some config } }
  else if key = "reencrypt" then keep p do
    let reencrypt ← parsing "Error parsing clevis reencrypt" value.asBool
    .ok { p with diskEncryption := { p.diskEncryption with reencrypt } }
  else if key = "execute" then executeClevis P p
  else (p, .ok ())

/-! ## All entries -/

def activeEntry (p : Progress M) (module : ServiceInfoModule) (value : CborValue) :
    Outcome ProcessError (Progress M) := do
  let value ← parsing "Error parsing active value" value.asBool
  if value then .ok { p with activeModules := module :: p.activeModules }
  else .ok { p with activeModules := p.activeModules.filter (· ≠ module) }

def processEntry (pathPrefix : Option String) (p : Progress M) (module : ServiceInfoModule) (key : String)
    (value : CborValue) : Progress M × Outcome ProcessError Unit :=
  if key = "active" then keep p (activeEntry p module value)
  else if module ∉ p.activeModules then (p, .err (.nonActivated module))
  else match module with
  | .fedoraIot .sshKey => keep p (sshKeyEntry p key value)
  | .fedoraIot .reboot => keep p (rebootEntry p key value)
  | .redHatCom .subscriptionManager => keep p (rhsmEntry p key value)
  | .fedoraIot .binaryFile => binaryFileEntry P pathPrefix p key value
  | .fedoraIot .command => commandEntry V p key value
  | .fedoraIot .diskEncryptionClevis => clevisEntry P p key value
  | _ => (p, .ok ())

def processEntries (pathPrefix : Option String) : List (ServiceInfoModule × String × CborValue) → Progress M →
    Progress M × Outcome ProcessError Unit
  | [], p => (p, .ok ())
  | (module, key, value) :: rest, p =>
    match processEntry V pathPrefix p module key value with
    | (p, .ok ()) => processEntries pathPrefix rest p
    | failed => failed

def installSshKeys (user : String) : List String → Progress M → Progress M × Outcome ProcessError Unit
  | [], p => (p, .ok ())
  | key :: keys, p =>
    match performSetup "Error installing SSH key" (.installSshKey user key) p with
    | (p, .ok ()) => installSshKeys user keys p
    | failed => failed

/-- `split(';')`. -/
def splitKeys (keys : String) : List String := (keys.toList.splitOn ';').map String.ofList

def finishPassword (user : String) (p : Progress M) : Progress M × Outcome ProcessError Unit :=
  match p.sshkeyPassword with
  | none => (p, .ok ())
  | some password =>
    performSetup "Error creating new user with password" (.createUserWithPassword user password) p

def finishKeys (user : String) (p : Progress M) : Progress M × Outcome ProcessError Unit :=
  match p.sshkeyKeys with
  | none => (p, .ok ())
  | some keys =>
    match performSetup "Error creating new user" (.createUser user) p with
    | (p, .ok ()) => installSshKeys user (splitKeys keys) p
    | failed => failed

def finishSshKey (p : Progress M) : Progress M × Outcome ProcessError Unit :=
  if .fedoraIot .sshKey ∉ p.activeModules then (p, .ok ())
  else match p.sshkeyUser with
  | none => (p, .err (.context "SSHkey module missing username"))
  | some user =>
    if p.sshkeyKeys = none ∧ p.sshkeyPassword = none then
      (p, .err (.context "SSHkey module missing password and key"))
    else match finishPassword user p with
    | (p, .ok ()) => finishKeys user p
    | failed => failed

def finishRhsm (p : Progress M) : Progress M × Outcome ProcessError Unit :=
  if .redHatCom .subscriptionManager ∉ p.activeModules then (p, .ok ())
  else match p.rhsmOrganizationId, p.rhsmActivationKey, p.rhsmPerformInsights with
  | some organizationId, some activationKey, some performInsights =>
    performSetup "Error performing RHSM enrollment"
      (.performRhsm organizationId activationKey performInsights) p
  | _, _, _ => (p, .err (.context "Missing one of the RHSM module configurations"))

/-- What a `for` over `iter()` sees, with the values as the readers see them. -/
def entriesOf (siIn : ServiceInfo) : List (ServiceInfoModule × String × CborValue) :=
  (ServiceInfo.iter P siIn).map fun (module, key, value) => (module, key, V.cbor value)

/-- The result says whether a reboot was asked for. -/
def processServiceinfoIn (pathPrefix : Option String) (machine : M.State) (siIn siOut : ServiceInfo) :
    Progress M × Outcome ProcessError Bool :=
  match processEntries V pathPrefix (entriesOf V siIn) (.new machine siOut) with
  | (p, .ok ()) =>
    match finishSshKey p with
    | (p, .ok ()) =>
      match finishRhsm p with
      | (p, .ok ()) => (p, .ok p.rebootRequested)
      | (p, .err e) => (p, .err e)
      | (p, .panic) => (p, .panic)
    | (p, .err e) => (p, .err e)
    | (p, .panic) => (p, .panic)
  | (p, .err e) => (p, .err e)
  | (p, .panic) => (p, .panic)

/-! ## Entries in a row -/

theorem processEntries_append (pathPrefix : Option String)
    (first second : List (ServiceInfoModule × String × CborValue)) (p : Progress M) :
    processEntries V pathPrefix (first ++ second) p =
      match processEntries V pathPrefix first p with
      | (p, .ok ()) => processEntries V pathPrefix second p
      | failed => failed := by
  induction first generalizing p with
  | nil => rfl
  | cons entry first ih =>
      obtain ⟨module, key, value⟩ := entry
      simp only [List.cons_append, processEntries]
      rcases processEntry V pathPrefix p module key value with ⟨p', _ | _ | _⟩
      · exact ih p'
      · rfl
      · rfl

theorem processEntries_step {pathPrefix : Option String} {module : ServiceInfoModule} {key : String}
    {value : CborValue} {rest : List (ServiceInfoModule × String × CborValue)} {p p' : Progress M}
    (h : processEntry V pathPrefix p module key value = (p', .ok ())) :
    processEntries V pathPrefix ((module, key, value) :: rest) p = processEntries V pathPrefix rest p' := by
  simp only [processEntries, h]

end

end FidoOnboard.Client
