import FidoOnboard.Base.Digits
import FidoOnboard.DataFormats.JsonValue
import FidoOnboard.OwnerServer.Handlers

/-!
# `serviceinfo-api-server/src/main.rs`

The configuration is prepared once. A reply names the modules that are to be
used before the first entry of each.
-/
namespace FidoOnboard.ServiceInfoApiServer
open OwnerServer (InitialUser ServiceInfoApiReply)

def fromStrRadix8 (s : String) : Option UInt32 := (u32FromStrRadix 8 s.toList).map UInt32.ofNat

/-- The last four fields are filled in when the configuration is prepared. -/
structure ServiceInfoFile where
  path : String
  permissions : Option String
  sourcePath : String
  parsedPermissions : Option UInt32
  contentsLen : Nat
  contentsHex : String
  hashHex : String
  deriving DecidableEq, Repr

structure ServiceInfoCommand where
  command : String
  args : List String
  mayFail : Bool
  returnStdout : Bool
  returnStderr : Bool
  deriving DecidableEq, Repr

structure DiskEncryptionClevis where
  diskLabel : String
  pin : String
  config : String
  reencrypt : Bool
  deriving DecidableEq, Repr

structure ServiceInfoSettings where
  initialUser : Option InitialUser
  files : Option (List ServiceInfoFile)
  commands : Option (List ServiceInfoCommand)
  diskencryptionClevis : Option (List DiskEncryptionClevis)
  /-- A `HashMap`, in the order it is walked in. -/
  additionalServiceinfo : Option (List (ServiceInfoModule × List (String × String)))
  afterOnboardingReboot : Option Bool

section

variable (P : Platform) (fsRead : String → Option Bytes)

def hexEncode (data : Bytes) : String := String.ofList (Hex.encode data)

def prepareFile (file : ServiceInfoFile) : Outcome String ServiceInfoFile := do
  let parsedPermissions ← match file.permissions with
    | none => .ok none
    | some permissions => do
      let mode ← .ofOption "Invalid permission string for file (invalid octal)" (fromStrRadix8 permissions)
      .ok (some mode)
  let contents ← .ofOption "Failed to read file" (fsRead file.sourcePath)
  let digest ← (Hash.fromData P .sha384 contents).mapErr fun _ => "Failed to hash file"
  .ok { file with
    parsedPermissions, hashHex := hexEncode digest.value, contentsLen := contents.length,
    contentsHex := hexEncode contents }

/-- `ServiceInfoConfiguration::from_settings`. -/
def fromSettings (settings : ServiceInfoSettings) : Outcome String ServiceInfoSettings :=
  match settings.files with
  | none => .ok settings
  | some files => do
    let files ← files.mapM (prepareFile P fsRead)
    .ok { settings with files := some files }

end

variable {P : Platform}

structure ServiceInfoApiReplyBuilder (P : Platform) where
  enabledModules : List ServiceInfoModule
  reply : ServiceInfoApiReply P

/-- `Default::default()`. -/
def ServiceInfoApiReplyBuilder.empty : ServiceInfoApiReplyBuilder P := ⟨[], ⟨none, none, none⟩⟩

section

variable (V : ServiceInfoValues P)

/-- A module is activated where it is first named. -/
def addExtra (b : ServiceInfoApiReplyBuilder P) (module : ServiceInfoModule) (command : String)
    (argument : JsonValue) : ServiceInfoApiReplyBuilder P :=
  let extra := b.reply.extraCommands.getD []
  if module ∈ b.enabledModules then
    { b with reply := { b.reply with extraCommands := some (extra ++ [(module, command, V.json argument)]) } }
  else
    { enabledModules := module :: b.enabledModules
      reply := { b.reply with extraCommands := some (extra ++
        [(module, "active", V.json (.bool true)), (module, command, V.json argument)]) } }

def addExtras (module : ServiceInfoModule) (b : ServiceInfoApiReplyBuilder P)
    (entries : List (String × JsonValue)) : ServiceInfoApiReplyBuilder P :=
  entries.foldl (fun b (command, argument) => addExtra V b module command argument) b

def fileEntries (file : ServiceInfoFile) : List (String × JsonValue) :=
  [("name", .string file.path), ("length", .posInt (UInt64.ofNat file.contentsLen))] ++
  (match file.parsedPermissions with
    | none => []
    | some mode => [("mode", .posInt (UInt64.ofNat mode.toNat))]) ++
  [("data001|hex", .string file.contentsHex), ("sha-384|hex", .string file.hashHex)]

def commandEntries (command : ServiceInfoCommand) : List (String × JsonValue) :=
  [("command", .string command.command), ("args", .texts command.args),
    ("may_fail", .bool command.mayFail), ("return_stdout", .bool command.returnStdout),
    ("return_stderr", .bool command.returnStderr), ("execute", .bool true)]

def clevisEntries (encryption : DiskEncryptionClevis) : List (String × JsonValue) :=
  [("disk-label", .string encryption.diskLabel), ("pin", .string encryption.pin),
    ("config", .string encryption.config), ("reencrypt", .bool encryption.reencrypt), ("execute", .null)]

structure QueryInfo where
  apiVersion : Nat
  deviceGuid : Guid
  /-- A `HashSet`. -/
  modules : List ServiceInfoModule
  deriving DecidableEq, Repr

/-- What the settings for one device say goes before the base configuration. -/
def initialUser (settingsPerDevice : Guid → Option ServiceInfoSettings) (settings : ServiceInfoSettings)
    (guid : Guid) : Option InitialUser :=
  match settingsPerDevice guid with
  | some config => config.initialUser
  | none => settings.initialUser

/-- The entries of a list of the configuration, for a device that has announced the module. -/
def addList {α : Type} (modules : List ServiceInfoModule) (module : ServiceInfoModule)
    (entries : α → List (String × JsonValue)) (items : Option (List α)) (b : ServiceInfoApiReplyBuilder P) :
    ServiceInfoApiReplyBuilder P :=
  if module ∈ modules then
    (items.getD []).foldl (fun b item => addExtras V module b (entries item)) b
  else b

def serviceinfoHandler (settingsPerDevice : Guid → Option ServiceInfoSettings) (settings : ServiceInfoSettings)
    (query : QueryInfo) : Option (ServiceInfoApiReply P) :=
  if query.apiVersion ≠ 1 then none
  else
    let b : ServiceInfoApiReplyBuilder P := .empty
    let b := if .fedoraIot .sshKey ∈ query.modules then
        { b with reply := { b.reply with
          initialUser := initialUser settingsPerDevice settings query.deviceGuid } }
      else b
    let b := addList V query.modules (.fedoraIot .binaryFile) fileEntries settings.files b
    let b := addList V query.modules (.fedoraIot .command) commandEntries settings.commands b
    let b := addList V query.modules (.fedoraIot .diskEncryptionClevis) clevisEntries
      settings.diskencryptionClevis b
    let b := if .fedoraIot .reboot ∈ query.modules then
        { b with reply := { b.reply with reboot := settings.afterOnboardingReboot } }
      else b
    let b := (settings.additionalServiceinfo.getD []).foldl (fun b (module, lines) =>
      if module ∈ query.modules then
        addExtras V module b (lines.map fun (key, value) => (key, .string value))
      else b) b
    some b.reply

end

end FidoOnboard.ServiceInfoApiServer
