import FidoOnboard.DataFormats.ReferenceJson
import FidoOnboard.DataFormats.ServiceInfoRoundTrip
import FidoOnboard.Protocol.ServiceInfoActions

/-!
# From the configuration to the device

The API server, the owner and the device each rewrite the entries of the
configuration. What arrives is what was configured.
-/
namespace FidoOnboard.ServiceInfoDelivery
open Client OwnerServer ServiceInfoApiServer

variable {P : Platform} {M : Machine}

section

variable {V : ServiceInfoValues P}

/-! ## The reply of the API server -/

/-- The activation of a module stands before its first entry. -/
def activated {α : Type} (active : α) : List (String × α) → List (String × α)
  | [] => []
  | entries => ("active", active) :: entries

/-- What was added to a reply, all of it for one module. -/
structure Extended (b b' : ServiceInfoApiReplyBuilder P) (module : ServiceInfoModule)
    (extra : List (ServiceInfoModule × String × P.Json)) : Prop where
  initialUser : b'.reply.initialUser = b.reply.initialUser
  reboot : b'.reply.reboot = b.reply.reboot
  extraCommands : b'.reply.extraCommands.getD [] = b.reply.extraCommands.getD [] ++ extra
  others : ∀ other, other ≠ module → (other ∈ b'.enabledModules ↔ other ∈ b.enabledModules)

def inJson (V : ServiceInfoValues P) (module : ServiceInfoModule) (entries : List (String × JsonValue)) :
    List (ServiceInfoModule × String × P.Json) :=
  entries.map fun (key, value) => (module, key, V.json value)

theorem addExtras_enabled (module : ServiceInfoModule) {b : ServiceInfoApiReplyBuilder P}
    (h : module ∈ b.enabledModules) (entries : List (String × JsonValue)) :
    Extended b (addExtras V module b entries) module (inJson V module entries) := by
  induction entries generalizing b with
  | nil => exact ⟨rfl, rfl, by simp [inJson, addExtras], fun _ _ => Iff.rfl⟩
  | cons entry entries ih =>
      obtain ⟨key, value⟩ := entry
      have hone : addExtra V b module key value = { b with reply := { b.reply with
          extraCommands := some (b.reply.extraCommands.getD [] ++ [(module, key, V.json value)]) } } := by
        simp [addExtra, h]
      have hrest := @ih (addExtra V b module key value) (by rw [hone]; exact h)
      exact
        { initialUser := hrest.initialUser.trans (by rw [hone])
          reboot := hrest.reboot.trans (by rw [hone])
          extraCommands := hrest.extraCommands.trans (by simp [hone, inJson])
          others := fun other hne => (hrest.others other hne).trans (by rw [hone]) }

theorem addExtras_new (module : ServiceInfoModule) {b : ServiceInfoApiReplyBuilder P}
    (h : module ∉ b.enabledModules) (entries : List (String × JsonValue)) :
    Extended b (addExtras V module b entries) module (inJson V module (activated (.bool true) entries)) := by
  cases entries with
  | nil => exact ⟨rfl, rfl, by simp [inJson, addExtras, activated], fun _ _ => Iff.rfl⟩
  | cons entry entries =>
      obtain ⟨key, value⟩ := entry
      have hone : addExtra V b module key value =
          { enabledModules := module :: b.enabledModules
            reply := { b.reply with extraCommands := some (b.reply.extraCommands.getD [] ++
              [(module, "active", V.json (.bool true)), (module, key, V.json value)]) } } := by
        simp [addExtra, h]
      have hrest := addExtras_enabled (V := V) module (b := addExtra V b module key value)
        (by rw [hone]; simp) entries
      exact
        { initialUser := hrest.initialUser.trans (by rw [hone])
          reboot := hrest.reboot.trans (by rw [hone])
          extraCommands := hrest.extraCommands.trans (by simp [hone, inJson, activated])
          others := fun other hne => (hrest.others other hne).trans (by rw [hone]; simp [hne]) }

theorem addList_announced {α : Type} {modules : List ServiceInfoModule} {module : ServiceInfoModule}
    (h : module ∈ modules) (entries : α → List (String × JsonValue)) (items : Option (List α))
    (b : ServiceInfoApiReplyBuilder P) :
    addList V modules module entries items b = addExtras V module b ((items.getD []).flatMap entries) := by
  simp only [addList, if_pos h, addExtras, List.foldl_flatMap]

/-- Nothing but files and commands is configured. -/
structure OnlyFilesAndCommands (settings : ServiceInfoSettings) : Prop where
  initialUser : settings.initialUser = none
  diskencryptionClevis : settings.diskencryptionClevis = none
  additionalServiceinfo : settings.additionalServiceinfo = none
  afterOnboardingReboot : settings.afterOnboardingReboot = none

theorem serviceinfoHandler_reply {settingsPerDevice : Guid → Option ServiceInfoSettings}
    (hper : ∀ guid config, settingsPerDevice guid = some config → config.initialUser = none)
    {settings : ServiceInfoSettings} (honly : OnlyFilesAndCommands settings) (query : QueryInfo)
    (hversion : query.apiVersion = 1) (hfile : .fedoraIot .binaryFile ∈ query.modules)
    (hcommand : .fedoraIot .command ∈ query.modules) :
    ∃ reply, serviceinfoHandler V settingsPerDevice settings query = some reply ∧ reply.initialUser = none ∧
      reply.reboot = none ∧ reply.extraCommands.getD [] =
        inJson V (.fedoraIot .binaryFile) (activated (.bool true) ((settings.files.getD []).flatMap fileEntries)) ++
        inJson V (.fedoraIot .command)
          (activated (.bool true) ((settings.commands.getD []).flatMap commandEntries)) := by
  have huser : initialUser settingsPerDevice settings query.deviceGuid = none := by
    unfold initialUser
    cases hconfig : settingsPerDevice query.deviceGuid with
    | none => exact honly.initialUser
    | some config => exact hper _ _ hconfig
  have hempty : (if .fedoraIot .sshKey ∈ query.modules then
      { (ServiceInfoApiReplyBuilder.empty : ServiceInfoApiReplyBuilder P) with
        reply := { (ServiceInfoApiReplyBuilder.empty : ServiceInfoApiReplyBuilder P).reply with
          initialUser := initialUser settingsPerDevice settings query.deviceGuid } }
      else .empty) = (ServiceInfoApiReplyBuilder.empty : ServiceInfoApiReplyBuilder P) := by
    rw [huser]
    split
    · rfl
    · rfl
  have hfiles := addExtras_new (V := V) (.fedoraIot .binaryFile)
    (b := (.empty : ServiceInfoApiReplyBuilder P)) (by simp [ServiceInfoApiReplyBuilder.empty])
    ((settings.files.getD []).flatMap fileEntries)
  have hcommands := addExtras_new (V := V) (.fedoraIot .command)
    (b := addExtras V (.fedoraIot .binaryFile) .empty ((settings.files.getD []).flatMap fileEntries))
    (by rw [hfiles.others _ (by decide)]; simp [ServiceInfoApiReplyBuilder.empty])
    ((settings.commands.getD []).flatMap commandEntries)
  have hclevis : ∀ b : ServiceInfoApiReplyBuilder P, addList V query.modules (.fedoraIot .diskEncryptionClevis)
      clevisEntries settings.diskencryptionClevis b = b := by
    intro b
    rw [honly.diskencryptionClevis]
    unfold addList
    split
    · rfl
    · rfl
  unfold serviceinfoHandler
  rw [if_neg (by simp [hversion])]
  simp only [hempty, addList_announced hfile, addList_announced hcommand, hclevis, honly.afterOnboardingReboot,
    honly.additionalServiceinfo, Option.getD_none, List.foldl_nil]
  refine ⟨_, rfl, ?_, ?_, ?_⟩
  · split
    · exact hcommands.initialUser.trans hfiles.initialUser
    · exact hcommands.initialUser.trans hfiles.initialUser
  · split
    · rfl
    · exact hcommands.reboot.trans hfiles.reboot
  · have hextra := hcommands.extraCommands
    rw [hfiles.extraCommands] at hextra
    split
    · exact hextra
    · exact hextra

/-! ## What the owner makes of it -/

/-- The owner turns the first entry into one that the device reads as the second. -/
def Arrives (V : ServiceInfoValues P) (sent : String × JsonValue) (received : String × CborValue) : Prop :=
  ∃ raw value, (∀ (module : ServiceInfoModule) (info : ServiceInfo),
      addExtraCommand P info (module, sent.1, V.json sent.2) =
        .ok (info ++ [(module.toString ++ ":" ++ received.1, raw)])) ∧
    P.valueFromSlice raw = some value ∧ V.cbor value = received.2

theorem arrives_plain (laws : V.Laws) (key : String) (hkey : ¬ "|hex".toList <:+ key.toList) {value : JsonValue}
    (hplain : value.Plain) : Arrives V (key, value) (key, value.toCbor) := by
  obtain ⟨raw, v, hraw, hv, hcbor⟩ := laws.json hplain
  refine ⟨raw, v, fun module info => ?_, hv, hcbor⟩
  simp only [addExtraCommand, if_neg hkey, hraw]
  rfl

/-- The mark goes, and the digits become the bytes they were made of. -/
theorem arrives_hex (laws : V.Laws) {key plainKey : String} (hkey : "|hex".toList <:+ key.toList)
    (hdrop : dropHexMarks key.toList = plainKey.toList) {data : Bytes} (hle : data.length ≤ sendable) :
    Arrives V (key, .string (hexEncode data)) (plainKey, .bytes data) := by
  obtain ⟨raw, v, hraw, hv, hcbor⟩ := laws.byteBuf hle
  have hdecode : hexDecode (hexEncode data).toList = some data := by
    simp [hexDecode, hexEncode, Hex.decode_encode]
  refine ⟨raw, v, fun module info => ?_, hv, hcbor⟩
  simp only [addExtraCommand, if_pos hkey, laws.jsonAsStr, Outcome.ofOption, Outcome.ok_bind, hdecode, hdrop,
    String.ofList_toList, hraw]
  rfl

/-- All entries of a module, in front of whatever follows. -/
theorem addExtraCommands_arrive (module : ServiceInfoModule) (hmodule : module.Readable)
    {sent : List (String × JsonValue)} {received : List (String × CborValue)}
    (h : List.Forall₂ (Arrives V) sent received) (info : ServiceInfo) :
    ∃ added, (inJson V module sent).foldlM (addExtraCommand P) info = .ok (info ++ added) ∧
      ∀ rest, entriesOf V (added ++ rest) = forModule module received ++ entriesOf V rest := by
  induction h generalizing info with
  | nil => exact ⟨[], by simp [inJson], by simp [forModule]⟩
  | @cons e e' sent received hone _ ih =>
      obtain ⟨raw, value, hadd, hvalue, hcbor⟩ := hone
      obtain ⟨added, hadded, hentries⟩ := ih (info ++ [(module.toString ++ ":" ++ e'.1, raw)])
      refine ⟨(module.toString ++ ":" ++ e'.1, raw) :: added, ?_, fun rest => ?_⟩
      · simp only [inJson, List.map_cons, List.foldlM_cons, hadd module info, Outcome.ok_bind]
        rw [show info ++ (module.toString ++ ":" ++ e'.1, raw) :: added =
          info ++ [(module.toString ++ ":" ++ e'.1, raw)] ++ added by simp]
        exact hadded
      · have := hentries rest
        simp only [entriesOf] at this ⊢
        simp [ServiceInfo.iter, ServiceInfo.splitKey_readable hmodule, hvalue, hcbor, this, forModule]

/-! ## The configuration -/

/-- What `from_settings` has made of a file. -/
structure Prepared (item : FileItem) (digest : Bytes) (file : ServiceInfoFile) : Prop where
  path : file.path = item.path
  parsedPermissions : file.parsedPermissions = item.mode
  contentsLen : file.contentsLen = item.contents.length
  contentsHex : file.contentsHex = hexEncode item.contents
  hashHex : file.hashHex = hexEncode digest

theorem prepareFile_item {fsRead : String → Option Bytes} {file : ServiceInfoFile} {item : FileItem}
    (hitem : FileItem.of fsRead file = some item) {digest : Bytes} (hdigest : IsSha384 P item.contents digest) :
    ∃ file', prepareFile P fsRead file = .ok file' ∧ Prepared item digest file' := by
  obtain ⟨contents, hread, hitem⟩ := Option.bind_eq_some_iff.mp hitem
  have hhash : ∀ data, P.hash .sha384 data = some digest →
      Hash.fromData P .sha384 data = .ok ⟨.sha384, digest⟩ := fun data h =>
    Hash.fromData_eq_ok.mpr ⟨rfl, .sha384, rfl, h⟩
  cases hpermissions : file.permissions with
  | none =>
      simp only [hpermissions, Option.some.injEq] at hitem
      subst hitem
      refine ⟨{ file with
        parsedPermissions := none, hashHex := hexEncode digest, contentsLen := contents.length,
        contentsHex := hexEncode contents }, ?_, rfl, rfl, rfl, rfl, rfl⟩
      simp [prepareFile, hpermissions, hread, hhash _ hdigest.1, Outcome.ofOption, Outcome.mapErr]
  | some permissions =>
      simp only [hpermissions] at hitem
      obtain ⟨mode, hmode, hitem⟩ := Option.bind_eq_some_iff.mp hitem
      obtain rfl := Option.some.inj hitem
      refine ⟨{ file with
        parsedPermissions := some mode, hashHex := hexEncode digest, contentsLen := contents.length,
        contentsHex := hexEncode contents }, ?_, rfl, rfl, rfl, rfl, rfl⟩
      simp [prepareFile, hpermissions, hread, hmode, hhash _ hdigest.1, Outcome.ofOption, Outcome.mapErr]

theorem prepareFiles_items (hsha : ∀ data, ∃ digest, IsSha384 P data digest) {fsRead : String → Option Bytes}
    {files : List ServiceInfoFile} {items : List FileItem} (hitems : files.mapM (FileItem.of fsRead) = some items) :
    ∃ files' digests, files.mapM (prepareFile P fsRead) = .ok files' ∧
      List.Forall₂ (fun item digest => IsSha384 P item.contents digest) items digests ∧
      List.Forall₂ (fun (i : FileItem × Bytes) file => Prepared i.1 i.2 file) (items.zip digests) files' := by
  induction files generalizing items with
  | nil =>
      obtain rfl : [] = items := by simpa using hitems
      exact ⟨[], [], rfl, .nil, .nil⟩
  | cons file files ih =>
      rw [List.mapM_cons] at hitems
      obtain ⟨item, hitem, hitems⟩ := Option.bind_eq_some_iff.mp hitems
      obtain ⟨rest, hrest, hitems⟩ := Option.bind_eq_some_iff.mp hitems
      obtain rfl := Option.some.inj hitems
      obtain ⟨digest, hdigest⟩ := hsha item.contents
      obtain ⟨file', hfile, hprepared⟩ := prepareFile_item hitem hdigest
      obtain ⟨files', digests, hfiles, hdigests, hall⟩ := ih hrest
      refine ⟨file' :: files', digest :: digests, ?_, .cons hdigest hdigests, .cons hprepared hall⟩
      rw [List.mapM_cons, hfile, hfiles]
      rfl

theorem fileEntries_arrive (laws : V.Laws) {item : FileItem} {digest : Bytes} {file : ServiceInfoFile}
    (hprepared : Prepared item digest file) (hheld : item.Held) (hdigest : IsSha384 P item.contents digest) :
    List.Forall₂ (Arrives V) (fileEntries file) (fileReceived item digest) := by
  have hcontents : item.contents.length ≤ sendable := by
    have := hheld.contents
    omega
  have hname : Arrives V ("name", .string item.path) ("name", .text item.path.toList) :=
    arrives_plain laws "name" (by decide) (.text _ hheld.path)
  have hlength : Arrives V ("length", .posInt (UInt64.ofNat item.contents.length))
      ("length", .integer item.contents.length) := by
    have hsame : (JsonValue.posInt (UInt64.ofNat item.contents.length)).toCbor =
        .integer item.contents.length := by
      simp only [sendable] at hcontents
      rw [JsonValue.toCbor, UInt64.toNat_ofNat_of_lt' (by simp only [UInt64.size]; omega)]
    have := arrives_plain laws "length" (by decide)
      (.number (UInt64.ofNat item.contents.length))
    rwa [hsame] at this
  have hmode : ∀ mode : UInt32, Arrives V ("mode", .posInt (UInt64.ofNat mode.toNat))
      ("mode", .integer mode.toNat) := by
    intro mode
    have hsame : (JsonValue.posInt (UInt64.ofNat mode.toNat)).toCbor = .integer mode.toNat := by
      have hlt := mode.toNat_lt
      rw [JsonValue.toCbor, UInt64.toNat_ofNat_of_lt' (by simp only [UInt64.size]; omega)]
    have := arrives_plain laws "mode" (by decide) (.number (UInt64.ofNat mode.toNat))
    rwa [hsame] at this
  have hdata : Arrives V ("data001|hex", .string (hexEncode item.contents)) ("data001", .bytes item.contents) :=
    arrives_hex laws (by decide) (by decide) hcontents
  have hsha : Arrives V ("sha-384|hex", .string (hexEncode digest)) ("sha-384", .bytes digest) :=
    arrives_hex laws (by decide) (by decide) (by rw [hdigest.2]; decide)
  simp only [fileEntries, fileReceived, hprepared.path, hprepared.parsedPermissions, hprepared.contentsLen,
    hprepared.contentsHex, hprepared.hashHex]
  cases item.mode with
  | none => exact .cons hname (.cons hlength (.cons hdata (.cons hsha .nil)))
  | some mode => exact .cons hname (.cons hlength (.cons (hmode mode) (.cons hdata (.cons hsha .nil))))

theorem commandEntries_arrive (laws : V.Laws) {c : ServiceInfoCommand} (hheld : CommandHeld c) :
    List.Forall₂ (Arrives V) (commandEntries c) (commandReceived c) := by
  have hargs : Arrives V ("args", .texts c.args) ("args", .array (c.args.map fun s => .text s.toList)) := by
    have := arrives_plain laws "args" (by decide) (.texts c.args hheld.args hheld.count)
    rwa [JsonValue.texts_toCbor] at this
  have hbool : ∀ (key : String) (b : Bool), ¬ "|hex".toList <:+ key.toList →
      Arrives V (key, .bool b) (key, .bool b) := fun key b hkey => arrives_plain laws key hkey (.bool b)
  exact .cons (arrives_plain laws "command" (by decide) (.text _ hheld.command)) (.cons hargs
    (.cons (hbool _ _ (by decide)) (.cons (hbool _ _ (by decide)) (.cons (hbool _ _ (by decide))
      (.cons (hbool _ _ (by decide)) .nil)))))

theorem activated_arrive (laws : V.Laws) {sent : List (String × JsonValue)} {received : List (String × CborValue)}
    (h : List.Forall₂ (Arrives V) sent received) :
    List.Forall₂ (Arrives V) (activated (.bool true) sent) (activated (.bool true) received) := by
  cases h with
  | nil => exact .nil
  | cons hone hrest => exact .cons (arrives_plain laws "active" (by decide) (.bool true)) (.cons hone hrest)

/-! ## From end to end -/

/-- The API server as the owner sees it. -/
def configuredApi (V : ServiceInfoValues P) (settingsPerDevice : Guid → Option ServiceInfoSettings)
    (configuration : ServiceInfoSettings) (guid : Guid) (modules : List String) :
    Option (ServiceInfoApiReply P) :=
  serviceinfoHandler V settingsPerDevice configuration ⟨1, guid, modules.map .fromStr⟩

/-- The configuration is prepared, asked for by the owner, sent in the first loop and worked off. -/
def deliver (V : ServiceInfoValues P) (fsRead : String → Option Bytes)
    (settingsPerDevice : Guid → Option ServiceInfoSettings) (settings : ServiceInfoSettings) (draws : Draws P)
    (guid : Guid) (inSi : ServiceInfo) (machine : M.State) :
    Outcome String (Progress M × Outcome ProcessError Bool) := do
  let configuration ← fromSettings P fsRead settings
  let (_, _, outSi) ← (performServiceInfo
    { draws with serviceInfoApi := configuredApi V settingsPerDevice configuration } guid inSi 0).mapErr
      fun _ => "Error handling serviceinfo"
  .ok (processServiceinfoIn V none machine outSi [])

/-- Exactly the configured files, then exactly the commands that are due. -/
def Delivered (machine : M.State) (items : List FileItem) (commands : List ServiceInfoCommand)
    (result : Outcome String (Progress M × Outcome ProcessError Bool)) : Prop :=
  ∃ p r, result = .ok (p, r) ∧
    p.actions = items.map FileItem.action ++ due M (filesState M machine items) commands

theorem processEntries_activated (module : ServiceInfoModule) (entries : List (String × CborValue))
    (rest : List (ServiceInfoModule × String × CborValue)) (p : Progress M) :
    processEntries V none (forModule module (activated (.bool true) entries) ++ rest) p =
      if entries = [] then processEntries V none rest p
      else processEntries V none (forModule module entries ++ rest)
        { p with activeModules := module :: p.activeModules } := by
  cases entries with
  | nil => simp [forModule, activated]
  | cons entry entries =>
      simp [forModule, activated, processEntries, processEntry, keep, activeEntry, parsing, CborValue.asBool,
        Outcome.ofOption]

theorem processFiles {items : List FileItem} {digests : List Bytes}
    (hdigests : List.Forall₂ (fun item digest => IsSha384 P item.contents digest) items digests)
    (hheld : ∀ item ∈ items, item.Held) (hdeployable : ∀ item ∈ items, Deployable item) (machine : M.State)
    (rest : List (ServiceInfoModule × String × CborValue)) :
    (Takes M machine items → ∃ p : Progress M,
      processEntries V none (forModule (.fedoraIot .binaryFile)
          (activated (.bool true) (List.zipWith fileReceived items digests).flatten) ++ rest) (.new machine []) =
        processEntries V none rest p ∧
      p.machine = filesState M machine items ∧ p.actions = items.map FileItem.action ∧ p.command = .new ∧
      ∀ module ∈ p.activeModules, module = .fedoraIot .binaryFile) ∧
    (¬ Takes M machine items → ∃ (p : Progress M) (e : ProcessError),
      processEntries V none (forModule (.fedoraIot .binaryFile)
          (activated (.bool true) (List.zipWith fileReceived items digests).flatten) ++ rest) (.new machine []) =
        (p, .err e) ∧ p.actions.length < items.length) := by
  rw [processEntries_activated]
  by_cases hnil : (List.zipWith fileReceived items digests).flatten = []
  · have hitems : items = [] := by
      cases hdigests with
      | nil => rfl
      | cons _ _ => simp [fileReceived] at hnil
    subst hitems
    rw [if_pos hnil]
    refine ⟨fun _ => ⟨.new machine [], rfl, rfl, rfl, rfl, ?_⟩, fun h => absurd trivial h⟩
    simp [Progress.new]
  · rw [if_neg hnil]
    obtain ⟨htakes, hnot⟩ := processEntries_files (V := V) (M := M) (p := { Progress.new machine [] with
      activeModules := [.fedoraIot .binaryFile] }) (by simp) rfl hdigests hheld hdeployable rest
    refine ⟨fun h => ⟨_, htakes h, rfl, by simp [Progress.new], rfl, by simp⟩, fun h => ?_⟩
    obtain ⟨p, e, hrun, hlt⟩ := hnot h
    exact ⟨p, e, hrun, by simpa [Progress.new] using hlt⟩

theorem processCommands (laws : V.Laws) {cs : List ServiceInfoCommand} (hheld : ∀ c ∈ cs, CommandHeld c)
    {p : Progress M} (hnew : p.command = .new) :
    ∃ p' r, processEntries V none (forModule (.fedoraIot .command)
        (activated (.bool true) (cs.flatMap commandReceived))) p = (p', r) ∧
      p'.actions = p.actions ++ ran M p.machine cs ∧
      ∀ module ∈ p'.activeModules, module = .fedoraIot .command ∨ module ∈ p.activeModules := by
  have hactivated := processEntries_activated (V := V) (.fedoraIot .command) (cs.flatMap commandReceived) [] p
  simp only [List.append_nil] at hactivated
  rw [hactivated]
  by_cases hnil : cs.flatMap commandReceived = []
  · have hcs : cs = [] := by
      cases cs with
      | nil => rfl
      | cons _ _ => simp [commandReceived] at hnil
    subst hcs
    rw [if_pos hnil]
    exact ⟨p, .ok (), rfl, by simp [ran], fun module h => .inr h⟩
  · rw [if_neg hnil]
    obtain ⟨p', r, hrun, hactions, hmodules⟩ := processEntries_commands laws hheld (p := { p with
      activeModules := .fedoraIot .command :: p.activeModules }) (by simp) hnew
    refine ⟨p', r, hrun, hactions, fun module h => ?_⟩
    rw [hmodules] at h
    simpa using h

/-- Nothing is left to be set up for modules that were not named. -/
theorem processServiceinfoIn_entries {siIn siOut : ServiceInfo} {machine : M.State} {p : Progress M}
    {r : Outcome ProcessError Unit}
    (h : processEntries V none (entriesOf V siIn) (.new machine siOut) = (p, r))
    (hssh : .fedoraIot .sshKey ∉ p.activeModules) (hrhsm : .redHatCom .subscriptionManager ∉ p.activeModules) :
    (processServiceinfoIn V none machine siIn siOut).1 = p := by
  unfold processServiceinfoIn
  rw [h]
  cases r with
  | ok _ => simp [finishSshKey, hssh, finishRhsm, hrhsm]
  | err e => rfl
  | panic => rfl

/-- The prepared configuration differs from the settings in its files only. -/
theorem fromSettings_items (hsha : ∀ data, ∃ digest, IsSha384 P data digest) {fsRead : String → Option Bytes}
    {settings : ServiceInfoSettings} (honly : OnlyFilesAndCommands settings) {items : List FileItem}
    (hitems : (settings.files.getD []).mapM (FileItem.of fsRead) = some items) :
    ∃ configuration digests, fromSettings P fsRead settings = .ok configuration ∧
      OnlyFilesAndCommands configuration ∧ configuration.commands = settings.commands ∧
      List.Forall₂ (fun item digest => IsSha384 P item.contents digest) items digests ∧
      List.Forall₂ (fun (i : FileItem × Bytes) file => Prepared i.1 i.2 file) (items.zip digests)
        (configuration.files.getD []) := by
  cases hfiles : settings.files with
  | none =>
      rw [hfiles] at hitems
      obtain rfl : [] = items := by simpa using hitems
      exact ⟨settings, [], by simp [fromSettings, hfiles], honly, rfl, .nil, by simp [hfiles]⟩
  | some files =>
      rw [hfiles, Option.getD_some] at hitems
      obtain ⟨files', digests, hprepare, hdigests, hprepared⟩ := prepareFiles_items hsha hitems
      refine ⟨{ settings with files := some files' }, digests, ?_, ?_, rfl, hdigests, hprepared⟩
      · simp [fromSettings, hfiles, hprepare]
      · exact ⟨honly.initialUser, honly.diskencryptionClevis, honly.additionalServiceinfo,
          honly.afterOnboardingReboot⟩

theorem files_arrive (laws : V.Laws) {items : List FileItem} {digests : List Bytes} {files : List ServiceInfoFile}
    (hdigests : List.Forall₂ (fun item digest => IsSha384 P item.contents digest) items digests)
    (hprepared : List.Forall₂ (fun (i : FileItem × Bytes) file => Prepared i.1 i.2 file) (items.zip digests) files)
    (hheld : ∀ item ∈ items, item.Held) :
    List.Forall₂ (Arrives V) (files.flatMap fileEntries) (List.zipWith fileReceived items digests).flatten := by
  induction hdigests generalizing files with
  | nil =>
      cases hprepared
      exact .nil
  | cons hdigest _ ih =>
      cases hprepared with
      | cons hone hrest =>
          rw [List.flatMap_cons, List.zipWith_cons_cons, List.flatten_cons]
          exact List.rel_append (fileEntries_arrive laws hone (hheld _ (by simp)) hdigest)
            (ih hrest fun item h => hheld item (List.mem_cons_of_mem _ h))

theorem commands_arrive (laws : V.Laws) {cs : List ServiceInfoCommand} (hheld : ∀ c ∈ cs, CommandHeld c) :
    List.Forall₂ (Arrives V) (cs.flatMap commandEntries) (cs.flatMap commandReceived) := by
  induction cs with
  | nil => exact .nil
  | cons c cs ih =>
      rw [List.flatMap_cons, List.flatMap_cons]
      exact List.rel_append (commandEntries_arrive laws (hheld c (by simp)))
        (ih fun c h => hheld c (List.mem_cons_of_mem _ h))

/-- What the device gets is what was configured. -/
theorem performServiceInfo_configured (laws : V.Laws) {settingsPerDevice : Guid → Option ServiceInfoSettings}
    (hper : ∀ guid config, settingsPerDevice guid = some config → config.initialUser = none)
    {configuration : ServiceInfoSettings} (honly : OnlyFilesAndCommands configuration) {items : List FileItem}
    {digests : List Bytes}
    (hdigests : List.Forall₂ (fun item digest => IsSha384 P item.contents digest) items digests)
    (hprepared : List.Forall₂ (fun (i : FileItem × Bytes) file => Prepared i.1 i.2 file) (items.zip digests)
      (configuration.files.getD []))
    (hheld : ∀ item ∈ items, item.Held) (hcommands : ∀ c ∈ configuration.commands.getD [], CommandHeld c)
    (draws : Draws P) (guid : Guid) {inSi : ServiceInfo} {modules : List String}
    (hmodules : moduleList P inSi = .ok (some modules)) (hfile : "org.fedoraiot.binaryfile" ∈ modules)
    (hcommand : "org.fedoraiot.command" ∈ modules) :
    ∃ outSi, performServiceInfo
        { draws with serviceInfoApi := configuredApi V settingsPerDevice configuration } guid inSi 0 =
          .ok (false, false, outSi) ∧
      entriesOf V outSi =
        forModule (.fedoraIot .binaryFile)
          (activated (.bool true) (List.zipWith fileReceived items digests).flatten) ++
        forModule (.fedoraIot .command)
          (activated (.bool true) ((configuration.commands.getD []).flatMap commandReceived)) := by
  have hinFile : ServiceInfoModule.fedoraIot .binaryFile ∈ modules.map ServiceInfoModule.fromStr :=
    List.mem_map.mpr ⟨_, hfile, rfl⟩
  have hinCommand : ServiceInfoModule.fedoraIot .command ∈ modules.map ServiceInfoModule.fromStr :=
    List.mem_map.mpr ⟨_, hcommand, rfl⟩
  obtain ⟨reply, hreply, huser, hreboot, hextra⟩ := serviceinfoHandler_reply (V := V) hper honly
    ⟨1, guid, modules.map .fromStr⟩ rfl hinFile hinCommand
  obtain ⟨first, hfirst, hfirstEntries⟩ := addExtraCommands_arrive (.fedoraIot .binaryFile)
    ⟨by decide, by decide⟩ (activated_arrive laws (files_arrive laws hdigests hprepared hheld)) []
  obtain ⟨second, hsecond, hsecondEntries⟩ := addExtraCommands_arrive (.fedoraIot .command)
    ⟨by decide, by decide⟩ (activated_arrive laws (commands_arrive laws hcommands)) ([] ++ first)
  refine ⟨first ++ second, ?_, ?_⟩
  · have hfold : (reply.extraCommands.getD []).foldlM (addExtraCommand P) [] = .ok (first ++ second) := by
      rw [hextra, List.foldlM_append, hfirst, Outcome.ok_bind]
      exact hsecond
    have hapi : configuredApi V settingsPerDevice configuration guid modules = some reply := hreply
    simp [performServiceInfo, hmodules, hapi, Outcome.ofOption, huser, hreboot, hfold]
  · have hlast := hsecondEntries []
    rw [List.append_nil] at hlast
    rw [hfirstEntries, hlast]
    simp [entriesOf, ServiceInfo.iter]

/-- Files and commands reach the device as they were configured, and are carried out as far as they
can: all files must be taken, and no command that may fail but cannot be started may have others behind it. -/
theorem delivered_iff (laws : V.Laws) (hsha : ∀ data, ∃ digest, IsSha384 P data digest)
    {fsRead : String → Option Bytes} {settingsPerDevice : Guid → Option ServiceInfoSettings}
    (hper : ∀ guid config, settingsPerDevice guid = some config → config.initialUser = none)
    {settings : ServiceInfoSettings} (honly : OnlyFilesAndCommands settings) {items : List FileItem}
    (hitems : (settings.files.getD []).mapM (FileItem.of fsRead) = some items)
    (hdeployable : ∀ item ∈ items, Deployable item) (hheld : ∀ item ∈ items, item.Held)
    (hcommands : ∀ c ∈ settings.commands.getD [], CommandHeld c) {draws : Draws P} {guid : Guid}
    {inSi : ServiceInfo} {modules : List String} (hmodules : moduleList P inSi = .ok (some modules))
    (hfile : "org.fedoraiot.binaryfile" ∈ modules) (hcommand : "org.fedoraiot.command" ∈ modules)
    (machine : M.State) :
    Delivered machine items (settings.commands.getD [])
        (deliver V fsRead settingsPerDevice settings draws guid inSi machine) ↔
      Takes M machine items ∧ Continues M (filesState M machine items) (settings.commands.getD []) := by
  obtain ⟨configuration, digests, hfrom, honly', hsame, hdigests, hprepared⟩ := fromSettings_items hsha honly hitems
  obtain ⟨outSi, hperform, hentries⟩ := performServiceInfo_configured laws hper honly' hdigests hprepared hheld
    (by rw [hsame]; exact hcommands) draws guid hmodules hfile hcommand
  rw [hsame] at hentries
  have hdeliver : deliver V fsRead settingsPerDevice settings draws guid inSi machine =
      .ok (processServiceinfoIn V none machine outSi []) := by
    simp [deliver, hfrom, hperform, Outcome.mapErr]
  obtain ⟨htakes, hnot⟩ := processFiles (V := V) hdigests hheld hdeployable machine
    (forModule (.fedoraIot .command)
      (activated (.bool true) ((settings.commands.getD []).flatMap commandReceived)))
  rw [← hentries] at htakes hnot
  have hdelivered : Delivered machine items (settings.commands.getD [])
        (deliver V fsRead settingsPerDevice settings draws guid inSi machine) ↔
      (processServiceinfoIn V none machine outSi []).1.actions =
        items.map FileItem.action ++ due M (filesState M machine items) (settings.commands.getD []) := by
    rw [hdeliver]
    constructor
    · rintro ⟨p, r, heq, hactions⟩
      rw [Outcome.ok.inj heq]
      exact hactions
    · exact fun h => ⟨_, _, rfl, h⟩
  rw [hdelivered]
  by_cases htaken : Takes M machine items
  · obtain ⟨p, hrun, hmachine, hactions, hnew, hactive⟩ := htakes htaken
    obtain ⟨p', r, hrun', hactions', hactive'⟩ := processCommands laws hcommands hnew
    have hnone : ∀ module, module ≠ .fedoraIot .binaryFile → module ≠ .fedoraIot .command →
        module ∉ p'.activeModules := by
      intro module hnotFile hnotCommand h
      rcases hactive' module h with rfl | hbefore
      · exact hnotCommand rfl
      · exact hnotFile (hactive module hbefore)
    rw [processServiceinfoIn_entries (hrun.trans hrun') (hnone _ (by decide) (by decide))
      (hnone _ (by decide) (by decide)), hactions', hactions, hmachine, List.append_cancel_left_eq,
      ran_eq_due_iff]
    exact ⟨fun h => ⟨htaken, h⟩, fun h => h.2⟩
  · obtain ⟨p, e, hrun, hlt⟩ := hnot htaken
    refine iff_of_false (fun h => ?_) fun h => htaken h.1
    have hstopped : (processServiceinfoIn V none machine outSi []).1 = p := by
      simp only [processServiceinfoIn, hrun]
    have hlength := congrArg List.length h
    rw [hstopped, List.length_append, List.length_map] at hlength
    omega

end

/-! ## Two configurations -/

open Reference

/-- A system that takes every file, on which `missing` is not installed and `false` fails. -/
def sampleMachine : Machine where
  State := Unit
  createFile _ _ _ _ := ((), true)
  output _ command _ := ((), if command = "missing" then none
    else some ⟨some (if command = "false" then 1 else 0), [], [], Nat.zero_le _, Nat.zero_le _⟩)
  setup _ _ := ((), .ok ())

def sampleFiles : List ServiceInfoFile :=
  [⟨"/etc/motd", some "644", "motd", none, 0, "", ""⟩, ⟨"/etc/issue", none, "issue", none, 0, "", ""⟩]

def sampleRead (path : String) : Option Bytes :=
  if path = "motd" then some [0x68, 0x69] else some []

def sampleSettings (commands : List ServiceInfoCommand) : ServiceInfoSettings :=
  ⟨none, some sampleFiles, some commands, none, none, none⟩

def sampleItems : List FileItem :=
  [⟨"/etc/motd", [0x68, 0x69], some 0o644⟩, ⟨"/etc/issue", [], none⟩]

def sampleModules : ServiceInfo :=
  [("devmod:modules", valueWire.write (.array [.integer 0, .integer 2, .text "org.fedoraiot.binaryfile",
    .text "org.fedoraiot.command"]))]

def sampleDraws : Draws (jsonPlatform .release) where
  nonce := none
  guid := none
  kex := ⟨fun _ => none, fun _ => none, fun _ => none⟩
  serviceInfoApi _ _ := none
  loadDataFails := false
  storeMetadataFails := false

theorem sample_sha384 (data : Bytes) : ∃ d, IsSha384 (jsonPlatform .release) data d :=
  ⟨digest .sha384 data, rfl, BigEndian.toBe_length _ _⟩

def sampleDeliver (commands : List ServiceInfoCommand) :
    Outcome String (Progress sampleMachine × Outcome ProcessError Bool) :=
  deliver (jsonValues .release) sampleRead (fun _ => none) (sampleSettings commands) sampleDraws ⟨[]⟩
    sampleModules ()

/-- A command that fails and may, and one that does not. -/
def sampleCommands : List ServiceInfoCommand :=
  [⟨"false", ["-x"], true, true, false⟩, ⟨"true", [], false, false, false⟩]

theorem delivered_sample :
    Delivered (M := sampleMachine) () sampleItems sampleCommands (sampleDeliver sampleCommands) := by
  have hcommands : ∀ c ∈ sampleCommands, CommandHeld c := by
    have hall : ∀ c ∈ sampleCommands, c.command.length ≤ sendable ∧ (∀ arg ∈ c.args, arg.length ≤ sendable) ∧
      c.args.length ≤ sendable := by decide +kernel
    exact fun c hc => ⟨(hall c hc).1, (hall c hc).2.1, (hall c hc).2.2⟩
  have hheld : ∀ item ∈ sampleItems, item.Held := by
    have hall : ∀ item ∈ sampleItems, item.path.length ≤ sendable ∧ 2 * item.contents.length ≤ sendable := by
      decide +kernel
    exact fun item hitem => ⟨(hall item hitem).1, (hall item hitem).2⟩
  refine (delivered_iff (M := sampleMachine) (jsonLaws .release) sample_sha384 (by simp)
    (show OnlyFilesAndCommands (sampleSettings sampleCommands) from ⟨rfl, rfl, rfl, rfl⟩)
    (show _ = some sampleItems by decide +kernel) ?_ hheld hcommands
    (show moduleList (jsonPlatform .release) sampleModules =
      .ok (some ["org.fedoraiot.binaryfile", "org.fedoraiot.command"]) by decide +kernel) (by decide) (by decide)
    ()).mpr ⟨⟨rfl, rfl, trivial⟩, ?_⟩
  · have hall : ∀ item ∈ sampleItems, isAbsolute item.path = true ∧ components item.path ≠ [] := by decide +kernel
    exact hall
  · refine ⟨fun h => ?_, fun _ => ⟨fun h => ?_, fun _ => trivial⟩⟩
    · exact absurd h.2 (by decide)
    · exact absurd h.1 (by decide)

/-- `missing` may fail, but as it cannot be started nothing is done after it. -/
def missingCommands : List ServiceInfoCommand :=
  [⟨"missing", [], true, false, false⟩, ⟨"true", [], false, false, false⟩]

theorem undelivered_sample : ∃ p r, sampleDeliver missingCommands = .ok (p, r) ∧
    p.actions = sampleItems.map FileItem.action ++ [Action.executed "missing" [] true false false] ∧
    ¬ Delivered (M := sampleMachine) () sampleItems missingCommands (sampleDeliver missingCommands) := by
  have hrun : (do
      let (p, _) ← sampleDeliver missingCommands
      Outcome.check
        (p.actions = sampleItems.map FileItem.action ++ [Action.executed "missing" [] true false false])
        "").isOk = true := by
    decide +kernel
  obtain ⟨_, h⟩ := Outcome.isOk_iff.mp hrun
  obtain ⟨⟨p, r⟩, hdeliver, hcheck⟩ := Outcome.bind_eq_ok.mp h
  have hactions := Outcome.check_eq_ok.mp hcheck
  refine ⟨p, r, hdeliver, hactions, ?_⟩
  rintro ⟨p', r', hdeliver', hactions'⟩
  cases hdeliver.symm.trans hdeliver'
  rw [hactions] at hactions'
  have hlength := congrArg List.length hactions'
  revert hlength
  decide +kernel

end FidoOnboard.ServiceInfoDelivery
