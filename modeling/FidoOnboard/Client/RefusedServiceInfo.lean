import FidoOnboard.Client.Setups
import FidoOnboard.DataFormats.HashComparison

/-!
# What makes the client refuse service info

For every key: the value or the state before the entry that is answered with an error.
-/
namespace FidoOnboard.Client

variable {M : Machine} {P : Platform} {V : ServiceInfoValues P} {pathPrefix : Option String}
  {p p' : Progress M} {key : String} {value : CborValue}

/-! ## Entries -/

def sshKeyRefuses (key : String) (value : CborValue) : Prop :=
  (key = "username" ∨ key = "password" ∨ key = "sshkeys") ∧ value.asStr = none

def rebootRefuses (key : String) (value : CborValue) : Prop := key = "reboot" ∧ value.asBool = none

def rhsmRefuses (key : String) (value : CborValue) : Prop :=
  (key = "organization_id" ∨ key = "activation_key") ∧ value.asStr = none ∨
    key = "perform_insights" ∧ value.asBool = none

/-- Nothing is missing from the file, and the digest is its own. -/
structure Whole (P : Platform) (file : BinaryFileInProgress) (key : String) (value : CborValue) (path : String)
    (contents : Bytes) : Prop where
  named : file.path = some path
  announced : file.length = some contents.length
  collected : file.contents = some contents
  digest : ∃ hashType digest, hasher (shaType key) = .ok hashType ∧ value.asBytes = some digest ∧
    digest.length = hashType.digestSize ∧ Hash.IsDigest P ⟨hashType, digest⟩ contents

/-- A digest that cannot be read, comes too early, or is not that of the contents. -/
inductive DigestRefused (P : Platform) (file : BinaryFileInProgress) (key : String) (value : CborValue) : Prop where
  | type (unread : value.asBytes = none)
  | sha (unknown : ∀ hashType, hasher (shaType key) ≠ .ok hashType)
  | size {hashType : HashType} {digest : Bytes} (named : hasher (shaType key) = .ok hashType)
      (read : value.asBytes = some digest) (wrong : digest.length ≠ hashType.digestSize)
  | early (unset : file.path = none ∨ file.length = none)
  | length {length : Nat} {contents : Bytes} (announced : file.length = some length)
      (collected : file.contents = some contents) (wrong : contents.length ≠ length)
  /-- Digests of different lengths are not compared. -/
  | other {hashType : HashType} {digest contents : Bytes} (named : hasher (shaType key) = .ok hashType)
      (read : value.asBytes = some digest) (collected : file.contents = some contents)
      (wrong : ∀ md, hashType.messageDigest = some md → ∀ actual, P.hash md contents = some actual →
        digest.length = actual.length ∧ digest ≠ actual)

/-- The path is relative, or the machine does not create the file. -/
def placeRefuses (pathPrefix : Option String) (p : Progress M) (path : String) (contents : Bytes) : Prop :=
  isAbsolute path = false ∨ ∃ destination, destinationPath path pathPrefix = .ok destination ∧
    hasParent destination = true ∧
    (M.createFile p.machine destination contents (p.binaryFile.mode.getD 0o600)).2 = false

/-- Fields that are there already or come too early, values of another type, a digest that
does not fit, and a file that cannot be created. -/
def binaryFileRefuses (P : Platform) (pathPrefix : Option String) (p : Progress M) (key : String)
    (value : CborValue) : Prop :=
  key = "name" ∧ (p.binaryFile.path ≠ none ∨ value.asStr = none) ∨
  key = "length" ∧ (p.binaryFile.length ≠ none ∨ value.asU64 = none) ∨
  "data".toList <+: key.toList ∧ (p.binaryFile.contents = none ∨ value.asBytes = none) ∨
  key = "mode" ∧ (p.binaryFile.mode ≠ none ∨ value.asU32 = none) ∨
  "sha-".toList <+: key.toList ∧ (DigestRefused P p.binaryFile key value ∨
    ∃ path contents, Whole P p.binaryFile key value path contents ∧ placeRefuses pathPrefix p path contents)

/-- A report that cannot be written, or a command that fails although it may not. -/
def outputRefuses (V : ServiceInfoValues P) (c : CommandInProgress) (output : Output) : Prop :=
  ((c.returnStdout = true ∧ P.byteBuf.intoWriter output.stdout = none) ∨
    (c.returnStderr = true ∧ P.byteBuf.intoWriter output.stderr = none) ∨
    V.exitCode.intoWriter output.code = none) ∨
  c.mayFail = false ∧ output.code ≠ some 0

def executeRefuses (V : ServiceInfoValues P) (p : Progress M) : Prop :=
  ∃ command, p.command.command = some command ∧
    ((P.text.intoWriter command = none ∨ V.texts.intoWriter p.command.args = none) ∨
      ∀ output, (M.output p.machine command p.command.args).2 = some output → outputRefuses V p.command output)

def commandRefuses (V : ServiceInfoValues P) (p : Progress M) (key : String) (value : CborValue) : Prop :=
  key = "command" ∧ (p.command.command ≠ none ∨ value.asStr = none) ∨
  key = "args" ∧ value.asStrArray = none ∨
  (key = "may_fail" ∨ key = "return_stdout" ∨ key = "return_stderr") ∧ value.asBool = none ∨
  key = "execute" ∧ executeRefuses V p

/-- A field is missing, the machine does not bind the disk, or the report cannot be written. -/
def rebindRefuses (P : Platform) (p : Progress M) : Prop :=
  ∀ diskLabel, p.diskEncryption.diskLabel = some diskLabel → ∀ pin, p.diskEncryption.pin = some pin →
    ∀ config, p.diskEncryption.config = some config →
    (M.setup p.machine (.rebindClevis diskLabel pin config p.diskEncryption.reencrypt)).2 = .err () ∨
    (M.setup p.machine (.rebindClevis diskLabel pin config p.diskEncryption.reencrypt)).2 = .ok () ∧
      (P.text.intoWriter diskLabel = none ∨ P.bool.intoWriter true = none ∨
        P.bool.intoWriter p.diskEncryption.reencrypt = none)

def clevisRefuses (P : Platform) (p : Progress M) (key : String) (value : CborValue) : Prop :=
  key = "disk-label" ∧ (p.diskEncryption.diskLabel ≠ none ∨ value.asStr = none) ∨
  key = "pin" ∧ (p.diskEncryption.pin ≠ none ∨ value.asStr = none) ∨
  key = "config" ∧ (p.diskEncryption.config ≠ none ∨ value.asStr = none) ∨
  key = "reencrypt" ∧ value.asBool = none ∨
  key = "execute" ∧ rebindRefuses P p

/-- What an active module does not take. -/
def moduleRefuses (V : ServiceInfoValues P) (pathPrefix : Option String) (p : Progress M) (key : String)
    (value : CborValue) : ServiceInfoModule → Prop
  | .fedoraIot .sshKey => sshKeyRefuses key value
  | .fedoraIot .reboot => rebootRefuses key value
  | .redHatCom .subscriptionManager => rhsmRefuses key value
  | .fedoraIot .binaryFile => binaryFileRefuses P pathPrefix p key value
  | .fedoraIot .command => commandRefuses V p key value
  | .fedoraIot .diskEncryptionClevis => clevisRefuses P p key value
  | _ => False

def Refuses (V : ServiceInfoValues P) (pathPrefix : Option String) (p : Progress M) (entry : Entry) : Prop :=
  if entry.2.1 = "active" then entry.2.2.asBool = none
  else entry.1 ∉ p.activeModules ∨ moduleRefuses V pathPrefix p entry.2.1 entry.2.2 entry.1

theorem keep_err {r : Outcome ProcessError (Progress M)} : (∃ e, (keep p r).2 = .err e) ↔ ∃ e, r = .err e := by
  cases r with
  | ok q => simp [keep]
  | err e => simp [keep]
  | panic => simp [keep]

/-- A value that is read into a variable is refused for its type alone. -/
theorem read_err {α β : Type} {text : String} {read : Option α} {set : α → β} :
    (∃ e, (parsing text read >>= fun a => .ok (set a)) = .err e) ↔ read = none := by
  cases read with
  | none => simp [parsing, Outcome.ofOption]
  | some a => simp [parsing, Outcome.ofOption]

/-- One that may be set only once, also for coming again. -/
theorem read_once_err {α β : Type} {c : Prop} [Decidable c] {error : ProcessError} {text : String}
    {read : Option α} {set : α → β} :
    (∃ e, (Outcome.check c error >>= fun _ => parsing text read >>= fun a => .ok (set a)) = .err e) ↔
      ¬ c ∨ read = none := by
  by_cases h : c
  · simp only [h, not_true_eq_false, false_or]
    exact read_err
  · simp [Outcome.check, h]

theorem sshKeyEntry_err : (∃ e, sshKeyEntry p key value = .err e) ↔ sshKeyRefuses key value := by
  unfold sshKeyEntry sshKeyRefuses
  split
  next hkey => simpa [hkey] using read_err
  next husername =>
  split
  next hkey => simpa [hkey] using read_err
  next hpassword =>
  split
  next hkey => simpa [hkey] using read_err
  next hkeys => simp [husername, hpassword, hkeys]

theorem rebootEntry_err : (∃ e, rebootEntry p key value = .err e) ↔ rebootRefuses key value := by
  unfold rebootEntry rebootRefuses
  split
  next hkey => simpa [hkey] using read_err
  next hkey => simp [hkey]

theorem rhsmEntry_err : (∃ e, rhsmEntry p key value = .err e) ↔ rhsmRefuses key value := by
  unfold rhsmEntry rhsmRefuses
  split
  next hkey => simpa [hkey] using read_err
  next horganization =>
  split
  next hkey => simpa [hkey] using read_err
  next hactivation =>
  split
  next hkey => simpa [hkey] using read_err
  next hinsights => simp [horganization, hactivation, hinsights]

theorem not_sha_of_data (h : "data".toList <+: key.toList) : ¬ "sha-".toList <+: key.toList := by
  obtain ⟨rest, hrest⟩ := h
  rw [← hrest]
  simp

/-- A length of the right type is not refused, even when it stops the program. -/
theorem length_err {file : BinaryFileInProgress} {set : Nat → Bytes → Progress M} :
    (∃ e, (Outcome.check (file.length = none) (.repeated "binary file length" value) >>= fun _ =>
      parsing "Error parsing binary file length" value.asU64 >>= fun length =>
        withCapacity length >>= fun contents => .ok (set length contents)) = .err e) ↔
      file.length ≠ none ∨ value.asU64 = none := by
  cases hunset : file.length with
  | some length => simp [Outcome.check]
  | none =>
      cases hread : value.asU64 with
      | none => simp [Outcome.check, parsing, Outcome.ofOption]
      | some length =>
          by_cases hcapacity : isizeMax < length
          · simp [Outcome.check, parsing, Outcome.ofOption, withCapacity, hcapacity]
          · simp [Outcome.check, parsing, Outcome.ofOption, withCapacity, hcapacity]

theorem data_err {set : Bytes → Bytes → Progress M} :
    (∃ e, (Outcome.ofOption (.dataBeforeLength value) p.binaryFile.contents >>= fun contents =>
      parsing "Error parsing binary file data" value.asBytes >>= fun data => .ok (set contents data)) = .err e) ↔
      p.binaryFile.contents = none ∨ value.asBytes = none := by
  cases p.binaryFile.contents with
  | none => simp [Outcome.ofOption]
  | some contents => simpa [Outcome.ofOption] using read_err

/-! ## The digest -/

theorem hasher_ne_panic (shaType : String) : hasher shaType ≠ .panic := by
  unfold hasher
  split
  · simp
  split
  · simp
  · simp

/-- The comparison answers where the lengths agree, and fails where the values differ. -/
theorem compareData_err {h : Hash} {data : Bytes} : (∃ e, h.compareData P data = .err e) ↔
    ∀ md, h.hashType.messageDigest = some md → ∀ actual, P.hash md data = some actual →
      h.value.length = actual.length ∧ h.value ≠ actual := by
  unfold Hash.compareData
  cases hmd : h.hashType.messageDigest with
  | none => simp [Outcome.ofOption]
  | some md =>
  cases hactual : P.hash md data with
  | none => simp [Outcome.ofOption, hactual]
  | some actual =>
      simp only [Outcome.ofOption, Outcome.ok_bind, Option.some.injEq, forall_eq', hactual]
      unfold memcmpEq
      by_cases hlength : h.value.length = actual.length
      · by_cases hsame : h.value = actual
        · simp [hsame]
        · simp [hlength, hsame]
      · simp [hlength]

theorem checkFile_eq_ok {file : BinaryFileInProgress} {path : String} {contents : Bytes} :
    checkFile P file key value = .ok (path, contents) ↔ Whole P file key value path contents := by
  constructor
  · intro h
    obtain ⟨hpath, hlength, hcontents, hdigest⟩ := checkFile_ok h
    exact ⟨hpath, hlength, hcontents, hdigest⟩
  · rintro ⟨hpath, hlength, hcontents, hashType, digest, hnamed, hread, hdigestSize, hdigest⟩
    have hcompare := Hash.compareData_eq_ok.mpr hdigest
    simp [checkFile, parsing, Outcome.ofOption, Outcome.check, Hash.fromDigest, hread, hnamed, hdigestSize, hpath,
      hlength, hcontents, hcompare]

/-- What is left to check of a file whose digest has the form of its type. -/
theorem checkFile_opened {file : BinaryFileInProgress} {digest : Bytes} {hashType : HashType}
    (hread : value.asBytes = some digest) (hnamed : hasher (shaType key) = .ok hashType)
    (hsize : digest.length = hashType.digestSize) : checkFile P file key value = (do
      let path ← .ofOption (.shaBefore (shaType key) "name") file.path
      let length ← .ofOption (.shaBefore (shaType key) "length") file.length
      let contents ← file.contents.elim .panic .ok
      Outcome.check (contents.length = length) (.wrongLength path length contents.length)
      ((Hash.mk hashType digest).compareData P contents).mapErr (.invalidDigest path)
      .ok (path, contents)) := by
  have hdigest : Hash.fromDigest hashType digest = .ok ⟨hashType, digest⟩ := Hash.fromDigest_eq_ok.mpr ⟨hsize, rfl⟩
  rw [checkFile, hread]
  change (hasher (shaType key) >>= _) = _
  rw [hnamed]
  change ((Hash.fromDigest hashType digest).mapErr ProcessError.data >>= _) = _
  rw [hdigest]
  cases file.contents with
  | none => rfl
  | some contents => rfl

/-- Where digest, path and length are fine, the contents are refused. -/
theorem DigestRefused.wrong {file : BinaryFileInProgress} {digest : Bytes} {hashType : HashType} {path : String}
    {length : Nat} (h : DigestRefused P file key value) (hread : value.asBytes = some digest)
    (hnamed : hasher (shaType key) = .ok hashType) (hsize : digest.length = hashType.digestSize)
    (hpath : file.path = some path) (hlength : file.length = some length) :
    ∃ contents, file.contents = some contents ∧ (contents.length ≠ length ∨
      ∀ md, hashType.messageDigest = some md → ∀ actual, P.hash md contents = some actual →
        digest.length = actual.length ∧ digest ≠ actual) := by
  cases h with
  | type unread => cases hread.symm.trans unread
  | sha unknown => exact absurd hnamed (unknown _)
  | size named read wrong =>
      obtain rfl := Outcome.ok.inj (hnamed.symm.trans named)
      obtain rfl := Option.some.inj (hread.symm.trans read)
      exact absurd hsize wrong
  | early unset => simp [hpath, hlength] at unset
  | length announced collected wrong =>
      obtain rfl := Option.some.inj (hlength.symm.trans announced)
      exact ⟨_, collected, .inl wrong⟩
  | other named read collected wrong =>
      obtain rfl := Outcome.ok.inj (hnamed.symm.trans named)
      obtain rfl := Option.some.inj (hread.symm.trans read)
      exact ⟨_, collected, .inr wrong⟩

theorem checkFile_err {file : BinaryFileInProgress} :
    (∃ e, checkFile P file key value = .err e) ↔ DigestRefused P file key value := by
  cases hread : value.asBytes with
  | none => exact iff_of_true ⟨_, by rw [checkFile, hread]; rfl⟩ (.type hread)
  | some digest =>
  cases hnamed : hasher (shaType key) with
  | panic => exact absurd hnamed (hasher_ne_panic _)
  | err e =>
      refine iff_of_true ⟨e, ?_⟩ (.sha (by simp [hnamed]))
      simp [checkFile, parsing, Outcome.ofOption, hread, hnamed]
  | ok hashType =>
  by_cases hsize : digest.length = hashType.digestSize
  case neg =>
    refine iff_of_true ⟨.data (.inconsistentValue "Digest string is invalid length"), ?_⟩ (.size hnamed hread hsize)
    simp [checkFile, parsing, Outcome.ofOption, Hash.fromDigest, hread, hnamed, hsize]
  case pos =>
  rw [checkFile_opened hread hnamed hsize]
  cases hpath : file.path with
  | none => exact iff_of_true ⟨_, rfl⟩ (.early (.inl hpath))
  | some path =>
  cases hlength : file.length with
  | none => exact iff_of_true ⟨_, rfl⟩ (.early (.inr hlength))
  | some length =>
  have hnot (hcontents : ∀ contents, file.contents = some contents → contents.length = length ∧
      ¬ ∀ md, hashType.messageDigest = some md → ∀ actual, P.hash md contents = some actual →
        digest.length = actual.length ∧ digest ≠ actual) : ¬ DigestRefused P file key value := by
    intro hrefused
    obtain ⟨contents, hfile, hwrong⟩ := hrefused.wrong hread hnamed hsize hpath hlength
    obtain ⟨hwhole, hdiffers⟩ := hcontents contents hfile
    exact hwrong.elim (fun h => h hwhole) hdiffers
  cases hcontents : file.contents with
  | none => exact iff_of_false (by simp [Outcome.ofOption]) (hnot (by simp [hcontents]))
  | some contents =>
  by_cases hwhole : contents.length = length
  case neg =>
    refine iff_of_true ⟨.wrongLength path length contents.length, ?_⟩ (.length hlength hcontents hwhole)
    simp [Outcome.ofOption, Outcome.check, hwhole]
  case pos =>
  by_cases hcompare : ∃ e, (Hash.mk hashType digest).compareData P contents = .err e
  case pos =>
    obtain ⟨e, he⟩ := hcompare
    refine iff_of_true ⟨.invalidDigest path e, ?_⟩ (.other hnamed hread hcontents (compareData_err.mp ⟨e, he⟩))
    simp [Outcome.ofOption, Outcome.check, hwhole, he]
  case neg =>
    refine iff_of_false ?_ (hnot fun other hother => ?_)
    · simp only [Outcome.ofOption, Outcome.ok_bind, Option.elim_some, Outcome.check, hwhole, if_true]
      cases hresult : (Hash.mk hashType digest).compareData P contents with
      | ok _ => simp
      | err e => exact absurd ⟨e, hresult⟩ hcompare
      | panic => simp
    · obtain rfl := Option.some.inj (hcontents.symm.trans hother)
      exact ⟨hwhole, fun hdiffers => hcompare (compareData_err.mpr hdiffers)⟩

theorem destinationPath_cases (path : String) (pathPrefix : Option String) :
    (isAbsolute path = false ∧ ∃ e, destinationPath path pathPrefix = .err e) ∨
      (isAbsolute path = true ∧ ∃ destination, destinationPath path pathPrefix = .ok destination) := by
  unfold destinationPath
  cases isAbsolute path with
  | false => simp [Outcome.check]
  | true =>
      cases pathPrefix with
      | none => simp [Outcome.check]
      | some pathPrefix => simp [Outcome.check]

theorem deploy_err {path : String} {contents : Bytes} :
    (∃ e, (deploy pathPrefix path contents p.binaryFile.mode p).2 = .err e) ↔ placeRefuses pathPrefix p path contents := by
  unfold deploy placeRefuses
  rcases destinationPath_cases path pathPrefix with ⟨hrelative, e, he⟩ | ⟨habsolute, destination, hdestination⟩
  · simp [he, hrelative]
  · rw [hdestination, habsolute]
    simp only [Bool.true_eq_false, false_or, Outcome.ok.injEq, exists_eq_left']
    cases hparent : hasParent destination with
    | false => simp
    | true =>
        rcases M.createFile p.machine destination contents (p.binaryFile.mode.getD 0o600) with ⟨machine, _ | _⟩
        · simp
        · simp

theorem binaryFileEntry_err : (∃ e, (binaryFileEntry P pathPrefix p key value).2 = .err e) ↔
    binaryFileRefuses P pathPrefix p key value := by
  unfold binaryFileEntry binaryFileRefuses
  split
  next hkey => simpa [hkey] using keep_err.trans read_once_err
  next hname =>
  split
  next hkey => simpa [hkey] using keep_err.trans length_err
  next hlength =>
  split
  next hdata =>
    have hmode : key ≠ "mode" := by
      rintro rfl
      exact absurd hdata (by decide)
    simp only [hname, hlength, hdata, hmode, not_sha_of_data hdata, false_and, false_or, true_and, or_false]
    exact keep_err.trans data_err
  next hdata =>
  split
  next hkey => simpa [hkey] using keep_err.trans read_once_err
  next hmode =>
  split
  next hsha =>
    simp only [hname, hlength, hdata, hmode, hsha, false_and, false_or, true_and, ← checkFile_err, ← checkFile_eq_ok,
      ← deploy_err]
    cases hchecked : checkFile P p.binaryFile key value with
    | ok file =>
        obtain ⟨path, contents⟩ := file
        simp
    | err e => simp
    | panic => simp
  next hsha =>
    simp only [hname, hlength, hdata, hmode, hsha, false_and, or_self]
    simp

/-! ## Reports -/

/-- The first step answers, and then the second. -/
theorem bind_err {ε α β : Type} {x : Outcome ε α} {f : α → Outcome ε β} {c d : Prop} (hx : x ≠ .panic)
    (hfirst : (∃ e, x = .err e) ↔ c) (hsecond : ∀ a, (∃ e, f a = .err e) ↔ d) :
    (∃ e, (x >>= f) = .err e) ↔ c ∨ d := by
  rw [← hfirst]
  cases x with
  | ok a => simpa using hsecond a
  | err e => simp
  | panic => exact absurd rfl hx

theorem add_ne_panic (info : ServiceInfo) (module : ServiceInfoModule) (key : String) (value : Option Bytes) :
    info.add module key value ≠ .panic :=
  Outcome.bind_ne_panic (Outcome.ofOption_ne_panic _ _) fun _ _ h => by cases h

theorem add_err {info : ServiceInfo} {module : ServiceInfoModule} {value : Option Bytes} :
    (∃ e, info.add module key value = .err e) ↔ value = none := by
  unfold ServiceInfo.add
  cases value with
  | none => simp [Outcome.ofOption]
  | some bytes => simp [Outcome.ofOption]

theorem reportStart_ne_panic (command : String) (args : List String) (siOut : ServiceInfo) :
    reportStart V command args siOut ≠ .panic :=
  Outcome.bind_ne_panic (add_ne_panic _ _ _ _) fun _ _ => add_ne_panic _ _ _ _

theorem reportStart_err {command : String} {args : List String} (siOut : ServiceInfo) :
    (∃ e, reportStart V command args siOut = .err e) ↔
      P.text.intoWriter command = none ∨ V.texts.intoWriter args = none :=
  bind_err (add_ne_panic _ _ _ _) add_err fun _ => add_err

theorem reportWhen_ne_panic (asked : Bool) (key : String) (value : Option Bytes) (siOut : ServiceInfo) :
    reportWhen asked key value siOut ≠ .panic := by
  unfold reportWhen
  split
  · exact add_ne_panic _ _ _ _
  · simp

theorem reportWhen_err {asked : Bool} {value : Option Bytes} {siOut : ServiceInfo} :
    (∃ e, reportWhen asked key value siOut = .err e) ↔ asked = true ∧ value = none := by
  unfold reportWhen
  cases asked with
  | true => simpa using add_err
  | false => simp

theorem reportOutput_ne_panic (c : CommandInProgress) (output : Output) (siOut : ServiceInfo) :
    reportOutput V c output siOut ≠ .panic :=
  Outcome.bind_ne_panic (reportWhen_ne_panic _ _ _ _) fun _ _ =>
    Outcome.bind_ne_panic (reportWhen_ne_panic _ _ _ _) fun _ _ => add_ne_panic _ _ _ _

theorem reportOutput_err {c : CommandInProgress} {output : Output} (siOut : ServiceInfo) :
    (∃ e, reportOutput V c output siOut = .err e) ↔
      (c.returnStdout = true ∧ P.byteBuf.intoWriter output.stdout = none) ∨
      (c.returnStderr = true ∧ P.byteBuf.intoWriter output.stderr = none) ∨
      V.exitCode.intoWriter output.code = none :=
  bind_err (reportWhen_ne_panic _ _ _ _) reportWhen_err fun _ =>
    bind_err (reportWhen_ne_panic _ _ _ _) reportWhen_err fun _ => add_err

theorem execute_err : (∃ e, (execute V p).2 = .err e) ↔ executeRefuses V p := by
  unfold execute executeRefuses outputRefuses
  cases hcommand : p.command.command with
  | none => simp
  | some command =>
      simp only [Option.some.injEq, exists_eq_left']
      rw [← reportStart_err p.siOut]
      cases hstart : reportStart V command p.command.args p.siOut with
      | panic => exact absurd hstart (reportStart_ne_panic _ _ _)
      | err e => simp
      | ok siOut =>
          simp only [reduceCtorEq, exists_false, false_or]
          cases houtput : (M.output p.machine command p.command.args).2 with
          | none => simp
          | some output =>
              have hfailed : (p.command.mayFail = false ∧ output.code ≠ some 0) ↔
                  ¬ (p.command.mayFail = true ∨ output.code = some 0) := by simp
              simp only [Option.some.injEq, forall_eq']
              rw [← reportOutput_err siOut, hfailed]
              cases hreport : reportOutput V p.command output siOut with
              | panic => exact absurd hreport (reportOutput_ne_panic _ _ _)
              | err e => simp
              | ok siOut' =>
                  by_cases hpassed : p.command.mayFail = true ∨ output.code = some 0
                  · simp [hpassed]
                  · simp [hpassed]

theorem reportClevis_ne_panic (diskLabel : String) (reencrypt : Bool) (siOut : ServiceInfo) :
    reportClevis (P := P) diskLabel reencrypt siOut ≠ .panic :=
  Outcome.bind_ne_panic (add_ne_panic _ _ _ _) fun _ _ =>
    Outcome.bind_ne_panic (add_ne_panic _ _ _ _) fun _ _ => add_ne_panic _ _ _ _

theorem reportClevis_err {diskLabel : String} {reencrypt : Bool} (siOut : ServiceInfo) :
    (∃ e, reportClevis (P := P) diskLabel reencrypt siOut = .err e) ↔
      P.text.intoWriter diskLabel = none ∨ P.bool.intoWriter true = none ∨ P.bool.intoWriter reencrypt = none :=
  bind_err (add_ne_panic _ _ _ _) add_err fun _ =>
    bind_err (add_ne_panic _ _ _ _) add_err fun _ => add_err

theorem executeClevis_err : (∃ e, (executeClevis P p).2 = .err e) ↔ rebindRefuses P p := by
  unfold executeClevis rebindRefuses performSetup
  cases p.diskEncryption.diskLabel with
  | none => simp
  | some diskLabel =>
  cases p.diskEncryption.pin with
  | none => simp
  | some pin =>
  cases p.diskEncryption.config with
  | none => simp
  | some config =>
      simp only [Option.some.injEq, forall_eq']
      rcases M.setup p.machine (.rebindClevis diskLabel pin config p.diskEncryption.reencrypt) with
        ⟨machine, ⟨⟩ | ⟨⟩ | _⟩
      · simp only [reduceCtorEq, false_or, true_and]
        rw [keep_err, ← reportClevis_err p.siOut]
        cases hreport : reportClevis (P := P) diskLabel p.diskEncryption.reencrypt p.siOut with
        | ok siOut => simp [Outcome.bind]
        | err e => simp [Outcome.bind]
        | panic => simp [Outcome.bind]
      · simp
      · simp

theorem commandEntry_err : (∃ e, (commandEntry V p key value).2 = .err e) ↔ commandRefuses V p key value := by
  unfold commandEntry commandRefuses
  split
  next hkey => simpa [hkey] using keep_err.trans read_once_err
  next hcommand =>
  split
  next hkey => simpa [hkey] using keep_err.trans read_err
  next hargs =>
  split
  next hkey => simpa [hkey] using keep_err.trans read_err
  next hmayFail =>
  split
  next hkey => simpa [hkey] using keep_err.trans read_err
  next hstdout =>
  split
  next hkey => simpa [hkey] using keep_err.trans read_err
  next hstderr =>
  split
  next hkey => simpa [hkey] using execute_err
  next hexecute => simp [hcommand, hargs, hmayFail, hstdout, hstderr, hexecute]

theorem clevisEntry_err : (∃ e, (clevisEntry P p key value).2 = .err e) ↔ clevisRefuses P p key value := by
  unfold clevisEntry clevisRefuses
  split
  next hkey => simpa [hkey] using keep_err.trans read_once_err
  next hdiskLabel =>
  split
  next hkey => simpa [hkey] using keep_err.trans read_once_err
  next hpin =>
  split
  next hkey => simpa [hkey] using keep_err.trans read_once_err
  next hconfig =>
  split
  next hkey => simpa [hkey] using keep_err.trans read_err
  next hreencrypt =>
  split
  next hkey => simpa [hkey] using executeClevis_err
  next hexecute => simp [hdiskLabel, hpin, hconfig, hreencrypt, hexecute]

theorem activeEntry_err {module : ServiceInfoModule} :
    (∃ e, activeEntry p module value = .err e) ↔ value.asBool = none := by
  unfold activeEntry
  cases value.asBool with
  | none => simp [parsing, Outcome.ofOption]
  | some b =>
      cases b with
      | true => simp [parsing, Outcome.ofOption]
      | false => simp [parsing, Outcome.ofOption]

theorem processEntry_err {entry : Entry} :
    (∃ e, (processEntry V pathPrefix p entry.1 entry.2.1 entry.2.2).2 = .err e) ↔ Refuses V pathPrefix p entry := by
  obtain ⟨module, key, value⟩ := entry
  unfold processEntry Refuses
  dsimp only
  split
  · exact keep_err.trans activeEntry_err
  split
  next hactive => simp [hactive]
  next hactive =>
  rw [not_not] at hactive
  simp only [hactive, not_true_eq_false, false_or]
  unfold moduleRefuses
  split
  · exact keep_err.trans sshKeyEntry_err
  · exact keep_err.trans rebootEntry_err
  · exact keep_err.trans rhsmEntry_err
  · exact binaryFileEntry_err
  · exact commandEntry_err
  · exact clevisEntry_err
  · simp

/-! ## The whole -/

theorem processEntries_err {es : List Entry} {start : Progress M} :
    (∃ e, (processEntries V pathPrefix es start).2 = .err e) ↔
      ∃ before entry after q, es = before ++ entry :: after ∧
        processEntries V pathPrefix before start = (q, .ok ()) ∧ Refuses V pathPrefix q entry := by
  constructor
  · rintro ⟨e, he⟩
    obtain ⟨before, entry, after, q, hsplit, hbefore, hentry⟩ := (processEntries_failed (by simp)).mp he
    exact ⟨before, entry, after, q, hsplit, hbefore, processEntry_err.mp ⟨e, hentry⟩⟩
  · rintro ⟨before, entry, after, q, hsplit, hbefore, hrefuses⟩
    obtain ⟨e, he⟩ := processEntry_err.mpr hrefuses
    exact ⟨e, (processEntries_failed (by simp)).mpr ⟨before, entry, after, q, hsplit, hbefore, he⟩⟩

/-- An entry is refused behind accepted ones, or what is left to do behind all of them. -/
def Stopped (V : ServiceInfoValues P) (pathPrefix : Option String) (machine : M.State) (siIn siOut : ServiceInfo) :
    Prop :=
  (∃ before entry after p, entriesOf V siIn = before ++ entry :: after ∧
    Reached V pathPrefix machine siOut before p ∧ Refuses V pathPrefix p entry) ∨
  ∃ p, Reached V pathPrefix machine siOut (entriesOf V siIn) p ∧ SetupRefuses p

theorem processServiceinfoIn_err {machine : M.State} {siIn siOut : ServiceInfo} :
    (∃ e, (processServiceinfoIn V pathPrefix machine siIn siOut).2 = .err e) ↔
      Stopped V pathPrefix machine siIn siOut := by
  unfold Stopped Reached
  rw [← processEntries_err]
  rcases hentries : processEntries V pathPrefix (entriesOf V siIn) (.new machine siOut) with ⟨p, ⟨⟩ | e | _⟩
  case err => simp [processServiceinfoIn, hentries]
  case panic => simp [processServiceinfoIn, hentries]
  case ok =>
    have hreached : Reached V pathPrefix machine siOut (entriesOf V siIn) p := hentries
    rw [← answerOf_eq_err, hreached.finishes.err_iff]
    simp

end FidoOnboard.Client
