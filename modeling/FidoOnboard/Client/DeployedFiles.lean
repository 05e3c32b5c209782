import FidoOnboard.Client.ServiceInfoSteps
import FidoOnboard.DataFormats.ReferenceJson

/-!
# Deployed files are what was announced

A file is collected from entries in any order, between entries of other modules. What
has been collected is read off the entries since the last deployment alone.
-/
namespace FidoOnboard.Client

variable {M : Machine} {P : Platform} {V : ServiceInfoValues P} {pathPrefix : Option String}
  {machine : M.State} {siOut : ServiceInfo} {p p' : Progress M} {es : List Entry} {entry : Entry}

/-! ## What the entries say -/

/-- Whether the last word on the module was that it is active. -/
def isActive (module : ServiceInfoModule) (es : List Entry) : Bool :=
  es.foldl (fun active e =>
    if e.1 = module ∧ e.2.1 = "active" then decide (e.2.2.asBool = some true) else active) false

/-- The values of the entries for files with such a key. -/
def valuesOf (named : String → Bool) (es : List Entry) : List CborValue :=
  (es.filter fun e => decide (e.1 = fileModule) && named e.2.1).map fun e => e.2.2

def isName (key : String) : Bool := decide (key = "name")

def isLength (key : String) : Bool := decide (key = "length")

def isData (key : String) : Bool := decide ("data".toList <+: key.toList)

def isMode (key : String) : Bool := decide (key = "mode")

def isSha (key : String) : Bool := decide ("sha-".toList <+: key.toList)

theorem isActive_concat (module : ServiceInfoModule) (es : List Entry) (entry : Entry) :
    isActive module (es ++ [entry]) =
      if entry.1 = module ∧ entry.2.1 = "active" then decide (entry.2.2.asBool = some true)
      else isActive module es := by
  simp [isActive]

theorem valuesOf_concat {named : String → Bool} (hmodule : entry.1 = fileModule) (hnamed : named entry.2.1 = true) :
    valuesOf named (es ++ [entry]) = valuesOf named es ++ [entry.2.2] := by
  simp [valuesOf, hmodule, hnamed]

theorem valuesOf_skip {named : String → Bool} (h : ¬ (entry.1 = fileModule ∧ named entry.2.1 = true)) :
    valuesOf named (es ++ [entry]) = valuesOf named es := by
  have hfilter : (decide (entry.1 = fileModule) && named entry.2.1) = false := by
    by_cases hmodule : entry.1 = fileModule
    · simpa [hmodule] using h
    · simp [hmodule]
  simp [valuesOf, hfilter]

/-- The modules that the loop holds as active. -/
theorem Reached.active (h : Reached V pathPrefix machine siOut es p) (module : ServiceInfoModule) :
    module ∈ p.activeModules ↔ isActive module es = true := by
  induction es using List.reverseRecOn generalizing p with
  | nil =>
      obtain rfl := (Prod.mk.inj h).1
      simp [Progress.new, isActive]
  | append_singleton es entry ih =>
      obtain ⟨q, hq, hstep⟩ := reached_concat.mp h
      rw [isActive_concat]
      cases processEntry_step hstep with
      | @active b key read =>
          by_cases hmodule : entry.1 = module
          · subst hmodule
            cases b with
            | true => simp [key, read]
            | false => simp [key, read]
          · have hother : ¬ (entry.1 = module ∧ entry.2.1 = "active") := fun hand => hmodule hand.1
            rw [if_neg hother, ← ih hq]
            cases b with
            | true => simp [Ne.symm hmodule]
            | false => simp [Ne.symm hmodule]
      | elsewhere key _ _ frame =>
          rw [if_neg fun hand => key hand.2, ← ih hq, frame.activeModules]
      | file key _ _ step =>
          rw [if_neg fun hand => key hand.2, ← ih hq, step.activeModules]

/-- An accepted entry for files found its module active. -/
theorem Reached.active_at (h : Reached V pathPrefix machine siOut es p) {before after : List Entry}
    (hsplit : es = before ++ entry :: after) (hmodule : entry.1 = fileModule) (hkey : entry.2.1 ≠ "active") :
    isActive fileModule before = true := by
  subst hsplit
  rw [← List.singleton_append, ← List.append_assoc] at h
  obtain ⟨q', hq'⟩ := h.of_append
  obtain ⟨q, hq, hstep⟩ := reached_concat.mp hq'
  rw [← hq.active fileModule]
  cases processEntry_step hstep with
  | active key => exact absurd key hkey
  | elsewhere _ other => exact absurd hmodule other
  | file _ _ active => exact active

/-! ## What is collected -/

/-- A field is set by the only one of these values, or by none. -/
def Only {α : Type} (read : CborValue → Option α) (values : List CborValue) : Option α → Prop
  | none => values = []
  | some a => ∃ value, values = [value] ∧ read value = some a

/-- The bytes are those of all the values, in order. -/
def Joined (values : List CborValue) (contents : Bytes) : Prop :=
  ∃ chunks, List.Forall₂ (fun value chunk => value.asBytes = some chunk) values chunks ∧ contents = chunks.flatten

/-- The only length among these entries, and the data behind it. -/
def Measured (es : List Entry) (length : Nat) (contents : Bytes) : Prop :=
  ∃ before value after, es = before ++ (fileModule, "length", value) :: after ∧
    valuesOf isLength es = [value] ∧ value.asU64 = some length ∧ Joined (valuesOf isData after) contents

/-- What is known of the size, and the data that has come in for it. -/
def Sized (es : List Entry) : Option Nat → Option Bytes → Prop
  | none, contents => valuesOf isLength es = [] ∧ contents = none
  | some length, contents => ∃ bytes, contents = some bytes ∧ Measured es length bytes

/-- The file that is being collected, read off the entries since the last deployment. -/
structure Collected (es : List Entry) (file : BinaryFileInProgress) : Prop where
  name : Only CborValue.asStr (valuesOf isName es) file.path
  mode : Only CborValue.asU32 (valuesOf isMode es) file.mode
  size : Sized es file.length file.contents

theorem collected_nil : Collected [] .new := ⟨rfl, rfl, rfl, rfl⟩

section

variable {α : Type} {read : CborValue → Option α} {named : String → Bool}

theorem Only.skip {a : Option α} (h : Only read (valuesOf named es) a)
    (hother : ¬ (entry.1 = fileModule ∧ named entry.2.1 = true)) : Only read (valuesOf named (es ++ [entry])) a := by
  rw [valuesOf_skip hother]
  exact h

theorem Only.first {a : α} (h : Only read (valuesOf named es) none) (hmodule : entry.1 = fileModule)
    (hnamed : named entry.2.1 = true) (hread : read entry.2.2 = some a) :
    Only read (valuesOf named (es ++ [entry])) (some a) := by
  have hnone : valuesOf named es = [] := h
  rw [valuesOf_concat hmodule hnamed, hnone]
  exact ⟨entry.2.2, rfl, hread⟩

end

theorem Joined.concat {values : List CborValue} {contents data : Bytes} {value : CborValue}
    (h : Joined values contents) (hread : value.asBytes = some data) :
    Joined (values ++ [value]) (contents ++ data) := by
  obtain ⟨chunks, hchunks, rfl⟩ := h
  exact ⟨chunks ++ [data], List.rel_append hchunks (.cons hread .nil), by simp⟩

/-- An entry that is neither a length nor data leaves what is measured. -/
theorem Sized.skip {length : Option Nat} {contents : Option Bytes} (h : Sized es length contents)
    (hlength : ¬ (entry.1 = fileModule ∧ isLength entry.2.1 = true))
    (hdata : ¬ (entry.1 = fileModule ∧ isData entry.2.1 = true)) : Sized (es ++ [entry]) length contents := by
  cases length with
  | none => exact ⟨(valuesOf_skip hlength).trans h.1, h.2⟩
  | some length =>
      obtain ⟨bytes, hbytes, before, value, after, rfl, honly, hread, hjoined⟩ := h
      refine ⟨bytes, hbytes, before, value, after ++ [entry], by simp, (valuesOf_skip hlength).trans honly, hread, ?_⟩
      rw [valuesOf_skip hdata]
      exact hjoined

/-- Data goes behind what is there. -/
theorem Sized.data {length : Option Nat} {contents data : Bytes} (h : Sized es length (some contents))
    (hmodule : entry.1 = fileModule) (hlength : ¬ (entry.1 = fileModule ∧ isLength entry.2.1 = true))
    (hdata : isData entry.2.1 = true) (hread : entry.2.2.asBytes = some data) :
    Sized (es ++ [entry]) length (some (contents ++ data)) := by
  cases length with
  | none => cases h.2
  | some length =>
      obtain ⟨bytes, hbytes, before, value, after, rfl, honly, hvalue, hjoined⟩ := h
      obtain rfl := Option.some.inj hbytes
      refine ⟨_, rfl, before, value, after ++ [entry], by simp, (valuesOf_skip hlength).trans honly, hvalue, ?_⟩
      rw [valuesOf_concat hmodule hdata]
      exact hjoined.concat hread

/-- Nothing is collected before the length. -/
theorem Sized.length {value : CborValue} {length : Nat} {contents : Option Bytes} (h : Sized es none contents)
    (hread : value.asU64 = some length) : Sized (es ++ [(fileModule, "length", value)]) (some length) (some []) := by
  refine ⟨[], rfl, es, value, [], rfl, ?_, hread, [], .nil, rfl⟩
  rw [valuesOf_concat rfl rfl, h.1]
  rfl

theorem Collected.skip {file : BinaryFileInProgress} (h : Collected es file)
    (hother : ∀ named ∈ [isName, isLength, isData, isMode], ¬ (entry.1 = fileModule ∧ named entry.2.1 = true)) :
    Collected (es ++ [entry]) file where
  name := h.name.skip (hother isName (by simp))
  mode := h.mode.skip (hother isMode (by simp))
  size := h.size.skip (hother isLength (by simp)) (hother isData (by simp))

/-! ## One entry -/

/-- The keys of one kind are not of another. -/
theorem isData_other {key : String} (h : "data".toList <+: key.toList) :
    isName key = false ∧ isLength key = false ∧ isMode key = false ∧ isSha key = false := by
  obtain ⟨rest, hrest⟩ := h
  have hne (other : String) (hd : ¬ "data".toList <+: other.toList) : key ≠ other := by
    rintro rfl
    exact hd ⟨rest, hrest⟩
  refine ⟨decide_eq_false (hne _ (by decide)), decide_eq_false (hne _ (by decide)),
    decide_eq_false (hne _ (by decide)), decide_eq_false ?_⟩
  rw [← hrest]
  simp

theorem isFileKey_other {key : String} (h : isFileKey key = false) :
    isName key = false ∧ isLength key = false ∧ isData key = false ∧ isMode key = false ∧ isSha key = false := by
  have hnone := of_decide_eq_false h
  simp only [not_or] at hnone
  exact ⟨decide_eq_false hnone.1, decide_eq_false hnone.2.1, decide_eq_false hnone.2.2.1,
    decide_eq_false hnone.2.2.2.1, decide_eq_false hnone.2.2.2.2⟩

/-- An entry that is not the last of a file. -/
theorem FileStep.collected {key : String} {value : CborValue} (hstep : FileStep P pathPrefix p key value p')
    (h : Collected es p.binaryFile) (hsha : isSha key = false) :
    Collected (es ++ [(fileModule, key, value)]) p'.binaryFile := by
  cases hstep with
  | name unset read =>
      have hname := h.name
      rw [unset] at hname
      exact ⟨hname.first rfl rfl read, h.mode.skip (by simp [isMode]),
        h.size.skip (by simp [isLength]) (by simp [isData])⟩
  | length unset read =>
      have hsize := h.size
      rw [unset] at hsize
      exact ⟨h.name.skip (by simp [isName]), h.mode.skip (by simp [isMode]), hsize.length read⟩
  | data named collected read =>
      obtain ⟨hname, hlength, hmode, -⟩ := isData_other named
      have hsize := h.size
      rw [collected] at hsize
      exact ⟨h.name.skip (by simp [hname]), h.mode.skip (by simp [hmode]),
        hsize.data rfl (by simp [hlength]) (decide_eq_true named) read⟩
  | mode unset read =>
      have hmode := h.mode
      rw [unset] at hmode
      exact ⟨h.name.skip (by simp [isName]), hmode.first rfl rfl read,
        h.size.skip (by simp [isLength]) (by simp [isData])⟩
  | sha named => exact absurd (decide_eq_true named) (by simpa [isSha] using hsha)
  | other unnamed =>
      obtain ⟨hname, hlength, hdata, hmode, -⟩ := isFileKey_other unnamed
      exact h.skip (by simp [hname, hlength, hdata, hmode])

/-- The last entry of a file; the next one starts from nothing. -/
theorem FileStep.whole {key : String} {value : CborValue} (hstep : FileStep P pathPrefix p key value p')
    (hsha : isSha key = true) :
    ∃ path contents destination, checkFile P p.binaryFile key value = .ok (path, contents) ∧
      p'.binaryFile = .new ∧
      p'.actions = p.actions ++ [.deployed destination contents (p.binaryFile.mode.getD 0o600)] := by
  cases hstep with
  | name => exact absurd hsha (by decide)
  | length => exact absurd hsha (by decide)
  | data named => exact absurd hsha (by simp [(isData_other named).2.2.2])
  | mode => exact absurd hsha (by decide)
  | sha named checked deployed =>
      obtain ⟨destination, _, _, rfl⟩ := deploy_ok deployed
      exact ⟨_, _, destination, checked, rfl, rfl⟩
  | other unnamed => exact absurd hsha (by simp [(isFileKey_other unnamed).2.2.2.2])

/-! ## All entries so far -/

/-- The entry behind these is one that calls `deploy`. -/
def DeploysAt (V : ServiceInfoValues P) (pathPrefix : Option String) (machine : M.State) (siOut : ServiceInfo)
    (es : List Entry) (entry : Entry) : Prop :=
  ∃ p path contents, Reached V pathPrefix machine siOut es p ∧ Calls P p entry path contents

/-- `since` are the entries behind the last call of `deploy`, or all of them. -/
structure SinceDeploy (V : ServiceInfoValues P) (pathPrefix : Option String) (machine : M.State)
    (siOut : ServiceInfo) (earlier since : List Entry) : Prop where
  start : earlier = [] ∨ ∃ es entry, earlier = es ++ [entry] ∧ DeploysAt V pathPrefix machine siOut es entry
  without : ∀ es entry rest, since = es ++ entry :: rest →
    ¬ DeploysAt V pathPrefix machine siOut (earlier ++ es) entry

theorem SinceDeploy.concat {earlier since : List Entry} (h : SinceDeploy V pathPrefix machine siOut earlier since)
    (hentry : ¬ DeploysAt V pathPrefix machine siOut (earlier ++ since) entry) :
    SinceDeploy V pathPrefix machine siOut earlier (since ++ [entry]) where
  start := h.start
  without := by
    intro es e rest hsplit
    rcases List.eq_nil_or_concat rest with rfl | ⟨rest, last, rfl⟩
    · obtain ⟨rfl, hlast⟩ := List.append_inj' hsplit rfl
      obtain rfl := List.singleton_inj.mp hlast
      exact hentry
    · rw [List.concat_eq_append, ← List.cons_append, ← List.append_assoc] at hsplit
      exact h.without es e rest (List.append_inj' hsplit rfl).1

theorem not_deploysAt (h : ¬ (entry.1 = fileModule ∧ isSha entry.2.1 = true)) :
    ¬ DeploysAt V pathPrefix machine siOut es entry := by
  rintro ⟨_, _, _, _, hcalls⟩
  exact h ⟨hcalls.module, decide_eq_true hcalls.named⟩

/-- Whatever came before the last deployment, the file is read off what came since. -/
theorem Reached.collected (h : Reached V pathPrefix machine siOut es p) : ∃ earlier since,
    es = earlier ++ since ∧ SinceDeploy V pathPrefix machine siOut earlier since ∧
      Collected since p.binaryFile := by
  induction es using List.reverseRecOn generalizing p with
  | nil =>
      obtain rfl := (Prod.mk.inj h).1
      exact ⟨[], [], rfl, ⟨.inl rfl, by simp⟩, collected_nil⟩
  | append_singleton es entry ih =>
      obtain ⟨q, hq, hstep⟩ := reached_concat.mp h
      obtain ⟨earlier, since, rfl, hsince, hcollected⟩ := ih hq
      have hgrow : ¬ (entry.1 = fileModule ∧ isSha entry.2.1 = true) → Collected (since ++ [entry]) p.binaryFile →
          ∃ earlier' since', earlier ++ since ++ [entry] = earlier' ++ since' ∧
            SinceDeploy V pathPrefix machine siOut earlier' since' ∧ Collected since' p.binaryFile :=
        fun hno hcollected' =>
          ⟨earlier, since ++ [entry], List.append_assoc .., hsince.concat (not_deploysAt hno), hcollected'⟩
      cases processEntry_step hstep with
      | active key =>
          have hother : ∀ named ∈ [isName, isLength, isData, isMode], ¬ (entry.1 = fileModule ∧ named entry.2.1 = true) := by
            rw [key]
            simp [isName, isLength, isData, isMode]
          exact hgrow (by rw [key]; simp [isSha]) (hcollected.skip hother)
      | elsewhere _ other _ frame =>
          refine hgrow (fun hand => other hand.1) ?_
          rw [frame.binaryFile]
          exact hcollected.skip fun _ _ hand => other hand.1
      | file _ module active step =>
          obtain ⟨_, key, value⟩ := entry
          obtain rfl : _ = fileModule := module
          cases hsha : isSha key with
          | false => exact hgrow (by simp [hsha]) (step.collected hcollected hsha)
          | true =>
              obtain ⟨path, contents, -, hchecked, hnew, -⟩ := step.whole hsha
              have hcalls : Calls P q (fileModule, key, value) path contents :=
                ⟨rfl, active, of_decide_eq_true hsha, hchecked⟩
              refine ⟨earlier ++ since ++ [(fileModule, key, value)], [], (List.append_nil _).symm, ?_, ?_⟩
              · exact ⟨.inr ⟨earlier ++ since, _, rfl, q, path, contents, hq, hcalls⟩, by simp⟩
              · rw [hnew]
                exact collected_nil

/-! ## Calls of `deploy` -/

/-- The entry ends in the call, and in nothing else that reaches the system. -/
theorem Calls.processEntry_eq {path : String} {contents : Bytes} (h : Calls P p entry path contents)
    (V : ServiceInfoValues P) (pathPrefix : Option String) :
    processEntry V pathPrefix p entry.1 entry.2.1 entry.2.2 =
      deploy pathPrefix path contents p.binaryFile.mode p := by
  obtain ⟨module, key, value⟩ := entry
  obtain rfl : module = fileModule := h.module
  have hsha : isSha key = true := decide_eq_true h.named
  have hne (other : String) (hother : isSha other = false) : key ≠ other := by
    rintro rfl
    rw [hsha] at hother
    cases hother
  have hdata : ¬ "data".toList <+: key.toList := by
    intro hdata
    rw [(isData_other hdata).2.2.2] at hsha
    cases hsha
  rw [processEntry_file V pathPrefix (hne _ (by decide)) h.active]
  unfold binaryFileEntry
  rw [if_neg (hne _ (by decide)), if_neg (hne _ (by decide)), if_neg hdata, if_neg (hne _ (by decide)), if_pos h.named,
    h.checked]

/-- What a call of `deploy` is given, in terms of the entries since the one before. -/
structure Announced (P : Platform) (since : List Entry) (entry : Entry) (path : String) (contents : Bytes)
    (mode : UInt32) : Prop where
  name : ∃ value, valuesOf isName since = [value] ∧ value.asStr = some path
  size : Measured since contents.length contents
  digest : ∃ hashType digest, hasher (shaType entry.2.1) = .ok hashType ∧ entry.2.2.asBytes = some digest ∧
    Hash.IsDigest P ⟨hashType, digest⟩ contents
  permissions : (valuesOf isMode since = [] ∧ mode = 0o600) ∨
    ∃ value, valuesOf isMode since = [value] ∧ value.asU32 = some mode

theorem Collected.announced {path : String} {contents : Bytes} (h : Collected es p.binaryFile)
    (hcalls : Calls P p entry path contents) :
    Announced P es entry path contents (p.binaryFile.mode.getD 0o600) := by
  obtain ⟨hpath, hlength, hcontents, hashType, digest, hnamed, hread, -, hdigest⟩ := checkFile_ok hcalls.checked
  obtain ⟨hname, hmode, hsize⟩ := h
  rw [hpath] at hname
  rw [hlength, hcontents] at hsize
  obtain ⟨bytes, hbytes, hmeasured⟩ := hsize
  obtain rfl := Option.some.inj hbytes
  refine ⟨hname, hmeasured, ⟨hashType, digest, hnamed, hread, hdigest⟩, ?_⟩
  cases hset : p.binaryFile.mode with
  | none =>
      rw [hset] at hmode
      exact .inl ⟨hmode, rfl⟩
  | some mode =>
      rw [hset] at hmode
      exact .inr hmode

/-- A call of `deploy` while this service info is processed: the entries before it were accepted. -/
structure DeployCall (V : ServiceInfoValues P) (pathPrefix : Option String) (machine : M.State)
    (siIn siOut : ServiceInfo) where
  before : List Entry
  entry : Entry
  after : List Entry
  progress : Progress M
  path : String
  contents : Bytes
  entries : entriesOf V siIn = before ++ entry :: after
  reached : Reached V pathPrefix machine siOut before progress
  calls : Calls P progress entry path contents

variable {siIn : ServiceInfo}

def DeployCall.mode (call : DeployCall V pathPrefix machine siIn siOut) : UInt32 :=
  call.progress.binaryFile.mode.getD 0o600

theorem deploy_announced (call : DeployCall V pathPrefix machine siIn siOut) : ∃ earlier since,
    call.before = earlier ++ since ∧ SinceDeploy V pathPrefix machine siOut earlier since ∧
      Announced P since call.entry call.path call.contents call.mode ∧
      isActive fileModule call.before = true ∧
      ∀ es entry rest, since = es ++ entry :: rest → entry.1 = fileModule → entry.2.1 ≠ "active" →
        isActive fileModule (earlier ++ es) = true := by
  obtain ⟨earlier, since, hbefore, hsince, hcollected⟩ := call.reached.collected
  refine ⟨earlier, since, hbefore, hsince, hcollected.announced call.calls, ?_, ?_⟩
  · exact (call.reached.active fileModule).mp call.calls.active
  · intro es entry rest hsplit hmodule hkey
    have hsplit' : call.before = (earlier ++ es) ++ entry :: rest := by rw [hbefore, hsplit, List.append_assoc]
    exact call.reached.active_at hsplit' hmodule hkey

section

open Reference

/-- A system that takes every file. -/
def plainMachine : Machine where
  State := Unit
  createFile _ _ _ _ := ((), true)
  output _ _ _ := ((), none)
  setup _ _ := ((), .ok ())

/-- A file of two bytes in two parts, with its mode in between. -/
def motd (mode : Int) : ServiceInfo :=
  [("org.fedoraiot.binaryfile:active", valueWire.write (.scalar (.bool true))),
    ("org.fedoraiot.binaryfile:name", valueWire.write (.scalar (.text "/etc/motd"))),
    ("org.fedoraiot.binaryfile:length", valueWire.write (.scalar (.integer 2))),
    ("org.fedoraiot.binaryfile:data001", valueWire.write (.scalar (.bytes [0x68]))),
    ("org.fedoraiot.binaryfile:mode", valueWire.write (.scalar (.integer mode))),
    ("org.fedoraiot.binaryfile:data002", valueWire.write (.scalar (.bytes [0x69]))),
    ("org.fedoraiot.binaryfile:sha-256", valueWire.write (.scalar (.bytes (digest .sha256 [0x68, 0x69]))))]

def motdBefore (mode : Int) : List Entry :=
  [(fileModule, "active", .bool true), (fileModule, "name", .text "/etc/motd".toList),
    (fileModule, "length", .integer 2), (fileModule, "data001", .bytes [0x68]),
    (fileModule, "mode", .integer mode), (fileModule, "data002", .bytes [0x69])]

def motdDigest : Entry := (fileModule, "sha-256", .bytes (digest .sha256 [0x68, 0x69]))

/-- What has been collected when the digest comes. -/
def motdProgress (mode : Int) : Progress plainMachine :=
  (processEntries (jsonValues .release) none (motdBefore mode) (.new () [])).1

theorem motd_reached (mode : Int) :
    Reached (M := plainMachine) (jsonValues .release) none () [] (motdBefore mode) (motdProgress mode) := rfl

theorem motd_calls (mode : Int) :
    Calls (jsonPlatform .release) (motdProgress mode) motdDigest "/etc/motd" [0x68, 0x69] where
  module := rfl
  active := (List.mem_cons_self : fileModule ∈ [fileModule])
  named := by decide +kernel
  checked := rfl

/-- With a mode of 32 bits, and with one that is wider. -/
theorem entriesOf_motd :
    entriesOf (jsonValues .release) (motd 0o644) = motdBefore 0o644 ++ [motdDigest] ∧
    entriesOf (jsonValues .release) (motd 0x1000001a4) = motdBefore 0x1000001a4 ++ [motdDigest] :=
  ⟨rfl, rfl⟩

def motdCall : DeployCall (M := plainMachine) (jsonValues .release) none () (motd 0o644) [] where
  before := motdBefore 0o644
  entry := motdDigest
  after := []
  progress := motdProgress 0o644
  path := "/etc/motd"
  contents := [0x68, 0x69]
  entries := entriesOf_motd.1
  reached := motd_reached 0o644
  calls := motd_calls 0o644

theorem deploy_announced_motd : ∃ earlier since, motdCall.before = earlier ++ since ∧
    SinceDeploy (M := plainMachine) (jsonValues .release) none () [] earlier since ∧
    Announced (jsonPlatform .release) since motdDigest "/etc/motd" [0x68, 0x69] 0o644 ∧
    isActive fileModule motdCall.before = true ∧
    ∀ es entry rest, since = es ++ entry :: rest → entry.1 = fileModule → entry.2.1 ≠ "active" →
      isActive fileModule (earlier ++ es) = true :=
  deploy_announced motdCall

/-- A mode that is not one of 32 bits is cut off. -/
def wideCall : DeployCall (M := plainMachine) (jsonValues .release) none () (motd 0x1000001a4) [] where
  before := motdBefore 0x1000001a4
  entry := motdDigest
  after := []
  progress := motdProgress 0x1000001a4
  path := "/etc/motd"
  contents := [0x68, 0x69]
  entries := entriesOf_motd.2
  reached := motd_reached 0x1000001a4
  calls := motd_calls 0x1000001a4

theorem wide_mode_deploys : SinceDeploy (M := plainMachine) (jsonValues .release) none () [] [] wideCall.before ∧
    valuesOf isMode wideCall.before = [.integer 0x1000001a4] ∧ wideCall.mode = 0o644 ∧
    (0x1000001a4 : Int) ≠ wideCall.mode.toNat := by
  refine ⟨⟨.inl rfl, ?_⟩, rfl, rfl, by decide +kernel⟩
  intro es entry rest hsplit
  have hnone : ∀ e ∈ wideCall.before, ¬ (e.1 = fileModule ∧ isSha e.2.1 = true) := by decide +kernel
  exact not_deploysAt (hnone entry (by rw [hsplit]; simp))

end

/-! ## No file but through a call -/

/-- Accepted or not, an entry puts a file in place by a call of `deploy`, or not at all. -/
theorem processEntry_deployed (V : ServiceInfoValues P) (pathPrefix : Option String) (p : Progress M)
    (entry : Entry) :
    (processEntry V pathPrefix p entry.1 entry.2.1 entry.2.2).1.actions.filter Action.isDeployed =
        p.actions.filter Action.isDeployed ∨
      ∃ path contents destination, Calls P p entry path contents ∧ destinationPath path pathPrefix = .ok destination ∧
        (processEntry V pathPrefix p entry.1 entry.2.1 entry.2.2).1.actions =
          p.actions ++ [.deployed destination contents (p.binaryFile.mode.getD 0o600)] := by
  obtain ⟨module, key, value⟩ := entry
  by_cases hok : (processEntry V pathPrefix p module key value).2 = .ok ()
  case neg => exact .inl (processEntry_failed hok)
  case pos =>
    have hstep : EntryStep P pathPrefix p (module, key, value) (processEntry V pathPrefix p module key value).1 :=
      processEntry_step (Prod.ext rfl hok)
    generalize (processEntry V pathPrefix p module key value).1 = p' at hstep
    cases hstep with
    | active => exact .inl rfl
    | elsewhere _ _ _ frame => exact .inl frame.deployed
    | file _ hmodule active step =>
        cases step with
        | name | length | data | mode | other => exact .inl rfl
        | sha named checked deployed =>
            obtain ⟨destination, _, hdestination, rfl⟩ := deploy_ok deployed
            exact .inr ⟨_, _, destination, ⟨hmodule, active, named, checked⟩, hdestination, rfl⟩

/-- A run of entries that started with the first one, whether all were accepted or not. -/
theorem processEntries_deployed (V : ServiceInfoValues P) (pathPrefix : Option String) (machine : M.State)
    (siOut : ServiceInfo) {es : List Entry} {action : Action}
    (haction : action ∈ (processEntries V pathPrefix es (.new machine siOut)).1.actions.filter Action.isDeployed) :
    ∃ before entry after p path contents destination, es = before ++ entry :: after ∧
      Reached V pathPrefix machine siOut before p ∧ Calls P p entry path contents ∧
      destinationPath path pathPrefix = .ok destination ∧
      action = .deployed destination contents (p.binaryFile.mode.getD 0o600) := by
  induction es using List.reverseRecOn with
  | nil => simp [processEntries, Progress.new] at haction
  | append_singleton es entry ih =>
      have hearlier (h : action ∈ (processEntries V pathPrefix es (.new machine siOut)).1.actions.filter
          Action.isDeployed) : ∃ before entry' after p path contents destination,
            es ++ [entry] = before ++ entry' :: after ∧ Reached V pathPrefix machine siOut before p ∧
            Calls P p entry' path contents ∧ destinationPath path pathPrefix = .ok destination ∧
            action = .deployed destination contents (p.binaryFile.mode.getD 0o600) := by
        obtain ⟨before, entry', after, p, path, contents, destination, rfl, hrest⟩ := ih h
        exact ⟨before, entry', after ++ [entry], p, path, contents, destination, by simp, hrest⟩
      rw [processEntries_append] at haction
      rcases hes : processEntries V pathPrefix es (.new machine siOut) with ⟨p, ⟨⟩ | e | _⟩
      case ok =>
        have hone : (processEntries V pathPrefix [entry] p).1 =
            (processEntry V pathPrefix p entry.1 entry.2.1 entry.2.2).1 := by
          simp only [processEntries]
          split
          · next h => rw [h]
          · rfl
        simp only [hes, hone] at haction hearlier
        rcases processEntry_deployed V pathPrefix p entry with hsame | ⟨path, contents, destination, hcalls, hd, hlast⟩
        · rw [hsame] at haction
          exact hearlier haction
        · rw [hlast, List.filter_append, List.mem_append] at haction
          rcases haction with hold | hnew
          · exact hearlier hold
          · have heq : action = .deployed destination contents (p.binaryFile.mode.getD 0o600) :=
              List.mem_singleton.mp (List.mem_filter.mp hnew).1
            exact ⟨es, entry, [], p, path, contents, destination, rfl, hes, hcalls, hd, heq⟩
      case err =>
        simp only [hes] at haction hearlier
        exact hearlier haction
      case panic =>
        simp only [hes] at haction hearlier
        exact hearlier haction

theorem deployed_by_call {action : Action} (hdeployed : action.isDeployed = true)
    (haction : action ∈ (processServiceinfoIn V pathPrefix machine siIn siOut).1.actions) :
    ∃ (call : DeployCall V pathPrefix machine siIn siOut) (destination : String),
      destinationPath call.path pathPrefix = .ok destination ∧
        action = .deployed destination call.contents call.mode := by
  have hmem := List.mem_filter.mpr ⟨haction, hdeployed⟩
  rw [(processServiceinfoIn_frame V pathPrefix machine siIn siOut).deployed] at hmem
  obtain ⟨before, entry, after, p, path, contents, destination, hentries, hreached, hcalls, hd, heq⟩ :=
    processEntries_deployed V pathPrefix machine siOut hmem
  exact ⟨⟨before, entry, after, p, path, contents, hentries, hreached, hcalls⟩, destination, hd, heq⟩

end FidoOnboard.Client
