import FidoOnboard.Client.DeployedFiles
import FidoOnboard.Client.RefusedServiceInfo

/-!
# Service info that is dropped

The loop ends at the first pair that cannot be read as it does at the end of the list,
and what has been collected by then is forgotten.
-/
namespace FidoOnboard.Client

variable {M : Machine} {P : Platform} {V : ServiceInfoValues P} {pathPrefix : Option String}
  {machine : M.State} {siIn siOut : ServiceInfo} {p p' : Progress M} {es : List Entry} {entry : Entry}

/-! ## Items -/

/-- What is collected over several pairs. -/
inductive Item where
  | binaryFile
  | command
  | diskEncryption
  deriving DecidableEq, Repr

namespace Item

def module : Item → ServiceInfoModule
  | binaryFile => fileModule
  | command => .fedoraIot .command
  | diskEncryption => .fedoraIot .diskEncryptionClevis

def isField : Item → String → Bool
  | binaryFile, key => isName key || isLength key || isData key || isMode key
  | command, key => key ∈ ["command", "args", "may_fail", "return_stdout", "return_stderr"]
  | diskEncryption, key => key ∈ ["disk-label", "pin", "config", "reencrypt"]

/-- The key on which the item is deployed or executed. -/
def isLast : Item → String → Bool
  | binaryFile, key => isSha key
  | command, key => key = "execute"
  | diskEncryption, key => key = "execute"

def isDone : Item → Action → Bool
  | binaryFile, .deployed .. => true
  | command, .executed .. => true
  | diskEncryption, .performed (.rebindClevis ..) => true
  | _, _ => false

def collects (item : Item) (entry : Entry) : Bool := decide (entry.1 = item.module) && item.isField entry.2.1

def ends (item : Item) (entry : Entry) : Bool := decide (entry.1 = item.module) && item.isLast entry.2.1

/-- Behind every field comes the entry that ends its item. -/
def Followed (item : Item) (es : List Entry) : Prop :=
  ∀ before entry after, es = before ++ entry :: after → item.collects entry = true →
    ∃ last ∈ after, item.ends last = true

/-- … and the first such entry did what the item is for. -/
def Completed (V : ServiceInfoValues P) (pathPrefix : Option String) (machine : M.State) (siOut : ServiceInfo)
    (item : Item) (es : List Entry) : Prop :=
  ∀ before entry after, es = before ++ entry :: after → item.collects entry = true →
    ∃ between last rest p p' action, after = between ++ last :: rest ∧ item.ends last = true ∧
      (∀ e ∈ between, item.ends e = false) ∧
      Reached V pathPrefix machine siOut (before ++ entry :: between) p ∧
      processEntry V pathPrefix p last.1 last.2.1 last.2.2 = (p', .ok ()) ∧
      p'.actions = p.actions ++ [action] ∧ item.isDone action = true

end Item

/-! ## The entry that ends an item -/

theorem execute_ok (h : execute V p = (p', .ok ())) :
    ∃ command, p'.actions = p.actions ++ [.executed command p.command.args p.command.mayFail
      p.command.returnStdout p.command.returnStderr] := by
  unfold execute at h
  split at h
  · cases h
  next command _ =>
  split at h
  · cases h
  · cases h
  dsimp only at h
  split at h
  · cases h
  split at h
  · cases h
  · cases h
  split at h
  · obtain rfl := (Prod.mk.inj h).1
    exact ⟨command, rfl⟩
  · cases h

theorem performSetup_ok {text : String} {setup : Setup} (h : performSetup text setup p = (p', .ok ())) :
    p'.actions = p.actions ++ [.performed setup] := by
  unfold performSetup at h
  split at h
  · obtain rfl := (Prod.mk.inj h).1
    rfl
  · cases h
  · cases h

theorem executeClevis_ok (h : executeClevis P p = (p', .ok ())) :
    ∃ diskLabel pin config reencrypt,
      p'.actions = p.actions ++ [.performed (.rebindClevis diskLabel pin config reencrypt)] := by
  unfold executeClevis at h
  split at h
  · cases h
  · cases h
  · cases h
  next diskLabel pin config _ _ _ =>
  split at h
  next q hsetup =>
    obtain ⟨siOut, -, hq⟩ := Outcome.bind_eq_ok.mp (keep_eq_ok.mp h)
    obtain rfl := Outcome.ok.inj hq
    have hactions := performSetup_ok hsetup
    exact ⟨_, _, _, _, hactions⟩
  next hfailed => exact absurd h (hfailed _)

theorem processEntry_execute {item : Item} {value : CborValue} (hitem : item ≠ .binaryFile)
    (h : processEntry V pathPrefix p item.module "execute" value = (p', .ok ())) :
    ∃ action, p'.actions = p.actions ++ [action] ∧ item.isDone action = true := by
  have hkey : ("execute" : String) ≠ "active" := by decide
  by_cases hactive : item.module ∈ p.activeModules
  case neg =>
    rw [processEntry_inactive V pathPrefix hkey hactive] at h
    cases h
  case pos =>
    unfold processEntry at h
    rw [if_neg hkey, if_neg (not_not.mpr hactive)] at h
    cases item with
    | binaryFile => exact absurd rfl hitem
    | command =>
        obtain ⟨command, hactions⟩ := execute_ok h
        exact ⟨_, hactions, rfl⟩
    | diskEncryption =>
        obtain ⟨diskLabel, pin, config, reencrypt, hactions⟩ := executeClevis_ok h
        exact ⟨_, hactions, rfl⟩

theorem processEntry_done {item : Item} (hends : item.ends entry = true)
    (h : processEntry V pathPrefix p entry.1 entry.2.1 entry.2.2 = (p', .ok ())) :
    ∃ action, p'.actions = p.actions ++ [action] ∧ item.isDone action = true := by
  obtain ⟨module, key, value⟩ := entry
  obtain ⟨hmodule, hlast⟩ := Bool.and_eq_true_iff.mp hends
  obtain rfl : module = item.module := of_decide_eq_true hmodule
  cases item with
  | binaryFile =>
      cases processEntry_step h with
      | active hkey =>
          obtain rfl : key = "active" := hkey
          have hnot : Item.binaryFile.isLast "active" = false := by decide
          exact absurd hlast (by simp [hnot])
      | elsewhere _ other => exact absurd rfl other
      | file _ _ _ step =>
          obtain ⟨_, _, _, _, _, hactions⟩ := step.whole hlast
          exact ⟨_, hactions, rfl⟩
  | command =>
      obtain rfl : key = "execute" := of_decide_eq_true hlast
      exact processEntry_execute (by simp) h
  | diskEncryption =>
      obtain rfl : key = "execute" := of_decide_eq_true hlast
      exact processEntry_execute (by simp) h

/-- Where all entries are accepted, an item that is followed is completed. -/
theorem Item.Followed.completed {item : Item} (h : item.Followed es)
    (hreached : Reached V pathPrefix machine siOut es p) : item.Completed V pathPrefix machine siOut es := by
  intro before entry after hsplit hcollects
  obtain ⟨last', hmem, hends'⟩ := h before entry after hsplit hcollects
  have hfound : (after.find? item.ends).isSome := List.find?_isSome.mpr ⟨last', hmem, hends'⟩
  obtain ⟨last, hlast⟩ := Option.isSome_iff_exists.mp hfound
  obtain ⟨hends, between, rest, rfl, hfirst⟩ := List.find?_eq_some_iff_append.mp hlast
  have hsplit' : es = before ++ entry :: between ++ [last] ++ rest := by simp [hsplit]
  rw [hsplit'] at hreached
  obtain ⟨q', hq'⟩ := hreached.of_append
  obtain ⟨q, hq, hstep⟩ := reached_concat.mp hq'
  obtain ⟨action, hactions, hdone⟩ := processEntry_done hends hstep
  exact ⟨between, last, rest, q, q', action, rfl, hends, fun e he => by simpa using hfirst e he, hq, hstep,
    hactions, hdone⟩

/-! ## Pairs -/

/-- The entry that the pair is seen as. -/
def ReadAs (V : ServiceInfoValues P) (pair : String × Bytes) (entry : Entry) : Prop :=
  ServiceInfo.splitKey pair.1 = some (entry.1, entry.2.1) ∧
    ∃ value, P.valueFromSlice pair.2 = some value ∧ V.cbor value = entry.2.2

/-- No colon in the key, or no CBOR in the value. -/
def Malformed (P : Platform) (pair : String × Bytes) : Prop :=
  ServiceInfo.splitKey pair.1 = none ∨ P.valueFromSlice pair.2 = none

theorem entriesOf_cons {pair : String × Bytes} {entry : Entry} (h : ReadAs V pair entry) :
    entriesOf V (pair :: siIn) = entry :: entriesOf V siIn := by
  obtain ⟨moduleKey, val⟩ := pair
  obtain ⟨module, key, _⟩ := entry
  obtain ⟨hsplit, value, hvalue, rfl⟩ := h
  simp only at hsplit hvalue
  simp [entriesOf, ServiceInfo.iter, hsplit, hvalue]

theorem readAs_of_not_malformed {pair : String × Bytes} (h : ¬ Malformed P pair) : ∃ entry, ReadAs V pair entry := by
  obtain ⟨hkey, hvalue⟩ := not_or.mp h
  obtain ⟨⟨module, key⟩, hsplit⟩ := Option.ne_none_iff_exists'.mp hkey
  obtain ⟨value, hread⟩ := Option.ne_none_iff_exists'.mp hvalue
  exact ⟨(module, key, V.cbor value), hsplit, value, hread, rfl⟩

/-- The loop sees every pair, unless one of them is malformed. -/
theorem entriesOf_all (h : ∀ pair ∈ siIn, ¬ Malformed P pair) : List.Forall₂ (ReadAs V) siIn (entriesOf V siIn) := by
  induction siIn with
  | nil => exact .nil
  | cons pair siIn ih =>
      obtain ⟨entry, hentry⟩ := readAs_of_not_malformed (V := V) (h pair List.mem_cons_self)
      rw [entriesOf_cons hentry]
      exact .cons hentry (ih fun other hother => h other (List.mem_cons_of_mem pair hother))

theorem reached_of_ok {reboot : Bool} (h : (processServiceinfoIn V pathPrefix machine siIn siOut).2 = .ok reboot) :
    ∃ p, Reached V pathPrefix machine siOut (entriesOf V siIn) p := by
  unfold Reached
  unfold processServiceinfoIn at h
  rcases hes : processEntries V pathPrefix (entriesOf V siIn) (.new machine siOut) with ⟨p, ⟨⟩ | e | _⟩
  · exact ⟨p, rfl⟩
  · simp [hes] at h
  · simp [hes] at h

/-! ## The whole list -/

/-- Accepted service info was looked at and carried out to the end; anything else is refused. -/
structure NothingDropped (V : ServiceInfoValues P) (pathPrefix : Option String) (machine : M.State)
    (siIn siOut : ServiceInfo) : Prop where
  examined : ∀ reboot, (processServiceinfoIn V pathPrefix machine siIn siOut).2 = .ok reboot →
    List.Forall₂ (ReadAs V) siIn (entriesOf V siIn)
  completed : ∀ reboot, (processServiceinfoIn V pathPrefix machine siIn siOut).2 = .ok reboot →
    ∀ item : Item, item.Completed V pathPrefix machine siOut (entriesOf V siIn)
  malformed : (∃ pair ∈ siIn, Malformed P pair) →
    ∃ e, (processServiceinfoIn V pathPrefix machine siIn siOut).2 = .err e
  incomplete : (∃ item : Item, ¬ item.Followed (entriesOf V siIn)) →
    ∃ e, (processServiceinfoIn V pathPrefix machine siIn siOut).2 = .err e

theorem nothingDropped_iff : NothingDropped V pathPrefix machine siIn siOut ↔
    ((∀ pair ∈ siIn, ¬ Malformed P pair) ∧ ∀ item : Item, item.Followed (entriesOf V siIn)) ∨
      Stopped V pathPrefix machine siIn siOut := by
  constructor
  · intro h
    by_cases hread : ∀ pair ∈ siIn, ¬ Malformed P pair
    case neg =>
      simp only [not_forall, not_not] at hread
      obtain ⟨pair, hpair, hmalformed⟩ := hread
      exact .inr (processServiceinfoIn_err.mp (h.malformed ⟨pair, hpair, hmalformed⟩))
    case pos =>
      by_cases hfollowed : ∀ item : Item, item.Followed (entriesOf V siIn)
      case pos => exact .inl ⟨hread, hfollowed⟩
      case neg => exact .inr (processServiceinfoIn_err.mp (h.incomplete (not_forall.mp hfollowed)))
  · rintro (⟨hread, hfollowed⟩ | hstopped)
    · refine ⟨fun _ _ => entriesOf_all hread, fun reboot hok item => ?_, ?_, ?_⟩
      · obtain ⟨p, hreached⟩ := reached_of_ok hok
        exact (hfollowed item).completed hreached
      · rintro ⟨pair, hpair, hmalformed⟩
        exact absurd hmalformed (hread pair hpair)
      · rintro ⟨item, hnot⟩
        exact absurd (hfollowed item) hnot
    · obtain ⟨e, he⟩ := processServiceinfoIn_err.mpr hstopped
      have hnot (reboot : Bool) : (processServiceinfoIn V pathPrefix machine siIn siOut).2 ≠ .ok reboot := by
        rw [he]
        simp
      exact ⟨fun reboot hok => absurd hok (hnot reboot), fun reboot hok => absurd hok (hnot reboot),
        fun _ => ⟨e, he⟩, fun _ => ⟨e, he⟩⟩

/-! ## A pair without a colon, and a file without its digest -/

/-- A pair without a colon before a whole file. -/
def uncut : ServiceInfo := ("org.fedoraiot.binaryfile", [0xf5]) :: motd 0o644

/-- All but the digest. -/
def unfinished : ServiceInfo := (motd 0o644).take 6

theorem uncut_accepted :
    ¬ NothingDropped (M := plainMachine) (Reference.jsonValues .release) none () uncut [] ∧
    ¬ NothingDropped (M := plainMachine) (Reference.jsonValues .release) none () unfinished [] := by
  constructor
  · intro h
    have hok : (processServiceinfoIn (M := plainMachine) (Reference.jsonValues .release) none () uncut []).2 =
      .ok false := rfl
    obtain ⟨e, he⟩ := h.malformed ⟨_, List.mem_cons_self, .inl (by decide +kernel)⟩
    cases hok.symm.trans he
  · intro h
    have hok : (processServiceinfoIn (M := plainMachine) (Reference.jsonValues .release) none () unfinished []).2 =
      .ok false := rfl
    obtain ⟨e, he⟩ := h.incomplete ⟨.binaryFile, fun hfollowed => by
      obtain ⟨last, hlast, hends⟩ := hfollowed ((motdBefore 0o644).take 1) (fileModule, "name", .text "/etc/motd".toList)
        ((motdBefore 0o644).drop 2) rfl rfl
      have hnone : ∀ e ∈ (motdBefore 0o644).drop 2, Item.binaryFile.ends e = false := by decide +kernel
      rw [hnone last hlast] at hends
      cases hends⟩
    cases hok.symm.trans he

end FidoOnboard.Client
