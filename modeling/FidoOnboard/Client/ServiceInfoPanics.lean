import FidoOnboard.Client.Accounts
import FidoOnboard.Client.DroppedServiceInfo

/-!
# Service info that stops the client

A command that is executed without having been named, a length that no `Vec` can have,
a file whose path has no parent, and a set-up that the machine does not survive. Everything
else is accepted or answered with an error.
-/
namespace FidoOnboard.Client

variable {M : Machine} {P : Platform} {V : ServiceInfoValues P} {pathPrefix : Option String}
  {machine : M.State} {siIn siOut : ServiceInfo} {p p' : Progress M} {es : List Entry} {entry : Entry}
  {key : String} {value : CborValue}

/-! ## Fields since the last item was done -/

/-- The entries behind the last one that ends an item. -/
def Item.since (item : Item) (es : List Entry) : List Entry := (es.reverse.takeWhile fun e => !item.ends e).reverse

/-- None of these entries sets the field. -/
def Item.Unset (item : Item) (field : String) (es : List Entry) : Prop :=
  ∀ e ∈ item.since es, ¬ (e.1 = item.module ∧ e.2.1 = field)

theorem Item.since_concat_ends {item : Item} (h : item.ends entry = true) : item.since (es ++ [entry]) = [] := by
  unfold Item.since
  rw [List.reverse_append, List.reverse_singleton, List.singleton_append, List.takeWhile_cons_of_neg (by simp [h])]
  rfl

theorem Item.since_concat {item : Item} (h : item.ends entry = false) :
    item.since (es ++ [entry]) = item.since es ++ [entry] := by
  unfold Item.since
  rw [List.reverse_append, List.reverse_singleton, List.singleton_append, List.takeWhile_cons_of_pos (by simp [h]),
    List.reverse_cons]

theorem Item.ends_elsewhere {item : Item} (h : entry.1 ≠ item.module) : item.ends entry = false := by
  unfold Item.ends
  rw [decide_eq_false h, Bool.false_and]

theorem Item.unset_nil (item : Item) (field : String) : item.Unset field [] := by
  intro e he
  cases he

theorem Item.unset_concat_ends {item : Item} {field : String} (h : item.ends entry = true) :
    item.Unset field (es ++ [entry]) := by
  unfold Item.Unset
  rw [Item.since_concat_ends h]
  intro e he
  cases he

theorem Item.unset_concat {item : Item} {field : String} (h : item.ends entry = false) :
    item.Unset field (es ++ [entry]) ↔ item.Unset field es ∧ ¬ (entry.1 = item.module ∧ entry.2.1 = field) := by
  unfold Item.Unset
  rw [Item.since_concat h, List.forall_mem_append, List.forall_mem_singleton]

/-! ## The command that is being collected -/

theorem Effect.command_eq {module : ServiceInfoModule} (h : Effect p module p') (hmodule : module ≠ commandModule) :
    p'.command = p.command := by
  cases h with
  | command | executed => exact absurd rfl hmodule
  | nothing | sshKey | reboot | rhsm | file | created | disk | rebound => rfl

theorem execute_command (h : execute V p = (p', .ok ())) : p'.command = .new := by
  unfold execute at h
  split at h
  · cases h
  split at h
  · cases h
  · cases h
  dsimp only at h
  split at h
  · cases h
  split at h
  · cases h
  · cases h
  split at h
  · rw [← (Prod.mk.inj h).1]
  · cases h

/-- A value that is read into another variable. -/
theorem command_of_bind {α : Type} {x : Outcome ProcessError α} {set : α → Progress M}
    (h : keep p (x >>= fun a => .ok (set a)) = (p', .ok ()))
    (hset : ∀ a, (set a).command.command = p.command.command) : p'.command.command = p.command.command := by
  obtain ⟨a, -, ha⟩ := Outcome.bind_eq_ok.mp (keep_eq_ok.mp h)
  rw [← Outcome.ok.inj ha]
  exact hset a

/-- What an accepted entry of the module makes of the command. -/
theorem commandEntry_command (h : commandEntry V p key value = (p', .ok ())) :
    (key = "command" ∧ ∃ command, p'.command.command = some command) ∨
      (key = "execute" ∧ p'.command = .new) ∨
      (key ≠ "command" ∧ key ≠ "execute" ∧ p'.command.command = p.command.command) := by
  unfold commandEntry at h
  split at h
  next hkey =>
    obtain ⟨_, -, h₁⟩ := Outcome.bind_eq_ok.mp (keep_eq_ok.mp h)
    obtain ⟨command, -, h₂⟩ := Outcome.bind_eq_ok.mp h₁
    exact .inl ⟨hkey, command, by rw [← Outcome.ok.inj h₂]⟩
  next hcommand =>
  split at h
  next hkey => exact .inr (.inr ⟨hcommand, by simp [hkey], command_of_bind h fun _ => rfl⟩)
  split at h
  next hkey => exact .inr (.inr ⟨hcommand, by simp [hkey], command_of_bind h fun _ => rfl⟩)
  split at h
  next hkey => exact .inr (.inr ⟨hcommand, by simp [hkey], command_of_bind h fun _ => rfl⟩)
  split at h
  next hkey => exact .inr (.inr ⟨hcommand, by simp [hkey], command_of_bind h fun _ => rfl⟩)
  split at h
  next hkey => exact .inr (.inl ⟨hkey, execute_command h⟩)
  next hexecute => exact .inr (.inr ⟨hcommand, hexecute, by rw [← (Prod.mk.inj h).1]⟩)

theorem processEntry_command_step (h : processEntry V pathPrefix p entry.1 entry.2.1 entry.2.2 = (p', .ok ()))
    (hset : p.command.command = none ↔ Item.command.Unset "command" es) :
    p'.command.command = none ↔ Item.command.Unset "command" (es ++ [entry]) := by
  have hsame (hends : Item.command.ends entry = false) (hno : ¬ (entry.1 = commandModule ∧ entry.2.1 = "command"))
      (heq : p'.command.command = p.command.command) :
      p'.command.command = none ↔ Item.command.Unset "command" (es ++ [entry]) := by
    rw [heq, hset, Item.unset_concat hends]
    exact (and_iff_left hno).symm
  by_cases hkey : entry.2.1 = "active"
  case pos =>
    have hends : Item.command.ends entry = false := by simp [Item.ends, Item.isLast, hkey]
    cases processEntry_step h with
    | active => exact hsame hends (fun hand => absurd (hkey.symm.trans hand.2) (by decide)) rfl
    | file hother => exact absurd hkey hother
    | elsewhere hother => exact absurd hkey hother
  case neg =>
    by_cases hmodule : entry.1 = commandModule
    case neg =>
      have heffect : Effect p entry.1 (processEntry V pathPrefix p entry.1 entry.2.1 entry.2.2).1 :=
        processEntry_effect V pathPrefix p hkey
      rw [h] at heffect
      exact hsame (Item.ends_elsewhere hmodule) (fun hand => hmodule hand.1)
        (congrArg CommandInProgress.command (heffect.command_eq hmodule))
    case pos =>
      have hactive : entry.1 ∈ p.activeModules := by
        by_contra hinactive
        rw [processEntry_inactive V pathPrefix hkey hinactive] at h
        cases h
      rw [hmodule] at h hactive
      unfold processEntry at h
      rw [if_neg hkey, if_neg (not_not.mpr hactive)] at h
      rcases commandEntry_command h with ⟨hnamed, command, hsome⟩ | ⟨hexecute, hnew⟩ | ⟨hnamed, hexecute, heq⟩
      · have hends : Item.command.ends entry = false := by simp [Item.ends, Item.isLast, hnamed]
        rw [Item.unset_concat hends, hsome]
        exact iff_of_false (by simp) fun hand => hand.2 ⟨hmodule, hnamed⟩
      · have hends : Item.command.ends entry = true :=
          Bool.and_eq_true_iff.mpr ⟨decide_eq_true hmodule, decide_eq_true hexecute⟩
        rw [hnew]
        exact iff_of_true rfl (Item.unset_concat_ends hends)
      · exact hsame (by simp [Item.ends, Item.isLast, hexecute]) (fun hand => hnamed hand.2) heq

/-- A command is there from the pair that names it to the one that executes it. -/
theorem Reached.command_unset (h : Reached V pathPrefix machine siOut es p) :
    p.command.command = none ↔ Item.command.Unset "command" es := by
  induction es using List.reverseRecOn generalizing p with
  | nil =>
      obtain rfl := (Prod.mk.inj h).1
      exact iff_of_true rfl (Item.unset_nil _ _)
  | append_singleton es entry ih =>
      obtain ⟨q, hq, hstep⟩ := reached_concat.mp h
      exact processEntry_command_step hstep (ih hq)

/-! ## The length of the file that is being collected -/

theorem FileStep.length_step (h : FileStep P pathPrefix p key value p')
    (hset : p.binaryFile.length = none ↔ Item.binaryFile.Unset "length" es) :
    p'.binaryFile.length = none ↔ Item.binaryFile.Unset "length" (es ++ [(fileModule, key, value)]) := by
  have hends : Item.binaryFile.ends (fileModule, key, value) = isSha key := Bool.true_and _
  have hother (hsha : isSha key = false) (hkey : key ≠ "length") :
      p.binaryFile.length = none ↔ Item.binaryFile.Unset "length" (es ++ [(fileModule, key, value)]) := by
    rw [Item.unset_concat (hends.trans hsha), hset]
    exact (and_iff_left fun hand => hkey hand.2).symm
  cases h with
  | name => exact hother rfl (by decide)
  | length =>
      rw [Item.unset_concat (hends.trans (by decide))]
      exact iff_of_false (by simp) fun hand => hand.2 ⟨rfl, rfl⟩
  | data named =>
      obtain ⟨-, hlength, -, hsha⟩ := isData_other named
      exact hother hsha (of_decide_eq_false hlength)
  | mode => exact hother rfl (by decide)
  | sha named _ deployed =>
      obtain ⟨_, _, _, rfl⟩ := deploy_ok deployed
      exact iff_of_true rfl (Item.unset_concat_ends (hends.trans (decide_eq_true named)))
  | other unnamed =>
      obtain ⟨-, hlength, -, -, hsha⟩ := isFileKey_other unnamed
      exact hother hsha (of_decide_eq_false hlength)

/-- A length is there from the pair that gives it to the one that ends the file. -/
theorem Reached.length_unset (h : Reached V pathPrefix machine siOut es p) :
    p.binaryFile.length = none ↔ Item.binaryFile.Unset "length" es := by
  induction es using List.reverseRecOn generalizing p with
  | nil =>
      obtain rfl := (Prod.mk.inj h).1
      exact iff_of_true rfl (Item.unset_nil _ _)
  | append_singleton es entry ih =>
      obtain ⟨q, hq, hstep⟩ := reached_concat.mp h
      have hset := ih hq
      cases processEntry_step hstep with
      | active hkey =>
          have hends : Item.binaryFile.ends entry = false := by
            simp [Item.ends, Item.isLast, isSha, hkey]
          rw [Item.unset_concat hends]
          refine hset.trans (and_iff_left fun hand => ?_).symm
          exact absurd (hkey.symm.trans hand.2) (by decide)
      | elsewhere _ hother _ frame =>
          rw [frame.binaryFile, hset, Item.unset_concat (Item.ends_elsewhere hother)]
          exact (and_iff_left fun hand => hother hand.1).symm
      | file _ hmodule _ step =>
          obtain ⟨_, key, value⟩ := entry
          obtain rfl : _ = fileModule := hmodule
          exact step.length_step hset

/-! ## What one pair can stop -/

theorem keep_panic {r : Outcome ProcessError (Progress M)} : (keep p r).2 = .panic ↔ r = .panic := by
  cases r with
  | ok q => simp [keep]
  | err e => simp [keep]
  | panic => simp [keep]

theorem parsing_ne_panic {α : Type} (text : String) (read : Option α) : parsing text read ≠ .panic :=
  Outcome.ofOption_ne_panic _ _

theorem read_ne_panic {α β : Type} {text : String} {read : Option α} {set : α → β} :
    (parsing text read >>= fun a => .ok (set a)) ≠ .panic :=
  Outcome.bind_ne_panic (parsing_ne_panic _ _) fun _ _ h => by cases h

theorem read_once_ne_panic {α β : Type} {c : Prop} [Decidable c] {error : ProcessError} {text : String}
    {read : Option α} {set : α → β} :
    (Outcome.check c error >>= fun _ => parsing text read >>= fun a => .ok (set a)) ≠ .panic :=
  Outcome.bind_ne_panic (Outcome.check_ne_panic _ _) fun _ _ => read_ne_panic

theorem sshKeyEntry_ne_panic : sshKeyEntry p key value ≠ .panic := by
  unfold sshKeyEntry
  split
  · exact read_ne_panic
  split
  · exact read_ne_panic
  split
  · exact read_ne_panic
  · simp

theorem rebootEntry_ne_panic : rebootEntry p key value ≠ .panic := by
  unfold rebootEntry
  split
  · exact read_ne_panic
  · simp

theorem rhsmEntry_ne_panic : rhsmEntry p key value ≠ .panic := by
  unfold rhsmEntry
  split
  · exact read_ne_panic
  split
  · exact read_ne_panic
  split
  · exact read_ne_panic
  · simp

theorem activeEntry_ne_panic {module : ServiceInfoModule} : activeEntry p module value ≠ .panic := by
  refine Outcome.bind_ne_panic (parsing_ne_panic _ _) fun b _ => ?_
  cases b with
  | true => simp
  | false => simp

/-- The machine was asked to bind the disk, and the program did not survive that. -/
def RebindStops (p : Progress M) : Prop :=
  ∃ diskLabel pin config, p.diskEncryption.diskLabel = some diskLabel ∧ p.diskEncryption.pin = some pin ∧
    p.diskEncryption.config = some config ∧
    (M.setup p.machine (.rebindClevis diskLabel pin config p.diskEncryption.reencrypt)).2 = .panic

theorem executeClevis_panic : (executeClevis P p).2 = .panic ↔ RebindStops p := by
  unfold executeClevis RebindStops performSetup
  cases p.diskEncryption.diskLabel with
  | none => simp
  | some diskLabel =>
  cases p.diskEncryption.pin with
  | none => simp
  | some pin =>
  cases p.diskEncryption.config with
  | none => simp
  | some config =>
      simp only [Option.some.injEq, exists_eq_left', exists_and_left]
      rcases M.setup p.machine (.rebindClevis diskLabel pin config p.diskEncryption.reencrypt) with
        ⟨machine, ⟨⟩ | ⟨⟩ | _⟩
      · refine iff_of_false ?_ (by simp)
        intro hpanic
        refine Outcome.bind_ne_panic ?_ (fun _ _ h => by cases h) (keep_panic.mp hpanic)
        rw [Ne, Outcome.mapErr_eq_panic]
        exact reportClevis_ne_panic _ _ _
      · simp
      · simp

theorem clevisEntry_panic : (clevisEntry P p key value).2 = .panic ↔ key = "execute" ∧ RebindStops p := by
  unfold clevisEntry
  split
  next hkey => simpa [hkey] using keep_panic.not.mpr read_once_ne_panic
  split
  next hkey => simpa [hkey] using keep_panic.not.mpr read_once_ne_panic
  split
  next hkey => simpa [hkey] using keep_panic.not.mpr read_once_ne_panic
  split
  next hkey => simpa [hkey] using keep_panic.not.mpr read_ne_panic
  split
  next hkey => simpa [hkey] using executeClevis_panic
  next hexecute => simp [hexecute]

theorem execute_panic : (execute V p).2 = .panic ↔ p.command.command = none := by
  unfold execute
  cases p.command.command with
  | none => simp
  | some command =>
      refine iff_of_false ?_ (by simp)
      dsimp only
      split
      · simp
      next hstart => exact absurd hstart (reportStart_ne_panic _ _ _)
      split
      · simp
      split
      · simp
      next hreport => exact absurd hreport (reportOutput_ne_panic _ _ _)
      split
      · simp
      · simp

theorem commandEntry_panic : (commandEntry V p key value).2 = .panic ↔
    key = "execute" ∧ p.command.command = none := by
  unfold commandEntry
  split
  next hkey => simpa [hkey] using keep_panic.not.mpr read_once_ne_panic
  split
  next hkey => simpa [hkey] using keep_panic.not.mpr read_ne_panic
  split
  next hkey => simpa [hkey] using keep_panic.not.mpr read_ne_panic
  split
  next hkey => simpa [hkey] using keep_panic.not.mpr read_ne_panic
  split
  next hkey => simpa [hkey] using keep_panic.not.mpr read_ne_panic
  split
  next hkey => simpa [hkey] using execute_panic
  next hexecute => simp [hexecute]

theorem deploy_panic {path : String} {contents : Bytes} {mode : Option UInt32} :
    (deploy pathPrefix path contents mode p).2 = .panic ↔
      ∃ destination, destinationPath path pathPrefix = .ok destination ∧ hasParent destination = false := by
  unfold deploy
  cases hdestination : destinationPath path pathPrefix with
  | err e => simp
  | panic =>
      refine absurd hdestination (Outcome.bind_ne_panic (Outcome.check_ne_panic _ _) fun _ _ => ?_)
      split
      · simp
      · simp
  | ok destination =>
      simp only [Outcome.ok.injEq, exists_eq_left']
      split
      next hroot => simp [hroot]
      next hparent =>
      split
      · simp [hparent]
      · simp [hparent]

/-- With a length there are contents, and the digest is as long as any of its type. -/
theorem checkFile_ne_panic (laws : DigestLaws P) {file : BinaryFileInProgress}
    (hsized : file.length ≠ none → file.contents ≠ none) : checkFile P file key value ≠ .panic := by
  refine Outcome.bind_ne_panic (parsing_ne_panic _ _) fun shaValue _ => ?_
  refine Outcome.bind_ne_panic (hasher_ne_panic _) fun hashType _ => ?_
  refine Outcome.bind_ne_panic ?_ fun digest hdigest => ?_
  · rw [Ne, Outcome.mapErr_eq_panic]
    exact Hash.fromDigest_ne_panic _ _
  refine Outcome.bind_ne_panic (Outcome.ofOption_ne_panic _ _) fun path _ => ?_
  refine Outcome.bind_ne_panic (Outcome.ofOption_ne_panic _ _) fun length hlength => ?_
  have hset : file.length ≠ none := by
    rw [Outcome.ofOption_eq_ok.mp hlength]
    simp
  refine Outcome.bind_ne_panic ?_ fun contents _ => ?_
  · cases hcontents : file.contents with
    | none => exact absurd hcontents (hsized hset)
    | some contents => simp
  refine Outcome.bind_ne_panic (Outcome.check_ne_panic _ _) fun _ _ => ?_
  refine Outcome.bind_ne_panic ?_ fun _ _ h => by cases h
  rw [Ne, Outcome.mapErr_eq_panic, Hash.compareData_eq_checkData]
  refine (Hash.checkData_ne_panic laws).mpr fun _ _ _ => ?_
  exact Hash.fromDigest_length (Outcome.mapErr_eq_ok.mp hdigest)

theorem withCapacity_panic {length : Nat} : withCapacity length = .panic ↔ isizeMax < length := by
  unfold withCapacity
  split
  next hlarge => simp [hlarge]
  next hsmall => simp [hsmall]

theorem length_panic {set : Nat → Bytes → Progress M} :
    (Outcome.check (p.binaryFile.length = none) (.repeated "binary file length" value) >>= fun _ =>
      parsing "Error parsing binary file length" value.asU64 >>= fun length =>
        withCapacity length >>= fun contents => .ok (set length contents)) = .panic ↔
      p.binaryFile.length = none ∧ ∃ length, value.asU64 = some length ∧ isizeMax < length := by
  rw [Outcome.bind_eq_panic, or_iff_right (Outcome.check_ne_panic _ _)]
  simp only [Outcome.check_eq_ok, exists_const]
  refine and_congr_right fun _ => ?_
  rw [Outcome.bind_eq_panic, or_iff_right (parsing_ne_panic _ _)]
  refine exists_congr fun length => ?_
  rw [parsing_eq_ok, Outcome.bind_eq_panic, withCapacity_panic]
  refine and_congr_right fun _ => or_iff_left ?_
  rintro ⟨_, _, hok⟩
  cases hok

theorem data_ne_panic {set : Bytes → Bytes → Progress M} :
    (Outcome.ofOption (.dataBeforeLength value) p.binaryFile.contents >>= fun contents =>
      parsing "Error parsing binary file data" value.asBytes >>= fun data => .ok (set contents data)) ≠ .panic :=
  Outcome.bind_ne_panic (Outcome.ofOption_ne_panic _ _) fun _ _ => read_ne_panic

/-- A pair behind accepted ones at which the client stops. -/
inductive Stops (P : Platform) (pathPrefix : Option String) (before : List Entry) (p : Progress M) : Entry → Prop where
  | execute {value : CborValue} (active : commandModule ∈ p.activeModules)
      (unset : Item.command.Unset "command" before) : Stops P pathPrefix before p (commandModule, "execute", value)
  | length {value : CborValue} {length : Nat} (active : fileModule ∈ p.activeModules)
      (unset : Item.binaryFile.Unset "length" before) (read : value.asU64 = some length) (large : isizeMax < length) :
      Stops P pathPrefix before p (fileModule, "length", value)
  | rebind {value : CborValue} (active : .fedoraIot .diskEncryptionClevis ∈ p.activeModules) (stops : RebindStops p) :
      Stops P pathPrefix before p (.fedoraIot .diskEncryptionClevis, "execute", value)
  | deploy {entry : Entry} {path destination : String} {contents : Bytes} (calls : Calls P p entry path contents)
      (placed : destinationPath path pathPrefix = .ok destination) (parentless : hasParent destination = false) :
      Stops P pathPrefix before p entry

theorem Reached.sized (h : Reached V pathPrefix machine siOut es p) :
    p.binaryFile.length ≠ none → p.binaryFile.contents ≠ none := by
  obtain ⟨_, since, -, -, hcollected⟩ := h.collected
  intro hset
  obtain ⟨length, hlength⟩ := Option.ne_none_iff_exists'.mp hset
  have hsize := hcollected.size
  rw [hlength] at hsize
  obtain ⟨bytes, hbytes, -⟩ := hsize
  rw [hbytes]
  simp

theorem binaryFileEntry_panic (laws : DigestLaws P) (hactive : fileModule ∈ p.activeModules)
    (hsized : p.binaryFile.length ≠ none → p.binaryFile.contents ≠ none) :
    (binaryFileEntry P pathPrefix p key value).2 = .panic ↔
      (key = "length" ∧ p.binaryFile.length = none ∧ ∃ length, value.asU64 = some length ∧ isizeMax < length) ∨
      ∃ path contents, Calls P p (fileModule, key, value) path contents ∧
        ∃ destination, destinationPath path pathPrefix = .ok destination ∧ hasParent destination = false := by
  have hnone (hnot : ¬ "sha-".toList <+: key.toList) : ¬ ∃ path contents, Calls P p (fileModule, key, value) path contents ∧
      ∃ destination, destinationPath path pathPrefix = .ok destination ∧ hasParent destination = false := by
    rintro ⟨_, _, hcalls, -⟩
    exact hnot hcalls.named
  unfold binaryFileEntry
  split
  next hkey =>
    subst hkey
    exact iff_of_false (keep_panic.not.mpr read_once_ne_panic) (not_or.mpr ⟨by simp, hnone (by decide)⟩)
  split
  next hkey =>
    subst hkey
    rw [or_iff_left (hnone (by decide)), eq_self_iff_true, true_and]
    exact keep_panic.trans length_panic
  next hlength =>
  split
  next hdata =>
    exact iff_of_false (keep_panic.not.mpr data_ne_panic) (not_or.mpr ⟨by simp [hlength], hnone (not_sha_of_data hdata)⟩)
  split
  next hkey =>
    subst hkey
    exact iff_of_false (keep_panic.not.mpr read_once_ne_panic) (not_or.mpr ⟨by simp, hnone (by decide)⟩)
  split
  next hsha =>
    have hcalls {path : String} {contents : Bytes} : Calls P p (fileModule, key, value) path contents ↔
        checkFile P p.binaryFile key value = .ok (path, contents) :=
      ⟨fun h => h.checked, fun h => ⟨rfl, hactive, hsha, h⟩⟩
    simp only [hlength, false_and, false_or, hcalls]
    cases hchecked : checkFile P p.binaryFile key value with
    | panic => exact absurd hchecked (checkFile_ne_panic laws hsized)
    | err e => simp
    | ok file =>
        obtain ⟨path, contents⟩ := file
        simpa using deploy_panic
  next hnot => exact iff_of_false (by simp) (not_or.mpr ⟨by simp [hlength], hnone hnot⟩)

theorem processEntry_panic (laws : DigestLaws P) (h : Reached V pathPrefix machine siOut es p) :
    (processEntry V pathPrefix p entry.1 entry.2.1 entry.2.2).2 = .panic ↔ Stops P pathPrefix es p entry := by
  obtain ⟨module, key, value⟩ := entry
  constructor
  · intro hpanic
    unfold processEntry at hpanic
    dsimp only at hpanic
    split at hpanic
    next hkey => exact absurd (keep_panic.mp hpanic) activeEntry_ne_panic
    split at hpanic
    next hinactive => cases hpanic
    next hactive =>
    rw [not_not] at hactive
    split at hpanic
    · exact absurd (keep_panic.mp hpanic) sshKeyEntry_ne_panic
    · exact absurd (keep_panic.mp hpanic) rebootEntry_ne_panic
    · exact absurd (keep_panic.mp hpanic) rhsmEntry_ne_panic
    · rcases (binaryFileEntry_panic laws hactive h.sized).mp hpanic with
        ⟨rfl, hunset, length, hread, hlarge⟩ | ⟨path, contents, hcalls, destination, hplaced, hparent⟩
      · exact .length hactive (h.length_unset.mp hunset) hread hlarge
      · exact .deploy hcalls hplaced hparent
    · obtain ⟨rfl, hunset⟩ := commandEntry_panic.mp hpanic
      exact .execute hactive (h.command_unset.mp hunset)
    · obtain ⟨rfl, hstops⟩ := clevisEntry_panic.mp hpanic
      exact .rebind hactive hstops
    · cases hpanic
  · intro hstops
    cases hstops with
    | execute hactive hunset =>
        unfold processEntry
        dsimp only
        rw [if_neg (by decide), if_neg (not_not.mpr hactive)]
        exact commandEntry_panic.mpr ⟨rfl, h.command_unset.mpr hunset⟩
    | length hactive hunset hread hlarge =>
        dsimp only
        rw [processEntry_file V pathPrefix (by decide) hactive]
        exact (binaryFileEntry_panic laws hactive h.sized).mpr
          (.inl ⟨rfl, h.length_unset.mpr hunset, _, hread, hlarge⟩)
    | rebind hactive hstops =>
        unfold processEntry
        dsimp only
        rw [if_neg (by decide), if_neg (not_not.mpr hactive)]
        exact clevisEntry_panic.mpr ⟨rfl, hstops⟩
    | deploy hcalls hplaced hparent =>
        rw [hcalls.processEntry_eq]
        exact deploy_panic.mpr ⟨_, hplaced, hparent⟩

/-! ## Whole service info -/

theorem processEntries_panic (laws : DigestLaws P) :
    (processEntries V pathPrefix es (.new machine siOut)).2 = .panic ↔
      ∃ before entry after p, es = before ++ entry :: after ∧ Reached V pathPrefix machine siOut before p ∧
        Stops P pathPrefix before p entry := by
  rw [processEntries_failed (by simp)]
  constructor
  · rintro ⟨before, entry, after, p, hsplit, hbefore, hentry⟩
    exact ⟨before, entry, after, p, hsplit, hbefore, (processEntry_panic laws hbefore).mp hentry⟩
  · rintro ⟨before, entry, after, p, hsplit, hbefore, hstops⟩
    exact ⟨before, entry, after, p, hsplit, hbefore, (processEntry_panic laws hbefore).mpr hstops⟩

theorem processServiceinfoIn_panic : (processServiceinfoIn V pathPrefix machine siIn siOut).2 = .panic ↔
    (processEntries V pathPrefix (entriesOf V siIn) (.new machine siOut)).2 = .panic ∨
      ∃ p, Reached V pathPrefix machine siOut (entriesOf V siIn) p ∧ SetupStops p := by
  unfold Reached
  rcases hentries : processEntries V pathPrefix (entriesOf V siIn) (.new machine siOut) with ⟨p, ⟨⟩ | e | _⟩
  case err => simp [processServiceinfoIn, hentries]
  case panic => simp [processServiceinfoIn, hentries]
  case ok =>
    have hreached : Reached V pathPrefix machine siOut (entriesOf V siIn) p := hentries
    rw [← answerOf_eq_panic, hreached.finishes.panic_iff]
    simp

theorem processServiceinfoIn_returns_iff (laws : DigestLaws P) :
    (processServiceinfoIn V pathPrefix machine siIn siOut).2 ≠ .panic ↔
      (∀ before entry after p, entriesOf V siIn = before ++ entry :: after →
        Reached V pathPrefix machine siOut before p → ¬ Stops P pathPrefix before p entry) ∧
      ∀ p, Reached V pathPrefix machine siOut (entriesOf V siIn) p → ¬ SetupStops p := by
  rw [Ne, processServiceinfoIn_panic, processEntries_panic laws, not_or]
  refine and_congr ?_ (by simp only [not_exists, not_and])
  constructor
  · intro hnot before entry after p hsplit hreached hstops
    exact hnot ⟨before, entry, after, p, hsplit, hreached, hstops⟩
  · rintro hall ⟨before, entry, after, p, hsplit, hreached, hstops⟩
    exact hall before entry after p hsplit hreached hstops

section

open Reference

theorem processServiceinfoIn_returns_motd : (¬ ∃ before entry after p,
    entriesOf (jsonValues .release) (motd 0o644) = before ++ entry :: after ∧
      Reached (M := plainMachine) (jsonValues .release) none () [] before p ∧
        Stops (jsonPlatform .release) none before p entry) ∧
    ∀ p, Reached (M := plainMachine) (jsonValues .release) none () []
      (entriesOf (jsonValues .release) (motd 0o644)) p → ¬ SetupStops p := by
  have hok : (processServiceinfoIn (M := plainMachine) (jsonValues .release) none () (motd 0o644) []).2 ≠ .panic := by
    change Outcome.ok false ≠ .panic
    exact nofun
  have laws : DigestLaws (jsonPlatform .release) := ⟨(digestLaws .release).hash_length⟩
  obtain ⟨hpairs, hsetups⟩ := (processServiceinfoIn_returns_iff laws).mp hok
  refine ⟨?_, hsetups⟩
  rintro ⟨before, entry, after, p, hentries, hreached, hstops⟩
  exact hpairs before entry after p hentries hreached hstops

/-- A command that has not been named, a length of 2 ^ 63, and a file that is the root. -/
def unnamed : ServiceInfo :=
  [("org.fedoraiot.command:active", [0xf5]), ("org.fedoraiot.command:execute", [0xf5])]

def oversized : ServiceInfo :=
  [("org.fedoraiot.binaryfile:active", [0xf5]),
    ("org.fedoraiot.binaryfile:length", [0x1b, 0x80, 0, 0, 0, 0, 0, 0, 0])]

def rootFile : ServiceInfo :=
  [("org.fedoraiot.binaryfile:active", [0xf5]), ("org.fedoraiot.binaryfile:name", [0x61, 0x2f]),
    ("org.fedoraiot.binaryfile:length", [0]),
    ("org.fedoraiot.binaryfile:sha-256", valueWire.write (.scalar (.bytes (digest .sha256 []))))]

/-- A key for the user `+`. -/
def plusKey : ServiceInfo :=
  [("org.fedoraiot.sshkey:active", [0xf5]), ("org.fedoraiot.sshkey:username", [0x61, 0x2b]),
    ("org.fedoraiot.sshkey:sshkeys", [0x61, 0x6b])]

/-- Its `/etc/passwd` takes in the users of another directory. -/
def compatSystem : System where
  State := Unit
  createFile _ _ _ _ := ((), true)
  output _ _ _ := ((), none)
  passwd _ := some "root:x:0:0:root:/root:/bin/bash\n+\n"
  useradd _ _ := ((), true)
  openssl _ _ := ((), none)
  appendKey _ _ _ _ _ := ((), true)
  performRhsm _ _ _ _ := ((), true)
  rebindClevis _ _ _ _ _ := ((), true)

theorem unnamed_panics :
    (processServiceinfoIn (M := plainMachine) (jsonValues .release) none () unnamed []).2 = .panic ∧
    (processServiceinfoIn (M := plainMachine) (jsonValues .release) none () oversized []).2 = .panic ∧
    (processServiceinfoIn (M := plainMachine) (jsonValues .release) none () rootFile []).2 = .panic ∧
    (processServiceinfoIn (M := compatSystem.machine) (jsonValues .release) none () plusKey []).2 = .panic :=
  ⟨rfl, rfl, rfl, rfl⟩

end

end FidoOnboard.Client
