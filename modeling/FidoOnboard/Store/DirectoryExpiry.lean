import FidoOnboard.Store.Directory
import FidoOnboard.Store.Expiry

/-! Expiry in the directory, which holds at every moment of every run. -/
namespace FidoOnboard.Stores

theorem i64FromLeBytes_toStored {now : Instant} {duration : Int} {ttl : Bytes}
    (h : toStored now duration = .ok ttl) :
    ∃ seconds, expiry now duration = .ok seconds ∧ i64FromLeBytes ttl = seconds ∧ ttl.length = 8 := by
  obtain ⟨seconds, hexp, hok⟩ := Outcome.bind_eq_ok.mp h
  obtain rfl := Outcome.ok.inj hok
  obtain ⟨hmin, hmax⟩ := expiry_bounds hexp
  refine ⟨seconds, hexp, ?_, toLeBytes_length seconds⟩
  exact i64FromLeBytes_toLeBytes (by omega) (by omega)

namespace DirectoryStore

variable {V : Type}

def entry (file : File) : Entry := ⟨file.contents, file.ttl.map i64FromLeBytes⟩

def view (directory : Directory) (key : GuidKey) : Option Entry :=
  (directory.lookup (getPath key)).map entry

theorem view_insert (directory : Directory) (key : GuidKey) (file : File) :
    view (directory.insert (getPath key) file) = Function.update (view directory) key (some (entry file)) :=
  Assoc.lookup_insert_named getPath_injective entry directory key file

theorem view_erase (directory : Directory) (key : GuidKey) :
    view (directory.erase (getPath key)) = Function.update (view directory) key none :=
  Assoc.lookup_erase_named getPath_injective entry directory key

theorem view_temp (directory : Directory) (key : GuidKey) (file : File) :
    view ((directory.insert (tempPath key) file).erase (tempPath key)) = view directory := by
  funext key'
  have hne := getPath_ne_tempPath key' key
  rw [view, AList.lookup_erase_ne hne, AList.lookup_insert_ne hne, view]

theorem ttlFromDisk_eq_ok {ttl : Bytes} {seconds : Nat} :
    ttlFromDisk ttl = .ok seconds ↔ ttl.length = 8 ∧ i64FromLeBytes ttl = seconds := by
  unfold ttlFromDisk i64FromLeBytes
  by_cases hlen : ttl.length = 8
  · rw [if_neg (not_not.mpr hlen)]
    have hlt := BigEndian.fromBe_lt ttl.reverse
    rw [List.length_reverse, hlen] at hlt
    unfold fromLeBytes
    split
    · simp [hlen]
    · simp only [reduceCtorEq, false_iff, not_and]
      omega
  · simp [hlen]

theorem hasExpired_true {now : Instant} {file : File} (h : hasExpired now file = .ok true) :
    ∃ seconds, (entry file).ttl = some seconds ∧ Lapsed now seconds := by
  unfold hasExpired at h
  split at h
  · cases h
  · next ttl httl =>
      obtain ⟨seconds, hdisk, hok⟩ := Outcome.bind_eq_ok.mp h
      obtain ⟨_, hstored⟩ := ttlFromDisk_eq_ok.mp hdisk
      refine ⟨seconds, by simp [entry, httl, hstored], ?_⟩
      have hlt := of_decide_eq_true (Outcome.ok.inj hok)
      unfold Lapsed
      exact_mod_cast hlt

theorem hasExpired_false {now : Instant} {file : File} (h : hasExpired now file = .ok false) :
    ∀ seconds ∈ (entry file).ttl, ¬ Lapsed now seconds := by
  unfold hasExpired at h
  split at h
  · next httl => simp [entry, httl]
  · next ttl httl =>
      obtain ⟨seconds, hdisk, hok⟩ := Outcome.bind_eq_ok.mp h
      obtain ⟨_, hstored⟩ := ttlFromDisk_eq_ok.mp hdisk
      have hnot := of_decide_eq_false (Outcome.ok.inj hok)
      simp only [entry, httl, Option.map_some, hstored, Option.mem_some_iff, forall_eq']
      unfold Lapsed
      exact_mod_cast hnot

/-- Maintenance takes away only what it finds listed and due. -/
theorem sweep_drops {now : Instant} {entries : List (Σ _ : Text, File)} {directory : Directory} (path : Text) :
    (sweep now entries directory).2.lookup path = directory.lookup path ∨
    (sweep now entries directory).2.lookup path = none ∧ ∃ file seconds,
      ⟨path, file⟩ ∈ entries ∧ (entry file).ttl = some seconds ∧ seconds * nanoseconds ≤ now := by
  induction entries generalizing directory with
  | nil => exact .inl rfl
  | cons e entries ih =>
      obtain ⟨path', file⟩ := e
      have later : ∀ {directory' : Directory}, directory'.lookup path = directory.lookup path →
          (sweep now entries directory').2.lookup path = directory.lookup path ∨
          (sweep now entries directory').2.lookup path = none ∧ ∃ file' seconds,
            ⟨path, file'⟩ ∈ (⟨path', file⟩ :: entries : List (Σ _ : Text, File)) ∧
            (entry file').ttl = some seconds ∧ seconds * nanoseconds ≤ now := by
        intro directory' hsame
        refine (@ih directory').imp (fun h => h.trans hsame) ?_
        rintro ⟨hnone, file', seconds, hmem, hdue⟩
        exact ⟨hnone, file', seconds, List.mem_cons_of_mem _ hmem, hdue⟩
      simp only [sweep]
      split
      · exact later rfl
      · next ttl httl =>
          split
          · next seconds hdisk =>
              split
              · exact later rfl
              · next hdue =>
                  by_cases hpath : path = path'
                  · subst hpath
                    obtain ⟨_, hstored⟩ := ttlFromDisk_eq_ok.mp hdisk
                    refine .inr ⟨?_, file, seconds, List.mem_cons_self, by simp [entry, httl, hstored], ?_⟩
                    · rcases @ih (directory.erase path) with hsame | ⟨hnone, _⟩
                      · rw [hsame, AList.lookup_erase]
                      · exact hnone
                    · exact_mod_cast not_lt.mp hdue
                  · exact later (AList.lookup_erase_ne hpath)
          · exact .inl rfl
          · exact .inl rfl

theorem laws (codec : Serializable V) (listing : Listing File) :
    Laws (directoryStore codec listing) codec view where
  contents directory key := by simp [directoryStore, view, entry, Function.comp_def]
  initial key := rfl
  storeData_ok directory key value hvalue hdone := by
    obtain ⟨raw, _, hser, _⟩ := hvalue
    refine ⟨raw, hser, ?_⟩
    simp only [directoryStore, storeData, hser, view_insert, view_temp]
    rfl
  storeData_failed directory key value hvalue hfail := by
    obtain ⟨raw, _, hser, _⟩ := hvalue
    simp [directoryStore, storeData, hser] at hfail
  storeTtl_ok directory now key duration e hheld hdone := by
    obtain ⟨file, hfile, rfl⟩ := Option.map_eq_some_iff.mp hheld
    simp only [directoryStore, storeTtl, hfile] at hdone ⊢
    cases hstored : toStored now duration with
    | ok ttl =>
        obtain ⟨seconds, hexp, hfrom, _⟩ := i64FromLeBytes_toStored hstored
        refine ⟨seconds, hexp, ?_⟩
        simp only [view_insert, entry, Option.map_some, hfrom]
    | err error => simp [hstored] at hdone
    | panic => simp [hstored] at hdone
  storeTtl_idle directory now key duration hidle := by
    simp only [directoryStore, storeTtl] at hidle ⊢
    cases hfile : directory.lookup (getPath key) with
    | none => rfl
    | some file =>
        cases hstored : toStored now duration with
        | ok ttl => simp [view, hfile, hstored] at hidle
        | err error => rfl
        | panic => rfl
  destroyData_ok directory key hdone := by
    simp only [directoryStore, destroyData] at hdone ⊢
    cases hfile : directory.lookup (getPath key) with
    | none => simp [hfile] at hdone
    | some file => exact view_erase directory key
  destroyData_failed directory key hfail := by
    simp only [directoryStore, destroyData] at hfail ⊢
    cases hfile : directory.lookup (getPath key) with
    | none => rfl
    | some file => simp [hfile] at hfail
  loadData_absent directory now key value hload := by
    simp only [directoryStore, loadData] at hload
    cases hfile : directory.lookup (getPath key) with
    | none => simp [hfile] at hload
    | some file => simp [view, hfile]
  loadData_drops directory now key key' := by
    simp only [directoryStore, loadData]
    cases hfile : directory.lookup (getPath key) with
    | none => exact .inl rfl
    | some file =>
        simp only
        split
        · next hexpired =>
            obtain ⟨seconds, httl, hlapsed⟩ := hasExpired_true hexpired
            rw [view_erase]
            by_cases hkey : key' = key
            · subst hkey
              exact .inr ⟨Function.update_self .., entry file, seconds, by simp [view, hfile], httl, hlapsed⟩
            · exact .inl (Function.update_of_ne hkey ..)
        all_goals exact .inl rfl
  maintenance_drops directory now key := by
    rcases @sweep_drops now (listing.readDir directory) directory (getPath key) with
      hsame | ⟨hnone, file, seconds, hmem, httl, hdue⟩
    · exact .inl (congrArg (Option.map entry) hsame)
    · have hfile : directory.lookup (getPath key) = some file :=
        AList.mem_lookup_iff.mpr ((listing.perm directory).mem_iff.mp hmem)
      exact .inr ⟨congrArg (Option.map entry) hnone, entry file, seconds, by simp [view, hfile], httl, hdue⟩

/-- Every attribute has the eight bytes that are read again. -/
def Sized (directory : Directory) : Prop :=
  ∀ key file, directory.lookup (getPath key) = some file → ∀ ttl ∈ file.ttl, ttl.length = 8

theorem Sized.insert {directory : Directory} (h : Sized directory) {key : GuidKey} {file : File}
    (hfile : ∀ ttl ∈ file.ttl, ttl.length = 8) : Sized (directory.insert (getPath key) file) := by
  intro key' file' hlookup
  by_cases hkey : getPath key' = getPath key
  · rw [hkey, AList.lookup_insert] at hlookup
    obtain rfl := Option.some.inj hlookup
    exact hfile
  · rw [AList.lookup_insert_ne hkey] at hlookup
    exact h key' file' hlookup

/-- Sizes stay where nothing but removals happened under the keys. -/
theorem Sized.of_removed {directory directory' : Directory} (h : Sized directory)
    (hsub : ∀ key, directory'.lookup (getPath key) = directory.lookup (getPath key) ∨
      directory'.lookup (getPath key) = none) : Sized directory' := by
  intro key file hlookup
  rcases hsub key with hsame | hnone
  · exact h key file (hsame ▸ hlookup)
  · rw [hnone] at hlookup
    cases hlookup

theorem Sized.erase {directory : Directory} (h : Sized directory) (path : Text) :
    Sized (directory.erase path) := by
  refine h.of_removed fun key => ?_
  by_cases hpath : getPath key = path
  · exact .inr (hpath ▸ AList.lookup_erase ..)
  · exact .inl (AList.lookup_erase_ne hpath)

theorem Sized.temp {directory : Directory} (h : Sized directory) (key : GuidKey) (file : File) :
    Sized (directory.insert (tempPath key) file) :=
  h.of_removed fun key' => .inl (AList.lookup_insert_ne (getPath_ne_tempPath key' key))

theorem sized_step {codec : Serializable V} {listing : Listing File} {directory : Directory}
    (h : Sized directory) (input : Timed V) : Sized ((directoryStore codec listing).step directory input) := by
  obtain ⟨now, call⟩ := input
  cases call with
  | storeData key value =>
      simp only [Store.step, Store.perform, directoryStore, storeData]
      split
      · exact ((h.temp key _).erase _).insert nofun
      · exact h.temp key _
      · exact h.temp key _
  | storeTtl key duration =>
      simp only [Store.step, Store.perform, directoryStore, storeTtl]
      split
      · exact h
      · split
        · next ttl hstored =>
            obtain ⟨_, _, _, hlen⟩ := i64FromLeBytes_toStored hstored
            exact h.insert fun ttl' hmem => Option.some.inj hmem ▸ hlen
        · exact h
        · exact h
  | loadData key =>
      simp only [Store.step, Store.perform, directoryStore, loadData]
      split
      · exact h
      · split
        · exact h.erase _
        all_goals exact h
  | destroyData key =>
      simp only [Store.step, Store.perform, directoryStore, destroyData]
      split
      · exact h
      · exact h.erase _
  | performMaintenance => exact h.of_removed fun key => (sweep_drops (getPath key)).imp id And.left

/-- The directory keeps its word at every moment of every run. -/
theorem expires {codec : Serializable V} {listing : Listing File} {past : List (Directory × Timed V)}
    {directory : Directory} (run : (directoryStore codec listing).Runs codec past directory)
    (input : Timed V) : Expires (directoryStore codec listing) codec past directory input where
  returned key value _ hload := by
    cases hfile : directory.lookup (getPath key) with
    | none => simp [directoryStore, loadData, hfile] at hload
    | some file =>
        have hrec := ((laws codec listing).recorded run key).ttl (entry file) (by simp [view, hfile])
        rw [← hrec]
        simp only [directoryStore, loadData, hfile] at hload
        cases hexp : hasExpired input.now file with
        | ok expired =>
            cases expired with
            | true => simp [hexp] at hload
            | false => exact hasExpired_false hexp
        | err error => simp [hexp] at hload
        | panic => simp [hexp] at hload
  found key raw _ hheld hlive := by
    obtain ⟨file, hfile, rfl⟩ := Option.map_eq_some_iff.mp hheld
    have hrec := (laws codec listing).recorded run key
    have hview : view directory key = some (entry file) := by simp [view, hfile]
    obtain ⟨value, hvalue⟩ := hrec.reads _ hview
    refine ⟨value, hvalue, ?_⟩
    rw [← hrec.ttl _ hview] at hlive
    have hsized : Sized directory :=
      Run.invariant (I := fun _ directory => Sized directory) (by rintro _ rfl; exact nofun)
        (fun _ _ input h _ => sized_step h input) run
    have hfresh : hasExpired input.now file = .ok false := by
      unfold hasExpired
      cases httl : file.ttl with
      | none => rfl
      | some ttl =>
          have hlt := hlive (i64FromLeBytes ttl) (by simp [entry, httl])
          have hpos : 0 ≤ i64FromLeBytes ttl := by
            unfold nanoseconds at hlt
            omega
          have hdisk : ttlFromDisk ttl = .ok (i64FromLeBytes ttl).toNat :=
            ttlFromDisk_eq_ok.mpr ⟨hsized key file hfile ttl httl, by omega⟩
          have hnot : ¬ (i64FromLeBytes ttl).toNat * nanoseconds < input.now := by
            have : ((i64FromLeBytes ttl).toNat : Int) = i64FromLeBytes ttl := Int.toNat_of_nonneg hpos
            rw [← this] at hlt
            exact_mod_cast not_lt.mpr (le_of_lt hlt)
          simp [hdisk, hnot]
    change (loadData codec input.now key directory).1 = _
    have hdec : codec.deserializeData file.contents = .ok value := hvalue
    simp [loadData, hfile, hfresh, readValue, hdec]
  kept hread key raw hheld hlive := (laws codec listing).kept run hread hheld hlive

end DirectoryStore

end FidoOnboard.Stores
