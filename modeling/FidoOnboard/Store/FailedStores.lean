import FidoOnboard.Store.FileNames

/-!
# Storing that breaks off

A value is written to a temporary file of the same directory, which is then
renamed. What a failure leaves there is never looked at by `load_data`, but the
readers of the whole directory take it for a value.
-/
namespace FidoOnboard.Stores.Files
open Reference Assoc

variable {K V : Type}

/-- Keys whose files and temporary files all have names of their own. -/
structure Apart (toText : K → Text) : Prop where
  path : ∀ a b, getPath (toText a) = getPath (toText b) → a = b
  temp : ∀ a b, tempPath (toText a) ≠ getPath (toText b)

inductive StoreCall (K V : Type) where
  | storeData (fate : Fate) (key : K) (value : V)
  | destroyData (key : K)

def StoreCall.perform (codec : Serializable V) (toText : K → Text) (folder : Folder) : StoreCall K V → Folder
  | .storeData fate key value => (Files.storeData codec fate (toText key) value folder).2
  | .destroyData key => (Files.destroyData (toText key) folder).2

def performAll (codec : Serializable V) (toText : K → Text) (calls : List (StoreCall K V)) : Folder :=
  calls.foldl (StoreCall.perform codec toText) ∅

/-! ## What a caller can know -/

/-- The values stored successfully, as they are read again, and the keys whose last attempt
stopped behind the creation of the temporary file. -/
structure Ledger (K V : Type) where
  held : K → Option V
  broken : K → Bool

def Ledger.enter [DecidableEq K] (codec : Serializable V) (ledger : Ledger K V) : StoreCall K V → Ledger K V
  | .storeData fate key value =>
    if Succeeds codec fate value then
      ⟨Function.update ledger.held key (readBack codec value), Function.update ledger.broken key false⟩
    else if fate = .createFails then ledger
    else ⟨ledger.held, Function.update ledger.broken key true⟩
  | .destroyData key => ⟨Function.update ledger.held key none, ledger.broken⟩

def Ledger.of [DecidableEq K] (codec : Serializable V) (calls : List (StoreCall K V)) : Ledger K V :=
  calls.foldl (Ledger.enter codec) ⟨fun _ => none, fun _ => false⟩

/-- Every value that can be written can be read. -/
def StoreCall.ReadsBack (codec : Serializable V) : StoreCall K V → Prop
  | .storeData _ _ value =>
    ∀ raw, codec.serializeData value = .ok raw → ∃ value', codec.deserializeData raw = .ok value'
  | .destroyData _ => True

/-- The store is as it should be: every key loads as it was last stored, all values are
listed once, and no filter finds anything else. -/
structure Intact (codec : Serializable V) (toText : K → Text) (scan : Listing Inode) (folder : Folder)
    (held : K → Option V) : Prop where
  loads : ∀ now key, (loadData codec now (toText key) folder).1 = .ok (held key)
  listed : ∃ values, ∃ keys : List K, loadAllData codec scan folder = .ok values ∧ keys.Nodup ∧
    (∀ key, key ∈ keys ↔ (held key).isSome) ∧ values.map some = keys.map held
  filtered : ∀ filter values, query codec scan filter folder = .ok values →
    ∀ value ∈ values, ∃ key, held key = some value

/-! ## What is in the directory -/

def Reads (codec : Serializable V) (file : Inode) (value : V) : Prop :=
  file.xattrs = noXattrs ∧ codec.deserializeData file.contents = .ok value

structure Stands (codec : Serializable V) (toText : K → Text) (folder : Folder) (ledger : Ledger K V) : Prop where
  held : Represents (fun key => getPath (toText key)) (Reads codec) folder ledger.held
  temp : ∀ key, (folder.lookup (tempPath (toText key))).isSome = ledger.broken key
  plain : ∀ key, ∀ file ∈ folder.lookup (tempPath (toText key)), file.xattrs = noXattrs
  named : ∀ path ∈ folder, ∃ key, path = getPath (toText key) ∨ path = tempPath (toText key)

theorem tempPath_inj {toText : K → Text} (apart : Apart toText) {a b : K}
    (h : tempPath (toText a) = tempPath (toText b)) : a = b := by
  obtain ⟨_, htail⟩ := List.cons.inj h
  exact apart.path a b (List.append_cancel_right htail)

namespace Stands

variable {codec : Serializable V} {toText : K → Text} {folder : Folder} {ledger : Ledger K V}

theorem empty : Stands codec toText ∅ ⟨fun _ => none, fun _ => false⟩ where
  held := Represents.empty
  temp _ := rfl
  plain _ _ h := by simp at h
  named _ h := absurd h (AList.notMem_empty _)

theorem temp_xattrs (h : Stands codec toText folder ledger) (key : K) :
    (folder.lookup (tempPath (toText key))).elim noXattrs Inode.xattrs = noXattrs := by
  cases htemp : folder.lookup (tempPath (toText key)) with
  | none => rfl
  | some file => exact h.plain key file htemp

variable [DecidableEq K]

/-- A write to a temporary file that is not renamed. -/
theorem write (apart : Apart toText) (h : Stands codec toText folder ledger) (key : K) (data : Bytes) :
    Stands codec toText (writeNew (tempPath (toText key)) data folder)
      ⟨ledger.held, Function.update ledger.broken key true⟩ := by
  rw [writeNew, h.temp_xattrs key]
  constructor
  · intro key'
    dsimp only
    rw [AList.lookup_insert_ne (apart.temp key key').symm]
    exact h.held key'
  · intro key'
    dsimp only
    by_cases hkey : key' = key
    · subst hkey
      simp
    · rw [AList.lookup_insert_ne fun hpath => hkey (tempPath_inj apart hpath), Function.update_of_ne hkey]
      exact h.temp key'
  · intro key' file hfile
    by_cases hkey : key' = key
    · subst hkey
      rw [AList.lookup_insert] at hfile
      exact (Option.some.inj hfile) ▸ rfl
    · rw [AList.lookup_insert_ne fun hpath => hkey (tempPath_inj apart hpath)] at hfile
      exact h.plain key' file hfile
  · intro path hpath
    rcases AList.mem_insert _ |>.mp hpath with rfl | hold
    · exact ⟨key, .inr rfl⟩
    · exact h.named path hold

/-- A write that is. -/
theorem store (apart : Apart toText) (h : Stands codec toText folder ledger) {key : K} {value : V} {raw : Bytes}
    (hdec : codec.deserializeData raw = .ok value) :
    Stands codec toText
      (rename (tempPath (toText key)) (getPath (toText key)) (writeNew (tempPath (toText key)) raw folder))
      ⟨Function.update ledger.held key (some value), Function.update ledger.broken key false⟩ := by
  obtain ⟨hfinal, hgone, hother⟩ :=
    rename_writeNew (tempPath_ne_getPath (toText key)).symm raw folder
  rw [h.temp_xattrs key] at hfinal
  constructor
  · intro key'
    dsimp only
    by_cases hkey : key' = key
    · subst hkey
      rw [hfinal, Function.update_self]
      exact .some ⟨rfl, hdec⟩
    · rw [hother _ (apart.temp key key').symm fun hpath => hkey (apart.path _ _ hpath),
        Function.update_of_ne hkey]
      exact h.held key'
  · intro key'
    dsimp only
    by_cases hkey : key' = key
    · subst hkey
      rw [hgone, Function.update_self]
      rfl
    · rw [hother _ (fun hpath => hkey (tempPath_inj apart hpath)) (apart.temp key' key),
        Function.update_of_ne hkey]
      exact h.temp key'
  · intro key' file hfile
    by_cases hkey : key' = key
    · subst hkey
      rw [hgone] at hfile
      cases hfile
    · rw [hother _ (fun hpath => hkey (tempPath_inj apart hpath)) (apart.temp key' key)] at hfile
      exact h.plain key' file hfile
  · intro path hpath
    by_cases hfile : path = getPath (toText key)
    · exact ⟨key, .inl hfile⟩
    by_cases htemp : path = tempPath (toText key)
    · exact ⟨key, .inr htemp⟩
    have hlookup := AList.lookup_isSome.mpr hpath
    rw [hother path htemp hfile] at hlookup
    exact h.named path (AList.lookup_isSome.mp hlookup)

theorem destroy (apart : Apart toText) (h : Stands codec toText folder ledger) (key : K) :
    Stands codec toText (destroyData (toText key) folder).2
      ⟨Function.update ledger.held key none, ledger.broken⟩ := by
  have herased : Stands codec toText (folder.erase (getPath (toText key)))
      ⟨Function.update ledger.held key none, ledger.broken⟩ := by
    constructor
    · exact h.held.erase (fun a b hab => apart.path a b hab) key
    · intro key'
      rw [AList.lookup_erase_ne (apart.temp key' key)]
      exact h.temp key'
    · intro key' file hfile
      rw [AList.lookup_erase_ne (apart.temp key' key)] at hfile
      exact h.plain key' file hfile
    · intro path hpath
      exact h.named path (AList.mem_erase.mp hpath).2
  unfold destroyData
  cases hfile : folder.lookup (getPath (toText key)) with
  | some file => exact herased
  | none =>
      have habsent : ledger.held key = none := h.held.vacant hfile
      have hsame : Function.update ledger.held key none = ledger.held := by
        rw [← habsent, Function.update_eq_self]
      rw [hsame]
      exact h

/-- One call, whatever becomes of it. -/
theorem perform (apart : Apart toText) (h : Stands codec toText folder ledger) {call : StoreCall K V}
    (hcall : call.ReadsBack codec) :
    Stands codec toText (call.perform codec toText folder) (ledger.enter codec call) := by
  cases call with
  | destroyData key => exact h.destroy apart key
  | storeData fate key value =>
      simp only [StoreCall.perform, Ledger.enter]
      rcases storeData_cases codec fate (toText key) value folder with
        ⟨raw, hok, hraw, hleft⟩ | ⟨hok, hfate, hleft⟩ | ⟨hok, hfate, data, hleft⟩
      · obtain ⟨value', hdec⟩ := hcall raw hraw
        have hback : readBack codec value = some value' := by simp only [readBack, hraw, hdec]
        rw [hleft, if_pos hok, hback]
        exact h.store apart hdec
      · rw [hleft, if_neg (by simp [hok]), if_pos hfate]
        exact h
      · rw [hleft, if_neg (by simp [hok]), if_neg hfate]
        exact h.write apart key data

end Stands

theorem performAll_stands [DecidableEq K] {codec : Serializable V} {toText : K → Text} (apart : Apart toText)
    {calls : List (StoreCall K V)} (hcalls : ∀ call ∈ calls, call.ReadsBack codec) :
    Stands codec toText (performAll codec toText calls) (Ledger.of codec calls) := by
  have hrun : ∀ folder ledger, Stands codec toText folder ledger →
      Stands codec toText (calls.foldl (StoreCall.perform codec toText) folder)
        (calls.foldl (Ledger.enter codec) ledger) := by
    induction calls with
    | nil => exact fun _ _ h => h
    | cons call calls ih =>
        intro folder ledger h
        exact ih (fun c hc => hcalls c (List.mem_cons_of_mem _ hc)) _ _
          (h.perform apart (hcalls call List.mem_cons_self))
  exact hrun _ _ Stands.empty

/-! ## What the readers make of it -/

section Readers

variable {codec : Serializable V} {toText : K → Text} {folder : Folder} {ledger : Ledger K V}

theorem Stands.loads (h : Stands codec toText folder ledger) (now : Instant) (key : K) :
    (loadData codec now (toText key) folder).1 = .ok (ledger.held key) := by
  simp only [loadData]
  cases hheld : ledger.held key with
  | none => rw [h.held.absent hheld]
  | some value =>
      obtain ⟨file, hfile, hplain, hdec⟩ := h.held.present hheld
      have hseen : DirectoryStore.hasExpired now file.seen = .ok false := by
        simp only [DirectoryStore.hasExpired, Inode.seen, hplain, noXattrs]
      rw [hfile]
      simp only [hseen, DirectoryStore.readValue]
      simp only [Inode.seen, hdec, Outcome.mapErr_ok, Outcome.ok_bind]

/-- A file of the directory that is the file of a key. -/
def FileOf (codec : Serializable V) (toText : K → Text) (held : K → Option V) (entry : Σ _ : Text, Inode)
    (key : K) : Prop :=
  entry.1 = getPath (toText key) ∧ ∃ value, held key = some value ∧
    codec.deserializeData entry.2.contents = .ok value

theorem Stands.fileOf (h : Stands codec toText folder ledger) (hbroken : ∀ key, ledger.broken key = false)
    {entry : Σ _ : Text, Inode} (hentry : entry ∈ folder.entries) :
    ∃ key, FileOf codec toText ledger.held entry key := by
  have hlookup : folder.lookup entry.1 = some entry.2 := AList.mem_lookup_iff.mpr hentry
  obtain ⟨key, hpath | htemp⟩ := h.named entry.1 (AList.lookup_isSome.mp (by rw [hlookup]; rfl))
  · refine ⟨key, hpath, ?_⟩
    rw [hpath] at hlookup
    cases hheld : ledger.held key with
    | none =>
        rw [h.held.absent hheld] at hlookup
        cases hlookup
    | some value =>
        obtain ⟨file, hfile, _, hdec⟩ := h.held.present hheld
        obtain rfl := Option.some.inj (hfile.symm.trans hlookup)
        exact ⟨value, rfl, hdec⟩
  · have hsome := h.temp key
    rw [← htemp, hlookup, hbroken key] at hsome
    cases hsome

theorem readAll_of_fileOf {held : K → Option V} {entries : List (Σ _ : Text, Inode)}
    (h : ∀ entry ∈ entries, ∃ key, FileOf codec toText held entry key) :
    ∃ values, ∃ keys : List K, readAll codec entries = .ok values ∧
      keys.map (fun key => getPath (toText key)) = entries.map Sigma.fst ∧ values.map some = keys.map held := by
  induction entries with
  | nil => exact ⟨[], [], rfl, rfl, rfl⟩
  | cons entry entries ih =>
      obtain ⟨values, keys, hread, hkeys, hvalues⟩ := ih fun e he => h e (List.mem_cons_of_mem _ he)
      obtain ⟨key, hpath, value, hheld, hdec⟩ := h entry List.mem_cons_self
      refine ⟨value :: values, key :: keys, ?_, ?_, ?_⟩
      · simp only [readAll, hdec, hread, Outcome.mapErr_ok, Outcome.ok_bind]
      · rw [List.map_cons, List.map_cons, hkeys, hpath]
      · rw [List.map_cons, List.map_cons, hvalues, hheld]

theorem mem_queryEntries {filter : FilterType} {entries : List (Σ _ : Text, Inode)} {values : List V}
    (h : queryEntries codec filter entries = .ok values) {value : V} (hvalue : value ∈ values) :
    ∃ entry ∈ entries, codec.deserializeData entry.2.contents = .ok value := by
  induction entries generalizing values with
  | nil =>
      obtain rfl := Outcome.ok.inj h
      cases hvalue
  | cons entry entries ih =>
      obtain ⟨selected, _, h₁⟩ := Outcome.bind_eq_ok.mp h
      obtain ⟨rest, hrest, h₂⟩ := Outcome.bind_eq_ok.mp h₁
      have hlater : value ∈ rest → ∃ e ∈ entry :: entries, codec.deserializeData e.2.contents = .ok value := by
        intro hmem
        obtain ⟨e, he, hdec⟩ := ih hrest hmem
        exact ⟨e, List.mem_cons_of_mem _ he, hdec⟩
      split at h₂
      · split at h₂
        · next v hdec =>
            obtain rfl := Outcome.ok.inj h₂
            rcases List.mem_cons.mp hvalue with rfl | hmem
            · exact ⟨entry, List.mem_cons_self, hdec⟩
            · exact hlater hmem
        · obtain rfl := Outcome.ok.inj h₂
          exact hlater hvalue
        · cases h₂
      · obtain rfl := Outcome.ok.inj h₂
        exact hlater hvalue

theorem readAll_length {entries : List (Σ _ : Text, Inode)} {values : List V}
    (h : readAll codec entries = .ok values) : values.length = entries.length := by
  induction entries generalizing values with
  | nil =>
      obtain rfl := Outcome.ok.inj h
      rfl
  | cons entry entries ih =>
      obtain ⟨value, _, h₁⟩ := Outcome.bind_eq_ok.mp h
      obtain ⟨rest, hrest, h₂⟩ := Outcome.bind_eq_ok.mp h₁
      obtain rfl := Outcome.ok.inj h₂
      rw [List.length_cons, List.length_cons, ih hrest]

theorem scan_nodup (scan : Listing Inode) (folder : Folder) : ((scan.readDir folder).map Sigma.fst).Nodup :=
  ((scan.perm folder).map Sigma.fst).nodup_iff.mpr folder.nodupKeys

theorem mem_scan {scan : Listing Inode} {folder : Folder} {path : Text} :
    path ∈ (scan.readDir folder).map Sigma.fst ↔ path ∈ folder := by
  rw [((scan.perm folder).map Sigma.fst).mem_iff]
  rfl

theorem Stands.intact (apart : Apart toText) (h : Stands codec toText folder ledger)
    (hbroken : ∀ key, ledger.broken key = false) (scan : Listing Inode) :
    Intact codec toText scan folder ledger.held := by
  have hentries : ∀ entry ∈ scan.readDir folder, ∃ key, FileOf codec toText ledger.held entry key :=
    fun entry hentry => h.fileOf hbroken ((scan.perm folder).mem_iff.mp hentry)
  refine ⟨h.loads, ?_, ?_⟩
  · obtain ⟨values, keys, hread, hkeys, hvalues⟩ := readAll_of_fileOf hentries
    refine ⟨values, keys, hread, ?_, ?_, hvalues⟩
    · have hnodup := scan_nodup scan folder
      rw [← hkeys] at hnodup
      exact hnodup.of_map
    · intro key
      have hmem : key ∈ keys ↔ getPath (toText key) ∈ (scan.readDir folder).map Sigma.fst := by
        rw [← hkeys]
        constructor
        · exact fun hkey => List.mem_map_of_mem hkey
        · intro hpath
          obtain ⟨key', hkey', hsame⟩ := List.mem_map.mp hpath
          exact apart.path _ _ hsame ▸ hkey'
      rw [hmem, mem_scan, ← AList.lookup_isSome]
      cases hheld : ledger.held key with
      | none => simp [h.held.absent hheld]
      | some value =>
          obtain ⟨file, hfile, _⟩ := h.held.present hheld
          simp [hfile]
  · intro filter values hquery value hvalue
    obtain ⟨entry, hentry, hdec⟩ := mem_queryEntries hquery hvalue
    obtain ⟨key, _, value', hheld, hdec'⟩ := hentries entry hentry
    obtain rfl := Outcome.ok.inj (hdec.symm.trans hdec')
    exact ⟨key, hheld⟩

/-- One file too many is one value too many. -/
theorem Stands.not_listed (apart : Apart toText) (h : Stands codec toText folder ledger) {key : K}
    (hkey : ledger.broken key = true) (scan : Listing Inode) : ¬ Intact codec toText scan folder ledger.held := by
  rintro ⟨_, ⟨values, keys, hread, hnodup, hkeys, hvalues⟩, _⟩
  have htemp : tempPath (toText key) ∈ folder := by
    have hsome := h.temp key
    rw [hkey] at hsome
    exact AList.lookup_isSome.mp hsome
  have hpaths : (tempPath (toText key) :: keys.map fun k => getPath (toText k)).Nodup := by
    refine List.nodup_cons.mpr ⟨?_, hnodup.map fun a b hab => apart.path a b hab⟩
    intro hmem
    obtain ⟨k, _, hpath⟩ := List.mem_map.mp hmem
    exact apart.temp key k hpath.symm
  have hsub : (tempPath (toText key) :: keys.map fun k => getPath (toText k)) ⊆
      (scan.readDir folder).map Sigma.fst := by
    intro path hpath
    rw [mem_scan]
    rcases List.mem_cons.mp hpath with rfl | hpath
    · exact htemp
    · obtain ⟨k, hk, rfl⟩ := List.mem_map.mp hpath
      obtain ⟨value, hheld⟩ := Option.isSome_iff_exists.mp ((hkeys k).mp hk)
      obtain ⟨file, hfile, _⟩ := h.held.present hheld
      exact AList.lookup_isSome.mp (by rw [hfile]; rfl)
  have hlength := (hpaths.subperm hsub).length_le
  have hcount := readAll_length hread
  have hsame := congrArg List.length hvalues
  simp only [List.length_cons, List.length_map] at hlength hsame
  omega

end Readers

/-- A directory whose stores may break off is intact exactly when every key whose store broke
off behind its temporary file has been stored since. -/
theorem intact_iff_no_residue [DecidableEq K] {codec : Serializable V} {toText : K → Text} (apart : Apart toText)
    (scan : Listing Inode) {calls : List (StoreCall K V)} (hcalls : ∀ call ∈ calls, call.ReadsBack codec) :
    Intact codec toText scan (performAll codec toText calls) (Ledger.of codec calls).held ↔
      ∀ key, (Ledger.of codec calls).broken key = false := by
  have hstands := performAll_stands apart hcalls
  constructor
  · intro hintact key
    by_contra hkey
    exact hstands.not_listed apart (Bool.eq_true_of_not_eq_false hkey) scan hintact
  · exact fun hbroken => hstands.intact apart hbroken scan

/-! ## Guids -/

theorem guid_apart : Apart GuidKey.toText where
  path _ _ h := DirectoryStore.getPath_injective h
  temp a b h := getPath_ne_temp b a h.symm

/-- A registration as it is read again is read as itself. -/
theorem sampleItem_exact : ∃ item : StoredItem (reference .release), ∃ raw,
    (storedItems (reference .release)).serializeData item = .ok raw ∧
      (storedItems (reference .release)).deserializeData raw = .ok item := by
  obtain ⟨_, _, raw, item, _, hdec, hser⟩ := sampleItem_readsBack
  exact ⟨item, raw, hser, hdec⟩

/-- A store that broke off at the rename, and was repeated. -/
theorem intact_iff_no_residue_sample : ∃ item : StoredItem (reference .release),
    Intact (storedItems (reference .release)) GuidKey.toText .inOrder
      (performAll (storedItems (reference .release)) GuidKey.toText
        [.storeData .renameFails sampleGuid item, .storeData .completes sampleGuid item])
      (Function.update (fun _ => none) sampleGuid (some item)) := by
  obtain ⟨item, raw, hser, hdec⟩ := sampleItem_exact
  have hcall : ∀ fate, (StoreCall.storeData fate sampleGuid item).ReadsBack (storedItems (reference .release)) := by
    intro fate raw' hser'
    obtain rfl := Outcome.ok.inj (hser.symm.trans hser')
    exact ⟨item, hdec⟩
  have hledger : Ledger.of (storedItems (reference .release))
      [.storeData .renameFails sampleGuid item, .storeData .completes sampleGuid item] =
        ⟨Function.update (fun _ => none) sampleGuid (some item),
          Function.update (Function.update (fun _ => false) sampleGuid true) sampleGuid false⟩ := by
    simp [Ledger.of, Ledger.enter, Succeeds, readBack, hser, hdec, Outcome.isOk]
  have hcalls : ∀ call ∈ [StoreCall.storeData .renameFails sampleGuid item,
      .storeData .completes sampleGuid item], call.ReadsBack (storedItems (reference .release)) := by
    simp [hcall]
  have hiff := intact_iff_no_residue guid_apart .inOrder hcalls
  rw [hledger] at hiff
  refine ⟨item, hiff.mpr ?_⟩
  intro key
  simp [Function.update_apply]

/-- A registration that was never stored is listed, and a file cut short fails the listing. -/
theorem residue_is_listed : ∃ item : StoredItem (reference .release),
    loadAllData (storedItems (reference .release)) .inOrder
      (performAll (storedItems (reference .release)) GuidKey.toText
        [.storeData .renameFails sampleGuid item]) = .ok [item] ∧
    loadAllData (storedItems (reference .release)) .inOrder
      (performAll (storedItems (reference .release)) GuidKey.toText
        [.storeData (.writeFails []) sampleGuid item]) = .err (.unspecified "Error deserializing value") ∧
    ¬ Intact (storedItems (reference .release)) GuidKey.toText .inOrder
      (performAll (storedItems (reference .release)) GuidKey.toText
        [.storeData .renameFails sampleGuid item]) (fun _ => none) := by
  obtain ⟨item, raw, hser, hdec⟩ := sampleItem_exact
  have hempty : (storedItems (reference .release)).deserializeData [] = .err (.arrayParseError .noData) := rfl
  have hlisted : loadAllData (storedItems (reference .release)) .inOrder
      (performAll (storedItems (reference .release)) GuidKey.toText
        [.storeData .renameFails sampleGuid item]) = .ok [item] := by
    simp [performAll, StoreCall.perform, storeData, hser, writeNew, loadAllData, Listing.inOrder, readAll, hdec]
  refine ⟨item, hlisted, ?_, ?_⟩
  · simp [performAll, StoreCall.perform, storeData, writeNew, loadAllData, Listing.inOrder, readAll, hempty]
  · rintro ⟨_, ⟨values, keys, hread, _, hkeys, hvalues⟩, _⟩
    obtain rfl := Outcome.ok.inj (hlisted.symm.trans hread)
    cases keys with
    | nil => cases hvalues
    | cons key keys => simpa using (hkeys key).mp List.mem_cons_self

end FidoOnboard.Stores.Files
