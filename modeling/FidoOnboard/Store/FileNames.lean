import FidoOnboard.Store.Files
import FidoOnboard.Store.Database

/-!
# Keys that share a file

The name of a file is the key with its slashes written out, and the temporary
file beside it has that name between `.` and `.tmp`. Two keys are kept apart as
long as these names are.
-/
namespace FidoOnboard.Stores.Files
open Reference

variable {V L : Type} [MetadataLocalKey L]

/-- A key that names a file of the directory: not empty, `.` or `..`. -/
abbrev FileKey := { key : Text // key ≠ [] ∧ key ≠ ".".toList ∧ key ≠ "..".toList }

inductive Operation (V L : Type) where
  | storeData (fate : Fate) (value : V)
  | destroyData
  | storeMetadata (metadataKey : MetadataKey L) (value : MetadataValue)
  | loadData

/-- The directory an operation on a key leaves behind. -/
def Operation.perform (codec : Serializable V) (now : Instant) (key : Text) (folder : Folder) :
    Operation V L → Folder
  | .storeData fate value => (Files.storeData codec fate key value folder).2
  | .destroyData => (Files.destroyData key folder).2
  | .storeMetadata metadataKey value => (Files.storeMetadata now key metadataKey value folder).2
  | .loadData => (Files.loadData codec now key folder).2

/-- One operation of a run, with the time and the key it is made at. -/
structure Request (V L : Type) where
  now : Instant
  key : FileKey
  operation : Operation V L

def Request.perform (codec : Serializable V) (folder : Folder) (request : Request V L) : Folder :=
  request.operation.perform codec request.now request.key folder

/-- The directory that requests leave which find `folder`. -/
def after (codec : Serializable V) (requests : List (Request V L)) (folder : Folder) : Folder :=
  requests.foldl (Request.perform codec) folder

/-- In no run do the operations on `a` change what loading `b` returns, whatever is done to
other keys meanwhile. -/
def Separate (L : Type) [MetadataLocalKey L] (codec : Serializable V) (a b : FileKey) : Prop :=
  ∀ (requests : List (Request V L)) (now : Instant),
    (loadData codec now b (after codec requests ∅)).1 =
      (loadData codec now b (after codec (requests.filter fun request => request.key ≠ a) ∅)).1

/-- The name of the temporary file beside a file. -/
def beside (path : Text) : Text := '.' :: (path ++ ".tmp".toList)

/-- What the names of two keys must not be: neither file is the other or the temporary file of
the first, and the first is not the temporary file of the second, or of a key that is, and so on. -/
structure NamesDiffer (a b : Text) : Prop where
  temp : tempPath a ≠ getPath b
  file : ∀ n, beside^[n] (getPath b) ≠ getPath a

theorem beside_injective : Function.Injective beside := by
  intro path path' h
  obtain ⟨_, htail⟩ := List.cons.inj h
  exact List.append_cancel_right htail

/-! ## What an operation touches -/

theorem lookup_writeNew_ne {path other : Text} (h : other ≠ path) (data : Bytes) (folder : Folder) :
    (writeNew path data folder).lookup other = folder.lookup other :=
  AList.lookup_insert_ne h

theorem lookup_storeData {codec : Serializable V} {fate : Fate} {key path : Text} {value : V} {folder : Folder}
    (hpath : path ≠ getPath key) (htemp : path ≠ tempPath key) :
    (storeData codec fate key value folder).2.lookup path = folder.lookup path := by
  have hwritten : ∀ data, (writeNew (tempPath key) data folder).lookup path = folder.lookup path :=
    fun data => lookup_writeNew_ne htemp data folder
  have hrenamed : ∀ data,
      (rename (tempPath key) (getPath key) (writeNew (tempPath key) data folder)).lookup path =
        folder.lookup path := by
    intro data
    unfold rename
    split
    · rw [AList.lookup_insert_ne hpath, AList.lookup_erase_ne htemp, hwritten]
    · exact hwritten data
  rcases storeData_cases codec fate key value folder with
    ⟨raw, _, _, hleft⟩ | ⟨_, _, hleft⟩ | ⟨_, _, data, hleft⟩
  · rw [hleft, hrenamed]
  · rw [hleft]
  · rw [hleft, hwritten]

theorem lookup_destroyData {key path : Text} {folder : Folder} (hpath : path ≠ getPath key) :
    (destroyData key folder).2.lookup path = folder.lookup path := by
  simp only [destroyData]
  split
  · rfl
  · exact AList.lookup_erase_ne hpath

theorem lookup_storeMetadata {now : Instant} {key path : Text} {metadataKey : MetadataKey L}
    {value : MetadataValue} {folder : Folder} (hpath : path ≠ getPath key) :
    (storeMetadata now key metadataKey value folder).2.lookup path = folder.lookup path := by
  simp only [storeMetadata]
  split
  · rfl
  · split
    · exact AList.lookup_insert_ne hpath
    · rfl
    · rfl

theorem lookup_loadData {codec : Serializable V} {now : Instant} {key path : Text} {folder : Folder}
    (hpath : path ≠ getPath key) : (loadData codec now key folder).2.lookup path = folder.lookup path := by
  simp only [loadData]
  split
  · rfl
  · split
    · exact AList.lookup_erase_ne hpath
    · rfl
    · rfl
    · rfl

/-- An operation leaves every file alone but the one of its key and the temporary one. -/
theorem lookup_perform {codec : Serializable V} {now : Instant} {key path : Text} {folder : Folder}
    (operation : Operation V L) (hpath : path ≠ getPath key) (htemp : path ≠ tempPath key) :
    (operation.perform codec now key folder).lookup path = folder.lookup path := by
  cases operation with
  | storeData fate value => exact lookup_storeData hpath htemp
  | destroyData => exact lookup_destroyData hpath
  | storeMetadata metadataKey value => exact lookup_storeMetadata hpath
  | loadData => exact lookup_loadData hpath

theorem loadData_congr {codec : Serializable V} {now : Instant} {key : Text} {folder folder' : Folder}
    (h : folder'.lookup (getPath key) = folder.lookup (getPath key)) :
    (loadData codec now key folder').1 = (loadData codec now key folder).1 := by
  simp only [loadData, h]
  split
  · rfl
  · split <;> rfl

/-! ## What an operation depends on -/

/-- Two directories with the same file under a name, and under the temporary names that lead to it. -/
def Alike (path : Text) (folder folder' : Folder) : Prop :=
  ∀ n, folder.lookup (beside^[n] path) = folder'.lookup (beside^[n] path)

theorem lookup_writeNew_congr {path other : Text} {folder folder' : Folder}
    (h : folder.lookup other = folder'.lookup other) (data : Bytes) :
    (writeNew path data folder).lookup other = (writeNew path data folder').lookup other := by
  by_cases hpath : other = path
  · subst hpath
    rw [writeNew, writeNew, AList.lookup_insert, AList.lookup_insert, h]
  · rw [lookup_writeNew_ne hpath, lookup_writeNew_ne hpath, h]

theorem tempPath_ne_getPath (key : Text) : tempPath key ≠ getPath key := by
  intro h
  have hlength : (getPath key).length + 4 + 1 = (getPath key).length := by
    simpa [tempPath] using congrArg List.length h
  omega

/-- Storing a key looks at the attributes of its temporary file. -/
theorem lookup_storeData_congr {codec : Serializable V} {fate : Fate} {key path : Text} {value : V}
    {folder folder' : Folder} (h : folder.lookup path = folder'.lookup path)
    (htemp : path = getPath key → folder.lookup (tempPath key) = folder'.lookup (tempPath key)) :
    (storeData codec fate key value folder).2.lookup path =
      (storeData codec fate key value folder').2.lookup path := by
  have hwritten : ∀ data, (writeNew (tempPath key) data folder).lookup path =
      (writeNew (tempPath key) data folder').lookup path := lookup_writeNew_congr h
  have hrenamed : ∀ data,
      (rename (tempPath key) (getPath key) (writeNew (tempPath key) data folder)).lookup path =
        (rename (tempPath key) (getPath key) (writeNew (tempPath key) data folder')).lookup path := by
    intro data
    obtain ⟨hfinal, hgone, hother⟩ := rename_writeNew (tempPath_ne_getPath key).symm data folder
    obtain ⟨hfinal', hgone', hother'⟩ := rename_writeNew (tempPath_ne_getPath key).symm data folder'
    by_cases hpath : path = getPath key
    · rw [hpath, hfinal, hfinal', htemp hpath]
    · by_cases hbeside : path = tempPath key
      · rw [hbeside, hgone, hgone']
      · rw [hother path hbeside hpath, hother' path hbeside hpath, h]
  cases fate with
  | createFails => exact h
  | writeFails written => exact hwritten written
  | renameFails =>
      cases hraw : codec.serializeData value <;> simp only [storeData, hraw] <;> exact hwritten _
  | completes =>
      cases hraw : codec.serializeData value <;> simp only [storeData, hraw]
      · exact hrenamed _
      · exact hwritten _
      · exact hwritten _

theorem lookup_destroyData_congr {key path : Text} {folder folder' : Folder}
    (h : folder.lookup path = folder'.lookup path) :
    (destroyData key folder).2.lookup path = (destroyData key folder').2.lookup path := by
  by_cases hpath : path = getPath key
  · subst hpath
    simp only [destroyData, ← h]
    split
    · exact h
    · rw [AList.lookup_erase, AList.lookup_erase]
  · rw [lookup_destroyData hpath, lookup_destroyData hpath, h]

theorem lookup_storeMetadata_congr {now : Instant} {key path : Text} {metadataKey : MetadataKey L}
    {value : MetadataValue} {folder folder' : Folder} (h : folder.lookup path = folder'.lookup path) :
    (storeMetadata now key metadataKey value folder).2.lookup path =
      (storeMetadata now key metadataKey value folder').2.lookup path := by
  by_cases hpath : path = getPath key
  · subst hpath
    simp only [storeMetadata, ← h]
    split
    · exact h
    · split
      · rw [AList.lookup_insert, AList.lookup_insert]
      · exact h
      · exact h
  · rw [lookup_storeMetadata hpath, lookup_storeMetadata hpath, h]

theorem lookup_loadData_congr {codec : Serializable V} {now : Instant} {key path : Text}
    {folder folder' : Folder} (h : folder.lookup path = folder'.lookup path) :
    (loadData codec now key folder).2.lookup path = (loadData codec now key folder').2.lookup path := by
  by_cases hpath : path = getPath key
  · subst hpath
    simp only [loadData, ← h]
    split
    · exact h
    · split
      · rw [AList.lookup_erase, AList.lookup_erase]
      · exact h
      · exact h
      · exact h
  · rw [lookup_loadData hpath, lookup_loadData hpath, h]

/-- The file of `path` and the names behind it are all that an operation on any key needs to
keep two directories alike. -/
theorem Alike.perform {codec : Serializable V} {path : Text} {folder folder' : Folder}
    (h : Alike path folder folder') (request : Request V L) :
    Alike path (request.perform codec folder) (request.perform codec folder') := by
  intro n
  have hhere := h n
  have hbehind := h (n + 1)
  rw [Function.iterate_succ_apply'] at hbehind
  obtain ⟨now, key, operation⟩ := request
  cases operation with
  | storeData fate value =>
      refine lookup_storeData_congr hhere ?_
      intro hpath
      have htemp : tempPath key = beside (beside^[n] path) := congrArg beside hpath.symm
      rw [htemp]
      exact hbehind
  | destroyData => exact lookup_destroyData_congr hhere
  | storeMetadata metadataKey value => exact lookup_storeMetadata_congr hhere
  | loadData => exact lookup_loadData_congr hhere

/-- An operation on a key that differs in its names is not seen behind the other one. -/
theorem Alike.of_apart {codec : Serializable V} {a b : Text} {folder folder' : Folder} {request : Request V L}
    (h : Alike (getPath b) folder folder') (differ : NamesDiffer a b) (hkey : request.key = a) :
    Alike (getPath b) (request.perform codec folder) folder' := by
  intro n
  rw [← h n]
  refine lookup_perform request.operation ?_ ?_
  · rw [hkey]
    exact differ.file n
  · rw [hkey]
    intro hbeside
    cases n with
    | zero => exact differ.temp hbeside.symm
    | succ n =>
        rw [Function.iterate_succ_apply'] at hbeside
        exact differ.file n (beside_injective hbeside)

theorem Alike.after {codec : Serializable V} {a b : FileKey} (differ : NamesDiffer a b)
    (requests : List (Request V L)) {folder folder' : Folder} (h : Alike (getPath b) folder folder') :
    Alike (getPath b) (after codec requests folder)
      (after codec (requests.filter fun request => request.key ≠ a) folder') := by
  induction requests generalizing folder folder' with
  | nil => exact h
  | cons request requests ih =>
      by_cases hkey : request.key = a
      · rw [List.filter_cons_of_neg (by simpa using hkey)]
        exact ih (h.of_apart differ (congrArg Subtype.val hkey))
      · rw [List.filter_cons_of_pos (by simpa using hkey)]
        exact ih (h.perform request)

theorem separate_of_names {codec : Serializable V} {a b : FileKey} (differ : NamesDiffer a b) :
    Separate L codec a b := by
  intro requests now
  have halike : Alike (getPath b) ∅ ∅ := fun _ => rfl
  have hleft : Alike (getPath b) (after codec requests ∅)
      (after codec (requests.filter fun request => request.key ≠ a) ∅) := Alike.after differ requests halike
  exact loadData_congr (hleft 0)

/-! ## Names that meet -/

/-- A file without a time to live is not taken for an absent one. -/
theorem loadData_present {codec : Serializable V} {now : Instant} {key : Text} {folder : Folder} {file : Inode}
    (hfile : folder.lookup (getPath key) = some file) (httl : file.xattrs (formatXattr ttlKey) = none) :
    (loadData codec now key folder).1 ≠ .ok none := by
  have hseen : DirectoryStore.hasExpired now file.seen = .ok false := by
    simp only [DirectoryStore.hasExpired, Inode.seen, httl]
  simp only [loadData, hfile, hseen, DirectoryStore.readValue]
  intro h
  obtain ⟨value, _, hvalue⟩ := Outcome.bind_eq_ok.mp h
  cases Outcome.ok.inj hvalue

/-- A file whose time to live is over is. -/
theorem loadData_expired {codec : Serializable V} {key : Text} {folder : Folder} {file : Inode}
    (hfile : folder.lookup (getPath key) = some file)
    (httl : file.xattrs (formatXattr ttlKey) = some (toLeBytes 0)) :
    (loadData codec 1 key folder).1 = .ok none := by
  have hseen : DirectoryStore.hasExpired 1 file.seen = .ok true := by
    simp only [DirectoryStore.hasExpired, Inode.seen, httl]
    decide
  simp only [loadData, hfile, hseen]

/-- What storing leaves under the key and under the temporary name. -/
theorem lookup_stored {codec : Serializable V} {value : V} {raw : Bytes} (key : Text) (folder : Folder)
    (hraw : codec.serializeData value = .ok raw) :
    (storeData codec .completes key value folder).2.lookup (getPath key) =
        some ⟨raw, (folder.lookup (tempPath key)).elim noXattrs Inode.xattrs⟩ ∧
      (storeData codec .completes key value folder).2.lookup (tempPath key) = none := by
  obtain ⟨hfinal, htemp, _⟩ := rename_writeNew (tempPath_ne_getPath key).symm raw folder
  simp only [storeData, hraw]
  exact ⟨hfinal, htemp⟩

theorem lookup_stored_fresh {codec : Serializable V} {value : V} {raw : Bytes} (key : Text)
    (hraw : codec.serializeData value = .ok raw) :
    (storeData codec .completes key value ∅).2.lookup (getPath key) = some ⟨raw, noXattrs⟩ :=
  (lookup_stored key ∅ hraw).1

section Interference

variable {codec : Serializable V} {value : V} {raw : Bytes}

/-- Two keys with one file: what is stored under the first is found under the second. -/
theorem not_separate_of_path (hraw : codec.serializeData value = .ok raw) {a b : FileKey}
    (h : getPath a = getPath b) : ¬ Separate L codec a b := by
  intro hsep
  have hload := hsep [⟨0, a, .storeData .completes value⟩] 0
  have hfile := lookup_stored_fresh (a : Text) hraw
  rw [h] at hfile
  refine loadData_present hfile rfl (hload.trans ?_)
  rw [List.filter_cons_of_neg (by simp)]
  rfl

/-- A file under the temporary name of another key is carried off when that key is stored. -/
theorem not_separate_of_temp (hraw : codec.serializeData value = .ok raw) {a b : FileKey}
    (h : tempPath a = getPath b) : ¬ Separate L codec a b := by
  intro hsep
  have hne : b ≠ a := by
    rintro rfl
    exact tempPath_ne_getPath b h
  have hload := hsep [⟨0, b, .storeData .completes value⟩, ⟨0, a, .storeData .completes value⟩] 0
  rw [List.filter_cons_of_pos (by simpa using hne), List.filter_cons_of_neg (by simp)] at hload
  have hgone := (lookup_stored (a : Text) (storeData codec .completes b value ∅).2 hraw).2
  rw [h] at hgone
  have habsent : (loadData codec 0 b (storeData codec .completes a value
      (storeData codec .completes b value ∅).2).2).1 = .ok none := by
    simp only [loadData, hgone]
  exact loadData_present (lookup_stored_fresh (b : Text) hraw) rfl (hload.symm.trans habsent)

theorem slash_not_mem_getPath (key : Text) : '/' ∉ getPath key := by
  intro h
  obtain ⟨c, _, hc⟩ := List.mem_flatMap.mp h
  unfold DirectoryStore.replaceSlash at hc
  split at hc
  · exact absurd hc (by decide)
  · next hne => exact hne (List.mem_singleton.mp hc).symm

theorem slash_not_mem_beside {path : Text} (h : '/' ∉ path) : '/' ∉ beside path := by
  intro hmem
  rcases List.mem_cons.mp hmem with hdot | hmem
  · exact absurd hdot (by decide)
  · rcases List.mem_append.mp hmem with hmem | hmem
    · exact h hmem
    · exact absurd hmem (by decide)

theorem getPath_plain {key : Text} (h : '/' ∉ key) : getPath key = key := by
  have hplain : ∀ c ∈ key, DirectoryStore.replaceSlash c = [c] := by
    intro c hc
    refine if_neg ?_
    rintro rfl
    exact h hc
  rw [getPath, List.flatMap_congr hplain, List.flatMap_singleton']

/-- Every name behind a key's file is the file of a key. -/
theorem exists_key (b : FileKey) (n : Nat) : ∃ key : FileKey, getPath key = beside^[n] (getPath b) := by
  have hplain : '/' ∉ beside^[n] (getPath b) := by
    induction n with
    | zero => exact slash_not_mem_getPath b
    | succ n ih =>
        rw [Function.iterate_succ_apply']
        exact slash_not_mem_beside ih
  cases n with
  | zero => exact ⟨b, rfl⟩
  | succ n =>
      have hname : beside^[n + 1] (getPath b) = beside (beside^[n] (getPath b)) :=
        Function.iterate_succ_apply' ..
      refine ⟨⟨beside^[n + 1] (getPath b), ?_⟩, getPath_plain hplain⟩
      rw [hname]
      refine ⟨by simp [beside], ?_, ?_⟩
      · intro h
        simpa [beside] using congrArg List.length h
      · intro h
        simpa [beside] using congrArg List.length h

theorem beside_length (n : Nat) (path : Text) : (beside^[n] path).length = path.length + 5 * n := by
  induction n with
  | zero => rfl
  | succ n ih =>
      have hsuffix : ".tmp".toList.length = 4 := rfl
      rw [Function.iterate_succ_apply', beside, List.length_cons, List.length_append, ih, hsuffix]
      omega

/-- Storing one key after the other, from `n` names behind a file on, brings the attributes
there to the file. -/
theorem carried (hraw : codec.serializeData value = .ok raw) (b : FileKey) (n : Nat) :
    ∃ requests : List (Request V L),
      (∀ request ∈ requests, ∃ k ≤ n, getPath request.key = beside^[k] (getPath b)) ∧
      ∀ folder, (after codec requests folder).lookup (getPath b) =
        some ⟨raw, (folder.lookup (beside^[n + 1] (getPath b))).elim noXattrs Inode.xattrs⟩ := by
  induction n with
  | zero =>
      refine ⟨[⟨0, b, .storeData .completes value⟩], ?_, ?_⟩
      · intro request hrequest
        exact ⟨0, le_rfl, congrArg _ (congrArg _ (congrArg _ (List.mem_singleton.mp hrequest)))⟩
      · intro folder
        exact (lookup_stored (b : Text) folder hraw).1
  | succ n ih =>
      obtain ⟨requests, hkeys, hcarried⟩ := ih
      obtain ⟨key, hkey⟩ := exists_key b (n + 1)
      refine ⟨⟨0, key, .storeData .completes value⟩ :: requests, ?_, ?_⟩
      · intro request hrequest
        rcases List.mem_cons.mp hrequest with rfl | hrequest
        · exact ⟨n + 1, le_rfl, hkey⟩
        · obtain ⟨k, hk, hpath⟩ := hkeys request hrequest
          exact ⟨k, by omega, hpath⟩
      · intro folder
        have hstored := (lookup_stored (key : Text) folder hraw).1
        have htemp : tempPath key = beside^[n + 2] (getPath b) := by
          rw [Function.iterate_succ_apply', ← hkey]
          rfl
        rw [hkey, htemp] at hstored
        have hlast := hcarried (storeData codec .completes key value folder).2
        rw [hstored] at hlast
        exact hlast

/-- An attribute set on a file that other keys take over is found under the last of them. -/
theorem not_separate_of_behind (hraw : codec.serializeData value = .ok raw) {a b : FileKey} {n : Nat}
    (h : beside^[n + 1] (getPath b) = getPath a) : ¬ Separate L codec a b := by
  intro hsep
  obtain ⟨requests, hkeys, hcarried⟩ := carried (L := L) hraw b n
  have hothers : ∀ request ∈ requests, request.key ≠ a := by
    intro request hrequest hkey
    obtain ⟨k, hk, hpath⟩ := hkeys request hrequest
    rw [hkey, ← h] at hpath
    have hlength := congrArg List.length hpath
    rw [beside_length, beside_length] at hlength
    omega
  have hload := hsep (⟨0, a, .storeData .completes value⟩ ::
    ⟨0, a, .storeMetadata .ttl (.duration 0)⟩ :: requests) 1
  rw [List.filter_cons_of_neg (by simp), List.filter_cons_of_neg (by simp),
    List.filter_eq_self.mpr fun request hrequest => by simpa using hothers request hrequest] at hload
  have hclean := hcarried ∅
  have hleft : (loadData codec 1 b (after codec requests ∅)).1 ≠ .ok none :=
    loadData_present hclean rfl
  refine hleft (hload.symm.trans ?_)
  have hexpired : (after codec requests (storeMetadata 0 a (.ttl : MetadataKey L) (.duration 0)
      (storeData codec .completes a value ∅).2).2).lookup (getPath b) =
        some ⟨raw, Function.update noXattrs (formatXattr ttlKey) (some (toLeBytes 0))⟩ := by
    rw [hcarried, h]
    have hstored := lookup_stored_fresh (a : Text) hraw
    have hzero : Stores.toStored 0 0 = .ok (toLeBytes 0) := by decide
    simp only [storeMetadata, hstored, MetadataValue.toStored, hzero, AList.lookup_insert]
    rfl
  exact loadData_expired hexpired (Function.update_self (formatXattr ttlKey) _ noXattrs)

end Interference

/-- Keys are kept apart exactly as long as the names of their files are. -/
theorem separate_iff_names_differ {codec : Serializable V} {value : V} {raw : Bytes}
    (hraw : codec.serializeData value = .ok raw) (a b : FileKey) :
    Separate L codec a b ↔ NamesDiffer a b := by
  constructor
  · intro hsep
    refine ⟨fun h => not_separate_of_temp hraw h hsep, ?_⟩
    intro n h
    cases n with
    | zero => exact not_separate_of_path hraw h.symm hsep
    | succ n => exact not_separate_of_behind hraw h hsep
  · exact separate_of_names

theorem head_beside {path name : Text} (hdot : name.head? ≠ some '.') (n : Nat) :
    beside^[n + 1] path ≠ name := by
  rw [Function.iterate_succ_apply']
  rintro rfl
  exact hdot rfl

/-- Names without a dot in front are no temporary names. -/
theorem NamesDiffer.of_plain {a b : Text} (hne : getPath b ≠ getPath a)
    (ha : (getPath a).head? ≠ some '.') (hb : (getPath b).head? ≠ some '.') : NamesDiffer a b := by
  have htemp : beside (getPath a) ≠ getPath b := head_beside hb 0
  refine ⟨htemp, ?_⟩
  intro n
  cases n with
  | zero => exact hne
  | succ n => exact head_beside ha n

/-- A session id and a serial number, on a store of registrations. -/
theorem separate_iff_names_differ_sample : ∃ item, sampleItem = .ok item ∧
    Separate OwnershipVoucherStoreMetadataKey (storedItems (reference .release))
      ⟨"session".toList, by decide⟩ ⟨"serial/1".toList, by decide⟩ := by
  obtain ⟨item, hitem, raw, _, hraw, _⟩ := sampleItem_readsBack
  have hkeys := separate_iff_names_differ (L := OwnershipVoucherStoreMetadataKey) hraw
    ⟨"session".toList, by decide⟩ ⟨"serial/1".toList, by decide⟩
  exact ⟨item, hitem, hkeys.mpr (.of_plain (by decide) (by decide) (by decide))⟩

/-- A slash and its escape name one file, a key may be the temporary name of another, and
then its attributes end up with that one. -/
theorem names_meet :
    ¬ Separate OwnershipVoucherStoreMetadataKey (storedItems (reference .release))
      ⟨"a/b".toList, by decide⟩ ⟨"a_slash_b".toList, by decide⟩ ∧
    ¬ Separate OwnershipVoucherStoreMetadataKey (storedItems (reference .release))
      ⟨"a".toList, by decide⟩ ⟨".a.tmp".toList, by decide⟩ ∧
    ¬ Separate OwnershipVoucherStoreMetadataKey (storedItems (reference .release))
      ⟨".x.tmp".toList, by decide⟩ ⟨"x".toList, by decide⟩ ∧
    ¬ Function.Injective fun key : FileKey => getPath key := by
  obtain ⟨_, _, raw, _, hraw, _⟩ := sampleItem_readsBack
  refine ⟨not_separate_of_path hraw (by decide), not_separate_of_temp hraw (by decide),
    not_separate_of_behind (n := 0) hraw (by decide), ?_⟩
  intro hinj
  have hsame : (⟨"a/b".toList, by decide⟩ : FileKey) = ⟨"a_slash_b".toList, by decide⟩ := hinj (by decide)
  exact absurd (congrArg Subtype.val hsame) (by decide)

end FidoOnboard.Stores.Files
