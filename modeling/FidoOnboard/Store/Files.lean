import FidoOnboard.Store.Directory

/-!
# `store/src/directory.rs` under any key

All of the directory store: keys of any text, every extended attribute, the two
readers of the whole directory, and the points at which storing can break off.
The file system keeps every name it is given; it can fail only where a `Fate`
says so, or where a file or an attribute is not there.
-/
namespace FidoOnboard.Stores

/-! ## Metadata -/

class MetadataLocalKey (L : Type) where
  toKey : L → Text

inductive MetadataKey (L : Type) where
  | ttl
  | localKey (key : L)
  deriving DecidableEq, Repr

def ttlKey : Text := "store_ttl".toList

def MetadataKey.toKey {L : Type} [MetadataLocalKey L] : MetadataKey L → Text
  | .ttl => ttlKey
  | .localKey key => MetadataLocalKey.toKey key

inductive OwnershipVoucherStoreMetadataKey where
  | to2Performed
  | to0AcceptOwnerWaitSeconds
  deriving DecidableEq, Repr

instance : MetadataLocalKey OwnershipVoucherStoreMetadataKey where
  toKey
    | .to2Performed => "fdo.to2_performed".toList
    | .to0AcceptOwnerWaitSeconds => "fdo.to0_accept_owner_wait_seconds".toList

inductive MetadataValue where
  | bool (value : Bool)
  | duration (value : Int)
  deriving DecidableEq, Repr

/-- `bool::to_string`, as bytes. -/
def boolText (b : Bool) : Bytes :=
  if b then [0x74, 0x72, 0x75, 0x65] else [0x66, 0x61, 0x6c, 0x73, 0x65]

def MetadataValue.toStored (now : Instant) : MetadataValue → Outcome StoreError Bytes
  | .bool b => .ok (boolText b)
  | .duration d => Stores.toStored now d

namespace Files

/-! ## The file system -/

structure Inode where
  contents : Bytes
  xattrs : Text → Option Bytes

abbrev Folder := AList fun _ : Text => Inode

def noXattrs : Text → Option Bytes := fun _ => none

/-- `File::create` and what is then written: a file that is there keeps its attributes. -/
def writeNew (path : Text) (data : Bytes) (folder : Folder) : Folder :=
  folder.insert path ⟨data, (folder.lookup path).elim noXattrs Inode.xattrs⟩

def rename (path path' : Text) (folder : Folder) : Folder :=
  match folder.lookup path with
  | some file => (folder.erase path).insert path' file
  | none => folder

/-! ## The store -/

def formatXattr (key : Text) : Text := "user.".toList ++ key

def getPath (key : Text) : Text := key.flatMap DirectoryStore.replaceSlash

def tempPath (key : Text) : Text := '.' :: (getPath key ++ ".tmp".toList)

/-- The file as far as `load_data` looks at it. -/
def Inode.seen (file : Inode) : File := ⟨file.contents, file.xattrs (formatXattr ttlKey)⟩

variable {V L : Type} [MetadataLocalKey L]

def loadData (codec : Serializable V) (now : Instant) (key : Text) (folder : Folder) :
    Outcome StoreError (Option V) × Folder :=
  match folder.lookup (getPath key) with
  | none => (.ok none, folder)
  | some file =>
    match DirectoryStore.hasExpired now file.seen with
    | .ok true => (.ok none, folder.erase (getPath key))
    | .ok false => (DirectoryStore.readValue codec file.seen, folder)
    | .err e => (.err e, folder)
    | .panic => (.panic, folder)

def storeMetadata (now : Instant) (key : Text) (metadataKey : MetadataKey L) (value : MetadataValue)
    (folder : Folder) : Outcome StoreError Unit × Folder :=
  match folder.lookup (getPath key) with
  | none => (.ok (), folder)
  | some file =>
    match value.toStored now with
    | .ok data =>
      (.ok (), folder.insert (getPath key)
        { file with xattrs := Function.update file.xattrs (formatXattr metadataKey.toKey) (some data) })
    | .err e => (.err e, folder)
    | .panic => (.panic, folder)

/-- An attribute that is not there cannot be removed. -/
def destroyMetadata (key : Text) (metadataKey : MetadataKey L) (folder : Folder) :
    Outcome StoreError Unit × Folder :=
  match folder.lookup (getPath key) with
  | none => (.ok (), folder)
  | some file =>
    if (file.xattrs (formatXattr metadataKey.toKey)).isNone then
      (.err (.unspecified "Error removing xattr"), folder)
    else
      (.ok (), folder.insert (getPath key)
        { file with xattrs := Function.update file.xattrs (formatXattr metadataKey.toKey) none })

/-- How far one `store_data` gets before the disk or the process gives out. -/
inductive Fate where
  | createFails
  | writeFails (written : Bytes)
  | renameFails
  | completes
  deriving DecidableEq, Repr

/-- A value that cannot be serialized leaves an empty temporary file. -/
def storeData (codec : Serializable V) (fate : Fate) (key : Text) (value : V) (folder : Folder) :
    Outcome StoreError Unit × Folder :=
  match fate, codec.serializeData value with
  | .createFails, _ => (.err (.unspecified "Error creating file"), folder)
  | .writeFails written, _ =>
    (.err (.unspecified "Error writing file"), writeNew (tempPath key) written folder)
  | _, .err _ => (.err (.unspecified "Error writing file"), writeNew (tempPath key) [] folder)
  | _, .panic => (.panic, writeNew (tempPath key) [] folder)
  | .renameFails, .ok raw =>
    (.err (.unspecified "Error moving temporary file"), writeNew (tempPath key) raw folder)
  | .completes, .ok raw =>
    (.ok (), rename (tempPath key) (getPath key) (writeNew (tempPath key) raw folder))

def Succeeds (codec : Serializable V) (fate : Fate) (value : V) : Bool :=
  fate == .completes && (codec.serializeData value).isOk

/-- All that storing can leave: the new file, nothing new, or a temporary file. -/
theorem storeData_cases (codec : Serializable V) (fate : Fate) (key : Text) (value : V) (folder : Folder) :
    (∃ raw, Succeeds codec fate value = true ∧ codec.serializeData value = .ok raw ∧
      (storeData codec fate key value folder).2 =
        rename (tempPath key) (getPath key) (writeNew (tempPath key) raw folder)) ∨
    (Succeeds codec fate value = false ∧ fate = .createFails ∧
      (storeData codec fate key value folder).2 = folder) ∨
    (Succeeds codec fate value = false ∧ fate ≠ .createFails ∧ ∃ data,
      (storeData codec fate key value folder).2 = writeNew (tempPath key) data folder) := by
  cases fate with
  | createFails => exact .inr (.inl ⟨rfl, rfl, rfl⟩)
  | writeFails written => exact .inr (.inr ⟨rfl, by simp, written, rfl⟩)
  | renameFails =>
      refine .inr (.inr ⟨rfl, by simp, ?_⟩)
      cases hraw : codec.serializeData value with
      | ok raw => exact ⟨raw, by simp only [storeData, hraw]⟩
      | err e => exact ⟨[], by simp only [storeData, hraw]⟩
      | panic => exact ⟨[], by simp only [storeData, hraw]⟩
  | completes =>
      cases hraw : codec.serializeData value with
      | ok raw => exact .inl ⟨raw, by simp [Succeeds, hraw, Outcome.isOk], rfl, by simp only [storeData, hraw]⟩
      | err e =>
          exact .inr (.inr ⟨by simp [Succeeds, hraw, Outcome.isOk], by simp, [], by simp only [storeData, hraw]⟩)
      | panic =>
          exact .inr (.inr ⟨by simp [Succeeds, hraw, Outcome.isOk], by simp, [], by simp only [storeData, hraw]⟩)

def destroyData (key : Text) (folder : Folder) : Outcome StoreError Unit × Folder :=
  match folder.lookup (getPath key) with
  | none => (.err (.unspecified "Error removing"), folder)
  | some _ => (.ok (), folder.erase (getPath key))

/-- The loop of `load_all_data`, over every file there is. -/
def readAll (codec : Serializable V) : List (Σ _ : Text, Inode) → Outcome StoreError (List V)
  | [] => .ok []
  | ⟨_, file⟩ :: entries => do
    let value ← (codec.deserializeData file.contents).mapErr fun _ =>
      StoreError.unspecified "Error deserializing value"
    let values ← readAll codec entries
    .ok (value :: values)

def loadAllData (codec : Serializable V) (scan : Listing Inode) (folder : Folder) : Outcome StoreError (List V) :=
  readAll codec (scan.readDir folder)

/-! ## Filters -/

structure FilterType where
  neqs : List (Text × Bytes)
  lts : List (Text × Int)

def queryData : FilterType := ⟨[], []⟩

def FilterType.neq (filter : FilterType) (now : Instant) (key : MetadataKey L) (expected : MetadataValue) :
    Outcome StoreError FilterType := do
  let stored ← (expected.toStored now).unwrap
  .ok { filter with neqs := filter.neqs ++ [(key.toKey, stored)] }

def FilterType.lt (filter : FilterType) (key : MetadataKey L) (max : Int) : FilterType :=
  { filter with lts := filter.lts ++ [(key.toKey, max)] }

/-- The number of places where the two byte strings agree. -/
def matching (expected v : Bytes) : Nat := (expected.zip v).countP fun p => p.1 == p.2

def differs (file : Inode) (neq : Text × Bytes) : Bool :=
  match file.xattrs (formatXattr neq.1) with
  | some v => neq.2.length != matching neq.2 v
  | none => true

/-- An attribute that is not eight bytes long stops the program. -/
def isLess (file : Inode) (lt : Text × Int) : Outcome StoreError Bool :=
  match file.xattrs (formatXattr lt.1) with
  | some v => if v.length = 8 then .ok (decide (i64FromLeBytes v < lt.2)) else .panic
  | none => .ok true

/-- Some one of the tests has to hold. -/
def anyLess (file : Inode) : List (Text × Int) → Outcome StoreError Bool
  | [] => .ok false
  | lt :: lts => do
    let here ← isLess file lt
    let there ← anyLess file lts
    .ok (here || there)

def selects (filter : FilterType) (file : Inode) : Outcome StoreError Bool :=
  if filter.neqs.any (differs file) then anyLess file filter.lts else .ok false

/-- The files that pass, each read again; those that do not decode are passed over. -/
def queryEntries (codec : Serializable V) (filter : FilterType) :
    List (Σ _ : Text, Inode) → Outcome StoreError (List V)
  | [] => .ok []
  | ⟨_, file⟩ :: entries => do
    let selected ← selects filter file
    let values ← queryEntries codec filter entries
    if selected then
      match codec.deserializeData file.contents with
      | .ok value => .ok (value :: values)
      | .err _ => .ok values
      | .panic => .panic
    else .ok values

def query (codec : Serializable V) (scan : Listing Inode) (filter : FilterType) (folder : Folder) :
    Outcome StoreError (List V) :=
  queryEntries codec filter (scan.readDir folder)

/-! ## The same store, seen by its times to live alone -/

theorem rename_writeNew {path path' : Text} (hne : path' ≠ path) (data : Bytes) (folder : Folder) :
    (rename path path' (writeNew path data folder)).lookup path' =
        some ⟨data, (folder.lookup path).elim noXattrs Inode.xattrs⟩ ∧
      (rename path path' (writeNew path data folder)).lookup path = none ∧
      ∀ other, other ≠ path → other ≠ path' →
        (rename path path' (writeNew path data folder)).lookup other = folder.lookup other := by
  simp only [rename, writeNew, AList.lookup_insert]
  refine ⟨trivial, ?_, ?_⟩
  · rw [AList.lookup_insert_ne hne.symm, AList.lookup_erase]
  · intro other hpath hpath'
    rw [AList.lookup_insert_ne hpath', AList.lookup_erase_ne hpath, AList.lookup_insert_ne hpath]

theorem getPath_guid (key : GuidKey) : DirectoryStore.getPath key = getPath key.toText := rfl

theorem tempPath_guid (key : GuidKey) : DirectoryStore.tempPath key = tempPath key.toText := rfl

theorem getPath_ne_temp (key key' : GuidKey) : getPath key.toText ≠ tempPath key'.toText :=
  DirectoryStore.getPath_ne_tempPath key key'

/-- The two models of a directory agree on every path, and no attribute is on a temporary file. -/
structure Sees (folder : Folder) (directory : Directory) : Prop where
  same : ∀ path, directory.lookup path = (folder.lookup path).map Inode.seen
  plain : ∀ key : GuidKey, ∀ file ∈ folder.lookup (tempPath key.toText), file.xattrs = noXattrs

namespace Sees

variable {folder : Folder} {directory : Directory}

theorem empty : Sees ∅ ∅ where
  same _ := rfl
  plain _ _ h := by simp at h

theorem temp_xattrs (h : Sees folder directory) (key : GuidKey) :
    (folder.lookup (tempPath key.toText)).elim noXattrs Inode.xattrs = noXattrs := by
  cases htemp : folder.lookup (tempPath key.toText) with
  | none => rfl
  | some file => exact h.plain key file htemp

theorem insert (h : Sees folder directory) (key : GuidKey) (file : Inode) :
    Sees (folder.insert (getPath key.toText) file) (directory.insert (getPath key.toText) file.seen) where
  same path := by
    by_cases hpath : path = getPath key.toText
    · subst hpath
      rw [AList.lookup_insert, AList.lookup_insert]
      rfl
    · rw [AList.lookup_insert_ne hpath, AList.lookup_insert_ne hpath]
      exact h.same path
  plain key' file' hfile := by
    rw [AList.lookup_insert_ne (getPath_ne_temp key key').symm] at hfile
    exact h.plain key' file' hfile

theorem erase (h : Sees folder directory) (key : GuidKey) :
    Sees (folder.erase (getPath key.toText)) (directory.erase (getPath key.toText)) where
  same path := by
    by_cases hpath : path = getPath key.toText
    · subst hpath
      rw [AList.lookup_erase, AList.lookup_erase]
      rfl
    · rw [AList.lookup_erase_ne hpath, AList.lookup_erase_ne hpath]
      exact h.same path
  plain key' file' hfile := by
    rw [AList.lookup_erase_ne (getPath_ne_temp key key').symm] at hfile
    exact h.plain key' file' hfile

theorem loadData (h : Sees folder directory) (codec : Serializable V) (now : Instant) (key : GuidKey) :
    (Files.loadData codec now key.toText folder).1 = (DirectoryStore.loadData codec now key directory).1 ∧
      Sees (Files.loadData codec now key.toText folder).2
        (DirectoryStore.loadData codec now key directory).2 := by
  simp only [Files.loadData, DirectoryStore.loadData, getPath_guid, h.same]
  cases folder.lookup (getPath key.toText) with
  | none => exact ⟨rfl, h⟩
  | some file =>
      simp only [Option.map_some]
      cases DirectoryStore.hasExpired now file.seen with
      | ok expired =>
          cases expired with
          | true => exact ⟨rfl, h.erase key⟩
          | false => exact ⟨rfl, h⟩
      | err e => exact ⟨rfl, h⟩
      | panic => exact ⟨rfl, h⟩

theorem storeTtl (h : Sees folder directory) (now : Instant) (key : GuidKey) (duration : Int) :
    (storeMetadata now key.toText (MetadataKey.ttl (L := L)) (.duration duration) folder).1 =
        (DirectoryStore.storeTtl now key duration directory).1 ∧
      Sees (storeMetadata now key.toText (MetadataKey.ttl (L := L)) (.duration duration) folder).2
        (DirectoryStore.storeTtl now key duration directory).2 := by
  simp only [storeMetadata, DirectoryStore.storeTtl, getPath_guid, h.same, MetadataValue.toStored]
  cases folder.lookup (getPath key.toText) with
  | none => exact ⟨rfl, h⟩
  | some file =>
      simp only [Option.map_some]
      cases Stores.toStored now duration with
      | ok ttl =>
          have hseen : Inode.seen ⟨file.contents,
              Function.update file.xattrs (formatXattr (MetadataKey.ttl (L := L)).toKey) (some ttl)⟩ =
              ⟨file.contents, some ttl⟩ := by
            simp only [Inode.seen, MetadataKey.toKey, Function.update_self]
          have hnext := h.insert key ⟨file.contents,
            Function.update file.xattrs (formatXattr (MetadataKey.ttl (L := L)).toKey) (some ttl)⟩
          rw [hseen] at hnext
          exact ⟨rfl, hnext⟩
      | err e => exact ⟨rfl, h⟩
      | panic => exact ⟨rfl, h⟩

theorem destroyData (h : Sees folder directory) (key : GuidKey) :
    (Files.destroyData key.toText folder).1 = (DirectoryStore.destroyData key directory).1 ∧
      Sees (Files.destroyData key.toText folder).2 (DirectoryStore.destroyData key directory).2 := by
  simp only [Files.destroyData, DirectoryStore.destroyData, getPath_guid, h.same]
  cases folder.lookup (getPath key.toText) with
  | none => exact ⟨rfl, h⟩
  | some file => exact ⟨rfl, h.erase key⟩

theorem writeNew (h : Sees folder directory) (key : GuidKey) (data : Bytes) :
    Sees (Files.writeNew (tempPath key.toText) data folder)
      (directory.insert (tempPath key.toText) ⟨data, none⟩) := by
  rw [Files.writeNew, h.temp_xattrs key]
  constructor
  · intro path
    by_cases hpath : path = tempPath key.toText
    · subst hpath
      rw [AList.lookup_insert, AList.lookup_insert]
      rfl
    · rw [AList.lookup_insert_ne hpath, AList.lookup_insert_ne hpath]
      exact h.same path
  · intro key' file hfile
    by_cases hpath : tempPath key'.toText = tempPath key.toText
    · rw [hpath, AList.lookup_insert] at hfile
      exact (Option.some.inj hfile) ▸ rfl
    · rw [AList.lookup_insert_ne hpath] at hfile
      exact h.plain key' file hfile

/-- Storing, when nothing fails but the serialization. -/
theorem storeData (h : Sees folder directory) (codec : Serializable V) (key : GuidKey) (value : V) :
    (Files.storeData codec .completes key.toText value folder).1 =
        (DirectoryStore.storeData codec key value directory).1 ∧
      Sees (Files.storeData codec .completes key.toText value folder).2
        (DirectoryStore.storeData codec key value directory).2 := by
  simp only [Files.storeData, DirectoryStore.storeData, getPath_guid, tempPath_guid]
  cases codec.serializeData value with
  | err e => exact ⟨rfl, h.writeNew key []⟩
  | panic => exact ⟨rfl, h.writeNew key []⟩
  | ok raw =>
      refine ⟨rfl, ?_⟩
      have hlookup : (Files.writeNew (tempPath key.toText) raw folder).lookup (tempPath key.toText) =
          some ⟨raw, noXattrs⟩ := by
        rw [Files.writeNew, h.temp_xattrs key, AList.lookup_insert]
      have hwritten := h.writeNew key raw
      have herased : Sees ((Files.writeNew (tempPath key.toText) raw folder).erase (tempPath key.toText))
          ((directory.insert (tempPath key.toText) ⟨raw, none⟩).erase (tempPath key.toText)) := by
        constructor
        · intro path
          by_cases hpath : path = tempPath key.toText
          · subst hpath
            rw [AList.lookup_erase, AList.lookup_erase]
            rfl
          · rw [AList.lookup_erase_ne hpath, AList.lookup_erase_ne hpath]
            exact hwritten.same path
        · intro key' file hfile
          by_cases hpath : tempPath key'.toText = tempPath key.toText
          · rw [hpath, AList.lookup_erase] at hfile
            cases hfile
          · rw [AList.lookup_erase_ne hpath] at hfile
            exact hwritten.plain key' file hfile
      simp only [rename, hlookup]
      exact herased.insert key ⟨raw, noXattrs⟩

end Sees
end Files
end FidoOnboard.Stores
