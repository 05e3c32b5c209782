import FidoOnboard.Store.Calls

/-!
# `store/src/directory.rs`

One file a value, named by the key, with the time to live in an extended
attribute. The file system does what it is asked: the only failure modelled is
that of a file which is not there.
-/
namespace FidoOnboard.Stores

/-- A file and its attribute `user.store_ttl`. -/
structure File where
  contents : Bytes
  ttl : Option Bytes
  deriving DecidableEq, Repr

abbrev Directory := AList fun _ : Text => File

/-- `fs::read_dir` lists what is there, in an order of its own. -/
structure Listing (F : Type) where
  readDir : (AList fun _ : Text => F) → List (Σ _ : Text, F)
  perm : ∀ directory, (readDir directory).Perm directory.entries

def Listing.inOrder {F : Type} : Listing F := ⟨AList.entries, fun _ => .refl _⟩

namespace DirectoryStore

variable {V : Type}

def replaceSlash (c : Char) : Text := if c = '/' then "_slash_".toList else [c]

def getPath (key : GuidKey) : Text := key.toText.flatMap replaceSlash

def tempPath (key : GuidKey) : Text := '.' :: (getPath key ++ ".tmp".toList)

/-- Seconds that `SystemTime` does not count stop the program. -/
def ttlFromDisk (ttl : Bytes) : Outcome StoreError Nat :=
  if ttl.length ≠ 8 then .err (.unspecified "TTL length is not u64")
  else if fromLeBytes ttl < 2 ^ 63 then .ok (fromLeBytes ttl) else .panic

/-- `V::deserialize_from_reader` on an open file. -/
def readValue (codec : Serializable V) (file : File) : Outcome StoreError (Option V) := do
  let value ← (codec.deserializeData file.contents).mapErr fun _ =>
    .unspecified "Error deserializing value"
  .ok (some value)

/-- The test of `load_data` on the attribute. -/
def hasExpired (now : Instant) (file : File) : Outcome StoreError Bool :=
  match file.ttl with
  | none => .ok false
  | some ttl => do
    let seconds ← ttlFromDisk ttl
    .ok (decide (seconds * nanoseconds < now))

def loadData (codec : Serializable V) (now : Instant) (key : GuidKey) (directory : Directory) :
    Outcome StoreError (Option V) × Directory :=
  match directory.lookup (getPath key) with
  | none => (.ok none, directory)
  | some file =>
    match hasExpired now file with
    | .ok true => (.ok none, directory.erase (getPath key))
    | .ok false => (readValue codec file, directory)
    | .err e => (.err e, directory)
    | .panic => (.panic, directory)

def storeTtl (now : Instant) (key : GuidKey) (duration : Int) (directory : Directory) :
    Outcome StoreError Unit × Directory :=
  match directory.lookup (getPath key) with
  | none => (.ok (), directory)
  | some file =>
    match toStored now duration with
    | .ok ttl => (.ok (), directory.insert (getPath key) { file with ttl := some ttl })
    | .err e => (.err e, directory)
    | .panic => (.panic, directory)

/-- A value that cannot be written leaves the temporary file; no attribute is ever set on one. -/
def storeData (codec : Serializable V) (key : GuidKey) (value : V) (directory : Directory) :
    Outcome StoreError Unit × Directory :=
  match codec.serializeData value with
  | .ok raw =>
    let written := directory.insert (tempPath key) ⟨raw, none⟩
    (.ok (), (written.erase (tempPath key)).insert (getPath key) ⟨raw, none⟩)
  | .err _ =>
    (.err (.unspecified "Error writing file"), directory.insert (tempPath key) ⟨[], none⟩)
  | .panic => (.panic, directory.insert (tempPath key) ⟨[], none⟩)

def destroyData (key : GuidKey) (directory : Directory) : Outcome StoreError Unit × Directory :=
  match directory.lookup (getPath key) with
  | none => (.err (.unspecified "Error removing"), directory)
  | some _ => (.ok (), directory.erase (getPath key))

/-- The loop of `perform_maintenance`, which ends early where an attribute cannot be read. -/
def sweep (now : Instant) : List (Σ _ : Text, File) → Directory → Outcome StoreError Unit × Directory
  | [], directory => (.ok (), directory)
  | ⟨path, file⟩ :: entries, directory =>
    match file.ttl with
    | none => sweep now entries directory
    | some ttl =>
      match ttlFromDisk ttl with
      | .ok seconds =>
        if now < seconds * nanoseconds then sweep now entries directory
        else sweep now entries (directory.erase path)
      | .err e => (.err e, directory)
      | .panic => (.panic, directory)

def performMaintenance (listing : Listing File) (now : Instant) (directory : Directory) :
    Outcome StoreError Unit × Directory :=
  sweep now (listing.readDir directory) directory

end DirectoryStore

open DirectoryStore in
def directoryStore {V : Type} (codec : Serializable V) (listing : Listing File) : Store Directory V where
  initial := ∅
  contents directory key := (directory.lookup (getPath key)).map File.contents
  loadData := DirectoryStore.loadData codec
  storeTtl := DirectoryStore.storeTtl
  storeData := DirectoryStore.storeData codec
  destroyData := DirectoryStore.destroyData
  performMaintenance := DirectoryStore.performMaintenance listing

namespace DirectoryStore

/-! ## Names -/

theorem getPath_eq (key : GuidKey) : getPath key = key.toText := by
  have hplain : ∀ c ∈ key.toText, replaceSlash c = [c] := fun c hc =>
    if_neg (mem_uuidText hc).1
  rw [getPath, List.flatMap_congr hplain, List.flatMap_singleton']

theorem getPath_injective : Function.Injective getPath := by
  intro a b h
  rw [getPath_eq, getPath_eq] at h
  exact toText_injective h

theorem getPath_ne_tempPath (key key' : GuidKey) : getPath key ≠ tempPath key' := by
  intro h
  have hdot : '.' ∈ key.toText := by
    rw [← getPath_eq, h]
    exact List.mem_cons_self
  exact (mem_uuidText hdot).2 rfl

end DirectoryStore
end FidoOnboard.Stores
