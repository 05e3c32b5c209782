import FidoOnboard.Store.Files
import FidoOnboard.Store.SameMap

/-!
# Metadata of the owner's vouchers

`To2Performed` and `To0AcceptOwnerWaitSeconds` are attributes of a file in the
directory and columns of a row in the database (`SqliteOwnerStore`; the postgres
file differs in the type of the connection only).
-/
namespace FidoOnboard.Stores
open Assoc

abbrev OwnerKey := MetadataKey OwnershipVoucherStoreMetadataKey

/-! ## `SqliteOwnerDB` -/

namespace Db

def updateColumns (guid : Text) (update : OwnerColumns → OwnerColumns) (table : Table OwnerColumns) :
    Table OwnerColumns :=
  match table.lookup guid with
  | none => table
  | some row => table.insert guid { row with columns := update row.columns }

def updateOvTo2 (guid : Text) (to2Performed : Option Bool) : Table OwnerColumns → Table OwnerColumns :=
  updateColumns guid fun columns => { columns with to2Performed := to2Performed }

def updateOvTo0WaitSeconds (guid : Text) (waitSeconds : Option Int) : Table OwnerColumns → Table OwnerColumns :=
  updateColumns guid fun columns => { columns with to0AcceptOwnerWaitSeconds := waitSeconds }

/-- A comparison with a column, unknown where the column is `NULL`. -/
def compare {α : Type} (test : α → Bool) (column : Option α) : Option Bool := column.map test

def isNull {α : Type} (column : Option α) : Option Bool := some column.isNone

/-- `OR`, of which one side may be unknown. -/
def or : Option Bool → Option Bool → Option Bool
  | some true, _ => some true
  | _, some true => some true
  | some false, some false => some false
  | _, _ => none

/-- `WHERE` keeps the rows of which the condition is known to hold. -/
def holds (condition : Option Bool) : Bool := condition == some true

def selectOvTo2PerformedAndOvTo0LessThan (to2Performed : Bool) (to0Max : Int) (table : Table OwnerColumns) :
    List (Σ _ : Text, Row OwnerColumns) :=
  table.entries.filter fun e =>
    holds (or (compare (fun t => decide (t < to0Max)) e.2.columns.to0AcceptOwnerWaitSeconds)
      (isNull e.2.columns.to0AcceptOwnerWaitSeconds)) &&
    holds (or (compare (fun b => b == to2Performed) e.2.columns.to2Performed)
      (isNull e.2.columns.to2Performed))

end Db

/-! ## `SqliteOwnerStore` -/

namespace OwnerTable

/-- `to_text` read again with `parse::<bool>`; both steps are met by `expect`. -/
def parseBool : MetadataValue → Outcome StoreError Bool
  | .bool b => .ok b
  | .duration _ => .panic

/-- `to_text` read again with `parse::<i64>`. -/
def parseI64 (now : Instant) : MetadataValue → Outcome StoreError Int
  | .bool _ => .panic
  | .duration d => toText now d

def storeMetadata (now : Instant) (key : GuidKey) (metadataKey : OwnerKey) (value : MetadataValue)
    (table : Table OwnerColumns) : Outcome StoreError Unit × Table OwnerColumns :=
  match metadataKey with
  | .localKey .to2Performed =>
    match parseBool value with
    | .ok val => (.ok (), Db.updateOvTo2 key.toText (some val) table)
    | .err e => (.err e, table)
    | .panic => (.panic, table)
  | .localKey .to0AcceptOwnerWaitSeconds =>
    match parseI64 now value with
    | .ok val => (.ok (), Db.updateOvTo0WaitSeconds key.toText (some val) table)
    | .err e => (.err e, table)
    | .panic => (.panic, table)
  | .ttl => (.err (.unspecified "Unable to handle metadata key store_ttl"), table)

/-- The metadata key is not looked at: both columns are cleared. -/
def destroyMetadata (key : GuidKey) (_metadataKey : OwnerKey) (table : Table OwnerColumns) :
    Outcome StoreError Unit × Table OwnerColumns :=
  (.ok (), Db.updateOvTo2 key.toText none (Db.updateOvTo0WaitSeconds key.toText none table))

variable {V : Type}

def readRows (codec : Serializable V) : List (Σ _ : Text, Row OwnerColumns) → Outcome StoreError (List V)
  | [] => .ok []
  | ⟨_, row⟩ :: rows => do
    let value ← (codec.deserializeData row.contents).mapErr fun _ =>
      StoreError.unspecified "Error deserializing value"
    let values ← readRows codec rows
    .ok (value :: values)

def queryOvsDb (codec : Serializable V) (now : Instant) (table : Table OwnerColumns) :
    Outcome StoreError (List V) :=
  readRows codec (Db.selectOvTo2PerformedAndOvTo0LessThan false (unixTimestamp now) table)

/-- The first argument is used in the text of an error only. -/
def queryOvsDbTo2PerformedTo0LessThan (codec : Serializable V) (_to2 : Bool) (to0Max : Int)
    (table : Table OwnerColumns) : Outcome StoreError (List V) :=
  readRows codec (Db.selectOvTo2PerformedAndOvTo0LessThan false to0Max table)

end OwnerTable

/-! ## Calls on either backend -/

inductive OwnerCall (V : Type) where
  | storeData (key : GuidKey) (value : V)
  | storeMetadata (key : GuidKey) (metadataKey : OwnerKey) (value : MetadataValue)
  | destroyMetadata (key : GuidKey) (metadataKey : OwnerKey)
  | destroyData (key : GuidKey)

section Calls

variable {V : Type}

def OwnerCall.onFolder (codec : Serializable V) (folder : Files.Folder) : Instant × OwnerCall V → Files.Folder
  | (_, .storeData key value) => (Files.storeData codec .completes key.toText value folder).2
  | (now, .storeMetadata key metadataKey value) =>
    (Files.storeMetadata now key.toText metadataKey value folder).2
  | (_, .destroyMetadata key metadataKey) => (Files.destroyMetadata key.toText metadataKey folder).2
  | (_, .destroyData key) => (Files.destroyData key.toText folder).2

def OwnerCall.onTable (t : TableOf V) (table : Table OwnerColumns) :
    Instant × OwnerCall V → Table OwnerColumns
  | (_, .storeData key value) => (DatabaseStore.storeData t ⟨none, none⟩ key value table).2
  | (now, .storeMetadata key metadataKey value) =>
    (OwnerTable.storeMetadata now key metadataKey value table).2
  | (_, .destroyMetadata key metadataKey) => (OwnerTable.destroyMetadata key metadataKey table).2
  | (_, .destroyData key) => (DatabaseStore.destroyData key table).2

def folderAfter (codec : Serializable V) (calls : List (Instant × OwnerCall V)) : Files.Folder :=
  calls.foldl (OwnerCall.onFolder codec) ∅

def tableAfter (t : TableOf V) (calls : List (Instant × OwnerCall V)) : Table OwnerColumns :=
  calls.foldl (OwnerCall.onTable t) ∅

end Calls

/-! ## Rows -/

theorem Db.holds_orNull {α : Type} (test : α → Bool) (column : Option α) :
    Db.holds (Db.or (Db.compare test column) (Db.isNull column)) = true ↔ ∀ a ∈ column, test a = true := by
  cases column with
  | none => simp [Db.compare, Db.isNull, Db.or, Db.holds]
  | some a => cases h : test a <;> simp [Db.compare, Db.isNull, Db.or, Db.holds, h]

/-- The condition of the query, without its unknowns. -/
def Wanted (to2 : Bool) (max : Int) (columns : OwnerColumns) : Prop :=
  (∀ b ∈ columns.to2Performed, b = to2) ∧ ∀ t ∈ columns.to0AcceptOwnerWaitSeconds, t < max

theorem Db.mem_select {to2 : Bool} {max : Int} {table : Table OwnerColumns}
    {entry : Σ _ : Text, Row OwnerColumns} :
    entry ∈ Db.selectOvTo2PerformedAndOvTo0LessThan to2 max table ↔
      entry ∈ table.entries ∧ Wanted to2 max entry.2.columns := by
  simp only [Db.selectOvTo2PerformedAndOvTo0LessThan, List.mem_filter, Bool.and_eq_true, Db.holds_orNull,
    Wanted, decide_eq_true_eq, beq_iff_eq]
  exact and_congr_right fun _ => and_comm

theorem Db.lookup_updateColumns (guid : Text) (update : OwnerColumns → OwnerColumns)
    (table : Table OwnerColumns) (guid' : Text) :
    (Db.updateColumns guid update table).lookup guid' =
      if guid' = guid then (table.lookup guid').map fun row => { row with columns := update row.columns }
      else table.lookup guid' := by
  unfold Db.updateColumns
  by_cases h : guid' = guid
  · subst h
    rw [if_pos rfl]
    cases hrow : table.lookup guid' with
    | none => exact hrow
    | some row => exact AList.lookup_insert _
  · rw [if_neg h]
    cases table.lookup guid with
    | none => rfl
    | some row => exact AList.lookup_insert_ne h

end FidoOnboard.Stores
