import FidoOnboard.Store.OwnerStore

/-!
# What a metadata operation touches

Storing and destroying metadata of a voucher should change that metadata alone,
and the query should look at the value of `To2Performed` it is given. The
directory does; the database forgets which metadata it is asked to destroy, and
which value it is asked for.
-/
namespace FidoOnboard.Stores
open Assoc

/-- What is kept under a guid: the bytes of the value, and metadata by key. -/
structure OwnerView (μ : Type) where
  contents : GuidKey → Option Bytes
  metadata : GuidKey → OwnerKey → Option μ

def folderView (folder : Files.Folder) : OwnerView Bytes where
  contents key := (folder.lookup (Files.getPath key.toText)).map Files.Inode.contents
  metadata key m := (folder.lookup (Files.getPath key.toText)).bind fun file =>
    file.xattrs (Files.formatXattr m.toKey)

def OwnerColumns.get (columns : OwnerColumns) : OwnerKey → Option (Bool ⊕ Int)
  | .ttl => none
  | .localKey .to2Performed => columns.to2Performed.map .inl
  | .localKey .to0AcceptOwnerWaitSeconds => columns.to0AcceptOwnerWaitSeconds.map .inr

def tableView (table : Table OwnerColumns) : OwnerView (Bool ⊕ Int) where
  contents key := (table.lookup key.toText).map Row.contents
  metadata key m := (table.lookup key.toText).bind fun row => row.columns.get m

/-- Nothing differs but, perhaps, metadata `m` of `key`. -/
structure TouchesOnly {μ : Type} (key : GuidKey) (m : OwnerKey) (before after : OwnerView μ) : Prop where
  contents : after.contents = before.contents
  metadata : ∀ key' m', (key', m') ≠ (key, m) → after.metadata key' m' = before.metadata key' m'

theorem TouchesOnly.refl {μ : Type} (key : GuidKey) (m : OwnerKey) (view : OwnerView μ) :
    TouchesOnly key m view view := ⟨rfl, fun _ _ _ => rfl⟩

/-! ## The directory -/

theorem formatXattr_inj {m m' : OwnerKey} (h : Files.formatXattr m.toKey = Files.formatXattr m'.toKey) :
    m = m' := by
  have hkey : m.toKey = m'.toKey := List.append_cancel_left h
  revert hkey
  cases m with
  | ttl =>
      cases m' with
      | ttl => exact fun _ => rfl
      | localKey k => cases k <;> exact fun hkey => absurd hkey (by decide)
  | localKey k =>
      cases m' with
      | ttl => cases k <;> exact fun hkey => absurd hkey (by decide)
      | localKey k' => cases k <;> cases k' <;> first | exact fun _ => rfl | exact fun hkey => absurd hkey (by decide)

/-- Setting one attribute of the file of one key. -/
theorem folder_setXattr {folder : Files.Folder} {key : GuidKey} {file : Files.Inode} (m : OwnerKey)
    (data : Option Bytes) (hfile : folder.lookup (Files.getPath key.toText) = some file) :
    TouchesOnly key m (folderView folder) (folderView (folder.insert (Files.getPath key.toText)
      { file with xattrs := Function.update file.xattrs (Files.formatXattr m.toKey) data })) := by
  have hother : ∀ {key' : GuidKey}, key' ≠ key → Files.getPath key'.toText ≠ Files.getPath key.toText :=
    fun hne hpath => hne (DirectoryStore.getPath_injective hpath)
  constructor
  · funext key'
    by_cases hkey : key' = key
    · subst hkey
      simp only [folderView, AList.lookup_insert, hfile, Option.map_some]
    · simp only [folderView, AList.lookup_insert_ne (hother hkey)]
  · intro key' m' hne
    by_cases hkey : key' = key
    · subst hkey
      have hm : Files.formatXattr m'.toKey ≠ Files.formatXattr m.toKey := by
        intro hname
        exact hne (by rw [formatXattr_inj hname])
      simp only [folderView, AList.lookup_insert, hfile, Option.bind_some, Function.update_of_ne hm]
    · simp only [folderView, AList.lookup_insert_ne (hother hkey)]

theorem folder_storeMetadata (now : Instant) (key : GuidKey) (m : OwnerKey) (value : MetadataValue)
    (folder : Files.Folder) :
    TouchesOnly key m (folderView folder)
      (folderView (Files.storeMetadata now key.toText m value folder).2) := by
  unfold Files.storeMetadata
  cases hfile : folder.lookup (Files.getPath key.toText) with
  | none => exact .refl key m _
  | some file =>
      cases hdata : value.toStored now with
      | ok data => exact folder_setXattr m (some data) hfile
      | err e => exact .refl key m _
      | panic => exact .refl key m _

theorem folder_destroyMetadata (key : GuidKey) (m : OwnerKey) (folder : Files.Folder) :
    TouchesOnly key m (folderView folder) (folderView (Files.destroyMetadata key.toText m folder).2) := by
  unfold Files.destroyMetadata
  cases hfile : folder.lookup (Files.getPath key.toText) with
  | none => exact .refl key m _
  | some file =>
      dsimp only
      split
      · exact .refl key m _
      · exact folder_setXattr m none hfile

/-! ## The database -/

/-- Updating columns of one row, all but one of them to what they were. -/
theorem table_updateColumns {key : GuidKey} {m : OwnerKey} {update : OwnerColumns → OwnerColumns}
    {table : Table OwnerColumns}
    (h : ∀ row ∈ table.lookup key.toText, ∀ m', m' ≠ m → (update row.columns).get m' = row.columns.get m') :
    TouchesOnly key m (tableView table) (tableView (Db.updateColumns key.toText update table)) := by
  constructor
  · funext key'
    simp only [tableView, Db.lookup_updateColumns]
    split
    · cases table.lookup key'.toText <;> rfl
    · rfl
  · intro key' m' hne
    simp only [tableView, Db.lookup_updateColumns]
    by_cases htext : key'.toText = key.toText
    · obtain rfl := toText_injective htext
      rw [if_pos rfl]
      cases hrow : table.lookup key'.toText with
      | none => rfl
      | some row => exact h row hrow m' fun hm => hne (by rw [hm])
    · rw [if_neg htext]

theorem table_storeMetadata (now : Instant) (key : GuidKey) (m : OwnerKey) (value : MetadataValue)
    (table : Table OwnerColumns) :
    TouchesOnly key m (tableView table) (tableView (OwnerTable.storeMetadata now key m value table).2) := by
  cases m with
  | ttl => exact .refl key _ _
  | localKey k =>
      cases k with
      | to2Performed =>
          simp only [OwnerTable.storeMetadata]
          split
          · refine table_updateColumns fun row _ m' hm => ?_
            rcases m' with _ | k
            · rfl
            · cases k with
              | to2Performed => exact absurd rfl hm
              | to0AcceptOwnerWaitSeconds => rfl
          · exact .refl key _ _
          · exact .refl key _ _
      | to0AcceptOwnerWaitSeconds =>
          simp only [OwnerTable.storeMetadata]
          split
          · refine table_updateColumns fun row _ m' hm => ?_
            rcases m' with _ | k
            · rfl
            · cases k with
              | to2Performed => rfl
              | to0AcceptOwnerWaitSeconds => exact absurd rfl hm
          · exact .refl key _ _
          · exact .refl key _ _

/-- Destroying clears the row's columns, all of them. -/
theorem lookup_destroyMetadata (key : GuidKey) (m : OwnerKey) (table : Table OwnerColumns) (guid : Text) :
    (OwnerTable.destroyMetadata key m table).2.lookup guid =
      if guid = key.toText then (table.lookup guid).map fun row => ⟨row.contents, ⟨none, none⟩⟩
      else table.lookup guid := by
  simp only [OwnerTable.destroyMetadata, Db.updateOvTo2, Db.updateOvTo0WaitSeconds, Db.lookup_updateColumns]
  by_cases h : guid = key.toText
  · simp only [if_pos h, Option.map_map]
    rfl
  · simp only [if_neg h]

theorem table_destroyMetadata_iff (key : GuidKey) (m : OwnerKey) (table : Table OwnerColumns) :
    TouchesOnly key m (tableView table) (tableView (OwnerTable.destroyMetadata key m table).2) ↔
      ∀ m', m' ≠ m → (tableView table).metadata key m' = none := by
  have hcleared : ∀ m', (tableView (OwnerTable.destroyMetadata key m table).2).metadata key m' = none := by
    intro m'
    simp only [tableView, lookup_destroyMetadata, if_pos]
    cases table.lookup key.toText with
    | none => rfl
    | some row => rcases m' with _ | _ | _ <;> rfl
  constructor
  · intro h m' hm
    rw [← h.metadata key m' fun hpair => hm (Prod.mk.inj hpair).2, hcleared]
  · intro h
    constructor
    · funext key'
      simp only [tableView, lookup_destroyMetadata]
      split
      · cases table.lookup key'.toText <;> rfl
      · rfl
    · intro key' m' hne
      by_cases hkey : key' = key
      · subst hkey
        rw [hcleared, h m' fun hm => hne (by rw [hm])]
      · have htext : key'.toText ≠ key.toText := fun htext => hkey (toText_injective htext)
        simp only [tableView, lookup_destroyMetadata, if_neg htext]

/-! ## The query -/

variable {P : Platform} {fromPem : Bytes → Outcome Error (OwnershipVoucher P)}

/-- Every row holds a voucher, under the guid of its header. -/
def Filed (P : Platform) (table : Table OwnerColumns) : Prop :=
  ∀ guid row, table.lookup guid = some row → ∃ v key, (vouchers P).deserializeData row.contents = .ok v ∧
    guid = GuidKey.toText key ∧ v.header.cachedGuid = key.guid

def OwnerCall.Legit : OwnerCall (OwnershipVoucher P) → Prop
  | .storeData key v => OwnVoucher key v
  | _ => True

theorem filed_updateColumns {table : Table OwnerColumns} (h : Filed P table) (guid : Text)
    (update : OwnerColumns → OwnerColumns) : Filed P (Db.updateColumns guid update table) := by
  intro guid' row hrow
  rw [Db.lookup_updateColumns] at hrow
  split at hrow
  · obtain ⟨row', hrow', rfl⟩ := Option.map_eq_some_iff.mp hrow
    exact h guid' row' hrow'
  · exact h guid' row hrow

/-- What storing a voucher does to the table: a new row, or nothing. -/
theorem onTable_storeData (fromPem : Bytes → Outcome Error (OwnershipVoucher P))
    (table : Table OwnerColumns) {key : GuidKey} {v : OwnershipVoucher P} (hown : OwnVoucher key v) :
    ∃ raw v', v.serializeData = .ok raw ∧ OwnershipVoucher.deserializeData P raw = .ok v' ∧
      v'.header.cachedGuid = key.guid ∧
      (DatabaseStore.storeData (voucherTable P fromPem) ⟨none, none⟩ key v table).2 =
        if key.toText ∈ table then table else table.insert key.toText ⟨raw, ⟨none, none⟩⟩ := by
  obtain ⟨hreads, hguid⟩ := hown
  obtain ⟨raw, v', hser, hdec, hsame, _⟩ := id hreads
  have hfiles : DatabaseStore.Files (voucherTable P fromPem) key v := voucher_files hreads hguid
  obtain ⟨raw', hser', hrow⟩ := hfiles
  obtain rfl := Outcome.ok.inj (hser.symm.trans hser')
  refine ⟨raw, v', hser, hdec, hsame.header.guid.trans hguid, ?_⟩
  simp only [DatabaseStore.storeData, hrow, Db.insertOv]
  by_cases hmem : key.toText ∈ table
  · rw [if_pos hmem, if_pos hmem]
  · rw [if_neg hmem, if_neg hmem]

theorem filed_call {table : Table OwnerColumns} (h : Filed P table) {call : Instant × OwnerCall (OwnershipVoucher P)}
    (hcall : call.2.Legit) : Filed P (OwnerCall.onTable (voucherTable P fromPem) table call) := by
  obtain ⟨now, call⟩ := call
  cases call with
  | storeData key v =>
      obtain ⟨raw, v', _, hdec, hguid, htable⟩ := onTable_storeData fromPem table hcall
      simp only [OwnerCall.onTable, htable]
      split
      · exact h
      · intro guid row hrow
        by_cases hkey : guid = key.toText
        · subst hkey
          rw [AList.lookup_insert] at hrow
          obtain rfl := Option.some.inj hrow
          exact ⟨v', key, hdec, rfl, hguid⟩
        · rw [AList.lookup_insert_ne hkey] at hrow
          exact h guid row hrow
  | storeMetadata key m value =>
      simp only [OwnerCall.onTable, OwnerTable.storeMetadata]
      split
      · split
        · exact filed_updateColumns h _ _
        · exact h
        · exact h
      · split
        · exact filed_updateColumns h _ _
        · exact h
        · exact h
      · exact h
  | destroyMetadata key m => exact filed_updateColumns (filed_updateColumns h _ _) _ _
  | destroyData key =>
      intro guid row hrow
      simp only [OwnerCall.onTable, DatabaseStore.destroyData, Db.deleteOv] at hrow
      by_cases hkey : guid = key.toText
      · subst hkey
        rw [AList.lookup_erase] at hrow
        cases hrow
      · rw [AList.lookup_erase_ne hkey] at hrow
        exact h guid row hrow

theorem filed_tableAfter {calls : List (Instant × OwnerCall (OwnershipVoucher P))}
    (hcalls : ∀ call ∈ calls, call.2.Legit) : Filed P (tableAfter (voucherTable P fromPem) calls) := by
  have hrun : ∀ table, Filed P table → Filed P (calls.foldl (OwnerCall.onTable (voucherTable P fromPem)) table) := by
    induction calls with
    | nil => exact fun _ h => h
    | cons call calls ih =>
        intro table h
        exact ih (fun c hc => hcalls c (List.mem_cons_of_mem _ hc)) _
          (filed_call h (hcalls call List.mem_cons_self))
  refine hrun ∅ fun guid row hrow => ?_
  simp at hrow

theorem Filed.unique {table : Table OwnerColumns} (h : Filed P table) {guid guid' : Text}
    {row row' : Row OwnerColumns} {v : OwnershipVoucher P} (hrow : table.lookup guid = some row)
    (hrow' : table.lookup guid' = some row') (hv : (vouchers P).deserializeData row.contents = .ok v)
    (hv' : (vouchers P).deserializeData row'.contents = .ok v) : row = row' := by
  obtain ⟨u, key, hu, hkey, hguid⟩ := h guid row hrow
  obtain ⟨u', key', hu', hkey', hguid'⟩ := h guid' row' hrow'
  obtain rfl := Outcome.ok.inj (hv.symm.trans hu)
  obtain rfl := Outcome.ok.inj (hv'.symm.trans hu')
  obtain rfl : key = key' := GuidKey.ext (hguid.symm.trans hguid')
  rw [hkey] at hrow
  rw [hkey', hrow] at hrow'
  exact Option.some.inj hrow'

theorem readRows_ok {V : Type} {codec : Serializable V} {rows : List (Σ _ : Text, Row OwnerColumns)}
    (h : ∀ e ∈ rows, ∃ v, codec.deserializeData e.2.contents = .ok v) :
    ∃ vs, OwnerTable.readRows codec rows = .ok vs ∧
      ∀ v, v ∈ vs ↔ ∃ e ∈ rows, codec.deserializeData e.2.contents = .ok v := by
  induction rows with
  | nil => exact ⟨[], rfl, by simp⟩
  | cons e rows ih =>
      obtain ⟨vs, hread, hmem⟩ := ih fun e' he' => h e' (List.mem_cons_of_mem _ he')
      obtain ⟨v, hv⟩ := h e List.mem_cons_self
      refine ⟨v :: vs, by simp only [OwnerTable.readRows, hv, hread, Outcome.mapErr_ok, Outcome.ok_bind], ?_⟩
      intro u
      rw [List.mem_cons, hmem, List.exists_mem_cons_iff, hv, Outcome.ok.injEq, eq_comm]

/-- Exactly the vouchers that are wanted. -/
def QueryExact (P : Platform) (table : Table OwnerColumns) (to2 : Bool) (max : Int) : Prop :=
  ∃ vs, OwnerTable.queryOvsDbTo2PerformedTo0LessThan (vouchers P) to2 max table = .ok vs ∧
    ∀ v, v ∈ vs ↔ ∃ guid row, table.lookup guid = some row ∧
      (vouchers P).deserializeData row.contents = .ok v ∧ Wanted to2 max row.columns

/-- No voucher that is due has the metadata the query does not look at. -/
def NoneMarked (table : Table OwnerColumns) (max : Int) : Prop :=
  ∀ guid row, table.lookup guid = some row → (∀ t ∈ row.columns.to0AcceptOwnerWaitSeconds, t < max) →
    row.columns.to2Performed = none

theorem query_selects {table : Table OwnerColumns} (h : Filed P table) (to2 : Bool) (max : Int) :
    ∃ vs, OwnerTable.queryOvsDbTo2PerformedTo0LessThan (vouchers P) to2 max table = .ok vs ∧
      ∀ v, v ∈ vs ↔ ∃ guid row, table.lookup guid = some row ∧
        (vouchers P).deserializeData row.contents = .ok v ∧ Wanted false max row.columns := by
  have hdecodes : ∀ e ∈ Db.selectOvTo2PerformedAndOvTo0LessThan false max table,
      ∃ v, (vouchers P).deserializeData e.2.contents = .ok v := by
    intro e he
    obtain ⟨v, _, hv, _⟩ := h _ _ (AList.mem_lookup_iff.mpr (Db.mem_select.mp he).1)
    exact ⟨v, hv⟩
  obtain ⟨vs, hread, hmem⟩ := readRows_ok hdecodes
  refine ⟨vs, hread, fun v => ?_⟩
  rw [hmem]
  constructor
  · rintro ⟨e, he, hv⟩
    obtain ⟨hentry, hwanted⟩ := Db.mem_select.mp he
    exact ⟨e.1, e.2, AList.mem_lookup_iff.mpr hentry, hv, hwanted⟩
  · rintro ⟨guid, row, hrow, hv, hwanted⟩
    exact ⟨⟨guid, row⟩, Db.mem_select.mpr ⟨AList.mem_lookup_iff.mp hrow, hwanted⟩, hv⟩

theorem queryExact_iff {table : Table OwnerColumns} (h : Filed P table) (to2 : Bool) (max : Int) :
    QueryExact P table to2 max ↔ (to2 = true → NoneMarked table max) := by
  obtain ⟨vs, hquery, hmem⟩ := query_selects h to2 max
  constructor
  · rintro ⟨vs', hquery', hexact⟩ rfl guid row hrow hwait
    obtain rfl := Outcome.ok.inj (hquery.symm.trans hquery')
    obtain ⟨v, _, hv, _⟩ := h guid row hrow
    cases hto2 : row.columns.to2Performed with
    | none => rfl
    | some b =>
        cases b with
        | true =>
            have hin := (hexact v).mpr ⟨guid, row, hrow, hv, by simp [hto2], hwait⟩
            obtain ⟨guid', row', hrow', hv', hwanted⟩ := (hmem v).mp hin
            obtain rfl := h.unique hrow hrow' hv hv'
            exact absurd (hwanted.1 true hto2) (by simp)
        | false =>
            have hin := (hmem v).mpr ⟨guid, row, hrow, hv, by simp [hto2], hwait⟩
            obtain ⟨guid', row', hrow', hv', hwanted⟩ := (hexact v).mp hin
            obtain rfl := h.unique hrow hrow' hv hv'
            exact absurd (hwanted.1 false hto2) (by simp)
  · intro hmarked
    refine ⟨vs, hquery, fun v => ?_⟩
    rw [hmem]
    cases to2 with
    | false => exact Iff.rfl
    | true =>
        have hsame : ∀ {guid row}, table.lookup guid = some row →
            (Wanted false max row.columns ↔ Wanted true max row.columns) := by
          intro guid row hrow
          constructor
          · rintro ⟨_, hwait⟩
            exact ⟨by simp [hmarked rfl guid row hrow hwait], hwait⟩
          · rintro ⟨_, hwait⟩
            exact ⟨by simp [hmarked rfl guid row hrow hwait], hwait⟩
        constructor
        · rintro ⟨guid, row, hrow, hv, hwanted⟩
          exact ⟨guid, row, hrow, hv, (hsame hrow).mp hwanted⟩
        · rintro ⟨guid, row, hrow, hv, hwanted⟩
          exact ⟨guid, row, hrow, hv, (hsame hrow).mpr hwanted⟩

/-! ## All of it -/

/-- Metadata operations touch what they name, on both backends, and the query looks at what it
is given. -/
structure Framed (P : Platform) (folder : Files.Folder) (table : Table OwnerColumns) (now : Instant)
    (key : GuidKey) (m : OwnerKey) (value : MetadataValue) (to2 : Bool) (max : Int) : Prop where
  folderStored : TouchesOnly key m (folderView folder)
    (folderView (Files.storeMetadata now key.toText m value folder).2)
  folderDestroyed : TouchesOnly key m (folderView folder)
    (folderView (Files.destroyMetadata key.toText m folder).2)
  tableStored : TouchesOnly key m (tableView table)
    (tableView (OwnerTable.storeMetadata now key m value table).2)
  tableDestroyed : TouchesOnly key m (tableView table) (tableView (OwnerTable.destroyMetadata key m table).2)
  queried : QueryExact P table to2 max

/-- They do exactly when there is nothing else to destroy, and no vouchers are asked for whose
onboarding is over. -/
theorem framed_iff (folder : Files.Folder) {calls : List (Instant × OwnerCall (OwnershipVoucher P))}
    (hcalls : ∀ call ∈ calls, call.2.Legit) (now : Instant) (key : GuidKey) (m : OwnerKey)
    (value : MetadataValue) (to2 : Bool) (max : Int) :
    Framed P folder (tableAfter (voucherTable P fromPem) calls) now key m value to2 max ↔
      (∀ m', m' ≠ m → (tableView (tableAfter (voucherTable P fromPem) calls)).metadata key m' = none) ∧
        (to2 = true → NoneMarked (tableAfter (voucherTable P fromPem) calls) max) := by
  have hfiled : Filed P (tableAfter (voucherTable P fromPem) calls) := filed_tableAfter hcalls
  constructor
  · intro h
    exact ⟨(table_destroyMetadata_iff key m _).mp h.tableDestroyed, (queryExact_iff hfiled to2 max).mp h.queried⟩
  · rintro ⟨hmetadata, hmarked⟩
    exact ⟨folder_storeMetadata now key m value folder, folder_destroyMetadata key m folder,
      table_storeMetadata now key m value _, (table_destroyMetadata_iff key m _).mpr hmetadata,
      (queryExact_iff hfiled to2 max).mpr hmarked⟩

open Reference VoucherChain

/-- The voucher of the sample device, onboarded. -/
def sampleMarked (v : OwnershipVoucher (reference .release)) :
    List (Instant × OwnerCall (OwnershipVoucher (reference .release))) :=
  [(0, .storeData sampleGuid v), (0, .storeMetadata sampleGuid (.localKey .to2Performed) (.bool true))]

theorem sampleMarked_table : ∃ v, sampleBlank = .ok v ∧ (∀ call ∈ sampleMarked v, call.2.Legit) ∧
    ∃ raw, (tableAfter (voucherTable (reference .release) fun _ => .panic) (sampleMarked v)).lookup
      sampleGuid.toText = some ⟨raw, ⟨some true, none⟩⟩ := by
  obtain ⟨v, hv, hreads, hguid⟩ := sampleBlank_readsBack
  have hown : OwnVoucher sampleGuid v := ⟨hreads, hguid⟩
  obtain ⟨raw, _, _, _, _, htable⟩ := onTable_storeData (fun _ => .panic) ∅ hown
  refine ⟨v, hv, by simp [sampleMarked, OwnerCall.Legit, hown], raw, ?_⟩
  simp only [tableAfter, sampleMarked, List.foldl_cons, List.foldl_nil, OwnerCall.onTable,
    OwnerTable.storeMetadata, OwnerTable.parseBool, htable, Db.updateOvTo2, Db.lookup_updateColumns, if_pos]
  rw [if_neg (AList.notMem_empty _), AList.lookup_insert]
  rfl

theorem framed_iff_sample : ∃ v, sampleBlank = .ok v ∧
    Framed (reference .release) ∅
      (tableAfter (voucherTable (reference .release) fun _ => .panic) (sampleMarked v)) 0 sampleGuid
      (.localKey .to2Performed) (.bool false) false 1 := by
  obtain ⟨v, hv, hcalls, raw, hrow⟩ := sampleMarked_table
  refine ⟨v, hv, (framed_iff ∅ hcalls 0 sampleGuid _ _ _ _).mpr ⟨?_, by simp⟩⟩
  intro m' hm
  simp only [tableView, hrow, Option.bind_some]
  rcases m' with _ | _ | _
  · rfl
  · exact absurd rfl hm
  · rfl

/-- Destroying the wait time forgets that the device was onboarded, and whoever asks for the
onboarded devices is not shown this one. -/
theorem metadata_not_framed : ∃ v, sampleBlank = .ok v ∧
    ¬ Framed (reference .release) ∅
      (tableAfter (voucherTable (reference .release) fun _ => .panic) (sampleMarked v)) 0 sampleGuid
      (.localKey .to0AcceptOwnerWaitSeconds) (.duration 0) false 1 ∧
    ¬ Framed (reference .release) ∅
      (tableAfter (voucherTable (reference .release) fun _ => .panic) (sampleMarked v)) 0 sampleGuid
      (.localKey .to2Performed) (.bool true) true 1 := by
  obtain ⟨v, hv, hcalls, raw, hrow⟩ := sampleMarked_table
  refine ⟨v, hv, ?_, ?_⟩
  · intro h
    have hnone := (table_destroyMetadata_iff _ _ _).mp h.tableDestroyed (.localKey .to2Performed) (by decide)
    simp [tableView, hrow, OwnerColumns.get] at hnone
  · intro h
    have hmarked := (queryExact_iff (filed_tableAfter hcalls) true 1).mp h.queried rfl _ _ hrow (by simp)
    cases hmarked

end FidoOnboard.Stores
