import FidoOnboard.Store.Calls
import FidoOnboard.DataFormats.VoucherRoundTrip

/-!
# `db/src/sqlite.rs`, `store/src/sqlite.rs` and their postgres counterparts

One row a value, with `guid` as the primary key. The postgres files differ from
the sqlite ones in the type of the connection only. Connections are there and
statements do not fail, but for the key: a second row under one `guid` is
refused, and `first` on no row is an error.
-/
namespace FidoOnboard.Stores

/-- A row, with the columns beside the contents. -/
structure Row (M : Type) where
  contents : Bytes
  columns : M
  deriving DecidableEq, Repr

abbrev Table (M : Type) := AList fun _ : Text => Row M

/-- The columns `to2_performed` and `to0_accept_owner_wait_seconds`. -/
structure OwnerColumns where
  to2Performed : Option Bool
  to0AcceptOwnerWaitSeconds : Option Int
  deriving DecidableEq, Repr

namespace Db

variable {M : Type}

def insertOv (guid : Text) (contents : Bytes) (columns : M) (table : Table M) : Option (Table M) :=
  if guid ∈ table then none else some (table.insert guid ⟨contents, columns⟩)

def getOv (guid : Text) (table : Table M) : Option (Row M) := table.lookup guid

def deleteOv (guid : Text) (table : Table M) : Table M := table.erase guid

/-- A comparison with `NULL` holds of no row. -/
def ttlLe (ttl : Int) (row : Row (Option Int)) : Bool := row.columns.any fun t => decide (t ≤ ttl)

def deleteOvTtlLe (ttl : Int) (table : Table (Option Int)) : Table (Option Int) :=
  Assoc.keep (fun row => !ttlLe ttl row) table

def updateOvTtl (guid : Text) (ttl : Option Int) (table : Table (Option Int)) : Table (Option Int) :=
  match table.lookup guid with
  | none => table
  | some row => table.insert guid { row with columns := ttl }

end Db

/-- What the three tables do differently: how the bytes of a value become one again on the
way in, and which guid its row gets. -/
structure TableOf (V : Type) where
  codec : Serializable V
  decode : Bytes → Outcome Error V
  guid : GuidKey → V → Outcome StoreError Text

namespace DatabaseStore

variable {V M : Type}

/-- The missing row is met by `expect`. -/
def loadData (t : TableOf V) (key : GuidKey) (table : Table M) :
    Outcome StoreError (Option V) × Table M :=
  match Db.getOv key.toText table with
  | none => (.panic, table)
  | some row => (do
      let value ← (t.codec.deserializeData row.contents).mapErr fun _ =>
        .unspecified "Error deserializing value"
      .ok (some value), table)

/-- The contents and the guid of the row to insert; both conversions are met by `expect`. -/
def newRow (t : TableOf V) (key : GuidKey) (value : V) : Outcome StoreError (Text × Bytes) := do
  let raw ← (t.codec.serializeData value).unwrap
  let stored ← (t.decode raw).unwrap
  let guid ← t.guid key stored
  let contents ← (t.codec.serializeData stored).mapErr fun _ => .database "Error inserting"
  .ok (guid, contents)

def storeData (t : TableOf V) (columns : M) (key : GuidKey) (value : V) (table : Table M) :
    Outcome StoreError Unit × Table M :=
  match newRow t key value with
  | .ok (guid, contents) =>
    match Db.insertOv guid contents columns table with
    | some table' => (.ok (), table')
    | none => (.err (.database "Error inserting"), table)
  | .err e => (.err e, table)
  | .panic => (.panic, table)

def destroyData (key : GuidKey) (table : Table M) : Outcome StoreError Unit × Table M :=
  (.ok (), Db.deleteOv key.toText table)

def storeTtl (now : Instant) (key : GuidKey) (duration : Int) (table : Table (Option Int)) :
    Outcome StoreError Unit × Table (Option Int) :=
  match toText now duration with
  | .ok seconds => (.ok (), Db.updateOvTtl key.toText (some seconds) table)
  | .err e => (.err e, table)
  | .panic => (.panic, table)

def performMaintenance (now : Instant) (table : Table (Option Int)) :
    Outcome StoreError Unit × Table (Option Int) :=
  (.ok (), Db.deleteOvTtlLe (unixTimestamp now) table)

/-- The value is filed under the key it is stored with. -/
def Files (t : TableOf V) (key : GuidKey) (value : V) : Prop :=
  ∃ raw, t.codec.serializeData value = .ok raw ∧ newRow t key value = .ok (key.toText, raw)

/-- The tables of the manufacturer and the rendezvous server have a column for the time to live. -/
def withTtl (t : TableOf V) : Store (Table (Option Int)) V where
  initial := ∅
  contents table key := (table.lookup key.toText).map Row.contents
  loadData _ := loadData t
  storeTtl := storeTtl
  storeData := storeData t none
  destroyData := destroyData
  performMaintenance := performMaintenance

/-- The table of the owner has none, and nothing in it grows old. -/
def withoutTtl (t : TableOf V) : Store (Table OwnerColumns) V where
  initial := ∅
  contents table key := (table.lookup key.toText).map Row.contents
  loadData _ := loadData t
  storeTtl _ _ _ table := (.err (.unspecified "Unable to handle metadata key store_ttl"), table)
  storeData := storeData t ⟨none, none⟩
  destroyData := destroyData
  performMaintenance _ table := (.ok (), table)

end DatabaseStore

/-! ## The values -/

variable {P : Platform}

def storedItems (P : Platform) : Serializable (StoredItem P) :=
  ⟨StoredItem.serializeData, StoredItem.deserializeData P⟩

def vouchers (P : Platform) : Serializable (OwnershipVoucher P) :=
  ⟨OwnershipVoucher.serializeData, OwnershipVoucher.deserializeData P⟩

/-- `OwnershipVoucher::from_pem_or_raw`, given `from_pem`. One byte is indexed out of bounds. -/
def fromPemOrRaw (P : Platform) (fromPem : Bytes → Outcome Error (OwnershipVoucher P)) (data : Bytes) :
    Outcome Error (OwnershipVoucher P) :=
  match data with
  | [] => .err .emptyData
  | [_] => .panic
  | a :: b :: _ =>
    if a = b ∧ a = 0x2d then fromPem data else OwnershipVoucher.deserializeData P data

/-- `Guid::to_string`, which needs sixteen bytes. -/
def guidText (guid : Guid) : Outcome StoreError Text :=
  if guid.value.length = 16 then .ok (uuidText guid.value) else .panic

def rendezvousTable (P : Platform) : TableOf (StoredItem P) where
  codec := storedItems P
  decode := StoredItem.deserializeData P
  guid key _ := .ok key.toText

/-- Vouchers are filed under the guid of their own header. -/
def voucherTable (P : Platform) (fromPem : Bytes → Outcome Error (OwnershipVoucher P)) :
    TableOf (OwnershipVoucher P) where
  codec := vouchers P
  decode := fromPemOrRaw P fromPem
  guid _ v := guidText v.header.cachedGuid

def sqliteRendezvousStore (P : Platform) : Store (Table (Option Int)) (StoredItem P) :=
  DatabaseStore.withTtl (rendezvousTable P)

def postgresRendezvousStore (P : Platform) : Store (Table (Option Int)) (StoredItem P) :=
  DatabaseStore.withTtl (rendezvousTable P)

def sqliteManufacturerStore (P : Platform) (fromPem : Bytes → Outcome Error (OwnershipVoucher P)) :
    Store (Table (Option Int)) (OwnershipVoucher P) :=
  DatabaseStore.withTtl (voucherTable P fromPem)

def sqliteOwnerStore (P : Platform) (fromPem : Bytes → Outcome Error (OwnershipVoucher P)) :
    Store (Table OwnerColumns) (OwnershipVoucher P) :=
  DatabaseStore.withoutTtl (voucherTable P fromPem)

/-! ## Rows of values that read back -/

theorem rendezvous_files {P : Platform} (key : GuidKey) (item : StoredItem P)
    (h : ReadsBack (storedItems P) item) : DatabaseStore.Files (rendezvousTable P) key item := by
  obtain ⟨raw, item', hser, hdec, hagain⟩ := h
  refine ⟨raw, hser, ?_⟩
  have hser' : item.serializeData = .ok raw := hser
  have hdec' : StoredItem.deserializeData P raw = .ok item' := hdec
  have hagain' : item'.serializeData = .ok raw := hagain
  simp [DatabaseStore.newRow, rendezvousTable, storedItems, hser', hdec', hagain', Outcome.unwrap]

/-- Nothing that is decoded as a voucher starts like a PEM block. -/
theorem fromPemOrRaw_eq_ok {fromPem : Bytes → Outcome Error (OwnershipVoucher P)} {data : Bytes}
    {v : OwnershipVoucher P} (h : OwnershipVoucher.deserializeData P data = .ok v) :
    fromPemOrRaw P fromPem data = .ok v := by
  obtain ⟨rest, hreader⟩ := OwnershipVoucher.deserializeData_eq_ok.mp h
  obtain ⟨contents, hread, _⟩ := OwnershipVoucher.deserializeFromReader_eq_ok.mp hreader
  match data with
  | [] => simp [CborParser.ParsedArray.deserializeFromReader, CborParser.readTag] at hread
  | [b] =>
      obtain ⟨tagHead, arrayHead, hdata, _, harray, _, hitems⟩ :=
        CborCorrect.deserializeFromReader_ok_iff.mp hread
      obtain ⟨info, tail, hhead, _⟩ := harray.first []
      rw [List.append_nil] at hhead
      have hlen : contents.contents.length = 5 := contents.sized 5 rfl
      obtain ⟨x, xs, hcontents⟩ := List.exists_cons_of_length_pos (show 0 < contents.contents.length by omega)
      have hx := List.length_pos_of_ne_nil (hitems x (by simp [hcontents])).ne_nil
      have := congrArg List.length hdata
      simp only [hhead, hcontents, List.flatten_cons, List.length_append, List.length_cons,
        List.length_nil] at this
      omega
  | a :: b :: data =>
      have hne : ¬ (a = b ∧ a = 0x2d) := by
        rintro ⟨rfl, rfl⟩
        have hmajor : CborParser.MajorType.maybeFromU8 (0x2d &&& CborParser.maskType) = .ok .negative := by
          decide
        simp [CborParser.ParsedArray.deserializeFromReader, CborParser.readTag, hmajor] at hread
      rw [fromPemOrRaw, if_neg hne, h]

/-- A voucher that is read back as the same voucher, and is then written as the same bytes. -/
def VoucherReadsBack (v : OwnershipVoucher P) : Prop :=
  ∃ raw v', v.serializeData = .ok raw ∧ OwnershipVoucher.deserializeData P raw = .ok v' ∧
    VoucherRoundTrip.SameVoucher v v' ∧ v'.serializeData = .ok raw

theorem voucher_files {fromPem : Bytes → Outcome Error (OwnershipVoucher P)} {key : GuidKey}
    {v : OwnershipVoucher P} (h : VoucherReadsBack v) (hguid : v.header.cachedGuid = key.guid) :
    DatabaseStore.Files (voucherTable P fromPem) key v := by
  obtain ⟨raw, v', hser, hdec, hsame, hagain⟩ := h
  refine ⟨raw, hser, ?_⟩
  have hguid' : v'.header.cachedGuid = key.guid := hsame.header.guid.trans hguid
  have htext : guidText v'.header.cachedGuid = .ok key.toText := by
    rw [hguid', guidText, if_pos key.sixteen]
    rfl
  simp [DatabaseStore.newRow, voucherTable, vouchers, hser, fromPemOrRaw_eq_ok hdec, htext, hagain,
    Outcome.unwrap]

theorem voucherReadsBack_of_readable {v : OwnershipVoucher P} {data : Bytes}
    (hholds : VoucherRoundTrip.VoucherHolds v v.contents.contents) (hser : v.serializeData = .ok data)
    (hread : VoucherRoundTrip.Readable v) : VoucherReadsBack v := by
  obtain ⟨v', hdec, hsame⟩ := VoucherRoundTrip.voucher_reads hholds hser hread []
  have hagain := VoucherRoundTrip.voucher_rewritten hholds hser hread hdec
  rw [List.append_nil] at hdec
  exact ⟨data, v', hser, OwnershipVoucher.deserializeData_eq_ok.mpr ⟨[], hdec⟩, hsame, hagain⟩

theorem VoucherReadsBack.readsBack {v : OwnershipVoucher P} (h : VoucherReadsBack v) :
    ReadsBack (vouchers P) v := by
  obtain ⟨raw, v', hser, hdec, _, hagain⟩ := h
  exact ⟨raw, v', hser, hdec, hagain⟩

/-! ## A sample registration -/

open Reference VoucherChain

def sampleGuid : GuidKey := ⟨⟨List.replicate 16 7⟩, rfl⟩

def sampleItem : Outcome Error (StoredItem (reference .release)) := do
  let payload ← TO1DataPayload.serializeData (P := reference .release) ⟨[[10, 0, 0, 1]], ⟨.sha384, [1]⟩⟩
  let to1d ← COSESign.new (reference .release) payload [] [3, 1]
  .ok ⟨sampleKey 2, to1d⟩

theorem sampleItem_readsBack : ∃ item, sampleItem = .ok item ∧
    ReadsBack (storedItems (reference .release)) item := by
  have hrun : (do
      let item ← sampleItem
      let raw ← item.serializeData
      let item' ← StoredItem.deserializeData (reference .release) raw
      let raw' ← item'.serializeData
      Outcome.check (raw' = raw) Error.cose).isOk = true := by decide +kernel
  obtain ⟨_, h⟩ := Outcome.isOk_iff.mp hrun
  obtain ⟨item, hitem, h₁⟩ := Outcome.bind_eq_ok.mp h
  obtain ⟨raw, hraw, h₂⟩ := Outcome.bind_eq_ok.mp h₁
  obtain ⟨item', hitem', h₃⟩ := Outcome.bind_eq_ok.mp h₂
  obtain ⟨raw', hraw', hsame⟩ := Outcome.bind_eq_ok.mp h₃
  obtain rfl : raw' = raw := Outcome.check_eq_ok.mp hsame
  exact ⟨item, hitem, raw', item', hraw, hitem', hraw'⟩

/-- The voucher of the sample device reads back. -/
theorem sampleBlank_readsBack : ∃ v, sampleBlank = .ok v ∧ VoucherReadsBack v ∧
    v.header.cachedGuid = sampleGuid.guid := by
  have hrun : (do
      let v ← sampleBlank
      let _ ← v.serializeData
      Outcome.check (v.header.cachedGuid = sampleGuid.guid) Error.cose).isOk = true := by decide +kernel
  obtain ⟨_, h⟩ := Outcome.isOk_iff.mp hrun
  obtain ⟨v, hv, h₁⟩ := Outcome.bind_eq_ok.mp h
  obtain ⟨data, hdata, hguid⟩ := Outcome.bind_eq_ok.mp h₁
  obtain ⟨header, hsample, h₂⟩ := Outcome.bind_eq_ok.mp hv
  obtain ⟨_, _, hnew⟩ := Outcome.bind_eq_ok.mp h₂
  obtain ⟨_, _, h₃⟩ := Outcome.bind_eq_ok.mp hsample
  obtain ⟨_, _, hheader⟩ := Outcome.bind_eq_ok.mp h₃
  obtain ⟨hheaderGuid, hinfo, hhash, _, hholds⟩ :=
    VoucherRoundTrip.header_new_holds (elementLaws .release) (VoucherRoundTrip.sampleKey_made 1) hheader
  obtain ⟨hcached, hchain, _, hvoucher⟩ :=
    VoucherRoundTrip.voucher_new_holds (elementLaws .release) hholds hnew
  refine ⟨v, hv, voucherReadsBack_of_readable hvoucher hdata ⟨by simp [hchain], ?_⟩,
    Outcome.check_eq_ok.mp hguid⟩
  rw [hcached]
  exact ⟨by simp [hheaderGuid], by rw [hinfo]; decide, by simp [hhash]⟩

end FidoOnboard.Stores
