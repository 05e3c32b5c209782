import FidoOnboard.Store.Directory
import FidoOnboard.Store.Database

/-!
# Backends as maps

What the handlers take a store for: storing replaces, loading finds the last
value or nothing, destroying removes. The directory is that map. The databases
are as long as no key is stored twice and only stored keys are asked for.
-/
namespace FidoOnboard.Stores
open Assoc

variable {V : Type}

/-- The map the handlers have in mind. Destroying what is not there is an error, as it is to
the file system. -/
def mapStore (codec : Serializable V) : Store (GuidKey → Option V) V where
  initial := fun _ => none
  contents m key := (m key).bind fun value =>
    match codec.serializeData value with
    | .ok raw => some raw
    | _ => none
  loadData _ key m := (.ok (m key), m)
  storeTtl _ _ _ m := (.ok (), m)
  storeData key value m := (.ok (), Function.update m key (readBack codec value))
  destroyData key m :=
    (if (m key).isSome then .ok () else .err (.unspecified "Error removing"), Function.update m key none)
  performMaintenance _ m := (.ok (), m)

/-- The answers to a sequence of calls, each made at some instant. -/
def Store.answers {σ : Type} (store : Store σ V) : σ → List (Instant × Call V) → List (Answer V)
  | _, [] => []
  | s, (now, call) :: calls =>
    (store.perform now s call).1 :: store.answers (store.perform now s call).2 calls

/-- A call on the map: a value that reads back under a key it may have, a load, a removal. -/
def MapCall (codec : Serializable V) (own : GuidKey → V → Prop) : Call V → Prop
  | .storeData key value => ReadsBack codec value ∧ own key value
  | .loadData _ => True
  | .destroyData _ => True
  | .storeTtl _ _ => False
  | .performMaintenance => False

/-- Every key is stored only while it is absent, and loaded and destroyed only while it is
present. -/
def Tidy : (GuidKey → Bool) → List (Instant × Call V) → Prop
  | _, [] => True
  | present, (_, .storeData key _) :: calls =>
    present key = false ∧ Tidy (Function.update present key true) calls
  | present, (_, .loadData key) :: calls => present key = true ∧ Tidy present calls
  | present, (_, .destroyData key) :: calls =>
    present key = true ∧ Tidy (Function.update present key false) calls
  | present, (_, .storeTtl _ _) :: calls => Tidy present calls
  | present, (_, .performMaintenance) :: calls => Tidy present calls

theorem ReadsBack.readBack {codec : Serializable V} {value : V} (h : ReadsBack codec value) :
    ∃ raw value', codec.serializeData value = .ok raw ∧ codec.deserializeData raw = .ok value' ∧
      readBack codec value = some value' := by
  obtain ⟨raw, value', hser, hdec, _⟩ := h
  exact ⟨raw, value', hser, hdec, by simp [Stores.readBack, hser, hdec]⟩

/-! ## The directory -/

/-- A file without a time to live that reads as the value. -/
def FileReads (codec : Serializable V) (file : File) (value : V) : Prop :=
  file.ttl = none ∧ codec.deserializeData file.contents = .ok value

/-- One call on a directory that stands for a map. -/
theorem directory_step {codec : Serializable V} (listing : Listing File) {own : GuidKey → V → Prop}
    {directory : Directory} {m : GuidKey → Option V}
    (hrep : Represents DirectoryStore.getPath (FileReads codec) directory m) (now : Instant)
    {call : Call V} (hcall : MapCall codec own call) :
    ((directoryStore codec listing).perform now directory call).1 = ((mapStore codec).perform now m call).1 ∧
      Represents DirectoryStore.getPath (FileReads codec)
        ((directoryStore codec listing).perform now directory call).2
        ((mapStore codec).perform now m call).2 := by
  have hinj := DirectoryStore.getPath_injective
  cases call with
  | storeData key value =>
      obtain ⟨raw, value', hser, hdec, hback⟩ := hcall.1.readBack
      have htemp : Represents DirectoryStore.getPath (FileReads codec)
          ((directory.insert (DirectoryStore.tempPath key) ⟨raw, none⟩).erase (DirectoryStore.tempPath key)) m := by
        intro key'
        have hne := DirectoryStore.getPath_ne_tempPath key' key
        rw [AList.lookup_erase_ne hne, AList.lookup_insert_ne hne]
        exact hrep key'
      simp only [Store.perform, directoryStore, mapStore, DirectoryStore.storeData, hser, hback]
      exact ⟨rfl, htemp.insert hinj ⟨rfl, hdec⟩⟩
  | loadData key =>
      simp only [Store.perform, directoryStore, mapStore, DirectoryStore.loadData]
      cases hm : m key with
      | none =>
          rw [hrep.absent hm]
          exact ⟨rfl, hrep⟩
      | some value =>
          obtain ⟨file, hfile, httl, hdec⟩ := hrep.present hm
          simp only [hfile, DirectoryStore.hasExpired, httl]
          exact ⟨by simp [DirectoryStore.readValue, hdec], hrep⟩
  | destroyData key =>
      simp only [Store.perform, directoryStore, mapStore, DirectoryStore.destroyData]
      cases hm : m key with
      | none =>
          have hsame : Function.update m key none = m := by rw [← hm, Function.update_eq_self]
          rw [hrep.absent hm, hsame]
          exact ⟨rfl, hrep⟩
      | some value =>
          obtain ⟨file, hfile, _⟩ := hrep.present hm
          rw [hfile]
          exact ⟨rfl, hrep.erase hinj key⟩
  | storeTtl key duration => exact hcall.elim
  | performMaintenance => exact hcall.elim

/-- The directory is the map. -/
theorem directory_answers {codec : Serializable V} (listing : Listing File) {own : GuidKey → V → Prop}
    {directory : Directory} {m : GuidKey → Option V}
    (hrep : Represents DirectoryStore.getPath (FileReads codec) directory m)
    {calls : List (Instant × Call V)} (hcalls : ∀ c ∈ calls, MapCall codec own c.2) :
    (directoryStore codec listing).answers directory calls = (mapStore codec).answers m calls := by
  induction calls generalizing directory m with
  | nil => rfl
  | cons c calls ih =>
      obtain ⟨now, call⟩ := c
      obtain ⟨hanswer, hnext⟩ := directory_step listing hrep now (hcalls _ List.mem_cons_self)
      simp only [Store.answers, hanswer, ih hnext fun c hc => hcalls c (List.mem_cons_of_mem _ hc)]

/-! ## The databases -/

/-- A store whose three calls on the map are those of the databases. -/
structure OnTable {M : Type} (store : Store (Table M) V) (t : TableOf V) (columns : M) : Prop where
  loadData : ∀ now, store.loadData now = DatabaseStore.loadData t
  storeData : store.storeData = DatabaseStore.storeData t columns
  destroyData : store.destroyData = DatabaseStore.destroyData

def RowReads {M : Type} (codec : Serializable V) (row : Row M) (value : V) : Prop :=
  codec.deserializeData row.contents = .ok value

section Database

variable {M : Type} {store : Store (Table M) V} {t : TableOf V} {columns : M}
  {own : GuidKey → V → Prop}

theorem update_present (m : GuidKey → Option V) (key : GuidKey) (held : Option V) :
    (fun k => (Function.update m key held k).isSome) =
      Function.update (fun k => (m k).isSome) key held.isSome := by
  funext k
  by_cases hk : k = key
  · subst hk
    simp
  · simp [hk]

/-- One call on a table that stands for a map: the answer is the map's and the table goes on
standing for it when the call is tidy, and another answer is given when it is not. -/
theorem database_step (hstore : OnTable store t columns)
    (hfiles : ∀ key value, ReadsBack t.codec value → own key value → DatabaseStore.Files t key value)
    {table : Table M} {m : GuidKey → Option V}
    (hrep : Represents GuidKey.toText (RowReads t.codec) table m) (now : Instant) {call : Call V}
    (hcall : MapCall t.codec own call) (rest : List (Instant × Call V)) :
    ((store.perform now table call).1 = ((mapStore t.codec).perform now m call).1 ∧
      Represents GuidKey.toText (RowReads t.codec) (store.perform now table call).2
        ((mapStore t.codec).perform now m call).2 ∧
      (Tidy (fun k => (m k).isSome) ((now, call) :: rest) ↔
        Tidy (fun k => (((mapStore t.codec).perform now m call).2 k).isSome) rest)) ∨
    ((store.perform now table call).1 ≠ ((mapStore t.codec).perform now m call).1 ∧
      ¬ Tidy (fun k => (m k).isSome) ((now, call) :: rest)) := by
  have hinj := toText_injective
  cases call with
  | storeData key value =>
      obtain ⟨raw, value', hser, hdec, hback⟩ := hcall.1.readBack
      obtain ⟨raw', hser', hrow⟩ := hfiles key value hcall.1 hcall.2
      obtain rfl := Outcome.ok.inj (hser.symm.trans hser')
      simp only [Store.perform, hstore.storeData, mapStore, DatabaseStore.storeData, hrow, Db.insertOv, hback,
        Tidy]
      cases hm : m key with
      | none =>
          have hmem : key.toText ∉ table := AList.lookup_eq_none.mp (hrep.absent hm)
          rw [if_neg hmem]
          refine .inl ⟨rfl, hrep.insert hinj hdec, ?_⟩
          rw [Prod.map_snd, id, update_present]
          simp
      | some held =>
          obtain ⟨row, hlookup, _⟩ := hrep.present hm
          have hmem : key.toText ∈ table := AList.lookup_isSome.mp (by rw [hlookup]; rfl)
          rw [if_pos hmem]
          exact .inr ⟨by simp, by simp⟩
  | loadData key =>
      simp only [Store.perform, hstore.loadData, mapStore, DatabaseStore.loadData, Db.getOv, Tidy]
      cases hm : m key with
      | none =>
          rw [hrep.absent hm]
          exact .inr ⟨by simp, by simp⟩
      | some value =>
          obtain ⟨row, hlookup, hdec⟩ := hrep.present hm
          have hdec' : t.codec.deserializeData row.contents = .ok value := hdec
          rw [hlookup]
          exact .inl ⟨by simp [hdec'], hrep, by simp⟩
  | destroyData key =>
      simp only [Store.perform, hstore.destroyData, mapStore, DatabaseStore.destroyData, Db.deleteOv, Tidy]
      cases hm : m key with
      | none => exact .inr ⟨by simp, by simp⟩
      | some value =>
          refine .inl ⟨rfl, hrep.erase hinj key, ?_⟩
          rw [Prod.map_snd, id, update_present]
          simp
  | storeTtl key duration => exact hcall.elim
  | performMaintenance => exact hcall.elim

/-- A table answers as the map exactly on tidy sequences. -/
theorem database_answers_iff (hstore : OnTable store t columns)
    (hfiles : ∀ key value, ReadsBack t.codec value → own key value → DatabaseStore.Files t key value)
    {table : Table M} {m : GuidKey → Option V}
    (hrep : Represents GuidKey.toText (RowReads t.codec) table m)
    {calls : List (Instant × Call V)} (hcalls : ∀ c ∈ calls, MapCall t.codec own c.2) :
    store.answers table calls = (mapStore t.codec).answers m calls ↔ Tidy (fun k => (m k).isSome) calls := by
  induction calls generalizing table m with
  | nil => exact iff_of_true rfl trivial
  | cons c calls ih =>
      obtain ⟨now, call⟩ := c
      rw [Store.answers, Store.answers, List.cons.injEq]
      rcases database_step hstore hfiles hrep now (hcalls _ List.mem_cons_self) calls with
        ⟨hanswer, hnext, htidy⟩ | ⟨hanswer, htidy⟩
      · rw [htidy, and_iff_right hanswer]
        exact ih hnext fun c hc => hcalls c (List.mem_cons_of_mem _ hc)
      · exact iff_of_false (fun h => hanswer h.1) htidy

/-- The answers are those of the directory, and those of the map. -/
def SameMap {σ : Type} (store : Store σ V) (codec : Serializable V) (listing : Listing File)
    (calls : List (Instant × Call V)) : Prop :=
  store.answers store.initial calls =
      (directoryStore codec listing).answers (directoryStore codec listing).initial calls ∧
    store.answers store.initial calls = (mapStore codec).answers (mapStore codec).initial calls

theorem sameMap_iff_tidy (hstore : OnTable store t columns) (hempty : store.initial = ∅)
    (hfiles : ∀ key value, ReadsBack t.codec value → own key value → DatabaseStore.Files t key value)
    (listing : Listing File) {calls : List (Instant × Call V)} (hcalls : ∀ c ∈ calls, MapCall t.codec own c.2) :
    SameMap store t.codec listing calls ↔ Tidy (fun _ => false) calls := by
  have hdirectory : (directoryStore t.codec listing).answers ∅ calls =
      (mapStore t.codec).answers (fun _ => none) calls :=
    directory_answers listing Represents.empty hcalls
  have hdatabase : store.answers ∅ calls = (mapStore t.codec).answers (fun _ => none) calls ↔
      Tidy (fun _ => false) calls :=
    database_answers_iff hstore hfiles Represents.empty hcalls
  have hstart : (directoryStore t.codec listing).initial = ∅ ∧ (mapStore t.codec).initial = fun _ => none :=
    ⟨rfl, rfl⟩
  rw [SameMap, hempty, hstart.1, hstart.2, hdirectory, and_self]
  exact hdatabase

end Database

/-! ## The three servers -/

/-- A voucher that reads back, under its own guid. -/
def OwnVoucher {P : Platform} (key : GuidKey) (v : OwnershipVoucher P) : Prop :=
  VoucherReadsBack v ∧ v.header.cachedGuid = key.guid

/-- On the calls the servers may make, sqlite is the same map as the directory exactly when no
key is stored while it is there, and none is loaded or destroyed while it is not. -/
theorem sqlite_same_map_iff (P : Platform) (fromPem : Bytes → Outcome Error (OwnershipVoucher P))
    (listing : Listing File) :
    (∀ calls, (∀ c ∈ calls, MapCall (storedItems P) (fun _ _ => True) c.2) →
      (SameMap (sqliteRendezvousStore P) (storedItems P) listing calls ↔ Tidy (fun _ => false) calls)) ∧
    (∀ calls, (∀ c ∈ calls, MapCall (vouchers P) OwnVoucher c.2) →
      (SameMap (sqliteOwnerStore P fromPem) (vouchers P) listing calls ↔ Tidy (fun _ => false) calls) ∧
      (SameMap (sqliteManufacturerStore P fromPem) (vouchers P) listing calls ↔
        Tidy (fun _ => false) calls)) := by
  have hvouchers : ∀ key v, ReadsBack (vouchers P) v → OwnVoucher key v →
      DatabaseStore.Files (voucherTable P fromPem) key v := fun key v _ h => voucher_files h.1 h.2
  refine ⟨fun calls hcalls => ?_, fun calls hcalls => ⟨?_, ?_⟩⟩
  · exact sameMap_iff_tidy (t := rendezvousTable P) ⟨fun _ => rfl, rfl, rfl⟩ rfl
      (fun key item h _ => rendezvous_files key item h) listing hcalls
  · exact sameMap_iff_tidy (t := voucherTable P fromPem) ⟨fun _ => rfl, rfl, rfl⟩ rfl hvouchers listing hcalls
  · exact sameMap_iff_tidy (t := voucherTable P fromPem) ⟨fun _ => rfl, rfl, rfl⟩ rfl hvouchers listing hcalls

open Reference VoucherChain

/-- Stored, loaded and destroyed once. -/
theorem sqlite_same_map_sample : ∃ item v, sampleItem = .ok item ∧ sampleBlank = .ok v ∧
    SameMap (sqliteRendezvousStore (reference .release)) (storedItems (reference .release)) .inOrder
      [(0, .storeData sampleGuid item), (1, .loadData sampleGuid), (2, .destroyData sampleGuid)] ∧
    SameMap (sqliteOwnerStore (reference .release) fun _ => .panic) (vouchers (reference .release)) .inOrder
      [(0, .storeData sampleGuid v), (1, .loadData sampleGuid)] := by
  obtain ⟨item, hitem, hback⟩ := sampleItem_readsBack
  obtain ⟨v, hv, hvoucher, hguid⟩ := sampleBlank_readsBack
  have hsame := sqlite_same_map_iff (reference .release) (fun _ => .panic) .inOrder
  refine ⟨item, v, hitem, hv, (hsame.1 _ ?_).mpr ?_, (hsame.2 _ ?_).1.mpr ?_⟩
  · simp [MapCall, hback]
  · simp [Tidy]
  · simp [MapCall, OwnVoucher, hvoucher.readsBack, hvoucher, hguid]
  · simp [Tidy]

/-- A key that was never stored stops the program, and a second registration is refused. -/
theorem sqlite_not_the_map :
    ¬ SameMap (sqliteRendezvousStore (reference .release)) (storedItems (reference .release)) .inOrder
      [(0, .loadData sampleGuid)] ∧
    ∃ item, sampleItem = .ok item ∧ ReadsBack (storedItems (reference .release)) item ∧
      ¬ SameMap (sqliteRendezvousStore (reference .release)) (storedItems (reference .release)) .inOrder
        [(0, .storeData sampleGuid item), (1, .storeData sampleGuid item)] := by
  constructor
  · rintro ⟨hload, _⟩
    simp [Store.answers, Store.perform, sqliteRendezvousStore, DatabaseStore.withTtl,
      DatabaseStore.loadData, Db.getOv, directoryStore, DirectoryStore.loadData] at hload
  · obtain ⟨item, hitem, hback⟩ := sampleItem_readsBack
    obtain ⟨raw, _, hrow⟩ := rendezvous_files sampleGuid item hback
    refine ⟨item, hitem, hback, ?_⟩
    rintro ⟨_, hmap⟩
    simp [-AList.insert_empty, Store.answers, Store.perform, sqliteRendezvousStore, DatabaseStore.withTtl,
      DatabaseStore.storeData, hrow, Db.insertOv, mapStore] at hmap

end FidoOnboard.Stores
