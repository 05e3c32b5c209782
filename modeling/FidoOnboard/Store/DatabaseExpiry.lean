import FidoOnboard.Store.Database
import FidoOnboard.Store.DirectoryExpiry

/-!
# Expiry in the databases

A load does not look at the time to live, so that a row is handed out until
maintenance removes it.
-/
namespace FidoOnboard.Stores

namespace DatabaseStore

variable {V : Type}

def view (table : Table (Option Int)) (key : GuidKey) : Option Entry :=
  (table.lookup key.toText).map fun row => ⟨row.contents, row.columns⟩

theorem view_insert (table : Table (Option Int)) (key : GuidKey) (row : Row (Option Int)) :
    view (table.insert key.toText row) =
      Function.update (view table) key (some ⟨row.contents, row.columns⟩) :=
  Assoc.lookup_insert_named toText_injective _ table key row

theorem view_erase (table : Table (Option Int)) (key : GuidKey) :
    view (table.erase key.toText) = Function.update (view table) key none :=
  Assoc.lookup_erase_named toText_injective _ table key

theorem unixTimestamp_lt {now : Instant} {seconds : Int} :
    unixTimestamp now < seconds ↔ (now : Int) < seconds * nanoseconds :=
  Int.ediv_lt_iff_lt_mul (by decide)

/-- Maintenance keeps exactly what has no time to live or is live. -/
theorem view_maintained (table : Table (Option Int)) (now : Instant) (key : GuidKey) :
    view (performMaintenance now table).2 key = (view table key).filter fun entry =>
      entry.ttl.all fun seconds => decide ((now : Int) < seconds * nanoseconds) := by
  simp only [performMaintenance, Db.deleteOvTtlLe, view, Assoc.lookup_keep]
  cases hrow : table.lookup key.toText with
  | none => rfl
  | some row =>
      obtain ⟨contents, ttl⟩ := row
      cases ttl with
      | none => simp [Db.ttlLe, Option.filter]
      | some seconds =>
          have hiff : ¬ seconds ≤ unixTimestamp now ↔ (now : Int) < seconds * nanoseconds :=
            not_le.trans unixTimestamp_lt
          simp only [Db.ttlLe, Option.any_some, Option.filter, Option.map_some, Option.all_some]
          by_cases hlive : (now : Int) < seconds * nanoseconds
          · simp [hlive, hiff.mpr hlive]
          · simp [hlive, not_not.mp (mt hiff.mp hlive)]

theorem laws {t : TableOf V} (hfiles : ∀ key value, ReadsBack t.codec value → Files t key value) :
    Laws (withTtl t) t.codec view where
  contents table key := by simp [withTtl, view, Function.comp_def]
  initial key := rfl
  storeData_ok table key value hvalue hdone := by
    obtain ⟨raw, hser, hrow⟩ := hfiles key value hvalue
    refine ⟨raw, hser, ?_⟩
    simp only [withTtl, storeData, hrow, Db.insertOv] at hdone ⊢
    by_cases hmem : key.toText ∈ table
    · simp [hmem] at hdone
    · simp only [if_neg hmem]
      exact view_insert table key _
  storeData_failed table key value hvalue hfail := by
    obtain ⟨raw, hser, hrow⟩ := hfiles key value hvalue
    simp only [withTtl, storeData, hrow, Db.insertOv] at hfail ⊢
    by_cases hmem : key.toText ∈ table
    · simp only [if_pos hmem]
    · simp [hmem] at hfail
  storeTtl_ok table now key duration entry hheld hdone := by
    obtain ⟨row, hrow, rfl⟩ := Option.map_eq_some_iff.mp hheld
    simp only [withTtl, storeTtl, toText] at hdone ⊢
    cases hexp : expiry now duration with
    | ok seconds =>
        refine ⟨seconds, rfl, ?_⟩
        simp only [Db.updateOvTtl, hrow, view_insert]
    | err error => simp [hexp] at hdone
    | panic => simp [hexp] at hdone
  storeTtl_idle table now key duration hidle := by
    simp only [withTtl, storeTtl, toText] at hidle ⊢
    cases hexp : expiry now duration with
    | ok seconds =>
        have hnone : table.lookup key.toText = none := by simpa [hexp, view] using hidle
        simp only [Db.updateOvTtl, hnone]
    | err error => rfl
    | panic => rfl
  destroyData_ok table key _ := view_erase table key
  destroyData_failed table key hfail := absurd rfl hfail
  loadData_absent table now key value hload := by
    simp only [withTtl, loadData, Db.getOv] at hload
    cases hrow : table.lookup key.toText with
    | none => simp [hrow] at hload
    | some row => simp [view, hrow]
  loadData_drops table now key key' := by
    simp only [withTtl, loadData]
    split <;> exact .inl rfl
  maintenance_drops table now key := by
    have hview : view ((withTtl t).performMaintenance now table).2 key = _ := view_maintained table now key
    rw [hview]
    cases hheld : view table key with
    | none => exact .inl rfl
    | some entry =>
        cases hall : entry.ttl.all fun seconds => decide ((now : Int) < seconds * nanoseconds) with
        | true => exact .inl (by simp [Option.filter, hall])
        | false =>
            obtain ⟨seconds, httl, hdue⟩ : ∃ seconds, entry.ttl = some seconds ∧ seconds * nanoseconds ≤ now := by
              cases httl : entry.ttl with
              | none => simp [httl] at hall
              | some seconds => exact ⟨seconds, rfl, by simpa [httl] using hall⟩
            exact .inr ⟨by simp [Option.filter, hall], entry, seconds, rfl, httl, hdue⟩

/-- The table holds the times to live that no maintenance came after, and no others. -/
theorem unsweptTtl_eq {t : TableOf V} (hfiles : ∀ key value, ReadsBack t.codec value → Files t key value)
    {past : List (Table (Option Int) × Timed V)} {table : Table (Option Int)}
    (run : (withTtl t).Runs t.codec past table) (key : GuidKey) :
    unsweptTtl (withTtl t) past key = (view table key).bind Entry.ttl := by
  refine Run.invariant
    (I := fun past table => unsweptTtl (withTtl t) past key = (view table key).bind Entry.ttl) ?_ ?_ run
  · rintro _ rfl
    rfl
  · intro past table input ih ok
    rcases Laws.reading_or_writing input with hread | ⟨hload, hmaint⟩
    · obtain ⟨now, call⟩ := input
      rcases hread with ⟨key', rfl⟩ | rfl
      · have hsame : (withTtl t).step table ⟨now, .loadData key'⟩ = table := by
          simp only [Store.step, Store.perform, withTtl, loadData]
          split <;> rfl
        rw [hsame]
        exact ih
      · have hview : view ((withTtl t).step table ⟨now, .performMaintenance⟩) key = _ :=
          view_maintained table now key
        have httl : unsweptTtl (withTtl t) ((table, ⟨now, .performMaintenance⟩) :: past) key =
            (unsweptTtl (withTtl t) past key).filter fun seconds =>
              decide ((now : Int) < seconds * nanoseconds) := rfl
        rw [hview, httl, ih]
        cases view table key with
        | none => rfl
        | some entry =>
            cases httl : entry.ttl with
            | none => simp [httl, Option.filter]
            | some seconds =>
                by_cases hlive : (now : Int) < seconds * nanoseconds
                · simp [httl, Option.filter, hlive]
                · simp [httl, Option.filter, hlive]
    · rcases (laws hfiles).write_cases _ (s := table) ok hload hmaint key with
        ⟨hview, httl⟩ | ⟨raw, seconds, hview, httl, _⟩ | ⟨hview, httl⟩
      · rw [hview, unsweptTtl, httl]
        exact ih
      · rw [hview, unsweptTtl, httl]
        rfl
      · rw [hview, unsweptTtl, httl]
        rfl

/-- A database keeps its word where no load comes between the end of a time to live and the
maintenance that removes the row. -/
theorem expires_iff {t : TableOf V} (hfiles : ∀ key value, ReadsBack t.codec value → Files t key value)
    {past : List (Table (Option Int) × Timed V)} {table : Table (Option Int)}
    (run : (withTtl t).Runs t.codec past table) (input : Timed V) :
    Expires (withTtl t) t.codec past table input ↔ ∀ key, input.call = .loadData key →
      ∀ seconds ∈ unsweptTtl (withTtl t) past key, ¬ Lapsed input.now seconds := by
  have hload : ∀ {key entry}, view table key = some entry → ∃ value,
      t.codec.deserializeData entry.contents = .ok value ∧
        ((withTtl t).loadData input.now key table).1 = .ok (some value) := by
    intro key entry hheld
    obtain ⟨value, hvalue⟩ := ((laws hfiles).recorded run key).reads entry hheld
    obtain ⟨row, hrow, rfl⟩ := Option.map_eq_some_iff.mp hheld
    have hdec : t.codec.deserializeData row.contents = .ok value := hvalue
    exact ⟨value, hvalue, by simp [withTtl, loadData, Db.getOv, hrow, hdec]⟩
  constructor
  · intro h key hcall seconds hunswept
    rw [unsweptTtl_eq hfiles run] at hunswept
    obtain ⟨entry, hheld, httl⟩ := Option.bind_eq_some_iff.mp hunswept
    obtain ⟨value, _, hloaded⟩ := hload hheld
    refine h.returned key value hcall hloaded seconds ?_
    rw [← ((laws hfiles).recorded run key).ttl entry hheld]
    exact httl
  · intro h
    refine ⟨?_, ?_, fun hread key raw => (laws hfiles).kept run hread⟩
    · intro key value hcall hloaded seconds hseconds
      obtain ⟨entry, hheld⟩ := Option.ne_none_iff_exists'.mp ((laws hfiles).loadData_absent _ _ _ _ hloaded)
      refine h key hcall seconds ?_
      rw [unsweptTtl_eq hfiles run, hheld]
      rw [← ((laws hfiles).recorded run key).ttl entry hheld] at hseconds
      exact hseconds
    · intro key raw _ hheld _
      rw [(laws hfiles).contents] at hheld
      obtain ⟨entry, hentry, rfl⟩ := Option.map_eq_some_iff.mp hheld
      exact hload hentry

end DatabaseStore

/-! ## The rendezvous server -/

/-- `StoreConfig`. -/
inductive StoreConfig where
  | directory (listing : Listing File)
  | sqlite
  | postgres

namespace StoreConfig

abbrev State : StoreConfig → Type
  | directory _ => Directory
  | sqlite => Table (Option Int)
  | postgres => Table (Option Int)

/-- `initialize` in the rendezvous server. -/
def initializeStore (P : Platform) : (config : StoreConfig) → Store config.State (StoredItem P)
  | directory listing => directoryStore (storedItems P) listing
  | sqlite => sqliteRendezvousStore P
  | postgres => postgresRendezvousStore P

def isDirectory : StoreConfig → Bool
  | directory _ => true
  | sqlite => false
  | postgres => false

end StoreConfig

/-- Registrations are kept in a directory, or maintenance has run since the time to live of
what is loaded ended. -/
def SweptInTime (P : Platform) (config : StoreConfig) (past : List (config.State × Timed (StoredItem P)))
    (_ : config.State) (input : Timed (StoredItem P)) : Prop :=
  config.isDirectory = true ∨ ∀ key, input.call = .loadData key →
    ∀ seconds ∈ unsweptTtl (config.initializeStore P) past key, ¬ Lapsed input.now seconds

theorem registrations_expire_iff (P : Platform) (config : StoreConfig)
    {past : List (config.State × Timed (StoredItem P))} {s : config.State}
    (run : (config.initializeStore P).Runs (storedItems P) past s) :
    Throughout (Expires (config.initializeStore P) (storedItems P)) past ↔
      Throughout (SweptInTime P config) past := by
  refine Run.throughout_congr ?_ run
  intro past s input run _
  cases config with
  | directory listing => exact iff_of_true (DirectoryStore.expires run input) (.inl rfl)
  | sqlite =>
      rw [SweptInTime, StoreConfig.isDirectory, or_iff_right Bool.false_ne_true]
      exact DatabaseStore.expires_iff (t := rendezvousTable P) rendezvous_files run input
  | postgres =>
      rw [SweptInTime, StoreConfig.isDirectory, or_iff_right Bool.false_ne_true]
      exact DatabaseStore.expires_iff (t := rendezvousTable P) rendezvous_files run input

/-! ## A registration for one second -/

/-- The run a list of calls makes, from a past on. -/
def Store.replay {σ V : Type} (store : Store σ V) :
    List (σ × Timed V) → σ → List (Timed V) → List (σ × Timed V) × σ
  | past, s, [] => (past, s)
  | past, s, input :: rest => replay store ((s, input) :: past) (store.step s input) rest

theorem Store.runs_replay {σ V : Type} {store : Store σ V} {codec : Serializable V}
    {past : List (σ × Timed V)} {s : σ} (run : store.Runs codec past s) {inputs : List (Timed V)}
    (hvalues : ∀ input ∈ inputs, ∀ key value, input.call = .storeData key value → ReadsBack codec value)
    (hclock : inputs.Pairwise fun a b => a.now ≤ b.now)
    (hpast : ∀ moment ∈ past, ∀ input ∈ inputs, moment.2.now ≤ input.now) :
    store.Runs codec (store.replay past s inputs).1 (store.replay past s inputs).2 := by
  induction inputs generalizing past s with
  | nil => exact run
  | cons input rest ih =>
      have hok : Allowed codec past input :=
        ⟨hvalues input List.mem_cons_self, fun moment hm => hpast moment hm input List.mem_cons_self⟩
      apply ih (Run.next run hok)
      · exact fun other hother => hvalues other (List.mem_cons_of_mem _ hother)
      · exact hclock.of_cons
      · intro moment hm other hother
        rcases List.mem_cons.mp hm with rfl | hm
        · exact List.rel_of_pairwise_cons hclock hother
        · exact hpast moment hm other (List.mem_cons_of_mem _ hother)

open Reference VoucherChain

/-- Registered at the first second for one second. -/
def sampleRegistration (item : StoredItem (reference .release)) :
    List (Timed (StoredItem (reference .release))) :=
  [⟨nanoseconds, .storeData sampleGuid item⟩, ⟨nanoseconds, .storeTtl sampleGuid nanoseconds⟩]

def sampleCalls (item : StoredItem (reference .release)) (asked : Nat) :
    List (Timed (StoredItem (reference .release))) :=
  sampleRegistration item ++ [⟨asked * nanoseconds, .loadData sampleGuid⟩]

/-- The item reads back, and the sqlite store holds it until second 2. -/
theorem sampleItem_registered : ∃ item, sampleItem = .ok item ∧
    ReadsBack (storedItems (reference .release)) item ∧
    let run := (sqliteRendezvousStore (reference .release)).replay [] ∅ (sampleRegistration item)
    mostRecentTtl (sqliteRendezvousStore (reference .release)) run.1 sampleGuid = some 2 ∧
    unsweptTtl (sqliteRendezvousStore (reference .release)) run.1 sampleGuid = some 2 ∧
    ∃ value, ∀ now, ((sqliteRendezvousStore (reference .release)).loadData now sampleGuid run.2).1 =
      .ok (some value) := by
  obtain ⟨item, hitem, hback⟩ := sampleItem_readsBack
  have hrun : (do
      let item ← sampleItem
      let run := (sqliteRendezvousStore (reference .release)).replay [] ∅ (sampleRegistration item)
      Outcome.check (mostRecentTtl (sqliteRendezvousStore (reference .release)) run.1 sampleGuid = some 2 ∧
        unsweptTtl (sqliteRendezvousStore (reference .release)) run.1 sampleGuid = some 2) Error.cose
      let loaded ← ((sqliteRendezvousStore (reference .release)).loadData 0 sampleGuid run.2).1.mapErr
        fun _ => Error.cose
      Outcome.ofOption Error.cose loaded).isOk = true := by decide +kernel
  obtain ⟨value, h⟩ := Outcome.isOk_iff.mp hrun
  rw [hitem, Outcome.ok_bind] at h
  obtain ⟨_, hfacts, h₁⟩ := Outcome.bind_eq_ok.mp h
  obtain ⟨loaded, hload, hsome⟩ := Outcome.bind_eq_ok.mp h₁
  obtain ⟨hrecent, hunswept⟩ := Outcome.check_eq_ok.mp hfacts
  rw [Outcome.ofOption_eq_ok] at hsome
  rw [Outcome.mapErr_eq_ok, hsome] at hload
  exact ⟨item, hitem, hback, hrecent, hunswept, value, fun _ => hload⟩

theorem sampleCalls_runs {item : StoredItem (reference .release)}
    (hitem : ReadsBack (storedItems (reference .release)) item) {asked : Nat} (hasked : 0 < asked) :
    (StoreConfig.sqlite.initializeStore (reference .release)).Runs (storedItems (reference .release))
      ((sqliteRendezvousStore (reference .release)).replay [] ∅ (sampleCalls item asked)).1
      ((sqliteRendezvousStore (reference .release)).replay [] ∅ (sampleCalls item asked)).2 := by
  have hlater : nanoseconds ≤ asked * nanoseconds := Nat.le_mul_of_pos_left _ hasked
  refine Store.runs_replay (.start rfl) ?_ ?_ nofun
  · simp only [sampleCalls, sampleRegistration, List.cons_append, List.nil_append, List.mem_cons,
      List.not_mem_nil, or_false]
    rintro input (rfl | rfl | rfl) key value hcall
    · obtain ⟨_, rfl⟩ := Call.storeData.inj hcall
      exact hitem
    · cases hcall
    · cases hcall
  · simp [sampleCalls, sampleRegistration, hlater]

/-- Asked for in its last second. -/
theorem registrations_expire_sample : ∃ item past s, sampleItem = .ok item ∧
    (StoreConfig.sqlite.initializeStore (reference .release)).Runs (storedItems (reference .release)) past s ∧
    past.map Prod.snd = (sampleCalls item 2).reverse ∧
    Throughout (Expires (StoreConfig.sqlite.initializeStore (reference .release))
      (storedItems (reference .release))) past := by
  obtain ⟨item, hitem, hback, _, hunswept, _⟩ := sampleItem_registered
  have hruns := sampleCalls_runs hback (show 0 < 2 by decide)
  refine ⟨item, _, _, hitem, hruns, rfl, (registrations_expire_iff _ _ hruns).mpr ?_⟩
  refine ⟨.inr fun key hcall => ?_, .inr nofun, .inr nofun, trivial⟩
  obtain rfl := Call.loadData.inj hcall
  intro seconds hseconds
  obtain rfl := Option.some.inj (hunswept.symm.trans hseconds)
  decide

/-- Asked for a second later, it is still handed out. -/
theorem sqlite_hands_out_expired : ¬ ∀ (config : StoreConfig)
    (past : List (config.State × Timed (StoredItem (reference .release)))) (s : config.State),
    (config.initializeStore (reference .release)).Runs (storedItems (reference .release)) past s →
    Throughout (Expires (config.initializeStore (reference .release)) (storedItems (reference .release)))
      past := by
  intro h
  obtain ⟨item, hitem, hback, hrecent, _, value, hload⟩ := sampleItem_registered
  have hall := h .sqlite _ _ (sampleCalls_runs hback (show 0 < 3 by decide))
  exact hall.1.returned sampleGuid value rfl (hload _) 2 hrecent (by decide)

end FidoOnboard.Stores
