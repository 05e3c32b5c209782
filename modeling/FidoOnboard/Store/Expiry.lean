import FidoOnboard.Base.Runs
import FidoOnboard.Store.Calls

/-!
# Values past their time

The time to live of a value is a second, written beside it. The directory looks
at it on every load and in maintenance, the databases in maintenance only.
-/
namespace FidoOnboard.Stores

/-- The second ended strictly before `now`. -/
def Lapsed (now : Instant) (seconds : Int) : Prop := seconds * nanoseconds < now

instance (now : Instant) (seconds : Int) : Decidable (Lapsed now seconds) :=
  inferInstanceAs (Decidable (_ < _))

/-- No time to live, or one that has not come. -/
def Live (now : Instant) (ttl : Option Int) : Prop := ∀ seconds ∈ ttl, (now : Int) < seconds * nanoseconds

structure Entry where
  contents : Bytes
  ttl : Option Int
  deriving DecidableEq, Repr

structure Timed (V : Type) where
  now : Instant
  call : Call V

section Calls

variable {σ V : Type} (store : Store σ V)

def Store.step (s : σ) (input : Timed V) : σ := (store.perform input.now s input.call).2

/-- Values are such as read back, and the clock does not run backwards. -/
structure Allowed (codec : Serializable V) (past : List (σ × Timed V)) (input : Timed V) : Prop where
  value : ∀ key value, input.call = .storeData key value → ReadsBack codec value
  clock : ∀ moment ∈ past, moment.2.now ≤ input.now

def Store.Runs (codec : Serializable V) : List (σ × Timed V) → σ → Prop :=
  Run (· = store.initial) (fun past _ input => Allowed codec past input) store.step

/-- What the calls so far made of the time to live of the value under `key`: a stored value
starts without one, and one that is set replaces the one before. `maintained` is what a run
of maintenance makes of it. -/
def ttlOf (maintained : Instant → Option Int → Option Int) : List (σ × Timed V) → GuidKey → Option Int
  | [], _ => none
  | (s, ⟨now, call⟩) :: past, key =>
    match call with
    | .storeData key' value =>
      if key' = key ∧ (store.storeData key' value s).1 = .ok () then none else ttlOf maintained past key
    | .storeTtl key' duration =>
      match expiry now duration with
      | .ok seconds =>
        if key' = key ∧ (store.contents s key).isSome ∧ (store.storeTtl now key' duration s).1 = .ok () then
          some seconds
        else ttlOf maintained past key
      | _ => ttlOf maintained past key
    | .destroyData key' =>
      if key' = key ∧ (store.destroyData key' s).1 = .ok () then none else ttlOf maintained past key
    | .loadData _ => ttlOf maintained past key
    | .performMaintenance => maintained now (ttlOf maintained past key)

def mostRecentTtl : List (σ × Timed V) → GuidKey → Option Int := ttlOf store fun _ ttl => ttl

/-- Gone once maintenance ran at its second or later. -/
def unsweptTtl : List (σ × Timed V) → GuidKey → Option Int :=
  ttlOf store fun now ttl => ttl.filter fun seconds => decide ((now : Int) < seconds * nanoseconds)

/-- Expiry at one moment: no load returns a value that lapsed, and neither loads nor maintenance
take away one that is live. -/
structure Expires (codec : Serializable V) (past : List (σ × Timed V)) (s : σ) (input : Timed V) : Prop where
  returned : ∀ key value, input.call = .loadData key →
    (store.loadData input.now key s).1 = .ok (some value) →
    ∀ seconds ∈ mostRecentTtl store past key, ¬ Lapsed input.now seconds
  found : ∀ key raw, input.call = .loadData key → store.contents s key = some raw →
    Live input.now (mostRecentTtl store past key) →
    ∃ value, codec.deserializeData raw = .ok value ∧
      (store.loadData input.now key s).1 = .ok (some value)
  kept : (∃ key, input.call = .loadData key) ∨ input.call = .performMaintenance →
    ∀ key raw, store.contents s key = some raw → Live input.now (mostRecentTtl store past key) →
    store.contents (store.step s input) key = some raw

end Calls

/-! ## What the backends have in common -/

/-- The calls in terms of what the backend holds under each key. -/
structure Laws {σ V : Type} (store : Store σ V) (codec : Serializable V)
    (view : σ → GuidKey → Option Entry) : Prop where
  contents : ∀ s key, store.contents s key = (view s key).map Entry.contents
  initial : ∀ key, view store.initial key = none
  storeData_ok : ∀ s key value, ReadsBack codec value → (store.storeData key value s).1 = .ok () →
    ∃ raw, codec.serializeData value = .ok raw ∧
      view (store.storeData key value s).2 = Function.update (view s) key (some ⟨raw, none⟩)
  storeData_failed : ∀ s key value, ReadsBack codec value → (store.storeData key value s).1 ≠ .ok () →
    view (store.storeData key value s).2 = view s
  storeTtl_ok : ∀ s now key duration entry, view s key = some entry →
    (store.storeTtl now key duration s).1 = .ok () → ∃ seconds, expiry now duration = .ok seconds ∧
      view (store.storeTtl now key duration s).2 =
        Function.update (view s) key (some { entry with ttl := some seconds })
  storeTtl_idle : ∀ s now key duration,
    view s key = none ∨ (store.storeTtl now key duration s).1 ≠ .ok () →
    view (store.storeTtl now key duration s).2 = view s
  destroyData_ok : ∀ s key, (store.destroyData key s).1 = .ok () →
    view (store.destroyData key s).2 = Function.update (view s) key none
  destroyData_failed : ∀ s key, (store.destroyData key s).1 ≠ .ok () →
    view (store.destroyData key s).2 = view s
  loadData_absent : ∀ s now key value, (store.loadData now key s).1 = .ok (some value) →
    view s key ≠ none
  loadData_drops : ∀ s now key key', view (store.loadData now key s).2 key' = view s key' ∨
    view (store.loadData now key s).2 key' = none ∧
      ∃ entry seconds, view s key' = some entry ∧ entry.ttl = some seconds ∧ Lapsed now seconds
  maintenance_drops : ∀ s now key, view (store.performMaintenance now s).2 key = view s key ∨
    view (store.performMaintenance now s).2 key = none ∧ ∃ entry seconds, view s key = some entry ∧
      entry.ttl = some seconds ∧ seconds * nanoseconds ≤ now

namespace Laws

variable {σ V : Type} {store : Store σ V} {codec : Serializable V} {view : σ → GuidKey → Option Entry}

/-- What is held under a key goes with what the calls say of its time to live. -/
structure Recorded (codec : Serializable V) (held : Option Entry) (ttl : Option Int) : Prop where
  ttl : ∀ entry ∈ held, entry.ttl = ttl
  reads : ∀ entry ∈ held, ∃ value, codec.deserializeData entry.contents = .ok value

theorem ttlOf_storeTtl_idle {maintained : Instant → Option Int → Option Int}
    {past : List (σ × Timed V)} {s : σ} {now : Instant} {key key' : GuidKey} {duration : Int}
    (h : ¬ (key' = key ∧ (store.contents s key).isSome ∧ (store.storeTtl now key' duration s).1 = .ok ())) :
    ttlOf store maintained ((s, ⟨now, .storeTtl key' duration⟩) :: past) key =
      ttlOf store maintained past key := by
  simp only [ttlOf]
  cases expiry now duration with
  | ok seconds => exact if_neg h
  | err e => rfl
  | panic => rfl

/-- A writing call leaves a key and its record alone, sets both, or empties both. -/
theorem write_cases (laws : Laws store codec view) (maintained : Instant → Option Int → Option Int)
    {past : List (σ × Timed V)} {s : σ} {input : Timed V} (ok : Allowed codec past input)
    (hload : ∀ key, input.call ≠ .loadData key) (hmaint : input.call ≠ .performMaintenance)
    (key : GuidKey) :
    (view (store.step s input) key = view s key ∧
      ttlOf store maintained ((s, input) :: past) key = ttlOf store maintained past key) ∨
    (∃ raw seconds, view (store.step s input) key = some ⟨raw, seconds⟩ ∧
      ttlOf store maintained ((s, input) :: past) key = seconds ∧
      ((∃ value, codec.deserializeData raw = .ok value) ∨
        ∃ entry, view s key = some entry ∧ entry.contents = raw)) ∨
    (view (store.step s input) key = none ∧
      ttlOf store maintained ((s, input) :: past) key = none) := by
  obtain ⟨now, call⟩ := input
  cases call with
  | loadData key' => exact absurd rfl (hload key')
  | performMaintenance => exact absurd rfl hmaint
  | storeData key' value =>
      have hvalue := ok.value key' value rfl
      by_cases hdone : (store.storeData key' value s).1 = .ok ()
      · obtain ⟨raw, hraw, hview⟩ := laws.storeData_ok s key' value hvalue hdone
        obtain ⟨raw', value', hser, hdec, _⟩ := hvalue
        obtain rfl := Outcome.ok.inj (hser.symm.trans hraw)
        by_cases hkey : key' = key
        · subst hkey
          refine .inr (.inl ⟨raw', none, ?_, ?_, .inl ⟨value', hdec⟩⟩)
          · exact (congrFun hview key').trans (Function.update_self ..)
          · exact if_pos ⟨rfl, hdone⟩
        · refine .inl ⟨?_, if_neg fun h => hkey h.1⟩
          exact (congrFun hview key).trans (Function.update_of_ne (Ne.symm hkey) ..)
      · exact .inl ⟨congrFun (laws.storeData_failed s key' value hvalue hdone) key,
          if_neg fun h => hdone h.2⟩
  | destroyData key' =>
      by_cases hdone : (store.destroyData key' s).1 = .ok ()
      · have hview := laws.destroyData_ok s key' hdone
        by_cases hkey : key' = key
        · subst hkey
          refine .inr (.inr ⟨?_, if_pos ⟨rfl, hdone⟩⟩)
          exact (congrFun hview key').trans (Function.update_self ..)
        · refine .inl ⟨?_, if_neg fun h => hkey h.1⟩
          exact (congrFun hview key).trans (Function.update_of_ne (Ne.symm hkey) ..)
      · exact .inl ⟨congrFun (laws.destroyData_failed s key' hdone) key, if_neg fun h => hdone h.2⟩
  | storeTtl key' duration =>
      have hidle : view s key' = none ∨ (store.storeTtl now key' duration s).1 ≠ .ok () →
          view (store.storeTtl now key' duration s).2 key = view s key ∧
            ttlOf store maintained ((s, ⟨now, .storeTtl key' duration⟩) :: past) key =
              ttlOf store maintained past key := by
        intro hnot
        refine ⟨congrFun (laws.storeTtl_idle s now key' duration hnot) key, ttlOf_storeTtl_idle ?_⟩
        rintro ⟨rfl, hsome, hdone⟩
        rcases hnot with hnone | hfail
        · simp [laws.contents, hnone] at hsome
        · exact hfail hdone
      by_cases hdone : (store.storeTtl now key' duration s).1 = .ok ()
      · cases hheld : view s key' with
        | none => exact .inl (hidle (.inl hheld))
        | some entry =>
            obtain ⟨seconds, hexp, hview⟩ := laws.storeTtl_ok s now key' duration entry hheld hdone
            by_cases hkey : key' = key
            · subst hkey
              refine .inr (.inl ⟨entry.contents, some seconds, ?_, ?_, .inr ⟨entry, hheld, rfl⟩⟩)
              · exact (congrFun hview key').trans (Function.update_self ..)
              · have hsome : (store.contents s key').isSome := by simp [laws.contents, hheld]
                simp [ttlOf, hexp, hsome, hdone]
            · refine .inl ⟨?_, ttlOf_storeTtl_idle fun h => hkey h.1⟩
              exact (congrFun hview key).trans (Function.update_of_ne (Ne.symm hkey) ..)
      · exact .inl (hidle (.inr hdone))

/-- Reading calls and maintenance only ever drop. -/
theorem read_cases (laws : Laws store codec view) (past : List (σ × Timed V)) (s : σ) {input : Timed V}
    (hread : (∃ key, input.call = .loadData key) ∨ input.call = .performMaintenance) (key : GuidKey) :
    mostRecentTtl store ((s, input) :: past) key = mostRecentTtl store past key ∧
    (view (store.step s input) key = view s key ∨
      view (store.step s input) key = none ∧ ∃ entry seconds, view s key = some entry ∧
        entry.ttl = some seconds ∧ seconds * nanoseconds ≤ input.now) := by
  obtain ⟨now, call⟩ := input
  rcases hread with ⟨key', rfl⟩ | rfl
  · refine ⟨rfl, (laws.loadData_drops s now key' key).imp id ?_⟩
    rintro ⟨hnone, entry, seconds, hheld, httl, hlapsed⟩
    exact ⟨hnone, entry, seconds, hheld, httl, le_of_lt hlapsed⟩
  · exact ⟨rfl, laws.maintenance_drops s now key⟩

theorem reading_or_writing (input : Timed V) :
    ((∃ key, input.call = .loadData key) ∨ input.call = .performMaintenance) ∨
      (∀ key, input.call ≠ .loadData key) ∧ input.call ≠ .performMaintenance := by
  obtain ⟨now, call⟩ := input
  cases call <;> simp

/-- What is held is always recorded. -/
theorem recorded (laws : Laws store codec view) {past : List (σ × Timed V)} {s : σ}
    (run : store.Runs codec past s) (key : GuidKey) :
    Recorded codec (view s key) (mostRecentTtl store past key) := by
  refine Run.invariant (I := fun past s => Recorded codec (view s key) (mostRecentTtl store past key))
    ?_ ?_ run
  · rintro s rfl
    rw [laws.initial]
    exact ⟨nofun, nofun⟩
  · intro past s input ih ok
    rcases reading_or_writing input with hread | ⟨hload, hmaint⟩
    · obtain ⟨httl, hview | ⟨hview, _⟩⟩ := laws.read_cases past s hread key
      · rwa [httl, hview]
      · rw [hview]
        exact ⟨nofun, nofun⟩
    · rcases laws.write_cases (fun _ ttl => ttl) (s := s) ok hload hmaint key with
        ⟨hview, httl⟩ | ⟨raw, seconds, hview, httl, hreads⟩ | ⟨hview, _⟩
      · rw [hview, mostRecentTtl, httl]
        exact ih
      · rw [hview, mostRecentTtl, httl]
        refine ⟨?_, ?_⟩
        · rintro _ ⟨⟩
          rfl
        · rintro _ ⟨⟩
          rcases hreads with hreads | ⟨entry, hheld, rfl⟩
          · exact hreads
          · exact ih.reads entry hheld
      · rw [hview]
        exact ⟨nofun, nofun⟩

theorem kept (laws : Laws store codec view) {past : List (σ × Timed V)} {s : σ} {input : Timed V}
    (run : store.Runs codec past s)
    (hread : (∃ key, input.call = .loadData key) ∨ input.call = .performMaintenance)
    {key : GuidKey} {raw : Bytes} (hheld : store.contents s key = some raw)
    (hlive : Live input.now (mostRecentTtl store past key)) :
    store.contents (store.step s input) key = some raw := by
  rw [laws.contents] at hheld ⊢
  rcases (laws.read_cases past s hread key).2 with hview | ⟨_, entry, seconds, hentry, httl, hle⟩
  · rwa [hview]
  · have hrec := (laws.recorded run key).ttl entry hentry
    have := hlive seconds (by rw [← hrec, httl]; rfl)
    omega

end Laws

end FidoOnboard.Stores
