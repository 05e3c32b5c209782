import FidoOnboard.Base.Related
import FidoOnboard.DataFormats.CborValue

/-!
# YAML values as CBOR values

An error inside a sequence is passed on, one inside a mapping is unwrapped. A value
without tags keeps its shape, and no two keys of a mapping become one.
-/
namespace FidoOnboard

namespace YamlValue

def isZero (bits : UInt64) : Bool := bits &&& 0x7fffffffffffffff == 0

mutual

/-- `PartialEq`: floats are compared as numbers, mappings without regard to order. -/
def same : YamlValue → YamlValue → Bool
  | .null, .null => true
  | .bool a, .bool b => a == b
  | .posInt a, .posInt b => a == b
  | .negInt a, .negInt b => a == b
  | .float a, .float b => a == b || (isNan a && isNan b) || (isZero a && isZero b)
  | .string a, .string b => a == b
  | .sequence as, .sequence bs => sameItems as bs
  | .mapping as, .mapping bs => as.length == bs.length && sameEntries as bs
  | .tagged s a, .tagged t b => s == t && same a b
  | _, _ => false

def sameItems : List YamlValue → List YamlValue → Bool
  | [], [] => true
  | a :: as, b :: bs => same a b && sameItems as bs
  | _, _ => false

def sameEntries : List (YamlValue × YamlValue) → List (YamlValue × YamlValue) → Bool
  | [], _ => true
  | (key, value) :: as, bs => (bs.any fun e => same key e.1 && same value e.2) && sameEntries as bs

end

/-- What the type rules out: a key that occurs twice, and a negative number that is not one. -/
inductive WellFormed : YamlValue → Prop
  | null : WellFormed .null
  | bool (b : Bool) : WellFormed (.bool b)
  | posInt (n : UInt64) : WellFormed (.posInt n)
  | negInt {m : UInt64} : 0 < m.toNat → m.toNat ≤ 2 ^ 63 → WellFormed (.negInt m)
  | float (bits : UInt64) : WellFormed (.float bits)
  | string (s : List Char) : WellFormed (.string s)
  | sequence {items : List YamlValue} : (∀ x ∈ items, WellFormed x) → WellFormed (.sequence items)
  | mapping {entries : List (YamlValue × YamlValue)} : (∀ e ∈ entries, WellFormed e.1) →
      (∀ e ∈ entries, WellFormed e.2) → entries.Pairwise (fun e f => same e.1 f.1 = false) →
      WellFormed (.mapping entries)
  | tagged {tag : List Char} {value : YamlValue} : WellFormed value → WellFormed (.tagged tag value)

/-- A tagged value occurs somewhere inside. -/
inductive Tagged : YamlValue → Prop
  | tag (tag : List Char) (value : YamlValue) : Tagged (.tagged tag value)
  | item {items : List YamlValue} {x : YamlValue} : x ∈ items → Tagged x → Tagged (.sequence items)
  | key {entries : List (YamlValue × YamlValue)} {e : YamlValue × YamlValue} : e ∈ entries → Tagged e.1 →
      Tagged (.mapping entries)
  | value {entries : List (YamlValue × YamlValue)} {e : YamlValue × YamlValue} : e ∈ entries → Tagged e.2 →
      Tagged (.mapping entries)

/-- The first tag on the way is inside a mapping. -/
inductive Trapped : YamlValue → Prop
  | mapping {entries : List (YamlValue × YamlValue)} : Tagged (.mapping entries) → Trapped (.mapping entries)
  | sequence {before behind : List YamlValue} {x : YamlValue} : (∀ y ∈ before, ¬ Tagged y) → Trapped x →
      Trapped (.sequence (before ++ x :: behind))

/-- The same shape with the same values, and as many entries under different keys. -/
inductive Converted : YamlValue → CborValue → Prop
  | null : Converted .null .null
  | bool (b : Bool) : Converted (.bool b) (.bool b)
  | posInt (n : UInt64) : Converted (.posInt n) (.integer n.toNat)
  | negInt (m : UInt64) : Converted (.negInt m) (.integer (-m.toNat))
  | float (bits : UInt64) : Converted (.float bits) (.float bits)
  | string (s : List Char) : Converted (.string s) (.text s)
  | sequence {items : List YamlValue} {values : List CborValue} : List.Forall₂ Converted items values →
      Converted (.sequence items) (.array values)
  | mapping {entries : List (YamlValue × YamlValue)} {pairs : List (CborValue × CborValue)} :
      List.Forall₂ Converted (entries.map Prod.fst) (pairs.map Prod.fst) →
      List.Forall₂ Converted (entries.map Prod.snd) (pairs.map Prod.snd) →
      pairs.Pairwise (fun e f => CborValue.same e.1 f.1 = false) → Converted (.mapping entries) (.map pairs)

/-- Induction over a value, with the elements and the entries at hand. -/
@[elab_as_elim]
theorem induction {motive : YamlValue → Prop} (null : motive .null) (bool : ∀ b, motive (.bool b))
    (posInt : ∀ n, motive (.posInt n)) (negInt : ∀ m, motive (.negInt m)) (float : ∀ bits, motive (.float bits))
    (string : ∀ s, motive (.string s))
    (sequence : ∀ items, (∀ x ∈ items, motive x) → motive (.sequence items))
    (mapping : ∀ entries, (∀ e ∈ entries, motive e.1 ∧ motive e.2) → motive (.mapping entries))
    (tagged : ∀ tag value, motive value → motive (.tagged tag value)) (v : YamlValue) : motive v := by
  refine @YamlValue.rec motive (fun items => ∀ x ∈ items, motive x)
    (fun entries => ∀ e ∈ entries, motive e.1 ∧ motive e.2) (fun e => motive e.1 ∧ motive e.2)
    null bool posInt negInt float string sequence mapping tagged ?_ ?_ ?_ ?_ ?_ v
  · exact fun x hx => absurd hx List.not_mem_nil
  · intro x items hx hitems
    exact List.forall_mem_cons.mpr ⟨hx, hitems⟩
  · exact fun e he => absurd he List.not_mem_nil
  · intro e entries he hentries
    exact List.forall_mem_cons.mpr ⟨he, hentries⟩
  · exact fun key value hkey hvalue => ⟨hkey, hvalue⟩

/-! ## Values that are the same -/

theorem sameItems_iff {as bs : List YamlValue} :
    sameItems as bs = true ↔ List.Forall₂ (fun a b => same a b = true) as bs := by
  induction as generalizing bs with
  | nil =>
      cases bs with
      | nil => exact iff_of_true rfl .nil
      | cons b bs => exact iff_of_false nofun nofun
  | cons a as ih =>
      cases bs with
      | nil => exact iff_of_false nofun nofun
      | cons b bs => rw [sameItems, Bool.and_eq_true, ih, List.forall₂_cons]

theorem sameEntries_iff {as bs : List (YamlValue × YamlValue)} :
    sameEntries as bs = true ↔ ∀ e ∈ as, ∃ f ∈ bs, same e.1 f.1 = true ∧ same e.2 f.2 = true := by
  induction as with
  | nil => exact iff_of_true rfl (fun e he => absurd he List.not_mem_nil)
  | cons e as ih =>
      rw [sameEntries, Bool.and_eq_true, ih, List.any_eq_true, List.forall_mem_cons]
      simp only [Bool.and_eq_true]

/-- Only values that are the same become values that are the same. -/
theorem same_of_converted {a b : YamlValue} {a' b' : CborValue} (ha : WellFormed a) (hb : WellFormed b)
    (hca : Converted a a') (hcb : Converted b b') (h : CborValue.same a' b' = true) : same a b = true := by
  induction a using YamlValue.induction generalizing b a' b' with
  | null => cases hca; cases hcb <;> first | rfl | cases h
  | bool c =>
      cases hca
      cases hcb with
      | bool d => exact h
      | _ => cases h
  | posInt n =>
      cases hca
      cases hcb with
      | posInt m =>
          have heq : (n.toNat : Int) = m.toNat := by simpa only [CborValue.same, beq_iff_eq] using h
          have hn : n = m := UInt64.toNat_inj.mp (Int.ofNat_inj.mp heq)
          rw [same, beq_iff_eq, hn]
      | negInt m =>
          cases hb with
          | negInt hpos _ =>
              have heq : (n.toNat : Int) = -m.toNat := by simpa only [CborValue.same, beq_iff_eq] using h
              omega
      | _ => cases h
  | negInt n =>
      cases hca
      cases ha with
      | negInt hpos _ =>
          cases hcb with
          | negInt m =>
              have heq : (-n.toNat : Int) = -m.toNat := by simpa only [CborValue.same, beq_iff_eq] using h
              have hn : n = m := UInt64.toNat_inj.mp (Int.ofNat_inj.mp (Int.neg_inj.mp heq))
              rw [same, beq_iff_eq, hn]
          | posInt m =>
              have heq : (-n.toNat : Int) = m.toNat := by simpa only [CborValue.same, beq_iff_eq] using h
              omega
          | _ => cases h
  | float bits =>
      cases hca
      cases hcb with
      | float bits' =>
          rw [CborValue.same] at h
          rw [same, h, Bool.true_or]
      | _ => cases h
  | string s =>
      cases hca
      cases hcb with
      | string t => exact h
      | _ => cases h
  | sequence items ih =>
      cases hca with
      | sequence hitems =>
          cases hcb with
          | sequence hitems' =>
              cases ha with
              | sequence hwf =>
                  cases hb with
                  | sequence hwf' =>
                      rw [same, sameItems_iff]
                      refine Related.through hitems hitems' (CborValue.sameItems_iff.mp h) ?_
                      exact fun x hx y hy _ _ hcx hcy hsame => ih x hx (hwf x hx) (hwf' y hy) hcx hcy hsame
          | _ => cases h
  | mapping entries ih =>
      cases hca with
      | @mapping _ pairs hkeys hvalues _ =>
          cases hcb with
          | @mapping entries' pairs' hkeys' hvalues' _ =>
              cases ha with
              | mapping hwfKeys hwfValues _ =>
                  cases hb with
                  | mapping hwfKeys' hwfValues' _ =>
                      have hall := Related.to_parts hkeys hvalues
                      have hall' := Related.to_parts hkeys' hvalues'
                      rw [CborValue.same, Bool.and_eq_true, beq_iff_eq, CborValue.sameEntries_iff] at h
                      rw [same, Bool.and_eq_true, beq_iff_eq, sameEntries_iff, hall.length_eq, hall'.length_eq]
                      refine ⟨h.1, fun e he => ?_⟩
                      rcases Related.exists_right hall he with ⟨p, hp, hkey, hvalue⟩
                      rcases h.2 p hp with ⟨p', hp', hsameKey, hsameValue⟩
                      rcases Related.exists_left hall' hp' with ⟨e', he', hkey', hvalue'⟩
                      exact ⟨e', he', (ih e he).1 (hwfKeys e he) (hwfKeys' e' he') hkey hkey' hsameKey,
                        (ih e he).2 (hwfValues e he) (hwfValues' e' he') hvalue hvalue' hsameValue⟩
          | _ => cases h
  | tagged tag value => cases hca

/-! ## Results of the conversion -/

theorem yamlItems_eq_ok {items : List YamlValue} {values : List CborValue} :
    yamlItems items = .ok values ↔ List.Forall₂ (fun x c => yamlToCbor x = .ok c) items values := by
  induction items generalizing values with
  | nil =>
      rw [List.forall₂_nil_left_iff, yamlItems, Outcome.ok.injEq]
      exact eq_comm
  | cons x items ih =>
      rw [List.forall₂_cons_left_iff, yamlItems, Outcome.bind_eq_ok]
      constructor
      · rintro ⟨c, hc, h₁⟩
        rcases Outcome.bind_eq_ok.mp h₁ with ⟨rest, hrest, h₂⟩
        exact ⟨c, rest, hc, ih.mp hrest, (Outcome.ok.inj h₂).symm⟩
      · rintro ⟨c, rest, hc, hrest, rfl⟩
        exact ⟨c, hc, Outcome.bind_eq_ok.mpr ⟨rest, ih.mpr hrest, rfl⟩⟩

theorem yamlPairs_eq_ok {entries : List (YamlValue × YamlValue)} {pairs : List (CborValue × CborValue)} :
    yamlPairs entries = .ok pairs ↔
      List.Forall₂ (fun e f => yamlToCbor e.1 = .ok f.1 ∧ yamlToCbor e.2 = .ok f.2) entries pairs := by
  induction entries generalizing pairs with
  | nil =>
      rw [List.forall₂_nil_left_iff, yamlPairs, Outcome.ok.injEq]
      exact eq_comm
  | cons e entries ih =>
      rw [List.forall₂_cons_left_iff, yamlPairs, Outcome.bind_eq_ok]
      constructor
      · rintro ⟨key, hkey, h₁⟩
        rcases Outcome.bind_eq_ok.mp h₁ with ⟨value, hvalue, h₂⟩
        rcases Outcome.bind_eq_ok.mp h₂ with ⟨rest, hrest, h₃⟩
        exact ⟨(key, value), rest, ⟨hkey, hvalue⟩, ih.mp hrest, (Outcome.ok.inj h₃).symm⟩
      · rintro ⟨f, rest, ⟨hkey, hvalue⟩, hrest, rfl⟩
        refine ⟨f.1, hkey, Outcome.bind_eq_ok.mpr ⟨f.2, hvalue, ?_⟩⟩
        exact Outcome.bind_eq_ok.mpr ⟨rest, ih.mpr hrest, rfl⟩

/-- Elements are converted up to the first one that is not. -/
theorem yamlItems_eq_panic {items : List YamlValue} :
    yamlItems items = .panic ↔ ∃ before x behind, items = before ++ x :: behind ∧
      (∀ y ∈ before, ∃ c, yamlToCbor y = .ok c) ∧ yamlToCbor x = .panic := by
  induction items with
  | nil =>
      refine iff_of_false nofun ?_
      rintro ⟨before, x, behind, hitems, -⟩
      exact List.append_ne_nil_of_right_ne_nil before (List.cons_ne_nil x behind) hitems.symm
  | cons x items ih =>
      rw [yamlItems, Outcome.bind_eq_panic]
      constructor
      · rintro (hx | ⟨c, hc, h₁⟩)
        · exact ⟨[], x, items, rfl, fun y hy => absurd hy List.not_mem_nil, hx⟩
        · rcases Outcome.bind_eq_panic.mp h₁ with hrest | ⟨_, _, h₂⟩
          · rcases ih.mp hrest with ⟨before, y, behind, rfl, hbefore, hy⟩
            exact ⟨x :: before, y, behind, rfl, List.forall_mem_cons.mpr ⟨⟨c, hc⟩, hbefore⟩, hy⟩
          · exact absurd h₂ nofun
      · rintro ⟨before, y, behind, hitems, hbefore, hy⟩
        cases before with
        | nil =>
            cases hitems
            exact .inl hy
        | cons z before =>
            cases hitems
            rcases List.forall_mem_cons.mp hbefore with ⟨⟨c, hc⟩, hbefore⟩
            refine .inr ⟨c, hc, Outcome.bind_eq_panic.mpr (.inl ?_)⟩
            exact ih.mpr ⟨before, y, behind, rfl, hbefore, hy⟩

theorem sequence_eq_ok {items : List YamlValue} {c : CborValue} :
    yamlToCbor (.sequence items) = .ok c ↔ ∃ values, yamlItems items = .ok values ∧ c = .array values := by
  rw [yamlToCbor, Outcome.bind_eq_ok]
  simp only [Outcome.ok.injEq, eq_comm]

theorem mapping_eq_ok {entries : List (YamlValue × YamlValue)} {c : CborValue} :
    yamlToCbor (.mapping entries) = .ok c ↔
      ∃ pairs, yamlPairs entries = .ok pairs ∧ c = .map (CborValue.collect pairs) := by
  rw [yamlToCbor, Outcome.bind_eq_ok]
  simp only [Outcome.unwrap_eq_ok, Outcome.ok.injEq, @eq_comm _ c]

/-- What is inside a mapping is converted or stops everything. -/
theorem mapping_eq_panic {entries : List (YamlValue × YamlValue)} :
    yamlToCbor (.mapping entries) = .panic ↔ ¬ ∃ c, yamlToCbor (.mapping entries) = .ok c := by
  rw [yamlToCbor]
  cases yamlPairs entries with
  | ok pairs => exact iff_of_false (fun h => by cases h) (not_not.mpr ⟨_, rfl⟩)
  | err e =>
      refine iff_of_true rfl ?_
      rintro ⟨_, h⟩
      cases h
  | panic =>
      refine iff_of_true rfl ?_
      rintro ⟨_, h⟩
      cases h

theorem yamlPairs_ok_iff {entries : List (YamlValue × YamlValue)} :
    (∃ pairs, yamlPairs entries = .ok pairs) ↔
      ∀ e ∈ entries, (∃ c, yamlToCbor e.1 = .ok c) ∧ ∃ c, yamlToCbor e.2 = .ok c := by
  simp only [yamlPairs_eq_ok]
  constructor
  · rintro ⟨pairs, hall⟩ e he
    rcases Related.exists_right hall he with ⟨f, -, hkey, hvalue⟩
    exact ⟨⟨f.1, hkey⟩, f.2, hvalue⟩
  · intro h
    apply Related.of_forall
    intro e he
    rcases h e he with ⟨⟨key, hkey⟩, value, hvalue⟩
    exact ⟨(key, value), hkey, hvalue⟩

/-- A value is converted when it has no tags. -/
theorem yamlToCbor_ok_iff {v : YamlValue} : (∃ c, yamlToCbor v = .ok c) ↔ ¬ Tagged v := by
  induction v using YamlValue.induction with
  | null => exact iff_of_true ⟨_, rfl⟩ nofun
  | bool b => exact iff_of_true ⟨_, rfl⟩ nofun
  | posInt n => exact iff_of_true ⟨_, rfl⟩ nofun
  | negInt m => exact iff_of_true ⟨_, rfl⟩ nofun
  | float bits => exact iff_of_true ⟨_, rfl⟩ nofun
  | string s => exact iff_of_true ⟨_, rfl⟩ nofun
  | sequence items ih =>
      constructor
      · rintro ⟨c, hc⟩ htagged
        rcases sequence_eq_ok.mp hc with ⟨values, hvalues, -⟩
        cases htagged with
        | item hx htag =>
            rcases Related.exists_right (yamlItems_eq_ok.mp hvalues) hx with ⟨value, -, hvalue⟩
            exact (ih _ hx).mp ⟨value, hvalue⟩ htag
      · intro huntagged
        have hitems : ∀ x ∈ items, ∃ c, yamlToCbor x = .ok c :=
          fun x hx => (ih x hx).mpr fun htag => huntagged (.item hx htag)
        rcases Related.of_forall hitems with ⟨values, hvalues⟩
        exact ⟨.array values, sequence_eq_ok.mpr ⟨values, yamlItems_eq_ok.mpr hvalues, rfl⟩⟩
  | mapping entries ih =>
      have hpairs : (∃ pairs, yamlPairs entries = .ok pairs) ↔ ¬ Tagged (.mapping entries) := by
        rw [yamlPairs_ok_iff]
        constructor
        · intro hall htagged
          cases htagged with
          | key he htag => exact (ih _ he).1.mp (hall _ he).1 htag
          | value he htag => exact (ih _ he).2.mp (hall _ he).2 htag
        · intro huntagged e he
          exact ⟨(ih e he).1.mpr fun htag => huntagged (.key he htag),
            (ih e he).2.mpr fun htag => huntagged (.value he htag)⟩
      rw [← hpairs]
      constructor
      · rintro ⟨c, hc⟩
        rcases mapping_eq_ok.mp hc with ⟨pairs, hok, -⟩
        exact ⟨pairs, hok⟩
      · rintro ⟨pairs, hok⟩
        exact ⟨_, mapping_eq_ok.mpr ⟨pairs, hok, rfl⟩⟩
  | tagged tag value => exact iff_of_false nofun (not_not.mpr (.tag tag value))

theorem yamlToCbor_panic_iff {v : YamlValue} : yamlToCbor v = .panic ↔ Trapped v := by
  induction v using YamlValue.induction with
  | null => exact iff_of_false (fun h => by cases h) (fun h => by cases h)
  | bool b => exact iff_of_false (fun h => by cases h) (fun h => by cases h)
  | posInt n => exact iff_of_false (fun h => by cases h) (fun h => by cases h)
  | negInt m => exact iff_of_false (fun h => by cases h) (fun h => by cases h)
  | float bits => exact iff_of_false (fun h => by cases h) (fun h => by cases h)
  | string s => exact iff_of_false (fun h => by cases h) (fun h => by cases h)
  | sequence items ih =>
      have hpanic : yamlToCbor (.sequence items) = .panic ↔ yamlItems items = .panic := by
        rw [yamlToCbor]
        cases yamlItems items with
        | ok values => exact iff_of_false (fun h => by cases h) (fun h => by cases h)
        | err e => exact iff_of_false (fun h => by cases h) (fun h => by cases h)
        | panic => exact iff_of_true rfl rfl
      rw [hpanic, yamlItems_eq_panic]
      simp only [yamlToCbor_ok_iff]
      constructor
      · rintro ⟨before, x, behind, rfl, hbefore, hx⟩
        exact .sequence hbefore ((ih x (by simp)).mp hx)
      · intro htrapped
        generalize hv : YamlValue.sequence items = v at htrapped
        cases htrapped with
        | mapping => cases hv
        | @sequence before behind x hbefore hx =>
            cases hv
            exact ⟨before, x, behind, rfl, hbefore, (ih x (by simp)).mpr hx⟩
  | mapping entries =>
      rw [mapping_eq_panic, yamlToCbor_ok_iff, not_not]
      constructor
      · exact .mapping
      · intro htrapped
        cases htrapped with
        | mapping htagged => exact htagged
  | tagged tag value => exact iff_of_false (fun h => by cases h) (fun h => by cases h)

/-- What is converted keeps its shape: the keys of a mapping stay different. -/
theorem converted_of_ok {v : YamlValue} {c : CborValue} (hv : WellFormed v) (h : yamlToCbor v = .ok c) :
    Converted v c := by
  induction v using YamlValue.induction generalizing c with
  | null => cases h; exact .null
  | bool b => cases h; exact .bool b
  | posInt n => cases h; exact .posInt n
  | negInt m => cases h; exact .negInt m
  | float bits => cases h; exact .float bits
  | string s => cases h; exact .string s
  | sequence items ih =>
      rcases sequence_eq_ok.mp h with ⟨values, hvalues, rfl⟩
      cases hv with
      | sequence hwf =>
          refine .sequence (Related.mono (yamlItems_eq_ok.mp hvalues) ?_)
          exact fun x hx value hvalue => ih x hx (hwf x hx) hvalue
  | mapping entries ih =>
      rcases mapping_eq_ok.mp h with ⟨pairs, hpairs, rfl⟩
      cases hv with
      | mapping hkeys hvalues hdistinct =>
          have hall : List.Forall₂ (fun e f => Converted e.1 f.1 ∧ Converted e.2 f.2) entries pairs :=
            Related.mono (yamlPairs_eq_ok.mp hpairs) fun e he _ hf =>
              ⟨(ih e he).1 (hkeys e he) hf.1, (ih e he).2 (hvalues e he) hf.2⟩
          have hstay : pairs.Pairwise fun e f => CborValue.same e.1 f.1 = false := by
            refine Related.pairwise hall hdistinct fun e he e' he' f f' hf hf' hne => ?_
            rw [Bool.eq_false_iff]
            intro hsame
            have hkey := same_of_converted (hkeys e he) (hkeys e' he') hf.1 hf'.1 hsame
            exact absurd (hne.symm.trans hkey) nofun
          rw [CborValue.collect_of_distinct hstay]
          exact .mapping (Related.of_parts hall).1 (Related.of_parts hall).2 hstay
  | tagged tag value => cases h

/-- A value with a tag is refused, any other one is converted in its shape. -/
def ConvertsWell (v : YamlValue) : Prop :=
  (Tagged v → ∃ e, yamlToCbor v = .err e) ∧ (¬ Tagged v → ∃ c, yamlToCbor v = .ok c ∧ Converted v c)

theorem convertsWell_iff {v : YamlValue} (hv : WellFormed v) : ConvertsWell v ↔ ¬ Trapped v := by
  rw [← yamlToCbor_panic_iff]
  constructor
  · rintro ⟨htagged, huntagged⟩ hpanic
    by_cases htag : Tagged v
    case pos =>
      rcases htagged htag with ⟨e, he⟩
      exact absurd (hpanic.symm.trans he) nofun
    case neg =>
      rcases huntagged htag with ⟨c, hc, -⟩
      exact absurd (hpanic.symm.trans hc) nofun
  · intro hreturns
    constructor
    · intro htag
      cases hresult : yamlToCbor v with
      | ok c => exact absurd htag (yamlToCbor_ok_iff.mp ⟨c, hresult⟩)
      | err e => exact ⟨e, rfl⟩
      | panic => exact absurd hresult hreturns
    · intro huntagged
      rcases yamlToCbor_ok_iff.mpr huntagged with ⟨c, hc⟩
      exact ⟨c, hc, converted_of_ok hv hc⟩

/-- A mapping without tags, and behind it a tag that no mapping is around. -/
theorem convertsWell_sample : ConvertsWell
    (.sequence [.mapping [(.string ['a'], .negInt 1), (.posInt 7, .float 0)], .tagged ['!', 't'] .null]) := by
  have hentries : WellFormed (.mapping [(.string ['a'], .negInt 1), (.posInt 7, .float 0)]) := by
    refine .mapping ?_ ?_ (by decide)
    · simp only [List.forall_mem_cons, List.not_mem_nil, false_imp_iff, implies_true, and_true]
      exact ⟨.string _, .posInt _⟩
    · simp only [List.forall_mem_cons, List.not_mem_nil, false_imp_iff, implies_true, and_true]
      exact ⟨.negInt (by decide) (by decide), .float _⟩
  refine (convertsWell_iff (.sequence ?_)).mpr ?_
  · simp only [List.forall_mem_cons, List.not_mem_nil, false_imp_iff, implies_true, and_true]
    exact ⟨hentries, .tagged .null⟩
  · rw [← yamlToCbor_panic_iff]
    exact nofun

/-- The tag inside the mapping is unwrapped. -/
theorem tag_in_mapping_panics : ¬ ConvertsWell (.mapping [(.string ['a'], .tagged ['!', 't'] .null)]) := by
  intro h
  rcases h.1 (.value List.mem_cons_self (.tag _ _)) with ⟨e, he⟩
  have hpanic : yamlToCbor (.mapping [(.string ['a'], .tagged ['!', 't'] .null)]) = .panic := rfl
  exact absurd (hpanic.symm.trans he) nofun

end YamlValue
end FidoOnboard
