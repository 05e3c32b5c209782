import FidoOnboard.DataFormats.Reference
import FidoOnboard.DataFormats.ServiceInfo

/-!
# The two readers of service info

Module and key are joined with a colon and cut at the first one again. `iter` drops
the colon; `values` leaves it in front of the key.
-/
namespace FidoOnboard

/-- A module name that is found again before the colon. -/
def ServiceInfoModule.Readable (module : ServiceInfoModule) : Prop :=
  ':' ∉ module.toString.toList ∧ .fromStr module.toString = module

namespace ServiceInfo
open ServiceInfoModule

variable {P : Platform}

/-- The text before and behind the first colon. -/
structure Cut (moduleKey : String) (module key : List Char) : Prop where
  whole : moduleKey.toList = module ++ ':' :: key
  first : ':' ∉ module

theorem Cut.span_eq {moduleKey : String} {module key : List Char} (h : Cut moduleKey module key) :
    moduleKey.toList.span (· ≠ ':') = (module, ':' :: key) := by
  have hall : ∀ c ∈ module, decide (c ≠ ':') = true := fun c hc => by
    simp only [ne_eq, decide_eq_true_eq]
    rintro rfl
    exact h.first hc
  rw [h.whole, List.span_eq_takeWhile_dropWhile, List.takeWhile_append_of_pos hall,
    List.dropWhile_append_of_pos hall]
  simp

theorem Cut.splitKey_eq {moduleKey : String} {module key : List Char} (h : Cut moduleKey module key) :
    splitKey moduleKey = some (.fromStr (String.ofList module), String.ofList key) := by
  simp only [splitKey, h.span_eq]

theorem cut_exists (module key : String) : ∃ before behind, Cut (module ++ ":" ++ key) before behind := by
  have hmem : ':' ∈ (module ++ ":" ++ key).toList := by simp
  obtain ⟨before, behind, hwhole, hfirst⟩ := List.eq_append_cons_of_mem hmem
  exact ⟨before, behind, hwhole, hfirst⟩

theorem cut_of_readable {module : ServiceInfoModule} (h : module.Readable) (key : String) :
    Cut (module.toString ++ ":" ++ key) module.toString.toList key.toList :=
  ⟨by simp, h.1⟩

theorem splitKey_readable {module : ServiceInfoModule} (h : module.Readable) (key : String) :
    splitKey (module.toString ++ ":" ++ key) = some (module, key) := by
  rw [(cut_of_readable h key).splitKey_eq, String.ofList_toList, String.ofList_toList, h.2]

/-- Module and key come back from no other name. -/
theorem splitKey_eq_iff (module : ServiceInfoModule) (key : String) :
    splitKey (module.toString ++ ":" ++ key) = some (module, key) ↔ module.Readable := by
  constructor
  · intro h
    obtain ⟨before, behind, hcut⟩ := cut_exists module.toString key
    rw [hcut.splitKey_eq] at h
    obtain ⟨hmodule, -⟩ := Prod.mk.inj (Option.some.inj h)
    have hname : module.toString = String.ofList before := by rw [← hmodule, toString_fromStr]
    refine ⟨?_, by rw [hname]; exact hmodule⟩
    rw [hname, String.toList_ofList]
    exact hcut.first
  · exact fun h => splitKey_readable h key

/-! ## A sequence of calls -/

/-- A call of `add`: the bytes the value is written as, and the value they are read as. -/
structure Added (P : Platform) where
  module : ServiceInfoModule
  key : String
  written : Bytes
  value : P.Value
  decodes : P.valueFromSlice written = some value

def addAll (calls : List (Added P)) (info : ServiceInfo) : Outcome Error ServiceInfo :=
  calls.foldlM (fun info c => info.add c.module c.key (some c.written)) info

def Added.entry (c : Added P) : String × Bytes := (c.module.toString ++ ":" ++ c.key, c.written)

theorem addAll_eq (calls : List (Added P)) (info : ServiceInfo) :
    addAll calls info = .ok (info ++ calls.map Added.entry) := by
  induction calls generalizing info with
  | nil => simp [addAll]
  | cons c calls ih =>
      have hadd : info.add c.module c.key (some c.written) = .ok (info ++ [c.entry]) := rfl
      rw [addAll, List.foldlM_cons, hadd, Outcome.ok_bind]
      change addAll calls (info ++ [c.entry]) = _
      rw [ih, List.append_assoc, List.map_cons, List.singleton_append]

theorem iter_cons (c : Added P) (calls : List (Added P)) : ∃ module key,
    splitKey c.entry.1 = some (module, key) ∧ iter P ((c :: calls).map Added.entry) =
      (module, key, c.value) :: iter P (calls.map Added.entry) := by
  obtain ⟨before, behind, hcut⟩ := cut_exists c.module.toString c.key
  refine ⟨_, _, hcut.splitKey_eq, ?_⟩
  rw [List.map_cons, Added.entry, iter]
  simp only [hcut.splitKey_eq, c.decodes]

/-- `iter` gives the calls back exactly when every module name is found again. -/
theorem iter_addAll_iff (calls : List (Added P)) :
    iter P (calls.map Added.entry) = calls.map (fun c => (c.module, c.key, c.value)) ↔
      ∀ c ∈ calls, c.module.Readable := by
  induction calls with
  | nil => simp [iter]
  | cons c calls ih =>
      obtain ⟨module, key, hsplit, hiter⟩ := iter_cons c calls
      rw [hiter, List.map_cons, List.cons.injEq, ih, List.forall_mem_cons, ← splitKey_eq_iff c.module c.key]
      refine and_congr_left fun _ => ?_
      change _ ↔ splitKey c.entry.1 = _
      simp [hsplit]

/-- Both readers find the same module, and the same key but for the colon. -/
theorem values_addAll (calls : List (Added P)) :
    values P (calls.map Added.entry) =
      .ok ((iter P (calls.map Added.entry)).map
        fun (module, key, value) => (module.toString, ":" ++ key, value)) := by
  induction calls with
  | nil => rfl
  | cons c calls ih =>
      obtain ⟨before, behind, hcut⟩ := cut_exists c.module.toString c.key
      have hkey : String.ofList (':' :: behind) = ":" ++ String.ofList behind := by
        apply String.toList_injective
        simp
      rw [List.map_cons, Added.entry, values, iter]
      simp only [hcut.span_eq, hcut.splitKey_eq, c.decodes, Outcome.ofOption, Outcome.ok_bind, ih, List.map_cons,
        toString_fromStr, hkey]

/-- Both readers give the calls back, `values` with the modules as text. -/
structure RoundTrips (calls : List (Added P)) (info : ServiceInfo) : Prop where
  iter : iter P info = calls.map fun c => (c.module, c.key, c.value)
  values : values P info = .ok (calls.map fun c => (c.module.toString, c.key, c.value))

/-- The readers are right together on no call at all; `iter` is right wherever the module names
are found again, and `values` is off by the colon of every key. -/
theorem serviceInfo_roundTrips_iff (calls : List (Added P)) : ∃ info, addAll calls [] = .ok info ∧
    (RoundTrips calls info ↔ calls = []) ∧
    (iter P info = calls.map (fun c => (c.module, c.key, c.value)) ↔ ∀ c ∈ calls, c.module.Readable) ∧
    values P info = .ok ((iter P info).map fun (module, key, value) => (module.toString, ":" ++ key, value)) := by
  refine ⟨calls.map Added.entry, by simp [addAll_eq], ⟨?_, ?_⟩, iter_addAll_iff calls, values_addAll calls⟩
  · rintro ⟨hiter, hvalues⟩
    cases calls with
    | nil => rfl
    | cons c calls =>
        rw [values_addAll, hiter] at hvalues
        simp only [List.map_cons, Outcome.ok.injEq, List.cons.injEq, Prod.mk.injEq, and_true, true_and] at hvalues
        have hlength := congrArg (fun s => s.toList.length) hvalues.1
        simp at hlength
  · rintro rfl
    exact ⟨rfl, rfl⟩

/-- One module activated. -/
def sampleAdded : Added (Reference.reference .release) :=
  ⟨.standard .devMod, "active", [0xf5], .scalar (.bool true), by rfl⟩

theorem values_keeps_colon : ∃ info, addAll [sampleAdded] [] = .ok info ∧
    values _ info = .ok [("devmod", ":active", sampleAdded.value)] ∧ ¬ RoundTrips [sampleAdded] info := by
  have hvalues : values _ [sampleAdded.entry] = .ok [("devmod", ":active", sampleAdded.value)] := rfl
  refine ⟨[sampleAdded.entry], rfl, hvalues, fun h => ?_⟩
  have hkeys := congrArg (List.map fun e => e.2.1) (Outcome.ok.inj (h.values.symm.trans hvalues))
  exact absurd hkeys (by decide)

end ServiceInfo
end FidoOnboard
