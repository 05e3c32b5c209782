import FidoOnboard.ManufacturingServer.RendezvousConfiguration

/-!
# What a directive says

A directive of distinct variables says one value for each of them. What a side makes
of it depends on these values and on nothing else: not on their order, and not on
what is for the other side.
-/
namespace FidoOnboard.RendezvousInterpretedDirective

/-- A value for each variable that is there. -/
abbrev Reading := RendezvousVariable → Option CborValue

def reading (codec : Codec CborValue) (info : RendezvousDirective) : Reading :=
  fun var => (info.lookup var).bind codec.fromSlice

/-- The value of a variable at its type. -/
def Reading.get {α : Type} (r : Reading) (decode : CborValue → Outcome Error α) (var : RendezvousVariable) : Option α :=
  match r var with
  | some value =>
    match decode value with
    | .ok a => some a
    | _ => none
  | none => none

/-- What only the device looks at. -/
def Reading.onDevice {α : Type} (side : RendezvousInterpreterSide) (a : Option α) : Option α :=
  if side = .device then a else none

/-- What the side has read. -/
def Reading.draft (r : Reading) (side : RendezvousInterpreterSide) : Draft where
  ipAddresses := (r.get FromValue.ipAddress .ipAddress).toList
  dnsName := r.get FromValue.string .dns
  port := r.get (FromValue.unsigned 32) (if side = .device then .devicePort else .ownerPort)
  serverCertificateHash := onDevice side (r.get FromValue.hash .serverCertHash)
  caCertificateHash := onDevice side (r.get FromValue.hash .caCertHash)
  userInput := (onDevice side (r .userInput)).isSome
  wifiSsid := onDevice side (r.get FromValue.string .wifiSsid)
  wifiPassword := onDevice side (r.get FromValue.string .wifiPw)
  medium := onDevice side (r.get (FromValue.unsigned 8) .medium)
  protocol := (r.get FromValue.protocol .protocol).getD .tls
  delay := (r.get (FromValue.unsigned 32) .delaysec).getD 0
  bypass := (onDevice side (r .bypass)).isSome

/-- The variables that leave nothing for the side. -/
def stops : RendezvousInterpreterSide → List RendezvousVariable
  | .device => [.ownerOnly]
  | .owner => [.deviceOnly, .bypass]

/-- What a side makes of a reading. -/
def interpret (side : RendezvousInterpreterSide) (r : Reading) :
    Outcome Error (Option RendezvousInterpretedDirective) :=
  if ∃ var ∈ stops side, (r var).isSome then .ok none
  else do
    let directive ← finish (r.draft side)
    .ok (some directive)

/-- Markers may have any value. -/
def Typed (var : RendezvousVariable) (value : CborValue) : Prop :=
  match var with
  | .deviceOnly | .ownerOnly | .userInput | .bypass => True
  | .ipAddress => (FromValue.ipAddress value).isOk
  | .devicePort | .ownerPort | .delaysec => (FromValue.unsigned 32 value).isOk
  | .dns | .wifiSsid | .wifiPw => (FromValue.string value).isOk
  | .serverCertHash | .caCertHash => (FromValue.hash value).isOk
  | .medium => (FromValue.unsigned 8 value).isOk
  | .protocol => (FromValue.protocol value).isOk

/-- The value is CBOR of the type of its variable. -/
def Decodes (codec : Codec CborValue) (instruction : RendezvousInstruction) : Prop :=
  ∃ value, codec.fromSlice instruction.2 = some value ∧ Typed instruction.1 value

structure Proper (codec : Codec CborValue) (info : RendezvousDirective) : Prop where
  distinct : (info.map Prod.fst).Nodup
  decodes : ∀ instruction ∈ info, Decodes codec instruction

/-! ## One instruction -/

section

variable {side : RendezvousInterpreterSide} {r : Reading} {var : RendezvousVariable} {value : CborValue}

@[simp] theorem get_update_self {α : Type} {decode : CborValue → Outcome Error α} {a : α} (h : decode value = .ok a) :
    Reading.get (Function.update r var (some value)) decode var = some a := by
  simp only [Reading.get, Function.update_self, h]

@[simp] theorem get_update_ne {α : Type} {decode : CborValue → Outcome Error α} {other : RendezvousVariable}
    (h : other ≠ var) : Reading.get (Function.update r var (some value)) decode other = r.get decode other := by
  simp only [Reading.get, Function.update_of_ne h]

theorem get_fresh {α : Type} {decode : CborValue → Outcome Error α} (h : r var = none) : r.get decode var = none := by
  simp only [Reading.get, h]

theorem take_draft (htyped : Typed var value) (hfresh : r var = none) :
    take side (r.draft side) var value =
      .ok (if var ∈ stops side then none else some (Reading.draft (Function.update r var (some value)) side)) := by
  cases var
  case deviceOnly | ownerOnly | userInput | bypass =>
    cases side <;> simp [take, stops, Reading.draft, Reading.onDevice]
  case ipAddress =>
    obtain ⟨a, ha⟩ := Outcome.isOk_iff.mp htyped
    cases side <;> simp [take, stops, Reading.draft, Reading.onDevice, ha, get_fresh hfresh]
  all_goals
    obtain ⟨a, ha⟩ := Outcome.isOk_iff.mp htyped
    cases side <;> simp [take, stops, Reading.draft, Reading.onDevice, ha]

end

/-! ## All instructions -/

section

variable {codec : Codec CborValue} {info info' : RendezvousDirective} {side : RendezvousInterpreterSide}

theorem Proper.tail {instruction : RendezvousInstruction} (h : Proper codec (instruction :: info)) :
    Proper codec info where
  distinct := (List.nodup_cons.mp h.distinct).2
  decodes other hother := h.decodes other (List.mem_cons_of_mem instruction hother)

theorem lookup_eq_some_iff_mem (h : (info.map Prod.fst).Nodup) {var : RendezvousVariable} {data : Bytes} :
    info.lookup var = some data ↔ (var, data) ∈ info := by
  induction info with
  | nil => exact iff_of_false nofun List.not_mem_nil
  | cons instruction info ih =>
      rcases instruction with ⟨first, value⟩
      rw [List.map_cons, List.nodup_cons] at h
      by_cases hvar : var = first
      · subst hvar
        have hnot : (var, data) ∉ info := fun hmem => h.1 (List.mem_map.mpr ⟨_, hmem, rfl⟩)
        rw [List.lookup_cons_self, List.mem_cons, Option.some.injEq, Prod.mk.injEq]
        simp [hnot, eq_comm]
      · have hbeq : (var == first) = false := beq_eq_false_iff_ne.mpr hvar
        rw [List.lookup_cons, hbeq, List.mem_cons, Prod.mk.injEq]
        simpa [hvar] using ih h.2

theorem reading_eq_some (h : Proper codec info) {var : RendezvousVariable} {value : CborValue} :
    reading codec info var = some value ↔ ∃ data, (var, data) ∈ info ∧ codec.fromSlice data = some value := by
  rw [reading, Option.bind_eq_some_iff]
  simp only [lookup_eq_some_iff_mem h.distinct]

theorem reading_isSome (h : Proper codec info) {var : RendezvousVariable} :
    (reading codec info var).isSome ↔ ∃ instruction ∈ info, instruction.1 = var := by
  rw [Option.isSome_iff_exists]
  constructor
  · rintro ⟨value, hvalue⟩
    rcases (reading_eq_some h).mp hvalue with ⟨data, hmem, -⟩
    exact ⟨(var, data), hmem, rfl⟩
  · rintro ⟨⟨_, data⟩, hmem, rfl⟩
    rcases h.decodes _ hmem with ⟨value, hvalue, -⟩
    exact ⟨value, (reading_eq_some h).mpr ⟨data, hmem, hvalue⟩⟩

/-- What was read before, with what the rest says. -/
theorem takeAll_draft (h : Proper codec info) (r : Reading) (hfresh : ∀ instruction ∈ info, r instruction.1 = none) :
    takeAll codec side (r.draft side) info =
      .ok (if ∃ instruction ∈ info, instruction.1 ∈ stops side then none
        else some (Reading.draft (fun var => (reading codec info var).or (r var)) side)) := by
  induction info generalizing r with
  | nil => simp [takeAll, reading]
  | cons instruction info ih =>
      rcases instruction with ⟨var, data⟩
      rcases h.decodes _ List.mem_cons_self with ⟨value, hvalue, htyped⟩
      have hnew : r var = none := hfresh _ List.mem_cons_self
      have hdata : codec.deserializeData data = .ok value := Codec.deserializeData_eq_ok.mpr hvalue
      have hvar : ∀ other ∈ info, other.1 ≠ var := by
        intro other hother heq
        exact (List.nodup_cons.mp h.distinct).1 (List.mem_map.mpr ⟨other, hother, heq⟩)
      rw [takeAll, hdata, Outcome.ok_bind, take_draft htyped hnew, Outcome.ok_bind]
      by_cases hstop : var ∈ stops side
      case pos =>
        rw [if_pos hstop, if_pos ⟨_, List.mem_cons_self, hstop⟩]
      case neg =>
        have hrest : ∀ other ∈ info, Function.update r var (some value) other.1 = none := by
          intro other hother
          rw [Function.update_of_ne (hvar other hother)]
          exact hfresh other (List.mem_cons_of_mem _ hother)
        have hreading : (fun other => (reading codec info other).or (Function.update r var (some value) other)) =
            fun other => (reading codec ((var, data) :: info) other).or (r other) := by
          funext other
          by_cases hother : other = var
          · subst hother
            have habsent : reading codec info other = none := by
              rw [← Option.not_isSome_iff_eq_none, reading_isSome h.tail]
              rintro ⟨found, hfound, heq⟩
              exact hvar found hfound heq
            have hhead : reading codec ((other, data) :: info) other = some value := by
              rw [reading, List.lookup_cons_self, Option.bind_some, hvalue]
            rw [habsent, hhead, Function.update_self]
            rfl
          · have hbeq : (other == var) = false := beq_eq_false_iff_ne.mpr hother
            have htail : reading codec ((var, data) :: info) other = reading codec info other := by
              simp only [reading, List.lookup_cons, hbeq]
            rw [htail, Function.update_of_ne hother]
        have hstops : (∃ instruction ∈ (var, data) :: info, instruction.1 ∈ stops side) ↔
            ∃ instruction ∈ info, instruction.1 ∈ stops side := by
          simp only [List.exists_mem_cons_iff, hstop, false_or]
        rw [if_neg hstop]
        dsimp only
        rw [ih h.tail _ hrest, hreading]
        simp only [hstops]

/-- The loop over the instructions computes what the side makes of the reading. -/
theorem fromRvDirective_eq (h : Proper codec info) :
    fromRvDirective codec info side = interpret side (reading codec info) := by
  have hstart : Draft.start = Reading.draft (fun _ => none) side := by cases side <;> rfl
  have hstops : (∃ var ∈ stops side, (reading codec info var).isSome) ↔
      ∃ instruction ∈ info, instruction.1 ∈ stops side := by
    constructor
    · rintro ⟨var, hvar, hsome⟩
      rcases (reading_isSome h).mp hsome with ⟨instruction, hmem, rfl⟩
      exact ⟨instruction, hmem, hvar⟩
    · rintro ⟨instruction, hmem, hvar⟩
      exact ⟨instruction.1, hvar, (reading_isSome h).mpr ⟨instruction, hmem, rfl⟩⟩
  rw [fromRvDirective, hstart, takeAll_draft h _ fun _ _ => rfl, interpret, Outcome.ok_bind]
  by_cases hstop : ∃ instruction ∈ info, instruction.1 ∈ stops side
  · rw [if_pos hstop, if_pos (hstops.mpr hstop)]
  · rw [if_neg hstop, if_neg fun hsome => hstop (hstops.mp hsome)]
    simp only [Option.or_none]

/-! ## Order, and the other side -/

theorem Proper.perm (h : Proper codec info) (hperm : info'.Perm info) : Proper codec info' where
  distinct := (hperm.map Prod.fst).nodup_iff.mpr h.distinct
  decodes instruction hmem := h.decodes instruction (hperm.mem_iff.mp hmem)

theorem reading_perm (h : Proper codec info) (hperm : info'.Perm info) :
    reading codec info' = reading codec info := by
  funext var
  ext value
  rw [reading_eq_some (h.perm hperm), reading_eq_some h]
  simp only [hperm.mem_iff]

/-- The variables that are restricted to the other side. -/
def restricted : RendezvousInterpreterSide → List RendezvousVariable
  | .owner => [.devicePort, .serverCertHash, .caCertHash, .userInput, .wifiSsid, .wifiPw, .medium]
  | .device => [.ownerPort]

def remove (var : RendezvousVariable) (info : RendezvousDirective) : RendezvousDirective :=
  info.filter fun instruction => instruction.1 ≠ var

def change (var : RendezvousVariable) (value : Bytes) (info : RendezvousDirective) : RendezvousDirective :=
  info.map fun instruction => if instruction.1 = var then (var, value) else instruction

/-- What the side looks at. -/
def Reading.visible (side : RendezvousInterpreterSide) (r : Reading) : Reading :=
  fun var => if var ∈ restricted side then none else r var

theorem interpret_visible (side : RendezvousInterpreterSide) (r : Reading) :
    interpret side (r.visible side) = interpret side r := by
  have hdraft : (r.visible side).draft side = r.draft side := by cases side <;> rfl
  have hstop : ∀ var ∈ stops side, var ∉ restricted side := by cases side <;> decide
  have hstops : (∃ var ∈ stops side, (r.visible side var).isSome) ↔ ∃ var ∈ stops side, (r var).isSome := by
    apply exists_congr
    intro var
    apply and_congr_right
    intro hvar
    rw [Reading.visible, if_neg (hstop var hvar)]
  simp only [interpret, hdraft, hstops]

/-- Only what is restricted to the other side is different. -/
theorem fromRvDirective_congr (h : Proper codec info) (h' : Proper codec info')
    (hmem : ∀ var ∉ restricted side, ∀ data, (var, data) ∈ info' ↔ (var, data) ∈ info) :
    fromRvDirective codec info' side = fromRvDirective codec info side := by
  have hvisible : (reading codec info').visible side = (reading codec info).visible side := by
    funext var
    unfold Reading.visible
    split
    case isTrue => rfl
    case isFalse hvar =>
      ext value
      rw [reading_eq_some h', reading_eq_some h]
      simp only [hmem var hvar]
  rw [fromRvDirective_eq h', fromRvDirective_eq h, ← interpret_visible, hvisible, interpret_visible]

theorem Proper.remove (h : Proper codec info) (var : RendezvousVariable) : Proper codec (remove var info) where
  distinct := h.distinct.sublist (List.filter_sublist.map Prod.fst)
  decodes instruction hmem := h.decodes instruction (List.mem_filter.mp hmem).1

theorem change_fst (var : RendezvousVariable) (value : Bytes) (info : RendezvousDirective) :
    (change var value info).map Prod.fst = info.map Prod.fst := by
  rw [change, List.map_map]
  apply List.map_congr_left
  intro instruction _
  by_cases hvar : instruction.1 = var
  · simp [hvar]
  · simp [hvar]

theorem Proper.change (h : Proper codec info) {var : RendezvousVariable} {value : Bytes}
    (hvalue : Decodes codec (var, value)) : Proper codec (change var value info) where
  distinct := by
    rw [change_fst]
    exact h.distinct
  decodes := by
    intro instruction hmem
    rcases List.mem_map.mp hmem with ⟨old, hold, rfl⟩
    split
    · exact hvalue
    · exact h.decodes old hold

theorem mem_change {var other : RendezvousVariable} {value data : Bytes} (hother : other ≠ var) :
    (other, data) ∈ change var value info ↔ (other, data) ∈ info := by
  rw [change, List.mem_map]
  constructor
  · rintro ⟨old, hold, heq⟩
    split at heq
    · exact absurd (congrArg Prod.fst heq).symm hother
    · exact heq ▸ hold
  · intro hmem
    exact ⟨_, hmem, if_neg hother⟩

/-- The order of the instructions does not matter, and what is for the other side may be
left out or have another value. -/
theorem fromRvDirective_independent (h : Proper codec info) :
    (∀ info' side, info'.Perm info → fromRvDirective codec info' side = fromRvDirective codec info side) ∧
    ∀ side, ∀ var ∈ restricted side,
      fromRvDirective codec (remove var info) side = fromRvDirective codec info side ∧
        ∀ value, Decodes codec (var, value) →
          fromRvDirective codec (change var value info) side = fromRvDirective codec info side := by
  constructor
  · intro info' side hperm
    rw [fromRvDirective_eq (h.perm hperm), fromRvDirective_eq h, reading_perm h hperm]
  · intro side var hvar
    have hne : ∀ other ∉ restricted side, other ≠ var := fun other hother heq => hother (heq ▸ hvar)
    constructor
    · apply fromRvDirective_congr h (h.remove var)
      intro other hother data
      rw [remove, List.mem_filter]
      exact and_iff_left (decide_eq_true (hne other hother))
    · intro value hvalue
      apply fromRvDirective_congr h (h.change hvalue)
      intro other hother data
      exact mem_change (hne other hother)

end

/-- Where a server is, and the ports of both sides. -/
def twoPorts : RendezvousDirective :=
  [(.devicePort, [0x18, 80]), (.dns, [0x61, 0x61]), (.ownerPort, [0x19, 0x1f, 0x90]), (.protocol, [0x01])]

theorem twoPorts_proper : Proper RendezvousConfiguration.scalars twoPorts where
  distinct := by decide
  decodes := by
    intro instruction hmem
    simp only [twoPorts, List.mem_cons, List.not_mem_nil, or_false] at hmem
    rcases hmem with rfl | rfl | rfl | rfl
    · exact ⟨.integer 80, rfl, rfl⟩
    · exact ⟨.text ['a'], rfl, rfl⟩
    · exact ⟨.integer 8080, rfl, rfl⟩
    · exact ⟨.integer 1, rfl, rfl⟩

theorem twoPorts_reversed :
    fromRvDirective RendezvousConfiguration.scalars twoPorts.reverse .owner =
        fromRvDirective RendezvousConfiguration.scalars twoPorts .owner ∧
      fromRvDirective RendezvousConfiguration.scalars (change .devicePort [0x18, 81] twoPorts) .owner =
        fromRvDirective RendezvousConfiguration.scalars twoPorts .owner := by
  have hport : Decodes RendezvousConfiguration.scalars (.devicePort, [0x18, 81]) := ⟨.integer 81, rfl, rfl⟩
  rcases fromRvDirective_independent twoPorts_proper with ⟨horder, hother⟩
  exact ⟨horder _ .owner (List.reverse_perm twoPorts), (hother .owner .devicePort (by decide)).2 _ hport⟩

end FidoOnboard.RendezvousInterpretedDirective
