import FidoOnboard.Base.Leases
import FidoOnboard.OwnerServer.Maintenance
import FidoOnboard.Store.MetadataFrame

/-!
# Vouchers stay registered

Where the window is wider than the pause and the work, a voucher whose reports
succeed is registered all the time.
-/
namespace FidoOnboard.OwnerServer.Maintenance
open Stores Leases

variable {P : Platform}

/-- The clock does not go back and does not reach the last years that can be printed, no report panics, and
requests leave the vouchers in their rows and the row of `key` alone. -/
structure Fair (w : World P) (key : GuidKey) : Prop where
  clock : Monotone w.clock
  years : ∀ n, unixTimestamp (w.clock n) + 2 ^ 32 ≤ maxTimestamp
  reports : ∀ n ov, w.report n ov ≠ .panic
  waits : ∀ n ov waitSeconds, w.report n ov = .ok waitSeconds → waitSeconds < 2 ^ 32
  filed : ∀ n table, Filed P table → Filed P (w.others n table)
  row : ∀ n table, (w.others n table).lookup key.toText = table.lookup key.toText

/-- Reports of the voucher succeed, for at least so many seconds. -/
def Granted (w : World P) (key : GuidKey) (least : Nat) : Prop :=
  ∀ n ov, ov.header.cachedGuid = key.guid → ∃ waitSeconds ≥ least, w.report n ov = .ok waitSeconds

/-- The voucher is there, onboarding is not done, and this is when its registration runs out. -/
def Pending (key : GuidKey) (p : Progress) (deadline : Option Int) : Prop :=
  ∃ row, p.table.lookup key.toText = some row ∧ (∀ b ∈ row.columns.to2Performed, b = false) ∧
    row.columns.to0AcceptOwnerWaitSeconds = deadline

def leases (key : GuidKey) (p : Progress) : List Lease :=
  (p.registered.filter fun r => r.guid = key.guid).map fun r => ⟨r.moment, r.waitSeconds * nanoseconds⟩

/-- The deadline is the one of this lease, which was written down when it was `now` at the latest. -/
def Settled (key : GuidKey) (p : Progress) (now : Instant) (latest : Lease) : Prop :=
  ∃ deadline, Pending key p (some deadline) ∧ unixTimestamp (latest.since + latest.length) ≤ deadline ∧
    deadline ≤ unixTimestamp (now + latest.length)

/-- What a part of the work does for one voucher. -/
structure Served (w : World P) (key : GuidKey) (p p' : Progress) (taken : List Lease) : Prop where
  tick : p.tick ≤ p'.tick
  filed : Filed P p'.table
  leases : leases key p' = taken ++ leases key p
  times : ∀ l ∈ taken, p.now w ≤ l.since ∧ l.since ≤ p'.now w
  pending : ∀ deadline, Pending key p deadline →
    (taken = [] ∧ Pending key p' deadline) ∨ ∃ latest ∈ taken.head?, Settled key p' (p'.now w) latest

variable {w : World P} {key : GuidKey} {p p' p'' : Progress}

theorem unixTimestamp_mono {a b : Int} (h : a ≤ b) : unixTimestamp a ≤ unixTimestamp b :=
  Int.ediv_le_ediv (by decide) h

theorem Settled.later {now now' : Nat} {latest : Lease} (hnow : now ≤ now') (h : Settled key p now latest)
    (hkept : ∀ deadline, Pending key p deadline → Pending key p' deadline) : Settled key p' now' latest := by
  obtain ⟨deadline, hpending, hleast, hmost⟩ := h
  refine ⟨deadline, hkept _ hpending, hleast, hmost.trans (unixTimestamp_mono ?_)⟩
  omega

theorem Served.trans (fair : Fair w key) {first second : List Lease} (h₁ : Served w key p p' first)
    (h₂ : Served w key p' p'' second) : Served w key p p'' (second ++ first) := by
  have hbefore : p.now w ≤ p'.now w := fair.clock h₁.tick
  have hafter : p'.now w ≤ p''.now w := fair.clock h₂.tick
  refine ⟨h₁.tick.trans h₂.tick, h₂.filed, ?_, ?_, ?_⟩
  · rw [h₂.leases, h₁.leases, List.append_assoc]
  · intro l hl
    rcases List.mem_append.mp hl with hl | hl
    · exact ⟨hbefore.trans (h₂.times l hl).1, (h₂.times l hl).2⟩
    · exact ⟨(h₁.times l hl).1, (h₁.times l hl).2.trans hafter⟩
  · intro deadline hpending
    rcases h₁.pending deadline hpending with ⟨rfl, hkept⟩ | ⟨latest, hlatest, hsettled⟩
    · rw [List.append_nil]
      exact h₂.pending deadline hkept
    · cases second with
      | nil =>
          refine .inr ⟨latest, hlatest, hsettled.later hafter fun deadline' hpending' => ?_⟩
          rcases h₂.pending deadline' hpending' with ⟨_, hkept⟩ | ⟨_, hnone, _⟩
          · exact hkept
          · cases hnone
      | cons l second =>
          obtain ⟨deadline', hpending', _⟩ := hsettled
          rcases h₂.pending _ hpending' with ⟨hnone, _⟩ | hsettled
          · cases hnone
          · exact .inr hsettled

theorem served_pass (fair : Fair w key) (hfiled : Filed P p.table) : Served w key p (p.pass w) [] where
  tick := Nat.le_succ _
  filed := fair.filed _ _ hfiled
  leases := rfl
  times := fun l hl => absurd hl List.not_mem_nil
  pending := by
    rintro deadline ⟨row, hrow, hopen⟩
    exact .inl ⟨rfl, row, (fair.row _ _).trans hrow, hopen⟩

/-! ## One voucher -/

/-- A `u32` of seconds from now on is a time that can be printed. -/
theorem expiry_ok {now waitSeconds : Nat} (hyears : unixTimestamp now + 2 ^ 32 ≤ maxTimestamp)
    (hwait : waitSeconds < 2 ^ 32) : expiry now (waitSeconds * nanoseconds) =
      .ok (unixTimestamp (now + (waitSeconds * nanoseconds : Nat))) := by
  have hin : minTimestamp ≤ unixTimestamp (now + (waitSeconds * nanoseconds : Nat)) ∧
      unixTimestamp (now + (waitSeconds * nanoseconds : Nat)) ≤ maxTimestamp := by
    unfold unixTimestamp minTimestamp maxTimestamp nanoseconds at *
    omega
  rw [← Nat.cast_mul]
  unfold expiry
  rw [if_pos hin]

theorem storeMetadata_wait {now : Instant} {duration until' : Int} (hexpiry : expiry now duration = .ok until')
    (key : GuidKey) (table : Table OwnerColumns) :
    OwnerTable.storeMetadata now key (.localKey .to0AcceptOwnerWaitSeconds) (.duration duration) table =
      (.ok (), Db.updateOvTo0WaitSeconds key.toText (some until') table) := by
  have hparse : OwnerTable.parseI64 now (.duration duration) = .ok until' := hexpiry
  unfold OwnerTable.storeMetadata
  dsimp only
  rw [hparse]

theorem storeWait_ok (fair : Fair w key) {key' : GuidKey} {waitSeconds : Nat} (hwait : waitSeconds < 2 ^ 32)
    (p : Progress) : storeWait w key'.guid waitSeconds p = (.ok (), Progress.pass w { p with
      table := Db.updateOvTo0WaitSeconds key'.toText
        (some (unixTimestamp (p.now w + (waitSeconds * nanoseconds : Nat)))) p.table }) := by
  have hkey : keyOf key'.guid = .ok key' := dif_pos key'.sixteen
  have hstored := storeMetadata_wait (expiry_ok (fair.years p.tick) hwait) key' p.table
  unfold storeWait Progress.now
  rw [hkey]
  dsimp only
  rw [hstored]

theorem Pending.updated {waitUntil deadline : Option Int} (h : Pending key p deadline) :
    Pending key { p with table := Db.updateOvTo0WaitSeconds key.toText waitUntil p.table } waitUntil := by
  obtain ⟨row, hrow, hopen, _⟩ := h
  refine ⟨{ row with columns := { row.columns with to0AcceptOwnerWaitSeconds := waitUntil } }, ?_, hopen, rfl⟩
  simp only [Db.updateOvTo0WaitSeconds, Db.lookup_updateColumns, if_true, hrow, Option.map_some]

theorem Pending.of_ne {key' : GuidKey} (hne : key' ≠ key) {waitUntil deadline : Option Int}
    (h : Pending key p deadline) :
    Pending key { p with table := Db.updateOvTo0WaitSeconds key'.toText waitUntil p.table } deadline := by
  obtain ⟨row, hrow, hopen⟩ := h
  refine ⟨row, ?_, hopen⟩
  have htext : key.toText ≠ key'.toText := fun heq => hne (toText_injective heq).symm
  simp only [Db.updateOvTo0WaitSeconds, Db.lookup_updateColumns, if_neg htext, hrow]

/-- What the voucher is registered for, where it is handled. -/
def granted (w : World P) (key : GuidKey) (p : Progress) (ov : OwnershipVoucher P) : List Lease :=
  match w.report p.tick ov with
  | .ok waitSeconds => if ov.header.cachedGuid = key.guid then [⟨p.now w, waitSeconds * nanoseconds⟩] else []
  | _ => []

/-- A voucher whose guid has sixteen bytes is handled, and registered if the rendezvous server takes it. -/
theorem handle_served (fair : Fair w key) (hfiled : Filed P p.table) {ov : OwnershipVoucher P} {key' : GuidKey}
    (hguid : ov.header.cachedGuid = key'.guid) : ∃ p', handleReportToRendezvous w ov p = (.ok (), p') ∧
      Served w key p p' (granted w key p ov) := by
  cases hreport : w.report p.tick ov with
  | panic => exact absurd hreport (fair.reports _ _)
  | err e =>
      have hnone : granted w key p ov = [] := by simp only [granted, hreport]
      rw [hnone]
      exact ⟨p.pass w, by simp only [handleReportToRendezvous, hreport], served_pass fair hfiled⟩
  | ok waitSeconds =>
      have hwait := fair.waits _ _ _ hreport
      let p₁ : Progress := Progress.pass w { p with registered := ⟨key'.guid, p.now w, waitSeconds⟩ :: p.registered }
      let deadline' := unixTimestamp (p₁.now w + (waitSeconds * nanoseconds : Nat))
      let p₂ : Progress :=
        { p₁ with table := Db.updateOvTo0WaitSeconds key'.toText (some deadline') p₁.table }
      have hrun : handleReportToRendezvous w ov p = (.ok (), p₂.pass w) := by
        simp only [handleReportToRendezvous, hreport, hguid]
        exact storeWait_ok fair hwait _
      have hfiled₂ : Filed P p₂.table := filed_updateColumns (fair.filed _ _ hfiled) _ _
      have hlast := served_pass (p := p₂) fair hfiled₂
      have hpending₁ : ∀ deadline, Pending key p deadline → Pending key p₁ deadline := by
        rintro deadline ⟨row, hrow, hopen⟩
        exact ⟨row, (fair.row _ _).trans hrow, hopen⟩
      have hkept : ∀ deadline, Pending key p₂ deadline → Pending key (p₂.pass w) deadline := by
        rintro deadline ⟨row, hrow, hopen⟩
        exact ⟨row, (fair.row _ _).trans hrow, hopen⟩
      have htick : p.tick ≤ (p₂.pass w).tick := (Nat.le_succ _).trans (Nat.le_succ _)
      refine ⟨p₂.pass w, hrun, ?_⟩
      by_cases hkey : key' = key
      case pos =>
        subst hkey
        have htaken : granted w key' p ov = [⟨p.now w, waitSeconds * nanoseconds⟩] := by
          simp only [granted, hreport, hguid, if_true]
        rw [htaken]
        refine ⟨htick, hlast.filed, ?_, ?_, ?_⟩
        · change leases key' p₁ = _
          simp [leases, p₁, Progress.pass]
        · intro l hl
          cases List.mem_singleton.mp hl
          exact ⟨le_refl _, fair.clock htick⟩
        · intro deadline hpending
          have hbefore : (p.now w : Int) ≤ p₁.now w := Nat.cast_le.mpr (fair.clock (Nat.le_succ _))
          have hafter : (p₁.now w : Int) ≤ (p₂.pass w).now w := Nat.cast_le.mpr (fair.clock (Nat.le_succ _))
          refine .inr ⟨_, rfl, _, hkept _ (hpending₁ _ hpending).updated, ?_, ?_⟩
          · exact unixTimestamp_mono (Int.add_le_add_right hbefore _)
          · exact unixTimestamp_mono (Int.add_le_add_right hafter _)
      case neg =>
        have hguids : key'.guid ≠ key.guid := fun h => hkey (GuidKey.ext h)
        have htaken : granted w key p ov = [] := by
          simp only [granted, hreport, hguid, if_neg hguids]
        rw [htaken]
        refine ⟨htick, hlast.filed, ?_, fun l hl => absurd hl List.not_mem_nil, ?_⟩
        · change leases key p₁ = _
          simp [leases, p₁, Progress.pass, hguids]
        · intro deadline hpending
          exact .inl ⟨rfl, hkept _ ((hpending₁ _ hpending).of_ne hkey)⟩

/-! ## The vouchers of a query -/

theorem handleAll_served (fair : Fair w key) {least : Nat} (hgranted : Granted w key least)
    {ovs : List (OwnershipVoucher P)} (hguids : ∀ ov ∈ ovs, ∃ key' : GuidKey, ov.header.cachedGuid = key'.guid) :
    ∀ p, Filed P p.table → ∃ p' taken, handleAll w ovs p = (.ok (), p') ∧ Served w key p p' taken ∧
      (∀ l ∈ taken, least * nanoseconds ≤ l.length) ∧
      ((∃ ov ∈ ovs, ov.header.cachedGuid = key.guid) → taken ≠ []) := by
  induction ovs with
  | nil =>
      intro p hfiled
      refine ⟨p, [], rfl, ⟨le_refl _, hfiled, rfl, ?_, fun deadline h => .inl ⟨rfl, h⟩⟩, ?_, ?_⟩
      · exact fun l hl => absurd hl List.not_mem_nil
      · exact fun l hl => absurd hl List.not_mem_nil
      · rintro ⟨ov, hov, _⟩
        cases hov
  | cons ov ovs ih =>
      intro p hfiled
      obtain ⟨key', hguid⟩ := hguids ov List.mem_cons_self
      obtain ⟨p₁, hhandle, hfirst⟩ := handle_served fair hfiled hguid
      obtain ⟨p₂, rest, hall, hrest, hlong, hours⟩ :=
        ih (fun ov' hov' => hguids ov' (List.mem_cons_of_mem _ hov')) p₁ hfirst.filed
      refine ⟨p₂, rest ++ granted w key p ov, by simp only [handleAll, hhandle, hall], hfirst.trans fair hrest, ?_, ?_⟩
      · intro l hl
        rcases List.mem_append.mp hl with hl | hl
        · exact hlong l hl
        · unfold granted at hl
          by_cases hown : ov.header.cachedGuid = key.guid
          · obtain ⟨waitSeconds, hleast, hreport⟩ := hgranted p.tick ov hown
            simp only [hreport, if_pos hown, List.mem_singleton] at hl
            subst hl
            exact Nat.mul_le_mul_right _ hleast
          · cases hreport : w.report p.tick ov <;> simp [hreport, hown] at hl
      · rintro ⟨ov', hov', hown⟩ hnone
        obtain ⟨hnoRest, hnoFirst⟩ := List.append_eq_nil_iff.mp hnone
        rcases List.mem_cons.mp hov' with rfl | hov'
        · obtain ⟨waitSeconds, _, hreport⟩ := hgranted p.tick ov' hown
          simp [granted, hreport, hown] at hnoFirst
        · exact hours ⟨ov', hov', hown⟩ hnoRest

/-- A query for what has run out by `max` shows vouchers with guids of sixteen bytes, and ours if it has. -/
theorem query_pending (hfiled : Filed P p.table) {deadline : Option Int} (hpending : Pending key p deadline)
    (to2 : Bool) (max : Int) : ∃ ovs,
      OwnerTable.queryOvsDbTo2PerformedTo0LessThan (vouchers P) to2 max p.table = .ok ovs ∧
      (∀ ov ∈ ovs, ∃ key' : GuidKey, ov.header.cachedGuid = key'.guid) ∧
      ((∀ t ∈ deadline, t < max) → ∃ ov ∈ ovs, ov.header.cachedGuid = key.guid) := by
  obtain ⟨ovs, hquery, hmem⟩ := query_selects hfiled to2 max
  refine ⟨ovs, hquery, ?_, ?_⟩
  · intro ov hov
    obtain ⟨guid, row, hrow, hv, _⟩ := (hmem ov).mp hov
    obtain ⟨v, key', hv', _, hguid⟩ := hfiled guid row hrow
    obtain rfl := Outcome.ok.inj (hv.symm.trans hv')
    exact ⟨key', hguid⟩
  · intro hdue
    obtain ⟨row, hrow, hopen, hcolumn⟩ := hpending
    obtain ⟨v, key', hv, hkey, hguid⟩ := hfiled _ row hrow
    obtain rfl := toText_injective hkey
    exact ⟨v, (hmem v).mpr ⟨_, row, hrow, hv, hopen, hcolumn ▸ hdue⟩, hguid⟩

/-- One query and what follows from it. -/
theorem part_served (fair : Fair w key) {least : Nat} (hgranted : Granted w key least) (hfiled : Filed P p.table)
    {deadline : Option Int} (hpending : Pending key p deadline) (to2 : Bool) (max : Int) : ∃ ovs p' taken,
      OwnerTable.queryOvsDbTo2PerformedTo0LessThan (vouchers P) to2 max p.table = .ok ovs ∧
      handleAll w ovs (p.pass w) = (.ok (), p') ∧ Served w key p p' taken ∧
      (∀ l ∈ taken, least * nanoseconds ≤ l.length) ∧ (taken = [] → ∃ d, deadline = some d ∧ max ≤ d) := by
  obtain ⟨ovs, hquery, hguids, hours⟩ := query_pending hfiled hpending to2 max
  have hpass := served_pass fair hfiled
  obtain ⟨p', taken, hall, hserved, hlong, htaken⟩ := handleAll_served fair hgranted hguids _ hpass.filed
  have htrans := hpass.trans fair hserved
  rw [List.append_nil] at htrans
  refine ⟨ovs, p', taken, hquery, hall, htrans, hlong, ?_⟩
  intro hnone
  cases deadline with
  | none => exact absurd hnone (htaken (hours fun t ht => by cases ht))
  | some d =>
      refine ⟨d, rfl, not_lt.mp fun hlt => absurd hnone (htaken (hours fun t ht => ?_))⟩
      cases ht
      exact hlt

/-! ## One turn -/

theorem turn_served (fair : Fair w key) {least : Nat} (window : Nat) (hgranted : Granted w key least)
    (hfiled : Filed P p.table) {deadline : Option Int} (hpending : Pending key p deadline) : ∃ p' taken,
      turn w window p = some p' ∧ Served w key (p.pass w) p' taken ∧
      (∀ l ∈ taken, least * nanoseconds ≤ l.length) ∧
      (taken = [] → ∃ d, deadline = some d ∧ unixTimestamp ((p.pass w).now w) + window ≤ d) := by
  have hpass := served_pass fair hfiled
  have hpaused : Pending key (p.pass w) deadline := by
    rcases hpass.pending deadline hpending with ⟨_, h⟩ | ⟨_, hnone, _⟩
    · exact h
    · cases hnone
  obtain ⟨ovs₁, p₁, first, hquery₁, hall₁, hfirst, hlong₁, hkept₁⟩ :=
    part_served fair hgranted hpass.filed hpaused false (unixTimestamp ((p.pass w).now w))
  have hreport : reportToRendezvous w (p.pass w) = (.ok (), p₁) := by
    have hquery : OwnerTable.queryOvsDb (vouchers P) ((p.pass w).now w) (p.pass w).table = .ok ovs₁ := hquery₁
    simp only [reportToRendezvous, hquery, hall₁]
  have hafter : ∃ deadline₁, Pending key p₁ deadline₁ ∧ (first = [] → deadline₁ = deadline) := by
    rcases hfirst.pending deadline hpaused with ⟨_, h⟩ | ⟨latest, hlatest, d, h, _⟩
    · exact ⟨deadline, h, fun _ => rfl⟩
    · refine ⟨some d, h, fun hnone => ?_⟩
      rw [hnone] at hlatest
      cases hlatest
  obtain ⟨deadline₁, hpending₁, hsame⟩ := hafter
  obtain ⟨ovs₂, p₂, second, hquery₂, hall₂, hsecond, hlong₂, hkept₂⟩ :=
    part_served fair hgranted hfirst.filed hpending₁ false (unixTimestamp (p₁.now w) + window)
  have hcheck : checkRegistrationWindow w window p₁ = (.ok (), p₂) := by
    simp only [checkRegistrationWindow, hquery₂, hall₂]
  refine ⟨p₂, second ++ first, by simp only [turn, hreport, hcheck], hfirst.trans fair hsecond, ?_, ?_⟩
  · intro l hl
    rcases List.mem_append.mp hl with hl | hl
    · exact hlong₂ l hl
    · exact hlong₁ l hl
  · intro hnone
    obtain ⟨hnoSecond, hnoFirst⟩ := List.append_eq_nil_iff.mp hnone
    obtain ⟨d, hd, hle⟩ := hkept₂ hnoSecond
    have hlater : (((p.pass w).now w : Nat) : Int) ≤ p₁.now w := Nat.cast_le.mpr (fair.clock hfirst.tick)
    refine ⟨d, (hsame hnoFirst).symm.trans hd, ?_⟩
    calc unixTimestamp ((p.pass w).now w) + window ≤ unixTimestamp (p₁.now w) + window :=
          Int.add_le_add_right (unixTimestamp_mono hlater) _
      _ ≤ d := hle

/-! ## Every turn -/

/-- The pause is over in time, and the work is. -/
def Paced (w : World P) (pause work : Nat) (p p' : Progress) : Prop :=
  (p.pass w).now w ≤ p.now w + pause ∧ p'.now w ≤ (p.pass w).now w + work

/-- Turns of the loop, one after the other. -/
inductive Turns (w : World P) (window pause work : Nat) : Progress → Progress → Prop where
  | start (p : Progress) : Turns w window pause work p p
  | next {p p' p'' : Progress} (turns : Turns w window pause work p p') (step : turn w window p' = some p'')
      (paced : Paced w pause work p' p'') : Turns w window pause work p p''

/-- What holds of the voucher between the turns. -/
structure Kept (w : World P) (key : GuidKey) (pause work : Nat) (p : Progress) : Prop where
  filed : Filed P p.table
  pending : ∃ deadline, Pending key p deadline
  rounds : Rounds nanoseconds pause work (p.now w) (leases key p)
  /-- The deadline in the row is off by the work at most. -/
  known : ∀ latest ∈ (leases key p).head?, ∃ deadline, Pending key p (some deadline) ∧
    deadline ≤ unixTimestamp (latest.since + work + latest.length)

theorem Pending.deadline_eq {deadline deadline' : Option Int} (h : Pending key p deadline)
    (h' : Pending key p deadline') : deadline = deadline' := by
  obtain ⟨row, hrow, _, rfl⟩ := h
  obtain ⟨row', hrow', _, rfl⟩ := h'
  rw [Option.some.inj (hrow.symm.trans hrow')]

/-- A deadline beyond the window, as the row tells it, is one the next turn is in time for. -/
theorem outlasts {start since length pause work window : Nat}
    (hwindow : pause + 3 * work + 2 * nanoseconds ≤ window * nanoseconds)
    (h : unixTimestamp start + window ≤ unixTimestamp (since + work + length)) :
    start + (pause + 2 * work + nanoseconds) ≤ since + length := by
  have hpos : (0 : Int) < nanoseconds := by decide
  have hstart : (start : Int) < (unixTimestamp start + 1) * nanoseconds := Int.lt_ediv_add_one_mul_self _ hpos
  have hend : unixTimestamp (since + work + length) * nanoseconds ≤ since + work + length :=
    Int.ediv_mul_le _ hpos.ne'
  have hscaled := Int.mul_le_mul_of_nonneg_right h hpos.le
  have hcast : (pause : Int) + 3 * work + 2 * nanoseconds ≤ window * nanoseconds := by exact_mod_cast hwindow
  have hgoal : (start : Int) + (pause + 2 * work + nanoseconds) ≤ since + length := by linarith
  exact_mod_cast hgoal

theorem Kept.turn (fair : Fair w key) {least window pause work : Nat} (hgranted : Granted w key least)
    (hleast : pause + 2 * work + nanoseconds ≤ least * nanoseconds)
    (hwindow : pause + 3 * work + 2 * nanoseconds ≤ window * nanoseconds)
    (h : Kept w key pause work p) (hturn : Maintenance.turn w window p = some p') (paced : Paced w pause work p p') :
    Kept w key pause work p' := by
  obtain ⟨deadline, hpending⟩ := h.pending
  obtain ⟨q, taken, hq, hserved, hlong, hkept⟩ := turn_served fair window hgranted h.filed hpending
  obtain rfl := Option.some.inj (hturn.symm.trans hq)
  obtain ⟨hpause, hwork⟩ := paced
  have hpass := served_pass fair h.filed
  have hheld : leases key p' = taken ++ leases key p := hserved.leases
  have hstart : p.now w ≤ (p.pass w).now w := fair.clock hpass.tick
  have hend : (p.pass w).now w ≤ p'.now w := fair.clock hserved.tick
  have hpaused : Pending key (p.pass w) deadline := by
    rcases hpass.pending deadline hpending with ⟨_, hsame⟩ | ⟨_, hnone, _⟩
    · exact hsame
    · cases hnone
  refine ⟨hserved.filed, ?_, ?_, ?_⟩
  · rcases hserved.pending deadline hpaused with ⟨_, hsame⟩ | ⟨_, _, d, hnew, _⟩
    · exact ⟨deadline, hsame⟩
    · exact ⟨some d, hnew⟩
  · rw [hheld]
    refine .next h.rounds ⟨(p.pass w).now w, hstart, hpause, hend, hwork, ?_, ?_⟩
    · intro l hl
      exact ⟨(hserved.times l hl).1, (hserved.times l hl).2, hleast.trans (hlong l hl)⟩
    · intro hnone latest hlatest
      obtain ⟨d, rfl, hmost⟩ := hkept hnone
      obtain ⟨d', hd', hknown⟩ := h.known latest hlatest
      obtain rfl := Option.some.inj (hpending.deadline_eq hd')
      exact outlasts hwindow (hmost.trans hknown)
  · rw [hheld]
    cases taken with
    | nil =>
        intro latest hlatest
        obtain ⟨d, hd, hknown⟩ := h.known latest hlatest
        obtain rfl := hpending.deadline_eq hd
        rcases hserved.pending _ hpaused with ⟨_, hsame⟩ | ⟨_, hnone, _⟩
        · exact ⟨d, hsame, hknown⟩
        · cases hnone
    | cons l taken =>
        intro latest hlatest
        rcases hserved.pending deadline hpaused with ⟨hnone, _⟩ | ⟨latest', hlatest', d, hnew, _, hmost⟩
        · cases hnone
        · obtain rfl := Option.some.inj (hlatest.symm.trans hlatest')
          have hsince := (hserved.times latest (List.mem_of_mem_head? hlatest)).1
          have hnow : p'.now w ≤ latest.since + work := hwork.trans (Nat.add_le_add_right hsince work)
          have hcast : (p'.now w : Int) ≤ latest.since + work := by exact_mod_cast hnow
          exact ⟨d, hnew, hmost.trans (unixTimestamp_mono (Int.add_le_add_right hcast _))⟩

theorem Turns.kept (fair : Fair w key) {least window pause work : Nat} (hgranted : Granted w key least)
    (hleast : pause + 2 * work + nanoseconds ≤ least * nanoseconds)
    (hwindow : pause + 3 * work + 2 * nanoseconds ≤ window * nanoseconds) (h : Kept w key pause work p)
    (turns : Turns w window pause work p p') : Kept w key pause work p' := by
  induction turns with
  | start => exact h
  | next _ step paced ih => exact ih.turn fair hgranted hleast hwindow step paced

/-- A voucher that is due is registered in the first turn. -/
theorem Turns.registered (fair : Fair w key) {least window pause work : Nat} (hgranted : Granted w key least)
    (hleast : pause + 2 * work + nanoseconds ≤ least * nanoseconds)
    (hwindow : pause + 3 * work + 2 * nanoseconds ≤ window * nanoseconds) (h : Kept w key pause work p)
    {deadline : Option Int} (hpending : Pending key p deadline)
    (hdue : ∀ d ∈ deadline, d < unixTimestamp (p.now w) + window) (turns : Turns w window pause work p p') :
    p' = p ∨ leases key p' ≠ [] := by
  induction turns with
  | start => exact .inl rfl
  | @next p' p'' turns step _ ih =>
      have hkept := turns.kept fair hgranted hleast hwindow h
      obtain ⟨deadline', hpending'⟩ := hkept.pending
      obtain ⟨q, taken, hq, hserved, _, htaken⟩ := turn_served fair window hgranted hkept.filed hpending'
      obtain rfl := Option.some.inj (step.symm.trans hq)
      right
      rw [hserved.leases]
      rcases ih with rfl | hheld
      · intro hnone
        obtain ⟨d, rfl, hle⟩ := htaken (List.append_eq_nil_iff.mp hnone).1
        have hlt := hdue d (hpending.deadline_eq hpending')
        have hlater : ((p'.now w : Nat) : Int) ≤ (p'.pass w).now w := Nat.cast_le.mpr (fair.clock (Nat.le_succ _))
        have hmono := unixTimestamp_mono hlater
        omega
      · exact fun hnone => hheld (List.append_eq_nil_iff.mp hnone).2

/-- The loop goes on, a voucher that is due is registered in the first turn, and once registered the voucher
is registered all the time. -/
theorem registered_throughout (fair : Fair w key) {least window pause work : Nat} (hgranted : Granted w key least)
    (hleast : pause + 2 * work + nanoseconds ≤ least * nanoseconds)
    (hwindow : pause + 3 * work + 2 * nanoseconds ≤ window * nanoseconds) (hfiled : Filed P p.table)
    {deadline : Option Int} (hpending : Pending key p deadline) (hnone : leases key p = [])
    (turns : Turns w window pause work p p') :
    (∃ p'', turn w window p' = some p'') ∧
    ((∀ d ∈ deadline, d < unixTimestamp (p.now w) + window) → p' ≠ p → leases key p' ≠ []) ∧
    ∀ first ∈ leases key p', ∀ t, first.since ≤ t → t ≤ p'.now w →
      ∃ l ∈ leases key p', l.Covers nanoseconds t := by
  have hstart : Kept w key pause work p := by
    refine ⟨hfiled, ⟨deadline, hpending⟩, ?_, ?_⟩
    · rw [hnone]
      exact .start _
    · rw [hnone]
      exact fun latest hlatest => by cases hlatest
  have hkept := turns.kept fair hgranted hleast hwindow hstart
  refine ⟨?_, ?_, ?_⟩
  · obtain ⟨deadline', hpending'⟩ := hkept.pending
    obtain ⟨p'', _, hturn, _⟩ := turn_served fair window hgranted hkept.filed hpending'
    exact ⟨p'', hturn⟩
  · intro hdue hmoved
    exact (turns.registered fair hgranted hleast hwindow hstart hpending hdue).resolve_left hmoved
  · exact hkept.rounds.held_throughout (by decide)

open Reference VoucherChain

/-- A clock that counts one minute, a rendezvous server that takes every voucher, and no requests. -/
def sampleWorld : World (reference .release) where
  clock n := min n 60 * nanoseconds
  report _ _ := .ok defaultRegistrationPeriod
  others _ table := table

theorem sampleWorld_fair : Fair sampleWorld sampleGuid where
  clock := fun a b h => Nat.mul_le_mul_right _ (min_le_min_right 60 h)
  years := by
    intro n
    have hle : min n 60 * nanoseconds ≤ 60 * nanoseconds := Nat.mul_le_mul_right _ (min_le_right n 60)
    calc unixTimestamp (sampleWorld.clock n) + 2 ^ 32 ≤ unixTimestamp (60 * nanoseconds : Nat) + 2 ^ 32 :=
          Int.add_le_add_right (unixTimestamp_mono (Nat.cast_le.mpr hle)) _
      _ ≤ maxTimestamp := by decide
  reports := fun _ _ h => by cases h
  waits := by
    intro n ov waitSeconds h
    obtain rfl := Outcome.ok.inj h
    decide
  filed := fun _ _ h => h
  row := fun _ _ => rfl

theorem sampleWorld_paced (p p' : Progress) : Paced sampleWorld (60 * nanoseconds) (60 * nanoseconds) p p' := by
  have hle : ∀ n, sampleWorld.clock n ≤ 60 * nanoseconds := fun n => Nat.mul_le_mul_right _ (min_le_right n 60)
  exact ⟨(hle _).trans (Nat.le_add_left _ _), (hle _).trans (Nat.le_add_left _ _)⟩

/-- One voucher, stored and never registered, and one turn. -/
theorem registered_throughout_sample : ∃ v p', sampleBlank = .ok v ∧
    turn sampleWorld 242 ⟨0, tableAfter (voucherTable (reference .release) fun _ => .panic)
      [(0, .storeData sampleGuid v)], []⟩ = some p' ∧
    leases sampleGuid p' ≠ [] ∧
    ∀ first ∈ leases sampleGuid p', ∀ t, first.since ≤ t → t ≤ p'.now sampleWorld →
      ∃ l ∈ leases sampleGuid p', l.Covers nanoseconds t := by
  obtain ⟨v, hv, hreads, hguid⟩ := sampleBlank_readsBack
  have hown : OwnVoucher sampleGuid v := ⟨hreads, hguid⟩
  obtain ⟨raw, _, _, _, _, htable⟩ := onTable_storeData (fun _ => .panic) ∅ hown
  let p : Progress := ⟨0, tableAfter (voucherTable (reference .release) fun _ => .panic)
    [(0, .storeData sampleGuid v)], []⟩
  have hfiled : Filed (reference .release) p.table := filed_tableAfter (by simp [OwnerCall.Legit, hown])
  have hpending : Pending sampleGuid p none := by
    refine ⟨⟨raw, ⟨none, none⟩⟩, ?_, by simp, rfl⟩
    simp only [p, tableAfter, List.foldl_cons, List.foldl_nil, OwnerCall.onTable, htable]
    rw [if_neg (AList.notMem_empty _), AList.lookup_insert]
  have hgranted : Granted sampleWorld sampleGuid defaultRegistrationPeriod := fun _ _ _ => ⟨_, le_refl _, rfl⟩
  obtain ⟨p', _, hturn, hserved, _⟩ := turn_served sampleWorld_fair 242 hgranted hfiled hpending
  have hmoved : p' ≠ p := by
    intro hsame
    have htick : p.tick + 1 ≤ p'.tick := hserved.tick
    rw [hsame] at htick
    exact absurd htick (Nat.not_succ_le_self _)
  obtain ⟨_, hfirst, hcovered⟩ := registered_throughout sampleWorld_fair hgranted (by decide) (by decide) hfiled
    hpending rfl (.next (.start p) hturn (sampleWorld_paced p p'))
  exact ⟨v, p', hv, hturn, hfirst (fun d hd => by cases hd) hmoved, hcovered⟩

end FidoOnboard.OwnerServer.Maintenance
