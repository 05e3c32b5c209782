import FidoOnboard.OwnerServer.Renewal
import Mathlib.Logic.Relation

/-!
# Onboarded devices

A voucher that Done has marked is not reported any more, whatever the rendezvous server
says of others, and whatever other devices report as done.
-/
namespace FidoOnboard.OwnerServer.Maintenance
open Stores Leases

variable {P : Platform}

/-- The row of the voucher says that onboarding is done. -/
def Marked (key : GuidKey) (table : Table OwnerColumns) : Prop :=
  ∃ row, table.lookup key.toText = some row ∧ row.columns.to2Performed = some true

/-- Requests leave the vouchers in their rows, and do not take the mark back. -/
structure Spares (w : World P) (key : GuidKey) : Prop where
  filed : ∀ n table, Filed P table → Filed P (w.others n table)
  marked : ∀ n table, Marked key table → Marked key (w.others n table)

/-- The voucher is there and marked. -/
structure Retired (P : Platform) (key : GuidKey) (p : Progress) : Prop where
  filed : Filed P p.table
  marked : Marked key p.table

/-- Nothing was registered for the voucher, which is still marked. -/
structure LeftAlone (P : Platform) (key : GuidKey) (p p' : Progress) : Prop where
  retired : Retired P key p'
  leases : leases key p' = leases key p

variable {w : World P} {key : GuidKey} {p p' p'' : Progress}

theorem Retired.refl (h : Retired P key p) : LeftAlone P key p p := ⟨h, rfl⟩

theorem LeftAlone.trans (h : LeftAlone P key p p') (h' : LeftAlone P key p' p'') : LeftAlone P key p p'' :=
  ⟨h'.retired, h'.leases.trans h.leases⟩

theorem Retired.pass (spares : Spares w key) (h : Retired P key p) : LeftAlone P key p (p.pass w) :=
  ⟨⟨spares.filed _ _ h.filed, spares.marked _ _ h.marked⟩, rfl⟩

/-- An update that leaves marks alone, of any row. -/
theorem Marked.updated {table : Table OwnerColumns} (h : Marked key table) (guid : Text)
    {update : OwnerColumns → OwnerColumns}
    (hupdate : ∀ columns, columns.to2Performed = some true → (update columns).to2Performed = some true) :
    Marked key (Db.updateColumns guid update table) := by
  obtain ⟨row, hrow, hmark⟩ := h
  by_cases htext : key.toText = guid
  case pos =>
    refine ⟨{ row with columns := update row.columns }, ?_, hupdate _ hmark⟩
    rw [Db.lookup_updateColumns, if_pos htext, hrow]
    rfl
  case neg =>
    refine ⟨row, ?_, hmark⟩
    rw [Db.lookup_updateColumns, if_neg htext, hrow]

/-- What a Done writes, when and for which voucher. -/
def markDone (table : Table OwnerColumns) (m : Instant × GuidKey) : Table OwnerColumns :=
  (OwnerTable.storeMetadata m.1 m.2 (.localKey .to2Performed) (.bool true) table).2

/-- Serving requests marks vouchers, and does no more. -/
theorem Spares.of_done (hothers : ∀ n, ∃ ms : List (Instant × GuidKey), ∀ table,
    w.others n table = ms.foldl markDone table) : Spares w key := by
  have hfiled : ∀ (ms : List (Instant × GuidKey)) table, Filed P table → Filed P (ms.foldl markDone table) := by
    intro ms
    induction ms with
    | nil => exact fun _ h => h
    | cons m ms ih => exact fun _ h => ih _ (filed_updateColumns h m.2.toText _)
  have hmarked : ∀ (ms : List (Instant × GuidKey)) table,
      Marked key table → Marked key (ms.foldl markDone table) := by
    intro ms
    induction ms with
    | nil => exact fun _ h => h
    | cons m ms ih => exact fun _ h => ih _ (h.updated m.2.toText fun _ _ => rfl)
  constructor
  · intro n table h
    obtain ⟨ms, hms⟩ := hothers n
    rw [hms]
    exact hfiled ms table h
  · intro n table h
    obtain ⟨ms, hms⟩ := hothers n
    rw [hms]
    exact hmarked ms table h

/-! ## One voucher -/

/-- A time to wait is written or not. -/
theorem Retired.stored (h : Retired P key p) (now : Instant) (key' : GuidKey) (value : MetadataValue) : Retired P key
    { p with table := (OwnerTable.storeMetadata now key' (.localKey .to0AcceptOwnerWaitSeconds) value p.table).2 } := by
  cases hparse : OwnerTable.parseI64 now value with
  | ok val =>
      simp only [OwnerTable.storeMetadata, hparse]
      exact ⟨filed_updateColumns h.filed _ _, h.marked.updated key'.toText fun _ hmark => hmark⟩
  | err e =>
      simp only [OwnerTable.storeMetadata, hparse]
      exact h
  | panic =>
      simp only [OwnerTable.storeMetadata, hparse]
      exact h

/-- The outcome of `store_metadata`, and the moment after it. -/
def Progress.after (w : World P) (p : Progress) (stored : Outcome StoreError Unit × Table OwnerColumns) :
    Outcome StoreError Unit × Progress :=
  (stored.1, Progress.pass w { p with table := stored.2 })

theorem storeWait_eq (key' : GuidKey) (waitSeconds : Nat) : storeWait w key'.guid waitSeconds p =
    p.after w (OwnerTable.storeMetadata (p.now w) key' (.localKey .to0AcceptOwnerWaitSeconds)
      (.duration (waitSeconds * nanoseconds)) p.table) := by
  have hkey : keyOf key'.guid = .ok key' := dif_pos key'.sixteen
  unfold Maintenance.storeWait Progress.after
  rw [hkey]

theorem Retired.storeWait (spares : Spares w key) (h : Retired P key p) (key' : GuidKey) (waitSeconds : Nat) :
    LeftAlone P key p (storeWait w key'.guid waitSeconds p).2 := by
  have hstored := h.stored (p.now w) key' (.duration (waitSeconds * nanoseconds))
  have hafter : ∀ stored : Outcome StoreError Unit × Table OwnerColumns,
      Retired P key { p with table := stored.2 } → LeftAlone P key p (p.after w stored).2 := by
    intro stored hretired
    exact (⟨hretired, rfl⟩ : LeftAlone P key p _).trans (hretired.pass spares)
  rw [storeWait_eq]
  exact hafter _ hstored

/-- Another voucher is handled. -/
theorem Retired.handle (spares : Spares w key) (h : Retired P key p) {ov : OwnershipVoucher P} {key' : GuidKey}
    (hguid : ov.header.cachedGuid = key'.guid) (hne : key' ≠ key) :
    LeftAlone P key p (handleReportToRendezvous w ov p).2 := by
  cases hreport : w.report p.tick ov with
  | panic =>
      simp only [handleReportToRendezvous, hreport]
      exact h.refl
  | err e =>
      simp only [handleReportToRendezvous, hreport]
      exact h.pass spares
  | ok waitSeconds =>
      simp only [handleReportToRendezvous, hreport, hguid]
      have hguids : key'.guid ≠ key.guid := fun hsame => hne (GuidKey.ext hsame)
      have hentered : LeftAlone P key p
          { p with registered := ⟨key'.guid, p.now w, waitSeconds⟩ :: p.registered } := by
        refine ⟨⟨h.filed, h.marked⟩, ?_⟩
        simp [Maintenance.leases, hguids]
      have hpassed := hentered.trans (hentered.retired.pass spares)
      exact hpassed.trans (hpassed.retired.storeWait spares key' waitSeconds)

theorem Retired.handleAll (spares : Spares w key) {ovs : List (OwnershipVoucher P)}
    (hothers : ∀ ov ∈ ovs, ∃ key' : GuidKey, ov.header.cachedGuid = key'.guid ∧ key' ≠ key)
    (h : Retired P key p) : LeftAlone P key p (handleAll w ovs p).2 := by
  induction ovs generalizing p with
  | nil => exact h.refl
  | cons ov ovs ih =>
      obtain ⟨key', hguid, hne⟩ := hothers ov List.mem_cons_self
      have hfirst := h.handle spares hguid hne
      simp only [Maintenance.handleAll]
      split
      case h_1 p₁ hhandle =>
        rw [hhandle] at hfirst
        exact hfirst.trans (ih (fun ov' hov' => hothers ov' (List.mem_cons_of_mem _ hov')) hfirst.retired)
      case h_2 e p₁ hhandle =>
        rw [hhandle] at hfirst
        exact hfirst
      case h_3 p₁ hhandle =>
        rw [hhandle] at hfirst
        exact hfirst

/-! ## A turn, and all turns -/

/-- No query selects a marked row. -/
theorem Retired.query (h : Retired P key p) (to2 : Bool) (max : Int) : ∃ ovs,
    OwnerTable.queryOvsDbTo2PerformedTo0LessThan (vouchers P) to2 max p.table = .ok ovs ∧
    ∀ ov ∈ ovs, ∃ key' : GuidKey, ov.header.cachedGuid = key'.guid ∧ key' ≠ key := by
  obtain ⟨ovs, hquery, hmem⟩ := query_selects h.filed to2 max
  refine ⟨ovs, hquery, ?_⟩
  intro ov hov
  obtain ⟨guid, row, hrow, hread, hopen, _⟩ := (hmem ov).mp hov
  obtain ⟨ov', key', hread', rfl, hguid⟩ := h.filed guid row hrow
  obtain rfl := Outcome.ok.inj (hread.symm.trans hread')
  refine ⟨key', hguid, ?_⟩
  rintro rfl
  obtain ⟨row', hrow', hmark⟩ := h.marked
  obtain rfl := Option.some.inj (hrow.symm.trans hrow')
  exact absurd (hopen true hmark) (by decide)

theorem Retired.turn (spares : Spares w key) {window : Nat} (h : Retired P key p) (hturn : turn w window p = some p') :
    LeftAlone P key p p' := by
  have hpaused := h.pass spares
  obtain ⟨ovs, hquery, hothers⟩ := hpaused.retired.query false (unixTimestamp ((p.pass w).now w))
  have hreported : LeftAlone P key p (reportToRendezvous w (p.pass w)).2 := by
    have hquery : OwnerTable.queryOvsDb (vouchers P) ((p.pass w).now w) (p.pass w).table = .ok ovs := hquery
    simp only [reportToRendezvous, hquery]
    have hpassed := hpaused.trans (hpaused.retired.pass spares)
    exact hpassed.trans (hpassed.retired.handleAll spares hothers)
  have hchecked : ∀ p₁, LeftAlone P key p p₁ → LeftAlone P key p (checkRegistrationWindow w window p₁).2 := by
    intro p₁ h₁
    obtain ⟨ovs₁, hquery₁, hothers₁⟩ := h₁.retired.query false (unixTimestamp (p₁.now w) + window)
    simp only [checkRegistrationWindow, hquery₁]
    have hpassed := h₁.trans (h₁.retired.pass spares)
    exact hpassed.trans (hpassed.retired.handleAll spares hothers₁)
  unfold Maintenance.turn at hturn
  split at hturn
  case h_1 => cases hturn
  case h_2 outcome p₁ _ hreport =>
    rw [hreport] at hreported
    have hlast := hchecked p₁ hreported
    split at hturn
    case h_1 => cases hturn
    case h_2 outcome' p₂ _ hcheck =>
      rw [hcheck] at hlast
      cases hturn
      exact hlast

open Reference VoucherChain

end FidoOnboard.OwnerServer.Maintenance
