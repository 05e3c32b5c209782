import FidoOnboard.Store.OwnerStore

/-!
# Maintenance of the owner server

`owner-onboarding-server/src/main.rs` over a database: once a minute the vouchers
whose registration has run out are reported to the rendezvous server, and those whose
registration will run out within the window. The maintenance of the two stores does
nothing to the vouchers, and with a directory there is no window.
-/
namespace FidoOnboard.OwnerServer.Maintenance
open Stores

variable {P : Platform}

/-- The rendezvous server has granted `waitSeconds` to the voucher of this guid. -/
structure Registration where
  guid : Guid
  moment : Instant
  waitSeconds : Nat

/-- The clock, what comes of `report_ov_to_rendezvous`, and what requests do to the table meanwhile. -/
structure World (P : Platform) where
  clock : Nat → Instant
  report : Nat → OwnershipVoucher P → Outcome String Nat
  others : Nat → Table OwnerColumns → Table OwnerColumns

structure Progress where
  tick : Nat
  table : Table OwnerColumns
  /-- The latest first. -/
  registered : List Registration

variable (w : World P)

def Progress.now (p : Progress) : Instant := w.clock p.tick

/-- Time passes, and requests are served. -/
def Progress.pass (p : Progress) : Progress := { p with tick := p.tick + 1, table := w.others p.tick p.table }

/-- The key a guid is printed as, which needs sixteen bytes. -/
def keyOf (guid : Guid) : Outcome StoreError GuidKey :=
  if h : guid.value.length = 16 then .ok ⟨guid, h⟩ else .panic

/-- `store_metadata` of the time to wait. -/
def storeWait (guid : Guid) (waitSeconds : Nat) (p : Progress) : Outcome StoreError Unit × Progress :=
  match keyOf guid with
  | .err e => (.err e, p)
  | .panic => (.panic, p)
  | .ok key =>
    let stored := OwnerTable.storeMetadata (p.now w) key (.localKey .to0AcceptOwnerWaitSeconds)
      (.duration (waitSeconds * nanoseconds)) p.table
    (stored.1, { p with table := stored.2 }.pass w)

/-- One voucher. That a report fails is a warning only. -/
def handleReportToRendezvous (ov : OwnershipVoucher P) (p : Progress) : Outcome StoreError Unit × Progress :=
  match w.report p.tick ov with
  | .err _ => (.ok (), p.pass w)
  | .panic => (.panic, p)
  | .ok waitSeconds =>
    let guid := ov.header.cachedGuid
    storeWait w guid waitSeconds
      ({ p with registered := ⟨guid, p.now w, waitSeconds⟩ :: p.registered }.pass w)

def handleAll : List (OwnershipVoucher P) → Progress → Outcome StoreError Unit × Progress
  | [], p => (.ok (), p)
  | ov :: ovs, p =>
    match handleReportToRendezvous w ov p with
    | (.ok (), p) => handleAll ovs p
    | (.err e, p) => (.err e, p)
    | (.panic, p) => (.panic, p)

/-- A failing query is a warning only. -/
def reportToRendezvous (p : Progress) : Outcome StoreError Unit × Progress :=
  match OwnerTable.queryOvsDb (vouchers P) (p.now w) p.table with
  | .err _ => (.ok (), p.pass w)
  | .panic => (.panic, p)
  | .ok ovs => handleAll w ovs (p.pass w)

def checkRegistrationWindow (ovReRegistrationWindow : Nat) (p : Progress) : Outcome StoreError Unit × Progress :=
  let nowPlusWindow := unixTimestamp (p.now w) + ovReRegistrationWindow
  match OwnerTable.queryOvsDbTo2PerformedTo0LessThan (vouchers P) false nowPlusWindow p.table with
  | .err e => (.err e, p.pass w)
  | .panic => (.panic, p)
  | .ok ovs => handleAll w ovs (p.pass w)

/-- One turn of `perform_maintenance`: the pause, and the work. Errors are warnings, a panic ends it. -/
def turn (ovReRegistrationWindow : Nat) (p : Progress) : Option Progress :=
  match reportToRendezvous w (p.pass w) with
  | (.panic, _) => none
  | (_, p) =>
    match checkRegistrationWindow w ovReRegistrationWindow p with
    | (.panic, _) => none
    | (_, p) => some p

/-! ## The configuration -/

def maintenanceInterval : Nat := 60
def defaultRegistrationPeriod : Nat := 600
def defaultReRegistrationWindow : Nat := 61

/-- The registration period and the window, or what is wrong with the settings. -/
def registrationTimes (ovRegistrationPeriod ovReRegistrationWindow : Option Nat) : Outcome String (Nat × Nat) := do
  let period ← match ovRegistrationPeriod with
    | some value => if value = 0 then .err "ov_registration_period cannot be 0" else .ok value
    | none => .ok defaultRegistrationPeriod
  let window ← match ovReRegistrationWindow with
    | some value =>
      if value = 0 then .err "ov_re_registration_window cannot be 0"
      else if value ≤ maintenanceInterval then
        .err ("this server performs checks every " ++ toString maintenanceInterval ++
          " seconds, please specify an ov_re_registration_window larger than that value")
      else .ok value
    | none => .ok defaultReRegistrationWindow
  if window ≥ period then
    .err ("ov_re_registration_window (" ++ toString window ++
      ") must be smaller than ov_registration_period (" ++ toString period ++ ")")
  else .ok (period, window)

end FidoOnboard.OwnerServer.Maintenance
