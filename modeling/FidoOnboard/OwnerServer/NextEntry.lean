import FidoOnboard.OwnerServer.Invariant

/-!
# Requests for an entry of the voucher

The index comes from a peer that has not proven anything yet, and the entries of a
stored voucher were never parsed. Both are left to an `unwrap`.
-/
namespace FidoOnboard.OwnerServer
open Server VoucherChain

variable {P : Platform} {draws : Draws P} {stores : OwnerStores P} {info : Info} {entryNum : Nat}

/-- The voucher that the handler loads for the device of the session. -/
def Loads (draws : Draws P) (stores : OwnerStores P) (info : Info) (v : OwnershipVoucher P) : Prop :=
  ∃ guid, info.session.data.deviceGuid = some guid ∧ draws.loadDataFails = false ∧
    stores.vouchers guid = some v

/-- The entry is there and parses as `token`. -/
def HasEntry (v : OwnershipVoucher P) (entryNum : Nat) (token : COSESign P) : Prop :=
  ∃ raw, v.cachedEntries.contents[entryNum]? = some raw ∧ COSESign.deserializeData P raw = .ok token

/-- The entry that was asked for where there is one, and an error where there is none. -/
structure EntryAnswered (draws : Draws P) (stores : OwnerStores P) (info : Info) (entryNum : Nat) : Prop where
  served : ∀ v token, Loads draws stores info v → HasEntry v entryNum token →
    getOvNextEntry draws stores info entryNum = .ok (⟨entryNum, token⟩, info)
  refused : (∀ v token, Loads draws stores info v → ¬ HasEntry v entryNum token) →
    ∃ e, getOvNextEntry draws stores info entryNum = .err e

theorem entry_eq_ok {v : OwnershipVoucher P} {token : COSESign P} :
    v.entry entryNum = .ok token ↔ HasEntry v entryNum token :=
  get_eq_ok

theorem Loads.unique {v v' : OwnershipVoucher P} (h : Loads draws stores info v)
    (h' : Loads draws stores info v') : v = v' := by
  obtain ⟨guid, hguid, -, hv⟩ := h
  obtain ⟨guid', hguid', -, hv'⟩ := h'
  obtain rfl := Option.some.inj (hguid.symm.trans hguid')
  exact Option.some.inj (hv.symm.trans hv')

theorem Loads.getOvNextEntry_eq {v : OwnershipVoucher P} (h : Loads draws stores info v) :
    getOvNextEntry draws stores info entryNum =
      ((v.entry entryNum).unwrap >>= fun entry => .ok (⟨entryNum % 2 ^ 16, entry⟩, info)) := by
  obtain ⟨guid, hguid, hworks, hv⟩ := h
  simp [getOvNextEntry, require, loadVoucher, hguid, hworks, hv, Outcome.ofOption, Outcome.check]

/-- Without a voucher the request ends with an error before the entries are looked at. -/
theorem getOvNextEntry_unloaded (h : ∀ v, ¬ Loads draws stores info v) :
    ∃ e, getOvNextEntry draws stores info entryNum = .err e := by
  cases hguid : info.session.data.deviceGuid with
  | none =>
      exact ⟨_, by
        simp [getOvNextEntry, require, hguid, Outcome.ofOption]
        rfl⟩
  | some guid =>
      cases hfails : draws.loadDataFails with
      | true =>
          exact ⟨_, by
            simp [getOvNextEntry, require, loadVoucher, hguid, hfails, Outcome.ofOption, Outcome.check]
            rfl⟩
      | false =>
          cases hv : stores.vouchers guid with
          | none =>
              exact ⟨_, by
                simp [getOvNextEntry, require, loadVoucher, hguid, hfails, hv, Outcome.ofOption, Outcome.check]
                rfl⟩
          | some v => exact absurd ⟨guid, hguid, hfails, hv⟩ (h v)

theorem Loads.getOvNextEntry_panic {v : OwnershipVoucher P} (h : Loads draws stores info v)
    (hno : ∀ token, ¬ HasEntry v entryNum token) : getOvNextEntry draws stores info entryNum = .panic := by
  rw [h.getOvNextEntry_eq]
  cases hentry : v.entry entryNum with
  | ok token => exact absurd (entry_eq_ok.mp hentry) (hno token)
  | err e => rfl
  | panic => rfl

/-- In any state: the handler answers as it should unless it has to read an entry that is not
there or does not parse. -/
theorem entryAnswered_iff (hbyte : entryNum < 2 ^ 16) : EntryAnswered draws stores info entryNum ↔
    ∀ v, Loads draws stores info v → ∃ token, HasEntry v entryNum token := by
  constructor
  · intro hanswered v hloads
    by_contra hno
    have hno' : ∀ token, ¬ HasEntry v entryNum token := fun token htoken => hno ⟨token, htoken⟩
    obtain ⟨e, herr⟩ := hanswered.refused fun v' token hloads' => by
      obtain rfl := hloads.unique hloads'
      exact hno' token
    cases herr.symm.trans (hloads.getOvNextEntry_panic hno')
  · intro hall
    constructor
    · intro v token hloads htoken
      rw [hloads.getOvNextEntry_eq, entry_eq_ok.mpr htoken, Nat.mod_eq_of_lt hbyte]
      rfl
    · intro hnone
      refine getOvNextEntry_unloaded fun v hloads => ?_
      obtain ⟨token, htoken⟩ := hall v hloads
      exact hnone v token hloads htoken

variable {ud : OwnerServiceUD P} {past : OwnerPast P} {s : OwnerState P} {around : Surroundings}
  {req : HttpRequest}

/-- A session that may ask for an entry has said which device it is for. -/
theorem received_device (run : (service ud).Runs past s)
    (hreceive : receive P (handlerGetOvNextEntry draws) around s.sessions req = .ok (info, entryNum)) :
    ∃ guid, info.session.data.deviceGuid = some guid := by
  have hsequence := (receive_received hreceive).sequence
  obtain ⟨t, ht, hlast⟩ := Message.after_eq_true hsequence
  have hstored := run.received_stored hreceive (by rw [hlast]; exact Option.some_ne_none t)
  rcases runs_phase run hstored with hopening | hsecured
  · exact Option.isSome_iff_exists.mp hopening.deviceGuid
  · refine absurd hlast (hsecured.last_ne ?_)
    simp only [List.mem_cons, List.not_mem_nil, or_false] at ht
    rcases ht with rfl | rfl
    · decide
    · decide

/-- In every state a run reaches, a request for an entry is answered as it should exactly when
the voucher stored for the device of its session, if it can be loaded, has that entry in a form
that parses; otherwise the request stops the handler. -/
theorem nextEntry_answered_iff {entryNum : UInt8} (run : (service ud).Runs past s)
    (hreceive : receive P (handlerGetOvNextEntry draws) around s.sessions req = .ok (info, entryNum.toNat)) :
    ∃ guid, info.session.data.deviceGuid = some guid ∧
      (EntryAnswered draws s.userData info entryNum.toNat ↔
        ∀ v, draws.loadDataFails = false → s.userData.vouchers guid = some v →
          ∃ token, HasEntry v entryNum.toNat token) ∧
      (getOvNextEntry draws s.userData info entryNum.toNat = .panic ↔
        ∃ v, draws.loadDataFails = false ∧ s.userData.vouchers guid = some v ∧
          ∀ token, ¬ HasEntry v entryNum.toNat token) := by
  obtain ⟨guid, hguid⟩ := received_device run hreceive
  have hloads : ∀ v, Loads draws s.userData info v ↔
      draws.loadDataFails = false ∧ s.userData.vouchers guid = some v := by
    intro v
    constructor
    · rintro ⟨guid', hguid', hworks, hv⟩
      obtain rfl := Option.some.inj (hguid.symm.trans hguid')
      exact ⟨hworks, hv⟩
    · rintro ⟨hworks, hv⟩
      exact ⟨guid, hguid, hworks, hv⟩
  have hbyte : entryNum.toNat < 2 ^ 16 := Nat.lt_trans entryNum.toNat_lt (by decide)
  refine ⟨guid, hguid, ?_, ?_, ?_⟩
  · rw [entryAnswered_iff hbyte]
    simp only [hloads, and_imp]
  · intro hpanic
    by_contra hno
    have hanswered : EntryAnswered draws s.userData info entryNum.toNat := by
      refine (entryAnswered_iff hbyte).mpr fun v hv => ?_
      obtain ⟨hworks, hstored⟩ := (hloads v).mp hv
      by_contra hnone
      exact hno ⟨v, hworks, hstored, fun token htoken => hnone ⟨token, htoken⟩⟩
    by_cases hsome : ∃ v token, Loads draws s.userData info v ∧ HasEntry v entryNum.toNat token
    · obtain ⟨v, token, hv, htoken⟩ := hsome
      cases (hanswered.served v token hv htoken).symm.trans hpanic
    · obtain ⟨e, herr⟩ := hanswered.refused fun v token hv htoken => hsome ⟨v, token, hv, htoken⟩
      cases herr.symm.trans hpanic
  · rintro ⟨v, hworks, hstored, hno⟩
    exact ((hloads v).mpr ⟨hworks, hstored⟩).getOvNextEntry_panic hno

/-! ## Two requests on one voucher -/

open Reference

/-- The server behind the HelloDevice of a device with a voucher of two entries. -/
def sampleGreeted : Outcome Error (OwnerPast (reference .release) × OwnerState (reference .release)) := do
  let v ← sampleVoucher
  let hello ← (HelloDevice.new ⟨List.replicate 16 7⟩ ⟨List.replicate 16 5⟩ .ecdh256 .a128Gcm
    ⟨.stSECP256R1, []⟩).serializeData (reference .release)
  .ok ((service sampleUd).replay [] (sampleServer v) [sampleRequest 0 "a" .to2HelloDevice none hello])

theorem sampleGreeted_runs {past : OwnerPast (reference .release)} {s : OwnerState (reference .release)}
    (h : sampleGreeted = .ok (past, s)) : (service sampleUd).Runs past s := by
  obtain ⟨v, -, h₁⟩ := Outcome.bind_eq_ok.mp h
  obtain ⟨hello, -, h₂⟩ := Outcome.bind_eq_ok.mp h₁
  have hrun : (service sampleUd).Runs
      ((service sampleUd).replay [] (sampleServer v) [sampleRequest 0 "a" .to2HelloDevice none hello]).1
      ((service sampleUd).replay [] (sampleServer v) [sampleRequest 0 "a" .to2HelloDevice none hello]).2 := by
    refine Service.Runs.replay (.start fun _ => rfl) ?_ (List.pairwise_singleton _ _)
      fun m hm => absurd hm List.not_mem_nil
    intro input hinput
    obtain rfl := List.mem_singleton.mp hinput
    rfl
  rw [Outcome.ok.inj h₂] at hrun
  exact hrun

/-- What the handler gets for entry `n` in state `s`. -/
def sampleAsked (s : OwnerState (reference .release)) (n : UInt8) : Outcome Rejection (Info × Nat) :=
  receive (reference .release) (handlerGetOvNextEntry (sampleDraws 1)) ⟨"b", 0, false, false, false⟩ s.sessions
    ⟨.to2GetOVNextEntry, some "Bearer a", false, [0x81, n]⟩

/-- How the request for entry `n` ends: with a panic or otherwise. -/
def sampleStops (n : UInt8) : Outcome Error Bool := do
  let (_, s) ← sampleGreeted
  let (info, k) ← (sampleAsked s n).unwrap
  Outcome.check (k = n.toNat) Error.cose
  match getOvNextEntry (sampleDraws 1) s.userData info k with
  | .panic => .ok true
  | _ => .ok false

theorem sampleStops_eq_ok {n : UInt8} {stops : Bool} (h : sampleStops n = .ok stops) :
    ∃ past s info, (service sampleUd).Runs past s ∧ sampleAsked s n = .ok (info, n.toNat) ∧
      (getOvNextEntry (sampleDraws 1) s.userData info n.toNat = .panic ↔ stops = true) := by
  obtain ⟨⟨past, s⟩, hgreeted, h₁⟩ := Outcome.bind_eq_ok.mp h
  obtain ⟨⟨info, k⟩, hasked, h₂⟩ := Outcome.bind_eq_ok.mp h₁
  obtain ⟨_, hk, h₃⟩ := Outcome.bind_eq_ok.mp h₂
  obtain rfl : k = n.toNat := Outcome.check_eq_ok.mp hk
  refine ⟨past, s, info, sampleGreeted_runs hgreeted, Outcome.unwrap_eq_ok.mp hasked, ?_⟩
  cases hreply : getOvNextEntry (sampleDraws 1) s.userData info n.toNat with
  | panic =>
      rw [hreply] at h₃
      simpa using (Outcome.ok.inj h₃).symm
  | ok reply =>
      rw [hreply] at h₃
      simpa using (Outcome.ok.inj h₃).symm
  | err e =>
      rw [hreply] at h₃
      simpa using (Outcome.ok.inj h₃).symm

theorem nextEntry_answered_sample : ∃ past s info, (service sampleUd).Runs past s ∧
    sampleAsked s 0 = .ok (info, 0) ∧ EntryAnswered (sampleDraws 1) s.userData info 0 := by
  have hrun : sampleStops 0 = .ok false := by decide +kernel
  obtain ⟨past, s, info, run, hasked, hstops⟩ := sampleStops_eq_ok hrun
  obtain ⟨guid, -, hanswered, hpanic⟩ := nextEntry_answered_iff run hasked
  refine ⟨past, s, info, run, hasked, hanswered.mpr fun v hworks hv => ?_⟩
  by_contra hnone
  have hstopped := hpanic.mpr ⟨v, hworks, hv, fun token htoken => hnone ⟨token, htoken⟩⟩
  cases hstops.mp hstopped

/-- One past the last entry. -/
theorem nextEntry_missing_stops : ∃ past s info, (service sampleUd).Runs past s ∧
    sampleAsked s 2 = .ok (info, 2) ∧ getOvNextEntry (sampleDraws 1) s.userData info 2 = .panic := by
  have hrun : sampleStops 2 = .ok true := by decide +kernel
  obtain ⟨past, s, info, run, hasked, hstops⟩ := sampleStops_eq_ok hrun
  exact ⟨past, s, info, run, hasked, hstops.mpr rfl⟩

end FidoOnboard.OwnerServer
