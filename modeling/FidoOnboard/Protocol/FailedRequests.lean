import FidoOnboard.HttpWrapper.Failures
import FidoOnboard.ManufacturingServer.Sessions
import FidoOnboard.OwnerServer.Invariant
import FidoOnboard.RendezvousServer.Agreement

/-!
# What failed requests leave behind

The writes of the three servers. No handler takes a write back, so a request
that fails leaves those that came before the failure.
-/
namespace FidoOnboard

variable {P : Platform}

namespace RendezvousServer
open Server

/-- An OwnerSign that passes its checks stores the registration, in the place of an old one with its
time to live, and then the new time to live. -/
def ownersignWrites (draws : Draws) : Outcome Rejection (Guid × StoredItem P × Nat) → List (Write (RendezvousStore P))
  | .ok (guid, item, wait) =>
    [⟨draws.storeDataFails, fun store =>
        ⟨Function.update store.items guid (some item), Function.update store.ttl guid none⟩⟩,
      ⟨draws.storeMetadataFails, fun store => { store with ttl := Function.update store.ttl guid (some wait) }⟩]
  | _ => []

theorem ownersign_writes (ud : RendezvousUD P) (draws : Draws) (store : RendezvousStore P) (info : Info)
    (msg : OwnerSign P) :
    (ownersign ud draws store info msg).1 =
        carryOut (ownersignWrites draws (checkOwnersign ud info.session msg)) store ∧
      ∀ r, (ownersign ud draws store info msg).2 = .ok r →
        ∀ w ∈ ownersignWrites draws (checkOwnersign ud info.session msg), w.fails = false := by
  unfold ownersign
  generalize checkOwnersign ud info.session msg = checked
  cases checked with
  | err e => simp [ownersignWrites, carryOut]
  | panic => simp [ownersignWrites, carryOut]
  | ok found =>
      obtain ⟨guid, item, wait⟩ := found
      cases hdata : draws.storeDataFails with
      | true => simp [ownersignWrites, carryOut, hdata]
      | false =>
          cases hmeta : draws.storeMetadataFails with
          | true => simp [ownersignWrites, carryOut, hdata, hmeta]
          | false => simp [ownersignWrites, carryOut, hdata, hmeta]

def writer (ud : RendezvousUD P) : (service ud).Writer where
  messageType := .to0OwnerSign
  handler := handlerTo0Ownersign ud
  route _ := rfl
  writes draws info msg := ownersignWrites draws (checkOwnersign ud info.session msg)
  followed draws store info msg := (ownersign_writes ud draws store info msg).1
  finished draws store info msg := (ownersign_writes ud draws store info msg).2
  others {draws t h} hroute hother store info body := by
    change routes ud draws t = some h at hroute
    unfold routes at hroute
    split at hroute
    · cases hroute
      rfl
    · exact absurd rfl hother
    · cases hroute
      rfl
    · cases hroute
      rfl
    · cases hroute

theorem storeWrites_cases (ud : RendezvousUD P) (around : Surroundings) (draws : Draws) (s : RendezvousState P)
    (req : HttpRequest) : (writer ud).storeWrites around draws s req = [] ∨
      ∃ checked, (writer ud).storeWrites around draws s req = ownersignWrites draws checked := by
  unfold Service.Writer.storeWrites
  split
  · split
    · exact .inr ⟨_, rfl⟩
    · exact .inl rfl
  · exact .inl rfl

/-- What an OwnerSign may have changed about one device. -/
structure Changed (draws : Draws) (before after : RendezvousStore P) (guid : Guid) : Prop where
  stored : after.items guid ≠ before.items guid →
    draws.storeDataFails = false ∧ (after.ttl guid = none ↔ draws.storeMetadataFails = true)
  lost : before.ttl guid ≠ none → after.ttl guid = none →
    draws.storeDataFails = false ∧ draws.storeMetadataFails = true

theorem Changed.refl (draws : Draws) (store : RendezvousStore P) (guid : Guid) :
    Changed draws store store guid where
  stored h := absurd rfl h
  lost h h' := absurd h' h

/-- A registration that is new has its time to live unless writing that failed, and an old one
loses its time to live only then. -/
theorem ownersign_changes (draws : Draws) (checked : Outcome Rejection (Guid × StoredItem P × Nat))
    (store : RendezvousStore P) (guid : Guid) :
    Changed draws store (carryOut (ownersignWrites draws checked) store) guid := by
  cases checked with
  | err e => exact .refl draws store guid
  | panic => exact .refl draws store guid
  | ok found =>
      obtain ⟨guid', item, wait⟩ := found
      cases hdata : draws.storeDataFails with
      | true =>
          rw [ownersignWrites, carryOut, if_pos hdata]
          exact .refl draws store guid
      | false =>
          by_cases hguid : guid = guid'
          · subst hguid
            cases hmeta : draws.storeMetadataFails with
            | true => constructor <;> simp [ownersignWrites, carryOut, hdata, hmeta]
            | false => constructor <;> simp [ownersignWrites, carryOut, hdata, hmeta]
          · have hsame : (carryOut (ownersignWrites draws (.ok (guid', item, wait))) store).items guid =
                  store.items guid ∧
                (carryOut (ownersignWrites draws (.ok (guid', item, wait))) store).ttl guid = store.ttl guid := by
              cases hmeta : draws.storeMetadataFails with
              | true => simp [ownersignWrites, carryOut, hdata, hmeta, Function.update_of_ne hguid]
              | false => simp [ownersignWrites, carryOut, hdata, hmeta, Function.update_of_ne hguid]
            constructor
            · intro hchanged
              exact absurd hsame.1 hchanged
            · intro hbefore hafter
              exact absurd (hsame.2.symm.trans hafter) hbefore

end RendezvousServer

namespace OwnerServer
open Server

/-- A Done that passes its checks marks the voucher. -/
def doneWrites (draws : Draws P) : Outcome Rejection (Guid × Nonce) → List (Write (OwnerStores P))
  | .ok (guid, _) =>
    [⟨draws.storeMetadataFails, fun stores =>
      { stores with to2Performed := Function.update stores.to2Performed guid true }⟩]
  | _ => []

theorem done_writes (draws : Draws P) (stores : OwnerStores P) (info : Info) (msg : Nonce) :
    (done draws stores info msg).1 = carryOut (doneWrites draws (checkDone info msg)) stores ∧
      ∀ r, (done draws stores info msg).2 = .ok r →
        ∀ w ∈ doneWrites draws (checkDone info msg), w.fails = false := by
  unfold done
  generalize checkDone info msg = checked
  cases checked with
  | err e => simp [doneWrites, carryOut]
  | panic => simp [doneWrites, carryOut]
  | ok found =>
      obtain ⟨guid, nonce7⟩ := found
      cases hmeta : draws.storeMetadataFails with
      | true => simp [doneWrites, carryOut, hmeta]
      | false => simp [doneWrites, carryOut, hmeta]

def writer (ud : OwnerServiceUD P) : (service ud).Writer where
  messageType := .to2Done
  handler := handlerDone
  route _ := rfl
  writes draws info msg := doneWrites draws (checkDone info msg)
  followed draws stores info msg := (done_writes draws stores info msg).1
  finished draws stores info msg := (done_writes draws stores info msg).2
  others {draws t h} hroute hother stores info body := by
    change routes ud draws t = some h at hroute
    unfold routes at hroute
    split at hroute
    · cases hroute
      rfl
    · cases hroute
      rfl
    · cases hroute
      rfl
    · cases hroute
      rfl
    · cases hroute
      rfl
    · exact absurd rfl hother
    · cases hroute

theorem storeWrites_cases (ud : OwnerServiceUD P) (around : Surroundings) (draws : Draws P) (s : OwnerState P)
    (req : HttpRequest) : (writer ud).storeWrites around draws s req = [] ∨
      ∃ checked, (writer ud).storeWrites around draws s req = doneWrites draws checked := by
  unfold Service.Writer.storeWrites
  split
  · split
    · exact .inr ⟨_, rfl⟩
    · exact .inl rfl
  · exact .inl rfl

theorem marked_stored {draws : Draws P} {checked : Outcome Rejection (Guid × Nonce)} {stores : OwnerStores P}
    {guid : Guid}
    (h : (carryOut (doneWrites draws checked) stores).to2Performed guid ≠ stores.to2Performed guid) :
    draws.storeMetadataFails = false := by
  cases checked with
  | err e => exact absurd rfl h
  | panic => exact absurd rfl h
  | ok found =>
      obtain ⟨guid', nonce7⟩ := found
      cases hmeta : draws.storeMetadataFails with
      | true => simp [doneWrites, carryOut, hmeta] at h
      | false => rfl

end OwnerServer

namespace ManufacturingServer
open Server

/-- A SetHMAC that makes a voucher stores it. -/
def setHmacWrites (draws : Draws) : Outcome Rejection (Guid × OwnershipVoucher P) → List (Write (VoucherStore P))
  | .ok (guid, ov) =>
    [⟨draws.storeDataFails, fun store => { store with vouchers := Function.update store.vouchers guid (some ov) }⟩]
  | _ => []

theorem setHmac_writes (ud : ManufacturingServiceUD P) (draws : Draws) (store : VoucherStore P) (info : Info)
    (hmac : HMac) :
    (setHmac ud draws store info hmac).1 = carryOut (setHmacWrites draws (newVoucher ud info.session hmac)) store ∧
      ∀ r, (setHmac ud draws store info hmac).2 = .ok r →
        ∀ w ∈ setHmacWrites draws (newVoucher ud info.session hmac), w.fails = false := by
  unfold setHmac
  generalize newVoucher ud info.session hmac = made
  cases made with
  | err e => simp [setHmacWrites, carryOut]
  | panic => simp [setHmacWrites, carryOut]
  | ok found =>
      obtain ⟨guid, ov⟩ := found
      cases hdata : draws.storeDataFails with
      | true => simp [setHmacWrites, carryOut, hdata]
      | false => simp [setHmacWrites, carryOut, hdata]

def writer (ud : ManufacturingServiceUD P) : (service ud).Writer where
  messageType := .diSetHMAC
  handler := handlerDiSetHmac ud
  route _ := rfl
  writes draws info hmac := setHmacWrites draws (newVoucher ud info.session hmac)
  followed draws store info hmac := (setHmac_writes ud draws store info hmac).1
  finished draws store info hmac := (setHmac_writes ud draws store info hmac).2
  others {draws t h} hroute hother store info body := by
    change routes ud draws t = some h at hroute
    unfold routes at hroute
    split at hroute
    · cases hroute
      rfl
    · cases hroute
      rfl
    · cases hroute
      rfl
    · cases hroute
      rfl
    · exact absurd rfl hother
    · cases hroute

end ManufacturingServer
/-! ## The three servers -/

namespace FailedRequests
open Server

/-- What is left of a request: its writes before the failure, and nothing else. -/
structure Leaves {ρ σ δ : Type} [Inhabited δ] {S : Service P ρ σ δ} (writer : S.Writer) (around : Surroundings)
    (draws : ρ) (s : State σ δ) (req : HttpRequest) : Prop where
  kept : S.step s (.request around draws req) = carryOut (writer.plan.requestWrites around draws s req) s
  unchanged : (∀ w ∈ (writer.plan.requestWrites around draws s req).head?, w.fails = true) →
    S.step s (.request around draws req) = s
  stores : (S.step s (.request around draws req)).userData =
    carryOut (writer.storeWrites around draws s req) s.userData
  sessions : (S.step s (.request around draws req)).sessionFiles =
    carryOut (S.sessionWrites around draws s req) s.sessionFiles

theorem leaves {ρ σ δ : Type} [Inhabited δ] {S : Service P ρ σ δ} (writer : S.Writer) (around : Surroundings)
    (draws : ρ) (s : State σ δ) (req : HttpRequest) : Leaves writer around draws s req where
  kept := writer.plan.step_request around draws s req
  unchanged h := (writer.plan.step_request around draws s req).trans (carryOut_refused h s)
  stores := writer.plan.step_stores around draws s req
  sessions := Service.step_requestSessions around draws s req

/-- A failed request of any of the servers leaves its writes before the failure. An OwnerSign
leaves a new registration without a time to live, or an old one without the one it had, only when
writing that is what failed, and a Done leaves a mark only when writing it did not fail. -/
theorem failed_request_leaves :
    (∀ (ud : RendezvousServer.RendezvousUD P) past s around draws req response,
      (RendezvousServer.service ud).Runs past s →
      (RendezvousServer.service ud).respond s (.request around draws req) = some response →
      response.success = false →
      Leaves (RendezvousServer.writer ud) around draws s req ∧
      ∀ guid, RendezvousServer.Changed draws s.userData
        ((RendezvousServer.service ud).step s (.request around draws req)).userData guid) ∧
    (∀ (ud : OwnerServer.OwnerServiceUD P) past s around draws req response,
      (OwnerServer.service ud).Runs past s →
      (OwnerServer.service ud).respond s (.request around draws req) = some response →
      response.success = false →
      Leaves (OwnerServer.writer ud) around draws s req ∧
      ∀ guid, ((OwnerServer.service ud).step s (.request around draws req)).userData.to2Performed guid ≠
          s.userData.to2Performed guid → draws.storeMetadataFails = false) ∧
    (∀ (ud : ManufacturingServer.ManufacturingServiceUD P) past s around draws req response,
      (ManufacturingServer.service ud).Runs past s →
      (ManufacturingServer.service ud).respond s (.request around draws req) = some response →
      response.success = false → Leaves (ManufacturingServer.writer ud) around draws s req) := by
  refine ⟨?_, ?_, ?_⟩
  · intro ud past s around draws req response _ _ _
    have hleaves := leaves (RendezvousServer.writer ud) around draws s req
    refine ⟨hleaves, fun guid => ?_⟩
    rw [hleaves.stores]
    rcases RendezvousServer.storeWrites_cases ud around draws s req with hnone | ⟨checked, hwrites⟩
    · rw [hnone]
      exact .refl draws s.userData guid
    · rw [hwrites]
      exact RendezvousServer.ownersign_changes draws checked s.userData guid
  · intro ud past s around draws req response _ _ _
    have hleaves := leaves (OwnerServer.writer ud) around draws s req
    refine ⟨hleaves, fun guid hchanged => ?_⟩
    rw [hleaves.stores] at hchanged
    rcases OwnerServer.storeWrites_cases ud around draws s req with hnone | ⟨checked, hwrites⟩
    · rw [hnone] at hchanged
      exact absurd rfl hchanged
    · rw [hwrites] at hchanged
      exact OwnerServer.marked_stored hchanged
  · intro ud past s around draws req response _ _ _
    exact leaves (ManufacturingServer.writer ud) around draws s req

end FailedRequests

/-! ## Two failures -/

namespace RendezvousServer
open Server Reference VoucherChain

/-- The owner's second request, for which the time to live cannot be written. -/
def untimedRequest (ownerSign : Bytes) : RendezvousInput (reference .release) :=
  .request ⟨"b", 0, false, false, false⟩
    ⟨some (.repeated 1), false, false, true⟩
    ⟨.to0OwnerSign, some "Bearer a", false, ownerSign⟩

/-- The owner is told of an error, and its registration stays without a time to live. -/
theorem ownersign_untimed : ∃ past s ownerSign response, (service sampleUd).Runs past s ∧
    (service sampleUd).respond s (untimedRequest ownerSign) = some response ∧ response.success = false ∧
    s.userData.items ⟨List.replicate 16 7⟩ = none ∧
    ((service sampleUd).step s (untimedRequest ownerSign)).userData.items ⟨List.replicate 16 7⟩ ≠ none ∧
    ((service sampleUd).step s (untimedRequest ownerSign)).userData.ttl ⟨List.replicate 16 7⟩ = none := by
  have hrun : (do
      let ownerSign ← sampleVoucher >>= (sampleOwnerSign · 0)
      let s := ((service sampleUd).replay [] sampleServer [sampleRequest 0 "a" .to0Hello none [0x80]]).2
      Outcome.check ((s.userData.items ⟨List.replicate 16 7⟩).isNone = true) Error.cose
      let response ← Outcome.ofOption Error.cose ((service sampleUd).respond s (untimedRequest ownerSign))
      Outcome.check (response.success = false) Error.cose
      let store := ((service sampleUd).step s (untimedRequest ownerSign)).userData
      Outcome.check ((store.items ⟨List.replicate 16 7⟩).isSome = true) Error.cose
      Outcome.check (store.ttl ⟨List.replicate 16 7⟩ = none) Error.cose).isOk = true := by
    decide +kernel
  obtain ⟨_, h⟩ := Outcome.isOk_iff.mp hrun
  obtain ⟨ownerSign, _, h₁⟩ := Outcome.bind_eq_ok.mp h
  obtain ⟨_, hnone, h₂⟩ := Outcome.bind_eq_ok.mp h₁
  obtain ⟨response, hresponse, h₃⟩ := Outcome.bind_eq_ok.mp h₂
  obtain ⟨_, hfailed, h₄⟩ := Outcome.bind_eq_ok.mp h₃
  obtain ⟨_, hitem, httl⟩ := Outcome.bind_eq_ok.mp h₄
  have run : (service sampleUd).Runs
      ((service sampleUd).replay [] sampleServer [sampleRequest 0 "a" .to0Hello none [0x80]]).1
      ((service sampleUd).replay [] sampleServer [sampleRequest 0 "a" .to0Hello none [0x80]]).2 :=
    Service.Runs.replay (.start fun _ => rfl) (List.forall_mem_singleton.mpr rfl) (List.pairwise_singleton _ _)
      fun m hm => absurd hm List.not_mem_nil
  exact ⟨_, _, ownerSign, response, run, Outcome.ofOption_eq_ok.mp hresponse, Outcome.check_eq_ok.mp hfailed,
    Option.isNone_iff_eq_none.mp (Outcome.check_eq_ok.mp hnone), Option.ne_none_iff_isSome.mpr (Outcome.check_eq_ok.mp hitem), Outcome.check_eq_ok.mp httl⟩

end RendezvousServer

namespace OwnerServer
open Server Reference VoucherChain

/-- A request after which the session cannot be written back. -/
def lostRequest (body : Bytes) : OwnerInput (reference .release) :=
  .request ⟨"g", 0, false, true, false⟩ (sampleDraws 6) ⟨.to2Done, some "Bearer a", false, body⟩

def bodyOf : OwnerInput (reference .release) → Bytes
  | .request _ _ req => req.body
  | _ => []

/-- The device is told of an error, and its voucher is marked. -/
theorem done_marked : ∃ past s body response, (service sampleUd).Runs past s ∧
    (service sampleUd).respond s (lostRequest body) = some response ∧ response.success = false ∧
    s.userData.to2Performed ⟨List.replicate 16 7⟩ = false ∧
    ((service sampleUd).step s (lostRequest body)).userData.to2Performed ⟨List.replicate 16 7⟩ = true := by
  have hrun : (do
      let v ← sampleVoucher
      let inputs ← sampleInputs
      Outcome.check ((inputs.take 6).Pairwise (service sampleUd).Distinct) Error.cose
      Outcome.check (∀ input ∈ inputs.take 6, input.isRequest = true) Error.cose
      let s := ((service sampleUd).replay [] (sampleServer v) (inputs.take 6)).2
      let body := ((inputs.drop 6).map bodyOf).flatten
      let response ← Outcome.ofOption Error.cose ((service sampleUd).respond s (lostRequest body))
      Outcome.check (response.success = false) Error.cose
      Outcome.check (s.userData.to2Performed ⟨List.replicate 16 7⟩ = false) Error.cose
      Outcome.check (((service sampleUd).step s (lostRequest body)).userData.to2Performed
        ⟨List.replicate 16 7⟩ = true) Error.cose).isOk = true := by
    decide +kernel
  obtain ⟨_, h⟩ := Outcome.isOk_iff.mp hrun
  obtain ⟨v, _, h₁⟩ := Outcome.bind_eq_ok.mp h
  obtain ⟨inputs, _, h₂⟩ := Outcome.bind_eq_ok.mp h₁
  obtain ⟨_, hdistinct, h₃⟩ := Outcome.bind_eq_ok.mp h₂
  obtain ⟨_, hrequests, h₄⟩ := Outcome.bind_eq_ok.mp h₃
  obtain ⟨response, hresponse, h₅⟩ := Outcome.bind_eq_ok.mp h₄
  obtain ⟨_, hfailed, h₆⟩ := Outcome.bind_eq_ok.mp h₅
  obtain ⟨_, hunmarked, hmarked⟩ := Outcome.bind_eq_ok.mp h₆
  have run : (service sampleUd).Runs ((service sampleUd).replay [] (sampleServer v) (inputs.take 6)).1
      ((service sampleUd).replay [] (sampleServer v) (inputs.take 6)).2 :=
    Service.Runs.replay (.start fun _ => rfl) (Outcome.check_eq_ok.mp hrequests)
      (Outcome.check_eq_ok.mp hdistinct) fun m hm => absurd hm List.not_mem_nil
  exact ⟨_, _, _, response, run, Outcome.ofOption_eq_ok.mp hresponse, Outcome.check_eq_ok.mp hfailed,
    Outcome.check_eq_ok.mp hunmarked, Outcome.check_eq_ok.mp hmarked⟩

end OwnerServer

namespace FailedRequests
open Server

/-- A failed OwnerSign leaves a registration without a time to live, and a failed Done its mark. -/
theorem failed_requests_change :
    (∃ past s ownerSign response, (RendezvousServer.service RendezvousServer.sampleUd).Runs past s ∧
      (RendezvousServer.service RendezvousServer.sampleUd).respond s
        (RendezvousServer.untimedRequest ownerSign) = some response ∧ response.success = false ∧
      s.userData.items ⟨List.replicate 16 7⟩ = none ∧
      ((RendezvousServer.service RendezvousServer.sampleUd).step s
        (RendezvousServer.untimedRequest ownerSign)).userData.items ⟨List.replicate 16 7⟩ ≠ none ∧
      ((RendezvousServer.service RendezvousServer.sampleUd).step s
        (RendezvousServer.untimedRequest ownerSign)).userData.ttl ⟨List.replicate 16 7⟩ = none) ∧
    ∃ past s body response, (OwnerServer.service OwnerServer.sampleUd).Runs past s ∧
      (OwnerServer.service OwnerServer.sampleUd).respond s (OwnerServer.lostRequest body) = some response ∧
      response.success = false ∧ s.userData.to2Performed ⟨List.replicate 16 7⟩ = false ∧
      ((OwnerServer.service OwnerServer.sampleUd).step s
        (OwnerServer.lostRequest body)).userData.to2Performed ⟨List.replicate 16 7⟩ = true :=
  ⟨RendezvousServer.ownersign_untimed, OwnerServer.done_marked⟩

/-- Both failures leave exactly the writes before them. -/
theorem failed_requests_leave :
    (∃ s around draws req, Leaves (RendezvousServer.writer RendezvousServer.sampleUd) around draws s req ∧
      ((RendezvousServer.service RendezvousServer.sampleUd).step s (.request around draws req)).userData.items
        ⟨List.replicate 16 7⟩ ≠ s.userData.items ⟨List.replicate 16 7⟩) ∧
    ∃ s around draws req, Leaves (OwnerServer.writer OwnerServer.sampleUd) around draws s req ∧
      ((OwnerServer.service OwnerServer.sampleUd).step s (.request around draws req)).userData.to2Performed
        ⟨List.replicate 16 7⟩ ≠ s.userData.to2Performed ⟨List.replicate 16 7⟩ := by
  constructor
  · obtain ⟨past, s, ownerSign, response, run, hresponse, hfailed, hbefore, hafter, _⟩ :=
      RendezvousServer.ownersign_untimed
    refine ⟨s, _, _, _, (failed_request_leaves.1 _ past s _ _ _ response run hresponse hfailed).1, ?_⟩
    rw [hbefore]
    exact hafter
  · obtain ⟨past, s, body, response, run, hresponse, hfailed, hbefore, hafter⟩ := OwnerServer.done_marked
    refine ⟨s, _, _, _, (failed_request_leaves.2.1 _ past s _ _ _ response run hresponse hfailed).1, ?_⟩
    rw [hbefore]
    exact ne_of_eq_of_ne hafter (by decide)

end FailedRequests
end FidoOnboard
