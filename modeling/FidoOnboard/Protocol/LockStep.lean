import FidoOnboard.HttpWrapper.LockStep
import FidoOnboard.ManufacturingServer.Gate
import FidoOnboard.OwnerServer.Sessions

/-!
# TO2, and DIUN followed by DI, in lock-step

The two servers keep to what the client relies on: only the handlers of ProveDevice
and RequestKeyParameters set the keys of a session.
-/
namespace FidoOnboard.LockStep
open Server

variable {P : Platform}

theorem owner_keeps {ud : OwnerServer.OwnerServiceUD P} {draws : OwnerServer.Draws P} {t : MessageType}
    {h : OwnerServer.OwnerHandler P} {stores : OwnerServer.OwnerStores P} {info info' : OwnerServer.Info}
    {body : h.Body} {reply : h.Reply} (hroute : OwnerServer.routes ud draws t = some h)
    (hrun : (h.run stores info body).2 = .ok (reply, info')) :
    info'.cookieValue = info.cookieValue ∧
      (t ≠ .to2ProveDevice → info'.session.encryptionKeys = info.session.encryptionKeys) := by
  unfold OwnerServer.routes at hroute
  split at hroute
  · cases hroute
    obtain ⟨_, _, _, rfl, _⟩ := OwnerServer.helloDevice_ok hrun
    exact ⟨rfl, fun _ => rfl⟩
  · cases hroute
    obtain ⟨rfl, _⟩ := OwnerServer.getOvNextEntry_ok hrun
    exact ⟨rfl, fun _ => rfl⟩
  · cases hroute
    obtain ⟨_, _, _, _, _, _, _, rfl⟩ := OwnerServer.proveDevice_ok hrun
    exact ⟨rfl, fun hne => absurd rfl hne⟩
  · cases hroute
    obtain ⟨rfl, _⟩ := OwnerServer.deviceServiceInfoReady_ok hrun
    exact ⟨rfl, fun _ => rfl⟩
  · cases hroute
    obtain ⟨_, _, rfl⟩ := OwnerServer.deviceServiceInfo_ok hrun
    exact ⟨rfl, fun _ => rfl⟩
  · cases hroute
    obtain ⟨_, rfl⟩ := OwnerServer.done_ok hrun
    exact ⟨rfl, fun _ => rfl⟩
  · cases hroute

theorem owner_routed {ud : OwnerServer.OwnerServiceUD P} {draws : OwnerServer.Draws P} {t : MessageType}
    {h : OwnerServer.OwnerHandler P} (hroute : OwnerServer.routes ud draws t = some h) :
    (h.im ∈ Message.all ∧ h.om ∈ Message.all ∧ h.im.messageType = t) ∧ h.im.encryptionRequirement ≠ none := by
  unfold OwnerServer.routes at hroute
  split at hroute
  all_goals cases hroute
  all_goals refine ⟨⟨?_, ?_, rfl⟩, nofun⟩
  all_goals simp [Message.all, OwnerServer.handlerHelloDevice, OwnerServer.handlerGetOvNextEntry,
    OwnerServer.handlerProveDevice, OwnerServer.handlerDeviceServiceInfoReady,
    OwnerServer.handlerDeviceServiceInfo, OwnerServer.handlerDone, OwnerServer.reading]

theorem owner_disciplined (ud : OwnerServer.OwnerServiceUD P) :
    Disciplined (OwnerServer.service ud) .to2ProveDevice where
  routed hroute := (owner_routed hroute).1
  inClear hm htype := by
    have hall : To2.proveDevice ∈ Message.all := by simp [Message.all]
    rw [Message.eq_of_messageType hm hall htype]
    rfl
  keepsCookie hroute hrun := (owner_keeps hroute hrun).1
  keepsKeys hroute hrun := (owner_keeps hroute hrun).2
  notPlain hroute hnone := absurd hnone (owner_routed hroute).2

theorem manufacturing_keeps {ud : ManufacturingServer.ManufacturingServiceUD P}
    {draws : ManufacturingServer.Draws} {t : MessageType} {h : ManufacturingServer.ManufacturingHandler P}
    {store : ManufacturingServer.VoucherStore P} {info info' : ManufacturingServer.Info} {body : h.Body}
    {reply : h.Reply} (hroute : ManufacturingServer.routes ud draws t = some h)
    (hrun : (h.run store info body).2 = .ok (reply, info')) :
    info'.cookieValue = info.cookieValue ∧
      (t ≠ .diunRequestKeyParameters → info'.session.encryptionKeys = info.session.encryptionKeys) := by
  unfold ManufacturingServer.routes at hroute
  split at hroute
  · cases hroute
    obtain ⟨_, _, rfl⟩ := ManufacturingServer.connect_ok hrun
    exact ⟨rfl, fun _ => rfl⟩
  · cases hroute
    obtain ⟨_, _, rfl⟩ := ManufacturingServer.requestKeyParameters_ok hrun
    exact ⟨rfl, fun hne => absurd rfl hne⟩
  · cases hroute
    obtain rfl := ManufacturingServer.provideKey_ok hrun
    exact ⟨rfl, fun _ => rfl⟩
  · cases hroute
    obtain ⟨_, _, _, _, _, rfl⟩ := ManufacturingServer.appStart_ok hrun
    exact ⟨rfl, fun _ => rfl⟩
  · cases hroute
    obtain ⟨rfl, _⟩ := ManufacturingServer.setHmac_ok hrun
    exact ⟨rfl, fun _ => rfl⟩
  · cases hroute

theorem manufacturing_routed {ud : ManufacturingServer.ManufacturingServiceUD P}
    {draws : ManufacturingServer.Draws} {t : MessageType} {h : ManufacturingServer.ManufacturingHandler P}
    (hroute : ManufacturingServer.routes ud draws t = some h) :
    h.im ∈ Message.all ∧ h.om ∈ Message.all ∧ h.im.messageType = t := by
  unfold ManufacturingServer.routes at hroute
  split at hroute
  all_goals cases hroute
  all_goals refine ⟨?_, ?_, rfl⟩
  all_goals simp [Message.all, ManufacturingServer.handlerDiunConnect,
    ManufacturingServer.handlerDiunRequestKeyParameters, ManufacturingServer.handlerDiunProvideKey,
    ManufacturingServer.handlerDiAppStart, ManufacturingServer.handlerDiSetHmac]

/-- The two messages of DI travel as their session does; an encrypted one is not read in the clear. -/
theorem manufacturing_notPlain (envelopes : EnvelopeLaws P)
    {ud : ManufacturingServer.ManufacturingServiceUD P} {draws : ManufacturingServer.Draws} {t : MessageType}
    {h : ManufacturingServer.ManufacturingHandler P} {key plain data : Bytes} {body : h.Body}
    (hroute : ManufacturingServer.routes ud draws t = some h) (hnone : h.im.encryptionRequirement = none)
    (hdata : P.coseEncrypt key plain = some data) : h.decode data ≠ .ok body := by
  unfold ManufacturingServer.routes at hroute
  split at hroute
  · cases hroute
    cases hnone
  · cases hroute
    cases hnone
  · cases hroute
    cases hnone
  · cases hroute
    intro hdecode
    obtain ⟨mfgInfo, hread, _⟩ := Outcome.bind_eq_ok.mp hdecode
    rw [Codec.deserializeData_eq_ok, envelopes.appStart hdata] at hread
    cases hread
  · cases hroute
    intro hdecode
    have hread := Codec.deserializeData_eq_ok.mp hdecode
    rw [envelopes.setHmac hdata] at hread
    cases hread
  · cases hroute

theorem manufacturing_disciplined (envelopes : EnvelopeLaws P)
    (ud : ManufacturingServer.ManufacturingServiceUD P) :
    Disciplined (ManufacturingServer.service ud) .diunRequestKeyParameters where
  routed hroute := manufacturing_routed hroute
  inClear hm htype := by
    have hall : Diun.requestKeyParameters ∈ Message.all := by simp [Message.all]
    rw [Message.eq_of_messageType hm hall htype]
    rfl
  keepsCookie hroute hrun := (manufacturing_keeps hroute hrun).1
  keepsKeys hroute hrun := (manufacturing_keeps hroute hrun).2
  notPlain hroute hnone hdata := manufacturing_notPlain envelopes hroute hnone hdata

/-- What holds of the next call of any run. -/
def CallsAgree {ρ σ δ : Type} [Inhabited δ] (S : Service P ρ σ δ) (exchange : MessageType) : Prop :=
  ∀ (past : List (Client S × Event ρ σ)) (c : Client S) (call : Call) (delivery : Delivery ρ),
    Runs S exchange past c → Fits exchange c call delivery →
      (∀ value, (call.attempt delivery c).2 = .ok value → InLockStep (call.attempt delivery c).1) ∧
        NeverInClear c call delivery

/-- Client and server stay in lock-step through any sequence of calls, whichever of them fail. -/
theorem client_server_in_lock_step (envelopes : EnvelopeLaws P) :
    (∀ ud : OwnerServer.OwnerServiceUD P, CallsAgree (OwnerServer.service ud) .to2ProveDevice) ∧
      ∀ ud : ManufacturingServer.ManufacturingServiceUD P,
        CallsAgree (ManufacturingServer.service ud) .diunRequestKeyParameters := by
  refine ⟨?_, ?_⟩
  · intro ud past c call delivery run hfits
    exact run.call (owner_disciplined ud) hfits
  · intro ud past c call delivery run hfits
    exact run.call (manufacturing_disciplined envelopes ud) hfits

section Sample
open Reference ManufacturingServer

def sampleDelivery (k : UInt8) (cookie : String) : Delivery Draws :=
  ⟨.delivered, ⟨cookie, 0, false, false, false⟩, sampleDraws k⟩

def sampleClient : Client (service sampleUd) :=
  ServiceClient.new true (sampleServer, sampleDelivery 0 "a")

def sampleConnect : Call where
  om := Diun.connect
  sm := Diun.accept
  Reply := COSESign (reference .release)
  body := do
    let keyExchange ← sampleDeviceKex.getPublic (reference .release)
    (Diun.Connect.mk ⟨List.replicate 16 5⟩ .ecdh256 .a128Gcm keyExchange).serializeData (reference .release)
  decode := COSESign.deserializeData (reference .release)
  newKeys := none

def sampleKeyParameters (keys : EncryptionKeys) : Call where
  om := Diun.requestKeyParameters
  sm := Diun.provideKeyParameters
  Reply := Diun.ProvideKeyParameters
  body := (reference .release).requestKeyParameters.serializeData none
  decode := Diun.ProvideKeyParameters.deserializeData (reference .release)
  newKeys := some keys

def sampleConnected : Client (service sampleUd) := step sampleClient (.call sampleConnect (sampleDelivery 0 "a"))

theorem sampleConnected_runs : ∃ past, Runs (service sampleUd) .diunRequestKeyParameters past sampleConnected := by
  have hstart : Start sampleClient := ⟨⟨true, _, rfl⟩, fun _ => rfl⟩
  have hfits : Fits .diunRequestKeyParameters sampleClient sampleConnect (sampleDelivery 0 "a") :=
    { request := by simp [Message.all, sampleConnect]
      reply := by simp [Message.all, sampleConnect]
      newKeys := nofun
      agreed := fun _ _ _ _ h => absurd h (by decide)
      cookie := by decide }
  unfold sampleConnected
  exact ⟨_, .next (.start hstart) hfits⟩

/-- The exchange of a device with a healthy server. -/
theorem client_server_in_lock_step_sample : ∃ past c call delivery value,
    Runs (service sampleUd) .diunRequestKeyParameters past c ∧
    Fits .diunRequestKeyParameters c call delivery ∧ (call.attempt delivery c).2 = .ok value ∧
    (call.attempt delivery c).1.encryptionKeys.isSome = true ∧ InLockStep (call.attempt delivery c).1 := by
  have hrun : (do
      let keys ← sampleKeys.mapErr RequestError.dataFormat
      let (ses, _) ← (openSession (reference .release) Diun.requestKeyParameters
        (sampleDelivery 1 "b").around (server sampleConnected).sessions
        sampleConnected.authorizationToken).mapErr fun _ => RequestError.request
      Outcome.check (ses.data.diunKeys = some keys ∧ keys.isSome = true) RequestError.request
      let value ← ((sampleKeyParameters keys).attempt (sampleDelivery 1 "b") sampleConnected).2
      Outcome.ok value).isOk = true := by
    decide +kernel
  obtain ⟨value, h⟩ := Outcome.isOk_iff.mp hrun
  obtain ⟨keys, _, h₁⟩ := Outcome.bind_eq_ok.mp h
  obtain ⟨⟨ses, cookie⟩, hopen, h₂⟩ := Outcome.bind_eq_ok.mp h₁
  obtain ⟨_, hchecked, h₃⟩ := Outcome.bind_eq_ok.mp h₂
  obtain ⟨value, hvalue, _⟩ := Outcome.bind_eq_ok.mp h₃
  rw [Outcome.mapErr_eq_ok] at hopen
  obtain ⟨hstaged, hsome⟩ := Outcome.check_eq_ok.mp hchecked
  obtain ⟨past, run⟩ := sampleConnected_runs
  have hfits : Fits .diunRequestKeyParameters sampleConnected (sampleKeyParameters keys)
      (sampleDelivery 1 "b") :=
    { request := by simp [Message.all, sampleKeyParameters]
      reply := by simp [Message.all, sampleKeyParameters]
      newKeys := by
        rintro keys' hkeys
        obtain rfl := Option.some.inj hkeys
        exact ⟨rfl, .inr hsome⟩
      agreed := by
        intro req a hreq _ _
        obtain ⟨_, htype⟩ := Call.request_type hreq a
        obtain ⟨haround, _, hsame⟩ := Input.request.inj a.isRequest
        have him : a.h.im = Diun.requestKeyParameters :=
          Message.eq_of_messageType (manufacturing_routed a.route).1 (by simp [Message.all])
            ((manufacturing_routed a.route).2.2.trans htype)
        have hopened := (receive_opened a.accepted.received).1
        rw [← hsame, (ServiceClient.prepare_ok hreq).request.2.1, ← haround, him, hopen] at hopened
        obtain ⟨hses, _⟩ := Prod.mk.inj (Outcome.ok.inj hopened)
        rw [staged_keys a htype]
        unfold Service.Acceptance.before
        rw [← hses]
        exact hstaged
      cookie := by decide }
  refine ⟨past, sampleConnected, sampleKeyParameters keys, sampleDelivery 1 "b", value, run, hfits, hvalue,
    ?_, ((client_server_in_lock_step (envelopeLaws .release)).2 sampleUd past _ _ _ run hfits).1 value hvalue⟩
  obtain ⟨req, arrived, response, _, _, _, _, _, _, _, _, hawaits⟩ := Call.attempt_ok hvalue
  rw [hawaits.keys]
  exact hsome

end Sample

end FidoOnboard.LockStep
