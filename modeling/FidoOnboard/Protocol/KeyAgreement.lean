import FidoOnboard.Client.To2
import FidoOnboard.DataFormats.KeyAgreement
import FidoOnboard.HttpWrapper.LockStep
import FidoOnboard.ManufacturingClient.Diun
import FidoOnboard.Protocol.LockStep

/-!
# Key agreement in TO2 and DIUN

The server takes the choice of the derivation from the header of a request, the client
from the header of the first response it saw. Both are read at different times of one
run, and say the same throughout.
-/
namespace FidoOnboard.KeyAgreement
open Server LockStep

section Flags

variable {P : Platform} {ρ σ δ : Type} [Inhabited δ] {S : Service P ρ σ δ}
  {past : List (Client S × Event ρ σ)} {c c₀ : Client S}

/-- Any calls at all, from a new client and a server without sessions. -/
def AnyRun (S : Service P ρ σ δ) : List (Client S × Event ρ σ) → Client S → Prop :=
  Run Start (fun _ _ _ => True) step

/-- A state of a run. -/
def Reached (past : List (Client S × Event ρ σ)) (c c₀ : Client S) : Prop :=
  c₀ = c ∨ ∃ event, (c₀, event) ∈ past

/-- What the client knows of the derivation of the server, once it has seen a response. -/
def Informed (c : Client S) : Prop :=
  c.nonInteroperableKdfRequired = none ∨
    c.nonInteroperableKdfRequired = some (!S.interoperableKdfAvailable)

/-- The build of a client does not change, and every response tells it the same of the server. -/
theorem step_informed (c : Client S) (event : Event ρ σ) :
    (step c event).interoperableKdfAvailable = c.interoperableKdfAvailable ∧
      (Informed c → Informed (step c event)) := by
  cases event with
  | forget id => exact ⟨rfl, fun h => h⟩
  | tend userData => exact ⟨rfl, fun h => h⟩
  | call call delivery =>
      change (call.attempt delivery c).1.interoperableKdfAvailable = _ ∧
        (_ → Informed (call.attempt delivery c).1)
      rcases call.attempt_cases delivery c with ⟨hsame | hadvanced, _⟩ | ⟨req, _, heq⟩
      · rw [hsame]
        exact ⟨rfl, fun h => h⟩
      · rw [hadvanced]
        exact ⟨rfl, fun h => h⟩
      · rw [heq]
        unfold ServiceClient.awaitResponse
        cases harrives : delivery.fate.arrives
          (S.respond (server c) (.request delivery.around delivery.draws req)) with
        | none => exact ⟨rfl, fun h => h⟩
        | some resp =>
            obtain ⟨hawaits, hkdf⟩ := ServiceClient.takeResponse_awaits P call.sm call.decode resp
              (((facing c delivery).advanced call.sm).sent call.newKeys
                (if delivery.fate = .lost then server c
                  else S.step (server c) (.request delivery.around delivery.draws req), delivery))
            obtain ⟨response, hresponse, _, _, _, _, hflag, _⟩ := Fate.arrives_eq_some harrives
            refine ⟨hawaits.build, fun hc => .inr ?_⟩
            rw [hkdf, hflag, Service.respond_kdf hresponse]
            rcases hc with hnone | hsome
            · exact congrArg some (congrArg (Option.getD · _) hnone)
            · exact congrArg some (congrArg (Option.getD · _) hsome)

theorem reached_informed (run : AnyRun S past c) :
    ∀ c₀, Reached past c c₀ → c₀.interoperableKdfAvailable = c.interoperableKdfAvailable ∧ Informed c₀ := by
  induction run with
  | start h =>
      rintro c₀ (rfl | ⟨_, hmem⟩)
      · obtain ⟨⟨available, world, rfl⟩, _⟩ := h
        exact ⟨rfl, .inl rfl⟩
      · exact absurd hmem List.not_mem_nil
  | @next past c event run ok ih =>
      obtain ⟨hbuild, hinformed⟩ := step_informed c event
      rw [hbuild]
      rintro c₀ (rfl | ⟨event', hmem⟩)
      · exact ⟨hbuild, hinformed (ih c (.inl rfl)).2⟩
      · rcases List.mem_cons.mp hmem with heq | hmem
        · obtain ⟨rfl, rfl⟩ := Prod.mk.inj heq
          exact ih c₀ (.inl rfl)
        · exact ih c₀ (.inr ⟨event', hmem⟩)

theorem reached_kdf (run : AnyRun S past c) (hreached : Reached past c c₀)
    (hanswered : c₀.nonInteroperableKdfRequired ≠ none) :
    c₀.nonInteroperableKdfRequired = some (!S.interoperableKdfAvailable) := by
  rcases (reached_informed run c₀ hreached).2 with hnone | hsome
  · exact absurd hnone hanswered
  · exact hsome

/-- The header the server reads is about the build of the client. -/
theorem received_kdf {call : Call} {req : HttpRequest} (hreq : call.request c = .ok req) {h : Handler σ δ}
    {around : Surroundings} {store : SessionStore δ} {info : RequestInformation δ} {body : h.Body}
    (hreceive : receive P h around store req = .ok (info, body)) :
    info.nonInteroperableKdf = !c.interoperableKdfAvailable := by
  rw [(receive_opened hreceive).2, (ServiceClient.prepare_ok hreq).request.2.2]

end Flags

variable {P : Platform}

/-- TO2 with one owner: in any run, whatever state the device derives its keys in and whatever
state the request was sent in that the owner derives its keys on. -/
def To2Agrees (generated : KexSuite → Bytes → Prop) (ud : OwnerServer.OwnerServiceUD P) : Prop :=
  ∀ (past : List (Client (OwnerServer.service ud) × Event _ _)) (c c₀ c₁ : Client (OwnerServer.service ud)),
    AnyRun (OwnerServer.service ud) past c → Reached past c c₀ → Reached past c c₁ →
    c₁.nonInteroperableKdfRequired ≠ none →
  ∀ (suite : KexSuite) (cipher : CipherSuite) (entropyA entropyB : KexEntropy) (a b : KeyExchange),
    entropyA.Fresh generated → entropyB.Fresh generated →
    KeyExchange.new entropyA suite = .ok a → KeyExchange.new entropyB suite = .ok b →
  ∃ publicA publicB derived, a.getPublic P = .ok publicA ∧ b.getPublic P = .ok publicB ∧
    (∀ payload : TO2ProveOVHdrPayload, payload.aKeyExchange = publicA →
      Client.performKeyDerivation P entropyB c₁ payload suite cipher =
        .ok (b, .fromDerived cipher derived)) ∧
    ∀ (call : Call) (req : HttpRequest) (h : OwnerServer.OwnerHandler P) (around : Surroundings)
      (store : SessionStore OwnerServer.OwnerSession) (info : OwnerServer.Info) (body : h.Body),
      call.request c₀ = .ok req → receive P h around store req = .ok (info, body) →
      a.deriveKey P ud.interoperableKdfAvailable .ownerService cipher publicB info.nonInteroperableKdf =
        .ok derived ∧
      ∀ (draws : OwnerServer.Draws P) (stores : OwnerServer.OwnerStores P) (token res : COSESign P)
        (info' : OwnerServer.Info), OwnerServer.proveDevice ud draws stores info token = .ok (res, info') →
        info.session.data.aKeyExchange = some a → info.session.data.ciphersuite = some cipher →
        (∀ key eat, token.getEat key = .ok eat →
          eat.payloadAs P.valueToProveDevicePayload = .ok (some publicB)) →
        info'.session.encryptionKeys = some (.fromDerived cipher derived)

/-- DIUN with one manufacturer, whose half of the exchange is `a`. -/
def DiunAgrees (generated : KexSuite → Bytes → Prop) (ud : ManufacturingServer.ManufacturingServiceUD P) :
    Prop :=
  ∀ (past : List (Client (ManufacturingServer.service ud) × Event _ _))
    (c c₀ c₁ : Client (ManufacturingServer.service ud)),
    AnyRun (ManufacturingServer.service ud) past c → Reached past c c₀ → Reached past c c₁ →
    c₁.nonInteroperableKdfRequired ≠ none →
  ∀ (suite : KexSuite) (cipher : CipherSuite) (draws : ManufacturingServer.Draws) (entropyB : KexEntropy)
    (a b : KeyExchange), draws.kex.Fresh generated → entropyB.Fresh generated →
    KeyExchange.new draws.kex suite = .ok a → KeyExchange.new entropyB suite = .ok b →
  ∃ publicA publicB derived, a.getPublic P = .ok publicA ∧ b.getPublic P = .ok publicB ∧
    (∃ required, c₁.nonInteroperableKdfRequired = some required ∧
      ManufacturingClient.deriveNewKeys P c₁ b cipher publicA required =
        .ok (.fromDerived cipher derived)) ∧
    (∀ mode nonceDiun1 (accept : COSESign P) keys,
      (∀ key payload, accept.getPayload P.acceptPayload.deserializeData key = .ok payload →
        payload = publicA) →
      ManufacturingClient.takeAccept c₁ mode nonceDiun1 b cipher accept = .ok keys →
        keys = .fromDerived cipher derived) ∧
    ∀ (call : Call) (req : HttpRequest) (h : ManufacturingServer.ManufacturingHandler P)
      (around : Surroundings) (store : SessionStore ManufacturingServer.ManufacturingSession)
      (info : ManufacturingServer.Info) (body : h.Body),
      call.request c₀ = .ok req → receive P h around store req = .ok (info, body) →
      a.deriveKey P ud.interoperableKdfAvailable .ownerService cipher publicB info.nonInteroperableKdf =
        .ok derived ∧
      ∀ (msg : Diun.Connect) (accept : COSESign P) (info' : ManufacturingServer.Info),
        ManufacturingServer.connect ud draws info msg = .ok (accept, info') →
        msg.kexSuite = suite → msg.cipherSuite = cipher → msg.keyExchange = publicB →
        info'.session.data.diunKeys = some (.fromDerived cipher derived)

theorem to2_agrees {generated : KexSuite → Bytes → Prop} (laws : KexLaws P generated)
    (ud : OwnerServer.OwnerServiceUD P) : To2Agrees generated ud := by
  intro past c c₀ c₁ run hc₀ hc₁ hanswered suite cipher entropyA entropyB a b hfreshA hfreshB ha hb
  obtain ⟨publicA, publicB, hpublicA, hpublicB, hagree⟩ :=
    KeyExchange.deriveKey_agree laws (KeyExchange.new_created hfreshA ha) (KeyExchange.new_created hfreshB hb)
  obtain ⟨derived, howner, hdevice⟩ := hagree cipher ud.interoperableKdfAvailable c.interoperableKdfAvailable
  have hrequired := reached_kdf run hc₁ hanswered
  refine ⟨publicA, publicB, derived, hpublicA, hpublicB, ?_, ?_⟩
  · rintro payload rfl
    rw [← (reached_informed run c₁ hc₁).1] at hdevice
    have hdevice : b.deriveKey P c₁.interoperableKdfAvailable .device cipher payload.aKeyExchange
        (!(OwnerServer.service ud).interoperableKdfAvailable) = .ok derived := hdevice
    simp only [Client.performKeyDerivation, hrequired, hb, Outcome.ofOption, Outcome.ok_bind,
      Client.orResponse, Outcome.mapErr_ok, hdevice]
  · intro call req h around store info body hreq hreceive
    have hkdf := received_kdf hreq hreceive
    rw [(reached_informed run c₀ hc₀).1] at hkdf
    rw [← hkdf] at howner
    refine ⟨howner, ?_⟩
    intro draws stores token res info' hprove hkex hsuite hpayload
    obtain ⟨_, _, _, ciphersuite, keys, _, hderived, rfl⟩ := OwnerServer.proveDevice_ok hprove
    obtain rfl := Option.some.inj (hsuite.symm.trans hderived.suite)
    obtain ⟨kex, key, eat, other, hkex', heat, hother, hkeys⟩ := hderived.exchange
    obtain rfl := Option.some.inj (hkex.symm.trans hkex')
    obtain rfl := Option.some.inj (Outcome.ok.inj ((hpayload key eat heat).symm.trans hother))
    obtain rfl := Outcome.ok.inj (howner.symm.trans hkeys)
    rfl

theorem diun_agrees {generated : KexSuite → Bytes → Prop} (laws : KexLaws P generated)
    (ud : ManufacturingServer.ManufacturingServiceUD P) : DiunAgrees generated ud := by
  intro past c c₀ c₁ run hc₀ hc₁ hanswered suite cipher draws entropyB a b hfreshA hfreshB ha hb
  obtain ⟨publicA, publicB, hpublicA, hpublicB, hagree⟩ :=
    KeyExchange.deriveKey_agree laws (KeyExchange.new_created hfreshA ha) (KeyExchange.new_created hfreshB hb)
  obtain ⟨derived, hserver, hdevice⟩ := hagree cipher ud.interoperableKdfAvailable c.interoperableKdfAvailable
  have hrequired : c₁.nonInteroperableKdfRequired = some (!ud.interoperableKdfAvailable) :=
    reached_kdf run hc₁ hanswered
  have hderive : ManufacturingClient.deriveNewKeys P c₁ b cipher publicA (!ud.interoperableKdfAvailable) =
      .ok (.fromDerived cipher derived) := by
    rw [← (reached_informed run c₁ hc₁).1] at hdevice
    simp only [ManufacturingClient.deriveNewKeys, hdevice, ManufacturingClient.context, Outcome.mapErr_ok,
      Outcome.ok_bind]
  refine ⟨publicA, publicB, derived, hpublicA, hpublicB, ⟨_, hrequired, hderive⟩, ?_, ?_⟩
  · intro mode nonceDiun1 accept keys hpayload htake
    obtain ⟨required, key, payload, hrequired', hread, hkeys⟩ := ManufacturingClient.takeAccept_ok htake
    obtain rfl := hpayload key payload hread
    obtain rfl := Option.some.inj (hrequired.symm.trans hrequired')
    exact (Outcome.ok.inj (hderive.symm.trans hkeys)).symm
  · intro call req h around store info body hreq hreceive
    have hkdf := received_kdf hreq hreceive
    rw [(reached_informed run c₀ hc₀).1] at hkdf
    rw [← hkdf] at hserver
    refine ⟨hserver, ?_⟩
    rintro msg accept info' hconnect rfl rfl rfl
    obtain ⟨keys, hagreed, rfl⟩ := ManufacturingServer.connect_ok hconnect
    obtain ⟨config, kex, derived', _, _, _, hkex, hkeys, rfl, _⟩ := hagreed.exchange
    obtain rfl := Outcome.ok.inj (ha.symm.trans hkex)
    obtain rfl := Outcome.ok.inj (hserver.symm.trans hkeys)
    rfl

/-- Owner and device, and manufacturer and device, end an exchange with the same keys. -/
theorem key_agreement {generated : KexSuite → Bytes → Prop} (laws : KexLaws P generated) :
    (∀ ud : OwnerServer.OwnerServiceUD P, To2Agrees generated ud) ∧
      ∀ ud : ManufacturingServer.ManufacturingServiceUD P, DiunAgrees generated ud :=
  ⟨to2_agrees laws, diun_agrees laws⟩

section Sample
open Reference ManufacturingServer

def sampleEntropy : KexEntropy := ⟨fun _ => some [0x77], fun _ => some [0x77], fun n => some (List.replicate n 0x78)⟩

theorem sampleEntropy_fresh : sampleEntropy.Fresh fun _ _ => True where
  ecKey _ := trivial
  dhKey _ := trivial
  random h := by
    obtain rfl := Option.some.inj h
    exact List.length_replicate

theorem sampleDraws_fresh (k : UInt8) : (sampleDraws k).kex.Fresh fun _ _ => True where
  ecKey _ := trivial
  dhKey _ := trivial
  random h := by
    obtain rfl := Option.some.inj h
    exact List.length_replicate

theorem sampleConnected_anyRun :
    AnyRun (service sampleUd) [(sampleClient, .call sampleConnect (sampleDelivery 0 "a"))] sampleConnected := by
  unfold sampleConnected
  exact .next (.start ⟨⟨true, _, rfl⟩, fun _ => rfl⟩) trivial

/-- A device that has had its Connect answered, and the manufacturer that answered it. -/
theorem key_agreement_sample : ∃ (a b : KeyExchange) (publicA publicB : Bytes) (derived : DerivedKeys)
    (required : Bool) (req : HttpRequest) (info : Info) (body : Diun.Connect),
    KeyExchange.new (sampleDraws 0).kex .ecdh256 = .ok a ∧ KeyExchange.new sampleEntropy .ecdh256 = .ok b ∧
    a.getPublic (reference .release) = .ok publicA ∧ b.getPublic (reference .release) = .ok publicB ∧
    sampleConnect.request sampleClient = .ok req ∧
    receive (reference .release) (handlerDiunConnect sampleUd (sampleDraws 0)) (sampleDelivery 0 "a").around
      sampleServer.sessions req = .ok (info, body) ∧
    ManufacturingClient.deriveNewKeys (reference .release) sampleConnected b .a128Gcm publicA required =
      .ok (.fromDerived .a128Gcm derived) ∧
    a.deriveKey (reference .release) true .ownerService .a128Gcm publicB info.nonInteroperableKdf =
      .ok derived := by
  have hrun : (do
      let a ← (KeyExchange.new (sampleDraws 0).kex .ecdh256).mapErr RequestError.dataFormat
      let b ← (KeyExchange.new sampleEntropy .ecdh256).mapErr RequestError.dataFormat
      let req ← sampleConnect.request sampleClient
      let (info, body) ← (receive (reference .release) (handlerDiunConnect sampleUd (sampleDraws 0))
        (sampleDelivery 0 "a").around sampleServer.sessions req).mapErr fun _ => RequestError.request
      Outcome.check (sampleConnected.nonInteroperableKdfRequired ≠ none) RequestError.request
      Outcome.ok (a, b, req, info, body)).isOk = true := by
    decide +kernel
  obtain ⟨_, h⟩ := Outcome.isOk_iff.mp hrun
  obtain ⟨a, ha, h₁⟩ := Outcome.bind_eq_ok.mp h
  obtain ⟨b, hb, h₂⟩ := Outcome.bind_eq_ok.mp h₁
  obtain ⟨req, hreq, h₃⟩ := Outcome.bind_eq_ok.mp h₂
  obtain ⟨⟨info, body⟩, hreceive, h₄⟩ := Outcome.bind_eq_ok.mp h₃
  obtain ⟨_, hanswered, _⟩ := Outcome.bind_eq_ok.mp h₄
  rw [Outcome.mapErr_eq_ok] at ha hb hreceive
  obtain ⟨publicA, publicB, derived, hpublicA, hpublicB, ⟨required, _, hdevice⟩, _, hserver⟩ :=
    (key_agreement (kexLaws .release)).2 sampleUd _ _ sampleClient sampleConnected sampleConnected_anyRun
      (.inr ⟨_, List.mem_cons_self⟩) (.inl rfl) (Outcome.check_eq_ok.mp hanswered) .ecdh256 .a128Gcm
      (sampleDraws 0) sampleEntropy a b (sampleDraws_fresh 0) sampleEntropy_fresh ha hb
  exact ⟨a, b, publicA, publicB, derived, required, req, info, body, ha, hb, hpublicA, hpublicB, hreq,
    hreceive, hdevice, (hserver sampleConnect req _ _ _ info body hreq hreceive).1⟩

end Sample

end FidoOnboard.KeyAgreement
