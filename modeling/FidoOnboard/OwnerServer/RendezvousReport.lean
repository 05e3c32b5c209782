import FidoOnboard.DataFormats.Addresses
import FidoOnboard.DataFormats.RendezvousTypes
import FidoOnboard.DataFormats.VoucherChain
import FidoOnboard.HttpWrapper.Attempt
import FidoOnboard.ManufacturingServer.RendezvousConfiguration
import FidoOnboard.OwnerServer.Handlers

/-!
# Reporting a voucher to the rendezvous servers

`report_ov_to_rendezvous` of `owner-onboarding-server/src/main.rs`: the servers of
the voucher are tried one after the other until one of them registers the owner.
-/
namespace FidoOnboard.OwnerServer

/-- `context`. -/
def context {ε α : Type} (text : String) : Outcome ε α → Outcome String α := Outcome.mapErr fun _ => text

/-- What is behind a URL when it is called. -/
structure Reached where
  server : Peer
  peer : server.State

section

variable {P : Platform}

/-- What is reported, and by whom. -/
structure Report (P : Platform) where
  ov : OwnershipVoucher P
  ownerAddresses : P.To2Addresses
  ownerKey : P.PrivateKey
  registrationPeriod : Nat
  trustedDeviceKeys : Option (X5Bag P)
  /-- The directives of a `RendezvousInfo`, and how their values are read. -/
  directives : P.RendezvousInfo → RendezvousInfo
  cborValue : Codec CborValue
  interoperableKdfAvailable : Bool

namespace Report

variable (r : Report P)

def signTo1d (to0dHash : Hash) : Outcome Error (COSESign P) := do
  let payload ← (TO1DataPayload.mk r.ownerAddresses to0dHash).serializeData
  COSESign.new P payload [] r.ownerKey

/-- The OwnerSign message for a nonce. -/
def ownerSign (nonce3 : Nonce) : Outcome String (OwnerSign P) := do
  let to0d ← context "Error creating to0d" (TO0Data.new r.ov r.registrationPeriod nonce3)
  let to0dVec ← context "Error serializing TO0Data" to0d.serializeData
  let to0dHash ← context "Error hashing to0d" (Hash.fromData P .sha384 to0dVec)
  let to1d ← context "Error signing to1d" (r.signTo1d to0dHash)
  context "Error creating OwnerSign message" (OwnerSign.new to0dVec to1d)

variable {server : Peer}

/-- Sends Hello, receives HelloAck. -/
def sendHello (_ : Report P) (client : ServiceClient server) :
    Outcome RequestError (Nonce × ServiceClient server) :=
  client.sendRequest P To0.hello To0.helloAck (.ok [0x80]) (oneNonce P) none

/-- Sends OwnerSign, receives AcceptOwner. -/
def sendOwnerSign (nonce3 : Nonce) (client : ServiceClient server) : Outcome String Nat := do
  let msg ← r.ownerSign nonce3
  let accepted ← context "Error registering self to rendezvous server" (client.sendRequest P To0.ownerSign
    To0.acceptOwner msg.serializeData P.acceptOwner.deserializeData none)
  .ok accepted.1

/-- One URL; nothing comes out of it when the next one is to be tried. -/
def tryUrl (client : ServiceClient server) : Outcome String (Option Nat) :=
  match r.sendHello client with
  | .err _ => .ok none
  | .panic => .panic
  | .ok (nonce3, client) => do
    let waitSeconds ← r.sendOwnerSign nonce3 client
    .ok (some waitSeconds)

def newClient (reached : Reached) : ServiceClient reached.server :=
  .new r.interoperableKdfAvailable reached.peer

/-- The URLs of one directive; so many calls were made before. -/
def tryUrls (reached : Nat → List Char → Reached) : Nat → List (List Char) → Outcome String (Option Nat)
  | _, [] => .ok none
  | calls, rvUrl :: rvUrls => do
    match ← r.tryUrl (r.newClient (reached calls rvUrl)) with
    | some waitSeconds => .ok (some waitSeconds)
    | none => tryUrls reached (calls + 1) rvUrls

def tryDirectives (reached : Nat → List Char → Reached) :
    Nat → List RendezvousInterpretedDirective → Outcome String (Option Nat)
  | _, [] => .ok none
  | calls, rvDirective :: rvInfo => do
    match ← r.tryUrls reached calls rvDirective.getUrls with
    | some waitSeconds => .ok (some waitSeconds)
    | none => tryDirectives reached (calls + rvDirective.getUrls.length) rvInfo

/-- Without configured keys every root is trusted. -/
def verifyDevice (deviceCertChain : X5Chain P) : Outcome String P.X509 :=
  match r.trustedDeviceKeys with
  | some trustedDeviceKeys =>
    context "Device certificate is not trusted" (deviceCertChain.verifyFromX5bag trustedDeviceKeys)
  | none =>
    context "Device certificate chain is malformed" deviceCertChain.insecureVerifyWithoutRootVerification

/-- The checks of the voucher. -/
def checkVoucher : Outcome String Unit := do
  let version := r.ov.header.cachedProtocolVersion
  Outcome.check (version = .version1_1)
    ("Protocol version in OV (" ++ toString version.toU16 ++ ") not supported (101)")
  let deviceCertChain ← .ofOption "No device certificate chain found" r.ov.deviceCertificateChain
  let _ ← r.verifyDevice deviceCertChain
  .ok ()

def rvInfo : Outcome Error (List RendezvousInterpretedDirective) :=
  (r.directives r.ov.header.cachedRendezvousInfo).toInterpreted r.cborValue .owner

def reportOvToRendezvous (reached : Nat → List Char → Reached) : Outcome String Nat := do
  r.checkVoucher
  let rvInfo ← context "Error parsing rendezvous directives" r.rvInfo
  Outcome.check (rvInfo ≠ []) "No rendezvous information found that's usable for the owner"
  let waitSeconds ← r.tryDirectives reached 0 rvInfo
  .ofOption "Report to rendezvous not performed" waitSeconds

/-! ## What comes of each URL -/

inductive UrlOutcome where
  | helloFails
  | ownerSignFails
  | succeeds (waitSeconds : Nat)
  /-- The program stops. -/
  | stops
  deriving DecidableEq, Repr

def urlOutcome (client : ServiceClient server) : UrlOutcome :=
  match r.sendHello client with
  | .err _ => .helloFails
  | .panic => .stops
  | .ok (nonce3, client) =>
    match r.sendOwnerSign nonce3 client with
    | .err _ => .ownerSignFails
    | .panic => .stops
    | .ok waitSeconds => .succeeds waitSeconds

/-- The outcome of every URL, whether it is called or not. -/
def outcomes (reached : Nat → List Char → Reached) : Nat → List (List Char) → List UrlOutcome
  | _, [] => []
  | calls, rvUrl :: rvUrls =>
    r.urlOutcome (r.newClient (reached calls rvUrl)) :: outcomes reached (calls + 1) rvUrls

namespace UrlOutcome

def waitSeconds? : UrlOutcome → Option Nat
  | .succeeds waitSeconds => some waitSeconds
  | _ => none

/-- The first URL at which both exchanges succeed. -/
def firstSuccess (outcomes : List UrlOutcome) : Option Nat := outcomes.findSome? waitSeconds?

/-- The first URL that answers Hello. -/
def firstAnswer (outcomes : List UrlOutcome) : Option UrlOutcome := outcomes.find? (· ≠ .helloFails)

end UrlOutcome

open UrlOutcome

/-- The first success is what is returned, and an error says that there is none. -/
structure FallsBack (result : Outcome String Nat) (outcomes : List UrlOutcome) : Prop where
  success : ∀ waitSeconds, result = .ok waitSeconds ↔ firstSuccess outcomes = some waitSeconds
  failure : ∀ text, result = .err text → firstSuccess outcomes = none

/-- The loops end where Hello is answered first. -/
def Ends (result : Outcome String (Option Nat)) : Option UrlOutcome → Prop
  | none => result = .ok none
  | some .helloFails => False
  | some .ownerSignFails => ∃ text, result = .err text
  | some (.succeeds waitSeconds) => result = .ok (some waitSeconds)
  | some .stops => result = .panic

variable {r}

theorem tryUrl_ends (client : ServiceClient server) : Ends (r.tryUrl client) (firstAnswer [r.urlOutcome client]) := by
  unfold tryUrl urlOutcome
  cases r.sendHello client with
  | err e => rfl
  | panic => rfl
  | ok reply =>
      rcases reply with ⟨nonce3, client⟩
      dsimp only
      cases r.sendOwnerSign nonce3 client with
      | err text => exact ⟨text, rfl⟩
      | panic => rfl
      | ok waitSeconds => rfl

/-- The next URLs are tried only if none has answered Hello. -/
theorem Ends.append {first : Outcome String (Option Nat)} {rest : Outcome String (Option Nat)}
    {outcomes outcomes' : List UrlOutcome} (hfirst : Ends first (firstAnswer outcomes))
    (hrest : Ends rest (firstAnswer outcomes')) :
    Ends (first >>= fun found =>
      match found with
      | some waitSeconds => .ok (some waitSeconds)
      | none => rest) (firstAnswer (outcomes ++ outcomes')) := by
  rw [firstAnswer, List.find?_append]
  change Ends _ ((firstAnswer outcomes).or (firstAnswer outcomes'))
  cases hanswer : firstAnswer outcomes with
  | none =>
      rw [hanswer] at hfirst
      have hfirst : first = .ok none := hfirst
      rw [hfirst]
      exact hrest
  | some outcome =>
      rw [hanswer] at hfirst
      cases outcome with
      | helloFails => exact absurd hfirst id
      | ownerSignFails =>
          rcases hfirst with ⟨text, rfl⟩
          exact ⟨text, rfl⟩
      | succeeds waitSeconds =>
          have hfirst : first = .ok (some waitSeconds) := hfirst
          rw [hfirst]
          rfl
      | stops =>
          have hfirst : first = .panic := hfirst
          rw [hfirst]
          rfl

theorem tryUrls_ends (reached : Nat → List Char → Reached) (calls : Nat) (rvUrls : List (List Char)) :
    Ends (r.tryUrls reached calls rvUrls) (firstAnswer (r.outcomes reached calls rvUrls)) := by
  induction rvUrls generalizing calls with
  | nil => rfl
  | cons rvUrl rvUrls ih => exact Ends.append (tryUrl_ends _) (ih (calls + 1))

theorem outcomes_append (reached : Nat → List Char → Reached) (calls : Nat) (rvUrls rvUrls' : List (List Char)) :
    r.outcomes reached calls (rvUrls ++ rvUrls') =
      r.outcomes reached calls rvUrls ++ r.outcomes reached (calls + rvUrls.length) rvUrls' := by
  induction rvUrls generalizing calls with
  | nil => rfl
  | cons rvUrl rvUrls ih =>
      rw [List.cons_append, outcomes, outcomes, ih, List.length_cons, List.cons_append]
      congr 3
      omega

theorem tryDirectives_ends (reached : Nat → List Char → Reached) (calls : Nat)
    (rvInfo : List RendezvousInterpretedDirective) : Ends (r.tryDirectives reached calls rvInfo)
      (firstAnswer (r.outcomes reached calls (rvInfo.flatMap (·.getUrls)))) := by
  induction rvInfo generalizing calls with
  | nil => rfl
  | cons rvDirective rvInfo ih =>
      rw [List.flatMap_cons, outcomes_append]
      exact Ends.append (tryUrls_ends reached calls rvDirective.getUrls) (ih _)

theorem firstSuccess_of_firstAnswer {outcomes : List UrlOutcome} {waitSeconds : Nat}
    (h : firstAnswer outcomes = some (.succeeds waitSeconds)) : firstSuccess outcomes = some waitSeconds := by
  induction outcomes with
  | nil => exact absurd h nofun
  | cons outcome outcomes ih =>
      cases outcome with
      | helloFails => exact ih h
      | ownerSignFails => exact absurd h nofun
      | succeeds first =>
          have heq : first = waitSeconds := by simpa [firstAnswer] using h
          rw [heq]
          rfl
      | stops => exact absurd h nofun

/-- A call that does not succeed falls back exactly when nothing succeeds. -/
theorem fallsBack_of_not_ok {result : Outcome String Nat} {outcomes : List UrlOutcome} {answer : Option UrlOutcome}
    (hresult : ∀ waitSeconds, result ≠ .ok waitSeconds) (hanswer : ∀ waitSeconds, answer ≠ some (.succeeds waitSeconds)) :
    FallsBack result outcomes ↔
      ∀ waitSeconds, firstSuccess outcomes = some waitSeconds → answer = some (.succeeds waitSeconds) := by
  constructor
  · intro hfalls waitSeconds hsome
    exact absurd ((hfalls.success waitSeconds).mpr hsome) (hresult waitSeconds)
  · intro himp
    have hnone : ∀ waitSeconds, firstSuccess outcomes ≠ some waitSeconds :=
      fun waitSeconds hsome => hanswer waitSeconds (himp waitSeconds hsome)
    exact ⟨fun waitSeconds => iff_of_false (hresult waitSeconds) (hnone waitSeconds),
      fun _ _ => Option.eq_none_iff_forall_ne_some.mpr hnone⟩

theorem fallsBack_of_ends {result : Outcome String (Option Nat)} {outcomes : List UrlOutcome} {text : String}
    (h : Ends result (firstAnswer outcomes)) : FallsBack (result >>= .ofOption text) outcomes ↔
      ∀ waitSeconds, firstSuccess outcomes = some waitSeconds →
        firstAnswer outcomes = some (.succeeds waitSeconds) := by
  cases hanswer : firstAnswer outcomes with
  | none =>
      rw [hanswer] at h
      have h : result = .ok none := h
      subst h
      exact fallsBack_of_not_ok (fun _ => nofun) (fun _ => nofun)
  | some outcome =>
      rw [hanswer] at h
      cases outcome with
      | helloFails => exact absurd h id
      | succeeds waitSeconds =>
          have h : result = .ok (some waitSeconds) := h
          have hfirst := firstSuccess_of_firstAnswer hanswer
          subst h
          refine iff_of_true ⟨fun waitSeconds' => ?_, nofun⟩ fun waitSeconds' hsome => ?_
          · change Outcome.ok waitSeconds = Outcome.ok waitSeconds' ↔ _
            rw [hfirst, Option.some.injEq, Outcome.ok.injEq]
          · rw [hfirst, Option.some.injEq] at hsome
            rw [hsome]
      | ownerSignFails =>
          rcases h with ⟨_, rfl⟩
          exact fallsBack_of_not_ok (fun _ => nofun) (fun _ => nofun)
      | stops =>
          have h : result = .panic := h
          subst h
          exact fallsBack_of_not_ok (fun _ => nofun) (fun _ => nofun)

/-- The owner is registered where it can be exactly when the first server that answers
Hello is one that registers it, or no server does. -/
theorem reportOvToRendezvous_iff (hvoucher : r.checkVoucher = .ok ())
    {rvInfo : List RendezvousInterpretedDirective} (hrvInfo : r.rvInfo = .ok rvInfo)
    (reached : Nat → List Char → Reached) :
    FallsBack (r.reportOvToRendezvous reached) (r.outcomes reached 0 (rvInfo.flatMap (·.getUrls))) ↔
      ∀ waitSeconds, firstSuccess (r.outcomes reached 0 (rvInfo.flatMap (·.getUrls))) = some waitSeconds →
        firstAnswer (r.outcomes reached 0 (rvInfo.flatMap (·.getUrls))) = some (.succeeds waitSeconds) := by
  cases rvInfo with
  | nil =>
      have hreport : r.reportOvToRendezvous reached =
          .err "No rendezvous information found that's usable for the owner" := by
        simp [reportOvToRendezvous, hvoucher, hrvInfo, context, Outcome.check]
      rw [hreport]
      exact fallsBack_of_not_ok (fun _ h => by cases h) (fun _ h => by cases h)
  | cons rvDirective rvInfo =>
      have hreport : r.reportOvToRendezvous reached = r.tryDirectives reached 0 (rvDirective :: rvInfo) >>=
          .ofOption "Report to rendezvous not performed" := by
        simp only [reportOvToRendezvous, hvoucher, hrvInfo, context, Outcome.check, Outcome.ok_bind,
          Outcome.mapErr_ok, ne_eq, reduceCtorEq, not_false_eq_true, if_true]
      rw [hreport]
      exact fallsBack_of_ends (tryDirectives_ends reached 0 _)

end Report

end

/-! ## Two servers -/

namespace Report

open Reference VoucherChain RendezvousConfiguration

/-- Instructions are kept as their variable and the bytes of their value. -/
def readDirectives (info : List (List Bytes)) : RendezvousInfo :=
  info.map fun directive => directive.filterMap fun instruction =>
    match instruction with
    | [] => none
    | var :: value => rendezvousVariables[var.toNat]?.map fun var => (var, value)

/-- The servers `a` and `b`, over HTTP. -/
def sampleServers : List (List Bytes) := [[[5, 0x61, 0x61], [12, 0x01]], [[5, 0x61, 0x62], [12, 0x01]]]

def sampleReport : Outcome Error (Report (reference .release)) := do
  let chain ← OptionX5Chain.serializeData (some sampleChain)
  let chainHash ← Hash.fromData (reference .release) .sha256 chain
  let header ← OwnershipVoucherHeader.new .version1_1 ⟨List.replicate 16 7⟩ sampleServers "device" (sampleKey 1)
    (some chainHash)
  let ov ← OwnershipVoucher.new header ⟨.hmacSha256, digest .sha256 [0x5e]⟩ (some sampleChain)
  .ok ⟨ov, [[10, 0, 0, 1]], [1, 1], 3600, none, readDirectives, scalars, true⟩

/-- A server that answers Hello, and OwnerSign only if it accepts it. -/
def sampleServer (accepts : Bool) : Reached where
  server :=
    { State := Unit
      respond := fun state request =>
        match request.messageType with
        | .to0Hello => (state, some ⟨true, .present .to0HelloAck, none, false, some (0x81 :: 0x50 :: List.replicate 16 7)⟩)
        | _ =>
          (state, if accepts then some ⟨true, .present .to0AcceptOwner, none, false, some [0x81, 0x19, 0x0e, 0x10]⟩
            else none) }
  peer := ()

/-- Only the first server may refuse. -/
def sampleReached (accepts : Bool) (calls : Nat) (_ : List Char) : Reached :=
  if calls = 0 then sampleServer accepts else sampleServer true

/-- A report with its directives, whose servers do as expected. -/
def sampleRun (accepts : Bool) (expected : List UrlOutcome) :
    Outcome String (Report (reference .release) × List RendezvousInterpretedDirective) := do
  let r ← context "report" sampleReport
  r.checkVoucher
  let rvInfo ← context "directives" r.rvInfo
  Outcome.check (r.outcomes (sampleReached accepts) 0 (rvInfo.flatMap (·.getUrls)) = expected) "outcomes"
  .ok (r, rvInfo)

theorem sampleRun_eq_ok {accepts : Bool} {expected : List UrlOutcome} (h : (sampleRun accepts expected).isOk = true) :
    ∃ r rvInfo, sampleReport = .ok r ∧ r.checkVoucher = .ok () ∧ r.rvInfo = .ok rvInfo ∧
      r.outcomes (sampleReached accepts) 0 (rvInfo.flatMap (·.getUrls)) = expected := by
  rcases Outcome.isOk_iff.mp h with ⟨_, h⟩
  rcases Outcome.bind_eq_ok.mp h with ⟨r, hr, h⟩
  rcases Outcome.bind_eq_ok.mp h with ⟨_, hvoucher, h⟩
  rcases Outcome.bind_eq_ok.mp h with ⟨rvInfo, hrvInfo, h⟩
  rcases Outcome.bind_eq_ok.mp h with ⟨_, houtcomes, -⟩
  exact ⟨r, rvInfo, Outcome.mapErr_eq_ok.mp hr, hvoucher, Outcome.mapErr_eq_ok.mp hrvInfo,
    Outcome.check_eq_ok.mp houtcomes⟩

theorem sampleRun_accepted : (sampleRun true [.succeeds 3600, .succeeds 3600]).isOk = true := by decide +kernel

theorem sampleRun_refused : (sampleRun false [.ownerSignFails, .succeeds 3600]).isOk = true := by decide +kernel

theorem reportOvToRendezvous_accepted : ∃ r rvInfo, sampleReport = .ok r ∧ r.checkVoucher = .ok () ∧
    r.rvInfo = .ok rvInfo ∧ FallsBack (r.reportOvToRendezvous (sampleReached true))
      (r.outcomes (sampleReached true) 0 (rvInfo.flatMap (·.getUrls))) := by
  rcases sampleRun_eq_ok sampleRun_accepted with ⟨r, rvInfo, hr, hvoucher, hrvInfo, houtcomes⟩
  refine ⟨r, rvInfo, hr, hvoucher, hrvInfo, (reportOvToRendezvous_iff hvoucher hrvInfo _).mpr ?_⟩
  rw [houtcomes]
  intro waitSeconds hsome
  rw [← Option.some.inj hsome]
  rfl

/-- The second server would register the owner, and is never asked. -/
theorem refusing_server_hides_the_next : ∃ r rvInfo, sampleReport = .ok r ∧ r.checkVoucher = .ok () ∧
    r.rvInfo = .ok rvInfo ∧
    r.outcomes (sampleReached false) 0 (rvInfo.flatMap (·.getUrls)) = [.ownerSignFails, .succeeds 3600] ∧
    ¬ FallsBack (r.reportOvToRendezvous (sampleReached false))
      (r.outcomes (sampleReached false) 0 (rvInfo.flatMap (·.getUrls))) := by
  rcases sampleRun_eq_ok sampleRun_refused with ⟨r, rvInfo, hr, hvoucher, hrvInfo, houtcomes⟩
  refine ⟨r, rvInfo, hr, hvoucher, hrvInfo, houtcomes, fun hfalls => ?_⟩
  have hanswer := (reportOvToRendezvous_iff hvoucher hrvInfo _).mp hfalls 3600
  rw [houtcomes] at hanswer
  exact absurd (hanswer rfl) (by decide)

end Report

end FidoOnboard.OwnerServer
