import FidoOnboard.DataFormats.Eat
import FidoOnboard.DataFormats.RendezvousTypes
import FidoOnboard.DataFormats.VoucherChain
import FidoOnboard.HttpWrapper.Server

/-!
# `rendezvous-server/src/handlers_to0.rs` and `handlers_to1.rs`

An owner registers where its device finds it, and the device asks for that. The
two protocols share the session store and the store of registrations.
-/
namespace FidoOnboard.RendezvousServer
open Server VoucherChain

/-- The entries the handlers keep in a session. Guids and nonces are kept as text, which
reads back. -/
structure RendezvousSession where
  nonce3 : Option Nonce
  nonce4 : Option Nonce
  deviceGuid : Option Guid
  deriving DecidableEq, Repr, Inhabited

/-- The registrations, each with the seconds it was given to live. -/
structure RendezvousStore (P : Platform) where
  items : Guid → Option (StoredItem P)
  ttl : Guid → Option Nat

/-- The fields of `RendezvousUD` that are configuration, and whether the build has a key
derivation that interoperates, which every response tells. -/
structure RendezvousUD (P : Platform) where
  interoperableKdfAvailable : Bool
  maxWaitSeconds : Nat
  trustedManufacturerKeys : Option (X5Bag P)
  trustedDeviceKeys : Option (X5Bag P)

/-- What a handler draws, and which store operations fail on it. -/
structure Draws where
  nonce : Option Random16
  loadDataFails : Bool
  storeDataFails : Bool
  storeMetadataFails : Bool
  deriving DecidableEq

variable {P : Platform}

abbrev Info := RequestInformation RendezvousSession

def withData (info : Info) (f : RendezvousSession → RendezvousSession) : Info :=
  { info with session := { info.session with data := f info.session.data } }

def sequenceFailure (messageType : MessageType) : Rejection :=
  .error .invalidMessageError messageType "Request sequence failure"

/-! ## TO0 -/

def hello (draws : Draws) (info : Info) : Outcome Rejection (Nonce × Info) := do
  let nonce3 ← orInternal To0.hello (Nonce.new draws.nonce)
  .ok (nonce3, withData info fun data => { data with nonce3 := some nonce3 })

def invalidVoucher (text : String) : Rejection := .error .invalidOwnershipVoucher .to0OwnerSign text

/-- Without configured keys every manufacturer is trusted. -/
def manufacturerTrusted (ud : RendezvousUD P) (v : OwnershipVoucher P) : Outcome Error Bool :=
  match ud.trustedManufacturerKeys with
  | none => .ok true
  | some bag => bag.containsPublickey v.header.cachedManufacturerPublicKey

/-- Without configured keys every root is trusted. -/
def verifyDevice (ud : RendezvousUD P) (chain : X5Chain P) : Outcome Error P.X509 :=
  match ud.trustedDeviceKeys with
  | none => chain.insecureVerifyWithoutRootVerification
  | some bag => chain.verifyFromX5bag bag

/-- `ownersign` up to its store step: the guid, what is stored for it, and for how long. -/
def checkOwnersign (ud : RendezvousUD P) (session : Session RendezvousSession) (msg : OwnerSign P) :
    Outcome Rejection (Guid × StoredItem P × Nat) := do
  let correctNonce ← .ofOption (sequenceFailure .to0OwnerSign) session.data.nonce3
  let to0d ← orInternal To0.ownerSign msg.to0d
  let nonceMatches ← (correctNonce.eq to0d.nonce).unwrap
  Outcome.check (nonceMatches = true) (.error .invalidMessageError .to0OwnerSign "Invalid nonce3")
  let trusted ← (manufacturerTrusted ud to0d.ownershipVoucher).unwrap
  Outcome.check (trusted = true) (invalidVoucher "Ownership voucher manufacturer not trusted")
  let owner ← (lastPayload to0d.ownershipVoucher).mapErr fun _ => invalidVoucher "Invalid OV"
  let to1dPayload ← (msg.to1d.getPayload (TO1DataPayload.deserializeData P) owner.publicKey.pkey).mapErr
    fun _ => invalidVoucher "Invalid TO1D"
  let to0dHash ← orInternal To0.ownerSign (msg.to0dHash to1dPayload.to1dToTo0dHash.hashType)
  orInternal To0.ownerSign (to1dPayload.to1dToTo0dHash.compare to0dHash)
  let deviceCertChain ← .ofOption (invalidVoucher "No device certificate")
    to0d.ownershipVoucher.deviceCertificateChain
  let deviceCert ← (verifyDevice ud deviceCertChain).mapErr
    fun _ => invalidVoucher "Device certificate not trusted"
  let devicePubkey ← orInternal To0.ownerSign (PublicKey.ofX509 P deviceCert)
  let waitSeconds :=
    if to0d.waitSeconds > ud.maxWaitSeconds then ud.maxWaitSeconds else to0d.waitSeconds
  .ok (to0d.ownershipVoucher.header.cachedGuid, ⟨devicePubkey, msg.to1d⟩, waitSeconds)

/-- The item is stored before its time to live. What was stored for the device before goes with
the time to live it had; a store that does not replace it is one that fails. -/
def ownersign (ud : RendezvousUD P) (draws : Draws) (store : RendezvousStore P) (info : Info)
    (msg : OwnerSign P) : RendezvousStore P × Outcome Rejection (Nat × Info) :=
  match checkOwnersign ud info.session msg with
  | .err e => (store, .err e)
  | .panic => (store, .panic)
  | .ok (deviceGuid, item, waitSeconds) =>
    if draws.storeDataFails then (store, .err (.fromError To0.ownerSign))
    else
      let store : RendezvousStore P :=
        ⟨Function.update store.items deviceGuid (some item), Function.update store.ttl deviceGuid none⟩
      if draws.storeMetadataFails then (store, .err (.fromError To0.ownerSign))
      else
        ({ store with ttl := Function.update store.ttl deviceGuid (some waitSeconds) },
          .ok (waitSeconds, info))

/-! ## TO1 -/

def helloRv (draws : Draws) (store : RendezvousStore P) (info : Info) (msg : HelloRV) :
    Outcome Rejection (HelloRVAck × Info) := do
  let sigType := msg.aSignatureInfo.sigType
  Outcome.check (sigType = .stSECP256R1 ∨ sigType = .stSECP384R1)
    (.error .invalidMessageError .to1HelloRV "Unsupported signature scheme")
  Outcome.check (msg.aSignatureInfo.info = [])
    (.error .invalidMessageError .to1HelloRV "Unsupported signature info")
  Outcome.check (draws.loadDataFails = false) (.fromError To1.helloRV)
  let _ ← .ofOption (.error .resourceNotFound .to1HelloRV "Device GUID not found") (store.items msg.guid)
  let nonce4 ← orInternal To1.helloRV (Nonce.new draws.nonce)
  .ok (⟨nonce4, ⟨sigType, []⟩⟩,
    withData info fun data => { data with nonce4 := some nonce4, deviceGuid := some msg.guid })

/-- A missing nonce is reported under the type of OwnerSign. -/
def proveToRv (draws : Draws) (store : RendezvousStore P) (info : Info) (token : COSESign P) :
    Outcome Rejection (COSESign P × Info) := do
  let nonce4 ← .ofOption (sequenceFailure .to0OwnerSign) info.session.data.nonce4
  let deviceGuid ← .ofOption (sequenceFailure .to1ProveToRV) info.session.data.deviceGuid
  Outcome.check (draws.loadDataFails = false) (sequenceFailure .to1ProveToRV)
  let item ← .ofOption (.error .resourceNotFound .to1ProveToRV "Device not found") (store.items deviceGuid)
  let deviceEat ← (token.getEat item.publicKey.pkey).mapErr
    fun _ => .error .invalidMessageError .to1ProveToRV "Token invalid"
  let nonceMatches ← (nonce4.eq deviceEat.nonce).unwrap
  Outcome.check (nonceMatches = true) (.error .invalidMessageError .to1ProveToRV "Nonce invalid")
  .ok (item.to1d, info)

/-! ## The routes -/

abbrev RendezvousHandler (P : Platform) := Handler (RendezvousStore P) RendezvousSession

def handlerTo0Hello (P : Platform) (draws : Draws) : RendezvousHandler P where
  im := To0.hello
  om := To0.helloAck
  Body := Unit
  Reply := Nonce
  decode := P.hello.deserializeData
  encode nonce3 := P.oneNonce.serializeData nonce3.value
  run store info _ := (store, hello draws info)

def handlerTo0Ownersign (ud : RendezvousUD P) (draws : Draws) : RendezvousHandler P where
  im := To0.ownerSign
  om := To0.acceptOwner
  Body := OwnerSign P
  Reply := Nat
  decode := OwnerSign.deserializeData P
  encode := P.acceptOwner.serializeData
  run := ownersign ud draws

def handlerTo1HelloRv (P : Platform) (draws : Draws) : RendezvousHandler P where
  im := To1.helloRV
  om := To1.helloRVAck
  Body := HelloRV
  Reply := HelloRVAck
  decode := HelloRV.deserializeData P
  encode := HelloRVAck.serializeData P
  run store info msg := (store, helloRv draws store info msg)

def handlerTo1ProveToRv (P : Platform) (draws : Draws) : RendezvousHandler P where
  im := To1.proveToRV
  om := To1.rvRedirect
  Body := COSESign P
  Reply := COSESign P
  decode := COSESign.deserializeData P
  encode := COSESign.serializeData
  run store info token := (store, proveToRv draws store info token)

def routes (ud : RendezvousUD P) (draws : Draws) : MessageType → Option (RendezvousHandler P)
  | .to0Hello => some (handlerTo0Hello P draws)
  | .to0OwnerSign => some (handlerTo0Ownersign ud draws)
  | .to1HelloRV => some (handlerTo1HelloRv P draws)
  | .to1ProveToRV => some (handlerTo1ProveToRv P draws)
  | _ => none

/-! ## What the handlers establish -/

theorem hello_ok {draws : Draws} {info info' : Info} {nonce3 : Nonce}
    (h : hello draws info = .ok (nonce3, info')) :
    ∃ draw : Random16, draws.nonce = some draw ∧ nonce3 = ⟨draw.val⟩ ∧
      info' = withData info fun data => { data with nonce3 := some ⟨draw.val⟩ } := by
  obtain ⟨nonce, hnonce, h₁⟩ := Outcome.bind_eq_ok.mp h
  obtain ⟨draw, hdraw, rfl⟩ := Nonce.new_eq_ok (orInternal_eq_ok.mp hnonce)
  obtain ⟨rfl, rfl⟩ := Prod.mk.inj (Outcome.ok.inj h₁)
  exact ⟨draw, hdraw, rfl, rfl⟩

/-- `ownersign` that succeeds has passed its checks and has stored the item. -/
theorem ownersign_ok {ud : RendezvousUD P} {draws : Draws} {store : RendezvousStore P}
    {info info' : Info} {msg : OwnerSign P} {wait : Nat}
    (h : (ownersign ud draws store info msg).2 = .ok (wait, info')) :
    info' = info ∧ ∃ guid item, checkOwnersign ud info.session msg = .ok (guid, item, wait) ∧
      (ownersign ud draws store info msg).1.items = Function.update store.items guid (some item) := by
  unfold ownersign at h ⊢
  cases hcheck : checkOwnersign ud info.session msg with
  | err e => simp [hcheck] at h
  | panic => simp [hcheck] at h
  | ok found =>
      obtain ⟨guid, item, seconds⟩ := found
      simp only [hcheck] at h ⊢
      cases hdata : draws.storeDataFails with
      | true => simp [hdata] at h
      | false =>
          cases hmeta : draws.storeMetadataFails with
          | true => simp [hdata, hmeta] at h
          | false =>
              simp only [hdata, hmeta, Bool.false_eq_true, if_false, Outcome.ok.injEq,
                Prod.mk.injEq] at h
              obtain ⟨rfl, rfl⟩ := h
              exact ⟨rfl, guid, item, rfl, by simp⟩

/-- When the metadata can be written, only success changes the registrations. -/
theorem ownersign_changed {ud : RendezvousUD P} {draws : Draws} {store : RendezvousStore P}
    {info : Info} {msg : OwnerSign P} (hmeta : draws.storeMetadataFails = false)
    (h : (ownersign ud draws store info msg).1.items ≠ store.items) :
    ∃ wait, (ownersign ud draws store info msg).2 = .ok (wait, info) := by
  unfold ownersign at h ⊢
  cases hcheck : checkOwnersign ud info.session msg with
  | err e => exact absurd (by simp [hcheck]) h
  | panic => exact absurd (by simp [hcheck]) h
  | ok found =>
      obtain ⟨guid, item, seconds⟩ := found
      cases hdata : draws.storeDataFails with
      | true => exact absurd (by simp [hcheck, hdata]) h
      | false => exact ⟨seconds, by simp [hmeta]⟩

theorem helloRv_ok {draws : Draws} {store : RendezvousStore P} {info info' : Info} {msg : HelloRV}
    {res : HelloRVAck} (h : helloRv draws store info msg = .ok (res, info')) :
    ∃ draw : Random16, draws.nonce = some draw ∧ res.nonce4 = ⟨draw.val⟩ ∧
      info' = withData info fun data =>
        { data with nonce4 := some ⟨draw.val⟩, deviceGuid := some msg.guid } := by
  obtain ⟨_, _, h₁⟩ := Outcome.bind_eq_ok.mp h
  obtain ⟨_, _, h₂⟩ := Outcome.bind_eq_ok.mp h₁
  obtain ⟨_, _, h₃⟩ := Outcome.bind_eq_ok.mp h₂
  obtain ⟨_, _, h₄⟩ := Outcome.bind_eq_ok.mp h₃
  obtain ⟨nonce, hnonce, h₅⟩ := Outcome.bind_eq_ok.mp h₄
  obtain ⟨draw, hdraw, rfl⟩ := Nonce.new_eq_ok (orInternal_eq_ok.mp hnonce)
  obtain ⟨rfl, rfl⟩ := Prod.mk.inj (Outcome.ok.inj h₅)
  exact ⟨draw, hdraw, rfl, rfl⟩

/-- The token proves the device of the session: it is signed with the key stored for it,
and carries the nonce of the session. -/
structure Proof (P : Platform) (store : RendezvousStore P) (ses : Session RendezvousSession)
    (token : COSESign P) (guid : Guid) (nonce4 : Nonce) (item : StoredItem P) : Prop where
  sessionGuid : ses.data.deviceGuid = some guid
  sessionNonce : ses.data.nonce4 = some nonce4
  found : store.items guid = some item
  signed : ∃ eat, token.getEat item.publicKey.pkey = .ok eat ∧ eat.nonce = nonce4

theorem proveToRv_ok {draws : Draws} {store : RendezvousStore P} {info info' : Info}
    {token res : COSESign P} (h : proveToRv draws store info token = .ok (res, info')) :
    info' = info ∧ ∃ guid nonce4 item, Proof P store info.session token guid nonce4 item ∧
      res = item.to1d := by
  obtain ⟨nonce4, hnonce, h₁⟩ := Outcome.bind_eq_ok.mp h
  obtain ⟨guid, hguid, h₂⟩ := Outcome.bind_eq_ok.mp h₁
  obtain ⟨_, _, h₃⟩ := Outcome.bind_eq_ok.mp h₂
  obtain ⟨item, hitem, h₄⟩ := Outcome.bind_eq_ok.mp h₃
  obtain ⟨eat, heat, h₅⟩ := Outcome.bind_eq_ok.mp h₄
  obtain ⟨same, hsame, h₆⟩ := Outcome.bind_eq_ok.mp h₅
  obtain ⟨_, htrue, h₇⟩ := Outcome.bind_eq_ok.mp h₆
  obtain rfl : same = true := Outcome.check_eq_ok.mp htrue
  obtain rfl : nonce4 = eat.nonce := Nonce.eq_ok_true (Outcome.unwrap_eq_ok.mp hsame)
  obtain ⟨rfl, rfl⟩ := Prod.mk.inj (Outcome.ok.inj h₇)
  rw [Outcome.ofOption_eq_ok] at hnonce hguid hitem
  exact ⟨rfl, guid, eat.nonce, item, ⟨hguid, hnonce, hitem, eat, Outcome.mapErr_eq_ok.mp heat, rfl⟩, rfl⟩

end FidoOnboard.RendezvousServer
