import FidoOnboard.Client.Retry
import FidoOnboard.Protocol.Authentication

/-!
# From the first message to the mark on the voucher

A device that has authenticated its owner takes the service info, deactivates its
credential and reports back; the owner then has it on file as onboarded.
-/
namespace FidoOnboard.Authentication
open Server OwnerServer Client Shared VoucherTransfer

variable {P : Platform} {ud : OwnerServiceUD P} {turns : Nat → Turn (Draws P) (OwnerStores P)} {first : Nat}
  {available : Bool} {guid : Guid} {v : OwnershipVoucher P} {c : ServiceClient (peer (service ud) turns)}
  {id : String} {nonce6 nonce7 : Nonce} {keys : EncryptionKeys} {last : MessageType} {loops : Option Nat}

/-! ## Service info -/

/-- One round under the keys of the session. -/
theorem InSession.serviceInfo (laws : To2Laws P) (ha : Attended turns first id guid v) (hkeys : Encrypts P keys)
    (hs : InSession first available guid v c id (proven id guid nonce6 nonce7 keys last loops))
    (hlast : To2.deviceServiceInfo.isValidPreviousMessage (some last) = true)
    (hloops : loops.getD 0 ≤ OwnerServer.maxServiceInfoLoops) {info : ServiceInfo}
    (hinfo : Sendable P.deviceServiceInfo (false, info) (contentLengthLimit - 2 ^ 7)) {reply : Bool × Bool × ServiceInfo}
    (hserved : performServiceInfo (turn c).draws guid info (loops.getD 0) = .ok reply) {bound : Nat}
    (hreply : Sendable P.ownerServiceInfo reply bound) : ∃ c',
      c.sendRequest P To2.deviceServiceInfo To2.ownerServiceInfo (P.deviceServiceInfo.serializeData (false, info))
        P.ownerServiceInfo.deserializeData none = .ok (reply, c') ∧
      InSession first available guid v c' id
        (proven id guid nonce6 nonce7 keys .to2OwnerServiceInfo (some (loops.getD 0 + 1))) := by
  obtain ⟨data, hdata, hlen, hread⟩ := hinfo
  obtain ⟨val, hval, _, hback⟩ := hreply
  have hfits : data.length + 2 ^ 7 ≤ contentLengthLimit := by
    simp only [contentLengthLimit] at hlen ⊢
    omega
  have hrun : ∀ reqHash, deviceServiceInfo (turn c).draws
      ⟨proven id guid nonce6 nonce7 keys last loops, none, reqHash, !c.interoperableKdfAvailable⟩ (false, info) =
        .ok (reply, ⟨proven id guid nonce6 nonce7 keys last (some (loops.getD 0 + 1)), none, reqHash,
          !c.interoperableKdfAvailable⟩) := by
    intro reqHash
    simp only [deviceServiceInfo, proven, require, Outcome.ofOption, Outcome.ok_bind, hloops, Outcome.check, if_true,
      hserved, Outcome.mapErr_ok, withData]
  obtain ⟨c', hsend, _, hnext⟩ := hs.secured laws ha hkeys
    (proven id guid nonce6 nonce7 keys last (some (loops.getD 0 + 1))) ⟨rfl, rfl⟩ To2.deviceServiceInfo
    To2.ownerServiceInfo (handlerDeviceServiceInfo (turn c).draws) reply rfl ⟨rfl, rfl, rfl⟩ hlast ⟨rfl, rfl⟩ hfits
    (Codec.deserializeData_eq_ok.mpr hread)
    (fun reqHash => congrArg (Prod.mk (Shared.found c).userData) (hrun reqHash))
    (Codec.serializeData_eq_ok.mpr hval) (Codec.deserializeData_eq_ok.mpr hback) (hs.found ha)
  rw [Codec.serializeData_eq_ok.mpr hdata]
  exact ⟨c', hsend, hnext⟩

section Device

variable {M : Machine} {V : ServiceInfoValues P} {tools : DeviceTools P} {draws : DeviceDraws} {machine : M.State}
  {p : Progress M} {reboot : Bool}

/-- What the owner has for the device, whichever turn it is asked in: the device takes all of it, and both
messages about it fit into a request. -/
structure Provisioned (V : ServiceInfoValues P) (tools : DeviceTools P) (draws : DeviceDraws) (guid : Guid)
    (machine : M.State) (p : Progress M) (reboot : Bool) (served : Draws P) : Prop where
  taken : ∃ outSi reply bound, firstServiceInfo tools draws = .ok outSi ∧
    Sendable P.deviceServiceInfo (false, outSi) (contentLengthLimit - 2 ^ 7) ∧
    performServiceInfo served guid outSi 0 = .ok (false, false, reply) ∧
    Sendable P.ownerServiceInfo (false, false, reply) bound ∧
    processServiceinfoIn V draws.binaryfilePathPrefix machine reply [] = (p, .ok reboot)
  reported : Sendable P.deviceServiceInfo (false, p.siOut) (contentLengthLimit - 2 ^ 7)
  ended : ∃ bound, Sendable P.ownerServiceInfo (false, true, []) bound

/-- Two rounds: everything comes in the first, and the second says that it was all. -/
theorem InSession.serviceInfos (laws : To2Laws P) (ha : Attended turns first id guid v) (hkeys : Encrypts P keys)
    (hs : InSession first available guid v c id (proven id guid nonce6 nonce7 keys .to2OwnerServiceInfoReady none))
    (hprovisioned : Provisioned V tools draws guid machine p reboot (turn c).draws) : ∃ c',
      performTo2Serviceinfos V tools draws machine c = (p.machine, .ok (reboot, c')) ∧
      InSession first available guid v c' id (proven id guid nonce6 nonce7 keys .to2OwnerServiceInfo (some 2)) := by
  obtain ⟨outSi, reply, bound, hfirst, hout, hserved, hreply, hprocess⟩ := hprovisioned.taken
  obtain ⟨bound', hended⟩ := hprovisioned.ended
  obtain ⟨c₁, hsend₁, hs₁⟩ := hs.serviceInfo laws ha hkeys rfl (Nat.zero_le _) hout hserved hreply
  obtain ⟨c', hsend', hs'⟩ := hs₁.serviceInfo laws ha hkeys rfl (by decide) hprovisioned.reported rfl hended
  have hloop : ∀ remaining, serviceinfoLoop V draws.binaryfilePathPrefix (remaining + 2) false outSi machine c =
      (p.machine, .ok (reboot, c')) := by
    intro remaining
    simp only [serviceinfoLoop, hsend₁, hprocess, hsend', Bool.false_eq_true, if_false, if_true, Bool.false_or]
  refine ⟨c', ?_, hs'⟩
  simp only [performTo2Serviceinfos, hfirst]
  exact hloop 998

/-! ## The end -/

/-- Done marks the voucher, and its answer carries the nonce of the device. -/
theorem InSession.done (laws : To2Laws P) (ha : Attended turns first id guid v) (hkeys : Encrypts P keys)
    (hs : InSession first available guid v c id (proven id guid nonce6 nonce7 keys .to2OwnerServiceInfo loops))
    (hnonce6 : nonce6.value.length = 16) (hnonce7 : nonce7.value.length = 16) : ∃ c',
      c.sendRequest P To2.done To2.done2 (P.oneNonce.serializeData nonce6.value) (OwnerServer.oneNonce P) none =
        .ok (nonce7, c') ∧ c'.peer.2.userData.to2Performed guid = true := by
  obtain ⟨data, hdata, hlen, hread⟩ := laws.oneNonce nonce6.value hnonce6
  obtain ⟨val, hval, _, hback⟩ := laws.oneNonce nonce7.value hnonce7
  have hfits : data.length + 2 ^ 7 ≤ contentLengthLimit :=
    Nat.le_trans (Nat.add_le_add_right hlen _) (by decide)
  have honce : ∀ {bytes : Bytes} {nonce : Nonce}, P.oneNonce.fromSlice bytes = some nonce.value →
      nonce.value.length = 16 → OwnerServer.oneNonce P bytes = .ok nonce := by
    intro bytes nonce hslice hsixteen
    simp only [OwnerServer.oneNonce, Codec.deserializeData_eq_ok.mpr hslice, Outcome.ok_bind, checkBstr16, hsixteen,
      Outcome.check, if_true, Outcome.mapErr_ok]
  have hsame : (nonce6.eq nonce6).unwrap = (.ok true : Outcome Rejection Bool) :=
    Outcome.unwrap_eq_ok.mpr (memcmpEq_eq_true.mpr rfl)
  have hcheck : ∀ reqHash, checkDone ⟨proven id guid nonce6 nonce7 keys .to2OwnerServiceInfo loops, none, reqHash,
      !c.interoperableKdfAvailable⟩ nonce6 = .ok (guid, nonce7) := by
    intro reqHash
    simp only [checkDone, proven, require, Outcome.ofOption, Outcome.ok_bind, hsame, Outcome.check, if_true]
  have hmarks := (ha.draws c.peer.1 (Nat.le_of_lt hs.later)).marks
  have hrun : ∀ reqHash, OwnerServer.done (turn c).draws (Shared.found c).userData
      ⟨proven id guid nonce6 nonce7 keys .to2OwnerServiceInfo loops, none, reqHash, !c.interoperableKdfAvailable⟩
      nonce6 = ({ (Shared.found c).userData with
          to2Performed := Function.update (Shared.found c).userData.to2Performed guid true },
        .ok (nonce7, withData ⟨proven id guid nonce6 nonce7 keys .to2OwnerServiceInfo loops, none, reqHash,
          !c.interoperableKdfAvailable⟩ fun data => { data with nonce7 := none })) := by
    intro reqHash
    have hturn : (turn c).draws.storeMetadataFails = false := hmarks
    simp only [OwnerServer.done, hcheck reqHash, hturn, Bool.false_eq_true, if_false]
  obtain ⟨c', hsend, hstores, _⟩ := hs.secured laws ha hkeys
    { proven id guid nonce6 nonce7 keys .to2OwnerServiceInfo loops with
      data := ⟨some guid, some nonce6, none, none, none, some true, loops⟩ } ⟨rfl, rfl⟩ To2.done To2.done2
    (handlerDone (turn c).draws) nonce7 rfl ⟨rfl, rfl, rfl⟩ rfl ⟨rfl, rfl⟩ hfits (honce hread hnonce6) hrun
    (Codec.serializeData_eq_ok.mpr hval) (honce hback hnonce7) (hs.found ha)
  refine ⟨c', ?_, ?_⟩
  · rw [Codec.serializeData_eq_ok.mpr hdata]
    exact hsend
  · rw [hstores]
    exact Function.update_self ..

/-- The files of the device can be written. -/
structure Storable (F : DeviceFiles M) (s : M.State) : Prop where
  laws : F.Laws
  codec : F.codec.Faithful
  marks : (F.writeMarker s).2 = true
  deactivates : (deactivate F (F.writeMarker s).1).2 = .ok ()

/-- The device leaves its marker and deactivates its credential, when Done is answered. -/
theorem Storable.finish {server : Peer} {F : DeviceFiles M} {s : M.State} (hf : Storable F s) {n : Negotiated server}
    (hanswered : Answered P n) : ∃ s', finish P F n s = (s', .ok n.rebootRequired) ∧ F.marker s' = true ∧
      Deactivated F s s' := by
  obtain ⟨client, hsend⟩ := hanswered
  have hsame : (n.nonce7.eq n.nonce7).unwrap = (.ok true : Outcome ClientError Bool) :=
    Outcome.unwrap_eq_ok.mpr (memcmpEq_eq_true.mpr rfl)
  have hdone : performDone P n.nonce7 n.nonce6 n.client = .ok () := by
    simp only [performDone, hsend, orResponse, Outcome.mapErr_ok, Outcome.ok_bind, hsame, Outcome.check, if_true]
  have hmarked := hf.laws.writeMarker_marker s hf.marks
  have hkept := hf.laws.writeMarker_credential s
  have hmarks := hf.marks
  have hdeactivates := hf.deactivates
  rcases hmark : F.writeMarker s with ⟨s₁, written⟩
  rw [hmark] at hmarked hkept hmarks hdeactivates
  subst hmarks
  have hdeactivated := deactivate_ok hf.laws hf.codec hdeactivates
  have hmarker := deactivate_marker hf.laws s₁
  rcases hdeactivate : deactivate F s₁ with ⟨s', outcome⟩
  rw [hdeactivate] at hdeactivates hdeactivated hmarker
  subst hdeactivates
  refine ⟨s', ?_, hmarker.trans hmarked, hdeactivated.before hkept⟩
  simp only [Client.finish, hmark, hdeactivate, hdone]

/-- A device at its owner's server gets through: it takes the service info, has its marker and its credential
deactivated, and is on file with the owner as onboarded. -/
theorem device_onboards {generated : KexSuite → Bytes → Prop} (laws : To2Laws P) (kexLaws : KexLaws P generated)
    {client : ServiceClient (peer (service ud) turns)} {devcred : DeviceCredential} {signKey : P.PrivateKey}
    {devKey : P.PKey} {key : PublicKey P} {header : Bytes} {nonce5 : Nonce} {kexA kexB : KeyExchange}
    {to1d : COSESign P} {F : DeviceFiles M} (harrives : Arrives client generated id devcred.guid v nonce6 kexA)
    (ha : Attended turns client.peer.1 id devcred.guid v) (howner : OwnerKeys ud key.pkey)
    (hb : Belongs devcred v header key) (hp : Prover tools devcred signKey devKey)
    (hdevice : devicePublicKey v = .ok devKey) (he : Equipped draws generated nonce5 nonce7 kexB)
    (hto1d : P.verifySignature to1d.cachedInner key.pkey = some true)
    (hprovisioned : ∀ k, client.peer.1 < k →
      Provisioned V tools draws devcred.guid machine p reboot (turns k).draws)
    (hf : Storable F p.machine) : ∃ n s' c',
      negotiate V tools draws devcred to1d client machine = (p.machine, .ok n) ∧
      performTo2 V tools F draws devcred to1d client machine = (s', .ok reboot) ∧
      F.marker s' = true ∧ Deactivated F p.machine s' ∧
      n.client.sendRequest P To2.done To2.done2 (P.oneNonce.serializeData n.nonce6.value) (OwnerServer.oneNonce P)
        none = .ok (n.nonce7, c') ∧ c'.peer.2.userData.to2Performed devcred.guid = true := by
  obtain ⟨keys, c₁, hauthenticate, hkeys, hs₁⟩ :=
    device_authenticates laws kexLaws harrives ha howner hb hp hdevice he hto1d
  obtain ⟨c₂, hinfos, hs₂⟩ := hs₁.serviceInfos laws ha hkeys (hprovisioned c₁.peer.1 hs₁.later)
  have hnonce6 : nonce6.value.length = 16 := by
    obtain ⟨draw, _, rfl⟩ := harrives.nonce
    exact draw.property
  have hnonce7 : nonce7.value.length = 16 := by
    obtain ⟨draw, _, rfl⟩ := he.nonce7
    exact draw.property
  obtain ⟨c', hdone, hmarked⟩ := hs₂.done laws ha hkeys hnonce6 hnonce7
  have hnegotiate : negotiate V tools draws devcred to1d client machine =
      (p.machine, .ok ⟨nonce6, nonce7, reboot, c₂⟩) := by
    simp only [negotiate, hauthenticate, hinfos]
  obtain ⟨s', hfinish, hmarker, hdeactivated⟩ :=
    hf.finish (P := P) (n := ⟨nonce6, nonce7, reboot, c₂⟩) ⟨c', hdone⟩
  refine ⟨⟨nonce6, nonce7, reboot, c₂⟩, s', c', hnegotiate, ?_, hmarker, hdeactivated, hdone, hmarked⟩
  simp only [performTo2, hnegotiate, hfinish]

end Device

/-! ## The sample device goes through -/

open Reference VoucherChain

/-- The value is written and comes back, computed. -/
def sends {α : Type} [DecidableEq α] (c : Codec α) (value : α) (bound : Nat) : Bool :=
  (c.intoWriter value).any fun data => data.length ≤ bound && c.fromSlice data = some value

theorem sends_iff {α : Type} [DecidableEq α] {c : Codec α} {value : α} {bound : Nat} :
    sends c value bound = true ↔ Sendable c value bound := by
  simp [sends, Sendable, Option.any_eq_true]

instance {α : Type} [DecidableEq α] (c : Codec α) (value : α) (bound : Nat) : Decidable (Sendable c value bound) :=
  decidable_of_iff _ sends_iff

/-- The two rounds of the service info, computed. -/
def sampleRounds : Outcome Error (Progress sampleMachine) := do
  let outSi ← firstServiceInfo sampleTools sampleDeviceDraws
  let (more, isDone, reply) ← performServiceInfo (OwnerServer.sampleDraws 0) ⟨List.replicate 16 7⟩ outSi 0
  Outcome.check (more = false ∧ isDone = false) Error.cose
  Outcome.check (Sendable (reference .release).deviceServiceInfo (false, outSi) (contentLengthLimit - 2 ^ 7) ∧
    Sendable (reference .release).ownerServiceInfo (false, false, reply) contentLengthLimit) Error.cose
  match processServiceinfoIn (M := sampleMachine) sampleValues none (false, some [1]) reply [] with
  | (p, .ok false) => do
    let machine : Bool × Option Bytes ← .ok p.machine
    Outcome.check (Sendable (reference .release).deviceServiceInfo (false, p.siOut) (contentLengthLimit - 2 ^ 7) ∧
      machine = (false, some [1])) Error.cose
    .ok p
  | _ => .err .cose

theorem sampleRounds_provisioned : ∃ p : Progress sampleMachine, p.machine = (false, some [1]) ∧
    ∀ k, Provisioned sampleValues sampleTools sampleDeviceDraws ⟨List.replicate 16 7⟩ (false, some [1]) p false
      (sampleTurns k).draws := by
  have hrun : sampleRounds.isOk = true := by decide +kernel
  obtain ⟨p, h⟩ := Outcome.isOk_iff.mp hrun
  obtain ⟨outSi, hfirst, h₁⟩ := Outcome.bind_eq_ok.mp h
  obtain ⟨⟨more, isDone, reply⟩, hserved, h₂⟩ := Outcome.bind_eq_ok.mp h₁
  obtain ⟨_, hone, h₃⟩ := Outcome.bind_eq_ok.mp h₂
  obtain ⟨_, hsendable, h₄⟩ := Outcome.bind_eq_ok.mp h₃
  obtain ⟨rfl, rfl⟩ := Outcome.check_eq_ok.mp hone
  obtain ⟨hout, hreply⟩ := Outcome.check_eq_ok.mp hsendable
  split at h₄
  next p' hprocess =>
    obtain ⟨machine, hmachine, h₅⟩ := Outcome.bind_eq_ok.mp h₄
    obtain ⟨_, hcheck, h₆⟩ := Outcome.bind_eq_ok.mp h₅
    obtain ⟨hreported, hkept⟩ := Outcome.check_eq_ok.mp hcheck
    refine ⟨p', (Outcome.ok.inj hmachine).trans hkept, fun k => ?_⟩
    exact
      { taken := ⟨outSi, reply, contentLengthLimit, hfirst, hout, hserved, hreply, hprocess⟩
        reported := hreported
        ended := ⟨contentLengthLimit, by decide⟩ }
  next => cases h₄

theorem device_onboards_sample : ∃ (v : OwnershipVoucher (reference .release)) (devcred : DeviceCredential)
    (to1d : COSESign (reference .release)) (s' : sampleMachine.State),
    performTo2 sampleValues sampleTools sampleDeviceFiles sampleDeviceDraws devcred to1d (sampleOwner v)
      (false, some [1]) = (s', .ok false) ∧ sampleDeviceFiles.marker s' = true := by
  obtain ⟨v, devcred, header, key, howned⟩ := sampleOwned
  obtain ⟨p, hmachine, hprovisioned⟩ := sampleRounds_provisioned
  obtain ⟨to1d, _, _, _, _, _, _, hto1d, _⟩ := Redirection.new_signed (signsFor .release [3, 1])
    (by decide : ([0x80] : Bytes).length ≤ 2 ^ 62)
  have hguid := howned.guid
  have hstorable : Storable sampleDeviceFiles p.machine := by
    rw [hmachine]
    exact ⟨sampleDeviceFiles_laws, sampleDeviceFiles_codec, rfl, rfl⟩
  have hkey : key.pkey = [3, 1] := howned.ownerKey
  have harrives : Arrives (sampleOwner v) (fun _ _ => True) "a" devcred.guid v ⟨List.replicate 16 0⟩
      (.ecdh .ecdh384 [0] (List.replicate 48 0)) := by
    rw [hguid]
    exact sampleOwner_arrives v
  have hattended : Attended sampleTurns (sampleOwner v).peer.1 "a" devcred.guid v := by
    rw [hguid]
    exact sampleTurns_attended v
  have howner : OwnerKeys sampleUd key.pkey := by
    rw [hkey]
    exact sampleOwnerKeys
  have hprover : Prover sampleTools devcred [9, 9] [9, 9] := sampleProver (by rw [hguid]; rfl) howned.signer
  have hverified : (reference .release).verifySignature to1d.cachedInner key.pkey = some true := by
    rw [hkey]
    exact hto1d
  have hserved : ∀ k, (sampleOwner v).peer.1 < k → Provisioned sampleValues sampleTools sampleDeviceDraws
      devcred.guid (false, some [1]) p false (sampleTurns k).draws := by
    intro k _
    rw [hguid]
    exact hprovisioned k
  obtain ⟨n, s', c', _, hperformed, hmarker, _⟩ := device_onboards to2Laws (kexLaws .release) harrives hattended
    howner howned.belongs hprover howned.deviceKey sampleEquipped hverified hserved hstorable
  exact ⟨v, devcred, to1d, s', hperformed, hmarker⟩

end FidoOnboard.Authentication
