import FidoOnboard.DataFormats.VoucherChain
import FidoOnboard.OwnerServer.Sessions

/-!
# The TO2 session invariant

Every session a run has stored is in one of its two phases, keeps what it was
given, and is marked as onboarded only after its own device has proven itself.
-/
namespace FidoOnboard.OwnerServer
open Server

variable {P : Platform} {ud : OwnerServiceUD P}

abbrev OwnerState (P : Platform) := State (OwnerStores P) OwnerSession

abbrev OwnerInput (P : Platform) := Input (Draws P) (OwnerStores P)

abbrev OwnerPast (P : Platform) := Service.Past (OwnerStores P) OwnerSession (Draws P)

abbrev Acceptance (ud : OwnerServiceUD P) := (service ud).Acceptance

variable {past : OwnerPast P} {s : OwnerState P} {input : OwnerInput P}

theorem runs_phase (run : (service ud).Runs past s) {id : String} {ses : Session OwnerSession}
    (hses : s.sessions id = some ses) : Opening ses ∨ Secured ses := by
  revert hses
  apply Service.Runs.sessions_induct (I := fun _ ses => Opening ses ∨ Secured ses) _ _ _ run
  · exact fun _ _ _ h => h
  · intro past s input run ok a hnew _
    obtain ⟨_, _, ht⟩ := acceptance_transition a
    rw [hnew] at ht
    exact .inl ht.of_new.1
  · intro past s input run ok a _ hbefore
    obtain ⟨_, _, ht⟩ := acceptance_transition a
    exact ht.phase hbefore

theorem acceptance_kept (run : (service ud).Runs past s) (a : Acceptance ud s input)
    (hstored : s.sessions a.id = some a.before) : Kept a.before a.after := by
  obtain ⟨_, _, ht⟩ := acceptance_transition a
  exact ht.kept (runs_phase run hstored)

theorem runs_kept (run : (service ud).Runs past s) : ∀ m ∈ past, ∀ {id ses ses'},
    m.1.sessions id = some ses → s.sessions id = some ses' → Kept ses ses' :=
  Service.Runs.kept Kept.refl Kept.trans (fun run _ a h => acceptance_kept run a h) run

/-- An accepted ProveDevice is about a stored session in its opening phase. -/
theorem proveDevice_before (run : (service ud).Runs past s) (ok : (service ud).Allowed past s input)
    (a : Acceptance ud s input) (hprove : a.req.messageType = .to2ProveDevice) :
    s.sessions a.id = some a.before ∧ Opening a.before := by
  obtain ⟨_, _, ht⟩ := acceptance_transition a
  rw [hprove] at ht
  obtain ⟨hlast, _⟩ := ht.of_proveDevice
  rcases run.origin ok a with hstored | ⟨hnew, _⟩
  · refine ⟨hstored, ?_⟩
    rcases runs_phase run hstored with hb | hb
    · exact hb
    · exact absurd hlast (hb.last_ne (by decide))
  · rw [hnew] at hlast
    cases hlast

/-- After an accepted ProveDevice its session stays proven. -/
theorem runs_proven_after (run : (service ud).Runs past s) : ∀ m ∈ past,
    ∀ a : Acceptance ud m.1 m.2, a.req.messageType = .to2ProveDevice →
      ∀ {ses}, s.sessions a.id = some ses → ses.data.provenDevice.isSome = true := by
  intro m hm a hprove ses hses
  obtain ⟨_, _, ht⟩ := acceptance_transition a
  rw [hprove] at ht
  have hkept : Kept a.after ses := Service.Runs.kept_after Kept.refl Kept.trans
    (fun run _ a h => acceptance_kept run a h) run m hm a hses
  apply hkept.proven
  rw [ht.of_proveDevice.2.1.2.2]
  rfl

/-- The id and the nonce of a stored session were drawn together. -/
theorem runs_issued (run : (service ud).Runs past s) {id : String} {ses : Session OwnerSession}
    (hses : s.sessions id = some ses) : ∃ m ∈ past, m.2.sessionId P = some id ∧
      ∃ n : Nonce, ses.data.nonce6 = some n ∧ (service ud).drawnNonce m.2 = some n.value := by
  rw [← (run.stored hses).1]
  revert hses
  apply Service.Runs.sessions_induct (I := fun past ses => ∃ m ∈ past, m.2.sessionId P = some ses.id ∧
    ∃ n : Nonce, ses.data.nonce6 = some n ∧ (service ud).drawnNonce m.2 = some n.value) _ _ _ run
  · rintro m past ses ⟨m', hm', hdrawn⟩
    exact ⟨m', List.mem_cons_of_mem _ hm', hdrawn⟩
  · intro past s input run ok a hnew hdrawn
    obtain ⟨_, _, ht⟩ := acceptance_transition a
    rw [hnew] at ht
    obtain ⟨_, draw, hdraw, hnonce⟩ := ht.of_new
    have hinput : (service ud).drawnNonce input = (a.draws.nonce).map Subtype.val :=
      congrArg (service ud).drawnNonce a.isRequest
    refine ⟨(s, input), List.mem_cons_self, a.after_id ▸ hdrawn, ⟨draw.val⟩, hnonce, ?_⟩
    rw [hinput, hdraw]
    rfl
  · intro past s input run ok a hstored hbefore
    rw [(acceptance_kept run a hstored).nonce6, a.after_id]
    obtain ⟨m, hm, hdrawn⟩ := hbefore
    exact ⟨m, List.mem_cons_of_mem _ hm, hdrawn⟩

/-- A session is proven because of a ProveDevice that was accepted on it. -/
theorem runs_proven (run : (service ud).Runs past s) {id : String} {ses : Session OwnerSession}
    (hses : s.sessions id = some ses) (hproven : ses.data.provenDevice.isSome = true) :
    ∃ m ∈ past, ∃ a : Acceptance ud m.1 m.2, a.id = id ∧ a.req.messageType = .to2ProveDevice ∧
      ses.data.deviceGuid = a.before.data.deviceGuid := by
  rw [← (run.stored hses).1]
  revert hproven
  revert hses
  apply Service.Runs.sessions_induct (I := fun past ses => ses.data.provenDevice.isSome = true →
    ∃ m ∈ past, ∃ a : Acceptance ud m.1 m.2, a.id = ses.id ∧ a.req.messageType = .to2ProveDevice ∧
      ses.data.deviceGuid = a.before.data.deviceGuid) _ _ _ run
  · intro m past ses h hproven
    obtain ⟨m', hm', hrest⟩ := h hproven
    exact ⟨m', List.mem_cons_of_mem _ hm', hrest⟩
  · intro past s input run ok a hnew _ hproven
    obtain ⟨_, _, ht⟩ := acceptance_transition a
    rw [hnew] at ht
    rw [ht.of_new.1.unproven] at hproven
    cases hproven
  · intro past s input run ok a hstored hbefore hproven
    obtain ⟨_, _, ht⟩ := acceptance_transition a
    have hkept := acceptance_kept run a hstored
    rw [hkept.deviceGuid, a.after_id]
    rcases ht.proven hproven with hprove | hproven
    · exact ⟨(s, input), List.mem_cons_self, a, rfl, hprove, rfl⟩
    · obtain ⟨m, hm, hrest⟩ := hbefore hproven
      exact ⟨m, List.mem_cons_of_mem _ hm, hrest⟩

/-! ## The invariant -/

/-- Keys, phase and proof of a session go together. -/
structure Sound (ses : Session OwnerSession) : Prop where
  secured_iff_keys : (∃ t ∈ securedTypes, ses.lastMessageType = some t) ↔
    ses.encryptionKeys.isSome = true
  keys_iff_proven : ses.encryptionKeys.isSome = true ↔ ses.data.provenDevice.isSome = true
  opening : (∃ t ∈ openingTypes, ses.lastMessageType = some t) →
    ses.data.deviceGuid.isSome = true ∧ ses.data.nonce6.isSome = true ∧
      ses.data.ciphersuite.isSome = true ∧ ses.data.aKeyExchange.isSome = true ∧
      ses.encryptionKeys = none

theorem sound_of_phase {ses : Session OwnerSession} (h : Opening ses ∨ Secured ses) : Sound ses := by
  rcases h with h | h
  · have hnot : ¬ ∃ t ∈ securedTypes, ses.lastMessageType = some t := by
      rintro ⟨t, ht, hlast⟩
      exact h.last_ne (securedTypes_not_opening t ht) hlast
    exact
      { secured_iff_keys := by simp [hnot, h.noKeys]
        keys_iff_proven := by simp [h.noKeys, h.unproven]
        opening := fun _ => ⟨h.deviceGuid, h.nonce6, h.ciphersuite, h.aKeyExchange, h.noKeys⟩ }
  · obtain ⟨k, hk, _⟩ := h.keys
    have hkeys : ses.encryptionKeys.isSome = true := Option.isSome_of_eq_some hk
    refine ⟨iff_of_true h.last hkeys, iff_of_true hkeys h.proven, ?_⟩
    rintro ⟨t, ht, hlast⟩
    exact absurd hlast (h.last_ne fun hsecured => securedTypes_not_opening t hsecured ht)

/-- The session `id` was stored as `ses` at some time of the run. -/
def Seen (past : OwnerPast P) (s : OwnerState P) (id : String) (ses : Session OwnerSession) : Prop :=
  s.sessions id = some ses ∨ ∃ m ∈ past, m.1.sessions id = some ses

/-- The request `a` brought a token that verifies under the key of the leaf certificate in
the device chain of the voucher stored for `guid` at that time. -/
structure DeviceProved {m : OwnerState P × OwnerInput P} (a : Acceptance ud m.1 m.2) (guid : Guid) :
    Prop where
  message : a.req.messageType = .to2ProveDevice
  sessionGuid : a.before.data.deviceGuid = some guid
  verified : ∃ v key data token, m.1.userData.vouchers guid = some v ∧ devicePublicKey v = .ok key ∧
    a.before.keys.decrypt P a.req.body = .ok data ∧ COSESign.deserializeData P data = .ok token ∧
      P.verifySignature token.cachedInner key = some true

/-- The session invariant of TO2, for a run and whatever request comes next. -/
structure SessionInvariant (ud : OwnerServiceUD P) (past : OwnerPast P) (s : OwnerState P) : Prop where
  sound : ∀ id ses, Seen past s id ses → Sound ses
  kept : ∀ id ses ses', Seen past s id ses → s.sessions id = some ses' → Kept ses ses'
  decrypted : ∀ input, (service ud).Allowed past s input → ∀ a : Acceptance ud s input,
    ∀ ses k, Seen past s a.id ses → ses.encryptionKeys = some k →
      ∃ data, k.decrypt P a.req.body = .ok data ∧ a.h.decode data = .ok a.body
  nonceOnce : ∀ input, (service ud).Allowed past s input → ∀ a : Acceptance ud s input,
    a.req.messageType = .to2ProveDevice → ∀ m ∈ past, ∀ a' : Acceptance ud m.1 m.2,
      a'.req.messageType = .to2ProveDevice → a.before.data.nonce6 ≠ a'.before.data.nonce6
  finished : ∀ input, (service ud).Allowed past s input → ∀ a : Acceptance ud s input,
    ∀ ses, Seen past s a.id ses → ses.lastMessageType ≠ some .to2Done2
  performed : ∀ input guid, s.userData.to2Performed guid = false →
    (service ud).Allowed past s input →
    ((service ud).step s input).userData.to2Performed guid = true →
    ∃ around draws req info nonce6, input = .request around draws req ∧ req.messageType = .to2Done ∧
      receive P (handlerDone draws) around s.sessions req = .ok (info, nonce6) ∧
      ∃ m ∈ past, ∃ a : Acceptance ud m.1 m.2, a.id = info.session.id ∧ DeviceProved a guid

theorem seen_sound (run : (service ud).Runs past s) {id : String} {ses : Session OwnerSession}
    (h : Seen past s id ses) : Sound ses := by
  rcases h with h | ⟨m, hm, h⟩
  · exact sound_of_phase (runs_phase run h)
  · obtain ⟨before, hrun, _⟩ := Run.of_mem run hm
    exact sound_of_phase (runs_phase hrun h)

theorem seen_kept (run : (service ud).Runs past s) {id : String} {ses ses' : Session OwnerSession}
    (h : Seen past s id ses) (h' : s.sessions id = some ses') : Kept ses ses' := by
  rcases h with h | ⟨m, hm, h⟩
  · exact Option.some.inj (h.symm.trans h') ▸ Kept.refl ses
  · exact runs_kept run m hm h h'

/-- A request on a session that was ever seen continues it. -/
theorem seen_stored (run : (service ud).Runs past s) (ok : (service ud).Allowed past s input)
    (a : Acceptance ud s input) {ses : Session OwnerSession} (h : Seen past s a.id ses) :
    s.sessions a.id = some a.before := by
  rcases run.origin ok a with hstored | ⟨_, _, hnone, hunseen⟩
  · exact hstored
  · rcases h with h | ⟨m, hm, h⟩
    · rw [hnone] at h
      cases h
    · rw [hunseen m hm] at h
      cases h

/-- Only Done marks a device, and only the one its session has proven. -/
theorem step_performed {guid : Guid} (hfalse : s.userData.to2Performed guid = false)
    (ok : (service ud).Allowed past s input)
    (htrue : ((service ud).step s input).userData.to2Performed guid = true) :
    ∃ around draws req info nonce6, input = .request around draws req ∧ req.messageType = .to2Done ∧
      receive P (handlerDone draws) around s.sessions req = .ok (info, nonce6) ∧
      info.session.data.provenDevice.isSome = true ∧ info.session.data.deviceGuid = some guid := by
  cases input with
  | forget id =>
      change s.userData.to2Performed guid = true at htrue
      rw [hfalse] at htrue
      cases htrue
  | tend userData =>
      have hsame : userData.to2Performed = s.userData.to2Performed := ok.tended userData rfl
      change userData.to2Performed guid = true at htrue
      rw [hsame, hfalse] at htrue
      cases htrue
  | request around draws req =>
      rcases Service.step_userData (S := service ud) s around draws req with
        hsame | ⟨h, info, body, hroute, hreceived, hdata⟩
      · rw [hsame, hfalse] at htrue
        cases htrue
      · have hchanged : (h.run s.userData info body).1 ≠ s.userData := by
          intro hsame
          rw [hdata, hsame, hfalse] at htrue
          cases htrue
        rw [hdata] at htrue
        change routes ud draws req.messageType = some h at hroute
        unfold routes at hroute
        split at hroute
        next => cases hroute; exact absurd rfl hchanged
        next => cases hroute; exact absurd rfl hchanged
        next => cases hroute; exact absurd rfl hchanged
        next => cases hroute; exact absurd rfl hchanged
        next => cases hroute; exact absurd rfl hchanged
        next hm =>
          cases hroute
          rcases done_stores draws s.userData info body with hsame | ⟨marked, nonce7, hcheck, hmark⟩
          · exact absurd hsame hchanged
          · obtain ⟨hproven, _, hguid⟩ := checkDone_ok hcheck
            refine ⟨around, draws, req, info, body, rfl, hm, hreceived, hproven, ?_⟩
            change (done draws s.userData info body).1.to2Performed guid = true at htrue
            rw [hmark] at htrue
            by_cases heq : guid = marked
            · rw [heq]
              exact hguid
            · simp only [Function.update_of_ne heq, hfalse] at htrue
              cases htrue
        next => cases hroute

/-- A session with entries is not a new one. -/
theorem received_stored (run : (service ud).Runs past s) {h : OwnerHandler P} {around : Surroundings}
    {req : HttpRequest} {info : Info} {body : h.Body}
    (hreceived : receive P h around s.sessions req = .ok (info, body))
    (hproven : info.session.data.provenDevice.isSome = true) :
    s.sessions info.session.id = some info.session := by
  have horigin := (receive_received hreceived).origin
  generalize info.session = ses at *
  cases horigin with
  | stored _ _ hfound => rwa [(run.stored hfound).1]
  | fresh _ _ => cases hproven

theorem deviceProved_of_acceptance (cose : CoseLaws P) {m : OwnerState P × OwnerInput P}
    (a : Acceptance ud m.1 m.2) (hprove : a.req.messageType = .to2ProveDevice) {guid : Guid}
    (hguid : a.before.data.deviceGuid = some guid) : DeviceProved a guid := by
  obtain ⟨data, hdecrypt, ht⟩ := acceptance_transition a
  rw [hprove] at ht
  obtain ⟨_, _, guid', nonce6, token, hdecode, hproof⟩ := ht.of_proveDevice
  obtain ⟨v, key, eat, hv, hkey, heat, _⟩ := hproof.signed
  obtain rfl : guid' = guid := Option.some.inj (hproof.sessionGuid.symm.trans hguid)
  exact ⟨hprove, hguid, v, key, data, token, hv, hkey, hdecrypt, hdecode,
    COSESign.getEat_verified cose heat⟩

/-- The session invariant holds along every run. -/
theorem sessions_invariant (cose : CoseLaws P) (run : (service ud).Runs past s) :
    SessionInvariant ud past s where
  sound id ses hseen := seen_sound run hseen
  kept id ses ses' hseen hses' := seen_kept run hseen hses'
  decrypted input ok a ses k hseen hk := by
    have hstored := seen_stored run ok a hseen
    have hkeys : a.info.session.encryptionKeys = some k := (seen_kept run hseen hstored).keys k hk
    obtain ⟨data, hdecrypt, hdecode⟩ := a.received.body
    rw [Session.keys, hkeys] at hdecrypt
    exact ⟨data, hdecrypt, hdecode⟩
  nonceOnce input ok a hprove m hm a' hprove' hsame := by
    obtain ⟨hstored, hopening⟩ := proveDevice_before run ok a hprove
    obtain ⟨before, hrun, hok, hsub⟩ := Run.of_mem run hm
    obtain ⟨hstored', _⟩ := proveDevice_before hrun hok a' hprove'
    obtain ⟨m₁, hm₁, hid₁, n₁, hn₁, hdrawn₁⟩ := runs_issued run hstored
    obtain ⟨m₂, hm₂, hid₂, n₂, hn₂, hdrawn₂⟩ := runs_issued hrun hstored'
    obtain rfl : n₁ = n₂ := by
      rw [hsame, hn₂] at hn₁
      exact (Option.some.inj hn₁).symm
    obtain rfl := run.nonce_unique hm₁ (hsub m₂ hm₂) hdrawn₁ hdrawn₂
    have hid : a.id = a'.id := Option.some.inj (hid₁.symm.trans hid₂)
    rw [hid] at hstored
    have hproven := runs_proven_after run m hm a' hprove' hstored
    rw [hopening.unproven] at hproven
    cases hproven
  finished input ok a ses hseen hdone := by
    have hstored := seen_stored run ok a hseen
    obtain ⟨_, _, ht⟩ := acceptance_transition a
    have hsame := (seen_kept run hseen hstored).done hdone
    rw [← hsame] at hdone
    exact ht.not_done hdone
  performed input guid hfalse ok htrue := by
    obtain ⟨around, draws, req, info, nonce6, hinput, hmessage, hreceived, hproven, hguid⟩ :=
      step_performed hfalse ok htrue
    have hstored := received_stored run hreceived hproven
    obtain ⟨m, hm, a, hid, hprove, hsame⟩ := runs_proven run hstored hproven
    exact ⟨around, draws, req, info, nonce6, hinput, hmessage, hreceived, m, hm, a, hid,
      deviceProved_of_acceptance cose a hprove (hsame.symm.trans hguid)⟩

/-! ## A device that goes through -/

open Reference VoucherChain

def sampleUd : OwnerServiceUD (reference .release) where
  ownerKey := [3, 1]
  ownerPubkey := sampleKey 3
  owner2Key := [4, 1]
  owner2Pub := sampleKey 4
  interoperableKdfAvailable := true

/-- Everything the server draws for its `k`-th request. -/
def sampleDraws (k : UInt8) : Draws (reference .release) where
  nonce := some (.repeated k)
  guid := some (.repeated k)
  kex := ⟨fun _ => some [k], fun _ => some [k], fun n => some (List.replicate n k)⟩
  serviceInfoApi _ _ := some ⟨none, none, some false⟩
  loadDataFails := false
  storeMetadataFails := false

def sampleRequest (k : UInt8) (cookie : String) (messageType : MessageType)
    (authorization : Option String) (body : Bytes) : OwnerInput (reference .release) :=
  .request ⟨cookie, 0, false, false, false⟩ (sampleDraws k) ⟨messageType, authorization, false, body⟩

def sampleDeviceKex : KeyExchange := .ecdh .ecdh256 [0x77] (List.replicate 16 0x78)

/-- The keys as the device derives them from the owner's half of the exchange. -/
def sampleKeys : Outcome Error EncryptionKeys := do
  let ownerKex ← KeyExchange.new (sampleDraws 0).kex .ecdh256
  let ownerPublic ← ownerKex.getPublic (reference .release)
  let keys ← sampleDeviceKex.deriveKey (reference .release) true .device .a128Gcm ownerPublic false
  .ok (.fromDerived .a128Gcm keys)

/-- The token of the device with key `[9, 9]`, over the nonce of the first request. -/
def sampleToken : Outcome Error Bytes := do
  let devicePublic ← sampleDeviceKex.getPublic (reference .release)
  let claims ← (reference .release).headerMap.serializeData
    [(HeaderKeys.eatFDO.toI64, .array [.bytes devicePublic]),
      (HeaderKeys.eatNonce.toI64, .scalar (.bytes (List.replicate 16 0))),
      (HeaderKeys.eatUeid.toI64, .scalar (.bytes (1 :: List.replicate 16 7)))]
  let token ← COSESign.new (reference .release) claims
    [(HeaderKeys.euphNonce.toI64, .scalar (.bytes (List.replicate 16 0x79)))] [9, 9]
  token.serializeData

def sampleInputs : Outcome Error (List (OwnerInput (reference .release))) := do
  let hello ← (HelloDevice.new ⟨List.replicate 16 7⟩ ⟨List.replicate 16 5⟩ .ecdh256 .a128Gcm
    ⟨.stSECP256R1, []⟩).serializeData (reference .release)
  let entry0 ← (reference .release).getOVNextEntry.serializeData 0
  let entry1 ← (reference .release).getOVNextEntry.serializeData 1
  let token ← sampleToken
  let keys ← sampleKeys
  let ready ← (reference .release).deviceServiceInfoReady.serializeData (none, none)
  let ready ← keys.encrypt (reference .release) ready
  let modules := valueWire.write (.array [.integer 0, .integer 1, .text "devmod"])
  let info ← (reference .release).deviceServiceInfo.serializeData (false, [("devmod:modules", modules)])
  let info ← keys.encrypt (reference .release) info
  let done ← (reference .release).oneNonce.serializeData (List.replicate 16 0)
  let done ← keys.encrypt (reference .release) done
  .ok [sampleRequest 0 "a" .to2HelloDevice none hello,
    sampleRequest 1 "b" .to2GetOVNextEntry (some "Bearer a") entry0,
    sampleRequest 2 "c" .to2GetOVNextEntry (some "Bearer a") entry1,
    sampleRequest 3 "d" .to2ProveDevice (some "Bearer a") token,
    sampleRequest 4 "e" .to2DeviceServiceInfoReady (some "Bearer a") ready,
    sampleRequest 5 "f" .to2DeviceServiceInfo (some "Bearer a") info,
    sampleRequest 6 "g" .to2Done (some "Bearer a") done]

/-- A server that holds one voucher and no session. -/
def sampleServer (v : OwnershipVoucher (reference .release)) : OwnerState (reference .release) where
  sessions _ := none
  userData := ⟨fun guid => if guid = ⟨List.replicate 16 7⟩ then some v else none, fun _ => false⟩
  sessionTtls _ := none

theorem sessions_invariant_sample : ∃ past s ses, (service sampleUd).Runs past s ∧
    s.sessions "a" = some ses ∧ ses.lastMessageType = some .to2Done2 ∧
    s.userData.to2Performed ⟨List.replicate 16 7⟩ = true ∧ SessionInvariant sampleUd past s := by
  have hrun : (do
      let v ← sampleVoucher
      let inputs ← sampleInputs
      Outcome.check (inputs.Pairwise (service sampleUd).Distinct) Error.cose
      Outcome.check (∀ input ∈ inputs, input.isRequest = true) Error.cose
      let s := ((service sampleUd).replay [] (sampleServer v) inputs).2
      Outcome.check (s.userData.to2Performed ⟨List.replicate 16 7⟩ = true) Error.cose
      let ses ← Outcome.ofOption Error.cose (s.sessions "a")
      Outcome.check (ses.lastMessageType = some MessageType.to2Done2) Error.cose).isOk = true := by
    decide +kernel
  obtain ⟨_, h⟩ := Outcome.isOk_iff.mp hrun
  obtain ⟨v, _, h₁⟩ := Outcome.bind_eq_ok.mp h
  obtain ⟨inputs, _, h₂⟩ := Outcome.bind_eq_ok.mp h₁
  obtain ⟨_, hdistinct, h₃⟩ := Outcome.bind_eq_ok.mp h₂
  obtain ⟨_, hrequests, h₄⟩ := Outcome.bind_eq_ok.mp h₃
  obtain ⟨_, hperformed, h₅⟩ := Outcome.bind_eq_ok.mp h₄
  obtain ⟨ses, hses, hlast⟩ := Outcome.bind_eq_ok.mp h₅
  have run : (service sampleUd).Runs ((service sampleUd).replay [] (sampleServer v) inputs).1
      ((service sampleUd).replay [] (sampleServer v) inputs).2 :=
    Service.Runs.replay (.start fun _ => rfl) (Outcome.check_eq_ok.mp hrequests)
      (Outcome.check_eq_ok.mp hdistinct) fun m hm => absurd hm List.not_mem_nil
  exact ⟨_, _, ses, run, Outcome.ofOption_eq_ok.mp hses, Outcome.check_eq_ok.mp hlast,
    Outcome.check_eq_ok.mp hperformed, sessions_invariant (coseLaws .release) run⟩

end FidoOnboard.OwnerServer
