import FidoOnboard.HttpWrapper.Runs
import FidoOnboard.OwnerServer.Handlers

/-!
# TO2 sessions over whole runs

What an accepted request can do to a session is said once, by message. The
invariant of the sessions, and everything a run keeps of them, follows from it.
-/
namespace FidoOnboard.OwnerServer
open Server

variable {P : Platform}

/-- The handlers keep the session they were given under its id. -/
theorem routes_keepsId {ud : OwnerServiceUD P} {draws : Draws P} {t : MessageType}
    {h : OwnerHandler P} {stores : OwnerStores P} {info info' : Info} {body : h.Body} {reply : h.Reply}
    (hroute : routes ud draws t = some h) (hrun : (h.run stores info body).2 = .ok (reply, info')) :
    info'.session.id = info.session.id := by
  unfold routes at hroute
  split at hroute
  · cases hroute
    obtain ⟨_, _, _, rfl, _⟩ := helloDevice_ok hrun
    rfl
  · cases hroute
    rw [(getOvNextEntry_ok hrun).1]
  · cases hroute
    obtain ⟨_, _, _, _, _, _, _, rfl⟩ := proveDevice_ok hrun
    rfl
  · cases hroute
    rw [(deviceServiceInfoReady_ok hrun).1]
  · cases hroute
    obtain ⟨_, _, rfl⟩ := deviceServiceInfo_ok hrun
    rfl
  · cases hroute
    rw [(done_ok hrun).2]
    rfl
  · cases hroute

/-- The TO2 server. Vouchers may come and go; only the handlers mark them as onboarded. -/
def service (ud : OwnerServiceUD P) : Service P (Draws P) (OwnerStores P) OwnerSession where
  interoperableKdfAvailable := ud.interoperableKdfAvailable
  routes := routes ud
  nonce draws := draws.nonce
  tended stores stores' := stores'.to2Performed = stores.to2Performed
  keepsId := routes_keepsId

/-- What an accepted request with plaintext `data` makes of its session, by message. -/
inductive Transition (draws : Draws P) (stores : OwnerStores P) (data : Bytes)
    (before : Session OwnerSession) : MessageType → Session OwnerSession → Prop where
  | helloDevice {guid : Guid} {draw : Random16} {ciphersuite : CipherSuite} {kex : KeyExchange}
      (sequence : before.lastMessageType = none) (drawn : draws.nonce = some draw) :
      Transition draws stores data before .to2HelloDevice { before with
        lastMessageType := some .to2ProveOVHdr
        data := { before.data with
          deviceGuid := some guid, nonce6 := some ⟨draw.val⟩, ciphersuite := some ciphersuite,
          aKeyExchange := some kex } }
  | getOVNextEntry
      (sequence : before.lastMessageType = some .to2ProveOVHdr ∨
        before.lastMessageType = some .to2OVNextEntry) :
      Transition draws stores data before .to2GetOVNextEntry
        { before with lastMessageType := some .to2OVNextEntry }
  | proveDevice {guid : Guid} {nonce6 nonce7 : Nonce} {token : COSESign P} {ciphersuite : CipherSuite}
      {keys : DerivedKeys} (sequence : before.lastMessageType = some .to2OVNextEntry)
      (decoded : COSESign.deserializeData P data = .ok token)
      (proof : Proof P stores before guid nonce6 token) :
      Transition draws stores data before .to2ProveDevice { before with
        lastMessageType := some .to2SetupDevice
        encryptionKeys := some (.fromDerived ciphersuite keys)
        data := { before.data with
          aKeyExchange := none, ciphersuite := none, nonce7 := some nonce7, provenDevice := some true } }
  | deviceServiceInfoReady (sequence : before.lastMessageType = some .to2SetupDevice) :
      Transition draws stores data before .to2DeviceServiceInfoReady
        { before with lastMessageType := some .to2OwnerServiceInfoReady }
  | deviceServiceInfo {loops : Nat}
      (sequence : before.lastMessageType = some .to2OwnerServiceInfoReady ∨
        before.lastMessageType = some .to2OwnerServiceInfo) :
      Transition draws stores data before .to2DeviceServiceInfo { before with
        lastMessageType := some .to2OwnerServiceInfo
        data := { before.data with numServiceInfoLoops := some loops } }
  | done (sequence : before.lastMessageType = some .to2OwnerServiceInfo) :
      Transition draws stores data before .to2Done { before with
        lastMessageType := some .to2Done2, data := { before.data with nonce7 := none } }

variable {ud : OwnerServiceUD P}

theorem acceptance_transition {s : State (OwnerStores P) OwnerSession}
    {input : Input (Draws P) (OwnerStores P)} (a : (service ud).Acceptance s input) :
    ∃ data, a.before.keys.decrypt P a.req.body = .ok data ∧
      Transition a.draws s.userData data a.before a.req.messageType a.after := by
  have hreceived := a.received
  have hhandled := a.accepted.handled
  have hroute := a.route
  obtain ⟨data, hdecrypt, hdecode⟩ := hreceived.body
  refine ⟨data, hdecrypt, ?_⟩
  have hsequence := hreceived.sequence
  clear hreceived
  unfold Service.Acceptance.before Service.Acceptance.after
  obtain ⟨around, draws, req, h, info, body, reply, info', isRequest, _, _⟩ := a
  simp only at hhandled hroute hsequence hdecode ⊢
  change routes ud draws req.messageType = some h at hroute
  unfold routes at hroute
  split at hroute
  next hm =>
    cases hroute
    obtain ⟨draw, kex, hdraw, rfl, _⟩ := helloDevice_ok hhandled
    exact hm ▸ .helloDevice (Option.isNone_iff_eq_none.mp hsequence) hdraw
  next hm =>
    cases hroute
    obtain ⟨rfl, _⟩ := getOvNextEntry_ok hhandled
    obtain ⟨t, ht, hlast⟩ := Message.after_eq_true hsequence
    refine hm ▸ .getOVNextEntry ?_
    simp only [List.mem_cons, List.not_mem_nil, or_false] at ht
    rcases ht with rfl | rfl
    · exact .inl hlast
    · exact .inr hlast
  next hm =>
    cases hroute
    obtain ⟨guid, nonce6, nonce7, ciphersuite, keys, hproof, _, rfl⟩ := proveDevice_ok hhandled
    obtain ⟨t, ht, hlast⟩ := Message.after_eq_true hsequence
    obtain rfl := List.mem_singleton.mp ht
    exact hm ▸ .proveDevice hlast hdecode hproof
  next hm =>
    cases hroute
    obtain ⟨rfl, _⟩ := deviceServiceInfoReady_ok hhandled
    obtain ⟨t, ht, hlast⟩ := Message.after_eq_true hsequence
    obtain rfl := List.mem_singleton.mp ht
    exact hm ▸ .deviceServiceInfoReady hlast
  next hm =>
    cases hroute
    obtain ⟨_, loops, rfl⟩ := deviceServiceInfo_ok hhandled
    obtain ⟨t, ht, hlast⟩ := Message.after_eq_true hsequence
    refine hm ▸ .deviceServiceInfo ?_
    simp only [List.mem_cons, List.not_mem_nil, or_false] at ht
    rcases ht with rfl | rfl
    · exact .inl hlast
    · exact .inr hlast
  next hm =>
    cases hroute
    obtain ⟨_, rfl⟩ := done_ok hhandled
    obtain ⟨t, ht, hlast⟩ := Message.after_eq_true hsequence
    obtain rfl := List.mem_singleton.mp ht
    exact hm ▸ .done hlast
  next => cases hroute

/-! ## The two phases of a session -/

def securedTypes : List MessageType :=
  [.to2SetupDevice, .to2OwnerServiceInfoReady, .to2OwnerServiceInfo, .to2Done2]

def openingTypes : List MessageType := [.to2ProveOVHdr, .to2OVNextEntry]

theorem securedTypes_not_opening : ∀ t ∈ securedTypes, t ∉ openingTypes := by decide

/-- Between HelloDevice and ProveDevice. -/
structure Opening (ses : Session OwnerSession) : Prop where
  last : ∃ t ∈ openingTypes, ses.lastMessageType = some t
  deviceGuid : ses.data.deviceGuid.isSome = true
  nonce6 : ses.data.nonce6.isSome = true
  ciphersuite : ses.data.ciphersuite.isSome = true
  aKeyExchange : ses.data.aKeyExchange.isSome = true
  noKeys : ses.encryptionKeys = none
  unproven : ses.data.provenDevice = none

/-- From ProveDevice on. -/
structure Secured (ses : Session OwnerSession) : Prop where
  last : ∃ t ∈ securedTypes, ses.lastMessageType = some t
  keys : ∃ k, ses.encryptionKeys = some k ∧ k.isSome = true
  proven : ses.data.provenDevice.isSome = true

/-- What a later state keeps of a session. -/
structure Kept (ses ses' : Session OwnerSession) : Prop where
  deviceGuid : ses'.data.deviceGuid = ses.data.deviceGuid
  nonce6 : ses'.data.nonce6 = ses.data.nonce6
  keys : ∀ k, ses.encryptionKeys = some k → ses'.encryptionKeys = some k
  aKeyExchange : ses.data.aKeyExchange = none → ses'.data.aKeyExchange = none
  proven : ses.data.provenDevice.isSome = true → ses'.data.provenDevice.isSome = true
  done : ses.lastMessageType = some .to2Done2 → ses' = ses

theorem Kept.refl (ses : Session OwnerSession) : Kept ses ses :=
  ⟨rfl, rfl, fun _ h => h, fun h => h, fun h => h, fun _ => rfl⟩

theorem Kept.trans {a b c : Session OwnerSession} (h : Kept a b) (h' : Kept b c) : Kept a c where
  deviceGuid := h'.deviceGuid.trans h.deviceGuid
  nonce6 := h'.nonce6.trans h.nonce6
  keys k hk := h'.keys k (h.keys k hk)
  aKeyExchange hk := h'.aKeyExchange (h.aKeyExchange hk)
  proven hp := h'.proven (h.proven hp)
  done hd := by
    obtain rfl := h.done hd
    exact h'.done hd

section Transition

variable {draws : Draws P} {stores : OwnerStores P} {data : Bytes} {t : MessageType}
  {before after : Session OwnerSession}

/-- Which messages a phase admits, read off the message before. -/
theorem Opening.last_ne (h : Opening before) {t : MessageType} (ht : t ∉ openingTypes) :
    before.lastMessageType ≠ some t := by
  obtain ⟨t', ht', hlast⟩ := h.last
  rw [hlast]
  rintro heq
  exact ht (Option.some.inj heq ▸ ht')

theorem Secured.last_ne (h : Secured before) {t : MessageType} (ht : t ∉ securedTypes) :
    before.lastMessageType ≠ some t := by
  obtain ⟨t', ht', hlast⟩ := h.last
  rw [hlast]
  rintro heq
  exact ht (Option.some.inj heq ▸ ht')

theorem Transition.phase (h : Transition draws stores data before t after)
    (hbefore : Opening before ∨ Secured before) : Opening after ∨ Secured after := by
  cases h with
  | helloDevice sequence _ =>
      rcases hbefore with hb | hb
      · obtain ⟨_, _, hlast⟩ := hb.last
        rw [sequence] at hlast
        cases hlast
      · obtain ⟨_, _, hlast⟩ := hb.last
        rw [sequence] at hlast
        cases hlast
  | getOVNextEntry sequence =>
      rcases hbefore with hb | hb
      · exact .inl { hb with last := ⟨_, by decide, rfl⟩ }
      · rcases sequence with hl | hl
        · exact absurd hl (hb.last_ne (by decide))
        · exact absurd hl (hb.last_ne (by decide))
  | proveDevice sequence _ _ =>
      exact .inr ⟨⟨_, by decide, rfl⟩, ⟨_, rfl, rfl⟩, rfl⟩
  | deviceServiceInfoReady sequence =>
      rcases hbefore with hb | hb
      · exact absurd sequence (hb.last_ne (by decide))
      · exact .inr { hb with last := ⟨_, by decide, rfl⟩ }
  | deviceServiceInfo sequence =>
      rcases hbefore with hb | hb
      · rcases sequence with hl | hl
        · exact absurd hl (hb.last_ne (by decide))
        · exact absurd hl (hb.last_ne (by decide))
      · exact .inr ⟨⟨_, by decide, rfl⟩, hb.keys, hb.proven⟩
  | done sequence =>
      rcases hbefore with hb | hb
      · exact absurd sequence (hb.last_ne (by decide))
      · exact .inr ⟨⟨_, by decide, rfl⟩, hb.keys, hb.proven⟩

/-- A new session takes HelloDevice and nothing else. -/
theorem Transition.of_new {id : String}
    (h : Transition draws stores data ⟨id, none, none, default⟩ t after) : Opening after ∧
      ∃ draw : Random16, draws.nonce = some draw ∧ after.data.nonce6 = some ⟨draw.val⟩ := by
  cases h with
  | helloDevice _ drawn =>
      exact ⟨⟨⟨_, by decide, rfl⟩, rfl, rfl, rfl, rfl, rfl, rfl⟩, _, drawn, rfl⟩
  | getOVNextEntry sequence => rcases sequence with hl | hl <;> cases hl
  | proveDevice sequence _ _ => cases sequence
  | deviceServiceInfoReady sequence => cases sequence
  | deviceServiceInfo sequence => rcases sequence with hl | hl <;> cases hl
  | done sequence => cases sequence

theorem Transition.of_proveDevice (h : Transition draws stores data before .to2ProveDevice after) :
    before.lastMessageType = some .to2OVNextEntry ∧
      (after.encryptionKeys.isSome = true ∧ after.data.aKeyExchange = none ∧
        after.data.provenDevice = some true) ∧
      ∃ guid nonce6 token, COSESign.deserializeData P data = .ok token ∧
        Proof P stores before guid nonce6 token := by
  cases h with
  | proveDevice sequence decoded proof => exact ⟨sequence, ⟨rfl, rfl, rfl⟩, _, _, _, decoded, proof⟩

theorem Transition.of_done (h : Transition draws stores data before .to2Done after) :
    after.lastMessageType = some .to2Done2 := by
  cases h with
  | done _ => rfl

/-- Only ProveDevice makes a session proven. -/
theorem Transition.proven (h : Transition draws stores data before t after)
    (hproven : after.data.provenDevice.isSome = true) :
    t = .to2ProveDevice ∨ before.data.provenDevice.isSome = true := by
  cases h with
  | proveDevice _ _ _ => exact .inl rfl
  | helloDevice _ _ => exact .inr hproven
  | getOVNextEntry _ => exact .inr hproven
  | deviceServiceInfoReady _ => exact .inr hproven
  | deviceServiceInfo _ => exact .inr hproven
  | done _ => exact .inr hproven

/-- No message follows Done2. -/
theorem Transition.not_done (h : Transition draws stores data before t after) :
    before.lastMessageType ≠ some .to2Done2 := by
  intro hdone
  cases h with
  | helloDevice sequence _ => exact absurd (hdone.symm.trans sequence) (by decide)
  | getOVNextEntry sequence => rcases sequence with hl | hl <;> exact absurd (hdone.symm.trans hl) (by decide)
  | proveDevice sequence _ _ => exact absurd (hdone.symm.trans sequence) (by decide)
  | deviceServiceInfoReady sequence => exact absurd (hdone.symm.trans sequence) (by decide)
  | deviceServiceInfo sequence =>
      rcases sequence with hl | hl <;> exact absurd (hdone.symm.trans hl) (by decide)
  | done sequence => exact absurd (hdone.symm.trans sequence) (by decide)

theorem Transition.kept (h : Transition draws stores data before t after)
    (hbefore : Opening before ∨ Secured before) : Kept before after := by
  have hdone : before.lastMessageType = some .to2Done2 → after = before := fun hd => absurd hd h.not_done
  cases h with
  | helloDevice sequence _ =>
      rcases hbefore with hb | hb
      all_goals
        obtain ⟨_, _, hlast⟩ := hb.last
        rw [sequence] at hlast
        cases hlast
  | getOVNextEntry sequence => exact ⟨rfl, rfl, fun _ h => h, fun h => h, fun h => h, hdone⟩
  | proveDevice sequence _ _ =>
      refine ⟨rfl, rfl, ?_, fun _ => rfl, fun _ => rfl, hdone⟩
      intro k hk
      rcases hbefore with hb | hb
      · rw [hb.noKeys] at hk
        cases hk
      · exact absurd sequence (hb.last_ne (by decide))
  | deviceServiceInfoReady sequence => exact ⟨rfl, rfl, fun _ h => h, fun h => h, fun h => h, hdone⟩
  | deviceServiceInfo sequence => exact ⟨rfl, rfl, fun _ h => h, fun h => h, fun h => h, hdone⟩
  | done sequence => exact ⟨rfl, rfl, fun _ h => h, fun h => h, fun h => h, hdone⟩

end Transition

end FidoOnboard.OwnerServer
