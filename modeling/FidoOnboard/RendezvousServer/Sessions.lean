import FidoOnboard.HttpWrapper.Runs
import FidoOnboard.RendezvousServer.Handlers

/-!
# TO0 and TO1 sessions over whole runs

A session takes two requests: the first draws its nonce and the second answers
it. What the first one wrote is all the session ever knows.
-/
namespace FidoOnboard.RendezvousServer
open Server

variable {P : Platform}

theorem routes_keepsId {ud : RendezvousUD P} {draws : Draws} {t : MessageType}
    {h : RendezvousHandler P} {store : RendezvousStore P} {info info' : Info} {body : h.Body}
    {reply : h.Reply} (hroute : routes ud draws t = some h)
    (hrun : (h.run store info body).2 = .ok (reply, info')) : info'.session.id = info.session.id := by
  unfold routes at hroute
  split at hroute
  · cases hroute
    obtain ⟨_, _, _, rfl⟩ := hello_ok hrun
    rfl
  · cases hroute
    rw [(ownersign_ok hrun).1]
  · cases hroute
    obtain ⟨_, _, _, rfl⟩ := helloRv_ok hrun
    rfl
  · cases hroute
    rw [(proveToRv_ok hrun).1]
  · cases hroute

/-- The rendezvous server. Between requests registrations only expire. -/
def service (ud : RendezvousUD P) : Service P Draws (RendezvousStore P) RendezvousSession where
  interoperableKdfAvailable := ud.interoperableKdfAvailable
  routes := routes ud
  nonce draws := draws.nonce
  tended store store' := ∀ guid, store'.items guid = none ∨ store'.items guid = store.items guid
  keepsId := routes_keepsId

abbrev RendezvousState (P : Platform) := State (RendezvousStore P) RendezvousSession

abbrev RendezvousInput (P : Platform) := Input Draws (RendezvousStore P)

abbrev RendezvousPast (P : Platform) := Service.Past (RendezvousStore P) RendezvousSession Draws

abbrev Acceptance (ud : RendezvousUD P) := (service ud).Acceptance

/-- What an accepted request with body `data` makes of its session, by message, and the
reply before it is written. -/
inductive Transition (ud : RendezvousUD P) (draws : Draws) (store : RendezvousStore P) (data : Bytes)
    (before : Session RendezvousSession) :
    MessageType → Outcome Error Bytes → Session RendezvousSession → Prop where
  | hello {draw : Random16} (sequence : before.lastMessageType = none)
      (drawn : draws.nonce = some draw) :
      Transition ud draws store data before .to0Hello (P.oneNonce.serializeData draw.val) { before with
        lastMessageType := some .to0HelloAck
        data := { before.data with nonce3 := some ⟨draw.val⟩ } }
  | ownerSign {msg : OwnerSign P} {guid : Guid} {item : StoredItem P} {wait : Nat}
      (sequence : before.lastMessageType = some .to0HelloAck)
      (decoded : OwnerSign.deserializeData P data = .ok msg)
      (checked : checkOwnersign ud before msg = .ok (guid, item, wait)) :
      Transition ud draws store data before .to0OwnerSign (P.acceptOwner.serializeData wait)
        { before with lastMessageType := some .to0AcceptOwner }
  | helloRV {msg : HelloRV} {ack : HelloRVAck} {draw : Random16}
      (sequence : before.lastMessageType = none)
      (decoded : HelloRV.deserializeData P data = .ok msg) (drawn : draws.nonce = some draw)
      (issued : ack.nonce4 = ⟨draw.val⟩) :
      Transition ud draws store data before .to1HelloRV (ack.serializeData P) { before with
        lastMessageType := some .to1HelloRVAck
        data := { before.data with nonce4 := some ⟨draw.val⟩, deviceGuid := some msg.guid } }
  | proveToRV {token : COSESign P} {guid : Guid} {nonce4 : Nonce} {item : StoredItem P}
      (sequence : before.lastMessageType = some .to1HelloRVAck)
      (decoded : COSESign.deserializeData P data = .ok token)
      (proof : Proof P store before token guid nonce4 item) :
      Transition ud draws store data before .to1ProveToRV item.to1d.serializeData
        { before with lastMessageType := some .to1RVRedirect }

variable {ud : RendezvousUD P}

/-- Every request of the two protocols comes in the clear. -/
theorem routes_plain {draws : Draws} {t : MessageType} {h : RendezvousHandler P}
    (hroute : routes ud draws t = some h) :
    h.im.encryptionRequirement = some .mustNotBeEncrypted ∧
      h.om.encryptionRequirement = some .mustNotBeEncrypted := by
  unfold routes at hroute
  split at hroute
  all_goals
    cases hroute
    try exact ⟨rfl, rfl⟩

theorem acceptance_transition {s : RendezvousState P} {input : RendezvousInput P}
    (a : Acceptance ud s input) :
    Transition ud a.draws s.userData a.req.body a.before a.req.messageType (a.h.encode a.reply)
      a.after := by
  have hreceived := a.received
  have hhandled := a.accepted.handled
  have hroute := a.route
  obtain ⟨data, hdecrypt, hdecode⟩ := hreceived.body
  obtain rfl : data = a.req.body :=
    EncryptionKeys.decrypt_of_not_isSome (hreceived.plain (routes_plain hroute).1) hdecrypt
  have hsequence := hreceived.sequence
  clear hreceived hdecrypt
  unfold Service.Acceptance.before Service.Acceptance.after
  obtain ⟨around, draws, req, h, info, body, reply, info', isRequest, _, _⟩ := a
  simp only at hhandled hroute hsequence hdecode ⊢
  change routes ud draws req.messageType = some h at hroute
  unfold routes at hroute
  split at hroute
  next hm =>
    cases hroute
    obtain ⟨draw, hdraw, rfl, rfl⟩ := hello_ok hhandled
    exact hm ▸ .hello (Option.isNone_iff_eq_none.mp hsequence) hdraw
  next hm =>
    cases hroute
    obtain ⟨rfl, guid, item, hchecked, _⟩ := ownersign_ok hhandled
    obtain ⟨t, ht, hlast⟩ := Message.after_eq_true hsequence
    obtain rfl := List.mem_singleton.mp ht
    exact hm ▸ .ownerSign hlast hdecode hchecked
  next hm =>
    cases hroute
    obtain ⟨draw, hdraw, hissued, rfl⟩ := helloRv_ok hhandled
    exact hm ▸ .helloRV (Option.isNone_iff_eq_none.mp hsequence) hdecode hdraw hissued
  next hm =>
    cases hroute
    obtain ⟨rfl, guid, nonce4, item, hproof, rfl⟩ := proveToRv_ok hhandled
    obtain ⟨t, ht, hlast⟩ := Message.after_eq_true hsequence
    obtain rfl := List.mem_singleton.mp ht
    exact hm ▸ .proveToRV hlast hdecode hproof
  next => cases hroute

/-! ## The life of a session -/

def finishedTypes : List MessageType := [.to0AcceptOwner, .to1RVRedirect]

/-- What a later state keeps of a session: all it knows, and everything once it is finished. -/
structure Kept (ses ses' : Session RendezvousSession) : Prop where
  data : ses'.data = ses.data
  finished : ∀ t ∈ finishedTypes, ses.lastMessageType = some t → ses' = ses

theorem Kept.refl (ses : Session RendezvousSession) : Kept ses ses := ⟨rfl, fun _ _ _ => rfl⟩

theorem Kept.trans {a b c : Session RendezvousSession} (h : Kept a b) (h' : Kept b c) : Kept a c where
  data := h'.data.trans h.data
  finished t ht hlast := by
    obtain rfl := h.finished t ht hlast
    exact h'.finished t ht hlast

section Transition

variable {draws : Draws} {store : RendezvousStore P} {data : Bytes} {t : MessageType}
  {reply : Outcome Error Bytes} {before after : Session RendezvousSession}

/-- Nothing follows the second request. -/
theorem Transition.not_finished (h : Transition ud draws store data before t reply after) :
    ∀ t' ∈ finishedTypes, before.lastMessageType ≠ some t' := by
  intro t' ht' hlast
  cases h with
  | hello sequence _ => cases hlast.symm.trans sequence
  | ownerSign sequence _ _ =>
      cases hlast.symm.trans sequence
      exact absurd ht' (by decide)
  | helloRV sequence _ _ _ => cases hlast.symm.trans sequence
  | proveToRV sequence _ _ =>
      cases hlast.symm.trans sequence
      exact absurd ht' (by decide)

/-- A session that has seen a message is finished by the next one, which leaves its data alone. -/
theorem Transition.second (h : Transition ud draws store data before t reply after)
    (hlast : before.lastMessageType ≠ none) : after.data = before.data ∧
      ∃ t' ∈ finishedTypes, after.lastMessageType = some t' := by
  cases h with
  | hello sequence _ => exact absurd sequence hlast
  | ownerSign _ _ _ => exact ⟨rfl, _, by decide, rfl⟩
  | helloRV sequence _ _ _ => exact absurd sequence hlast
  | proveToRV _ _ _ => exact ⟨rfl, _, by decide, rfl⟩

theorem Transition.answered (h : Transition ud draws store data before t reply after) :
    after.lastMessageType ≠ none := by
  cases h with
  | hello _ _ => exact nofun
  | ownerSign _ _ _ => exact nofun
  | helloRV _ _ _ _ => exact nofun
  | proveToRV _ _ _ => exact nofun

/-- The nonces that a session was given. -/
def Holds (ses : Session RendezvousSession) (n : Nonce) : Prop :=
  ses.data.nonce3 = some n ∨ ses.data.nonce4 = some n

/-- The first request gives its session one nonce, the one it drew. -/
theorem Transition.first {id : String}
    (h : Transition ud draws store data ⟨id, none, none, default⟩ t reply after) {n : Nonce}
    (hn : Holds after n) : draws.nonce.map Subtype.val = some n.value := by
  cases h with
  | hello _ drawn =>
      rw [drawn]
      rcases hn with hn | hn
      · cases hn
        rfl
      · cases hn
  | ownerSign sequence _ _ => cases sequence
  | helloRV _ _ drawn _ =>
      rw [drawn]
      rcases hn with hn | hn
      · cases hn
      · cases hn
        rfl
  | proveToRV sequence _ _ => cases sequence

theorem Transition.of_ownerSign (h : Transition ud draws store data before .to0OwnerSign reply after) :
    before.lastMessageType = some .to0HelloAck := by
  cases h with
  | ownerSign sequence _ _ => exact sequence

theorem Transition.of_proveToRV (h : Transition ud draws store data before .to1ProveToRV reply after) :
    before.lastMessageType = some .to1HelloRVAck ∧ ∃ token guid nonce4 item,
      COSESign.deserializeData P data = .ok token ∧ Proof P store before token guid nonce4 item ∧
        reply = item.to1d.serializeData := by
  cases h with
  | proveToRV sequence decoded proof => exact ⟨sequence, _, _, _, _, decoded, proof, rfl⟩

/-- A guid comes into a session with HelloRV, together with the nonce that is sent back. -/
theorem Transition.of_guid {id : String} {guid : Guid} {nonce4 : Nonce}
    (h : Transition ud draws store data ⟨id, none, none, default⟩ t reply after)
    (hguid : after.data.deviceGuid = some guid) (hnonce : after.data.nonce4 = some nonce4) :
    t = .to1HelloRV ∧ ∃ msg ack, HelloRV.deserializeData P data = .ok msg ∧ msg.guid = guid ∧
      draws.nonce.map Subtype.val = some nonce4.value ∧ reply = HelloRVAck.serializeData P ack ∧
        ack.nonce4 = nonce4 := by
  cases h with
  | hello _ _ => cases hguid
  | ownerSign sequence _ _ => cases sequence
  | helloRV _ decoded drawn issued =>
      obtain rfl := Option.some.inj hnonce
      exact ⟨rfl, _, _, decoded, Option.some.inj hguid, by rw [drawn]; rfl, rfl, issued⟩
  | proveToRV sequence _ _ => cases sequence

end Transition

section Runs

variable {past : RendezvousPast P} {s : RendezvousState P} {input : RendezvousInput P}

theorem runs_answered (run : (service ud).Runs past s) {id : String} {ses : Session RendezvousSession}
    (hses : s.sessions id = some ses) : ses.lastMessageType ≠ none := by
  revert hses
  apply Service.Runs.sessions_induct (I := fun _ ses => ses.lastMessageType ≠ none) _ _ _ run
  · exact fun _ _ _ h => h
  · exact fun _ _ a _ _ => (acceptance_transition a).answered
  · exact fun _ _ a _ _ => (acceptance_transition a).answered

theorem acceptance_kept (run : (service ud).Runs past s) (a : Acceptance ud s input)
    (hstored : s.sessions a.id = some a.before) : Kept a.before a.after where
  data := ((acceptance_transition a).second (runs_answered run hstored)).1
  finished t ht hlast := absurd hlast ((acceptance_transition a).not_finished t ht)

/-- A stored session knows what the request that started it wrote. -/
theorem runs_started (run : (service ud).Runs past s) {id : String} {ses : Session RendezvousSession}
    (hses : s.sessions id = some ses) : ∃ m ∈ past, ∃ a : Acceptance ud m.1 m.2, a.id = id ∧
      a.before = ⟨id, none, none, default⟩ ∧ m.2.sessionId P = some id ∧ ses.data = a.after.data := by
  rw [← (run.stored hses).1]
  revert hses
  apply Service.Runs.sessions_induct (I := fun past ses => ∃ m ∈ past, ∃ a : Acceptance ud m.1 m.2,
    a.id = ses.id ∧ a.before = ⟨ses.id, none, none, default⟩ ∧ m.2.sessionId P = some ses.id ∧
      ses.data = a.after.data) _ _ _ run
  · rintro m past ses ⟨m', hm', hrest⟩
    exact ⟨m', List.mem_cons_of_mem _ hm', hrest⟩
  · intro past s input run ok a hnew hdrawn
    refine ⟨(s, input), List.mem_cons_self, a, a.after_id.symm, ?_, ?_, rfl⟩
    · rw [a.after_id]
      exact hnew
    · rw [a.after_id]
      exact hdrawn
  · intro past s input run ok a hstored hbefore
    obtain ⟨m, hm, a₀, hid, hnew, hdrawn, hdata⟩ := hbefore
    have hsame : a.after.id = a.before.id := a.after_id
    rw [hsame, (acceptance_kept run a hstored).data]
    exact ⟨m, List.mem_cons_of_mem _ hm, a₀, hid, hnew, hdrawn, hdata⟩

/-- The nonce of a stored session was drawn together with its id. -/
theorem runs_issued (run : (service ud).Runs past s) {id : String} {ses : Session RendezvousSession}
    (hses : s.sessions id = some ses) : ∃ m ∈ past, m.2.sessionId P = some id ∧
      ∀ n, Holds ses n → (service ud).drawnNonce m.2 = some n.value := by
  obtain ⟨m, hm, a, _, hnew, hdrawn, hdata⟩ := runs_started run hses
  refine ⟨m, hm, hdrawn, fun n hn => ?_⟩
  have hinput : (service ud).drawnNonce m.2 = (a.draws.nonce).map Subtype.val :=
    congrArg (service ud).drawnNonce a.isRequest
  have ht := acceptance_transition a
  rw [hnew] at ht
  rw [hinput]
  apply ht.first
  unfold Holds at hn ⊢
  rwa [hdata] at hn

/-- On one session no second request is accepted twice. -/
theorem second_once (run : (service ud).Runs past s) (a : Acceptance ud s input)
    (hstored : s.sessions a.id = some a.before) {m : RendezvousState P × RendezvousInput P} (hm : m ∈ past)
    (a' : Acceptance ud m.1 m.2) (hlast : a'.before.lastMessageType ≠ none) : a.id ≠ a'.id := by
  intro hid
  rw [hid] at hstored
  obtain ⟨_, t, ht, hfinished⟩ := (acceptance_transition a').second hlast
  have hkept : Kept a'.after a.before := Service.Runs.kept_after Kept.refl Kept.trans
    (fun run _ a h => acceptance_kept run a h) run m hm a' hstored
  have hsame := hkept.finished t ht hfinished
  rw [← hsame] at hfinished
  exact (acceptance_transition a).not_finished t ht hfinished

/-- A request that needs one before it continues a stored session. -/
theorem continues_stored (run : (service ud).Runs past s) (ok : (service ud).Allowed past s input)
    (a : Acceptance ud s input) (hlast : a.before.lastMessageType ≠ none) :
    s.sessions a.id = some a.before := by
  rcases run.origin ok a with hstored | ⟨hnew, _⟩
  · exact hstored
  · rw [hnew] at hlast
    exact absurd rfl hlast

/-- Nonces of sessions with accepted second requests are distinct. -/
theorem nonce_once (run : (service ud).Runs past s) (ok : (service ud).Allowed past s input)
    (a : Acceptance ud s input) (hlast : a.before.lastMessageType ≠ none)
    {m : RendezvousState P × RendezvousInput P} (hm : m ∈ past) (a' : Acceptance ud m.1 m.2)
    (hlast' : a'.before.lastMessageType ≠ none) {n : Nonce} (hn : Holds a.before n) :
    ¬ Holds a'.before n := by
  intro hn'
  have hstored := continues_stored run ok a hlast
  obtain ⟨past', run', ok', hsub⟩ := Run.of_mem run hm
  have hstored' := continues_stored run' ok' a' hlast'
  obtain ⟨m₁, hm₁, hid₁, hdrawn₁⟩ := runs_issued run hstored
  obtain ⟨m₂, hm₂, hid₂, hdrawn₂⟩ := runs_issued run' hstored'
  obtain rfl := run.nonce_unique hm₁ (hsub m₂ hm₂) (hdrawn₁ n hn) (hdrawn₂ n hn')
  exact second_once run a hstored hm a' hlast' (Option.some.inj (hid₁.symm.trans hid₂))

end Runs

end FidoOnboard.RendezvousServer
