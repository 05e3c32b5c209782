import FidoOnboard.HttpWrapper.Runs
import FidoOnboard.ManufacturingServer.Handlers

/-!
# DIUN and DI on one session

The keys of a Connect wait in the session until the next request, and become the
keys of the session there. What DIUN leaves in the session opens DI.
-/
namespace FidoOnboard.ManufacturingServer
open Server

variable {P : Platform}

theorem routes_keepsId {ud : ManufacturingServiceUD P} {draws : Draws} {t : MessageType}
    {h : ManufacturingHandler P} {store : VoucherStore P} {info info' : Info} {body : h.Body}
    {reply : h.Reply} (hroute : routes ud draws t = some h)
    (hrun : (h.run store info body).2 = .ok (reply, info')) : info'.session.id = info.session.id := by
  unfold routes at hroute
  split at hroute
  · cases hroute
    obtain ⟨_, _, rfl⟩ := connect_ok hrun
    rfl
  · cases hroute
    obtain ⟨_, _, rfl⟩ := requestKeyParameters_ok hrun
    rfl
  · cases hroute
    rw [provideKey_ok hrun]
    rfl
  · cases hroute
    obtain ⟨_, _, _, _, _, rfl⟩ := appStart_ok hrun
    rfl
  · cases hroute
    rw [(setHmac_ok hrun).1]
  · cases hroute

/-- The manufacturing server. Anything may happen to its vouchers between requests. -/
def service (ud : ManufacturingServiceUD P) : Service P Draws (VoucherStore P) ManufacturingSession where
  interoperableKdfAvailable := ud.interoperableKdfAvailable
  routes := routes ud
  nonce _ := none
  tended _ _ := True
  keepsId := routes_keepsId

abbrev ManufacturingState (P : Platform) := State (VoucherStore P) ManufacturingSession

abbrev ManufacturingInput (P : Platform) := Input Draws (VoucherStore P)

abbrev ManufacturingPast (P : Platform) := Service.Past (VoucherStore P) ManufacturingSession Draws

abbrev Acceptance (ud : ManufacturingServiceUD P) := (service ud).Acceptance

/-- What an accepted request makes of its session, by message; `data` is its body after
decryption, and the last index but one its reply before it is written. -/
inductive Transition (ud : ManufacturingServiceUD P) (draws : Draws) (kdf : Bool) (data : Bytes)
    (before : Session ManufacturingSession) :
    MessageType → Outcome Error Bytes → Session ManufacturingSession → Prop where
  | connect {msg : Diun.Connect} {accept : COSESign P} {keys : EncryptionKeys}
      (sequence : before.lastMessageType = none)
      (decoded : Diun.Connect.deserializeData P data = .ok msg)
      (agreed : Agreed ud draws kdf msg accept keys) :
      Transition ud draws kdf data before .diunConnect accept.serializeData { before with
        lastMessageType := some .diunAccept
        data := { before.data with diunKeys := some keys } }
  | requestKeyParameters {params : Diun.ProvideKeyParameters} {keys : EncryptionKeys}
      (sequence : before.lastMessageType = some .diunAccept)
      (staged : before.data.diunKeys = some keys) :
      Transition ud draws kdf data before .diunRequestKeyParameters (params.serializeData P) { before with
        lastMessageType := some .diunProvideKeyParameters
        encryptionKeys := some keys
        data := { before.data with diunKeys := none } }
  | provideKey {msg : Diun.ProvideKey} {mfg : MfgStringType}
      (sequence : before.lastMessageType = some .diunProvideKeyParameters)
      (decoded : Diun.ProvideKey.deserializeData P data = .ok msg) :
      Transition ud draws kdf data before .diunProvideKey (P.diunDone.serializeData mfg) { before with
        lastMessageType := some .diunDone
        data := { before.data with
          deviceKeyFromDiun := some msg.publicKey, performedDiun := some true } }
  | appStart {msg : Di.AppStart} {header : OwnershipVoucherHeader P} {mfgInfo : String}
      {chain : X5Chain P} {serialized : Bytes} {ders : List Bytes}
      (sequence : before.lastMessageType = none ∨ before.lastMessageType = some .diunDone)
      (started : Started ud draws before msg header mfgInfo chain serialized ders) :
      Transition ud draws kdf data before .diAppStart header.serializeData { before with
        lastMessageType := some .diSetCredentials
        data := { before.data with
          ovHeader := some (String.ofList (Hex.encode serialized)), deviceCertificate := some ders } }
  | setHmac (sequence : before.lastMessageType = some .diSetCredentials) :
      Transition ud draws kdf data before .diSetHMAC (P.diDone.serializeData ())
        { before with lastMessageType := some .diDone }

variable {ud : ManufacturingServiceUD P}

/-- A body is read after decryption under the keys its session had. -/
theorem acceptance_transition {s : ManufacturingState P} {input : ManufacturingInput P}
    (a : Acceptance ud s input) : ∃ data, a.before.keys.decrypt P a.req.body = .ok data ∧
      Transition ud a.draws a.info.nonInteroperableKdf data a.before a.req.messageType
        (a.h.encode a.reply) a.after := by
  have hreceived := a.received
  have hhandled := a.accepted.handled
  have hroute := a.route
  obtain ⟨data, hdecrypt, hdecode⟩ := hreceived.body
  refine ⟨data, hdecrypt, ?_⟩
  have hsequence := hreceived.sequence
  clear hreceived hdecrypt
  unfold Service.Acceptance.before Service.Acceptance.after
  obtain ⟨around, draws, req, h, info, body, reply, info', isRequest, _, _⟩ := a
  simp only at hhandled hroute hsequence hdecode ⊢
  change routes ud draws req.messageType = some h at hroute
  unfold routes at hroute
  split at hroute
  next hm =>
    cases hroute
    obtain ⟨keys, hagreed, rfl⟩ := connect_ok hhandled
    exact hm ▸ .connect (Option.isNone_iff_eq_none.mp hsequence) hdecode hagreed
  next hm =>
    cases hroute
    obtain ⟨keys, hstaged, rfl⟩ := requestKeyParameters_ok hhandled
    obtain ⟨t, ht, hlast⟩ := Message.after_eq_true hsequence
    obtain rfl := List.mem_singleton.mp ht
    exact hm ▸ .requestKeyParameters hlast hstaged
  next hm =>
    cases hroute
    obtain rfl := provideKey_ok hhandled
    obtain ⟨t, ht, hlast⟩ := Message.after_eq_true hsequence
    obtain rfl := List.mem_singleton.mp ht
    exact hm ▸ .provideKey hlast hdecode
  next hm =>
    cases hroute
    obtain ⟨mfgInfo, chain, serialized, ders, hstarted, rfl⟩ := appStart_ok hhandled
    refine hm ▸ .appStart ?_ hstarted
    rcases Bool.or_eq_true_iff.mp hsequence with hnone | hafter
    · exact .inl (Option.isNone_iff_eq_none.mp hnone)
    · obtain ⟨t, ht, hlast⟩ := Message.after_eq_true hafter
      obtain rfl := List.mem_singleton.mp ht
      exact .inr hlast
  next hm =>
    cases hroute
    obtain ⟨rfl, _⟩ := setHmac_ok hhandled
    obtain ⟨t, ht, hlast⟩ := Message.after_eq_true hsequence
    obtain rfl := List.mem_singleton.mp ht
    exact hm ▸ .setHmac hlast
  next => cases hroute

/-- The keys that waited in the session become its keys. -/
theorem staged_keys {s : ManufacturingState P} {input : ManufacturingInput P} (a : Acceptance ud s input)
    (htype : a.req.messageType = .diunRequestKeyParameters) :
    a.after.encryptionKeys = a.before.data.diunKeys := by
  obtain ⟨data, _, htransition⟩ := acceptance_transition a
  rw [htype] at htransition
  generalize a.before = before, a.after = after, a.h.encode a.reply = reply at htransition ⊢
  cases htransition with
  | requestKeyParameters _ staged => exact staged.symm

end FidoOnboard.ManufacturingServer
