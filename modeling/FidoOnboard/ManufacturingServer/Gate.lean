import FidoOnboard.ManufacturingServer.Sessions
import FidoOnboard.ManufacturingServer.Vouchers

/-!
# DIUN gates DI

With plain DI disabled, a SetHMAC that stores a voucher is the end of one journey:
Connect, RequestKeyParameters, ProvideKey, AppStart, all on its session.
-/
namespace FidoOnboard.ManufacturingServer
open Server VoucherRoundTrip

variable {P : Platform} {ud : ManufacturingServiceUD P}

/-! ## Requests that store a voucher -/

/-- This request has `set_hmac` store a voucher, whatever becomes of its session. -/
structure Stores (ud : ManufacturingServiceUD P) (s : ManufacturingState P) (input : ManufacturingInput P)
    (around : Surroundings) (draws : Draws) (req : HttpRequest) (info : Info) (hmac : HMac) (guid : Guid)
    (ov : OwnershipVoucher P) : Prop where
  isRequest : input = .request around draws req
  messageType : req.messageType = .diSetHMAC
  received : receive P (handlerDiSetHmac ud draws) around s.sessions req = .ok (info, hmac)
  built : newVoucher ud info.session hmac = .ok (guid, ov)
  stored : draws.storeDataFails = false

section Stores

variable {s : ManufacturingState P} {input : ManufacturingInput P} {around : Surroundings} {draws : Draws}
  {req : HttpRequest} {info : Info} {hmac : HMac} {guid : Guid} {ov : OwnershipVoucher P}

theorem Stores.sequence (h : Stores ud s input around draws req info hmac guid ov) :
    info.session.lastMessageType = some .diSetCredentials := by
  obtain ⟨t, ht, hlast⟩ := Message.after_eq_true (receive_received h.received).sequence
  obtain rfl := List.mem_singleton.mp ht
  exact hlast

theorem Stores.run_eq (h : Stores ud s input around draws req info hmac guid ov) :
    (handlerDiSetHmac ud draws).run s.userData info hmac =
      (⟨Function.update s.userData.vouchers guid (some ov)⟩, .ok ((), info)) := by
  have heq : setHmac ud draws s.userData info hmac =
      (⟨Function.update s.userData.vouchers guid (some ov)⟩, .ok ((), info)) := by
    simp [setHmac, h.built, h.stored]
  exact heq

/-- When the session can be written, the request is accepted. -/
theorem Stores.accepted (h : Stores ud s input around draws req info hmac guid ov)
    (hwritten : around.storeDataFails = false) :
    ∃ a : Acceptance ud s input, a.before = info.session ∧
      a.after.lastMessageType = some .diDone := by
  refine ⟨⟨around, draws, req, handlerDiSetHmac ud draws, info, hmac, (), info, h.isRequest, ?_,
    h.received, ?_, hwritten⟩, rfl, rfl⟩
  · change routes ud draws req.messageType = _
    rw [h.messageType]
    rfl
  · rw [h.run_eq]

end Stores

/-! ## What a session keeps from its credentials on -/

/-- The session of SetCredentials stays as it is until it is finished, and then for good. -/
structure Kept (ses ses' : Session ManufacturingSession) : Prop where
  waiting : ses.lastMessageType = some .diSetCredentials → ses' = ses ∨ ses'.lastMessageType = some .diDone
  finished : ses.lastMessageType = some .diDone → ses' = ses

theorem Kept.refl (ses : Session ManufacturingSession) : Kept ses ses := ⟨fun _ => .inl rfl, fun _ => rfl⟩

theorem Kept.trans {a b c : Session ManufacturingSession} (h : Kept a b) (h' : Kept b c) : Kept a c where
  waiting hlast := by
    rcases h.waiting hlast with rfl | hdone
    · exact h'.waiting hlast
    · exact .inr (h'.finished hdone ▸ hdone)
  finished hlast := by
    obtain rfl := h.finished hlast
    exact h'.finished hlast

/-- Before its credentials nothing is promised. -/
theorem Kept.early {ses ses' : Session ManufacturingSession} {t : Option MessageType}
    (hlast : ses.lastMessageType = t) (hearly : t ≠ some .diSetCredentials ∧ t ≠ some .diDone) :
    Kept ses ses' :=
  ⟨fun h => absurd (hlast.symm.trans h) hearly.1, fun h => absurd (hlast.symm.trans h) hearly.2⟩

theorem acceptance_kept {s : ManufacturingState P} {input : ManufacturingInput P}
    (a : Acceptance ud s input) : Kept a.before a.after := by
  obtain ⟨data, _, htransition⟩ := acceptance_transition a
  generalize a.before = before, a.after = after, a.req.messageType = t, a.h.encode a.reply = reply
    at htransition ⊢
  cases htransition with
  | connect sequence _ _ => exact .early sequence (by decide)
  | requestKeyParameters sequence _ => exact .early sequence (by decide)
  | provideKey sequence _ => exact .early sequence (by decide)
  | appStart sequence _ =>
      rcases sequence with sequence | sequence
      · exact .early sequence (by decide)
      · exact .early sequence (by decide)
  | setHmac sequence =>
      refine ⟨fun _ => .inr rfl, fun h => ?_⟩
      cases sequence.symm.trans h

/-! ## The journey through DIUN -/

/-- An accepted request of a type, on a session. -/
structure Completed (ud : ManufacturingServiceUD P) (t : MessageType) (id : String) where
  moment : ManufacturingState P × ManufacturingInput P
  acceptance : Acceptance ud moment.1 moment.2
  messageType : acceptance.req.messageType = t
  session : acceptance.id = id

/-- The body of an accepted request was read after decryption under `keys`. -/
def ReadUnder {s : ManufacturingState P} {input : ManufacturingInput P} (keys : EncryptionKeys)
    (a : Acceptance ud s input) : Prop :=
  ∃ data, keys.decrypt P a.req.body = .ok data ∧ a.h.decode data = .ok a.body

theorem readUnder_of_keys {s : ManufacturingState P} {input : ManufacturingInput P} {keys : EncryptionKeys}
    {a : Acceptance ud s input} (hkeys : a.before.encryptionKeys = some keys) : ReadUnder keys a := by
  obtain ⟨data, hdecrypt, hdecode⟩ := a.received.body
  refine ⟨data, ?_, hdecode⟩
  have hsession : a.info.session.keys = keys := by
    rw [Session.keys, show a.info.session.encryptionKeys = some keys from hkeys]
    rfl
  rwa [hsession] at hdecrypt

/-- The Connect of a session, with the keys that were derived in it. -/
structure Connected (ud : ManufacturingServiceUD P) (id : String) where
  connect : Completed ud .diunConnect id
  keys : EncryptionKeys
  derived : ∃ data msg accept, connect.acceptance.before.keys.decrypt P connect.acceptance.req.body =
    .ok data ∧ Diun.Connect.deserializeData P data = .ok msg ∧
    Agreed ud connect.acceptance.draws connect.acceptance.info.nonInteroperableKdf msg accept keys

/-- The three requests of DIUN on one session, with the key that was provided in the last. -/
structure DiunRun (ud : ManufacturingServiceUD P) (id : String) extends Connected ud id where
  requestKeyParameters : Completed ud .diunRequestKeyParameters id
  provideKey : Completed ud .diunProvideKey id
  publicKey : Bytes
  provided : ∃ data msg, keys.decrypt P provideKey.acceptance.req.body = .ok data ∧
    Diun.ProvideKey.deserializeData P data = .ok msg ∧ msg.publicKey = publicKey
  readUnder : ReadUnder keys provideKey.acceptance

/-- Latest first. -/
def DiunRun.moments {id : String} (d : DiunRun ud id) : ManufacturingPast P :=
  [d.provideKey.moment, d.requestKeyParameters.moment, d.connect.moment]

section Journey

variable {ms : ManufacturingPast P} {ses : Session ManufacturingSession}

theorem journey_accept (h : (service ud).Journey ms ses)
    (hlast : ses.lastMessageType = some .diunAccept) : ∃ c : Connected ud ses.id,
      ms = [c.connect.moment] ∧ ses.data.diunKeys = some c.keys := by
  obtain ⟨m, rest, rfl, a, rfl, hbefore⟩ := h.last
  obtain ⟨data, hdecrypt, htransition⟩ := acceptance_transition a
  generalize htype : a.req.messageType = t, a.h.encode a.reply = reply, a.after = after
    at htransition hlast
  cases htransition with
  | connect sequence decoded agreed =>
      obtain rfl : rest = [] := by
        rcases hbefore with ⟨_, hnil⟩ | hearlier
        · exact hnil
        · exact absurd sequence hearlier.answered
      exact ⟨⟨⟨m, a, htype, rfl⟩, _, data, _, _, hdecrypt, decoded, agreed⟩, rfl, rfl⟩
  | requestKeyParameters _ _ => cases hlast
  | provideKey _ _ => cases hlast
  | appStart _ _ => cases hlast
  | setHmac _ => cases hlast

/-- The keys of a Connect become those of the session. -/
theorem journey_provideKeyParameters (h : (service ud).Journey ms ses)
    (hlast : ses.lastMessageType = some .diunProvideKeyParameters) :
    ∃ (c : Connected ud ses.id) (r : Completed ud .diunRequestKeyParameters ses.id),
      ms = [r.moment, c.connect.moment] ∧ ses.encryptionKeys = some c.keys := by
  obtain ⟨m, rest, rfl, a, rfl, hbefore⟩ := h.last
  obtain ⟨data, hdecrypt, htransition⟩ := acceptance_transition a
  generalize htype : a.req.messageType = t, a.h.encode a.reply = reply, a.after = after
    at htransition hlast
  cases htransition with
  | requestKeyParameters sequence staged =>
      rcases hbefore with ⟨hnew, _⟩ | hearlier
      · rw [hnew] at sequence
        cases sequence
      · obtain ⟨c, rfl, hkeys⟩ := journey_accept hearlier sequence
        exact ⟨c, ⟨m, a, htype, rfl⟩, rfl, staged.symm.trans hkeys⟩
  | connect _ _ _ => cases hlast
  | provideKey _ _ => cases hlast
  | appStart _ _ => cases hlast
  | setHmac _ => cases hlast

theorem journey_done (h : (service ud).Journey ms ses)
    (hlast : ses.lastMessageType = some .diunDone) : ∃ d : DiunRun ud ses.id,
      ms = d.moments ∧ ses.encryptionKeys = some d.keys ∧
        ses.data.deviceKeyFromDiun = some d.publicKey := by
  obtain ⟨m, rest, rfl, a, rfl, hbefore⟩ := h.last
  obtain ⟨data, hdecrypt, htransition⟩ := acceptance_transition a
  generalize htype : a.req.messageType = t, a.h.encode a.reply = reply, a.after = after
    at htransition hlast
  cases htransition with
  | @provideKey msg mfg sequence decoded =>
      rcases hbefore with ⟨hnew, _⟩ | hearlier
      · rw [hnew] at sequence
        cases sequence
      · obtain ⟨c, r, rfl, hkeys⟩ := journey_provideKeyParameters hearlier sequence
        have hsession : a.before.keys = c.keys := by
          rw [Session.keys, hkeys]
          rfl
        rw [hsession] at hdecrypt
        exact ⟨⟨c, r, ⟨m, a, htype, rfl⟩, msg.publicKey, ⟨data, msg, hdecrypt, decoded, rfl⟩,
          readUnder_of_keys hkeys⟩, rfl, hkeys, rfl⟩
  | connect _ _ _ => cases hlast
  | requestKeyParameters _ _ => cases hlast
  | appStart _ _ => cases hlast
  | setHmac _ => cases hlast

/-- With plain DI disabled there are credentials only after DIUN. -/
theorem journey_setCredentials (hdi : ud.enableDi = false) (h : (service ud).Journey ms ses)
    (hlast : ses.lastMessageType = some .diSetCredentials) :
    ∃ (d : DiunRun ud ses.id) (start : Completed ud .diAppStart ses.id)
      (header : OwnershipVoucherHeader P) (msg : Di.AppStart) (mfgInfo : String) (chain : X5Chain P)
      (serialized : Bytes) (ders : List Bytes),
      ms = start.moment :: d.moments ∧ start.acceptance.after = ses ∧ ses.encryptionKeys = some d.keys ∧
      start.acceptance.h.encode start.acceptance.reply = header.serializeData ∧
      ReadUnder d.keys start.acceptance ∧
      start.acceptance.before.data.deviceKeyFromDiun = some d.publicKey ∧
      Started ud start.acceptance.draws start.acceptance.before msg header mfgInfo chain serialized ders ∧
      Remembers ses serialized ders := by
  obtain ⟨m, rest, rfl, a, rfl, hbefore⟩ := h.last
  obtain ⟨data, hdecrypt, htransition⟩ := acceptance_transition a
  generalize htype : a.req.messageType = t, hreply : a.h.encode a.reply = reply,
    hafter : a.after = after at htransition hlast
  cases htransition with
  | appStart sequence started =>
      rcases hbefore with ⟨hnew, _⟩ | hearlier
      · have hgate := started.gate
        rw [hnew, hdi] at hgate
        exact absurd hgate (by simp [default, instInhabitedManufacturingSession.default])
      · rcases sequence with hnone | hdone
        · exact absurd hnone hearlier.answered
        · obtain ⟨d, rfl, hkeys, hkey⟩ := journey_done hearlier hdone
          exact ⟨d, ⟨m, a, htype, rfl⟩, _, _, _, _, _, _, rfl, hafter, hkeys, hreply,
            readUnder_of_keys hkeys, hkey, started, rfl, rfl⟩
  | connect _ _ _ => cases hlast
  | requestKeyParameters _ _ => cases hlast
  | provideKey _ _ => cases hlast
  | setHmac _ => cases hlast

end Journey

/-! ## The gate -/

/-- The first certificate is the one made for the key that DIUN left in the session. -/
theorem deviceCertificateChain_leaf (laws : CertificateLaws P) {draws : Draws}
    {session : Session ManufacturingSession} {mfgInfo : String} {chain : X5Chain P} {publicKey : Bytes}
    (h : deviceCertificateChain ud draws session mfgInfo = .ok chain)
    (hkey : session.data.deviceKeyFromDiun = some publicKey) :
    ∃ cert key, chain.leafCertificate = some cert ∧ P.publicKeyFromDer publicKey = some key ∧
      P.x509PublicKey cert = some key := by
  obtain ⟨located, hlocated, h₁⟩ := Outcome.bind_eq_ok.mp h
  obtain rfl : located = some publicKey := by
    simp only [locatePublicKey, hkey] at hlocated
    exact (Outcome.ok.inj hlocated).symm
  obtain ⟨bytes, hbytes, h₂⟩ := Outcome.bind_eq_ok.mp h₁
  obtain ⟨key, hparsed, h₃⟩ := Outcome.bind_eq_ok.mp h₂
  obtain ⟨signer, _, h₄⟩ := Outcome.bind_eq_ok.mp h₃
  obtain ⟨cert, hcert, h₅⟩ := Outcome.bind_eq_ok.mp h₄
  obtain rfl := Outcome.ok.inj h₅
  obtain ⟨serial, _, hbuild⟩ := Outcome.bind_eq_ok.mp (orInternal_eq_ok.mp hcert)
  rw [Outcome.ofOption_eq_ok] at hbytes hparsed hbuild
  obtain rfl := Option.some.inj hbytes
  exact ⟨cert, key, rfl, hparsed, laws.build hbuild⟩

/-- All that stands behind a voucher that is stored with plain DI disabled. The credentials
are those of the reply of AppStart, which is what is sent unless the request fails at its end. -/
structure Gated (ud : ManufacturingServiceUD P) (past : ManufacturingPast P) (req : HttpRequest)
    (info : Info) (hmac : HMac) (guid : Guid) (ov : OwnershipVoucher P) (d : DiunRun ud info.session.id)
    (start : Completed ud .diAppStart info.session.id) : Prop where
  order : (start.moment :: d.moments).Sublist past
  all : ∀ m ∈ past, ∀ a : Acceptance ud m.1 m.2, a.id = info.session.id → m ∈ start.moment :: d.moments
  keys : d.keys.isSome = true
  appStart : ReadUnder d.keys start.acceptance
  setHmac : ∃ data, d.keys.decrypt P req.body = .ok data ∧ P.setHmac.deserializeData data = .ok hmac
  certificate : ∃ chain cert key, ov.deviceCertificateChain = some chain ∧
    chain.leafCertificate = some cert ∧ P.publicKeyFromDer d.publicKey = some key ∧
    P.x509PublicKey cert = some key
  credentials : ∃ (header : OwnershipVoucherHeader P) (serialized : Bytes), header.cachedGuid = guid ∧
    header.serializeData = .ok serialized ∧
    start.acceptance.h.encode start.acceptance.reply = header.serializeData ∧
    ∀ response, (service ud).respond start.moment.1 start.moment.2 = some response →
      response.messageType ≠ .present .error →
      ∃ data, d.keys.encrypt P serialized = .ok data ∧ response.body = some data

section Gate

variable {past : ManufacturingPast P} {s : ManufacturingState P} {input : ManufacturingInput P}
  {around : Surroundings} {draws : Draws} {req : HttpRequest} {info : Info} {hmac : HMac} {guid : Guid}
  {ov : OwnershipVoucher P}

theorem Stores.session_stored (run : (service ud).Runs past s)
    (h : Stores ud s input around draws req info hmac guid ov) :
    s.sessions info.session.id = some info.session :=
  run.received_stored h.received (by rw [h.sequence]; exact nofun)

theorem Stores.gated (elements : ElementLaws P) (certificates : CertificateLaws P)
    (hdi : ud.enableDi = false) (run : (service ud).Runs past s)
    (h : Stores ud s input around draws req info hmac guid ov) :
    ∃ (d : DiunRun ud info.session.id) (start : Completed ud .diAppStart info.session.id),
      Gated ud past req info hmac guid ov d start := by
  obtain ⟨ms, hsub, hjourney, hall⟩ := run.journey (h.session_stored run)
  obtain ⟨d, start, header, msg, mfgInfo, chain, serialized, ders, rfl, hafter, hkeys, hreply, hread,
    hkey, started, hremembers⟩ := journey_setCredentials hdi hjourney h.sequence
  obtain ⟨copy, made, hrebuilt, hnamed⟩ := started.rebuilt elements hremembers h.built
  have hsession : info.session.keys = d.keys := by
    rw [Session.keys, hkeys]
    rfl
  refine ⟨d, start, hsub, hall, ?_, hread, ?_, ?_, header, serialized, ?_, started.written, hreply, ?_⟩
  · obtain ⟨_, _, _, _, _, hagreed⟩ := d.derived
    exact hagreed.isSome
  · obtain ⟨data, hdecrypt, hdecode⟩ := (receive_received h.received).body
    rw [hsession] at hdecrypt
    exact ⟨data, hdecrypt, hdecode⟩
  · obtain ⟨cert, key, hleaf, hparsed, hcert⟩ :=
      deviceCertificateChain_leaf certificates started.certified hkey
    refine ⟨chain, cert, key, ?_, hleaf, hparsed, hcert⟩
    rw [OwnershipVoucher.deviceCertificateChain, hrebuilt.extended.chain,
      (voucher_new_elements hrebuilt.assembled).2.1]
  · exact hnamed.symm
  · intro response hrespond hmessage
    obtain ⟨a, val, data, hsent⟩ := Service.respond_sent hrespond hmessage
    obtain rfl := start.acceptance.unique a
    have hval : val = serialized := by
      have := hsent.written
      rw [hreply, started.written] at this
      exact (Outcome.ok.inj this).symm
    have hsealed : start.acceptance.info'.session.keys = d.keys :=
      (congrArg Session.keys hafter).trans hsession
    have hencrypted := hsent.encrypted
    rw [hval, hsealed] at hencrypted
    exact ⟨data, hencrypted, by rw [hsent.response]; rfl⟩

/-- A second voucher on a session takes a first request whose session was not written, and
goes under the same guid. -/
theorem Stores.again (run : (service ud).Runs past s)
    (h : Stores ud s input around draws req info hmac guid ov)
    {m : ManufacturingState P × ManufacturingInput P} (hm : m ∈ past) {around' : Surroundings}
    {draws' : Draws} {req' : HttpRequest} {info' : Info} {hmac' : HMac} {guid' : Guid}
    {ov' : OwnershipVoucher P} (h' : Stores ud m.1 m.2 around' draws' req' info' hmac' guid' ov')
    (hid : info'.session.id = info.session.id) : guid' = guid ∧ around'.storeDataFails = true := by
  have hstored := h.session_stored run
  obtain ⟨before, run', ok', _⟩ := Run.of_mem run hm
  have hstored' := h'.session_stored run'
  have keeps : ∀ {past s input}, (service ud).Runs past s → (service ud).Allowed past s input →
      ∀ a : Acceptance ud s input, s.sessions a.id = some a.before → Kept a.before a.after :=
    fun _ _ a _ => acceptance_kept a
  constructor
  · have hkept : Kept info'.session info.session :=
      Service.Runs.kept Kept.refl Kept.trans keeps run m hm (hid ▸ hstored') hstored
    have hsame : info.session = info'.session := by
      rcases hkept.waiting h'.sequence with hsame | hdone
      · exact hsame
      · cases h.sequence.symm.trans hdone
    obtain ⟨header, _, _, hbuilt⟩ := newVoucher_ok h.built
    obtain ⟨header', _, _, hbuilt'⟩ := newVoucher_ok h'.built
    have hheader := hbuilt.headerRead
    rw [hsame, hbuilt'.headerRead] at hheader
    rw [hbuilt.named, hbuilt'.named, Outcome.ok.inj hheader]
  · by_contra hwritten
    obtain ⟨a, hbefore, hdone⟩ := h'.accepted (Bool.eq_false_iff.mpr hwritten)
    have haid : a.id = info.session.id := by
      rw [← hid, ← hbefore]
      rfl
    have hkept : Kept a.after info.session :=
      Service.Runs.kept_after Kept.refl Kept.trans keeps run m hm a (haid ▸ hstored)
    have hfinished := hkept.finished hdone
    rw [← hfinished] at hdone
    cases h.sequence.symm.trans hdone

theorem Stores.step_eq (h : Stores ud s input around draws req info hmac guid ov) :
    ((service ud).step s input).userData.vouchers =
      Function.update s.userData.vouchers guid (some ov) := by
  have hroute : routes ud draws req.messageType = some (handlerDiSetHmac ud draws) := by
    rw [h.messageType]
    rfl
  rw [h.isRequest]
  exact congrArg (fun r => r.1.userData.vouchers) (serve_handled hroute h.received h.run_eq)

/-- Whoever stores a voucher with plain DI disabled came through DIUN, and stores a second
one only when the session of the first request was not written. -/
theorem diun_gates_di (elements : ElementLaws P) (certificates : CertificateLaws P)
    (hdi : ud.enableDi = false) (run : (service ud).Runs past s)
    (h : Stores ud s input around draws req info hmac guid ov) :
    ((service ud).step s input).userData.vouchers guid = some ov ∧
    (∃ (d : DiunRun ud info.session.id) (start : Completed ud .diAppStart info.session.id),
      Gated ud past req info hmac guid ov d start) ∧
    ∀ m ∈ past, ∀ {around' : Surroundings} {draws' : Draws} {req' : HttpRequest} {info' : Info}
      {hmac' : HMac} {guid' : Guid} {ov' : OwnershipVoucher P},
      Stores ud m.1 m.2 around' draws' req' info' hmac' guid' ov' →
      info'.session.id = info.session.id → guid' = guid ∧ around'.storeDataFails = true := by
  refine ⟨?_, h.gated elements certificates hdi run, fun m hm _ _ _ _ _ _ _ h' => h.again run hm h'⟩
  rw [h.step_eq]
  exact Function.update_self ..

end Gate

/-! ## A device that goes through -/

open Reference VoucherChain

def sampleUd : ManufacturingServiceUD (reference .release) where
  interoperableKdfAvailable := true
  publicKeyStore := none
  manufacturerCert := [1, 1, 1]
  manufacturerKey := some [1, 1]
  deviceCertKey := [6, 6]
  deviceCertChain := ⟨[[6, 6, 6]]⟩
  ownerCert := some (sampleKey 2)
  rendezvousInfo := []
  enableDi := false
  diunConfiguration := some ⟨.serialNumber, .secp256R1, [.fileSystem], [5, 1], sampleKey 5⟩

/-- Everything the server draws for its `k`-th request. -/
def sampleDraws (k : UInt8) : Draws where
  kex := ⟨fun _ => some [k], fun _ => some [k], fun n => some (List.replicate n k)⟩
  guid := some (.repeated k)
  serial := some [k]
  now := 0
  loadDataFails := false
  storeDataFails := false

/-- `fails` says whether the session is lost on the way back to its store. -/
def sampleRequest (k : UInt8) (cookie : String) (fails : Bool) (messageType : MessageType)
    (authorization : Option String) (body : Bytes) : ManufacturingInput (reference .release) :=
  .request ⟨cookie, 0, false, fails, false⟩ (sampleDraws k) ⟨messageType, authorization, false, body⟩

def sampleDeviceKex : KeyExchange := .ecdh .ecdh256 [0x77] (List.replicate 16 0x78)

/-- The keys as the device derives them from the server's half of the exchange. -/
def sampleKeys : Outcome Error EncryptionKeys := do
  let serverKex ← KeyExchange.new (sampleDraws 0).kex .ecdh256
  let serverPublic ← serverKex.getPublic (reference .release)
  let keys ← sampleDeviceKex.deriveKey (reference .release) true .device .a128Gcm serverPublic false
  .ok (.fromDerived .a128Gcm keys)

/-- DIUN with the device key `[8, 8]`, then AppStart. -/
def sampleInputs (keys : EncryptionKeys) :
    Outcome Error (List (ManufacturingInput (reference .release))) := do
  let devicePublic ← sampleDeviceKex.getPublic (reference .release)
  let connect ← (Diun.Connect.mk ⟨List.replicate 16 5⟩ .ecdh256 .a128Gcm devicePublic).serializeData
    (reference .release)
  let request ← (reference .release).requestKeyParameters.serializeData none
  let key ← (Diun.ProvideKey.mk [8, 8] .fileSystem).serializeData (reference .release)
  let key ← keys.encrypt (reference .release) key
  let start ← Di.AppStart.new (reference .release) "device"
  let start ← start.serializeData (reference .release)
  let start ← keys.encrypt (reference .release) start
  .ok [sampleRequest 0 "a" false .diunConnect none connect,
    sampleRequest 1 "b" false .diunRequestKeyParameters (some "Bearer a") request,
    sampleRequest 2 "c" false .diunProvideKey (some "Bearer a") key,
    sampleRequest 3 "d" false .diAppStart (some "Bearer a") start]

def sampleSetHmac (keys : EncryptionKeys) (k : UInt8) (cookie : String) (fails : Bool) :
    Outcome Error (ManufacturingInput (reference .release)) := do
  let hmac ← (reference .release).setHmac.serializeData ⟨.hmacSha384, [k]⟩
  let hmac ← keys.encrypt (reference .release) hmac
  .ok (sampleRequest k cookie fails .diSetHMAC (some "Bearer a") hmac)

/-- What a request of the sample would store. -/
def sampleStores (s : ManufacturingState (reference .release)) :
    ManufacturingInput (reference .release) →
      Outcome Error (Info × HMac × Guid × OwnershipVoucher (reference .release))
  | .request around draws req => do
    Outcome.check (req.messageType = .diSetHMAC ∧ draws.storeDataFails = false) .cose
    let (info, hmac) ← (receive (reference .release) (handlerDiSetHmac sampleUd draws) around s.sessions
      req).mapErr fun _ => .cose
    let (guid, ov) ← (newVoucher sampleUd info.session hmac).mapErr fun _ => .cose
    .ok (info, hmac, guid, ov)
  | _ => .err .cose

theorem sampleStores_stores {s : ManufacturingState (reference .release)}
    {input : ManufacturingInput (reference .release)} {info : Info} {hmac : HMac} {guid : Guid}
    {ov : OwnershipVoucher (reference .release)} (h : sampleStores s input = .ok (info, hmac, guid, ov)) :
    ∃ around draws req, Stores sampleUd s input around draws req info hmac guid ov := by
  cases input with
  | forget id => cases h
  | tend userData => cases h
  | request around draws req =>
      obtain ⟨_, hcheck, h₁⟩ := Outcome.bind_eq_ok.mp h
      obtain ⟨⟨info', hmac'⟩, hreceive, h₂⟩ := Outcome.bind_eq_ok.mp h₁
      obtain ⟨⟨guid', ov'⟩, hbuilt, h₃⟩ := Outcome.bind_eq_ok.mp h₂
      cases h₃
      rw [Outcome.check_eq_ok] at hcheck
      exact ⟨around, draws, req, rfl, hcheck.1, Outcome.mapErr_eq_ok.mp hreceive,
        Outcome.mapErr_eq_ok.mp hbuilt, hcheck.2⟩

def sampleServer : ManufacturingState (reference .release) := ⟨fun _ => none, ⟨fun _ => none⟩, fun _ => none⟩

theorem sample_runs {inputs : List (ManufacturingInput (reference .release))}
    (h : (∀ input ∈ inputs, input.isRequest = true) ∧ inputs.Pairwise (service sampleUd).Distinct) :
    (service sampleUd).Runs ((service sampleUd).replay [] sampleServer inputs).1
      ((service sampleUd).replay [] sampleServer inputs).2 :=
  Service.Runs.replay (.start fun _ => rfl) h.1 h.2 fun _ hm => absurd hm List.not_mem_nil

def startsDi : ManufacturingInput P → Bool
  | .request _ _ req => req.messageType = .diAppStart
  | _ => false

def appStarts (past : ManufacturingPast P) : Nat := past.countP fun m => startsDi m.2

/-- The session of the first SetHMAC is lost on its way back, so a second one is let through. -/
def twoVouchers : Outcome Error Unit := do
  let keys ← sampleKeys
  let inputs ← sampleInputs keys
  let first ← sampleSetHmac keys 4 "e" true
  let second ← sampleSetHmac keys 5 "f" false
  let before := ((service sampleUd).replay [] sampleServer inputs).2
  let run := (service sampleUd).replay [] sampleServer (inputs ++ [first])
  let (info', _, _, ov') ← sampleStores before first
  let (info, _, _, ov) ← sampleStores run.2 second
  Outcome.check ((∀ input ∈ inputs ++ [first], input.isRequest = true) ∧
    (inputs ++ [first]).Pairwise (service sampleUd).Distinct) Error.cose
  Outcome.check (info'.session.id = info.session.id ∧ ov'.cachedHeaderHmac ≠ ov.cachedHeaderHmac ∧
    appStarts run.1 = 1) Error.cose

theorem twoVouchers_ok : ∃ (inputs : List (ManufacturingInput (reference .release)))
    (first second : ManufacturingInput (reference .release)) (info' : Info) (hmac' : HMac) (guid' : Guid)
    (ov' : OwnershipVoucher (reference .release)) (info : Info) (hmac : HMac) (guid : Guid)
    (ov : OwnershipVoucher (reference .release)),
    sampleStores ((service sampleUd).replay [] sampleServer inputs).2 first = .ok (info', hmac', guid', ov') ∧
    sampleStores ((service sampleUd).replay [] sampleServer (inputs ++ [first])).2 second =
      .ok (info, hmac, guid, ov) ∧
    ((∀ input ∈ inputs ++ [first], input.isRequest = true) ∧
      (inputs ++ [first]).Pairwise (service sampleUd).Distinct) ∧
    info'.session.id = info.session.id ∧ ov'.cachedHeaderHmac ≠ ov.cachedHeaderHmac ∧
    appStarts ((service sampleUd).replay [] sampleServer (inputs ++ [first])).1 = 1 := by
  have hrun : twoVouchers.isOk = true := by decide +kernel
  obtain ⟨_, h⟩ := Outcome.isOk_iff.mp hrun
  obtain ⟨keys, _, h₁⟩ := Outcome.bind_eq_ok.mp h
  obtain ⟨inputs, _, h₂⟩ := Outcome.bind_eq_ok.mp h₁
  obtain ⟨first, _, h₃⟩ := Outcome.bind_eq_ok.mp h₂
  obtain ⟨second, _, h₄⟩ := Outcome.bind_eq_ok.mp h₃
  obtain ⟨⟨info', hmac', guid', ov'⟩, hfirst, h₅⟩ := Outcome.bind_eq_ok.mp h₄
  obtain ⟨⟨info, hmac, guid, ov⟩, hsecond, h₆⟩ := Outcome.bind_eq_ok.mp h₅
  obtain ⟨_, hinputs, hfacts⟩ := Outcome.bind_eq_ok.mp h₆
  exact ⟨inputs, first, second, info', hmac', guid', ov', info, hmac, guid, ov, hfirst, hsecond,
    Outcome.check_eq_ok.mp hinputs, Outcome.check_eq_ok.mp hfacts⟩

theorem diun_gates_di_sample : ∃ past s input around draws req info hmac guid ov,
    (service sampleUd).Runs past s ∧ Stores sampleUd s input around draws req info hmac guid ov ∧
    ∃ (d : DiunRun sampleUd info.session.id) (start : Completed sampleUd .diAppStart info.session.id),
      Gated sampleUd past req info hmac guid ov d start := by
  obtain ⟨inputs, first, second, info, hmac, guid, ov, _, _, _, _, hfirst, _, hinputs, _⟩ := twoVouchers_ok
  obtain ⟨around, draws, req, hstores⟩ := sampleStores_stores hfirst
  have run := sample_runs ⟨fun input h => hinputs.1 input (List.mem_append_left _ h),
    (List.pairwise_append.mp hinputs.2).1⟩
  exact ⟨_, _, first, around, draws, req, info, hmac, guid, ov, run, hstores,
    (diun_gates_di (elementLaws .release) (certificateLaws .release) rfl run hstores).2.1⟩

/-- The session of the first SetHMAC is lost on its way back, so a second one is let
through and stores another voucher. -/
theorem two_vouchers_from_one_appStart :
    ∃ past s input around draws req info hmac guid ov m around' draws' req' info' hmac' guid' ov',
      (service sampleUd).Runs past s ∧ Stores sampleUd s input around draws req info hmac guid ov ∧
      m ∈ past ∧ Stores sampleUd m.1 m.2 around' draws' req' info' hmac' guid' ov' ∧
      info'.session.id = info.session.id ∧ ov'.cachedHeaderHmac ≠ ov.cachedHeaderHmac ∧
      appStarts past = 1 := by
  obtain ⟨inputs, first, second, info', hmac', guid', ov', info, hmac, guid, ov, hfirst, hsecond, hinputs,
    hid, hdiffer, honce⟩ := twoVouchers_ok
  obtain ⟨around', draws', req', hstores'⟩ := sampleStores_stores hfirst
  obtain ⟨around, draws, req, hstores⟩ := sampleStores_stores hsecond
  refine ⟨_, _, second, around, draws, req, info, hmac, guid, ov,
    (((service sampleUd).replay [] sampleServer inputs).2, first), around', draws', req', info', hmac',
    guid', ov', sample_runs hinputs, hstores, ?_, hstores', hid, hdiffer, honce⟩
  rw [Service.replay_concat]
  exact List.mem_cons_self

end FidoOnboard.ManufacturingServer
