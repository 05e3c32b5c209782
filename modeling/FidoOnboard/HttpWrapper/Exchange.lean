import FidoOnboard.HttpWrapper.Shared

/-!
# One exchange of a session

A client and its session on a server that others use too, in the clear or under keys.
-/
namespace FidoOnboard.Shared
open Server

variable {P : Platform} {ρ σ δ : Type} [Inhabited δ] {S : Service P ρ σ δ} {turns : Nat → Turn ρ σ}

/-- The requirement that a connection with these keys, or without, meets. -/
def demanded (encrypted : Bool) : EncryptionRequirement :=
  if encrypted then .mustBeEncrypted else .mustNotBeEncrypted

theorem requirementMet_demanded {ε : Type} (encrypted : Bool) (unsatisfied : EncryptionRequirement → ε) :
    requirementMet (some (demanded encrypted)) encrypted unsatisfied = .ok () := by
  cases encrypted with
  | true => rfl
  | false => rfl

/-! ## The server's side -/

section Served

variable {h : Handler σ δ} {around : Surroundings} {store : SessionStore δ} {ses : Session δ} {data : Bytes}
  {body : h.Body}

/-- A message that is read under the keys of its session. -/
structure Legible (P : Platform) (h : Handler σ δ) (ses : Session δ) (data : Bytes) (body : h.Body) : Prop where
  length : data.length ≤ contentLengthLimit
  digest : ∃ digest, P.hash .sha256 data = some digest
  sequence : h.im.isValidPreviousMessage ses.lastMessageType = true
  requirement : h.im.encryptionRequirement = some (demanded ses.keys.isSome)
  decoded : ∃ plain, ses.keys.decrypt P data = .ok plain ∧ h.decode plain = .ok body

theorem Legible.receive (hl : Legible P h ses data body) (messageType : MessageType) (kdf : Bool)
    {authorization cookie : Option String}
    (hopen : openSession P h.im around store authorization = .ok (ses, cookie)) :
    ∃ reqHash, Server.receive P h around store ⟨messageType, authorization, kdf, data⟩ =
      .ok (⟨ses, cookie, reqHash, kdf⟩, body) := by
  obtain ⟨digest, hdigest⟩ := hl.digest
  obtain ⟨plain, hdecrypt, hdecode⟩ := hl.decoded
  have hhash : Hash.fromData P .sha256 data = .ok ⟨.sha256, digest⟩ :=
    Hash.fromData_eq_ok.mpr ⟨rfl, .sha256, rfl, hdigest⟩
  have hparse : parseRequest P h.im h.decode data ses = .ok body := by
    have hkeys : ses.encryptionKeys.getD .unencrypted = ses.keys := rfl
    simp only [parseRequest, hl.sequence, hl.requirement, Outcome.check, if_true, Outcome.ok_bind, hkeys,
      requirementMet_demanded, hdecrypt, Outcome.mapErr_ok, hdecode]
  refine ⟨⟨.sha256, digest⟩, ?_⟩
  refine Outcome.bind_eq_ok.mpr ⟨⟨⟩, Outcome.check_eq_ok.mpr hl.length, ?_⟩
  refine Outcome.bind_eq_ok.mpr ⟨_, hopen, ?_⟩
  refine Outcome.bind_eq_ok.mpr ⟨_, Outcome.unwrap_eq_ok.mpr hhash, ?_⟩
  exact Outcome.bind_eq_ok.mpr ⟨body, hparse, rfl⟩

omit [Inhabited δ] in
/-- The end of a request when the store works, under the keys the handler has left. -/
theorem conclude_ok {kdf : Bool} {info : RequestInformation δ} (hdata : around.storeDataFails = false)
    (hmeta : around.storeMetadataFails = false)
    (hrequirement : h.om.encryptionRequirement = some (demanded info.session.keys.isSome)) {reply : h.Reply}
    {val bytes : Bytes} (hencode : h.encode reply = .ok val) (hencrypt : info.session.keys.encrypt P val = .ok bytes) :
    conclude P kdf h around store reply info =
      (Function.update store info.session.id (some (info.answered h.om)),
        .ok (toResponse kdf true h.om.messageType bytes info.cookieValue)) := by
  have hkeys : info.session.encryptionKeys.getD .unencrypted = info.session.keys := rfl
  simp only [conclude, storeSession, hdata, hmeta, Bool.false_eq_true, if_false, hkeys, Outcome.ok_bind,
    hencode, serializeResponse, encryptAndGenerateResponse, hrequirement, requirementMet_demanded, hencrypt,
    Outcome.mapErr_ok]

end Served

/-! ## Both sides -/

/-- A client and its session, between two exchanges. -/
structure Joined (c : ServiceClient (peer S turns)) (id : String) (ses : Session δ) : Prop where
  token : ∃ hdr, c.authorizationToken = some hdr ∧ P.idFromCookieValue (bearerToken hdr) = some id
  stored : c.peer.2.sessions id = some ses
  own : ses.id = id
  last : c.lastMessageType = ses.lastMessageType
  keys : c.encryptionKeys = ses.keys
  named : Named c.peer.2

/-- The client after an exchange that leaves these stores and this session. -/
def exchanged (c : ServiceClient (peer S turns)) (sm : Message) (newKeys : Option EncryptionKeys) (userData : σ)
    (ses' : Session δ) : ServiceClient (peer S turns) :=
  { c with
    encryptionKeys := newKeys.getD c.encryptionKeys
    lastMessageType := some sm.messageType
    nonInteroperableKdfRequired :=
      some (c.nonInteroperableKdfRequired.getD (!S.interoperableKdfAvailable))
    peer := (c.peer.1 + 1, ⟨Function.update (found c).sessions ses'.id
      (some { ses' with lastMessageType := some sm.messageType }), userData,
      storeSessionTtl (turn c).around (found c).sessionTtls ses'.id⟩) }

/-- What an exchange leaves of the client and of the stores. -/
structure Passed (c c' : ServiceClient (peer S turns)) (userData : σ) : Prop where
  turn : c'.peer.1 = c.peer.1 + 1
  stores : c'.peer.2.userData = userData
  build : c'.interoperableKdfAvailable = c.interoperableKdfAvailable
  told : c'.nonInteroperableKdfRequired =
    some (c.nonInteroperableKdfRequired.getD (!S.interoperableKdfAvailable))

/-- A message that the session expects, which its handler answers, and whose answer is read. -/
structure Exchange {α : Type} (c : ServiceClient (peer S turns)) (id : String) (ses ses' : Session δ)
    (om sm : Message) (newKeys : Option EncryptionKeys) (data : Bytes) (h : Handler σ δ)
    (decode : Bytes → Outcome Error α) (value : α) (userData : σ) : Prop where
  works : (turn c).Works
  apart : ∀ input ∈ (turn c).others, Elsewhere P id input
  route : S.routes (turn c).draws om.messageType = some h
  request : h.im = om
  response : h.om = sm
  sequence : om.isValidPreviousMessage ses.lastMessageType = true
  follows : sm.isValidPreviousMessage (some om.messageType) = true
  requirement : om.encryptionRequirement = some (demanded ses.keys.isSome)
  replyRequirement : sm.encryptionRequirement = some (demanded (newKeys.getD ses.keys).isSome)
  secured : ∀ keys ∈ newKeys, keys.isSome = true
  sent : ∃ bytes, ses.keys.encrypt P data = .ok bytes ∧ bytes.length ≤ contentLengthLimit
  digests : ∀ bytes, ∃ digest, P.hash .sha256 bytes = some digest
  own : ses'.id = id
  keys : ses'.keys = newKeys.getD ses.keys
  handled : ∃ body, h.decode data = .ok body ∧ ∀ reqHash, ∃ reply val bytes,
    h.run (found c).userData ⟨ses, none, reqHash, !c.interoperableKdfAvailable⟩ body =
      (userData, .ok (reply, ⟨ses', none, reqHash, !c.interoperableKdfAvailable⟩)) ∧
    h.encode reply = .ok val ∧ ses'.keys.encrypt P val = .ok bytes ∧ decode val = .ok value

theorem Exchange.done (ciphers : CipherLaws P) {α : Type} {c : ServiceClient (peer S turns)} {id : String}
    {ses ses' : Session δ} {om sm : Message} {newKeys : Option EncryptionKeys} {data : Bytes} {h : Handler σ δ}
    {decode : Bytes → Outcome Error α} {value : α} {userData : σ} (hj : Joined c id ses)
    (e : Exchange c id ses ses' om sm newKeys data h decode value userData) : ∃ c',
      c.sendRequest P om sm (.ok data) decode newKeys = .ok (value, c') ∧
      Joined c' id { ses' with lastMessageType := some sm.messageType } ∧ Passed c c' userData := by
  obtain ⟨hdr, htoken, hid⟩ := hj.token
  obtain ⟨bytes, hencrypt, hlen⟩ := e.sent
  obtain ⟨body, hdecode, hhandled⟩ := e.handled
  have hstored : (found c).sessions id = some ses := (after_elsewhere hj.named e.apart).trans hj.stored
  have hlegible : Legible P h ses bytes body :=
    ⟨hlen, e.digests bytes, e.request ▸ e.sequence, e.request ▸ e.requirement, data,
      EncryptionKeys.decrypt_encrypt ciphers hencrypt, hdecode⟩
  obtain ⟨reqHash, hreceive⟩ := hlegible.receive om.messageType (!c.interoperableKdfAvailable)
    (openSession_stored (found c).sessions e.works.load hid hstored)
  obtain ⟨reply, val, answer, hrun, hencode, hanswer, hvalue⟩ := hhandled reqHash
  have hreply : h.om.encryptionRequirement = some (demanded ses'.keys.isSome) := by
    rw [e.response, e.keys]
    exact e.replyRequirement
  have hserve : serve P S.interoperableKdfAvailable (S.routes (turn c).draws) (turn c).around (found c)
      ⟨om.messageType, some hdr, !c.interoperableKdfAvailable, bytes⟩ = _ :=
    serve_handled e.route hreceive hrun
  rw [conclude_ok e.works.data e.works.metadata hreply hencode hanswer, e.response] at hserve
  have hrespond : (peer S turns).respond c.peer
      ⟨om.messageType, c.authorizationToken, !c.interoperableKdfAvailable, bytes⟩ =
        ((c.peer.1 + 1, ⟨Function.update (found c).sessions ses'.id
          (some { ses' with lastMessageType := some sm.messageType }), userData,
          storeSessionTtl (turn c).around (found c).sessionTtls ses'.id⟩),
          some (toResponse S.interoperableKdfAvailable true sm.messageType answer none)) := by
    rw [htoken]
    have hstep := congrArg Prod.fst hserve
    have hrespond := congrArg Prod.snd hserve
    exact Prod.ext (Prod.ext rfl hstep) hrespond
  have hclient : (c.encryptionKeys.isSome || newKeys.isSome) = (newKeys.getD ses.keys).isSome := by
    rw [hj.keys]
    cases hnew : newKeys with
    | none => simp
    | some keys => simp [e.secured keys hnew]
  have hdecrypt : (newKeys.getD ses.keys).decrypt P answer = .ok val := by
    rw [← e.keys]
    exact EncryptionKeys.decrypt_encrypt ciphers hanswer
  have hkeys : c.encryptionKeys = ses.keys := hj.keys
  have hlast : c.lastMessageType = ses.lastMessageType := hj.last
  refine ⟨exchanged c sm newKeys userData ses', ?_, ?_, rfl, rfl, rfl, rfl⟩
  · rw [hkeys] at hclient
    simp only [ServiceClient.sendRequest, hlast, e.sequence, e.follows, hkeys, e.requirement, e.replyRequirement,
      hclient, Outcome.check, if_true, Outcome.ok_bind, requirementMet_demanded, Outcome.mapErr_ok, hencrypt,
      hrespond, Outcome.ofOption, ServiceClient.responseType, toResponse, Option.map_none, hdecrypt, hvalue]
    rw [exchanged, hkeys]
  · exact
      { token := ⟨hdr, htoken, hid⟩
        stored := by
          rw [← e.own]
          exact Function.update_self ..
        own := e.own
        last := rfl
        keys := by
          rw [exchanged, hkeys]
          exact e.keys.symm
        named := Named.update (after_named hj.named _) { ses' with lastMessageType := some sm.messageType } userData _ }

end FidoOnboard.Shared
