import FidoOnboard.Client.Retry
import FidoOnboard.Client.To1
import FidoOnboard.DataFormats.EatClaims
import FidoOnboard.DataFormats.ReferenceJson
import FidoOnboard.HttpWrapper.Shared
import FidoOnboard.Protocol.VoucherTransfer
import FidoOnboard.RendezvousServer.Agreement

/-!
# A device at the rendezvous server

The two requests of TO1 against the server that runs TO0 and TO1, with anything
that others do there before each of them.
-/
namespace FidoOnboard.Redirection
open Server RendezvousServer Client Shared VoucherTransfer VoucherExtend
open CborGrammar CborParser EATokenPayload

variable {P : Platform}

/-- What TO1 relies on: a hash of each request, small messages that arrive, and claims that
come back as the same map. -/
structure To1Laws (P : Platform) : Prop where
  sha256 : ∀ data, ∃ digest, P.hash .sha256 data = some digest
  helloRV : ∀ guid : Bytes, guid.length = 16 → ∃ data,
    P.helloRV.intoWriter (guid, ⟨.stSECP384R1, []⟩) = some data ∧ data.length ≤ contentLengthLimit ∧
      P.helloRV.fromSlice data = some (guid, ⟨.stSECP384R1, []⟩)
  helloRVAck : ∀ nonce : Bytes, nonce.length = 16 → ∃ data,
    P.helloRVAck.intoWriter (nonce, ⟨.stSECP384R1, []⟩) = some data ∧
      P.helloRVAck.fromSlice data = some (nonce, ⟨.stSECP384R1, []⟩)
  values : ByteValueLaws P
  claims : ∀ {nonceValue ueidValue : P.Value} {nonce ueid : Bytes}, P.valueToBytes nonceValue = some nonce →
    P.valueToBytes ueidValue = some ueid → nonce.length = 16 → ueid.length = 17 → ∃ payload claims,
      P.headerMap.intoWriter (claimsOf none nonceValue ueidValue) = some payload ∧ payload.length ≤ 128 ∧
        P.headerMap.fromSlice payload = some claims ∧
          ∀ key, claims.lookup key = (claimsOf none nonceValue ueidValue).lookup key

/-- A device that can sign for `key`, and whose short tokens fit into a request. -/
structure Signer (tools : DeviceTools P) (devcred : DeviceCredential) (signKey : P.PrivateKey) (key : P.PKey) :
    Prop where
  guid : devcred.guid.value.length = 16
  signer : tools.getSigner devcred.keyStorage = some signKey
  signs : SignsFor P signKey key
  short : ∀ {payload data : Bytes} {c : P.CoseSign1}, payload.length ≤ 128 → P.coseNew payload [] signKey = some c →
    P.coseIntoWriter c = some data → data.length < contentLengthLimit

/-! ## The token -/

/-- A token that the library can make, write and read again. -/
theorem token_made {payload : Bytes} {unprotectedValues : List (Int × P.Value)} {privateKey : P.PrivateKey}
    {c : P.CoseSign1} {items : List Bytes} (hnew : P.coseNew payload unprotectedValues privateKey = some c)
    (hlen : items.length = 4) (hitems : ∀ x ∈ items, WellFormed .bounded x)
    (hwrite : P.coseIntoWriter c = some (0x84 :: items.flatten))
    (hback : P.coseFromBytes (0xd2 :: 0x84 :: items.flatten) = some c) : ∃ signed,
      COSESign.new P payload unprotectedValues privateKey = .ok signed ∧ signed.cachedInner = c ∧
      rewritten signed = 0xd2 :: 0x84 :: items.flatten ∧
      COSESign.deserializeData P (rewritten signed) = .ok (reread signed) := by
  have hmachine : ∀ x ∈ items, WellFormed (.machine P.profile) x :=
    fun x hx => CborExact.bounded_to_machine P.profile (hitems x hx)
  have hread : ParsedArray.deserializeFromReader P.profile size4 (0x84 :: items.flatten) =
      .ok (⟨none, some [0x84], items, fun _ hn => hlen.trans (Option.some.inj hn)⟩, []) :=
    CborCorrect.deserializeFromReader_ok_iff.mpr ⟨[], [0x84], by simp, .none,
      hlen.symm ▸ head_array_four, rfl, hmachine⟩
  let signed : COSESign P :=
    ⟨⟨some cosesignTag, some [0x84], items, fun _ hn => hlen.trans (Option.some.inj hn)⟩, c, rfl⟩
  have hsigned : COSESign.new P payload unprotectedValues privateKey = .ok signed := by
    simp [COSESign.new, COSESign.newFromInner, hnew, hwrite, Outcome.ofOption,
      ParsedArray.deserializeData, hread, ParsedArray.setTag, signed]
  have hparse : ParsedArray.deserializeData P.profile size4 (rewritten signed) =
      .ok (reread signed).contents :=
    token_deserializeData hlen hmachine
  refine ⟨signed, hsigned, rfl, rfl, ?_⟩
  rw [COSESign.deserializeData, hparse]
  exact @ofArray_eq_ok P (reread signed).contents signed.tagged _ hback

/-- A token that is made and sent is read with everything the library knew of it. -/
theorem new_signed {privateKey : P.PrivateKey} {key : P.PKey} (hs : SignsFor P privateKey key) {payload : Bytes}
    (hp : payload.length ≤ 2 ^ 62) : ∃ signed data, COSESign.new P payload [] privateKey = .ok signed ∧
      P.coseNew payload [] privateKey = some signed.cachedInner ∧
      P.coseIntoWriter signed.cachedInner = some data ∧ rewritten signed = 0xd2 :: data ∧
      COSESign.deserializeData P (rewritten signed) = .ok (reread signed) ∧
      P.verifySignature signed.cachedInner key = some true ∧ P.getPayload signed.cachedInner none = some payload := by
  obtain ⟨c, items, hnew, hlen, hitems, hwrite, hback, hverify, hpayload⟩ := hs.signs payload hp
  obtain ⟨signed, hsigned, rfl, hrewritten, hread⟩ := token_made hnew hlen hitems hwrite hback
  exact ⟨signed, _, hsigned, hnew, hwrite, hrewritten, hread, hverify, hpayload⟩

/-- Nonce and payload are among the claims that come back. -/
theorem claims_read {claims : COSEHeaderMap P} {payload : Option P.Value} {nonce guid : Bytes}
    {nonceValue ueidValue : P.Value} (hnonce : P.valueToBytes nonceValue = some nonce)
    (hueid : P.valueToBytes ueidValue = some (Guid.asUeid ⟨guid⟩)) (hlen : nonce.length = 16)
    (hsame : ∀ key, claims.lookup key = (claimsOf payload nonceValue ueidValue).lookup key) :
    ∃ eat, fromMap claims = .ok eat ∧ eat.nonce = ⟨nonce⟩ ∧ eat.payload = payload := by
  have hnonceAt : claims.lookup HeaderKeys.eatNonce.toI64 = some nonceValue := by
    rw [hsame]
    rfl
  have hueidAt : claims.lookup HeaderKeys.eatUeid.toI64 = some ueidValue := by
    rw [hsame]
    rfl
  have hpayloadAt : claims.lookup HeaderKeys.eatFDO.toI64 = payload := by
    rw [hsame]
    cases payload with
    | none => rfl
    | some value => rfl
  have hread : Nonce.fromValue P nonceValue = .ok ⟨nonce⟩ := by
    simp [Nonce.fromValue, hnonce, Outcome.ofOption, checkBstr16, hlen, Outcome.check]
  rw [fromMap_looks ⟨nonceValue, ueidValue, hnonceAt, hread, hueidAt, hueid⟩, hpayloadAt]
  exact ⟨_, rfl, rfl, rfl⟩

/-- The token of a device: made in any case, short, and accepted under the keys that verify it. -/
structure Proves (tools : DeviceTools P) (devcred : DeviceCredential) (signKey : P.PrivateKey) (nonce4 : Nonce)
    (token : COSESign P) : Prop where
  made : proveToken tools devcred nonce4 = .ok token
  short : (rewritten token).length ≤ contentLengthLimit
  sent : COSESign.deserializeData P (rewritten token) = .ok (reread token)
  signed : ∃ payload, P.coseNew payload [] signKey = some token.cachedInner
  accepted : ∀ key, P.verifySignature token.cachedInner key = some true →
    ∃ eat, (reread token).getEat key = .ok eat ∧ eat.nonce = nonce4

theorem proveToken_proves (laws : To1Laws P) (cose : CoseLaws P) {tools : DeviceTools P} {devcred : DeviceCredential}
    {signKey : P.PrivateKey} {key : P.PKey} (hsigner : Signer tools devcred signKey key) {nonce4 : Nonce}
    (hnonce4 : nonce4.value.length = 16) : ∃ token, Proves tools devcred signKey nonce4 token ∧
      P.verifySignature token.cachedInner key = some true := by
  obtain ⟨nonceValue, ueidValue, hnonce, hueid, hmap⟩ := toMap_newEat laws.values none nonce4 devcred.guid
  have hueidLen : devcred.guid.asUeid.length = 17 := by
    rw [Guid.asUeid, List.length_cons, hsigner.guid]
  obtain ⟨payload, claims, hwrite, hlen, hread, hsame⟩ := laws.claims hnonce hueid hnonce4 hueidLen
  have hpayloadLen : payload.length ≤ 2 ^ 62 := Nat.le_trans hlen (by decide)
  obtain ⟨token, data, hnew, hinner, hdata, hrewritten, hsent, hverify, hpayload⟩ :=
    new_signed hsigner.signs hpayloadLen
  have hfrom : COSESign.fromEat ⟨none, nonce4, devcred.guid.asUeid, []⟩ [] signKey = .ok token := by
    simp only [COSESign.fromEat, hmap, Outcome.ok_bind, Codec.serializeData_eq_ok.mpr hwrite, hnew]
  refine ⟨token, ?_, hverify⟩
  exact
    { made := by
        simp only [proveToken, newEat, orRequest, orResponse, Outcome.mapErr_ok, Outcome.ok_bind, hsigner.signer,
          Outcome.ofOption, hfrom]
      short := by
        have hshort := hsigner.short hlen hinner hdata
        rw [hrewritten, List.length_cons]
        omega
      sent := hsent
      signed := ⟨payload, hinner⟩
      accepted := by
        intro key' hverified
        have hget : (reread token).getPayload P.headerMap.deserializeData key' = .ok claims :=
          (COSESign.getPayload_eq_ok cose).mpr ⟨hverified, by
            simp only [COSESign.getPayloadUnverified, reread, hpayload, Outcome.ofOption, Outcome.ok_bind,
              Codec.deserializeData_eq_ok.mpr hread]⟩
        obtain ⟨eat, heat, hnonceEat, _⟩ := claims_read hnonce hueid hnonce4 hsame
        exact ⟨eat, Outcome.bind_eq_ok.mpr ⟨claims, hget, heat⟩, hnonceEat⟩ }

/-! ## The two requests -/

section Visit

variable {ud : RendezvousUD P} {turns : Nat → Turn Draws (RendezvousStore P)}

/-- A new client whose two requests find working stores, and whose session the others leave
alone. -/
structure Visit (client : ServiceClient (peer (service ud) turns)) (id : String) (nonce4 : Nonce) : Prop where
  fresh : ∃ available world, client = ServiceClient.new available world
  named : Shared.Named client.peer.2
  first : (turn client).Works
  second : (turns (client.peer.1 + 1)).Works
  loads : (turn client).draws.loadDataFails = false ∧ (turns (client.peer.1 + 1)).draws.loadDataFails = false
  drawn : P.idFromCookieValue (turn client).around.cookie = some id
  nonce : ∃ draw : Random16, (turn client).draws.nonce = some draw ∧ nonce4 = ⟨draw.val⟩
  apart : ∀ input ∈ (turns (client.peer.1 + 1)).others, Elsewhere P id input

/-- The session between the two requests. -/
def waitingSession (id : String) (nonce4 : Nonce) (guid : Guid) : Session RendezvousSession :=
  ⟨id, some .to1HelloRVAck, none, ⟨none, some nonce4, some guid⟩⟩

/-- The server between the two requests. -/
def waiting (s : RendezvousState P) (id : String) (nonce4 : Nonce) (guid : Guid) : RendezvousState P :=
  { s with
    sessions := Function.update s.sessions id (some (waitingSession id nonce4 guid))
    sessionTtls := Function.update s.sessionTtls id (some sessionTtlSecs) }

/-- The server when the token arrives. -/
def returning (client : ServiceClient (peer (service ud) turns)) (id : String) (nonce4 : Nonce) (guid : Guid) :
    RendezvousState P :=
  after (service ud) (waiting (found client) id nonce4 guid) (turns (client.peer.1 + 1)).others

variable {client : ServiceClient (peer (service ud) turns)} {id : String} {nonce4 : Nonce} {guid : Guid}

/-- A client that was answered and has its session. -/
structure Greeted (client client' : ServiceClient (peer (service ud) turns)) (id : String) (nonce4 : Nonce)
    (guid : Guid) : Prop where
  plain : client'.Plain To1.proveToRV To1.rvRedirect
  turn : turn client' = turns (client.peer.1 + 1)
  found : found client' = returning client id nonce4 guid
  token : ∃ hdr, client'.authorizationToken = some hdr ∧ P.idFromCookieValue (bearerToken hdr) = some id

theorem Visit.kept (hv : Visit client id nonce4) :
    (returning client id nonce4 guid).sessions id = some (waitingSession id nonce4 guid) := by
  have hfound : Shared.Named (Shared.found client) := after_named hv.named _
  have hwaiting : Shared.Named (waiting (Shared.found client) id nonce4 guid) :=
    hfound.update (waitingSession id nonce4 guid) (Shared.found client).userData _
  exact (after_elsewhere hwaiting hv.apart).trans (Function.update_self ..)

theorem helloRv_run {draws : Draws} {store : RendezvousStore P} (info : Info) {draw : Random16}
    (hloads : draws.loadDataFails = false) (hnonce : draws.nonce = some draw) {item : StoredItem P}
    (hitem : store.items guid = some item) :
    helloRv draws store info ⟨guid, ⟨.stSECP384R1, []⟩⟩ = .ok (⟨⟨draw.val⟩, ⟨.stSECP384R1, []⟩⟩,
      withData info fun data => { data with nonce4 := some ⟨draw.val⟩, deviceGuid := some guid }) := by
  simp [helloRv, Outcome.check, hloads, hitem, Outcome.ofOption, hnonce, Nonce.new, orInternal]

theorem helloRv_missing {draws : Draws} {store : RendezvousStore P} {info : Info}
    (hitem : store.items guid = none) (r : HelloRVAck × Info) :
    helloRv draws store info ⟨guid, ⟨.stSECP384R1, []⟩⟩ ≠ .ok r := by
  intro h
  obtain ⟨_, _, h₁⟩ := Outcome.bind_eq_ok.mp h
  obtain ⟨_, _, h₂⟩ := Outcome.bind_eq_ok.mp h₁
  obtain ⟨_, _, h₃⟩ := Outcome.bind_eq_ok.mp h₂
  obtain ⟨item, hfound, _⟩ := Outcome.bind_eq_ok.mp h₃
  rw [Outcome.ofOption_eq_ok, hitem] at hfound
  cases hfound

/-- HelloRV comes to its handler in a session of its own. -/
theorem Visit.hello (laws : To1Laws P) (hv : Visit client id nonce4) (hguid : guid.value.length = 16) :
    ∃ data reqHash, HelloRV.serializeData P ⟨guid, ⟨.stSECP384R1, []⟩⟩ = .ok data ∧
      Delivered client To1.helloRV To1.helloRVAck data (handlerTo1HelloRv P (turn client).draws)
        ⟨⟨id, none, none, default⟩, some (turn client).around.cookie, reqHash, !client.interoperableKdfAvailable⟩
        ⟨guid, ⟨.stSECP384R1, []⟩⟩ := by
  obtain ⟨data, hwrite, hlen, hread⟩ := laws.helloRV guid.value hguid
  have hdecode : HelloRV.deserializeData P data = .ok ⟨guid, ⟨.stSECP384R1, []⟩⟩ := by
    simp [HelloRV.deserializeData, Codec.deserializeData_eq_ok.mpr hread, checkBstr16, hguid, Outcome.check]
  have hreadable : Readable P (handlerTo1HelloRv P (turn client).draws) data
      (⟨id, none, none, default⟩ : Session RendezvousSession).lastMessageType ⟨guid, ⟨.stSECP384R1, []⟩⟩ :=
    ⟨hlen, laws.sha256 data, rfl, rfl, hdecode⟩
  obtain ⟨available, world, hfresh⟩ := hv.fresh
  have htoken : client.authorizationToken = none := by rw [hfresh]; rfl
  obtain ⟨reqHash, hreceive⟩ := hreadable.receive To1.helloRV.messageType
    (!client.interoperableKdfAvailable) rfl (openSession_fresh (found client).sessions hv.drawn)
  refine ⟨data, reqHash, Codec.serializeData_eq_ok.mpr hwrite, ?_⟩
  exact
    { plain := by rw [hfresh]; exact ⟨rfl, rfl, rfl, rfl, rfl⟩
      works := hv.first
      route := rfl
      reply := rfl
      received := by rw [htoken]; exact hreceive }

theorem Visit.greeted (laws : To1Laws P) (hv : Visit client id nonce4) (hguid : guid.value.length = 16)
    {item : StoredItem P} (hitem : (found client).userData.items guid = some item) :
    ∃ client', client.sendRequest P To1.helloRV To1.helloRVAck (HelloRV.serializeData P ⟨guid, ⟨.stSECP384R1, []⟩⟩)
        (HelloRVAck.deserializeData P) none = .ok (⟨nonce4, ⟨.stSECP384R1, []⟩⟩, client') ∧
      Greeted client client' id nonce4 guid := by
  obtain ⟨draw, hnonce, rfl⟩ := hv.nonce
  obtain ⟨data, reqHash, hdata, hdelivered⟩ := hv.hello laws hguid
  obtain ⟨val, hwrite, hread⟩ := laws.helloRVAck draw.val draw.property
  have hdecode : HelloRVAck.deserializeData P val = .ok ⟨⟨draw.val⟩, ⟨.stSECP384R1, []⟩⟩ := by
    simp [HelloRVAck.deserializeData, Codec.deserializeData_eq_ok.mpr hread, checkBstr16, draw.property,
      Outcome.check]
  have hrun := congrArg (Prod.mk (found client).userData)
    (helloRv_run ⟨⟨id, none, none, default⟩, some (turn client).around.cookie, reqHash,
      !client.interoperableKdfAvailable⟩ hv.loads.1 hnonce hitem)
  have hsend := hdelivered.answered hrun rfl (Codec.serializeData_eq_ok.mpr hwrite) hdecode
  obtain ⟨available, world, hfresh⟩ := hv.fresh
  rw [hdata]
  refine ⟨_, hsend, ?_⟩
  exact
    { plain := by rw [hfresh]; exact ⟨rfl, rfl, rfl, rfl, rfl⟩
      turn := rfl
      found := by
        rw [returning, waiting, ← storeSessionTtl_stored hv.first.data hv.first.metadata]
        rfl
      token := ⟨"Bearer " ++ (turn client).around.cookie, rfl, by
        rw [LockStep.bearerToken_bearer hv.first.cookie]
        exact hv.drawn⟩ }

theorem Visit.not_greeted (laws : To1Laws P) (hv : Visit client id nonce4) (hguid : guid.value.length = 16)
    (hitem : (found client).userData.items guid = none) (r : HelloRVAck × ServiceClient (peer (service ud) turns)) :
    client.sendRequest P To1.helloRV To1.helloRVAck (HelloRV.serializeData P ⟨guid, ⟨.stSECP384R1, []⟩⟩)
      (HelloRVAck.deserializeData P) none ≠ .ok r := by
  obtain ⟨data, reqHash, hdata, hdelivered⟩ := hv.hello laws hguid
  rw [hdata]
  exact hdelivered.refused (helloRv_missing hitem) r

variable {tools : DeviceTools P} {devcred : DeviceCredential} {signKey : P.PrivateKey} {key : P.PKey}
  {token : COSESign P}

/-- Who is redirected, and where to. -/
structure Redirect (store : RendezvousStore P) (guid : Guid) (token to1d : COSESign P) : Prop where
  item : ∃ item, store.items guid = some item ∧
    P.verifySignature token.cachedInner item.publicKey.pkey = some true ∧ item.to1d = to1d

theorem proveToRv_iff (cose : CoseLaws P) (hproves : Proves tools devcred signKey nonce4 token) {draws : Draws}
    {store : RendezvousStore P} {info : Info} (hloads : draws.loadDataFails = false)
    (hsession : info.session.data = ⟨none, some nonce4, some guid⟩) {to1d : COSESign P} {info' : Info} :
    proveToRv draws store info (reread token) = .ok (to1d, info') ↔ Redirect store guid token to1d ∧ info' = info := by
  constructor
  · intro h
    obtain ⟨hinfo, guid', nonce, item, hproof, hto1d⟩ := proveToRv_ok h
    have hguid : guid = guid' := by
      have hnamed := hproof.sessionGuid
      rw [hsession] at hnamed
      exact Option.some.inj hnamed
    obtain ⟨eat, heat, _⟩ := hproof.signed
    subst hguid
    exact ⟨⟨item, hproof.found, COSESign.getEat_verified cose heat, hto1d.symm⟩, hinfo⟩
  · rintro ⟨⟨item, hitem, hverified, rfl⟩, rfl⟩
    obtain ⟨eat, heat, hnonce⟩ := hproves.accepted _ hverified
    have hsame : (nonce4.eq eat.nonce).unwrap = (.ok true : Outcome Rejection Bool) := by
      rw [hnonce]
      exact Outcome.unwrap_eq_ok.mpr (memcmpEq_eq_true.mpr rfl)
    simp only [proveToRv, hsession, Outcome.ofOption, Outcome.ok_bind, hloads, Outcome.check, if_true, hitem, heat,
      Outcome.mapErr_ok, hsame]

/-- The token comes to its handler in the session of HelloRV. -/
theorem Visit.prove (laws : To1Laws P) (hv : Visit client id nonce4)
    {client' : ServiceClient (peer (service ud) turns)} (hg : Greeted client client' id nonce4 guid)
    (hproves : Proves tools devcred signKey nonce4 token) : ∃ reqHash,
      Delivered client' To1.proveToRV To1.rvRedirect (rewritten token)
        (handlerTo1ProveToRv P (turns (client.peer.1 + 1)).draws)
        ⟨waitingSession id nonce4 guid, none, reqHash, !client'.interoperableKdfAvailable⟩ (reread token) := by
  have hreadable : Readable P (handlerTo1ProveToRv P (turns (client.peer.1 + 1)).draws) (rewritten token)
      (waitingSession id nonce4 guid).lastMessageType (reread token) :=
    ⟨hproves.short, laws.sha256 _, rfl, rfl, hproves.sent⟩
  obtain ⟨hdr, htoken, hid⟩ := hg.token
  obtain ⟨reqHash, hreceive⟩ := hreadable.receive To1.proveToRV.messageType
    (!client'.interoperableKdfAvailable) rfl (openSession_stored (found client').sessions hv.second.load hid (by rw [hg.found]; exact hv.kept))
  refine ⟨reqHash, ?_⟩
  exact
    { plain := hg.plain
      works := by rw [hg.turn]; exact hv.second
      route := by rw [hg.turn]; rfl
      reply := rfl
      received := by rw [htoken, hg.turn]; exact hreceive }

/-- What the server sends back is read, and nothing else comes of ProveToRV. -/
theorem Visit.redirected (laws : To1Laws P) (cose : CoseLaws P) (hv : Visit client id nonce4)
    {client' : ServiceClient (peer (service ud) turns)} (hg : Greeted client client' id nonce4 guid)
    (hproves : Proves tools devcred signKey nonce4 token) {t : COSESign P} :
    performProvetorv token client' = .ok t ↔ ∃ to1d,
      Redirect (returning client id nonce4 guid).userData guid token to1d ∧
        COSESign.deserializeData P (rewritten to1d) = .ok t := by
  obtain ⟨reqHash, hdelivered⟩ := hv.prove laws hg hproves
  have hrun := @proveToRv_iff P nonce4 guid tools devcred signKey token cose hproves
    (turns (client.peer.1 + 1)).draws (found client').userData
    ⟨waitingSession id nonce4 guid, none, reqHash, !client'.interoperableKdfAvailable⟩ hv.loads.2 rfl
  have hperform : performProvetorv token client' = .ok t ↔ ∃ r, client'.sendRequest P To1.proveToRV To1.rvRedirect
      (.ok (rewritten token)) (COSESign.deserializeData P) none = .ok r ∧ r.1 = t := by
    rw [performProvetorv, token_rewritten]
    constructor
    · intro h
      obtain ⟨⟨value, left⟩, hsend, h₁⟩ := Outcome.bind_eq_ok.mp h
      exact ⟨(value, left), orResponse_eq_ok.mp hsend, Outcome.ok.inj h₁⟩
    · rintro ⟨⟨value, left⟩, hsend, rfl⟩
      exact Outcome.bind_eq_ok.mpr ⟨(value, left), orResponse_eq_ok.mpr hsend, rfl⟩
  rw [hperform, ← hg.found]
  by_cases hredirect : ∃ to1d, Redirect (found client').userData guid token to1d
  case pos =>
    obtain ⟨to1d, hto1d⟩ := hredirect
    have hanswer : ∀ r, client'.sendRequest P To1.proveToRV To1.rvRedirect (.ok (rewritten token))
        (COSESign.deserializeData P) none = .ok r ↔ _ := fun r => hdelivered.answered_iff
      (congrArg (Prod.mk (found client').userData) (hrun.mpr ⟨hto1d, rfl⟩)) rfl (token_rewritten to1d)
    constructor
    · rintro ⟨r, hsend, rfl⟩
      obtain ⟨value, hvalue, rfl⟩ := (hanswer r).mp hsend
      exact ⟨to1d, hto1d, hvalue⟩
    · rintro ⟨other, hother, hread⟩
      have hsame : other = to1d := by
        obtain ⟨item, hitem, _, rfl⟩ := hto1d.item
        obtain ⟨item', hitem', _, rfl⟩ := hother.item
        cases hitem.symm.trans hitem'
        rfl
      subst hsame
      exact ⟨_, (hanswer _).mpr ⟨t, hread, rfl⟩, rfl⟩
  case neg =>
    constructor
    · rintro ⟨r, hsend, rfl⟩
      refine absurd hsend (hdelivered.refused ?_ r)
      rintro ⟨to1d, info⟩ hok
      exact hredirect ⟨to1d, (hrun.mp hok).1⟩
    · rintro ⟨to1d, hto1d, _⟩
      exact absurd ⟨to1d, hto1d⟩ hredirect

/-- A device gets the blob on file for its guid, as it stands when its token arrives, exactly when the guid
was known at HelloRV too and the token verifies under the key on file. -/
theorem performTo1_iff (laws : To1Laws P) (cose : CoseLaws P) (hsigner : Signer tools devcred signKey key)
    (hv : Visit client id nonce4) {t : COSESign P} :
    performTo1 tools devcred client = .ok t ↔ ∃ token to1d,
      proveToken tools devcred nonce4 = .ok token ∧ (found client).userData.items devcred.guid ≠ none ∧
      Redirect (returning client id nonce4 devcred.guid).userData devcred.guid token to1d ∧
      COSESign.deserializeData P (rewritten to1d) = .ok t := by
  have hnonce : nonce4.value.length = 16 := by
    obtain ⟨draw, _, rfl⟩ := hv.nonce
    exact draw.property
  obtain ⟨token, hproves, _⟩ := proveToken_proves laws cose hsigner hnonce
  cases hitem : (found client).userData.items devcred.guid with
  | none =>
      constructor
      · intro h
        obtain ⟨_, hhello, _⟩ := Outcome.bind_eq_ok.mp h
        obtain ⟨r, hsend, _⟩ := Outcome.bind_eq_ok.mp hhello
        exact absurd (orRequest_eq_ok.mp hsend) (hv.not_greeted laws hsigner.guid hitem r)
      · rintro ⟨_, _, _, hknown, _⟩
        exact absurd rfl hknown
  | some item =>
      obtain ⟨client', hsend, hg⟩ := hv.greeted laws hsigner.guid hitem
      have hhello : performHellorv tools devcred client = .ok (token, client') := by
        simp only [performHellorv, hsend, orRequest, Outcome.mapErr_ok, Outcome.ok_bind, Outcome.check, if_true,
          hproves.made]
      have hperform : performTo1 tools devcred client = performProvetorv token client' := by
        rw [performTo1, hhello, Outcome.ok_bind]
      rw [hperform, hv.redirected laws cose hg hproves]
      constructor
      · rintro ⟨to1d, hredirect, hread⟩
        exact ⟨token, to1d, hproves.made, by simp, hredirect, hread⟩
      · rintro ⟨other, to1d, hmade, _, hredirect, hread⟩
        cases hproves.made.symm.trans hmade
        exact ⟨to1d, hredirect, hread⟩

end Visit

/-! ## The sample device -/

open Reference

theorem signature_short {payload data : Bytes} {key : Bytes} {c : CoseSign1} (hlen : payload.length ≤ 128)
    (hnew : (reference .release).coseNew payload [] key = some c)
    (hdata : (reference .release).coseIntoWriter c = some data) : data.length < contentLengthLimit := by
  change (if payload.length ≤ isizeMax then some (⟨es256, [], payload, signature key es256 payload⟩ : CoseSign1)
    else none) = some c at hnew
  rw [if_pos (Nat.le_trans hlen (by decide))] at hnew
  cases hnew
  change (if (coseWire.write _).length ≤ isizeMax then some (coseWire.write _) else none) = some data at hdata
  split at hdata
  next =>
    cases hdata
    have hprotected := string_length_le 2 es256
    have hpayload := string_length_le 2 payload
    have hsignature := string_length_le 2 (signature key es256 payload)
    rw [signature_length] at hsignature
    simp only [coseWire, Wire.via, Wire.framed, Wire.seq, Wire.counted, List.length_append, List.length_cons,
      List.length_nil, List.flatMap_nil, es256, contentLengthLimit] at hprotected hpayload hsignature ⊢
    have hcount := head_length_le 5 0
    omega
  next => cases hdata

theorem readsBack_hello (value : Bytes) (hlen : value.length = 16) :
    (((Wire.string 2).seq sigInfoWire).framed [0x82]).ReadsBack (value, ⟨.stSECP384R1, []⟩) ∧
      ((((Wire.string 2).seq sigInfoWire).framed [0x82]).write (value, ⟨.stSECP384R1, []⟩)).length ≤ 64 := by
  have hinfo := plain_sigInfo ⟨.stSECP384R1, []⟩ (by decide)
  constructor
  · exact ((Wire.readsBack_string (by decide) (by omega)).seq hinfo.2).framed
  · have hvalue := string_length_le 2 value
    have hsize : (sigInfoWire.write ⟨.stSECP384R1, []⟩).length ≤ 16 := by decide
    simp only [Wire.framed, Wire.seq, List.length_append, List.length_cons, List.length_nil]
    omega

theorem bytes_of_value {value : Value} {data : Bytes} (h : (reference .release).valueToBytes value = some data) :
    value = .scalar (.bytes data) := by
  cases value with
  | array items => cases h
  | scalar value =>
      cases value with
      | bytes value =>
          cases h
          rfl
      | integer value => cases h
      | text value => cases h
      | bool value => cases h

theorem to1Laws : To1Laws (reference .release) where
  sha256 data := ⟨_, rfl⟩
  helloRV guid hlen := by
    have hhello := readsBack_hello guid hlen
    refine ⟨_, if_pos (Nat.le_trans hhello.2 (by decide)), Nat.le_trans hhello.2 (by decide), hhello.1.fromSlice⟩
  helloRVAck nonce hlen := by
    have hhello := readsBack_hello nonce hlen
    exact ⟨_, if_pos (Nat.le_trans hhello.2 (by decide)), hhello.1.fromSlice⟩
  values := byteValueLaws .release
  claims := by
    intro nonceValue ueidValue nonce ueid hnonce hueid hnonceLen hueidLen
    cases bytes_of_value hnonce
    cases bytes_of_value hueid
    have hkeys : ∀ e ∈ claimsOf (P := reference .release) none (.scalar (.bytes nonce)) (.scalar (.bytes ueid)),
        (Wire.int.seq valueWire).ReadsBack e := by
      intro e he
      simp only [claimsOf, Option.map_none, Option.toList_none, List.mem_cons, List.not_mem_nil, or_false] at he
      rcases he with rfl | rfl
      · exact (Wire.readsBack_ofNat (n := 11) (by decide)).seq
          (readsBack_value_scalar (readsBack_scalar_bytes (by omega)))
      · exact (Wire.readsBack_ofNat (n := 10) (by decide)).seq
          (readsBack_value_scalar (readsBack_scalar_bytes (by omega)))
    have hcount : (claimsOf (P := reference .release) none (.scalar (.bytes nonce)) (.scalar (.bytes ueid))).length <
        2 ^ 64 := (by decide : 2 < 2 ^ 64)
    have hsize : ((Wire.counted 5 (Wire.int.seq valueWire)).write
        (claimsOf (P := reference .release) none (.scalar (.bytes nonce)) (.scalar (.bytes ueid)))).length ≤ 128 := by
      have hcount := head_length_le 5 2
      have hnonceKey := int_length_le 10
      have hueidKey := int_length_le 11
      have hnonceSize := string_length_le 2 nonce
      have hueidSize := string_length_le 2 ueid
      change ((Wire.head 5).write 2 ++ ((Wire.int.write 11 ++ (Wire.string 2).write ueid) ++
        ((Wire.int.write 10 ++ (Wire.string 2).write nonce) ++ []))).length ≤ 128
      simp only [List.length_append, List.length_nil]
      omega
    exact ⟨_, _, if_pos (Nat.le_trans hsize (by decide)), hsize,
      (Wire.readsBack_counted (by decide) hcount hkeys).fromSlice, fun key => rfl⟩

/-- The device of the sample voucher, which signs with the key `[9, 9]`. -/
def sampleCredential : DeviceCredential := ⟨⟨List.replicate 16 7⟩, ⟨.sha256, []⟩, .plain [0x5e] [9, 9]⟩

theorem sampleSigner : Signer sampleTools sampleCredential [9, 9] [9, 9] where
  guid := rfl
  signer := rfl
  signs := signsFor .release [9, 9]
  short := signature_short

/-- Each request comes after a Hello of somebody else, and gets the nonce and the cookie of its turn. -/
def sampleTurns (k : Nat) : Turn Draws (RendezvousStore (reference .release)) where
  others := [sampleRequest 9 "x" .to0Hello none [0x80]]
  around := ⟨if k % 2 = 0 then "a" else "b", 0, false, false, false⟩
  draws := ⟨some (.repeated (UInt8.ofNat k)), false, false, false⟩

theorem sampleTurns_work (k : Nat) : (sampleTurns k).Works := by
  refine ⟨rfl, rfl, rfl, ?_⟩
  simp only [sampleTurns]
  split
  next => decide
  next => decide

theorem sampleTurns_elsewhere {id : String} (h : "x" ≠ id) (k : Nat) :
    ∀ input ∈ (sampleTurns k).others, Elsewhere (reference .release) id input := by
  intro input hinput
  cases List.mem_singleton.mp hinput
  constructor
  · intro hsame
    exact h (Option.some.inj hsame)
  · intro hdr hheader
    cases hheader

/-- The device before its first request, at a server in this state. -/
def sampleDevice (turn : Nat) (s : RendezvousState (reference .release)) :
    ServiceClient (peer (service sampleUd) sampleTurns) :=
  .new true (turn, s)

theorem sampleVisit {s : RendezvousState (reference .release)} (hs : Shared.Named s) {turn : Nat}
    (heven : turn % 2 = 0) : Visit (sampleDevice turn s) "a" ⟨List.replicate 16 (UInt8.ofNat turn)⟩ where
  fresh := ⟨true, (turn, s), rfl⟩
  named := hs
  first := sampleTurns_work turn
  second := sampleTurns_work (turn + 1)
  loads := ⟨rfl, rfl⟩
  drawn := congrArg some (if_pos heven)
  nonce := ⟨.repeated (UInt8.ofNat turn), rfl, rfl⟩
  apart := sampleTurns_elsewhere (by decide) (turn + 1)

/-- A blob is on file for the key of the device. -/
def sampleKnown (to1d : COSESign (reference .release)) : RendezvousState (reference .release) :=
  let item := { publicKey := { VoucherChain.sampleKey 9 with data := [9, 9], pkey := [9, 9] }, to1d }
  ⟨fun _ => none, ⟨fun guid => if guid = sampleCredential.guid then some item else none, fun _ => none⟩, fun _ => none⟩

theorem performTo1_sample : ∃ to1d t, COSESign.new (reference .release) [0x80] [] [3, 1] = .ok to1d ∧
    performTo1 sampleTools sampleCredential (sampleDevice 0 (sampleKnown to1d)) = .ok t := by
  obtain ⟨to1d, _, hmade, _, _, _, hread, _, _⟩ := new_signed (signsFor .release [3, 1])
    (by decide : ([0x80] : Bytes).length ≤ 2 ^ 62)
  have hnamed : Shared.Named (sampleKnown to1d) := by
    intro id ses hses
    cases hses
  have hvisit : Visit (sampleDevice 0 (sampleKnown to1d)) "a" ⟨List.replicate 16 0⟩ := sampleVisit hnamed rfl
  obtain ⟨token, hproves, hverified⟩ := proveToken_proves to1Laws (coseLaws .release) sampleSigner
    (by decide : (⟨List.replicate 16 0⟩ : Nonce).value.length = 16)
  have hknown : (found (sampleDevice 0 (sampleKnown to1d))).userData = (sampleKnown to1d).userData := rfl
  have hstill : (returning (sampleDevice 0 (sampleKnown to1d)) "a" ⟨List.replicate 16 0⟩
      sampleCredential.guid).userData = (sampleKnown to1d).userData := rfl
  refine ⟨to1d, reread to1d, hmade, (performTo1_iff to1Laws (coseLaws .release) sampleSigner hvisit).mpr
    ⟨token, to1d, hproves.made, ?_, ?_, hread⟩⟩
  · rw [hknown]
    exact Option.some_ne_none _
  · rw [hstill]
    exact ⟨_, rfl, hverified, rfl⟩

end FidoOnboard.Redirection
