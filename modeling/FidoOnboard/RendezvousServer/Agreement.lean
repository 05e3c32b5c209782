import FidoOnboard.DataFormats.VoucherExtend
import FidoOnboard.RendezvousServer.Registration
import FidoOnboard.RendezvousServer.Sessions

/-!
# The rendezvous agreement

Whatever requests come in whatever order, a device is redirected to what one
registration of its guid says, and only when it has proven the key of that very
registration with the nonce of its own session.
-/
namespace FidoOnboard.RendezvousServer
open Server

variable {P : Platform}

/-- The writes of a request that the agreement rests on do not fail. -/
def StoresWork : RendezvousInput P → Prop
  | .request around draws _ => around.storeDataFails = false ∧ draws.storeMetadataFails = false
  | _ => True

/-- Runs from empty stores. -/
def Runs (ud : RendezvousUD P) : RendezvousPast P → RendezvousState P → Prop :=
  Run (fun s => (∀ id, s.sessions id = none) ∧ ∀ guid, s.userData.items guid = none)
    (fun past s input => (service ud).Allowed past s input ∧ StoresWork input) (service ud).step

variable {ud : RendezvousUD P} {past : RendezvousPast P} {s : RendezvousState P}
  {input : RendezvousInput P}

theorem Runs.service (run : Runs ud past s) : (service ud).Runs past s :=
  Run.mono (fun _ h => h.1) (fun _ _ _ h => h.1) run

/-- An accepted OwnerSign that has stored `item` for `guid`. -/
structure Registered {m : RendezvousState P × RendezvousInput P} (a : Acceptance ud m.1 m.2) (guid : Guid)
    (item : StoredItem P) : Prop where
  message : a.req.messageType = .to0OwnerSign
  checked : ∃ msg wait, OwnerSign.deserializeData P a.req.body = .ok msg ∧
    checkOwnersign ud a.before msg = .ok (guid, item, wait)
  stored : ((service ud).step m.1 m.2).userData.items guid = some item

/-- An accepted HelloRV that named `guid` and was sent `nonce4`. -/
structure Named {m : RendezvousState P × RendezvousInput P} (a : Acceptance ud m.1 m.2) (guid : Guid)
    (nonce4 : Nonce) : Prop where
  message : a.req.messageType = .to1HelloRV
  guid : ∃ msg, HelloRV.deserializeData P a.req.body = .ok msg ∧ msg.guid = guid
  drawn : (service ud).drawnNonce m.2 = some nonce4.value
  sent : ∃ ack, a.h.encode a.reply = HelloRVAck.serializeData P ack ∧ ack.nonce4 = nonce4

/-- What stands behind a redirect that answers the request `a`: the guid its session named,
one registration of that guid, and a token under the key of this registration. -/
structure Redirected (past : RendezvousPast P) (a : Acceptance ud s input) (response : HttpResponse)
    (guid : Guid) (nonce4 : Nonce) (item : StoredItem P) : Prop where
  message : a.req.messageType = .to1ProveToRV
  named : ∃ m ∈ past, ∃ hello : Acceptance ud m.1 m.2, hello.id = a.id ∧ Named hello guid nonce4
  registered : ∃ m ∈ past, ∃ sign : Acceptance ud m.1 m.2, Registered sign guid item
  proven : ∃ token eat, COSESign.deserializeData P a.req.body = .ok token ∧
    P.verifySignature token.cachedInner item.publicKey.pkey = some true ∧
    token.getEat item.publicKey.pkey = .ok eat ∧ eat.nonce = nonce4
  sent : ∃ data, item.to1d.serializeData = .ok data ∧ response.body = some data

/-- The nonce that an accepted request has answered. -/
inductive Answers (a : Acceptance ud s input) : Nonce → Prop where
  | nonce3 {n : Nonce} (message : a.req.messageType = .to0OwnerSign)
      (issued : a.before.data.nonce3 = some n) : Answers a n
  | nonce4 {n : Nonce} (message : a.req.messageType = .to1ProveToRV)
      (issued : a.before.data.nonce4 = some n) : Answers a n

/-- The agreement, for a run and whatever comes next. -/
structure Agreement (ud : RendezvousUD P) (past : RendezvousPast P) (s : RendezvousState P) : Prop where
  redirected : ∀ input, (service ud).Allowed past s input → ∀ response,
    (service ud).respond s input = some response → response.messageType = .present .to1RVRedirect →
    ∃ (a : Acceptance ud s input) (guid : Guid) (nonce4 : Nonce) (item : StoredItem P),
      Redirected past a response guid nonce4 item
  once : ∀ input, (service ud).Allowed past s input → ∀ a : Acceptance ud s input, ∀ n, Answers a n →
    ∀ m ∈ past, ∀ a' : Acceptance ud m.1 m.2, ¬ Answers a' n

/-! ## Registrations -/

/-- A request that changes what is stored for a guid is an accepted OwnerSign. -/
theorem step_registered (hwork : StoresWork input) {guid : Guid} {item : StoredItem P}
    (hrequest : input.isRequest = true)
    (hitem : ((service ud).step s input).userData.items guid = some item)
    (hold : s.userData.items guid ≠ some item) :
    ∃ a : (service ud).Acceptance (s, input).1 (s, input).2, Registered a guid item := by
  cases input with
  | forget id => cases hrequest
  | tend userData => cases hrequest
  | request around draws req =>
      rcases Service.step_userData (S := service ud) s around draws req with
        hsame | ⟨h, info, body, hroute, hreceived, hdata⟩
      · rw [hsame] at hitem
        exact absurd hitem hold
      · have hchanged : (h.run s.userData info body).1.items ≠ s.userData.items := by
          intro hsame
          rw [hdata, hsame] at hitem
          exact hold hitem
        have hchosen := hroute
        change routes ud draws req.messageType = some h at hroute
        unfold routes at hroute
        split at hroute
        next => cases hroute; exact absurd rfl hchanged
        next hm =>
          cases hroute
          obtain ⟨wait, hok⟩ := ownersign_changed hwork.2 hchanged
          obtain ⟨_, guid', item', hchecked, hitems⟩ := ownersign_ok hok
          let a : (service ud).Acceptance s (.request around draws req) :=
            ⟨around, draws, req, handlerTo0Ownersign ud draws, info, body, wait, info, rfl, hchosen,
              hreceived, hok, hwork.1⟩
          have hnew : Function.update s.userData.items guid' (some item') guid = some item := by
            rw [← hitems]
            rw [hdata] at hitem
            exact hitem
          obtain ⟨data, hdecrypt, hdecode⟩ := a.received.body
          obtain rfl : data = req.body := EncryptionKeys.decrypt_of_not_isSome (a.received.plain rfl) hdecrypt
          by_cases hguid : guid = guid'
          · subst hguid
            rw [Function.update_self] at hnew
            obtain rfl := Option.some.inj hnew
            exact ⟨a, hm, ⟨body, wait, hdecode, hchecked⟩, hitem⟩
          · rw [Function.update_of_ne hguid] at hnew
            exact absurd hnew hold
        next => cases hroute; exact absurd rfl hchanged
        next => cases hroute; exact absurd rfl hchanged
        next => cases hroute

/-- Everything in the store was put there by an accepted OwnerSign of the run. -/
theorem runs_registered (run : Runs ud past s) : ∀ {guid item}, s.userData.items guid = some item →
    ∃ m ∈ past, ∃ sign : Acceptance ud m.1 m.2, Registered sign guid item := by
  induction run with
  | start h =>
      intro guid item hitem
      rw [h.2 guid] at hitem
      cases hitem
  | @next past s input run ok ih =>
      intro guid item hitem
      have hbefore : s.userData.items guid = some item →
          ∃ m ∈ (s, input) :: past, ∃ sign : Acceptance ud m.1 m.2, Registered sign guid item := by
        intro hold
        obtain ⟨m, hm, hsign⟩ := ih hold
        exact ⟨m, List.mem_cons_of_mem _ hm, hsign⟩
      by_cases hold : s.userData.items guid = some item
      · exact hbefore hold
      · cases input with
        | forget id => exact absurd hitem hold
        | tend userData =>
            rcases ok.1.tended userData rfl guid with hnone | hsame
            · cases hnone.symm.trans hitem
            · exact absurd (hsame.symm.trans hitem) hold
        | request around draws req =>
            obtain ⟨a, ha⟩ := step_registered ok.2 rfl hitem hold
            exact ⟨_, List.mem_cons_self, a, ha⟩

/-! ## Redirects -/

theorem routes_redirect {draws : Draws} {t : MessageType} {h : RendezvousHandler P}
    (hroute : routes ud draws t = some h) (hom : h.om.messageType = .to1RVRedirect) :
    t = .to1ProveToRV := by
  unfold routes at hroute
  split at hroute
  next => cases hroute; cases hom
  next => cases hroute; cases hom
  next => cases hroute; cases hom
  next => rfl
  next => cases hroute

/-- A token can always be written. -/
theorem serializeData_total (token : COSESign P) : ∃ data, token.serializeData = .ok data :=
  ⟨_, token.serializeData_eq.trans (VoucherExtend.token_serializeData token.tagged)⟩

/-- The guid and the nonce of a stored session were named and sent by its HelloRV. -/
theorem runs_named (run : (service ud).Runs past s) {id : String} {ses : Session RendezvousSession}
    (hses : s.sessions id = some ses) {guid : Guid} {nonce4 : Nonce}
    (hguid : ses.data.deviceGuid = some guid) (hnonce : ses.data.nonce4 = some nonce4) :
    ∃ m ∈ past, ∃ hello : Acceptance ud m.1 m.2, hello.id = id ∧ Named hello guid nonce4 := by
  obtain ⟨m, hm, a, hid, hnew, _, hdata⟩ := runs_started run hses
  have ht := acceptance_transition a
  rw [hnew] at ht
  rw [hdata] at hguid hnonce
  obtain ⟨hmessage, msg, ack, hdecoded, hmsg, hdrawn, hreply, hack⟩ := ht.of_guid hguid hnonce
  have hinput : (service ud).drawnNonce m.2 = (a.draws.nonce).map Subtype.val :=
    congrArg (service ud).drawnNonce a.isRequest
  exact ⟨m, hm, a, hid, hmessage, ⟨msg, hdecoded, hmsg⟩, hinput.trans hdrawn, ack, hreply, hack⟩

theorem redirect_redirected (cose : CoseLaws P) (run : Runs ud past s)
    (ok : (service ud).Allowed past s input) {response : HttpResponse}
    (hresponse : (service ud).respond s input = some response)
    (hmessage : response.messageType = .present .to1RVRedirect) :
    ∃ (a : Acceptance ud s input) (guid : Guid) (nonce4 : Nonce) (item : StoredItem P),
      Redirected past a response guid nonce4 item := by
  obtain ⟨a, hanswered⟩ := Service.respond_answered hresponse (by rw [hmessage]; decide)
  have hom : a.h.om.messageType = .to1RVRedirect :=
    TypeHeader.present.inj (hanswered.messageType.symm.trans hmessage)
  have hprove : a.req.messageType = .to1ProveToRV := routes_redirect a.route hom
  have ht := acceptance_transition a
  rw [hprove] at ht
  obtain ⟨hlast, token, guid, nonce4, item, hdecoded, hproof, hreply⟩ := ht.of_proveToRV
  have hstored : s.sessions a.id = some a.before :=
    continues_stored run.service ok a (by rw [hlast]; exact nofun)
  obtain ⟨eat, heat, hnonce⟩ := hproof.signed
  obtain ⟨data, hdata⟩ := serializeData_total item.to1d
  obtain ⟨val, hval, hbody⟩ := hanswered.body
  refine ⟨a, guid, nonce4, item, ?_⟩
  exact
    { message := hprove
      named := runs_named run.service hstored hproof.sessionGuid hproof.sessionNonce
      registered := runs_registered run hproof.found
      proven := ⟨token, eat, hdecoded, COSESign.getEat_verified cose heat, heat, hnonce⟩
      sent := by
        rw [hreply, hdata] at hval
        obtain rfl : data = val := Outcome.ok.inj hval
        exact ⟨data, hdata, hbody (routes_plain a.route).2⟩ }

/-- Both requests that answer a nonce come second on their session. -/
theorem Answers.second {a : Acceptance ud s input} {n : Nonce} (h : Answers a n) :
    a.before.lastMessageType ≠ none ∧ Holds a.before n := by
  have ht := acceptance_transition a
  cases h with
  | nonce3 message issued =>
      rw [message] at ht
      refine ⟨?_, .inl issued⟩
      rw [ht.of_ownerSign]
      exact nofun
  | nonce4 message issued =>
      rw [message] at ht
      refine ⟨?_, .inr issued⟩
      rw [ht.of_proveToRV.1]
      exact nofun

theorem rendezvous_agreement (cose : CoseLaws P) (run : Runs ud past s) : Agreement ud past s where
  redirected input ok response hresponse hmessage :=
    redirect_redirected cose run ok hresponse hmessage
  once input ok a n hanswers m hm a' hanswers' := by
    obtain ⟨hlast, hn⟩ := hanswers.second
    obtain ⟨hlast', hn'⟩ := hanswers'.second
    exact nonce_once run.service ok a hlast hm a' hlast' hn hn'

/-! ## A device that finds its owner -/

open Reference VoucherChain

/-- A request with everything the server draws for it. -/
def sampleRequest (k : UInt8) (cookie : String) (messageType : MessageType)
    (authorization : Option String) (body : Bytes) : RendezvousInput (reference .release) :=
  .request ⟨cookie, 0, false, false, false⟩
    ⟨some (.repeated k), false, false, false⟩
    ⟨messageType, authorization, false, body⟩

theorem sampleRequest_works (k : UInt8) (cookie : String) (messageType : MessageType)
    (authorization : Option String) (body : Bytes) :
    StoresWork (sampleRequest k cookie messageType authorization body) ∧
      (sampleRequest k cookie messageType authorization body).isRequest = true :=
  ⟨⟨rfl, rfl⟩, rfl⟩

/-- The owner's two requests, and the one in which the device names itself. -/
def sampleInputs (ownerSign helloRV : Bytes) : List (RendezvousInput (reference .release)) :=
  [sampleRequest 0 "a" .to0Hello none [0x80],
    sampleRequest 1 "b" .to0OwnerSign (some "Bearer a") ownerSign,
    sampleRequest 2 "c" .to1HelloRV none helloRV]

/-- The token of the device with key `[9, 9]`, over the nonce of the third request. -/
def sampleToken : Outcome Error Bytes := do
  let claims ← (reference .release).headerMap.serializeData
    [(HeaderKeys.eatNonce.toI64, .scalar (.bytes (List.replicate 16 2))),
      (HeaderKeys.eatUeid.toI64, .scalar (.bytes (1 :: List.replicate 16 7)))]
  let token ← COSESign.new (reference .release) claims [] [9, 9]
  token.serializeData

def sampleServer : RendezvousState (reference .release) := ⟨fun _ => none, ⟨fun _ => none, fun _ => none⟩, fun _ => none⟩

theorem rendezvous_agreement_sample : ∃ past s input response, Runs sampleUd past s ∧
    (service sampleUd).Allowed past s input ∧ (service sampleUd).respond s input = some response ∧
    response.messageType = .present .to1RVRedirect ∧ Agreement sampleUd past s := by
  have hrun : (do
      let ownerSign ← sampleVoucher >>= (sampleOwnerSign · 0)
      let helloRV ← HelloRV.serializeData (reference .release) ⟨⟨List.replicate 16 7⟩, ⟨.stSECP256R1, []⟩⟩
      let token ← sampleToken
      let inputs := sampleInputs ownerSign helloRV
      let last := sampleRequest 3 "d" .to1ProveToRV (some "Bearer c") token
      Outcome.check (inputs.Pairwise (service sampleUd).Distinct) Error.cose
      let run := (service sampleUd).replay [] sampleServer inputs
      Outcome.check (∀ m ∈ run.1, (service sampleUd).Distinct m.2 last) Error.cose
      let response ← Outcome.ofOption Error.cose ((service sampleUd).respond run.2 last)
      Outcome.check (response.messageType = TypeHeader.present .to1RVRedirect) Error.cose).isOk = true := by
    decide +kernel
  obtain ⟨_, h⟩ := Outcome.isOk_iff.mp hrun
  obtain ⟨ownerSign, _, h₁⟩ := Outcome.bind_eq_ok.mp h
  obtain ⟨helloRV, _, h₂⟩ := Outcome.bind_eq_ok.mp h₁
  obtain ⟨token, _, h₃⟩ := Outcome.bind_eq_ok.mp h₂
  obtain ⟨_, hdistinct, h₄⟩ := Outcome.bind_eq_ok.mp h₃
  obtain ⟨_, hnew, h₅⟩ := Outcome.bind_eq_ok.mp h₄
  obtain ⟨response, hresponse, hmessage⟩ := Outcome.bind_eq_ok.mp h₅
  have run : Runs sampleUd
      ((service sampleUd).replay [] sampleServer (sampleInputs ownerSign helloRV)).1
      ((service sampleUd).replay [] sampleServer (sampleInputs ownerSign helloRV)).2 := by
    refine Service.run_replay (.start ⟨fun _ => rfl, fun _ => rfl⟩) ?_ (Outcome.check_eq_ok.mp hdistinct)
      fun m hm => absurd hm List.not_mem_nil
    intro input hinput past s hpast
    have hworks : StoresWork input ∧ input.isRequest = true := by
      simp only [sampleInputs, List.mem_cons, List.not_mem_nil, or_false] at hinput
      rcases hinput with rfl | rfl | rfl
      all_goals exact sampleRequest_works _ _ _ _ _
    exact ⟨Service.allowed_of_distinct hworks.2 hpast, hworks.1⟩
  exact ⟨_, _, sampleRequest 3 "d" .to1ProveToRV (some "Bearer c") token, response, run,
    Service.allowed_of_distinct rfl (Outcome.check_eq_ok.mp hnew), Outcome.ofOption_eq_ok.mp hresponse,
    Outcome.check_eq_ok.mp hmessage, rendezvous_agreement (coseLaws .release) run⟩

end FidoOnboard.RendezvousServer
