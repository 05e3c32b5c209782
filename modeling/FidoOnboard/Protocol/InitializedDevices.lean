import FidoOnboard.Protocol.FailedRequests
import FidoOnboard.Protocol.HeaderAgreement
import FidoOnboard.Protocol.LockStep

/-!
# Devices and their vouchers

The device saves its credential before the manufacturer has the HMAC for the
voucher. What goes wrong between the two is found by no later run.
-/
namespace FidoOnboard.InitializedDevices
open Server LockStep ManufacturingServer

variable {P : Platform}

/-- The credential file; one that was cut off while it was written cannot be read. -/
inductive CredentialFile where
  | absent
  | unreadable
  | stored (active : Bool) (credential : DeviceCredential)

/-- The device, and the server at the other end of its connection. -/
structure Device (ud : ManufacturingServiceUD P) where
  client : LockStep.Client (ManufacturingServer.service ud)
  file : CredentialFile

/-- How `fs::write` ends: a file that cannot be opened stays as it is. -/
inductive WriteFate where
  | done
  | refused
  | torn
  deriving DecidableEq, Repr

/-- What may happen to the server between two requests of the device. -/
inductive Interim (P : Platform) where
  | forget (id : String)
  | tend (store : VoucherStore P)

def Interim.event : Interim P → Event Draws (VoucherStore P)
  | .forget id => .forget id
  | .tend store => .tend store

/-- What decides about one run: the manufacturing string, the way of each request, the end of
the write, and what the server does in between. -/
structure Circumstances (P : Platform) where
  mfgInfo : Option String
  first : Delivery Draws
  write : WriteFate
  meanwhile : List (Interim P)
  second : Delivery Draws

def appStartCall (P : Platform) (msg : Di.AppStart) : Call where
  om := Di.appStart
  sm := Di.setCredentials
  Reply := OwnershipVoucherHeader P
  body := msg.serializeData P
  decode := OwnershipVoucherHeader.deserializeData P
  newKeys := none

def setHmacCall (P : Platform) (hmac : HMac) : Call where
  om := Di.setHmac
  sm := Di.done
  Reply := Unit
  body := P.setHmac.serializeData hmac
  decode := P.diDone.deserializeData
  newKeys := none

section

variable {ud : ManufacturingServiceUD P}

/-- The server goes on by itself. -/
def wait (meanwhile : List (Interim P)) (c : LockStep.Client (ManufacturingServer.service ud)) :
    LockStep.Client (ManufacturingServer.service ud) :=
  meanwhile.foldl (fun c interim => step c interim.event) c

/-- The AppStart of a run, if the device gets as far as sending it. -/
def appStartOf (P : Platform) (mfgInfo : Option String) : Outcome String Di.AppStart := do
  let mfgInfo ← .ofOption "Error building MFG string" mfgInfo
  ManufacturingClient.context "Serialization error (ciborium)" (Di.AppStart.new P mfgInfo)

/-- The file when no credential was saved. The write is the last thing to fail. -/
def fileLeft (keyReference : ManufacturingClient.KeyReference P) (write : WriteFate)
    (ovHeader : OwnershipVoucherHeader P) (file : CredentialFile) : CredentialFile :=
  if write = .torn ∧ (ManufacturingClient.takeCredentials keyReference false ovHeader).isOk = true then .unreadable
  else file

/-- `perform_di`, with what it leaves on the device and on the server when it fails. -/
def performDi (keyReference : ManufacturingClient.KeyReference P) (around : Circumstances P) (d : Device ud) :
    Device ud × Outcome String Unit :=
  match appStartOf P around.mfgInfo with
  | .err e => (d, .err e)
  | .panic => (d, .panic)
  | .ok msg =>
    match (appStartCall P msg).attempt around.first d.client with
    | (c, .err _) => ({ d with client := c }, .err "Error sending AppStart")
    | (c, .panic) => ({ d with client := c }, .panic)
    | (c, .ok ovHeader) =>
      match ManufacturingClient.takeCredentials keyReference (around.write != .done) ovHeader with
      | .ok (_, hmac, credential) =>
        let (c, result) := (setHmacCall P hmac).attempt around.second (wait around.meanwhile c)
        (⟨c, .stored true credential⟩, ManufacturingClient.context "Error sending SetHmac" result)
      | .err e => (⟨c, fileLeft keyReference around.write ovHeader d.file⟩, .err e)
      | .panic => (⟨c, fileLeft keyReference around.write ovHeader d.file⟩, .panic)

/-- `main`: an active credential means that nothing is left to do. -/
def main (keyReference : ManufacturingClient.KeyReference P) (around : Circumstances P) (d : Device ud) :
    Device ud × Outcome String Unit :=
  match d.file with
  | .unreadable => (d, .err "Error reading device credential")
  | .stored true _ => (d, .ok ())
  | _ => performDi keyReference around d

/-! ## What is to hold -/

/-- The HMAC of a voucher is the one that the device computes over its header. -/
def Vouched (keyReference : ManufacturingClient.KeyReference P) (v : OwnershipVoucher P) : Prop :=
  ∃ raw, v.headerRaw = .ok raw ∧ keyReference.performHmac raw = .ok v.cachedHeaderHmac

/-- The manufacturer has a voucher for the guid with the HMAC of the device. -/
def HasVoucher (keyReference : ManufacturingClient.KeyReference P) (guid : Guid)
    (c : LockStep.Client (ManufacturingServer.service ud)) : Prop :=
  ∃ v, (server c).userData.vouchers guid = some v ∧ Vouched keyReference v

/-- A device with an active credential has a voucher, and one without can be initialized. -/
structure Consistent (keyReference : ManufacturingClient.KeyReference P) (d : Device ud) : Prop where
  vouched : ∀ credential, d.file = .stored true credential → HasVoucher keyReference credential.guid d.client
  again : (∀ credential, d.file ≠ .stored true credential) →
    ∀ around, main keyReference around d = performDi keyReference around d

/-! ## When it holds -/

/-- The device has got a header. -/
def Handed (around : Circumstances P) (d : Device ud) (c : LockStep.Client (ManufacturingServer.service ud))
    (ovHeader : OwnershipVoucherHeader P) : Prop :=
  ∃ msg, appStartOf P around.mfgInfo = .ok msg ∧
    (appStartCall P msg).attempt around.first d.client = (c, .ok ovHeader)

/-- A SetHMAC that reaches the server, finds its session there, and is stored as a voucher. -/
structure Lands (c : LockStep.Client (ManufacturingServer.service ud)) (hmac : HMac) (delivery : Delivery Draws)
    (guid : Guid) (ov : OwnershipVoucher P) : Prop where
  arrives : delivery.fate ≠ .lost
  stores : delivery.draws.storeDataFails = false
  handled : ∃ req info hmac', (setHmacCall P hmac).request c = .ok req ∧
    receive P (handlerDiSetHmac ud delivery.draws) delivery.around (server c).sessions req = .ok (info, hmac') ∧
    newVoucher ud info.session hmac' = .ok (guid, ov)

/-- Nothing goes wrong from the write of the credential to the write of the voucher. -/
structure Unbroken (keyReference : ManufacturingClient.KeyReference P) (around : Circumstances P) (d : Device ud) :
    Prop where
  whole : ∀ c ovHeader, Handed around d c ovHeader →
    (ManufacturingClient.takeCredentials keyReference false ovHeader).isOk = true → around.write ≠ .torn
  lands : ∀ c ovHeader buf hmac credential, Handed around d c ovHeader →
    ManufacturingClient.takeCredentials keyReference (around.write != .done) ovHeader = .ok (buf, hmac, credential) →
    (∃ guid ov, Lands (wait around.meanwhile c) hmac around.second guid ov) ∨
      HasVoucher keyReference credential.guid (wait around.meanwhile c)

/-! ## One run -/

/-- The three ends of a run. -/
theorem performDi_cases (keyReference : ManufacturingClient.KeyReference P) (around : Circumstances P)
    (d : Device ud) :
    ((∀ c ovHeader, ¬ Handed around d c ovHeader) ∧ (performDi keyReference around d).1.file = d.file) ∨
    (∃ c ovHeader, Handed around d c ovHeader ∧
      (∀ r, ManufacturingClient.takeCredentials keyReference (around.write != .done) ovHeader ≠ .ok r) ∧
      (performDi keyReference around d).1.file = fileLeft keyReference around.write ovHeader d.file) ∨
    ∃ c ovHeader buf hmac credential, Handed around d c ovHeader ∧
      ManufacturingClient.takeCredentials keyReference (around.write != .done) ovHeader =
        .ok (buf, hmac, credential) ∧
      (performDi keyReference around d).1 =
        ⟨((setHmacCall P hmac).attempt around.second (wait around.meanwhile c)).1, .stored true credential⟩ := by
  unfold performDi
  cases hmsg : appStartOf P around.mfgInfo with
  | err e => exact .inl ⟨fun c ovHeader ⟨msg, hmsg', _⟩ => by simp [hmsg] at hmsg', rfl⟩
  | panic => exact .inl ⟨fun c ovHeader ⟨msg, hmsg', _⟩ => by simp [hmsg] at hmsg', rfl⟩
  | ok msg =>
      cases hattempt : (appStartCall P msg).attempt around.first d.client with
      | mk c result =>
          have hhanded : ∀ {c' ovHeader}, Handed around d c' ovHeader → result = .ok ovHeader := by
            rintro c' ovHeader ⟨msg', hmsg', hattempt'⟩
            obtain rfl := Outcome.ok.inj (hmsg.symm.trans hmsg')
            exact (Prod.mk.inj (hattempt.symm.trans hattempt')).2
          cases result with
          | err e => exact .inl ⟨fun c' ovHeader h => (nomatch hhanded h), by simp only [hattempt]⟩
          | panic => exact .inl ⟨fun c' ovHeader h => (nomatch hhanded h), by simp only [hattempt]⟩
          | ok ovHeader =>
              have hgot : Handed around d c ovHeader := ⟨msg, hmsg, hattempt⟩
              right
              simp only [hattempt]
              cases htake : ManufacturingClient.takeCredentials keyReference (around.write != .done) ovHeader with
              | err e => exact .inl ⟨c, ovHeader, hgot, by simp [htake], rfl⟩
              | panic => exact .inl ⟨c, ovHeader, hgot, by simp [htake], rfl⟩
              | ok taken =>
                  obtain ⟨buf, hmac, credential⟩ := taken
                  exact .inr ⟨c, ovHeader, buf, hmac, credential, hgot, htake, rfl⟩

/-! ## The second request -/

/-- The vouchers after SetHMAC. -/
theorem setHmac_server {c : LockStep.Client (ManufacturingServer.service ud)} (hmac : HMac)
    (delivery : Delivery Draws) (hlast : c.lastMessageType = some .diSetCredentials) :
    (∃ guid ov, Lands c hmac delivery guid ov ∧
      (server ((setHmacCall P hmac).attempt delivery c).1).userData.vouchers =
        Function.update (server c).userData.vouchers guid (some ov)) ∨
    (∀ guid ov, ¬ Lands c hmac delivery guid ov) ∧
      (server ((setHmacCall P hmac).attempt delivery c).1).userData = (server c).userData := by
  by_cases hreq : ∃ req, (setHmacCall P hmac).request c = .ok req
  · obtain ⟨req, hreq⟩ := hreq
    have hserver : server ((setHmacCall P hmac).attempt delivery c).1 = if delivery.fate = .lost then server c
        else (ManufacturingServer.service ud).step (server c) (.request delivery.around delivery.draws req) :=
      Call.server_sent (by rw [hlast]; rfl) rfl hreq
    have htype : req.messageType = .diSetHMAC := (ServiceClient.prepare_ok hreq).request.1
    rw [hserver]
    have hlands : ∀ {guid ov}, Lands c hmac delivery guid ov → delivery.fate ≠ .lost ∧
        delivery.draws.storeDataFails = false ∧ ∃ info hmac',
          receive P (handlerDiSetHmac ud delivery.draws) delivery.around (server c).sessions req =
            .ok (info, hmac') ∧ newVoucher ud info.session hmac' = .ok (guid, ov) := by
      rintro guid ov ⟨hfate, hstores, req', info, hmac', hreq', hreceive, hnew⟩
      obtain rfl := Outcome.ok.inj (hreq.symm.trans hreq')
      exact ⟨hfate, hstores, info, hmac', hreceive, hnew⟩
    by_cases hfate : delivery.fate = .lost
    · rw [if_pos hfate]
      exact .inr ⟨fun guid ov h => (hlands h).1 hfate, rfl⟩
    · rw [if_neg hfate, (writer ud).plan.step_stores]
      have hnowrites : (∀ r, receive P (handlerDiSetHmac ud delivery.draws) delivery.around (server c).sessions
          req ≠ .ok r) → (writer ud).plan.writes delivery.around delivery.draws (server c) req = [] := by
        intro hfailed
        refine (writer ud).plan.refused fun h hroute r => ?_
        rw [htype] at hroute
        obtain rfl := Option.some.inj hroute
        exact hfailed r
      cases hreceive : receive P (handlerDiSetHmac ud delivery.draws) delivery.around (server c).sessions req with
      | err e =>
          rw [hnowrites (by simp [hreceive])]
          refine .inr ⟨fun guid ov h => ?_, rfl⟩
          obtain ⟨_, _, info, hmac', hreceive', _⟩ := hlands h
          rw [hreceive] at hreceive'
          cases hreceive'
      | panic =>
          rw [hnowrites (by simp [hreceive])]
          refine .inr ⟨fun guid ov h => ?_, rfl⟩
          obtain ⟨_, _, info, hmac', hreceive', _⟩ := hlands h
          rw [hreceive] at hreceive'
          cases hreceive'
      | ok received =>
          obtain ⟨info, hmac'⟩ := received
          have hwrites : (writer ud).plan.writes delivery.around delivery.draws (server c) req =
              setHmacWrites delivery.draws (newVoucher ud info.session hmac') :=
            (writer ud).storeWrites_received htype hreceive
          have hmade : ∀ {guid ov}, Lands c hmac delivery guid ov →
              newVoucher ud info.session hmac' = .ok (guid, ov) ∧ delivery.draws.storeDataFails = false := by
            intro guid ov h
            obtain ⟨_, hstores, info', hmac'', hreceive', hnew⟩ := hlands h
            obtain ⟨rfl, rfl⟩ := Prod.mk.inj (Outcome.ok.inj (hreceive.symm.trans hreceive'))
            exact ⟨hnew, hstores⟩
          rw [hwrites]
          cases hnew : newVoucher ud info.session hmac' with
          | err e =>
              refine .inr ⟨fun guid ov h => ?_, rfl⟩
              have := (hmade h).1
              rw [hnew] at this
              cases this
          | panic =>
              refine .inr ⟨fun guid ov h => ?_, rfl⟩
              have := (hmade h).1
              rw [hnew] at this
              cases this
          | ok made =>
              obtain ⟨guid, ov⟩ := made
              cases hfails : delivery.draws.storeDataFails with
              | true =>
                  refine .inr ⟨fun guid ov h => ?_, by simp [setHmacWrites, carryOut, hfails]⟩
                  have := (hmade h).2
                  rw [hfails] at this
                  cases this
              | false =>
                  refine .inl ⟨guid, ov, ⟨hfate, hfails, req, info, hmac', hreq, hreceive, hnew⟩, ?_⟩
                  simp [setHmacWrites, carryOut, hfails]
  · have hreq : ∀ req, (setHmacCall P hmac).request c ≠ .ok req := fun req h => hreq ⟨req, h⟩
    refine .inr ⟨fun guid ov h => ?_, by rw [Call.server_unsent hreq]⟩
    obtain ⟨req, _, _, hreq', _⟩ := h.handled
    exact hreq req hreq'

/-- What the server does by itself leaves the client alone, and no session but a forgotten one. -/
theorem wait_kept (meanwhile : List (Interim P)) (c : LockStep.Client (ManufacturingServer.service ud)) :
    (wait meanwhile c).authorizationToken = c.authorizationToken ∧
    (wait meanwhile c).encryptionKeys = c.encryptionKeys ∧
    (wait meanwhile c).lastMessageType = c.lastMessageType ∧
    ∀ id, (server (wait meanwhile c)).sessions id = (server c).sessions id ∨
      (server (wait meanwhile c)).sessions id = none := by
  induction meanwhile generalizing c with
  | nil => exact ⟨rfl, rfl, rfl, fun _ => .inl rfl⟩
  | cons interim meanwhile ih =>
      obtain ⟨htoken, hkeys, hlast, hsessions⟩ := ih (step c interim.event)
      cases interim with
      | tend store => exact ⟨htoken, hkeys, hlast, hsessions⟩
      | forget forgotten =>
          refine ⟨htoken, hkeys, hlast, fun id => ?_⟩
          rcases hsessions id with hsame | hnone
          · change _ = Function.update (server c).sessions forgotten none id at hsame
            by_cases hid : id = forgotten
            · rw [hid, Function.update_self] at hsame
              exact .inr (by rw [hid]; exact hsame)
            · rw [Function.update_of_ne hid] at hsame
              exact .inl hsame
          · exact .inr hnone

theorem Handed.unique {around : Circumstances P} {d : Device ud}
    {c c' : LockStep.Client (ManufacturingServer.service ud)} {ovHeader ovHeader' : OwnershipVoucherHeader P}
    (h : Handed around d c ovHeader) (h' : Handed around d c' ovHeader') : c' = c ∧ ovHeader' = ovHeader := by
  obtain ⟨msg, hmsg, hattempt⟩ := h
  obtain ⟨msg', hmsg', hattempt'⟩ := h'
  obtain rfl := Outcome.ok.inj (hmsg.symm.trans hmsg')
  obtain ⟨rfl, hvalue⟩ := Prod.mk.inj (hattempt.symm.trans hattempt')
  exact ⟨rfl, (Outcome.ok.inj hvalue).symm⟩

/-- The server's side of a header that was handed out: what was written into the session. -/
theorem handed_session (envelopes : EnvelopeLaws P) (ciphers : CipherLaws P)
    {past : List (LockStep.Client (ManufacturingServer.service ud) × Event Draws (VoucherStore P))}
    {around : Circumstances P} {d : Device ud} (run : LockStep.Runs _ .diunRequestKeyParameters past d.client)
    (hcookie : ' ' ∉ around.first.around.cookie.toList) {c : LockStep.Client (ManufacturingServer.service ud)}
    {ovHeader : OwnershipVoucherHeader P} (h : Handed around d c ovHeader) :
    ∃ token id ses draws before msg header mfgInfo chain serialized ders,
      c.authorizationToken = some token ∧ P.idFromCookieValue (bearerToken token) = some id ∧
      (server c).sessions id = some ses ∧ ses.keys = c.encryptionKeys ∧
      c.lastMessageType = some .diSetCredentials ∧
      Started ud draws before msg header mfgInfo chain serialized ders ∧ Remembers ses serialized ders ∧
      OwnershipVoucherHeader.deserializeData P serialized = .ok ovHeader := by
  obtain ⟨appStart, _, hattempt⟩ := h
  have hfits : Fits .diunRequestKeyParameters d.client (appStartCall P appStart) around.first :=
    { request := by simp [appStartCall, Message.all]
      reply := by simp [appStartCall, Message.all]
      newKeys := nofun
      agreed := fun _ _ _ _ htype => nomatch htype
      cookie := hcookie }
  have hS := manufacturing_disciplined envelopes ud
  have hvalue : ((appStartCall P appStart).attempt around.first d.client).2 = .ok ovHeader := by rw [hattempt]
  obtain ⟨req, a, token, hexchanged⟩ := hfits.exchanged hS (run.invariant hS) hvalue
  obtain ⟨val, data, plain, response, hsent, hplain, hdecode⟩ := hexchanged.answer
  have htoken := hexchanged.authorization
  have hstepped := hexchanged.stepped
  have hlast := hexchanged.last
  have hkeys := hexchanged.keys
  rw [hattempt] at htoken hstepped hlast hkeys hplain
  have htype : a.req.messageType = .diAppStart := (Call.request_type hexchanged.request a).2
  obtain ⟨body, _, htransition⟩ := acceptance_transition a
  have hstored := a.step_session
  have hencrypted : a.after.keys.encrypt P val = .ok data := hsent.encrypted
  have hwritten := hsent.written
  rw [htype] at htransition
  rw [← hstepped] at hstored
  rw [hkeys] at hencrypted
  obtain rfl := Outcome.ok.inj ((EncryptionKeys.decrypt_encrypt ciphers hencrypted).symm.trans hplain)
  generalize a.before = before, a.after = after, a.h.encode a.reply = reply at *
  cases htransition with
  | appStart _ started =>
      rw [started.written] at hwritten
      obtain rfl := Outcome.ok.inj hwritten
      exact ⟨token, a.id, _, a.draws, before, _, _, _, _, _, _, htoken, hexchanged.session, hstored, hkeys,
        hlast.symm, started, ⟨rfl, rfl⟩, hdecode⟩

theorem takeCredentials_hmac {keyReference : ManufacturingClient.KeyReference P} {writeFails : Bool}
    {ovHeader : OwnershipVoucherHeader P} {buf : Bytes} {hmac : HMac} {credential : DeviceCredential}
    (h : ManufacturingClient.takeCredentials keyReference writeFails ovHeader = .ok (buf, hmac, credential)) :
    keyReference.performHmac buf = .ok hmac := by
  obtain ⟨buf', _, h₁⟩ := Outcome.bind_eq_ok.mp h
  obtain ⟨hmac', hhmac, h₂⟩ := Outcome.bind_eq_ok.mp h₁
  obtain ⟨_, _, h₃⟩ := Outcome.bind_eq_ok.mp h₂
  obtain ⟨_, _, h₄⟩ := Outcome.bind_eq_ok.mp h₃
  rw [ManufacturingClient.context_eq_ok] at hhmac
  cases h₄
  exact hhmac

/-- Credentials are taken only when their write is done. -/
theorem takeCredentials_written {keyReference : ManufacturingClient.KeyReference P} {writeFails : Bool}
    {ovHeader : OwnershipVoucherHeader P} {r : Bytes × HMac × DeviceCredential}
    (h : ManufacturingClient.takeCredentials keyReference writeFails ovHeader = .ok r) : writeFails = false := by
  obtain ⟨_, _, h₁⟩ := Outcome.bind_eq_ok.mp h
  obtain ⟨_, _, h₂⟩ := Outcome.bind_eq_ok.mp h₁
  obtain ⟨_, _, h₃⟩ := Outcome.bind_eq_ok.mp h₂
  obtain ⟨_, hsaved, _⟩ := Outcome.bind_eq_ok.mp h₃
  rw [ManufacturingClient.context_eq_ok] at hsaved
  cases keyReference with
  | fileSystem signKey hmacKey =>
      obtain ⟨_, _, h₄⟩ := Outcome.bind_eq_ok.mp hsaved
      obtain ⟨_, hcheck, _⟩ := Outcome.bind_eq_ok.mp h₄
      exact Outcome.check_eq_ok.mp hcheck
  | semiTpm signingPublic signingPrivate hmacPublic hmacPrivate =>
      obtain ⟨_, hcheck, _⟩ := Outcome.bind_eq_ok.mp hsaved
      exact Outcome.check_eq_ok.mp hcheck

/-- A SetHMAC that lands makes the voucher of this device. -/
theorem lands_vouched (elements : ElementLaws P) (greeting : GreetingLaws P) (envelopes : EnvelopeLaws P)
    (ciphers : CipherLaws P)
    {past : List (LockStep.Client (ManufacturingServer.service ud) × Event Draws (VoucherStore P))}
    {keyReference : ManufacturingClient.KeyReference P} {around : Circumstances P} {d : Device ud}
    (run : LockStep.Runs _ .diunRequestKeyParameters past d.client)
    (hcookie : ' ' ∉ around.first.around.cookie.toList) {c : LockStep.Client (ManufacturingServer.service ud)}
    {ovHeader : OwnershipVoucherHeader P} (hhanded : Handed around d c ovHeader) {writeFails : Bool} {buf : Bytes}
    {hmac : HMac} {credential : DeviceCredential}
    (htaken : ManufacturingClient.takeCredentials keyReference writeFails ovHeader = .ok (buf, hmac, credential))
    {guid : Guid} {ov : OwnershipVoucher P} (hlands : Lands (wait around.meanwhile c) hmac around.second guid ov) :
    guid = credential.guid ∧ Vouched keyReference ov := by
  obtain ⟨token, id, ses, draws, before, msg, header, mfgInfo, chain, serialized, ders, htoken, hid, hses, hkeys,
    _, hstarted, hremembers, hread⟩ := handed_session envelopes ciphers run hcookie hhanded
  obtain ⟨hwaitToken, hwaitKeys, _, hwaitSessions⟩ := wait_kept around.meanwhile c
  obtain ⟨req, info, hmac', hreq, hreceive, hnew⟩ := hlands.handled
  have hreceived := receive_received hreceive
  have horigin := hreceived.origin
  rw [(ServiceClient.prepare_ok hreq).request.2.1, hwaitToken, htoken] at horigin
  have hsession : info.session = ses := by
    rcases horigin.of_token hid with hfound | ⟨_, hnone, _⟩
    · rcases hwaitSessions id with hsame | hgone
      · rw [hsame, hses] at hfound
        exact (Option.some.inj hfound).symm
      · rw [hgone] at hfound
        cases hfound
    · have hsequence := hreceived.sequence
      rw [hnone] at hsequence
      cases hsequence
  have hmacs : hmac' = hmac := by
    obtain ⟨data, hdata, hencrypted⟩ := ServiceClient.prepare_body hreq
    obtain ⟨plain, hplain, hdecode⟩ := hreceived.body
    rw [hwaitKeys, ← hkeys, ← hsession] at hencrypted
    obtain rfl := Outcome.ok.inj ((EncryptionKeys.decrypt_encrypt ciphers hencrypted).symm.trans hplain)
    have hback := greeting.setHmac _ _ (Codec.serializeData_eq_ok.mp hdata)
    exact Option.some.inj ((Codec.deserializeData_eq_ok.mp hdecode).symm.trans hback)
  rw [hsession, hmacs] at hnew
  obtain ⟨hraw, hhmac, _, hguid⟩ := HeaderAgreement.started_voucher elements hstarted hremembers hnew
  obtain ⟨hwritten, hcredential, _⟩ := ManufacturingClient.takeCredentials_ok htaken
  obtain ⟨copy, hcopy, hsame⟩ := hstarted.reads_copy elements
  obtain rfl := Outcome.ok.inj (hcopy.symm.trans hread)
  obtain rfl := Outcome.ok.inj (hsame.written.symm.trans hwritten)
  refine ⟨by rw [hguid, hcredential, hsame.same.guid], serialized, hraw, ?_⟩
  rw [hhmac]
  exact takeCredentials_hmac htaken

/-! ## The run as a whole -/

theorem main_performs {keyReference : ManufacturingClient.KeyReference P} {d : Device ud}
    (hreadable : d.file ≠ .unreadable) (hinactive : ∀ credential, d.file ≠ .stored true credential)
    (around : Circumstances P) : main keyReference around d = performDi keyReference around d := by
  unfold main
  split
  · next hfile => exact absurd hfile hreadable
  · next credential hfile => exact absurd hfile (hinactive credential)
  · rfl

/-- A file that cannot be read stops every later run. -/
theorem unreadable_stops {keyReference : ManufacturingClient.KeyReference P} {d : Device ud}
    (hfile : d.file = .unreadable) (around : Circumstances P) :
    main keyReference { around with mfgInfo := none } d ≠ performDi keyReference { around with mfgInfo := none } d := by
  intro heq
  have hresult := congrArg Prod.snd heq
  simp [main, hfile, performDi, appStartOf, Outcome.ofOption] at hresult

/-- A run that starts without an active credential ends consistent exactly when nothing breaks
between the write of the credential and the write of the voucher. -/
theorem consistent_iff_unbroken (elements : ElementLaws P) (greeting : GreetingLaws P) (envelopes : EnvelopeLaws P)
    (ciphers : CipherLaws P)
    {past : List (LockStep.Client (ManufacturingServer.service ud) × Event Draws (VoucherStore P))}
    {keyReference : ManufacturingClient.KeyReference P} {around : Circumstances P} {d : Device ud}
    (run : LockStep.Runs _ .diunRequestKeyParameters past d.client)
    (hcookie : ' ' ∉ around.first.around.cookie.toList) (hreadable : d.file ≠ .unreadable)
    (hinactive : ∀ credential, d.file ≠ .stored true credential) :
    Consistent keyReference (performDi keyReference around d).1 ↔ Unbroken keyReference around d := by
  have hkept : (performDi keyReference around d).1.file = d.file →
      Consistent keyReference (performDi keyReference around d).1 := by
    intro hfile
    refine ⟨fun credential h => absurd (hfile ▸ h) (hinactive credential), fun h => main_performs ?_ h⟩
    rw [hfile]
    exact hreadable
  rcases performDi_cases keyReference around d with ⟨hnone, hfile⟩ | ⟨c, ovHeader, hhanded, hfailed, hfile⟩ |
    ⟨c, ovHeader, buf, hmac, credential, hhanded, htaken, hresult⟩
  · exact iff_of_true (hkept hfile)
      ⟨fun c o h => absurd h (hnone c o), fun c o _ _ _ h => absurd h (hnone c o)⟩
  · by_cases htorn : around.write = .torn ∧
        (ManufacturingClient.takeCredentials keyReference false ovHeader).isOk = true
    · refine iff_of_false (fun hconsistent => ?_) fun hunbroken => hunbroken.whole c ovHeader hhanded htorn.2 htorn.1
      rw [fileLeft, if_pos htorn] at hfile
      exact unreadable_stops hfile around (hconsistent.again (by simp [hfile]) _)
    · rw [fileLeft, if_neg htorn] at hfile
      refine iff_of_true (hkept hfile) ⟨fun c' o' h' hok hwrite => ?_, fun c' o' buf hmac credential h' hok => ?_⟩
      · obtain ⟨rfl, rfl⟩ := hhanded.unique h'
        exact htorn ⟨hwrite, hok⟩
      · obtain ⟨rfl, rfl⟩ := hhanded.unique h'
        exact absurd hok (hfailed _)
  · obtain ⟨_, _, _, _, _, _, _, _, _, _, _, _, _, _, _, hlast, _⟩ :=
      handed_session envelopes ciphers run hcookie hhanded
    obtain ⟨_, _, hwaitLast, _⟩ := wait_kept around.meanwhile c
    have hwhole : around.write ≠ .torn := by
      intro hwrite
      have hdone := takeCredentials_written htaken
      rw [hwrite] at hdone
      cases hdone
    have hconsistent : Consistent keyReference (performDi keyReference around d).1 ↔ HasVoucher keyReference
        credential.guid ((setHmacCall P hmac).attempt around.second (wait around.meanwhile c)).1 := by
      rw [hresult]
      constructor
      · exact fun h => h.vouched credential rfl
      · refine fun h => ⟨fun credential' heq => ?_, fun h => absurd rfl (h credential)⟩
        cases heq
        exact h
    have hunbroken : Unbroken keyReference around d ↔
        (∃ guid ov, Lands (wait around.meanwhile c) hmac around.second guid ov) ∨
          HasVoucher keyReference credential.guid (wait around.meanwhile c) := by
      constructor
      · exact fun h => h.lands c ovHeader buf hmac credential hhanded htaken
      · refine fun h => ⟨fun _ _ _ _ => hwhole, fun c' o' buf' hmac' credential' h' htaken' => ?_⟩
        obtain ⟨rfl, rfl⟩ := hhanded.unique h'
        cases htaken.symm.trans htaken'
        exact h
    rw [hconsistent, hunbroken]
    rcases setHmac_server hmac around.second (hwaitLast.trans hlast) with ⟨guid, ov, hlands, hstored⟩ | ⟨hnone, hsame⟩
    · obtain ⟨rfl, hvouched⟩ := lands_vouched elements greeting envelopes ciphers run hcookie hhanded htaken hlands
      refine iff_of_true ⟨ov, ?_, hvouched⟩ (.inl ⟨_, ov, hlands⟩)
      rw [hstored, Function.update_self]
    · unfold HasVoucher
      rw [hsame]
      exact ⟨.inr, fun h => h.resolve_left fun ⟨guid, ov, hlands⟩ => hnone guid ov hlands⟩

end

/-! ## Two runs -/

open Reference

/-- A device without a credential, and a server without sessions. -/
def sampleDevice : Device HeaderAgreement.sampleUd :=
  ⟨ServiceClient.new true (⟨fun _ => none, ⟨fun _ => none⟩, fun _ => none⟩, ⟨.delivered, ⟨"a", 0, false, false, false⟩,
    HeaderAgreement.sampleDraws⟩), .absent⟩

/-- Everything goes well but for the way of SetHMAC. -/
def sampleCircumstances (fate : Fate) : Circumstances (reference .release) where
  mfgInfo := some "device"
  first := ⟨.delivered, ⟨"a", 0, false, false, false⟩, HeaderAgreement.sampleDraws⟩
  write := .done
  meanwhile := []
  second := ⟨fate, ⟨"b", 0, false, false, false⟩, HeaderAgreement.sampleDraws⟩

def sampleKeyReference : ManufacturingClient.KeyReference (reference .release) := .fileSystem [5, 5] [3]

def CredentialFile.activeGuid : CredentialFile → Option Guid
  | .stored true credential => some credential.guid
  | _ => none

theorem sample_run : LockStep.Runs _ .diunRequestKeyParameters [] sampleDevice.client :=
  .start ⟨⟨_, _, rfl⟩, fun _ => rfl⟩

theorem activeGuid_eq_some {file : CredentialFile} {guid : Guid} (h : file.activeGuid = some guid) :
    ∃ credential, file = .stored true credential ∧ credential.guid = guid := by
  cases file with
  | stored active credential =>
      cases active with
      | true => exact ⟨credential, rfl, Option.some.inj h⟩
      | false => cases h
  | _ => cases h

/-- The answer to SetHMAC is lost, but the voucher is there. -/
theorem unbroken_sample : ∃ credential,
    (performDi sampleKeyReference (sampleCircumstances .unanswered) sampleDevice).1.file = .stored true credential ∧
    Consistent sampleKeyReference (performDi sampleKeyReference (sampleCircumstances .unanswered) sampleDevice).1 ∧
    Unbroken sampleKeyReference (sampleCircumstances .unanswered) sampleDevice := by
  have hrun : (do
      let d := (performDi sampleKeyReference (sampleCircumstances .unanswered) sampleDevice).1
      let guid ← Outcome.ofOption "" d.file.activeGuid
      let v ← Outcome.ofOption "" ((server d.client).userData.vouchers guid)
      let raw ← v.headerRaw.mapErr fun _ => ""
      let hmac ← sampleKeyReference.performHmac raw
      Outcome.check (hmac = v.cachedHeaderHmac) "").isOk = true := by
    decide +kernel
  obtain ⟨_, h⟩ := Outcome.isOk_iff.mp hrun
  obtain ⟨guid, hguid, h₁⟩ := Outcome.bind_eq_ok.mp h
  obtain ⟨v, hv, h₂⟩ := Outcome.bind_eq_ok.mp h₁
  obtain ⟨raw, hraw, h₃⟩ := Outcome.bind_eq_ok.mp h₂
  obtain ⟨hmac, hhmac, hsame⟩ := Outcome.bind_eq_ok.mp h₃
  rw [Outcome.ofOption_eq_ok] at hguid hv
  obtain rfl := Outcome.check_eq_ok.mp hsame
  obtain ⟨credential, hfile, rfl⟩ := activeGuid_eq_some hguid
  have hconsistent : Consistent sampleKeyReference
      (performDi sampleKeyReference (sampleCircumstances .unanswered) sampleDevice).1 := by
    refine ⟨fun credential' hfile' => ?_, fun hnone => absurd hfile (hnone credential)⟩
    cases hfile.symm.trans hfile'
    exact ⟨v, hv, raw, Outcome.mapErr_eq_ok.mp hraw, hhmac⟩
  exact ⟨credential, hfile, hconsistent,
    (consistent_iff_unbroken (elementLaws .release) (greetingLaws .release) (envelopeLaws .release)
      (cipherLaws .release) sample_run (by decide) nofun nofun).mp hconsistent⟩

/-- SetHMAC is lost: the credential is active, there is no voucher, and no later run does anything. -/
theorem lost_setHmac : ∃ credential,
    (performDi sampleKeyReference (sampleCircumstances .lost) sampleDevice).1.file = .stored true credential ∧
    (server (performDi sampleKeyReference (sampleCircumstances .lost) sampleDevice).1.client).userData.vouchers
      credential.guid = none ∧
    (∀ around, main sampleKeyReference around
      (performDi sampleKeyReference (sampleCircumstances .lost) sampleDevice).1 =
        ((performDi sampleKeyReference (sampleCircumstances .lost) sampleDevice).1, .ok ())) ∧
    ¬ Consistent sampleKeyReference (performDi sampleKeyReference (sampleCircumstances .lost) sampleDevice).1 := by
  have hrun : (do
      let d := (performDi sampleKeyReference (sampleCircumstances .lost) sampleDevice).1
      let guid ← Outcome.ofOption "" d.file.activeGuid
      Outcome.check (((server d.client).userData.vouchers guid).isNone = true) "").isOk = true := by
    decide +kernel
  obtain ⟨_, h⟩ := Outcome.isOk_iff.mp hrun
  obtain ⟨guid, hguid, hnone⟩ := Outcome.bind_eq_ok.mp h
  obtain ⟨credential, hfile, rfl⟩ := activeGuid_eq_some (Outcome.ofOption_eq_ok.mp hguid)
  have hnone := Option.isNone_iff_eq_none.mp (Outcome.check_eq_ok.mp hnone)
  refine ⟨credential, hfile, hnone, fun around => by simp only [main, hfile], fun hconsistent => ?_⟩
  obtain ⟨v, hv, _⟩ := hconsistent.vouched credential hfile
  rw [hnone] at hv
  cases hv

end FidoOnboard.InitializedDevices

