import FidoOnboard.Base.Hex
import FidoOnboard.DataFormats.Eat
import FidoOnboard.DataFormats.ServiceInfo
import FidoOnboard.HttpWrapper.Server

/-!
# `owner-onboarding-server/src/handlers.rs`

The six TO2 handlers. Each works on a copy of its session; what it did to the
copy is lost when it fails.
-/
namespace FidoOnboard.OwnerServer
open Server

/-- The entries the handlers keep in a session. A guid is kept as text, which reads back. -/
structure OwnerSession where
  deviceGuid : Option Guid
  nonce6 : Option Nonce
  ciphersuite : Option CipherSuite
  aKeyExchange : Option KeyExchange
  nonce7 : Option Nonce
  provenDevice : Option Bool
  numServiceInfoLoops : Option Nat
  deriving DecidableEq, Repr, Inhabited

/-- The ownership voucher store, with the one metadata field that is written here. -/
structure OwnerStores (P : Platform) where
  vouchers : Guid → Option (OwnershipVoucher P)
  to2Performed : Guid → Bool

/-- The fields of `OwnerServiceUD` that the handlers read. -/
structure OwnerServiceUD (P : Platform) where
  ownerKey : P.PrivateKey
  ownerPubkey : PublicKey P
  owner2Key : P.PrivateKey
  owner2Pub : PublicKey P
  interoperableKdfAvailable : Bool

structure InitialUser where
  username : String
  password : Option String
  sshKeys : Option (List String)
  deriving DecidableEq, Repr

structure ServiceInfoApiReply (P : Platform) where
  initialUser : Option InitialUser
  extraCommands : Option (List (ServiceInfoModule × String × P.Json))
  reboot : Option Bool

/-- What a handler draws, asks other services, and which store operations fail on it. -/
structure Draws (P : Platform) where
  nonce : Option Random16
  guid : Option Random16
  kex : KexEntropy
  serviceInfoApi : Guid → List String → Option (ServiceInfoApiReply P)
  loadDataFails : Bool
  storeMetadataFails : Bool

variable {P : Platform}

abbrev Info := RequestInformation OwnerSession

/-- The session's own entries replaced. -/
def withData (info : Info) (f : OwnerSession → OwnerSession) : Info :=
  { info with session := { info.session with data := f info.session.data } }

/-- A session entry that must be there; the error names a message type of its own. -/
def require {α : Type} (messageType : MessageType) (entry : Option α) : Outcome Rejection α :=
  .ofOption (.error .invalidMessageError messageType "Request sequence failure") entry

def loadVoucher (draws : Draws P) (stores : OwnerStores P) (message : Message) (guid : Guid) :
    Outcome Rejection (OwnershipVoucher P) := do
  Outcome.check (draws.loadDataFails = false) (.fromError message)
  .ofOption (.error .resourceNotFound message.messageType "Device not found") (stores.vouchers guid)

def helloDevice (ud : OwnerServiceUD P) (draws : Draws P) (stores : OwnerStores P) (info : Info)
    (msg : HelloDevice) : Outcome Rejection (COSESign P × Info) := do
  let ownershipVoucher ← loadVoucher draws stores To2.helloDevice msg.guid
  let invalid : Rejection := .error .messageBodyError .to2HelloDevice "Invalid signature info"
  Outcome.check (msg.aSignatureInfo.sigType = .stSECP256R1 ∨ msg.aSignatureInfo.sigType = .stSECP384R1)
    invalid
  Outcome.check (msg.aSignatureInfo.info = []) invalid
  let aKeyExchange ← orInternal To2.helloDevice (KeyExchange.new draws.kex msg.kexSuite)
  let nonce6 ← orInternal To2.helloDevice (Nonce.new draws.nonce)
  let aKeyExchangePublic ← orInternal To2.helloDevice (aKeyExchange.getPublic P)
  let headerRaw ← orInternal To2.helloDevice ownershipVoucher.headerRaw
  let resPayload ← orInternal To2.helloDevice (TO2ProveOVHdrPayload.new P headerRaw
    ownershipVoucher.numEntries ownershipVoucher.headerHmac msg.nonce5
    ⟨msg.aSignatureInfo.sigType, []⟩ aKeyExchangePublic info.reqHash)
  let resHeader ← orInternal To2.helloDevice
    (COSEHeaderMap.insert (P := P) P.valueOfBytes [] .cuphNonce nonce6.value)
  let resHeader ← orInternal To2.helloDevice (COSEHeaderMap.insert (P := P) P.valueOfPublicKeyFields
    resHeader .cuphOwnerPubKey ud.ownerPubkey.toPublicKeyFields)
  let payload ← orInternal To2.helloDevice resPayload.contents.serializeData
  let res ← orInternal To2.helloDevice (COSESign.new P payload resHeader ud.ownerKey)
  .ok (res, withData info fun data => { data with
    deviceGuid := some msg.guid, nonce6 := some nonce6, ciphersuite := some msg.cipherSuite,
    aKeyExchange := some aKeyExchange })

/-- An entry that is missing or cannot be read stops the request. The session is not changed. -/
def getOvNextEntry (draws : Draws P) (stores : OwnerStores P) (info : Info) (entryNum : Nat) :
    Outcome Rejection (OVNextEntry P × Info) := do
  let deviceGuid ← require .to2GetOVNextEntry info.session.data.deviceGuid
  let ownershipVoucher ← loadVoucher draws stores To2.getOVNextEntry deviceGuid
  let entry ← (ownershipVoucher.entry entryNum).unwrap
  .ok (⟨entryNum % 2 ^ 16, entry⟩, info)

/-- The key of the leaf certificate in the voucher's device chain. -/
def devicePublicKey (v : OwnershipVoucher P) : Outcome Rejection P.PKey := do
  let chain ← .ofOption (.error .invalidMessageError .to2ProveDevice
    "Device certificate chain not supported") v.deviceCertificateChain
  let cert ← .ofOption (.error .invalidMessageError .to2ProveDevice
    "Device certificate not supported") chain.leafCertificate
  .ofOption (.fromError To2.proveDevice) (P.x509PublicKey cert)

def setupDevicePayload (ud : OwnerServiceUD P) (guid : Guid) (nonce7 : Nonce) : Outcome Error Bytes :=
  P.setupDevicePayload.serializeData
    ⟨P.emptyRendezvousInfo, guid.value, nonce7.value, ud.owner2Pub.toPublicKeyFields⟩

def proveDevice (ud : OwnerServiceUD P) (draws : Draws P) (stores : OwnerStores P) (info : Info)
    (token : COSESign P) : Outcome Rejection (COSESign P × Info) := do
  let deviceGuid ← require .to2ProveDevice info.session.data.deviceGuid
  let nonce6 ← require .to2ProveDevice info.session.data.nonce6
  let aKeyExchange ← require .to2ProveDevice info.session.data.aKeyExchange
  let ciphersuite ← require .to2GetOVNextEntry info.session.data.ciphersuite
  let ownershipVoucher ← loadVoucher draws stores To2.proveDevice deviceGuid
  let devPubkey ← devicePublicKey ownershipVoucher
  let nonce7 ← orInternal To2.proveDevice (token.getUnprotectedValue (Nonce.fromValue P) .euphNonce)
  let nonce7 ← .ofOption (.error .invalidMessageError .to2ProveDevice "Missing nonce7") nonce7
  let eat ← orInternal To2.proveDevice (token.getEat devPubkey)
  let eatPayload ← orInternal To2.proveDevice (eat.payloadAs P.valueToProveDevicePayload)
  let bKeyExchange ← .ofOption (.error .invalidMessageError .to2ProveDevice "Missing payload") eatPayload
  let nonceMatches ← (eat.nonce.eq nonce6).unwrap
  Outcome.check (nonceMatches = true) (.error .invalidMessageError .to2ProveDevice "Nonce invalid")
  let newKeys ← orInternal To2.proveDevice (aKeyExchange.deriveKey P ud.interoperableKdfAvailable
    .ownerService ciphersuite bKeyExchange info.nonInteroperableKdf)
  let newKeys := EncryptionKeys.fromDerived ciphersuite newKeys
  let guid ← (Guid.new draws.guid).unwrap
  let newPayload ← orInternal To2.proveDevice (setupDevicePayload ud guid nonce7)
  let newToken ← orInternal To2.proveDevice (COSESign.new P newPayload [] ud.owner2Key)
  let info := withData info fun data => { data with
    aKeyExchange := none, ciphersuite := none, nonce7 := some nonce7, provenDevice := some true }
  .ok (newToken, { info with session := { info.session with encryptionKeys := some newKeys } })

/-- The reply carries no size. -/
def deviceServiceInfoReady (info : Info) : Outcome Rejection (Option Nat × Info) := do
  let _ ← require .to2GetOVNextEntry info.session.data.provenDevice
  .ok (none, info)

/-! ## Service info -/

def maxServiceInfoLoops : Nat := 1000

/-- The module list of the last `devmod:modules`, without its two leading numbers; a
list in it that cannot be read is an error. Duplicates are dropped. -/
def moduleList (P : Platform) (info : ServiceInfo) : Outcome Error (Option (List String)) :=
  (ServiceInfo.iter P info).foldlM (fun found (module, var, value) =>
    if module = .standard .devMod ∧ var = "modules" then do
      let rawmodlist ← .ofOption .serdeCborError (P.valueToList value)
      let modlist ← .ofOption .serdeCborError ((rawmodlist.drop 2).mapM P.valueToText)
      .ok (some modlist.eraseDups)
    else .ok found) none

def addInitialUser (P : Platform) (user : InitialUser) (info : ServiceInfo) :
    Outcome Error ServiceInfo := do
  let info ← info.add (.fedoraIot .sshKey) "active" (P.bool.intoWriter true)
  let info ← info.add (.fedoraIot .sshKey) "username" (P.text.intoWriter user.username)
  let info ← match user.password with
    | none => .ok info
    | some password => info.add (.fedoraIot .sshKey) "password" (P.text.intoWriter password)
  match user.sshKeys with
  | none => .ok info
  | some keys => info.add (.fedoraIot .sshKey) "sshkeys" (P.text.intoWriter (String.intercalate ";" keys))

/-- `hex::decode`. -/
def hexDecode : List Char → Option Bytes := Hex.decode

/-- `replace("|hex", "")`. -/
def dropHexMarks : List Char → List Char
  | [] => []
  | '|' :: 'h' :: 'e' :: 'x' :: rest => dropHexMarks rest
  | c :: rest => c :: dropHexMarks rest

def addExtraCommand (P : Platform) (info : ServiceInfo) :
    ServiceInfoModule × String × P.Json → Outcome Error ServiceInfo
  | (module, key, value) =>
    if "|hex".toList <:+ key.toList then do
      let text ← .ofOption (.inconsistentValue "Invalid API response: non-hex") (P.jsonAsStr value)
      let data ← .ofOption (.inconsistentValue "Invalid hex") (hexDecode text.toList)
      info.add module (String.ofList (dropHexMarks key.toList)) (P.byteBuf.intoWriter data)
    else info.add module key (P.jsonIntoWriter value)

def addReboot (P : Platform) (reboot : Bool) (info : ServiceInfo) : Outcome Error ServiceInfo := do
  let info ← info.add (.fedoraIot .reboot) "active" (P.bool.intoWriter true)
  info.add (.fedoraIot .reboot) "reboot" (P.bool.intoWriter reboot)

/-- The reply `(is_more_service_info, is_done, service_info)`. Everything goes into the first loop. -/
def performServiceInfo (draws : Draws P) (deviceGuid : Guid) (inSi : ServiceInfo) (loopNum : Nat) :
    Outcome Error (Bool × Bool × ServiceInfo) :=
  if loopNum ≠ 0 then .ok (false, true, [])
  else do
    let modules ← moduleList P inSi
    let modules ← .ofOption (.inconsistentValue "No module list found in ServiceInfo") modules
    let resp ← .ofOption .ioError (draws.serviceInfoApi deviceGuid modules)
    let outSi ← match resp.initialUser with
      | none => .ok []
      | some user => addInitialUser P user []
    let outSi ← (resp.extraCommands.getD []).foldlM (addExtraCommand P) outSi
    let outSi ← match resp.reboot with
      | none => .ok outSi
      | some reboot => addReboot P reboot outSi
    .ok (false, false, outSi)

/-- The counter is written before the work is done, and wraps at no loop that passes the limit. -/
def deviceServiceInfo (draws : Draws P) (info : Info) (msg : Bool × ServiceInfo) :
    Outcome Rejection ((Bool × Bool × ServiceInfo) × Info) := do
  let _ ← require .to2DeviceServiceInfo info.session.data.provenDevice
  let deviceGuid ← require .to2GetOVNextEntry info.session.data.deviceGuid
  let numLoops := info.session.data.numServiceInfoLoops.getD 0
  Outcome.check (numLoops ≤ maxServiceInfoLoops) (.error .invalidMessageError .to2DeviceServiceInfo
    "Too many serviceinfo loops performed")
  let resp ← (performServiceInfo draws deviceGuid msg.2 numLoops).mapErr fun _ =>
    .error .internalServerError .to2DeviceServiceInfo "Error handling serviceinfo"
  .ok (resp, withData info fun data => { data with numServiceInfoLoops := some (numLoops + 1) })

/-! ## The end -/

/-- What `done` checks before it writes anything: the guid and the nonce of the reply. -/
def checkDone (info : Info) (msg : Nonce) : Outcome Rejection (Guid × Nonce) := do
  let _ ← require .to2GetOVNextEntry info.session.data.provenDevice
  let nonce6 ← require .to2ProveDevice info.session.data.nonce6
  let nonceMatches ← (nonce6.eq msg).unwrap
  Outcome.check (nonceMatches = true) (.error .invalidMessageError .to2ProveDevice "Nonce6 invalid")
  let deviceGuid ← require .to2GetOVNextEntry info.session.data.deviceGuid
  let nonce7 ← require .to2ProveDevice info.session.data.nonce7
  .ok (deviceGuid, nonce7)

/-- The mark on the voucher is set before the session is written back. `destroy` only
marks the copy, which is stored like any other. -/
def done (draws : Draws P) (stores : OwnerStores P) (info : Info) (msg : Nonce) :
    OwnerStores P × Outcome Rejection (Nonce × Info) :=
  match checkDone info msg with
  | .err e => (stores, .err e)
  | .panic => (stores, .panic)
  | .ok (deviceGuid, nonce7) =>
    if draws.storeMetadataFails then (stores, .err (.fromError To2.proveDevice))
    else
      ({ stores with to2Performed := Function.update stores.to2Performed deviceGuid true },
        .ok (nonce7, withData info fun data => { data with nonce7 := none }))

/-! ## The routes -/

def oneNonce (P : Platform) (data : Bytes) : Outcome Error Nonce := do
  let value ← P.oneNonce.deserializeData data
  (checkBstr16 value).mapErr fun _ => .serdeCborError
  .ok ⟨value⟩

abbrev OwnerHandler (P : Platform) := Handler (OwnerStores P) OwnerSession

/-- A handler that leaves the stores alone. -/
def reading {α β : Type} (im om : Message) (decode : Bytes → Outcome Error α)
    (encode : β → Outcome Error Bytes)
    (run : OwnerStores P → Info → α → Outcome Rejection (β × Info)) : OwnerHandler P where
  im
  om
  Body := α
  Reply := β
  decode
  encode
  run stores info body := (stores, run stores info body)

def handlerHelloDevice (ud : OwnerServiceUD P) (draws : Draws P) : OwnerHandler P :=
  reading To2.helloDevice To2.proveOVHdr (HelloDevice.deserializeData P) COSESign.serializeData
    (helloDevice ud draws)

def handlerGetOvNextEntry (draws : Draws P) : OwnerHandler P :=
  reading To2.getOVNextEntry To2.ovNextEntry P.getOVNextEntry.deserializeData
    OVNextEntry.serializeData (getOvNextEntry draws)

def handlerProveDevice (ud : OwnerServiceUD P) (draws : Draws P) : OwnerHandler P :=
  reading To2.proveDevice To2.setupDevice (COSESign.deserializeData P) COSESign.serializeData
    (proveDevice ud draws)

def handlerDeviceServiceInfoReady (P : Platform) : OwnerHandler P :=
  reading To2.deviceServiceInfoReady To2.ownerServiceInfoReady
    P.deviceServiceInfoReady.deserializeData P.ownerServiceInfoReady.serializeData
    fun _ info _ => deviceServiceInfoReady info

def handlerDeviceServiceInfo (draws : Draws P) : OwnerHandler P :=
  reading To2.deviceServiceInfo To2.ownerServiceInfo P.deviceServiceInfo.deserializeData
    P.ownerServiceInfo.serializeData fun _ info msg => deviceServiceInfo draws info msg

def handlerDone (draws : Draws P) : OwnerHandler P where
  im := To2.done
  om := To2.done2
  Body := Nonce
  Reply := Nonce
  decode := oneNonce P
  encode nonce7 := P.oneNonce.serializeData nonce7.value
  run := done draws

def routes (ud : OwnerServiceUD P) (draws : Draws P) : MessageType → Option (OwnerHandler P)
  | .to2HelloDevice => some (handlerHelloDevice ud draws)
  | .to2GetOVNextEntry => some (handlerGetOvNextEntry draws)
  | .to2ProveDevice => some (handlerProveDevice ud draws)
  | .to2DeviceServiceInfoReady => some (handlerDeviceServiceInfoReady P)
  | .to2DeviceServiceInfo => some (handlerDeviceServiceInfo draws)
  | .to2Done => some (handlerDone draws)
  | _ => none

/-! ## What the handlers establish -/

/-- A session that has shown a token of its device: the token is signed with the key of
the leaf certificate in the stored voucher and carries the nonce of the session. -/
structure Proof (P : Platform) (stores : OwnerStores P) (ses : Session OwnerSession) (guid : Guid)
    (nonce6 : Nonce) (token : COSESign P) : Prop where
  sessionGuid : ses.data.deviceGuid = some guid
  sessionNonce : ses.data.nonce6 = some nonce6
  signed : ∃ v key eat, stores.vouchers guid = some v ∧ devicePublicKey v = .ok key ∧
    token.getEat key = .ok eat ∧ eat.nonce = nonce6

theorem loadVoucher_ok {draws : Draws P} {stores : OwnerStores P} {message : Message} {guid : Guid}
    {v : OwnershipVoucher P} (h : loadVoucher draws stores message guid = .ok v) :
    stores.vouchers guid = some v := by
  obtain ⟨_, _, h₁⟩ := Outcome.bind_eq_ok.mp h
  exact Outcome.ofOption_eq_ok.mp h₁

theorem require_eq_ok {α : Type} {messageType : MessageType} {entry : Option α} {a : α} :
    require messageType entry = .ok a ↔ entry = some a :=
  Outcome.ofOption_eq_ok

/-- What the owner has answered a HelloDevice with: the header and the HMAC of the voucher,
and its own half of the exchange. -/
structure Greeted (ud : OwnerServiceUD P) (draws : Draws P) (stores : OwnerStores P) (reqHash : Hash)
    (msg : HelloDevice) (res : COSESign P) (kex : KeyExchange) (aKeyExchange headerRaw bytes : Bytes)
    (v : OwnershipVoucher P) (payload : TO2ProveOVHdrPayload) : Prop where
  loaded : stores.vouchers msg.guid = some v
  drawn : KeyExchange.new draws.kex msg.kexSuite = .ok kex
  offered : kex.getPublic P = .ok aKeyExchange
  read : v.headerRaw = .ok headerRaw
  made : TO2ProveOVHdrPayload.new P headerRaw v.numEntries v.headerHmac msg.nonce5
    ⟨msg.aSignatureInfo.sigType, []⟩ aKeyExchange reqHash = .ok payload
  written : payload.contents.serializeData = .ok bytes
  signed : ∃ resHeader, COSESign.new P bytes resHeader ud.ownerKey = .ok res

theorem helloDevice_ok {ud : OwnerServiceUD P} {draws : Draws P} {stores : OwnerStores P}
    {info info' : Info} {msg : HelloDevice} {res : COSESign P}
    (h : helloDevice ud draws stores info msg = .ok (res, info')) :
    ∃ (nonce6 : Random16) (kex : KeyExchange), draws.nonce = some nonce6 ∧
      (info' = withData info fun data => { data with
        deviceGuid := some msg.guid, nonce6 := some ⟨nonce6.val⟩, ciphersuite := some msg.cipherSuite,
        aKeyExchange := some kex }) ∧
      ∃ aKeyExchange headerRaw bytes v payload,
        Greeted ud draws stores info.reqHash msg res kex aKeyExchange headerRaw bytes v payload := by
  obtain ⟨v, hv, h₁⟩ := Outcome.bind_eq_ok.mp h
  obtain ⟨_, _, h₂⟩ := Outcome.bind_eq_ok.mp h₁
  obtain ⟨_, _, h₃⟩ := Outcome.bind_eq_ok.mp h₂
  obtain ⟨kex, hkex, h₄⟩ := Outcome.bind_eq_ok.mp h₃
  obtain ⟨nonce6, hnonce, h₅⟩ := Outcome.bind_eq_ok.mp h₄
  obtain ⟨aKeyExchange, hpublic, h₆⟩ := Outcome.bind_eq_ok.mp h₅
  obtain ⟨headerRaw, hheader, h₇⟩ := Outcome.bind_eq_ok.mp h₆
  obtain ⟨payload, hpayload, h₈⟩ := Outcome.bind_eq_ok.mp h₇
  obtain ⟨_, _, h₉⟩ := Outcome.bind_eq_ok.mp h₈
  obtain ⟨resHeader, _, h₁₀⟩ := Outcome.bind_eq_ok.mp h₉
  obtain ⟨bytes, hbytes, h₁₁⟩ := Outcome.bind_eq_ok.mp h₁₀
  obtain ⟨token, htoken, h₁₂⟩ := Outcome.bind_eq_ok.mp h₁₁
  obtain ⟨rfl, hinfo⟩ := Prod.mk.inj (Outcome.ok.inj h₁₂)
  rw [orInternal_eq_ok] at hkex hnonce hpublic hheader hpayload hbytes htoken
  obtain ⟨value, hdraw, rfl⟩ := Nonce.new_eq_ok hnonce
  exact ⟨value, kex, hdraw, hinfo.symm, aKeyExchange, headerRaw, bytes, v, payload, loadVoucher_ok hv,
    hkex, hpublic, hheader, hpayload, hbytes, resHeader, htoken⟩

theorem getOvNextEntry_ok {draws : Draws P} {stores : OwnerStores P} {info info' : Info}
    {entryNum : Nat} {reply : OVNextEntry P}
    (h : getOvNextEntry draws stores info entryNum = .ok (reply, info')) :
    info' = info ∧ reply.entryNum = entryNum % 2 ^ 16 ∧ ∃ guid v,
      info.session.data.deviceGuid = some guid ∧ stores.vouchers guid = some v ∧
        v.entry entryNum = .ok reply.entry := by
  obtain ⟨guid, hguid, h₁⟩ := Outcome.bind_eq_ok.mp h
  obtain ⟨v, hv, h₂⟩ := Outcome.bind_eq_ok.mp h₁
  obtain ⟨entry, hentry, h₃⟩ := Outcome.bind_eq_ok.mp h₂
  simp only [Outcome.ok.injEq, Prod.mk.injEq] at h₃
  obtain ⟨rfl, rfl⟩ := h₃
  exact ⟨rfl, rfl, guid, v, require_eq_ok.mp hguid, loadVoucher_ok hv, Outcome.unwrap_eq_ok.mp hentry⟩

/-- The keys the owner has derived: from its own half in the session and the device's half in
the token, with the derivation the request asks for. -/
structure Derived (ud : OwnerServiceUD P) (info : Info) (token : COSESign P) (ciphersuite : CipherSuite)
    (keys : DerivedKeys) : Prop where
  suite : info.session.data.ciphersuite = some ciphersuite
  exchange : ∃ aKeyExchange devPubkey eat bKeyExchange, info.session.data.aKeyExchange = some aKeyExchange ∧
    token.getEat devPubkey = .ok eat ∧
    eat.payloadAs P.valueToProveDevicePayload = .ok (some bKeyExchange) ∧
    aKeyExchange.deriveKey P ud.interoperableKdfAvailable .ownerService ciphersuite bKeyExchange
      info.nonInteroperableKdf = .ok keys

theorem proveDevice_ok {ud : OwnerServiceUD P} {draws : Draws P} {stores : OwnerStores P}
    {info info' : Info} {token res : COSESign P}
    (h : proveDevice ud draws stores info token = .ok (res, info')) :
    ∃ (guid : Guid) (nonce6 nonce7 : Nonce) (ciphersuite : CipherSuite) (keys : DerivedKeys),
      Proof P stores info.session guid nonce6 token ∧ Derived ud info token ciphersuite keys ∧
      info' = { info with session := { info.session with
        encryptionKeys := some (.fromDerived ciphersuite keys)
        data := { info.session.data with
          aKeyExchange := none, ciphersuite := none, nonce7 := some nonce7,
          provenDevice := some true } } } := by
  obtain ⟨guid, hguid, h₁⟩ := Outcome.bind_eq_ok.mp h
  obtain ⟨nonce6, hnonce6, h₂⟩ := Outcome.bind_eq_ok.mp h₁
  obtain ⟨kex, hkex, h₃⟩ := Outcome.bind_eq_ok.mp h₂
  obtain ⟨ciphersuite, hsuite, h₄⟩ := Outcome.bind_eq_ok.mp h₃
  obtain ⟨v, hv, h₅⟩ := Outcome.bind_eq_ok.mp h₄
  obtain ⟨key, hkey, h₆⟩ := Outcome.bind_eq_ok.mp h₅
  obtain ⟨_, _, h₇⟩ := Outcome.bind_eq_ok.mp h₆
  obtain ⟨nonce7, _, h₈⟩ := Outcome.bind_eq_ok.mp h₇
  obtain ⟨eat, heat, h₉⟩ := Outcome.bind_eq_ok.mp h₈
  obtain ⟨payload, hpayload, h₁₀⟩ := Outcome.bind_eq_ok.mp h₉
  obtain ⟨b, hb, h₁₁⟩ := Outcome.bind_eq_ok.mp h₁₀
  obtain ⟨same, hsame, h₁₂⟩ := Outcome.bind_eq_ok.mp h₁₁
  obtain ⟨_, htrue, h₁₃⟩ := Outcome.bind_eq_ok.mp h₁₂
  obtain ⟨keys, hkeys, h₁₄⟩ := Outcome.bind_eq_ok.mp h₁₃
  obtain ⟨_, _, h₁₅⟩ := Outcome.bind_eq_ok.mp h₁₄
  obtain ⟨_, _, h₁₆⟩ := Outcome.bind_eq_ok.mp h₁₅
  obtain ⟨_, _, h₁₇⟩ := Outcome.bind_eq_ok.mp h₁₆
  obtain rfl : same = true := Outcome.check_eq_ok.mp htrue
  have hmatch : eat.nonce = nonce6 := Nonce.eq_ok_true (Outcome.unwrap_eq_ok.mp hsame)
  rw [orInternal_eq_ok] at heat hpayload hkeys
  obtain rfl := Outcome.ofOption_eq_ok.mp hb
  refine ⟨guid, nonce6, nonce7, ciphersuite, keys, ?_, ?_, ?_⟩
  · exact ⟨require_eq_ok.mp hguid, require_eq_ok.mp hnonce6, v, key, eat, loadVoucher_ok hv, hkey,
      heat, hmatch⟩
  · exact ⟨require_eq_ok.mp hsuite, kex, key, eat, b, require_eq_ok.mp hkex, heat, hpayload, hkeys⟩
  · exact (Prod.mk.inj (Outcome.ok.inj h₁₇)).2.symm

theorem deviceServiceInfoReady_ok {info info' : Info} {reply : Option Nat}
    (h : deviceServiceInfoReady info = .ok (reply, info')) :
    info' = info ∧ info.session.data.provenDevice.isSome = true := by
  obtain ⟨_, hproven, h₁⟩ := Outcome.bind_eq_ok.mp h
  exact ⟨(Prod.mk.inj (Outcome.ok.inj h₁)).2.symm, Option.isSome_of_eq_some (require_eq_ok.mp hproven)⟩

theorem deviceServiceInfo_ok {draws : Draws P} {info info' : Info} {msg : Bool × ServiceInfo}
    {reply : Bool × Bool × ServiceInfo} (h : deviceServiceInfo draws info msg = .ok (reply, info')) :
    info.session.data.provenDevice.isSome = true ∧ ∃ loops,
      info' = withData info fun data => { data with numServiceInfoLoops := some loops } := by
  obtain ⟨_, hproven, h₁⟩ := Outcome.bind_eq_ok.mp h
  obtain ⟨_, _, h₂⟩ := Outcome.bind_eq_ok.mp h₁
  obtain ⟨_, _, h₃⟩ := Outcome.bind_eq_ok.mp h₂
  obtain ⟨_, _, h₄⟩ := Outcome.bind_eq_ok.mp h₃
  exact ⟨Option.isSome_of_eq_some (require_eq_ok.mp hproven), _,
    (Prod.mk.inj (Outcome.ok.inj h₄)).2.symm⟩

theorem checkDone_ok {info : Info} {msg : Nonce} {guid : Guid} {nonce7 : Nonce}
    (h : checkDone info msg = .ok (guid, nonce7)) :
    info.session.data.provenDevice.isSome = true ∧ info.session.data.nonce6 = some msg ∧
      info.session.data.deviceGuid = some guid := by
  obtain ⟨_, hproven, h₁⟩ := Outcome.bind_eq_ok.mp h
  obtain ⟨nonce6, hnonce6, h₂⟩ := Outcome.bind_eq_ok.mp h₁
  obtain ⟨same, hsame, h₃⟩ := Outcome.bind_eq_ok.mp h₂
  obtain ⟨_, htrue, h₄⟩ := Outcome.bind_eq_ok.mp h₃
  obtain ⟨guid₁, hguid, h₅⟩ := Outcome.bind_eq_ok.mp h₄
  obtain ⟨_, _, h₆⟩ := Outcome.bind_eq_ok.mp h₅
  obtain rfl : same = true := Outcome.check_eq_ok.mp htrue
  obtain rfl : nonce6 = msg := Nonce.eq_ok_true (Outcome.unwrap_eq_ok.mp hsame)
  obtain ⟨rfl, _⟩ := Prod.mk.inj (Outcome.ok.inj h₆)
  exact ⟨Option.isSome_of_eq_some (require_eq_ok.mp hproven), require_eq_ok.mp hnonce6,
    require_eq_ok.mp hguid⟩

/-- `done` either leaves the stores alone or marks the device of its own proven session. -/
theorem done_stores (draws : Draws P) (stores : OwnerStores P) (info : Info) (msg : Nonce) :
    (done draws stores info msg).1 = stores ∨ ∃ guid nonce7, checkDone info msg = .ok (guid, nonce7) ∧
      (done draws stores info msg).1 =
        { stores with to2Performed := Function.update stores.to2Performed guid true } := by
  unfold done
  cases hcheck : checkDone info msg with
  | err e => exact .inl rfl
  | panic => exact .inl rfl
  | ok found =>
      obtain ⟨guid, nonce7⟩ := found
      cases hfault : draws.storeMetadataFails with
      | true => exact .inl (by simp)
      | false => exact .inr ⟨guid, nonce7, rfl, by simp⟩

theorem done_ok {draws : Draws P} {stores : OwnerStores P} {info info' : Info} {msg reply : Nonce}
    (h : (done draws stores info msg).2 = .ok (reply, info')) :
    info.session.data.provenDevice.isSome = true ∧
      info' = withData info fun data => { data with nonce7 := none } := by
  unfold done at h
  cases hcheck : checkDone info msg with
  | err e => simp [hcheck] at h
  | panic => simp [hcheck] at h
  | ok found =>
      obtain ⟨guid, nonce7⟩ := found
      cases hfault : draws.storeMetadataFails with
      | true => simp [hcheck, hfault] at h
      | false =>
          simp only [hcheck, hfault, Bool.false_eq_true, if_false, Outcome.ok.injEq,
            Prod.mk.injEq] at h
          exact ⟨(checkDone_ok hcheck).1, h.2.symm⟩

end FidoOnboard.OwnerServer
