import FidoOnboard.Base.Hex
import FidoOnboard.DataFormats.DiTypes
import FidoOnboard.DataFormats.Eat
import FidoOnboard.HttpWrapper.Server

/-!
# `manufacturing-server/src/handlers/diun.rs` and `di.rs`

DIUN takes a key from a device over a channel it has just agreed on, DI gives the
device its credentials and stores a voucher for it. Both work on one session.
-/
namespace FidoOnboard.ManufacturingServer
open Server

/-- The entries the handlers keep in a session. The header is kept as hexadecimal text,
the certificates in their DER form. -/
structure ManufacturingSession where
  diunKeys : Option EncryptionKeys
  deviceKeyFromDiun : Option Bytes
  performedDiun : Option Bool
  ovHeader : Option String
  deviceCertificate : Option (List Bytes)
  deriving DecidableEq, Repr, Inhabited

structure DiunConfiguration (P : Platform) where
  mfgStringType : MfgStringType
  keyType : PublicKeyType
  allowedKeyStorageTypes : List KeyStorageType
  key : P.PrivateKey
  publicKeys : PublicKey P

/-- The configuration, and whether the build has a key derivation that interoperates. The
store of public keys is only read. -/
structure ManufacturingServiceUD (P : Platform) where
  interoperableKdfAvailable : Bool
  publicKeyStore : Option (String → Option Bytes)
  manufacturerCert : P.X509
  manufacturerKey : Option P.PrivateKey
  deviceCertKey : P.PrivateKey
  deviceCertChain : X5Chain P
  ownerCert : Option (PublicKey P)
  rendezvousInfo : P.RendezvousInfo
  enableDi : Bool
  diunConfiguration : Option (DiunConfiguration P)

/-- The ownership voucher store. -/
structure VoucherStore (P : Platform) where
  vouchers : Guid → Option (OwnershipVoucher P)

/-- What a handler draws, the time, and which store operations fail on it. -/
structure Draws where
  kex : KexEntropy
  guid : Option Random16
  serial : Option Bytes
  now : Nat
  loadDataFails : Bool
  storeDataFails : Bool

variable {P : Platform}

abbrev Info := RequestInformation ManufacturingSession

def withData (info : Info) (f : ManufacturingSession → ManufacturingSession) : Info :=
  { info with session := { info.session with data := f info.session.data } }

/-! ## DIUN -/

/-- The configuration is there from here on. -/
def failIfNoDiun (ud : ManufacturingServiceUD P) (message : Message) :
    Outcome Rejection (DiunConfiguration P) :=
  .ofOption (.error .internalServerError message.messageType "DIUN is disabled") ud.diunConfiguration

/-- The keys are derived here and used from the next message but one. -/
def connect (ud : ManufacturingServiceUD P) (draws : Draws) (info : Info) (msg : Diun.Connect) :
    Outcome Rejection (COSESign P × Info) := do
  let config ← failIfNoDiun ud Diun.connect
  let bKeyExchange ← orInternal Diun.connect (KeyExchange.new draws.kex msg.kexSuite)
  let newKeys ← orInternal Diun.connect (bKeyExchange.deriveKey P ud.interoperableKdfAvailable
    .ownerService msg.cipherSuite msg.keyExchange info.nonInteroperableKdf)
  let newKeys := EncryptionKeys.fromDerived msg.cipherSuite newKeys
  let keyExchange ← orInternal Diun.connect (bKeyExchange.getPublic P)
  let protectedHeader ←
    (COSEHeaderMap.insert (P := P) P.valueOfBytes [] .cuphNonce msg.nonceDiun1.value).unwrap
  let unprotectedHeader ← (COSEHeaderMap.insert (P := P) P.valueOfPublicKeyFields [] .cuphOwnerPubKey
    config.publicKeys.toPublicKeyFields).unwrap
  let payload ← orInternal Diun.connect (P.acceptPayload.serializeData keyExchange)
  let accept ← orInternal Diun.connect
    (COSESign.newWithProtected P payload protectedHeader unprotectedHeader config.key)
  .ok (accept, withData info fun data => { data with diunKeys := some newKeys })

def requestKeyParameters (ud : ManufacturingServiceUD P) (info : Info) :
    Outcome Rejection (Diun.ProvideKeyParameters × Info) := do
  let config ← failIfNoDiun ud Diun.requestKeyParameters
  let newKeys ← .ofOption
    (.error .invalidMessageError .diunRequestKeyParameters "Sequence error: no diun_keys")
    info.session.data.diunKeys
  let info := withData info fun data => { data with diunKeys := none }
  let allowed :=
    if config.allowedKeyStorageTypes = [] then none else some config.allowedKeyStorageTypes
  .ok (⟨config.keyType, allowed⟩,
    { info with session := { info.session with encryptionKeys := some newKeys } })

def provideKey (ud : ManufacturingServiceUD P) (info : Info) (msg : Diun.ProvideKey) :
    Outcome Rejection (MfgStringType × Info) := do
  let config ← failIfNoDiun ud Diun.provideKey
  .ok (config.mfgStringType, withData info fun data => { data with
    deviceKeyFromDiun := some msg.publicKey, performedDiun := some true })

/-! ## DI -/

def failIfNoDiAndNotFromDiun (ud : ManufacturingServiceUD P) (message : Message)
    (session : Session ManufacturingSession) : Outcome Rejection Unit :=
  .check (ud.enableDi = true ∨ session.data.performedDiun ≠ none)
    (.error .internalServerError message.messageType "Plain DI is disabled")

/-- The key given in DIUN, or else the one stored for the device. -/
def locatePublicKey (ud : ManufacturingServiceUD P) (draws : Draws) (session : Session ManufacturingSession)
    (mfgInfo : String) : Outcome Rejection (Option Bytes) :=
  match session.data.deviceKeyFromDiun, ud.publicKeyStore with
  | some key, _ => .ok (some key)
  | none, none => .ok none
  | none, some store => do
    Outcome.check (draws.loadDataFails = false) (.fromError Di.appStart)
    .ok (store mfgInfo)

def createDeviceCertificate (draws : Draws) (signer : P.X509) (signerKey : P.PrivateKey)
    (subjectName : String) (publicKey : P.PKey) : Outcome Error P.X509 := do
  let serial ← .ofOption .cryptoStack draws.serial
  .ofOption .cryptoStack (P.x509Build signer signerKey subjectName publicKey serial draws.now)

def createDeviceCertChain (chain : X5Chain P) (deviceCertificate : P.X509) : X5Chain P :=
  ⟨deviceCertificate :: chain.chain⟩

/-- One certificate after the other in DER form, with nothing in between. -/
def chainBytes (chain : X5Chain P) : Outcome Error Bytes := do
  let ders ← .ofOption .cryptoStack chain.toDer
  .ok ders.flatten

def deviceInfo (P : Platform) (msg : Di.AppStart) : Outcome Rejection String := do
  let mfgInfo ← orInternal Di.appStart (msg.getMfgInfo P)
  .ofOption (.error .internalServerError .diAppStart "MFG Info is not a string") (P.valueToText mfgInfo)

/-- A new certificate for the device key, before the certificates that signed it. -/
def deviceCertificateChain (ud : ManufacturingServiceUD P) (draws : Draws)
    (session : Session ManufacturingSession) (mfgInfo : String) : Outcome Rejection (X5Chain P) := do
  let publicKey ← locatePublicKey ud draws session mfgInfo
  let publicKey ← .ofOption (.error .internalServerError .diAppStart "No public key located") publicKey
  let publicKey ← .ofOption (.fromError Di.appStart) (P.publicKeyFromDer publicKey)
  let signer ← (Outcome.ofOption () ud.deviceCertChain.leafCertificate).unwrap
  let deviceCertificate ← orInternal Di.appStart
    (createDeviceCertificate draws signer ud.deviceCertKey mfgInfo publicKey)
  .ok (createDeviceCertChain ud.deviceCertChain deviceCertificate)

def newVoucherHeader (ud : ManufacturingServiceUD P) (draws : Draws) (mfgInfo : String)
    (chain : X5Chain P) : Outcome Error (OwnershipVoucherHeader P) := do
  let chainSerialized ← chainBytes chain
  let chainHash ← Hash.fromData P .sha384 chainSerialized
  let guid ← Guid.new draws.guid
  let manufacturerKey ← PublicKey.ofX509 P ud.manufacturerCert
  OwnershipVoucherHeader.new .version1_1 guid ud.rendezvousInfo mfgInfo manufacturerKey (some chainHash)

/-- The header is stored in the session and sent to the device. -/
def appStart (ud : ManufacturingServiceUD P) (draws : Draws) (info : Info) (msg : Di.AppStart) :
    Outcome Rejection (OwnershipVoucherHeader P × Info) := do
  failIfNoDiAndNotFromDiun ud Di.appStart info.session
  let mfgInfo ← deviceInfo P msg
  let chain ← deviceCertificateChain ud draws info.session mfgInfo
  let header ← orInternal Di.appStart (newVoucherHeader ud draws mfgInfo chain)
  let serialized ← orInternal Di.appStart header.serializeData
  let ders ← .ofOption (.fromError Di.appStart) chain.toDer
  .ok (header, withData info fun data => { data with
    ovHeader := some (String.ofList (Hex.encode serialized)), deviceCertificate := some ders })

/-- The missing entries are reported under the type of RequestKeyParameters. -/
def noEntry (text : String) : Rejection := .error .invalidMessageError .diunRequestKeyParameters text

def sessionHeader (P : Platform) (session : Session ManufacturingSession) :
    Outcome Rejection (OwnershipVoucherHeader P) := do
  let text ← .ofOption (noEntry "Sequence error: no ownership voucher header") session.data.ovHeader
  let serialized ← .ofOption (.fromError Di.setHmac) (Hex.decode text.toList)
  orInternal Di.setHmac (OwnershipVoucherHeader.deserializeData P serialized)

/-- An entry that cannot be read counts as missing. -/
def sessionChain (P : Platform) (session : Session ManufacturingSession) : Outcome Rejection (X5Chain P) :=
  .ofOption (noEntry "Sequence error: no device certificate")
    (session.data.deviceCertificate.bind (X5Chain.ofDer P))

/-- Extended to the owner when the manufacturer's key is at hand. -/
def extendToOwner (ud : ManufacturingServiceUD P) (ov : OwnershipVoucher P) :
    Outcome Rejection (OwnershipVoucher P) :=
  match ud.manufacturerKey with
  | none => .ok ov
  | some manufacturerKey => do
    let owner ← (Outcome.ofOption () ud.ownerCert).unwrap
    let (result, ov) := ov.extend manufacturerKey none owner
    orInternal Di.setHmac result
    .ok ov

/-- `set_hmac` up to its store step: the guid, and the voucher that is stored for it. -/
def newVoucher (ud : ManufacturingServiceUD P) (session : Session ManufacturingSession) (hmac : HMac) :
    Outcome Rejection (Guid × OwnershipVoucher P) := do
  failIfNoDiAndNotFromDiun ud Di.setHmac session
  let ovHeader ← sessionHeader P session
  let chain ← sessionChain P session
  let ov ← orInternal Di.setHmac (OwnershipVoucher.new ovHeader hmac (some chain))
  let ov ← extendToOwner ud ov
  .ok (ovHeader.cachedGuid, ov)

def setHmac (ud : ManufacturingServiceUD P) (draws : Draws) (store : VoucherStore P) (info : Info)
    (hmac : HMac) : VoucherStore P × Outcome Rejection (Unit × Info) :=
  match newVoucher ud info.session hmac with
  | .err e => (store, .err e)
  | .panic => (store, .panic)
  | .ok (deviceGuid, ov) =>
    if draws.storeDataFails then (store, .err (.fromError Di.setHmac))
    else ({ store with vouchers := Function.update store.vouchers deviceGuid (some ov) }, .ok ((), info))

/-! ## The routes -/

abbrev ManufacturingHandler (P : Platform) := Handler (VoucherStore P) ManufacturingSession

def handlerDiunConnect (ud : ManufacturingServiceUD P) (draws : Draws) : ManufacturingHandler P where
  im := Diun.connect
  om := Diun.accept
  Body := Diun.Connect
  Reply := COSESign P
  decode := Diun.Connect.deserializeData P
  encode := COSESign.serializeData
  run store info msg := (store, connect ud draws info msg)

def handlerDiunRequestKeyParameters (ud : ManufacturingServiceUD P) : ManufacturingHandler P where
  im := Diun.requestKeyParameters
  om := Diun.provideKeyParameters
  Body := Option String
  Reply := Diun.ProvideKeyParameters
  decode := P.requestKeyParameters.deserializeData
  encode := Diun.ProvideKeyParameters.serializeData P
  run store info _ := (store, requestKeyParameters ud info)

def handlerDiunProvideKey (ud : ManufacturingServiceUD P) : ManufacturingHandler P where
  im := Diun.provideKey
  om := Diun.done
  Body := Diun.ProvideKey
  Reply := MfgStringType
  decode := Diun.ProvideKey.deserializeData P
  encode := P.diunDone.serializeData
  run store info msg := (store, provideKey ud info msg)

def handlerDiAppStart (ud : ManufacturingServiceUD P) (draws : Draws) : ManufacturingHandler P where
  im := Di.appStart
  om := Di.setCredentials
  Body := Di.AppStart
  Reply := OwnershipVoucherHeader P
  decode := Di.AppStart.deserializeData P
  encode := OwnershipVoucherHeader.serializeData
  run store info msg := (store, appStart ud draws info msg)

def handlerDiSetHmac (ud : ManufacturingServiceUD P) (draws : Draws) : ManufacturingHandler P where
  im := Di.setHmac
  om := Di.done
  Body := HMac
  Reply := Unit
  decode := P.setHmac.deserializeData
  encode := P.diDone.serializeData
  run := setHmac ud draws

def routes (ud : ManufacturingServiceUD P) (draws : Draws) :
    MessageType → Option (ManufacturingHandler P)
  | .diunConnect => some (handlerDiunConnect ud draws)
  | .diunRequestKeyParameters => some (handlerDiunRequestKeyParameters ud)
  | .diunProvideKey => some (handlerDiunProvideKey ud)
  | .diAppStart => some (handlerDiAppStart ud draws)
  | .diSetHMAC => some (handlerDiSetHmac ud draws)
  | _ => none

/-! ## What the handlers establish -/

theorem failIfNoDiun_eq_ok {ud : ManufacturingServiceUD P} {message : Message}
    {config : DiunConfiguration P} :
    failIfNoDiun ud message = .ok config ↔ ud.diunConfiguration = some config :=
  Outcome.ofOption_eq_ok

/-- The server's side of the exchange of a Connect, and the token that carries its public part. -/
structure Agreed (ud : ManufacturingServiceUD P) (draws : Draws) (nonInteroperableKdf : Bool)
    (msg : Diun.Connect) (accept : COSESign P) (keys : EncryptionKeys) : Prop where
  exchange : ∃ config bKeyExchange derived keyExchange payload, ud.diunConfiguration = some config ∧
    KeyExchange.new draws.kex msg.kexSuite = .ok bKeyExchange ∧
    bKeyExchange.deriveKey P ud.interoperableKdfAvailable .ownerService msg.cipherSuite msg.keyExchange
      nonInteroperableKdf = .ok derived ∧
    keys = .fromDerived msg.cipherSuite derived ∧
    bKeyExchange.getPublic P = .ok keyExchange ∧ P.acceptPayload.intoWriter keyExchange = some payload ∧
    ∃ protectedHeader unprotectedHeader,
      COSESign.newWithProtected P payload protectedHeader unprotectedHeader config.key = .ok accept

theorem Agreed.isSome {ud : ManufacturingServiceUD P} {draws : Draws} {kdf : Bool} {msg : Diun.Connect}
    {accept : COSESign P} {keys : EncryptionKeys} (h : Agreed ud draws kdf msg accept keys) :
    keys.isSome = true := by
  obtain ⟨_, _, derived, _, _, _, _, _, rfl, _⟩ := h.exchange
  rfl

theorem connect_ok {ud : ManufacturingServiceUD P} {draws : Draws} {info info' : Info}
    {msg : Diun.Connect} {accept : COSESign P} (h : connect ud draws info msg = .ok (accept, info')) :
    ∃ keys, Agreed ud draws info.nonInteroperableKdf msg accept keys ∧
      info' = withData info fun data => { data with diunKeys := some keys } := by
  obtain ⟨config, hconfig, h₁⟩ := Outcome.bind_eq_ok.mp h
  obtain ⟨bKeyExchange, hnew, h₂⟩ := Outcome.bind_eq_ok.mp h₁
  obtain ⟨derived, hderived, h₃⟩ := Outcome.bind_eq_ok.mp h₂
  obtain ⟨keyExchange, hpublic, h₄⟩ := Outcome.bind_eq_ok.mp h₃
  obtain ⟨protectedHeader, _, h₅⟩ := Outcome.bind_eq_ok.mp h₄
  obtain ⟨unprotectedHeader, _, h₆⟩ := Outcome.bind_eq_ok.mp h₅
  obtain ⟨payload, hpayload, h₇⟩ := Outcome.bind_eq_ok.mp h₆
  obtain ⟨token, htoken, h₈⟩ := Outcome.bind_eq_ok.mp h₇
  obtain ⟨rfl, rfl⟩ := Prod.mk.inj (Outcome.ok.inj h₈)
  rw [orInternal_eq_ok] at hnew hderived hpublic hpayload htoken
  refine ⟨_, ⟨config, bKeyExchange, derived, keyExchange, payload, failIfNoDiun_eq_ok.mp hconfig, hnew,
    hderived, rfl, hpublic, Codec.serializeData_eq_ok.mp hpayload, protectedHeader, unprotectedHeader,
    htoken⟩, rfl⟩

theorem requestKeyParameters_ok {ud : ManufacturingServiceUD P} {info info' : Info}
    {params : Diun.ProvideKeyParameters} (h : requestKeyParameters ud info = .ok (params, info')) :
    ∃ keys, info.session.data.diunKeys = some keys ∧
      info' = { info with session := { info.session with
        encryptionKeys := some keys, data := { info.session.data with diunKeys := none } } } := by
  obtain ⟨_, _, h₁⟩ := Outcome.bind_eq_ok.mp h
  obtain ⟨keys, hkeys, h₂⟩ := Outcome.bind_eq_ok.mp h₁
  obtain ⟨-, rfl⟩ := Prod.mk.inj (Outcome.ok.inj h₂)
  exact ⟨keys, Outcome.ofOption_eq_ok.mp hkeys, rfl⟩

theorem provideKey_ok {ud : ManufacturingServiceUD P} {info info' : Info} {msg : Diun.ProvideKey}
    {mfg : MfgStringType} (h : provideKey ud info msg = .ok (mfg, info')) :
    info' = withData info fun data => { data with
      deviceKeyFromDiun := some msg.publicKey, performedDiun := some true } := by
  obtain ⟨_, _, h₁⟩ := Outcome.bind_eq_ok.mp h
  exact (Prod.mk.inj (Outcome.ok.inj h₁)).2.symm

/-- What AppStart has made when it succeeds: the chain, its header, and what both are
kept as. -/
structure Started (ud : ManufacturingServiceUD P) (draws : Draws) (session : Session ManufacturingSession)
    (msg : Di.AppStart) (header : OwnershipVoucherHeader P) (mfgInfo : String) (chain : X5Chain P)
    (serialized : Bytes) (ders : List Bytes) : Prop where
  gate : ud.enableDi = true ∨ session.data.performedDiun ≠ none
  named : deviceInfo P msg = .ok mfgInfo
  certified : deviceCertificateChain ud draws session mfgInfo = .ok chain
  issued : newVoucherHeader ud draws mfgInfo chain = .ok header
  written : header.serializeData = .ok serialized
  encoded : chain.toDer = some ders

theorem appStart_ok {ud : ManufacturingServiceUD P} {draws : Draws} {info info' : Info}
    {msg : Di.AppStart} {header : OwnershipVoucherHeader P}
    (h : appStart ud draws info msg = .ok (header, info')) :
    ∃ mfgInfo chain serialized ders,
      Started ud draws info.session msg header mfgInfo chain serialized ders ∧
      info' = withData info fun data => { data with
        ovHeader := some (String.ofList (Hex.encode serialized)), deviceCertificate := some ders } := by
  obtain ⟨_, hgate, h₁⟩ := Outcome.bind_eq_ok.mp h
  obtain ⟨mfgInfo, hinfo, h₂⟩ := Outcome.bind_eq_ok.mp h₁
  obtain ⟨chain, hchain, h₃⟩ := Outcome.bind_eq_ok.mp h₂
  obtain ⟨header', hheader, h₄⟩ := Outcome.bind_eq_ok.mp h₃
  obtain ⟨serialized, hserialized, h₅⟩ := Outcome.bind_eq_ok.mp h₄
  obtain ⟨ders, hders, h₆⟩ := Outcome.bind_eq_ok.mp h₅
  obtain ⟨rfl, rfl⟩ := Prod.mk.inj (Outcome.ok.inj h₆)
  exact ⟨mfgInfo, chain, serialized, ders, ⟨Outcome.check_eq_ok.mp hgate, hinfo, hchain,
    orInternal_eq_ok.mp hheader, orInternal_eq_ok.mp hserialized, Outcome.ofOption_eq_ok.mp hders⟩, rfl⟩

/-- The parts of a voucher that SetHMAC is about to store. -/
structure Built (ud : ManufacturingServiceUD P) (session : Session ManufacturingSession) (hmac : HMac)
    (guid : Guid) (ov : OwnershipVoucher P) (header : OwnershipVoucherHeader P) (chain : X5Chain P)
    (made : OwnershipVoucher P) : Prop where
  gate : ud.enableDi = true ∨ session.data.performedDiun ≠ none
  headerRead : sessionHeader P session = .ok header
  chainRead : sessionChain P session = .ok chain
  assembled : OwnershipVoucher.new header hmac (some chain) = .ok made
  extended : extendToOwner ud made = .ok ov
  named : guid = header.cachedGuid

theorem newVoucher_ok {ud : ManufacturingServiceUD P} {session : Session ManufacturingSession} {hmac : HMac}
    {guid : Guid} {ov : OwnershipVoucher P} (h : newVoucher ud session hmac = .ok (guid, ov)) :
    ∃ header chain made, Built ud session hmac guid ov header chain made := by
  obtain ⟨_, hgate, h₁⟩ := Outcome.bind_eq_ok.mp h
  obtain ⟨header, hheader, h₂⟩ := Outcome.bind_eq_ok.mp h₁
  obtain ⟨chain, hchain, h₃⟩ := Outcome.bind_eq_ok.mp h₂
  obtain ⟨made, hmade, h₄⟩ := Outcome.bind_eq_ok.mp h₃
  obtain ⟨extended, hextended, h₅⟩ := Outcome.bind_eq_ok.mp h₄
  obtain ⟨rfl, rfl⟩ := Prod.mk.inj (Outcome.ok.inj h₅)
  exact ⟨header, chain, made, Outcome.check_eq_ok.mp hgate, hheader, hchain, orInternal_eq_ok.mp hmade,
    hextended, rfl⟩

/-- `setHmac` stores a voucher or leaves the store alone. -/
theorem setHmac_cases (ud : ManufacturingServiceUD P) (draws : Draws) (store : VoucherStore P) (info : Info)
    (hmac : HMac) :
    ((setHmac ud draws store info hmac).1 = store ∧ ∀ r, (setHmac ud draws store info hmac).2 ≠ .ok r) ∨
    (∃ guid ov, newVoucher ud info.session hmac = .ok (guid, ov) ∧ draws.storeDataFails = false ∧
      setHmac ud draws store info hmac =
        (⟨Function.update store.vouchers guid (some ov)⟩, .ok ((), info))) := by
  cases hnew : newVoucher ud info.session hmac with
  | err e => exact .inl (by simp [setHmac, hnew])
  | panic => exact .inl (by simp [setHmac, hnew])
  | ok built =>
      obtain ⟨guid, ov⟩ := built
      cases hfails : draws.storeDataFails with
      | true => exact .inl (by simp [setHmac, hnew, hfails])
      | false => exact .inr ⟨guid, ov, rfl, rfl, by simp [setHmac, hnew, hfails]⟩

theorem setHmac_ok {ud : ManufacturingServiceUD P} {draws : Draws} {store : VoucherStore P}
    {info info' : Info} {hmac : HMac} {reply : Unit}
    (h : (setHmac ud draws store info hmac).2 = .ok (reply, info')) :
    info' = info ∧ draws.storeDataFails = false ∧
      ∃ guid ov, newVoucher ud info.session hmac = .ok (guid, ov) := by
  rcases setHmac_cases ud draws store info hmac with ⟨_, hfail⟩ | ⟨guid, ov, hnew, hstored, heq⟩
  · exact absurd h (hfail _)
  · rw [heq] at h
    exact ⟨(Prod.mk.inj (Outcome.ok.inj h)).2.symm, hstored, guid, ov, hnew⟩

end FidoOnboard.ManufacturingServer
