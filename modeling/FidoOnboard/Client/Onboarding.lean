import FidoOnboard.Client.ServiceInfo
import FidoOnboard.Client.To2
import FidoOnboard.OwnerServer.Handlers

/-!
# The whole of TO2 on the device

`perform_to2` of `client-linuxapp/src/main.rs` and the credential file of
`util/src/device_credential_locations.rs`. When something fails the owner is told,
which changes nothing on the device.
-/
namespace FidoOnboard

variable {P : Platform}

def COSESign.fromEat (eat : EATokenPayload P) (unprotectedValues : COSEHeaderMap P) (signKey : P.PrivateKey) :
    Outcome Error (COSESign P) := do
  let claims ← eat.toMap
  let payload ← P.headerMap.serializeData claims
  COSESign.new P payload unprotectedValues signKey

namespace Client

/-- What the device uses of the libraries beside the platform. -/
structure DeviceTools (P : Platform) where
  getSigner : KeyStorage → Option P.PrivateKey
  valueOfProveDevicePayload : Bytes → Option P.Value
  /-- An `usize` as CBOR. -/
  count : Nat → Option Bytes
  /-- The list of two numbers and the module names, as CBOR. -/
  moduleItems : Nat → List String → Option Bytes

/-- What the device draws and finds out in one run. -/
structure DeviceDraws where
  nonce5 : Option Random16
  nonce7 : Option Random16
  kex : KexEntropy
  os : String
  arch : String
  /-- `linux_os_release`, which may fail or have no name. -/
  prettyName : Option (Option String)
  subscriptionManager : Bool
  clevis : Bool
  binaryfilePathPrefix : Option String

section

variable {server : Peer}

def getNonce (draw : Option Random16) (message : MessageType) : Outcome ClientError Nonce :=
  orResponse .internalServerError "Error generating nonce" message (Nonce.new draw)

def getNonce6 (proveOvHdr : COSESign P) : Outcome ClientError Nonce := do
  let nonce6 ← orResponse .messageBodyError "Error getting nonce6" .to2ProveOVHdr
    (proveOvHdr.getUnprotectedValue (Nonce.fromValue P) .cuphNonce)
  .ofOption (.response ⟨.messageBodyError, "Missing nonce6", .to2ProveOVHdr⟩) nonce6

/-- Sends ProveDevice, receives SetupDevice under the new keys. -/
def performProvedevice (tools : DeviceTools P) (devcred : DeviceCredential) (client : ServiceClient server)
    (bKeyExchange : KeyExchange) (nonce6 nonce7 : Nonce) (newKeys : EncryptionKeys) :
    Outcome ClientError (ServiceClient server) := do
  let devicePublic ← orResponse .internalServerError "Error building prove device payload" .to2OVNextEntry
    (bKeyExchange.getPublic P)
  let payload ← .ofOption (.response ⟨.internalServerError, "Error building provedevice EAT", .to2OVNextEntry⟩)
    (tools.valueOfProveDevicePayload devicePublic)
  let unprotectedValues ← orResponse .messageBodyError "Error adding nonce7 to unprotected" .to2OVNextEntry
    (COSEHeaderMap.insert P.valueOfBytes [] .euphNonce nonce7.value)
  let signer ← .ofOption (.response ⟨.internalServerError, "Error getting Cose signer", .to2OVNextEntry⟩)
    (tools.getSigner devcred.keyStorage)
  let token ← orResponse .internalServerError "Error signing ProveDevice EAT" .to2OVNextEntry
    (COSESign.fromEat ⟨some payload, nonce6, devcred.guid.asUeid, []⟩ unprotectedValues signer)
  let (_, client) ← orResponse .internalServerError "Error proving device" .to2SetupDevice
    (client.sendRequest P To2.proveDevice To2.setupDevice token.serializeData (COSESign.deserializeData P)
      (some newKeys))
  .ok client

def performDeviceserviceinfoready (P : Platform) (client : ServiceClient server) :
    Outcome ClientError (ServiceClient server) := do
  let (_, client) ← orResponse .internalServerError "Error getting OwnerServiceInfoReady"
    .to2OwnerServiceInfoReady (client.sendRequest P To2.deviceServiceInfoReady To2.ownerServiceInfoReady
      (P.deviceServiceInfoReady.serializeData (none, none)) P.ownerServiceInfoReady.deserializeData none)
  .ok client

/-- Everything up to the service info: the two nonces, and the client with its new keys. -/
def authenticate (tools : DeviceTools P) (draws : DeviceDraws) (devcred : DeviceCredential)
    (to1d : COSESign P) (client : ServiceClient server) :
    Outcome ClientError (Nonce × Nonce × ServiceClient server) := do
  let nonce5 ← getNonce draws.nonce5 .to1RVRedirect
  let ((proveOvHdr, proveOvHdrPayload, headerHmac), client) ← performHellodevice P devcred client nonce5
    .stSECP384R1 .ecdh384 .a256Gcm
  let nonce6 ← getNonce6 proveOvHdr
  let (proveOvHdrPayload, client) ← getAndVerifyOvHeaderSignature P client proveOvHdr proveOvHdrPayload
    headerHmac to1d
  let (bKeyExchange, newKeys) ← performKeyDerivation P draws.kex client proveOvHdrPayload .ecdh384 .a256Gcm
  let nonce7 ← getNonce draws.nonce7 .to2OVNextEntry
  let client ← performProvedevice tools devcred client bKeyExchange nonce6 nonce7 newKeys
  let client ← performDeviceserviceinfoready P client
  .ok (nonce6, nonce7, client)

/-! ## Service info -/

def maxServiceInfoLoops : Nat := 1000

def findAvailableModules (draws : DeviceDraws) : List ServiceInfoModule :=
  [.standard .devMod, .fedoraIot .sshKey, .fedoraIot .binaryFile, .fedoraIot .command, .fedoraIot .reboot] ++
  (if draws.subscriptionManager then [.redHatCom .subscriptionManager] else []) ++
  (if draws.clevis then [.fedoraIot .diskEncryptionClevis] else [])

/-- What the device says of itself in the first loop. -/
def firstServiceInfo (tools : DeviceTools P) (draws : DeviceDraws) : Outcome Error ServiceInfo := do
  let modules := findAvailableModules draws
  let sysinfo ← .ofOption .ioError draws.prettyName
  let info ← ServiceInfo.add [] (.standard .devMod) "active" (P.bool.intoWriter true)
  let info ← info.add (.standard .devMod) "os" (P.text.intoWriter draws.os)
  let info ← info.add (.standard .devMod) "arch" (P.text.intoWriter draws.arch)
  let prettyName ← (match sysinfo with
    | none => .panic
    | some prettyName => .ok prettyName)
  let info ← info.add (.standard .devMod) "version" (P.text.intoWriter prettyName)
  let info ← info.add (.standard .devMod) "device" (P.text.intoWriter "unused")
  let info ← info.add (.standard .devMod) "sep" (P.text.intoWriter ":")
  let info ← info.add (.standard .devMod) "bin" (P.text.intoWriter draws.arch)
  let info ← info.add (.standard .devMod) "nummodules" (tools.count modules.length)
  info.add (.standard .devMod) "modules" (tools.moduleItems modules.length (modules.map ServiceInfoModule.toString))

variable {M : Machine} (V : ServiceInfoValues P)

/-- The loop, with the number of rounds that are left. What was processed stays processed. -/
def serviceinfoLoop (pathPrefix : Option String) : Nat → Bool → ServiceInfo → M.State → ServiceClient server →
    M.State × Outcome String (Bool × ServiceClient server)
  | 0, _, _, machine, _ => (machine, .err "Maximum number of ServiceInfo loops (1000) exceeded")
  | remaining + 1, rebootRequired, outSi, machine, client =>
    match client.sendRequest P To2.deviceServiceInfo To2.ownerServiceInfo
        (P.deviceServiceInfo.serializeData (false, outSi)) P.ownerServiceInfo.deserializeData none with
    | .err _ => (machine, .err "Error during ServiceInfo loop")
    | .panic => (machine, .panic)
    | .ok ((isMoreServiceInfo, isDone, serviceInfo), client) =>
      if isDone then (machine, .ok (rebootRequired, client))
      else if isMoreServiceInfo then
        (machine, .err "OwnerServiceInfo indicated it has more for us.. we don't support that yet")
      else
        match processServiceinfoIn V pathPrefix machine serviceInfo [] with
        | (p, .err _) => (p.machine, .err "Error processing returned serviceinfo")
        | (p, .panic) => (p.machine, .panic)
        | (p, .ok rebootSi) =>
          serviceinfoLoop pathPrefix remaining (rebootRequired || rebootSi) p.siOut p.machine client

def performTo2Serviceinfos (tools : DeviceTools P) (draws : DeviceDraws) (machine : M.State)
    (client : ServiceClient server) : M.State × Outcome String (Bool × ServiceClient server) :=
  match firstServiceInfo tools draws with
  | .err _ => (machine, .err "Error getting operating system information")
  | .panic => (machine, .panic)
  | .ok outSi => serviceinfoLoop V draws.binaryfilePathPrefix maxServiceInfoLoops false outSi machine client

/-- The owner has been authenticated and has said all it wants; the two nonces, the
answer to the question about a reboot, and the client. -/
structure Negotiated (server : Peer) where
  nonce6 : Nonce
  nonce7 : Nonce
  rebootRequired : Bool
  client : ServiceClient server

/-- The part of `perform_to2` that touches neither the marker nor the credential by itself. -/
def negotiate (tools : DeviceTools P) (draws : DeviceDraws) (devcred : DeviceCredential) (to1d : COSESign P)
    (client : ServiceClient server) (machine : M.State) :
    M.State × Outcome ClientError (Negotiated server) :=
  match authenticate tools draws devcred to1d client with
  | .err e => (machine, .err e)
  | .panic => (machine, .panic)
  | .ok (nonce6, nonce7, client) =>
    match performTo2Serviceinfos V tools draws machine client with
    | (machine, .err _) => (machine,
      .err (.response ⟨.internalServerError, "Error performing the ServiceInfo roundtrips", .to2OwnerServiceInfo⟩))
    | (machine, .panic) => (machine, .panic)
    | (machine, .ok (rebootRequired, client)) => (machine, .ok ⟨nonce6, nonce7, rebootRequired, client⟩)

/-! ## The credential and the marker -/

inductive DeactivationMethod where
  | none
  | delete
  | deactivate
  deriving DecidableEq, Repr

/-- A `FileDeviceCredential`: whether it is active, and everything else. -/
structure FileDeviceCredential (ρ : Type) where
  active : Bool
  rest : ρ

/-- Marker and credential as files of the machine, and the location's method. -/
structure DeviceFiles (M : Machine) where
  Rest : Type
  codec : Codec (FileDeviceCredential Rest)
  method : DeactivationMethod
  /-- Whether the marker exists. -/
  marker : M.State → Bool
  /-- The bytes of the credential file. -/
  credential : M.State → Option Bytes
  writeMarker : M.State → M.State × Bool
  writeCredential : M.State → Bytes → M.State × Bool
  removeCredential : M.State → M.State × Bool

/-- How the two files behave: they are different files, a write that succeeds is what is
read, and a file that was removed is gone. A failed write may have changed its file. -/
structure DeviceFiles.Laws (F : DeviceFiles M) : Prop where
  writeMarker_marker : ∀ s, (F.writeMarker s).2 = true → F.marker (F.writeMarker s).1 = true
  writeMarker_credential : ∀ s, F.credential (F.writeMarker s).1 = F.credential s
  writeCredential_credential : ∀ s data, (F.writeCredential s data).2 = true →
    F.credential (F.writeCredential s data).1 = some data
  writeCredential_marker : ∀ s data, F.marker (F.writeCredential s data).1 = F.marker s
  removeCredential_credential : ∀ s, (F.removeCredential s).2 = true → F.credential (F.removeCredential s).1 = .none
  removeCredential_marker : ∀ s, F.marker (F.removeCredential s).1 = F.marker s

def performDeactivation (F : DeviceFiles M) (s : M.State) : M.State × Outcome String Unit :=
  match F.credential s with
  | .none => (s, .err "Error reading (device credential) file")
  | some contents =>
    match F.codec.fromSlice contents with
    | .none => (s, .err "Error parsing device credential")
    | some fdc =>
      match F.codec.intoWriter { fdc with active := false } with
      | .none => (s, .err "Error serializing deactivating device credential")
      | some newDcContents =>
        match F.writeCredential s newDcContents with
        | (s, true) => (s, .ok ())
        | (s, false) => (s, .err "Error writing out new device credential for deactivation")

def deactivate (F : DeviceFiles M) (s : M.State) : M.State × Outcome String Unit :=
  match F.method with
  | .none => (s, .ok ())
  | .delete =>
    match F.removeCredential s with
    | (s, true) => (s, .ok ())
    | (s, false) => (s, .err "Error deleting file")
  | .deactivate => performDeactivation F s

/-! ## All of it -/

/-- Sends Done, receives Done2 with the device's own nonce. -/
def performDone (P : Platform) (nonce7 nonce6 : Nonce) (client : ServiceClient server) :
    Outcome ClientError Unit := do
  let (done2, _) ← orResponse .internalServerError "Error sending Done2" .to2Done2
    (client.sendRequest P To2.done To2.done2 (P.oneNonce.serializeData nonce6.value) (OwnerServer.oneNonce P) none)
  let nonceMatches ← (nonce7.eq done2).unwrap
  Outcome.check (nonceMatches = true)
    (.response ⟨.invalidMessageError, "Nonce7 did not match in Done2", .to2Done2⟩)

/-- The marker, then the credential, then Done. -/
def finish (P : Platform) (F : DeviceFiles M) (n : Negotiated server) (s : M.State) :
    M.State × Outcome ClientError Bool :=
  match F.writeMarker s with
  | (s, false) => (s, .err (.response ⟨.internalServerError,
      "Error creating the device onboarding executed marker file", .to2OwnerServiceInfo⟩))
  | (s, true) =>
    match deactivate F s with
    | (s, .err _) => (s, .err (.response ⟨.internalServerError, "Error deactivating device credential",
        .to2OwnerServiceInfo⟩))
    | (s, .panic) => (s, .panic)
    | (s, .ok ()) =>
      match performDone P n.nonce7 n.nonce6 n.client with
      | .err e => (s, .err e)
      | .panic => (s, .panic)
      | .ok () => (s, .ok n.rebootRequired)

def performTo2 (tools : DeviceTools P) (F : DeviceFiles M) (draws : DeviceDraws) (devcred : DeviceCredential)
    (to1d : COSESign P) (client : ServiceClient server) (s : M.State) : M.State × Outcome ClientError Bool :=
  match negotiate V tools draws devcred to1d client s with
  | (s, .err e) => (s, .err e)
  | (s, .panic) => (s, .panic)
  | (s, .ok n) => finish P F n s

end

end Client
end FidoOnboard
