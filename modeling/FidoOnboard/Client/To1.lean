import FidoOnboard.Client.Onboarding
import FidoOnboard.OwnerServer.RendezvousReport

/-!
# TO1 on the device

`client-linuxapp/src/main.rs`: the device proves itself to a rendezvous server and
gets the blob its owner left there. The servers of a directive are asked one after
the other. A server is told when something fails, which changes nothing here.
-/
namespace FidoOnboard

variable {P : Platform}

def HelloRVAck.deserializeData (P : Platform) (data : Bytes) : Outcome Error HelloRVAck := do
  let (nonce4, bSignatureInfo) ← P.helloRVAck.deserializeData data
  (checkBstr16 nonce4).mapErr fun _ => .serdeCborError
  .ok ⟨⟨nonce4⟩, bSignatureInfo⟩

namespace Client
open OwnerServer

/-- `.context(..).map_err(|e| ClientError::Request(..))`. -/
def orRequest {ε α : Type} (eCode : ErrorCode) (eString : String) (message : MessageType)
    (x : Outcome ε α) : Outcome ClientError α :=
  x.mapErr fun _ => .request ⟨eCode, eString, message⟩

@[simp] theorem orRequest_eq_ok {ε α : Type} {eCode : ErrorCode} {eString : String} {message : MessageType}
    {x : Outcome ε α} {a : α} : orRequest eCode eString message x = .ok a ↔ x = .ok a :=
  Outcome.mapErr_eq_ok

/-- `serde_cbor::value::to_value` at a boolean. -/
def valueOfBool (P : Platform) (payload : Bool) : Option P.Value :=
  (P.bool.intoWriter payload).bind P.valueFromSlice

section

variable {server : Peer}

/-- The token the device answers a nonce with. -/
def proveToken (tools : DeviceTools P) (devcred : DeviceCredential) (nonce4 : Nonce) :
    Outcome ClientError (COSESign P) := do
  let eat ← orRequest .internalServerError "Error creating EATokenPayload" .to1HelloRVAck
    (EATokenPayload.newEat (valueOfBool P) none nonce4 devcred.guid)
  let signer ← .ofOption (.response ⟨.internalServerError, "Error getting Cose signer", .to1HelloRVAck⟩)
    (tools.getSigner devcred.keyStorage)
  orResponse .internalServerError "Error signing new token" .to1HelloRVAck (COSESign.fromEat eat [] signer)

/-- Sends HelloRV, receives HelloRVAck. -/
def performHellorv (tools : DeviceTools P) (devcred : DeviceCredential) (client : ServiceClient server) :
    Outcome ClientError (COSESign P × ServiceClient server) := do
  let sigType := DeviceSigType.stSECP384R1
  let (helloRvAck, client) ← orRequest .internalServerError "Error sending HelloRV" .to1HelloRV
    (client.sendRequest P To1.helloRV To1.helloRVAck (HelloRV.serializeData P ⟨devcred.guid, ⟨sigType, []⟩⟩)
      (HelloRVAck.deserializeData P) none)
  Outcome.check (helloRvAck.bSignatureInfo.sigType = sigType)
    (.response ⟨.invalidMessageError, "Unsupported sig type returned", .to1HelloRVAck⟩)
  Outcome.check (helloRvAck.bSignatureInfo.info = [])
    (.response ⟨.invalidMessageError, "Non-empty sig info returned", .to1HelloRVAck⟩)
  let token ← proveToken tools devcred helloRvAck.nonce4
  .ok (token, client)

/-- Sends ProveToRV, receives RVRedirect. -/
def performProvetorv (token : COSESign P) (client : ServiceClient server) : Outcome ClientError (COSESign P) := do
  let (to1d, _) ← orResponse .invalidMessageError "Error proving self to rendezvous server" .to1RVRedirect
    (client.sendRequest P To1.proveToRV To1.rvRedirect token.serializeData (COSESign.deserializeData P) none)
  .ok to1d

def performTo1 (tools : DeviceTools P) (devcred : DeviceCredential) (client : ServiceClient server) :
    Outcome ClientError (COSESign P) := do
  let (token, client) ← performHellorv tools devcred client
  performProvetorv token client

end

/-! ## The servers of a directive -/

/-- A client, and the server it talks to. -/
structure Endpoint where
  server : Peer
  client : ServiceClient server

/-- A client for each URL of a directive; what the device cannot do yet is an error. -/
def getClientList (interoperableKdfAvailable : Bool) (reached : List Char → OwnerServer.Reached)
    (rvEntry : RendezvousInterpretedDirective) : Outcome String (List Endpoint) := do
  Outcome.check (rvEntry.bypass = false) "Rendezvous Bypass is not yet implemented"
  Outcome.check (rvEntry.wifiSsid = none) "Rendezvous WiFi configuration is not yet implemented"
  Outcome.check (rvEntry.userInput = false) "Rendezvous User Input is not yet implemented"
  Outcome.check (rvEntry.protocol = .http ∨ rvEntry.protocol = .https) "Non-HTTP(S) protocol is not implemented"
  .ok (rvEntry.getUrls.map fun url =>
    ⟨(reached url).server, .new interoperableKdfAvailable (reached url).peer⟩)

/-- The first server that redirects the device. -/
def getTo1d (tools : DeviceTools P) (devcred : DeviceCredential) : List Endpoint → Outcome String (COSESign P)
  | [] => .err "Couldn't get TO1 from any Rendezvous server!"
  | endpoint :: clientList =>
    match performTo1 tools devcred endpoint.client with
    | .ok to1 => .ok to1
    | .panic => .panic
    | .err _ => getTo1d tools devcred clientList

/-- What the device's own directives say. -/
def getRvInfo (directives : RendezvousInfo) (cborValue : Codec CborValue) :
    Outcome String (List RendezvousInterpretedDirective) := do
  let rvInfo ← context "Error parsing rendezvous directives" (directives.toInterpreted cborValue .device)
  Outcome.check (rvInfo ≠ []) "No rendezvous information found that's usable for the device"
  .ok rvInfo

end Client
end FidoOnboard
