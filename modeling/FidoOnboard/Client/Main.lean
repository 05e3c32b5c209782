import FidoOnboard.Base.Search
import FidoOnboard.Base.Utf8
import FidoOnboard.Client.ContactUrls
import FidoOnboard.Client.Retry
import FidoOnboard.Client.To1

/-!
# A boot of the device

`main` of `client-linuxapp/src/main.rs`, with the locations of
`util/src/device_credential_locations.rs`. The loop over the rendezvous directives
has no end of its own: it is given the number of rounds after which the device is
switched off. The reboot at the very end is left out.
-/
namespace FidoOnboard.Client
open Attempt
open OwnerServer (context)

/-! ## The device credential -/

/-- The files of the device, the marker among them. -/
structure Disk (M : Machine) where
  Rest : Type
  codec : Codec (FileDeviceCredential Rest)
  fileExists : String → M.State → Bool
  read : String → M.State → Option Bytes
  write : String → M.State → Bytes → M.State × Bool
  remove : String → M.State → M.State × Bool

/-- `DEVICE_CREDENTIAL`, which may not be Unicode, and whether `_DELETE` and `_DEACTIVATE` are set. -/
structure CredentialEnv where
  deviceCredential : Option (Option String)
  delete : Bool
  deactivate : Bool

structure FileSystemPath where
  path : String
  deactivationMethod : DeactivationMethod

variable {M : Machine}

namespace FileSystemPath

variable (D : Disk M)

def resolve (l : FileSystemPath) (s : M.State) : Option (Outcome String FileSystemPath) :=
  if D.fileExists l.path s then some (.ok l) else none

/-- The credential of this location, and the marker that says what has become of it. -/
def files (marker : String) (l : FileSystemPath) : DeviceFiles M where
  Rest := D.Rest
  codec := D.codec
  method := l.deactivationMethod
  marker := D.fileExists marker
  credential := D.read l.path
  writeMarker s := D.write marker s (Utf8.encode "executed".toList)
  writeCredential := D.write l.path
  removeCredential := D.remove l.path

/-- `UsableDeviceCredentialLocation::read`. -/
def readCredential (l : FileSystemPath) (s : M.State) : Outcome String (FileDeviceCredential D.Rest) := do
  let contents ← .ofOption "Error reading (device credential) file" (D.read l.path s)
  .ofOption "Error parsing device credential" (D.codec.fromSlice contents)

end FileSystemPath

def resolveEnv (D : Disk M) (env : CredentialEnv) (s : M.State) : Option (Outcome String FileSystemPath) :=
  match env.deviceCredential with
  | none => none
  | some none => some (.err "Invalid environment variable value")
  | some (some path) =>
    FileSystemPath.resolve D ⟨path,
      if env.delete then .delete else if env.deactivate then .deactivate else .none⟩ s

/-- The first location that there is. -/
def find (D : Disk M) (env : CredentialEnv) (s : M.State) : Option (Outcome String FileSystemPath) :=
  match FileSystemPath.resolve D
      ⟨"/sys/firmware/qemu_fw_cfg/by_name/opt/device_onboarding/devicecredential/raw", .none⟩ s with
  | some found => some found
  | none =>
    match resolveEnv D env s with
    | some found => some found
    | none => FileSystemPath.resolve D ⟨"/etc/device-credentials", .deactivate⟩ s

/-! ## One boot -/

variable {P : Platform}

/-- What the device is made of, and how it reads the rest of its credential. -/
structure Device (P : Platform) (M : Machine) where
  values : ServiceInfoValues P
  tools : DeviceTools P
  disk : Disk M
  protocolVersion : disk.Rest → ProtocolVersion
  devcred : disk.Rest → DeviceCredential
  directives : disk.Rest → RendezvousInfo
  cborValue : Codec CborValue
  to2Addresses : P.To2Addresses → List TO2AddressEntry
  interoperableKdfAvailable : Bool
  /-- `perform_required_reencrypts`. -/
  reencrypts : M.State → M.State × Bool

/-- Whom the device reaches in one attempt, and what it draws there. -/
structure Network where
  rendezvous : List Char → OwnerServer.Reached
  owner : List Char → OwnerServer.Reached
  draws : DeviceDraws

/-- `marker_file_location`, from `DEVICE_ONBOARDING_EXECUTED_MARKER_FILE_PATH` where that is set to Unicode. -/
def markerFileLocation (executedMarkerFilePath : Option String) : String :=
  executedMarkerFilePath.getD "/etc/device_onboarding_performed"

/-- What is there at one boot. The attempts are counted, and each has its own network. -/
structure Boot where
  executedMarkerFilePath : Option String
  env : CredentialEnv
  allowNoninteroperableKdf : Bool
  network : Nat → Network
  rounds : Nat

def Boot.marker (b : Boot) : String := markerFileLocation b.executedMarkerFilePath

inductive Ending where
  | skipped
  | onboarded (rebootRequired : Bool)
  /-- Switched off between two rounds. -/
  | waiting

namespace Device

variable (d : Device P M) (b : Boot) (l : FileSystemPath) (dc : DeviceCredential)

/-- One address of the owner. -/
def tryAddress (to1d : COSESign P) (to2Address : List Char) : Attempt (M.State × Nat) Bool := fun (s, calls) =>
  let reached := (b.network calls).owner to2Address
  match performTo2 d.values d.tools (l.files d.disk b.marker) (b.network calls).draws dc to1d
      (ServiceClient.new d.interoperableKdfAvailable reached.peer : ServiceClient reached.server) s with
  | (s, .ok maybeReboot) => ((s, calls + 1), .success maybeReboot)
  | (s, .err _) => ((s, calls + 1), .failure)
  | (s, .panic) => ((s, calls + 1), .stop)

/-- One rendezvous directive. Every failure goes on with the next one. -/
def tryEntry (rvEntry : RendezvousInterpretedDirective) : Attempt (M.State × Nat) Bool := fun (s, calls) =>
  match getClientList d.interoperableKdfAvailable (b.network calls).rendezvous rvEntry with
  | .err _ => ((s, calls), .failure)
  | .panic => ((s, calls), .stop)
  | .ok clientList =>
    match getTo1d d.tools dc clientList with
    | .err _ => ((s, calls + 1), .failure)
    | .panic => ((s, calls + 1), .stop)
    | .ok to1d =>
      match to1d.getPayloadUnverified (TO1DataPayload.deserializeData P) with
      | .err _ => ((s, calls + 1), .failure)
      | .panic => ((s, calls + 1), .stop)
      | .ok to1dPayload =>
        search ((getTo2Urls (d.to2Addresses to1dPayload.to2Addresses)).map (d.tryAddress b l dc to1d)) (s, calls + 1)

def round (rvInfo : List RendezvousInterpretedDirective) : Attempt (M.State × Nat) Bool :=
  search (rvInfo.map (d.tryEntry b l dc))

/-- The directives, over and over again. -/
def loop (rvInfo : List RendezvousInterpretedDirective) : Attempt (M.State × Nat) Bool :=
  search (List.replicate b.rounds (d.round b l dc rvInfo))

/-- The credential the device onboards with, where it is, and the directives in it. -/
def usableCredential (s : M.State) :
    Outcome String (Option (FileSystemPath × DeviceCredential × List RendezvousInterpretedDirective)) :=
  match find d.disk b.env s with
  | none => .ok none
  | some found => do
    let l ← context "Error getting device credential at any of the known locations" found
    let dc ← context "Error reading device credential" (l.readCredential d.disk s)
    if dc.active then do
      let version := d.protocolVersion dc.rest
      Outcome.check (version = .version1_1)
        ("Device credential protocol version " ++ toString version.toU16 ++ " not supported")
      let rvInfo ← getRvInfo (d.directives dc.rest) d.cborValue
      .ok (some (l, d.devcred dc.rest, rvInfo))
    else .ok none

def main (s : M.State) : (M.State × Nat) × Outcome String Ending :=
  if d.interoperableKdfAvailable || b.allowNoninteroperableKdf then
    if d.disk.fileExists b.marker s then
      match d.reencrypts s with
      | (s, true) => ((s, 0), .ok .skipped)
      | (s, false) => ((s, 0), .err "Error performing required re-encrypts")
    else
      match d.usableCredential b s with
      | .err e => ((s, 0), .err e)
      | .panic => ((s, 0), .panic)
      | .ok none => ((s, 0), .ok .skipped)
      | .ok (some (l, dc, rvInfo)) =>
        match d.loop b l dc rvInfo (s, 0) with
        | (left, .success rebootRequired) => (left, .ok (.onboarded rebootRequired))
        | (left, .failure) => (left, .ok .waiting)
        | (left, .stop) => (left, .panic)
  else ((s, 0), .err "Provide environment ALLOW_NONINTEROPERABLE_KDF=1 to enable interoperable KDF")

end Device
end FidoOnboard.Client
