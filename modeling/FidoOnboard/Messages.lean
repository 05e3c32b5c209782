import FidoOnboard.DataFormats.Constants
import Mathlib.Data.List.Nodup

/-!
# The message tables

The static part of the `Message` trait: the type of a message, which message may
stand before it on its session, and whether it travels encrypted.
-/
namespace FidoOnboard

inductive EncryptionRequirement where
  | mustBeEncrypted
  | mustNotBeEncrypted
  deriving DecidableEq, Repr

structure Message where
  messageType : MessageType
  isValidPreviousMessage : Option MessageType → Bool
  encryptionRequirement : Option EncryptionRequirement

namespace Message

/-- `matches!(message_type, Some(..) | ..)`. -/
def after (types : List MessageType) : Option MessageType → Bool
  | none => false
  | some t => types.contains t

@[simp] theorem after_none (types : List MessageType) : after types none = false := rfl

@[simp] theorem after_some (types : List MessageType) (t : MessageType) :
    after types (some t) = true ↔ t ∈ types := by
  simp [after]

/-- The message before, as a test of the table reads it. -/
theorem after_eq_true {types : List MessageType} {last : Option MessageType}
    (h : after types last = true) : ∃ t ∈ types, last = some t := by
  cases last with
  | none => cases h
  | some t => exact ⟨t, (after_some types t).mp h, rfl⟩

/-- A message in the clear; the one that starts a session has no predecessor. -/
def plain (messageType : MessageType) (previous : Option MessageType → Bool) : Message :=
  ⟨messageType, previous, some .mustNotBeEncrypted⟩

def encrypted (messageType : MessageType) (previous : Option MessageType → Bool) : Message :=
  ⟨messageType, previous, some .mustBeEncrypted⟩

/-- A message that travels the way its session does. -/
def either (messageType : MessageType) (previous : Option MessageType → Bool) : Message :=
  ⟨messageType, previous, none⟩

def errorMessage : Message := ⟨.error, fun _ => true, none⟩

end Message

namespace Diun

def connect : Message := .plain .diunConnect Option.isNone
def accept : Message := .plain .diunAccept (Message.after [.diunConnect])
def requestKeyParameters : Message := .plain .diunRequestKeyParameters (Message.after [.diunAccept])
def provideKeyParameters : Message :=
  .encrypted .diunProvideKeyParameters (Message.after [.diunRequestKeyParameters])
def provideKey : Message := .encrypted .diunProvideKey (Message.after [.diunProvideKeyParameters])
def done : Message := .encrypted .diunDone (Message.after [.diunProvideKey])

end Diun

namespace Di

/-- The first message of a session, or the one that follows DIUN on it. -/
def appStart : Message := .either .diAppStart fun last => last.isNone || Message.after [.diunDone] last
def setCredentials : Message := .either .diSetCredentials (Message.after [.diAppStart])
def setHmac : Message := .either .diSetHMAC (Message.after [.diSetCredentials])
def done : Message := .either .diDone (Message.after [.diSetHMAC])

end Di

namespace To0

def hello : Message := .plain .to0Hello Option.isNone
def helloAck : Message := .plain .to0HelloAck (Message.after [.to0Hello])
def ownerSign : Message := .plain .to0OwnerSign (Message.after [.to0HelloAck])
def acceptOwner : Message := .plain .to0AcceptOwner (Message.after [.to0OwnerSign])

end To0

namespace To1

def helloRV : Message := .plain .to1HelloRV Option.isNone
def helloRVAck : Message := .plain .to1HelloRVAck (Message.after [.to1HelloRV])
def proveToRV : Message := .plain .to1ProveToRV (Message.after [.to1HelloRVAck])
def rvRedirect : Message := .plain .to1RVRedirect (Message.after [.to1ProveToRV])

end To1

namespace To2

def helloDevice : Message := .plain .to2HelloDevice Option.isNone
def proveOVHdr : Message := .plain .to2ProveOVHdr (Message.after [.to2HelloDevice])
def getOVNextEntry : Message := .plain .to2GetOVNextEntry (Message.after [.to2ProveOVHdr, .to2OVNextEntry])
def ovNextEntry : Message := .plain .to2OVNextEntry (Message.after [.to2GetOVNextEntry])
def proveDevice : Message := .plain .to2ProveDevice (Message.after [.to2OVNextEntry])
def setupDevice : Message := .encrypted .to2SetupDevice (Message.after [.to2ProveDevice])
def deviceServiceInfoReady : Message :=
  .encrypted .to2DeviceServiceInfoReady (Message.after [.to2SetupDevice])
def ownerServiceInfoReady : Message :=
  .encrypted .to2OwnerServiceInfoReady (Message.after [.to2DeviceServiceInfoReady])
def deviceServiceInfo : Message :=
  .encrypted .to2DeviceServiceInfo (Message.after [.to2OwnerServiceInfoReady, .to2OwnerServiceInfo])
def ownerServiceInfo : Message := .encrypted .to2OwnerServiceInfo (Message.after [.to2DeviceServiceInfo])
def done : Message := .encrypted .to2Done (Message.after [.to2OwnerServiceInfo])
def done2 : Message := .encrypted .to2Done2 (Message.after [.to2Done])

end To2
namespace Message

/-- Every message of every protocol. -/
def all : List Message :=
  [Diun.connect, Diun.accept, Diun.requestKeyParameters, Diun.provideKeyParameters, Diun.provideKey, Diun.done,
    Di.appStart, Di.setCredentials, Di.setHmac, Di.done,
    To0.hello, To0.helloAck, To0.ownerSign, To0.acceptOwner,
    To1.helloRV, To1.helloRVAck, To1.proveToRV, To1.rvRedirect,
    To2.helloDevice, To2.proveOVHdr, To2.getOVNextEntry, To2.ovNextEntry, To2.proveDevice, To2.setupDevice,
    To2.deviceServiceInfoReady, To2.ownerServiceInfoReady, To2.deviceServiceInfo, To2.ownerServiceInfo,
    To2.done, To2.done2, errorMessage]

/-- A message is known by its type. -/
theorem eq_of_messageType {m m' : Message} (hm : m ∈ all) (hm' : m' ∈ all)
    (h : m.messageType = m'.messageType) : m = m' := by
  have hnodup : (all.map Message.messageType).Nodup := by decide
  exact List.inj_on_of_nodup_map hnodup hm hm' h

end Message
end FidoOnboard
