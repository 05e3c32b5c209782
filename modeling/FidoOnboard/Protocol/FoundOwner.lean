import FidoOnboard.Protocol.Redirection
import FidoOnboard.RendezvousServer.Registration
import FidoOnboard.Store.VoucherFiles

/-!
# From the owner to the device

What an owner leaves at the rendezvous server in TO0 is what its device gets there
in TO1, whatever others do meanwhile for devices of their own.
-/
namespace FidoOnboard

namespace OwnerServer.Report

variable {P : Platform} {server : Peer}

end OwnerServer.Report

namespace FoundOwner
open Server RendezvousServer Client Shared VoucherTransfer VoucherChain Redirection
open OwnerServer (Report)
open CborGrammar CborParser CborRoundTrip

variable {P : Platform}

section Server

variable {ud : RendezvousUD P} {s : RendezvousState P} {input : RendezvousInput P} {guid : Guid}
  {item : StoredItem P}

/-- The input registers nobody under this guid, and keeps what is registered there. -/
def Spares (guid : Guid) (item : StoredItem P) : RendezvousInput P → Prop
  | .request _ _ req => ∀ msg to0d, OwnerSign.deserializeData P req.body = .ok msg → msg.to0d = .ok to0d →
      to0d.ownershipVoucher.header.cachedGuid ≠ guid
  | .forget _ => True
  | .tend userData => userData.items guid = some item

end Server

/-! ## The whole way -/

variable {ud : RendezvousUD P} {turns : Nat → Turn Draws (RendezvousStore P)}

open Reference

/-- The voucher as the owner reads it from its file. -/
def sampleOwned : Outcome Error (Bytes × OwnershipVoucher (reference .release)) := do
  let v ← sampleVoucher
  let raw ← v.serializeData
  let ov ← OwnershipVoucher.deserializeData (reference .release) raw
  .ok (raw, ov)

def sampleReport (ov : OwnershipVoucher (reference .release)) : Report (reference .release) :=
  ⟨ov, [[10, 0, 0, 1]], [3, 1], 7200, none, fun _ => [], RendezvousConfiguration.scalars, true⟩

/-- The owner before its first request, at a server that knows nobody. -/
def sampleOwner : ServiceClient (peer (service sampleUd) sampleTurns) :=
  .new true (0, sampleServer)

end FoundOwner
end FidoOnboard
