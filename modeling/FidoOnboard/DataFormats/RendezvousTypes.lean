import FidoOnboard.DataFormats.To2Types

/-! Bodies of the TO0 and TO1 messages, and what the rendezvous server stores. -/
namespace FidoOnboard
open CborParser

/-- The voucher with the time asked for and the nonce it answers. -/
structure TO0Data (P : Platform) where
  contents : ParsedArray size3
  ownershipVoucher : OwnershipVoucher P
  waitSeconds : Nat
  nonce : Nonce

namespace TO0Data

variable {P : Platform}

def deserializeData (P : Platform) (data : Bytes) : Outcome Error (TO0Data P) := do
  let contents ← ParsedArray.deserializeData P.profile size3 data
  let ownershipVoucher ← contents.get (OwnershipVoucher.deserializeData P) 0
  let waitSeconds ← contents.get P.u32.deserializeData 1
  let nonce ← contents.get (Nonce.deserializeData P) 2
  .ok { contents, ownershipVoucher, waitSeconds, nonce }

def new (ownershipVoucher : OwnershipVoucher P) (waitSeconds : Nat) (nonce : Nonce) :
    Outcome Error (TO0Data P) := do
  let c0 ← ownershipVoucher.serializeData
  let c1 ← P.u32.serializeData waitSeconds
  let c2 ← nonce.serializeData P
  .ok
    { contents := build size3 [c0, c1, c2] (fun _ h => Option.some.inj h)
      ownershipVoucher, waitSeconds, nonce }

def serializeData (d : TO0Data P) : Outcome Error Bytes := d.contents.serializeData

end TO0Data

structure TO1DataPayload (P : Platform) where
  to2Addresses : P.To2Addresses
  to1dToTo0dHash : Hash

namespace TO1DataPayload

variable {P : Platform}

def deserializeData (P : Platform) (data : Bytes) : Outcome Error (TO1DataPayload P) := do
  let (to2Addresses, to1dToTo0dHash) ← P.to1DataPayload.deserializeData data
  .ok ⟨to2Addresses, to1dToTo0dHash⟩

def serializeData (p : TO1DataPayload P) : Outcome Error Bytes :=
  P.to1DataPayload.serializeData (p.to2Addresses, p.to1dToTo0dHash)

end TO1DataPayload

/-- The bytes of `to0d` are kept as they came: the hash in `to1d` is over them. -/
structure OwnerSign (P : Platform) where
  contents : ParsedArray size2
  cachedTo0d : Bytes
  cachedTo1d : COSESign P

namespace OwnerSign

variable {P : Platform}

def deserializeData (P : Platform) (data : Bytes) : Outcome Error (OwnerSign P) := do
  let contents ← ParsedArray.deserializeData P.profile size2 data
  let cachedTo0d ← contents.get P.byteBuf.deserializeData 0
  let cachedTo1d ← contents.get (COSESign.deserializeData P) 1
  .ok { contents, cachedTo0d, cachedTo1d }

def new (to0d : Bytes) (to1d : COSESign P) : Outcome Error (OwnerSign P) := do
  let c0 ← P.byteBuf.serializeData to0d
  let c1 ← to1d.serializeData
  .ok
    { contents := build size2 [c0, c1] (sized_pair c0 c1)
      cachedTo0d := to0d
      cachedTo1d := to1d }

def serializeData (m : OwnerSign P) : Outcome Error Bytes := m.contents.serializeData

def to0d (m : OwnerSign P) : Outcome Error (TO0Data P) := TO0Data.deserializeData P m.cachedTo0d

def to1d (m : OwnerSign P) : COSESign P := m.cachedTo1d

def to0dHash (m : OwnerSign P) (hashType : HashType) : Outcome Error Hash :=
  Hash.fromData P hashType m.cachedTo0d

end OwnerSign

structure HelloRV where
  guid : Guid
  aSignatureInfo : SigInfo
  deriving DecidableEq, Repr

namespace HelloRV

def deserializeData (P : Platform) (data : Bytes) : Outcome Error HelloRV := do
  let (guid, aSignatureInfo) ← P.helloRV.deserializeData data
  (checkBstr16 guid).mapErr fun _ => .serdeCborError
  .ok ⟨⟨guid⟩, aSignatureInfo⟩

def serializeData (P : Platform) (m : HelloRV) : Outcome Error Bytes :=
  P.helloRV.serializeData (m.guid.value, m.aSignatureInfo)

end HelloRV

structure HelloRVAck where
  nonce4 : Nonce
  bSignatureInfo : SigInfo
  deriving DecidableEq, Repr

def HelloRVAck.serializeData (P : Platform) (m : HelloRVAck) : Outcome Error Bytes :=
  P.helloRVAck.serializeData (m.nonce4.value, m.bSignatureInfo)

/-- What is kept for a device: the key it must prove, and the redirection it gets. -/
structure StoredItem (P : Platform) where
  publicKey : PublicKey P
  to1d : COSESign P

namespace StoredItem

variable {P : Platform}

def deserializeData (P : Platform) (data : Bytes) : Outcome Error (StoredItem P) := do
  let contents ← ParsedArray.deserializeData P.profile size2 data
  let publicKey ← contents.get (PublicKey.deserializeData P) 0
  let to1d ← contents.get (COSESign.deserializeData P) 1
  .ok { publicKey, to1d }

def serializeData (item : StoredItem P) : Outcome Error Bytes := do
  let c0 ← item.publicKey.serializeData
  let c1 ← item.to1d.serializeData
  (build size2 [c0, c1] (sized_pair c0 c1)).serializeData

end StoredItem
end FidoOnboard
