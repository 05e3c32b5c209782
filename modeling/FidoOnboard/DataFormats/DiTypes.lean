import FidoOnboard.DataFormats.To2Types

/-! Bodies of the DIUN and DI messages that are more than one codec. -/
namespace FidoOnboard

namespace Diun

structure Connect where
  nonceDiun1 : Nonce
  kexSuite : KexSuite
  cipherSuite : CipherSuite
  keyExchange : Bytes
  deriving DecidableEq, Repr

namespace Connect

def serializeData (P : Platform) (m : Connect) : Outcome Error Bytes :=
  P.connect.serializeData ⟨m.nonceDiun1.value, m.kexSuite, m.cipherSuite, m.keyExchange⟩

def deserializeData (P : Platform) (data : Bytes) : Outcome Error Connect := do
  let f ← P.connect.deserializeData data
  (checkBstr16 f.nonceDiun1).mapErr fun _ => .serdeCborError
  .ok ⟨⟨f.nonceDiun1⟩, f.kexSuite, f.cipherSuite, f.keyExchange⟩

end Connect

structure ProvideKeyParameters where
  keyType : PublicKeyType
  keyStorageTypesAllowed : Option (List KeyStorageType)
  deriving DecidableEq, Repr

namespace ProvideKeyParameters

def serializeData (P : Platform) (m : ProvideKeyParameters) : Outcome Error Bytes :=
  P.provideKeyParameters.serializeData (m.keyType, m.keyStorageTypesAllowed)

def deserializeData (P : Platform) (data : Bytes) : Outcome Error ProvideKeyParameters := do
  let (keyType, allowed) ← P.provideKeyParameters.deserializeData data
  .ok ⟨keyType, allowed⟩

end ProvideKeyParameters

/-- The key is in its DER form. -/
structure ProvideKey where
  publicKey : Bytes
  publicKeyStorage : KeyStorageType
  deriving DecidableEq, Repr

namespace ProvideKey

def serializeData (P : Platform) (m : ProvideKey) : Outcome Error Bytes :=
  P.provideKey.serializeData (m.publicKey, m.publicKeyStorage)

def deserializeData (P : Platform) (data : Bytes) : Outcome Error ProvideKey := do
  let (publicKey, storage) ← P.provideKey.deserializeData data
  .ok ⟨publicKey, storage⟩

end ProvideKey
end Diun

namespace Di

/-- What identifies the device, still in CBOR. -/
structure AppStart where
  mfgInfo : Bytes
  deriving DecidableEq, Repr

namespace AppStart

/-- `AppStart::new` on a text, the only kind the client makes. -/
def new (P : Platform) (mfgInfo : String) : Outcome Error AppStart := do
  let buffer ← P.text.serializeData mfgInfo
  .ok ⟨buffer⟩

/-- `mfg_info()`, any CBOR value. -/
def getMfgInfo (P : Platform) (m : AppStart) : Outcome Error P.Value :=
  .ofOption .serdeCborError (P.valueFromSlice m.mfgInfo)

def serializeData (P : Platform) (m : AppStart) : Outcome Error Bytes := P.appStart.serializeData m.mfgInfo

def deserializeData (P : Platform) (data : Bytes) : Outcome Error AppStart := do
  let mfgInfo ← P.appStart.deserializeData data
  .ok ⟨mfgInfo⟩

end AppStart
end Di
end FidoOnboard
