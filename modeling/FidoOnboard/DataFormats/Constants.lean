import FidoOnboard.Base.Outcome

/-! Enumerations of `data-formats/src/constants` and the suites of `types.rs`, with the numbers
they have on the wire where something modelled reads them. -/
namespace FidoOnboard

inductive ProtocolVersion where
  | version1_0
  | version1_1
  deriving DecidableEq, Repr

namespace ProtocolVersion

def toU16 : ProtocolVersion → Nat
  | .version1_0 => 100
  | .version1_1 => 101

/-- The derived order: declaration order, which is also the order of the numbers. -/
instance : LT ProtocolVersion := ⟨fun a b => a.toU16 < b.toU16⟩

instance : DecidableRel (· < · : ProtocolVersion → ProtocolVersion → Prop) :=
  fun a b => inferInstanceAs (Decidable (a.toU16 < b.toU16))

end ProtocolVersion

/-- The digests of openssl that the code asks for. -/
inductive MessageDigest where
  | sha256
  | sha384
  deriving DecidableEq, Repr

inductive HashType where
  | sha256
  | sha384
  | hmacSha256
  | hmacSha384
  deriving DecidableEq, Repr

namespace HashType

def toI8 : HashType → Int
  | .sha256 => -16
  | .sha384 => -43
  | .hmacSha256 => 5
  | .hmacSha384 => 6

/-- `TryFrom<HashType> for MessageDigest`: the keyed types have no plain digest. -/
def messageDigest : HashType → Option MessageDigest
  | .sha256 => some .sha256
  | .sha384 => some .sha384
  | .hmacSha256 | .hmacSha384 => none

def getMd : HashType → MessageDigest
  | .sha256 | .hmacSha256 => .sha256
  | .sha384 | .hmacSha384 => .sha384

def digestSize : HashType → Nat
  | .sha256 | .hmacSha256 => 32
  | .sha384 | .hmacSha384 => 48

def innerHash : HashType → HashType
  | .sha256 | .hmacSha256 => .sha256
  | .sha384 | .hmacSha384 => .sha384

/-- The hash inside every type, keyed or not, is one that can be computed. -/
theorem innerHash_messageDigest (t : HashType) :
    t.innerHash.messageDigest = some t.getMd := by
  cases t <;> rfl

end HashType

inductive DeviceSigType where
  | stSECP256R1
  | stSECP384R1
  | stRSA2048
  | stRSA3072
  | stEPID10
  | stEPID11
  | stEPID20
  deriving DecidableEq, Repr

/-- The COSE algorithm numbers. -/
def DeviceSigType.toI16 : DeviceSigType → Int
  | .stSECP256R1 => -7
  | .stSECP384R1 => -35
  | .stRSA2048 => -257
  | .stRSA3072 => -258
  | .stEPID10 => 90
  | .stEPID11 => 91
  | .stEPID20 => 92

inductive KexSuite where
  | ecdh256
  | ecdh384
  | dhkexId14
  | dhkexId15
  deriving DecidableEq, Repr

def KexSuite.toString : KexSuite → String
  | .ecdh256 => "ECDH256"
  | .ecdh384 => "ECDH384"
  | .dhkexId14 => "DHKEXid14"
  | .dhkexId15 => "DHKEXid15"

inductive CipherSuite where
  | a128Gcm
  | a256Gcm
  deriving DecidableEq, Repr

def CipherSuite.toI32 : CipherSuite → Int
  | .a128Gcm => 1
  | .a256Gcm => 3

inductive PublicKeyType where
  | rsa2048RESTR
  | rsaPkcs
  | rsaPss
  | secp256R1
  | secp384R1
  deriving DecidableEq, Repr

def PublicKeyType.toI16 : PublicKeyType → Int
  | .rsa2048RESTR => 1
  | .rsaPkcs => 5
  | .rsaPss => 6
  | .secp256R1 => 10
  | .secp384R1 => 11

inductive PublicKeyEncoding where
  | crypto
  | x509
  | x5chain
  | cosekey
  deriving DecidableEq, Repr

def PublicKeyEncoding.toU8 : PublicKeyEncoding → Nat
  | .crypto => 0
  | .x509 => 1
  | .x5chain => 2
  | .cosekey => 3

/-- Where a device keeps its key. -/
inductive KeyStorageType where
  | fileSystem
  | tpm
  deriving DecidableEq, Repr

def KeyStorageType.toI8 : KeyStorageType → Int
  | .fileSystem => 0
  | .tpm => 1

inductive MfgStringType where
  | serialNumber
  | macAddress
  deriving DecidableEq, Repr

def MfgStringType.toU8 : MfgStringType → Nat
  | .serialNumber => 0
  | .macAddress => 1

inductive HeaderKeys where
  | eatNonce
  | eatUeid
  | cuphNonce
  | cuphOwnerPubKey
  | euphNonce
  | eatFDO
  deriving DecidableEq, Repr

def HeaderKeys.toI64 : HeaderKeys → Int
  | .eatNonce => 10
  | .eatUeid => 11
  | .cuphNonce => 256
  | .cuphOwnerPubKey => 257
  | .euphNonce => -259
  | .eatFDO => -257

inductive MessageType where
  | invalid
  | diAppStart
  | diSetCredentials
  | diSetHMAC
  | diDone
  | to0Hello
  | to0HelloAck
  | to0OwnerSign
  | to0AcceptOwner
  | to1HelloRV
  | to1HelloRVAck
  | to1ProveToRV
  | to1RVRedirect
  | to2HelloDevice
  | to2ProveOVHdr
  | to2GetOVNextEntry
  | to2OVNextEntry
  | to2ProveDevice
  | to2SetupDevice
  | to2DeviceServiceInfoReady
  | to2OwnerServiceInfoReady
  | to2DeviceServiceInfo
  | to2OwnerServiceInfo
  | to2Done
  | to2Done2
  | diunConnect
  | diunAccept
  | diunRequestKeyParameters
  | diunProvideKeyParameters
  | diunProvideKey
  | diunDone
  | error
  deriving DecidableEq, Repr

def MessageType.toU8 : MessageType → Nat
  | .invalid => 0
  | .diAppStart => 10
  | .diSetCredentials => 11
  | .diSetHMAC => 12
  | .diDone => 13
  | .to0Hello => 20
  | .to0HelloAck => 21
  | .to0OwnerSign => 22
  | .to0AcceptOwner => 23
  | .to1HelloRV => 30
  | .to1HelloRVAck => 31
  | .to1ProveToRV => 32
  | .to1RVRedirect => 33
  | .to2HelloDevice => 60
  | .to2ProveOVHdr => 61
  | .to2GetOVNextEntry => 62
  | .to2OVNextEntry => 63
  | .to2ProveDevice => 64
  | .to2SetupDevice => 65
  | .to2DeviceServiceInfoReady => 66
  | .to2OwnerServiceInfoReady => 67
  | .to2DeviceServiceInfo => 68
  | .to2OwnerServiceInfo => 69
  | .to2Done => 70
  | .to2Done2 => 71
  | .diunConnect => 210
  | .diunAccept => 211
  | .diunRequestKeyParameters => 212
  | .diunProvideKeyParameters => 213
  | .diunProvideKey => 214
  | .diunDone => 215
  | .error => 255

inductive ErrorCode where
  | invalidOwnershipVoucher
  | invalidOwnerSignBody
  | invalidIPAddress
  | invalidGUID
  | resourceNotFound
  | messageBodyError
  | invalidMessageError
  | credReuseError
  | internalServerError
  deriving DecidableEq, Repr

def ErrorCode.toU16 : ErrorCode → Nat
  | .invalidOwnershipVoucher => 2
  | .invalidOwnerSignBody => 3
  | .invalidIPAddress => 4
  | .invalidGUID => 5
  | .resourceNotFound => 6
  | .messageBodyError => 100
  | .invalidMessageError => 101
  | .credReuseError => 102
  | .internalServerError => 500

end FidoOnboard
