import FidoOnboard.DataFormats.Types

/-! Key exchange and derivation of `data-formats/src/types.rs`. -/
namespace FidoOnboard

namespace KexSuite

/-- Only the elliptic suites come here. -/
def getEcdhRandomSize : KexSuite → Outcome Error Nat
  | .ecdh256 => .ok 16
  | .ecdh384 => .ok 48
  | _ => .panic

end KexSuite

namespace CipherSuite

def usesCombinedKey : CipherSuite → Bool
  | .a128Gcm | .a256Gcm => true

def splitKeySplitPos : CipherSuite → Outcome Error Nat
  | .a128Gcm | .a256Gcm => .panic

def requiredKeylen : CipherSuite → Nat
  | .a128Gcm => 16
  | .a256Gcm => 32

def kdfDigest : CipherSuite → MessageDigest
  | .a128Gcm | .a256Gcm => .sha256

end CipherSuite

inductive DerivedKeys where
  | combined (sevk : Bytes)
  | split (sek svk : Bytes)
  deriving DecidableEq, Repr

inductive KeyDeriveSide where
  | ownerService
  | device
  deriving DecidableEq, Repr

inductive KeyExchange where
  | ecdh (suite : KexSuite) (key ourRandom : Bytes)
  | dhkex (suite : KexSuite) (key : Bytes)
  deriving DecidableEq, Repr

/-- What openssl draws for a fresh exchange. -/
structure KexEntropy where
  ecKey : KexSuite → Option Bytes
  dhKey : KexSuite → Option Bytes
  random : Nat → Option Bytes

/-- `slice::split_at`. -/
def splitAt (data : Bytes) (mid : Nat) : Outcome Error (Bytes × Bytes) :=
  if mid ≤ data.length then .ok (data.take mid, data.drop mid) else .panic

namespace KeyExchange

def keyDeriveLabel : Bytes := asBytes "FIDO-KDF"

def keyDeriveContextPrefix : Bytes := asBytes "AutomaticOnboardTunnel"

def new (entropy : KexEntropy) (suite : KexSuite) : Outcome Error KeyExchange :=
  match suite with
  | .dhkexId14 | .dhkexId15 => do
    let key ← .ofOption .cryptoStack (entropy.dhKey suite)
    .ok (.dhkex suite key)
  | .ecdh256 | .ecdh384 => do
    let key ← .ofOption .cryptoStack (entropy.ecKey suite)
    let size ← suite.getEcdhRandomSize
    let ourRandom ← .ofOption .cryptoStack (entropy.random size)
    .ok (.ecdh suite key ourRandom)

/-- Lengths are cut to `u16`. -/
def encodeEcdhBstr (ax ay random : Bytes) : Bytes :=
  BigEndian.toBe 2 (ax.length % 2 ^ 16) ++ ax ++ (BigEndian.toBe 2 (ay.length % 2 ^ 16) ++ ay ++
    (BigEndian.toBe 2 (random.length % 2 ^ 16) ++ random))

/-- One length and the bytes it counts. -/
def takeCounted (bstr : Bytes) : Outcome Error (Bytes × Bytes) := do
  let (len, bstr) ← splitAt bstr 2
  splitAt bstr (BigEndian.fromBe len)

def decodeEcdhBstr (bstr : Bytes) : Outcome Error (Bytes × Bytes × Bytes) := do
  let (ax, bstr) ← takeCounted bstr
  let (ay, bstr) ← takeCounted bstr
  let (random, bstr) ← takeCounted bstr
  if bstr ≠ [] then .err (.keyExchangeError "Invalid ecdh bstr received") else .ok (ax, ay, random)

def getPublic (P : Platform) : KeyExchange → Outcome Error Bytes
  | .dhkex suite key => .ofOption .cryptoStack (P.dhPublic suite key)
  | .ecdh suite key ourRandom => do
    let (x, y) ← .ofOption .cryptoStack (P.ecPublic suite key)
    .ok (encodeEcdhBstr x y ourRandom)

/-- The shared secret; the randomness of the device stands first. -/
def sharedSecret (P : Platform) (ourSide : KeyDeriveSide) (other : Bytes) :
    KeyExchange → Outcome Error Bytes
  | .dhkex suite key => .ofOption .cryptoStack (P.dhShared suite key other)
  | .ecdh suite key ourRandom => do
    let (otherX, otherY, otherRandom) ← decodeEcdhBstr other
    let size ← suite.getEcdhRandomSize
    Outcome.check (otherRandom.length = size) (.keyExchangeError "Other random is invalid size")
    let derived ← .ofOption .cryptoStack (P.ecShared suite key otherX otherY)
    let derivedX ← .ofOption (.keyExchangeError "Invalid key derived") derived
    match ourSide with
    | .device => .ok (derivedX ++ ourRandom ++ otherRandom)
    | .ownerService => .ok (derivedX ++ otherRandom ++ ourRandom)

/-- A build without the standard derivation never uses it, whatever it is asked. -/
def deriveKey (P : Platform) (interoperableKdfAvailable : Bool) (kex : KeyExchange)
    (ourSide : KeyDeriveSide) (cipher : CipherSuite) (other : Bytes)
    (useNoninteroperableKdf : Bool) : Outcome Error DerivedKeys := do
  let secret ← kex.sharedSecret P ourSide other
  let salt := keyDeriveContextPrefix ++ BigEndian.toBe 2 (cipher.requiredKeylen * 8)
  let interoperable := interoperableKdfAvailable && !useNoninteroperableKdf
  let keyOut ← .ofOption .cryptoStack
    (P.kdf interoperable cipher.kdfDigest keyDeriveLabel salt secret cipher.requiredKeylen)
  if cipher.usesCombinedKey then .ok (.combined keyOut)
  else do
    let pos ← cipher.splitKeySplitPos
    let (svk, sek) ← splitAt keyOut pos
    .ok (.split sek svk)

end KeyExchange
end FidoOnboard
