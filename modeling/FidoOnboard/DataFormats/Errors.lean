import FidoOnboard.DataFormats.Constants
import Mathlib.Data.UInt

/-! Errors of `data-formats/src/errors.rs` and of the array parser. -/
namespace FidoOnboard

inductive MajorType where
  | unsigned
  | negative
  | byteString
  | textString
  | array
  | map
  | tag
  | special
  deriving DecidableEq, Repr

inductive ArrayParseError where
  | invalidTopLevelType (found : MajorType)
  | lengthParseFailure
  | invalidMajorType (found : UInt8)
  | parseFailure (message : String)
  | unsupportedMajorType (found : UInt8)
  | invalidNumberOfElements (received expected : Nat)
  | noData
  deriving DecidableEq, Repr

inductive ChainError where
  | empty
  | invalidSignedCert (position : Nat)
  | noTrustedRoot
  | nonIssuer (position : Nat)
  deriving DecidableEq, Repr

/-- The variants that the modelled functions return. -/
inductive Error where
  | cryptoStack
  | serdeCborError
  | ciboriumSerError
  | cose
  | incorrectHash
  | unsupportedAlgorithm
  | nonOwnerKey
  | inconsistentValue (what : String)
  | invalidProtocolVersion (version : ProtocolVersion)
  | invalidChain (error : ChainError)
  | arrayParseError (error : ArrayParseError)
  | ioError
  | unsupportedVersion (version : Option ProtocolVersion)
  | keyExchangeError (what : String)
  | emptyData
  | pemError
  | invalidPemTag (tag : String)
  deriving DecidableEq, Repr

end FidoOnboard
