import FidoOnboard.Base.Utf8
import FidoOnboard.DataFormats.CborValue

/-!
# Rendezvous directives

The variables of `constants/mod.rs`, `RendezvousInfo` of `types.rs` and its
interpretation in `enhanced_types.rs`. A directive is a list of variables with
CBOR-encoded values, read in order by the side that looks for the server.
-/
namespace FidoOnboard

inductive RendezvousVariable where
  | deviceOnly
  | ownerOnly
  | ipAddress
  | devicePort
  | ownerPort
  | dns
  | serverCertHash
  | caCertHash
  | userInput
  | wifiSsid
  | wifiPw
  | medium
  | protocol
  | delaysec
  | bypass
  deriving DecidableEq, Repr

inductive RendezvousProtocolValue where
  | rest
  | http
  | https
  | tcp
  | tls
  | coAPTCP
  | coAPUDP
  deriving DecidableEq, Repr

/-- `Error::NotImplemented` stands beside the errors of the other functions. -/
inductive VariableError where
  | error (error : Error)
  | notImplemented (what : String)
  deriving DecidableEq, Repr

/-- A text in lower case; no name below has a letter that another alphabet folds to. -/
def toLowercase (s : List Char) : List Char := s.map Char.toLower

namespace RendezvousProtocolValue

def fromStr (s : List Char) : Outcome VariableError RendezvousProtocolValue :=
  .ofOption (.error (.inconsistentValue "protocol"))
    ([("rest".toList, rest), ("http".toList, http), ("https".toList, https), ("tcp".toList, tcp),
      ("tls".toList, tls), ("coaptcp".toList, coAPTCP), ("coapudp".toList, coAPUDP)].lookup (toLowercase s))

def toU8 : RendezvousProtocolValue → Nat
  | .rest => 0
  | .http => 1
  | .https => 2
  | .tcp => 3
  | .tls => 4
  | .coAPTCP => 5
  | .coAPUDP => 6

def ofInt (n : Int) : Option RendezvousProtocolValue :=
  [rest, http, https, tcp, tls, coAPTCP, coAPUDP].find? fun p => (p.toU8 : Int) == n

def defaultPort : RendezvousProtocolValue → Option Nat
  | .http => some 80
  | .https => some 443
  | _ => none

theorem ofInt_toU8 (p : RendezvousProtocolValue) : ofInt p.toU8 = some p := by
  cases p <;> rfl

end RendezvousProtocolValue

/-- An address is known by its octets. -/
structure IpAddr where
  octets : Bytes
  sized : octets.length = 4 ∨ octets.length = 16
  deriving DecidableEq

namespace RendezvousVariable

def name : RendezvousVariable → String
  | .deviceOnly => "device-only"
  | .ownerOnly => "owner-only"
  | .ipAddress => "ip-address"
  | .devicePort => "device-port"
  | .ownerPort => "owner-port"
  | .dns => "dns"
  | .serverCertHash => "server-cert-hash"
  | .caCertHash => "ca-cert-hash"
  | .userInput => "user-input"
  | .wifiSsid => "wifi-ssid"
  | .wifiPw => "wifi-pw"
  | .medium => "medium"
  | .protocol => "protocol"
  | .delaysec => "delay-sec"
  | .bypass => "bypass"

/-- The names under which a variable may be configured. -/
def aliases : List (List Char × RendezvousVariable) :=
  [("deviceonly".toList, .deviceOnly), ("device_only".toList, .deviceOnly),
    ("owneronly".toList, .ownerOnly), ("owner_only".toList, .ownerOnly),
    ("ipaddress".toList, .ipAddress), ("ip_address".toList, .ipAddress), ("ip".toList, .ipAddress),
    ("deviceport".toList, .devicePort), ("device_port".toList, .devicePort),
    ("ownerport".toList, .ownerPort), ("owner_port".toList, .ownerPort), ("dns".toList, .dns),
    ("servercerthash".toList, .serverCertHash), ("server_cert_hash".toList, .serverCertHash),
    ("cacerthash".toList, .caCertHash), ("ca_cert_hash".toList, .caCertHash),
    ("userinput".toList, .userInput), ("user_input".toList, .userInput),
    ("wifissid".toList, .wifiSsid), ("wifi_ssid".toList, .wifiSsid),
    ("wifipw".toList, .wifiPw), ("wifi_pw".toList, .wifiPw), ("medium".toList, .medium),
    ("protocol".toList, .protocol), ("delaysec".toList, .delaysec), ("delay_sec".toList, .delaysec),
    ("delay".toList, .delaysec), ("bypass".toList, .bypass)]

def fromStr (s : List Char) : Outcome VariableError RendezvousVariable :=
  .ofOption (.error (.inconsistentValue "variable-name")) (aliases.lookup (toLowercase s))

/-- `value_from_human_to_machine`, given `IpAddr::from_str`. -/
def valueFromHumanToMachine (ipFromStr : List Char → Option IpAddr) (self : RendezvousVariable)
    (val : CborValue) : Outcome VariableError CborValue :=
  match self with
  -- markers: that they are there means they are true
  | .deviceOnly | .ownerOnly | .userInput | .bypass => .ok .null
  | .devicePort | .ownerPort | .delaysec =>
    match val with
    | .integer i => .ok (.integer i)
    | _ => .err (.error (.inconsistentValue self.name))
  | .dns | .wifiSsid | .wifiPw =>
    match val with
    | .text t => .ok (.text t)
    | _ => .err (.error (.inconsistentValue self.name))
  | .protocol =>
    match val with
    | .text v => do
      let protocol ← RendezvousProtocolValue.fromStr v
      .ok (.integer protocol.toU8)
    | _ => .err (.error (.inconsistentValue "protocol (type)"))
  | .ipAddress =>
    match val with
    | .text v => do
      let addr ← .ofOption (.error (.inconsistentValue self.name)) (ipFromStr v)
      .ok (.bytes addr.octets)
    | _ => .err (.error (.inconsistentValue self.name))
  | .serverCertHash => .err (.notImplemented "ServerCertHash")
  | .caCertHash => .err (.notImplemented "CaCertHash")
  | .medium => .err (.notImplemented "Medium")

section

variable {ipFromStr : List Char → Option IpAddr} {val val' : CborValue}

theorem value_integer {self : RendezvousVariable} (hself : self = .devicePort ∨ self = .ownerPort ∨ self = .delaysec)
    (h : self.valueFromHumanToMachine ipFromStr val = .ok val') : ∃ i, val = .integer i ∧ val' = .integer i := by
  cases val with
  | integer i => rcases hself with rfl | rfl | rfl <;> exact ⟨i, rfl, (Outcome.ok.inj h).symm⟩
  | _ => rcases hself with rfl | rfl | rfl <;> simp [valueFromHumanToMachine] at h

theorem value_text {self : RendezvousVariable} (hself : self = .dns ∨ self = .wifiSsid ∨ self = .wifiPw)
    (h : self.valueFromHumanToMachine ipFromStr val = .ok val') : ∃ t, val = .text t ∧ val' = .text t := by
  cases val with
  | text t => rcases hself with rfl | rfl | rfl <;> exact ⟨t, rfl, (Outcome.ok.inj h).symm⟩
  | _ => rcases hself with rfl | rfl | rfl <;> simp [valueFromHumanToMachine] at h

theorem value_protocol (h : valueFromHumanToMachine ipFromStr .protocol val = .ok val') :
    ∃ t p, val = .text t ∧ RendezvousProtocolValue.fromStr t = .ok p ∧ val' = .integer p.toU8 := by
  cases val with
  | text t =>
      obtain ⟨p, hp, hval'⟩ := Outcome.bind_eq_ok.mp h
      exact ⟨t, p, rfl, hp, (Outcome.ok.inj hval').symm⟩
  | _ => simp [valueFromHumanToMachine] at h

theorem value_ipAddress (h : valueFromHumanToMachine ipFromStr .ipAddress val = .ok val') :
    ∃ t a, val = .text t ∧ ipFromStr t = some a ∧ val' = .bytes a.octets := by
  cases val with
  | text t =>
      obtain ⟨a, ha, hval'⟩ := Outcome.bind_eq_ok.mp h
      exact ⟨t, a, rfl, Outcome.ofOption_eq_ok.mp ha, (Outcome.ok.inj hval').symm⟩
  | _ => simp [valueFromHumanToMachine] at h

end

end RendezvousVariable

/-! ## `RendezvousInfo` -/

abbrev RendezvousInstruction := RendezvousVariable × Bytes

abbrev RendezvousDirective := List RendezvousInstruction

abbrev RendezvousInfo := List RendezvousDirective

namespace RendezvousInfo

def newDirective (codec : Codec CborValue) :
    List (RendezvousVariable × CborValue) → Outcome Error RendezvousDirective
  | [] => .ok []
  | (var, value) :: directive => do
    let value ← codec.serializeData value
    let rest ← newDirective codec directive
    .ok ((var, value) :: rest)

def new (codec : Codec CborValue) :
    List (List (RendezvousVariable × CborValue)) → Outcome Error RendezvousInfo
  | [] => .ok []
  | directive :: directives => do
    let directive ← newDirective codec directive
    let rest ← new codec directives
    .ok (directive :: rest)

theorem newDirective_cons {codec : Codec CborValue} {m : RendezvousVariable × CborValue}
    {ms : List (RendezvousVariable × CborValue)} {directive : RendezvousDirective}
    (h : newDirective codec (m :: ms) = .ok directive) :
    ∃ data rest, codec.intoWriter m.2 = some data ∧ newDirective codec ms = .ok rest ∧
      directive = (m.1, data) :: rest := by
  obtain ⟨data, hdata, h₁⟩ := Outcome.bind_eq_ok.mp h
  obtain ⟨rest, hrest, h₂⟩ := Outcome.bind_eq_ok.mp h₁
  exact ⟨data, rest, Codec.serializeData_eq_ok.mp hdata, hrest, (Outcome.ok.inj h₂).symm⟩

end RendezvousInfo

/-! ## Interpretation -/

inductive RendezvousInterpreterSide where
  | device
  | owner
  deriving DecidableEq, Repr

structure RendezvousInterpretedDirective where
  ipAddresses : Option (List IpAddr)
  dnsName : Option (List Char)
  port : Nat
  serverCertificateHash : Option Hash
  caCertificateHash : Option Hash
  userInput : Bool
  wifiSsid : Option (List Char)
  wifiPassword : Option (List Char)
  medium : Option Nat
  protocol : RendezvousProtocolValue
  delay : Nat
  bypass : Bool

/-! `from_value` at the types of the variables. -/
namespace FromValue

def unsigned (bits : Nat) : CborValue → Outcome Error Nat
  | .integer i => if 0 ≤ i ∧ i < 2 ^ bits then .ok i.toNat else .err .serdeCborError
  | _ => .err .serdeCborError

/-- A text, or bytes that are one. -/
def string : CborValue → Outcome Error (List Char)
  | .text t => .ok t
  | .bytes v => (Outcome.ofOption .serdeCborError (String.fromUTF8? v.toByteArray)).bind fun t => .ok t.toList
  | _ => .err .serdeCborError

def protocol : CborValue → Outcome Error RendezvousProtocolValue
  | .integer i => .ofOption .serdeCborError (RendezvousProtocolValue.ofInt i)
  | _ => .err .serdeCborError

def ipAddress : CborValue → Outcome Error IpAddr
  | .bytes v => if h : v.length = 4 ∨ v.length = 16 then .ok ⟨v, h⟩ else .err .serdeCborError
  | _ => .err .serdeCborError

def hashType : CborValue → Option HashType
  | .integer t => [HashType.sha256, .sha384, .hmacSha256, .hmacSha384].find? fun h => h.toI8 == t
  | _ => none

/-- `serde_bytes` also takes a text, and a list of numbers. -/
def byteBuf : CborValue → Option Bytes
  | .bytes v => some v
  | .text t => some (Utf8.encode t)
  | .array items => items.mapM fun
    | .integer i => if 0 ≤ i ∧ i < 2 ^ 8 then some (UInt8.ofNat i.toNat) else none
    | _ => none
  | _ => none

/-- The field of a `Hash` that a key stands for, by its name or its number; others are skipped. -/
def hashField : CborValue → Option Nat
  | .text t => some (if t = "hash_type".toList then 0 else if t = "value".toList then 1 else 2)
  | .bytes v =>
    some (if v = Utf8.encode "hash_type".toList then 0 else if v = Utf8.encode "value".toList then 1 else 2)
  | .integer i => if 0 ≤ i then some i.toNat else none
  | _ => none

/-- An array of both fields, or a map with each of them once. -/
def hashFields : CborValue → Option (CborValue × CborValue)
  | .array [hashType, value] => some (hashType, value)
  | .map items => do
    let fields ← items.mapM fun item => (hashField item.1).map fun field => (field, item.2)
    match fields.filter (·.1 = 0), fields.filter (·.1 = 1) with
    | [(_, hashType)], [(_, value)] => some (hashType, value)
    | _, _ => none
  | _ => none

def hash (value : CborValue) : Outcome Error Hash := .ofOption .serdeCborError do
  let (fieldType, fieldValue) ← hashFields value
  let hashType ← hashType fieldType
  let value ← byteBuf fieldValue
  some ⟨hashType, value⟩

end FromValue

namespace RendezvousInterpretedDirective

/-- The variables of the loop in `from_rv_directive`. -/
structure Draft where
  ipAddresses : List IpAddr
  dnsName : Option (List Char)
  port : Option Nat
  serverCertificateHash : Option Hash
  caCertificateHash : Option Hash
  userInput : Bool
  wifiSsid : Option (List Char)
  wifiPassword : Option (List Char)
  medium : Option Nat
  protocol : RendezvousProtocolValue
  delay : Nat
  bypass : Bool

def Draft.start : Draft :=
  ⟨[], none, none, none, none, false, none, none, none, .tls, 0, false⟩

/-- One instruction; nothing is left of a directive for the other side. -/
def take (side : RendezvousInterpreterSide) (draft : Draft) (var : RendezvousVariable) (value : CborValue) :
    Outcome Error (Option Draft) :=
  match var with
  | .deviceOnly => .ok (if side = .device then some draft else none)
  | .ownerOnly => .ok (if side = .owner then some draft else none)
  | .ipAddress => do
    let address ← FromValue.ipAddress value
    .ok (some { draft with ipAddresses := draft.ipAddresses ++ [address] })
  | .devicePort =>
    if side = .device then do
      let port ← FromValue.unsigned 32 value
      .ok (some { draft with port := some port })
    else .ok (some draft)
  | .ownerPort =>
    if side = .owner then do
      let port ← FromValue.unsigned 32 value
      .ok (some { draft with port := some port })
    else .ok (some draft)
  | .dns => do
    let name ← FromValue.string value
    .ok (some { draft with dnsName := some name })
  | .serverCertHash =>
    if side = .device then do
      let hash ← FromValue.hash value
      .ok (some { draft with serverCertificateHash := some hash })
    else .ok (some draft)
  | .caCertHash =>
    if side = .device then do
      let hash ← FromValue.hash value
      .ok (some { draft with caCertificateHash := some hash })
    else .ok (some draft)
  | .userInput => .ok (some (if side = .device then { draft with userInput := true } else draft))
  | .wifiSsid =>
    if side = .device then do
      let ssid ← FromValue.string value
      .ok (some { draft with wifiSsid := some ssid })
    else .ok (some draft)
  | .wifiPw =>
    if side = .device then do
      let password ← FromValue.string value
      .ok (some { draft with wifiPassword := some password })
    else .ok (some draft)
  | .medium =>
    if side = .device then do
      let medium ← FromValue.unsigned 8 value
      .ok (some { draft with medium := some medium })
    else .ok (some draft)
  | .protocol => do
    let protocol ← FromValue.protocol value
    .ok (some { draft with protocol := protocol })
  | .delaysec => do
    let delay ← FromValue.unsigned 32 value
    .ok (some { draft with delay := delay })
  | .bypass => .ok (if side = .device then some { draft with bypass := true } else none)

def takeAll (codec : Codec CborValue) (side : RendezvousInterpreterSide) :
    Draft → RendezvousDirective → Outcome Error (Option Draft)
  | draft, [] => .ok (some draft)
  | draft, (var, value) :: rest => do
    let value ← codec.deserializeData value
    match ← take side draft var value with
    | none => .ok none
    | some draft => takeAll codec side draft rest

/-- A port that is not configured is the one of the protocol. -/
def finish (draft : Draft) : Outcome Error RendezvousInterpretedDirective := do
  let port ← Outcome.ofOption Error.serdeCborError (draft.port.or draft.protocol.defaultPort)
  .ok
    { draft with
      ipAddresses := if draft.ipAddresses.isEmpty then none else some draft.ipAddresses
      port := port }

def fromRvDirective (codec : Codec CborValue) (info : RendezvousDirective) (side : RendezvousInterpreterSide) :
    Outcome Error (Option RendezvousInterpretedDirective) := do
  match ← takeAll codec side .start info with
  | none => .ok none
  | some draft =>
    let directive ← finish draft
    .ok (some directive)

end RendezvousInterpretedDirective

def RendezvousInfo.toInterpreted (codec : Codec CborValue) (side : RendezvousInterpreterSide) :
    RendezvousInfo → Outcome Error (List RendezvousInterpretedDirective)
  | [] => .ok []
  | directive :: directives => do
    match ← RendezvousInterpretedDirective.fromRvDirective codec directive side with
    | none => toInterpreted codec side directives
    | some interpreted =>
      let rest ← toInterpreted codec side directives
      .ok (interpreted :: rest)

end FidoOnboard
