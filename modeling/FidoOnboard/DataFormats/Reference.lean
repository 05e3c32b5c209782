import FidoOnboard.Base.Wire
import FidoOnboard.DataFormats.CborExact
import FidoOnboard.DataFormats.KeyAgreement
import FidoOnboard.DataFormats.Platform

/-!
# A platform that meets the laws

The CBOR written here is the one the libraries write. Digests, keys, certificates
and signatures are short stand-ins with the shape of the real ones: a signature
is a keyed digest, and the public key of a private key is the same byte string.
-/
namespace FidoOnboard.Reference
open CborParser

/-- A polynomial in the bytes, cut to the length of the digest. -/
def digest (md : MessageDigest) (data : Bytes) : Bytes :=
  let width := match md with
    | .sha256 => 32
    | .sha384 => 48
  BigEndian.toBe width (data.foldl (fun acc b => (acc * 257 + b.toNat + 1) % 256 ^ width) 7)

def hashTypes : List HashType := [.sha256, .sha384, .hmacSha256, .hmacSha384]

def publicKeyTypes : List PublicKeyType := [.rsa2048RESTR, .rsaPkcs, .rsaPss, .secp256R1, .secp384R1]

def publicKeyEncodings : List PublicKeyEncoding := [.crypto, .x509, .x5chain, .cosekey]

def hashTypeWire : Wire HashType :=
  Wire.int.via HashType.toI8 fun n => hashTypes.find? (·.toI8 = n)

/-- A two-element array. -/
def hashWire : Wire Hash :=
  ((hashTypeWire.seq (Wire.string 2)).framed [0x82]).via (fun h => (h.hashType, h.value))
    fun (t, v) => some ⟨t, v⟩

def publicKeyTypeWire : Wire PublicKeyType :=
  Wire.int.via PublicKeyType.toI16 fun n => publicKeyTypes.find? (·.toI16 = n)

def publicKeyEncodingWire : Wire PublicKeyEncoding :=
  (Wire.head 0).via PublicKeyEncoding.toU8 fun n => publicKeyEncodings.find? (·.toU8 = n)

def publicKeyFieldsWire : Wire PublicKeyFields :=
  ((publicKeyTypeWire.seq (publicKeyEncodingWire.seq (Wire.string 2))).framed [0x83]).via
    (fun k => (k.keyType, k.encoding, k.data)) fun (t, e, d) => some ⟨t, e, d⟩

/-- `null`, or a map from numbers to byte strings. -/
def extraWire : Wire ExtraType :=
  (Wire.counted 5 (Wire.u128.seq (Wire.string 2))).optional 0xf6

def entryPayloadFieldsWire : Wire EntryPayloadFields :=
  ((hashWire.seq (hashWire.seq (extraWire.seq publicKeyFieldsWire))).framed [0x84]).via
    (fun p => (p.hashPreviousEntry, p.hashHeaderInfo, p.extra, p.publicKey))
    fun (prev, info, extra, key) => some ⟨prev, info, extra, key⟩

def protocolVersionWire : Wire ProtocolVersion :=
  (Wire.head 0).via ProtocolVersion.toU16 fun n =>
    [ProtocolVersion.version1_0, .version1_1].find? (·.toU16 = n)

def textWire : Wire String :=
  (Wire.string 3).via asBytes fun bs => String.fromUTF8? ⟨bs.toArray⟩

/-- An unsigned number of at most `bits` bits. -/
def uintWire (bits : Nat) : Wire Nat :=
  (Wire.head 0).via id fun n => if n < 2 ^ bits then some n else none

def deviceSigTypes : List DeviceSigType :=
  [.stSECP256R1, .stSECP384R1, .stRSA2048, .stRSA3072, .stEPID10, .stEPID11, .stEPID20]

def sigInfoWire : Wire SigInfo :=
  (((Wire.int.via DeviceSigType.toI16 fun n => deviceSigTypes.find? (·.toI16 = n)).seq
      (Wire.string 2)).framed [0x82]).via (fun s => (s.sigType, s.info)) fun (t, i) => some ⟨t, i⟩

def kexSuiteWire : Wire KexSuite :=
  textWire.via KexSuite.toString fun s =>
    [KexSuite.ecdh256, .ecdh384, .dhkexId14, .dhkexId15].find? (·.toString = s)

def cipherSuiteWire : Wire CipherSuite :=
  Wire.int.via CipherSuite.toI32 fun n => [CipherSuite.a128Gcm, .a256Gcm].find? (·.toI32 = n)

def helloDeviceWire : Wire HelloDeviceFields :=
  (((uintWire 16).seq ((Wire.string 2).seq ((Wire.string 2).seq (kexSuiteWire.seq
      (cipherSuiteWire.seq sigInfoWire))))).framed [0x86]).via
    (fun h => (h.maxDeviceMessageSize, h.guid, h.nonce5, h.kexSuite, h.cipherSuite, h.aSignatureInfo))
    fun (size, guid, nonce5, kex, cipher, sig) => some ⟨size, guid, nonce5, kex, cipher, sig⟩

def messageTypes : List MessageType :=
  [.invalid, .diAppStart, .diSetCredentials, .diSetHMAC, .diDone, .to0Hello, .to0HelloAck,
    .to0OwnerSign, .to0AcceptOwner, .to1HelloRV, .to1HelloRVAck, .to1ProveToRV, .to1RVRedirect,
    .to2HelloDevice, .to2ProveOVHdr, .to2GetOVNextEntry, .to2OVNextEntry, .to2ProveDevice,
    .to2SetupDevice, .to2DeviceServiceInfoReady, .to2OwnerServiceInfoReady, .to2DeviceServiceInfo,
    .to2OwnerServiceInfo, .to2Done, .to2Done2, .diunConnect, .diunAccept, .diunRequestKeyParameters,
    .diunProvideKeyParameters, .diunProvideKey, .diunDone, .error]

def errorCodes : List ErrorCode :=
  [.invalidOwnershipVoucher, .invalidOwnerSignBody, .invalidIPAddress, .invalidGUID,
    .resourceNotFound, .messageBodyError, .invalidMessageError, .credReuseError, .internalServerError]

/-- The timestamp is always `null`. -/
def errorMessageWire : Wire ErrorMessage :=
  ((((uintWire 16).via ErrorCode.toU16 fun n => errorCodes.find? (·.toU16 = n)).seq
      (((uintWire 8).via MessageType.toU8 fun n => messageTypes.find? (·.toU8 = n)).seq
        (textWire.seq (Wire.u128.framed [0xf6])))).framed [0x85]).via
    (fun e => (e.errorCode, e.previousMessageType, e.errorString, e.errorUuid))
    fun (code, previous, text, uuid) => some ⟨code, previous, text, uuid⟩

def boolWire : Wire Bool where
  write b := [if b then 0xf5 else 0xf4]
  read
    | 0xf5 :: data => some (true, data)
    | 0xf4 :: data => some (false, data)
    | _ => none

inductive Scalar where
  | integer (value : Int)
  | bytes (value : Bytes)
  | text (value : String)
  | bool (value : Bool)
  deriving DecidableEq, Repr

/-- The values that headers, claims and service info carry: nothing nests deeper. -/
inductive Value where
  | scalar (value : Scalar)
  | array (items : List Scalar)
  deriving DecidableEq, Repr

def scalarWire : Wire Scalar where
  write
    | .integer value => Wire.int.write value
    | .bytes value => (Wire.string 2).write value
    | .text value => textWire.write value
    | .bool value => boolWire.write value
  read data :=
    match Wire.int.read data with
    | some (value, data) => some (.integer value, data)
    | none =>
      match (Wire.string 2).read data with
      | some (value, data) => some (.bytes value, data)
      | none =>
        match textWire.read data with
        | some (value, data) => some (.text value, data)
        | none => do
          let (value, data) ← boolWire.read data
          some (.bool value, data)

def valueWire : Wire Value where
  write
    | .scalar value => scalarWire.write value
    | .array items => (Wire.counted 4 scalarWire).write items
  read data :=
    match scalarWire.read data with
    | some (value, data) => some (.scalar value, data)
    | none => do
      let (items, data) ← (Wire.counted 4 scalarWire).read data
      some (.array items, data)

def valueOfPublicKeyFields (k : PublicKeyFields) : Value :=
  .array [.integer k.keyType.toI16, .integer (Int.ofNat k.encoding.toU8), .bytes k.data]

def valueToPublicKeyFields : Value → Option PublicKeyFields
  | .array [.integer keyType, .integer encoding, .bytes data] => do
    let keyType ← publicKeyTypes.find? (·.toI16 = keyType)
    let encoding ← publicKeyEncodings.find? fun e => Int.ofNat e.toU8 = encoding
    some ⟨keyType, encoding, data⟩
  | _ => none

def rendezvousInfoWire : Wire (List (List Bytes)) := Wire.counted 4 (Wire.counted 4 (Wire.string 2))

def setupDeviceWire : Wire (SetupDeviceFields (List (List Bytes))) :=
  ((rendezvousInfoWire.seq ((Wire.string 2).seq ((Wire.string 2).seq publicKeyFieldsWire))).framed
      [0x84]).via (fun f => (f.rendezvousInfo, f.guid, f.nonce7, f.owner2Key))
    fun (info, guid, nonce7, key) => some ⟨info, guid, nonce7, key⟩

def serviceInfoWire : Wire (List (String × Bytes)) :=
  Wire.counted 4 ((textWire.seq (Wire.string 2)).framed [0x82])

/-- Symmetric in its arguments, as a shared secret has to be. -/
def mix (a b : Bytes) : Bytes := List.zipWith (· ^^^ ·) a b

structure CoseSign1 where
  protectedHeader : Bytes
  unprotectedHeader : List (Int × Value)
  payload : Bytes
  signature : Bytes
  deriving DecidableEq, Repr

def coseWire : Wire CoseSign1 :=
  (((Wire.string 2).seq ((Wire.counted 5 (Wire.int.seq valueWire)).seq
      ((Wire.string 2).seq (Wire.string 2)))).framed [0x84]).via
    (fun c => (c.protectedHeader, c.unprotectedHeader, c.payload, c.signature))
    fun (p, u, b, s) => some ⟨p, u, b, s⟩

/-- The ES256 algorithm identifier as protected header. -/
def es256 : Bytes := [0xa1, 0x01, 0x26]

def signature (key protectedHeader payload : Bytes) : Bytes :=
  let d := digest .sha256 (key ++ protectedHeader ++ payload)
  d ++ d

/-- The protected header that the nonce of an Accept is added to. -/
def protectedWire : Wire (List (Int × Value)) := Wire.counted 5 (Wire.int.seq valueWire)

/-- A `Vec<u8>` without `serde_bytes`: one number for each byte. -/
def numbersWire : Wire Bytes :=
  Wire.counted 4 ((Wire.head 0).via UInt8.toNat fun n => if n < 256 then some (UInt8.ofNat n) else none)

def connectWire : Wire ConnectFields :=
  (((Wire.string 2).seq (kexSuiteWire.seq (cipherSuiteWire.seq numbersWire))).framed [0x84]).via
    (fun c => (c.nonceDiun1, c.kexSuite, c.cipherSuite, c.keyExchange))
    fun (nonce, kex, cipher, key) => some ⟨nonce, kex, cipher, key⟩

def keyStorageTypeWire : Wire KeyStorageType :=
  Wire.int.via KeyStorageType.toI8 fun n => [KeyStorageType.fileSystem, .tpm].find? (·.toI8 = n)

def mfgStringTypeWire : Wire MfgStringType :=
  (Wire.head 0).via MfgStringType.toU8 fun n =>
    [MfgStringType.serialNumber, .macAddress].find? (·.toU8 = n)

def emptyWire : Wire Unit where
  write _ := [0x80]
  read
    | 0x80 :: data => some ((), data)
    | _ => none

/-- The library encodes nothing that a `Vec` cannot hold. -/
def codec {α : Type} (w : Wire α) : Codec α where
  fromSlice := w.fromSlice
  intoWriter value := if (w.write value).length ≤ isizeMax then some (w.write value) else none

def nonEmpty (data : Bytes) : Option Bytes := if data = [] then none else some data

/-- A certificate is the first byte of its issuer's key followed by the key it certifies. -/
def reference (profile : Profile) : Platform where
  profile
  PKey := Bytes
  PrivateKey := Bytes
  X509 := Bytes
  CoseSign1 := CoseSign1
  Value := Value
  Json := String
  RendezvousInfo := List (List Bytes)
  To2Addresses := List Bytes
  hash md data := some (digest md data)
  hmac md secret data := some (digest md (secret ++ data))
  tpmHmac _ _ _ := none
  publicEq a b := decide (a = b)
  publicPart key := key
  privateKeyToDer := nonEmpty
  publicKeyFromDer := nonEmpty
  publicKeyToDer := nonEmpty
  pkeyId _ := .ec
  pkeyCurve _ := some (some .x9_62Prime256V1)
  pkeyBits _ := 256
  x509FromDer := nonEmpty
  x509ToDer := nonEmpty
  x509PublicKey cert := nonEmpty cert.tail
  x509Digest cert md := some (digest md cert)
  x509Issued issuer cert := decide (cert.head? = issuer.tail.head?)
  x509Verify cert key := some (decide (cert.head? = key.head?))
  x509Build _ signerKey _ key _ _ := if key = [] then none else some (signerKey.headD 0 :: key)
  coseFromBytes := (coseWire.framed [0xd2]).fromSlice
  coseNew payload unprotectedHeader key :=
    if payload.length ≤ isizeMax then
      some ⟨es256, unprotectedHeader, payload, signature key es256 payload⟩
    else none
  coseNewWithProtected payload protectedHeader unprotectedHeader key :=
    let protectedHeader := protectedWire.write ((1, .scalar (.integer (-7))) :: protectedHeader)
    if payload.length ≤ isizeMax then
      some ⟨protectedHeader, unprotectedHeader, payload, signature key protectedHeader payload⟩
    else none
  coseIntoWriter := (codec coseWire).intoWriter
  verifySignature c key := some (decide (c.signature = signature key c.protectedHeader c.payload))
  getPayload c key :=
    match key with
    | none => some c.payload
    | some key =>
      if c.signature = signature key c.protectedHeader c.payload then some c.payload else none
  getUnprotected c key := c.unprotectedHeader.lookup key
  getProtected c key header :=
    if c.signature = signature key c.protectedHeader c.payload then
      (protectedWire.fromSlice c.protectedHeader).map (List.lookup header)
    else none
  coseEncrypt key plaintext := some (0xd0 :: digest .sha256 (key ++ plaintext) ++ plaintext)
  coseDecrypt key ciphertext :=
    let plaintext := ciphertext.drop 33
    if ciphertext = 0xd0 :: digest .sha256 (key ++ plaintext) ++ plaintext then some plaintext else none
  ecPublic _ key := some (digest .sha256 key, digest .sha256 (digest .sha256 key))
  ecShared _ key x _ := some (some (mix (digest .sha256 key) x))
  dhPublic _ key := some (digest .sha256 key)
  dhShared _ key other := some (mix (digest .sha256 key) other)
  kdf interoperable md label info key len :=
    some ((digest md ((if interoperable then 1 else 0) :: label ++ info ++ key)).take len)
  idFromCookieValue := some
  valueFromSlice := valueWire.fromSlice
  valueToBytes
    | .scalar (.bytes value) => some value
    | _ => none
  valueToText
    | .scalar (.text value) => some value
    | _ => none
  valueToList
    | .array items => some (items.map .scalar)
    | _ => none
  valueToPublicKeyFields
  valueToProveDevicePayload
    | .array [.bytes value] => some value
    | _ => none
  valueOfBytes value := some (.scalar (.bytes value))
  valueOfPublicKeyFields k := some (valueOfPublicKeyFields k)
  jsonAsStr := some
  jsonIntoWriter := (codec textWire).intoWriter
  emptyRendezvousInfo := []
  bool := codec boolWire
  byteBuf := codec (Wire.string 2)
  text := codec textWire
  protocolVersion := codec protocolVersionWire
  hashCodec := codec hashWire
  optionHash := codec (hashWire.optional 0xf6)
  bstr16 := codec (Wire.string 2)
  rendezvousInfo := codec rendezvousInfoWire
  publicKeyFields := codec publicKeyFieldsWire
  certificates := codec (Wire.counted 4 (Wire.string 2))
  optionCertificates := codec ((Wire.counted 4 (Wire.string 2)).optional 0xf6)
  entryPayloadFields := codec entryPayloadFieldsWire
  headerMap := codec (Wire.counted 5 (Wire.int.seq valueWire))
  u16 := codec (uintWire 16)
  u32 := codec (uintWire 32)
  sigInfo := codec sigInfoWire
  helloDevice := codec helloDeviceWire
  getOVNextEntry := codec ((uintWire 8).framed [0x81])
  setupDevicePayload := codec setupDeviceWire
  deviceServiceInfoReady :=
    codec (((hashWire.optional 0xf6).seq ((uintWire 64).optional 0xf6)).framed [0x82])
  ownerServiceInfoReady := codec (((uintWire 64).optional 0xf6).framed [0x81])
  deviceServiceInfo := codec ((boolWire.seq serviceInfoWire).framed [0x82])
  ownerServiceInfo := codec ((boolWire.seq (boolWire.seq serviceInfoWire)).framed [0x83])
  oneNonce := codec ((Wire.string 2).framed [0x81])
  hello := codec ((Wire.counted 4 (Wire.string 2)).via (fun _ => []) fun _ => some ())
  acceptOwner := codec ((uintWire 32).framed [0x81])
  to1DataPayload := codec (((Wire.counted 4 (Wire.string 2)).seq hashWire).framed [0x82])
  helloRV := codec (((Wire.string 2).seq sigInfoWire).framed [0x82])
  helloRVAck := codec (((Wire.string 2).seq sigInfoWire).framed [0x82])
  errorMessage := codec errorMessageWire
  connect := codec connectWire
  acceptPayload := codec (numbersWire.framed [0x81])
  requestKeyParameters := codec ((textWire.optional 0xf6).framed [0x81])
  provideKeyParameters := codec ((publicKeyTypeWire.seq
    ((Wire.counted 4 keyStorageTypeWire).optional 0xf6)).framed [0x82])
  provideKey := codec ((numbersWire.seq keyStorageTypeWire).framed [0x82])
  diunDone := codec (mfgStringTypeWire.framed [0x81])
  appStart := codec ((Wire.string 2).framed [0x81])
  setHmac := codec (hashWire.framed [0x81])
  diDone := codec emptyWire

theorem coseLaws (profile : Profile) : CoseLaws (reference profile) where
  getPayload_key := by
    intro c key payload
    simp only [reference, Option.ite_none_right_eq_some, Option.some.injEq, decide_eq_true_eq]

/-! ## The codecs read back what they write -/

theorem codec_faithful {α : Type} {w : Wire α}
    (h : ∀ a, (w.write a).length ≤ isizeMax → w.ReadsBack a) : (codec w).Faithful := by
  intro value data hwrite
  simp only [codec, Option.ite_none_right_eq_some, Option.some.injEq] at hwrite
  obtain ⟨hlen, rfl⟩ := hwrite
  exact (h value hlen).fromSlice

theorem string_faithful {major : Nat} (hm : major < 8) : (codec (Wire.string major)).Faithful := by
  apply codec_faithful
  intro bs hlen
  apply Wire.readsBack_string hm
  simp only [Wire.string, List.length_append, isizeMax] at hlen
  omega

theorem readsBack_text {s : String} (hlen : (asBytes s).length < 2 ^ 64) : textWire.ReadsBack s := by
  refine (Wire.readsBack_string (by decide) hlen).via ?_
  have hvalid : (⟨(asBytes s).toArray⟩ : ByteArray).IsValidUTF8 := s.isValidUTF8
  rw [String.fromUTF8?, dif_pos hvalid]
  rfl

theorem text_faithful : (codec textWire).Faithful := by
  apply codec_faithful
  intro s hlen
  apply readsBack_text
  simp only [textWire, Wire.via, Wire.string, List.length_append, isizeMax] at hlen
  omega

theorem readsBack_hashType (t : HashType) : hashTypeWire.ReadsBack t := by
  have hint : Wire.int.ReadsBack t.toI8 := by
    cases t with
    | sha256 => exact Wire.readsBack_negSucc (n := 15) (by decide)
    | sha384 => exact Wire.readsBack_negSucc (n := 42) (by decide)
    | hmacSha256 => exact Wire.readsBack_ofNat (n := 5) (by decide)
    | hmacSha384 => exact Wire.readsBack_ofNat (n := 6) (by decide)
  apply hint.via
  cases t <;> rfl

theorem readsBack_hash {h : Hash} (hlen : h.value.length < 2 ^ 64) : hashWire.ReadsBack h := by
  refine Wire.ReadsBack.via (Wire.ReadsBack.framed ?_) rfl
  exact (readsBack_hashType h.hashType).seq (Wire.readsBack_string (by decide) hlen)

theorem readsBack_publicKeyType (t : PublicKeyType) : publicKeyTypeWire.ReadsBack t := by
  have hint : Wire.int.ReadsBack t.toI16 := by
    cases t with
    | rsa2048RESTR => exact Wire.readsBack_ofNat (n := 1) (by decide)
    | rsaPkcs => exact Wire.readsBack_ofNat (n := 5) (by decide)
    | rsaPss => exact Wire.readsBack_ofNat (n := 6) (by decide)
    | secp256R1 => exact Wire.readsBack_ofNat (n := 10) (by decide)
    | secp384R1 => exact Wire.readsBack_ofNat (n := 11) (by decide)
  apply hint.via
  cases t <;> rfl

theorem readsBack_publicKeyEncoding (e : PublicKeyEncoding) : publicKeyEncodingWire.ReadsBack e := by
  have hint : (Wire.head 0).ReadsBack e.toU8 := by
    apply Wire.readsBack_head (by decide)
    cases e <;> decide
  apply hint.via
  cases e <;> rfl

theorem readsBack_publicKeyFields {k : PublicKeyFields} (hlen : k.data.length < 2 ^ 64) :
    publicKeyFieldsWire.ReadsBack k := by
  refine Wire.ReadsBack.via (Wire.ReadsBack.framed ?_) rfl
  exact (readsBack_publicKeyType k.keyType).seq ((readsBack_publicKeyEncoding k.encoding).seq
    (Wire.readsBack_string (by decide) hlen))

theorem extraWeight_value {m : List (Nat × Bytes)} {e : Nat × Bytes} (h : e ∈ m) :
    e.2.length + 18 ≤ extraWeight (some m) := by
  induction m with
  | nil => cases h
  | cons a m ih =>
      simp only [extraWeight, Option.getD_some, List.map_cons, List.sum_cons] at ih ⊢
      rcases List.mem_cons.mp h with rfl | h
      · omega
      · have := ih h
        omega

theorem extraWeight_length (m : List (Nat × Bytes)) : m.length ≤ extraWeight (some m) := by
  induction m with
  | nil => simp
  | cons e m ih =>
      simp only [extraWeight, Option.getD_some, List.map_cons, List.sum_cons, List.length_cons] at ih ⊢
      omega

/-- A map does not start like `null`. -/
theorem extra_head_ne (m : List (Nat × Bytes)) :
    ((Wire.counted 5 (Wire.u128.seq (Wire.string 2))).write m).head? ≠ some 0xf6 := by
  have hinfo := @Wire.info_le m.length
  simp only [Wire.counted, Wire.head, List.cons_append, List.head?_cons, Option.some.injEq, ne_eq,
    ← UInt8.toNat_inj, UInt8.toNat_ofNat']
  change ¬ (32 * 5 + Wire.info m.length) % 2 ^ 8 = 246
  omega

theorem readsBack_extra {extra : ExtraType} (hkeys : ExtraKeysFit extra)
    (hweight : extraWeight extra < 2 ^ 61) : extraWire.ReadsBack extra := by
  cases extra with
  | none => exact Wire.readsBack_none
  | some m =>
      have hlen := extraWeight_length m
      refine Wire.ReadsBack.present (Wire.readsBack_counted (by decide) (by omega) ?_) ?_ ?_
      · intro e he
        have hvalue := extraWeight_value he
        exact (Wire.readsBack_u128 (hkeys m rfl e he)).seq (Wire.readsBack_string (by decide) (by omega))
      · exact List.cons_ne_nil _ _
      · exact extra_head_ne m

/-! ## Lengths -/

theorem head_length_le (major n : Nat) : ((Wire.head major).write n).length ≤ 9 := by
  have hw : Wire.width (Wire.info n) ≤ 8 := by
    unfold Wire.width
    split <;> decide
  simp only [Wire.head, List.length_cons, BigEndian.toBe_length]
  omega

theorem string_length_le (major : Nat) (bs : Bytes) :
    ((Wire.string major).write bs).length ≤ bs.length + 9 := by
  have := head_length_le major bs.length
  simp only [Wire.string, List.length_append]
  omega

theorem int_length_le (n : Int) : (Wire.int.write n).length ≤ 9 := by
  cases n with
  | ofNat n => exact head_length_le 0 n
  | negSucc n => exact head_length_le 1 n

theorem hash_length_le (h : Hash) : (hashWire.write h).length ≤ h.value.length + 19 := by
  have h₁ := int_length_le h.hashType.toI8
  have h₂ := string_length_le 2 h.value
  simp only [hashWire, hashTypeWire, Wire.via, Wire.framed, Wire.seq, List.length_append,
    List.length_cons, List.length_nil]
  omega

theorem publicKeyFields_length_le (k : PublicKeyFields) :
    (publicKeyFieldsWire.write k).length ≤ k.data.length + 28 := by
  have h₁ := int_length_le k.keyType.toI16
  have h₂ := head_length_le 0 k.encoding.toU8
  have h₃ := string_length_le 2 k.data
  simp only [publicKeyFieldsWire, publicKeyTypeWire, publicKeyEncodingWire, Wire.via, Wire.framed,
    Wire.seq, List.length_append, List.length_cons, List.length_nil]
  omega

theorem plain_length_le {n : Nat} (hn : n < 2 ^ 64) : (Wire.u128.write n).length ≤ 9 := by
  simp only [Wire.u128, if_pos hn]
  exact head_length_le 0 n

theorem u128_length_le (n : Nat) : (Wire.u128.write n).length ≤ 26 := by
  by_cases hn : n < 2 ^ 64
  case pos => exact (plain_length_le hn).trans (by decide)
  case neg =>
    have hstring := string_length_le 2 ((BigEndian.toBe 16 n).dropWhile (· == 0))
    have hdropped := (List.dropWhile_suffix (l := BigEndian.toBe 16 n) (· == 0)).length_le
    rw [BigEndian.toBe_length] at hdropped
    simp only [Wire.u128, if_neg hn, List.length_cons]
    omega

/-- Each key may be longer than a plain one by `k`. -/
theorem extra_length_le {extra : ExtraType} {k : Nat}
    (hkeys : ∀ m ∈ extra, ∀ e ∈ m, (Wire.u128.write e.1).length ≤ 9 + k) :
    (extraWire.write extra).length ≤ extraWeight extra + (extra.getD []).length * k + 9 := by
  cases extra with
  | none => simp [extraWire, Wire.optional, extraWeight]
  | some m =>
      have hhead := head_length_le 5 m.length
      have hitems : ∀ es ⊆ m, (es.flatMap (Wire.u128.seq (Wire.string 2)).write).length ≤
          extraWeight (some es) + es.length * k := by
        intro es hes
        induction es with
        | nil => simp
        | cons e es ih =>
            rw [List.cons_subset] at hes
            have h₁ := hkeys m rfl e hes.1
            have h₂ := string_length_le 2 e.2
            have ih := ih hes.2
            simp only [extraWeight, Option.getD_some, List.map_cons, List.sum_cons, List.flatMap_cons,
              List.length_append, List.length_cons, Nat.succ_mul, Wire.seq] at ih ⊢
            omega
      have hall := hitems m (List.Subset.refl m)
      simp only [extraWire, Wire.optional, Wire.counted, List.length_append, Option.getD_some]
      omega

theorem entryPayloadFields_length_le {f : EntryPayloadFields} {k : Nat}
    (hkeys : ∀ m ∈ f.extra, ∀ e ∈ m, (Wire.u128.write e.1).length ≤ 9 + k) :
    (entryPayloadFieldsWire.write f).length ≤ f.weight + (f.extra.getD []).length * k + 76 := by
  have h₁ := hash_length_le f.hashPreviousEntry
  have h₂ := hash_length_le f.hashHeaderInfo
  have h₃ := extra_length_le hkeys
  have h₄ := publicKeyFields_length_le f.publicKey
  simp only [entryPayloadFieldsWire, Wire.via, Wire.framed, Wire.seq, List.length_append,
    List.length_cons, List.length_nil, EntryPayloadFields.weight]
  omega

theorem readsBack_entryPayloadFields {f : EntryPayloadFields} (hkeys : ExtraKeysFit f.extra)
    (hweight : f.weight < 2 ^ 61) : entryPayloadFieldsWire.ReadsBack f := by
  unfold EntryPayloadFields.weight at hweight
  have hprev : hashWire.ReadsBack f.hashPreviousEntry := readsBack_hash (by omega)
  have hinfo : hashWire.ReadsBack f.hashHeaderInfo := readsBack_hash (by omega)
  have hextra : extraWire.ReadsBack f.extra := readsBack_extra hkeys (by omega)
  have hkey : publicKeyFieldsWire.ReadsBack f.publicKey := readsBack_publicKeyFields (by omega)
  exact Wire.ReadsBack.via (Wire.ReadsBack.framed (hprev.seq (hinfo.seq (hextra.seq hkey)))) rfl

theorem extra_perm_refl (extra : ExtraType) : Option.Rel List.Perm extra extra := by
  cases extra with
  | none => exact .none
  | some m => exact .some (List.Perm.refl m)

theorem voucherLaws (profile : Profile) : VoucherLaws (reference profile) where
  hash_total md data := by
    refine ⟨_, rfl, ?_⟩
    simp only [digest, BigEndian.toBe_length]
    cases md <;> decide
  byteBuf := string_faithful (by decide)
  bstr16 := string_faithful (by decide)
  text := text_faithful
  entryPayload f hkeys hweight := by
    have hlen := entryPayloadFields_length_le (k := 0) fun m hm e he => plain_length_le (hkeys m hm e he)
    refine ⟨entryPayloadFieldsWire.write f, f.extra, if_pos ?_, ?_,
      (readsBack_entryPayloadFields hkeys hweight).fromSlice, extra_perm_refl f.extra⟩
    · unfold isizeMax
      omega
    · omega

/-! ## Tokens -/

theorem head_wire {m : MajorType} {n : Nat} (hn : n < 2 ^ 64) :
    CborGrammar.Head m n ((Wire.head (MajorType.toU8 m).toNat).write n) := by
  rcases Wire.width_info hn with ⟨hw, hi, hle⟩ | ⟨hw, hlt⟩
  · refine ⟨n, [], ?_, .inline hle⟩
    simp only [Wire.head, hw]
    rw [hi]
    rfl
  · refine ⟨Wire.info n, BigEndian.toBe (Wire.width (Wire.info n)) n, rfl, ?_⟩
    have hwide : CborGrammar.argumentWidth (Wire.info n) = some (Wire.width (Wire.info n)) := by
      revert hw
      generalize Wire.info n = i
      unfold Wire.width CborGrammar.argumentWidth
      split <;> simp
    have h : CborGrammar.Argument (Wire.info n) _ (BigEndian.toBe (Wire.width (Wire.info n)) n) :=
      .wide (by rw [BigEndian.toBe_length]; exact hwide)
    rwa [BigEndian.fromBe_toBe hlt] at h

theorem wellFormed_uint {n : Nat} (hn : n < 2 ^ 64) :
    CborGrammar.WellFormed .bounded ((Wire.head 0).write n) :=
  .unsigned (@head_wire .unsigned n hn)

theorem wellFormed_string {bs : Bytes} (h : bs.length ≤ isizeMax) :
    CborGrammar.WellFormed .bounded ((Wire.string 2).write bs) :=
  .byteString (@head_wire .byteString bs.length (by unfold isizeMax at h; omega)) rfl h

theorem readsBack_cose {c : CoseSign1} (hp : c.protectedHeader.length < 2 ^ 64)
    (hu : c.unprotectedHeader = []) (hb : c.payload.length < 2 ^ 64)
    (hs : c.signature.length < 2 ^ 64) : coseWire.ReadsBack c := by
  refine Wire.ReadsBack.via (Wire.ReadsBack.framed ?_) rfl
  refine (Wire.readsBack_string (by decide) hp).seq (.seq ?_
    ((Wire.readsBack_string (by decide) hb).seq (Wire.readsBack_string (by decide) hs)))
  rw [hu]
  exact Wire.readsBack_counted (by decide) (by decide) (by simp)

theorem signature_length (key protectedHeader payload : Bytes) :
    (signature key protectedHeader payload).length = 64 := by
  simp [signature, digest, BigEndian.toBe_length]

/-- Every byte string signs for itself. -/
theorem signsFor (profile : Profile) (key : Bytes) :
    SignsFor (reference profile) key key where
  matching := by simp [reference]
  signs payload hlen := by
    let c : CoseSign1 := ⟨es256, [], payload, signature key es256 payload⟩
    let items : List Bytes := [(Wire.string 2).write es256, [0xa0], (Wire.string 2).write payload,
      (Wire.string 2).write c.signature]
    have hsig : c.signature.length = 64 := signature_length _ _ _
    have hwrite : coseWire.write c = 0x84 :: items.flatten := by
      simp [coseWire, Wire.via, Wire.framed, Wire.seq, items, c, Wire.counted, Wire.head, Wire.info,
        Wire.width, BigEndian.toBe]
    have hback : coseWire.ReadsBack c := 
      readsBack_cose (by simp [c, es256]) rfl (by simp only [c]; omega) (by omega)
    have hsize : (coseWire.write c).length ≤ isizeMax := by
      have h₁ := string_length_le 2 payload
      have h₂ := string_length_le 2 c.signature
      have h₃ := string_length_le 2 es256
      rw [hwrite]
      simp only [items, List.length_cons, List.length_flatten, List.map_cons, List.map_nil,
        List.sum_cons, List.sum_nil, List.length_nil, isizeMax, es256] at h₁ h₂ h₃ ⊢
      omega
    refine ⟨c, items, if_pos (by unfold isizeMax; omega), rfl, ?_, ?_, ?_, by simp [reference, c], rfl⟩
    · intro x hx
      simp only [items, List.mem_cons, List.not_mem_nil, or_false] at hx
      rcases hx with rfl | rfl | rfl | rfl
      · exact wellFormed_string (by decide)
      · exact @CborGrammar.WellFormed.map .bounded 0 [0xa0] [] ⟨0, [], rfl, .inline (by decide)⟩ rfl (by simp)
      · exact wellFormed_string (by unfold isizeMax; omega)
      · exact wellFormed_string (by unfold isizeMax; omega)
    · rw [← hwrite]
      exact if_pos hsize
    · have hframed : (coseWire.framed [0xd2]).ReadsBack c := hback.framed
      have h := hframed.fromSlice
      simp only [Wire.framed, hwrite] at h
      exact h

/-! ## Small messages -/

theorem readsBack_uint {bits n : Nat} (hbits : bits ≤ 64) (hn : n < 2 ^ bits) :
    (uintWire bits).ReadsBack n := by
  have hlt : n < 2 ^ 64 := Nat.lt_of_lt_of_le hn (Nat.pow_le_pow_right (by decide) hbits)
  exact Wire.ReadsBack.via (Wire.readsBack_head (by decide) hlt) (if_pos hn)

theorem uint_write (bits n : Nat) : (uintWire bits).write n = (Wire.head 0).write n := rfl

theorem transferLaws (profile : Profile) : TransferLaws (reference profile) where
  sha256 data := ⟨_, rfl⟩
  getOVNextEntry n hn := by
    have hlen : (((uintWire 8).framed [0x81]).write n).length ≤ 10 := by
      have := head_length_le 0 n
      simp only [Wire.framed, uint_write, List.length_append, List.length_cons, List.length_nil]
      omega
    refine ⟨((uintWire 8).framed [0x81]).write n, if_pos ?_, by omega,
      (readsBack_uint (by decide) hn).framed.fromSlice⟩
    unfold isizeMax
    omega
  u16 n hn := by
    have hlen := head_length_le 0 n
    refine ⟨(uintWire 16).write n, if_pos ?_, ?_, (readsBack_uint (by decide) hn).fromSlice⟩
    · rw [uint_write]
      unfold isizeMax
      omega
    · rw [uint_write]
      exact wellFormed_uint (by omega)

/-! ## The elements of a voucher -/

/-- What a `Vec` can hold is written as one plain item and read back. -/
def PlainWire {α : Type} (w : Wire α) : Prop :=
  ∀ a, (w.write a).length ≤ isizeMax →
    CborGrammar.WellFormed .bounded (w.write a) ∧ w.ReadsBack a

theorem codec_plain {α : Type} {w : Wire α} (h : PlainWire w) : (codec w).Plain := by
  intro value data hwrite
  simp only [codec, Option.ite_none_right_eq_some, Option.some.injEq] at hwrite
  obtain ⟨hlen, rfl⟩ := hwrite
  exact ⟨(h value hlen).1, (h value hlen).2.fromSlice⟩

theorem codec_plainOption {α : Type} {w : Wire α} (h : PlainWire w) :
    (codec (w.optional 0xf6)).PlainOption where
  present value data hwrite := by
    simp only [codec, Option.ite_none_right_eq_some, Option.some.injEq] at hwrite
    obtain ⟨hlen, rfl⟩ := hwrite
    obtain ⟨hwf, hback⟩ := h value hlen
    exact ⟨hwf, (hback.present hwf.ne_nil hwf.head_ne_null).fromSlice⟩
  absent data hwrite := by
    simp only [codec, Option.ite_none_right_eq_some, Option.some.injEq] at hwrite
    obtain ⟨_, rfl⟩ := hwrite
    have hnone : (w.optional 0xf6).ReadsBack none := Wire.readsBack_none
    exact ⟨rfl, hnone.fromSlice⟩
  null data hread := by
    simp only [codec, Wire.fromSlice, Wire.optional] at hread
    by_cases hhead : data.head? = some 0xf6
    · cases data with
      | nil => cases hhead
      | cons b data =>
          obtain rfl := Option.some.inj hhead
          cases data with
          | nil => rfl
          | cons c data => simp at hread
    · cases hr : w.read data with
      | none => simp [hhead, hr] at hread
      | some value =>
          obtain ⟨a, rest⟩ := value
          cases rest <;> simp [hhead, hr] at hread

theorem plain_byteString : PlainWire (Wire.string 2) := by
  intro bs hlen
  have hle : bs.length ≤ isizeMax := by
    simp only [Wire.string, List.length_append] at hlen
    omega
  exact ⟨wellFormed_string hle, Wire.readsBack_string (by decide) (by unfold isizeMax at hle; omega)⟩

theorem plain_text : PlainWire textWire := by
  intro text hlen
  have hle : (asBytes text).length ≤ isizeMax := by
    simp only [textWire, Wire.via, Wire.string, List.length_append] at hlen
    omega
  have hlt : (asBytes text).length < 2 ^ 64 := by
    unfold isizeMax at hle
    omega
  refine ⟨.textString (@head_wire .textString _ hlt) rfl hle, (Wire.readsBack_string (by decide) hlt).via ?_⟩
  have hvalid : (⟨(asBytes text).toArray⟩ : ByteArray).IsValidUTF8 := text.isValidUTF8
  rw [String.fromUTF8?, dif_pos hvalid]
  rfl

/-- Non-negative and negative numbers as they come. -/
theorem wellFormed_int {n : Int} (h : n.natAbs < 2 ^ 64) :
    CborGrammar.WellFormed .bounded (Wire.int.write n) := by
  cases n with
  | ofNat n => exact .unsigned (@head_wire .unsigned n h)
  | negSucc n => exact .negative (@head_wire .negative n (by simp only [Int.natAbs_negSucc] at h; omega))

theorem item_le {α : Type} {w : Wire α} {as : List α} {a : α} (ha : a ∈ as) :
    (w.write a).length ≤ (as.flatMap w.write).length := by
  rw [List.flatMap_def]
  exact (List.sublist_flatten_of_mem (List.mem_map_of_mem ha)).length_le

theorem count_le {α : Type} {w : Wire α} {as : List α} (h : ∀ a ∈ as, w.write a ≠ []) :
    as.length ≤ (as.flatMap w.write).length := by
  induction as with
  | nil => simp
  | cons a as ih =>
      have hpos : 0 < (w.write a).length := List.length_pos_iff.mpr (h a List.mem_cons_self)
      have := ih fun b hb => h b (List.mem_cons_of_mem a hb)
      simp only [List.length_cons, List.flatMap_cons, List.length_append]
      omega

/-- The elements of a list take at least a byte each and are no longer than the list. -/
theorem plain_counted {α : Type} {w : Wire α} (h : PlainWire w) : PlainWire (Wire.counted 4 w) := by
  intro as hlen
  simp only [Wire.counted, List.length_append] at hlen
  have hplain : ∀ a ∈ as, CborGrammar.WellFormed .bounded (w.write a) ∧ w.ReadsBack a := by
    intro a ha
    have := item_le (w := w) ha
    exact h a (by omega)
  have hcount : as.length ≤ (as.flatMap w.write).length :=
    count_le fun a ha => (hplain a ha).1.ne_nil
  have hlt : as.length < 2 ^ 64 := by
    unfold isizeMax at hlen
    omega
  constructor
  · have hflat : as.flatMap w.write = (as.map w.write).flatten := by simp [List.flatMap]
    simp only [Wire.counted, hflat]
    refine .array (@head_wire .array as.length hlt) (List.length_map _) ?_
    intro x hx
    obtain ⟨a, ha, rfl⟩ := List.mem_map.mp hx
    exact (hplain a ha).1
  · exact Wire.readsBack_counted (by decide) hlt fun a ha => (hplain a ha).2

theorem plain_hash : PlainWire hashWire := by
  intro h hlen
  have hvalue : h.value.length ≤ isizeMax := by
    simp only [hashWire, Wire.via, Wire.framed, Wire.seq, Wire.string, List.length_append] at hlen
    omega
  refine ⟨?_, readsBack_hash (by unfold isizeMax at hvalue; omega)⟩
  have htype : CborGrammar.WellFormed .bounded (hashTypeWire.write h.hashType) :=
    wellFormed_int (by cases h.hashType <;> decide)
  have harray := @CborGrammar.WellFormed.array .bounded 2 [0x82]
    [hashTypeWire.write h.hashType, (Wire.string 2).write h.value]
    ⟨2, [], rfl, .inline (by decide)⟩ rfl (by simp [htype, wellFormed_string hvalue])
  simpa [hashWire, Wire.via, Wire.framed, Wire.seq] using harray

theorem plain_publicKeyFields : PlainWire publicKeyFieldsWire := by
  intro k hlen
  have hdata : k.data.length ≤ isizeMax := by
    simp only [publicKeyFieldsWire, Wire.via, Wire.framed, Wire.seq, Wire.string,
      List.length_append] at hlen
    omega
  refine ⟨?_, readsBack_publicKeyFields (by unfold isizeMax at hdata; omega)⟩
  have htype : CborGrammar.WellFormed .bounded (publicKeyTypeWire.write k.keyType) :=
    wellFormed_int (by cases k.keyType <;> decide)
  have hencoding : CborGrammar.WellFormed .bounded (publicKeyEncodingWire.write k.encoding) :=
    wellFormed_uint (by cases k.encoding <;> decide)
  have harray := @CborGrammar.WellFormed.array .bounded 3 [0x83]
    [publicKeyTypeWire.write k.keyType, publicKeyEncodingWire.write k.encoding,
      (Wire.string 2).write k.data]
    ⟨3, [], rfl, .inline (by decide)⟩ rfl (by simp [htype, hencoding, wellFormed_string hdata])
  simpa [publicKeyFieldsWire, Wire.via, Wire.framed, Wire.seq] using harray

theorem plain_protocolVersion : PlainWire protocolVersionWire := by
  intro version _
  refine ⟨wellFormed_uint (by cases version <;> decide), ?_⟩
  apply (Wire.readsBack_head (by decide) (by cases version <;> decide)).via
  cases version <;> rfl

theorem elementLaws (profile : Profile) : ElementLaws (reference profile) where
  protocolVersion := codec_plain plain_protocolVersion
  byteBuf := codec_plain plain_byteString
  bstr16 := codec_plain plain_byteString
  text := codec_plain plain_text
  rendezvousInfo := codec_plain (plain_counted (plain_counted plain_byteString))
  publicKeyFields := codec_plain plain_publicKeyFields
  hashCodec := codec_plain plain_hash
  optionHash := codec_plainOption plain_hash
  certificates := codec_plain (plain_counted plain_byteString)
  optionCertificates := codec_plainOption (plain_counted plain_byteString)
  x509_der cert der h := by
    simp only [reference, nonEmpty] at h ⊢
    split at h
    · cases h
    · obtain rfl := Option.some.inj h
      simpa
  publicKey_der key der h := by
    simp only [reference, nonEmpty] at h ⊢
    split at h
    · cases h
    · obtain rfl := Option.some.inj h
      simpa

theorem certificateLaws (profile : Profile) : CertificateLaws (reference profile) where
  build {_ _ _ key _ _ cert} h := by
    simp only [reference, nonEmpty] at h ⊢
    split at h
    · cases h
    · next hkey =>
        obtain rfl := Option.some.inj h
        exact if_neg hkey

theorem chainLaws (profile : Profile) : ChainLaws (reference profile) where
  optionCertificates {ders data} h := by
    simp only [reference, codec, Option.ite_none_right_eq_some, Option.some.injEq] at h
    obtain ⟨hlen, rfl⟩ := h
    change ((Wire.counted 4 (Wire.string 2)).write ders).length ≤ isizeMax at hlen
    simp only [Wire.counted, List.length_append, isizeMax] at hlen
    refine ⟨(Wire.head 4).write ders.length, ders.map (Wire.string 2).write,
      @head_wire .array ders.length ?_, ?_, ?_⟩
    · have hcount : ders.length ≤ (ders.flatMap (Wire.string 2).write).length :=
        count_le (by simp [Wire.string, Wire.head])
      omega
    · rw [List.forall₂_map_right_iff, List.forall₂_same]
      intro der hder
      have hitem := item_le (w := Wire.string 2) hder
      simp only [Wire.string, List.length_append] at hitem hlen
      exact ⟨_, @head_wire .byteString der.length (by omega), rfl⟩
    · rw [← List.flatMap_def]
      rfl

theorem plain_sigInfo : PlainWire sigInfoWire := by
  intro s hlen
  have hinfo : s.info.length ≤ isizeMax := by
    simp only [sigInfoWire, Wire.via, Wire.framed, Wire.seq, Wire.string, List.length_append] at hlen
    omega
  have hint : Wire.int.ReadsBack s.sigType.toI16 ∧ s.sigType.toI16.natAbs < 2 ^ 64 := by
    cases s.sigType with
    | stSECP256R1 => exact ⟨Wire.readsBack_negSucc (n := 6) (by decide), by decide⟩
    | stSECP384R1 => exact ⟨Wire.readsBack_negSucc (n := 34) (by decide), by decide⟩
    | stRSA2048 => exact ⟨Wire.readsBack_negSucc (n := 256) (by decide), by decide⟩
    | stRSA3072 => exact ⟨Wire.readsBack_negSucc (n := 257) (by decide), by decide⟩
    | stEPID10 => exact ⟨Wire.readsBack_ofNat (n := 90) (by decide), by decide⟩
    | stEPID11 => exact ⟨Wire.readsBack_ofNat (n := 91) (by decide), by decide⟩
    | stEPID20 => exact ⟨Wire.readsBack_ofNat (n := 92) (by decide), by decide⟩
  constructor
  · have harray := @CborGrammar.WellFormed.array .bounded 2 [0x82]
      [Wire.int.write s.sigType.toI16, (Wire.string 2).write s.info]
      ⟨2, [], rfl, .inline (by decide)⟩ rfl (by simp [wellFormed_int hint.2, wellFormed_string hinfo])
    simpa [sigInfoWire, Wire.via, Wire.framed, Wire.seq] using harray
  · refine Wire.ReadsBack.via (Wire.ReadsBack.framed (Wire.ReadsBack.seq (hint.1.via ?_)
      (Wire.readsBack_string (by decide) (by unfold isizeMax at hinfo; omega)))) rfl
    cases s.sigType <;> rfl

theorem greetingLaws (profile : Profile) : GreetingLaws (reference profile) where
  sigInfo := codec_plain plain_sigInfo
  coseNew {payload unprotectedValues key c} h := by
    simp only [reference, Option.some.injEq] at h ⊢
    split at h
    · rw [← Option.some.inj h]
    · cases h
  setHmac := by
    apply codec_faithful
    intro h hlen
    refine Wire.ReadsBack.framed (readsBack_hash ?_)
    simp only [hashWire, Wire.via, Wire.framed, Wire.seq, Wire.string, List.length_append, isizeMax] at hlen
    omega

theorem envelopeLaws (profile : Profile) : EnvelopeLaws (reference profile) where
  appStart {key plain data} h := by
    obtain rfl := Option.some.inj h
    rfl
  setHmac {key plain data} h := by
    obtain rfl := Option.some.inj h
    rfl

theorem cipherLaws (profile : Profile) : CipherLaws (reference profile) where
  decrypts {key plain data} h := by
    obtain rfl := Option.some.inj h
    have hlen : (0xd0 :: digest .sha256 (key ++ plain)).length = 33 := by
      simp [digest, BigEndian.toBe_length]
    have hdrop : (0xd0 :: digest .sha256 (key ++ plain) ++ plain).drop 33 = plain := by
      rw [← hlen, List.drop_left]
    simp only [reference, hdrop, if_true]

theorem digest_length (md : MessageDigest) (data : Bytes) : (digest md data).length ≤ 48 := by
  cases md <;> simp [digest]

theorem mix_comm (a b : Bytes) : mix a b = mix b a :=
  List.zipWith_comm_of_comm fun x y => UInt8.xor_comm x y

theorem kexLaws (profile : Profile) : KexLaws (reference profile) fun _ _ => True where
  ecPublic {suite key} _ := by
    have hx := digest_length .sha256 key
    have hy := digest_length .sha256 (digest .sha256 key)
    exact ⟨_, _, rfl, by omega, by omega⟩
  ecShared {suite a b ax ay bx bY} _ _ ha hb := by
    obtain ⟨rfl, rfl⟩ := Prod.mk.inj (Option.some.inj ha)
    obtain ⟨rfl, rfl⟩ := Prod.mk.inj (Option.some.inj hb)
    exact ⟨mix (digest .sha256 a) (digest .sha256 b), rfl, congrArg (some ∘ some) (mix_comm ..)⟩
  dhPublic {suite key} _ := ⟨_, rfl⟩
  dhShared {suite a b publicA publicB} _ _ ha hb := by
    obtain rfl := Option.some.inj ha
    obtain rfl := Option.some.inj hb
    exact ⟨mix (digest .sha256 a) (digest .sha256 b), rfl, congrArg some (mix_comm ..)⟩
  kdf interoperable md label info key len := ⟨_, rfl⟩

theorem digestLaws (p : Profile) : DigestLaws (reference p) where
  hash_length := by
    intro t md data d hmd hd
    cases hd
    cases t with
    | sha256 =>
        cases hmd
        exact BigEndian.toBe_length _ _
    | sha384 =>
        cases hmd
        exact BigEndian.toBe_length _ _
    | hmacSha256 => cases hmd
    | hmacSha384 => cases hmd

end FidoOnboard.Reference
