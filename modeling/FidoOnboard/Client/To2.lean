import FidoOnboard.DataFormats.VoucherChain
import FidoOnboard.HttpWrapper.Client

/-!
# TO2 on the device, up to the authenticated owner

`client-linuxapp/src/main.rs`: the ProveOVHdr token is taken apart before anyone
knows who signed it. The second phase collects the entries, finds the owner they
end in, and only then verifies the token and the TO1 blob.
-/
namespace FidoOnboard.Client
open CborParser VoucherChain

structure ErrorResult where
  eCode : ErrorCode
  eString : String
  message : MessageType
  deriving DecidableEq, Repr

inductive ClientError where
  | response (result : ErrorResult)
  | request (result : ErrorResult)
  deriving DecidableEq, Repr

/-- `.context(..).map_err(|e| ClientError::Response(..))`. -/
def orResponse {ε α : Type} (eCode : ErrorCode) (eString : String) (message : MessageType)
    (x : Outcome ε α) : Outcome ClientError α :=
  x.mapErr fun _ => .response ⟨eCode, eString, message⟩

inductive EntriesError where
  /-- "Error getting OV entry num {entry_num}". -/
  | getting (entryNum : Nat) (error : RequestError)
  /-- "Owner onboarding service returned OV entry {}, when we asked for {}". -/
  | mismatch (returned asked : Nat)
  /-- "Error adding Ownership Voucher entry". -/
  | adding (error : Error)
  deriving DecidableEq, Repr

variable {P : Platform} {server : Peer}

/-- One round of the loop; the number asked for is cut to a byte. -/
def getOvEntry (P : Platform) (entryNum : Nat) (entries : ParsedArray .dynamic)
    (client : ServiceClient server) :
    Outcome EntriesError (ParsedArray .dynamic × ServiceClient server) := do
  let (entryResult, client) ← (client.sendRequest P To2.getOVNextEntry To2.ovNextEntry
    (P.getOVNextEntry.serializeData (entryNum % 2 ^ 8)) (OVNextEntry.deserializeData P) none).mapErr
      (.getting entryNum)
  Outcome.check (entryResult.entryNum = entryNum) (.mismatch entryResult.entryNum entryNum)
  let item ← entryResult.entry.serializeData.mapErr .adding
  .ok (entries.push item, client)

/-- The loop from `entryNum` on, with `remaining` rounds to go. -/
def getOvEntriesFrom (P : Platform) (entryNum : Nat) :
    Nat → ParsedArray .dynamic → ServiceClient server →
      Outcome EntriesError (ParsedArray .dynamic × ServiceClient server)
  | 0, entries, client => .ok (entries, client)
  | remaining + 1, entries, client => do
    let (entries, client) ← getOvEntry P entryNum entries client
    getOvEntriesFrom P (entryNum + 1) remaining entries client

def getOvEntries (P : Platform) (client : ServiceClient server) (numEntries : Nat) :
    Outcome EntriesError (ParsedArray .dynamic × ServiceClient server) :=
  getOvEntriesFrom P 0 numEntries ParsedArray.newEmpty client

/-- The checks on the payload of ProveOVHdr, before its signature is known good. -/
def checkProveOVHdr (P : Platform) (devcred : DeviceCredential) (nonce5 : Nonce)
    (sigtype : DeviceSigType) (payload : TO2ProveOVHdrPayload) : Outcome ClientError Unit := do
  let nonceMatches ← (nonce5.eq payload.nonce5).unwrap
  Outcome.check (nonceMatches = true)
    (.response ⟨.invalidMessageError, "Nonce5 value is mismatched", .to2ProveOVHdr⟩)
  Outcome.check (payload.bSignatureInfo.sigType = sigtype)
    (.response ⟨.invalidMessageError, "Invalid signature type returned", .to2ProveOVHdr⟩)
  Outcome.check (payload.bSignatureInfo.info = [])
    (.response ⟨.invalidMessageError, "Non-empty signature info returned", .to2ProveOVHdr⟩)
  orResponse .invalidMessageError "Error, invalid message" .to2ProveOVHdr
    (devcred.verifyHmac P payload.ovHeader payload.hmac)
  let header ← orResponse .messageBodyError "Error deserializing OV Header" .to2ProveOVHdr
    (OwnershipVoucherHeader.deserializeData P payload.ovHeader)
  let pubkeyHash ← orResponse .invalidMessageError "Error computing manufacturer public key hash"
    .to2ProveOVHdr (header.manufacturerPublicKeyHash devcred.pubkeyHash.hashType)
  orResponse .invalidMessageError "Error comparing manufacturer public key hash" .to2ProveOVHdr
    (devcred.pubkeyHash.compare pubkeyHash)

/-- Sends HelloDevice, receives ProveOVHdr. The payload is still unverified. -/
def performHellodevice (P : Platform) (devcred : DeviceCredential) (client : ServiceClient server)
    (nonce5 : Nonce) (sigtype : DeviceSigType) (kexsuite : KexSuite) (ciphersuite : CipherSuite) :
    Outcome ClientError ((COSESign P × TO2ProveOVHdrPayload × HMac) × ServiceClient server) := do
  let hello := HelloDevice.new devcred.guid nonce5 kexsuite ciphersuite ⟨sigtype, []⟩
  let (proveOvHdr, client) ← (client.sendRequest P To2.helloDevice To2.proveOVHdr
    (hello.serializeData P) (COSESign.deserializeData P) none).mapErr fun _ =>
      .request ⟨.internalServerError, "Error sending HelloDevice", .to2ProveOVHdr⟩
  let payload ← orResponse .messageBodyError "Error parsing unverified payload" .to2ProveOVHdr
    (proveOvHdr.getPayloadUnverified (TO2ProveOVHdrPayload.deserializeData P))
  checkProveOVHdr P devcred nonce5 sigtype payload
  .ok ((proveOvHdr, payload, payload.hmac), client)

/-- `iter_entries()?.last()`, an empty voucher and a failed entry both being errors. -/
def ownerEntry (v : OwnershipVoucher P) : Outcome ClientError (OwnershipVoucherEntryPayload P) := do
  let last ← orResponse .internalServerError "Error initializing iterator" .to2OVNextEntry v.lastEntry
  match last with
  | none => .err (.response ⟨.invalidMessageError, "Error validating ownership voucher", .to2OVNextEntry⟩)
  | some (.error _) =>
    .err (.response ⟨.invalidMessageError, "Last entry on ownership voucher was wrong", .to2OVNextEntry⟩)
  | some (.ok entry) => .ok entry

def getAndVerifyOvHeaderSignature (P : Platform) (client : ServiceClient server)
    (proveOvHdr : COSESign P) (proveOvHdrPayload : TO2ProveOVHdrPayload) (headerHmac : HMac)
    (to1d : COSESign P) : Outcome ClientError (TO2ProveOVHdrPayload × ServiceClient server) := do
  let (ovEntries, client) ← orResponse .internalServerError "Error getting remaining OV entries"
    .to2OVNextEntry (getOvEntries P client proveOvHdrPayload.numOvEntries)
  let ownershipVoucher ← orResponse .messageBodyError "Error reconstructing Ownership Voucher"
    .to2OVNextEntry
    (OwnershipVoucher.fromParts .version1_1 proveOvHdrPayload.ovHeader headerHmac ovEntries)
  let ovOwnerEntry ← ownerEntry (P := P) ownershipVoucher
  let proveOvHdrPayload ← orResponse .invalidMessageError "Error validating ProveOVHdr signature"
    .to2OVNextEntry
    (proveOvHdr.getPayload (TO2ProveOVHdrPayload.deserializeData P) ovOwnerEntry.publicKey.pkey)
  orResponse .invalidMessageError "Error validating to1d after receiving full ownership voucher"
    .to2OVNextEntry (to1d.verify ovOwnerEntry.publicKey.pkey)
  .ok (proveOvHdrPayload, client)

/-- The device's half of the exchange is drawn here. -/
def performKeyDerivation (P : Platform) (entropy : KexEntropy) (client : ServiceClient server)
    (proveOvHdrPayload : TO2ProveOVHdrPayload) (kexsuite : KexSuite) (ciphersuite : CipherSuite) :
    Outcome ClientError (KeyExchange × EncryptionKeys) := do
  let nonInteroperableKdfRequired ← .ofOption
    (.response ⟨.internalServerError, "Error getting non-interoperable KDF requirement", .to2OVNextEntry⟩)
    client.nonInteroperableKdfRequired
  let bKeyExchange ← orResponse .internalServerError "Error creating device side of key exchange"
    .to2OVNextEntry (KeyExchange.new entropy kexsuite)
  let newKeys ← orResponse .internalServerError "Error performing key derivation" .to2OVNextEntry
    (bKeyExchange.deriveKey P client.interoperableKdfAvailable .device ciphersuite
      proveOvHdrPayload.aKeyExchange nonInteroperableKdfRequired)
  .ok (bKeyExchange, .fromDerived ciphersuite newKeys)

/-! ## What the two phases establish -/

@[simp] theorem orResponse_eq_ok {ε α : Type} {eCode : ErrorCode} {eString : String}
    {message : MessageType} {x : Outcome ε α} {a : α} :
    orResponse eCode eString message x = .ok a ↔ x = .ok a :=
  Outcome.mapErr_eq_ok

theorem getOvEntriesFrom_len {entryNum remaining : Nat} {entries entries' : ParsedArray .dynamic}
    {client client' : ServiceClient server}
    (h : getOvEntriesFrom P entryNum remaining entries client = .ok (entries', client')) :
    entries'.len = entries.len + remaining := by
  induction remaining generalizing entryNum entries client with
  | zero =>
      obtain ⟨rfl, -⟩ := Prod.mk.inj (Outcome.ok.inj h)
      rfl
  | succ remaining ih =>
      obtain ⟨⟨entries₁, client₁⟩, hstep, hrest⟩ := Outcome.bind_eq_ok.mp h
      obtain ⟨⟨result, client₂⟩, _, h₁⟩ := Outcome.bind_eq_ok.mp hstep
      obtain ⟨_, _, h₂⟩ := Outcome.bind_eq_ok.mp h₁
      obtain ⟨item, _, h₃⟩ := Outcome.bind_eq_ok.mp h₂
      obtain ⟨rfl, -⟩ := Prod.mk.inj (Outcome.ok.inj h₃)
      have := ih hrest
      simp only [ParsedArray.len, ParsedArray.push, List.length_append, List.length_cons,
        List.length_nil] at this ⊢
      omega

theorem ownerEntry_eq_ok {v : OwnershipVoucher P} {p : OwnershipVoucherEntryPayload P} :
    ownerEntry v = .ok p ↔ v.lastEntry = .ok (some (.ok p)) := by
  constructor
  · intro h
    obtain ⟨last, hlast, h₁⟩ := Outcome.bind_eq_ok.mp h
    rw [orResponse_eq_ok] at hlast
    cases last with
    | none => cases h₁
    | some r =>
        cases r with
        | error e => cases h₁
        | ok q => rw [hlast, Outcome.ok.inj h₁]
  · intro h
    simp [ownerEntry, h, orResponse]

/-- What the first phase has checked of the payload. -/
structure Checked (P : Platform) (devcred : DeviceCredential) (nonce5 : Nonce)
    (payload : TO2ProveOVHdrPayload) : Prop where
  nonce : payload.nonce5 = nonce5
  hmac : ∃ expected, devcred.keyStorage.performHmac P payload.ovHeader payload.hmac.hashType =
    .ok expected ∧ payload.hmac.value = expected.value
  manufacturer : ∃ header raw, OwnershipVoucherHeader.deserializeData P payload.ovHeader = .ok header ∧
    header.contents.contents[4]? = some raw ∧ devcred.pubkeyHash.IsDigest P raw

theorem checkProveOVHdr_ok {devcred : DeviceCredential} {nonce5 : Nonce} {sigtype : DeviceSigType}
    {payload : TO2ProveOVHdrPayload}
    (h : checkProveOVHdr P devcred nonce5 sigtype payload = .ok ()) :
    Checked P devcred nonce5 payload := by
  obtain ⟨nonceMatches, hnonce, h₁⟩ := Outcome.bind_eq_ok.mp h
  obtain ⟨_, hmatches, h₂⟩ := Outcome.bind_eq_ok.mp h₁
  obtain ⟨_, _, h₃⟩ := Outcome.bind_eq_ok.mp h₂
  obtain ⟨_, _, h₄⟩ := Outcome.bind_eq_ok.mp h₃
  obtain ⟨_, hhmac, h₅⟩ := Outcome.bind_eq_ok.mp h₄
  obtain ⟨header, hheader, h₆⟩ := Outcome.bind_eq_ok.mp h₅
  obtain ⟨pubkeyHash, hhash, h₇⟩ := Outcome.bind_eq_ok.mp h₆
  rw [Outcome.unwrap_eq_ok] at hnonce
  rw [orResponse_eq_ok] at hhmac hheader hhash h₇
  obtain rfl := Outcome.check_eq_ok.mp hmatches
  obtain ⟨raw, hraw, hfrom⟩ := Outcome.bind_eq_ok.mp hhash
  have hvalue : nonce5.value = payload.nonce5.value := memcmpEq_eq_true.mp hnonce
  exact
    { nonce := by cases nonce5; cases hp : payload.nonce5; simp_all
      hmac := DeviceCredential.verifyHmac_eq_ok.mp hhmac
      manufacturer := ⟨header, raw, hheader, getRaw_eq_ok.mp hraw,
        Hash.fromData_compare.mp ⟨pubkeyHash, hfrom, h₇⟩⟩ }

theorem performHellodevice_ok {devcred : DeviceCredential} {client client' : ServiceClient server}
    {nonce5 : Nonce} {sigtype : DeviceSigType} {kexsuite : KexSuite} {ciphersuite : CipherSuite}
    {token : COSESign P} {payload : TO2ProveOVHdrPayload} {hmac : HMac}
    (h : performHellodevice P devcred client nonce5 sigtype kexsuite ciphersuite =
      .ok ((token, payload, hmac), client')) :
    token.getPayloadUnverified (TO2ProveOVHdrPayload.deserializeData P) = .ok payload ∧
      hmac = payload.hmac ∧ Checked P devcred nonce5 payload := by
  obtain ⟨⟨token₁, client₁⟩, _, h₁⟩ := Outcome.bind_eq_ok.mp h
  obtain ⟨payload₁, hpayload, h₂⟩ := Outcome.bind_eq_ok.mp h₁
  obtain ⟨_, hcheck, h₃⟩ := Outcome.bind_eq_ok.mp h₂
  simp only [Outcome.ok.injEq, Prod.mk.injEq] at h₃
  obtain ⟨⟨rfl, rfl, rfl⟩, rfl⟩ := h₃
  exact ⟨orResponse_eq_ok.mp hpayload, rfl, checkProveOVHdr_ok hcheck⟩

/-- The rebuilt voucher holds the parts it was built from. -/
theorem fromParts_ok {header : Bytes} {hmac : HMac} {entries : ParsedArray .dynamic}
    {v : OwnershipVoucher P}
    (h : OwnershipVoucher.fromParts .version1_1 header hmac entries = .ok v) :
    v.cachedEntries = entries ∧ OwnershipVoucherHeader.deserializeData P header = .ok v.header ∧
      ∃ headerRaw hmacRaw, P.byteBuf.intoWriter header = some headerRaw ∧
        P.hashCodec.intoWriter hmac = some hmacRaw ∧ v.contents.contents[1]? = some headerRaw ∧
        v.contents.contents[2]? = some hmacRaw := by
  obtain ⟨c0, _, h₁⟩ := Outcome.bind_eq_ok.mp h
  obtain ⟨c1, hc1, h₂⟩ := Outcome.bind_eq_ok.mp h₁
  obtain ⟨c2, hc2, h₃⟩ := Outcome.bind_eq_ok.mp h₂
  obtain ⟨c3, _, h₄⟩ := Outcome.bind_eq_ok.mp h₃
  obtain ⟨c4, _, h₅⟩ := Outcome.bind_eq_ok.mp h₄
  obtain ⟨cached, hcached, h₆⟩ := Outcome.bind_eq_ok.mp h₅
  obtain rfl := Outcome.ok.inj h₆
  exact ⟨rfl, hcached, c1, c2, Codec.serializeData_eq_ok.mp hc1, Codec.serializeData_eq_ok.mp hc2,
    rfl, rfl⟩

/-- The entries `v` was rebuilt with form a chain from the manufacturer key of the
header in `payload`, bound to the bytes of that header and to that HMAC, ending in `key`. -/
structure ChainFor (P : Platform) (payload : TO2ProveOVHdrPayload) (v : OwnershipVoucher P)
    (key : PublicKey P) : Prop where
  header : OwnershipVoucherHeader.deserializeData P payload.ovHeader = .ok v.header
  bound : ∃ hmacRaw, P.hashCodec.intoWriter payload.hmac = some hmacRaw ∧
    PreviousBytes v 0 (payload.ovHeader ++ hmacRaw)
  count : v.cachedEntries.len = payload.numOvEntries ∧ 1 ≤ v.cachedEntries.len
  chain : ∃ ps p, ValidChain v ps ∧ ps.getLast? = some p ∧ p.publicKey = key

/-- Whatever the server answered, a device that got through both phases knows an
owner key that everything it has accepted is tied to. -/
theorem authenticates_owner (cose : CoseLaws P) (hbuf : P.byteBuf.Faithful)
    {devcred : DeviceCredential} {client client₁ client₂ : ServiceClient server} {nonce5 : Nonce}
    {sigtype : DeviceSigType} {kexsuite : KexSuite} {ciphersuite : CipherSuite} {token : COSESign P}
    {payload payload' : TO2ProveOVHdrPayload} {hmac : HMac} {to1d : COSESign P}
    (h₁ : performHellodevice P devcred client nonce5 sigtype kexsuite ciphersuite =
      .ok ((token, payload, hmac), client₁))
    (h₂ : getAndVerifyOvHeaderSignature P client₁ token payload hmac to1d = .ok (payload', client₂)) :
    payload' = payload ∧ Checked P devcred nonce5 payload' ∧
    ∃ (key : PublicKey P) (v : OwnershipVoucher P),
      getOvEntries P client₁ payload'.numOvEntries = .ok (v.cachedEntries, client₂) ∧
      ChainFor P payload' v key ∧
      P.verifySignature token.cachedInner key.pkey = some true ∧
      token.getPayloadUnverified (TO2ProveOVHdrPayload.deserializeData P) = .ok payload' ∧
      P.verifySignature to1d.cachedInner key.pkey = some true := by
  obtain ⟨hunverified, rfl, hchecked⟩ := performHellodevice_ok h₁
  obtain ⟨⟨entries, client₃⟩, hentries, h₃⟩ := Outcome.bind_eq_ok.mp h₂
  obtain ⟨v, hparts, h₄⟩ := Outcome.bind_eq_ok.mp h₃
  obtain ⟨owner, howner, h₅⟩ := Outcome.bind_eq_ok.mp h₄
  obtain ⟨verified, hverified, h₆⟩ := Outcome.bind_eq_ok.mp h₅
  obtain ⟨_, hto1d, h₇⟩ := Outcome.bind_eq_ok.mp h₆
  simp only [Outcome.ok.injEq, Prod.mk.injEq] at h₇
  obtain ⟨rfl, rfl⟩ := h₇
  rw [orResponse_eq_ok] at hentries hparts hverified hto1d
  -- the second parse is the first one again: same token, same payload bytes
  obtain ⟨hsigned, hsame⟩ := (COSESign.getPayload_eq_ok cose).mp hverified
  obtain rfl : verified = payload := Outcome.ok.inj (hsame.symm.trans hunverified)
  obtain ⟨hcached, hheader, headerRaw, hmacRaw, hheaderRaw, hhmacRaw, hget1, hget2⟩ := fromParts_ok hparts
  obtain ⟨ps, hchain, hlast⟩ := (lastEntry_eq_payload cose).mp (ownerEntry_eq_ok.mp howner)
  have hlen : v.cachedEntries.len = verified.numOvEntries := by
    rw [hcached, getOvEntriesFrom_len hentries]
    exact Nat.zero_add _
  have hne : 1 ≤ v.cachedEntries.len := by
    rw [← hchain.1]
    exact List.length_pos_iff.mpr fun hnil => by simp [hnil] at hlast
  refine ⟨rfl, hchecked, owner.publicKey, v, by rw [hcached]; exact hentries, ?_, hsigned, hsame,
    COSESign.verify_eq_ok.mp hto1d⟩
  exact
    { header := hheader
      bound := ⟨hmacRaw, hhmacRaw, verified.ovHeader, hmacRaw,
        by rw [hget1]; exact hbuf _ _ hheaderRaw, hget2, rfl⟩
      count := ⟨hlen, hne⟩
      chain := ⟨ps, owner, hchain, hlast, rfl⟩ }

/-! ## A session with an honest owner -/

open Reference

/-- A peer that answers from a list, whatever it is asked. -/
def scripted : Peer where
  State := List (MessageType × Bytes)
  respond
    | [], _ => ([], none)
    | (messageType, body) :: rest, _ =>
      (rest, some ⟨true, .present messageType, none, false, some body⟩)

def sampleNonce5 : Nonce := ⟨List.replicate 16 5⟩

def sampleCredential (v : OwnershipVoucher (reference .release)) : Outcome Error DeviceCredential := do
  let pubkeyHash ← v.header.manufacturerPublicKeyHash .sha256
  .ok ⟨v.header.cachedGuid, pubkeyHash, .plain [0x5e] [9, 9]⟩

/-- What the owner, with key 3, answers: the token, then the two entries. -/
def sampleReplies (v : OwnershipVoucher (reference .release)) :
    Outcome Error (List (MessageType × Bytes)) := do
  let header ← v.headerRaw
  let payload ← TO2ProveOVHdrPayload.new (reference .release) header v.numEntries v.headerHmac
    sampleNonce5 ⟨.stSECP384R1, []⟩ [1, 2, 3] ⟨.sha256, List.replicate 32 4⟩
  let payload ← payload.contents.serializeData
  let token ← COSESign.new (reference .release) payload [] [3, 1]
  let token ← token.serializeData
  let entry0 ← v.entry 0
  let entry0 ← OVNextEntry.serializeData ⟨0, entry0⟩
  let entry1 ← v.entry 1
  let entry1 ← OVNextEntry.serializeData ⟨1, entry1⟩
  .ok [(.to2ProveOVHdr, token), (.to2OVNextEntry, entry0), (.to2OVNextEntry, entry1)]

structure SampleStart where
  devcred : DeviceCredential
  to1d : COSESign (reference .release)
  client : ServiceClient scripted

def sampleStart : Outcome Error SampleStart := do
  let v ← sampleVoucher
  let devcred ← sampleCredential v
  let to1d ← COSESign.new (reference .release) [] [] [3, 1]
  let replies ← sampleReplies v
  .ok ⟨devcred, to1d, ⟨none, .unencrypted, none, none, true, replies⟩⟩

theorem authenticates_owner_sample : ∃ (s : SampleStart) (token : COSESign (reference .release))
    (payload payload' : TO2ProveOVHdrPayload) (hmac : HMac) (client₁ client₂ : ServiceClient scripted),
    sampleStart = .ok s ∧
    performHellodevice (reference .release) s.devcred s.client sampleNonce5 .stSECP384R1 .ecdh384
      .a256Gcm = .ok ((token, payload, hmac), client₁) ∧
    getAndVerifyOvHeaderSignature (reference .release) client₁ token payload hmac s.to1d =
      .ok (payload', client₂) ∧
    payload' = payload ∧ ∃ v key, ChainFor (reference .release) payload' v key := by
  have hrun : (do
      let s ← sampleStart.unwrap
      let ((token, payload, hmac), client) ← performHellodevice (reference .release) s.devcred
        s.client sampleNonce5 .stSECP384R1 .ecdh384 .a256Gcm
      getAndVerifyOvHeaderSignature (reference .release) client token payload hmac s.to1d).isOk =
      true := by decide +kernel
  obtain ⟨⟨payload', client₂⟩, hrun⟩ := Outcome.isOk_iff.mp hrun
  obtain ⟨s, hs, h₁⟩ := Outcome.bind_eq_ok.mp hrun
  obtain ⟨⟨⟨token, payload, hmac⟩, client₁⟩, hhello, hverify⟩ := Outcome.bind_eq_ok.mp h₁
  obtain ⟨hsame, _, key, v, _, hchain, _⟩ :=
    authenticates_owner (coseLaws .release) (voucherLaws .release).byteBuf hhello hverify
  exact ⟨s, token, payload, payload', hmac, client₁, client₂, Outcome.unwrap_eq_ok.mp hs, hhello,
    hverify, hsame, v, key, hchain⟩

end FidoOnboard.Client
