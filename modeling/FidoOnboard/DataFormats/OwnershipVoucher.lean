import FidoOnboard.DataFormats.PublicKey

/-! The ownership voucher of `data-formats/src/ownershipvoucher.rs`. -/
namespace FidoOnboard
open CborParser

/-- The characters `str::trim` takes off: those with the property `White_Space`. -/
def isWhitespace (c : Char) : Bool :=
  let n := c.toNat
  (9 ≤ n && n ≤ 13) || n == 0x20 || n == 0x85 || n == 0xa0 || n == 0x1680 ||
    (0x2000 ≤ n && n ≤ 0x200a) || n == 0x2028 || n == 0x2029 || n == 0x202f || n == 0x205f || n == 0x3000

def trim (s : String) : String :=
  String.ofList (((s.toList.dropWhile isWhitespace).reverse.dropWhile isWhitespace).reverse)

/-- `ACCEPTABLE_ASCII_RANGE`, tested on the low byte of each character. -/
def checkDeviceInfo (deviceInfo : String) : Outcome Error Unit :=
  .check (deviceInfo.toList.all fun c => 32 ≤ c.toNat % 256 ∧ c.toNat % 256 < 127)
    (.inconsistentValue "Invalid values in Device Info")

def ParsedArray.getHash {N : ParsedArraySize} (P : Platform) (a : ParsedArray N) (n : Nat)
    (hashType : HashType) : Outcome Error Hash := do
  let raw ← a.getRaw n
  Hash.fromData P hashType raw

/-- `Option<X5Chain>`. -/
def OptionX5Chain.deserializeData (P : Platform) (data : Bytes) :
    Outcome Error (Option (X5Chain P)) := do
  match ← P.optionCertificates.deserializeData data with
  | none => .ok none
  | some ders => do
    let chain ← .ofOption .serdeCborError (X5Chain.ofDer P ders)
    .ok (some chain)

def OptionX5Chain.serializeData {P : Platform} : Option (X5Chain P) → Outcome Error Bytes
  | none => P.optionCertificates.serializeData none
  | some chain => do
    let ders ← .ofOption .ciboriumSerError chain.toDer
    P.optionCertificates.serializeData (some ders)

structure OwnershipVoucherHeader (P : Platform) where
  contents : ParsedArray size6
  cachedProtocolVersion : ProtocolVersion
  cachedGuid : Guid
  cachedRendezvousInfo : P.RendezvousInfo
  cachedDeviceInfo : String
  cachedManufacturerPublicKey : PublicKey P
  cachedDeviceCertificateChainHash : Option Hash

namespace OwnershipVoucherHeader

variable {P : Platform}

def new (protocolVersion : ProtocolVersion) (guid : Guid) (rendezvousInfo : P.RendezvousInfo)
    (deviceInfo : String) (manufacturerPublicKey : PublicKey P)
    (deviceCertificateChainHash : Option Hash) : Outcome Error (OwnershipVoucherHeader P) := do
  let deviceInfo := trim deviceInfo
  let c0 ← P.protocolVersion.serializeData protocolVersion
  let c1 ← guid.serializeData P
  let c2 ← P.rendezvousInfo.serializeData rendezvousInfo
  let c3 ← P.text.serializeData deviceInfo
  let c4 ← manufacturerPublicKey.serializeData
  let c5 ← P.optionHash.serializeData deviceCertificateChainHash
  .ok
    { contents := build size6 [c0, c1, c2, c3, c4, c5] (fun _ h => Option.some.inj h)
      cachedProtocolVersion := protocolVersion
      cachedGuid := guid
      cachedRendezvousInfo := rendezvousInfo
      cachedDeviceInfo := deviceInfo
      cachedManufacturerPublicKey := manufacturerPublicKey
      cachedDeviceCertificateChainHash := deviceCertificateChainHash }

def ofArray (P : Platform) (contents : ParsedArray size6) :
    Outcome Error (OwnershipVoucherHeader P) := do
  let cachedProtocolVersion ← contents.get P.protocolVersion.deserializeData 0
  let cachedGuid ← contents.get (Guid.deserializeData P) 1
  let cachedRendezvousInfo ← contents.get P.rendezvousInfo.deserializeData 2
  let cachedDeviceInfo ← contents.get P.text.deserializeData 3
  checkDeviceInfo cachedDeviceInfo
  let cachedManufacturerPublicKey ← contents.get (PublicKey.deserializeData P) 4
  let cachedDeviceCertificateChainHash ← contents.get P.optionHash.deserializeData 5
  .ok
    { contents, cachedProtocolVersion, cachedGuid, cachedRendezvousInfo, cachedDeviceInfo,
      cachedManufacturerPublicKey, cachedDeviceCertificateChainHash }

theorem ofArray_eq_ok {contents : ParsedArray size6} {h : OwnershipVoucherHeader P} :
    ofArray P contents = .ok h ↔ h.contents = contents ∧
      contents.get P.protocolVersion.deserializeData 0 = .ok h.cachedProtocolVersion ∧
      contents.get (Guid.deserializeData P) 1 = .ok h.cachedGuid ∧
      contents.get P.rendezvousInfo.deserializeData 2 = .ok h.cachedRendezvousInfo ∧
      contents.get P.text.deserializeData 3 = .ok h.cachedDeviceInfo ∧
      checkDeviceInfo h.cachedDeviceInfo = .ok () ∧
      contents.get (PublicKey.deserializeData P) 4 = .ok h.cachedManufacturerPublicKey ∧
      contents.get P.optionHash.deserializeData 5 = .ok h.cachedDeviceCertificateChainHash := by
  constructor
  · intro hof
    obtain ⟨_, hversion, h₁⟩ := Outcome.bind_eq_ok.mp hof
    obtain ⟨_, hguid, h₂⟩ := Outcome.bind_eq_ok.mp h₁
    obtain ⟨_, hinfo, h₃⟩ := Outcome.bind_eq_ok.mp h₂
    obtain ⟨_, htext, h₄⟩ := Outcome.bind_eq_ok.mp h₃
    obtain ⟨_, hcheck, h₅⟩ := Outcome.bind_eq_ok.mp h₄
    obtain ⟨_, hkey, h₆⟩ := Outcome.bind_eq_ok.mp h₅
    obtain ⟨_, hhash, h₇⟩ := Outcome.bind_eq_ok.mp h₆
    obtain rfl := Outcome.ok.inj h₇
    exact ⟨rfl, hversion, hguid, hinfo, htext, hcheck, hkey, hhash⟩
  · rintro ⟨rfl, hversion, hguid, hinfo, htext, hcheck, hkey, hhash⟩
    simp only [ofArray, hversion, hguid, hinfo, htext, hcheck, hkey, hhash, Outcome.ok_bind]

def deserializeData (P : Platform) (data : Bytes) : Outcome Error (OwnershipVoucherHeader P) := do
  let contents ← ParsedArray.deserializeData P.profile size6 data
  ofArray P contents

/-- The check runs here and in the decoder; a voucher writes the array itself. -/
def serializeData (h : OwnershipVoucherHeader P) : Outcome Error Bytes := do
  checkDeviceInfo h.cachedDeviceInfo
  h.contents.serializeData

def manufacturerPublicKeyHash (h : OwnershipVoucherHeader P) (hashType : HashType) :
    Outcome Error Hash :=
  ParsedArray.getHash P h.contents 4 hashType

/-- The hashed identity: the guid and the device info, without CBOR heads. -/
def hdrInfo (h : OwnershipVoucherHeader P) : Outcome Error Bytes := do
  let guid ← h.contents.get (Guid.deserializeData P) 1
  let deviceInfo ← h.contents.get P.text.deserializeData 3
  .ok (guid.value ++ asBytes deviceInfo)

def getHdrInfoHash (h : OwnershipVoucherHeader P) (hashType : HashType) : Outcome Error Hash := do
  let data ← h.hdrInfo
  Hash.fromData P hashType data

end OwnershipVoucherHeader

structure OwnershipVoucherEntryPayload (P : Platform) where
  hashPreviousEntry : Hash
  hashHeaderInfo : Hash
  extra : ExtraType
  publicKey : PublicKey P

namespace OwnershipVoucherEntryPayload

variable {P : Platform}

def fields (p : OwnershipVoucherEntryPayload P) : EntryPayloadFields :=
  ⟨p.hashPreviousEntry, p.hashHeaderInfo, p.extra, p.publicKey.toPublicKeyFields⟩

def deserializeData (P : Platform) (data : Bytes) :
    Outcome Error (OwnershipVoucherEntryPayload P) := do
  let f ← P.entryPayloadFields.deserializeData data
  let publicKey ← PublicKey.ofFields P f.publicKey
  .ok ⟨f.hashPreviousEntry, f.hashHeaderInfo, f.extra, publicKey⟩

def serializeData (p : OwnershipVoucherEntryPayload P) : Outcome Error Bytes :=
  P.entryPayloadFields.serializeData p.fields

end OwnershipVoucherEntryPayload

structure OwnershipVoucher (P : Platform) where
  contents : ParsedArray size5
  cachedProtocolVersion : ProtocolVersion
  cachedHeader : OwnershipVoucherHeader P
  cachedHeaderHmac : HMac
  cachedDeviceCertificateChain : Option (X5Chain P)
  cachedEntries : ParsedArray .dynamic

namespace OwnershipVoucher

variable {P : Platform}

def fromParsedArray (P : Platform) (contents : ParsedArray size5) :
    Outcome Error (OwnershipVoucher P) := do
  let cachedProtocolVersion ← contents.get P.protocolVersion.deserializeData 0
  let header ← contents.get P.byteBuf.deserializeData 1
  let cachedHeader ← OwnershipVoucherHeader.deserializeData P header
  let cachedHeaderHmac ← contents.get P.hashCodec.deserializeData 2
  let cachedDeviceCertificateChain ← contents.get (OptionX5Chain.deserializeData P) 3
  let cachedEntries ← contents.get (ParsedArray.deserializeData P.profile .dynamic) 4
  .ok
    { contents, cachedProtocolVersion, cachedHeader, cachedHeaderHmac,
      cachedDeviceCertificateChain, cachedEntries }

theorem fromParsedArray_eq_ok {contents : ParsedArray size5} {v : OwnershipVoucher P} :
    fromParsedArray P contents = .ok v ↔ v.contents = contents ∧
      contents.get P.protocolVersion.deserializeData 0 = .ok v.cachedProtocolVersion ∧
      (∃ header, contents.get P.byteBuf.deserializeData 1 = .ok header ∧
        OwnershipVoucherHeader.deserializeData P header = .ok v.cachedHeader) ∧
      contents.get P.hashCodec.deserializeData 2 = .ok v.cachedHeaderHmac ∧
      contents.get (OptionX5Chain.deserializeData P) 3 = .ok v.cachedDeviceCertificateChain ∧
      contents.get (ParsedArray.deserializeData P.profile .dynamic) 4 = .ok v.cachedEntries := by
  constructor
  · intro hof
    obtain ⟨_, hversion, h₁⟩ := Outcome.bind_eq_ok.mp hof
    obtain ⟨header, hraw, h₂⟩ := Outcome.bind_eq_ok.mp h₁
    obtain ⟨_, hheader, h₃⟩ := Outcome.bind_eq_ok.mp h₂
    obtain ⟨_, hhmac, h₄⟩ := Outcome.bind_eq_ok.mp h₃
    obtain ⟨_, hchain, h₅⟩ := Outcome.bind_eq_ok.mp h₄
    obtain ⟨_, hentries, h₆⟩ := Outcome.bind_eq_ok.mp h₅
    obtain rfl := Outcome.ok.inj h₆
    exact ⟨rfl, hversion, ⟨header, hraw, hheader⟩, hhmac, hchain, hentries⟩
  · rintro ⟨rfl, hversion, ⟨header, hraw, hheader⟩, hhmac, hchain, hentries⟩
    simp only [fromParsedArray, hversion, hraw, hheader, hhmac, hchain, hentries, Outcome.ok_bind]

def deserializeData (P : Platform) (data : Bytes) : Outcome Error (OwnershipVoucher P) :=
  match ParsedArray.deserializeData P.profile size5 data with
  | .err (.arrayParseError (.invalidNumberOfElements 4 5)) =>
    .err (.unsupportedVersion (some .version1_0))
  | contents => do
    let contents ← contents
    fromParsedArray P contents

/-- The same on a reader that goes on behind the voucher. -/
def deserializeFromReader (P : Platform) (reader : Bytes) :
    Outcome Error (OwnershipVoucher P × Bytes) :=
  match ParsedArray.deserializeFromReader P.profile size5 reader with
  | .err (.arrayParseError (.invalidNumberOfElements 4 5)) =>
    .err (.unsupportedVersion (some .version1_0))
  | contents => do
    let (contents, reader) ← contents
    let v ← fromParsedArray P contents
    .ok (v, reader)

theorem deserializeFromReader_eq_ok {reader rest : Bytes} {v : OwnershipVoucher P} :
    deserializeFromReader P reader = .ok (v, rest) ↔ ∃ contents,
      ParsedArray.deserializeFromReader P.profile size5 reader = .ok (contents, rest) ∧
      fromParsedArray P contents = .ok v := by
  unfold deserializeFromReader
  split
  · next herr => simp [herr]
  · simp only [Outcome.bind_eq_ok, Prod.exists, Outcome.ok.injEq, Prod.mk.injEq]
    constructor
    · rintro ⟨contents, r, hread, v', hof, rfl, rfl⟩
      exact ⟨contents, hread, hof⟩
    · rintro ⟨contents, hread, hof⟩
      exact ⟨contents, rest, hread, v, hof, rfl, rfl⟩

theorem deserializeData_eq_ok {data : Bytes} {v : OwnershipVoucher P} :
    deserializeData P data = .ok v ↔ ∃ rest, deserializeFromReader P data = .ok (v, rest) := by
  simp only [deserializeFromReader_eq_ok]
  unfold deserializeData
  split
  · next herr =>
      simp only [reduceCtorEq, false_iff, not_exists, not_and]
      intro rest contents hread
      simp [ParsedArray.deserializeData, hread] at herr
  · simp only [ParsedArray.deserializeData, Outcome.bind_eq_ok, Prod.exists, Outcome.ok.injEq]
    constructor
    · rintro ⟨contents, ⟨_, rest, hread, rfl⟩, hof⟩
      exact ⟨rest, _, hread, hof⟩
    · rintro ⟨rest, contents, hread, hof⟩
      exact ⟨contents, ⟨contents, rest, hread, rfl⟩, hof⟩

def serializeData (v : OwnershipVoucher P) : Outcome Error Bytes := v.contents.serializeData

def fromParts (protocolVersion : ProtocolVersion) (header : Bytes) (headerHmac : HMac)
    (entries : ParsedArray .dynamic) : Outcome Error (OwnershipVoucher P) := do
  let c0 ← P.protocolVersion.serializeData protocolVersion
  let c1 ← P.byteBuf.serializeData header
  let c2 ← P.hashCodec.serializeData headerHmac
  let c3 ← OptionX5Chain.serializeData (P := P) none
  let c4 ← entries.serializeData
  let cachedHeader ← OwnershipVoucherHeader.deserializeData P header
  .ok
    { contents := build size5 [c0, c1, c2, c3, c4] (fun _ h => Option.some.inj h)
      cachedProtocolVersion := protocolVersion
      cachedHeader
      cachedHeaderHmac := headerHmac
      cachedDeviceCertificateChain := none
      cachedEntries := entries }

def new (header : OwnershipVoucherHeader P) (headerHmac : HMac)
    (deviceCertificateChain : Option (X5Chain P)) : Outcome Error (OwnershipVoucher P) := do
  let entries := ParsedArray.newEmpty
  let contentsHeader ← header.contents.serializeData
  let c0 ← P.protocolVersion.serializeData .version1_1
  let c1 ← P.byteBuf.serializeData contentsHeader
  let c2 ← P.hashCodec.serializeData headerHmac
  let c3 ← OptionX5Chain.serializeData deviceCertificateChain
  let c4 ← entries.serializeData
  .ok
    { contents := build size5 [c0, c1, c2, c3, c4] (fun _ h => Option.some.inj h)
      cachedProtocolVersion := .version1_1
      cachedHeader := header
      cachedHeaderHmac := headerHmac
      cachedDeviceCertificateChain := deviceCertificateChain
      cachedEntries := entries }

def hashType (v : OwnershipVoucher P) : HashType := v.cachedHeaderHmac.hashType.innerHash

def headerHmac (v : OwnershipVoucher P) : HMac := v.cachedHeaderHmac

def deviceCertificateChain (v : OwnershipVoucher P) : Option (X5Chain P) :=
  v.cachedDeviceCertificateChain

def deviceCertificateChainHash (v : OwnershipVoucher P) (hashType : HashType) :
    Option (Outcome Error Hash) :=
  if v.cachedDeviceCertificateChain.isNone then none
  else some (ParsedArray.getHash P v.contents 3 hashType)

/-- `len() as u16`. -/
def numEntries (v : OwnershipVoucher P) : Nat := v.cachedEntries.len % 2 ^ 16

def entry (v : OwnershipVoucher P) (entryNum : Nat) : Outcome Error (COSESign P) :=
  v.cachedEntries.get (COSESign.deserializeData P) entryNum

def header (v : OwnershipVoucher P) : OwnershipVoucherHeader P := v.cachedHeader

def headerRaw (v : OwnershipVoucher P) : Outcome Error Bytes :=
  (v.contents.get P.byteBuf.deserializeData 1).unwrap

/-- The header bytes and the raw element of the HMAC behind them. -/
def hdrBytes (v : OwnershipVoucher P) : Outcome Error Bytes := do
  let header ← v.contents.get P.byteBuf.deserializeData 1
  let headerHmac ← v.contents.getRaw 2
  .ok (header ++ headerHmac)

def hdrHash (v : OwnershipVoucher P) (hashType : HashType) : Outcome Error Hash := do
  let data ← v.hdrBytes
  Hash.fromData P hashType data

/-- What the next entry is signed over and by whom: the hash of the last link and
the key of the current owner, read without verification. -/
def currentOwner (v : OwnershipVoucher P) : Outcome Error (Hash × PublicKey P) :=
  if v.cachedEntries.len = 0 then do
    let lastHash ← v.hdrHash v.hashType
    .ok (lastHash, v.header.cachedManufacturerPublicKey)
  else do
    let lastIdx := v.cachedEntries.len - 1
    let lastHash ← ParsedArray.getHash P v.cachedEntries lastIdx v.hashType
    let lastentry ← v.entry lastIdx
    let payload ← lastentry.getPayloadUnverified (OwnershipVoucherEntryPayload.deserializeData P)
    .ok (lastHash, payload.publicKey)

/-- `extend` on a mutable voucher: the result, and the voucher left behind. The
entries are pushed before the array that holds them is written again. -/
def extend (v : OwnershipVoucher P) (ownerPrivateKey : P.PrivateKey) (extra : ExtraType)
    (nextParty : PublicKey P) : Outcome Error Unit × OwnershipVoucher P :=
  if extra.isSome ∧ v.cachedProtocolVersion < .version1_1 then
    (.err (.invalidProtocolVersion v.cachedProtocolVersion), v)
  else
    let signed : Outcome Error Bytes := do
      let hdrinfoHash ← v.header.getHdrInfoHash v.hashType
      let (lastHash, currentOwnerPubkey) ← v.currentOwner
      if ¬ currentOwnerPubkey.matchesPkey (P.publicPart ownerPrivateKey) then .err .nonOwnerKey
      else do
        let newEntry : OwnershipVoucherEntryPayload P := ⟨lastHash, hdrinfoHash, extra, nextParty⟩
        let payload ← newEntry.serializeData
        let signedNewEntry ← COSESign.new P payload [] ownerPrivateKey
        signedNewEntry.serializeData
    match signed with
    | .err e => (.err e, v)
    | .panic => (.panic, v)
    | .ok item =>
      let v := { v with cachedEntries := v.cachedEntries.push item }
      match v.cachedEntries.serializeData with
      | .err e => (.err e, v)
      | .panic => (.panic, v)
      | .ok raw => (.ok (), { v with contents := v.contents.set 4 raw })

end OwnershipVoucher

/-! ## The entry iterator -/

structure EntryIter (P : Platform) where
  index : Nat
  errored : Bool
  lastPubkey : PublicKey P

namespace OwnershipVoucher

variable {P : Platform}

def iterEntries (v : OwnershipVoucher P) : EntryIter P :=
  ⟨0, false, v.header.cachedManufacturerPublicKey⟩

/-- The hash an entry must name as the one of its predecessor. -/
def previousHash (v : OwnershipVoucher P) (index : Nat) (hashType : HashType) : Outcome Error Hash :=
  if index = 0 then v.hdrHash hashType
  else ParsedArray.getHash P v.cachedEntries (index - 1) hashType

def processElement (v : OwnershipVoucher P) (it : EntryIter P) (entry : COSESign P) :
    Outcome Error (OwnershipVoucherEntryPayload P) := do
  let payload ← entry.getPayload (OwnershipVoucherEntryPayload.deserializeData P) it.lastPubkey.pkey
  let hashPreviousEntry ← v.previousHash it.index payload.hashPreviousEntry.hashType
  payload.hashPreviousEntry.compare hashPreviousEntry
  let hdrInfoHash ← v.header.getHdrInfoHash payload.hashHeaderInfo.hashType
  payload.hashHeaderInfo.compare hdrInfoHash
  .ok payload

/-- `EntryIter::next`. The outer result is never an error: it is a value, yielded
or not, or a panic. An entry that cannot be read leaves the index where it is. -/
def next (v : OwnershipVoucher P) (it : EntryIter P) :
    Outcome Error (Option (Except Error (OwnershipVoucherEntryPayload P)) × EntryIter P) :=
  if it.errored then .ok (none, it)
  else if v.cachedEntries.len ≤ it.index then .ok (none, it)
  else match v.entry it.index with
    | .panic => .panic
    | .err e => .ok (some (.error e), { it with errored := true })
    | .ok entry =>
      match v.processElement it entry with
      | .panic => .panic
      | .err e => .ok (some (.error e), { it with errored := true, index := it.index + 1 })
      | .ok payload =>
        .ok (some (.ok payload), ⟨it.index + 1, it.errored, payload.publicKey⟩)

/-- `Iterator::last`, with a bound on the number of calls. -/
def lastFrom (v : OwnershipVoucher P) :
    Nat → Option (Except Error (OwnershipVoucherEntryPayload P)) → EntryIter P →
      Outcome Error (Option (Except Error (OwnershipVoucherEntryPayload P)))
  | 0, last, _ => .ok last
  | fuel + 1, last, it => do
    match ← v.next it with
    | (none, _) => .ok last
    | (some item, it) => lastFrom v fuel (some item) it

/-- `iter_entries()?.last()`: one call for every entry and one that answers `None`. -/
def lastEntry (v : OwnershipVoucher P) :
    Outcome Error (Option (Except Error (OwnershipVoucherEntryPayload P))) :=
  v.lastFrom (v.cachedEntries.len + 1) none v.iterEntries

/-- All that calls of `next` yield, and the iterator at its end unless a call panicked. -/
def drain (v : OwnershipVoucher P) :
    Nat → EntryIter P →
      List (Except Error (OwnershipVoucherEntryPayload P)) × Option (EntryIter P)
  | 0, it => ([], some it)
  | fuel + 1, it =>
    match v.next it with
    | .panic | .err _ => ([], none)
    | .ok (none, it) => ([], some it)
    | .ok (some item, it) =>
      let (items, left) := drain v fuel it
      (item :: items, left)

def yielded (v : OwnershipVoucher P) :
    List (Except Error (OwnershipVoucherEntryPayload P)) × Option (EntryIter P) :=
  v.drain (v.cachedEntries.len + 1) v.iterEntries

end OwnershipVoucher
end FidoOnboard
