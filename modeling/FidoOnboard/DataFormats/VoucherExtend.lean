import FidoOnboard.DataFormats.CborExact
import FidoOnboard.DataFormats.CborRoundTrip
import FidoOnboard.DataFormats.VoucherChain

/-!
# Extending a voucher

`extend` writes the entries twice, parsed and serialized, and reads the current
owner without verification. A voucher that is ready and has an owner stays so.
-/
namespace FidoOnboard.VoucherExtend
open CborParser CborGrammar CborRoundTrip VoucherChain

variable {P : Platform}

/-- How a header comes about. -/
inductive HeaderObtained : OwnershipVoucherHeader P → Prop
  | new {version guid rendezvousInfo deviceInfo key chainHash header} :
      guid.value.length = 16 →
      OwnershipVoucherHeader.new version guid rendezvousInfo deviceInfo key chainHash = .ok header →
      HeaderObtained header
  | deserialized {data header} :
      OwnershipVoucherHeader.deserializeData P data = .ok header → HeaderObtained header

/-- How a voucher comes about. -/
inductive Obtained : OwnershipVoucher P → Prop
  | new {header hmac chain v} :
      HeaderObtained header → OwnershipVoucher.new header hmac chain = .ok v → Obtained v
  | deserialized {data v} : OwnershipVoucher.deserializeData P data = .ok v → Obtained v

/-- Everything `extend` reads is there, and the two forms of the entries agree. -/
structure Ready (v : OwnershipVoucher P) : Prop where
  info : ∃ info, v.header.hdrInfo = .ok info
  bytes : ∃ data, v.hdrBytes = .ok data
  entries : v.contents.get (ParsedArray.deserializeData P.profile .dynamic) 4 = .ok v.cachedEntries

/-- Who may extend the voucher: the manufacturer as long as there are no entries,
then whoever the validated chain ends in. -/
def Owner (v : OwnershipVoucher P) (key : PublicKey P) : Prop :=
  (v.cachedEntries.len = 0 ∧ key = v.header.cachedManufacturerPublicKey) ∨
    ∃ p, v.lastEntry = .ok (some (.ok p)) ∧ p.publicKey = key

/-! ## Obtained vouchers are ready -/

theorem hdrInfo_eq_ok {h : OwnershipVoucherHeader P} {data : Bytes} :
    h.hdrInfo = .ok data ↔ ∃ (guid : Guid) (deviceInfo : String),
      h.contents.get (Guid.deserializeData P) 1 = .ok guid ∧
      h.contents.get P.text.deserializeData 3 = .ok deviceInfo ∧
      data = guid.value ++ asBytes deviceInfo := by
  simp only [OwnershipVoucherHeader.hdrInfo, Outcome.bind_eq_ok]
  constructor
  · rintro ⟨guid, hguid, deviceInfo, htext, hdata⟩
    exact ⟨guid, deviceInfo, hguid, htext, (Outcome.ok.inj hdata).symm⟩
  · rintro ⟨guid, deviceInfo, hguid, htext, rfl⟩
    exact ⟨guid, hguid, deviceInfo, htext, rfl⟩

theorem header_new_inv {version : ProtocolVersion} {guid : Guid} {rendezvousInfo : P.RendezvousInfo}
    {deviceInfo : String} {key : PublicKey P} {chainHash : Option Hash} {h : OwnershipVoucherHeader P}
    (hnew : OwnershipVoucherHeader.new version guid rendezvousInfo deviceInfo key chainHash = .ok h) :
    h.cachedManufacturerPublicKey = key ∧ ∃ c1 c3, h.contents.contents[1]? = some c1 ∧
      P.bstr16.intoWriter guid.value = some c1 ∧ h.contents.contents[3]? = some c3 ∧
      P.text.intoWriter (trim deviceInfo) = some c3 := by
  obtain ⟨c0, _, h₁⟩ := Outcome.bind_eq_ok.mp hnew
  obtain ⟨c1, hc1, h₂⟩ := Outcome.bind_eq_ok.mp h₁
  obtain ⟨c2, _, h₃⟩ := Outcome.bind_eq_ok.mp h₂
  obtain ⟨c3, hc3, h₄⟩ := Outcome.bind_eq_ok.mp h₃
  obtain ⟨c4, _, h₅⟩ := Outcome.bind_eq_ok.mp h₄
  obtain ⟨c5, _, h₆⟩ := Outcome.bind_eq_ok.mp h₅
  obtain rfl := Outcome.ok.inj h₆
  exact ⟨rfl, c1, c3, rfl, Codec.serializeData_eq_ok.mp hc1, rfl, Codec.serializeData_eq_ok.mp hc3⟩

theorem HeaderObtained.info (laws : VoucherLaws P) {h : OwnershipVoucherHeader P}
    (hh : HeaderObtained h) : ∃ info, h.hdrInfo = .ok info := by
  cases hh with
  | @new version guid rendezvousInfo deviceInfo key chainHash _ hguid hnew =>
      obtain ⟨_, c1, c3, hget1, hc1, hget3, hc3⟩ := header_new_inv hnew
      have hg : Guid.deserializeData P c1 = .ok guid :=
        Guid.deserializeData_eq_ok.mpr ⟨laws.bstr16 _ _ hc1, hguid⟩
      have ht : P.text.deserializeData c3 = .ok (trim deviceInfo) :=
        Codec.deserializeData_eq_ok.mpr (laws.text _ _ hc3)
      exact ⟨_, hdrInfo_eq_ok.mpr ⟨guid, trim deviceInfo, get_eq_ok.mpr ⟨c1, hget1, hg⟩,
        get_eq_ok.mpr ⟨c3, hget3, ht⟩, rfl⟩⟩
  | deserialized hdec =>
      obtain ⟨contents, _, hof⟩ := Outcome.bind_eq_ok.mp hdec
      obtain ⟨_, _, h₁⟩ := Outcome.bind_eq_ok.mp hof
      obtain ⟨guid, hguid, h₂⟩ := Outcome.bind_eq_ok.mp h₁
      obtain ⟨_, _, h₃⟩ := Outcome.bind_eq_ok.mp h₂
      obtain ⟨deviceInfo, htext, h₄⟩ := Outcome.bind_eq_ok.mp h₃
      obtain ⟨_, _, h₅⟩ := Outcome.bind_eq_ok.mp h₄
      obtain ⟨_, _, h₆⟩ := Outcome.bind_eq_ok.mp h₅
      obtain ⟨_, _, h₇⟩ := Outcome.bind_eq_ok.mp h₆
      obtain rfl := Outcome.ok.inj h₇
      exact ⟨_, hdrInfo_eq_ok.mpr ⟨guid, deviceInfo, hguid, htext, rfl⟩⟩

theorem newEmpty_serializeData :
    (ParsedArray.newEmpty).serializeData = .ok [0x80] := rfl

theorem deserializeData_empty (p : Profile) :
    ParsedArray.deserializeData p .dynamic [0x80] = .ok ParsedArray.newEmpty := by
  cases p <;> decide

/-- A voucher's array holds as many elements as its size says. -/
theorem getRaw_of_lt {N : ParsedArraySize} {a : ParsedArray N} {n k : Nat} (hN : N.size = some k)
    (h : n < k) : ∃ raw, a.contents[n]? = some raw := by
  have hlen := a.sized k hN
  exact ⟨_, List.getElem?_eq_getElem (by omega)⟩

theorem voucher_new_inv {header : OwnershipVoucherHeader P} {hmac : HMac} {chain : Option (X5Chain P)}
    {v : OwnershipVoucher P} (hnew : OwnershipVoucher.new header hmac chain = .ok v) :
    v.cachedHeader = header ∧ v.cachedEntries = ParsedArray.newEmpty ∧
      v.cachedProtocolVersion = .version1_1 ∧ v.contents.contents[4]? = some [0x80] ∧
      ∃ contentsHeader c1 c2, v.contents.contents[1]? = some c1 ∧ v.contents.contents[2]? = some c2 ∧
        P.byteBuf.intoWriter contentsHeader = some c1 := by
  obtain ⟨contentsHeader, _, h₁⟩ := Outcome.bind_eq_ok.mp hnew
  obtain ⟨c0, _, h₂⟩ := Outcome.bind_eq_ok.mp h₁
  obtain ⟨c1, hc1, h₃⟩ := Outcome.bind_eq_ok.mp h₂
  obtain ⟨c2, _, h₄⟩ := Outcome.bind_eq_ok.mp h₃
  obtain ⟨c3, _, h₅⟩ := Outcome.bind_eq_ok.mp h₄
  obtain ⟨c4, hc4, h₆⟩ := Outcome.bind_eq_ok.mp h₅
  obtain rfl := Outcome.ok.inj h₆
  obtain rfl := Outcome.ok.inj (newEmpty_serializeData.symm.trans hc4)
  exact ⟨rfl, rfl, rfl, rfl, contentsHeader, c1, c2, rfl, rfl, Codec.serializeData_eq_ok.mp hc1⟩

theorem Obtained.ready (laws : VoucherLaws P) {v : OwnershipVoucher P} (h : Obtained v) : Ready v := by
  cases h with
  | @new header hmac chain _ hheader hnew =>
      obtain ⟨hcached, hentries, _, hget4, contentsHeader, c1, c2, hget1, hget2, hc1⟩ := voucher_new_inv hnew
      refine ⟨?_, ⟨contentsHeader ++ c2, hdrBytes_eq_ok.mpr ⟨_, _, ?_, hget2, rfl⟩⟩,
        get_eq_ok.mpr ⟨_, hget4, hentries ▸ deserializeData_empty _⟩⟩
      · rw [OwnershipVoucher.header, hcached]
        exact hheader.info laws
      · rw [hget1]
        exact laws.byteBuf _ _ hc1
  | @deserialized data _ hdec =>
      have hparts : ∃ contents, OwnershipVoucher.fromParsedArray P contents = .ok v := by
        unfold OwnershipVoucher.deserializeData at hdec
        split at hdec
        · cases hdec
        · obtain ⟨contents, _, hof⟩ := Outcome.bind_eq_ok.mp hdec
          exact ⟨contents, hof⟩
      obtain ⟨contents, hof⟩ := hparts
      obtain ⟨_, _, h₁⟩ := Outcome.bind_eq_ok.mp hof
      obtain ⟨header, hheader, h₂⟩ := Outcome.bind_eq_ok.mp h₁
      obtain ⟨cached, hcached, h₃⟩ := Outcome.bind_eq_ok.mp h₂
      obtain ⟨_, _, h₄⟩ := Outcome.bind_eq_ok.mp h₃
      obtain ⟨_, _, h₅⟩ := Outcome.bind_eq_ok.mp h₄
      obtain ⟨entries, hentries, h₆⟩ := Outcome.bind_eq_ok.mp h₅
      obtain rfl := Outcome.ok.inj h₆
      obtain ⟨hmac, hhmac⟩ := getRaw_of_lt (a := contents) (n := 2) rfl (by decide)
      obtain ⟨raw, hraw, hbuf⟩ := get_eq_ok.mp hheader
      refine ⟨HeaderObtained.info laws (.deserialized hcached), ⟨header ++ hmac, ?_⟩, hentries⟩
      exact hdrBytes_eq_ok.mpr ⟨header, hmac, by
        rw [hraw]
        exact Codec.deserializeData_eq_ok.mp hbuf, hhmac, rfl⟩

theorem Ready.entries_wellFormed {v : OwnershipVoucher P} (h : Ready v) :
    v.cachedEntries.header = none ∧
      ∀ x ∈ v.cachedEntries.contents, WellFormed (.machine P.profile) x := by
  obtain ⟨raw, _, hdec⟩ := get_eq_ok.mp h.entries
  obtain ⟨⟨a, rest⟩, hread, ha⟩ := Outcome.bind_eq_ok.mp hdec
  obtain rfl := Outcome.ok.inj ha
  obtain ⟨_, _, _, _, _, hheader, hitems⟩ := CborCorrect.deserializeFromReader_ok_iff.mp hread
  exact ⟨by simpa [ParsedArraySize.size] using hheader, hitems⟩

/-! ## The signed entry -/

theorem head_array_four : Head .array 4 [0x84] := ⟨4, [], rfl, .inline (by decide)⟩

theorem head_cose_tag : Head .tag 18 [0xd2] := ⟨18, [], rfl, .inline (by decide)⟩

/-- The array a token is made of, under its tag. -/
def tokenArray (items : List Bytes) (h : items.length = 4) : ParsedArray size4 :=
  ⟨some cosesignTag, some [0xd2, 0x84], items, fun _ hn => h.trans (Option.some.inj hn)⟩

theorem token_serializeData {a : ParsedArray size4} (htag : a.tag = some cosesignTag) :
    a.serializeData = .ok (0xd2 :: 0x84 :: a.contents.flatten) := by
  have hlen : a.contents.length = 4 := a.sized 4 rfl
  have htagHead : encodeItemStart .tag cosesignTag = .ok [0xd2] := rfl
  have harrayHead : encodeItemStart .array 4 = .ok [0x84] := rfl
  simp [ParsedArray.serializeData, htag, hlen, htagHead, harrayHead]

/-- Tokens are written with the tag, parsed as arrays of the same four elements. -/
theorem token_deserializeData {p : Profile} {items : List Bytes} (hlen : items.length = 4)
    (hitems : ∀ x ∈ items, WellFormed (.machine p) x) :
    ParsedArray.deserializeData p size4 (0xd2 :: 0x84 :: items.flatten) =
      .ok (tokenArray items hlen) := by
  have hread : ParsedArray.deserializeFromReader p size4 (0xd2 :: 0x84 :: items.flatten) =
      .ok (tokenArray items hlen, []) :=
    CborCorrect.deserializeFromReader_ok_iff.mpr ⟨[0xd2], [0x84], by simp [tokenArray],
      .some head_cose_tag, hlen.symm ▸ head_array_four, rfl, hitems⟩
  rw [ParsedArray.deserializeData, hread]
  rfl

theorem signed_entry {privateKey : P.PrivateKey} {key : P.PKey} (hs : SignsFor P privateKey key)
    {payload : Bytes} (hp : payload.length ≤ 2 ^ 62) :
    ∃ signed item entry, COSESign.new P payload [] privateKey = .ok signed ∧
      signed.serializeData = .ok item ∧ WellFormed .bounded item ∧
      COSESign.deserializeData P item = .ok entry ∧
      P.verifySignature entry.cachedInner key = some true ∧
      P.getPayload entry.cachedInner none = some payload := by
  obtain ⟨c, items, hnew, hlen, hitems, hwrite, hback, hverify, hpayload⟩ := hs.signs payload hp
  have hmachine : ∀ x ∈ items, WellFormed (.machine P.profile) x :=
    fun x hx => CborExact.bounded_to_machine P.profile (hitems x hx)
  have hread : ParsedArray.deserializeFromReader P.profile size4 (0x84 :: items.flatten) =
      .ok (⟨none, some [0x84], items, fun _ hn => hlen.trans (Option.some.inj hn)⟩, []) :=
    CborCorrect.deserializeFromReader_ok_iff.mpr ⟨[], [0x84], by simp, .none,
      hlen.symm ▸ head_array_four, rfl, hmachine⟩
  have hsigned : COSESign.new P payload [] privateKey =
      .ok ⟨⟨some cosesignTag, some [0x84], items, fun _ hn => hlen.trans (Option.some.inj hn)⟩, c, rfl⟩ := by
    simp [COSESign.new, COSESign.newFromInner, hnew, hwrite, Outcome.ofOption,
      ParsedArray.deserializeData, hread, ParsedArray.setTag]
  have hentry : COSESign.deserializeData P (0xd2 :: 0x84 :: items.flatten) =
      .ok ⟨tokenArray items hlen, c, rfl⟩ := by
    have hser : (tokenArray items hlen).serializeData = .ok (0xd2 :: 0x84 :: items.flatten) :=
      token_serializeData rfl
    have htag : (tokenArray items hlen).tag = some cosesignTag := rfl
    simp [COSESign.deserializeData, token_deserializeData hlen hmachine, COSESign.ofArray, htag,
      hser, hback, Outcome.ofOption]
  refine ⟨_, 0xd2 :: 0x84 :: items.flatten, _, hsigned, ?_, ?_, hentry, hverify, hpayload⟩
  · rw [COSESign.serializeData_eq]
    exact token_serializeData rfl
  · have harray : WellFormed .bounded (0x84 :: items.flatten) := .array head_array_four hlen hitems
    exact .tag head_cose_tag harray

/-! ## One extension -/

/-- What an extension leaves alone: everything but the entries behind the old ones. -/
structure Extends (v v' : OwnershipVoucher P) : Prop where
  protocolVersion : v'.cachedProtocolVersion = v.cachedProtocolVersion
  header : v'.cachedHeader = v.cachedHeader
  hmac : v'.cachedHeaderHmac = v.cachedHeaderHmac
  chain : v'.cachedDeviceCertificateChain = v.cachedDeviceCertificateChain
  contents : ∀ n < 4, v'.contents.contents[n]? = v.contents.contents[n]?
  entries : v.cachedEntries.contents <+: v'.cachedEntries.contents
  entriesTag : v'.cachedEntries.tag = v.cachedEntries.tag

theorem Extends.refl (v : OwnershipVoucher P) : Extends v v :=
  ⟨rfl, rfl, rfl, rfl, fun _ _ => rfl, List.prefix_rfl, rfl⟩

theorem Extends.trans {u v w : OwnershipVoucher P} (h : Extends u v) (h' : Extends v w) :
    Extends u w where
  protocolVersion := h'.protocolVersion.trans h.protocolVersion
  header := h'.header.trans h.header
  hmac := h'.hmac.trans h.hmac
  chain := h'.chain.trans h.chain
  contents n hn := (h'.contents n hn).trans (h.contents n hn)
  entries := h.entries.trans h'.entries
  entriesTag := h'.entriesTag.trans h.entriesTag

theorem Extends.getElem {v v' : OwnershipVoucher P} (h : Extends v v') {i : Nat} {raw : Bytes}
    (hi : v.cachedEntries.contents[i]? = some raw) : v'.cachedEntries.contents[i]? = some raw := by
  obtain ⟨more, hmore⟩ := h.entries
  rw [← hmore, List.getElem?_append_left (List.getElem?_eq_some_iff.mp hi).1, hi]

theorem Extends.previousBytes {v v' : OwnershipVoucher P} (h : Extends v v') {i : Nat} {prev : Bytes}
    (hp : PreviousBytes v i prev) : PreviousBytes v' i prev := by
  cases i with
  | zero =>
      obtain ⟨header, hmac, hheader, hhmac, rfl⟩ := hp
      exact ⟨header, hmac, by rwa [h.contents 1 (by decide)], by rwa [h.contents 2 (by decide)], rfl⟩
  | succ i => exact h.getElem hp

theorem Extends.link {v v' : OwnershipVoucher P} (h : Extends v v') {i : Nat} {key : PublicKey P}
    {p : OwnershipVoucherEntryPayload P} (hl : Link v i key p) : Link v' i key p := by
  obtain ⟨⟨raw, entry, hraw, hentry⟩, ⟨prev, hprev, hdigest⟩, hinfo⟩ := hl
  refine ⟨⟨raw, entry, h.getElem hraw, hentry⟩, ⟨prev, h.previousBytes hprev, hdigest⟩, ?_⟩
  rwa [OwnershipVoucher.header, h.header]

theorem Extends.links {v v' : OwnershipVoucher P} (h : Extends v v') {i : Nat} {key : PublicKey P}
    {ps : List (OwnershipVoucherEntryPayload P)} (hl : Links v i key ps) : Links v' i key ps := by
  induction ps generalizing i key with
  | nil => trivial
  | cons p ps ih => exact ⟨h.link hl.1, ih hl.2⟩

theorem links_append {v : OwnershipVoucher P} {i : Nat} {key : PublicKey P}
    {ps : List (OwnershipVoucherEntryPayload P)} {q : OwnershipVoucherEntryPayload P}
    (hps : Links v i key ps) (hq : Link v (i + ps.length) (lastKey key ps) q) :
    Links v i key (ps ++ [q]) := by
  induction ps generalizing i key with
  | nil => exact ⟨hq, trivial⟩
  | cons p ps ih =>
      refine ⟨hps.1, ih hps.2 ?_⟩
      rwa [lastKey_cons, List.length_cons, Nat.add_comm ps.length 1, ← Nat.add_assoc] at hq

/-- The chain an owner stands at the end of. -/
theorem Owner.chain (laws : CoseLaws P) {v : OwnershipVoucher P} {key : PublicKey P}
    (h : Owner v key) : ∃ ps, ps.length = v.cachedEntries.len ∧
      Links v 0 v.header.cachedManufacturerPublicKey ps ∧
      lastKey v.header.cachedManufacturerPublicKey ps = key := by
  rcases h with ⟨hlen, rfl⟩ | ⟨p, hlast, rfl⟩
  · exact ⟨[], hlen.symm, trivial, rfl⟩
  · obtain ⟨ps, ⟨hlen, hvalid⟩, hp⟩ := (lastEntry_eq_payload laws).mp hlast
    exact ⟨ps, hlen, validPrefix_iff_links.mp hvalid, by simp [lastKey, hp]⟩

theorem owner_of_chain (laws : CoseLaws P) {v : OwnershipVoucher P}
    {ps : List (OwnershipVoucherEntryPayload P)} {p : OwnershipVoucherEntryPayload P}
    (hlen : (ps ++ [p]).length = v.cachedEntries.len)
    (hlinks : Links v 0 v.header.cachedManufacturerPublicKey (ps ++ [p])) :
    v.lastEntry = .ok (some (.ok p)) :=
  (lastEntry_eq_payload laws).mpr ⟨ps ++ [p], ⟨hlen, validPrefix_iff_links.mpr hlinks⟩, by simp⟩

theorem hash_ok (laws : VoucherLaws P) (v : OwnershipVoucher P) (data : Bytes) :
    ∃ h, Hash.fromData P v.hashType data = .ok h ∧ h.IsDigest P data ∧ h.value.length ≤ 64 := by
  have hmd : v.hashType.messageDigest = some v.cachedHeaderHmac.hashType.getMd :=
    HashType.innerHash_messageDigest _
  obtain ⟨d, hd, hlen⟩ := laws.hash_total v.cachedHeaderHmac.hashType.getMd data
  have hdigest : Hash.IsDigest P ⟨v.hashType, d⟩ data := ⟨_, hmd, hd⟩
  exact ⟨⟨v.hashType, d⟩, Hash.fromData_eq_ok.mpr ⟨rfl, hdigest⟩, hdigest, hlen⟩

/-- The unverified read of `extend` finds the owner, and hashes what the validator
will hash for the next entry. -/
theorem currentOwner_ok (laws : VoucherLaws P) (cose : CoseLaws P) {v : OwnershipVoucher P}
    {key : PublicKey P} (hready : Ready v) (howner : Owner v key) :
    ∃ h prev, v.currentOwner = .ok (h, key) ∧ PreviousBytes v v.cachedEntries.len prev ∧
      h.IsDigest P prev ∧ h.value.length ≤ 64 := by
  rcases howner with ⟨hlen, rfl⟩ | ⟨p, hlast, rfl⟩
  · obtain ⟨data, hdata⟩ := hready.bytes
    obtain ⟨h, hh, hdigest, hsize⟩ := hash_ok laws v data
    refine ⟨h, data, ?_, ?_, hdigest, hsize⟩
    · simp [OwnershipVoucher.currentOwner, hlen, OwnershipVoucher.hdrHash, hdata, hh]
    · rw [hlen]
      exact hdrBytes_eq_ok.mp hdata
  · obtain ⟨ps, ⟨hlen, hvalid⟩, hp⟩ := (lastEntry_eq_payload cose).mp hlast
    have hget : ps[ps.length - 1]? = some p := by rwa [List.getLast?_eq_getElem?] at hp
    have hpos : 0 < v.cachedEntries.len := by
      have := (List.getElem?_eq_some_iff.mp hget).1
      omega
    rw [hlen] at hget
    obtain ⟨_, _, hlink⟩ := hvalid _ _ hget
    obtain ⟨raw, entry, hraw, hdec, _, hpayload⟩ := hlink.signed
    obtain ⟨h, hh, hdigest, hsize⟩ := hash_ok laws v raw
    have hentry : v.entry (v.cachedEntries.len - 1) = .ok entry := get_eq_ok.mpr ⟨raw, hraw, hdec⟩
    refine ⟨h, raw, ?_, ?_, hdigest, hsize⟩
    · simp [OwnershipVoucher.currentOwner, hpos.ne', ParsedArray.getHash, getRaw_eq_ok.mpr hraw, hh,
        hentry, hpayload]
    · obtain ⟨n, hn⟩ : ∃ n, v.cachedEntries.len = n + 1 := ⟨v.cachedEntries.len - 1, by omega⟩
      rw [hn] at hraw ⊢
      exact hraw

/-- A handover as the caller asks for it. -/
structure Handover (P : Platform) where
  privateKey : P.PrivateKey
  extra : ExtraType
  nextParty : PublicKey P

/-- The extra map and the next key can be written and read back. -/
structure Handover.Writable (s : Handover P) : Prop where
  keys : ExtraKeysFit s.extra
  size : extraWeight s.extra + s.nextParty.data.length < 2 ^ 60
  reparses : s.nextParty.Reparses

theorem payload_written (laws : VoucherLaws P) {s : Handover P} (hs : s.Writable)
    {prev info : Hash} (hprev : prev.value.length ≤ 64) (hinfo : info.value.length ≤ 64) :
    ∃ data p, OwnershipVoucherEntryPayload.serializeData ⟨prev, info, s.extra, s.nextParty⟩ = .ok data ∧
      data.length ≤ 2 ^ 62 ∧ OwnershipVoucherEntryPayload.deserializeData P data = .ok p ∧
      p.hashPreviousEntry = prev ∧ p.hashHeaderInfo = info ∧ p.publicKey = s.nextParty ∧
      Option.Rel List.Perm p.extra s.extra := by
  let f : EntryPayloadFields := ⟨prev, info, s.extra, s.nextParty.toPublicKeyFields⟩
  have hweight : f.weight < 2 ^ 61 := by
    have := hs.size
    simp only [EntryPayloadFields.weight, f]
    omega
  obtain ⟨data, extra, hwrite, hlen, hread, hperm⟩ := laws.entryPayload f hs.keys hweight
  have hkey : PublicKey.ofFields P f.publicKey = .ok s.nextParty :=
    PublicKey.ofFields_eq_ok.mpr ⟨rfl, hs.reparses⟩
  refine ⟨data, ⟨prev, info, extra, s.nextParty⟩, Codec.serializeData_eq_ok.mpr hwrite, hlen, ?_,
    rfl, rfl, rfl, hperm⟩
  simp only [OwnershipVoucherEntryPayload.deserializeData, Codec.deserializeData_eq_ok.mpr hread,
    Outcome.ok_bind, hkey]
  rfl

/-- The entries with one more, and the array that holds them written again. -/
def appended (v : OwnershipVoucher P) (item raw : Bytes) : OwnershipVoucher P :=
  { v with cachedEntries := v.cachedEntries.push item, contents := v.contents.set 4 raw }

theorem appended_extends (v : OwnershipVoucher P) (item raw : Bytes) :
    Extends v (appended v item raw) where
  protocolVersion := rfl
  header := rfl
  hmac := rfl
  chain := rfl
  contents n hn := by
    simp only [appended, ParsedArray.set]
    rw [List.getElem?_set_ne (by omega)]
  entries := ⟨[item], rfl⟩
  entriesTag := rfl

theorem appended_ready {v : OwnershipVoucher P} {item : Bytes} (hready : Ready v)
    (hitem : WellFormed .bounded item) (htag : TagFits v.cachedEntries.tag)
    (hlen : v.cachedEntries.len + 1 < 2 ^ 16) :
    ∃ raw, (v.cachedEntries.push item).serializeData = .ok raw ∧ Ready (appended v item raw) := by
  obtain ⟨hnone, hitems⟩ := hready.entries_wellFormed
  have htag' : TagFits (v.cachedEntries.push item).tag := htag
  have hlen' : (v.cachedEntries.push item).contents.length < 2 ^ 16 := by
    simpa [ParsedArray.push, ParsedArray.len] using hlen
  have hitems' : ∀ x ∈ (v.cachedEntries.push item).contents, WellFormed (.machine P.profile) x := by
    intro x hx
    rcases List.mem_append.mp hx with hx | hx
    · exact hitems x hx
    · rw [List.mem_singleton.mp hx]
      exact CborExact.bounded_to_machine P.profile hitem
  obtain ⟨_, _, hser, _, _⟩ := serializeData_ok htag' hlen'
  obtain ⟨header, hheader, hback⟩ := deserializeData_serializeData htag' hlen' hitems' hser
  refine ⟨_, hser, hready.info, ?_, ?_⟩
  · obtain ⟨data, hdata⟩ := hready.bytes
    exact ⟨data, hdrBytes_eq_ok.mpr ((appended_extends v item _).previousBytes (hdrBytes_eq_ok.mp hdata))⟩
  · have hsize : v.contents.contents.length = 5 := v.contents.sized 5 rfl
    refine get_eq_ok.mpr ⟨_, ?_, hback.trans ?_⟩
    · simp only [appended, ParsedArray.set]
      exact List.getElem?_set_self (by omega)
    · rw [hheader rfl, ← hnone]
      rfl

theorem extend_eq_signed {v : OwnershipVoucher P} {s : Handover P} {hdrInfo last : Hash}
    {key : PublicKey P} {payload item : Bytes} {signed : COSESign P} {raw : Bytes}
    (hversion : s.extra = none ∨ v.cachedProtocolVersion = .version1_1)
    (hinfo : v.header.getHdrInfoHash v.hashType = .ok hdrInfo)
    (howner : v.currentOwner = .ok (last, key))
    (hkey : key.matchesPkey (P.publicPart s.privateKey) = true)
    (hpayload : OwnershipVoucherEntryPayload.serializeData ⟨last, hdrInfo, s.extra, s.nextParty⟩ =
      .ok payload)
    (hsigned : COSESign.new P payload [] s.privateKey = .ok signed)
    (hitem : signed.serializeData = .ok item)
    (hraw : (v.cachedEntries.push item).serializeData = .ok raw) :
    v.extend s.privateKey s.extra s.nextParty = (.ok (), appended v item raw) := by
  have hguard : ¬ (s.extra.isSome ∧ v.cachedProtocolVersion < .version1_1) := by
    rintro ⟨hsome, hlt⟩
    rcases hversion with hnone | hver
    · simp [hnone] at hsome
    · rw [hver] at hlt
      exact absurd hlt (by decide)
  simp only [OwnershipVoucher.extend, if_neg hguard, hinfo, howner, hkey, hpayload, hsigned, hitem,
    hraw, Outcome.ok_bind, not_true_eq_false, if_false]
  rfl

theorem appended_last (v : OwnershipVoucher P) (item raw : Bytes) :
    (appended v item raw).cachedEntries.contents[v.cachedEntries.len]? = some item := by
  simp [appended, ParsedArray.push, ParsedArray.len]

theorem appended_len (v : OwnershipVoucher P) (item raw : Bytes) :
    (appended v item raw).cachedEntries.len = v.cachedEntries.len + 1 := by
  simp [appended, ParsedArray.push, ParsedArray.len]

/-- The owner's signature over the right hashes makes the new entry the end of the chain. -/
theorem appended_validates (cose : CoseLaws P) {v : OwnershipVoucher P} {key : PublicKey P}
    {item raw payload prev info : Bytes} {entry : COSESign P} {p : OwnershipVoucherEntryPayload P}
    (howner : Owner v key) (hentry : COSESign.deserializeData P item = .ok entry)
    (hverify : P.verifySignature entry.cachedInner key.pkey = some true)
    (hget : P.getPayload entry.cachedInner none = some payload)
    (hdecode : OwnershipVoucherEntryPayload.deserializeData P payload = .ok p)
    (hprev : PreviousBytes v v.cachedEntries.len prev) (hlast : p.hashPreviousEntry.IsDigest P prev)
    (hinfo : v.header.hdrInfo = .ok info) (hdigest : p.hashHeaderInfo.IsDigest P info) :
    (appended v item raw).lastEntry = .ok (some (.ok p)) := by
  have hext := appended_extends v item raw
  have hunverified : entry.getPayloadUnverified (OwnershipVoucherEntryPayload.deserializeData P) = .ok p := by
    simp [COSESign.getPayloadUnverified, hget, Outcome.ofOption, hdecode]
  -- the new link: its bytes stand behind the old entries
  have hlink : Link (appended v item raw) v.cachedEntries.len key p :=
    { signed := ⟨item, entry, appended_last v item raw, hentry, hverify, hunverified⟩
      previous := ⟨prev, hext.previousBytes hprev, hlast⟩
      header := ⟨info, hinfo, hdigest⟩ }
  obtain ⟨ps, hpslen, hlinks, hkey⟩ := howner.chain cose
  refine owner_of_chain cose ?_ (links_append (hext.links hlinks) ?_)
  · rw [appended_len, List.length_append, hpslen, List.length_singleton]
  · rw [Nat.zero_add, hpslen]
    exact hkey ▸ hlink

theorem extend_step (laws : VoucherLaws P) (cose : CoseLaws P) {v : OwnershipVoucher P}
    {key : PublicKey P} {s : Handover P} (hready : Ready v) (howner : Owner v key)
    (hsign : SignsFor P s.privateKey key.pkey) (hs : s.Writable)
    (hversion : s.extra = none ∨ v.cachedProtocolVersion = .version1_1)
    (htag : TagFits v.cachedEntries.tag) (hlen : v.cachedEntries.len + 1 < 2 ^ 16) :
    ∃ v' p, v.extend s.privateKey s.extra s.nextParty = (.ok (), v') ∧ Extends v v' ∧ Ready v' ∧
      v'.cachedEntries.len = v.cachedEntries.len + 1 ∧ v'.lastEntry = .ok (some (.ok p)) ∧
      p.publicKey = s.nextParty := by
  obtain ⟨info, hinfo⟩ := hready.info
  obtain ⟨hdrInfo, hhash, hdigest, hsize⟩ := hash_ok laws v info
  obtain ⟨last, prev, hcurrent, hprev, hlast, hlastSize⟩ := currentOwner_ok laws cose hready howner
  obtain ⟨payload, p, hpayload, hplen, hdecode, hpprev, hpinfo, hpkey, _⟩ :=
    payload_written laws hs hlastSize hsize
  obtain ⟨signed, item, entry, hsigned, hitem, hwf, hentry, hverify, hget⟩ := signed_entry hsign hplen
  obtain ⟨raw, hraw, hready'⟩ := appended_ready hready hwf htag hlen
  have hgetInfo : v.header.getHdrInfoHash v.hashType = .ok hdrInfo :=
    Outcome.bind_eq_ok.mpr ⟨info, hinfo, hhash⟩
  refine ⟨appended v item raw, p, extend_eq_signed hversion hgetInfo hcurrent hsign.matching hpayload
    hsigned hitem hraw, appended_extends v item raw, hready', appended_len v item raw, ?_, hpkey⟩
  exact appended_validates cose howner hentry hverify hget hdecode hprev (hpprev ▸ hlast) hinfo (hpinfo ▸ hdigest)

/-- A key that is not the owner's changes nothing. -/
theorem extend_rejects (laws : VoucherLaws P) (cose : CoseLaws P) {v : OwnershipVoucher P}
    {key : PublicKey P} {s : Handover P} (hready : Ready v) (howner : Owner v key)
    (hkey : key.matchesPkey (P.publicPart s.privateKey) = false) :
    ∃ e, v.extend s.privateKey s.extra s.nextParty = (.err e, v) := by
  obtain ⟨info, hinfo⟩ := hready.info
  obtain ⟨hdrInfo, hhash, _⟩ := hash_ok laws v info
  obtain ⟨last, prev, hcurrent, _⟩ := currentOwner_ok laws cose hready howner
  have hgetInfo : v.header.getHdrInfoHash v.hashType = .ok hdrInfo :=
    Outcome.bind_eq_ok.mpr ⟨info, hinfo, hhash⟩
  unfold OwnershipVoucher.extend
  split
  · exact ⟨_, rfl⟩
  · exact ⟨.nonOwnerKey, by simp [hgetInfo, hcurrent, hkey]⟩

/-! ## Any number of extensions -/

def extendAll (v : OwnershipVoucher P) : List (Handover P) → Outcome Error Unit × OwnershipVoucher P
  | [] => (.ok (), v)
  | s :: steps =>
    match v.extend s.privateKey s.extra s.nextParty with
    | (.ok (), v) => extendAll v steps
    | failed => failed

/-- Each handover is made with the private key of the owner at that point; an
extra map needs protocol version 1.1. -/
def Authorised (version : ProtocolVersion) : PublicKey P → List (Handover P) → Prop
  | _, [] => True
  | key, s :: steps => SignsFor P s.privateKey key.pkey ∧ s.Writable ∧
      (s.extra = none ∨ version = .version1_1) ∧ Authorised version s.nextParty steps

def finalOwner (key : PublicKey P) : List (Handover P) → PublicKey P
  | [] => key
  | s :: steps => finalOwner s.nextParty steps

/-- Induction on the handovers: what one of them keeps, `Ready` and `Owner`, is
what the next one needs. -/
theorem extendAll_ok (laws : VoucherLaws P) (cose : CoseLaws P) {v : OwnershipVoucher P}
    {key : PublicKey P} {steps : List (Handover P)} (hready : Ready v) (howner : Owner v key)
    (hsteps : Authorised v.cachedProtocolVersion key steps) (htag : TagFits v.cachedEntries.tag)
    (hlen : v.cachedEntries.len + steps.length < 2 ^ 16) :
    ∃ v', extendAll v steps = (.ok (), v') ∧ Extends v v' ∧ Ready v' ∧
      v'.cachedEntries.len = v.cachedEntries.len + steps.length ∧ Owner v' (finalOwner key steps) := by
  induction steps generalizing v key with
  | nil => exact ⟨v, rfl, Extends.refl v, hready, rfl, howner⟩
  | cons s steps ih =>
      obtain ⟨hsign, hs, hversion, hrest⟩ := hsteps
      simp only [List.length_cons] at hlen
      obtain ⟨v₁, p, hext, hextends, hready₁, hlen₁, hlast, hkey⟩ :=
        extend_step laws cose hready howner hsign hs hversion htag (by omega)
      obtain ⟨v', hrun, hextends', hready', hlen', howner'⟩ := ih hready₁ (.inr ⟨p, hlast, hkey⟩)
        (by rwa [hextends.protocolVersion]) (by rwa [hextends.entriesTag]) (by omega)
      refine ⟨v', by simp only [extendAll, hext, hrun], hextends.trans hextends', hready', ?_, howner'⟩
      simp only [List.length_cons]
      omega

/-- After any authorised sequence of handovers the voucher is the old one with one
entry more for each, it validates with the last next party as owner, its entries
are the parse of what is serialized, and any other key is turned away without a trace. -/
theorem extendAll_preserves_chain (laws : VoucherLaws P) (cose : CoseLaws P) {v : OwnershipVoucher P}
    {key : PublicKey P} {steps : List (Handover P)} (hv : Obtained v) (howner : Owner v key)
    (hsteps : Authorised v.cachedProtocolVersion key steps) (htag : TagFits v.cachedEntries.tag)
    (hlen : v.cachedEntries.len + steps.length < 2 ^ 16) :
    ∃ v', extendAll v steps = (.ok (), v') ∧ Extends v v' ∧
      v'.cachedEntries.len = v.cachedEntries.len + steps.length ∧
      v'.contents.get (ParsedArray.deserializeData P.profile .dynamic) 4 = .ok v'.cachedEntries ∧
      (steps ≠ [] → ∃ p, v'.lastEntry = .ok (some (.ok p)) ∧ p.publicKey = finalOwner key steps) ∧
      ∀ s : Handover P, (finalOwner key steps).matchesPkey (P.publicPart s.privateKey) = false →
        ∃ e, v'.extend s.privateKey s.extra s.nextParty = (.err e, v') := by
  have hready := hv.ready laws
  obtain ⟨v', hrun, hextends, hready', hlen', howner'⟩ :=
    extendAll_ok laws cose hready howner hsteps htag hlen
  refine ⟨v', hrun, hextends, hlen', hready'.entries, fun hne => ?_,
    fun s hs => extend_rejects laws cose hready' howner' hs⟩
  rcases howner' with ⟨hzero, _⟩ | hlast
  · have : 0 < steps.length := List.length_pos_iff.mpr hne
    omega
  · exact hlast

open Reference

theorem sampleKey_reparses (id : UInt8) : (sampleKey id).Reparses := by
  simp [PublicKey.Reparses, PublicKey.new, PublicKey.parseData, sampleKey, reference, nonEmpty,
    Outcome.ofOption]

theorem sampleBlank_owner : ∃ v, sampleBlank = .ok v ∧ Obtained v ∧ Owner v (sampleKey 1) ∧
    v.cachedProtocolVersion = .version1_1 ∧ v.cachedEntries = ParsedArray.newEmpty := by
  have hblank : sampleBlank.isOk = true := by decide +kernel
  obtain ⟨v, hv⟩ := Outcome.isOk_iff.mp hblank
  obtain ⟨header, hsample, h₁⟩ := Outcome.bind_eq_ok.mp hv
  obtain ⟨_, _, hnew⟩ := Outcome.bind_eq_ok.mp h₁
  obtain ⟨_, _, h₂⟩ := Outcome.bind_eq_ok.mp hsample
  obtain ⟨_, _, hheader⟩ := Outcome.bind_eq_ok.mp h₂
  obtain ⟨hcached, hentries, hversion, _⟩ := voucher_new_inv hnew
  refine ⟨v, hv, .new (.new (by decide) hheader) hnew, .inl ⟨by rw [hentries]; rfl, ?_⟩, hversion, hentries⟩
  rw [OwnershipVoucher.header, hcached, (header_new_inv hheader).1]

/-- A new voucher handed from key 1 to key 2, with an extra map, and on to key 3. -/
theorem extendAll_preserves_chain_sample : ∃ v v', sampleBlank = .ok v ∧
    extendAll v [⟨[1, 1], some [(1, [5, 6])], sampleKey 2⟩, ⟨[2, 1], none, sampleKey 3⟩] = (.ok (), v') ∧
    ∃ p, v'.lastEntry = .ok (some (.ok p)) ∧ p.publicKey = sampleKey 3 := by
  obtain ⟨v, hv, hobtained, howner, hversion, hentries⟩ := sampleBlank_owner
  have hsteps : Authorised v.cachedProtocolVersion (sampleKey 1)
      [⟨[1, 1], some [(1, [5, 6])], sampleKey 2⟩, ⟨[2, 1], none, sampleKey 3⟩] :=
    ⟨signsFor _ _, ⟨by simp [ExtraKeysFit], by decide, sampleKey_reparses 2⟩, .inr hversion,
      signsFor _ _, ⟨by simp [ExtraKeysFit], by decide, sampleKey_reparses 3⟩, .inl rfl, trivial⟩
  obtain ⟨v', hrun, _, _, _, hlast, _⟩ := extendAll_preserves_chain (voucherLaws .release)
    (coseLaws .release) hobtained howner hsteps
    (by rw [hentries]; simp [TagFits, ParsedArray.newEmpty]) (by rw [hentries]; decide)
  exact ⟨v, v', hv, hrun, hlast (by simp)⟩

/-- A voucher of protocol version 1.0 with five elements, as it may be read from a file. -/
def version1_0Voucher : Outcome Error (OwnershipVoucher (reference .release)) := do
  let v ← sampleBlank
  let data ← { v with contents := v.contents.set 0 [0x18, 100] }.serializeData
  OwnershipVoucher.deserializeData (reference .release) data

def manufacturerDer (v : OwnershipVoucher (reference .release)) : Bytes :=
  v.header.cachedManufacturerPublicKey.pkey

/-- The owner of a version 1.0 voucher cannot add an entry with an extra map. -/
theorem extend_refuses_extra_version1_0 :
    ¬ ∀ (v : OwnershipVoucher (reference .release)) (key : PublicKey (reference .release))
      (s : Handover (reference .release)), Obtained v → Owner v key →
      SignsFor (reference .release) s.privateKey key.pkey → s.Writable →
      (v.extend s.privateKey s.extra s.nextParty).1 = .ok () := by
  intro h
  have hfacts : (version1_0Voucher >>= fun v => .ok (decide (v.cachedEntries.len = 0 ∧
      v.cachedProtocolVersion = .version1_0 ∧ manufacturerDer v = [1, 1])) : Outcome Error Bool) =
      .ok true := by decide +kernel
  obtain ⟨v, hv, hdecide⟩ := Outcome.bind_eq_ok.mp hfacts
  obtain ⟨hlen, hversion, hkey⟩ := of_decide_eq_true (Outcome.ok.inj hdecide)
  obtain ⟨_, _, h₁⟩ := Outcome.bind_eq_ok.mp hv
  obtain ⟨data, _, hread⟩ := Outcome.bind_eq_ok.mp h₁
  have hsign : SignsFor (reference .release) [1, 1] v.header.cachedManufacturerPublicKey.pkey := by
    have hpkey : v.header.cachedManufacturerPublicKey.pkey = ([1, 1] : Bytes) := hkey
    rw [hpkey]
    exact signsFor _ _
  have hok := h v v.header.cachedManufacturerPublicKey ⟨[1, 1], some [], sampleKey 2⟩
    (.deserialized hread) (.inl ⟨hlen, rfl⟩) hsign
    ⟨by simp [ExtraKeysFit], by decide, sampleKey_reparses 2⟩
  have hguard : (some [] : ExtraType).isSome ∧ v.cachedProtocolVersion < .version1_1 :=
    ⟨rfl, by rw [hversion]; decide⟩
  rw [OwnershipVoucher.extend, if_pos hguard] at hok
  cases hok

end FidoOnboard.VoucherExtend
