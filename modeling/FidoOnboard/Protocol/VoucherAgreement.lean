import FidoOnboard.Protocol.VoucherTransfer

/-!
# Owner and device on the same voucher

The owner validates the bytes it has stored, the device the bytes it has written
after reading them. Signatures are over the payloads and do not notice; the hashes
that link the entries do.
-/
namespace FidoOnboard.VoucherAgreement
open CborParser VoucherChain VoucherTransfer

variable {P : Platform}

/-- An entry on its way: read by the owner, sent, read by the device and written again. -/
def transferred (P : Platform) (entryNum : Nat) (raw : Bytes) : Outcome Error Bytes := do
  let entry ← COSESign.deserializeData P raw
  let message ← OVNextEntry.serializeData ⟨entryNum, entry⟩
  let received ← OVNextEntry.deserializeData P message
  received.entry.serializeData

/-- All entries from `entryNum` on, pushed behind those that are there. -/
def transferAll (P : Platform) (entryNum : Nat) : List Bytes → ParsedArray .dynamic →
    Outcome Error (ParsedArray .dynamic)
  | [], entries => .ok entries
  | raw :: raws, entries => do
    let item ← transferred P entryNum raw
    transferAll P (entryNum + 1) raws (entries.push item)

/-- The voucher as the device puts it together in TO2. -/
def rebuild (v : OwnershipVoucher P) : Outcome Error (OwnershipVoucher P) := do
  let header ← v.headerRaw
  let entries ← transferAll P 0 v.cachedEntries.contents ParsedArray.newEmpty
  OwnershipVoucher.fromParts .version1_1 header v.headerHmac entries

/-- Both find an owner, the same one, or neither does. -/
def Agree (v v' : OwnershipVoucher P) : Prop :=
  (∃ p p', v.lastEntry = .ok (some (.ok p)) ∧ v'.lastEntry = .ok (some (.ok p')) ∧
    p.publicKey = p'.publicKey) ∨
  (∀ p, v.lastEntry ≠ .ok (some (.ok p))) ∧ ∀ p, v'.lastEntry ≠ .ok (some (.ok p))

/-! ## The entries that arrive -/

theorem transferred_iff (laws : TransferLaws P) {n : Nat} (hn : n < 2 ^ 16) {raw item : Bytes} :
    transferred P n raw = .ok item ↔ Sent P raw item := by
  constructor
  · intro h
    obtain ⟨token, hdecode, h₁⟩ := Outcome.bind_eq_ok.mp h
    obtain ⟨data, hdata, hback⟩ := ovNextEntry_roundTrip laws hn hdecode
    simp only [hdata, hback, Outcome.ok_bind, token_rewritten, Outcome.ok.injEq] at h₁
    exact ⟨token, hdecode, h₁.symm⟩
  · rintro ⟨token, hdecode, rfl⟩
    obtain ⟨data, hdata, hback⟩ := ovNextEntry_roundTrip laws hn hdecode
    simp only [transferred, hdecode, hdata, hback, Outcome.ok_bind, token_rewritten]
    rfl

theorem transferAll_ok (laws : TransferLaws P) {n : Nat} {raws items : List Bytes}
    (hn : n + raws.length ≤ 2 ^ 16) (h : List.Forall₂ (Sent P) raws items) (entries : ParsedArray .dynamic) :
    transferAll P n raws entries = .ok { entries with
      contents := entries.contents ++ items, sized := ParsedArraySize.sized_of_none rfl _ } := by
  induction h generalizing n entries with
  | nil => simp only [transferAll, List.append_nil]
  | @cons raw item raws items hsent _ ih =>
      rw [List.length_cons] at hn
      have hitem : transferred P n raw = .ok item := (transferred_iff laws (by omega)).mpr hsent
      simp only [transferAll, hitem, Outcome.ok_bind]
      rw [ih (by omega) (entries.push item)]
      simp only [ParsedArray.push, List.append_assoc, List.singleton_append]

theorem transferAll_sent (laws : TransferLaws P) {n : Nat} {raws : List Bytes}
    (hn : n + raws.length ≤ 2 ^ 16) {entries entries' : ParsedArray .dynamic}
    (h : transferAll P n raws entries = .ok entries') :
    ∃ items, entries'.contents = entries.contents ++ items ∧ List.Forall₂ (Sent P) raws items := by
  induction raws generalizing n entries with
  | nil =>
      obtain rfl := Outcome.ok.inj h
      exact ⟨[], (List.append_nil _).symm, .nil⟩
  | cons raw raws ih =>
      rw [List.length_cons] at hn
      obtain ⟨item, hitem, hrest⟩ := Outcome.bind_eq_ok.mp h
      obtain ⟨items, hitems, hsent⟩ := ih (by omega) hrest
      refine ⟨item :: items, ?_, .cons ((transferred_iff laws (by omega)).mp hitem) hsent⟩
      rw [hitems]
      simp only [ParsedArray.push, List.append_assoc, List.singleton_append]

/-! ## What the two vouchers share -/

/-- Entry `i` as far as its token goes: signed with `key`, for this header. -/
structure SignedBy (v : OwnershipVoucher P) (i : Nat) (key : PublicKey P)
    (p : OwnershipVoucherEntryPayload P) : Prop where
  signed : ∃ raw entry, v.cachedEntries.contents[i]? = some raw ∧
    COSESign.deserializeData P raw = .ok entry ∧
    P.verifySignature entry.cachedInner key.pkey = some true ∧
    entry.getPayloadUnverified (OwnershipVoucherEntryPayload.deserializeData P) = .ok p
  header : ∃ info, v.header.hdrInfo = .ok info ∧ p.hashHeaderInfo.IsDigest P info

/-- Each entry is signed with the key of the one before it; `ps` are the payloads. -/
def SignedChain (v : OwnershipVoucher P) (ps : List (OwnershipVoucherEntryPayload P)) : Prop :=
  ps.length = v.cachedEntries.len ∧
    ∀ i p, ps[i]? = some p → ∃ key, signerKey v ps i = some key ∧ SignedBy v i key p

/-- The payloads name what comes before them, under one reading of what that is. -/
def Bound (previous : Nat → Bytes → Prop) (ps : List (OwnershipVoucherEntryPayload P)) : Prop :=
  ∀ i p, ps[i]? = some p → ∃ prev, previous i prev ∧ p.hashPreviousEntry.IsDigest P prev

/-- `PreviousBytes` after everything was read and written once. -/
def WrittenBytes (v : OwnershipVoucher P) : Nat → Bytes → Prop
  | 0, prev => ∃ header hmac, v.contents.contents[1]?.bind P.byteBuf.fromSlice = some header ∧
      P.hashCodec.intoWriter v.headerHmac = some hmac ∧ prev = header ++ hmac
  | i + 1, prev => ∃ raw, v.cachedEntries.contents[i]? = some raw ∧ Sent P raw prev

theorem validChain_iff {v : OwnershipVoucher P} {ps : List (OwnershipVoucherEntryPayload P)} :
    ValidChain v ps ↔ SignedChain v ps ∧ Bound (PreviousBytes v) ps := by
  constructor
  · rintro ⟨hlen, hlinks⟩
    refine ⟨⟨hlen, fun i p hp => ?_⟩, fun i p hp => ?_⟩
    · obtain ⟨key, hkey, hlink⟩ := hlinks i p hp
      exact ⟨key, hkey, hlink.signed, hlink.header⟩
    · obtain ⟨_, _, hlink⟩ := hlinks i p hp
      exact hlink.previous
  · rintro ⟨⟨hlen, hsigned⟩, hbound⟩
    refine ⟨hlen, fun i p hp => ?_⟩
    obtain ⟨key, hkey, h⟩ := hsigned i p hp
    exact ⟨key, hkey, h.signed, hbound i p hp, h.header⟩

/-- The payload of an entry is in its bytes. -/
theorem SignedBy.unique {v : OwnershipVoucher P} {i : Nat} {key key' : PublicKey P}
    {p q : OwnershipVoucherEntryPayload P} (hp : SignedBy v i key p) (hq : SignedBy v i key' q) : p = q := by
  obtain ⟨raw, entry, hraw, hdecode, _, hpayload⟩ := hp.signed
  obtain ⟨raw', entry', hraw', hdecode', _, hpayload'⟩ := hq.signed
  obtain rfl := Option.some.inj (hraw.symm.trans hraw')
  obtain rfl := Outcome.ok.inj (hdecode.symm.trans hdecode')
  exact Outcome.ok.inj (hpayload.symm.trans hpayload')

theorem SignedChain.unique {v : OwnershipVoucher P} {ps qs : List (OwnershipVoucherEntryPayload P)}
    (hps : SignedChain v ps) (hqs : SignedChain v qs) : ps = qs := by
  have hlen : ps.length = qs.length := hps.1.trans hqs.1.symm
  apply List.ext_getElem hlen
  intro i hi hi'
  obtain ⟨_, _, hp⟩ := hps.2 i _ (List.getElem?_eq_getElem hi)
  obtain ⟨_, _, hq⟩ := hqs.2 i _ (List.getElem?_eq_getElem hi')
  exact hp.unique hq

/-- What the device's voucher has of the owner's. -/
structure Rebuilt (v v' : OwnershipVoucher P) : Prop where
  header : v'.header = v.header
  entries : List.Forall₂ (Sent P) v.cachedEntries.contents v'.cachedEntries.contents
  bytes : ∃ header hmac, v.contents.contents[1]?.bind P.byteBuf.fromSlice = some header ∧
    v'.contents.contents[1]?.bind P.byteBuf.fromSlice = some header ∧
    P.hashCodec.intoWriter v.headerHmac = some hmac ∧ v'.contents.contents[2]? = some hmac

theorem deserialized_header {data : Bytes} {v : OwnershipVoucher P}
    (h : OwnershipVoucher.deserializeData P data = .ok v) :
    ∃ header, v.contents.get P.byteBuf.deserializeData 1 = .ok header ∧
      OwnershipVoucherHeader.deserializeData P header = .ok v.header := by
  unfold OwnershipVoucher.deserializeData at h
  split at h
  · cases h
  · obtain ⟨contents, _, hof⟩ := Outcome.bind_eq_ok.mp h
    obtain ⟨_, _, h₁⟩ := Outcome.bind_eq_ok.mp hof
    obtain ⟨header, hheader, h₂⟩ := Outcome.bind_eq_ok.mp h₁
    obtain ⟨cached, hcached, h₃⟩ := Outcome.bind_eq_ok.mp h₂
    obtain ⟨_, _, h₄⟩ := Outcome.bind_eq_ok.mp h₃
    obtain ⟨_, _, h₅⟩ := Outcome.bind_eq_ok.mp h₄
    obtain ⟨_, _, h₆⟩ := Outcome.bind_eq_ok.mp h₅
    obtain rfl := Outcome.ok.inj h₆
    exact ⟨header, hheader, hcached⟩

theorem rebuild_rebuilt (laws : TransferLaws P) (hbuf : P.byteBuf.Faithful) {data : Bytes}
    {v v' : OwnershipVoucher P} (hv : OwnershipVoucher.deserializeData P data = .ok v)
    (hlen : v.cachedEntries.len < 2 ^ 16) (h : rebuild v = .ok v') : Rebuilt v v' := by
  obtain ⟨header, hget, hheader⟩ := deserialized_header hv
  obtain ⟨header', hheader', h₁⟩ := Outcome.bind_eq_ok.mp h
  obtain ⟨entries, hentries, hparts⟩ := Outcome.bind_eq_ok.mp h₁
  obtain rfl := Outcome.ok.inj (hget.symm.trans (Outcome.unwrap_eq_ok.mp hheader'))
  obtain ⟨rfl, hcached, headerRaw, hmacRaw, hheaderRaw, hhmacRaw, hget₁, hget₂⟩ :=
    Client.fromParts_ok hparts
  have hcount : 0 + v.cachedEntries.contents.length ≤ 2 ^ 16 := by
    simp only [ParsedArray.len] at hlen
    omega
  obtain ⟨items, hitems, hsent⟩ := transferAll_sent laws hcount hentries
  obtain ⟨raw, hraw, hdecode⟩ := get_eq_ok.mp hget
  refine ⟨Outcome.ok.inj (hcached.symm.trans hheader), ?_, header, hmacRaw, ?_, ?_, hhmacRaw, hget₂⟩
  · rw [hitems]
    exact hsent
  · rw [hraw]
    exact Codec.deserializeData_eq_ok.mp hdecode
  · rw [hget₁]
    exact hbuf _ _ hheaderRaw

section Rebuilt

variable {v v' : OwnershipVoucher P} (h : Rebuilt v v')

include h

theorem Rebuilt.len : v'.cachedEntries.len = v.cachedEntries.len := h.entries.length_eq.symm

theorem Rebuilt.getElem {i : Nat} {raw : Bytes} (hraw : v.cachedEntries.contents[i]? = some raw) :
    ∃ item, v'.cachedEntries.contents[i]? = some item ∧ Sent P raw item := by
  obtain ⟨hlen, hsent⟩ := List.forall₂_iff_get.mp h.entries
  obtain ⟨hlt, rfl⟩ := List.getElem?_eq_some_iff.mp hraw
  exact ⟨_, List.getElem?_eq_getElem (hlen ▸ hlt), hsent i hlt (hlen ▸ hlt)⟩

theorem Rebuilt.getElem_inv {i : Nat} {item : Bytes} (hitem : v'.cachedEntries.contents[i]? = some item) :
    ∃ raw, v.cachedEntries.contents[i]? = some raw ∧ Sent P raw item := by
  obtain ⟨hlen, hsent⟩ := List.forall₂_iff_get.mp h.entries
  obtain ⟨hlt, rfl⟩ := List.getElem?_eq_some_iff.mp hitem
  exact ⟨_, List.getElem?_eq_getElem (hlen ▸ hlt), hsent i (hlen ▸ hlt) hlt⟩

theorem Rebuilt.previousBytes {i : Nat} {prev : Bytes} :
    PreviousBytes v' i prev ↔ WrittenBytes v i prev := by
  cases i with
  | zero =>
      obtain ⟨header, hmac, hheader, hheader', hhmac, hhmac'⟩ := h.bytes
      simp only [PreviousBytes, WrittenBytes, hheader, hheader', hhmac, hhmac']
  | succ i =>
      constructor
      · exact fun hprev => h.getElem_inv hprev
      · rintro ⟨raw, hraw, token, hdecode, rfl⟩
        obtain ⟨item, hitem, token', hdecode', rfl⟩ := h.getElem hraw
        obtain rfl := Outcome.ok.inj (hdecode.symm.trans hdecode')
        exact hitem

/-- Reading a token once more changes nothing that its signature or payload depends on. -/
theorem Rebuilt.signedBy {i : Nat} {key : PublicKey P} {p : OwnershipVoucherEntryPayload P} :
    SignedBy v' i key p ↔ SignedBy v i key p := by
  constructor
  · rintro ⟨⟨item, entry, hitem, hentry, hverify, hpayload⟩, hheader⟩
    obtain ⟨raw, hraw, token, hdecode, rfl⟩ := h.getElem_inv hitem
    obtain rfl := Outcome.ok.inj (hentry.symm.trans (token_reread hdecode))
    exact ⟨⟨raw, token, hraw, hdecode, hverify, hpayload⟩, h.header ▸ hheader⟩
  · rintro ⟨⟨raw, token, hraw, hdecode, hverify, hpayload⟩, hheader⟩
    obtain ⟨item, hitem, token', hdecode', rfl⟩ := h.getElem hraw
    obtain rfl := Outcome.ok.inj (hdecode.symm.trans hdecode')
    exact ⟨⟨_, reread token, hitem, token_reread hdecode, hverify, hpayload⟩, h.header.symm ▸ hheader⟩

theorem Rebuilt.signedChain {ps : List (OwnershipVoucherEntryPayload P)} :
    SignedChain v' ps ↔ SignedChain v ps := by
  have hkey : ∀ i, signerKey v' ps i = signerKey v ps i := by
    intro i
    cases i with
    | zero => simp only [signerKey, h.header]
    | succ i => rfl
  simp only [SignedChain, h.len, hkey, h.signedBy]

/-- The device's view: the same signatures, over the bytes as they are written. -/
theorem Rebuilt.validChain {ps : List (OwnershipVoucherEntryPayload P)} :
    ValidChain v' ps ↔ SignedChain v ps ∧ Bound (WrittenBytes v) ps := by
  simp only [validChain_iff, h.signedChain, Bound, h.previousBytes]

end Rebuilt

/-! ## When they agree -/

/-- The signed hashes fit the stored bytes exactly when they fit the written ones. -/
def HashedAlike (v : OwnershipVoucher P) : Prop :=
  ∀ ps, SignedChain v ps → (Bound (PreviousBytes v) ps ↔ Bound (WrittenBytes v) ps)

/-- What is hashed, the HMAC and every entry but the last, is stored as it would be written. -/
def Canonical (v : OwnershipVoucher P) : Prop :=
  v.contents.contents[2]? = P.hashCodec.intoWriter v.headerHmac ∧
    ∀ i raw, i + 1 < v.cachedEntries.len → v.cachedEntries.contents[i]? = some raw → Sent P raw raw

theorem sent_unique {raw item item' : Bytes} (h : Sent P raw item) (h' : Sent P raw item') :
    item = item' := by
  obtain ⟨token, hdecode, rfl⟩ := h
  obtain ⟨token', hdecode', rfl⟩ := h'
  rw [Outcome.ok.inj (hdecode.symm.trans hdecode')]

theorem Canonical.hashedAlike {v : OwnershipVoucher P} (h : Canonical v) : HashedAlike v := by
  intro ps hsigned
  have hsame : ∀ i < ps.length, ∀ prev, PreviousBytes v i prev ↔ WrittenBytes v i prev := by
    intro i hi prev
    cases i with
    | zero => simp only [PreviousBytes, WrittenBytes, h.1]
    | succ i =>
        rw [hsigned.1] at hi
        constructor
        · exact fun hraw => ⟨prev, hraw, h.2 i prev hi hraw⟩
        · rintro ⟨raw, hraw, hsent⟩
          rw [sent_unique hsent (h.2 i raw hi hraw)]
          exact hraw
  constructor
  · intro hbound i p hp
    obtain ⟨prev, hprev, hdigest⟩ := hbound i p hp
    exact ⟨prev, (hsame i (List.getElem?_eq_some_iff.mp hp).1 prev).mp hprev, hdigest⟩
  · intro hbound i p hp
    obtain ⟨prev, hprev, hdigest⟩ := hbound i p hp
    exact ⟨prev, (hsame i (List.getElem?_eq_some_iff.mp hp).1 prev).mpr hprev, hdigest⟩

/-- There is an owner when there is a chain that is not empty. -/
def Owned (v : OwnershipVoucher P) : Prop := ∃ ps, ps ≠ [] ∧ ValidChain v ps

theorem owned_iff (cose : CoseLaws P) {v : OwnershipVoucher P} :
    Owned v ↔ ∃ p, v.lastEntry = .ok (some (.ok p)) := by
  constructor
  · rintro ⟨ps, hne, hvalid⟩
    exact ⟨ps.getLast hne, (lastEntry_eq_payload cose).mpr ⟨ps, hvalid, List.getLast?_eq_some_getLast hne⟩⟩
  · rintro ⟨p, hlast⟩
    obtain ⟨ps, hvalid, hp⟩ := (lastEntry_eq_payload cose).mp hlast
    exact ⟨ps, fun hnil => by simp [hnil] at hp, hvalid⟩

theorem Rebuilt.agree_iff (cose : CoseLaws P) {v v' : OwnershipVoucher P} (h : Rebuilt v v') :
    Agree v v' ↔ (Owned v ↔ Owned v') := by
  constructor
  · rintro (⟨p, p', hp, hp', _⟩ | ⟨hnone, hnone'⟩)
    · exact ⟨fun _ => (owned_iff cose).mpr ⟨p', hp'⟩, fun _ => (owned_iff cose).mpr ⟨p, hp⟩⟩
    · simp only [owned_iff cose]
      exact ⟨fun ⟨p, hp⟩ => absurd hp (hnone p), fun ⟨p, hp⟩ => absurd hp (hnone' p)⟩
  · intro hiff
    by_cases howned : Owned v
    · obtain ⟨p, hp⟩ := (owned_iff cose).mp howned
      obtain ⟨p', hp'⟩ := (owned_iff cose).mp (hiff.mp howned)
      obtain ⟨ps, hvalid, hlast⟩ := (lastEntry_eq_payload cose).mp hp
      obtain ⟨ps', hvalid', hlast'⟩ := (lastEntry_eq_payload cose).mp hp'
      obtain rfl := (validChain_iff.mp hvalid).1.unique (h.validChain.mp hvalid').1
      refine .inl ⟨p, p', hp, hp', ?_⟩
      rw [Option.some.inj (hlast.symm.trans hlast')]
    · refine .inr ⟨fun p hp => howned ((owned_iff cose).mpr ⟨p, hp⟩), fun p hp => ?_⟩
      exact howned (hiff.mpr ((owned_iff cose).mpr ⟨p, hp⟩))

theorem Rebuilt.hashedAlike_iff {v v' : OwnershipVoucher P} (h : Rebuilt v v') :
    HashedAlike v ↔ (Owned v ↔ Owned v') := by
  constructor
  · intro halike
    constructor
    · rintro ⟨ps, hne, hvalid⟩
      obtain ⟨hsigned, hbound⟩ := validChain_iff.mp hvalid
      exact ⟨ps, hne, h.validChain.mpr ⟨hsigned, (halike ps hsigned).mp hbound⟩⟩
    · rintro ⟨ps, hne, hvalid⟩
      obtain ⟨hsigned, hbound⟩ := h.validChain.mp hvalid
      exact ⟨ps, hne, validChain_iff.mpr ⟨hsigned, (halike ps hsigned).mpr hbound⟩⟩
  · intro hiff ps hsigned
    by_cases hne : ps = []
    · subst hne
      exact ⟨fun _ i p hp => absurd hp (by simp), fun _ i p hp => absurd hp (by simp)⟩
    · constructor
      · intro hbound
        obtain ⟨ps', _, hvalid'⟩ := hiff.mp ⟨ps, hne, validChain_iff.mpr ⟨hsigned, hbound⟩⟩
        obtain ⟨hsigned', hbound'⟩ := h.validChain.mp hvalid'
        exact hsigned'.unique hsigned ▸ hbound'
      · intro hbound
        obtain ⟨ps', _, hvalid'⟩ := hiff.mpr ⟨ps, hne, h.validChain.mpr ⟨hsigned, hbound⟩⟩
        obtain ⟨hsigned', hbound'⟩ := validChain_iff.mp hvalid'
        exact hsigned'.unique hsigned ▸ hbound'

/-- Owner and device agree exactly when the signed hashes do not tell stored bytes from
written ones, and always on a voucher in the encoding the code itself writes. -/
theorem rebuild_agrees (laws : TransferLaws P) (cose : CoseLaws P) (hbuf : P.byteBuf.Faithful)
    {data : Bytes} {v v' : OwnershipVoucher P} (hv : OwnershipVoucher.deserializeData P data = .ok v)
    (hlen : v.cachedEntries.len < 2 ^ 16) (h : rebuild v = .ok v') :
    (Agree v v' ↔ HashedAlike v) ∧ (Canonical v → Agree v v') := by
  have hrebuilt := rebuild_rebuilt laws hbuf hv hlen h
  have hiff : Agree v v' ↔ HashedAlike v := by
    rw [hrebuilt.agree_iff cose, hrebuilt.hashedAlike_iff]
  exact ⟨hiff, fun hcanonical => hiff.mpr hcanonical.hashedAlike⟩

/-! ## Two encodings of one HMAC -/

open Reference

/-- The voucher as it comes back from the store. -/
def reloaded (v : OwnershipVoucher (reference .release)) :
    Outcome Error (OwnershipVoucher (reference .release)) := do
  let data ← v.serializeData
  OwnershipVoucher.deserializeData (reference .release) data

theorem rebuild_agrees_sample : ∃ data v v',
    OwnershipVoucher.deserializeData (reference .release) data = .ok v ∧ v.cachedEntries.len = 2 ∧
    rebuild v = .ok v' ∧ Canonical v ∧ Agree v v' := by
  have hrun : (do
      let stored ← sampleVoucher
      let data ← stored.serializeData
      let v ← OwnershipVoucher.deserializeData (reference .release) data
      let v' ← rebuild v
      Outcome.check (v.cachedEntries.len = 2 ∧
        v.contents.contents[2]? = (reference .release).hashCodec.intoWriter v.headerHmac) Error.cose
      let raw ← v.cachedEntries.getRaw 0
      let token ← COSESign.deserializeData (reference .release) raw
      Outcome.check (raw = rewritten token) Error.cose).isOk = true := by
    decide +kernel
  obtain ⟨_, h⟩ := Outcome.isOk_iff.mp hrun
  obtain ⟨stored, _, h₁⟩ := Outcome.bind_eq_ok.mp h
  obtain ⟨data, _, h₂⟩ := Outcome.bind_eq_ok.mp h₁
  obtain ⟨v, hv, h₃⟩ := Outcome.bind_eq_ok.mp h₂
  obtain ⟨v', hv', h₄⟩ := Outcome.bind_eq_ok.mp h₃
  obtain ⟨_, hcheck, h₅⟩ := Outcome.bind_eq_ok.mp h₄
  obtain ⟨raw, hraw, h₆⟩ := Outcome.bind_eq_ok.mp h₅
  obtain ⟨token, htoken, hsame⟩ := Outcome.bind_eq_ok.mp h₆
  obtain ⟨hlen, hhmac⟩ := Outcome.check_eq_ok.mp hcheck
  have hcanonical : Canonical v := by
    refine ⟨hhmac, fun i x hi hx => ?_⟩
    obtain rfl : i = 0 := by omega
    obtain rfl := Option.some.inj (hx.symm.trans (getRaw_eq_ok.mp hraw))
    exact ⟨token, htoken, Outcome.check_eq_ok.mp hsame⟩
  exact ⟨data, v, v', hv, hlen, hv', hcanonical, (rebuild_agrees (transferLaws .release)
    (coseLaws .release) (voucherLaws .release).byteBuf hv (by omega) hv').2 hcanonical⟩

/-- The number of the HMAC's hash type takes two bytes where one would do. -/
def wideHmac (v : OwnershipVoucher (reference .release)) : Outcome Error Bytes := do
  let raw ← v.contents.getRaw 2
  .ok (0x82 :: 0x18 :: raw.drop 1)

/-- A voucher made from such an HMAC element, extended twice and stored. -/
def wideVoucher : Outcome Error (OwnershipVoucher (reference .release)) := do
  let v ← sampleBlank
  let hmac ← wideHmac v
  let v ← reloaded { v with contents := v.contents.set 2 hmac }
  let (first, v) := v.extend [1, 1] none (sampleKey 2)
  first
  let (second, v) := v.extend [2, 1] none (sampleKey 3)
  second
  .ok v

/-- The owner's code makes, validates and serves this voucher; the device turns it down. -/
theorem rebuild_disagrees : ∃ data v v',
    OwnershipVoucher.deserializeData (reference .release) data = .ok v ∧
    (1 ≤ v.cachedEntries.len ∧ v.cachedEntries.len ≤ 255) ∧ rebuild v = .ok v' ∧ ¬ Agree v v' := by
  have hrun : (do
      let stored ← wideVoucher
      let data ← stored.serializeData
      let v ← OwnershipVoucher.deserializeData (reference .release) data
      let v' ← rebuild v
      Outcome.check (v.cachedEntries.len = 2) Error.cose
      let _ ← lastPayload v
      Outcome.check ((lastPayload v').isOk = false) Error.cose).isOk = true := by
    decide +kernel
  obtain ⟨_, h⟩ := Outcome.isOk_iff.mp hrun
  obtain ⟨stored, _, h₁⟩ := Outcome.bind_eq_ok.mp h
  obtain ⟨data, _, h₂⟩ := Outcome.bind_eq_ok.mp h₁
  obtain ⟨v, hv, h₃⟩ := Outcome.bind_eq_ok.mp h₂
  obtain ⟨v', hv', h₄⟩ := Outcome.bind_eq_ok.mp h₃
  obtain ⟨_, hcheck, h₅⟩ := Outcome.bind_eq_ok.mp h₄
  obtain ⟨p, hp, hfails⟩ := Outcome.bind_eq_ok.mp h₅
  have hlen : v.cachedEntries.len = 2 := Outcome.check_eq_ok.mp hcheck
  refine ⟨data, v, v', hv, by omega, hv', ?_⟩
  rintro (⟨_, p', _, hp', _⟩ | ⟨hnone, _⟩)
  · have hok := Outcome.isOk_iff.mpr ⟨p', lastPayload_eq_ok.mpr hp'⟩
    rw [Outcome.check_eq_ok.mp hfails] at hok
    cases hok
  · exact hnone p (lastPayload_eq_ok.mp hp)

end FidoOnboard.VoucherAgreement
