import FidoOnboard.Client.To2
import FidoOnboard.DataFormats.VoucherRoundTrip

/-!
# Integers of 128 bits

One library writes and another one reads. Numbers above 64 bits are written as
bignums, and only plain numbers are read.
-/
namespace FidoOnboard.WideIntegers
open CborParser Reference VoucherChain VoucherExtend

variable {P : Platform}

/-- The same payload, whatever order its map is iterated in. -/
structure SameFields (f g : EntryPayloadFields) : Prop where
  hashPreviousEntry : f.hashPreviousEntry = g.hashPreviousEntry
  hashHeaderInfo : f.hashHeaderInfo = g.hashHeaderInfo
  extra : Option.Rel List.Perm f.extra g.extra
  publicKey : f.publicKey = g.publicKey

/-- `ciborium` writes the layout, and of what it wrote `serde_cbor` reads as much as the layout. -/
structure Follows {α : Type} (same : α → α → Prop) (c : Codec α) (layout : Wire α) : Prop where
  writes : ∀ a, (layout.write a).length ≤ isizeMax → c.intoWriter a = some (layout.write a)
  reads : ∀ a, (layout.write a).length ≤ isizeMax →
    Option.Rel same (c.fromSlice (layout.write a)) (layout.fromSlice (layout.write a))

structure LibraryLaws (P : Platform) : Prop where
  hash_length : ∀ {md data d}, P.hash md data = some d → d.length ≤ 64
  errorMessage : Follows Eq P.errorMessage errorMessageWire
  entryPayload : Follows SameFields P.entryPayloadFields entryPayloadFieldsWire

theorem Follows.readsBack {α : Type} {same : α → α → Prop} {c : Codec α} {layout : Wire α}
    (h : Follows same c layout) {a : α} (hlen : (layout.write a).length ≤ isizeMax)
    (hreads : layout.ReadsBack a) : ∃ b, c.fromSlice (layout.write a) = some b ∧ same b a := by
  have hrel := h.reads a hlen
  rw [hreads.fromSlice] at hrel
  cases hread : c.fromSlice (layout.write a) with
  | none =>
      rw [hread] at hrel
      cases hrel
  | some b =>
      rw [hread] at hrel
      cases hrel with
      | some hsame => exact ⟨b, rfl, hsame⟩

theorem Follows.refuses {α : Type} {same : α → α → Prop} {c : Codec α} {layout : Wire α}
    (h : Follows same c layout) {a : α} (hlen : (layout.write a).length ≤ isizeMax)
    (hrefuses : layout.Refuses a) : c.fromSlice (layout.write a) = none := by
  have hrel := h.reads a hlen
  rw [hrefuses.fromSlice] at hrel
  cases hread : c.fromSlice (layout.write a) with
  | none => rfl
  | some b =>
      rw [hread] at hrel
      cases hrel

/-! ## Error messages -/

/-- What a message is written as is read as the same message. -/
def Survives (P : Platform) (e : ErrorMessage) : Prop :=
  ∃ data, P.errorMessage.serializeData e = .ok data ∧ P.errorMessage.deserializeData data = .ok e

theorem errorMessage_length {e : ErrorMessage} (h : (asBytes e.errorString).length ≤ 2 ^ 62) :
    (errorMessageWire.write e).length ≤ isizeMax := by
  have hcode := head_length_le 0 e.errorCode.toU16
  have htype := head_length_le 0 e.previousMessageType.toU8
  have htext := string_length_le 3 (asBytes e.errorString)
  have huuid := u128_length_le e.errorUuid
  simp only [errorMessageWire, uintWire, textWire, Wire.via, Wire.framed, Wire.seq, List.length_append,
    List.length_cons, List.length_nil, id_eq, isizeMax]
  omega

theorem errorCode_readsBack (code : ErrorCode) :
    ((uintWire 16).via ErrorCode.toU16 fun n => errorCodes.find? (·.toU16 = n)).ReadsBack code := by
  have hint : (uintWire 16).ReadsBack code.toU16 := by
    apply readsBack_uint (by decide)
    cases code <;> decide
  apply hint.via
  cases code <;> rfl

theorem messageType_readsBack (t : MessageType) :
    ((uintWire 8).via MessageType.toU8 fun n => messageTypes.find? (·.toU8 = n)).ReadsBack t := by
  have hint : (uintWire 8).ReadsBack t.toU8 := by
    apply readsBack_uint (by decide)
    cases t <;> decide
  apply hint.via
  cases t <;> rfl

theorem errorMessage_written (laws : LibraryLaws P) {e : ErrorMessage}
    (h : (asBytes e.errorString).length ≤ 2 ^ 62) :
    P.errorMessage.serializeData e = .ok (errorMessageWire.write e) :=
  Codec.serializeData_eq_ok.mpr (laws.errorMessage.writes e (errorMessage_length h))

theorem errorMessage_read_only (laws : LibraryLaws P) {e e' : ErrorMessage}
    (h : (asBytes e.errorString).length ≤ 2 ^ 62)
    (hread : P.errorMessage.deserializeData (errorMessageWire.write e) = .ok e') : e.errorUuid < 2 ^ 64 := by
  by_contra hwide
  have htext : textWire.ReadsBack e.errorString := readsBack_text (by omega)
  have hrefuses : errorMessageWire.Refuses e := by
    refine Wire.Refuses.via (Wire.Refuses.framed ?_)
    refine .seq_right (errorCode_readsBack e.errorCode) ?_
    refine .seq_right (messageType_readsBack e.previousMessageType) ?_
    exact .seq_right htext (Wire.refuses_u128 hwide).framed
  rw [Codec.deserializeData_eq_ok, laws.errorMessage.refuses (errorMessage_length h) hrefuses] at hread
  cases hread

theorem survives_iff (laws : LibraryLaws P) {e : ErrorMessage} (h : (asBytes e.errorString).length ≤ 2 ^ 62) :
    Survives P e ↔ e.errorUuid < 2 ^ 64 := by
  have hwritten := errorMessage_written laws h
  constructor
  · rintro ⟨data, hser, hread⟩
    rw [← Outcome.ok.inj (hwritten.symm.trans hser)] at hread
    exact errorMessage_read_only laws h hread
  · intro hfits
    have htext : textWire.ReadsBack e.errorString := readsBack_text (by omega)
    have hreads : errorMessageWire.ReadsBack e := by
      refine Wire.ReadsBack.via (Wire.ReadsBack.framed ?_) rfl
      refine (errorCode_readsBack e.errorCode).seq ?_
      refine (messageType_readsBack e.previousMessageType).seq ?_
      exact htext.seq (Wire.readsBack_u128 hfits).framed
    rcases laws.errorMessage.readsBack (errorMessage_length h) hreads with ⟨_, hread, rfl⟩
    exact ⟨_, hwritten, Codec.deserializeData_eq_ok.mpr hread⟩

/-- `Uuid::new_v4().as_u128()`: the version and the variant over random bits. -/
def newV4 (random : Nat) : Nat :=
  (random &&& 0xFFFFFFFFFFFF4FFFBFFFFFFFFFFFFFFF) ||| 0x40008000000000000000

theorem newV4_wide (random : Nat) : ¬ newV4 random < 2 ^ 64 := by
  have hbits : 0x40008000000000000000 ≤ newV4 random := Nat.right_le_or
  omega

/-- The message `send_client_error` sends. -/
def sendClientError (error : Client.ErrorResult) (random : Nat) : ErrorMessage :=
  ⟨error.eCode, error.message, error.eString, newV4 random⟩

/-- Whoever parses the body gets a message out of it. -/
def Parsed (P : Platform) (e : ErrorMessage) : Prop :=
  ∃ data e', P.errorMessage.serializeData e = .ok data ∧ P.errorMessage.deserializeData data = .ok e'

theorem sendClientError_not_parsed (laws : LibraryLaws P) {error : Client.ErrorResult}
    (h : (asBytes error.eString).length ≤ 2 ^ 62) (random : Nat) : ¬ Parsed P (sendClientError error random) := by
  rintro ⟨data, e', hser, hread⟩
  rw [← Outcome.ok.inj ((errorMessage_written laws h).symm.trans hser)] at hread
  exact newV4_wide random (errorMessage_read_only (e := sendClientError error random) laws h hread)

/-! ## Entry payloads -/

theorem entryPayload_length (f : EntryPayloadFields) :
    (entryPayloadFieldsWire.write f).length ≤ 2 * f.weight + 76 := by
  have hlen := entryPayloadFields_length_le (f := f) (k := 17) fun m _ e _ => u128_length_le e.1
  -- what a wide key is longer by is less than what its pair weighs
  have hcount : (f.extra.getD []).length * 18 ≤ extraWeight f.extra := by
    unfold extraWeight
    generalize f.extra.getD [] = pairs
    induction pairs with
    | nil => simp
    | cons e pairs ih =>
        simp only [List.map_cons, List.sum_cons, List.length_cons] at ih ⊢
        omega
  unfold EntryPayloadFields.weight at hlen ⊢
  omega

theorem extra_refuses {extra : ExtraType} (hkeys : ¬ ExtraKeysFit extra) (hweight : extraWeight extra < 2 ^ 61) :
    extraWire.Refuses extra := by
  cases extra with
  | none => exact absurd (fun m hm => absurd hm nofun) hkeys
  | some m =>
      have hlen := extraWeight_length m
      refine Wire.Refuses.present (Wire.refuses_counted (by decide) (by omega) ?_ ?_) ?_ ?_
      · intro e he
        have hvalue := extraWeight_value he
        have hstring : (Wire.string 2).ReadsBack e.2 := Wire.readsBack_string (by decide) (by omega)
        by_cases hkey : e.1 < 2 ^ 64
        case pos => exact .inl ((Wire.readsBack_u128 hkey).seq hstring)
        case neg => exact .inr ((Wire.refuses_u128 hkey).seq_left (Wire.string 2) e.2)
      · by_contra hnone
        apply hkeys
        intro m' hm' e he
        obtain rfl : m = m' := Option.mem_some_iff.mp hm'
        by_contra hkey
        exact hnone ⟨e, he, (Wire.refuses_u128 hkey).seq_left (Wire.string 2) e.2⟩
      · exact List.cons_ne_nil _ _
      · exact extra_head_ne m

theorem entryPayload_refuses {f : EntryPayloadFields} (hkeys : ¬ ExtraKeysFit f.extra) (hweight : f.weight < 2 ^ 61) :
    entryPayloadFieldsWire.Refuses f := by
  unfold EntryPayloadFields.weight at hweight
  have hprev : hashWire.ReadsBack f.hashPreviousEntry := readsBack_hash (by omega)
  have hinfo : hashWire.ReadsBack f.hashHeaderInfo := readsBack_hash (by omega)
  refine Wire.Refuses.via (Wire.Refuses.framed ?_)
  exact .seq_right hprev (.seq_right hinfo ((extra_refuses hkeys (by omega)).seq_left _ _))

/-- What a payload is written as is read as the same payload. -/
def PayloadSurvives (p : OwnershipVoucherEntryPayload P) : Prop :=
  ∃ data q, p.serializeData = .ok data ∧ OwnershipVoucherEntryPayload.deserializeData P data = .ok q ∧
    SameFields q.fields p.fields ∧ q.publicKey = p.publicKey

theorem payload_fits {f : EntryPayloadFields} (hweight : f.weight < 2 ^ 61) :
    (entryPayloadFieldsWire.write f).length ≤ isizeMax := by
  have hlen := entryPayload_length f
  unfold isizeMax
  omega

theorem payload_written (laws : LibraryLaws P) {p : OwnershipVoucherEntryPayload P}
    (hweight : p.fields.weight < 2 ^ 61) : p.serializeData = .ok (entryPayloadFieldsWire.write p.fields) :=
  Codec.serializeData_eq_ok.mpr (laws.entryPayload.writes p.fields (payload_fits hweight))

theorem payload_read_only (laws : LibraryLaws P) {p q : OwnershipVoucherEntryPayload P}
    (hweight : p.fields.weight < 2 ^ 61)
    (hread : OwnershipVoucherEntryPayload.deserializeData P (entryPayloadFieldsWire.write p.fields) = .ok q) :
    ExtraKeysFit p.extra := by
  by_contra hkeys
  rcases Outcome.bind_eq_ok.mp hread with ⟨f, hf, -⟩
  have hnone := laws.entryPayload.refuses (payload_fits hweight) (entryPayload_refuses hkeys hweight)
  rw [Codec.deserializeData_eq_ok, hnone] at hf
  cases hf

theorem payload_reads (laws : LibraryLaws P) {p : OwnershipVoucherEntryPayload P}
    (hweight : p.fields.weight < 2 ^ 61) (hkey : p.publicKey.Reparses) (hkeys : ExtraKeysFit p.extra) :
    ∃ q, OwnershipVoucherEntryPayload.deserializeData P (entryPayloadFieldsWire.write p.fields) = .ok q ∧
      SameFields q.fields p.fields ∧ q.publicKey = p.publicKey := by
  have hreads := readsBack_entryPayloadFields (f := p.fields) hkeys hweight
  rcases laws.entryPayload.readsBack (payload_fits hweight) hreads with ⟨f, hread, hsame⟩
  have hof : PublicKey.ofFields P f.publicKey = .ok p.publicKey :=
    PublicKey.ofFields_eq_ok.mpr ⟨hsame.publicKey.symm, hkey⟩
  refine ⟨⟨f.hashPreviousEntry, f.hashHeaderInfo, f.extra, p.publicKey⟩, ?_,
    ⟨hsame.hashPreviousEntry, hsame.hashHeaderInfo, hsame.extra, rfl⟩, rfl⟩
  simp only [OwnershipVoucherEntryPayload.deserializeData, Codec.deserializeData_eq_ok.mpr hread,
    Outcome.ok_bind, hof]

theorem payloadSurvives_iff (laws : LibraryLaws P) {p : OwnershipVoucherEntryPayload P}
    (hweight : p.fields.weight < 2 ^ 61) (hkey : p.publicKey.Reparses) :
    PayloadSurvives p ↔ ExtraKeysFit p.extra := by
  have hwritten := payload_written laws hweight
  constructor
  · rintro ⟨data, q, hser, hread, -⟩
    rw [← Outcome.ok.inj (hwritten.symm.trans hser)] at hread
    exact payload_read_only laws hweight hread
  · intro hkeys
    rcases payload_reads laws hweight hkey hkeys with ⟨q, hread, hsame⟩
    exact ⟨_, q, hwritten, hread, hsame⟩

/-! ## Extended vouchers -/

theorem digest_length (laws : LibraryLaws P) {h : Hash} {data : Bytes} (hd : h.IsDigest P data) :
    h.value.length ≤ 64 := by
  rcases hd with ⟨md, -, hhash⟩
  exact laws.hash_length hhash

/-- The hash an extension names is the one the validator will ask for. -/
theorem currentOwner_previous {v : OwnershipVoucher P} {last : Hash} {key : PublicKey P}
    (h : v.currentOwner = .ok (last, key)) :
    ∃ prev, PreviousBytes v v.cachedEntries.len prev ∧ last.IsDigest P prev := by
  have hlast : v.previousHash v.cachedEntries.len v.hashType = .ok last := by
    unfold OwnershipVoucher.currentOwner at h
    unfold OwnershipVoucher.previousHash
    split at h
    case isTrue hzero =>
      rcases Outcome.bind_eq_ok.mp h with ⟨last', hhash, h₁⟩
      cases h₁
      rw [if_pos hzero, hhash]
    case isFalse hpos =>
      rcases Outcome.bind_eq_ok.mp h with ⟨last', hhash, h₁⟩
      rcases Outcome.bind_eq_ok.mp h₁ with ⟨_, -, h₂⟩
      rcases Outcome.bind_eq_ok.mp h₂ with ⟨_, -, h₃⟩
      cases h₃
      rw [if_neg hpos, hhash]
  rcases previousHash_eq.mp hlast with ⟨prev, hprev, hhash⟩
  exact ⟨prev, hprev, (Hash.fromData_eq_ok.mp hhash).2⟩

theorem hdrInfo_digest {h : OwnershipVoucherHeader P} {t : HashType} {hash : Hash}
    (hinfo : h.getHdrInfoHash t = .ok hash) : ∃ info, h.hdrInfo = .ok info ∧ hash.IsDigest P info := by
  rcases Outcome.bind_eq_ok.mp hinfo with ⟨info, hread, hhash⟩
  exact ⟨info, hread, (Hash.fromData_eq_ok.mp hhash).2⟩

/-- What may be handed over, apart from what the keys of the extra map are. -/
structure Fits (s : Handover P) : Prop where
  size : extraWeight s.extra + s.nextParty.data.length < 2 ^ 60
  reparses : s.nextParty.Reparses

/-- A chain that validates ends in the payload of the entry that was added last. -/
theorem lastEntry_payload (cose : CoseLaws P) {v : OwnershipVoucher P} {item raw payload : Bytes}
    {entry : COSESign P} {p : OwnershipVoucherEntryPayload P}
    (hentry : COSESign.deserializeData P item = .ok entry)
    (hget : P.getPayload entry.cachedInner none = some payload)
    (hvalid : (appended v item raw).lastEntry = .ok (some (.ok p))) :
    OwnershipVoucherEntryPayload.deserializeData P payload = .ok p := by
  rcases (lastEntry_eq_payload cose).mp hvalid with ⟨ps, ⟨hlen, hprefix⟩, hlast⟩
  rw [appended_len] at hlen
  have hindex : ps[v.cachedEntries.len]? = some p := by
    rwa [List.getLast?_eq_getElem?, hlen, Nat.add_sub_cancel] at hlast
  rcases hprefix _ _ hindex with ⟨_, -, hlink⟩
  rcases hlink.signed with ⟨raw', entry', hraw, hentry', -, hread⟩
  obtain rfl := Option.some.inj ((appended_last v item raw).symm.trans hraw)
  obtain rfl := Outcome.ok.inj (hentry.symm.trans hentry')
  simpa [COSESign.getPayloadUnverified, hget, Outcome.ofOption] using hread

/-- A voucher its owner has extended validates when the keys of the new entry fit. -/
theorem extended_validates_iff (laws : LibraryLaws P) (cose : CoseLaws P) {v v' : OwnershipVoucher P}
    {key : PublicKey P} {s : Handover P} (howner : Owner v key) (hsign : SignsFor P s.privateKey key.pkey)
    (hs : Fits s) (h : v.extend s.privateKey s.extra s.nextParty = (.ok (), v')) :
    (∃ p, v'.lastEntry = .ok (some (.ok p))) ↔ ExtraKeysFit s.extra := by
  rcases VoucherRoundTrip.extend_ok_inv h with ⟨payload, signed, item, raw, hpayload, hsigned, hitem, -, rfl⟩
  rcases hpayload with ⟨hdrInfo, last, owner, hinfo, hcurrent, hser⟩
  rcases hdrInfo_digest hinfo with ⟨info, hread, hinfoDigest⟩
  rcases currentOwner_previous hcurrent with ⟨prev, hprev, hlastDigest⟩
  generalize hnew : (⟨last, hdrInfo, s.extra, s.nextParty⟩ : OwnershipVoucherEntryPayload P) = new at hser
  have hweight : new.fields.weight < 2 ^ 60 + 128 := by
    have hlast := digest_length laws hlastDigest
    have hhdr := digest_length laws hinfoDigest
    have hsize := hs.size
    subst hnew
    simp only [EntryPayloadFields.weight, OwnershipVoucherEntryPayload.fields]
    omega
  have hlen : (entryPayloadFieldsWire.write new.fields).length ≤ 2 ^ 62 :=
    (entryPayload_length new.fields).trans (by omega)
  obtain rfl := Outcome.ok.inj ((payload_written laws (by omega)).symm.trans hser)
  rcases signed_entry hsign hlen with ⟨signed', item', entry, hsigned', hitem', -, hentry, hverify, hget⟩
  obtain rfl := Outcome.ok.inj (hsigned'.symm.trans hsigned)
  obtain rfl := Outcome.ok.inj (hitem'.symm.trans hitem)
  constructor
  · rintro ⟨p, hvalid⟩
    subst hnew
    exact payload_read_only laws (by omega) (lastEntry_payload cose hentry hget hvalid)
  · intro hkeys
    have hreparses : new.publicKey.Reparses := hnew ▸ hs.reparses
    have hfit : ExtraKeysFit new.extra := hnew ▸ hkeys
    rcases payload_reads laws (by omega) hreparses hfit with ⟨p, hdecode, hsame, -⟩
    have hlastHash : p.hashPreviousEntry = last := hsame.hashPreviousEntry.trans (hnew ▸ rfl)
    have hinfoHash : p.hashHeaderInfo = hdrInfo := hsame.hashHeaderInfo.trans (hnew ▸ rfl)
    exact ⟨p, appended_validates cose howner hentry hverify hget hdecode hprev (hlastHash ▸ hlastDigest) hread
      (hinfoHash ▸ hinfoDigest)⟩

/-- Messages and payloads are read from what they were written as exactly when their numbers
fit in 64 bits. What `send_client_error` sends never is. -/
theorem wide_integers_iff (laws : LibraryLaws P) (cose : CoseLaws P) :
    (∀ e : ErrorMessage, (asBytes e.errorString).length ≤ 2 ^ 62 → (Survives P e ↔ e.errorUuid < 2 ^ 64)) ∧
    (∀ (error : Client.ErrorResult) (random : Nat), (asBytes error.eString).length ≤ 2 ^ 62 →
      ¬ Parsed P (sendClientError error random)) ∧
    (∀ p : OwnershipVoucherEntryPayload P, p.fields.weight < 2 ^ 61 → p.publicKey.Reparses →
      (PayloadSurvives p ↔ ExtraKeysFit p.extra)) ∧
    ∀ (v v' : OwnershipVoucher P) (key : PublicKey P) (s : Handover P), Owner v key →
      SignsFor P s.privateKey key.pkey → Fits s → v.extend s.privateKey s.extra s.nextParty = (.ok (), v') →
        ((∃ p, v'.lastEntry = .ok (some (.ok p))) ↔ ExtraKeysFit s.extra) := by
  refine ⟨fun e he => survives_iff laws he, ?_, ?_, ?_⟩
  · intro error random herror
    exact sendClientError_not_parsed laws herror random
  · intro p hweight hkey
    exact payloadSurvives_iff laws hweight hkey
  · intro v v' key s howner hsign hs hext
    exact extended_validates_iff laws cose howner hsign hs hext

theorem codec_follows {α : Type} {same : α → α → Prop} (hrefl : ∀ a, same a a) (layout : Wire α) :
    Follows same (codec layout) layout where
  writes _ hlen := if_pos hlen
  reads a _ := by
    change Option.Rel same (layout.fromSlice (layout.write a)) (layout.fromSlice (layout.write a))
    cases layout.fromSlice (layout.write a) with
    | none => exact .none
    | some b => exact .some (hrefl b)

theorem libraryLaws (profile : Profile) : LibraryLaws (reference profile) where
  hash_length := by
    intro md data d hhash
    obtain rfl : digest md data = d := Option.some.inj hhash
    simp only [digest, BigEndian.toBe_length]
    cases md <;> decide
  errorMessage := codec_follows (fun _ => rfl) errorMessageWire
  entryPayload := codec_follows (fun f => ⟨rfl, rfl, extra_perm_refl f.extra, rfl⟩) entryPayloadFieldsWire

/-- A sample voucher handed over with one key in the extra map. -/
def sampleExtended (key : Nat) : Outcome Error (OwnershipVoucher (reference .release)) := do
  let v ← sampleBlank
  let (result, v) := v.extend [1, 1] (some [(key, [5, 6])]) (sampleKey 2)
  result
  .ok v

theorem sampleExtended_inv {n : Nat} {v' : OwnershipVoucher (reference .release)}
    (h : sampleExtended n = .ok v') : ∃ v, Owner v (sampleKey 1) ∧
      v.extend [1, 1] (some [(n, [5, 6])]) (sampleKey 2) = (.ok (), v') := by
  rcases sampleBlank_owner with ⟨v, hblank, -, howner, -⟩
  rcases Outcome.bind_eq_ok.mp h with ⟨v₁, hv₁, h₁⟩
  obtain rfl := Outcome.ok.inj (hblank.symm.trans hv₁)
  rcases Outcome.bind_eq_ok.mp h₁ with ⟨⟨⟩, hresult, h₂⟩
  exact ⟨v, howner, Prod.ext hresult (Outcome.ok.inj h₂)⟩

theorem sample_fits (n : Nat) :
    Fits (⟨[1, 1], some [(n, [5, 6])], sampleKey 2⟩ : Handover (reference .release)) where
  size := by
    simp only [extraWeight, Option.getD_some, List.map_cons, List.map_nil, List.sum_cons, List.sum_nil,
      List.length_cons, List.length_nil, sampleKey]
    omega
  reparses := sampleKey_reparses 2

/-- The uuid of a written message, and a voucher extended with the key 1. -/
theorem wide_integers_sample :
    Survives (reference .release) ⟨.invalidOwnershipVoucher, .to0OwnerSign, "not trusted", 16378777930150272023⟩ ∧
      ∃ v p, sampleExtended 1 = .ok v ∧ v.lastEntry = .ok (some (.ok p)) := by
  have hlibraries := wide_integers_iff (libraryLaws .release) (coseLaws .release)
  have hrun : (sampleExtended 1).isOk = true := by decide +kernel
  rcases Outcome.isOk_iff.mp hrun with ⟨v', hextended⟩
  rcases sampleExtended_inv hextended with ⟨v, howner, hext⟩
  have hvalid := hlibraries.2.2.2 v v' (sampleKey 1) ⟨[1, 1], some [(1, [5, 6])], sampleKey 2⟩ howner
    (signsFor _ _) (sample_fits 1) hext
  rcases hvalid.mpr (by simp [ExtraKeysFit]) with ⟨p, hp⟩
  exact ⟨(hlibraries.1 _ (by decide)).mpr (by decide), v', p, hextended, hp⟩

/-- One above the plain numbers: the message is not read, and the extended voucher does not validate. -/
theorem bignum_is_not_read :
    ¬ Survives (reference .release) ⟨.invalidOwnershipVoucher, .to0OwnerSign, "not trusted", 2 ^ 64⟩ ∧
      ∃ v, sampleExtended (2 ^ 64) = .ok v ∧ ¬ ∃ p, v.lastEntry = .ok (some (.ok p)) := by
  have hrun : (sampleExtended (2 ^ 64)).isOk = true := by decide +kernel
  rcases Outcome.isOk_iff.mp hrun with ⟨v', hextended⟩
  rcases sampleExtended_inv hextended with ⟨v, howner, hext⟩
  refine ⟨?_, v', hextended, ?_⟩
  · rw [survives_iff (libraryLaws .release) (by decide)]
    exact Nat.lt_irrefl _
  · rw [extended_validates_iff (libraryLaws .release) (coseLaws .release) howner (signsFor _ _) (sample_fits _) hext]
    intro hkeys
    exact Nat.lt_irrefl _ (hkeys _ rfl _ List.mem_cons_self)

end FidoOnboard.WideIntegers
