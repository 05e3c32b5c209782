import FidoOnboard.DataFormats.OwnershipVoucher
import FidoOnboard.DataFormats.Reference

/-!
# The entry iterator validates the chain

A link is what one entry must satisfy under the key of its predecessor. The
iterator yields the payloads of the longest run of links from the header on, and
then stops, with one error or a panic when entries are left.
-/
namespace FidoOnboard.VoucherChain
open CborParser

variable {P : Platform}

/-- The bytes an entry binds itself to: header and raw HMAC for the first entry,
the raw bytes of the entry before it for every other one. -/
def PreviousBytes (v : OwnershipVoucher P) : Nat → Bytes → Prop
  | 0, prev => ∃ header hmac, v.contents.contents[1]?.bind P.byteBuf.fromSlice = some header ∧
      v.contents.contents[2]? = some hmac ∧ prev = header ++ hmac
  | i + 1, prev => v.cachedEntries.contents[i]? = some prev

/-- Entry `i` is a tagged token, verifies under `key`, has the payload `p`, and
`p` names its predecessor and the identity in the header. -/
structure Link (v : OwnershipVoucher P) (i : Nat) (key : PublicKey P)
    (p : OwnershipVoucherEntryPayload P) : Prop where
  signed : ∃ raw entry, v.cachedEntries.contents[i]? = some raw ∧
    COSESign.deserializeData P raw = .ok entry ∧
    P.verifySignature entry.cachedInner key.pkey = some true ∧
    entry.getPayloadUnverified (OwnershipVoucherEntryPayload.deserializeData P) = .ok p
  previous : ∃ prev, PreviousBytes v i prev ∧ p.hashPreviousEntry.IsDigest P prev
  header : ∃ info, v.header.hdrInfo = .ok info ∧ p.hashHeaderInfo.IsDigest P info

/-- The key that must have signed entry `i` of a chain with payloads `ps`. -/
def signerKey (v : OwnershipVoucher P) (ps : List (OwnershipVoucherEntryPayload P)) (i : Nat) :
    Option (PublicKey P) :=
  match i with
  | 0 => some v.header.cachedManufacturerPublicKey
  | i + 1 => ps[i]?.map (·.publicKey)

/-- The first `ps.length` entries form a valid chain and `ps` are their payloads. -/
def ValidPrefix (v : OwnershipVoucher P) (ps : List (OwnershipVoucherEntryPayload P)) : Prop :=
  ∀ i p, ps[i]? = some p → ∃ key, signerKey v ps i = some key ∧ Link v i key p

/-- Every entry is part of the chain. -/
def ValidChain (v : OwnershipVoucher P) (ps : List (OwnershipVoucherEntryPayload P)) : Prop :=
  ps.length = v.cachedEntries.len ∧ ValidPrefix v ps

/-! ## One step -/

theorem getRaw_eq_ok {N : ParsedArraySize} {a : ParsedArray N} {n : Nat} {raw : Bytes} :
    a.getRaw n = .ok raw ↔ a.contents[n]? = some raw := by
  unfold ParsedArray.getRaw
  split <;> simp_all

theorem get_eq_ok {N : ParsedArraySize} {α : Type} {decode : Bytes → Outcome Error α}
    {a : ParsedArray N} {n : Nat} {value : α} :
    a.get decode n = .ok value ↔ ∃ raw, a.contents[n]? = some raw ∧ decode raw = .ok value := by
  simp only [ParsedArray.get, Outcome.bind_eq_ok, getRaw_eq_ok]

theorem hdrBytes_eq_ok {v : OwnershipVoucher P} {data : Bytes} :
    v.hdrBytes = .ok data ↔ PreviousBytes v 0 data := by
  simp only [OwnershipVoucher.hdrBytes, Outcome.bind_eq_ok, get_eq_ok, getRaw_eq_ok,
    Codec.deserializeData_eq_ok, PreviousBytes, Option.bind_eq_some_iff]
  constructor
  · rintro ⟨header, hheader, hmac, hhmac, hdata⟩
    exact ⟨header, hmac, hheader, hhmac, (Outcome.ok.inj hdata).symm⟩
  · rintro ⟨header, hmac, hheader, hhmac, rfl⟩
    exact ⟨header, hheader, hmac, hhmac, rfl⟩

theorem previousHash_eq {v : OwnershipVoucher P} {i : Nat} {t : HashType} {h : Hash} :
    v.previousHash i t = .ok h ↔ ∃ prev, PreviousBytes v i prev ∧ Hash.fromData P t prev = .ok h := by
  unfold OwnershipVoucher.previousHash
  cases i with
  | zero => simp only [if_true, OwnershipVoucher.hdrHash, Outcome.bind_eq_ok, hdrBytes_eq_ok]
  | succ i =>
      simp only [Nat.add_eq_zero_iff, one_ne_zero, and_false, if_false, Nat.add_sub_cancel,
        ParsedArray.getHash, Outcome.bind_eq_ok, getRaw_eq_ok, PreviousBytes]

theorem processElement_eq_ok (laws : CoseLaws P) {v : OwnershipVoucher P} {it : EntryIter P}
    {entry : COSESign P} {p : OwnershipVoucherEntryPayload P} :
    v.processElement it entry = .ok p ↔
      (P.verifySignature entry.cachedInner it.lastPubkey.pkey = some true ∧
        entry.getPayloadUnverified (OwnershipVoucherEntryPayload.deserializeData P) = .ok p) ∧
      (∃ prev, PreviousBytes v it.index prev ∧ p.hashPreviousEntry.IsDigest P prev) ∧
      (∃ info, v.header.hdrInfo = .ok info ∧ p.hashHeaderInfo.IsDigest P info) := by
  simp only [← COSESign.getPayload_eq_ok laws, ← Hash.fromData_compare]
  constructor
  · intro h
    obtain ⟨q, hq, h₁⟩ := Outcome.bind_eq_ok.mp h
    obtain ⟨prevHash, hprev, h₂⟩ := Outcome.bind_eq_ok.mp h₁
    obtain ⟨_, hcmp, h₃⟩ := Outcome.bind_eq_ok.mp h₂
    obtain ⟨infoHash, hinfo, h₄⟩ := Outcome.bind_eq_ok.mp h₃
    obtain ⟨_, hcmp', h₅⟩ := Outcome.bind_eq_ok.mp h₄
    obtain rfl := Outcome.ok.inj h₅
    obtain ⟨prev, hbytes, hhash⟩ := previousHash_eq.mp hprev
    obtain ⟨info, hbytes', hhash'⟩ := Outcome.bind_eq_ok.mp hinfo
    exact ⟨hq, ⟨prev, hbytes, prevHash, hhash, hcmp⟩, ⟨info, hbytes', infoHash, hhash', hcmp'⟩⟩
  · rintro ⟨hq, ⟨prev, hbytes, prevHash, hhash, hcmp⟩, ⟨info, hbytes', infoHash, hhash', hcmp'⟩⟩
    have hprev : v.previousHash it.index p.hashPreviousEntry.hashType = .ok prevHash :=
      previousHash_eq.mpr ⟨prev, hbytes, hhash⟩
    have hinfo : v.header.getHdrInfoHash p.hashHeaderInfo.hashType = .ok infoHash :=
      Outcome.bind_eq_ok.mpr ⟨info, hbytes', hhash'⟩
    simp only [OwnershipVoucher.processElement, hq, hprev, hcmp, hinfo, hcmp', Outcome.ok_bind]

theorem Link.lt {v : OwnershipVoucher P} {i : Nat} {key : PublicKey P}
    {p : OwnershipVoucherEntryPayload P} (h : Link v i key p) : i < v.cachedEntries.len := by
  obtain ⟨raw, _, hraw, _⟩ := h.signed
  exact (List.getElem?_eq_some_iff.mp hraw).1

/-- A payload comes out of `next` exactly when the entry is a link. -/
theorem next_eq_payload (laws : CoseLaws P) {v : OwnershipVoucher P} {i : Nat} {key : PublicKey P}
    {p : OwnershipVoucherEntryPayload P} {it : EntryIter P} :
    v.next ⟨i, false, key⟩ = .ok (some (.ok p), it) ↔
      Link v i key p ∧ it = ⟨i + 1, false, p.publicKey⟩ := by
  have hspec : ∀ entry, v.processElement ⟨i, false, key⟩ entry = .ok p ↔ _ :=
    fun entry => processElement_eq_ok laws
  unfold OwnershipVoucher.next
  simp only [Bool.false_eq_true, if_false]
  constructor
  · intro h
    split at h
    · cases h
    · cases hentry : v.entry i with
      | panic => simp [hentry] at h
      | err e => simp [hentry] at h
      | ok entry =>
          cases hproc : v.processElement ⟨i, false, key⟩ entry with
          | panic => simp [hentry, hproc] at h
          | err e => simp [hentry, hproc] at h
          | ok q =>
              simp only [hentry, hproc, Outcome.ok.injEq, Prod.mk.injEq, Option.some.injEq,
                Except.ok.injEq] at h
              obtain ⟨rfl, rfl⟩ := h
              obtain ⟨⟨hv, hp⟩, hprev, hinfo⟩ := (hspec entry).mp hproc
              obtain ⟨raw, hraw, hdec⟩ := get_eq_ok.mp hentry
              exact ⟨⟨⟨raw, entry, hraw, hdec, hv, hp⟩, hprev, hinfo⟩, rfl⟩
  · rintro ⟨hlink, rfl⟩
    obtain ⟨raw, entry, hraw, hdec, hv, hp⟩ := hlink.signed
    have hentry : v.entry i = .ok entry := get_eq_ok.mpr ⟨raw, hraw, hdec⟩
    have hproc : v.processElement ⟨i, false, key⟩ entry = .ok p :=
      (hspec entry).mpr ⟨⟨hv, hp⟩, hlink.previous, hlink.header⟩
    have hlt := hlink.lt
    rw [if_neg (by omega)]
    simp only [hentry, hproc]

theorem Link.unique (laws : CoseLaws P) {v : OwnershipVoucher P} {i : Nat} {key : PublicKey P}
    {p q : OwnershipVoucherEntryPayload P} (hp : Link v i key p) (hq : Link v i key q) : p = q := by
  have h := ((next_eq_payload laws).mpr ⟨hp, rfl⟩).symm.trans ((next_eq_payload laws).mpr ⟨hq, rfl⟩)
  simp only [Outcome.ok.injEq, Prod.mk.injEq, Option.some.injEq, Except.ok.injEq] at h
  exact h.1

/-- Without a link the iterator is at its end, stops with one error, or panics. -/
theorem next_of_no_link (laws : CoseLaws P) {v : OwnershipVoucher P} {i : Nat} {key : PublicKey P}
    (hlt : i < v.cachedEntries.len) (hno : ∀ p, ¬ Link v i key p) :
    v.next ⟨i, false, key⟩ = .panic ∨
      ∃ e it, v.next ⟨i, false, key⟩ = .ok (some (.error e), it) ∧ it.errored = true := by
  unfold OwnershipVoucher.next
  simp only [Bool.false_eq_true, if_false]
  rw [if_neg (by omega)]
  cases hentry : v.entry i with
  | panic => exact .inl rfl
  | err e => exact .inr ⟨e, _, rfl, rfl⟩
  | ok entry =>
      cases hproc : v.processElement ⟨i, false, key⟩ entry with
      | panic => exact .inl (by simp only [hproc])
      | err e => exact .inr ⟨e, ⟨i + 1, true, key⟩, by simp only [hproc], rfl⟩
      | ok q =>
          obtain ⟨⟨hv, hp⟩, hprev, hinfo⟩ := (processElement_eq_ok laws).mp hproc
          obtain ⟨raw, hraw, hdec⟩ := get_eq_ok.mp hentry
          exact absurd ⟨⟨raw, entry, hraw, hdec, hv, hp⟩, hprev, hinfo⟩ (hno q)

theorem next_at_end {v : OwnershipVoucher P} {it : EntryIter P}
    (h : it.errored = true ∨ v.cachedEntries.len ≤ it.index) : v.next it = .ok (none, it) := by
  unfold OwnershipVoucher.next
  split
  · rfl
  · next herr =>
      rw [if_pos (h.resolve_left herr)]

/-! ## Whole runs -/

/-- A run of links from entry `i` on, the first one under `key`. -/
def Links (v : OwnershipVoucher P) :
    Nat → PublicKey P → List (OwnershipVoucherEntryPayload P) → Prop
  | _, _, [] => True
  | i, key, p :: ps => Link v i key p ∧ Links v (i + 1) p.publicKey ps

/-- The key the run `ps` leaves to the entry behind it. -/
def lastKey (key : PublicKey P) (ps : List (OwnershipVoucherEntryPayload P)) : PublicKey P :=
  (ps.getLast?.map (·.publicKey)).getD key

@[simp] theorem lastKey_cons (key : PublicKey P) (p : OwnershipVoucherEntryPayload P)
    (ps : List (OwnershipVoucherEntryPayload P)) :
    lastKey key (p :: ps) = lastKey p.publicKey ps := by
  cases ps <;> simp [lastKey, List.getLast?_cons]

/-- What draining from entry `i` gives: the links, and how it ends. -/
structure Drained (v : OwnershipVoucher P) (i : Nat) (key : PublicKey P)
    (ps : List (OwnershipVoucherEntryPayload P))
    (result : List (Except Error (OwnershipVoucherEntryPayload P)) × Option (EntryIter P)) : Prop where
  links : Links v i key ps
  maximal : ∀ p, ¬ Link v (i + ps.length) (lastKey key ps) p
  ending : (i + ps.length = v.cachedEntries.len ∧
      ∃ it, result = (ps.map .ok, some it) ∧ v.next it = .ok (none, it)) ∨
    (i + ps.length < v.cachedEntries.len ∧
      ((∃ e it, result = (ps.map .ok ++ [.error e], some it) ∧ v.next it = .ok (none, it)) ∨
        result = (ps.map .ok, none)))

/-- Induction on the bound, which shrinks with the entries left to visit. -/
theorem drain_spec (laws : CoseLaws P) (v : OwnershipVoucher P) (fuel i : Nat) (key : PublicKey P)
    (hi : i ≤ v.cachedEntries.len) (hfuel : v.cachedEntries.len < i + fuel) :
    ∃ ps, Drained v i key ps (v.drain fuel ⟨i, false, key⟩) := by
  induction fuel generalizing i key with
  | zero => omega
  | succ fuel ih =>
      by_cases hend : i = v.cachedEntries.len
      · have hnext : v.next ⟨i, false, key⟩ = .ok (none, ⟨i, false, key⟩) :=
          next_at_end (.inr hend.ge)
        refine ⟨[], trivial, fun p hp => absurd hp.lt (by simp [hend]), .inl ⟨by simpa using hend, _, ?_, hnext⟩⟩
        simp only [OwnershipVoucher.drain, hnext, List.map_nil]
      · by_cases hlink : ∃ p, Link v i key p
        · obtain ⟨p, hp⟩ := hlink
          have hnext := (next_eq_payload laws).mpr ⟨hp, rfl⟩
          obtain ⟨ps, hlinks, hmax, hending⟩ := ih (i + 1) p.publicKey (by omega) (by omega)
          have hlen : i + (p :: ps).length = i + 1 + ps.length := by simp only [List.length_cons]; omega
          refine ⟨p :: ps, ⟨hp, hlinks⟩, by rwa [hlen, lastKey_cons], ?_⟩
          rw [hlen]
          simp only [OwnershipVoucher.drain, hnext]
          refine hending.imp (And.imp_right ?_) (And.imp_right (Or.imp ?_ ?_))
          · rintro ⟨it, hres, hstop⟩
            exact ⟨it, by simp [hres], hstop⟩
          · rintro ⟨e, it, hres, hstop⟩
            exact ⟨e, it, by simp [hres], hstop⟩
          · intro hres
            simp [hres]
        · have hno : ∀ p, ¬ Link v i key p := fun p hp => hlink ⟨p, hp⟩
          have hlt : i < v.cachedEntries.len := by omega
          refine ⟨[], trivial, hno, .inr ⟨hlt, ?_⟩⟩
          rcases next_of_no_link laws hlt hno with hnext | ⟨e, it, hnext, herr⟩
          · exact .inr (by simp only [OwnershipVoucher.drain, hnext, List.map_nil])
          · have hstop : v.next it = .ok (none, it) := next_at_end (.inl herr)
            obtain ⟨k, rfl⟩ : ∃ k, fuel = k + 1 := ⟨fuel - 1, by omega⟩
            exact .inl ⟨e, it, by simp [OwnershipVoucher.drain, hnext, hstop], hstop⟩

/-- `last` is the last of what is yielded, or the panic. -/
theorem lastFrom_eq (v : OwnershipVoucher P) (fuel : Nat)
    (last : Option (Except Error (OwnershipVoucherEntryPayload P))) (it : EntryIter P) :
    v.lastFrom fuel last it = match v.drain fuel it with
      | (items, some _) => .ok (items.getLast?.or last)
      | (_, none) => .panic := by
  induction fuel generalizing last it with
  | zero => simp [OwnershipVoucher.lastFrom, OwnershipVoucher.drain]
  | succ fuel ih =>
      unfold OwnershipVoucher.lastFrom OwnershipVoucher.drain
      cases hnext : v.next it with
      | panic => rfl
      | err e =>
          unfold OwnershipVoucher.next at hnext
          (repeat' split at hnext) <;> cases hnext
      | ok r =>
          obtain ⟨item, it'⟩ := r
          cases item with
          | none => simp
          | some item =>
              simp only [Outcome.ok_bind, ih]
              split <;> simp_all [List.getLast?_cons]

theorem links_iff_getElem {v : OwnershipVoucher P} {i : Nat} {key : PublicKey P}
    {ps : List (OwnershipVoucherEntryPayload P)} :
    Links v i key ps ↔ ∀ j p, ps[j]? = some p →
      Link v (i + j) (lastKey key (ps.take j)) p := by
  induction ps generalizing i key with
  | nil => simp [Links]
  | cons q ps ih =>
      simp only [Links, ih]
      constructor
      · rintro ⟨hq, hps⟩ j p hj
        cases j with
        | zero =>
            obtain rfl : q = p := by simpa using hj
            exact hq
        | succ j =>
            have := hps j p (by simpa using hj)
            rwa [List.take_succ_cons, lastKey_cons, Nat.add_comm j 1, ← Nat.add_assoc]
      · intro h
        refine ⟨h 0 q rfl, fun j p hj => ?_⟩
        have := h (j + 1) p (by simpa using hj)
        rwa [List.take_succ_cons, lastKey_cons, Nat.add_comm j 1, ← Nat.add_assoc] at this

theorem validPrefix_iff_links {v : OwnershipVoucher P} {ps : List (OwnershipVoucherEntryPayload P)} :
    ValidPrefix v ps ↔ Links v 0 v.header.cachedManufacturerPublicKey ps := by
  have hkey : ∀ j p, ps[j]? = some p → signerKey v ps j =
      some (lastKey v.header.cachedManufacturerPublicKey (ps.take j)) := by
    intro j p hj
    have hlt := (List.getElem?_eq_some_iff.mp hj).1
    cases j with
    | zero => rfl
    | succ j =>
        have hget : ps[j]? = some ps[j] := List.getElem?_eq_getElem (by omega)
        simp [signerKey, lastKey, List.getLast?_take, hget]
  rw [links_iff_getElem]
  simp only [Nat.zero_add]
  constructor
  · intro h j p hj
    obtain ⟨key, hk, hlink⟩ := h j p hj
    rw [hkey j p hj] at hk
    exact Option.some.inj hk ▸ hlink
  · intro h j p hj
    exact ⟨_, hkey j p hj, h j p hj⟩

/-- Two runs of links from the same key: one is a prefix of the other. -/
theorem links_prefix (laws : CoseLaws P) {v : OwnershipVoucher P} {i : Nat} {key : PublicKey P}
    {ps qs : List (OwnershipVoucherEntryPayload P)} (hps : Links v i key ps)
    (hmax : ∀ p, ¬ Link v (i + ps.length) (lastKey key ps) p) (hqs : Links v i key qs) :
    qs <+: ps := by
  induction ps generalizing i key qs with
  | nil =>
      cases qs with
      | nil => exact List.prefix_rfl
      | cons q qs => exact absurd hqs.1 (hmax q)
  | cons p ps ih =>
      cases qs with
      | nil => exact List.nil_prefix
      | cons q qs =>
          obtain rfl := hps.1.unique laws hqs.1
          refine List.cons_prefix_cons.mpr ⟨rfl, ih hps.2 ?_ hqs.2⟩
          rwa [lastKey_cons, List.length_cons, Nat.add_comm ps.length 1, ← Nat.add_assoc] at hmax

theorem Links.length_le {v : OwnershipVoucher P} {i : Nat} {key : PublicKey P}
    {ps : List (OwnershipVoucherEntryPayload P)} (h : Links v i key ps)
    (hi : i ≤ v.cachedEntries.len) : i + ps.length ≤ v.cachedEntries.len := by
  induction ps generalizing i key with
  | nil => simpa using hi
  | cons p ps ih =>
      have := ih h.2 h.1.lt
      simp only [List.length_cons]
      omega

/-- The last yielded item is a payload exactly when the whole voucher is a chain. -/
theorem lastEntry_eq_payload (laws : CoseLaws P) {v : OwnershipVoucher P}
    {p : OwnershipVoucherEntryPayload P} :
    v.lastEntry = .ok (some (.ok p)) ↔ ∃ ps, ValidChain v ps ∧ ps.getLast? = some p := by
  obtain ⟨ps, hlinks, hmax, hending⟩ := drain_spec laws v (v.cachedEntries.len + 1) 0
    v.header.cachedManufacturerPublicKey (Nat.zero_le _) (by omega)
  simp only [Nat.zero_add] at hmax hending
  unfold OwnershipVoucher.lastEntry
  rw [lastFrom_eq, OwnershipVoucher.iterEntries]
  constructor
  · intro h
    rcases hending with ⟨hlen, it, hres, _⟩ | ⟨_, ⟨e, it, hres, _⟩ | hres⟩
    · refine ⟨ps, ⟨hlen, validPrefix_iff_links.mpr hlinks⟩, ?_⟩
      simpa [hres, List.getLast?_map] using h
    · simp [hres] at h
    · simp [hres] at h
  · rintro ⟨qs, ⟨hlen, hvalid⟩, hlast⟩
    have hpre := links_prefix laws hlinks (by simpa using hmax) (validPrefix_iff_links.mp hvalid)
    have hle := hlinks.length_le (Nat.zero_le _)
    obtain rfl : qs = ps := hpre.eq_of_length_le (by omega)
    rcases hending with ⟨_, it, hres, _⟩ | ⟨hlt, _⟩
    · simp [hres, List.getLast?_map, hlast]
    · omega

/-- What the iterator yields: the payloads of the longest valid prefix, then nothing
when that is every entry, and otherwise one error and nothing behind it, or a panic. -/
def YieldsPrefix (v : OwnershipVoucher P) (ps : List (OwnershipVoucherEntryPayload P)) : Prop :=
  (ps.length = v.cachedEntries.len ∧
      ∃ it, v.yielded = (ps.map .ok, some it) ∧ v.next it = .ok (none, it)) ∨
    (ps.length < v.cachedEntries.len ∧
      ((∃ e it, v.yielded = (ps.map .ok ++ [.error e], some it) ∧ v.next it = .ok (none, it)) ∨
        v.yielded = (ps.map .ok, none)))

theorem iterEntries_validates_chain (laws : CoseLaws P) (v : OwnershipVoucher P) :
    (∀ p, v.lastEntry = .ok (some (.ok p)) ↔
      v.cachedEntries.len ≠ 0 ∧ ∃ ps, ValidChain v ps ∧ ps.getLast? = some p) ∧
    ∃ ps, ValidPrefix v ps ∧ (∀ qs, ValidPrefix v qs → qs <+: ps) ∧ YieldsPrefix v ps := by
  refine ⟨fun p => ?_, ?_⟩
  · rw [lastEntry_eq_payload laws]
    constructor
    · rintro ⟨ps, ⟨hlen, hvalid⟩, hlast⟩
      refine ⟨?_, ps, ⟨hlen, hvalid⟩, hlast⟩
      rw [← hlen, Ne, List.length_eq_zero_iff]
      rintro rfl
      cases hlast
    · rintro ⟨_, h⟩
      exact h
  · obtain ⟨ps, hlinks, hmax, hending⟩ := drain_spec laws v (v.cachedEntries.len + 1) 0
      v.header.cachedManufacturerPublicKey (Nat.zero_le _) (by omega)
    simp only [Nat.zero_add] at hmax hending
    refine ⟨ps, validPrefix_iff_links.mpr hlinks, fun qs hqs => ?_, hending⟩
    exact links_prefix laws hlinks (by simpa using hmax) (validPrefix_iff_links.mp hqs)

/-! ## A voucher of two entries -/

open Reference

def sampleKey (id : UInt8) : PublicKey (reference .release) :=
  { keyType := .secp256R1, encoding := .x509, data := [id, 1], pkey := [id, 1], certs := none }

/-- The device's certificate, issued by key 1 for the key `[9, 9]`. -/
def sampleChain : X5Chain (reference .release) := ⟨[[1, 9, 9]]⟩

def sampleHeader : Outcome Error (OwnershipVoucherHeader (reference .release)) := do
  let chain ← OptionX5Chain.serializeData (some sampleChain)
  let chainHash ← Hash.fromData (reference .release) .sha256 chain
  OwnershipVoucherHeader.new .version1_1 ⟨List.replicate 16 7⟩ [] "device" (sampleKey 1) (some chainHash)

/-- A new voucher, before any extension, with the HMAC of the device secret `[0x5e]`. -/
def sampleBlank : Outcome Error (OwnershipVoucher (reference .release)) := do
  let header ← sampleHeader
  let bytes ← header.contents.serializeData
  OwnershipVoucher.new header ⟨.hmacSha256, digest .sha256 (0x5e :: bytes)⟩ (some sampleChain)

/-- The manufacturer hands over to key 2, which hands over to key 3. -/
def sampleVoucher : Outcome Error (OwnershipVoucher (reference .release)) := do
  let v ← sampleBlank
  let (first, v) := v.extend [1, 1] none (sampleKey 2)
  first
  let (second, v) := v.extend [2, 1] (some [(1, [5, 6])]) (sampleKey 3)
  second
  .ok v

/-- The payload a voucher ends in, as far as its chain is valid. -/
def lastPayload {P : Platform} (v : OwnershipVoucher P) :
    Outcome Error (OwnershipVoucherEntryPayload P) := do
  match ← v.lastEntry with
  | some (.ok p) => .ok p
  | some (.error e) => .err e
  | none => .err (.inconsistentValue "no entries")

theorem lastPayload_eq_ok {P : Platform} {v : OwnershipVoucher P} {p : OwnershipVoucherEntryPayload P} :
    lastPayload v = .ok p ↔ v.lastEntry = .ok (some (.ok p)) := by
  constructor
  · intro h
    obtain ⟨item, hitem, h₁⟩ := Outcome.bind_eq_ok.mp h
    cases item with
    | none => cases h₁
    | some r =>
        cases r with
        | error e => cases h₁
        | ok q => rw [hitem, Outcome.ok.inj h₁]
  · intro h
    simp [lastPayload, h]

theorem iterEntries_validates_sample : ∃ v p, sampleVoucher = .ok v ∧
    v.cachedEntries.len ≠ 0 ∧ ∃ ps, ValidChain v ps ∧ ps.getLast? = some p := by
  have hrun : (sampleVoucher >>= lastPayload).isOk = true := by decide +kernel
  obtain ⟨p, hp⟩ := Outcome.isOk_iff.mp hrun
  obtain ⟨v, hv, hlast⟩ := Outcome.bind_eq_ok.mp hp
  exact ⟨v, p, hv, ((iterEntries_validates_chain (coseLaws .release) v).1 p).mp
    (lastPayload_eq_ok.mp hlast)⟩

end FidoOnboard.VoucherChain
