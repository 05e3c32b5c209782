import FidoOnboard.DataFormats.CborAccepted
import FidoOnboard.DataFormats.HashComparison
import FidoOnboard.DataFormats.Reference
import FidoOnboard.DataFormats.VoucherChain
import FidoOnboard.RendezvousServer.Handlers

/-!
# Checks of received hashes

A hash arrives as a type and any byte string. Every check computes a digest under
that type and compares the two with a function that stops on different lengths.
-/
namespace FidoOnboard

/-! ## The HMAC of a header -/

theorem KeyStorage.performHmac_ne_panic (P : Platform) (k : KeyStorage) (data : Bytes) (hmacType : HashType) :
    k.performHmac P data hmacType ≠ .panic := by
  cases k with
  | plain => exact Outcome.bind_ne_panic (Outcome.ofOption_ne_panic _ _) fun _ _ => Hash.fromDigest_ne_panic _ _
  | tpm => exact Outcome.bind_ne_panic (Outcome.ofOption_ne_panic _ _) fun _ _ => Hash.fromDigest_ne_panic _ _

theorem KeyStorage.performHmac_length {P : Platform} {k : KeyStorage} {data : Bytes} {hmacType : HashType}
    {expected : HMac} (h : k.performHmac P data hmacType = .ok expected) :
    expected.value.length = expected.hashType.digestSize := by
  cases k with
  | plain =>
      obtain ⟨_, _, hd⟩ := Outcome.bind_eq_ok.mp h
      exact Hash.fromDigest_length hd
  | tpm =>
      obtain ⟨_, _, hd⟩ := Outcome.bind_eq_ok.mp h
      exact Hash.fromDigest_length hd

theorem DeviceCredential.verifyHmac_ne_panic {P : Platform} {c : DeviceCredential} {data : Bytes} {hmac : HMac} :
    c.verifyHmac P data hmac ≠ .panic ↔
      ∀ expected, c.keyStorage.performHmac P data hmac.hashType = .ok expected → hmac.value.length = expected.hashType.digestSize := by
  constructor
  · intro hne expected hexpected
    rw [← KeyStorage.performHmac_length hexpected]
    by_contra hlen
    refine hne (Outcome.bind_eq_panic.mpr (.inr ⟨expected, hexpected, Outcome.bind_eq_panic.mpr (.inl ?_)⟩))
    exact memcmpEq_eq_panic.mpr hlen
  · intro hall
    refine Outcome.bind_ne_panic (KeyStorage.performHmac_ne_panic _ _ _ _) fun expected hexpected => ?_
    refine Outcome.bind_ne_panic (fun hpanic => memcmpEq_eq_panic.mp hpanic ?_) fun same _ => ?_
    · exact (hall expected hexpected).trans (KeyStorage.performHmac_length hexpected).symm
    · cases same with
      | true => exact fun hpanic => by cases hpanic
      | false => exact fun hpanic => by cases hpanic

/-! ## The hashes of a voucher entry -/

theorem PublicKey.parseData_ne_panic (P : Platform) (encoding : PublicKeyEncoding) (data : Bytes) :
    PublicKey.parseData P encoding data ≠ .panic := by
  cases encoding with
  | crypto | cosekey => exact fun h => by cases h
  | x509 => exact Outcome.bind_ne_panic (Outcome.ofOption_ne_panic _ _) fun _ _ h => by cases h
  | x5chain =>
      unfold parseData
      dsimp only
      split
      · exact fun h => by cases h
      · have hchain : X5Chain.fromSlice P data ≠ .panic :=
          Outcome.bind_ne_panic (Outcome.ofOption_ne_panic _ _) fun _ _ => Outcome.ofOption_ne_panic _ _
        refine Outcome.bind_ne_panic hchain fun chain _ => ?_
        cases chain.leafCertificate with
        | none => exact fun h => by cases h
        | some leaf => exact Outcome.bind_ne_panic (Outcome.ofOption_ne_panic _ _) fun _ _ h => by cases h

theorem OwnershipVoucherEntryPayload.deserializeData_ne_panic (P : Platform) (data : Bytes) :
    OwnershipVoucherEntryPayload.deserializeData P data ≠ .panic := by
  refine Outcome.bind_ne_panic (Outcome.ofOption_ne_panic _ _) fun f _ => ?_
  refine Outcome.bind_ne_panic (fun hpanic => ?_) fun _ _ h => by cases h
  exact Outcome.bind_ne_panic (PublicKey.parseData_ne_panic _ _ _) (fun _ _ h => by cases h)
    (Outcome.mapErr_eq_panic.mp hpanic)

theorem COSESign.getPayload_ne_panic {P : Platform} {α : Type} {decode : Bytes → Outcome Error α}
    (hdecode : ∀ data, decode data ≠ .panic) (c : COSESign P) (key : P.PKey) :
    c.getPayload decode key ≠ .panic :=
  Outcome.bind_ne_panic (Outcome.ofOption_ne_panic _ _) fun data _ => hdecode data

theorem Guid.deserializeData_ne_panic (P : Platform) (data : Bytes) : Guid.deserializeData P data ≠ .panic := by
  refine Outcome.bind_ne_panic (Outcome.ofOption_ne_panic _ _) fun value _ => ?_
  refine Outcome.bind_ne_panic (fun hpanic => ?_) fun _ _ h => by cases h
  rw [Outcome.mapErr_eq_panic, checkBstr16, Outcome.check] at hpanic
  split at hpanic
  · cases hpanic
  · cases hpanic

namespace OwnershipVoucher
open VoucherChain

variable {P : Platform} {v : OwnershipVoucher P}

theorem getHdrInfoHash_ne_panic (h : OwnershipVoucherHeader P) (t : HashType) : h.getHdrInfoHash t ≠ .panic := by
  have hsix : h.contents.contents.length = 6 := h.contents.sized 6 rfl
  refine Outcome.bind_ne_panic ?_ fun _ _ => Hash.fromData_ne_panic _ _ _
  refine Outcome.bind_ne_panic (get_ne_panic (by omega) fun _ _ => Guid.deserializeData_ne_panic _ _) fun _ _ => ?_
  exact Outcome.bind_ne_panic (get_ne_panic (by omega) fun _ _ => Outcome.ofOption_ne_panic _ _)
    fun _ _ hok => by cases hok

theorem previousHash_ne_panic {i : Nat} (hi : i < v.cachedEntries.len) (t : HashType) :
    v.previousHash i t ≠ .panic := by
  have hfive : v.contents.contents.length = 5 := v.contents.sized 5 rfl
  unfold previousHash
  split
  · refine Outcome.bind_ne_panic ?_ fun _ _ => Hash.fromData_ne_panic _ _ _
    refine Outcome.bind_ne_panic (get_ne_panic (by omega) fun _ _ => Outcome.ofOption_ne_panic _ _) fun _ _ => ?_
    obtain ⟨raw, -, hraw⟩ := getRaw_of_lt (a := v.contents) (n := 2) (by omega)
    rw [hraw]
    exact fun h => by cases h
  · have hlt : i - 1 < v.cachedEntries.contents.length := Nat.lt_of_le_of_lt (Nat.sub_le i 1) hi
    obtain ⟨raw, -, hraw⟩ := getRaw_of_lt hlt
    rw [ParsedArray.getHash, hraw]
    exact Hash.fromData_ne_panic _ _ _

theorem previousHash_length (laws : DigestLaws P) {i : Nat} {t : HashType} {h : Hash}
    (hprevious : v.previousHash i t = .ok h) : h.value.length = t.digestSize := by
  obtain ⟨_, -, hdata⟩ := previousHash_eq.mp hprevious
  exact Hash.fromData_length laws hdata

/-- The two hashes of the entry at hand are as long as their types say, the second one where
the first one agrees. -/
def HashesFit (v : OwnershipVoucher P) (it : EntryIter P) (payload : OwnershipVoucherEntryPayload P) : Prop :=
  ∀ previous, v.previousHash it.index payload.hashPreviousEntry.hashType = .ok previous →
    payload.hashPreviousEntry.value.length = payload.hashPreviousEntry.hashType.digestSize ∧
    (payload.hashPreviousEntry.value = previous.value →
      ∀ info, v.header.getHdrInfoHash payload.hashHeaderInfo.hashType = .ok info →
        payload.hashHeaderInfo.value.length = payload.hashHeaderInfo.hashType.digestSize)

theorem getHdrInfoHash_length (laws : DigestLaws P) {h : OwnershipVoucherHeader P} {t : HashType} {info : Hash}
    (hinfo : h.getHdrInfoHash t = .ok info) : info.value.length = t.digestSize := by
  obtain ⟨_, -, hdata⟩ := Outcome.bind_eq_ok.mp hinfo
  exact Hash.fromData_length laws hdata

theorem processElement_ne_panic (laws : DigestLaws P) {it : EntryIter P} (hi : it.index < v.cachedEntries.len)
    (entry : COSESign P) : v.processElement it entry ≠ .panic ↔
      ∀ payload, entry.getPayload (OwnershipVoucherEntryPayload.deserializeData P) it.lastPubkey.pkey = .ok payload →
        v.HashesFit it payload := by
  constructor
  · intro hne payload hpayload previous hprevious
    have hbehind : (do
        payload.hashPreviousEntry.compare previous
        let hdrInfoHash ← v.header.getHdrInfoHash payload.hashHeaderInfo.hashType
        payload.hashHeaderInfo.compare hdrInfoHash
        .ok payload : Outcome Error (OwnershipVoucherEntryPayload P)) ≠ .panic := by
      intro hpanic
      refine hne (Outcome.bind_eq_panic.mpr (.inr ⟨payload, hpayload, ?_⟩))
      exact Outcome.bind_eq_panic.mpr (.inr ⟨previous, hprevious, hpanic⟩)
    constructor
    · rw [← previousHash_length laws hprevious]
      by_contra hlen
      exact hbehind (Outcome.bind_eq_panic.mpr (.inl (Hash.compare_eq_panic.mpr hlen)))
    · intro hsame info hinfo
      rw [← getHdrInfoHash_length laws hinfo]
      by_contra hlen
      refine hbehind (Outcome.bind_eq_panic.mpr (.inr ⟨(), Hash.compare_eq_ok.mpr hsame, ?_⟩))
      refine Outcome.bind_eq_panic.mpr (.inr ⟨info, hinfo, ?_⟩)
      exact Outcome.bind_eq_panic.mpr (.inl (Hash.compare_eq_panic.mpr hlen))
  · intro hfit
    refine Outcome.bind_ne_panic
      (COSESign.getPayload_ne_panic (OwnershipVoucherEntryPayload.deserializeData_ne_panic P) _ _)
      fun payload hpayload => ?_
    refine Outcome.bind_ne_panic (previousHash_ne_panic hi _) fun previous hprevious => ?_
    obtain ⟨hlen, hinfoLen⟩ := hfit payload hpayload previous hprevious
    refine Outcome.bind_ne_panic (fun hpanic => ?_) fun _ hsame => ?_
    · exact Hash.compare_eq_panic.mp hpanic (hlen.trans (previousHash_length laws hprevious).symm)
    refine Outcome.bind_ne_panic (getHdrInfoHash_ne_panic _ _) fun info hinfo => ?_
    refine Outcome.bind_ne_panic (fun hpanic => ?_) fun _ _ hok => by cases hok
    exact Hash.compare_eq_panic.mp hpanic
      ((hinfoLen (Hash.compare_eq_ok.mp hsame) info hinfo).trans (getHdrInfoHash_length laws hinfo).symm)

/-- A call that yields something stops where reading and checking the entry stops. -/
theorem next_eq_panic {it : EntryIter P} (hlive : it.errored = false) (hi : it.index < v.cachedEntries.len) :
    v.next it = .panic ↔ (v.entry it.index >>= v.processElement it) = .panic := by
  rw [next, if_neg (by simp [hlive]), if_neg (Nat.not_le.mpr hi)]
  cases v.entry it.index with
  | panic => simp
  | err e => simp
  | ok entry =>
      dsimp only
      rw [Outcome.ok_bind]
      cases v.processElement it entry with
      | panic => simp
      | err e => simp
      | ok payload => simp

theorem next_ne_panic (laws : DigestLaws P) {data : Bytes} (hread : deserializeData P data = .ok v)
    (it : EntryIter P) : v.next it ≠ .panic ↔
      ∀ entry payload, it.errored = false → it.index < v.cachedEntries.len → v.entry it.index = .ok entry →
        entry.getPayload (OwnershipVoucherEntryPayload.deserializeData P) it.lastPubkey.pkey = .ok payload →
          v.HashesFit it payload := by
  by_cases hend : it.errored = true ∨ v.cachedEntries.len ≤ it.index
  case pos =>
    rw [next_at_end hend]
    simp only [ne_eq, reduceCtorEq, not_false_eq_true, true_iff]
    intro _ _ herr hi
    rcases hend with herr' | hi'
    · exact absurd (herr'.symm.trans herr) (by decide)
    · exact absurd hi (Nat.not_lt.mpr hi')
  case neg =>
    obtain ⟨herr, hi⟩ : it.errored = false ∧ it.index < v.cachedEntries.len := by
      simpa only [not_or, Bool.not_eq_true, Nat.not_le] using hend
    rw [ne_eq, next_eq_panic herr hi]
    constructor
    · intro hne entry payload _ _ hentry hpayload
      rw [hentry, Outcome.ok_bind] at hne
      exact (processElement_ne_panic laws hi entry).mp hne payload hpayload
    · intro hall
      refine Outcome.bind_ne_panic (entry_ne_panic hread hi) fun entry hentry => ?_
      exact (processElement_ne_panic laws hi entry).mpr fun payload hpayload =>
        hall entry payload herr hi hentry hpayload

end OwnershipVoucher

/-! ## The hash that ties TO1D to TO0D -/

namespace RendezvousServer
open Server VoucherChain

variable {P : Platform}

/-- The check in `ownersign`, between reading the payload of the token and looking at the device. -/
def checkTo0dHash (msg : OwnerSign P) (to1dPayload : TO1DataPayload P) : Outcome Error Unit := do
  let to0dHash ← msg.to0dHash to1dPayload.to1dToTo0dHash.hashType
  to1dPayload.to1dToTo0dHash.compare to0dHash

/-- The request passes what `ownersign` does before the check. -/
def ReachesHashCheck (ud : RendezvousUD P) (session : Session RendezvousSession) (msg : OwnerSign P)
    (to1dPayload : TO1DataPayload P) : Prop :=
  ∃ nonce to0d owner, session.data.nonce3 = some nonce ∧ msg.to0d = .ok to0d ∧
    nonce.eq to0d.nonce = .ok true ∧ manufacturerTrusted ud to0d.ownershipVoucher = .ok true ∧
    lastPayload to0d.ownershipVoucher = .ok owner ∧
    msg.to1d.getPayload (TO1DataPayload.deserializeData P) owner.publicKey.pkey = .ok to1dPayload

theorem checkTo0dHash_ne_panic (laws : DigestLaws P) {msg : OwnerSign P} {to1dPayload : TO1DataPayload P} :
    checkTo0dHash msg to1dPayload ≠ .panic ↔ to1dPayload.to1dToTo0dHash.Measured P msg.cachedTo0d :=
  Hash.checkData_ne_panic laws

/-- Nothing behind the check runs when it stops. -/
theorem checkOwnersign_of_panic {ud : RendezvousUD P} {session : Session RendezvousSession} {msg : OwnerSign P}
    {to1dPayload : TO1DataPayload P} (hreaches : ReachesHashCheck ud session msg to1dPayload)
    (hpanic : checkTo0dHash msg to1dPayload = .panic) : checkOwnersign ud session msg = .panic := by
  obtain ⟨nonce, to0d, owner, hnonce, hto0d, hsame, htrusted, howner, hpayload⟩ := hreaches
  unfold checkTo0dHash at hpanic
  cases hhash : msg.to0dHash to1dPayload.to1dToTo0dHash.hashType with
  | panic => exact absurd hhash (Hash.fromData_ne_panic _ _ _)
  | err e =>
      rw [hhash] at hpanic
      cases hpanic
  | ok to0dHash =>
      rw [hhash, Outcome.ok_bind] at hpanic
      simp [checkOwnersign, hnonce, hto0d, hsame, htrusted, howner, hpayload, hhash, hpanic, orInternal,
        Outcome.ofOption, Outcome.unwrap, Outcome.check]

end RendezvousServer

/-- Every check of a received hash ends with a result exactly when the hash is as long as its
type says, as far as a digest to compare it with can be computed; equal values alone pass. -/
theorem hash_checks_return_iff {P : Platform} (laws : DigestLaws P) :
    (∀ h other : Hash, (h.compare other ≠ .panic ↔ h.value.length = other.value.length) ∧
      (h.compare other = .ok () → h.value = other.value)) ∧
    (∀ (h : Hash) (data : Bytes), h.compareData P data ≠ .panic ↔ h.Measured P data) ∧
    (∀ (c : DeviceCredential) (data : Bytes) (hmac : HMac), c.verifyHmac P data hmac ≠ .panic ↔
      ∀ expected, c.keyStorage.performHmac P data hmac.hashType = .ok expected →
        hmac.value.length = expected.hashType.digestSize) ∧
    (∀ (data : Bytes) (v : OwnershipVoucher P) (it : EntryIter P),
      OwnershipVoucher.deserializeData P data = .ok v → (v.next it ≠ .panic ↔
        ∀ entry payload, it.errored = false → it.index < v.cachedEntries.len → v.entry it.index = .ok entry →
          entry.getPayload (OwnershipVoucherEntryPayload.deserializeData P) it.lastPubkey.pkey = .ok payload →
            v.HashesFit it payload)) ∧
    (∀ (ud : RendezvousServer.RendezvousUD P) (session : Server.Session RendezvousServer.RendezvousSession)
      (msg : OwnerSign P) (to1dPayload : TO1DataPayload P),
      RendezvousServer.ReachesHashCheck ud session msg to1dPayload →
        (RendezvousServer.checkTo0dHash msg to1dPayload ≠ .panic ↔
          to1dPayload.to1dToTo0dHash.Measured P msg.cachedTo0d) ∧
        (RendezvousServer.checkTo0dHash msg to1dPayload = .panic →
          RendezvousServer.checkOwnersign ud session msg = .panic)) := by
  refine ⟨fun h other => ⟨?_, Hash.compare_eq_ok.mp⟩, fun h data => ?_, fun c data hmac => ?_,
    fun data v it hread => ?_, fun ud session msg to1dPayload hreaches => ⟨?_, ?_⟩⟩
  · rw [ne_eq, Hash.compare_eq_panic, not_not]
  · rw [Hash.compareData_eq_checkData, Hash.checkData_ne_panic laws]
  · exact DeviceCredential.verifyHmac_ne_panic
  · exact OwnershipVoucher.next_ne_panic laws hread it
  · exact RendezvousServer.checkTo0dHash_ne_panic laws
  · exact RendezvousServer.checkOwnersign_of_panic hreaches

open Reference VoucherChain

/-- A full digest, and the first entry of a voucher that was written and read. -/
theorem hash_checks_sample :
    (Hash.mk .sha256 (List.replicate 32 0)).compareData (reference .release) [] ≠ .panic ∧
    ∃ data v, OwnershipVoucher.deserializeData (reference .release) data = .ok v ∧
      v.cachedEntries.len = 2 ∧ ∀ entry payload, v.entry 0 = .ok entry →
        entry.getPayload (OwnershipVoucherEntryPayload.deserializeData (reference .release))
          v.iterEntries.lastPubkey.pkey = .ok payload → v.HashesFit v.iterEntries payload := by
  have hchecks := hash_checks_return_iff (digestLaws .release)
  refine ⟨(hchecks.2.1 _ _).mpr fun _ _ _ => rfl, ?_⟩
  have hrun : (do
      let written ← sampleVoucher
      let data ← written.serializeData
      let v ← OwnershipVoucher.deserializeData (reference .release) data
      let _ ← v.next v.iterEntries
      Outcome.check (v.cachedEntries.len = 2) .incorrectHash).isOk = true := by decide +kernel
  obtain ⟨_, h₁⟩ := Outcome.isOk_iff.mp hrun
  obtain ⟨written, -, h₂⟩ := Outcome.bind_eq_ok.mp h₁
  obtain ⟨data, -, h₃⟩ := Outcome.bind_eq_ok.mp h₂
  obtain ⟨v, hread, h₄⟩ := Outcome.bind_eq_ok.mp h₃
  obtain ⟨item, hnext, hlen⟩ := Outcome.bind_eq_ok.mp h₄
  have htwo : v.cachedEntries.len = 2 := Outcome.check_eq_ok.mp hlen
  have hreturns : v.next v.iterEntries ≠ .panic := by
    rw [hnext]
    exact fun h => by cases h
  refine ⟨data, v, hread, htwo, fun entry payload hentry hpayload => ?_⟩
  refine (hchecks.2.2.2.1 data v v.iterEntries hread).mp hreturns entry payload rfl ?_ hentry hpayload
  change 0 < v.cachedEntries.len
  omega

/-- A hash without a value, as it is read from three bytes. -/
theorem empty_hash_stops : ∃ h : Hash,
    (reference .release).hashCodec.deserializeData [0x82, 0x2f, 0x40] = .ok h ∧
      h.compareData (reference .release) [] = .panic := by
  refine ⟨⟨.sha256, []⟩, by rfl, ?_⟩
  decide

end FidoOnboard
