import FidoOnboard.DataFormats.Eat
import FidoOnboard.DataFormats.Reference
import FidoOnboard.Store.Calls

/-!
# The claims of an attestation token

A token is written as a map and read back from one. The identifier in it is only
asked for its first byte, which a guid of any length has behind it.
-/
namespace FidoOnboard
open HeaderKeys

/-- `Display` of a guid. -/
def Guid.fmt (g : Guid) : Outcome Error Stores.Text := do
  let uuid ← g.asUuid
  .ok (Stores.uuidText uuid)

/-- A byte string becomes a value that is read as the same byte string. -/
structure ByteValueLaws (P : Platform) : Prop where
  bytes : ∀ data, ∃ value, P.valueOfBytes data = some value ∧ P.valueToBytes value = some data

variable {P : Platform}

namespace COSEHeaderMap

theorem lookup_filter_ne (m : COSEHeaderMap P) {key other : Int} (h : other ≠ key) :
    (m.filter fun e => e.1 ≠ key).lookup other = m.lookup other := by
  induction m with
  | nil => rfl
  | cons e m ih =>
      obtain ⟨k, value⟩ := e
      by_cases hk : k = key
      · subst hk
        have hbeq : (other == k) = false := beq_eq_false_iff_ne.mpr h
        rw [List.filter_cons_of_neg (by simp), ih, List.lookup_cons, hbeq]
      · rw [List.filter_cons_of_pos (by simpa using hk), List.lookup_cons, List.lookup_cons, ih]

end COSEHeaderMap

namespace EATokenPayload

/-- The two claims that must be there, as they are read. -/
theorem fromMap_eq (claims : COSEHeaderMap P) : fromMap claims = (do
    let nonce ← .ofOption (.inconsistentValue "Missing nonce") (claims.lookup eatNonce.toI64)
    let nonce ← Nonce.fromValue P nonce
    let ueid ← .ofOption (.inconsistentValue "Missing UEID") (claims.lookup eatUeid.toI64)
    let ueid ← .ofOption .serdeCborError (P.valueToBytes ueid)
    let _ ← (Guid.fromUeid ueid).mapErr fun _ => .inconsistentValue "Invalid UEID"
    .ok ⟨claims.lookup eatFDO.toI64, nonce, ueid, ((claims.filter fun e => e.1 ≠ eatFDO.toI64).filter
      fun e => e.1 ≠ eatNonce.toI64).filter fun e => e.1 ≠ eatUeid.toI64⟩) := by
  have hnonce : eatNonce.toI64 ≠ eatFDO.toI64 := by decide
  have hueid : eatUeid.toI64 ≠ eatNonce.toI64 := by decide
  have hueid' : eatUeid.toI64 ≠ eatFDO.toI64 := by decide
  simp only [fromMap, COSEHeaderMap.remove, COSEHeaderMap.lookup_filter_ne _ hnonce,
    COSEHeaderMap.lookup_filter_ne _ hueid, COSEHeaderMap.lookup_filter_ne _ hueid']

/-! ## What was written -/

/-- The claims of a token with these three values, and nothing else. -/
def claimsOf (payload : Option P.Value) (nonceValue ueidValue : P.Value) : COSEHeaderMap P :=
  (eatUeid.toI64, ueidValue) :: (eatNonce.toI64, nonceValue) ::
    (payload.map fun value => (eatFDO.toI64, value)).toList

/-- The claims of a fresh token. -/
theorem toMap_newEat (laws : ByteValueLaws P) (payload : Option P.Value) (nonce : Nonce) (guid : Guid) :
    ∃ nonceValue ueidValue, P.valueToBytes nonceValue = some nonce.value ∧
      P.valueToBytes ueidValue = some guid.asUeid ∧
      toMap ⟨payload, nonce, guid.asUeid, []⟩ = .ok (claimsOf payload nonceValue ueidValue) := by
  obtain ⟨nonceValue, hnonce, hnonceRead⟩ := laws.bytes nonce.value
  obtain ⟨ueidValue, hueid, hueidRead⟩ := laws.bytes guid.asUeid
  refine ⟨nonceValue, ueidValue, hnonceRead, hueidRead, ?_⟩
  cases payload with
  | none =>
      simp [toMap, COSEHeaderMap.insert, COSEHeaderMap.insertValue, hnonce, hueid, Outcome.ofOption,
        Outcome.unwrap, HeaderKeys.toI64, claimsOf]
  | some value =>
      simp [toMap, COSEHeaderMap.insert, COSEHeaderMap.insertValue, hnonce, hueid, Outcome.ofOption,
        Outcome.unwrap, HeaderKeys.toI64, claimsOf]

/-- The claims of a token are read as the same token. -/
def ReadsBack (claims : COSEHeaderMap P) (payload : Option P.Value) (nonce : Nonce) (guid : Guid) : Prop :=
  ∃ eat, fromMap claims = .ok eat ∧ eat.payload = payload ∧ eat.nonce = nonce ∧
    eat.getDeviceGuid = .ok guid ∧ eat.otherClaims = []

theorem newEat_eq_ok {α : Type} {toValue : α → Option P.Value} {payload : Option α} {nonce : Nonce} {guid : Guid}
    {eat : EATokenPayload P} (h : newEat toValue payload nonce guid = .ok eat) :
    eat = ⟨payload.bind toValue, nonce, guid.asUeid, []⟩ := by
  cases payload with
  | none => exact (Outcome.ok.inj h).symm
  | some payload =>
      obtain ⟨value, hvalue, h₁⟩ := Outcome.bind_eq_ok.mp h
      rw [← Outcome.ok.inj h₁, Option.bind_some, Outcome.ofOption_eq_ok.mp hvalue]

theorem fromMap_claimsOf {payload : Option P.Value} {nonce : Nonce} {guid : Guid} {nonceValue ueidValue : P.Value}
    (hnonce : P.valueToBytes nonceValue = some nonce.value) (hueid : P.valueToBytes ueidValue = some guid.asUeid) :
    fromMap (claimsOf payload nonceValue ueidValue) =
      if nonce.value.length = 16 then .ok ⟨payload, nonce, guid.asUeid, []⟩ else .err .serdeCborError := by
  have hfdo : (claimsOf payload nonceValue ueidValue).lookup eatFDO.toI64 = payload := by
    cases payload with
    | none => rfl
    | some value => rfl
  have hrest : (((claimsOf payload nonceValue ueidValue).filter fun e => e.1 ≠ eatFDO.toI64).filter
      fun e => e.1 ≠ eatNonce.toI64).filter (fun e => e.1 ≠ eatUeid.toI64) = [] := by
    cases payload with
    | none => rfl
    | some value => rfl
  have hread : Nonce.fromValue P nonceValue =
      if nonce.value.length = 16 then .ok nonce else .err .serdeCborError := by
    simp only [Nonce.fromValue, hnonce, Outcome.ofOption, Outcome.ok_bind, checkBstr16, Outcome.check]
    split
    · rfl
    · rfl
  have hguid : Guid.fromUeid guid.asUeid = .ok guid := rfl
  rw [fromMap_eq, hfdo, hrest]
  change (do
    let nonce ← Nonce.fromValue P nonceValue
    let ueid ← Outcome.ofOption Error.serdeCborError (P.valueToBytes ueidValue)
    let _ ← (Guid.fromUeid ueid).mapErr fun _ => Error.inconsistentValue "Invalid UEID"
    Outcome.ok (⟨payload, nonce, ueid, []⟩ : EATokenPayload P)) = _
  rw [hread, hueid]
  split
  · simp only [Outcome.ok_bind, Outcome.ofOption, hguid, Outcome.mapErr_ok]
  · rfl

theorem readsBack_iff {payload : Option P.Value} {nonce : Nonce} {guid : Guid} {nonceValue ueidValue : P.Value}
    (hnonce : P.valueToBytes nonceValue = some nonce.value) (hueid : P.valueToBytes ueidValue = some guid.asUeid) :
    ReadsBack (claimsOf payload nonceValue ueidValue) payload nonce guid ↔ nonce.value.length = 16 := by
  unfold ReadsBack
  rw [fromMap_claimsOf hnonce hueid]
  constructor
  · rintro ⟨eat, hread, -⟩
    by_contra hlen
    rw [if_neg hlen] at hread
    cases hread
  · intro hlen
    rw [if_pos hlen]
    exact ⟨_, rfl, rfl, rfl, rfl, rfl⟩

/-! ## Any claims -/

/-- Reading ends with an error or with a token whose guid has 16 bytes and can be printed. -/
def ReadsGuid (claims : COSEHeaderMap P) : Prop :=
  fromMap claims ≠ .panic ∧ ∀ eat, fromMap claims = .ok eat →
    ∃ guid, eat.getDeviceGuid = .ok guid ∧ guid.value.length = 16 ∧ ∃ text, guid.fmt = .ok text

theorem Nonce.fromValue_ne_panic (value : P.Value) : Nonce.fromValue P value ≠ .panic := by
  refine Outcome.bind_ne_panic (Outcome.ofOption_ne_panic _ _) fun bytes _ => ?_
  refine Outcome.bind_ne_panic (fun h => ?_) fun _ _ h => by cases h
  rw [Outcome.mapErr_eq_panic, checkBstr16, Outcome.check] at h
  split at h
  · cases h
  · cases h

/-- The claims have a nonce that is one, and a byte string as identifier. -/
def Looks (claims : COSEHeaderMap P) (nonce : Nonce) (ueid : Bytes) : Prop :=
  ∃ nonceValue ueidValue, claims.lookup eatNonce.toI64 = some nonceValue ∧
    Nonce.fromValue P nonceValue = .ok nonce ∧ claims.lookup eatUeid.toI64 = some ueidValue ∧
    P.valueToBytes ueidValue = some ueid

/-- An identifier that is looked at is not empty, and one that is marked as random has 16 bytes
behind the mark. -/
def UeidFits (claims : COSEHeaderMap P) : Prop :=
  ∀ nonce ueid, Looks claims nonce ueid → ueid ≠ [] ∧ (ueid.head? = some Guid.eatRand → ueid.length = 17)

theorem Looks.unique {claims : COSEHeaderMap P} {nonce nonce' : Nonce} {ueid ueid' : Bytes}
    (h : Looks claims nonce ueid) (h' : Looks claims nonce' ueid') : ueid = ueid' := by
  obtain ⟨_, ueidValue, -, -, hueid, hbytes⟩ := h
  obtain ⟨_, ueidValue', -, -, hueid', hbytes'⟩ := h'
  obtain rfl := Option.some.inj (hueid.symm.trans hueid')
  exact Option.some.inj (hbytes.symm.trans hbytes')

theorem fromMap_looks {claims : COSEHeaderMap P} {nonce : Nonce} {ueid : Bytes} (h : Looks claims nonce ueid) :
    fromMap claims = (do
      let _ ← (Guid.fromUeid ueid).mapErr fun _ => Error.inconsistentValue "Invalid UEID"
      .ok ⟨claims.lookup eatFDO.toI64, nonce, ueid, ((claims.filter fun e => e.1 ≠ eatFDO.toI64).filter
        fun e => e.1 ≠ eatNonce.toI64).filter fun e => e.1 ≠ eatUeid.toI64⟩) := by
  obtain ⟨nonceValue, ueidValue, hnonce, hread, hueid, hbytes⟩ := h
  rw [fromMap_eq, hnonce, hueid]
  simp only [Outcome.ofOption, Outcome.ok_bind, hread, hbytes]

theorem fromMap_not_looks {claims : COSEHeaderMap P} (h : ∀ nonce ueid, ¬ Looks claims nonce ueid) :
    ∃ e, fromMap claims = .err e := by
  rw [fromMap_eq]
  cases hnonce : claims.lookup eatNonce.toI64 with
  | none => exact ⟨_, rfl⟩
  | some nonceValue =>
      simp only [Outcome.ofOption, Outcome.ok_bind]
      cases hread : Nonce.fromValue P nonceValue with
      | panic => exact absurd hread (Nonce.fromValue_ne_panic nonceValue)
      | err e => exact ⟨_, rfl⟩
      | ok nonce =>
          cases hueid : claims.lookup eatUeid.toI64 with
          | none => exact ⟨_, rfl⟩
          | some ueidValue =>
              cases hbytes : P.valueToBytes ueidValue with
              | none => exact ⟨.serdeCborError, by simp [hbytes]⟩
              | some ueid => exact absurd ⟨nonceValue, ueidValue, hnonce, hread, hueid, hbytes⟩ (h nonce ueid)

theorem fmt_ok {guid : Guid} (h : guid.value.length = 16) : ∃ text, guid.fmt = .ok text :=
  ⟨Stores.uuidText guid.value, by simp [Guid.fmt, Guid.asUuid, h]⟩

/-- The three kinds of identifiers. -/
theorem readsGuid_looks {claims : COSEHeaderMap P} {nonce : Nonce} {ueid : Bytes} (h : Looks claims nonce ueid) :
    ReadsGuid claims ↔ ueid ≠ [] ∧ (ueid.head? = some Guid.eatRand → ueid.length = 17) := by
  unfold ReadsGuid
  rw [fromMap_looks h]
  cases ueid with
  | nil => simp [Guid.fromUeid]
  | cons b data =>
      by_cases hb : b = Guid.eatRand
      · subst hb
        have hguid : Guid.fromUeid (Guid.eatRand :: data) = .ok ⟨data⟩ := by
          simp [Guid.fromUeid]
        simp only [hguid, Outcome.mapErr_ok, Outcome.ok_bind, ne_eq, reduceCtorEq, not_false_eq_true, true_and,
          Outcome.ok.injEq, forall_eq', getDeviceGuid, Outcome.unwrap, exists_eq_left', List.head?_cons,
          forall_true_left, List.length_cons]
        constructor
        · rintro ⟨hlen, -⟩
          omega
        · intro hlen
          have hsixteen : data.length = 16 := by omega
          exact ⟨hsixteen, fmt_ok hsixteen⟩
      · have hguid : Guid.fromUeid (b :: data) = .err (.inconsistentValue "Invalid UEID") :=
          if_pos hb
        simp [hguid, hb]

theorem readsGuid_iff {claims : COSEHeaderMap P} : ReadsGuid claims ↔ UeidFits claims := by
  by_cases hlooks : ∃ nonce ueid, Looks claims nonce ueid
  case pos =>
    obtain ⟨nonce, ueid, h⟩ := hlooks
    rw [readsGuid_looks h]
    constructor
    · intro hfits nonce' ueid' h'
      rw [← h.unique h']
      exact hfits
    · exact fun hall => hall nonce ueid h
  case neg =>
    have hnone : ∀ nonce ueid, ¬ Looks claims nonce ueid := fun nonce ueid h => hlooks ⟨nonce, ueid, h⟩
    obtain ⟨e, herr⟩ := fromMap_not_looks hnone
    refine iff_of_true ⟨?_, ?_⟩ fun nonce ueid h => absurd h (hnone nonce ueid)
    · rw [herr]
      exact fun h => by cases h
    · rw [herr]
      exact fun eat h => by cases h

/-- A fresh token is read back exactly when its nonce has 16 bytes, and claims from elsewhere are
read as they should exactly when the identifier in them, if it is looked at, has the right size. -/
theorem eat_claims_iff (laws : ByteValueLaws P) :
    (∀ (α : Type) (toValue : α → Option P.Value) (payload : Option α) (nonce : Nonce) (guid : Guid)
      (eat : EATokenPayload P), newEat toValue payload nonce guid = .ok eat → ∃ claims, eat.toMap = .ok claims ∧
        (ReadsBack claims (payload.bind toValue) nonce guid ↔ nonce.value.length = 16)) ∧
    (∀ claims : COSEHeaderMap P, ReadsGuid claims ↔ UeidFits claims) := by
  refine ⟨?_, fun claims => readsGuid_iff⟩
  intro α toValue payload nonce guid eat hnew
  obtain rfl := newEat_eq_ok hnew
  obtain ⟨nonceValue, ueidValue, hnonce, hueid, hmap⟩ := toMap_newEat laws (payload.bind toValue) nonce guid
  exact ⟨_, hmap, readsBack_iff hnonce hueid⟩

open Reference

theorem byteValueLaws (p : Profile) : ByteValueLaws (reference p) :=
  ⟨fun data => ⟨.scalar (.bytes data), rfl, rfl⟩⟩

/-- The claims with a nonce and this identifier. -/
def sampleClaims (ueid : Bytes) : COSEHeaderMap (reference .release) :=
  [(eatNonce.toI64, .scalar (.bytes (List.replicate 16 5))), (eatUeid.toI64, .scalar (.bytes ueid))]

theorem eat_claims_sample : ReadsGuid (sampleClaims (1 :: List.replicate 16 7)) ∧
    ∃ claims, toMap (P := reference .release)
        ⟨none, ⟨List.replicate 16 5⟩, (Guid.mk (List.replicate 16 7)).asUeid, []⟩ = .ok claims ∧
      ReadsBack claims none ⟨List.replicate 16 5⟩ ⟨List.replicate 16 7⟩ := by
  obtain ⟨hback, hreads⟩ := eat_claims_iff (byteValueLaws .release)
  refine ⟨(hreads _).mpr ?_, ?_⟩
  · rintro nonce ueid ⟨nonceValue, ueidValue, -, -, hueid, hbytes⟩
    cases hueid
    cases hbytes
    exact ⟨by decide, fun _ => by decide⟩
  · obtain ⟨claims, hmap, hiff⟩ :=
      hback Unit (fun _ => none) none ⟨List.replicate 16 5⟩ ⟨List.replicate 16 7⟩ _ rfl
    exact ⟨claims, hmap, hiff.mpr (by decide)⟩

/-- An empty identifier stops the reader, and the mark alone makes a guid that cannot be printed. -/
theorem short_ueid_stops : fromMap (sampleClaims []) = .panic ∧
    ∃ eat guid, fromMap (sampleClaims [1]) = .ok eat ∧ eat.getDeviceGuid = .ok guid ∧ guid.fmt = .panic :=
  ⟨rfl, _, _, rfl, rfl, rfl⟩

end EATokenPayload
end FidoOnboard
