import FidoOnboard.DataFormats.To2Types

/-!
# Comparing hashes

A hash arrives as a type and any byte string, and is compared with the digest of some
data under that type by a function that stops on different lengths.
-/
namespace FidoOnboard

theorem memcmpEq_eq_panic {a b : Bytes} : memcmpEq a b = .panic ↔ a.length ≠ b.length := by
  unfold memcmpEq
  split <;> simp_all

namespace Hash

variable {P : Platform}

theorem compare_eq_panic {h other : Hash} : h.compare other = .panic ↔ h.value.length ≠ other.value.length := by
  rw [← memcmpEq_eq_panic, compare, Outcome.bind_eq_panic]
  refine or_iff_left ?_
  rintro ⟨same, -, hif⟩
  cases same with
  | true => cases hif
  | false => cases hif

theorem fromData_ne_panic (P : Platform) (alg : HashType) (data : Bytes) : fromData P alg data ≠ .panic :=
  Outcome.bind_ne_panic (Outcome.ofOption_ne_panic _ _) fun _ _ =>
    Outcome.bind_ne_panic (Outcome.ofOption_ne_panic _ _) fun _ _ hok => by cases hok

theorem fromData_length (laws : DigestLaws P) {alg : HashType} {data : Bytes} {h : Hash}
    (hf : fromData P alg data = .ok h) : h.value.length = alg.digestSize := by
  obtain ⟨rfl, md, hmd, hvalue⟩ := fromData_eq_ok.mp hf
  exact laws.hash_length hmd hvalue

/-- Where `data` has a digest under the type of the hash, the value is as long as that. -/
def Measured (P : Platform) (h : Hash) (data : Bytes) : Prop :=
  ∀ md, h.hashType.messageDigest = some md → (P.hash md data).isSome = true →
    h.value.length = h.hashType.digestSize

theorem measured_iff {h : Hash} {data : Bytes} : h.Measured P data ↔
    ∀ other, fromData P h.hashType data = .ok other → h.value.length = h.hashType.digestSize := by
  constructor
  · intro hm other hother
    obtain ⟨htype, md, hmd, hvalue⟩ := fromData_eq_ok.mp hother
    exact hm md (htype ▸ hmd) (by rw [hvalue]; rfl)
  · intro hall md hmd hsome
    obtain ⟨value, hvalue⟩ := Option.isSome_iff_exists.mp hsome
    exact hall ⟨h.hashType, value⟩ (fromData_eq_ok.mpr ⟨rfl, md, hmd, hvalue⟩)

/-- The shape of all the checks: the digest under the named type, then the comparison. -/
def checkData (P : Platform) (h : Hash) (data : Bytes) : Outcome Error Unit := do
  let other ← fromData P h.hashType data
  h.compare other

theorem checkData_ne_panic (laws : DigestLaws P) {h : Hash} {data : Bytes} :
    h.checkData P data ≠ .panic ↔ h.Measured P data := by
  rw [measured_iff]
  constructor
  · intro hne other hother
    rw [← fromData_length laws hother]
    by_contra hlen
    exact hne (Outcome.bind_eq_panic.mpr (.inr ⟨other, hother, compare_eq_panic.mpr hlen⟩))
  · intro hall
    refine Outcome.bind_ne_panic (fromData_ne_panic _ _ _) fun other hother hpanic => ?_
    exact compare_eq_panic.mp hpanic ((hall other hother).trans (fromData_length laws hother).symm)

theorem compareData_eq_checkData (h : Hash) (data : Bytes) : h.compareData P data = h.checkData P data := by
  unfold compareData checkData fromData compare
  cases h.hashType.messageDigest with
  | none => rfl
  | some md =>
      simp only [Outcome.ofOption, Outcome.ok_bind]
      cases P.hash md data with
      | none => rfl
      | some digest => rfl

theorem fromDigest_length {hashType : HashType} {value : Bytes} {h : Hash}
    (hd : fromDigest hashType value = .ok h) : h.value.length = h.hashType.digestSize := by
  obtain ⟨hlength, rfl⟩ := fromDigest_eq_ok.mp hd
  exact hlength

theorem fromDigest_ne_panic (hashType : HashType) (value : Bytes) :
    fromDigest hashType value ≠ .panic := by
  unfold fromDigest
  split
  · exact fun h => by cases h
  · exact fun h => by cases h

end Hash

end FidoOnboard
