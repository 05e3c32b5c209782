import FidoOnboard.DataFormats.PublicKey
import FidoOnboard.DataFormats.Reference

/-!
# What a verified certificate chain says

The loop of `X5Chain::verify` looks at a link before it asks for trust in the
issuer, and stops at the first issuer that is trusted.
-/
namespace FidoOnboard
open Reference

/-! ## The bag -/

namespace X5Bag

variable {P : Platform}

/-- An entry under the digest of the certificate takes the place of an older one. -/
def addCert (bag : X5Bag P) (cert : P.X509) : Outcome Error (X5Bag P) := do
  let digest ← .ofOption .cryptoStack (P.x509Digest cert .sha256)
  .ok ⟨(digest, cert) :: bag.certs.filter (·.1 ≠ digest)⟩

def withCerts (certs : List P.X509) : Outcome Error (X5Bag P) := certs.foldlM addCert ⟨[]⟩

/-- Every entry is one of the certificates, under its own digest. -/
def Holds (certs : List P.X509) (bag : X5Bag P) : Prop :=
  ∀ entry ∈ bag.certs, entry.2 ∈ certs ∧ P.x509Digest entry.2 .sha256 = some entry.1

theorem addCert_holds {certs : List P.X509} {bag bag' : X5Bag P} {cert : P.X509} (hbag : Holds certs bag)
    (hcert : cert ∈ certs) (h : bag.addCert cert = .ok bag') : Holds certs bag' := by
  obtain ⟨digest, hdigest, hadded⟩ := Outcome.bind_eq_ok.mp h
  rw [Outcome.ofOption_eq_ok] at hdigest
  cases hadded
  intro entry hentry
  rcases List.mem_cons.mp hentry with rfl | hold
  · exact ⟨hcert, hdigest⟩
  · exact hbag entry (List.mem_filter.mp hold).1

theorem withCerts_holds {certs : List P.X509} {bag : X5Bag P} (h : withCerts certs = .ok bag) :
    Holds certs bag := by
  have hfold : ∀ (todo : List P.X509) (bag₀ : X5Bag P), (∀ cert ∈ todo, cert ∈ certs) → Holds certs bag₀ →
      todo.foldlM addCert bag₀ = .ok bag → Holds certs bag := by
    intro todo
    induction todo with
    | nil =>
        intro bag₀ _ hbag hrun
        cases hrun
        exact hbag
    | cons cert todo ih =>
        intro bag₀ hsub hbag hrun
        rw [List.foldlM_cons] at hrun
        obtain ⟨bag₁, hadd, hrest⟩ := Outcome.bind_eq_ok.mp hrun
        exact ih bag₁ (fun c hc => hsub c (List.mem_cons_of_mem _ hc))
          (addCert_holds hbag (hsub cert List.mem_cons_self) hadd) hrest
  exact hfold certs ⟨[]⟩ (fun _ h => h) (fun _ h => by cases h) h

/-- Some certificate has the same digest. -/
def Member (certs : List P.X509) (cert : P.X509) : Prop :=
  ∃ member ∈ certs, ∃ digest, P.x509Digest member .sha256 = some digest ∧ P.x509Digest cert .sha256 = some digest

theorem member_of_contains {certs : List P.X509} {bag : X5Bag P} {cert : P.X509} (hbag : Holds certs bag)
    (h : bag.contains cert = true) : Member certs cert := by
  unfold contains at h
  split at h
  · cases h
  case h_2 digest hdigest =>
    obtain ⟨entry, hentry, hkey⟩ := List.lookup_isSome_iff.mp h
    obtain ⟨hmem, hown⟩ := hbag entry hentry
    exact ⟨entry.2, hmem, digest, by rw [hown, ← beq_iff_eq.mp hkey], hdigest⟩

/-- No two certificates share a SHA-256 digest. -/
def DistinctDigests (P : Platform) : Prop :=
  ∀ a b digest, P.x509Digest a .sha256 = some digest → P.x509Digest b .sha256 = some digest → a = b

theorem Member.mem {certs : List P.X509} {cert : P.X509} (h : Member certs cert) (hinj : DistinctDigests P) :
    cert ∈ certs := by
  obtain ⟨member, hmem, digest, hmember, hcert⟩ := h
  rw [hinj cert member digest hcert hmember]
  exact hmem

end X5Bag

/-! ## Links and trust -/

namespace X5Chain

variable {P : Platform}

/-- The issuer issued the certificate, and its key verifies the signature. -/
def SignedBy (cert issuer : P.X509) : Prop :=
  P.x509Issued issuer cert = true ∧ ∃ key, P.x509PublicKey issuer = some key ∧ P.x509Verify cert key = some true

/-- The certificate at a position is signed by the next. -/
def LinkAt (certs : List P.X509) (i : Nat) : Prop :=
  ∃ cert issuer, certs[i]? = some cert ∧ certs[i + 1]? = some issuer ∧ SignedBy cert issuer

/-- The first `k` certificates are each signed by the next. -/
def Linked (certs : List P.X509) (k : Nat) : Prop := ∀ i < k, LinkAt certs i

/-- Links lead up to position `k`, and the certificate there is trusted. -/
def Reaches (trusted : P.X509 → Prop) (certs : List P.X509) (k : Nat) : Prop :=
  Linked certs k ∧ ∃ root, certs[k]? = some root ∧ trusted root

theorem linked_zero (certs : List P.X509) : Linked certs 0 := fun _ h => absurd h (Nat.not_lt_zero _)

theorem linked_succ {cert issuer : P.X509} {rest : List P.X509} {k : Nat} :
    Linked (cert :: issuer :: rest) (k + 1) ↔ SignedBy cert issuer ∧ Linked (issuer :: rest) k := by
  constructor
  · intro h
    constructor
    · obtain ⟨cert', issuer', hcert, hissuer, hsigned⟩ := h 0 (Nat.succ_pos k)
      cases hcert
      cases hissuer
      exact hsigned
    · intro i hi
      exact h (i + 1) (Nat.succ_lt_succ hi)
  · rintro ⟨hsigned, hrest⟩ i hi
    cases i with
    | zero => exact ⟨cert, issuer, rfl, rfl, hsigned⟩
    | succ i => exact hrest i (Nat.lt_of_succ_lt_succ hi)

theorem reaches_succ {trusted : P.X509 → Prop} {cert issuer : P.X509} {rest : List P.X509} {k : Nat} :
    Reaches trusted (cert :: issuer :: rest) (k + 1) ↔ SignedBy cert issuer ∧ Reaches trusted (issuer :: rest) k := by
  unfold Reaches
  rw [linked_succ, and_assoc]
  rfl

theorem not_reaches_single {trusted : P.X509 → Prop} {cert : P.X509} {k : Nat} :
    ¬Reaches trusted [cert] (k + 1) := by
  rintro ⟨-, root, hroot, -⟩
  cases hroot

/-- One round of the loop. -/
theorem verifyFrom_cons {isTrustedRoot : P.X509 → Outcome Error Bool} {leaf cert issuer found : P.X509}
    {rest : List P.X509} {certpos : Nat} :
    verifyFrom isTrustedRoot leaf certpos (cert :: issuer :: rest) = .ok found ↔
      SignedBy cert issuer ∧ (isTrustedRoot issuer = .ok true ∧ leaf = found ∨
        isTrustedRoot issuer = .ok false ∧
          verifyFrom isTrustedRoot leaf (certpos + 1) (issuer :: rest) = .ok found) := by
  conv_lhs => rw [verifyFrom]
  unfold SignedBy
  cases hissued : P.x509Issued issuer cert with
  | false => simp
  | true =>
      cases hkey : P.x509PublicKey issuer with
      | none => simp [Outcome.ofOption, Outcome.unwrap]
      | some key =>
          cases hverify : P.x509Verify cert key with
          | none => simp [Outcome.ofOption, Outcome.unwrap, hverify]
          | some signed =>
              cases signed with
              | false => simp [Outcome.ofOption, Outcome.unwrap, hverify]
              | true =>
                  cases htrusted : isTrustedRoot issuer with
                  | ok trusted => cases trusted <;> simp [Outcome.ofOption, Outcome.unwrap, hverify]
                  | err e => simp [Outcome.ofOption, Outcome.unwrap, hverify]
                  | panic => simp [Outcome.ofOption, Outcome.unwrap, hverify]

/-- Whatever the trust is, a chain that is accepted leads to a trusted certificate. -/
theorem verifyFrom_sound {isTrustedRoot : P.X509 → Outcome Error Bool} {leaf found : P.X509} {certs : List P.X509}
    {certpos : Nat} (h : verifyFrom isTrustedRoot leaf certpos certs = .ok found) :
    leaf = found ∧ ∃ k, Reaches (fun root => isTrustedRoot root = .ok true) certs (k + 1) := by
  induction certs generalizing certpos with
  | nil => cases h
  | cons cert rest ih =>
      cases rest with
      | nil => cases h
      | cons issuer rest =>
          obtain ⟨hsigned, ⟨htrusted, hleaf⟩ | ⟨-, hrest⟩⟩ := verifyFrom_cons.mp h
          · exact ⟨hleaf, 0, reaches_succ.mpr ⟨hsigned, linked_zero _, issuer, rfl, htrusted⟩⟩
          · obtain ⟨hleaf, k, hreach⟩ := ih hrest
            exact ⟨hleaf, k + 1, reaches_succ.mpr ⟨hsigned, hreach⟩⟩

theorem verifyFrom_complete {T : P.X509 → Bool} {leaf : P.X509} {certs : List P.X509} {certpos k : Nat}
    (h : Reaches (fun root => T root = true) certs (k + 1)) :
    verifyFrom (fun cert => .ok (T cert)) leaf certpos certs = .ok leaf := by
  induction certs generalizing certpos k with
  | nil =>
      obtain ⟨-, root, hroot, -⟩ := h
      cases hroot
  | cons cert rest ih =>
      cases rest with
      | nil => exact absurd h not_reaches_single
      | cons issuer rest =>
          obtain ⟨hsigned, hreach⟩ := reaches_succ.mp h
          rw [verifyFrom_cons]
          refine ⟨hsigned, ?_⟩
          cases htrusted : T issuer with
          | true => exact .inl ⟨rfl, rfl⟩
          | false =>
              -- the issuer is not where trust is reached, so the path goes on behind it
              cases k with
              | zero =>
                  obtain ⟨-, root, hroot, htrust⟩ := hreach
                  cases hroot
                  rw [htrust] at htrusted
                  cases htrusted
              | succ k => exact .inr ⟨rfl, ih hreach⟩

/-- A single certificate is trusted itself, or links lead from the leaf to a trusted one. -/
def Trusts (trusted : P.X509 → Prop) (certs : List P.X509) : Prop :=
  (∃ cert, certs = [cert] ∧ trusted cert) ∨ ∃ k, 1 ≤ k ∧ k < certs.length ∧ Reaches trusted certs k

theorem Trusts.mono {trusted trusted' : P.X509 → Prop} {certs : List P.X509} (h : Trusts trusted certs)
    (himp : ∀ root, trusted root → trusted' root) : Trusts trusted' certs := by
  rcases h with ⟨cert, hsingle, htrusted⟩ | ⟨k, hk, hlt, hlinked, root, hroot, htrusted⟩
  · exact .inl ⟨cert, hsingle, himp cert htrusted⟩
  · exact .inr ⟨k, hk, hlt, hlinked, root, hroot, himp root htrusted⟩

theorem Reaches.lt_length {trusted : P.X509 → Prop} {certs : List P.X509} {k : Nat}
    (h : Reaches trusted certs k) : k < certs.length := by
  obtain ⟨-, root, hroot, -⟩ := h
  exact (List.getElem?_eq_some_iff.mp hroot).1

theorem verify_sound {isTrustedRoot : P.X509 → Outcome Error Bool} {c : X5Chain P} {found : P.X509}
    (h : c.verify isTrustedRoot = .ok found) :
    c.chain.head? = some found ∧ Trusts (fun root => isTrustedRoot root = .ok true) c.chain := by
  unfold verify at h
  split at h
  case h_1 => cases h
  case h_2 cert hchain =>
    obtain ⟨trusted, htrusted, hfound⟩ := Outcome.bind_eq_ok.mp h
    cases trusted with
    | false => cases hfound
    | true =>
        cases hfound
        rw [hchain]
        exact ⟨rfl, .inl ⟨found, rfl, htrusted⟩⟩
  case h_3 leaf rest hmany hchain =>
    obtain ⟨rfl, k, hreach⟩ := verifyFrom_sound h
    rw [hchain]
    exact ⟨rfl, .inr ⟨k + 1, Nat.le_add_left 1 k, hreach.lt_length, hreach⟩⟩

theorem verify_complete {T : P.X509 → Bool} {c : X5Chain P} {leaf : P.X509} (hleaf : c.chain.head? = some leaf)
    (h : Trusts (fun root => T root = true) c.chain) : c.verify (fun cert => .ok (T cert)) = .ok leaf := by
  obtain ⟨chain⟩ := c
  unfold verify
  rcases h with ⟨cert, hsingle, htrusted⟩ | ⟨k, hk, -, hreach⟩
  · simp only at hsingle hleaf ⊢
    subst hsingle
    cases hleaf
    simp [htrusted]
  · obtain ⟨k, rfl⟩ : ∃ l, k = l + 1 := ⟨k - 1, by omega⟩
    match chain with
    | [] => cases hleaf
    | [cert] => exact absurd hreach not_reaches_single
    | first :: second :: rest =>
        cases hleaf
        exact verifyFrom_complete hreach

/-- What stands behind the certificate that is reached does not matter. -/
theorem Reaches.take {trusted : P.X509 → Prop} {certs : List P.X509} {k : Nat} (h : Reaches trusted certs k)
    (tail : List P.X509) : Reaches trusted (certs.take (k + 1) ++ tail) k := by
  have hlen := h.lt_length
  have hsame : ∀ i ≤ k, (certs.take (k + 1) ++ tail)[i]? = certs[i]? := by
    intro i hi
    rw [List.getElem?_append_left (by rw [List.length_take]; omega), List.getElem?_take_of_lt (by omega)]
  obtain ⟨hlinked, root, hroot, htrusted⟩ := h
  refine ⟨fun i hi => ?_, root, (hsame k le_rfl).trans hroot, htrusted⟩
  unfold LinkAt
  rw [hsame i (by omega), hsame (i + 1) (by omega)]
  exact hlinked i hi

/-- The certificate that is reached has the digest. -/
def HasDigest (digest : Hash) (cert : P.X509) : Prop :=
  ∃ md, digest.hashType.messageDigest = some md ∧ P.x509Digest cert md = some digest.value

theorem verifyFromDigest_sound {digest : Hash} {c : X5Chain P} {found : P.X509}
    (h : c.verifyFromDigest digest = .ok found) :
    c.chain.head? = some found ∧ Trusts (HasDigest digest) c.chain := by
  obtain ⟨md, hmd, hverify⟩ := Outcome.bind_eq_ok.mp h
  rw [Outcome.ofOption_eq_ok] at hmd
  obtain ⟨hleaf, htrusts⟩ := verify_sound hverify
  refine ⟨hleaf, htrusts.mono fun root hroot => ?_⟩
  obtain ⟨value, hvalue, hequal⟩ := Outcome.bind_eq_ok.mp hroot
  rw [Outcome.unwrap_eq_ok, Outcome.ofOption_eq_ok] at hvalue
  exact ⟨md, hmd, by rw [hvalue, memcmpEq_eq_true.mp hequal]⟩

theorem verifyFromX5bag_sound {certs : List P.X509} {bag : X5Bag P} (hbag : X5Bag.withCerts certs = .ok bag)
    {c : X5Chain P} {found : P.X509} (h : c.verifyFromX5bag bag = .ok found) :
    c.chain.head? = some found ∧ Trusts (X5Bag.Member certs) c.chain := by
  obtain ⟨hleaf, htrusts⟩ := verify_sound h
  refine ⟨hleaf, htrusts.mono fun root hroot => ?_⟩
  exact X5Bag.member_of_contains (X5Bag.withCerts_holds hbag) (Outcome.ok.inj hroot)

/-- When a chain is accepted, for any trust, and what that means for a bag and for a digest. -/
theorem verify_spec (c : X5Chain P) :
    (∀ (T : P.X509 → Bool) (found : P.X509), c.verify (fun cert => .ok (T cert)) = .ok found ↔
      c.chain.head? = some found ∧ Trusts (fun root => T root = true) c.chain) ∧
    (∀ (certs : List P.X509) (bag : X5Bag P), X5Bag.withCerts certs = .ok bag → ∀ found,
      c.verifyFromX5bag bag = .ok found →
        c.chain.head? = some found ∧ Trusts (X5Bag.Member certs) c.chain ∧
          (X5Bag.DistinctDigests P → Trusts (· ∈ certs) c.chain)) ∧
    (∀ (digest : Hash) (found : P.X509), c.verifyFromDigest digest = .ok found →
      c.chain.head? = some found ∧ Trusts (HasDigest digest) c.chain) ∧
    ∀ (T : P.X509 → Bool) (k : Nat), 1 ≤ k → Reaches (fun root => T root = true) c.chain k →
      ∀ tail, verify (fun cert => .ok (T cert)) ⟨c.chain.take (k + 1) ++ tail⟩ =
        c.verify fun cert => .ok (T cert) := by
  refine ⟨fun T found => ⟨fun h => ?_, fun h => verify_complete h.1 h.2⟩, fun certs bag hbag found h => ?_,
    fun digest found h => verifyFromDigest_sound h, fun T k hk hreach tail => ?_⟩
  · obtain ⟨hleaf, htrusts⟩ := verify_sound h
    exact ⟨hleaf, htrusts.mono fun root hroot => Outcome.ok.inj hroot⟩
  · obtain ⟨hleaf, htrusts⟩ := verifyFromX5bag_sound hbag h
    exact ⟨hleaf, htrusts, fun hinj => htrusts.mono fun root hroot => hroot.mem hinj⟩
  · obtain ⟨leaf, hleaf⟩ : ∃ leaf, c.chain.head? = some leaf := by
      obtain ⟨root, hroot, -⟩ := hreach.2
      cases hchain : c.chain with
      | nil =>
          rw [hchain] at hroot
          cases hroot
      | cons leaf rest => exact ⟨leaf, rfl⟩
    have htake := hreach.take tail
    have hleaf' : (c.chain.take (k + 1) ++ tail).head? = some leaf := by
      rw [List.head?_append, List.head?_take, if_neg (Nat.succ_ne_zero k), hleaf]
      rfl
    rw [verify_complete hleaf (.inr ⟨k, hk, hreach.lt_length, hreach⟩)]
    exact verify_complete hleaf' (.inr ⟨k, hk, htake.lt_length, htake⟩)

/-- Three certificates of which the last has signed nothing. -/
def brokenChain : X5Chain (reference .release) := ⟨[[1, 2], [7, 1], [9, 9]]⟩

def trustSecond : (reference .release).X509 → Bool := fun (cert : Bytes) => cert == [7, 1]

theorem verify_spec_sample : brokenChain.verify (fun cert => .ok (trustSecond cert)) = .ok [1, 2] := by
  refine ((verify_spec brokenChain).1 trustSecond [1, 2]).mpr ⟨rfl, .inr ⟨1, le_rfl, by decide, ?_, [7, 1], rfl, ?_⟩⟩
  · exact linked_succ.mpr ⟨⟨by decide, [1], rfl, by decide⟩, linked_zero _⟩
  · rfl

/-! ## Trusting everyone -/

/-- With every root trusted the first link is the only one that is looked at. -/
theorem insecure_ok_iff {c : X5Chain P} {found : P.X509} :
    c.insecureVerifyWithoutRootVerification = .ok found ↔
      c.chain.head? = some found ∧ (c.chain = [found] ∨ LinkAt c.chain 0) := by
  constructor
  · intro h
    obtain ⟨hleaf, ⟨cert, hsingle, -⟩ | ⟨k, hk, -, hlinked, -⟩⟩ := verify_sound h
    · rw [hsingle] at hleaf
      cases hleaf
      exact ⟨by rw [hsingle]; rfl, .inl hsingle⟩
    · exact ⟨hleaf, .inr (hlinked 0 hk)⟩
  · rintro ⟨hleaf, hsingle | hlink⟩
    · exact verify_complete (T := fun _ => true) hleaf (.inl ⟨found, hsingle, rfl⟩)
    · obtain ⟨cert, issuer, hcert, hissuer, hsigned⟩ := id hlink
      have hreach : Reaches (fun _ => (true = true)) c.chain 1 := by
        refine ⟨fun i hi => ?_, issuer, hissuer, rfl⟩
        rw [Nat.lt_one_iff.mp hi]
        exact hlink
      exact verify_complete (T := fun _ => true) hleaf (.inr ⟨1, le_rfl, hreach.lt_length, hreach⟩)

/-- Every certificate but the last is signed by its successor. -/
def Whole (c : X5Chain P) : Prop := ∀ i, i + 1 < c.chain.length → LinkAt c.chain i

theorem insecure_whole_iff (c : X5Chain P) :
    (∀ found, c.insecureVerifyWithoutRootVerification = .ok found → Whole c) ↔
      ¬LinkAt c.chain 0 ∨ ∀ i, 1 ≤ i → i + 1 < c.chain.length → LinkAt c.chain i := by
  constructor
  · intro h
    by_cases hlink : LinkAt c.chain 0
    case neg => exact .inl hlink
    case pos =>
      right
      intro i _ hi
      have hleaf : ∃ leaf, c.chain.head? = some leaf := by
        obtain ⟨cert, issuer, hcert, -⟩ := hlink
        exact ⟨cert, by rw [List.head?_eq_getElem?, hcert]⟩
      obtain ⟨leaf, hleaf⟩ := hleaf
      exact h leaf (insecure_ok_iff.mpr ⟨hleaf, .inr hlink⟩) i hi
  · intro h found hok i hi
    obtain ⟨-, hsingle | hlink⟩ := insecure_ok_iff.mp hok
    · rw [hsingle] at hi
      exact absurd hi (by simp)
    · rcases h with hbroken | hlater
      · exact absurd hlink hbroken
      · cases i with
        | zero => exact hlink
        | succ i => exact hlater (i + 1) (Nat.le_add_left 1 i) hi

/-- The second link of three is broken, and the chain is accepted. -/
theorem insecure_accepts_broken :
    brokenChain.insecureVerifyWithoutRootVerification = .ok [1, 2] ∧ ¬Whole brokenChain := by
  refine ⟨rfl, fun hwhole => ?_⟩
  obtain ⟨cert, issuer, hcert, hissuer, hissued, -⟩ := hwhole 1 (by decide)
  cases hcert
  cases hissuer
  exact absurd hissued (by decide)

end X5Chain
end FidoOnboard
