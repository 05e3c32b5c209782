import FidoOnboard.DataFormats.Types

/-! Public keys and certificate chains of `data-formats/src/publickey.rs`, and `X5Bag`. -/
namespace FidoOnboard

/-- `[leaf, intermediate1, ..., intermediateN, root]`. -/
@[ext] structure X5Chain (P : Platform) where
  chain : List P.X509

namespace X5Chain

variable {P : Platform}

/-- The visitor: one certificate after another, each from its DER form. -/
def ofDer (P : Platform) (ders : List Bytes) : Option (X5Chain P) :=
  (ders.mapM P.x509FromDer).map X5Chain.mk

def toDer (c : X5Chain P) : Option (List Bytes) := c.chain.mapM P.x509ToDer

def fromSlice (P : Platform) (data : Bytes) : Outcome Error (X5Chain P) := do
  let ders ← P.certificates.deserializeData data
  .ofOption .serdeCborError (ofDer P ders)

/-- `to_vec`, through `serde_cbor`. -/
def toVec (c : X5Chain P) : Outcome Error Bytes := do
  let ders ← .ofOption .serdeCborError c.toDer
  .ofOption .serdeCborError (P.certificates.intoWriter ders)

def leafCertificate (c : X5Chain P) : Option P.X509 := c.chain.head?

/-- The loop over neighbouring certificates, from position `certpos` on. -/
def verifyFrom (isTrustedRoot : P.X509 → Outcome Error Bool) (leaf : P.X509) :
    Nat → List P.X509 → Outcome Error P.X509
  | certpos, cert :: issuer :: rest => do
    if ¬ P.x509Issued issuer cert then .err (.invalidChain (.nonIssuer certpos))
    else do
      let key ← (Outcome.ofOption Error.cryptoStack (P.x509PublicKey issuer)).unwrap
      if ← .ofOption .cryptoStack (P.x509Verify cert key) then
        if ← isTrustedRoot issuer then .ok leaf
        else verifyFrom isTrustedRoot leaf (certpos + 1) (issuer :: rest)
      else .err (.invalidChain (.invalidSignedCert certpos))
  | _, _ => .err (.invalidChain .noTrustedRoot)

def verify (isTrustedRoot : P.X509 → Outcome Error Bool) (c : X5Chain P) : Outcome Error P.X509 :=
  match c.chain with
  | [] => .err (.invalidChain .empty)
  | [cert] => do
    if ← isTrustedRoot cert then .ok cert else .err (.invalidChain .noTrustedRoot)
  | leaf :: rest => verifyFrom isTrustedRoot leaf 0 (leaf :: rest)

def verifyFromDigest (digest : Hash) (c : X5Chain P) : Outcome Error P.X509 := do
  let correctType ← .ofOption .unsupportedAlgorithm digest.hashType.messageDigest
  c.verify fun cert => do
    let certDigest ← (Outcome.ofOption Error.cryptoStack (P.x509Digest cert correctType)).unwrap
    memcmpEq digest.value certDigest

def insecureVerifyWithoutRootVerification (c : X5Chain P) : Outcome Error P.X509 :=
  c.verify fun _ => .ok true

theorem verifyFrom_eq_ok {isTrustedRoot : P.X509 → Outcome Error Bool} {leaf cert : P.X509}
    {certs : List P.X509} {certpos : Nat}
    (h : verifyFrom isTrustedRoot leaf certpos certs = .ok cert) : cert = leaf := by
  induction certs generalizing certpos with
  | nil => cases h
  | cons c rest ih =>
      cases rest with
      | nil => cases h
      | cons issuer rest =>
          unfold verifyFrom at h
          split at h
          · cases h
          · obtain ⟨key, _, h₁⟩ := Outcome.bind_eq_ok.mp h
            obtain ⟨signed, _, h₂⟩ := Outcome.bind_eq_ok.mp h₁
            cases signed with
            | false => cases h₂
            | true =>
                obtain ⟨trusted, _, h₃⟩ := Outcome.bind_eq_ok.mp h₂
                cases trusted with
                | true => exact (Outcome.ok.inj h₃).symm
                | false => exact ih h₃

/-- Whatever is trusted, a verified chain answers with its first certificate. -/
theorem verify_leaf {isTrustedRoot : P.X509 → Outcome Error Bool} {c : X5Chain P} {cert : P.X509}
    (h : c.verify isTrustedRoot = .ok cert) : c.leafCertificate = some cert := by
  unfold verify at h
  unfold leafCertificate
  split at h
  · cases h
  · next x hx =>
      obtain ⟨trusted, _, h₁⟩ := Outcome.bind_eq_ok.mp h
      cases trusted with
      | true => rw [hx, Outcome.ok.inj h₁]; rfl
      | false => cases h₁
  · next leaf rest _ hx => rw [hx, verifyFrom_eq_ok h]; rfl

/-- Each certificate is issued and signed by the next, up to one that is trusted. The first
of several is not asked whether it is trusted itself. -/
def TrustPath (trusted : P.X509 → Prop) : List P.X509 → Prop
  | [] => False
  | [cert] => trusted cert
  | cert :: issuer :: rest =>
    P.x509Issued issuer cert = true ∧
      (∃ key, P.x509PublicKey issuer = some key ∧ P.x509Verify cert key = some true) ∧
      (trusted issuer ∨ TrustPath trusted (issuer :: rest))

theorem verifyFrom_trustPath {isTrustedRoot : P.X509 → Outcome Error Bool} {leaf cert : P.X509}
    {certs : List P.X509} {certpos : Nat}
    (h : verifyFrom isTrustedRoot leaf certpos certs = .ok cert) :
    TrustPath (fun root => isTrustedRoot root = .ok true) certs := by
  induction certs generalizing certpos with
  | nil => cases h
  | cons c rest ih =>
      cases rest with
      | nil => cases h
      | cons issuer rest =>
          unfold verifyFrom at h
          split at h
          · cases h
          · next hissued =>
              obtain ⟨key, hkey, h₁⟩ := Outcome.bind_eq_ok.mp h
              obtain ⟨signed, hsigned, h₂⟩ := Outcome.bind_eq_ok.mp h₁
              rw [Outcome.unwrap_eq_ok, Outcome.ofOption_eq_ok] at hkey
              rw [Outcome.ofOption_eq_ok] at hsigned
              cases signed with
              | false => cases h₂
              | true =>
                  refine ⟨not_not.mp hissued, ⟨key, hkey, hsigned⟩, ?_⟩
                  obtain ⟨trusted, htrusted, h₃⟩ := Outcome.bind_eq_ok.mp h₂
                  cases trusted with
                  | true => exact .inl htrusted
                  | false => exact .inr (ih h₃)

theorem verify_trustPath {isTrustedRoot : P.X509 → Outcome Error Bool} {c : X5Chain P} {cert : P.X509}
    (h : c.verify isTrustedRoot = .ok cert) :
    TrustPath (fun root => isTrustedRoot root = .ok true) c.chain := by
  unfold verify at h
  split at h
  · cases h
  · next x hx =>
      obtain ⟨trusted, htrusted, h₁⟩ := Outcome.bind_eq_ok.mp h
      cases trusted with
      | true => rw [hx]; exact htrusted
      | false => cases h₁
  · next leaf rest _ hx => rw [hx]; exact verifyFrom_trustPath h

end X5Chain

/-- A written key with the openssl key and the certificates parsed from it. -/
@[ext] structure PublicKey (P : Platform) extends PublicKeyFields where
  pkey : P.PKey
  certs : Option (X5Chain P)

namespace PublicKey

variable {P : Platform}

def parseData (P : Platform) (encoding : PublicKeyEncoding) (data : Bytes) :
    Outcome Error (Option (X5Chain P) × P.PKey) :=
  match encoding with
  | .x509 => do
    let key ← .ofOption .cryptoStack (P.publicKeyFromDer data)
    .ok (none, key)
  | .x5chain =>
    if data = [] then .err (.inconsistentValue "Empty public key")
    else do
      let chain ← X5Chain.fromSlice P data
      match chain.leafCertificate with
      | none => .err (.inconsistentValue "Empty x5chain provided")
      | some leafCert => do
        let pkey ← .ofOption .cryptoStack (P.x509PublicKey leafCert)
        .ok (some chain, pkey)
  | .crypto | .cosekey => .err .unsupportedAlgorithm

def new (P : Platform) (fields : PublicKeyFields) : Outcome Error (PublicKey P) := do
  let (certs, pkey) ← parseData P fields.encoding fields.data
  .ok { fields with pkey, certs }

/-- The visitor reads the three fields and reports every failure as its own error. -/
def ofFields (P : Platform) (fields : PublicKeyFields) : Outcome Error (PublicKey P) :=
  (new P fields).mapErr fun _ => .serdeCborError

def deserializeData (P : Platform) (data : Bytes) : Outcome Error (PublicKey P) := do
  let fields ← P.publicKeyFields.deserializeData data
  ofFields P fields

def serializeData (k : PublicKey P) : Outcome Error Bytes :=
  P.publicKeyFields.serializeData k.toPublicKeyFields

def keyTypeFromPkey (pkey : P.PKey) : Outcome Error PublicKeyType :=
  match P.pkeyId pkey with
  | .ec => do
    match ← .ofOption .cryptoStack (P.pkeyCurve pkey) with
    | some .x9_62Prime256V1 => .ok .secp256R1
    | some .secp384R1 => .ok .secp384R1
    | _ => .err .unsupportedAlgorithm
  | .rsa =>
    match P.pkeyBits pkey with
    | 2048 => .ok .rsa2048RESTR
    | 3072 => .ok .rsaPkcs
    | _ => .err .unsupportedAlgorithm
  | .other => .err .unsupportedAlgorithm

/-- `TryFrom<X509>`. -/
def ofX509 (P : Platform) (x509 : P.X509) : Outcome Error (PublicKey P) := do
  let pkey ← .ofOption .cryptoStack (P.x509PublicKey x509)
  let keyType ← keyTypeFromPkey pkey
  let encoded ← .ofOption .cryptoStack (P.publicKeyToDer pkey)
  .ok { keyType, encoding := .x509, data := encoded, pkey, certs := none }

/-- `TryFrom<X5Chain>`. -/
def ofX5Chain (chain : X5Chain P) : Outcome Error (PublicKey P) := do
  let leafCert ← .ofOption (.inconsistentValue "x5chain without leaf certificate") chain.leafCertificate
  let pkey ← .ofOption .cryptoStack (P.x509PublicKey leafCert)
  let keyType ← keyTypeFromPkey pkey
  let encoded ← chain.toVec
  .ok { keyType, encoding := .x5chain, data := encoded, pkey, certs := some chain }

def matchesPkey (k : PublicKey P) (other : P.PKey) : Bool := P.publicEq k.pkey other

/-- The key is what its own written form is read back as. -/
def Reparses (k : PublicKey P) : Prop := new P k.toPublicKeyFields = .ok k

theorem ofFields_eq_ok {fields : PublicKeyFields} {k : PublicKey P} :
    ofFields P fields = .ok k ↔ k.toPublicKeyFields = fields ∧ k.Reparses := by
  unfold ofFields Reparses new
  rw [Outcome.mapErr_eq_ok]
  constructor
  · intro h
    obtain ⟨⟨certs, pkey⟩, hp, h₁⟩ := Outcome.bind_eq_ok.mp h
    obtain rfl := Outcome.ok.inj h₁
    exact ⟨rfl, by simp [hp]⟩
  · rintro ⟨rfl, h⟩
    exact h

theorem Reparses.unique {k k' : PublicKey P} (h : k.Reparses) (h' : k'.Reparses)
    (he : k.toPublicKeyFields = k'.toPublicKeyFields) : k = k' := by
  unfold Reparses at h h'
  rw [he] at h
  exact Outcome.ok.inj (h.symm.trans h')

/-- How a key comes about. -/
inductive Made : PublicKey P → Prop
  | new {fields : PublicKeyFields} {k : PublicKey P} : new P fields = .ok k → Made k
  | ofX509 {cert : P.X509} {k : PublicKey P} : ofX509 P cert = .ok k → Made k
  | ofX5Chain {chain : X5Chain P} {k : PublicKey P} : ofX5Chain chain = .ok k → Made k

theorem deserializeData_eq_ok {data : Bytes} {k : PublicKey P} :
    deserializeData P data = .ok k ↔
      P.publicKeyFields.fromSlice data = some k.toPublicKeyFields ∧ k.Reparses := by
  simp only [deserializeData, Outcome.bind_eq_ok, Codec.deserializeData_eq_ok, ofFields_eq_ok]
  constructor
  · rintro ⟨fields, hread, rfl, hk⟩
    exact ⟨hread, hk⟩
  · rintro ⟨hread, hk⟩
    exact ⟨_, hread, rfl, hk⟩

end PublicKey

/-- The certificates of a chain are read back from their DER forms. -/
theorem X5Chain.ofDer_toDer {P : Platform} (laws : ElementLaws P) {c : X5Chain P} {ders : List Bytes}
    (h : c.toDer = some ders) : X5Chain.ofDer P ders = some c := by
  obtain ⟨chain⟩ := c
  unfold toDer at h
  unfold ofDer
  rw [Option.map_eq_some_iff]
  refine ⟨chain, ?_, rfl⟩
  dsimp only at h
  induction chain generalizing ders with
  | nil => simp at h; subst h; rfl
  | cons cert chain ih =>
      simp only [List.mapM_cons, Option.pure_def, Option.bind_eq_bind, Option.bind_eq_some_iff,
        Option.some.injEq] at h
      obtain ⟨der, hder, rest, hrest, rfl⟩ := h
      simp [laws.x509_der cert der hder, ih hrest]

/-- However a key was made, its written form is read back as the key. -/
theorem PublicKey.Made.reparses {P : Platform} (laws : ElementLaws P) {k : PublicKey P}
    (h : k.Made) : k.Reparses := by
  cases h with
  | new hnew =>
      obtain ⟨⟨certs, pkey⟩, hp, h₁⟩ := Outcome.bind_eq_ok.mp hnew
      obtain rfl := Outcome.ok.inj h₁
      simp [Reparses, PublicKey.new, hp]
  | ofX509 hcert =>
      obtain ⟨pkey, _, h₁⟩ := Outcome.bind_eq_ok.mp hcert
      obtain ⟨keyType, _, h₂⟩ := Outcome.bind_eq_ok.mp h₁
      obtain ⟨der, hder, h₃⟩ := Outcome.bind_eq_ok.mp h₂
      obtain rfl := Outcome.ok.inj h₃
      have hback := laws.publicKey_der pkey der (Outcome.ofOption_eq_ok.mp hder)
      simp [Reparses, PublicKey.new, parseData, hback, Outcome.ofOption]
  | @ofX5Chain chain _ hchain =>
      obtain ⟨leaf, hleaf, h₁⟩ := Outcome.bind_eq_ok.mp hchain
      obtain ⟨pkey, hpkey, h₂⟩ := Outcome.bind_eq_ok.mp h₁
      obtain ⟨keyType, _, h₃⟩ := Outcome.bind_eq_ok.mp h₂
      obtain ⟨data, hdata, h₄⟩ := Outcome.bind_eq_ok.mp h₃
      obtain rfl := Outcome.ok.inj h₄
      obtain ⟨ders, hders, hwrite⟩ := Outcome.bind_eq_ok.mp hdata
      rw [Outcome.ofOption_eq_ok] at hleaf hpkey hders hwrite
      obtain ⟨hwf, hread⟩ := laws.certificates ders data hwrite
      have hslice : X5Chain.fromSlice P data = .ok chain := by
        simp [X5Chain.fromSlice, Codec.deserializeData_eq_ok.mpr hread,
          X5Chain.ofDer_toDer laws hders, Outcome.ofOption]
      simp [Reparses, PublicKey.new, parseData, hwf.ne_nil, hslice, hleaf, hpkey, Outcome.ofOption]

/-- Certificates under their SHA-256 digest. -/
structure X5Bag (P : Platform) where
  certs : List (Bytes × P.X509)

namespace X5Bag

variable {P : Platform}

def contains (bag : X5Bag P) (toFind : P.X509) : Bool :=
  match P.x509Digest toFind .sha256 with
  | none => false
  | some digest => (bag.certs.lookup digest).isSome

/-- The walk over the certificates; one without a usable key stops the program. -/
def containsPkey (toFind : P.PKey) : List (Bytes × P.X509) → Outcome Error Bool
  | [] => .ok false
  | (_, cert) :: rest => do
    let key ← (Outcome.ofOption Error.cryptoStack (P.x509PublicKey cert)).unwrap
    if P.publicEq key toFind then .ok true else containsPkey toFind rest

def containsPublickey (bag : X5Bag P) (toFind : PublicKey P) : Outcome Error Bool :=
  containsPkey toFind.pkey bag.certs

/-- Some certificate of the bag is for the key. -/
def HasKey (bag : X5Bag P) (toFind : P.PKey) : Prop :=
  ∃ entry ∈ bag.certs, ∃ key, P.x509PublicKey entry.2 = some key ∧ P.publicEq key toFind = true

theorem containsPkey_true {toFind : P.PKey} {certs : List (Bytes × P.X509)}
    (h : containsPkey toFind certs = .ok true) : HasKey ⟨certs⟩ toFind := by
  induction certs with
  | nil => cases h
  | cons entry rest ih =>
      obtain ⟨digest, cert⟩ := entry
      obtain ⟨key, hkey, h₁⟩ := Outcome.bind_eq_ok.mp h
      rw [Outcome.unwrap_eq_ok, Outcome.ofOption_eq_ok] at hkey
      split at h₁
      · next hequal => exact ⟨_, List.mem_cons_self, key, hkey, hequal⟩
      · obtain ⟨found, hmem, hfound⟩ := ih h₁
        exact ⟨found, List.mem_cons_of_mem _ hmem, hfound⟩

end X5Bag

def X5Chain.verifyFromX5bag {P : Platform} (bag : X5Bag P) (c : X5Chain P) : Outcome Error P.X509 :=
  c.verify fun cert => .ok (bag.contains cert)

end FidoOnboard
