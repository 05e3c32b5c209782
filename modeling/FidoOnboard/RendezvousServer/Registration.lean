import FidoOnboard.RendezvousServer.Handlers

/-!
# What a registration establishes

Everything an accepted OwnerSign says is covered by a signature or a hash, except
the device's certificate chain: nothing compares it with the hash in the header.
-/
namespace FidoOnboard.RendezvousServer
open Server VoucherChain

variable {P : Platform}

/-- The roots that the configuration trusts for devices. -/
def TrustedRoot (ud : RendezvousUD P) (cert : P.X509) : Prop :=
  ∀ bag, ud.trustedDeviceKeys = some bag → bag.contains cert = true

/-- The last owner of a valid chain has signed `to1d`, and in it the hash of the very bytes
of `to0d`. -/
structure SignedByOwner (v : OwnershipVoucher P) (msg : OwnerSign P) : Prop where
  chain : ∃ ps p payload, ValidChain v ps ∧ ps.getLast? = some p ∧
    P.verifySignature msg.cachedTo1d.cachedInner p.publicKey.pkey = some true ∧
    msg.cachedTo1d.getPayloadUnverified (TO1DataPayload.deserializeData P) = .ok payload ∧
    payload.to1dToTo0dHash.IsDigest P msg.cachedTo0d

/-- The key is the one of the first certificate of a chain up to a trusted root. -/
structure DeviceKey (ud : RendezvousUD P) (chain : X5Chain P) (key : PublicKey P) : Prop where
  trusted : X5Chain.TrustPath (TrustedRoot ud) chain.chain
  leaf : ∃ cert, chain.leafCertificate = some cert ∧ PublicKey.ofX509 P cert = .ok key

/-- When the stores work, the item is stored for as long as the answer says. -/
def StoredFor (ud : RendezvousUD P) (session : Session RendezvousSession) (msg : OwnerSign P) (guid : Guid)
    (item : StoredItem P) (wait : Nat) : Prop :=
  ∀ (draws : Draws) (store : RendezvousStore P) (info : Info), info.session = session →
    draws.storeDataFails = false → draws.storeMetadataFails = false →
    ownersign ud draws store info msg =
      (⟨Function.update store.items guid (some item), Function.update store.ttl guid (some wait)⟩,
        .ok (wait, info))

/-- What `ownersign` has checked when it stores `item` for `guid`. -/
structure Checked (ud : RendezvousUD P) (session : Session RendezvousSession) (msg : OwnerSign P)
    (guid : Guid) (item : StoredItem P) (wait : Nat) (to0d : TO0Data P) (chain : X5Chain P) : Prop where
  received : TO0Data.deserializeData P msg.cachedTo0d = .ok to0d
  nonce : session.data.nonce3 = some to0d.nonce
  named : to0d.ownershipVoucher.header.cachedGuid = guid
  manufacturer : ∀ bag, ud.trustedManufacturerKeys = some bag →
    bag.HasKey to0d.ownershipVoucher.header.cachedManufacturerPublicKey.pkey
  owner : SignedByOwner to0d.ownershipVoucher msg
  token : item.to1d = msg.cachedTo1d
  clamped : wait = min to0d.waitSeconds ud.maxWaitSeconds
  stored : StoredFor ud session msg guid item wait
  carried : to0d.ownershipVoucher.deviceCertificateChain = some chain
  device : DeviceKey ud chain item.publicKey

/-- The bytes a hash of the chain may be over: the voucher's own element, as
`device_certificate_chain_hash` of the voucher takes them, or the certificates one after
another, as the manufacturing server takes them. -/
inductive ChainForm where
  | element
  | certificates
  deriving DecidableEq, Repr

def chainBytes (form : ChainForm) (v : OwnershipVoucher P) (chain : X5Chain P) : Option Bytes :=
  match form with
  | .element => v.contents.contents[3]?
  | .certificates => chain.toDer.map List.flatten

/-- The header of the voucher holds the hash of the chain the voucher carries. -/
def HeaderBinds (form : ChainForm) (v : OwnershipVoucher P) (chain : X5Chain P) : Prop :=
  ∃ hash data, v.header.cachedDeviceCertificateChainHash = some hash ∧
    chainBytes form v chain = some data ∧ hash.IsDigest P data

/-- A registration nobody but the manufacturer's voucher could have led to. -/
def SoundRegistration (form : ChainForm) (ud : RendezvousUD P) (session : Session RendezvousSession)
    (msg : OwnerSign P) (guid : Guid) (item : StoredItem P) (wait : Nat) : Prop :=
  ∃ to0d chain, Checked ud session msg guid item wait to0d chain ∧
    HeaderBinds form to0d.ownershipVoucher chain

/-- The voucher in the message carries the chain its header names. -/
def CarriesItsChain (form : ChainForm) (msg : OwnerSign P) : Prop :=
  ∃ to0d chain, TO0Data.deserializeData P msg.cachedTo0d = .ok to0d ∧
    to0d.ownershipVoucher.deviceCertificateChain = some chain ∧
    HeaderBinds form to0d.ownershipVoucher chain

/-! ## The checks -/

variable {ud : RendezvousUD P} {session : Session RendezvousSession} {msg : OwnerSign P} {guid : Guid}
  {item : StoredItem P} {wait : Nat}

theorem manufacturerTrusted_true {v : OwnershipVoucher P} (h : manufacturerTrusted ud v = .ok true)
    {bag : X5Bag P} (hbag : ud.trustedManufacturerKeys = some bag) :
    bag.HasKey v.header.cachedManufacturerPublicKey.pkey := by
  simp only [manufacturerTrusted, hbag] at h
  exact X5Bag.containsPkey_true h

theorem verifyDevice_ok {chain : X5Chain P} {cert : P.X509} (h : verifyDevice ud chain = .ok cert) :
    X5Chain.TrustPath (TrustedRoot ud) chain.chain ∧ chain.leafCertificate = some cert := by
  unfold verifyDevice at h
  cases hkeys : ud.trustedDeviceKeys with
  | none =>
      simp only [hkeys] at h
      have htrusted : TrustedRoot ud = fun _ => (Outcome.ok true : Outcome Error Bool) = .ok true := by
        funext cert
        simp [TrustedRoot, hkeys]
      rw [htrusted]
      exact ⟨X5Chain.verify_trustPath h, X5Chain.verify_leaf h⟩
  | some bag =>
      simp only [hkeys] at h
      have htrusted : TrustedRoot ud =
          fun cert => (Outcome.ok (bag.contains cert) : Outcome Error Bool) = .ok true := by
        funext cert
        simp [TrustedRoot, hkeys]
      rw [htrusted]
      exact ⟨X5Chain.verify_trustPath h, X5Chain.verify_leaf h⟩

theorem signedByOwner_of_checks (cose : CoseLaws P) {v : OwnershipVoucher P}
    {p : OwnershipVoucherEntryPayload P} {payload : TO1DataPayload P} {hash : Hash}
    (howner : lastPayload v = .ok p)
    (hpayload : msg.to1d.getPayload (TO1DataPayload.deserializeData P) p.publicKey.pkey = .ok payload)
    (hhash : msg.to0dHash payload.to1dToTo0dHash.hashType = .ok hash)
    (hcompare : payload.to1dToTo0dHash.compare hash = .ok ()) : SignedByOwner v msg := by
  obtain ⟨ps, hvalid, hlast⟩ := (lastEntry_eq_payload cose).mp (lastPayload_eq_ok.mp howner)
  obtain ⟨hverified, hread⟩ := (COSESign.getPayload_eq_ok cose).mp hpayload
  exact ⟨ps, p, payload, hvalid, hlast, hverified, hread, Hash.fromData_compare.mp ⟨hash, hhash, hcompare⟩⟩

theorem storedFor_of_check (h : checkOwnersign ud session msg = .ok (guid, item, wait)) :
    StoredFor ud session msg guid item wait := by
  intro draws store info hsession hdata hmeta
  simp only [ownersign, hsession, h, hdata, hmeta, Bool.false_eq_true, if_false,
    Function.update_idem]

/-- All the checks at once, each with what it establishes. -/
theorem checkOwnersign_checked (cose : CoseLaws P)
    (h : checkOwnersign ud session msg = .ok (guid, item, wait)) :
    ∃ to0d chain, Checked ud session msg guid item wait to0d chain := by
  have hstored := storedFor_of_check h
  obtain ⟨nonce, hnonce, h₁⟩ := Outcome.bind_eq_ok.mp h
  obtain ⟨to0d, hto0d, h₂⟩ := Outcome.bind_eq_ok.mp h₁
  obtain ⟨same, hsame, h₃⟩ := Outcome.bind_eq_ok.mp h₂
  obtain ⟨_, hsameTrue, h₄⟩ := Outcome.bind_eq_ok.mp h₃
  obtain ⟨trusted, htrusted, h₅⟩ := Outcome.bind_eq_ok.mp h₄
  obtain ⟨_, htrustedTrue, h₆⟩ := Outcome.bind_eq_ok.mp h₅
  obtain ⟨owner, howner, h₇⟩ := Outcome.bind_eq_ok.mp h₆
  obtain ⟨payload, hpayload, h₈⟩ := Outcome.bind_eq_ok.mp h₇
  obtain ⟨hash, hhash, h₉⟩ := Outcome.bind_eq_ok.mp h₈
  obtain ⟨_, hcompare, h₁₀⟩ := Outcome.bind_eq_ok.mp h₉
  obtain ⟨chain, hchain, h₁₁⟩ := Outcome.bind_eq_ok.mp h₁₀
  obtain ⟨cert, hcert, h₁₂⟩ := Outcome.bind_eq_ok.mp h₁₁
  obtain ⟨key, hkey, h₁₃⟩ := Outcome.bind_eq_ok.mp h₁₂
  obtain ⟨hguid, hitem, hwait⟩ : _ ∧ _ ∧ _ := by
    simpa only [Outcome.ok.injEq, Prod.mk.injEq] using h₁₃
  obtain rfl : same = true := Outcome.check_eq_ok.mp hsameTrue
  obtain rfl : trusted = true := Outcome.check_eq_ok.mp htrustedTrue
  obtain rfl : nonce = to0d.nonce := Nonce.eq_ok_true (Outcome.unwrap_eq_ok.mp hsame)
  obtain ⟨hpath, hleaf⟩ := verifyDevice_ok (Outcome.mapErr_eq_ok.mp hcert)
  refine ⟨to0d, chain, ?_⟩
  exact
    { received := orInternal_eq_ok.mp hto0d
      nonce := Outcome.ofOption_eq_ok.mp hnonce
      named := hguid
      manufacturer := fun bag hbag => manufacturerTrusted_true (Outcome.unwrap_eq_ok.mp htrusted) hbag
      owner := signedByOwner_of_checks cose (Outcome.mapErr_eq_ok.mp howner)
        (Outcome.mapErr_eq_ok.mp hpayload) (orInternal_eq_ok.mp hhash) (orInternal_eq_ok.mp hcompare)
      token := by rw [← hitem]; rfl
      clamped := by
        rw [← hwait]
        split
        · next hmore => exact (min_eq_right (Nat.le_of_lt hmore)).symm
        · next hless => exact (min_eq_left (Nat.le_of_not_lt hless)).symm
      stored := hstored
      carried := Outcome.ofOption_eq_ok.mp hchain
      device := ⟨hpath, cert, hleaf, by rw [← hitem]; exact orInternal_eq_ok.mp hkey⟩ }

theorem ownersign_sound_iff (cose : CoseLaws P) (form : ChainForm)
    (h : checkOwnersign ud session msg = .ok (guid, item, wait)) :
    SoundRegistration form ud session msg guid item wait ↔ CarriesItsChain form msg := by
  obtain ⟨to0d, chain, hchecked⟩ := checkOwnersign_checked cose h
  constructor
  · rintro ⟨to0d', chain', hchecked', hbinds⟩
    exact ⟨to0d', chain', hchecked'.received, hchecked'.carried, hbinds⟩
  · rintro ⟨to0d', chain', hreceived, hcarried, hbinds⟩
    obtain rfl := Outcome.ok.inj (hchecked.received.symm.trans hreceived)
    obtain rfl := Option.some.inj (hchecked.carried.symm.trans hcarried)
    exact ⟨to0d, chain, hchecked, hbinds⟩

/-- The comparison that `ownersign` does not make. -/
def compareChainHash (form : ChainForm) (msg : OwnerSign P) : Outcome Error Unit := do
  let to0d ← msg.to0d
  let v := to0d.ownershipVoucher
  let chain ← .ofOption (.inconsistentValue "no chain") v.deviceCertificateChain
  let hash ← .ofOption (.inconsistentValue "no hash") v.header.cachedDeviceCertificateChainHash
  let data ← .ofOption (.inconsistentValue "no bytes") (chainBytes form v chain)
  hash.compareData P data

theorem compareChainHash_eq_ok {form : ChainForm} :
    compareChainHash form msg = .ok () ↔ CarriesItsChain form msg := by
  constructor
  · intro h
    obtain ⟨to0d, hto0d, h₁⟩ := Outcome.bind_eq_ok.mp h
    obtain ⟨chain, hchain, h₂⟩ := Outcome.bind_eq_ok.mp h₁
    obtain ⟨hash, hhash, h₃⟩ := Outcome.bind_eq_ok.mp h₂
    obtain ⟨data, hdata, hcompare⟩ := Outcome.bind_eq_ok.mp h₃
    rw [Outcome.ofOption_eq_ok] at hchain hhash hdata
    exact ⟨to0d, chain, hto0d, hchain, hash, data, hhash, hdata, Hash.compareData_eq_ok.mp hcompare⟩
  · rintro ⟨to0d, chain, hto0d, hchain, hash, data, hhash, hdata, hdigest⟩
    refine Outcome.bind_eq_ok.mpr ⟨to0d, hto0d, ?_⟩
    refine Outcome.bind_eq_ok.mpr ⟨chain, Outcome.ofOption_eq_ok.mpr hchain, ?_⟩
    refine Outcome.bind_eq_ok.mpr ⟨hash, Outcome.ofOption_eq_ok.mpr hhash, ?_⟩
    exact Outcome.bind_eq_ok.mpr
      ⟨data, Outcome.ofOption_eq_ok.mpr hdata, Hash.compareData_eq_ok.mpr hdigest⟩

/-! ## An owner that registers its device, and one that registers another key -/

open Reference

def sampleBag (certs : List Bytes) : X5Bag (reference .release) :=
  ⟨certs.map fun cert => (digest .sha256 cert, cert)⟩

/-- Trusts key 1 as manufacturer, the certificate of the sample device, and the root `[0, 6, 1]`. -/
def sampleUd : RendezvousUD (reference .release) where
  interoperableKdfAvailable := true
  maxWaitSeconds := 3600
  trustedManufacturerKeys := some (sampleBag [[0, 1, 1]])
  trustedDeviceKeys := some (sampleBag [[1, 9, 9], [0, 6, 1]])

/-- A session that was given the nonce of sixteen `k`. -/
def sampleSession (k : UInt8) : Session RendezvousSession :=
  ⟨"a", some .to0HelloAck, none, ⟨some ⟨List.replicate 16 k⟩, none, none⟩⟩

/-- The bytes an owner with key 3 sends for a voucher. -/
def sampleOwnerSign (v : OwnershipVoucher (reference .release)) (k : UInt8) : Outcome Error Bytes := do
  let to0d ← TO0Data.new v 7200 ⟨List.replicate 16 k⟩
  let to0d ← to0d.serializeData
  let hash ← Hash.fromData (reference .release) .sha384 to0d
  let payload ← TO1DataPayload.serializeData (P := reference .release) ⟨[[10, 0, 0, 1]], hash⟩
  let to1d ← COSESign.new (reference .release) payload [] [3, 1]
  let msg ← OwnerSign.new to0d to1d
  msg.serializeData

theorem ownersign_sound_sample : ∃ data msg guid item, sampleVoucher >>= (sampleOwnerSign · 5) = .ok data ∧
    OwnerSign.deserializeData (reference .release) data = .ok msg ∧
    checkOwnersign sampleUd (sampleSession 5) msg = .ok (guid, item, 3600) ∧
    SoundRegistration .element sampleUd (sampleSession 5) msg guid item 3600 := by
  have hrun : (do
      let data ← sampleVoucher >>= (sampleOwnerSign · 5)
      let msg ← OwnerSign.deserializeData (reference .release) data
      let (_, _, wait) ← (checkOwnersign sampleUd (sampleSession 5) msg).mapErr fun _ => Error.cose
      Outcome.check (wait = 3600) Error.cose
      compareChainHash .element msg).isOk = true := by
    decide +kernel
  obtain ⟨_, h⟩ := Outcome.isOk_iff.mp hrun
  obtain ⟨data, hdata, h₁⟩ := Outcome.bind_eq_ok.mp h
  obtain ⟨msg, hmsg, h₂⟩ := Outcome.bind_eq_ok.mp h₁
  obtain ⟨⟨guid, item, wait⟩, hcheck, h₃⟩ := Outcome.bind_eq_ok.mp h₂
  obtain ⟨_, hwait, hcompare⟩ := Outcome.bind_eq_ok.mp h₃
  obtain rfl : wait = 3600 := Outcome.check_eq_ok.mp hwait
  rw [Outcome.mapErr_eq_ok] at hcheck
  exact ⟨data, msg, guid, item, hdata, hmsg, hcheck, (ownersign_sound_iff (coseLaws .release) .element
    hcheck).mpr (compareChainHash_eq_ok.mp hcompare)⟩

/-- The sample voucher with another device's certificates in place of its own. -/
def substitutedVoucher : Outcome Error (OwnershipVoucher (reference .release)) := do
  let v ← sampleVoucher
  let chain ← OptionX5Chain.serializeData (P := reference .release) (some ⟨[[6, 8, 8], [0, 6, 1]]⟩)
  let data ← { v with contents := v.contents.set 3 chain }.serializeData
  OwnershipVoucher.deserializeData (reference .release) data

/-- The owner gets the key `[8, 8]` stored for a device whose header names another chain. -/
theorem ownersign_substituted : ∃ data msg guid item,
    substitutedVoucher >>= (sampleOwnerSign · 5) = .ok data ∧
    OwnerSign.deserializeData (reference .release) data = .ok msg ∧
    checkOwnersign sampleUd (sampleSession 5) msg = .ok (guid, item, 3600) ∧
    ∀ form, ¬ SoundRegistration form sampleUd (sampleSession 5) msg guid item 3600 := by
  have hrun : (do
      let data ← substitutedVoucher >>= (sampleOwnerSign · 5)
      let msg ← OwnerSign.deserializeData (reference .release) data
      let (_, _, wait) ← (checkOwnersign sampleUd (sampleSession 5) msg).mapErr fun _ => Error.cose
      Outcome.check (wait = 3600) Error.cose
      Outcome.check ((compareChainHash .element msg).isOk = false ∧
        (compareChainHash .certificates msg).isOk = false) Error.cose).isOk = true := by
    decide +kernel
  obtain ⟨_, h⟩ := Outcome.isOk_iff.mp hrun
  obtain ⟨data, hdata, h₁⟩ := Outcome.bind_eq_ok.mp h
  obtain ⟨msg, hmsg, h₂⟩ := Outcome.bind_eq_ok.mp h₁
  obtain ⟨⟨guid, item, wait⟩, hcheck, h₃⟩ := Outcome.bind_eq_ok.mp h₂
  obtain ⟨_, hwait, hcompare⟩ := Outcome.bind_eq_ok.mp h₃
  obtain rfl : wait = 3600 := Outcome.check_eq_ok.mp hwait
  rw [Outcome.mapErr_eq_ok] at hcheck
  refine ⟨data, msg, guid, item, hdata, hmsg, hcheck, ?_⟩
  rintro form ⟨to0d, chain, hchecked, hbinds⟩
  have hok := compareChainHash_eq_ok.mpr ⟨to0d, chain, hchecked.received, hchecked.carried, hbinds⟩
  obtain ⟨helement, hcertificates⟩ := Outcome.check_eq_ok.mp hcompare
  cases form with
  | element =>
      rw [hok] at helement
      cases helement
  | certificates =>
      rw [hok] at hcertificates
      cases hcertificates

end FidoOnboard.RendezvousServer
