import FidoOnboard.DataFormats.KeyExchange

/-!
# Both sides of an exchange derive the same keys

Each side builds the secret from its own key and the other side's public part. The
randomness of the device stands first on both sides, and the derivation that
interoperates is used when both builds have it.
-/
namespace FidoOnboard

/-- What the exchange relies on openssl for: the keys it generates have public parts whose
coordinates are short, the two products of a pair of them are one and the same, and the
derivation is a function of its arguments. -/
structure KexLaws (P : Platform) (generated : KexSuite → Bytes → Prop) : Prop where
  ecPublic : ∀ {suite : KexSuite} {key : Bytes}, generated suite key →
    ∃ x y, P.ecPublic suite key = some (x, y) ∧ x.length < 2 ^ 16 ∧ y.length < 2 ^ 16
  ecShared : ∀ {suite : KexSuite} {a b ax ay bx bY : Bytes}, generated suite a → generated suite b →
    P.ecPublic suite a = some (ax, ay) → P.ecPublic suite b = some (bx, bY) →
      ∃ x, P.ecShared suite a bx bY = some (some x) ∧ P.ecShared suite b ax ay = some (some x)
  dhPublic : ∀ {suite : KexSuite} {key : Bytes}, generated suite key →
    ∃ shared, P.dhPublic suite key = some shared
  dhShared : ∀ {suite : KexSuite} {a b pubA pubB : Bytes}, generated suite a → generated suite b →
    P.dhPublic suite a = some pubA → P.dhPublic suite b = some pubB →
      ∃ secret, P.dhShared suite a pubB = some secret ∧ P.dhShared suite b pubA = some secret
  kdf : ∀ (interoperable : Bool) (md : MessageDigest) (label info key : Bytes) (len : Nat),
    ∃ out, P.kdf interoperable md label info key len = some out

/-- The keys that are drawn are generated for their suite, the random bytes as many as asked for. -/
structure KexEntropy.Fresh (generated : KexSuite → Bytes → Prop) (entropy : KexEntropy) : Prop where
  ecKey : ∀ {suite : KexSuite} {key : Bytes}, entropy.ecKey suite = some key → generated suite key
  dhKey : ∀ {suite : KexSuite} {key : Bytes}, entropy.dhKey suite = some key → generated suite key
  random : ∀ {size : Nat} {bytes : Bytes}, entropy.random size = some bytes → bytes.length = size

namespace KeyExchange

/-- What a fresh exchange is, by its suite. -/
inductive Created (generated : KexSuite → Bytes → Prop) (suite : KexSuite) : KeyExchange → Prop where
  | dhkex {key : Bytes} (made : generated suite key) (noRandom : ∀ size, suite.getEcdhRandomSize ≠ .ok size) :
      Created generated suite (.dhkex suite key)
  | ecdh {key ourRandom : Bytes} {size : Nat} (made : generated suite key)
      (sized : suite.getEcdhRandomSize = .ok size) (random : ourRandom.length = size) :
      Created generated suite (.ecdh suite key ourRandom)

theorem new_created {generated : KexSuite → Bytes → Prop} {entropy : KexEntropy}
    (hfresh : entropy.Fresh generated) {suite : KexSuite} {kex : KeyExchange}
    (h : KeyExchange.new entropy suite = .ok kex) : Created generated suite kex := by
  have hdh : ∀ {suite}, (∀ size, KexSuite.getEcdhRandomSize suite ≠ .ok size) → (do
      let key ← .ofOption .cryptoStack (entropy.dhKey suite)
      .ok (KeyExchange.dhkex suite key) : Outcome Error KeyExchange) = .ok kex →
      Created generated suite kex := by
    intro suite hnone h
    obtain ⟨key, hkey, h₁⟩ := Outcome.bind_eq_ok.mp h
    obtain rfl := Outcome.ok.inj h₁
    exact .dhkex (hfresh.dhKey (Outcome.ofOption_eq_ok.mp hkey)) hnone
  have hec : ∀ {suite}, (do
      let key ← .ofOption .cryptoStack (entropy.ecKey suite)
      let size ← suite.getEcdhRandomSize
      let ourRandom ← .ofOption .cryptoStack (entropy.random size)
      .ok (KeyExchange.ecdh suite key ourRandom) : Outcome Error KeyExchange) = .ok kex →
      Created generated suite kex := by
    intro suite h
    obtain ⟨key, hkey, h₁⟩ := Outcome.bind_eq_ok.mp h
    obtain ⟨size, hsize, h₂⟩ := Outcome.bind_eq_ok.mp h₁
    obtain ⟨ourRandom, hrandom, h₃⟩ := Outcome.bind_eq_ok.mp h₂
    obtain rfl := Outcome.ok.inj h₃
    exact .ecdh (hfresh.ecKey (Outcome.ofOption_eq_ok.mp hkey)) hsize
      (hfresh.random (Outcome.ofOption_eq_ok.mp hrandom))
  cases suite with
  | dhkexId14 => exact hdh nofun h
  | dhkexId15 => exact hdh nofun h
  | ecdh256 => exact hec h
  | ecdh384 => exact hec h

/-! ## The encoding of a point and its randomness -/

theorem takeCounted_append {bs rest : Bytes} (h : bs.length < 2 ^ 16) :
    takeCounted (BigEndian.toBe 2 (bs.length % 2 ^ 16) ++ bs ++ rest) = .ok (bs, rest) := by
  have hlen : BigEndian.fromBe (BigEndian.toBe 2 (bs.length % 2 ^ 16)) = bs.length := by
    rw [Nat.mod_eq_of_lt h]
    exact BigEndian.fromBe_toBe (by omega)
  have hhead : ∀ n (tail : Bytes), splitAt (BigEndian.toBe 2 n ++ tail) 2 = .ok (BigEndian.toBe 2 n, tail) := by
    intro n tail
    simp [splitAt]
  rw [List.append_assoc, takeCounted, hhead]
  simp only [Outcome.ok_bind, hlen, splitAt, List.length_append, Nat.le_add_right, if_true,
    List.take_left, List.drop_left]

/-- What one side writes the other side reads. -/
theorem decodeEcdhBstr_encode {ax ay random : Bytes} (hx : ax.length < 2 ^ 16) (hy : ay.length < 2 ^ 16)
    (hrandom : random.length < 2 ^ 16) :
    decodeEcdhBstr (encodeEcdhBstr ax ay random) = .ok (ax, ay, random) := by
  have hlast : takeCounted (BigEndian.toBe 2 (random.length % 2 ^ 16) ++ random) = .ok (random, []) := by
    rw [← List.append_nil (_ ++ random)]
    exact takeCounted_append hrandom
  simp only [decodeEcdhBstr, encodeEcdhBstr, takeCounted_append hx, takeCounted_append hy, hlast,
    Outcome.ok_bind, ne_eq, not_true, if_false]

theorem randomSize_lt {suite : KexSuite} {size : Nat} (h : suite.getEcdhRandomSize = .ok size) :
    size < 2 ^ 16 := by
  cases suite with
  | dhkexId14 => cases h
  | dhkexId15 => cases h
  | ecdh256 =>
      obtain rfl := Outcome.ok.inj h
      decide
  | ecdh384 =>
      obtain rfl := Outcome.ok.inj h
      decide

/-! ## The secret -/

section Agreement

variable {P : Platform} {generated : KexSuite → Bytes → Prop} {suite : KexSuite} {a b : KeyExchange}

/-- The two public parts, and the secret both sides find. -/
theorem sharedSecret_agree (laws : KexLaws P generated) (ha : Created generated suite a)
    (hb : Created generated suite b) :
    ∃ publicA publicB secret, a.getPublic P = .ok publicA ∧ b.getPublic P = .ok publicB ∧
      a.sharedSecret P .ownerService publicB = .ok secret ∧
      b.sharedSecret P .device publicA = .ok secret := by
  cases ha with
  | @dhkex keyA hkeyA hnone =>
      cases hb with
      | @dhkex keyB hkeyB _ =>
          obtain ⟨publicA, hpublicA⟩ := laws.dhPublic hkeyA
          obtain ⟨publicB, hpublicB⟩ := laws.dhPublic hkeyB
          obtain ⟨secret, hsecretA, hsecretB⟩ := laws.dhShared hkeyA hkeyB hpublicA hpublicB
          exact ⟨publicA, publicB, secret, by simp [getPublic, hpublicA], by simp [getPublic, hpublicB],
            by simp [sharedSecret, hsecretA], by simp [sharedSecret, hsecretB]⟩
      | ecdh _ hsized _ => exact absurd hsized (hnone _)
  | @ecdh keyA randomA size hkeyA hsized hrandomA =>
      cases hb with
      | dhkex _ hnone => exact absurd hsized (hnone _)
      | @ecdh keyB randomB sizeB hkeyB hsizedB hrandomB =>
          obtain rfl : size = sizeB := Outcome.ok.inj (hsized.symm.trans hsizedB)
          obtain ⟨ax, ay, hpublicA, hax, hay⟩ := laws.ecPublic hkeyA
          obtain ⟨bx, bY, hpublicB, hbx, hbY⟩ := laws.ecPublic hkeyB
          obtain ⟨x, hsharedA, hsharedB⟩ := laws.ecShared hkeyA hkeyB hpublicA hpublicB
          have hsize := randomSize_lt hsized
          have hdecodeA := decodeEcdhBstr_encode hax hay (hrandomA ▸ hsize)
          have hdecodeB := decodeEcdhBstr_encode hbx hbY (hrandomB ▸ hsize)
          refine ⟨encodeEcdhBstr ax ay randomA, encodeEcdhBstr bx bY randomB, x ++ randomB ++ randomA,
            ?_, ?_, ?_, ?_⟩
          · simp only [getPublic, hpublicA, Outcome.ofOption, Outcome.ok_bind]
          · simp only [getPublic, hpublicB, Outcome.ofOption, Outcome.ok_bind]
          · simp only [sharedSecret, hdecodeB, hsized, hrandomB, hsharedA, Outcome.ofOption, Outcome.check,
              if_true, Outcome.ok_bind]
          · simp only [sharedSecret, hdecodeA, hsized, hrandomA, hsharedB, Outcome.ofOption, Outcome.check,
              if_true, Outcome.ok_bind]

/-- A derivation from a known secret. -/
theorem deriveKey_of_secret (laws : KexLaws P generated) (cipher : CipherSuite) (secret : Bytes)
    (interoperable : Bool) : ∃ keys, ∀ {kex : KeyExchange} {side : KeyDeriveSide} {other : Bytes}
      {available nonInteroperable : Bool}, kex.sharedSecret P side other = .ok secret →
        (available && !nonInteroperable) = interoperable →
          kex.deriveKey P available side cipher other nonInteroperable = .ok keys := by
  obtain ⟨out, hout⟩ := laws.kdf interoperable cipher.kdfDigest keyDeriveLabel
    (keyDeriveContextPrefix ++ BigEndian.toBe 2 (cipher.requiredKeylen * 8)) secret cipher.requiredKeylen
  refine ⟨.combined out, ?_⟩
  intro kex side other available nonInteroperable hsecret hchoice
  have hcombined : cipher.usesCombinedKey = true := by cases cipher <;> rfl
  simp only [deriveKey, hsecret, hchoice, hout, hcombined, Outcome.ofOption, Outcome.ok_bind, if_true]

/-- Each side says to the other whether it lacks the derivation that interoperates. Both
derive the same keys, whichever builds they are. -/
theorem deriveKey_agree (laws : KexLaws P generated) (ha : Created generated suite a)
    (hb : Created generated suite b) : ∃ publicA publicB,
      a.getPublic P = .ok publicA ∧ b.getPublic P = .ok publicB ∧
      ∀ (cipher : CipherSuite) (ownerAvailable deviceAvailable : Bool), ∃ keys,
        a.deriveKey P ownerAvailable .ownerService cipher publicB (!deviceAvailable) = .ok keys ∧
        b.deriveKey P deviceAvailable .device cipher publicA (!ownerAvailable) = .ok keys := by
  obtain ⟨publicA, publicB, secret, hpublicA, hpublicB, hownerSecret, hdeviceSecret⟩ :=
    sharedSecret_agree laws ha hb
  refine ⟨publicA, publicB, hpublicA, hpublicB, ?_⟩
  intro cipher ownerAvailable deviceAvailable
  obtain ⟨keys, hkeys⟩ := deriveKey_of_secret laws cipher secret (ownerAvailable && deviceAvailable)
  refine ⟨keys, hkeys hownerSecret ?_, hkeys hdeviceSecret ?_⟩
  · rw [Bool.not_not]
  · rw [Bool.not_not, Bool.and_comm]

end Agreement

end KeyExchange
end FidoOnboard
