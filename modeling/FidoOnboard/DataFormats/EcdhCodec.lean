import FidoOnboard.DataFormats.KeyAgreement
import FidoOnboard.DataFormats.Reference

/-!
# The byte string of an elliptic key exchange

Three fields, each behind its length in two bytes. Each is cut off before anything
checks that it is there, so a string that is too short stops the program; one that
is too long is refused.
-/
namespace FidoOnboard

theorem splitAt_eq_ok {data first rest : Bytes} {mid : Nat} :
    splitAt data mid = .ok (first, rest) ↔ data = first ++ rest ∧ first.length = mid := by
  unfold splitAt
  constructor
  · intro h
    split at h
    · next hle =>
        cases h
        exact ⟨(List.take_append_drop mid data).symm, List.length_take_of_le hle⟩
    · cases h
  · rintro ⟨rfl, rfl⟩
    simp

theorem splitAt_ne_err (data : Bytes) (mid : Nat) (e : Error) : splitAt data mid ≠ .err e := by
  unfold splitAt
  split
  · exact fun h => by cases h
  · exact fun h => by cases h

namespace KeyExchange

/-- A field as it is written, where its length fits. -/
def counted (bs : Bytes) : Bytes := BigEndian.toBe 2 bs.length ++ bs

theorem takeCounted_eq_ok {bstr field rest : Bytes} :
    takeCounted bstr = .ok (field, rest) ↔ bstr = counted field ++ rest ∧ field.length < 2 ^ 16 := by
  constructor
  · intro h
    obtain ⟨⟨len, tail⟩, hlen, htail⟩ := Outcome.bind_eq_ok.mp h
    obtain ⟨rfl, htwo⟩ := splitAt_eq_ok.mp hlen
    obtain ⟨rfl, hfield⟩ := splitAt_eq_ok.mp htail
    have hlt : field.length < 2 ^ 16 := by
      rw [hfield]
      calc BigEndian.fromBe len < 256 ^ len.length := BigEndian.fromBe_lt len
        _ = 2 ^ 16 := by rw [htwo]; norm_num
    have hlen : BigEndian.toBe 2 field.length = len := by
      rw [hfield, ← htwo]
      exact BigEndian.toBe_fromBe len
    rw [counted, hlen, List.append_assoc]
    exact ⟨rfl, hlt⟩
  · rintro ⟨rfl, hlt⟩
    rw [counted, ← Nat.mod_eq_of_lt hlt]
    exact takeCounted_append hlt

theorem takeCounted_ne_err (bstr : Bytes) (e : Error) : takeCounted bstr ≠ .err e :=
  Outcome.bind_ne_err (splitAt_ne_err _ _ _) fun _ _ => splitAt_ne_err _ _ _

/-- Lengths that two bytes can tell. -/
structure Short (ax ay random : Bytes) : Prop where
  ax : ax.length < 2 ^ 16
  ay : ay.length < 2 ^ 16
  random : random.length < 2 ^ 16

theorem Short.encode_eq {ax ay random : Bytes} (h : Short ax ay random) :
    encodeEcdhBstr ax ay random = counted ax ++ (counted ay ++ counted random) := by
  simp only [encodeEcdhBstr, counted, Nat.mod_eq_of_lt h.ax, Nat.mod_eq_of_lt h.ay, Nat.mod_eq_of_lt h.random]

/-- What follows the third field decides between a result and an error. -/
def decoded (ax ay random rest : Bytes) : Outcome Error (Bytes × Bytes × Bytes) :=
  if rest ≠ [] then .err (.keyExchangeError "Invalid ecdh bstr received") else .ok (ax, ay, random)

theorem decode_append {ax ay random : Bytes} (h : Short ax ay random) (rest : Bytes) :
    decodeEcdhBstr (encodeEcdhBstr ax ay random ++ rest) = decoded ax ay random rest := by
  have hax : takeCounted (counted ax ++ (counted ay ++ (counted random ++ rest))) = .ok (ax, _) :=
    takeCounted_eq_ok.mpr ⟨rfl, h.ax⟩
  have hay : takeCounted (counted ay ++ (counted random ++ rest)) = .ok (ay, _) :=
    takeCounted_eq_ok.mpr ⟨rfl, h.ay⟩
  have hrandom : takeCounted (counted random ++ rest) = .ok (random, _) := takeCounted_eq_ok.mpr ⟨rfl, h.random⟩
  simp only [h.encode_eq, List.append_assoc, decodeEcdhBstr, hax, hay, hrandom, Outcome.ok_bind, decoded]

/-- The string begins with three whole fields. -/
def ThreeFields (bstr : Bytes) : Prop :=
  ∃ ax ay random rest, Short ax ay random ∧ bstr = encodeEcdhBstr ax ay random ++ rest

theorem decode_eq_panic {bstr : Bytes} : decodeEcdhBstr bstr = .panic ↔ ¬ ThreeFields bstr := by
  constructor
  · rintro hpanic ⟨ax, ay, random, rest, hshort, rfl⟩
    rw [decode_append hshort, decoded] at hpanic
    split at hpanic
    · cases hpanic
    · cases hpanic
  · intro hno
    unfold decodeEcdhBstr
    rcases hax : takeCounted bstr with ⟨ax, r₁⟩ | e | _
    case err => exact absurd hax (takeCounted_ne_err _ _)
    case panic => rfl
    obtain ⟨rfl, hlax⟩ := takeCounted_eq_ok.mp hax
    rw [Outcome.ok_bind]
    dsimp only
    rcases hay : takeCounted r₁ with ⟨ay, r₂⟩ | e | _
    case err => exact absurd hay (takeCounted_ne_err _ _)
    case panic => rfl
    obtain ⟨rfl, hlay⟩ := takeCounted_eq_ok.mp hay
    rw [Outcome.ok_bind]
    dsimp only
    rcases hrandom : takeCounted r₂ with ⟨random, rest⟩ | e | _
    case err => exact absurd hrandom (takeCounted_ne_err _ _)
    case panic => rfl
    obtain ⟨rfl, hlrandom⟩ := takeCounted_eq_ok.mp hrandom
    have hshort : Short ax ay random := ⟨hlax, hlay, hlrandom⟩
    exact absurd ⟨ax, ay, random, rest, hshort, by simp only [hshort.encode_eq, List.append_assoc]⟩ hno

theorem decode_eq_ok {bstr ax ay random : Bytes} :
    decodeEcdhBstr bstr = .ok (ax, ay, random) ↔ Short ax ay random ∧ bstr = encodeEcdhBstr ax ay random := by
  constructor
  · intro hok
    by_cases hthree : ThreeFields bstr
    case neg => cases (decode_eq_panic.mpr hthree).symm.trans hok
    case pos =>
      obtain ⟨ax', ay', random', rest, hshort, rfl⟩ := hthree
      rw [decode_append hshort, decoded] at hok
      split at hok
      · cases hok
      · next hrest =>
          cases hok
          rw [not_not.mp hrest, List.append_nil]
          exact ⟨hshort, rfl⟩
  · rintro ⟨hshort, rfl⟩
    exact decodeEcdhBstr_encode hshort.ax hshort.ay hshort.random

/-- What decoding should make of a string: the fields of the one that was encoded, and an
error for any other. -/
structure Decodes (bstr : Bytes) : Prop where
  encoded : ∀ ax ay random, Short ax ay random →
    (decodeEcdhBstr bstr = .ok (ax, ay, random) ↔ bstr = encodeEcdhBstr ax ay random)
  other : (∀ ax ay random, Short ax ay random → bstr ≠ encodeEcdhBstr ax ay random) →
    ∃ e, decodeEcdhBstr bstr = .err e

theorem decodes_iff {bstr : Bytes} : Decodes bstr ↔ ThreeFields bstr := by
  constructor
  · intro h
    by_contra hno
    obtain ⟨e, herr⟩ := h.other fun ax ay random hshort heq =>
      hno ⟨ax, ay, random, [], hshort, by rw [List.append_nil]; exact heq⟩
    cases (decode_eq_panic.mpr hno).symm.trans herr
  · rintro ⟨ax, ay, random, rest, hshort, hbstr⟩
    refine ⟨fun x y r hxyr => decode_eq_ok.trans (and_iff_right hxyr), fun hother => ?_⟩
    rw [hbstr, decode_append hshort, decoded]
    refine ⟨_, if_pos fun hrest => ?_⟩
    rw [hrest, List.append_nil] at hbstr
    exact hother ax ay random hshort hbstr

/-! ## The derivation on what a peer sends -/

variable {P : Platform}

theorem deriveKey_eq_panic {available : Bool} {kex : KeyExchange} {side : KeyDeriveSide} {cipher : CipherSuite}
    {other : Bytes} {nonInteroperable : Bool} :
    kex.deriveKey P available side cipher other nonInteroperable = .panic ↔
      kex.sharedSecret P side other = .panic := by
  rw [deriveKey, Outcome.bind_eq_panic]
  refine or_iff_left ?_
  rintro ⟨secret, -, hpanic⟩
  revert hpanic
  refine Outcome.bind_ne_panic (Outcome.ofOption_ne_panic _ _) fun keyOut _ => ?_
  cases cipher with
  | a128Gcm => exact fun h => by cases h
  | a256Gcm => exact fun h => by cases h

theorem sharedSecret_ecdh_ne_panic {suite : KexSuite} {size : Nat} (hsize : suite.getEcdhRandomSize = .ok size)
    {key ourRandom other : Bytes} {side : KeyDeriveSide} :
    (KeyExchange.ecdh suite key ourRandom).sharedSecret P side other ≠ .panic ↔ ThreeFields other := by
  rw [← not_iff_not, not_ne_iff, ← decode_eq_panic, sharedSecret, Outcome.bind_eq_panic]
  refine or_iff_left ?_
  rintro ⟨⟨x, y, random⟩, -, hpanic⟩
  revert hpanic
  dsimp only
  rw [hsize, Outcome.ok_bind]
  refine Outcome.bind_ne_panic ?_ fun _ _ => ?_
  · unfold Outcome.check
    split
    · exact fun h => by cases h
    · exact fun h => by cases h
  refine Outcome.bind_ne_panic (Outcome.ofOption_ne_panic _ _) fun _ _ => ?_
  refine Outcome.bind_ne_panic (Outcome.ofOption_ne_panic _ _) fun _ _ => ?_
  cases side with
  | device => exact fun h => by cases h
  | ownerService => exact fun h => by cases h

/-- The suites whose exchange is read as three fields. -/
def Elliptic (suite : KexSuite) : Prop := suite = .ecdh256 ∨ suite = .ecdh384

/-- The two kinds of a fresh exchange. -/
theorem new_cases {entropy : KexEntropy} {suite : KexSuite} {kex : KeyExchange}
    (h : KeyExchange.new entropy suite = .ok kex) :
    (¬ Elliptic suite ∧ ∃ key, kex = .dhkex suite key) ∨
      (Elliptic suite ∧ ∃ size key ourRandom, suite.getEcdhRandomSize = .ok size ∧
        kex = .ecdh suite key ourRandom) := by
  cases suite with
  | dhkexId14 | dhkexId15 =>
      obtain ⟨key, -, h₁⟩ := Outcome.bind_eq_ok.mp h
      exact .inl ⟨by simp [Elliptic], key, (Outcome.ok.inj h₁).symm⟩
  | ecdh256 | ecdh384 =>
      obtain ⟨key, -, h₁⟩ := Outcome.bind_eq_ok.mp h
      obtain ⟨size, hsize, h₂⟩ := Outcome.bind_eq_ok.mp h₁
      obtain ⟨ourRandom, -, h₃⟩ := Outcome.bind_eq_ok.mp h₂
      exact .inr ⟨by simp [Elliptic], size, key, ourRandom, hsize, (Outcome.ok.inj h₃).symm⟩

theorem deriveKey_ne_panic {entropy : KexEntropy} {suite : KexSuite} {kex : KeyExchange}
    (hnew : KeyExchange.new entropy suite = .ok kex) {available : Bool} {side : KeyDeriveSide}
    {cipher : CipherSuite} {other : Bytes} {nonInteroperable : Bool} :
    kex.deriveKey P available side cipher other nonInteroperable ≠ .panic ↔
      (Elliptic suite → ThreeFields other) := by
  rw [ne_eq, deriveKey_eq_panic]
  rcases new_cases hnew with ⟨hdh, key, rfl⟩ | ⟨hec, size, key, ourRandom, hsize, rfl⟩
  · exact iff_of_true (Outcome.ofOption_ne_panic _ _) fun hec => absurd hec hdh
  · exact (sharedSecret_ecdh_ne_panic hsize).trans ⟨fun h _ => h, fun h => h hec⟩

/-- What is encoded is decoded; a received string is treated as it should exactly when it begins
with three whole fields, and so is the derivation that reads it. -/
theorem ecdh_codec_iff (P : Platform) :
    (∀ ax ay random, Short ax ay random → decodeEcdhBstr (encodeEcdhBstr ax ay random) = .ok (ax, ay, random)) ∧
    (∀ bstr, Decodes bstr ↔ ThreeFields bstr) ∧
    (∀ (entropy : KexEntropy) (suite : KexSuite) (kex : KeyExchange) (available : Bool) (side : KeyDeriveSide)
      (cipher : CipherSuite) (other : Bytes) (nonInteroperable : Bool),
      KeyExchange.new entropy suite = .ok kex →
        (kex.deriveKey P available side cipher other nonInteroperable ≠ .panic ↔
          (Elliptic suite → ThreeFields other))) :=
  ⟨fun _ _ _ h => decodeEcdhBstr_encode h.ax h.ay h.random, fun _ => decodes_iff,
    fun _ _ _ _ _ _ _ _ hnew => deriveKey_ne_panic hnew⟩

/-- Three fields of one, two and three bytes, with one byte behind them. -/
theorem ecdh_codec_sample :
    decodeEcdhBstr (encodeEcdhBstr [1] [2, 2] [3, 3, 3]) = .ok ([1], [2, 2], [3, 3, 3]) ∧
      Decodes (encodeEcdhBstr [1] [2, 2] [3, 3, 3] ++ [0]) := by
  have hshort : Short [1] [2, 2] [3, 3, 3] := ⟨by decide, by decide, by decide⟩
  have hcodec := ecdh_codec_iff (Reference.reference .release)
  exact ⟨hcodec.1 _ _ _ hshort, (hcodec.2.1 _).mpr ⟨_, _, _, [0], hshort, rfl⟩⟩

/-- The empty string, as the peer's half of a fresh exchange. -/
theorem empty_exchange_stops : ∃ kex, KeyExchange.new ⟨fun _ => some [1], fun _ => some [1], fun n =>
      some (List.replicate n 1)⟩ .ecdh256 = .ok kex ∧
    decodeEcdhBstr [] = .panic ∧
    kex.deriveKey (Reference.reference .release) true .ownerService .a128Gcm [] false = .panic := by
  refine ⟨.ecdh .ecdh256 [1] (List.replicate 16 1), rfl, rfl, rfl⟩

end KeyExchange
end FidoOnboard
