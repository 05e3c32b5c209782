import FidoOnboard.Base.Assoc
import FidoOnboard.Base.Hex
import FidoOnboard.DataFormats.RendezvousTypes

/-!
# `store/src/lib.rs`

The interface that the servers write against: values under guids, and a time to
live that is kept beside a value.
-/
namespace FidoOnboard.Stores

/-- The messages are kept up to what they quote of the underlying error. -/
inductive StoreError where
  | unspecified (message : String)
  | configuration (message : String)
  | methodNotAvailable
  | database (message : String)
  deriving DecidableEq, Repr

/-- Nanoseconds since the epoch, as the system clock counts them. -/
abbrev Instant := Nat

def nanoseconds : Nat := 10 ^ 9

/-- The first and the last second that `OffsetDateTime` counts. -/
def minTimestamp : Int := -377705116800
def maxTimestamp : Int := 253402300799

def unixTimestamp (t : Int) : Int := t / nanoseconds

/-- `(now_utc() + duration).unix_timestamp()`, the duration in nanoseconds. A sum outside the
years counted stops the program. -/
def expiry (now : Instant) (duration : Int) : Outcome StoreError Int :=
  if minTimestamp ≤ unixTimestamp (now + duration) ∧ unixTimestamp (now + duration) ≤ maxTimestamp then
    .ok (unixTimestamp (now + duration))
  else .panic

/-- `i64::to_le_bytes`. -/
def toLeBytes (seconds : Int) : Bytes := (BigEndian.toBe 8 (seconds % 2 ^ 64).toNat).reverse

/-- `u64::from_le_bytes`. -/
def fromLeBytes (data : Bytes) : Nat := BigEndian.fromBe data.reverse

/-- `MetadataValue::to_stored` and `to_text` of a duration; the text is read as a number again. -/
def toStored (now : Instant) (duration : Int) : Outcome StoreError Bytes := do
  let seconds ← expiry now duration
  .ok (toLeBytes seconds)

def toText (now : Instant) (duration : Int) : Outcome StoreError Int := expiry now duration

theorem expiry_bounds {now : Instant} {duration seconds : Int} (h : expiry now duration = .ok seconds) :
    -2 ^ 63 ≤ seconds ∧ seconds < 2 ^ 63 := by
  unfold expiry at h
  split at h
  · next hr =>
      obtain rfl := Outcome.ok.inj h
      exact ⟨by unfold minTimestamp at hr; omega, by unfold maxTimestamp at hr; omega⟩
  · cases h

theorem toLeBytes_length (seconds : Int) : (toLeBytes seconds).length = 8 := by
  rw [toLeBytes, List.length_reverse, BigEndian.toBe_length]

theorem fromLeBytes_toLeBytes (seconds : Int) :
    fromLeBytes (toLeBytes seconds) = (seconds % 2 ^ 64).toNat := by
  rw [fromLeBytes, toLeBytes, List.reverse_reverse]
  exact BigEndian.fromBe_toBe (by omega)

/-- `i64::from_le_bytes`; the directory reads the same bytes as a `u64`. -/
def i64FromLeBytes (data : Bytes) : Int :=
  if fromLeBytes data < 2 ^ 63 then fromLeBytes data else (fromLeBytes data : Int) - 2 ^ 64

theorem i64FromLeBytes_toLeBytes {seconds : Int} (hlow : -2 ^ 63 ≤ seconds) (hhigh : seconds < 2 ^ 63) :
    i64FromLeBytes (toLeBytes seconds) = seconds := by
  rw [i64FromLeBytes, fromLeBytes_toLeBytes]
  split <;> omega

/-! ## Keys -/

abbrev Text := List Char

/-- A guid with the sixteen bytes its text form needs. -/
@[ext] structure GuidKey where
  guid : Guid
  sixteen : guid.value.length = 16
  deriving DecidableEq

/-- The hyphenated form of a UUID. -/
def uuidText (v : Bytes) : Text :=
  Hex.encode (v.take 4) ++ '-' :: (Hex.encode ((v.drop 4).take 2) ++ '-' ::
    (Hex.encode ((v.drop 6).take 2) ++ '-' :: (Hex.encode ((v.drop 8).take 2) ++ '-' ::
      Hex.encode (v.drop 10))))

def GuidKey.toText (key : GuidKey) : Text := uuidText key.guid.value

theorem mem_hex {v : Bytes} {c : Char} (h : c ∈ Hex.encode v) : c ≠ '-' ∧ c ≠ '/' ∧ c ≠ '.' := by
  have hplain : ∀ n < 16, Hex.digit n ≠ '-' ∧ Hex.digit n ≠ '/' ∧ Hex.digit n ≠ '.' := by decide
  obtain ⟨n, hn, rfl⟩ := Hex.mem_encode h
  exact hplain n hn

theorem filter_hex (v : Bytes) : (Hex.encode v).filter (· ≠ '-') = Hex.encode v :=
  List.filter_eq_self.mpr fun _ hc => decide_eq_true (mem_hex hc).1

/-- Without its hyphens the text is the hexadecimal form of the bytes. -/
theorem filter_uuidText (v : Bytes) : (uuidText v).filter (· ≠ '-') = Hex.encode v := by
  have hsplit : v = v.take 4 ++ ((v.drop 4).take 2 ++ ((v.drop 6).take 2 ++
      ((v.drop 8).take 2 ++ v.drop 10))) := by
    have h8 : (v.drop 8).take 2 ++ v.drop 10 = v.drop 8 := by
      simpa using List.take_append_drop 2 (v.drop 8)
    have h6 : (v.drop 6).take 2 ++ v.drop 8 = v.drop 6 := by
      simpa using List.take_append_drop 2 (v.drop 6)
    have h4 : (v.drop 4).take 2 ++ v.drop 6 = v.drop 4 := by
      simpa using List.take_append_drop 2 (v.drop 4)
    rw [h8, h6, h4, List.take_append_drop]
  conv_rhs => rw [hsplit]
  simp only [Hex.encode_append, uuidText, List.filter_append, List.filter_cons, filter_hex]
  simp

theorem toText_injective : Function.Injective GuidKey.toText := by
  intro a b h
  have hhex : Hex.encode a.guid.value = Hex.encode b.guid.value := by
    rw [← filter_uuidText, ← filter_uuidText]
    exact congrArg _ h
  exact GuidKey.ext (Guid.ext (Hex.encode_injective hhex))

theorem mem_uuidText {v : Bytes} {c : Char} (h : c ∈ uuidText v) : c ≠ '/' ∧ c ≠ '.' := by
  simp only [uuidText, List.mem_append, List.mem_cons] at h
  rcases h with h | rfl | h | rfl | h | rfl | h | rfl | h
  all_goals first | exact (mem_hex h).2 | decide

/-! ## The interface -/

/-- `Serializable` at one type. -/
structure Serializable (V : Type) where
  serializeData : V → Outcome Error Bytes
  deserializeData : Bytes → Outcome Error V

/-- A value that is read back, and is then written as the same bytes. -/
def ReadsBack {V : Type} (codec : Serializable V) (value : V) : Prop :=
  ∃ raw value', codec.serializeData value = .ok raw ∧ codec.deserializeData raw = .ok value' ∧
    codec.serializeData value' = .ok raw

/-- The value as it is read again. -/
def readBack {V : Type} (codec : Serializable V) (value : V) : Option V :=
  match codec.serializeData value with
  | .ok raw =>
    match codec.deserializeData raw with
    | .ok value' => some value'
    | _ => none
  | _ => none

/-- The trait at one backend with states `σ`: every call returns a result and the state it
leaves, and reads the clock at most once. `contents` is what the backend holds. -/
structure Store (σ V : Type) where
  initial : σ
  contents : σ → GuidKey → Option Bytes
  loadData : Instant → GuidKey → σ → Outcome StoreError (Option V) × σ
  /-- `store_metadata` under the key `Ttl`. -/
  storeTtl : Instant → GuidKey → Int → σ → Outcome StoreError Unit × σ
  storeData : GuidKey → V → σ → Outcome StoreError Unit × σ
  destroyData : GuidKey → σ → Outcome StoreError Unit × σ
  performMaintenance : Instant → σ → Outcome StoreError Unit × σ

inductive Call (V : Type) where
  | storeData (key : GuidKey) (value : V)
  | storeTtl (key : GuidKey) (duration : Int)
  | loadData (key : GuidKey)
  | destroyData (key : GuidKey)
  | performMaintenance

inductive Answer (V : Type) where
  | done (result : Outcome StoreError Unit)
  | loaded (result : Outcome StoreError (Option V))
  deriving DecidableEq

def Store.perform {σ V : Type} (store : Store σ V) (now : Instant) (s : σ) : Call V → Answer V × σ
  | .storeData key value => (store.storeData key value s).map .done id
  | .storeTtl key duration => (store.storeTtl now key duration s).map .done id
  | .loadData key => (store.loadData now key s).map .loaded id
  | .destroyData key => (store.destroyData key s).map .done id
  | .performMaintenance => (store.performMaintenance now s).map .done id

end FidoOnboard.Stores
