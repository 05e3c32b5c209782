import FidoOnboard.DataFormats.VoucherPanics

/-!
# Many vouchers in a row

`MaybeSerializable` and `DeserializableMany` of `data-formats/src/serializable.rs`.
The end of the input is recognised by the error it causes, and an embedded header
of no bytes causes the same error. What the array parser stops at, stops the reading.
-/
namespace FidoOnboard
open CborParser

section Many

variable {α : Type} (deserializeFromReader : Bytes → Outcome Error (α × Bytes))
  (isNodataError : Error → Bool)

def maybeDeserializeFromReader (reader : Bytes) : Outcome Error (Option (α × Bytes)) :=
  match deserializeFromReader reader with
  | .ok value => .ok (some value)
  | .err err => if isNodataError err then .ok none else .err err
  | .panic => .panic

/-- The `while let`, with a bound on its rounds. -/
def deserializeManyWithin : Nat → Bytes → Outcome Error (List α)
  | 0, _ => .ok []
  | fuel + 1, reader => do
    match ← maybeDeserializeFromReader deserializeFromReader isNodataError reader with
    | none => .ok []
    | some (item, reader) => do
      let output ← deserializeManyWithin fuel reader
      .ok (item :: output)

/-- Every item takes at least one byte, and one round more finds the end. -/
def deserializeManyFromReader (reader : Bytes) : Outcome Error (List α) :=
  deserializeManyWithin deserializeFromReader isNodataError (reader.length + 1) reader

end Many

namespace OwnershipVoucher

def isNodataError (err : Error) : Bool := err == .arrayParseError .noData

def deserializeMany (P : Platform) (reader : Bytes) : Outcome Error (List (OwnershipVoucher P)) :=
  deserializeManyFromReader (deserializeFromReader P) isNodataError reader

end OwnershipVoucher

namespace VoucherStream
open CborGrammar CborCorrect CborRoundTrip VoucherChain VoucherExtend VoucherRoundTrip

/-! ## Where `NoData` comes from -/

section NoData

abbrev noData : Error := .arrayParseError .noData

theorem readLen_ne_noData (reader : Bytes) (header : UInt8) : readLen reader header ≠ .err noData := by
  unfold readLen
  dsimp only
  cases lengthSize (header &&& maskVal).toNat with
  | none => simp
  | some size =>
      cases size with
      | zero => simp
      | succ n =>
          refine Outcome.bind_ne_err ?_ fun _ _ => by simp
          cases readExact (n + 1) reader <;> simp [Outcome.unwrap]

theorem maybeFromU8_ne_noData (b : UInt8) : MajorType.maybeFromU8 b ≠ .err noData := by
  unfold MajorType.maybeFromU8
  split <;> simp

theorem readExact_ne_noData (n : Nat) (reader : Bytes) : readExact n reader ≠ .err noData := by
  unfold readExact
  split <;> simp

theorem readByte_ne_noData (reader : Bytes) : readByte reader ≠ .err noData := by
  cases reader <;> simp [readByte]

theorem readBody_ne_noData (p : Profile) (m : MajorType) (minor : UInt8) (s : LoopState) :
    readBody p m minor s ≠ .err noData := by
  cases m with
  | unsigned | negative | array =>
      exact Outcome.bind_ne_err (readLen_ne_noData _ _) fun _ _ => by simp
  | byteString | textString =>
      refine Outcome.bind_ne_err (readLen_ne_noData _ _) fun value _ => ?_
      dsimp only
      split
      · simp
      · exact Outcome.bind_ne_err (readExact_ne_noData _ _) fun _ _ => by simp
  | map =>
      refine Outcome.bind_ne_err (readLen_ne_noData _ _) fun value _ => ?_
      dsimp only
      split
      · refine Outcome.bind_ne_err ?_ fun _ _ => by simp
        cases p with
        | debug => simp only [mulU64]; split <;> simp
        | release => simp [mulU64]
      · simp
  | tag | special => simp [readBody]

theorem iteration_ne_noData (p : Profile) (s : LoopState) : iteration p s ≠ .err noData := by
  refine Outcome.bind_ne_err (readByte_ne_noData _) fun _ _ => ?_
  refine Outcome.bind_ne_err (maybeFromU8_ne_noData _) fun m _ => ?_
  dsimp only
  split
  · exact Outcome.bind_ne_err (readLen_ne_noData _ _) fun _ _ => by simp
  · refine Outcome.bind_ne_err (readBody_ne_noData _ _ _ _) fun s _ => ?_
    unfold finishItem
    dsimp only
    split <;> simp

theorem loop_ne_noData (p : Profile) (fuel : Nat) (s : LoopState) : loop p fuel s ≠ .err noData := by
  induction fuel generalizing s with
  | zero =>
      unfold loop
      split <;> simp
  | succ fuel ih =>
      unfold loop
      split
      · simp
      · exact Outcome.bind_ne_err (iteration_ne_noData p s) fun s' _ => ih s'

theorem readSized_ne_noData (p : Profile) (N : ParsedArraySize) (tag : Option Nat)
    (headerBuf : Bytes) (n : Nat) (reader : Bytes) :
    ParsedArray.readSized p N tag headerBuf n reader ≠ .err noData := by
  have hitems : ParsedArray.readItems p N tag headerBuf n reader ≠ .err noData := by
    refine Outcome.bind_ne_err (loop_ne_noData _ _ _) fun s _ => ?_
    split
    · simp
    · split <;> simp
  unfold ParsedArray.readSized
  split
  · split
    · simp
    · exact hitems
  · split
    · simp
    · exact hitems

/-- The array parser reports no data only where there is none. -/
theorem deserializeFromReader_noData_iff {p : Profile} {N : ParsedArraySize} {reader : Bytes} :
    ParsedArray.deserializeFromReader p N reader = .err noData ↔ reader = [] := by
  constructor
  · intro h
    cases reader with
    | nil => rfl
    | cons first reader =>
        refine absurd h (Outcome.bind_ne_err ?_ fun parts _ => ?_)
        · refine Outcome.bind_ne_err (maybeFromU8_ne_noData _) fun m _ => ?_
          cases m with
          | tag =>
              refine Outcome.bind_ne_err (readLen_ne_noData _ _) fun value _ => ?_
              exact Outcome.bind_ne_err (readByte_ne_noData _) fun _ _ => by simp
          | unsigned | negative | byteString | textString | array | map | special => simp
        · refine Outcome.bind_ne_err (maybeFromU8_ne_noData _) fun m _ => ?_
          dsimp only
          split
          · simp
          · refine Outcome.bind_ne_err (readLen_ne_noData _ _) fun value _ => ?_
            exact readSized_ne_noData _ _ _ _ _ _
  · rintro rfl
    rfl

variable {P : Platform}

theorem codec_ne_noData {α : Type} (c : Codec α) (data : Bytes) :
    c.deserializeData data ≠ .err noData := by
  unfold Codec.deserializeData
  cases c.fromSlice data <;> simp [Outcome.ofOption]

theorem get_ne_noData {N : ParsedArraySize} {α : Type} {decode : Bytes → Outcome Error α}
    {a : ParsedArray N} {n : Nat} (h : ∀ raw, a.contents[n]? = some raw → decode raw ≠ .err noData) :
    a.get decode n ≠ .err noData := by
  refine Outcome.bind_ne_err ?_ fun raw hraw => h raw (getRaw_eq_ok.mp hraw)
  unfold ParsedArray.getRaw
  split <;> simp

theorem guid_ne_noData (data : Bytes) : Guid.deserializeData P data ≠ .err noData := by
  refine Outcome.bind_ne_err (codec_ne_noData _ _) fun value _ => ?_
  refine Outcome.bind_ne_err ?_ fun _ _ => by simp
  unfold checkBstr16 Outcome.check
  split <;> simp

theorem publicKey_ne_noData (data : Bytes) : PublicKey.deserializeData P data ≠ .err noData := by
  refine Outcome.bind_ne_err (codec_ne_noData _ _) fun fields _ => ?_
  unfold PublicKey.ofFields
  cases PublicKey.new P fields <;> simp

theorem chain_ne_noData (data : Bytes) : OptionX5Chain.deserializeData P data ≠ .err noData := by
  refine Outcome.bind_ne_err (codec_ne_noData _ _) fun ders _ => ?_
  cases ders with
  | none => simp
  | some ders =>
      refine Outcome.bind_ne_err ?_ fun _ _ => by simp
      cases X5Chain.ofDer P ders <;> simp [Outcome.ofOption]

theorem deserializeData_noData_iff {p : Profile} {N : ParsedArraySize} {data : Bytes} :
    ParsedArray.deserializeData p N data = .err noData ↔ data = [] := by
  rw [← deserializeFromReader_noData_iff (p := p) (N := N)]
  unfold ParsedArray.deserializeData
  cases ParsedArray.deserializeFromReader p N data <;> simp

/-- A header reports no data when its bytes are none. -/
theorem header_noData_iff {data : Bytes} :
    OwnershipVoucherHeader.deserializeData P data = .err noData ↔ data = [] := by
  rw [← deserializeData_noData_iff (p := P.profile) (N := size6)]
  constructor
  · intro h
    refine (Outcome.bind_eq_err.mp h).resolve_right ?_
    rintro ⟨contents, _, hof⟩
    refine absurd hof (Outcome.bind_ne_err (get_ne_noData fun _ _ => codec_ne_noData _ _) fun _ _ => ?_)
    refine Outcome.bind_ne_err (get_ne_noData fun _ _ => guid_ne_noData _) fun _ _ => ?_
    refine Outcome.bind_ne_err (get_ne_noData fun _ _ => codec_ne_noData _ _) fun _ _ => ?_
    refine Outcome.bind_ne_err (get_ne_noData fun _ _ => codec_ne_noData _ _) fun info _ => ?_
    refine Outcome.bind_ne_err ?_ fun _ _ => ?_
    · unfold checkDeviceInfo Outcome.check
      split <;> simp
    refine Outcome.bind_ne_err (get_ne_noData fun _ _ => publicKey_ne_noData _) fun _ _ => ?_
    exact Outcome.bind_ne_err (get_ne_noData fun _ _ => codec_ne_noData _ _) fun _ _ => by simp
  · intro h
    simp [OwnershipVoucherHeader.deserializeData, h]

/-- A complete array with a protocol version and a header of no bytes. -/
def Headerless (P : Platform) (contents : ParsedArray size5) : Prop :=
  (∃ version, contents.get P.protocolVersion.deserializeData 0 = .ok version) ∧
    contents.get P.byteBuf.deserializeData 1 = .ok []

theorem fromParsedArray_noData_iff {contents : ParsedArray size5}
    (hitems : ∀ x ∈ contents.contents, WellFormed (.machine P.profile) x) :
    OwnershipVoucher.fromParsedArray P contents = .err noData ↔ Headerless P contents := by
  constructor
  · intro h
    rcases Outcome.bind_eq_err.mp h with h₀ | ⟨version, hversion, h₁⟩
    · exact absurd h₀ (get_ne_noData fun _ _ => codec_ne_noData _ _)
    rcases Outcome.bind_eq_err.mp h₁ with h₀ | ⟨header, hheader, h₂⟩
    · exact absurd h₀ (get_ne_noData fun _ _ => codec_ne_noData _ _)
    rcases Outcome.bind_eq_err.mp h₂ with h₀ | ⟨_, _, h₃⟩
    · obtain rfl := header_noData_iff.mp h₀
      exact ⟨⟨version, hversion⟩, hheader⟩
    refine absurd h₃ (Outcome.bind_ne_err (get_ne_noData fun _ _ => codec_ne_noData _ _) fun _ _ => ?_)
    refine Outcome.bind_ne_err (get_ne_noData fun _ _ => chain_ne_noData _) fun _ _ => ?_
    refine Outcome.bind_ne_err (get_ne_noData fun raw hraw => ?_) fun _ _ => by simp
    -- an element of the array is never empty
    rw [Ne, deserializeData_noData_iff]
    exact (hitems raw (List.mem_of_getElem? hraw)).ne_nil
  · rintro ⟨⟨version, hversion⟩, hheader⟩
    simp only [OwnershipVoucher.fromParsedArray, hversion, hheader, Outcome.ok_bind,
      header_noData_iff.mpr rfl, Outcome.err_bind]

theorem voucher_noData_iff {reader : Bytes} :
    OwnershipVoucher.deserializeFromReader P reader = .err noData ↔ reader = [] ∨
      ∃ contents rest, ParsedArray.deserializeFromReader P.profile size5 reader = .ok (contents, rest) ∧
        Headerless P contents := by
  rw [← deserializeFromReader_noData_iff (p := P.profile) (N := size5)]
  unfold OwnershipVoucher.deserializeFromReader
  split
  · next herr => simp [herr]
  · rw [Outcome.bind_eq_err]
    refine or_congr Iff.rfl ?_
    constructor
    · rintro ⟨⟨contents, rest⟩, hread, h⟩
      obtain ⟨_, _, _, _, _, _, hitems⟩ := deserializeFromReader_ok_iff.mp hread
      rcases Outcome.bind_eq_err.mp h with h₀ | ⟨v, _, h₁⟩
      · exact ⟨contents, rest, hread, (fromParsedArray_noData_iff hitems).mp h₀⟩
      · cases h₁
    · rintro ⟨contents, rest, hread, hheaderless⟩
      obtain ⟨_, _, _, _, _, _, hitems⟩ := deserializeFromReader_ok_iff.mp hread
      exact ⟨(contents, rest), hread, Outcome.bind_eq_err.mpr
        (.inl ((fromParsedArray_noData_iff hitems).mpr hheaderless))⟩

end NoData

/-! ## Parts of a stream -/

variable {P : Platform}

/-- `part` is the encoding of a voucher, read as `v`. -/
def Encodes (part : Bytes) (v : OwnershipVoucher P) : Prop :=
  OwnershipVoucher.deserializeFromReader P part = .ok (v, [])

/-- Reading takes a part off the front and does not look behind it. -/
theorem array_read_iff {p : Profile} {N : ParsedArraySize} {reader rest : Bytes} {a : ParsedArray N} :
    ParsedArray.deserializeFromReader p N reader = .ok (a, rest) ↔
      ∃ part, reader = part ++ rest ∧ ParsedArray.deserializeFromReader p N part = .ok (a, []) := by
  constructor
  · intro h
    obtain ⟨t, hd, rfl, htag, hhead, hheader, hitems⟩ := deserializeFromReader_ok_iff.mp h
    exact ⟨t ++ hd ++ a.contents.flatten, rfl, deserializeFromReader_ok_iff.mpr
      ⟨t, hd, by simp, htag, hhead, hheader, hitems⟩⟩
  · rintro ⟨part, rfl, h⟩
    obtain ⟨t, hd, rfl, htag, hhead, hheader, hitems⟩ := deserializeFromReader_ok_iff.mp h
    exact deserializeFromReader_ok_iff.mpr ⟨t, hd, by simp, htag, hhead, hheader, hitems⟩

theorem voucher_read_iff {reader rest : Bytes} {v : OwnershipVoucher P} :
    OwnershipVoucher.deserializeFromReader P reader = .ok (v, rest) ↔
      ∃ part, reader = part ++ rest ∧ Encodes part v := by
  simp only [Encodes, OwnershipVoucher.deserializeFromReader_eq_ok]
  constructor
  · rintro ⟨contents, hread, hof⟩
    obtain ⟨part, hpart, hread'⟩ := array_read_iff.mp hread
    exact ⟨part, hpart, contents, hread', hof⟩
  · rintro ⟨part, hpart, contents, hread, hof⟩
    exact ⟨contents, array_read_iff.mpr ⟨part, hpart, hread⟩, hof⟩

theorem Encodes.read {part : Bytes} {v : OwnershipVoucher P} (h : Encodes part v) (rest : Bytes) :
    OwnershipVoucher.deserializeFromReader P (part ++ rest) = .ok (v, rest) :=
  voucher_read_iff.mpr ⟨part, rfl, h⟩

theorem Encodes.ne_nil {part : Bytes} {v : OwnershipVoucher P} (h : Encodes part v) : part ≠ [] := by
  rintro rfl
  cases h

/-- How the reading of many vouchers ends: with the input, or in front of an array
without a header. -/
inductive Ends (P : Platform) : Bytes → Prop
  | input : Ends P []
  | headerless {part rest : Bytes} {contents : ParsedArray size5} :
      ParsedArray.deserializeFromReader P.profile size5 part = .ok (contents, []) →
      Headerless P contents → Ends P (part ++ rest)

theorem ends_iff {reader : Bytes} :
    Ends P reader ↔ OwnershipVoucher.deserializeFromReader P reader = .err noData := by
  rw [voucher_noData_iff]
  constructor
  · intro h
    cases h with
    | input => exact .inl rfl
    | headerless hread hheaderless =>
        exact .inr ⟨_, _, array_read_iff.mpr ⟨_, rfl, hread⟩, hheaderless⟩
  · rintro (rfl | ⟨contents, rest, hread, hheaderless⟩)
    · exact .input
    · obtain ⟨part, rfl, hread'⟩ := array_read_iff.mp hread
      exact .headerless hread' hheaderless

/-- The vouchers in front of an end, by the first of them. -/
theorem stream_cases {reader : Bytes} {vs : List (OwnershipVoucher P)} :
    (∃ parts rest, reader = parts.flatten ++ rest ∧ List.Forall₂ Encodes parts vs ∧ Ends P rest) ↔
      (vs = [] ∧ OwnershipVoucher.deserializeFromReader P reader = .err noData) ∨
      ∃ v vs' r, vs = v :: vs' ∧ OwnershipVoucher.deserializeFromReader P reader = .ok (v, r) ∧
        ∃ parts rest, r = parts.flatten ++ rest ∧ List.Forall₂ Encodes parts vs' ∧ Ends P rest := by
  constructor
  · rintro ⟨parts, rest, rfl, hparts, hend⟩
    cases hparts with
    | nil => exact .inl ⟨rfl, ends_iff.mp hend⟩
    | @cons part v parts vs' hv hparts =>
        refine .inr ⟨v, vs', parts.flatten ++ rest, rfl, ?_, parts, rest, rfl, hparts, hend⟩
        rw [List.flatten_cons, List.append_assoc]
        exact hv.read (parts.flatten ++ rest)
  · rintro (⟨rfl, hend⟩ | ⟨v, vs', _, rfl, hread, parts, rest, rfl, hparts, hend⟩)
    · exact ⟨[], reader, rfl, .nil, ends_iff.mpr hend⟩
    · obtain ⟨part, rfl, hv⟩ := voucher_read_iff.mp hread
      exact ⟨part :: parts, rest, by simp, .cons hv hparts, hend⟩

theorem deserializeManyWithin_eq_ok {fuel : Nat} {reader : Bytes} {vs : List (OwnershipVoucher P)}
    (hfuel : reader.length < fuel) :
    deserializeManyWithin (OwnershipVoucher.deserializeFromReader P) OwnershipVoucher.isNodataError
        fuel reader = .ok vs ↔
      ∃ parts rest, reader = parts.flatten ++ rest ∧ List.Forall₂ Encodes parts vs ∧ Ends P rest := by
  induction fuel generalizing reader vs with
  | zero => omega
  | succ fuel ih =>
      rw [stream_cases]
      unfold deserializeManyWithin maybeDeserializeFromReader
      cases hread : OwnershipVoucher.deserializeFromReader P reader with
      | ok value =>
          obtain ⟨v, r⟩ := value
          have hlt : r.length < fuel := by
            obtain ⟨part, rfl, hv⟩ := voucher_read_iff.mp hread
            have := List.length_pos_iff.mpr hv.ne_nil
            simp only [List.length_append] at hfuel
            omega
          simp only [Outcome.ok_bind, Outcome.bind_eq_ok, ih hlt, reduceCtorEq, and_false, false_or,
            Outcome.ok.injEq, Prod.mk.injEq]
          constructor
          · rintro ⟨vs', hvs', rfl⟩
            exact ⟨v, vs', r, rfl, ⟨rfl, rfl⟩, hvs'⟩
          · rintro ⟨_, vs', _, rfl, ⟨rfl, rfl⟩, hvs'⟩
            exact ⟨vs', hvs', rfl⟩
      | err e =>
          by_cases he : e = noData
          · subst he
            simp [OwnershipVoucher.isNodataError, eq_comm]
          · have hdata : OwnershipVoucher.isNodataError e = false := by
              simpa [OwnershipVoucher.isNodataError] using he
            simp [hdata, he]
      | panic => simp

/-- A list is returned exactly when vouchers stand in front of an end. -/
theorem deserializeMany_eq_ok {reader : Bytes} {vs : List (OwnershipVoucher P)} :
    OwnershipVoucher.deserializeMany P reader = .ok vs ↔
      ∃ parts rest, reader = parts.flatten ++ rest ∧ List.Forall₂ Encodes parts vs ∧ Ends P rest :=
  deserializeManyWithin_eq_ok (Nat.lt_succ_self _)

/-- The decoder of a voucher stops behind vouchers. -/
def OverrunInside (P : Platform) (b : Bytes) : Prop :=
  ∃ (parts : List Bytes) (vs : List (OwnershipVoucher P)) (rest : Bytes),
    b = parts.flatten ++ rest ∧ List.Forall₂ Encodes parts vs ∧ OwnershipVoucher.Overruns P rest

/-- Vouchers in front of a place where the decoder stops, by the first of them. -/
theorem overrun_cases {reader : Bytes} :
    OverrunInside P reader ↔ OwnershipVoucher.deserializeFromReader P reader = .panic ∨
      ∃ v r, OwnershipVoucher.deserializeFromReader P reader = .ok (v, r) ∧ OverrunInside P r := by
  constructor
  · rintro ⟨parts, vs, rest, rfl, hparts, hover⟩
    cases hparts with
    | nil => exact .inl (OwnershipVoucher.deserializeFromReader_panic_iff.mpr hover)
    | @cons part v parts vs hv hparts =>
        refine .inr ⟨v, parts.flatten ++ rest, ?_, parts, vs, rest, rfl, hparts, hover⟩
        rw [List.flatten_cons, List.append_assoc]
        exact hv.read (parts.flatten ++ rest)
  · intro h
    rcases h with hpanic | ⟨v, r, hread, parts, vs, rest, rfl, hparts, hover⟩
    · exact ⟨[], [], reader, rfl, .nil, OwnershipVoucher.deserializeFromReader_panic_iff.mp hpanic⟩
    · obtain ⟨part, rfl, hv⟩ := voucher_read_iff.mp hread
      exact ⟨part :: parts, v :: vs, rest, by simp, .cons hv hparts, hover⟩

theorem deserializeManyWithin_eq_panic {fuel : Nat} {reader : Bytes} (hfuel : reader.length < fuel) :
    deserializeManyWithin (OwnershipVoucher.deserializeFromReader P) OwnershipVoucher.isNodataError
        fuel reader = .panic ↔ OverrunInside P reader := by
  induction fuel generalizing reader with
  | zero => omega
  | succ fuel ih =>
      rw [overrun_cases]
      unfold deserializeManyWithin maybeDeserializeFromReader
      cases hread : OwnershipVoucher.deserializeFromReader P reader with
      | ok value =>
          obtain ⟨v, r⟩ := value
          have hlt : r.length < fuel := by
            obtain ⟨part, rfl, hv⟩ := voucher_read_iff.mp hread
            have := List.length_pos_iff.mpr hv.ne_nil
            simp only [List.length_append] at hfuel
            omega
          simp only [Outcome.ok_bind, Outcome.bind_eq_panic, ih hlt, reduceCtorEq, and_false, exists_false,
            or_false, false_or, Outcome.ok.injEq, Prod.mk.injEq]
          constructor
          · intro hover
            exact ⟨v, r, ⟨rfl, rfl⟩, hover⟩
          · rintro ⟨_, _, ⟨rfl, rfl⟩, hover⟩
            exact hover
      | err e =>
          cases hdata : OwnershipVoucher.isNodataError e <;> simp [hdata]
      | panic => simp

/-- The program stops exactly when vouchers stand in front of bytes that stop the decoder. -/
theorem deserializeMany_eq_panic {reader : Bytes} :
    OwnershipVoucher.deserializeMany P reader = .panic ↔ OverrunInside P reader :=
  deserializeManyWithin_eq_panic (Nat.lt_succ_self _)

/-! ## Nothing lost, nothing left over -/

/-- A voucher as the program may hold it. -/
inductive HeaderHeld : OwnershipVoucherHeader P → Prop
  | new {version : ProtocolVersion} {guid : Guid} {rendezvousInfo : P.RendezvousInfo}
      {deviceInfo : String} {key : PublicKey P} {chainHash : Option Hash}
      {header : OwnershipVoucherHeader P} : key.Made →
      OwnershipVoucherHeader.new version guid rendezvousInfo deviceInfo key chainHash = .ok header →
      HeaderHeld header
  | deserialized {data : Bytes} {header : OwnershipVoucherHeader P} :
      OwnershipVoucherHeader.deserializeData P data = .ok header → HeaderHeld header

inductive Held : OwnershipVoucher P → Prop
  | new {header : OwnershipVoucherHeader P} {hmac : HMac} {chain : Option (X5Chain P)}
      {v : OwnershipVoucher P} :
      HeaderHeld header → OwnershipVoucher.new header hmac chain = .ok v → Held v
  | fromParts {version : ProtocolVersion} {header : Bytes} {hmac : HMac}
      {entries : ParsedArray .dynamic} {v : OwnershipVoucher P} :
      OwnershipVoucher.fromParts version header hmac entries = .ok v → Held v
  | deserialized {reader rest : Bytes} {v : OwnershipVoucher P} :
      OwnershipVoucher.deserializeFromReader P reader = .ok (v, rest) → Held v
  | extended {v v' : OwnershipVoucher P} {s : Handover P} :
      Held v → v.extend s.privateKey s.extra s.nextParty = (.ok (), v') → Held v'

theorem HeaderHeld.holds (laws : ElementLaws P) {header : OwnershipVoucherHeader P}
    (h : HeaderHeld header) : HeaderHolds header header.contents.contents := by
  cases h with
  | new hkey hnew => exact (header_new_holds laws hkey hnew).2.2.2.2
  | deserialized hdec => exact (header_deserialized_holds laws hdec).2

theorem Held.holds (laws : ElementLaws P) {v : OwnershipVoucher P} (h : Held v) :
    VoucherHolds v v.contents.contents := by
  induction h with
  | new hheader hnew => exact (voucher_new_holds laws (hheader.holds laws) hnew).2.2.2
  | fromParts hparts => exact (voucher_fromParts_holds laws hparts).2.2
  | deserialized hdec => exact voucher_deserialized_holds laws hdec
  | extended _ hstep ih => exact extend_holds ih hstep

/-- The vouchers `vs`, written one after the other, are read as the same vouchers. -/
def ReadsAllOf (P : Platform) (vs : List (OwnershipVoucher P)) (data : List Bytes) : Prop :=
  ∃ ws, OwnershipVoucher.deserializeMany P data.flatten = .ok ws ∧ List.Forall₂ SameVoucher vs ws

/-- A returned list accounts for all of `b`, and what is not vouchers one after the other is
reported as an error. -/
structure ConsumesAll (P : Platform) (b : Bytes) : Prop where
  whole : ∀ ws, OwnershipVoucher.deserializeMany P b = .ok ws →
    ∃ parts : List Bytes, b = parts.flatten ∧ List.Forall₂ Encodes parts ws
  reported : (∀ (parts : List Bytes) (vs : List (OwnershipVoucher P)),
      List.Forall₂ Encodes parts vs → b ≠ parts.flatten) →
    ∃ e, OwnershipVoucher.deserializeMany P b = .err e

/-- Behind vouchers there is a five-element array with a protocol version and an empty header. -/
def HeaderlessInside (P : Platform) (b : Bytes) : Prop :=
  ∃ (parts : List Bytes) (vs : List (OwnershipVoucher P)) (part rest : Bytes)
    (contents : ParsedArray size5),
    b = parts.flatten ++ (part ++ rest) ∧ List.Forall₂ Encodes parts vs ∧
      ParsedArray.deserializeFromReader P.profile size5 part = .ok (contents, []) ∧
      Headerless P contents

theorem encodes_rest_unique {parts parts' : List Bytes} {vs : List (OwnershipVoucher P)} {x y : Bytes}
    (h : List.Forall₂ Encodes parts vs) (h' : List.Forall₂ Encodes parts' vs)
    (he : parts.flatten ++ x = parts'.flatten ++ y) : x = y := by
  induction h generalizing parts' with
  | nil =>
      cases h' with
      | nil => simpa using he
  | @cons part v parts vs hv _ ih =>
      cases h' with
      | @cons part' _ parts' _ hv' h' =>
          simp only [List.flatten_cons, List.append_assoc] at he
          have hread := hv.read (parts.flatten ++ x)
          rw [he, hv'.read] at hread
          exact ih h' (Prod.mk.inj (Outcome.ok.inj hread)).2.symm

theorem deserializeMany_parts {parts : List Bytes} {vs : List (OwnershipVoucher P)}
    (hparts : List.Forall₂ Encodes parts vs) : OwnershipVoucher.deserializeMany P parts.flatten = .ok vs :=
  deserializeMany_eq_ok.mpr ⟨parts, [], by simp, hparts, .input⟩

theorem consumesAll_iff (b : Bytes) : ConsumesAll P b ↔ ¬ HeaderlessInside P b ∧ ¬ OverrunInside P b := by
  constructor
  · intro h
    constructor
    · rintro ⟨parts, vs, part, rest, contents, rfl, hparts, hread, hheaderless⟩
      obtain ⟨parts', hb, hparts'⟩ :=
        h.whole vs (deserializeMany_eq_ok.mpr ⟨parts, _, rfl, hparts, .headerless hread hheaderless⟩)
      have hnil : part ++ rest = [] := encodes_rest_unique hparts hparts' (by rw [hb, List.append_nil])
      obtain rfl := (List.append_eq_nil_iff.mp hnil).1
      cases hread
    · intro hover
      have hpanic := deserializeMany_eq_panic.mpr hover
      obtain ⟨e, herr⟩ := h.reported fun parts vs hparts hb => by
        rw [hb, deserializeMany_parts hparts] at hpanic
        cases hpanic
      cases hpanic.symm.trans herr
  · rintro ⟨hheaderless, hover⟩
    have hwhole : ∀ ws, OwnershipVoucher.deserializeMany P b = .ok ws →
        ∃ parts : List Bytes, b = parts.flatten ∧ List.Forall₂ Encodes parts ws := by
      intro ws hws
      obtain ⟨parts, rest, rfl, hparts, hend⟩ := deserializeMany_eq_ok.mp hws
      cases hend with
      | input => exact ⟨parts, by simp, hparts⟩
      | @headerless part rest contents hread hnone =>
          exact absurd ⟨parts, ws, part, rest, contents, rfl, hparts, hread, hnone⟩ hheaderless
    refine ⟨hwhole, ?_⟩
    intro hnot
    cases hmany : OwnershipVoucher.deserializeMany P b with
    | ok ws =>
        obtain ⟨parts, hb, hparts⟩ := hwhole ws hmany
        exact absurd hb (hnot parts ws hparts)
    | err e => exact ⟨e, rfl⟩
    | panic => exact absurd (deserializeMany_eq_panic.mp hmany) hover

/-- Vouchers with the bytes they are written as. -/
def Written (v : OwnershipVoucher P) (data : Bytes) : Prop := Held v ∧ v.serializeData = .ok data

theorem readsAllOf_iff (laws : ElementLaws P) {vs : List (OwnershipVoucher P)} {data : List Bytes}
    (hwritten : List.Forall₂ Written vs data) : ReadsAllOf P vs data ↔ ∀ v ∈ vs, Readable v := by
  constructor
  · rintro ⟨ws, hmany, hsame⟩
    have hstream := deserializeMany_eq_ok.mp hmany
    clear hmany
    -- along the list: what is read first is the first voucher, and then its rest
    induction hwritten generalizing ws with
    | nil => simp
    | @cons v d vs data hv _ ih =>
        cases hsame with
        | @cons _ w _ ws _ hsame =>
            obtain ⟨hheld, hser⟩ := hv
            rcases stream_cases.mp hstream with ⟨hnil, _⟩ | ⟨_, _, r, he, hread, hrest⟩
            · cases hnil
            · obtain ⟨rfl, rfl⟩ := List.cons.inj he
              rw [List.flatten_cons] at hread
              have hreadable := voucher_read_only (hheld.holds laws) hser hread
              obtain ⟨_, hback, _⟩ := voucher_reads (hheld.holds laws) hser hreadable data.flatten
              obtain rfl := (Prod.mk.inj (Outcome.ok.inj (hread.symm.trans hback))).2
              intro u hu
              rcases List.mem_cons.mp hu with rfl | hu
              · exact hreadable
              · exact ih _ hsame hrest u hu
  · intro hreadable
    have hparts : ∃ ws, List.Forall₂ Encodes data ws ∧ List.Forall₂ SameVoucher vs ws := by
      induction hwritten with
      | nil => exact ⟨[], .nil, .nil⟩
      | @cons v d vs data hv _ ih =>
          obtain ⟨ws, hws, hsame⟩ := ih fun u hu => hreadable u (List.mem_cons_of_mem v hu)
          obtain ⟨w, hw, hw'⟩ :=
            voucher_reads (hv.1.holds laws) hv.2 (hreadable v List.mem_cons_self) []
          rw [List.append_nil] at hw
          exact ⟨w :: ws, .cons hw hws, .cons hw' hsame⟩
    obtain ⟨ws, hws, hsame⟩ := hparts
    exact ⟨ws, deserializeMany_parts hws, hsame⟩

/-- Written vouchers are all read when each can be. Every input is accounted for or reported
unless an array with an empty header stands inside, or bytes that stop the decoder. -/
theorem many_vouchers_iff (laws : ElementLaws P) :
    (∀ vs data, List.Forall₂ Written vs data → (ReadsAllOf P vs data ↔ ∀ v ∈ vs, Readable v)) ∧
      ∀ b, ConsumesAll P b ↔ ¬ HeaderlessInside P b ∧ ¬ OverrunInside P b :=
  ⟨fun _ _ => readsAllOf_iff laws, consumesAll_iff⟩

open Reference

/-- A new voucher twice in a row. -/
theorem many_vouchers_sample : ∃ (v : OwnershipVoucher (reference .release)) (data : Bytes),
    sampleBlank = .ok v ∧ v.serializeData = .ok data ∧
      ReadsAllOf (reference .release) [v, v] [data, data] := by
  have hrun : (sampleBlank >>= fun v => v.serializeData).isOk = true := by decide +kernel
  obtain ⟨data, hdata⟩ := Outcome.isOk_iff.mp hrun
  obtain ⟨v, hblank, hser⟩ := Outcome.bind_eq_ok.mp hdata
  obtain ⟨header, hsample, h₁⟩ := Outcome.bind_eq_ok.mp hblank
  obtain ⟨_, _, hnew⟩ := Outcome.bind_eq_ok.mp h₁
  obtain ⟨_, _, h₂⟩ := Outcome.bind_eq_ok.mp hsample
  obtain ⟨_, _, hheader⟩ := Outcome.bind_eq_ok.mp h₂
  have laws := elementLaws .release
  obtain ⟨hguid, hinfo, hhash, _, hholds⟩ := header_new_holds laws (sampleKey_made 1) hheader
  obtain ⟨hcached, hchain, _⟩ := voucher_new_holds laws hholds hnew
  have hreadable : Readable v :=
    ⟨by rw [hchain]; rfl, by rw [hcached]; exact ⟨by rw [hguid]; rfl, by rw [hinfo]; decide, by rw [hhash]; rfl⟩⟩
  have hheld : Held v := .new (.new (sampleKey_made 1) hheader) hnew
  refine ⟨v, data, hblank, hser, ((many_vouchers_iff laws).1 _ _ ?_).mpr (by simp [hreadable])⟩
  exact .cons ⟨hheld, hser⟩ (.cons ⟨hheld, hser⟩ .nil)

/-- An array with an empty header, and two bytes that are nothing at all. -/
def headerlessStream : Bytes := [0x85, 0x18, 0x65, 0x40, 0, 0, 0, 0xff, 0xff]

/-- The head of an array of five, and a number that is cut off. -/
def cutStream : Bytes := [0x85, 0x18]

/-- The list ends in front of the array and is returned, empty; the number stops the program. -/
theorem headerless_ends_list : ¬ ConsumesAll (reference .release) headerlessStream ∧
    ¬ ConsumesAll (reference .release) cutStream := by
  constructor
  · intro h
    have hrun : (OwnershipVoucher.deserializeMany (reference .release) headerlessStream >>=
        fun vs => .ok vs.length) = (.ok 0 : Outcome Error Nat) := by decide +kernel
    obtain ⟨vs, hmany, hlen⟩ := Outcome.bind_eq_ok.mp hrun
    obtain rfl : vs = [] := List.length_eq_zero_iff.mp (Outcome.ok.inj hlen)
    obtain ⟨parts, hb, hparts⟩ := h.whole [] hmany
    cases hparts with
    | nil => cases hb
  · intro h
    have hpanic : OwnershipVoucher.deserializeMany (reference .release) cutStream = .panic := by
      have hrun : (OwnershipVoucher.deserializeMany (reference .release) cutStream >>=
          fun vs => .ok vs.length) = (.panic : Outcome Error Nat) := by decide +kernel
      refine (Outcome.bind_eq_panic.mp hrun).resolve_right ?_
      rintro ⟨_, _, hok⟩
      cases hok
    exact ((consumesAll_iff cutStream).mp h).2 (deserializeMany_eq_panic.mp hpanic)

end VoucherStream
end FidoOnboard
