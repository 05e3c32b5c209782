import FidoOnboard.DataFormats.CborRoundTrip

/-!
# The codec of `ParsedArray`

An array is written and read back, and an array that was read with heads in
their shortest form is written back byte for byte, as long as the tag and the
number of elements are written at all.
-/
namespace FidoOnboard.CborRoundTrip
open CborParser CborGrammar CborCorrect

/-- The number of bytes that the shortest argument for `v` takes. -/
def shortestWidth (v : Nat) : Nat :=
  if v ≤ 23 then 0 else if v ≤ 0xff then 1 else if v ≤ 0xffff then 2 else if v ≤ 0xffffffff then 4 else 8

/-- The head has no shorter one of the same value. -/
def Shortest (v : Nat) (w : Bytes) : Prop := w.length = shortestWidth v + 1

theorem encodeItemStart_shortest {m : MajorType} {v : Nat} {w : Bytes} (h : encodeItemStart m v = .ok w) :
    Shortest v w := by
  unfold encodeItemStart at h
  dsimp only at h
  unfold Shortest shortestWidth
  split_ifs at h ⊢ with h₁ h₂ h₃ h₄
  · cases h
    rfl
  · cases h
    rfl
  · simp only [BigEndian.write, List.length_cons, List.length_nil] at h
    cases h
    simp [BigEndian.toBe_length]
  · cases h
  · cases h

theorem argumentWidth_inj {info info' n : Nat} (h : argumentWidth info = some n)
    (h' : argumentWidth info' = some n) : info = info' := by
  rw [argumentWidth_eq_some] at h h'
  omega

/-- Heads of one value and one length are the same. -/
theorem head_eq_of_length {m : MajorType} {v : Nat} {w w' : Bytes} (h : Head m v w) (h' : Head m v w')
    (hlen : w.length = w'.length) : w = w' := by
  obtain ⟨info, bs, rfl, harg⟩ := h
  obtain ⟨info', bs', rfl, harg'⟩ := h'
  simp only [List.length_cons, Nat.add_right_cancel_iff] at hlen
  have hnot : ∀ {info : Nat}, argumentWidth info ≠ some 0 := by
    intro info hinfo
    rw [argumentWidth_eq_some] at hinfo
    omega
  generalize hv : v = v' at harg'
  cases harg with
  | inline =>
      cases harg' with
      | inline => rw [hv]
      | wide hw' =>
          rw [← hlen] at hw'
          exact absurd hw' hnot
  | wide hw =>
      cases harg' with
      | inline =>
          rw [hlen] at hw
          exact absurd hw hnot
      | wide hw' =>
          rw [← hlen] at hw'
          rw [argumentWidth_inj hw hw', BigEndian.fromBe_inj hlen hv]

theorem shortest_unique {m : MajorType} {v : Nat} {w w' : Bytes} (h : Head m v w) (hs : Shortest v w)
    (h' : Head m v w') (hs' : Shortest v w') : w = w' :=
  head_eq_of_length h h' (hs.trans hs'.symm)

/-- The head of a tag, where there is one, is the shortest. -/
def ShortestTag (tag : Option Nat) (w : Bytes) : Prop := ∀ t ∈ tag, Shortest t w

/-- The numbers that `encode_item_start` can write. -/
structure Writable (tag : Option Nat) (count : Nat) : Prop where
  tag : TagFits tag
  count : count < 2 ^ 16

theorem serializeData_shortest {N : ParsedArraySize} {a : ParsedArray N} {tagHead arrayHead : Bytes}
    (hwritable : Writable a.tag a.contents.length) (htag : TagPrefix a.tag tagHead)
    (hshortTag : ShortestTag a.tag tagHead) (harray : Head .array a.contents.length arrayHead)
    (hshort : Shortest a.contents.length arrayHead) :
    a.serializeData = .ok (tagHead ++ arrayHead ++ a.contents.flatten) := by
  obtain ⟨w, hw, hhead⟩ := encodeItemStart_head .array hwritable.count
  obtain rfl := shortest_unique harray hshort hhead (encodeItemStart_shortest hw)
  cases ht : a.tag with
  | none =>
      rw [ht] at htag
      cases htag
      simp [ParsedArray.serializeData, ht, hw]
  | some t =>
      rw [ht] at htag
      cases htag with
      | some hthead =>
          obtain ⟨w', hw', hhead'⟩ := encodeItemStart_head .tag (hwritable.tag t ht)
          obtain rfl := shortest_unique hthead (hshortTag t ht) hhead' (encodeItemStart_shortest hw')
          simp [ParsedArray.serializeData, ht, hw, hw']

/-! ## The two directions -/

/-- The array is written, and read back with the same tag and elements. -/
def RoundTrips (p : Profile) {N : ParsedArraySize} (a : ParsedArray N) : Prop :=
  ∃ b a', a.serializeData = .ok b ∧ ParsedArray.deserializeData p N b = .ok a' ∧
    a'.tag = a.tag ∧ a'.contents = a.contents

/-- What was read is written back as the bytes that were consumed. -/
def WritesBack {N : ParsedArraySize} (a : ParsedArray N) (b rest : Bytes) : Prop :=
  ∃ w, a.serializeData = .ok w ∧ b = w ++ rest

theorem roundTrips_iff {p : Profile} {N : ParsedArraySize} {a : ParsedArray N}
    (hitems : ∀ x ∈ a.contents, WellFormed (.machine p) x) :
    RoundTrips p a ↔ Writable a.tag a.contents.length := by
  constructor
  · rintro ⟨b, _, hser, _⟩
    obtain ⟨htag, hlen⟩ := serializeData_fits hser
    exact ⟨htag, hlen⟩
  · rintro ⟨htag, hlen⟩
    obtain ⟨_, _, hser, _⟩ := serializeData_ok htag hlen
    obtain ⟨header, _, hread⟩ := deserializeData_serializeData htag hlen hitems hser
    exact ⟨_, _, hser, hread, rfl, rfl⟩

theorem writesBack_iff {p : Profile} {N : ParsedArraySize} {tag : Option Nat} {count : Nat}
    {tagHead arrayHead body rest : Bytes} {a : ParsedArray N} (htag : TagPrefix tag tagHead)
    (hshortTag : ShortestTag tag tagHead) (harray : Head .array count arrayHead) (hshort : Shortest count arrayHead)
    (hread : ParsedArray.deserializeFromReader p N (tagHead ++ (arrayHead ++ body)) = .ok (a, rest)) :
    WritesBack a (tagHead ++ (arrayHead ++ body)) rest ↔ Writable tag count := by
  obtain ⟨tagHead', arrayHead', hbytes, htag', harray', -, -⟩ := deserializeFromReader_ok_iff.mp hread
  rw [List.append_assoc, List.append_assoc] at hbytes
  obtain ⟨rfl, rfl, rfl, rfl, rfl⟩ := array_heads_unique htag htag' harray harray' hbytes
  constructor
  · rintro ⟨w, hser, -⟩
    obtain ⟨htagFits, hlen⟩ := serializeData_fits hser
    exact ⟨htagFits, hlen⟩
  · intro hwritable
    refine ⟨_, serializeData_shortest hwritable htag hshortTag harray hshort, ?_⟩
    simp [List.append_assoc]

/-- Both directions hold exactly for tags and counts below 2^16. -/
theorem codec_iff_writable (p : Profile) (N : ParsedArraySize) :
    (∀ a : ParsedArray N, (∀ x ∈ a.contents, WellFormed (.machine p) x) →
      (RoundTrips p a ↔ Writable a.tag a.contents.length)) ∧
    ∀ (tag : Option Nat) (count : Nat) (tagHead arrayHead body : Bytes), TagPrefix tag tagHead →
      ShortestTag tag tagHead → Head .array count arrayHead → Shortest count arrayHead →
      ∀ (a : ParsedArray N) (rest : Bytes),
        ParsedArray.deserializeFromReader p N (tagHead ++ (arrayHead ++ body)) = .ok (a, rest) →
        (WritesBack a (tagHead ++ (arrayHead ++ body)) rest ↔ Writable tag count) := by
  constructor
  · intro a hitems
    exact roundTrips_iff hitems
  · intro tag count tagHead arrayHead body htag hshortTag harray hshort a rest hread
    exact writesBack_iff htag hshortTag harray hshort hread

/-- One number under a tag. -/
def tagged (tag : Nat) : ParsedArray (.static 1 (by decide)) := ⟨some tag, none, [[0x01]], by decide⟩

theorem tagged_items (tag : Nat) : ∀ x ∈ (tagged tag).contents, WellFormed (.machine .release) x := by
  intro x hx
  rw [List.mem_singleton.mp hx]
  exact .unsigned ⟨1, [], rfl, .inline (by decide)⟩

theorem codec_tag24 :
    RoundTrips .release (tagged 24) ∧
      ∃ a, ParsedArray.deserializeFromReader .release (.static 1 (by decide)) [0xd8, 0x18, 0x81, 0x01] =
        .ok (a, []) ∧ WritesBack a [0xd8, 0x18, 0x81, 0x01] [] := by
  have hwritable : Writable (some 24) 1 := ⟨by simp [TagFits], by decide⟩
  have hread : ParsedArray.deserializeFromReader .release (.static 1 (by decide)) [0xd8, 0x18, 0x81, 0x01] =
      .ok (⟨some 24, some [0xd8, 0x18, 0x81], [[0x01]], by decide⟩, []) := by decide
  have hcodec := codec_iff_writable .release (.static 1 (by decide))
  refine ⟨(hcodec.1 (tagged 24) (tagged_items 24)).mpr hwritable, _, hread, ?_⟩
  have htag : Head .tag 24 [0xd8, 0x18] :=
    head_wide (show argumentWidth 24 = some 1 from rfl) (show 24 < 256 ^ 1 by decide)
  have harray : Head .array 1 [0x81] := ⟨1, [], rfl, .inline (by decide)⟩
  refine (hcodec.2 (some 24) 1 [0xd8, 0x18] [0x81] [0x01] (.some htag) ?_ harray rfl _ _ hread).mpr hwritable
  intro t ht
  cases ht
  rfl

/-- The buffer for a number of four bytes has three. -/
theorem codec_tag65536 :
    (tagged 65536).serializeData = .panic ∧ ¬RoundTrips .release (tagged 65536) ∧
      ∃ a, ParsedArray.deserializeFromReader .release (.static 1 (by decide)) [0xda, 0, 1, 0, 0, 0x81, 0x01] =
        .ok (a, []) ∧ ¬WritesBack a [0xda, 0, 1, 0, 0, 0x81, 0x01] [] := by
  have hpanic : (tagged 65536).serializeData = .panic := by decide
  refine ⟨hpanic, ?_, ?_⟩
  · rintro ⟨b, _, hser, _⟩
    rw [hpanic] at hser
    cases hser
  · have hread : ParsedArray.deserializeFromReader .release (.static 1 (by decide))
        [0xda, 0, 1, 0, 0, 0x81, 0x01] =
        .ok (⟨some 65536, some [0xda, 0, 1, 0, 0, 0x81], [[0x01]], by decide⟩, []) := by decide
    refine ⟨_, hread, ?_⟩
    rintro ⟨w, hser, -⟩
    change (tagged 65536).serializeData = .ok w at hser
    rw [hpanic] at hser
    cases hser

end FidoOnboard.CborRoundTrip
