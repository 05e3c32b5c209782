import FidoOnboard.DataFormats.CborCorrect

/-!
# What `ParsedArray` writes is read back

Heads are written in the shortest form, below 2^16: from there on the buffers of
`encode_item_start` are too short for the number.
-/
namespace FidoOnboard.CborRoundTrip
open CborParser CborGrammar CborCorrect

theorem start_inline (m : MajorType) {val : Nat} (h : val ≤ 23) :
    (MajorType.toU8 m <<< 5) ||| (UInt8.ofNat val &&& maskVal) = initialByte m val := by
  have hall : ∀ n < 24, (MajorType.toU8 m <<< 5) ||| (UInt8.ofNat n &&& maskVal) = initialByte m n := by
    cases m <;> decide
  exact hall val (by omega)

theorem start_wide (m : MajorType) :
    ((MajorType.toU8 m <<< 5) ||| 24) = initialByte m 24 ∧
    ((MajorType.toU8 m <<< 5) ||| 25) = initialByte m 25 := by
  cases m <;> decide

/-- A number behind additional information that announces its width. -/
theorem head_wide {m : MajorType} {info width val : Nat} (hw : argumentWidth info = some width)
    (hv : val < 256 ^ width) : Head m val (initialByte m info :: BigEndian.toBe width val) := by
  refine ⟨info, BigEndian.toBe width val, rfl, ?_⟩
  have h : Argument info (BigEndian.fromBe (BigEndian.toBe width val)) (BigEndian.toBe width val) :=
    .wide (by rw [BigEndian.toBe_length]; exact hw)
  rwa [BigEndian.fromBe_toBe hv] at h

theorem encodeItemStart_head (m : MajorType) {val : Nat} (h : val < 2 ^ 16) :
    ∃ w, encodeItemStart m val = .ok w ∧ Head m val w := by
  obtain ⟨h24, h25⟩ := start_wide m
  unfold encodeItemStart
  dsimp only
  split_ifs with h₁ h₂ h₃ h₄
  · exact ⟨_, rfl, val, [], by rw [start_inline m h₁], .inline h₁⟩
  · refine ⟨_, rfl, ?_⟩
    have hone : BigEndian.toBe 1 val = [UInt8.ofNat val] := by simp [BigEndian.toBe]
    rw [h24, ← hone]
    exact head_wide rfl (by omega)
  · refine ⟨initialByte m 25 :: BigEndian.toBe 2 val, ?_, head_wide rfl (by omega)⟩
    simp [BigEndian.write, h25]
  · omega
  · omega

/-- The tag of an array that `serializeData` can write. -/
def TagFits (tag : Option Nat) : Prop := ∀ t ∈ tag, t < 2 ^ 16

theorem serializeData_ok {N : ParsedArraySize} {a : ParsedArray N} (htag : TagFits a.tag)
    (hlen : a.contents.length < 2 ^ 16) :
    ∃ tagHead arrayHead, a.serializeData = .ok (tagHead ++ arrayHead ++ a.contents.flatten) ∧
      TagPrefix a.tag tagHead ∧ Head .array a.contents.length arrayHead := by
  obtain ⟨arrayHead, harr, hhead⟩ := encodeItemStart_head .array hlen
  cases ht : a.tag with
  | none => exact ⟨[], arrayHead, by simp [ParsedArray.serializeData, ht, harr], .none, hhead⟩
  | some t =>
      obtain ⟨tagHead, htag', hthead⟩ := encodeItemStart_head .tag (htag t ht)
      exact ⟨tagHead, arrayHead, by simp [ParsedArray.serializeData, ht, htag', harr], .some hthead, hhead⟩

/-- Reading back gives the same tag and elements, whatever follows; the header is
remembered for arrays of a static size only. -/
theorem deserializeFromReader_serializeData {p : Profile} {N : ParsedArraySize} {a : ParsedArray N}
    {b : Bytes} (htag : TagFits a.tag) (hlen : a.contents.length < 2 ^ 16)
    (hitems : ∀ x ∈ a.contents, WellFormed (.machine p) x) (hb : a.serializeData = .ok b)
    (rest : Bytes) : ∃ header, (N.size = none → header = none) ∧
      ParsedArray.deserializeFromReader p N (b ++ rest) = .ok ({ a with header }, rest) := by
  obtain ⟨tagHead, arrayHead, hser, htp, hhead⟩ := serializeData_ok htag hlen
  obtain rfl := Outcome.ok.inj (hb.symm.trans hser)
  refine ⟨if N.size.isSome then some (tagHead ++ arrayHead) else none, fun hnone => by simp [hnone], ?_⟩
  exact deserializeFromReader_ok_iff.mpr ⟨tagHead, arrayHead, rfl, htp, hhead, rfl, hitems⟩

theorem deserializeData_serializeData {p : Profile} {N : ParsedArraySize} {a : ParsedArray N}
    {b : Bytes} (htag : TagFits a.tag) (hlen : a.contents.length < 2 ^ 16)
    (hitems : ∀ x ∈ a.contents, WellFormed (.machine p) x) (hb : a.serializeData = .ok b) :
    ∃ header, (N.size = none → header = none) ∧
      ParsedArray.deserializeData p N b = .ok { a with header } := by
  obtain ⟨header, hheader, hread⟩ := deserializeFromReader_serializeData htag hlen hitems hb []
  rw [List.append_nil] at hread
  exact ⟨header, hheader, by rw [ParsedArray.deserializeData, hread]; rfl⟩

/-- A serialized array is one well-formed item. -/
theorem wellFormed_serializeData {c : Counting} {N : ParsedArraySize} {a : ParsedArray N} {b : Bytes}
    (htag : TagFits a.tag) (hlen : a.contents.length < 2 ^ 16)
    (hitems : ∀ x ∈ a.contents, WellFormed c x) (hb : a.serializeData = .ok b) : WellFormed c b := by
  obtain ⟨tagHead, arrayHead, hser, htp, hhead⟩ := serializeData_ok htag hlen
  obtain rfl := Outcome.ok.inj (hb.symm.trans hser)
  have harr : WellFormed c (arrayHead ++ a.contents.flatten) := .array hhead rfl hitems
  rw [List.append_assoc]
  generalize a.tag = tag at htp
  cases htp with
  | none => exact harr
  | some ht => exact .tag ht harr

/-! ## What cannot be written, and what cannot be read back -/

theorem encodeItemStart_fits {m : MajorType} {val : Nat} {w : Bytes}
    (h : encodeItemStart m val = .ok w) : val < 2 ^ 16 := by
  unfold encodeItemStart at h
  dsimp only at h
  split_ifs at h with h₁ h₂ h₃ h₄
  · omega
  · omega
  · omega
  · cases h
  · cases h

theorem serializeData_fits {N : ParsedArraySize} {a : ParsedArray N} {b : Bytes}
    (h : a.serializeData = .ok b) : TagFits a.tag ∧ a.contents.length < 2 ^ 16 := by
  unfold ParsedArray.serializeData at h
  cases ht : a.tag with
  | none =>
      simp only [ht, Outcome.ok_bind] at h
      obtain ⟨_, harray, _⟩ := Outcome.bind_eq_ok.mp h
      exact ⟨by simp [TagFits], encodeItemStart_fits harray⟩
  | some t =>
      simp only [ht] at h
      obtain ⟨_, htag, h₁⟩ := Outcome.bind_eq_ok.mp h
      obtain ⟨_, harray, _⟩ := Outcome.bind_eq_ok.mp h₁
      exact ⟨by simpa [TagFits] using encodeItemStart_fits htag, encodeItemStart_fits harray⟩

/-- The tag and the head of an array are cut off a text in one way only. -/
theorem array_heads_unique {tag tag' : Option Nat} {n n' : Nat} {t t' h h' r r' : Bytes}
    (ht : TagPrefix tag t) (ht' : TagPrefix tag' t') (hh : Head .array n h)
    (hh' : Head .array n' h') (he : t ++ (h ++ r) = t' ++ (h' ++ r')) :
    tag = tag' ∧ n = n' ∧ t = t' ∧ h = h' ∧ r = r' := by
  have rest {h h' : Bytes} {n n' : Nat} (hh : Head .array n h) (hh' : Head .array n' h')
      (he : h ++ r = h' ++ r') : n = n' ∧ h = h' ∧ r = r' := by
    obtain ⟨_, rfl, rfl⟩ := hh.unique hh' he
    exact ⟨rfl, rfl, List.append_cancel_left he⟩
  cases ht with
  | none =>
      cases ht' with
      | none =>
          obtain ⟨rfl, rfl, rfl⟩ := rest hh hh' he
          exact ⟨rfl, rfl, rfl, rfl, rfl⟩
      | some hv' => exact absurd (hh.unique hv' he).1 (by decide)
  | some hv =>
      cases ht' with
      | none => exact absurd (hv.unique hh' he).1 (by decide)
      | some hv' =>
          obtain ⟨_, rfl, rfl⟩ := hv.unique hv' he
          obtain ⟨rfl, rfl, rfl⟩ := rest hh hh' (List.append_cancel_left he)
          exact ⟨rfl, rfl, rfl, rfl, rfl⟩

/-- Behind items it knows the parser comes to `null` and goes no further. -/
theorem null_not_read {p : Profile} {N : ParsedArraySize} {a : ParsedArray N} {b rest : Bytes}
    {before behind : List Bytes} (hb : a.serializeData = .ok b)
    (hcontents : a.contents = before ++ [0xf6] :: behind)
    (hbefore : ∀ x ∈ before, WellFormed (.machine p) x) (a' : ParsedArray N) (r : Bytes) :
    ParsedArray.deserializeFromReader p N (b ++ rest) ≠ .ok (a', r) := by
  intro hread
  obtain ⟨htag, hlen⟩ := serializeData_fits hb
  obtain ⟨t, h, hser, htp, hhead⟩ := serializeData_ok htag hlen
  obtain rfl := Outcome.ok.inj (hb.symm.trans hser)
  obtain ⟨t', h', he, htp', hhead', _, hitems⟩ := deserializeFromReader_ok_iff.mp hread
  simp only [List.append_assoc] at he
  obtain ⟨_, hcount, _, _, hflat⟩ := array_heads_unique htp htp' hhead hhead' he
  rw [hcontents, List.length_append, List.length_cons] at hcount
  -- as many of the items read as stand before the `null` are those items
  have hsplit : a'.contents.flatten = (a'.contents.take before.length).flatten ++
      (a'.contents.drop before.length).flatten := by
    rw [← List.flatten_append, List.take_append_drop]
  rw [hcontents, hsplit, List.flatten_append, List.append_assoc, List.append_assoc] at hflat
  have hwell : ∀ x ∈ a'.contents.take before.length, PrefixNotation.Items (Token (.machine p)) 1 x :=
    fun x hx => wellFormed_iff_items.mp (hitems x (List.mem_of_mem_take hx))
  obtain ⟨_, hbehind⟩ := PrefixNotation.flatten_unique (machine_below p) (by simp; omega)
    (fun x hx => wellFormed_iff_items.mp (hbefore x hx)) hwell hflat
  obtain ⟨x, xs, hx⟩ : ∃ x xs, a'.contents.drop before.length = x :: xs := by
    refine List.exists_cons_of_length_pos ?_
    rw [List.length_drop]
    omega
  have hmem : x ∈ a'.contents := List.mem_of_mem_drop (hx ▸ List.mem_cons_self)
  have hxwell := hitems x hmem
  refine hxwell.head_ne_null ?_
  rw [hx, List.flatten_cons, List.flatten_cons, List.append_assoc, List.append_assoc] at hbehind
  rw [← List.head?_append_of_ne_nil x hxwell.ne_nil, ← hbehind]
  rfl

end FidoOnboard.CborRoundTrip
