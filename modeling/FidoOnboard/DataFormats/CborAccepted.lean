import FidoOnboard.DataFormats.CborRoundTrip
import FidoOnboard.DataFormats.OwnershipVoucher

/-!
# Items that have been read once

An item inside an accepted array is well formed, so reading it as an array of
its own ends with the array or with an error.
-/
namespace FidoOnboard.CborCorrect
open CborParser CborGrammar

/-- Behind its heads an array is read element by element. -/
theorem deserializeFromReader_heads (p : Profile) (N : ParsedArraySize) {tag : Option Nat} {n : Nat}
    {tagHead arrayHead : Bytes} (htag : TagPrefix tag tagHead) (hhead : Head .array n arrayHead) (rest : Bytes) :
    ∃ headerBuf, ParsedArray.deserializeFromReader p N (tagHead ++ (arrayHead ++ rest)) =
      ParsedArray.readSized p N tag headerBuf n rest := by
  obtain ⟨info, bs, rfl, _⟩ := id hhead
  obtain ⟨hm, harg⟩ := head_cons_iff.mp hhead
  have hread : readTag (tagHead ++ initialByte .array info :: (bs ++ rest)) =
      .ok (tag, tagHead ++ [initialByte .array info], initialByte .array info, bs ++ rest) :=
    readTag_ok_iff.mpr ⟨tagHead, rfl, rfl, htag, fun _ => hm⟩
  have hlen : readLen (bs ++ rest) (initialByte .array info) = .ok (n, bs, rest) := readLen_ok_iff.mpr ⟨rfl, harg⟩
  refine ⟨tagHead ++ [initialByte .array info] ++ bs, ?_⟩
  simp [ParsedArray.deserializeFromReader, hread, hm, hlen]

/-- An array under at most one tag is read, or has the wrong number of elements. -/
theorem array_ne_panic {p : Profile} {N : ParsedArraySize} {tag : Option Nat} {tagHead arrayHead : Bytes}
    {xs : List Bytes} (htag : TagPrefix tag tagHead) (hhead : Head .array xs.length arrayHead)
    (hitems : ∀ x ∈ xs, WellFormed (.machine p) x) :
    ParsedArray.deserializeFromReader p N (tagHead ++ (arrayHead ++ xs.flatten)) ≠ .panic := by
  by_cases hsized : N.Sized xs
  case pos =>
    have hread : ParsedArray.deserializeFromReader p N (tagHead ++ (arrayHead ++ xs.flatten)) = .ok
        (⟨tag, if N.size.isSome then some (tagHead ++ arrayHead) else none, xs, hsized⟩, []) :=
      deserializeFromReader_ok_iff.mpr ⟨tagHead, arrayHead, by simp, htag, hhead, rfl, hitems⟩
    rw [hread]
    exact fun h => by cases h
  case neg =>
    obtain ⟨headerBuf, hread⟩ := deserializeFromReader_heads p N htag hhead xs.flatten
    rw [hread, ParsedArray.readSized]
    split
    case h_1 expected hsize =>
      have hother : xs.length ≠ expected := by
        intro heq
        refine hsized fun n hn => ?_
        rw [hsize] at hn
        exact heq.trans (Option.some.inj hn)
      rw [if_pos hother]
      exact fun h => by cases h
    case h_2 hsize => exact absurd (ParsedArraySize.sized_of_none hsize xs) hsized

/-- What does not begin an array is refused at its first byte. -/
theorem other_ne_panic {p : Profile} {N : ParsedArraySize} {m : MajorType} {v : Nat} {w : Bytes} (hw : Head m v w)
    (harray : m ≠ .array) (htag : m ≠ .tag) (rest : Bytes) :
    ParsedArray.deserializeFromReader p N (w ++ rest) ≠ .panic := by
  obtain ⟨info, bs, rfl, _⟩ := id hw
  have hm := (head_cons_iff.mp hw).1
  have hrefused : readTag (initialByte m info :: bs ++ rest) = .err (.arrayParseError (.invalidTopLevelType m)) := by
    rw [List.cons_append, readTag, hm, Outcome.ok_bind]
    cases m with
    | array => exact absurd rfl harray
    | tag => exact absurd rfl htag
    | unsigned | negative | byteString | textString | map | special => rfl
  rw [ParsedArray.deserializeFromReader, hrefused]
  exact fun h => by cases h

theorem tagged_ne_panic {p : Profile} {N : ParsedArraySize} {m : MajorType} {v v' : Nat} {w w' : Bytes}
    (htag : Head .tag v w) (hw : Head m v' w') (harray : m ≠ .array) (rest : Bytes) :
    ParsedArray.deserializeFromReader p N (w ++ (w' ++ rest)) ≠ .panic := by
  obtain ⟨info, bs, rfl, _⟩ := id hw
  have hm := (head_cons_iff.mp hw).1
  have hread : readTag (w ++ (initialByte m info :: bs ++ rest)) =
      .ok (some v, w ++ [initialByte m info], initialByte m info, bs ++ rest) :=
    readTag_ok_iff.mpr ⟨w, rfl, rfl, .some htag, fun h => by cases h⟩
  rw [ParsedArray.deserializeFromReader, hread]
  simp [hm, harray]

theorem wellFormed_ne_panic {p : Profile} {x : Bytes} (h : WellFormed (.machine p) x) (N : ParsedArraySize) :
    ParsedArray.deserializeFromReader p N x ≠ .panic := by
  cases h with
  | unsigned hw => simpa using other_ne_panic hw (by decide) (by decide) []
  | negative hw => simpa using other_ne_panic hw (by decide) (by decide) []
  | byteString hw => exact other_ne_panic hw (by decide) (by decide) _
  | textString hw => exact other_ne_panic hw (by decide) (by decide) _
  | map hw => exact other_ne_panic hw (by decide) (by decide) _
  | array hw hlen hitems =>
      subst hlen
      exact array_ne_panic .none hw hitems
  | tag htag hx =>
      cases hx with
      | unsigned hw => simpa using tagged_ne_panic htag hw (by decide) []
      | negative hw => simpa using tagged_ne_panic htag hw (by decide) []
      | byteString hw => exact tagged_ne_panic htag hw (by decide) _
      | textString hw => exact tagged_ne_panic htag hw (by decide) _
      | map hw => exact tagged_ne_panic htag hw (by decide) _
      | tag hw => exact tagged_ne_panic htag hw (by decide) _
      | array hw hlen hitems =>
          subst hlen
          exact array_ne_panic (.some htag) hw hitems

end FidoOnboard.CborCorrect

namespace FidoOnboard
open CborParser CborGrammar CborCorrect

/-! ## Elements of a voucher -/

theorem getRaw_of_lt {N : ParsedArraySize} {a : ParsedArray N} {n : Nat} (h : n < a.contents.length) :
    ∃ raw ∈ a.contents, a.getRaw n = .ok raw := by
  refine ⟨a.contents[n], List.getElem_mem h, ?_⟩
  rw [ParsedArray.getRaw, List.getElem?_eq_getElem h]

theorem get_ne_panic {N : ParsedArraySize} {α : Type} {decode : Bytes → Outcome Error α} {a : ParsedArray N}
    {n : Nat} (h : n < a.contents.length) (hdecode : ∀ raw ∈ a.contents, decode raw ≠ .panic) :
    a.get decode n ≠ .panic := by
  obtain ⟨raw, hmem, hraw⟩ := getRaw_of_lt h
  rw [ParsedArray.get, hraw]
  exact hdecode raw hmem

/-- A signed token inside an accepted array is read or refused. -/
theorem COSESign.deserializeData_ne_panic {P : Platform} {data : Bytes} (h : WellFormed (.machine P.profile) data) :
    COSESign.deserializeData P data ≠ .panic := by
  have harray : ParsedArray.deserializeData P.profile size4 data ≠ .panic :=
    Outcome.bind_ne_panic (wellFormed_ne_panic h size4) fun _ _ hok => by cases hok
  refine Outcome.bind_ne_panic harray fun array _ => ?_
  unfold COSESign.ofArray
  split
  case isTrue =>
    split
    · exact fun hpanic => by cases hpanic
    · exact fun hpanic => by cases hpanic
  case isFalse htag =>
    -- A tag and a length that both fit in the initial byte are always written.
    have htagged : CborRoundTrip.TagFits array.tag := by
      intro t ht
      rw [Decidable.not_not.mp htag] at ht
      cases ht
      decide
    have hfour : array.contents.length < 2 ^ 16 := by
      rw [array.sized 4 rfl]
      decide
    obtain ⟨_, _, hwritten, _⟩ := CborRoundTrip.serializeData_ok htagged hfour
    refine Outcome.bind_ne_panic (fun hpanic => by cases hwritten.symm.trans hpanic) fun bytes _ => ?_
    exact Outcome.bind_ne_panic (Outcome.ofOption_ne_panic _ _) fun _ _ hok => by cases hok

namespace OwnershipVoucher

variable {P : Platform} {data : Bytes} {v : OwnershipVoucher P}

theorem entries_wellFormed (h : deserializeData P data = .ok v) :
    ∀ x ∈ v.cachedEntries.contents, WellFormed (.machine P.profile) x := by
  obtain ⟨rest, hread⟩ := deserializeData_eq_ok.mp h
  obtain ⟨contents, -, hof⟩ := deserializeFromReader_eq_ok.mp hread
  obtain ⟨-, -, -, -, -, hentries⟩ := fromParsedArray_eq_ok.mp hof
  obtain ⟨raw, -, hraw⟩ := Outcome.bind_eq_ok.mp hentries
  obtain ⟨⟨a, left⟩, ha, hsame⟩ := Outcome.bind_eq_ok.mp hraw
  obtain rfl := Outcome.ok.inj hsame
  obtain ⟨-, -, -, -, -, -, hitems⟩ := deserializeFromReader_ok_iff.mp ha
  exact hitems

/-- An entry that a received voucher has is read or refused. -/
theorem entry_ne_panic (h : deserializeData P data = .ok v) {n : Nat} (hn : n < v.cachedEntries.len) :
    v.entry n ≠ .panic :=
  get_ne_panic hn fun raw hraw => COSESign.deserializeData_ne_panic (entries_wellFormed h raw hraw)

end OwnershipVoucher

end FidoOnboard
