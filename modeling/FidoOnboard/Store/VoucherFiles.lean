import FidoOnboard.Base.Base64
import FidoOnboard.DataFormats.VoucherStream
import FidoOnboard.Store.Database

/-!
# Voucher files

A voucher is kept as its CBOR or as PEM text around it, and `from_pem_or_raw` tells
the two apart by the first two bytes.
-/
namespace FidoOnboard
open CborParser CborGrammar CborPanics CborRoundTrip VoucherChain

def voucherPemTag : String := "OWNERSHIP VOUCHER"

/-- The `pem` crate. What it has encoded is read back, and starts with hyphens. -/
structure PemCrate where
  parse : Bytes → Option (String × Bytes)
  encode : String → Bytes → Bytes
  parse_encode : ∀ contents, parse (encode voucherPemTag contents) = some (voucherPemTag, contents)
  encode_start : ∀ contents, ∃ rest, encode voucherPemTag contents = 0x2d :: 0x2d :: rest

namespace OwnershipVoucher

variable {P : Platform}

def fromPem (pem : PemCrate) (data : Bytes) : Outcome Error (OwnershipVoucher P) :=
  if data = [] then .err .emptyData
  else
    match pem.parse data with
    | none => .err .pemError
    | some (tag, contents) =>
      if tag ≠ voucherPemTag then .err (.invalidPemTag tag) else deserializeData P contents

def toPem (pem : PemCrate) (v : OwnershipVoucher P) : Outcome Error Bytes := do
  let data ← v.serializeData
  .ok (pem.encode voucherPemTag data)

/-! ## Files that load -/

/-- Where the first two bytes send a file, it stops the decoder, or there are no two bytes. -/
inductive Stops (P : Platform) (pem : PemCrate) : Bytes → Prop
  | single (b : UInt8) : Stops P pem [b]
  | text {rest contents : Bytes} : pem.parse (0x2d :: 0x2d :: rest) = some (voucherPemTag, contents) →
      Overruns P contents → Stops P pem (0x2d :: 0x2d :: rest)
  | raw {a b : UInt8} {rest : Bytes} : ¬ (a = b ∧ a = 0x2d) → Overruns P (a :: b :: rest) →
      Stops P pem (a :: b :: rest)

theorem fromPem_panic_iff {pem : PemCrate} {data : Bytes} (hdata : data ≠ []) :
    fromPem (P := P) pem data = .panic ↔
      ∃ contents, pem.parse data = some (voucherPemTag, contents) ∧ Overruns P contents := by
  rw [fromPem, if_neg hdata]
  cases hparse : pem.parse data with
  | none => exact iff_of_false nofun nofun
  | some block =>
      rcases block with ⟨tag, contents⟩
      by_cases htag : tag = voucherPemTag
      case pos =>
        subst htag
        simp only [ne_eq, not_true_eq_false, if_false, voucher_panic_iff, Option.some.injEq, Prod.mk.injEq,
          true_and, exists_eq_left']
      case neg =>
        simp only [ne_eq, htag, not_false_eq_true, if_true, Option.some.injEq, Prod.mk.injEq, false_and,
          exists_false, iff_false]
        exact nofun

theorem fromPemOrRaw_panic_iff {pem : PemCrate} {data : Bytes} :
    Stores.fromPemOrRaw P (fromPem pem) data = .panic ↔ Stops P pem data := by
  match data with
  | [] => exact iff_of_false nofun nofun
  | [b] => exact iff_of_true rfl (.single b)
  | a :: b :: rest =>
      rw [Stores.fromPemOrRaw]
      by_cases hpem : a = b ∧ a = 0x2d
      case pos =>
        rw [if_pos hpem, fromPem_panic_iff (List.cons_ne_nil a _)]
        rcases hpem with ⟨rfl, rfl⟩
        constructor
        · rintro ⟨contents, hparse, hover⟩
          exact .text hparse hover
        · intro hstops
          cases hstops with
          | text hparse hover => exact ⟨_, hparse, hover⟩
          | raw hnot => exact absurd ⟨rfl, rfl⟩ hnot
      case neg =>
        rw [if_neg hpem, voucher_panic_iff]
        constructor
        · exact .raw hpem
        · intro hstops
          cases hstops with
          | text => exact absurd ⟨rfl, rfl⟩ hpem
          | raw _ hover => exact hover

/-! ## Vouchers written in either form -/

/-- The file loads as a voucher that is written as `v` is. -/
def LoadsAs (pem : PemCrate) (v : OwnershipVoucher P) (file : Outcome Error Bytes) : Prop :=
  ∃ data v' bytes, file = .ok data ∧ Stores.fromPemOrRaw P (fromPem pem) data = .ok v' ∧
    v.serializeData = .ok bytes ∧ v'.serializeData = .ok bytes

/-- What was read as a voucher is written whenever its tag can be, and is read again. -/
theorem deserializeData_again {data : Bytes} {v : OwnershipVoucher P} (h : deserializeData P data = .ok v)
    (htag : TagFits v.contents.tag) : ∃ bytes v', v.serializeData = .ok bytes ∧
      deserializeData P bytes = .ok v' ∧ v'.serializeData = .ok bytes := by
  rcases deserializeData_eq_ok.mp h with ⟨rest, hreader⟩
  rcases deserializeFromReader_eq_ok.mp hreader with ⟨contents, hread, hof⟩
  have hitems : ∀ x ∈ contents.contents, WellFormed (.machine P.profile) x :=
    VoucherRoundTrip.deserializeData_items (array_eq_ok_iff.mpr ⟨rest, hread⟩)
  have hcontents : v.contents = contents := (fromParsedArray_eq_ok.mp hof).1
  rw [hcontents] at htag
  have hlen : contents.contents.length < 2 ^ 16 := by
    rw [contents.sized 5 rfl]
    decide
  rcases serializeData_ok htag hlen with ⟨tagHead, arrayHead, hser, -, -⟩
  rcases deserializeData_serializeData htag hlen hitems hser with ⟨head, -, hback⟩
  -- the elements are the same ones, only the bytes they were headed by differ
  have hagain : fromParsedArray P { contents with header := head } =
      .ok { v with contents := { contents with header := head } } := by
    rcases fromParsedArray_eq_ok.mp hof with ⟨-, hfields⟩
    exact fromParsedArray_eq_ok.mpr ⟨rfl, hfields⟩
  refine ⟨_, { v with contents := { contents with header := head } }, ?_, ?_, hser⟩
  · rw [serializeData, hcontents, hser]
  · simp only [deserializeData, hback]
    exact hagain

theorem loads_iff (pem : PemCrate) {data : Bytes} {v : OwnershipVoucher P}
    (h : deserializeData P data = .ok v) :
    LoadsAs pem v v.serializeData ∧ LoadsAs pem v (v.toPem pem) ↔ TagFits v.contents.tag := by
  constructor
  · rintro ⟨⟨_, _, bytes, -, -, hser, -⟩, -⟩
    exact (serializeData_fits hser).1
  · intro htag
    rcases deserializeData_again h htag with ⟨bytes, v', hser, hback, hsame⟩
    refine ⟨⟨bytes, v', bytes, hser, Stores.fromPemOrRaw_eq_ok hback, hser, hsame⟩, ?_⟩
    refine ⟨pem.encode voucherPemTag bytes, v', bytes, ?_, ?_, hser, hsame⟩
    · rw [toPem, hser, Outcome.ok_bind]
    · rcases pem.encode_start bytes with ⟨rest, hstart⟩
      have hparse := pem.parse_encode bytes
      rw [hstart] at hparse ⊢
      rw [Stores.fromPemOrRaw, if_pos ⟨rfl, rfl⟩, fromPem, if_neg (fun h => by cases h), hparse]
      simp only [ne_eq, not_true_eq_false, if_false]
      exact hback

/-- A file is loaded or refused unless it stops the decoder, and what was read as a voucher
loads from either form it is written in whenever its tag can be written. -/
theorem files_load_iff (pem : PemCrate) (data : Bytes) :
    (Stores.fromPemOrRaw P (fromPem pem) data ≠ .panic ↔ ¬ Stops P pem data) ∧
      ∀ v : OwnershipVoucher P, deserializeData P data = .ok v →
        (LoadsAs pem v v.serializeData ∧ LoadsAs pem v (v.toPem pem) ↔ TagFits v.contents.tag) := by
  constructor
  · exact not_congr fromPemOrRaw_panic_iff
  · intro v hv
    exact loads_iff pem hv

/-! ## The text of a PEM block -/

def opening (tag : String) : Bytes :=
  Base64.ascii "-----BEGIN " ++ (Base64.ascii tag ++ Base64.ascii "-----\r\n")

def closing (tag : String) : Bytes :=
  Base64.ascii "-----END " ++ (Base64.ascii tag ++ Base64.ascii "-----\r\n")

def pemEncode (tag : String) (contents : Bytes) : Bytes :=
  opening tag ++ (Base64.wrap 64 64 (Base64.encode contents) ++ closing tag)

/-- One block of vouchers, without headers. -/
def pemParse (data : Bytes) : Option (String × Bytes) :=
  if opening voucherPemTag <+: data then
    let block := data.drop (opening voucherPemTag).length
    if block.dropWhile (· != 0x2d) = closing voucherPemTag then
      (Base64.decode (Base64.unwrap (block.takeWhile (· != 0x2d)))).map (voucherPemTag, ·)
    else none
  else none

theorem pemParse_pemEncode (contents : Bytes) :
    pemParse (pemEncode voucherPemTag contents) = some (voucherPemTag, contents) := by
  have hplain : ∀ c ∈ Base64.encode contents, c ∉ Base64.crlf ∧ c ≠ 0x2d := fun c hc => Base64.encode_plain hc
  have hbody : ∀ c ∈ Base64.wrap 64 64 (Base64.encode contents), (c != 0x2d) = true := by
    intro c hc
    rw [bne_iff_ne]
    rcases Base64.wrap_mem hc with hc | hc
    · exact (hplain c hc).2
    · rintro rfl
      exact absurd hc (by decide)
  have hclosing : ∃ rest, closing voucherPemTag = 0x2d :: rest := ⟨_, rfl⟩
  rcases hclosing with ⟨rest, hrest⟩
  unfold pemParse pemEncode
  rw [if_pos (List.prefix_append _ _)]
  simp only [List.drop_left, List.takeWhile_append_of_pos hbody, List.dropWhile_append_of_pos hbody, hrest,
    List.takeWhile_cons, List.dropWhile_cons, bne_self_eq_false, Bool.false_eq_true, if_false, if_true,
    List.append_nil, Base64.unwrap_wrap 64 fun c hc => (hplain c hc).1, Base64.decode_encode, Option.map_some]

def referencePem : PemCrate where
  parse := pemParse
  encode := pemEncode
  parse_encode := pemParse_pemEncode
  encode_start _ := ⟨_, rfl⟩

open Reference

/-- A sample voucher written and read again. -/
def sampleRead : Outcome Error (Bytes × OwnershipVoucher (reference .release)) := do
  let v ← sampleBlank
  let data ← v.serializeData
  let read ← deserializeData (reference .release) data
  .ok (data, read)

theorem files_load_sample : ∃ data v, deserializeData (reference .release) data = .ok v ∧
    ¬ Stops (reference .release) referencePem data ∧
      LoadsAs referencePem v v.serializeData ∧ LoadsAs referencePem v (v.toPem referencePem) := by
  have hrun : (sampleRead >>= fun read => .ok read.2.contents.tag) = .ok none := by decide +kernel
  rcases Outcome.bind_eq_ok.mp hrun with ⟨read, hsample, htag⟩
  rcases Outcome.bind_eq_ok.mp hsample with ⟨_, -, h₁⟩
  rcases Outcome.bind_eq_ok.mp h₁ with ⟨data, -, h₂⟩
  rcases Outcome.bind_eq_ok.mp h₂ with ⟨v, hread, h₃⟩
  cases h₃
  have hfiles := files_load_iff (P := reference .release) referencePem data
  refine ⟨data, v, hread, hfiles.1.mp ?_, (hfiles.2 v hread).mpr ?_⟩
  · rw [Stores.fromPemOrRaw_eq_ok hread]
    exact nofun
  · intro t ht
    rw [Outcome.ok.inj htag] at ht
    exact absurd ht nofun

/-- The second byte is looked at before there is one. -/
theorem single_byte_stops :
    Stores.fromPemOrRaw (reference .release) (fromPem referencePem) [0x2d] = .panic := rfl

end OwnershipVoucher

end FidoOnboard
