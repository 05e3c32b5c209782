import FidoOnboard.Base.BigEndian

/-!
# Writers and the readers that undo them

A reader returns what it did not need, so that codecs compose. Heads are those
of CBOR, written in the shortest form and read in any width.
-/
namespace FidoOnboard

structure Wire (α : Type) where
  write : α → Bytes
  read : Bytes → Option (α × Bytes)

namespace Wire

variable {α β : Type}

/-- What was written is read back, whatever stands behind it. -/
def ReadsBack (c : Wire α) (a : α) : Prop :=
  ∀ rest, c.read (c.write a ++ rest) = some (a, rest)

/-- Reads the whole input or nothing. -/
def fromSlice (c : Wire α) (data : Bytes) : Option α :=
  match c.read data with
  | some (a, []) => some a
  | _ => none

theorem ReadsBack.fromSlice {c : Wire α} {a : α} (h : c.ReadsBack a) :
    c.fromSlice (c.write a) = some a := by
  have := h []
  rw [List.append_nil] at this
  simp [Wire.fromSlice, this]

def seq (c : Wire α) (d : Wire β) : Wire (α × β) where
  write := fun (a, b) => c.write a ++ d.write b
  read data := do
    let (a, data) ← c.read data
    let (b, data) ← d.read data
    some ((a, b), data)

theorem ReadsBack.seq {c : Wire α} {d : Wire β} {a : α} {b : β} (ha : c.ReadsBack a)
    (hb : d.ReadsBack b) : (c.seq d).ReadsBack (a, b) := by
  intro rest
  simp [Wire.seq, List.append_assoc, ha (d.write b ++ rest), hb rest]

/-- The same bytes at another type. -/
def via (c : Wire α) (f : β → α) (g : α → Option β) : Wire β where
  write b := c.write (f b)
  read data := do
    let (a, data) ← c.read data
    let b ← g a
    some (b, data)

theorem ReadsBack.via {c : Wire α} {f : β → α} {g : α → Option β} {b : β}
    (h : c.ReadsBack (f b)) (hg : g (f b) = some b) : (c.via f g).ReadsBack b := by
  intro rest
  simp [Wire.via, h rest, hg]

/-- Fixed bytes in front. -/
def framed (frame : Bytes) (c : Wire α) : Wire α where
  write a := frame ++ c.write a
  read data := if frame.isPrefixOf data then c.read (data.drop frame.length) else none

theorem ReadsBack.framed {frame : Bytes} {c : Wire α} {a : α} (h : c.ReadsBack a) :
    (c.framed frame).ReadsBack a := by
  intro rest
  simp [Wire.framed, List.append_assoc, h rest]

/-- One byte stands for the absent value. -/
def optional (absent : UInt8) (c : Wire α) : Wire (Option α) where
  write
    | none => [absent]
    | some a => c.write a
  read data :=
    if data.head? = some absent then some (none, data.tail)
    else do
      let (a, data) ← c.read data
      some (some a, data)

theorem readsBack_none {absent : UInt8} {c : Wire α} : (c.optional absent).ReadsBack none := by
  intro rest
  simp [optional]

theorem ReadsBack.present {absent : UInt8} {c : Wire α} {a : α} (h : c.ReadsBack a)
    (hne : c.write a ≠ []) (habsent : (c.write a).head? ≠ some absent) :
    (c.optional absent).ReadsBack (some a) := by
  intro rest
  have hhead : (c.write a ++ rest).head? ≠ some absent := by
    rwa [List.head?_append_of_ne_nil _ hne]
  simp only [optional, if_neg hhead, h rest, Option.bind_eq_bind, Option.bind_some]

/-! ## Heads -/

/-- The additional information in front of the argument `n`. -/
def info (n : Nat) : Nat :=
  if n ≤ 23 then n else if n < 2 ^ 8 then 24 else if n < 2 ^ 16 then 25 else if n < 2 ^ 32 then 26 else 27

def width : Nat → Nat
  | 24 => 1
  | 25 => 2
  | 26 => 4
  | 27 => 8
  | _ => 0

def readArgument (i : Nat) (data : Bytes) : Option (Nat × Bytes) :=
  if 27 < i then none
  else if width i = 0 then some (i, data)
  else if width i ≤ data.length then
    some (BigEndian.fromBe (data.take (width i)), data.drop (width i))
  else none

def head (major : Nat) : Wire Nat where
  write n := UInt8.ofNat (32 * major + info n) :: BigEndian.toBe (width (info n)) n
  read
    | [] => none
    | b :: data => if b.toNat / 32 = major then readArgument (b.toNat % 32) data else none

theorem info_le {n : Nat} : info n ≤ 27 := by
  unfold info
  split_ifs <;> omega

/-- Either the argument is the information itself or it fits in the bytes behind it. -/
theorem width_info {n : Nat} (h : n < 2 ^ 64) :
    (width (info n) = 0 ∧ info n = n ∧ n ≤ 23) ∨ (width (info n) ≠ 0 ∧ n < 256 ^ width (info n)) := by
  unfold info
  split_ifs with h₁ h₂ h₃ h₄
  · refine .inl ⟨?_, rfl, h₁⟩
    unfold width
    split <;> omega
  all_goals exact .inr ⟨by decide, by simp only [width]; omega⟩

theorem readArgument_toBe {n : Nat} (h : n < 2 ^ 64) (rest : Bytes) :
    readArgument (info n) (BigEndian.toBe (width (info n)) n ++ rest) = some (n, rest) := by
  have hle := @info_le n
  unfold readArgument
  rw [if_neg (by omega)]
  rcases width_info h with ⟨hw, hi, _⟩ | ⟨hw, hlt⟩
  · rw [if_pos hw, hw]
    simp [BigEndian.toBe, hi]
  · rw [if_neg hw, if_pos (by simp), List.take_left' (BigEndian.toBe_length _ _),
      List.drop_left' (BigEndian.toBe_length _ _), BigEndian.fromBe_toBe hlt]

theorem readsBack_head {major n : Nat} (hm : major < 8) (hn : n < 2 ^ 64) :
    (head major).ReadsBack n := by
  intro rest
  have hle := @info_le n
  have hb : (UInt8.ofNat (32 * major + info n)).toNat = 32 * major + info n := by
    rw [UInt8.toNat_ofNat']
    omega
  simp only [head, List.cons_append, hb]
  rw [if_pos (by omega), show (32 * major + info n) % 32 = info n by omega]
  exact readArgument_toBe hn rest

theorem head_other {major major' n : Nat} (hm : major < 8) (hne : major ≠ major') (rest : Bytes) :
    (head major').read ((head major).write n ++ rest) = none := by
  have hle := @info_le n
  have hb : (UInt8.ofNat (32 * major + info n)).toNat = 32 * major + info n := by
    rw [UInt8.toNat_ofNat']
    omega
  simp only [head, List.cons_append, hb]
  rw [if_neg (by omega)]

/-- A string of the given major type. -/
def string (major : Nat) : Wire Bytes where
  write bs := (head major).write bs.length ++ bs
  read data := do
    let (n, data) ← (head major).read data
    if n ≤ data.length then some (data.take n, data.drop n) else none

theorem readsBack_string {major : Nat} {bs : Bytes} (hm : major < 8) (hn : bs.length < 2 ^ 64) :
    (string major).ReadsBack bs := by
  intro rest
  simp [string, List.append_assoc, readsBack_head hm hn (bs ++ rest)]

/-- Non-negative numbers under major type 0, negative ones under major type 1. -/
def int : Wire Int where
  write
    | .ofNat n => (head 0).write n
    | .negSucc n => (head 1).write n
  read data :=
    match (head 0).read data with
    | some (n, data) => some (.ofNat n, data)
    | none => do
      let (n, data) ← (head 1).read data
      some (.negSucc n, data)

theorem readsBack_ofNat {n : Nat} (hn : n < 2 ^ 64) : int.ReadsBack (.ofNat n) := by
  intro rest
  have h := readsBack_head (show (0 : Nat) < 8 by decide) hn rest
  simp only [int, h]

theorem readsBack_negSucc {n : Nat} (hn : n < 2 ^ 64) : int.ReadsBack (.negSucc n) := by
  intro rest
  have h := readsBack_head (show (1 : Nat) < 8 by decide) hn rest
  have h0 : (head 0).read ((head 1).write n ++ rest) = none := head_other (by decide) (by decide) rest
  simp only [int, h0, h, Option.bind_eq_bind, Option.bind_some]

/-! ## Counted sequences -/

def readTimes (c : Wire α) : Nat → Bytes → Option (List α × Bytes)
  | 0, data => some ([], data)
  | n + 1, data => do
    let (a, data) ← c.read data
    let (as, data) ← readTimes c n data
    some (a :: as, data)

/-- A head with the number of elements, then the elements. -/
def counted (major : Nat) (c : Wire α) : Wire (List α) where
  write as := (head major).write as.length ++ as.flatMap c.write
  read data := do
    let (n, data) ← (head major).read data
    readTimes c n data

theorem readTimes_flatMap {c : Wire α} {as : List α} (h : ∀ a ∈ as, c.ReadsBack a) (rest : Bytes) :
    readTimes c as.length (as.flatMap c.write ++ rest) = some (as, rest) := by
  induction as with
  | nil => rfl
  | cons a as ih =>
      have ha := h a List.mem_cons_self (as.flatMap c.write ++ rest)
      simp [readTimes, List.append_assoc, ha, ih fun b hb => h b (List.mem_cons_of_mem a hb)]

theorem readsBack_counted {major : Nat} {c : Wire α} {as : List α} (hm : major < 8)
    (hn : as.length < 2 ^ 64) (h : ∀ a ∈ as, c.ReadsBack a) : (counted major c).ReadsBack as := by
  intro rest
  simp [counted, List.append_assoc, readsBack_head hm hn (as.flatMap c.write ++ rest),
    readTimes_flatMap h]

/-! ## Values that are written and not read -/

/-- What was written is refused, whatever stands behind it. -/
def Refuses (c : Wire α) (a : α) : Prop := ∀ rest, c.read (c.write a ++ rest) = none

theorem Refuses.fromSlice {c : Wire α} {a : α} (h : c.Refuses a) : c.fromSlice (c.write a) = none := by
  have hread := h []
  rw [List.append_nil] at hread
  simp only [Wire.fromSlice, hread]

theorem Refuses.seq_left {c : Wire α} {a : α} (h : c.Refuses a) (d : Wire β) (b : β) :
    (c.seq d).Refuses (a, b) := by
  intro rest
  simp only [Wire.seq, List.append_assoc, h (d.write b ++ rest), Option.bind_eq_bind, Option.bind_none]

theorem Refuses.seq_right {c : Wire α} {d : Wire β} {a : α} {b : β} (ha : c.ReadsBack a)
    (hb : d.Refuses b) : (c.seq d).Refuses (a, b) := by
  intro rest
  simp only [Wire.seq, List.append_assoc, ha (d.write b ++ rest), hb rest, Option.bind_eq_bind,
    Option.bind_some, Option.bind_none]

theorem Refuses.via {c : Wire α} {f : β → α} {g : α → Option β} {b : β} (h : c.Refuses (f b)) :
    (c.via f g).Refuses b := by
  intro rest
  simp only [Wire.via, h rest, Option.bind_eq_bind, Option.bind_none]

theorem Refuses.framed {frame : Bytes} {c : Wire α} {a : α} (h : c.Refuses a) :
    (c.framed frame).Refuses a := by
  intro rest
  simp [Wire.framed, List.append_assoc, h rest]

theorem Refuses.present {absent : UInt8} {c : Wire α} {a : α} (h : c.Refuses a)
    (hne : c.write a ≠ []) (habsent : (c.write a).head? ≠ some absent) :
    (c.optional absent).Refuses (some a) := by
  intro rest
  have hhead : (c.write a ++ rest).head? ≠ some absent := by
    rwa [List.head?_append_of_ne_nil _ hne]
  simp only [optional, if_neg hhead, h rest, Option.bind_eq_bind, Option.bind_none]

/-- One refused element is enough, wherever it stands. -/
theorem readTimes_refuses {c : Wire α} {as : List α} (h : ∀ a ∈ as, c.ReadsBack a ∨ c.Refuses a)
    (hone : ∃ a ∈ as, c.Refuses a) (rest : Bytes) :
    readTimes c as.length (as.flatMap c.write ++ rest) = none := by
  induction as with
  | nil =>
      rcases hone with ⟨a, ha, -⟩
      exact absurd ha List.not_mem_nil
  | cons a as ih =>
      have hbehind : ∀ b ∈ as, c.ReadsBack b ∨ c.Refuses b := fun b hb => h b (List.mem_cons_of_mem a hb)
      simp only [List.length_cons, readTimes, List.flatMap_cons, List.append_assoc]
      rcases hone with ⟨b, hb, hrefuses⟩
      rcases List.mem_cons.mp hb with rfl | hb
      · simp [hrefuses (as.flatMap c.write ++ rest)]
      · rcases h a List.mem_cons_self with hreads | hfirst
        · simp [hreads (as.flatMap c.write ++ rest), ih hbehind ⟨b, hb, hrefuses⟩]
        · simp [hfirst (as.flatMap c.write ++ rest)]

theorem refuses_counted {major : Nat} {c : Wire α} {as : List α} (hm : major < 8)
    (hn : as.length < 2 ^ 64) (h : ∀ a ∈ as, c.ReadsBack a ∨ c.Refuses a)
    (hone : ∃ a ∈ as, c.Refuses a) : (counted major c).Refuses as := by
  intro rest
  simp only [counted, List.append_assoc, readsBack_head hm hn (as.flatMap c.write ++ rest),
    readTimes_refuses h hone, Option.bind_eq_bind, Option.bind_some]

/-! ## Numbers of more than 64 bits -/

/-- Written as a bignum under its tag where no head holds it, and read as a plain number only. -/
def u128 : Wire Nat where
  write n :=
    if n < 2 ^ 64 then (head 0).write n
    else 0xc2 :: (string 2).write ((BigEndian.toBe 16 n).dropWhile (· == 0))
  read := (head 0).read

theorem readsBack_u128 {n : Nat} (hn : n < 2 ^ 64) : u128.ReadsBack n := by
  intro rest
  simp only [u128, if_pos hn]
  exact readsBack_head (by decide) hn rest

theorem refuses_u128 {n : Nat} (hn : ¬ n < 2 ^ 64) : u128.Refuses n := by
  intro rest
  simp only [u128, if_neg hn, List.cons_append, head]
  rfl

end Wire
end FidoOnboard
