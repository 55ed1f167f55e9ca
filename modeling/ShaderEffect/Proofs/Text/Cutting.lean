/-
**Cutting a text.**

A text is cut at the first place where two given characters stand in a row, and blanks are cut off
its ends.  Positions in a text count characters; a program that slices a text does so at byte
offsets.  For characters of one byte this makes no difference: their bytes stand just where they
stand, so that a mark found by its bytes is a mark, and in front of it and behind it a slice may
start.

Main definitions:

* `ShaderEffect.MarkAt`, `ShaderEffect.MarkBytesAt` — a mark stands at a position, and its bytes at
  an offset;
* `ShaderEffect.byteOffset` — the offset of a position;
* `ShaderEffect.Text.IsTrimmed` — what is left without the blanks at both ends.

Main results:

* `ShaderEffect.splitMark_drop_eq_some_iff` — **a text is cut at the first mark** from a position
  on;
* `ShaderEffect.markBytesAt_iff`, `ShaderEffect.isLeast_markBytesAt` — **a mark is found by its
  bytes**;
* `ShaderEffect.isValid_byteOffset` — offsets of positions are boundaries of characters;
* `ShaderEffect.Text.isTrimmed_trim`, `ShaderEffect.Text.IsTrimmed.eq_trim` — trimming does what it
  should, and nothing else does.
-/

import Mathlib.Data.List.TakeWhile
import Mathlib.Order.Bounds.Basic
import ShaderEffect.Metadata.Comment

set_option autoImplicit false

namespace ShaderEffect

/-! ### Marks -/

/-- Two characters stand in a row at a position. -/
def MarkAt (a b : Char) (cs : List Char) (i : Nat) : Prop :=
  cs[i]? = some a ∧ cs[i + 1]? = some b

instance (a b : Char) (cs : List Char) (i : Nat) : Decidable (MarkAt a b cs i) :=
  inferInstanceAs (Decidable (_ ∧ _))

section

variable {a b : Char} {cs before after : List Char} {i k : Nat}

theorem markAt_drop : MarkAt a b (cs.drop k) i ↔ MarkAt a b cs (k + i) := by
  simp [MarkAt, List.getElem?_drop, Nat.add_assoc]

/-- There is no mark exactly if a text is not cut. -/
theorem splitMark_eq_none_iff : splitMark a b cs = none ↔ ∀ i, ¬ MarkAt a b cs i := by
  fun_induction splitMark a b cs with
  | case1 => simp [MarkAt]
  | case2 x => simp [MarkAt]
  | case3 x y rest hxy =>
      obtain ⟨rfl, rfl⟩ := hxy
      simp only [reduceCtorEq, false_iff, not_forall, not_not]
      exact ⟨0, rfl, rfl⟩
  | case4 x y rest hxy ih =>
      rw [Option.map_eq_none_iff, ih]
      constructor
      · intro h i hi
        cases i with
        | zero => exact hxy ⟨Option.some.inj hi.1, Option.some.inj hi.2⟩
        | succ i => exact h i hi
      · exact fun h i hi => h (i + 1) hi

/-- **A text is cut at the first mark.** -/
theorem splitMark_eq_some_iff : splitMark a b cs = some (before, after) ↔
    ∃ i, IsLeast {i | MarkAt a b cs i} i ∧ before = cs.take i ∧ after = cs.drop (i + 2) := by
  fun_induction splitMark a b cs generalizing before after with
  | case1 => simp [MarkAt, IsLeast]
  | case2 x => simp [MarkAt, IsLeast]
  | case3 x y rest hxy =>
      obtain ⟨rfl, rfl⟩ := hxy
      have hleast : IsLeast {i | MarkAt x y (x :: y :: rest) i} 0 :=
        ⟨⟨rfl, rfl⟩, fun _ _ => Nat.zero_le _⟩
      simp only [Option.some.injEq, Prod.mk.injEq]
      constructor
      · rintro ⟨rfl, rfl⟩
        exact ⟨0, hleast, rfl, rfl⟩
      · rintro ⟨i, hi, rfl, rfl⟩
        cases hi.unique hleast
        exact ⟨rfl, rfl⟩
  | case4 x y rest hxy ih =>
      have hzero : ¬ MarkAt a b (x :: y :: rest) 0 := fun h =>
        hxy ⟨Option.some.inj h.1, Option.some.inj h.2⟩
      have hleast (i : Nat) : IsLeast {i | MarkAt a b (x :: y :: rest) i} (i + 1) ↔
          IsLeast {i | MarkAt a b (y :: rest) i} i := by
        refine and_congr Iff.rfl ⟨fun h j hj => ?_, fun h j hj => ?_⟩
        · exact Nat.le_of_succ_le_succ (h (a := j + 1) hj)
        · cases j with
          | zero => exact absurd hj hzero
          | succ j => exact Nat.succ_le_succ (h hj)
      rw [Option.map_eq_some_iff]
      constructor
      · rintro ⟨⟨before', after'⟩, hr, heq⟩
        obtain ⟨rfl, rfl⟩ := Prod.mk.inj heq
        obtain ⟨i, hi, rfl, rfl⟩ := ih.1 hr
        exact ⟨i + 1, (hleast i).2 hi, rfl, rfl⟩
      · rintro ⟨i, hi, rfl, rfl⟩
        cases i with
        | zero => exact absurd hi.1 hzero
        | succ i => exact ⟨_, ih.2 ⟨i, (hleast i).1 hi, rfl, rfl⟩, rfl⟩

/-- The first mark from a position on. -/
theorem isLeast_add_iff : IsLeast {j | MarkAt a b (cs.drop k) j} i ↔
    IsLeast {j | k ≤ j ∧ MarkAt a b cs j} (k + i) := by
  constructor
  · rintro ⟨hi, hleast⟩
    refine ⟨⟨Nat.le_add_right k i, markAt_drop.1 hi⟩, fun j hj => ?_⟩
    obtain ⟨l, rfl⟩ := Nat.exists_eq_add_of_le hj.1
    exact Nat.add_le_add_left (hleast (markAt_drop.2 hj.2)) k
  · rintro ⟨⟨-, hi⟩, hleast⟩
    refine ⟨markAt_drop.2 hi, fun j hj => ?_⟩
    exact Nat.le_of_add_le_add_left (hleast ⟨Nat.le_add_right k j, markAt_drop.1 hj⟩)

/-- **What is left of a text is cut at the first mark** from there on. -/
theorem splitMark_drop_eq_some_iff : splitMark a b (cs.drop k) = some (before, after) ↔
    ∃ i, IsLeast {j | k ≤ j ∧ MarkAt a b cs j} i ∧ before = (cs.drop k).take (i - k) ∧
      after = cs.drop (i + 2) := by
  rw [splitMark_eq_some_iff]
  constructor
  · rintro ⟨i, hi, rfl, rfl⟩
    exact ⟨k + i, isLeast_add_iff.1 hi, by rw [Nat.add_sub_cancel_left],
      by rw [List.drop_drop, Nat.add_assoc]⟩
  · rintro ⟨i, hi, rfl, rfl⟩
    obtain ⟨l, rfl⟩ := Nat.exists_eq_add_of_le hi.1.1
    exact ⟨l, isLeast_add_iff.2 hi, by rw [Nat.add_sub_cancel_left],
      by rw [List.drop_drop, Nat.add_assoc]⟩

theorem splitMark_drop_eq_none_iff : splitMark a b (cs.drop k) = none ↔
    ∀ j, k ≤ j → ¬ MarkAt a b cs j := by
  rw [splitMark_eq_none_iff]
  constructor
  · intro h j hj hmark
    obtain ⟨l, rfl⟩ := Nat.exists_eq_add_of_le hj
    exact h l (markAt_drop.2 hmark)
  · exact fun h i hi => h (k + i) (Nat.le_add_right k i) (markAt_drop.1 hi)

end

/-! ### Bytes -/

/-- The bytes of a text. -/
def bytes (cs : List Char) : List UInt8 := cs.flatMap String.utf8EncodeChar

/-- How many bytes are in front of a position. -/
def byteOffset (cs : List Char) (k : Nat) : Nat := (bytes (cs.take k)).length

/-- The bytes of two characters stand in a row at an offset. -/
def MarkBytesAt (a b : Char) (cs : List Char) (o : Nat) : Prop :=
  (bytes cs)[o]? = some a.toUInt8 ∧ (bytes cs)[o + 1]? = some b.toUInt8

section

variable {cs : List Char} {a b c : Char} {i j k o : Nat}

/-- **An offset in front of a character is the boundary of one.** -/
theorem isValid_byteOffset (text : String) (k : Nat) :
    String.Pos.Raw.IsValid text ⟨byteOffset text.toList k⟩ := by
  refine String.Pos.Raw.isValid_iff_exists_append.2
    ⟨.ofList (text.toList.take k), .ofList (text.toList.drop k), ?_, ?_⟩
  · rw [← String.ofList_append, List.take_append_drop, String.ofList_toList]
  · simp [String.rawEndPos, String.utf8ByteSize, byteOffset, bytes, String.toByteArray_ofList,
      List.utf8Encode]

/-- **Only a character of one byte has a byte below 128**, and then it is that byte. -/
theorem eq_of_mem_utf8EncodeChar {x : UInt8} (hx : x ∈ String.utf8EncodeChar c)
    (hlt : x.toNat < 128) : c.toNat = x.toNat ∧ String.utf8EncodeChar c = [x] := by
  unfold String.utf8EncodeChar at hx ⊢
  simp only at hx ⊢
  split at hx
  · rename_i hle
    rw [if_pos hle]
    simp only [List.mem_singleton] at hx
    subst hx
    refine ⟨?_, rfl⟩
    rw [UInt8.toNat_ofNat']
    exact (Nat.mod_eq_of_lt (Nat.lt_of_le_of_lt hle (by decide))).symm
  · exfalso
    split at hx
    · simp only [List.mem_cons, List.not_mem_nil, or_false] at hx
      rcases hx with rfl | rfl <;> rw [UInt8.toNat_ofNat'] at hlt <;> omega
    · split at hx
      · simp only [List.mem_cons, List.not_mem_nil, or_false] at hx
        rcases hx with rfl | rfl | rfl <;> rw [UInt8.toNat_ofNat'] at hlt <;> omega
      · simp only [List.mem_cons, List.not_mem_nil, or_false] at hx
        rcases hx with rfl | rfl | rfl | rfl <;> rw [UInt8.toNat_ofNat'] at hlt <;> omega

theorem utf8EncodeChar_of_lt (hc : c.toNat < 128) : String.utf8EncodeChar c = [c.toUInt8] := by
  unfold String.utf8EncodeChar
  exact if_pos (Nat.le_of_lt_succ hc)

theorem byteOffset_zero : byteOffset cs 0 = 0 := rfl

theorem byteOffset_cons_succ :
    byteOffset (c :: cs) (k + 1) = (String.utf8EncodeChar c).length + byteOffset cs k := by
  simp [byteOffset, bytes]

theorem byteOffset_add (cs : List Char) (k i : Nat) :
    byteOffset cs (k + i) = byteOffset cs k + byteOffset (cs.drop k) i := by
  simp [byteOffset, bytes, List.take_add]

theorem byteOffset_add_one (hi : cs[i]? = some c) (hc : c.toNat < 128) :
    byteOffset cs (i + 1) = byteOffset cs i + 1 := by
  simp [byteOffset, bytes, List.take_add_one, hi, utf8EncodeChar_of_lt hc]

theorem byteOffset_le (h : i ≤ j) : byteOffset cs i ≤ byteOffset cs j := by
  obtain ⟨n, rfl⟩ := Nat.exists_eq_add_of_le h
  rw [byteOffset_add]
  exact Nat.le_add_right _ _

/-- Offsets grow with positions. -/
theorem byteOffset_lt (h : i < j) (hi : i < cs.length) : byteOffset cs i < byteOffset cs j := by
  obtain ⟨n, rfl⟩ := Nat.exists_eq_add_of_lt h
  rw [Nat.add_assoc, byteOffset_add, List.drop_eq_getElem_cons hi, byteOffset_cons_succ,
    String.length_utf8EncodeChar]
  have hpos := Char.utf8Size_pos cs[i]
  omega

/-- **The byte of a one-byte character stands just where the character stands.** -/
theorem getElem?_bytes_iff (hc : c.toNat < 128) :
    (bytes cs)[o]? = some c.toUInt8 ↔ ∃ i, o = byteOffset cs i ∧ cs[i]? = some c := by
  induction cs generalizing o with
  | nil => simp [bytes]
  | cons d cs ih =>
    have hbytes : bytes (d :: cs) = String.utf8EncodeChar d ++ bytes cs := List.flatMap_cons
    rw [hbytes]
    by_cases ho : o < (String.utf8EncodeChar d).length
    · rw [List.getElem?_append_left ho]
      constructor
      · intro h
        have hc8 : c.toUInt8.toNat = c.toNat := Nat.mod_eq_of_lt (by omega : c.toNat < 256)
        obtain ⟨heq, hsingle⟩ := eq_of_mem_utf8EncodeChar (List.mem_of_getElem? h) (by omega)
        rw [hsingle] at ho
        refine ⟨0, Nat.lt_one_iff.1 ho, ?_⟩
        have : d = c := Char.ext (UInt32.toNat_inj.1 (heq.trans hc8))
        rw [this]
        rfl
      · rintro ⟨i, rfl, hi⟩
        cases i with
        | zero =>
          cases hi
          rw [utf8EncodeChar_of_lt hc]
          rfl
        | succ i =>
          rw [byteOffset_cons_succ] at ho
          omega
    · rw [List.getElem?_append_right (Nat.le_of_not_lt ho), ih]
      constructor
      · rintro ⟨i, hi, hget⟩
        refine ⟨i + 1, ?_, hget⟩
        rw [byteOffset_cons_succ]
        omega
      · rintro ⟨i, rfl, hi⟩
        cases i with
        | zero =>
          rw [byteOffset_zero] at ho
          have hpos := Char.utf8Size_pos d
          rw [String.length_utf8EncodeChar] at ho
          omega
        | succ i => exact ⟨i, by rw [byteOffset_cons_succ, Nat.add_sub_cancel_left], hi⟩

theorem MarkAt.byteOffset_add_two (h : MarkAt a b cs i) (ha : a.toNat < 128) (hb : b.toNat < 128) :
    byteOffset cs (i + 2) = byteOffset cs i + 2 := by
  rw [byteOffset_add_one h.2 hb, byteOffset_add_one h.1 ha]

/-- **The bytes of a mark stand just where the mark stands.** -/
theorem markBytesAt_iff (ha : a.toNat < 128) (hb : b.toNat < 128) :
    MarkBytesAt a b cs o ↔ ∃ i, o = byteOffset cs i ∧ MarkAt a b cs i := by
  unfold MarkBytesAt
  rw [getElem?_bytes_iff ha, getElem?_bytes_iff hb]
  constructor
  · rintro ⟨⟨i, rfl, hi⟩, j, hj, hget⟩
    refine ⟨i, rfl, hi, ?_⟩
    rw [← byteOffset_add_one hi ha] at hj
    have hlt : j < cs.length := (List.getElem?_eq_some_iff.1 hget).1
    rcases Nat.lt_trichotomy (i + 1) j with h | rfl | h
    · exact absurd hj (Nat.ne_of_lt (byteOffset_lt h (Nat.lt_trans h hlt)))
    · exact hget
    · exact absurd hj.symm (Nat.ne_of_lt (byteOffset_lt h hlt))
  · rintro ⟨i, rfl, h⟩
    exact ⟨⟨i, rfl, h.1⟩, i + 1, (byteOffset_add_one h.1 ha).symm, h.2⟩

/-- **The first mark is found by its bytes.** -/
theorem isLeast_markBytesAt (ha : a.toNat < 128) (hb : b.toNat < 128)
    (h : IsLeast {i | k ≤ i ∧ MarkAt a b cs i} i) :
    IsLeast {o | byteOffset cs k ≤ o ∧ MarkBytesAt a b cs o} (byteOffset cs i) := by
  refine ⟨⟨byteOffset_le h.1.1, (markBytesAt_iff ha hb).2 ⟨i, rfl, h.1.2⟩⟩, ?_⟩
  rintro o ⟨hle, hmark⟩
  obtain ⟨j, rfl, hj⟩ := (markBytesAt_iff ha hb).1 hmark
  have hkj : k ≤ j := Nat.le_of_not_lt fun hlt =>
    absurd hle (Nat.not_le_of_lt (byteOffset_lt hlt (List.getElem?_eq_some_iff.1 hj.1).1))
  exact byteOffset_le (h.2 ⟨hkj, hj⟩)

end

/-! ### Trimming -/

namespace Text

/-- A text is what is left of another one without the blanks at its two ends. -/
structure IsTrimmed (cs inner : List Char) : Prop where
  split : ∃ front back, cs = front ++ inner ++ back ∧ (∀ b ∈ front, isBlank b = true) ∧
    ∀ b ∈ back, isBlank b = true
  first : ∀ c ∈ inner.head?, isBlank c = false
  last : ∀ c ∈ inner.getLast?, isBlank c = false

variable {cs inner front back : List Char}

theorem IsTrimmed.sublist (h : IsTrimmed cs inner) : inner.Sublist cs := by
  obtain ⟨front, back, rfl, -, -⟩ := h.split
  exact (List.sublist_append_right front inner).trans (List.sublist_append_left ..)

theorem dropWhile_isBlank_eq_self (hfirst : ∀ c ∈ inner.head?, isBlank c = false) :
    inner.dropWhile isBlank = inner := by
  cases inner with
  | nil => rfl
  | cons c rest => rw [List.dropWhile_cons_of_neg (by rw [hfirst c rfl]; decide)]

theorem trimRight_append_blanks (hback : ∀ b ∈ back, isBlank b = true)
    (hlast : ∀ c ∈ inner.getLast?, isBlank c = false) : trimRight (inner ++ back) = inner := by
  rw [trimRight, List.reverse_append, List.dropWhile_append_of_pos (by simpa using hback),
    dropWhile_isBlank_eq_self (by simpa using hlast), List.reverse_reverse]

theorem isTrimmed_trim (cs : List Char) : IsTrimmed cs (trim cs) where
  split := by
    refine ⟨cs.takeWhile isBlank, ((trimLeft cs).reverse.takeWhile isBlank).reverse, ?_,
      fun b hb => List.mem_takeWhile_imp hb,
      fun b hb => List.mem_takeWhile_imp (List.mem_reverse.1 hb)⟩
    rw [trim, trimRight, List.append_assoc, ← List.reverse_append, List.takeWhile_append_dropWhile,
      List.reverse_reverse, trimLeft, List.takeWhile_append_dropWhile]
  first c hc := by
    -- the first character that is left is the first one after the leading blanks
    have hprefix : trim cs <+: trimLeft cs := by
      rw [trim, trimRight, ← List.reverse_suffix, List.reverse_reverse]
      exact List.dropWhile_suffix _
    have hhead : (trimLeft cs).head? = some c := by
      obtain ⟨rest, hrest⟩ := hprefix
      rw [← hrest, List.head?_append, hc]
      rfl
    have hnot := List.head?_dropWhile_not isBlank cs
    rw [show cs.dropWhile isBlank = trimLeft cs from rfl, hhead] at hnot
    simpa using hnot
  last c hc := by
    rw [trim, trimRight, List.getLast?_reverse] at hc
    have hnot := List.head?_dropWhile_not isBlank (trimLeft cs).reverse
    rw [hc] at hnot
    simpa using hnot

theorem IsTrimmed.eq_trim (h : IsTrimmed cs inner) : inner = trim cs := by
  obtain ⟨⟨front, back, rfl, hfront, hback⟩, hfirst, hlast⟩ := h
  rw [trim, trimLeft, List.append_assoc, List.dropWhile_append_of_pos hfront]
  cases inner with
  | nil =>
    rw [List.nil_append, List.dropWhile_eq_nil_iff.2 hback]
    rfl
  | cons c rest =>
    rw [List.cons_append, List.dropWhile_cons_of_neg (by rw [hfirst c rfl]; decide),
      ← List.cons_append, trimRight_append_blanks hback hlast]

end Text

end ShaderEffect
