/-
**Where the arguments of a call stand.**

A call is told by the position of its parenthesis in a body.  Its arguments are what stands between
this parenthesis and the one that closes it, cut at some of the commas there.  Positions count
characters; a body is sliced at byte offsets.  Parentheses and commas are characters of one byte, so
that the offset behind one of them, where the next slice starts, is the boundary of a character.

Main definitions:

* `ShaderEffect.Arguments.pieces` — all arguments of a call;
* `ShaderEffect.Text.bounds` — the positions between which texts stand that are parted by commas;
* `ShaderEffect.Text.SlicedAt` — a text is what is sliced from a body;
* `ShaderEffect.Arguments.StandIn` — **what the arguments of a call are, told by its positions**.

Main results:

* `ShaderEffect.Text.slicedAt_bounds` — texts parted by commas are sliced where they stand;
* `ShaderEffect.Arguments.Splits.standIn` — what splitting finds stands between the parentheses;
* `ShaderEffect.arguments_end_where_closed` — **when a call has arguments, what they are, and that
  replacing calls comes to an end**.
-/

import Mathlib.Data.List.Flatten
import Mathlib.Data.List.Forall2
import ShaderEffect.Proofs.Program.Depth
import ShaderEffect.Proofs.Program.Rounds
import ShaderEffect.Proofs.Text.Cutting

set_option autoImplicit false

namespace ShaderEffect

/-! ### Slices -/

/-- The bytes between two positions stand between the offsets of these. -/
theorem bytes_slice (cs : List Char) {k l : Nat} (h : k ≤ l) : bytes ((cs.take l).drop k) =
    ((bytes cs).take (byteOffset cs l)).drop (byteOffset cs k) := by
  have hbytes (m : Nat) (ds : List Char) : bytes ds = bytes (ds.take m) ++ bytes (ds.drop m) := by
    rw [bytes, bytes, bytes, ← List.flatMap_append, List.take_append_drop]
  have hfront : (bytes cs).take (byteOffset cs l) = bytes (cs.take l) := by
    rw [hbytes l cs]
    exact List.take_left' rfl
  rw [hfront, hbytes k (cs.take l), List.take_take, Nat.min_eq_left h]
  exact (List.drop_left' rfl).symm

theorem bytes_sublist {cs ds : List Char} (h : cs.Sublist ds) : (bytes cs).Sublist (bytes ds) :=
  h.flatMap _

namespace Text

/-- The positions between which texts stand that are parted by single characters, if the first text
stands at position `k`. -/
def bounds : Nat → List (List Char) → List (Nat × Nat)
  | _, [] => []
  | k, t :: ts => (k, k + t.length) :: bounds (k + t.length + 1) ts

/-- **A text is what is sliced from a body** between two positions.  A comma stands behind it, or it
ends at position `i`, and what comes next is sliced one byte further. -/
structure SlicedAt (body : String) (i : Nat) (t : List Char) (b : Nat × Nat) : Prop where
  text : t = (body.toList.take b.2).drop b.1
  bytes : ShaderEffect.bytes t = ((ShaderEffect.bytes body.toList).take
    (byteOffset body.toList b.2)).drop (byteOffset body.toList b.1)
  stop : body.toList[b.2]? = some ',' ∨ b.2 = i
  next : byteOffset body.toList (b.2 + 1) = byteOffset body.toList b.2 + 1
  boundary : ∀ o ∈ [byteOffset body.toList b.1, byteOffset body.toList b.2,
    byteOffset body.toList b.2 + 1], String.Pos.Raw.IsValid body ⟨o⟩

section

variable {body : String} {cs : List Char} {i k : Nat} {c : Char} {t rest : List Char}
  {ts : List (List Char)}

/-- What comes behind the character behind a text. -/
theorem drop_of_drop_eq (h : cs.drop k = t ++ c :: rest) : cs.drop (k + t.length + 1) = rest := by
  rw [Nat.add_assoc, ← List.drop_drop, h, List.drop_length_add_append, List.drop_succ_cons,
    List.drop_zero]

/-- A text in front of a comma, or in front of a last character of one byte. -/
theorem slicedAt_of_drop (h : body.toList.drop k = t ++ c :: rest) (hc : c.toNat < 128)
    (hstop : c = ',' ∨ k + t.length = i) : SlicedAt body i t (k, k + t.length) := by
  have hget : body.toList[k + t.length]? = some c := by
    rw [← List.getElem?_drop, h, List.getElem?_append_right (Nat.le_refl _), Nat.sub_self]
    rfl
  have htext : t = (body.toList.take (k + t.length)).drop k := by
    rw [List.drop_take, Nat.add_sub_cancel_left, h, List.take_append_length]
  have hnext := byteOffset_add_one hget hc
  refine ⟨htext, ?_, ?_, hnext, ?_⟩
  · conv_lhs => rw [htext]
    exact bytes_slice _ (Nat.le_add_right _ _)
  · rcases hstop with rfl | hi
    · exact .inl hget
    · exact .inr hi
  · rw [← hnext]
    simp only [List.forall_mem_cons, List.not_mem_nil, false_imp_iff, implies_true, and_true]
    exact ⟨isValid_byteOffset _ _, isValid_byteOffset _ _, isValid_byteOffset _ _⟩

/-- **Texts parted by commas are sliced where they stand.** -/
theorem slicedAt_bounds (hts : ts ≠ [])
    (h : body.toList.drop k = [','].intercalate ts ++ ')' :: rest)
    (hi : k + ([','].intercalate ts).length = i) :
    List.Forall₂ (SlicedAt body i) ts (bounds k ts) := by
  induction ts generalizing k with
  | nil => exact absurd rfl hts
  | cons t ts ih =>
    cases ts with
    | nil =>
      rw [List.intercalate_singleton] at h hi
      exact .cons (slicedAt_of_drop h (by decide) (.inr hi)) .nil
    | cons u ts =>
      simp only [List.intercalate_cons_cons, List.append_assoc, List.cons_append,
        List.nil_append] at h
      simp only [List.intercalate_cons_cons, List.length_append, List.length_singleton] at hi
      refine .cons (slicedAt_of_drop h (by decide) (.inl rfl)) (ih (List.cons_ne_nil u ts) ?_ ?_)
      · exact drop_of_drop_eq h
      · omega

end

end Text

/-! ### Arguments by position -/

namespace Arguments

/-- All arguments of a call. -/
def pieces (a : Arguments) : List (List Char) := a.first :: a.others

/-- **The arguments of the call whose parenthesis is opened at position `o` of a body and closed at
position `i`.** -/
structure StandIn (body : String) (o i : Nat) (a : Arguments) : Prop where
  after : a.after = body.toList.drop (i + 1)
  ne_nil : a.pieces ≠ []
  /-- With commas between them they are the text between the parentheses. -/
  joined : [','].intercalate a.pieces = (body.toList.take i).drop (o + 1)
  /-- In each the parentheses are balanced, and its fronts close none that is not open. -/
  balanced : ∀ t ∈ a.pieces, Text.depth t = 0 ∧ ∀ p, p <+: t → 0 ≤ Text.depth p
  /-- A comma in one of them stands in parentheses of it. -/
  commas : ∀ t ∈ a.pieces, ∀ p q, p ++ ',' :: q = t → 0 < Text.depth p
  /-- Wherever the call starts, it is longer than each of them, with and without the blanks at the
  ends of that, in characters and in bytes. -/
  shorter : ∀ t ∈ a.pieces, ∀ u ∈ [t, Text.trim t], ∀ k ≤ o,
    u.length < ((body.toList.take (i + 1)).drop k).length ∧
      (bytes u).length < (bytes ((body.toList.take (i + 1)).drop k)).length
  /-- The first one is sliced from behind the parenthesis. -/
  opening : byteOffset body.toList (o + 1) = byteOffset body.toList o + 1
  sliced : List.Forall₂ (Text.SlicedAt body i) a.pieces (Text.bounds (o + 1) a.pieces)

theorem intercalate_pieces (a : Arguments) : [','].intercalate a.pieces = a.inner := by
  obtain ⟨first, others, after⟩ := a
  unfold pieces inner
  induction others generalizing first with
  | nil => simp
  | cons t ts ih =>
    rw [List.intercalate_cons_cons, ih, List.flatMap_cons, List.append_assoc]
    rfl

theorem sublist_inner {a : Arguments} {t : List Char} (h : t ∈ a.pieces) : t.Sublist a.inner := by
  rcases List.mem_cons.1 h with rfl | h
  · exact List.sublist_append_left ..
  · have hcomma : (',' :: t).Sublist (a.others.flatMap (',' :: ·)) := by
      rw [List.flatMap_def]
      exact List.sublist_flatten_of_mem (List.mem_map_of_mem h)
    exact ((List.sublist_cons_self ',' t).trans hcomma).trans (List.sublist_append_right ..)

section

variable {body : String} {o : Nat} {t cs : List Char} {a : Arguments}

theorem Splits.isArgument (h : a.Splits cs) (ht : t ∈ a.pieces) : Text.IsArgument t := by
  rcases List.mem_cons.1 ht with rfl | ht
  · exact h.first
  · exact h.others t ht

/-- **What splitting finds stands between the parentheses of the call.** -/
theorem Splits.standIn (h : a.Splits (body.toList.drop (o + 1)))
    (ho : body.toList[o]? = some '(') : a.StandIn body o (o + 1 + a.inner.length) := by
  have hcs := h.inner_append
  have hinner : (body.toList.take (o + 1 + a.inner.length)).drop (o + 1) = a.inner := by
    rw [List.drop_take, Nat.add_sub_cancel_left, ← hcs, List.take_append_length]
  refine ⟨(Text.drop_of_drop_eq hcs.symm).symm, List.cons_ne_nil _ _, ?_, fun t ht => ?_,
    fun t ht p q hp => ?_, fun t ht u hu k hk => ?_, byteOffset_add_one ho (by decide), ?_⟩
  · rw [intercalate_pieces, hinner]
  · have hbalanced := (h.isArgument ht).balanced
    exact ⟨hbalanced.depth_eq_zero, fun p hp => hbalanced.depth_nonneg hp⟩
  · exact (h.isArgument ht).depth_pos hp
  · have hinside : u.Sublist a.inner := by
      simp only [List.mem_cons, List.not_mem_nil, or_false] at hu
      rcases hu with rfl | rfl
      · exact sublist_inner ht
      · exact (Text.isTrimmed_trim t).sublist.trans (sublist_inner ht)
    -- the parenthesis belongs to the call, and none of its arguments has it
    have hcall : ('(' :: u).Sublist
        ((body.toList.take (o + 1 + a.inner.length + 1)).drop k) := by
      refine List.Sublist.trans ?_ (List.drop_sublist_drop_left _ hk)
      rw [Nat.add_assoc, Text.take_drop_of_open ho, ← hcs, List.take_length_add_append]
      exact (hinside.trans (List.sublist_append_left ..)).cons_cons '('
    exact ⟨hcall.length_le, (bytes_sublist hcall).length_le⟩
  · exact Text.slicedAt_bounds (List.cons_ne_nil _ _) (by rw [intercalate_pieces, hcs])
      (by rw [intercalate_pieces])

end

end Arguments

/-- **When a call has arguments, what they are, and that replacing calls comes to an end.**  Where a
parenthesis is opened in a body, splitting finds arguments if the parenthesis is closed somewhere,
and then they stand between the two.  The rounds in which calls are replaced lead to shorter texts
only, so that there is no row of rounds without an end, and what a single round does settles what
every text becomes: a text with its calls replaced, or a fault. -/
theorem arguments_end_where_closed {body : String} {o : Nat} (ho : body.toList[o]? = some '(') :
    ((∃ a, splitArguments 0 (body.toList.drop (o + 1)) = some a) ↔
      ∃ i, Text.Closes body.toList o i) ∧
    (∀ a, splitArguments 0 (body.toList.drop (o + 1)) = some a → ∃ i,
      Text.Closes body.toList o i ∧
      IsLeast {k | o < k ∧ Text.depthFrom body.toList o k = 0} (i + 1) ∧ a.StandIn body o i) ∧
    WellFounded (fun next text => Onward text next) ∧
    ∀ samplers go, ReplacesCalls samplers go ↔
      ∀ front cs, go front cs = expandFrom samplers (front.any Text.isWord) cs := by
  refine ⟨Arguments.exists_splitArguments_iff ho, fun a ha => ?_, wellFounded_onward,
    fun samplers go => replacesCalls_iff⟩
  have hsplits := splitArguments_eq_some_iff.1 ha
  have hcloses := hsplits.closes ho
  exact ⟨_, hcloses, hcloses.isLeast, hsplits.standIn ho⟩

/-- In a body with a call that goes on in one of its arguments, with commas inside and outside of
parentheses and with characters of two bytes, and with another call that is not closed. -/
theorem arguments_end_where_closed_nested :
    let body := "ä+IMG_PIXEL (é, f(x,(y,ß)) ,2)*IMG_SIZE(i"
    let a : Arguments :=
      ⟨"é".toList, [" f(x,(y,ß)) ".toList, "2".toList], "*IMG_SIZE(i".toList⟩
    (body.toList[12]? = some '(' ∧ splitArguments 0 (body.toList.drop 13) = some a ∧
      ∃ i, Text.Closes body.toList 12 i ∧
        IsLeast {k | 12 < k ∧ Text.depthFrom body.toList 12 k = 0} (i + 1) ∧
        a.StandIn body 12 i) ∧
    body.toList[39]? = some '(' ∧ ¬∃ i, Text.Closes body.toList 39 i := by
  intro body a
  have hopen : body.toList[12]? = some '(' := by decide +kernel
  have ha : splitArguments 0 (body.toList.drop 13) = some a := by decide +kernel
  have hlast : body.toList[39]? = some '(' := by decide +kernel
  have hnone : splitArguments 0 (body.toList.drop 40) = none := by decide +kernel
  refine ⟨⟨hopen, ha, (arguments_end_where_closed hopen).2.1 a ha⟩, hlast, fun hclosed => ?_⟩
  obtain ⟨b, hb⟩ := (arguments_end_where_closed hlast).1.2 hclosed
  rw [hnone] at hb
  cases hb

end ShaderEffect
