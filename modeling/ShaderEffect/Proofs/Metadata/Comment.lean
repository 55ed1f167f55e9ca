/-
**Where the metadata stands.**

A source is read comment by comment: a comment goes from the first opening mark to the first closing
mark behind it, and what comes next is looked for behind that.  The metadata is in the first comment
whose contents start with a brace.  Here this is said about positions in the source as a whole, and
reading is shown to cut the source at just these positions.

Main definitions:

* `ShaderEffect.Comment.IsNext` — the next comment from a position on;
* `ShaderEffect.Comment.HoldsMetadata` — the contents of a comment start with a brace;
* `ShaderEffect.Skips` — comments without metadata, one after the other;
* `ShaderEffect.Comment.SlicedAt` — the byte offsets at which a text is sliced around a comment;
* `ShaderEffect.Source.CutBehind` — a source is what a text gives when it is cut behind a comment.

Main results:

* `ShaderEffect.splitSource_of_isNext` — what the next comment does to reading;
* `ShaderEffect.Skips.splitSource_eq` — **comments without metadata go to the header**;
* `ShaderEffect.exists_skips` — reading comes to metadata, to an open comment, or to neither;
* `ShaderEffect.Comment.IsNext.slicedAt` — slices start and end between characters;
* `ShaderEffect.Source.ofText_cases` — **when a source is accepted, and where it is cut**.
-/

import Mathlib.Data.Nat.Find
import ShaderEffect.Proofs.Text.Cutting

set_option autoImplicit false

namespace ShaderEffect

/-! ### Comments -/

/-- A comment of a text, told by the positions of its two marks. -/
structure Comment where
  opening : Nat
  closing : Nat

namespace Comment

variable {cs : List Char} {c : Comment} {k : Nat}

/-- **The next comment** from a position on: it goes from the first opening mark to the first
closing mark that stands behind both characters of that. -/
structure IsNext (cs : List Char) (k : Nat) (c : Comment) : Prop where
  opening : IsLeast {i | k ≤ i ∧ MarkAt '/' '*' cs i} c.opening
  closing : IsLeast {j | c.opening + 2 ≤ j ∧ MarkAt '*' '/' cs j} c.closing

/-- The characters between the marks. -/
def content (cs : List Char) (c : Comment) : List Char :=
  (cs.drop (c.opening + 2)).take (c.closing - (c.opening + 2))

/-- The contents start with a brace, but for blanks. -/
def HoldsMetadata (cs : List Char) (c : Comment) : Prop :=
  ∃ blanks rest, c.content cs = blanks ++ '\x7b' :: rest ∧ ∀ b ∈ blanks, Text.isBlank b = true

/-- How many characters the line break at a position has; none if there is no line break. -/
def breakLength (cs : List Char) (k : Nat) : Nat :=
  if MarkAt '\r' '\n' cs k then 2 else if cs[k]? = some '\n' then 1 else 0

/-- Where the text behind a comment starts: after a line break that follows directly. -/
def stop (cs : List Char) (c : Comment) : Nat := c.closing + 2 + breakLength cs (c.closing + 2)

/-- What holds metadata is what is read as metadata. -/
theorem isMetadata_content_iff : isMetadata (c.content cs) = true ↔ c.HoldsMetadata cs := by
  unfold HoldsMetadata
  generalize c.content cs = content
  constructor
  · intro h
    unfold isMetadata at h
    split at h
    · rename_i rest htrim
      refine ⟨content.takeWhile Text.isBlank, rest, ?_, fun b hb => List.mem_takeWhile_imp hb⟩
      rw [← htrim, Text.trimLeft, List.takeWhile_append_dropWhile]
    · cases h
  · rintro ⟨blanks, rest, rfl, hblanks⟩
    have htrim : Text.trimLeft (blanks ++ '\x7b' :: rest) = '\x7b' :: rest := by
      rw [Text.trimLeft, List.dropWhile_append_of_pos hblanks,
        List.dropWhile_cons_of_neg (by decide)]
    simp only [isMetadata, htrim]

theorem breakLength_drop (cs : List Char) (k i : Nat) :
    breakLength (cs.drop k) i = breakLength cs (k + i) := by
  simp only [breakLength, markAt_drop, List.getElem?_drop]

/-- The line break at the front of a text is cut off. -/
theorem splitLineBreak_eq (cs : List Char) :
    splitLineBreak cs = (cs.take (breakLength cs 0), cs.drop (breakLength cs 0)) := by
  unfold splitLineBreak
  split
  · simp [breakLength, MarkAt]
  · simp [breakLength, MarkAt]
  · rename_i hcr hlf
    have hnone : breakLength cs 0 = 0 := by
      rcases cs with _ | ⟨x, _ | ⟨y, rest⟩⟩
      · simp [breakLength, MarkAt]
      · have hx : x ≠ '\n' := fun h => hlf [] (by rw [h])
        simp [breakLength, MarkAt, hx]
      · have hx : x ≠ '\n' := fun h => hlf (y :: rest) (by rw [h])
        have hxy : ¬ (x = '\r' ∧ y = '\n') := fun h => hcr rest (by rw [h.1, h.2])
        simp [breakLength, MarkAt, hx, hxy]
    rw [hnone]
    rfl

/-- The line break at a position is cut off. -/
theorem splitLineBreak_drop (cs : List Char) (k : Nat) : splitLineBreak (cs.drop k) =
    ((cs.drop k).take (breakLength cs k), cs.drop (k + breakLength cs k)) := by
  rw [splitLineBreak_eq, breakLength_drop, Nat.add_zero, List.drop_drop]

theorem IsNext.le (hc : c.IsNext cs k) : k ≤ c.closing + 2 := by
  have hopening := hc.opening.1.1
  have hclosing := hc.closing.1.1
  omega

end Comment

/-- A text from one position to another, and from there on. -/
theorem drop_take_append_drop (cs : List Char) {k m : Nat} (h : k ≤ m) :
    (cs.take m).drop k ++ cs.drop m = cs.drop k := by
  obtain ⟨n, rfl⟩ := Nat.exists_eq_add_of_le h
  rw [List.drop_take, Nat.add_sub_cancel_left, ← List.drop_drop, List.take_append_drop]

/-- A text from one position to another, and from there to a third. -/
theorem drop_take_append_drop_take (cs : List Char) {k m n : Nat} (hk : k ≤ m) (hm : m ≤ n) :
    (cs.take m).drop k ++ (cs.take n).drop m = (cs.take n).drop k := by
  have h := drop_take_append_drop (cs.take n) hk
  rwa [List.take_take, Nat.min_eq_left hm] at h

/-! ### Reading -/

/-- Reading, without what is said for its termination. -/
theorem splitSource_eq_match (cs : List Char) : splitSource cs =
    match splitMark '/' '*' cs with
    | none => .error .noMetadata
    | some (before, opened) =>
      match splitMark '*' '/' opened with
      | none => .error .unterminatedComment
      | some (content, rest) =>
        let comment := before ++ '/' :: '*' :: content ++ ['*', '/']
        if isMetadata content then
          .ok (comment ++ (splitLineBreak rest).1, Text.trim content, (splitLineBreak rest).2)
        else (splitSource rest).map fun r => (comment ++ r.1, r.2) := by
  conv_lhs => rw [splitSource]
  split
  · rename_i hopen
    rw [hopen]
  · rename_i hopen
    rw [hopen]
    split
    · rename_i hclose
      simp only [hclose]
    · rename_i content rest hclose
      simp only [hclose]
      split
      · rfl
      · cases splitSource rest <;> rfl

section

variable {cs : List Char} {c : Comment} {k : Nat}

/-- **Reading the next comment**: the source is cut behind it if it holds metadata, and otherwise it
goes to the header. -/
theorem splitSource_of_isNext (hc : c.IsNext cs k) : splitSource (cs.drop k) =
    if isMetadata (c.content cs) then
      .ok ((cs.take (c.stop cs)).drop k, Text.trim (c.content cs), cs.drop (c.stop cs))
    else (splitSource (cs.drop (c.closing + 2))).map fun r =>
      ((cs.take (c.closing + 2)).drop k ++ r.1, r.2) := by
  have hopen := splitMark_drop_eq_some_iff.2 ⟨c.opening, hc.opening, rfl, rfl⟩
  have hclose : splitMark '*' '/' (cs.drop (c.opening + 2)) =
      some (c.content cs, cs.drop (c.closing + 2)) :=
    splitMark_drop_eq_some_iff.2 ⟨c.closing, hc.closing, rfl, rfl⟩
  -- the comment, with what is before it, is what is in front of the rest
  have hcomment : (cs.drop k).take (c.opening - k) ++ '/' :: '*' :: c.content cs ++ ['*', '/'] =
      (cs.take (c.closing + 2)).drop k := by
    refine List.append_cancel_right (?_ : _ ++ cs.drop (c.closing + 2) = _)
    calc (cs.drop k).take (c.opening - k) ++ '/' :: '*' :: c.content cs ++ ['*', '/'] ++
          cs.drop (c.closing + 2)
      _ = (cs.drop k).take (c.opening - k) ++
          '/' :: '*' :: (c.content cs ++ '*' :: '/' :: cs.drop (c.closing + 2)) := by simp
      _ = (cs.drop k).take (c.opening - k) ++ '/' :: '*' :: cs.drop (c.opening + 2) := by
          rw [← eq_of_splitMark hclose]
      _ = cs.drop k := (eq_of_splitMark hopen).symm
      _ = (cs.take (c.closing + 2)).drop k ++ cs.drop (c.closing + 2) :=
          (drop_take_append_drop cs hc.le).symm
  have hle : c.closing + 2 ≤ c.stop cs := Nat.le_add_right _ _
  have hstop : (cs.take (c.closing + 2)).drop k ++ (splitLineBreak (cs.drop (c.closing + 2))).1 =
      (cs.take (c.stop cs)).drop k := by
    rw [Comment.splitLineBreak_drop, ← drop_take_append_drop_take cs hc.le hle, Comment.stop,
      List.take_drop]
  have hrest : (splitLineBreak (cs.drop (c.closing + 2))).2 = cs.drop (c.stop cs) := by
    rw [Comment.splitLineBreak_drop]
    rfl
  rw [splitSource_eq_match, hopen]
  simp only [hclose, hcomment, hstop, hrest]

/-- An open comment: an opening mark with no closing mark behind it. -/
theorem splitSource_of_isOpen {i : Nat} (hopening : IsLeast {i | k ≤ i ∧ MarkAt '/' '*' cs i} i)
    (hclosing : ∀ j, i + 2 ≤ j → ¬ MarkAt '*' '/' cs j) :
    splitSource (cs.drop k) = .error .unterminatedComment := by
  have hopen := splitMark_drop_eq_some_iff.2 ⟨i, hopening, rfl, rfl⟩
  have hclose := splitMark_drop_eq_none_iff.2 hclosing
  rw [splitSource_eq_match, hopen]
  simp only [hclose]

theorem splitSource_of_no_mark (hnone : ∀ i, k ≤ i → ¬ MarkAt '/' '*' cs i) :
    splitSource (cs.drop k) = .error .noMetadata := by
  rw [splitSource_eq_match, splitMark_drop_eq_none_iff.2 hnone]

end

/-- **Comments without metadata, one after the other**: from a position to behind the last one. -/
inductive Skips (cs : List Char) : Nat → List Comment → Nat → Prop
  | nil (k : Nat) : Skips cs k [] k
  | cons {k k' : Nat} {c : Comment} {comments : List Comment} (hnext : c.IsNext cs k)
      (hskip : ¬ c.HoldsMetadata cs) (hrest : Skips cs (c.closing + 2) comments k') :
      Skips cs k (c :: comments) k'

/-- The next comment from a position on has no end. -/
def OpenFrom (cs : List Char) (k : Nat) : Prop :=
  ∃ i, IsLeast {i | k ≤ i ∧ MarkAt '/' '*' cs i} i ∧ ∀ j, i + 2 ≤ j → ¬ MarkAt '*' '/' cs j

/-- No comment starts from a position on. -/
def NoneFrom (cs : List Char) (k : Nat) : Prop := ∀ i, k ≤ i → ¬ MarkAt '/' '*' cs i

section

variable {cs : List Char} {c : Comment} {comments : List Comment} {k k' : Nat}

theorem Skips.le (h : Skips cs k comments k') : k ≤ k' := by
  induction h with
  | nil => exact Nat.le_refl _
  | cons hnext _ _ ih => exact Nat.le_trans hnext.le ih

/-- **Comments without metadata go to the header.** -/
theorem Skips.splitSource_eq (h : Skips cs k comments k') : splitSource (cs.drop k) =
    (splitSource (cs.drop k')).map fun r => ((cs.take k').drop k ++ r.1, r.2) := by
  induction h with
  | nil k =>
      have hnil : (cs.take k).drop k = [] :=
        List.drop_eq_nil_of_le (List.length_take_le k cs)
      simp only [hnil, List.nil_append]
      cases splitSource (cs.drop k) <;> rfl
  | cons hnext hskip hrest ih =>
      rw [splitSource_of_isNext hnext, if_neg (mt Comment.isMetadata_content_iff.1 hskip), ih,
        ← drop_take_append_drop_take cs hnext.le hrest.le]
      generalize splitSource _ = result
      cases result with
      | error fault => rfl
      | ok r => simp [Except.map]

/-- The next mark from a position on, if there is any mark. -/
theorem exists_isLeast_mark {a b : Char} {cs : List Char} {k : Nat}
    (h : ¬ ∀ i, k ≤ i → ¬ MarkAt a b cs i) : ∃ i, IsLeast {i | k ≤ i ∧ MarkAt a b cs i} i := by
  simp only [not_forall, not_not] at h
  obtain ⟨i, hi, hmark⟩ := h
  have hex : ∃ i, k ≤ i ∧ MarkAt a b cs i := ⟨i, hi, hmark⟩
  exact ⟨Nat.find hex, Nat.find_spec hex, fun _ hj => Nat.find_min' hex hj⟩

/-- **Reading comes to an end**: to a comment that holds metadata, to one without an end, or to a
rest without comments. -/
theorem exists_skips (cs : List Char) (k : Nat) : ∃ comments k', Skips cs k comments k' ∧
    ((∃ c : Comment, c.IsNext cs k' ∧ c.HoldsMetadata cs) ∨ OpenFrom cs k' ∨ NoneFrom cs k') := by
  induction hn : cs.length - k using Nat.strong_induction_on generalizing k with
  | _ n ih =>
    by_cases hnone : NoneFrom cs k
    · exact ⟨[], k, .nil k, .inr (.inr hnone)⟩
    obtain ⟨i, hi⟩ := exists_isLeast_mark hnone
    by_cases hopen : ∀ j, i + 2 ≤ j → ¬ MarkAt '*' '/' cs j
    · exact ⟨[], k, .nil k, .inr (.inl ⟨i, hi, hopen⟩)⟩
    obtain ⟨j, hj⟩ := exists_isLeast_mark hopen
    have hnext : Comment.IsNext cs k ⟨i, j⟩ := ⟨hi, hj⟩
    by_cases hholds : Comment.HoldsMetadata cs ⟨i, j⟩
    · exact ⟨[], k, .nil k, .inl ⟨⟨i, j⟩, hnext, hholds⟩⟩
    -- the comment is skipped, and less of the source is left
    have hlt : cs.length - (j + 2) < n := by
      have hlen : k < cs.length :=
        Nat.lt_of_le_of_lt hi.1.1 (List.getElem?_eq_some_iff.1 hi.1.2.1).1
      have hle := hi.1.1
      have hle' := hj.1.1
      omega
    obtain ⟨comments, k', hskips, hend⟩ := ih _ hlt (j + 2) rfl
    exact ⟨⟨i, j⟩ :: comments, k', .cons hnext hholds hskips, hend⟩

end

/-! ### Slices -/

section

variable {text : String} {cs : List Char} {c : Comment} {k : Nat}

/-- The line break at a position has as many bytes as characters. -/
theorem byteOffset_add_breakLength (cs : List Char) (k : Nat) :
    byteOffset cs (k + Comment.breakLength cs k) = byteOffset cs k + Comment.breakLength cs k := by
  unfold Comment.breakLength
  split
  · rename_i hmark
    exact hmark.byteOffset_add_two (by decide) (by decide)
  · split
    · rename_i hline
      exact byteOffset_add_one hline (by decide)
    · rfl

/-- **The byte offsets at which a text is sliced around a comment**: each is found by searching for
the bytes of a mark, or by counting on from there, and each is the boundary of a character. -/
structure Comment.SlicedAt (text : String) (k : Nat) (c : Comment) : Prop where
  opening : IsLeast {o | byteOffset text.toList k ≤ o ∧ MarkBytesAt '/' '*' text.toList o}
    (byteOffset text.toList c.opening)
  content : byteOffset text.toList (c.opening + 2) = byteOffset text.toList c.opening + 2
  closing : IsLeast {o | byteOffset text.toList c.opening + 2 ≤ o ∧
    MarkBytesAt '*' '/' text.toList o} (byteOffset text.toList c.closing)
  behind : byteOffset text.toList (c.closing + 2) = byteOffset text.toList c.closing + 2
  stop : byteOffset text.toList (c.stop text.toList) =
    byteOffset text.toList c.closing + 2 + Comment.breakLength text.toList (c.closing + 2)
  boundary : ∀ o ∈ [byteOffset text.toList c.opening, byteOffset text.toList c.opening + 2,
    byteOffset text.toList c.closing, byteOffset text.toList c.closing + 2,
    byteOffset text.toList c.closing + 2 + Comment.breakLength text.toList (c.closing + 2)],
    String.Pos.Raw.IsValid text ⟨o⟩

theorem Comment.IsNext.slicedAt (h : c.IsNext text.toList k) : c.SlicedAt text k := by
  have hcontent := h.opening.1.2.byteOffset_add_two (by decide) (by decide)
  have hbehind := h.closing.1.2.byteOffset_add_two (by decide) (by decide)
  have hstop : byteOffset text.toList (c.stop text.toList) =
      byteOffset text.toList c.closing + 2 + Comment.breakLength text.toList (c.closing + 2) := by
    rw [← hbehind]
    exact byteOffset_add_breakLength _ _
  refine ⟨isLeast_markBytesAt (by decide) (by decide) h.opening, hcontent, ?_, hbehind, hstop, ?_⟩
  · rw [← hcontent]
    exact isLeast_markBytesAt (by decide) (by decide) h.closing
  · rw [← hstop, ← hcontent, ← hbehind]
    simp only [List.forall_mem_cons, List.not_mem_nil, false_imp_iff, implies_true, and_true]
    exact ⟨isValid_byteOffset _ _, isValid_byteOffset _ _, isValid_byteOffset _ _,
      isValid_byteOffset _ _, isValid_byteOffset _ _⟩

/-- Wherever the bytes of an opening mark are found, a slice may start behind them. -/
theorem isValid_of_markBytesAt {o : Nat} (h : MarkBytesAt '/' '*' text.toList o) :
    String.Pos.Raw.IsValid text ⟨o⟩ ∧ String.Pos.Raw.IsValid text ⟨o + 2⟩ := by
  obtain ⟨i, rfl, hi⟩ := (markBytesAt_iff (by decide) (by decide)).1 h
  rw [← hi.byteOffset_add_two (by decide) (by decide)]
  exact ⟨isValid_byteOffset _ _, isValid_byteOffset _ _⟩

end

/-! ### The source -/

/-- **A source is what a text gives when it is cut behind a comment**: the header ends with the
comment and the line break that follows it directly, and the metadata is what is in the comment. -/
structure Source.CutBehind (s : Source) (cs : List Char) (c : Comment) : Prop where
  header : s.header.toList = cs.take (c.stop cs)
  json : Text.IsTrimmed (c.content cs) s.json.toList
  body : s.body.toList = cs.drop (c.stop cs)

/-- There is just one source that a text is cut to. -/
theorem Source.cutBehind_iff {s : Source} {cs : List Char} {c : Comment} : s.CutBehind cs c ↔
    s = ⟨.ofList (cs.take (c.stop cs)), .ofList (Text.trim (c.content cs)),
      .ofList (cs.drop (c.stop cs))⟩ := by
  constructor
  · rintro ⟨hheader, hjson, hbody⟩
    cases s
    rw [← hheader, ← hjson.eq_trim, ← hbody]
    simp only [String.ofList_toList]
  · rintro rfl
    refine ⟨String.toList_ofList, ?_, String.toList_ofList⟩
    rw [String.toList_ofList]
    exact Text.isTrimmed_trim _

namespace Source

variable {text : String} {c : Comment} {skipped : List Comment} {k : Nat}

theorem ofText_of_isNext (hskips : Skips text.toList 0 skipped k) (hnext : c.IsNext text.toList k)
    (hholds : c.HoldsMetadata text.toList) : ofText text =
      .ok ⟨.ofList (text.toList.take (c.stop text.toList)),
        .ofList (Text.trim (c.content text.toList)),
        .ofList (text.toList.drop (c.stop text.toList))⟩ := by
  have hread := hskips.splitSource_eq
  rw [List.drop_zero, List.drop_zero, splitSource_of_isNext hnext,
    if_pos (Comment.isMetadata_content_iff.2 hholds)] at hread
  have hle : k ≤ c.stop text.toList := Nat.le_trans hnext.le (Nat.le_add_right _ _)
  have hheader := drop_take_append_drop_take text.toList (Nat.zero_le k) hle
  simp only [List.drop_zero] at hheader
  rw [ofText, hread]
  simp only [Except.map, hheader]

theorem ofText_of_openFrom (hskips : Skips text.toList 0 skipped k)
    (hopen : OpenFrom text.toList k) : ofText text = .error (.parse .unterminatedComment) := by
  obtain ⟨i, hopening, hclosing⟩ := hopen
  have hread := hskips.splitSource_eq
  rw [List.drop_zero, splitSource_of_isOpen hopening hclosing] at hread
  rw [ofText, hread]
  rfl

theorem ofText_of_noneFrom (hskips : Skips text.toList 0 skipped k)
    (hnone : NoneFrom text.toList k) : ofText text = .error (.parse .noMetadata) := by
  have hread := hskips.splitSource_eq
  rw [List.drop_zero, splitSource_of_no_mark hnone] at hread
  rw [ofText, hread]
  rfl

/-- Reading a text has one of three results. -/
theorem exists_result (text : String) :
    (∃ skipped k c, Skips text.toList 0 skipped k ∧ c.IsNext text.toList k ∧
      c.HoldsMetadata text.toList ∧ ∃ s : Source, s.CutBehind text.toList c ∧ ofText text = .ok s) ∨
    (∃ skipped k, Skips text.toList 0 skipped k ∧ OpenFrom text.toList k ∧
      ofText text = .error (.parse .unterminatedComment)) ∨
    (∃ skipped k, Skips text.toList 0 skipped k ∧ NoneFrom text.toList k ∧
      ofText text = .error (.parse .noMetadata)) := by
  obtain ⟨skipped, k, hskips, ⟨c, hnext, hholds⟩ | hopen | hnone⟩ := exists_skips text.toList 0
  · exact .inl ⟨skipped, k, c, hskips, hnext, hholds, _, cutBehind_iff.2 rfl,
      ofText_of_isNext hskips hnext hholds⟩
  · exact .inr (.inl ⟨skipped, k, hskips, hopen, ofText_of_openFrom hskips hopen⟩)
  · exact .inr (.inr ⟨skipped, k, hskips, hnone, ofText_of_noneFrom hskips hnone⟩)

theorem ofText_eq_ok_iff {s : Source} : ofText text = .ok s ↔
    ∃ skipped k c, Skips text.toList 0 skipped k ∧ c.IsNext text.toList k ∧
      c.HoldsMetadata text.toList ∧ s.CutBehind text.toList c := by
  constructor
  · intro h
    rcases exists_result text with ⟨skipped, k, c, hskips, hnext, hholds, s', hcut, hread⟩ |
      ⟨_, _, _, _, hread⟩ | ⟨_, _, _, _, hread⟩ <;> rw [hread] at h <;> cases h
    exact ⟨skipped, k, c, hskips, hnext, hholds, hcut⟩
  · rintro ⟨skipped, k, c, hskips, hnext, hholds, hcut⟩
    rw [ofText_of_isNext hskips hnext hholds, cutBehind_iff.1 hcut]

theorem ofText_eq_unterminated_iff : ofText text = .error (.parse .unterminatedComment) ↔
    ∃ skipped k, Skips text.toList 0 skipped k ∧ OpenFrom text.toList k := by
  constructor
  · intro h
    rcases exists_result text with ⟨_, _, _, _, _, _, _, _, hread⟩ |
      ⟨skipped, k, hskips, hopen, -⟩ | ⟨_, _, _, _, hread⟩
    · rw [hread] at h
      cases h
    · exact ⟨skipped, k, hskips, hopen⟩
    · rw [hread] at h
      cases h
  · rintro ⟨skipped, k, hskips, hopen⟩
    exact ofText_of_openFrom hskips hopen

theorem ofText_eq_noMetadata_iff : ofText text = .error (.parse .noMetadata) ↔
    ∃ skipped k, Skips text.toList 0 skipped k ∧ NoneFrom text.toList k := by
  constructor
  · intro h
    rcases exists_result text with ⟨_, _, _, _, _, _, _, _, hread⟩ |
      ⟨_, _, _, _, hread⟩ | ⟨skipped, k, hskips, hnone, -⟩
    · rw [hread] at h
      cases h
    · rw [hread] at h
      cases h
    · exact ⟨skipped, k, hskips, hnone⟩
  · rintro ⟨skipped, k, hskips, hnone⟩
    exact ofText_of_noneFrom hskips hnone

/-- A text is refused for no other reason than these two. -/
theorem eq_of_ofText_eq_error {failure : Failure} (h : ofText text = .error failure) :
    failure = .parse .unterminatedComment ∨ failure = .parse .noMetadata := by
  rcases exists_result text with ⟨_, _, _, _, _, _, _, _, hread⟩ | ⟨_, _, _, _, hread⟩ |
    ⟨_, _, _, _, hread⟩ <;> rw [hread] at h <;> cases h
  · exact .inl rfl
  · exact .inr rfl

/-- Nothing is lost where a text is cut. -/
theorem CutBehind.append {s : Source} (h : s.CutBehind text.toList c) :
    s.header ++ s.body = text := by
  rw [← String.toList_inj, String.toList_append, h.header, h.body, List.take_append_drop]

/-- **When a source is accepted, and where it is cut.**  Comments are read from the front.  If the
first one that has no end or holds metadata does end, the source is cut behind it and nothing is
lost; if it does not end, or if there is none, the source is refused.  Every byte offset at which
the text is sliced on the way is the boundary of a character. -/
theorem ofText_cases (text : String) :
    (∀ s, ofText text = .ok s ↔ ∃ skipped k c, Skips text.toList 0 skipped k ∧
      c.IsNext text.toList k ∧ c.HoldsMetadata text.toList ∧ s.CutBehind text.toList c) ∧
    (∀ s, ofText text = .ok s → s.header ++ s.body = text) ∧
    (ofText text = .error (.parse .unterminatedComment) ↔
      ∃ skipped k, Skips text.toList 0 skipped k ∧ OpenFrom text.toList k) ∧
    (ofText text = .error (.parse .noMetadata) ↔
      ∃ skipped k, Skips text.toList 0 skipped k ∧ NoneFrom text.toList k) ∧
    (∀ failure, ofText text = .error failure →
      failure = .parse .unterminatedComment ∧
        failure.message = "unterminated comment before the metadata block" ∨
      failure = .parse .noMetadata ∧ failure.message = "no JSON metadata comment found") ∧
    (∀ (k : Nat) (c : Comment), c.IsNext text.toList k → c.SlicedAt text k) ∧
    (∀ o, MarkBytesAt '/' '*' text.toList o →
      String.Pos.Raw.IsValid text ⟨o⟩ ∧ String.Pos.Raw.IsValid text ⟨o + 2⟩) := by
  refine ⟨fun s => ofText_eq_ok_iff, fun s h => ?_, ofText_eq_unterminated_iff,
    ofText_eq_noMetadata_iff, fun failure h => ?_, fun k c h => h.slicedAt,
    fun o h => isValid_of_markBytesAt h⟩
  · obtain ⟨_, _, _, _, _, _, hcut⟩ := ofText_eq_ok_iff.1 h
    exact hcut.append
  · rcases eq_of_ofText_eq_error h with rfl | rfl
    · exact .inl ⟨rfl, rfl⟩
    · exact .inr ⟨rfl, rfl⟩

end Source

end ShaderEffect
