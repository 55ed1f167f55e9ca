/-
**The comment that holds the metadata.**

The source of an effect is a program with a comment in it whose contents start with a brace: the
metadata.  The source is cut behind that comment, and behind the line break after it.

Main definitions:

* `ShaderEffect.Source` — the two parts of a source, and the metadata;
* `ShaderEffect.splitMark` — a text cut at the first of two given characters in a row;
* `ShaderEffect.Source.ofText` — the source a text stands for.

Main results:

* `ShaderEffect.eq_of_splitMark` — cutting at a mark loses nothing.
-/

import ShaderEffect.Failure
import ShaderEffect.Text.Blank

set_option autoImplicit false

namespace ShaderEffect

/-- The source of an effect. -/
structure Source where
  /-- Everything up to the end of the metadata comment and the line break after it. -/
  header : String
  /-- The contents of the comment without the blanks around them. -/
  json : String
  /-- What follows. -/
  body : String

/-! ### Marks -/

/-- The text before and after the first place where `a` and `b` stand in a row. -/
def splitMark (a b : Char) : List Char → Option (List Char × List Char)
  | [] => none
  | [_] => none
  | x :: y :: rest =>
    if x = a ∧ y = b then some ([], rest)
    else (splitMark a b (y :: rest)).map fun r => (x :: r.1, r.2)

/-- Cutting at a mark loses nothing but the mark. -/
theorem eq_of_splitMark {a b : Char} :
    ∀ {cs before after : List Char}, splitMark a b cs = some (before, after) →
      cs = before ++ a :: b :: after
  | [], _, _, h => by simp [splitMark] at h
  | [_], _, _, h => by simp [splitMark] at h
  | x :: y :: rest, before, after, h => by
    unfold splitMark at h
    split at h
    · rename_i hxy
      obtain ⟨rfl, rfl⟩ := hxy
      simp only [Option.some.injEq, Prod.mk.injEq] at h
      obtain ⟨rfl, rfl⟩ := h
      rfl
    · obtain ⟨r, hr, he⟩ := Option.map_eq_some_iff.1 h
      simp only [Prod.mk.injEq] at he
      obtain ⟨rfl, rfl⟩ := he
      rw [eq_of_splitMark hr]
      rfl

theorem length_of_splitMark {a b : Char} {cs before after : List Char}
    (h : splitMark a b cs = some (before, after)) : after.length < cs.length := by
  rw [eq_of_splitMark h]
  simp only [List.length_append, List.length_cons]
  omega

/-! ### The metadata comment -/

/-- The line break at the front of a text, and the rest. -/
def splitLineBreak : List Char → List Char × List Char
  | '\r' :: '\n' :: rest => (['\r', '\n'], rest)
  | '\n' :: rest => (['\n'], rest)
  | cs => ([], cs)

/-- Whether the contents of a comment are metadata. -/
def isMetadata (content : List Char) : Bool :=
  match Text.trimLeft content with
  | '\x7b' :: _ => true
  | _ => false

/-- The header, the metadata and the body of a text. -/
def splitSource (cs : List Char) :
    Except MetadataFault (List Char × List Char × List Char) :=
  match _hOpen : splitMark '/' '*' cs with
  | none => .error .noMetadata
  | some (before, opened) =>
    match _hClose : splitMark '*' '/' opened with
    | none => .error .unterminatedComment
    | some (content, rest) =>
      let comment := before ++ '/' :: '*' :: content ++ ['*', '/']
      if isMetadata content then
        .ok (comment ++ (splitLineBreak rest).1, Text.trim content, (splitLineBreak rest).2)
      else
        match splitSource rest with
        | .error fault => .error fault
        | .ok (header, json, body) => .ok (comment ++ header, json, body)
termination_by cs.length
decreasing_by exact Nat.lt_trans (length_of_splitMark _hClose) (length_of_splitMark _hOpen)

/-- The source a text stands for. -/
def Source.ofText (text : String) : Except Failure Source :=
  match splitSource text.toList with
  | .error fault => .error (.parse fault)
  | .ok (header, json, body) => .ok ⟨.ofList header, .ofList json, .ofList body⟩

end ShaderEffect
