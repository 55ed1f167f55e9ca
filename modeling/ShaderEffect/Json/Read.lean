/-
**Reading free-form values.**

A value is a keyword, a number, a string, an array or an object.  Containers that are kept may be
nested up to a limit; those that are skipped may be nested without one.  The readers recurse on the
number of containers that may still be opened, and their loops on the characters that are left.

Main definitions:

* `ShaderEffect.Json.items`, `ShaderEffect.Json.members` — the contents of arrays and objects;
* `ShaderEffect.Json.value` — a value that is kept;
* `ShaderEffect.Json.skipValue` — a value that is not.
-/

import ShaderEffect.Json.Lexeme

set_option autoImplicit false

namespace ShaderEffect.Json

/-- How many containers may be open at once. -/
def maxNesting : Nat := 127

/-! ### Containers -/

/-- What follows an item of a container: `close` ends the container, and after a comma comes another
item.  Each item changes a state. -/
def foldMore {σ : Type} (close : Char) (step : σ → Reader σ) (state : σ) : Reader σ := fun cs =>
  match h : skipSpace cs with
  | [] => .error .malformed
  | c :: rest =>
    have hlt : rest.length < cs.length := by
      have := length_skipSpace_le cs
      rw [h, List.length_cons] at this
      omega
    if c = close then .ok ⟨state, rest, hlt⟩
    else if c = ',' then
      match step state rest with
      | .error fault => .error fault
      | .ok r =>
        match foldMore close step r.value r.rest with
        | .error fault => .error fault
        | .ok r' =>
          .ok ⟨r'.value, r'.rest, Nat.lt_trans r'.shorter (Nat.lt_trans r.shorter hlt)⟩
    else .error .malformed
termination_by cs => cs.length
decreasing_by exact Nat.lt_trans r.shorter hlt

/-- The contents of a container after its opening character, up to `close`. -/
def foldContents {σ : Type} (close : Char) (step : σ → Reader σ) (state : σ) : Reader σ := fun cs =>
  match h : skipSpace cs with
  | [] => .error .malformed
  | c :: rest =>
    have hle : (c :: rest).length ≤ cs.length := length_le_of_skipSpace h
    if c = close then .ok ⟨state, rest, hle⟩
    else
      match step state (c :: rest) with
      | .error fault => .error fault
      | .ok r =>
        match foldMore close step r.value r.rest with
        | .error fault => .error fault
        | .ok r' =>
          .ok ⟨r'.value, r'.rest, Nat.lt_of_lt_of_le (Nat.lt_trans r'.shorter r.shorter) hle⟩

/-- The contents of a container as a list. -/
def contents {α : Type} (close : Char) (item : Reader α) : Reader (List α) := fun cs =>
  let step : List α → Reader (List α) := fun before cs =>
    match item cs with
    | .error fault => .error fault
    | .ok r => .ok (r.map (· :: before))
  match foldContents close step [] cs with
  | .error fault => .error fault
  | .ok r => .ok (r.map List.reverse)

/-- A key: an opening quote, and what `body` reads after it. -/
def key {α : Type} (body : Reader α) : Reader α := spaced fun c cs =>
  if c = '"' then inside body id c cs else .error .malformed

/-- The colon between a key and its value. -/
def colon : Reader Unit := spaced fun c _ =>
  if c = ':' then .ok (.ofHead ()) else .error .malformed

/-- A key, a colon and a value. -/
def member {α β : Type} (keyBody : Reader α) (item : Reader β) : Reader (α × β) := fun cs =>
  match key keyBody cs with
  | .error fault => .error fault
  | .ok k =>
    match colon k.rest with
    | .error fault => .error fault
    | .ok c =>
      match item c.rest with
      | .error fault => .error fault
      | .ok v => .ok ⟨(k.value, v.value), v.rest,
          Nat.lt_trans v.shorter (Nat.lt_trans c.shorter k.shorter)⟩

/-- The items of an array after its opening bracket. -/
def items {α : Type} (item : Reader α) : Reader (List α) := contents ']' item

/-- The members of an object after its opening brace. -/
def members {α β : Type} (keyBody : Reader α) (item : Reader β) : Reader (List (α × β)) :=
  contents '\x7d' (member keyBody item)

/-! ### Values that are kept -/

/-- The members of an object, each key with its last value. -/
def mergeMembers (ms : List (String × Json)) : List (String × Json) :=
  ms.foldl (fun kept m => putMember m.1 m.2 kept) []

/-- A value, where `inner` reads the values inside a container, if one may be opened. -/
def valueWith (inner : Option (Reader Json)) : Reader Json := spaced fun c cs =>
  if c = 'n' then keyword .null ['u', 'l', 'l'] c cs
  else if c = 't' then keyword (.bool true) ['r', 'u', 'e'] c cs
  else if c = 'f' then keyword (.bool false) ['a', 'l', 's', 'e'] c cs
  else if c = '"' then inside stringBody .text c cs
  else if c = '[' then
    match inner with
    | none => .error .malformed
    | some item => inside (items item) .array c cs
  else if c = '\x7b' then
    match inner with
    | none => .error .malformed
    | some item => inside (members stringBody item) (fun ms => .object (mergeMembers ms)) c cs
  else
    match numberLexeme (c :: cs) with
    | .error fault => .error fault
    | .ok r => .ok (r.map .number)

/-- A value, in which so many containers may be open at once. -/
def value : Nat → Reader Json
  | 0 => valueWith none
  | n + 1 => valueWith (some (value n))

/-! ### Values that are skipped -/

/-- A value that is not kept, where `inner` skips the values inside a container. -/
def skipWith (inner : Reader Unit) : Reader Unit := spaced fun c cs =>
  if c = 'n' then keyword () ['u', 'l', 'l'] c cs
  else if c = 't' then keyword () ['r', 'u', 'e'] c cs
  else if c = 'f' then keyword () ['a', 'l', 's', 'e'] c cs
  else if c = '"' then inside skipStringBody id c cs
  else if c = '[' then inside (items inner) (fun _ => ()) c cs
  else if c = '\x7b' then inside (members skipStringBody inner) (fun _ => ()) c cs
  else
    match numeral (c :: cs) with
    | .error fault => .error fault
    | .ok r => .ok (r.map fun _ => ())

/-- Skips a value in which fewer than so many containers are open at once. -/
def skipNested : Nat → Reader Unit
  | 0 => fun _ => .error .malformed
  | n + 1 => skipWith (skipNested n)

/-- Whether the first lexeme of a text opens a container. -/
def opensContainer (cs : List Char) : Bool :=
  match skipSpace cs with
  | '[' :: _ => true
  | '\x7b' :: _ => true
  | _ => false

/-- Skips a value.  A text cannot open more containers than it has characters, and a value that is
none opens none. -/
def skipValue : Reader Unit := fun cs =>
  skipNested (if opensContainer cs then cs.length + 1 else 1) cs

end ShaderEffect.Json
