/-
**Reading records.**

Where the metadata of an effect has a fixed form, it is read straight from the text.  A record is an
object whose members have known names, or an array of the values in order.  Members with other names
are skipped.

Main definitions:

* `ShaderEffect.Json.Decoder` — a reader under a limit on nesting;
* `ShaderEffect.Json.string`, `ShaderEffect.Json.boolean`, `ShaderEffect.Json.natural`,
  `ShaderEffect.Json.optional`, `ShaderEffect.Json.sequence` — readers of the simple forms;
* `ShaderEffect.Json.RecordField`, `ShaderEffect.Json.record` — the members of a record, and a
  record;
* `ShaderEffect.Json.decode` — a whole text.
-/

import ShaderEffect.Json.Read

set_option autoImplicit false

namespace ShaderEffect.Json

/-- A reader that may still open so many containers. -/
abbrev Decoder (α : Type) : Type := Nat → Reader α

/-! ### What stands where something else was expected -/

/-- What a value that starts with `c` is.  Of a container only the opening is looked at. -/
def foundAt (c : Char) (cs : List Char) : Except Fault Found :=
  if c = 'n' then (keyword Found.null ['u', 'l', 'l'] c cs).map Reading.value
  else if c = 't' then (keyword (Found.boolean true) ['r', 'u', 'e'] c cs).map Reading.value
  else if c = 'f' then (keyword (Found.boolean false) ['a', 'l', 's', 'e'] c cs).map Reading.value
  else if c = '"' then (stringBody cs).map fun r => Found.string r.value
  else if c = '[' then .ok .sequence
  else if c = '\x7b' then .ok .map
  else (numberLexeme (c :: cs)).map fun r => Found.number r.value

/-- The fault of a value that starts with `c` where `wanted` was expected. -/
def wrongType (wanted : String) (c : Char) (cs : List Char) : Fault :=
  match foundAt c cs with
  | .error fault => fault
  | .ok found => .invalidType found wanted

/-! ### Simple forms -/

/-- A string. -/
def string : Decoder String := fun _ => spaced fun c cs =>
  if c = '"' then inside stringBody id c cs else .error (wrongType "a string" c cs)

/-- A truth value. -/
def boolean : Decoder Bool := fun _ => spaced fun c cs =>
  if c = 't' then keyword true ['r', 'u', 'e'] c cs
  else if c = 'f' then keyword false ['a', 'l', 's', 'e'] c cs
  else .error (wrongType "a boolean" c cs)

/-- A whole number that is not negative and at most `limit`. -/
def natural (wanted : String) (limit : Nat) : Decoder Nat := fun _ => spaced fun c cs =>
  if c = '-' ∨ Decimal.isDigit c then
    match numberLexeme (c :: cs) with
    | .error fault => .error fault
    | .ok r =>
      match r.value with
      | .whole n =>
        if 0 ≤ n ∧ n ≤ limit then .ok (r.map fun _ => n.toNat)
        else .error (.invalidValue (.number r.value) wanted)
      | .decimal _ => .error (.invalidType (.number r.value) wanted)
  else .error (wrongType wanted c cs)

/-- A null, or something. -/
def optional {α : Type} (d : Decoder α) : Decoder (Option α) := fun levels => spaced fun c cs =>
  if c = 'n' then keyword none ['u', 'l', 'l'] c cs
  else
    match d levels (c :: cs) with
    | .error fault => .error fault
    | .ok r => .ok (r.map some)

/-- An array of values of one form. -/
def sequence {α : Type} (d : Decoder α) : Decoder (List α) := fun levels => spaced fun c cs =>
  if c = '[' then
    match levels with
    | 0 => .error .malformed
    | n + 1 => inside (items (d n)) id c cs
  else .error (wrongType "a sequence" c cs)

/-- One of several names, alone or as the only key of an object whose value is null. -/
def oneOf {α : Type} (wanted : String) (named : String → Option α) : Decoder α := fun levels =>
  spaced fun c cs =>
    if c = '"' then
      match stringBody cs with
      | .error fault => .error fault
      | .ok r =>
        match named r.value with
        | none => .error (.invalidValue (.string r.value) wanted)
        | some a => .ok ((r.map fun _ => a).behind c)
    else if c = '\x7b' then
      match levels with
      | 0 => .error .malformed
      | _ + 1 =>
        let null : Reader Unit := spaced fun c cs =>
          if c = 'n' then keyword () ['u', 'l', 'l'] c cs
          else .error (wrongType "null" c cs)
        match members stringBody null cs with
        | .error fault => .error fault
        | .ok r =>
          match r.value with
          | [(name, _)] =>
            match named name with
            | none => .error (.invalidValue (.string name) wanted)
            | some a => .ok ((r.map fun _ => a).behind c)
          | _ => .error .malformed
    else .error (wrongType wanted c cs)

/-! ### Records -/

/-- What the absence of a member means. -/
inductive Presence where
  /-- The record is refused. -/
  | required
  /-- The member is null in an object; an array has to have it. -/
  | nullable
  /-- The member has its default. -/
  | defaulted
  deriving DecidableEq

/-- A member of a record of type `α`. -/
structure RecordField (α : Type) where
  /-- The name of the member. -/
  key : String
  /-- What its absence means. -/
  presence : Presence
  /-- Reads the value and stores it. -/
  read : Decoder (α → α)

/-- The value of a form, stored by `put`. -/
def RecordField.of {α β : Type} (key : String) (presence : Presence) (d : Decoder β)
    (put : β → α → α) : RecordField α :=
  ⟨key, presence, fun levels cs =>
    match d levels cs with
    | .error fault => .error fault
    | .ok r => .ok (r.map put)⟩

/-- One member of an object: a known name may come once, and any other is skipped. -/
def recordMember {α : Type} (fields : List (RecordField α)) (levels : Nat)
    (state : α × List String) : Reader (α × List String) := fun cs =>
  match key stringBody cs with
  | .error fault => .error fault
  | .ok name =>
    match fields.find? (·.key = name.value) with
    | none =>
      match colon name.rest with
      | .error fault => .error fault
      | .ok c =>
        match skipValue c.rest with
        | .error fault => .error fault
        | .ok r => .ok ⟨state, r.rest, Nat.lt_trans r.shorter (Nat.lt_trans c.shorter name.shorter)⟩
    | some field =>
      if field.key ∈ state.2 then .error (.duplicateField field.key)
      else
        match colon name.rest with
        | .error fault => .error fault
        | .ok c =>
          match field.read levels c.rest with
          | .error fault => .error fault
          | .ok r =>
            .ok ⟨(r.value state.1, field.key :: state.2), r.rest,
              Nat.lt_trans r.shorter (Nat.lt_trans c.shorter name.shorter)⟩

/-- The first required member that an object lacks. -/
def missing? {α : Type} (fields : List (RecordField α)) (seen : List String) : Option String :=
  (fields.find? fun f => f.presence = .required ∧ f.key ∉ seen).map RecordField.key

/-- The values of a record given as an array, in order, after the opening bracket.  An array that is
too short is refused at the first member that has no default. -/
def recordItems {α : Type} (wanted : String) (levels : Nat) :
    (fields : List (RecordField α)) → (index : Nat) → (state : α) → Reader α
  | [], _, state => spaced fun c cs =>
    if c = ']' then .ok (.ofHead state) else .error .malformed
  | field :: fields, index, state => fun cs =>
    match h : skipSpace cs with
    | [] => .error .malformed
    | c :: rest =>
      have hle : (c :: rest).length ≤ cs.length := length_le_of_skipSpace h
      if c = ']' then
        if field.presence = .defaulted then
          recordItems wanted levels fields (index + 1) state cs
        else .error (.invalidLength index wanted)
      else if 0 < index ∧ c ≠ ',' then .error .malformed
      else
        match field.read levels (if index = 0 then c :: rest else rest) with
        | .error fault => .error fault
        | .ok r =>
          have hr : r.rest.length < cs.length := by
            have := r.shorter
            split at this
            · exact Nat.lt_of_lt_of_le this hle
            · rw [List.length_cons] at hle
              omega
          match recordItems wanted levels fields (index + 1) (r.value state) r.rest with
          | .error fault => .error fault
          | .ok r' => .ok ⟨r'.value, r'.rest, Nat.lt_trans r'.shorter hr⟩

/-- How many elements a record has, in words. -/
def lengthText (name : String) (n : Nat) : String :=
  name ++ " with " ++ toString n ++ (if n = 1 then " element" else " elements")

/-- A record, as an object or as an array. -/
def record {α : Type} (name : String) (fields : List (RecordField α)) (start : α) : Decoder α :=
  fun levels => spaced fun c cs =>
    if c = '[' then
      match levels with
      | 0 => .error .malformed
      | n + 1 => inside (recordItems (lengthText name fields.length) n fields 0 start) id c cs
    else if c = '\x7b' then
      match levels with
      | 0 => .error .malformed
      | n + 1 =>
        match foldContents '\x7d' (recordMember fields n) (start, []) cs with
        | .error fault => .error fault
        | .ok r =>
          match missing? fields r.value.2 with
          | some key => .error (.missingField key)
          | none => .ok ((r.map Prod.fst).behind c)
    else .error (wrongType name c cs)

/-! ### Whole texts -/

/-- What a whole text stands for. -/
def decode {α : Type} (d : Decoder α) (text : String) : Except Fault α :=
  match d maxNesting text.toList with
  | .error fault => .error fault
  | .ok r => if (skipSpace r.rest).isEmpty then .ok r.value else .error .malformed

end ShaderEffect.Json
