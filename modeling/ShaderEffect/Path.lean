/-
**Paths.**

A path is a text of components with slashes between them.  Empty components and single dots do not
count, but for a dot at the very front.

Main definitions:

* `ShaderEffect.Path.join` — a path below a directory;
* `ShaderEffect.Path.parent`, `ShaderEffect.Path.stem`, `ShaderEffect.Path.withExtension` — the
  directory of a file, its name without extension, and a file of the same name beside it.
-/

set_option autoImplicit false

namespace ShaderEffect.Path

/-- A path below a directory; an absolute path stays as it is. -/
def join (directory path : String) : String :=
  if path.toList.head? = some '/' then path
  else if directory.isEmpty || directory.toList.getLast? = some '/' then directory ++ path
  else directory ++ "/" ++ path

/-! ### The last component -/

/-- The start of a path that belongs to no component: the root, or a dot at the front. -/
def lead : List Char → List Char
  | '/' :: _ => ['/']
  | ['.'] => ['.']
  | '.' :: '/' :: _ => ['.']
  | _ => []

/-- Whether a component does not count. -/
def isTrivial (component : List Char) : Bool := component.isEmpty || component == ['.']

/-- The component at the end of a path written backwards, and what stands before it. -/
def lastOf (r : List Char) : List Char × List Char :=
  ((r.takeWhile (· != '/')).reverse, r.dropWhile (· != '/'))

theorem length_drop_lastOf_lt {r : List Char} (h : r ≠ []) :
    ((lastOf r).2.drop 1).length < r.length := by
  have hle : (r.dropWhile (· != '/')).length ≤ r.length := (List.dropWhile_suffix _).length_le
  have hpos : 0 < r.length := List.length_pos_iff.2 h
  simp only [lastOf, List.length_drop]
  omega

/-- The last component that counts of a path written backwards, and what stands before it. -/
def lastCounting (r : List Char) : Option (List Char × List Char) :=
  if _h : r = [] then none
  else if isTrivial (lastOf r).1 then lastCounting ((lastOf r).2.drop 1)
  else some (lastOf r)
termination_by r.length
decreasing_by exact length_drop_lastOf_lt _h

/-- A path written backwards without trailing components that do not count. -/
def dropTrivial (r : List Char) : List Char :=
  if _h : r = [] then []
  else if isTrivial (lastOf r).1 then dropTrivial ((lastOf r).2.drop 1)
  else r
termination_by r.length
decreasing_by exact length_drop_lastOf_lt _h

/-- The part of a path after its lead, written backwards. -/
def bodyReversed (path : List Char) : List Char := (path.drop (lead path).length).reverse

/-- The directory that contains what a path names. -/
def parent (path : String) : String :=
  let cs := path.toList
  match lastCounting (bodyReversed cs) with
  | none => ""
  | some (_, before) => String.ofList (lead cs ++ (dropTrivial before).reverse)

/-- The name at the end of a path. -/
def fileName? (path : List Char) : Option (List Char) :=
  match lastCounting (bodyReversed path) with
  | none => none
  | some (name, _) => if name = ['.', '.'] then none else some name

/-- A name without its extension: what stands before the last dot, unless nothing does. -/
def stemOf (name : List Char) : List Char :=
  let before := (name.reverse.dropWhile (· != '.')).drop 1
  if before.isEmpty then name else before.reverse

/-- The name at the end of a path without its extension. -/
def stem (path : String) : String :=
  match fileName? path.toList with
  | none => ""
  | some name => String.ofList (stemOf name)

/-- The path of a file with another extension.  A name of two dots is that of a directory, which has
none; that is so, too, if nothing but the two dots is left without the old extension. -/
def withExtension (path extension : String) : String :=
  let cs := path.toList
  match lastCounting (bodyReversed cs) with
  | none => path
  | some (name, before) =>
    let front := lead cs ++ before.reverse
    if name = ['.', '.'] then path
    else if stemOf name = ['.'] then String.ofList (front ++ ['.', '.'])
    else String.ofList (front ++ stemOf name) ++ "." ++ extension

end ShaderEffect.Path
