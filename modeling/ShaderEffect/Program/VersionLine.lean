/-
**Version lines in bodies.**

A program states the version of its language once, in its first line.  Lines of a body that state a
version are therefore dropped.

Main definitions:

* `ShaderEffect.isVersionLine` — whether a line states a version;
* `ShaderEffect.dropVersionLines` — a body without such lines.
-/

import ShaderEffect.Text.Front

set_option autoImplicit false

namespace ShaderEffect

/-- Whether a line states a version: after spaces and tabs it starts with the directive. -/
def isVersionLine (line : List Char) : Bool :=
  (Text.after? "#version".toList (line.dropWhile fun c => c == ' ' || c == '\t')).isSome

/-- A text without the lines that state a version, each with the line break that ends it. -/
def dropVersionLines (cs : List Char) : List Char :=
  let line := cs.takeWhile (· != '\n')
  match _h : cs.dropWhile (· != '\n') with
  | [] => if isVersionLine line then [] else line
  | lineBreak :: rest =>
    if isVersionLine line then dropVersionLines rest
    else line ++ lineBreak :: dropVersionLines rest
termination_by cs.length
decreasing_by
  all_goals
    have := (List.dropWhile_suffix (· != '\n') (l := cs)).length_le
    rw [_h, List.length_cons] at this
    omega

end ShaderEffect
