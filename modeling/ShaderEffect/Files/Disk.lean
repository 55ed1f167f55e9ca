/-
**Reading files.**

Main definitions:

* `ShaderEffect.Disk` — what reading a path gives;
* `ShaderEffect.Disk.isFile` — whether a path names a file;
* `ShaderEffect.Disk.ofList` — a disk of which some paths have been read.
-/

import ShaderEffect.Failure

set_option autoImplicit false

namespace ShaderEffect

/-- Where texts are read from. -/
structure Disk where
  /-- The text of the file that a path names. -/
  read : String → Except FileFault String

namespace Disk

/-- Whether a path names a file, be it a text or not. -/
def isFile (disk : Disk) (path : String) : Bool :=
  match disk.read path with
  | .ok _ => true
  | .error .notText => true
  | .error (.device _) => true
  | .error _ => false

/-- The text of a file, or the failure to read it. -/
def text (disk : Disk) (path : String) : Except Failure String :=
  match disk.read path with
  | .ok text => .ok text
  | .error fault => .error (.fileIo path fault)

/-- A disk of which only these paths have been read. -/
def ofList (readings : List (String × Except FileFault String)) : Disk where
  read path := (readings.lookup path).getD (.error .notFound)

end Disk

end ShaderEffect
