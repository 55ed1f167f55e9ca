/-
**Reading documents.**

A document is read from the texts of its programs, or from a file that holds the fragment program;
the vertex program stands in a file of the same name beside it.  A lenient reading never fails: in
place of a failure it gives an empty document that remembers it, and a warning.

Main definitions:

* `ShaderEffect.Document.ofTexts`, `ShaderEffect.Document.ofFile` — reading from texts and from
  files;
* `ShaderEffect.Document.ofTextsLenient`, `ShaderEffect.Document.ofFileLenient` — the same without
  failing.
-/

import ShaderEffect.Document.Basic
import ShaderEffect.Files.Disk

set_option autoImplicit false

namespace ShaderEffect.Document

/-- The body of the vertex program of an effect that has none of its own. -/
def standardVertex : String := "void main() \x7b\n\tisf_vertShaderInit();\n\x7d\n"

/-- The empty document of an effect that could not be read. -/
def invalid (failure : Failure) (path : Option String) (directory : String) : Document :=
  { Metadata.empty with
    path := path
    source := ⟨"", "", ""⟩
    vertex := ""
    importsDirectory := directory
    failure := some failure
    parent := none }

/-- The document of the texts of its programs, where imported images stand below a directory. -/
def ofTexts (fragment : String) (vertex : Option String) (directory : String) :
    Report Document := do
  let source ← Report.ofExcept (Source.ofText fragment)
  let metadata ← Metadata.ofText directory source.json
  return { metadata with
    path := none
    source := source
    vertex := vertex.getD standardVertex
    importsDirectory := directory
    failure := none
    parent := none }

/-! ### Files -/

/-- The extensions of the files that may hold the vertex program, in the order of preference. -/
def vertexExtensions : List String := ["vs", "vert"]

/-- The paths of the files that may hold the vertex program that belongs to a file. -/
def vertexPaths (path : String) : List String := vertexExtensions.map (Path.withExtension path)

/-- The text of the vertex program that belongs to a file, if there is a file for it. -/
def vertexText (disk : Disk) (path : String) : Except Failure (Option String) :=
  match (vertexPaths path).find? disk.isFile with
  | none => .ok none
  | some file => (disk.text file).map some

/-- The document of a file. -/
def ofFile (disk : Disk) (path : String) : Report Document := do
  let fragment ← Report.ofExcept (disk.text path)
  let vertex ← Report.ofExcept (vertexText disk path)
  let d ← ofTexts fragment vertex (Path.parent path)
  return { d with path := some path }

/-! ### Lenient readings -/

/-- What came out, or an empty document and one more warning. -/
def orInvalid (r : Report Document) (path : Option String) (directory : String) :
    List Warning × Document :=
  match r.result with
  | .ok d => (r.warnings, d)
  | .error failure =>
    (r.warnings ++ [.loadFailed path failure.display], invalid failure path directory)

/-- The document of texts, empty if they cannot be read. -/
def ofTextsLenient (fragment : String) (vertex : Option String) (directory : String) :
    List Warning × Document :=
  orInvalid (ofTexts fragment vertex directory) none directory

/-- The document of a file, empty if it cannot be read. -/
def ofFileLenient (disk : Disk) (path : String) : List Warning × Document :=
  orInvalid (ofFile disk path) (some path) (Path.parent path)

end ShaderEffect.Document
