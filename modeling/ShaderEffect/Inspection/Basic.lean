/-
**Inspecting an effect.**

An inspection writes what an effect is, the sizes of its targets, and its programs.  It stops where
something fails; what was written before stays.

Main definitions:

* `ShaderEffect.Inspection` — what is written, and what stopped the inspection;
* `ShaderEffect.Inspection.ofRequest` — the inspection that is asked for.
-/

import ShaderEffect.Document.Open
import ShaderEffect.Inspection.Request

set_option autoImplicit false

namespace ShaderEffect

/-- What stops an inspection. -/
inductive InspectionFault where
  /-- The file of the settings cannot be read. -/
  | settingsFile (fault : FileFault)
  | failure (failure : Failure)

/-- What stopped an inspection, in full. -/
def InspectionFault.describe : InspectionFault → String
  | settingsFile fault => fault.describe
  | failure f => f.describe

/-- What an inspection wrote. -/
structure Inspection where
  /-- What is written. -/
  output : String
  /-- What is warned about. -/
  warnings : List Warning
  /-- What stopped the inspection. -/
  fault : Option InspectionFault

namespace Inspection

/-- The settings in a file. -/
def settingsIn (disk : Disk) (path : String) : Except InspectionFault SceneSettings :=
  match disk.read path with
  | .error fault => .error (.settingsFile fault)
  | .ok text =>
    match SceneSettings.ofText text with
    | .error fault => .error (.failure (.parse (.form fault)))
    | .ok settings => .ok settings

/-- The settings of a request: those of its file, but for what its options say. -/
def settingsOf (disk : Disk) (r : Request) : Except InspectionFault SceneSettings :=
  let adjust (s : SceneSettings) : SceneSettings :=
    ⟨r.dialect.getD s.dialect, s.uniformBlock || r.uniformBlock⟩
  match r.config with
  | none => .ok (adjust .standard)
  | some path => (settingsIn disk path).map adjust

/-- The lines about the sizes of the targets, and the shapes of the samplers. -/
def sizesText (d : Document) : String :=
  String.join (d.sizes.map fun s => "    " ++ s.1 ++ ": " ++ s.2.text ++ "\n") ++
    "  texture types: " ++ d.textureTypes ++ "\n"

/-- A program with a line above it. -/
def programText (stage : String) (d : Dialect) (source : String) : String :=
  "// ---- " ++ stage ++ " (" ++ d.name ++ ") ----\n" ++ source ++ "\n"

/-- The programs. -/
def programsText (d : Dialect) (source : ProgramSource) : String :=
  "\n" ++ programText "vertex" d source.vertex ++ programText "fragment" d source.fragment

/-- What is written about a document, and the failure that stopped it. -/
def ofDocument (d : Document) (r : Request) (settings : SceneSettings) :
    String × Option Failure :=
  let start := d.text ++ "  resolved at " ++ r.renderSize.text ++ ":\n"
  match d.resize r.renderSize with
  | .error failure => (start, some failure)
  | .ok d =>
    let whole := start ++ sizesText d
    if r.summary then (whole, none)
    else
      match d.generate settings with
      | .error failure => (whole, some failure)
      | .ok source => (whole ++ programsText settings.dialect source, none)

/-- The inspection that is asked for.  The settings are read before the effect. -/
def ofRequest (disk : Disk) (r : Request) : Inspection :=
  match settingsOf disk r with
  | .error fault => ⟨"", [], some fault⟩
  | .ok settings =>
    let report := Document.ofFile disk r.input
    match report.result with
    | .error failure => ⟨"", report.warnings, some (.failure failure)⟩
    | .ok d =>
      let (output, failure) := ofDocument d r settings
      ⟨output, report.warnings, failure.map .failure⟩

/-- The paths that the inspection may read. -/
def paths (r : Request) : List String :=
  r.config.toList ++ r.input :: Document.vertexPaths r.input

end Inspection

end ShaderEffect
