/-
**The command line.**

Reads the files that an inspection may need, and writes what it says: the inspection to the output,
warnings and what stopped it to the error stream.
-/

import ShaderEffect.Inspection.Basic

set_option autoImplicit false

namespace ShaderEffect

/-- Why reading failed. -/
def FileFault.ofError : IO.Error → FileFault
  | .noFileOrDirectory .. => .notFound
  | .inappropriateType _ 20 _ => .notDirectory
  | .inappropriateType _ 21 _ => .isDirectory
  | .invalidArgument _ 36 _ => .tooLong
  | e => .device (toString e)

/-- Reads a file. -/
def Disk.readFile (path : String) : IO (String × Except FileFault String) := do
  try
    let content ← IO.FS.readBinFile path
    return (path, match String.fromUTF8? content with
      | some text => .ok text
      | none => .error .notText)
  catch e => return (path, .error (.ofError e))

end ShaderEffect

open ShaderEffect

/-- Inspects an effect.  The status is 0 for success, 1 for a failure, and 2 for a command line that
is refused. -/
def main (arguments : List String) : IO UInt32 := do
  match Request.ofArguments arguments with
  | .error fault =>
    IO.eprintln ("error: " ++ fault.message)
    return 2
  | .ok request =>
    let disk := Disk.ofList (← (Inspection.paths request).mapM Disk.readFile)
    let inspection := Inspection.ofRequest disk request
    for warning in inspection.warnings do
      IO.eprintln ("warning: " ++ warning.message)
    if request.verbose then
      IO.eprintln ("effect: " ++ request.input)
    IO.print inspection.output
    match inspection.fault with
    | none => return 0
    | some fault =>
      IO.eprintln ("Error: " ++ fault.describe)
      return 1
