/-
**Settings of scenes and pools.**

Hosts keep settings as JSON, in which every member may be left out.

Main definitions:

* `ShaderEffect.SceneSettings` — the dialect of programs, and whether uniforms stand in a block;
* `ShaderEffect.PoolSettings` — how long idle buffers are kept.
-/

import ShaderEffect.Dialect
import ShaderEffect.Json.Record

set_option autoImplicit false

namespace ShaderEffect

/-- How the programs of a scene are written. -/
structure SceneSettings where
  /-- The dialect of the programs. -/
  dialect : Dialect
  /-- Whether the inputs other than images stand in a block of uniforms. -/
  uniformBlock : Bool
  deriving DecidableEq, Repr

namespace SceneSettings

/-- The settings of a scene about which nothing is said. -/
def standard : SceneSettings := ⟨.gl4, false⟩

/-- Reads a dialect. -/
def dialectDecoder : Json.Decoder Dialect := fun levels cs =>
  match Json.string levels cs with
  | .error fault => .error fault
  | .ok r =>
    match Dialect.ofName? r.value with
    | none => .error (.unknownDialect (Dialect.unknownMessage r.value))
    | some d => .ok (r.map fun _ => d)

/-- Reads the settings of a scene. -/
def decoder : Json.Decoder SceneSettings :=
  Json.record "struct SceneConfig"
    [.of "glVersion" .defaulted dialectDecoder fun d s => { s with dialect := d },
      .of "useUniformBlock" .defaulted Json.boolean fun b s => { s with uniformBlock := b }]
    standard

/-- The settings that a text stands for. -/
def ofText (text : String) : Except Json.Fault SceneSettings := Json.decode decoder text

/-- The written form of the settings. -/
def toJson (s : SceneSettings) : Json :=
  .object [("glVersion", .text s.dialect.name), ("useUniformBlock", .bool s.uniformBlock)]

end SceneSettings

/-- How long a pool keeps idle buffers. -/
structure PoolSettings where
  /-- The number of rounds of housekeeping after which an idle buffer is destroyed. -/
  maxIdle : Nat
  deriving DecidableEq, Repr

namespace PoolSettings

/-- The settings of a pool about which nothing is said. -/
def standard : PoolSettings := ⟨30⟩

/-- Reads the settings of a pool. -/
def decoder : Json.Decoder PoolSettings :=
  Json.record "struct PoolConfig"
    [.of "maxIdleFrames" .defaulted (Json.natural "u64" (UInt64.size - 1)) fun n _ => ⟨n⟩] standard

/-- The settings that a text stands for. -/
def ofText (text : String) : Except Json.Fault PoolSettings := Json.decode decoder text

/-- The written form of the settings. -/
def toJson (s : PoolSettings) : Json :=
  .object [("maxIdleFrames", .number (.whole s.maxIdle))]

end PoolSettings

end ShaderEffect
