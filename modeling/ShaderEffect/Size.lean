/-
**Sizes in pixels.**

Main definitions:

* `ShaderEffect.Axis` — width or height;
* `ShaderEffect.Size` — a width and a height;
* `ShaderEffect.Size.along` — the extent of a size along an axis.
-/

set_option autoImplicit false

namespace ShaderEffect

/-- One of the two directions of an image. -/
inductive Axis where
  | width
  | height
  deriving DecidableEq, Repr

/-- A width and a height in pixels. -/
structure Size where
  /-- The number of columns. -/
  width : UInt32
  /-- The number of rows. -/
  height : UInt32
  deriving DecidableEq, Repr, Inhabited

namespace Size

/-- The extent along an axis. -/
def along (s : Size) : Axis → UInt32
  | .width => s.width
  | .height => s.height

/-- The size as a text, such as `640x480`. -/
def text (s : Size) : String := toString s.width ++ "x" ++ toString s.height

/-- The size as a pair of single-precision numbers. -/
def toVec2 (s : Size) : Float32 × Float32 := (s.width.toFloat32, s.height.toFloat32)

end Size

end ShaderEffect
