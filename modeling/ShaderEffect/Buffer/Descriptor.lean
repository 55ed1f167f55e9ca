/-
**What a buffer is like.**

A buffer has a size, a pixel format and a shape, and two buffers with the same three are
interchangeable.  Buffers of a pool are named by handles.

Main definitions:

* `ShaderEffect.PixelFormat`, `ShaderEffect.Shape`, `ShaderEffect.Descriptor` — formats, shapes, and
  the three together;
* `ShaderEffect.Descriptor.renderTarget` — what passes draw into;
* `ShaderEffect.Handle`, `ShaderEffect.Binding` — the name of a buffer, and a buffer bound to an
  input.
-/

import ShaderEffect.Size
import ShaderEffect.Json.Record
import ShaderEffect.Json.Text

set_option autoImplicit false

namespace ShaderEffect

/-- How a pixel is stored. -/
inductive PixelFormat where
  /-- Four bytes. -/
  | rgba8
  /-- Four single-precision numbers. -/
  | rgba32Float
  deriving DecidableEq, Repr, Inhabited

namespace PixelFormat

/-- The format of targets with or without floating point. -/
def ofFloat (float : Bool) : PixelFormat := if float then rgba32Float else rgba8

/-- Whether pixels are floating-point numbers. -/
def isFloat : PixelFormat → Bool
  | rgba8 => false
  | rgba32Float => true

/-- The name in written descriptors. -/
def name : PixelFormat → String
  | rgba8 => "Rgba8"
  | rgba32Float => "Rgba32Float"

/-- The name among the texture formats of the graphics interface. -/
def textureFormat : PixelFormat → String
  | rgba8 => "Rgba8Unorm"
  | rgba32Float => "Rgba32Float"

/-- The format of a name. -/
def ofName? : String → Option PixelFormat
  | "Rgba8" => some rgba8
  | "Rgba32Float" => some rgba32Float
  | _ => none

end PixelFormat

/-- How a texture is addressed. -/
inductive Shape where
  /-- By coordinates from zero to one. -/
  | flat
  /-- By pixels. -/
  | rectangle
  /-- By directions. -/
  | cube
  deriving DecidableEq, Repr, Inhabited

namespace Shape

/-- The letter of a shape in the list of the texture types of a document. -/
def code : Shape → Char
  | flat => '2'
  | rectangle => 'R'
  | cube => 'C'

/-- The name in written descriptors. -/
def name : Shape → String
  | flat => "Texture2D"
  | rectangle => "Rectangle"
  | cube => "Cube"

/-- The name of the view of the graphics interface. -/
def view : Shape → String
  | flat | rectangle => "D2"
  | cube => "Cube"

/-- The shape of a name. -/
def ofName? : String → Option Shape
  | "Texture2D" => some flat
  | "Rectangle" => some rectangle
  | "Cube" => some cube
  | _ => none

/-- Different shapes have different letters. -/
theorem code_injective : ∀ {s t : Shape}, s.code = t.code → s = t := by
  intro s t
  cases s <;> cases t <;> simp [code]

end Shape

/-- What a buffer is like. -/
structure Descriptor where
  /-- Its extent. -/
  size : Size
  /-- How its pixels are stored. -/
  format : PixelFormat
  /-- How it is addressed. -/
  shape : Shape
  deriving DecidableEq, Repr, Inhabited

namespace Descriptor

/-- What passes draw into. -/
def renderTarget (size : Size) (float : Bool) : Descriptor := ⟨size, .ofFloat float, .flat⟩

/-! ### Written descriptors -/

/-- The written form of a descriptor. -/
def toJson (d : Descriptor) : Json :=
  .object [("format", .text d.format.name), ("shape", .text d.shape.name),
    ("size", .object [("height", .number (.whole d.size.height.toNat)),
      ("width", .number (.whole d.size.width.toNat))])]

/-- Reads an extent. -/
def extent : Json.Decoder UInt32 := fun levels cs =>
  match Json.natural "u32" (UInt32.size - 1) levels cs with
  | .error fault => .error fault
  | .ok r => .ok (r.map UInt32.ofNat)

/-- Reads a size. -/
def sizeDecoder : Json.Decoder Size :=
  Json.record "struct Size"
    [.of "width" .required extent fun w s => { s with width := w },
      .of "height" .required extent fun h s => { s with height := h }] default

/-- Reads a descriptor. -/
def decoder : Json.Decoder Descriptor :=
  Json.record "struct BufferDescriptor"
    [.of "size" .required sizeDecoder fun s d => { d with size := s },
      .of "format" .required (Json.oneOf "a pixel format" PixelFormat.ofName?)
        fun f d => { d with format := f },
      .of "shape" .required (Json.oneOf "a shape" Shape.ofName?) fun s d => { d with shape := s }]
    default

/-- The descriptor that a text stands for. -/
def ofText (text : String) : Except Json.Fault Descriptor := Json.decode decoder text

end Descriptor

/-- The name of a buffer of a pool. -/
structure Handle where
  /-- Names are numbered from one. -/
  number : Nat
  deriving DecidableEq, Repr

namespace Handle

/-- The handle as a text, such as `#3`. -/
def text (h : Handle) : String := "#" ++ toString h.number

end Handle

/-- A buffer bound to an input. -/
structure Binding where
  /-- Which buffer. -/
  handle : Handle
  /-- What the buffer is said to be like. -/
  descriptor : Descriptor
  /-- Whether its first row is at the bottom. -/
  flipped : Bool
  deriving DecidableEq, Repr

end ShaderEffect
