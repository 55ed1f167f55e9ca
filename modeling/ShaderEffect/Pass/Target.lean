/-
**Pass targets.**

A pass draws into a named target.  The size of a target is given by two expressions, which are
evaluated anew for every frame.  A temporary target holds a buffer during a frame; a persistent one
holds two, the one that is drawn and the one that was drawn last, and a complete frame swaps them.

Main definitions:

* `ShaderEffect.Target` — a target;
* `ShaderEffect.Target.resolve`, `ShaderEffect.Target.evaluate` — its size for a frame;
* `ShaderEffect.Target.swap`, `ShaderEffect.Target.buffers`, `ShaderEffect.Target.withoutBuffers` —
  what happens to its buffers.
-/

import ShaderEffect.Failure

set_option autoImplicit false

namespace ShaderEffect

/-- A named target of passes. -/
structure Target where
  /-- The name that passes and programs use. -/
  name : String
  /-- The expression of the width, if it is not that of the render size. -/
  width : Option String
  /-- The expression of the height. -/
  height : Option String
  /-- Whether the contents are kept for the next frame. -/
  persistent : Bool
  /-- Whether the pixels are floating-point numbers. -/
  float : Bool
  /-- The size it was last given. -/
  size : Option Size
  /-- The buffer that is drawn into. -/
  current : Option Handle
  /-- The buffer that the last frame drew into. -/
  previous : Option Handle
  deriving DecidableEq

namespace Target

/-- A target of which only the name is known. -/
def ofName (name : String) : Target := ⟨name, none, none, false, false, none, none, none⟩

/-- What the buffers of the target are like, once it has a size. -/
def descriptor? (t : Target) : Option Descriptor :=
  t.size.map fun s => .renderTarget s t.float

/-- The value of a size expression in pixels. -/
def pixels (source : String) (env : Environment) (axis : Axis) : Except Failure UInt32 :=
  match Expression.parse source with
  | .error fault => .error (.eval source fault)
  | .ok e =>
    match e.pixels env axis with
    | .error fault => .error (.eval source fault)
    | .ok n => .ok n

/-- The extent along an axis: that of its expression, or that of the render size, but at least
one. -/
def extent (expression : Option String) (env : Environment) (axis : Axis) :
    Except Failure UInt32 :=
  match expression with
  | some source => pixels source env axis
  | none => .ok (if env.renderSize.along axis = 0 then 1 else env.renderSize.along axis)

/-- The size of the target in an environment.  The width is evaluated first. -/
def resolve (t : Target) (env : Environment) : Except Failure Size :=
  match extent t.width env .width with
  | .error failure => .error failure
  | .ok w =>
    match extent t.height env .height with
    | .error failure => .error failure
    | .ok h => .ok ⟨w, h⟩

/-- The target with a size. -/
def withSize (t : Target) (s : Size) : Target := { t with size := some s }

/-- The target with its size in an environment, and that size. -/
def evaluate (t : Target) (env : Environment) : Except Failure (Size × Target) :=
  match t.resolve env with
  | .error failure => .error failure
  | .ok s => .ok (s, t.withSize s)

/-- Exchanges the two buffers. -/
def swap (t : Target) : Target := { t with current := t.previous, previous := t.current }

/-- The buffers the target holds. -/
def buffers (t : Target) : List Handle := t.current.toList ++ t.previous.toList

/-- The target without its buffers. -/
def withoutBuffers (t : Target) : Target := { t with current := none, previous := none }

/-- The target in one line. -/
def text (t : Target) : String :=
  t.name ++ " [" ++ t.width.getD "$WIDTH" ++ " x " ++ t.height.getD "$HEIGHT" ++ "]" ++
    (if t.persistent then " persistent" else "") ++ (if t.float then " float" else "")

@[simp] theorem buffers_withoutBuffers (t : Target) : t.withoutBuffers.buffers = [] := rfl

@[simp] theorem swap_swap (t : Target) : t.swap.swap = t := rfl

@[simp] theorem size_withSize (t : Target) (s : Size) : (t.withSize s).size = some s := rfl

end Target

end ShaderEffect
