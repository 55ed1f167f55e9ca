/-
**Targets are never without pixels.**

Whatever the expressions of a target say, and whatever the render size is, the target gets at least
one row and one column: the value of an expression is a fraction, which is rounded to a whole number
and kept between one and the largest number that fits into four bytes; where no expression is given,
the extent of the render size stands in for it, and for zero stands one.

A frame gives all targets their sizes before it does anything else, and no size changes until the
frame is over.  So whatever is asked for in a frame, be it of the pool or of the device, is a buffer
of the size that one of the targets has in this frame.

Main definitions:

* `ShaderEffect.Size.Allocatable` — both extents are positive and fit into four bytes;
* `ShaderEffect.Target.Spans` — what the extent along an axis should be;
* `ShaderEffect.Document.Asks` — a buffer for one of the targets, at its size in a frame;
* `ShaderEffect.Supply.Step` — **what a scene does with a supply**, one thing at a time.

Main results:

* `ShaderEffect.Target.resolve_eq_ok_iff_spans` — **the size of a target** is what it should be;
* `ShaderEffect.Supply.steps_renderFrame` — a frame asks for the buffers of targets only;
* `ShaderEffect.Supply.adds_of_steps` — what is asked of the device was asked for by the scene;
* `ShaderEffect.sizes_allocatable` — **no buffer without pixels is asked for**.
-/

import ShaderEffect.Proofs.Decimal.Rounding
import ShaderEffect.Proofs.Scene.Calls
import ShaderEffect.Proofs.Scene.Sizing

set_option autoImplicit false

namespace ShaderEffect

open Supply

/-- Both extents are positive, and fit into four bytes. -/
def Size.Allocatable (s : Size) : Prop :=
  ∀ axis, 1 ≤ (s.along axis).toNat ∧ (s.along axis).toNat ≤ 2 ^ 32 - 1

/-! ### Extents -/

section Extents

variable {env : Environment} {axis : Axis}

/-- **The number of pixels of a value** is the fraction that it is, rounded and kept in bounds. -/
theorem Expr.toNat_toPixels_eq (v : Float) : ((toPixels v).toNat : Int) =
    max 1 (min (2 ^ 32 - 1) (Decimal.roundAway (Decimal.value v))) := by
  have hmax : maxPixels = 2 ^ 32 - 1 := rfl
  rw [toNat_toPixels, Decimal.roundToInt_eq, hmax]
  omega

/-- An expression gives its value if that is finite. -/
theorem Expression.evaluate_eq_ok_iff {e : Expression} {v : Float} :
    e.evaluate env axis = .ok v ↔ e.tree.eval env axis = .ok v ∧ v.isFinite = true := by
  unfold evaluate Expr.finiteValue
  cases e.tree.eval env axis with
  | error fault =>
    simp [bind, Except.bind]
  | ok w =>
    by_cases hw : w.isFinite = true
    · simp only [bind, Except.bind, if_pos hw, pure, Except.pure, Except.ok.injEq]
      exact ⟨fun h => ⟨h, h ▸ hw⟩, fun h => h.1⟩
    · simp only [bind, Except.bind, if_neg hw, throw, throwThe, MonadExceptOf.throw,
        Except.ok.injEq]
      exact ⟨fun h => (by cases h), fun h => absurd (h.1 ▸ h.2) hw⟩

namespace Target

/-- **What the extent along an axis should be.** -/
inductive Spans (env : Environment) (axis : Axis) : Option String → UInt32 → Prop where
  /-- A finite value is rounded, a half away from zero, and kept within bounds. -/
  | declared {source : String} {e : Expression} {v : Float} {n : UInt32} :
      Expression.parse source = .ok e → e.tree.eval env axis = .ok v → v.isFinite = true →
      (n.toNat : Int) = max 1 (min (2 ^ 32 - 1) (Decimal.roundAway (Decimal.value v))) →
      Spans env axis (some source) n
  /-- Without an expression the extent is that of the render size, but at least one. -/
  | missing {n : UInt32} : n.toNat = max 1 (env.renderSize.along axis).toNat →
      Spans env axis none n

variable {expression : Option String} {n : UInt32} {t : Target} {size : Size}

theorem Spans.bounds (h : Spans env axis expression n) : 1 ≤ n.toNat ∧ n.toNat ≤ 2 ^ 32 - 1 := by
  have hlt := n.toNat_lt
  refine ⟨?_, by omega⟩
  cases h with
  | declared _ _ _ hn => omega
  | missing hn => omega

/-- A number of pixels is that of the value of an expression. -/
theorem pixels_eq_ok_iff {source : String} : pixels source env axis = .ok n ↔
    ∃ e v, Expression.parse source = .ok e ∧ e.evaluate env axis = .ok v ∧
      Expr.toPixels v = n := by
  unfold pixels
  cases Expression.parse source with
  | error fault => simp
  | ok e =>
    dsimp only [Expression.pixels]
    cases hvalue : e.evaluate env axis <;> simp [hvalue]

/-- Zero is raised to one. -/
theorem toNat_raised (n : UInt32) : (if n = 0 then 1 else n).toNat = max 1 n.toNat := by
  split
  · simp_all
  · have hne : n.toNat ≠ 0 := fun h => by simp_all [← UInt32.toNat_inj]
    omega

/-- **An extent is what it should be**, and is given only then. -/
theorem extent_eq_ok_iff : extent expression env axis = .ok n ↔ Spans env axis expression n := by
  cases expression with
  | none =>
    rw [extent, Except.ok.injEq, ← UInt32.toNat_inj, toNat_raised, eq_comm]
    refine ⟨.missing, fun h => ?_⟩
    cases h with
    | missing hn => exact hn
  | some source =>
    rw [extent, pixels_eq_ok_iff]
    constructor
    · rintro ⟨e, v, hparse, hvalue, rfl⟩
      obtain ⟨heval, hfinite⟩ := Expression.evaluate_eq_ok_iff.1 hvalue
      exact .declared hparse heval hfinite (Expr.toNat_toPixels_eq v)
    · intro h
      cases h with
      | @declared _ e v _ hparse heval hfinite hn =>
        refine ⟨e, v, hparse, Expression.evaluate_eq_ok_iff.2 ⟨heval, hfinite⟩, ?_⟩
        rw [← UInt32.toNat_inj]
        exact_mod_cast (Expr.toNat_toPixels_eq v).trans hn.symm

/-- **The size of a target is what it should be**, and is given only then. -/
theorem resolve_eq_ok_iff_spans : t.resolve env = .ok size ↔
    Spans env .width t.width size.width ∧ Spans env .height t.height size.height := by
  rw [← extent_eq_ok_iff, ← extent_eq_ok_iff, resolve]
  cases extent t.width env .width with
  | error failure => simp
  | ok w =>
    cases extent t.height env .height with
    | error failure => simp
    | ok h =>
      cases size
      simp

/-- **A target always has pixels.** -/
theorem allocatable_of_resolve (h : t.resolve env = .ok size) : size.Allocatable := by
  obtain ⟨hwidth, hheight⟩ := resolve_eq_ok_iff_spans.1 h
  rintro (_ | _)
  · exact hwidth.bounds
  · exact hheight.bounds

end Target

end Extents

/-! ### What is asked for in a frame -/

namespace Document

variable {d d' : Document} {renderSize : Size}

/-- A buffer for one of the targets, of the size that the target has in a frame. -/
def Asks (d : Document) (renderSize : Size) (e : Descriptor) : Prop :=
  ∃ t ∈ d.passes.targets, ∃ size, t.resolve (d.environment renderSize) = .ok size ∧
    e = .renderTarget size t.float

/-- Such a buffer has pixels. -/
theorem Asks.allocatable {e : Descriptor} (h : d.Asks renderSize e) : e.size.Allocatable := by
  obtain ⟨t, -, size, hsize, rfl⟩ := h
  exact Target.allocatable_of_resolve hsize

/-- Targets that have got their sizes ask for buffers of these sizes. -/
theorem asks_of_resize (h : d.resize renderSize = .ok d') :
    ∀ u ∈ d'.outlines, d.Asks renderSize (u.descriptorIn renderSize) := by
  intro u hu
  obtain ⟨v, hv, rfl⟩ := List.mem_map.1 hu
  have hall : resizeAll (d.environment renderSize) d.passes.targets = .ok d'.passes.targets := by
    rw [resizeAll_targets, h]
    rfl
  obtain ⟨t, ht, size, hsize, rfl⟩ := exists_of_mem_forall₂ (resizeAll_spec hall) hv
  exact ⟨t, ht, size, hsize, rfl⟩

/-- **The sizes of a document** are those of its targets, in order. -/
theorem forall₂_sizes_of_resize (h : d.resize renderSize = .ok d') :
    List.Forall₂ (fun t r => r.1 = t.name ∧ t.resolve (d.environment renderSize) = .ok r.2)
      d.passes.targets d'.sizes := by
  obtain ⟨sizes, hsizes, htargets, -, -⟩ := exists_sizes_of_resize h
  rw [sizes_eq_zipWith htargets]
  clear htargets
  generalize d.passes.targets = ts at hsizes ⊢
  induction hsizes with
  | nil => exact .nil
  | cons hfirst _ ih => exact .cons ⟨rfl, hfirst⟩ ih

end Document

namespace Studio

variable {σ : Type}

/-- **Targets have their sizes** when images have been loaded. -/
theorem resizes_untilLoaded (device : Device σ) (renderSize : Size) (s : Studio σ) :
    Ends (fun _ t => ∃ d, s.document.resize renderSize = .ok d ∧ t.document.passes = d.passes)
      (fun _ _ => True) (untilLoaded device renderSize s) := by
  refine Ends.bind ((ends_checkLoaded s).mono (fun _ _ h => h) fun _ _ _ => trivial) ?_
  rintro _ _ rfl
  refine Ends.bind ((ends_resize renderSize _).mono (fun _ _ h => h) fun _ _ _ => trivial) ?_
  rintro _ _ ⟨d, hd, rfl⟩
  refine Ends.bind ((ends_checkPasses _).mono (fun _ _ h => h) fun _ _ _ => trivial) ?_
  rintro _ _ rfl
  unfold onParameters
  rcases eachOf (loadImport device) _ with ⟨_, ps, supply⟩ | ⟨failure, ps, supply⟩
  · exact ⟨d, hd, rfl⟩
  · exact trivial

/-- They have them when they get their buffers. -/
theorem exists_resize_of_ok {device : Device σ} {renderSize : Size} {s begun : Studio σ}
    (hbegun : untilBuffers device renderSize s = .ok () begun) :
    ∃ d, s.document.resize renderSize = .ok d ∧ begun.document.passes = d.passes := by
  obtain ⟨t, ht, -, -, hdocument, -⟩ := exists_loading_of_ok hbegun
  have hresizes := resizes_untilLoaded device renderSize s
  rw [ht] at hresizes
  rw [hdocument]
  exact hresizes

end Studio

namespace Supply

variable {σ : Type} {device : Device σ} {P : Descriptor → Prop}

/-- **What a scene does with a supply**, one thing at a time, if the buffers that it asks for
satisfy a condition. -/
inductive Step (device : Device σ) (P : Descriptor → Prop) : Supply σ → Supply σ → Prop where
  /-- A buffer is asked for. -/
  | acquire (e : Descriptor) (s : Supply σ) : P e →
      Step device P s (remains (Supply.acquire device e s))
  /-- A buffer is given back. -/
  | release (h : Handle) (s : Supply σ) : Step device P s (remains (Supply.release h s))
  /-- An image is loaded. -/
  | load (p : Parameter) (s : Supply σ) : Step device P s (remains (loadImport device (p, s))).2
  /-- A program is compiled. -/
  | compile (source : ProgramSource) (s : Supply σ) :
      Step device P s ⟨s.pool, remains (device.compile source s.device)⟩
  /-- The device is told some commands. -/
  | perform (commands : List Command) (s : Supply σ) :
      Step device P s ⟨s.pool, device.performAll commands s.device⟩

theorem Step.mono {Q : Descriptor → Prop} (hPQ : ∀ e, P e → Q e) {s s' : Supply σ}
    (h : Step device P s s') : Step device Q s s' := by
  cases h with
  | acquire e s he => exact .acquire e s (hPQ e he)
  | release h s => exact .release h s
  | load p s => exact .load p s
  | compile source s => exact .compile source s
  | perform commands s => exact .perform commands s

theorem kept_steps (device : Device σ) (P : Descriptor → Prop) :
    Kept (Relation.ReflTransGen (Step device P)) where
  refl _ := .refl
  trans _ _ _ h h' := h.trans h'
  release h s := .single (.release h s)

/-- **A frame asks for the buffers of targets only**, and each of them is of the size that its
target has in this frame. -/
theorem steps_renderFrame (device : Device σ) (now : Moment) (renderSize : Size) (s : Studio σ) :
    Relation.ReflTransGen (Step device (s.document.Asks renderSize)) s.supply
      (remains (Studio.renderFrame device now renderSize s)).supply := by
  have hkept := kept_steps device (s.document.Asks renderSize)
  have hbegins : Relation.ReflTransGen (Step device (s.document.Asks renderSize)) s.supply
      (remains (Studio.untilBuffers device renderSize s)).supply :=
    hkept.untilBuffers (fun p u => .single (.load p u))
      (fun source u => .single (.compile source u)) renderSize s
  refine hbegins.trans (hkept.renderFrame_behindFor
    (fun commands u => .single (.perform commands u)) now
    fun begun hbegun u hu t => .single (.acquire _ t ?_))
  obtain ⟨d, hresize, hpasses⟩ := Studio.exists_resize_of_ok hbegun
  refine Document.asks_of_resize hresize u ?_
  rwa [Document.outlines, hpasses] at hu

/-- What a step asks of the device is a buffer that satisfies the condition, or no buffer. -/
theorem Step.adds {device : Device σ} {s s' : Supply (Observed σ)}
    (h : Step device.observed P s s') :
    Observed.Adds (fun call => ∀ e answer, call = .create e answer → P e) s.device s'.device := by
  cases h with
  | acquire e s he =>
    refine adds_acquire device e (fun answer => ?_) s
    rintro _ _ ⟨⟩
    exact he
  | release h s => exact (kept_adds _).release h s
  | load p s => exact adds_loadImport device (fun _ _ _ _ h => nomatch h) p s
  | compile source s => exact adds_compile device (fun _ _ _ _ h => nomatch h) source s
  | perform commands s =>
    exact Observed.adds_performAll device (fun _ _ _ h => nomatch h) commands s.device

/-- **What is asked of the device** was asked for by the scene. -/
theorem adds_of_steps {device : Device σ} {s s' : Supply (Observed σ)}
    (h : Relation.ReflTransGen (Step device.observed P) s s') :
    Observed.Adds (fun call => ∀ e answer, call = .create e answer → P e) s.device s'.device := by
  induction h with
  | refl => exact .refl _
  | tail _ hstep ih => exact ih.trans hstep.adds

end Supply

/-! ### The main theorem -/

/-- **No buffer without pixels is asked for.**  The size that a target gets is what its expressions
say: a finite value is rounded to a whole number of pixels, a half away from zero, and kept between
one and the largest number of four bytes; without an expression, the extent of the render size is
raised to one.  So both extents can be allocated.  The sizes of a document are those of its targets,
in order.  Whatever a frame asks for is a buffer of such a size for one of the targets, whether the
frame fails or not; and so is whatever a device is asked to create. -/
theorem sizes_allocatable :
    (∀ (t : Target) (env : Environment) (size : Size),
      (t.resolve env = .ok size ↔ Target.Spans env .width t.width size.width ∧
        Target.Spans env .height t.height size.height) ∧
      (t.resolve env = .ok size → size.Allocatable)) ∧
    (∀ (d : Document) (renderSize : Size),
      (d.environment renderSize).renderSize = renderSize ∧
      ∀ d', d.resize renderSize = .ok d' → List.Forall₂ (fun t r => r.1 = t.name ∧
        t.resolve (d.environment renderSize) = .ok r.2 ∧ r.2.Allocatable)
          d.passes.targets d'.sizes) ∧
    (∀ (σ : Type) (device : Device σ) (now : Moment) (renderSize : Size) (s : Studio σ),
      Relation.ReflTransGen
        (Supply.Step device fun e => s.document.Asks renderSize e ∧ e.size.Allocatable) s.supply
        (Supply.remains (Studio.renderFrame device now renderSize s)).supply) ∧
    ∀ (σ : Type) (device : Device σ) (now : Moment) (renderSize : Size) (s : Studio (Observed σ)),
      Studio.Adds (fun call => ∀ e answer, call = .create e answer → e.size.Allocatable) s
        (Supply.remains (Studio.renderFrame device.observed now renderSize s)) := by
  refine ⟨fun t env size => ⟨Target.resolve_eq_ok_iff_spans, Target.allocatable_of_resolve⟩,
    fun d renderSize => ⟨d.renderSize_environment renderSize, ?_⟩, ?_, ?_⟩
  · intro d' hresize
    exact (Document.forall₂_sizes_of_resize hresize).imp fun _ _ ⟨hname, hsize⟩ =>
      ⟨hname, hsize, Target.allocatable_of_resolve hsize⟩
  · intro σ device now renderSize s
    have hsteps := steps_renderFrame device now renderSize s
    exact Relation.ReflTransGen.mono (fun _ _ => Step.mono fun _ he => ⟨he, he.allocatable⟩) _ _
      hsteps
  · intro σ device now renderSize s
    obtain ⟨calls, heq, hcalls⟩ := adds_of_steps
      (steps_renderFrame device.observed now renderSize s)
    exact ⟨calls, heq, fun c hc e answer h => (hcalls c hc e answer h).allocatable⟩

/-- Half of five columns are three, and no rows are one. -/
theorem sizes_allocatable_half :
    let half : Target := { Target.ofName "half" with width := some "$WIDTH / 2" }
    let d : Document := {
      description := "", credit := "", version := "", formatVersion := "", categories := [],
      parameters := [], passes := ⟨[], [half], []⟩, path := none, source := ⟨"", "", ""⟩,
      vertex := "", importsDirectory := "", failure := none, parent := none }
    half.resolve (d.environment ⟨5, 0⟩) = .ok ⟨3, 1⟩ ∧ Size.Allocatable ⟨3, 1⟩ ∧
      ∃ d', d.resize ⟨5, 0⟩ = .ok d' ∧ d'.sizes = [("half", ⟨3, 1⟩)] ∧
        ∀ r ∈ d'.sizes, r.2.Allocatable := by
  intro half d
  have hparse : Expression.parse "$WIDTH / 2" =
      .ok ⟨"$WIDTH / 2", .arith .div (.var "WIDTH") (.number 2.0)⟩ := by decide +kernel
  have hvalue : Expr.eval (d.environment ⟨5, 0⟩) .width
      (.arith .div (.var "WIDTH") (.number 2.0)) = .ok 2.5 := by decide +kernel
  have hrounded : Decimal.roundAway (Decimal.value 2.5) = 3 := by decide +kernel
  obtain ⟨htargets, hdocuments, -, -⟩ := sizes_allocatable
  obtain ⟨hspans, hallocatable⟩ := htargets half (d.environment ⟨5, 0⟩) ⟨3, 1⟩
  have hresolve : half.resolve (d.environment ⟨5, 0⟩) = .ok ⟨3, 1⟩ := by
    refine hspans.2 ⟨.declared hparse hvalue (by decide +kernel) ?_, .missing (by decide +kernel)⟩
    rw [hrounded]
    decide
  obtain ⟨-, hsizes⟩ := hdocuments d ⟨5, 0⟩
  have hresize : d.resize ⟨5, 0⟩ = .ok (d.withTemporary [half.withSize ⟨3, 1⟩]) := by
    refine Document.resize_eq_ok_iff.2 ⟨[], [half.withSize ⟨3, 1⟩], rfl, ?_, rfl⟩
    show Document.resizeAll _ [half] = _
    rw [Document.resizeAll, Target.evaluate, hresolve]
    rfl
  refine ⟨hresolve, hallocatable hresolve, _, hresize, rfl, fun r hr => ?_⟩
  obtain ⟨t, -, -, -, hr⟩ := exists_of_mem_forall₂ (hsizes _ hresize) hr
  exact hr

end ShaderEffect
