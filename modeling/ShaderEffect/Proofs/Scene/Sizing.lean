/-
**The sizes of the targets for a frame.**

All targets of a document get their sizes at once, from one environment, and a single expression
without a value keeps every target from getting one.  Still each target gets the size it would get
if it were alone: what it is given is what its two expressions say, and what these say depends on
the render size and on the numbers they name.  A number that cannot be named, since it is called
like the render size, a parameter that is no number, and the other targets do not matter.

Main definitions:

* `ShaderEffect.Document.number?` — the number that a name stands for in size expressions;
* `ShaderEffect.Target.reads` — the names in the expressions of a target.

Main results:

* `ShaderEffect.Document.get?_environment` — what a name stands for;
* `ShaderEffect.Document.resizeAll_eq_ok_iff`, `ShaderEffect.Document.resizeAll_eq_error_iff` —
  when targets get sizes, and which target keeps them from it;
* `ShaderEffect.Target.resolve_congr` — a size depends on what its expressions read;
* `ShaderEffect.Document.exists_resize_iff`, `ShaderEffect.Document.exists_sizes_of_resize` — when
  there are sizes for a frame, and which;
* `ShaderEffect.Document.resize_pointwise` — **sizes are given to all targets or to none, and to
  each as if it were alone**.
-/

import ShaderEffect.Proofs.Expr.Dependence
import ShaderEffect.Proofs.Scene.Frame

set_option autoImplicit false

namespace ShaderEffect

/-! ### What names stand for -/

/-- Whether size expressions can name values of the kind. -/
def Kind.isNumber : Kind → Bool
  | .event | .bool | .long | .float => true
  | .point2D | .color | .image | .audio | .audioFFT => false

/-- Exactly the values of these kinds are numbers. -/
theorem Value.isSome_number? (v : Value) : v.number?.isSome = v.kind.isNumber := by
  cases v <;> rfl

namespace Document

/-- The number that a name stands for: the value of the last input of that name that is one. -/
def number? (d : Document) (name : String) : Option Value :=
  (d.inputs.reverse.find? fun p => p.name = name ∧ p.current.kind.isNumber).map Parameter.current

/-- The environment of a document knows its render size. -/
@[simp] theorem renderSize_environment (d : Document) (renderSize : Size) :
    (d.environment renderSize).renderSize = renderSize := by
  unfold environment
  induction d.inputs using List.reverseRecOn with
  | nil => rfl
  | append_singleton ps p ih =>
    rw [List.foldl_append, List.foldl_cons, List.foldl_nil]
    split
    · rw [Environment.renderSize_insert, ih]
    · exact ih

/-- In the environment of a document, the names of the render size stand for that. -/
theorem anchored_environment (d : Document) (renderSize : Size) :
    (d.environment renderSize).Anchored := by
  unfold environment
  induction d.inputs using List.reverseRecOn with
  | nil => exact Environment.anchored_ofSize renderSize
  | append_singleton ps p ih =>
    rw [List.foldl_append, List.foldl_cons, List.foldl_nil]
    split
    · exact ih.insert _ _
    · exact ih

/-- **A name stands for the number that bears it**, unless it is a name of the render size. -/
theorem get?_environment (d : Document) (renderSize : Size) {name : String}
    (hname : Environment.reserved? name = none) :
    (d.environment renderSize).get? name = (d.number? name).bind Value.number? := by
  unfold environment number?
  induction d.inputs using List.reverseRecOn with
  | nil => exact Environment.get?_ofSize hname renderSize
  | append_singleton ps p ih =>
    rw [List.foldl_append, List.foldl_cons, List.foldl_nil, List.reverse_concat]
    have hkind := Value.isSome_number? p.current
    cases hnumber : p.current.number? with
    | none =>
      -- no number: the input is passed over on both sides
      rw [hnumber] at hkind
      rw [List.find?_cons_of_neg (by simp [← hkind])]
      exact ih
    | some x =>
      rw [hnumber] at hkind
      cases hreserved : Environment.reserved? p.name with
      | some axis =>
        have hne : p.name ≠ name := fun h => by simp [h, hname] at hreserved
        rw [List.find?_cons_of_neg (by simp [hne])]
        dsimp only
        rw [Environment.insert_of_reserved hreserved]
        exact ih
      | none =>
        dsimp only
        rw [Environment.get?_insert hreserved]
        by_cases hsame : name = p.name
        · rw [if_pos hsame, List.find?_cons_of_pos (by simp [hsame, ← hkind])]
          exact hnumber.symm
        · rw [if_neg hsame, List.find?_cons_of_neg (by simp [Ne.symm hsame])]
          exact ih

end Document

/-! ### One target -/

namespace Target

variable {t u : Target} {env env' : Environment} {failure : Failure}

/-- The names in an expression; there are none in a text that is no expression. -/
def namesIn (expression : Option String) : List String :=
  match expression.map Expression.parse with
  | some (.ok e) => e.reads
  | _ => []

/-- The names in the expressions of a target. -/
def reads (t : Target) : List String := namesIn t.width ++ namesIn t.height

/-- A target with a size is given that size and nothing else. -/
theorem evaluate_eq_ok_iff {r : Size × Target} :
    t.evaluate env = .ok r ↔ ∃ s, t.resolve env = .ok s ∧ r = (s, t.withSize s) := by
  unfold evaluate
  cases t.resolve env with
  | error failure => simp
  | ok s => simp [eq_comm]

theorem evaluate_eq_error_iff : t.evaluate env = .error failure ↔
    t.resolve env = .error failure := by
  unfold evaluate
  cases t.resolve env with
  | error failure => simp
  | ok s => simp

theorem exists_evaluate_iff : (∃ r, t.evaluate env = .ok r) ↔ ∃ s, t.resolve env = .ok s := by
  simp only [evaluate_eq_ok_iff]
  exact ⟨fun ⟨_, s, hs, _⟩ => ⟨s, hs⟩, fun ⟨s, hs⟩ => ⟨_, s, hs, rfl⟩⟩

/-- **The width is evaluated first**; the height only if there is a width. -/
theorem resolve_eq_error_iff : t.resolve env = .error failure ↔
    extent t.width env .width = .error failure ∨
      (∃ w, extent t.width env .width = .ok w) ∧ extent t.height env .height = .error failure := by
  unfold resolve
  cases extent t.width env .width with
  | error failure => simp
  | ok w =>
    cases extent t.height env .height with
    | error failure => simp
    | ok h => simp

/-- The extent along an axis depends on the render size and on the names in the expression. -/
theorem extent_congr {expression : Option String} {axis : Axis}
    (hsize : env.renderSize = env'.renderSize)
    (h : ∀ name ∈ namesIn expression, env.get? name = env'.get? name) :
    extent expression env axis = extent expression env' axis := by
  cases expression with
  | none => rw [extent, extent, hsize]
  | some source =>
    rw [extent, extent, pixels, pixels]
    cases hparse : Expression.parse source with
    | error fault => rfl
    | ok e =>
      have hreads : namesIn (some source) = e.reads := by
        rw [namesIn, Option.map_some, hparse]
      rw [hreads] at h
      have hvalue : e.evaluate env axis = e.evaluate env' axis := Expression.evaluate_congr hsize h
      simp only [Expression.pixels, hvalue]

/-- **A size depends on what the expressions of its target read.** -/
theorem resolve_congr (hwidth : t.width = u.width) (hheight : t.height = u.height)
    (hsize : env.renderSize = env'.renderSize)
    (h : ∀ name ∈ t.reads, env.get? name = env'.get? name) :
    t.resolve env = u.resolve env' := by
  have hw : extent t.width env .width = extent t.width env' .width :=
    extent_congr hsize fun name hname => h name (List.mem_append_left _ hname)
  have hh : extent t.height env .height = extent t.height env' .height :=
    extent_congr hsize fun name hname => h name (List.mem_append_right _ hname)
  rw [resolve, resolve, hw, hh, hwidth, hheight]

end Target

/-! ### All targets -/

namespace Document

variable {env : Environment} {failure : Failure}

/-- Targets get sizes if each of them has one, and each gets its own. -/
theorem resizeAll_eq_ok_iff {ts us : List Target} : resizeAll env ts = .ok us ↔
    ∃ sizes, List.Forall₂ (fun t s => t.resolve env = .ok s) ts sizes ∧
      us = List.zipWith Target.withSize ts sizes := by
  constructor
  · intro h
    have hspec := resizeAll_spec h
    clear h
    induction hspec with
    | nil => exact ⟨[], .nil, rfl⟩
    | cons hfirst _ ih =>
      obtain ⟨size, hsize, rfl⟩ := hfirst
      obtain ⟨sizes, hsizes, rfl⟩ := ih
      exact ⟨size :: sizes, .cons hsize hsizes, rfl⟩
  · rintro ⟨sizes, hsizes, rfl⟩
    induction hsizes with
    | nil => rfl
    | cons hfirst _ ih =>
      rw [resizeAll, Target.evaluate, hfirst]
      dsimp only
      rw [ih]
      rfl

/-- **The first target without a size** is the one that is reported. -/
theorem resizeAll_eq_error_iff {ts : List Target} : resizeAll env ts = .error failure ↔
    ∃ before t after, ts = before ++ t :: after ∧ (∀ u ∈ before, ∃ s, u.resolve env = .ok s) ∧
      t.resolve env = .error failure := by
  induction ts with
  | nil => simp [resizeAll]
  | cons t ts ih =>
    rw [resizeAll, Target.evaluate]
    cases ht : t.resolve env with
    | error fault =>
      constructor
      · rintro ⟨⟩
        exact ⟨[], t, ts, rfl, by simp, ht⟩
      · rintro ⟨before, u, after, hsplit, hbefore, hu⟩
        cases before with
        | nil =>
          cases hsplit
          rw [ht] at hu
          cases hu
          rfl
        | cons v before =>
          cases hsplit
          obtain ⟨s, hs⟩ := hbefore t List.mem_cons_self
          rw [ht] at hs
          cases hs
    | ok s =>
      have hrest : (resizeAll env ts).map (t.withSize s :: ·) = .error failure ↔
          resizeAll env ts = .error failure := by
        cases resizeAll env ts <;> simp [Except.map]
      refine hrest.trans (ih.trans ⟨?_, ?_⟩)
      · rintro ⟨before, u, after, rfl, hbefore, hu⟩
        exact ⟨t :: before, u, after, rfl, List.forall_mem_cons.2 ⟨⟨s, ht⟩, hbefore⟩, hu⟩
      · rintro ⟨before, u, after, hsplit, hbefore, hu⟩
        cases before with
        | nil =>
          cases hsplit
          rw [ht] at hu
          cases hu
        | cons v before =>
          cases hsplit
          exact ⟨before, u, after, rfl, (List.forall_mem_cons.1 hbefore).2, hu⟩

/-- Targets get sizes one after the other. -/
theorem resizeAll_append (ts us : List Target) : resizeAll env (ts ++ us) =
    (resizeAll env ts).bind fun ts' => (resizeAll env us).map (ts' ++ ·) := by
  induction ts with
  | nil => cases h : resizeAll env us <;> simp [resizeAll, Except.bind, Except.map, h]
  | cons t ts ih =>
    rw [List.cons_append, resizeAll, resizeAll, ih]
    cases t.evaluate env with
    | error fault => rfl
    | ok r =>
      cases resizeAll env ts with
      | error fault => rfl
      | ok ts' => cases resizeAll env us <;> rfl

variable {d d' : Document} {renderSize : Size}

/-- The persistent targets get their sizes before the temporary ones. -/
theorem resizeAll_targets (d : Document) (renderSize : Size) :
    resizeAll (d.environment renderSize) d.passes.targets =
      (d.resize renderSize).map fun d' => d'.passes.targets := by
  rw [Passes.targets, resizeAll_append, resize]
  dsimp only
  cases resizeAll (d.environment renderSize) d.passes.persistent with
  | error fault => rfl
  | ok persistent => cases resizeAll (d.environment renderSize) d.passes.temporary <;> rfl

theorem resize_eq_error_iff : d.resize renderSize = .error failure ↔
    resizeAll (d.environment renderSize) d.passes.targets = .error failure := by
  rw [resizeAll_targets]
  cases d.resize renderSize <;> simp [Except.map]

/-- What is reported are the sizes that are stored, each under the name of its target. -/
theorem sizes_eq_zipWith {ts : List Target} {sizes : List Size}
    (htargets : d.passes.targets = List.zipWith Target.withSize ts sizes) :
    d.sizes = List.zipWith (fun t s => (t.name, s)) ts sizes := by
  rw [Document.sizes, htargets]
  clear htargets
  induction ts generalizing sizes with
  | nil => rfl
  | cons t ts ih =>
    cases sizes with
    | nil => rfl
    | cons s sizes =>
      rw [List.zipWith_cons_cons, List.zipWith_cons_cons, List.filterMap_cons, ih]
      rfl

/-- **There are sizes for a frame** exactly if each target has one. -/
theorem exists_resize_iff : (∃ d', d.resize renderSize = .ok d') ↔
    ∀ t ∈ d.passes.targets, ∃ s, t.resolve (d.environment renderSize) = .ok s := by
  constructor
  · rintro ⟨d', hd'⟩ t ht
    have hall : resizeAll (d.environment renderSize) d.passes.targets = .ok d'.passes.targets := by
      rw [resizeAll_targets, hd']
      rfl
    have hspec : List.Forall₂
        (fun u t => ∃ s, t.resolve (d.environment renderSize) = .ok s ∧ u = t.withSize s)
        d'.passes.targets d.passes.targets := (resizeAll_spec hall).flip
    obtain ⟨-, -, s, hs, -⟩ := exists_of_mem_forall₂ hspec ht
    exact ⟨s, hs⟩
  · intro h
    cases hresize : d.resize renderSize with
    | ok d' => exact ⟨d', rfl⟩
    | error failure =>
      obtain ⟨before, t, after, hsplit, -, ht⟩ :=
        resizeAll_eq_error_iff.1 (resize_eq_error_iff.1 hresize)
      obtain ⟨s, hs⟩ := h t (by simp [hsplit])
      rw [ht] at hs
      cases hs

/-- **Each target is given its own size**, and nothing else changes. -/
theorem exists_sizes_of_resize (h : d.resize renderSize = .ok d') : ∃ sizes : List Size,
    List.Forall₂ (fun t s => t.resolve (d.environment renderSize) = .ok s) d.passes.targets sizes ∧
      d'.passes.targets = List.zipWith Target.withSize d.passes.targets sizes ∧
      d'.passes.persistent.length = d.passes.persistent.length ∧
      d' = (d.withPersistent d'.passes.persistent).withTemporary d'.passes.temporary := by
  have hall : resizeAll (d.environment renderSize) d.passes.targets = .ok d'.passes.targets := by
    rw [resizeAll_targets, h]
    rfl
  obtain ⟨sizes, hsizes, htargets⟩ := resizeAll_eq_ok_iff.1 hall
  obtain ⟨persistent, temporary, hpersistent, -, rfl⟩ := resize_eq_ok_iff.1 h
  exact ⟨sizes, hsizes, htargets, (resizeAll_spec hpersistent).length_eq.symm, rfl⟩

/-- **A size is the same in any two documents** in which its expressions name the same numbers. -/
theorem resolve_environment_congr {t t' : Target} (hwidth : t.width = t'.width)
    (hheight : t.height = t'.height)
    (h : ∀ name ∈ t.reads, Environment.reserved? name = none → d.number? name = d'.number? name) :
    t.resolve (d.environment renderSize) = t'.resolve (d'.environment renderSize) := by
  have hsize : (d.environment renderSize).renderSize = (d'.environment renderSize).renderSize := by
    rw [renderSize_environment, renderSize_environment]
  refine Target.resolve_congr hwidth hheight hsize fun name hname => ?_
  cases hreserved : Environment.reserved? name with
  | some axis =>
    rw [anchored_environment d renderSize hreserved, anchored_environment d' renderSize hreserved,
      Environment.extent_congr hsize]
  | none =>
    rw [get?_environment d renderSize hreserved, get?_environment d' renderSize hreserved,
      h name hname hreserved]

/-- **Sizes are given to all targets or to none, and to each as if it were alone.**  There are sizes
for a frame exactly if each target has one in the environment of the frame.  Then the targets, first
the persistent and then the temporary ones, are given exactly these, which are also what is
reported, and nothing else about the document changes.  Otherwise the failure is that of the first
target without a size, for its width if that is at fault, and no size is changed.  And the size of a
target is the same in any other document, for a target with the same two expressions, if the numbers
agree that these name, apart from the names of the render size. -/
theorem resize_pointwise (d : Document) (renderSize : Size) :
    let env := d.environment renderSize
    ((∃ d', d.resize renderSize = .ok d') ↔ ∀ t ∈ d.passes.targets, ∃ r, t.evaluate env = .ok r) ∧
    (∀ d', d.resize renderSize = .ok d' → ∃ sizes : List Size,
      List.Forall₂ (fun t s => t.evaluate env = .ok (s, t.withSize s)) d.passes.targets sizes ∧
        d'.sizes = List.zipWith (fun t s => (t.name, s)) d.passes.targets sizes ∧
        d'.passes.targets = List.zipWith Target.withSize d.passes.targets sizes ∧
        d'.passes.persistent.length = d.passes.persistent.length ∧
        d' = (d.withPersistent d'.passes.persistent).withTemporary d'.passes.temporary) ∧
    (∀ failure, d.resize renderSize = .error failure ↔
      ∃ before t after, d.passes.targets = before ++ t :: after ∧
        (∀ u ∈ before, ∃ r, u.evaluate env = .ok r) ∧ t.evaluate env = .error failure) ∧
    (∀ (t : Target) failure, t.evaluate env = .error failure ↔
      Target.extent t.width env .width = .error failure ∨
        (∃ w, Target.extent t.width env .width = .ok w) ∧
          Target.extent t.height env .height = .error failure) ∧
    (∀ (σ : Type) (s : Studio σ) failure, s.document = d →
      d.resize renderSize = .error failure → Studio.resize renderSize s = .error failure s) ∧
    ∀ (d' : Document) (t t' : Target), t.width = t'.width → t.height = t'.height →
      (∀ name ∈ t.reads, Environment.reserved? name = none → d.number? name = d'.number? name) →
      t.resolve env = t'.resolve (d'.environment renderSize) := by
  intro env
  refine ⟨?_, ?_, ?_, ?_, ?_, ?_⟩
  · simp only [Target.exists_evaluate_iff]
    exact exists_resize_iff
  · intro d' hd'
    obtain ⟨sizes, hsizes, htargets, hlength, heq⟩ := exists_sizes_of_resize hd'
    refine ⟨sizes, ?_, sizes_eq_zipWith htargets, htargets, hlength, heq⟩
    exact hsizes.imp fun t s hs => Target.evaluate_eq_ok_iff.2 ⟨s, hs, rfl⟩
  · intro failure
    rw [resize_eq_error_iff, resizeAll_eq_error_iff]
    simp only [Target.exists_evaluate_iff, Target.evaluate_eq_error_iff]
    rfl
  · intro t failure
    exact Target.evaluate_eq_error_iff.trans Target.resolve_eq_error_iff
  · rintro σ s failure rfl hfailure
    rw [Studio.resize, hfailure]
  · intro d' t t' hwidth hheight hnumbers
    exact resolve_environment_congr hwidth hheight hnumbers

/-- A flash that is one pixel wide.  A point called like it and an event called like the width do
not change that; with no flash there is no width, and the trail in front of it gets no size. -/
theorem resize_pointwise_flash :
    let flash : Target := { Target.ofName "small" with width := some "$flash" }
    let trail : Target := { Target.ofName "trail" with persistent := true }
    let bare : Document := {
      description := "", credit := "", version := "", formatVersion := "", categories := [],
      parameters := [], passes := ⟨[trail], [flash], []⟩, path := none, source := ⟨"", "", ""⟩,
      vertex := "", importsDirectory := "", failure := none, parent := none }
    let event : Parameter := { Parameter.ofKind "flash" .event with current := .event true }
    let d := { bare with parameters := [event] }
    let other := { bare with
      parameters := [{ event with name := "WIDTH" }, event, .ofKind "flash" .point2D] }
    (∃ r, trail.evaluate (d.environment ⟨8, 8⟩) = .ok r) ∧
      flash.resolve (d.environment ⟨8, 8⟩) = .ok ⟨1, 8⟩ ∧ (∃ d', d.resize ⟨8, 8⟩ = .ok d') ∧
      flash.resolve (other.environment ⟨8, 8⟩) = .ok ⟨1, 8⟩ ∧
      bare.resize ⟨8, 8⟩ =
        .error (.eval "$flash" (.value (.unknownVariable "flash"))) := by
  intro flash trail bare event d other
  have htrail (d : Document) : ∃ r, trail.evaluate (d.environment ⟨8, 8⟩) = .ok r := by
    refine ⟨_, Target.evaluate_eq_ok_iff.2 ⟨⟨8, 8⟩, ?_, rfl⟩⟩
    simp only [Target.resolve, Target.extent, trail, Target.ofName, renderSize_environment]
    rfl
  have hparse : Expression.parse "$flash" = .ok ⟨"$flash", .var "flash"⟩ := by decide +kernel
  have hflash : flash.resolve (d.environment ⟨8, 8⟩) = .ok ⟨1, 8⟩ := by
    have hvalue : Expr.finiteValue (d.environment ⟨8, 8⟩) .width (.var "flash") = .ok 1.0 := by
      decide +kernel
    have hone : Expr.toPixels 1.0 = 1 := by decide +kernel
    simp only [Target.resolve, Target.extent, flash, Target.ofName, Target.pixels, hparse,
      Expression.pixels, Expression.evaluate, hvalue, hone]
    rfl
  have hmissing : flash.evaluate (bare.environment ⟨8, 8⟩) =
      .error (.eval "$flash" (.value (.unknownVariable "flash"))) := by
    have hvalue : Expr.finiteValue (bare.environment ⟨8, 8⟩) .width (.var "flash") =
      .error (.unknownVariable "flash") := rfl
    simp only [Target.evaluate, Target.resolve, Target.extent, flash, Target.pixels, hparse,
      Expression.pixels, Expression.evaluate, hvalue]
  have hreads : flash.reads = ["flash"] := by decide +kernel
  obtain ⟨hall, -, -, -, -, hagree⟩ := resize_pointwise d ⟨8, 8⟩
  obtain ⟨-, -, hfirst, -, -, -⟩ := resize_pointwise bare ⟨8, 8⟩
  refine ⟨htrail d, hflash, hall.2 fun t ht => ?_, ?_, ?_⟩
  · rcases List.mem_cons.1 ht with rfl | ht
    · exact htrail d
    · obtain rfl := List.mem_singleton.1 ht
      exact ⟨_, Target.evaluate_eq_ok_iff.2 ⟨_, hflash, rfl⟩⟩
  · refine (hagree other flash flash rfl rfl fun name hname _ => ?_).symm.trans hflash
    obtain rfl : name = "flash" := by simpa [hreads] using hname
    rfl
  · refine (hfirst _).2 ⟨[trail], flash, [], rfl, fun u hu => ?_, hmissing⟩
    obtain rfl := List.mem_singleton.1 hu
    exact htrail bare

end Document

end ShaderEffect
