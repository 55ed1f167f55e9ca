/-
**Values are of the kind of their parameter.**

A parameter has a kind from the moment it is read, and whatever its host or a frame does to it, its
value stays of that kind.  No parameter starts with a buffer, and none is reset to one.

Main definitions:

* `ShaderEffect.Parameter.Typed` — **the value and the default of a parameter are of its kind**;
* `ShaderEffect.Document.Typed` — the same for all parameters of a document;
* `ShaderEffect.Document.alter` — a document after a change of a parameter.

Main results:

* `ShaderEffect.Document.Opened.begun` — **parameters start with values of their kinds**;
* `ShaderEffect.Document.Typed.alter` — **a change of a parameter leaves all values of their
  kinds**;
* `ShaderEffect.Document.mem_alter` — at most one parameter changes, by the change that was made;
* `ShaderEffect.forall_eachOf` — what work keeps true of each member of a list.
-/

import ShaderEffect.Proofs.Document.Change
import ShaderEffect.Proofs.Scene.Frame

set_option autoImplicit false

namespace ShaderEffect

variable {σ : Type}

/-! ### Values -/

/-- Only what is sampled can be bound to a buffer. -/
theorem Value.binding?_eq_none {v : Value} (h : v.kind.isSampler = false) : v.binding? = none := by
  cases v <;> first | rfl | cases h

/-- No buffer stands in the metadata. -/
theorem Value.binding?_ofJson? {k : Kind} {j : Json} {v : Value} (h : ofJson? k j = some v) :
    v.binding? = none := by
  refine Value.binding?_eq_none ?_
  rw [kind_ofJson? h]
  cases k <;> first | rfl | cases h

/-- What is bound is the buffer that was given. -/
theorem Value.binding?_ofBinding? {binding : Option Binding} {k : Kind} {v : Value}
    (h : ofBinding? binding k = some v) : v.binding? = binding := by
  cases k <;> simp [ofBinding?] at h <;> subst h <;> rfl

namespace Parameter

/-- **The value and the default of a parameter are of its kind**, and the default is no buffer. -/
structure Typed (p : Parameter) : Prop where
  current : p.current.kind = p.kind
  default : ∀ v ∈ p.default, v.kind = p.kind ∧ v.binding? = none

/-- What a parameter is like when it is read: its value is of its kind, and no buffer. -/
structure Begun (p : Parameter) : Prop extends p.Typed where
  unbound : p.current.binding? = none

/-- Limits, choices, labels and paths do not matter. -/
theorem Begun.congr {p q : Parameter} (h : p.Begun) (hkind : q.kind = p.kind)
    (hcurrent : q.current = p.current) (hdefault : q.default = p.default) : q.Begun := by
  obtain ⟨⟨hc, hd⟩, hu⟩ := h
  refine ⟨⟨?_, ?_⟩, ?_⟩
  · rw [hcurrent, hkind, hc]
  · rw [hdefault, hkind]
    exact hd
  · rw [hcurrent, hu]

theorem begun_ofKind (name : String) (kind : Kind) : (ofKind name kind).Begun :=
  ⟨⟨Value.kind_zero kind, fun _ hv => nomatch hv⟩, Value.binding?_zero kind⟩

theorem begun_imported (name path : String) : (imported name path).Begun :=
  (begun_ofKind name .image).congr rfl rfl rfl

/-- A default becomes the value, too. -/
theorem Begun.withDefault {p : Parameter} {v : Value} (hkind : v.kind = p.kind)
    (hunbound : v.binding? = none) : (p.withDefault v).Begun := by
  refine ⟨⟨hkind, fun w hw => ?_⟩, hunbound⟩
  cases hw
  exact ⟨hkind, hunbound⟩

/-! ### Changes -/

/-- **Changes leave the value of its kind.** -/
theorem Typed.apply {p q : Parameter} (hp : p.Typed) {change : InputChange}
    (h : change.apply p = .ok q) : q.Typed := by
  cases change with
  | set v =>
      obtain ⟨hkind, rfl⟩ := set_eq_ok_iff.1 h
      exact ⟨hkind, hp.default⟩
  | bind binding =>
      unfold InputChange.apply at h
      dsimp only at h
      unfold Parameter.bind at h
      split at h
      · rename_i v hv
        cases h
        exact ⟨Value.kind_ofBinding? hv, hp.default⟩
      · cases h
  | reset =>
      cases h
      refine ⟨?_, hp.default⟩
      show (p.default.getD _).kind = p.kind
      cases hd : p.default with
      | none => exact Value.kind_zero p.kind
      | some v => exact (hp.default v hd).1

theorem Typed.settle {p : Parameter} (hp : p.Typed) : p.settle.Typed := by
  unfold Parameter.settle
  split
  · rename_i hevent
    refine ⟨?_, hp.default⟩
    rw [← hp.current, hevent]
    rfl
  · exact hp

/-- Loading an image is binding a buffer. -/
theorem Typed.loadImport (device : Device σ) {p : Parameter} (hp : p.Typed) (s : Supply σ) :
    Ends (fun _ r => r.1.Typed) (fun _ r => r.1.Typed) (loadImport device (p, s)) := by
  unfold ShaderEffect.loadImport
  dsimp only
  split
  · rcases device.loadImage _ s.device with ⟨⟨b, d⟩, state⟩ | ⟨fault, state⟩
    · dsimp only
      cases hbind : p.bind (some ⟨(s.pool.adopt d b).1, d, false⟩) with
      | error failure => exact hp
      | ok q => exact hp.apply (show (InputChange.bind _).apply p = .ok q from hbind)
    · exact hp
  · exact hp

end Parameter

/-- What work keeps true of each member of a list, it keeps true of all of them. -/
theorem forall_eachOf {ε α τ : Type} {P : α → Prop} {work : EStateM ε (α × τ) Unit}
    (hwork : ∀ a s, P a → Ends (fun _ r => P r.1) (fun _ r => P r.1) (work (a, s)))
    {as : List α} (has : ∀ a ∈ as, P a) (s : τ) :
    Ends (fun _ r => ∀ a ∈ r.1, P a) (fun _ r => ∀ a ∈ r.1, P a) (eachOf work (as, s)) := by
  refine ends_eachOf_induct_same work (I := fun as _ => ∀ a ∈ as, P a)
    (R := fun _ _ bs _ => ∀ b ∈ bs, P b) (fun _ h => h) (fun a as s h => ?_) has
  obtain ⟨ha, has⟩ := List.forall_mem_cons.1 h
  exact (hwork a s ha).mono
    (fun _ _ hb => ⟨has, fun _ _ hbs => List.forall_mem_cons.2 ⟨hb, hbs⟩⟩)
    fun _ _ hb => List.forall_mem_cons.2 ⟨hb, has⟩

/-- Work that every member of a list accepts is accepted for the whole list. -/
theorem mapM_eq_ok {ε α β : Type} {f : α → Except ε β} {g : α → β} {as : List α}
    (h : ∀ a ∈ as, f a = .ok (g a)) : as.mapM f = .ok (as.map g) := by
  induction as with
  | nil => rfl
  | cons a as ih =>
      obtain ⟨ha, has⟩ := List.forall_mem_cons.1 h
      rw [List.mapM_cons, ha, ih has]
      rfl

/-! ### Parameters as they are read -/

namespace InputForm

variable {form : InputForm} {p q : Parameter}

theorem Chooses.begun (h : form.Chooses p q) (hp : p.Begun) : q.Begun := by
  cases h with
  | skipped => exact hp
  | @read _ numbers hkind =>
    unfold choosing
    -- without a declared default, the first choice is it
    cases form.choice? numbers with
    | none => exact hp.congr rfl rfl rfl
    | some n =>
      have hchoice : (p.withDefault (.long n)).Begun := .withDefault hkind.symm rfl
      exact hchoice.congr rfl rfl rfl

theorem Defaults.begun (h : form.Defaults p q) (hp : p.Begun) : q.Begun := by
  cases h with
  | undeclared => exact hp
  | declared _ hv => exact .withDefault (Value.kind_ofJson? hv) (Value.binding?_ofJson? hv)

/-- **An input that was read starts with a value of its kind.** -/
theorem begun_toParameter (h : form.toParameter.result = .ok p) : p.Begun := by
  obtain ⟨kind, -, hp⟩ := yields_toParameter h
  have hstart : (form.start kind).Begun :=
    (Parameter.begun_ofKind form.name kind).congr rfl rfl rfl
  cases hp with
  | audio => exact hstart.congr rfl rfl rfl
  | image => exact hstart
  | value _ _ _ _ hchooses hdefaults =>
    exact hdefaults.begun (hchooses.begun (hstart.congr rfl rfl rfl))

end InputForm

/-- All parameters start with values of their kinds. -/
theorem begun_parametersOf {directory : String} {form : EffectForm} {ps : List Parameter}
    (h : (parametersOf directory form).result = .ok ps) : ∀ p ∈ ps, p.Begun :=
  forall_of_parametersOf h (fun _ _ => InputForm.begun_toParameter) Parameter.begun_imported

/-! ### Documents -/

namespace Document

/-- All values and defaults are of the kinds of their parameters. -/
def Typed (d : Document) : Prop := ∀ p ∈ d.parameters, p.Typed

variable {d : Document}

/-- **The parameters of a document start with values of their kinds**, and without buffers. -/
theorem Opened.begun (hd : d.Opened) : ∀ p ∈ d.parameters, p.Begun := by
  rcases hd.metadata with ⟨_, _, h⟩ | h
  · obtain ⟨form, hps, -⟩ := Metadata.exists_form h
    exact begun_parametersOf hps
  · rw [show d.parameters = [] from congrArg Metadata.parameters h]
    exact fun _ hp => absurd hp List.not_mem_nil

theorem Opened.typed (hd : d.Opened) : d.Typed := fun p hp => (hd.begun p hp).toTyped

/-! ### Changes of any parameter -/

/-- The document after a change of the parameter of a name.  A change that is refused, or that
concerns no parameter, leaves it as it is. -/
def alter (d : Document) (name : String) (change : InputChange) : Document :=
  match d.change? name change.apply with
  | some (.ok d) => d
  | _ => d

/-- At most one parameter changes. -/
theorem alter_cases (d : Document) (name : String) (change : InputChange) :
    d.alter name change = d ∨ ∃ before p q after, d.parameters = before ++ p :: after ∧
      p.name = name ∧ change.apply p = .ok q ∧
        d.alter name change = d.withParameters (before ++ q :: after) := by
  unfold alter change?
  rcases hc : changeFirst name change.apply d.parameters with _ | ⟨_ | qs⟩
  · exact Or.inl rfl
  · exact Or.inl rfl
  · obtain ⟨before, p, q, after, hsplit, hname, happly, rfl⟩ := changeFirst_eq_some_ok hc
    exact Or.inr ⟨before, p, q, after, hsplit, hname, happly, rfl⟩

/-- A parameter of the changed document was there before, or is one that was changed. -/
theorem mem_alter {name : String} {change : InputChange} {q : Parameter}
    (hq : q ∈ (d.alter name change).parameters) :
    q ∈ d.parameters ∨ ∃ p ∈ d.parameters, p.name = name ∧ change.apply p = .ok q := by
  rcases alter_cases d name change with h | ⟨before, p, r, after, hsplit, hname, happly, h⟩
  · exact Or.inl (h ▸ hq)
  · rw [h] at hq
    rw [hsplit]
    rcases List.mem_append.1 hq with hq | hq
    · exact Or.inl (List.mem_append_left _ hq)
    · rcases List.mem_cons.1 hq with rfl | hq
      · exact Or.inr ⟨p, List.mem_append_right _ List.mem_cons_self, hname, happly⟩
      · exact Or.inl (List.mem_append_right _ (List.mem_cons_of_mem _ hq))

@[simp] theorem passes_alter (d : Document) (name : String) (change : InputChange) :
    (d.alter name change).passes = d.passes := by
  rcases alter_cases d name change with h | ⟨before, p, q, after, -, -, -, h⟩
  · rw [h]
  · rw [h]
    rfl

/-- Only a value is changed. -/
@[simp] theorem blank_alter (d : Document) (name : String) (change : InputChange) :
    (d.alter name change).blank = d.blank := by
  rcases alter_cases d name change with h | ⟨before, p, q, after, hsplit, -, happly, h⟩
  · rw [h]
  · obtain ⟨v, rfl⟩ := InputChange.exists_of_apply happly
    rw [h]
    simp [blank, withParameters, hsplit, Parameter.blank]

/-- **A change of a parameter leaves all values of their kinds.** -/
theorem Typed.alter (hd : d.Typed) (name : String) (change : InputChange) :
    (d.alter name change).Typed := by
  intro q hq
  rcases mem_alter hq with hq | ⟨p, hp, -, happly⟩
  · exact hd q hq
  · exact (hd p hp).apply happly

theorem Typed.withoutBuffers (hd : d.Typed) : (Studio.withoutBuffers d).Typed := by
  intro q hq
  obtain ⟨p, hp, rfl⟩ := List.mem_map.1 hq
  split
  · refine ⟨?_, (hd p hp).default⟩
    show ((Value.ofBinding? none p.kind).getD p.current).kind = p.kind
    cases hv : Value.ofBinding? none p.kind with
    | none => exact (hd p hp).current
    | some v => exact Value.kind_ofBinding? hv
  · exact hd p hp

end Document

end ShaderEffect
