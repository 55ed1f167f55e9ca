/-
**What the passes of an effect declare.**

The passes are read in one go, and each of them may declare a target, or name one that is declared
already.  What comes out can be said without reading them in order: a target is declared by the
first pass that names it, and by no other, and the targets stand in the order of these passes, the
persistent ones apart from the others.  A pass that names a target again is drawn like any other; it
changes nothing about the target, and gives a warning if its flags are not those of the first pass.

Main definitions:

* `ShaderEffect.withEarlier` — the members of a list, each with those before it;
* `ShaderEffect.PassForm.Declares` — a pass, and the target it declares;
* `ShaderEffect.Passes.declarations`, `ShaderEffect.Passes.deviations` — the passes that are the
  first to name their targets, and those that have other flags than the first;
* `ShaderEffect.Passes.Declared` — what passes declare altogether.

Main results:

* `ShaderEffect.Passes.Declared.add` — one pass more;
* `ShaderEffect.Passes.declared_addAll`, `ShaderEffect.Passes.declared_ofForms` — all passes;
* `ShaderEffect.Document.WellFormed.checkPasses_eq` — every pass that is drawn has a target;
* `ShaderEffect.Metadata.passes_declare` — **what the passes of an effect declare, what they warn
  about, and that they can all be drawn**.
-/

import ShaderEffect.Proofs.Document.Views

set_option autoImplicit false

namespace ShaderEffect

/-! ### What came before -/

/-- The members of a list, each with those before it; the members of `earlier` are before all. -/
def withEarlier {α : Type} (earlier : List α) : List α → List (List α × α)
  | [] => []
  | a :: as => (earlier, a) :: withEarlier (earlier ++ [a]) as

section

variable {α : Type}

theorem withEarlier_append (earlier as bs : List α) :
    withEarlier earlier (as ++ bs) = withEarlier earlier as ++ withEarlier (earlier ++ as) bs := by
  induction as generalizing earlier with
  | nil => simp [withEarlier]
  | cons a as ih => simp [withEarlier, ih]

/-- What is before a member of a list is the list up to that member. -/
theorem mem_withEarlier {x : List α × α} {as : List α} :
    x ∈ withEarlier [] as ↔ ∃ after, as = x.1 ++ x.2 :: after := by
  obtain ⟨before, a⟩ := x
  suffices h : ∀ earlier, (before, a) ∈ withEarlier earlier as ↔
      ∃ between after, before = earlier ++ between ∧ as = between ++ a :: after by
    simpa using h []
  induction as with
  | nil => simp [withEarlier]
  | cons b as ih =>
      intro earlier
      rw [withEarlier, List.mem_cons, Prod.mk.injEq, ih]
      constructor
      · rintro (⟨rfl, rfl⟩ | ⟨between, after, rfl, rfl⟩)
        · exact ⟨[], as, (List.append_nil _).symm, rfl⟩
        · exact ⟨b :: between, after, by simp, rfl⟩
      · rintro ⟨between, after, rfl, has⟩
        cases between with
        | nil =>
            obtain ⟨rfl, -⟩ := List.cons.inj has
            exact Or.inl ⟨List.append_nil _, rfl⟩
        | cons c between =>
            obtain ⟨rfl, rfl⟩ := List.cons.inj has
            exact Or.inr ⟨between, after, by simp, rfl⟩

end

/-! ### Single passes -/

namespace PassForm

/-- The name of the target of a pass; the empty name is the final output. -/
def name (form : PassForm) : String := form.target.getD ""

/-- The flags of a pass, as far as they can be read. -/
def flags (form : PassForm) : Option Bool × Option Bool :=
  ((Passes.flagOf form.persistent).toOption, (Passes.flagOf form.float).toOption)

/-- What is said about a pass with other flags than it should have. -/
def warning (form : PassForm) : Warning := .passFlags form.name

/-- **A pass declares a target**: it gives it its name, its flags, and the texts of its width and
its height.  The target has neither a size nor buffers. -/
structure Declares (form : PassForm) (t : Target) : Prop where
  name : t.name = form.name
  persistent : Passes.flagOf form.persistent = .ok t.persistent
  float : Passes.flagOf form.float = .ok t.float
  width : t.width = form.width.map Json.plainText
  height : t.height = form.height.map Json.plainText
  blank : t.blank = t

/-- No pass before it names its target. -/
def IsFirst (earlier : List PassForm) (form : PassForm) : Prop :=
  form.name ≠ "" ∧ form.name ∉ earlier.map PassForm.name

/-- The first pass that names its target is another one, and has other flags. -/
def Deviates (earlier : List PassForm) (form : PassForm) : Prop :=
  form.name ≠ "" ∧ ∃ first ∈ earlier.find? (·.name = form.name), first.flags ≠ form.flags

instance (earlier : List PassForm) (form : PassForm) : Decidable (form.IsFirst earlier) :=
  inferInstanceAs (Decidable (_ ∧ _))

instance (earlier : List PassForm) (form : PassForm) : Decidable (form.Deviates earlier) :=
  inferInstanceAs (Decidable (_ ∧ _))

/-- The flags of a declared target are those of the pass. -/
theorem Declares.flags_eq {form : PassForm} {t : Target} (h : form.Declares t) :
    form.flags = (some t.persistent, some t.float) := by
  rw [flags, h.persistent, h.float]
  rfl

end PassForm

namespace Passes

/-! ### All passes -/

/-- The passes that are the first to name their targets. -/
def declarations (forms : List PassForm) : List PassForm :=
  ((withEarlier [] forms).filter fun x => x.2.IsFirst x.1).map Prod.snd

/-- The passes with other flags than the first one that names their target. -/
def deviations (forms : List PassForm) : List PassForm :=
  ((withEarlier [] forms).filter fun x => x.2.Deviates x.1).map Prod.snd

/-- **What passes declare**: the first pass that names a target declares it.  The targets stand in
the order of these passes, sorted by whether they persist. -/
def Declared (forms : List PassForm) (ps : Passes) : Prop :=
  ∃ targets, List.Forall₂ PassForm.Declares (declarations forms) targets ∧
    ps.persistent = (targets.filter fun t => t.persistent) ∧
    ps.temporary = targets.filter fun t => !t.persistent

theorem declarations_concat (forms : List PassForm) (form : PassForm) :
    declarations (forms ++ [form]) =
      declarations forms ++ if form.IsFirst forms then [form] else [] := by
  rw [declarations, withEarlier_append, List.filter_append, List.map_append, declarations]
  by_cases h : form.IsFirst forms <;> simp [withEarlier, h]

theorem deviations_concat (forms : List PassForm) (form : PassForm) :
    deviations (forms ++ [form]) =
      deviations forms ++ if form.Deviates forms then [form] else [] := by
  rw [deviations, withEarlier_append, List.filter_append, List.map_append, deviations]
  by_cases h : form.Deviates forms <;> simp [withEarlier, h]

/-- Which passes are the first to name their targets depends on the names before them alone. -/
theorem filter_isFirst_congr {earlier earlier' : List PassForm} (forms : List PassForm)
    (h : ∀ name, name ≠ "" →
      (name ∈ earlier.map PassForm.name ↔ name ∈ earlier'.map PassForm.name)) :
    ((withEarlier earlier forms).filter fun x => x.2.IsFirst x.1).map Prod.snd =
      ((withEarlier earlier' forms).filter fun x => x.2.IsFirst x.1).map Prod.snd := by
  induction forms generalizing earlier earlier' with
  | nil => rfl
  | cons form forms ih =>
      have hform : form.IsFirst earlier ↔ form.IsFirst earlier' :=
        and_congr_right fun hne => not_congr (h form.name hne)
      have hnames (name : String) (hne : name ≠ "") :
          name ∈ (earlier ++ [form]).map PassForm.name ↔
            name ∈ (earlier' ++ [form]).map PassForm.name := by
        simp only [List.map_append, List.mem_append, h name hne]
      have hforms := ih hnames
      by_cases hfirst : form.IsFirst earlier'
      · simp [withEarlier, hform.2 hfirst, hfirst, hforms]
      · simp [withEarlier, mt hform.1 hfirst, hfirst, hforms]

/-- **A pass that declares nothing** makes no difference to what the others declare. -/
theorem declarations_skip {before after : List PassForm} {form : PassForm}
    (hform : ¬ form.IsFirst before) :
    declarations (before ++ form :: after) = declarations (before ++ after) := by
  have hnames (name : String) (hne : name ≠ "") :
      name ∈ (before ++ [form]).map PassForm.name ↔ name ∈ before.map PassForm.name := by
    rw [List.map_append, List.mem_append, List.map_singleton, List.mem_singleton,
      or_iff_left_iff_imp]
    rintro rfl
    exact not_not.1 fun hnew => hform ⟨hne, hnew⟩
  simp only [declarations, withEarlier_append, withEarlier, List.filter_append, List.map_append,
    List.nil_append]
  simp [hform, filter_isFirst_congr after hnames]

/-- The passes that declare targets are those that a search by name finds. -/
theorem mem_declarations {forms : List PassForm} {form : PassForm} :
    form ∈ declarations forms ↔
      form.name ≠ "" ∧ forms.find? (·.name = form.name) = some form := by
  rw [List.find?_eq_some_iff_append]
  simp only [declarations, List.mem_map, List.mem_filter, decide_eq_true_eq, Prod.exists,
    exists_eq_right, mem_withEarlier, PassForm.IsFirst, true_and, Bool.not_eq_true',
    decide_eq_false_iff_not, not_exists, not_and]
  constructor
  · rintro ⟨before, ⟨after, hforms⟩, hne, hfirst⟩
    exact ⟨hne, before, after, hforms, hfirst⟩
  · rintro ⟨hne, before, after, hforms, hfirst⟩
    exact ⟨before, ⟨after, hforms⟩, hne, hfirst⟩

/-- Declaring a target and drawing into it is drawing once more. -/
theorem order_addTarget (ps : Passes) (t : Target) (name : String) :
    ((ps.addTarget t).draw name).order = ps.order ++ [name] := by
  unfold draw addTarget
  split <;> rfl

/-- A name that some pass has is found. -/
theorem exists_find? {forms : List PassForm} {name : String}
    (h : name ∈ forms.map PassForm.name) :
    ∃ first, forms.find? (·.name = name) = some first ∧ first.name = name := by
  obtain ⟨form, hform, rfl⟩ := List.mem_map.1 h
  cases hfind : forms.find? (·.name = form.name) with
  | none => exact absurd (by simp) (List.find?_eq_none.1 hfind form hform)
  | some first => exact ⟨first, rfl, by simpa using List.find?_some hfind⟩

namespace Declared

variable {forms : List PassForm} {ps : Passes}

/-- No passes declare nothing. -/
theorem nil : Declared [] empty := ⟨[], .nil, rfl, rfl⟩

/-- The targets are related to the passes that declare them. -/
theorem exists_perm (h : Declared forms ps) :
    ∃ targets, List.Forall₂ PassForm.Declares (declarations forms) targets ∧
      targets.Perm ps.targets := by
  obtain ⟨targets, htargets, hpersistent, htemporary⟩ := h
  refine ⟨targets, htargets, ?_⟩
  rw [Passes.targets, hpersistent, htemporary]
  exact (List.filter_append_perm (fun t : Target => t.persistent) targets).symm

/-- **What is found under a name** is the target that the first pass of this name declares. -/
theorem target?_cases (h : Declared forms ps) {name : String} (hne : name ≠ "") :
    (∃ t first, ps.target? name = some t ∧ forms.find? (·.name = name) = some first ∧
      first.Declares t) ∨
    (ps.target? name = none ∧ name ∉ forms.map PassForm.name) := by
  obtain ⟨targets, htargets, hperm⟩ := h.exists_perm
  cases hfind : ps.target? name with
  | some t =>
      have htname : t.name = name := by simpa using List.find?_some hfind
      have ht : t ∈ targets := hperm.mem_iff.2 (List.mem_of_find?_eq_some hfind)
      obtain ⟨first, hfirst, hdeclares⟩ := exists_of_mem_forall₂ htargets ht
      have hname : first.name = name := hdeclares.name.symm.trans htname
      exact Or.inl ⟨t, first, rfl, hname ▸ (mem_declarations.1 hfirst).2, hdeclares⟩
  | none =>
      refine Or.inr ⟨rfl, fun hmem => ?_⟩
      obtain ⟨first, hfirst, rfl⟩ := exists_find? hmem
      obtain ⟨t, ht, hdeclares⟩ :=
        exists_of_mem_forall₂ htargets.flip (mem_declarations.2 ⟨hne, hfirst⟩)
      have hnone := List.find?_eq_none.1 hfind t (hperm.mem_iff.1 ht)
      exact hnone (by simpa using hdeclares.name)

/-- One pass more that declares nothing. -/
theorem draw (h : Declared forms ps) {form : PassForm} (hform : ¬ form.IsFirst forms) :
    Declared (forms ++ [form]) (ps.draw form.name) := by
  rw [Declared, declarations_concat, if_neg hform, List.append_nil]
  exact h

/-- One pass more that declares a target. -/
theorem addTarget (h : Declared forms ps) {form : PassForm} (hform : form.IsFirst forms)
    {t : Target} (ht : form.Declares t) :
    Declared (forms ++ [form]) ((ps.addTarget t).draw form.name) := by
  obtain ⟨targets, htargets, hpersistent, htemporary⟩ := h
  rw [Declared, declarations_concat, if_pos hform]
  refine ⟨targets ++ [t], List.rel_append htargets (.cons ht .nil), ?_⟩
  rw [List.filter_append, List.filter_append, ← hpersistent, ← htemporary]
  unfold Passes.draw Passes.addTarget
  cases hsort : t.persistent <;> simp [hsort]

/-- **One pass more**: it declares its target if it is the first to name it, and otherwise it warns
if its flags are not those of the first. -/
theorem add (h : Declared forms ps) {taken : List String} {form : PassForm} {qs : Passes}
    (hqs : (ps.add taken form).result = .ok qs) :
    Declared (forms ++ [form]) qs ∧ qs.order = ps.order ++ [form.name] ∧
      (ps.add taken form).warnings = if form.Deviates forms then [form.warning] else [] := by
  by_cases hempty : form.name = ""
  · have hfirst : ¬ form.IsFirst forms := fun hfirst => hfirst.1 hempty
    have hdeviates : ¬ form.Deviates forms := fun hdeviates => hdeviates.1 hempty
    rw [add_unnamed hempty] at hqs ⊢
    cases hqs
    rw [if_neg hdeviates]
    exact ⟨h.draw hfirst, rfl, rfl⟩
  · obtain ⟨persistent, float, hpersistent, hfloat, hadd⟩ := add_named hempty hqs
    have hflags : form.flags = (some persistent, some float) := by
      rw [PassForm.flags, hpersistent, hfloat]
      rfl
    have hknown {first : PassForm} (hfind : forms.find? (·.name = form.name) = some first) :
        form.name ∈ forms.map PassForm.name :=
      List.mem_map.2 ⟨first, List.mem_of_find?_eq_some hfind, by simpa using List.find?_some hfind⟩
    rcases h.target?_cases hempty with ⟨t, first, htarget, hfind, hfirst⟩ | ⟨htarget, hnew⟩
    · -- the target is named again, and the flags to compare with are those of the first pass
      have hdeviates : form.Deviates forms ↔ t.persistent ≠ persistent ∨ t.float ≠ float := by
        simp [PassForm.Deviates, hempty, hfind, hflags, hfirst.flags_eq, Decidable.imp_iff_not_or]
      rcases hadd with ⟨u, hu, rfl, hwarnings⟩ | ⟨hnone, -⟩
      · cases htarget.symm.trans hu
        rw [hwarnings]
        exact ⟨h.draw fun hnew => hnew.2 (hknown hfind), rfl, if_congr hdeviates.symm rfl rfl⟩
      · cases htarget.symm.trans hnone
    · have hdeviates : ¬ form.Deviates forms := by
        rintro ⟨-, first, hfind, -⟩
        exact hnew (hknown hfind)
      rcases hadd with ⟨u, hu, -⟩ | ⟨-, -, rfl, hwarnings⟩
      · cases htarget.symm.trans hu
      · rw [hwarnings, if_neg hdeviates]
        exact ⟨h.addTarget ⟨hempty, hnew⟩ ⟨rfl, hpersistent, hfloat, rfl, rfl, rfl⟩,
          order_addTarget .., rfl⟩

end Declared

/-- **Passes that are read one after the other** declare what all of them declare, and warn about
those that deviate. -/
theorem declared_addAll {taken : List String} {forms earlier : List PassForm} {ps qs : Passes}
    (h : Declared earlier ps) (hqs : (addAll taken ps forms).result = .ok qs) :
    Declared (earlier ++ forms) qs ∧ qs.order = ps.order ++ forms.map PassForm.name ∧
      (deviations (earlier ++ forms)).map PassForm.warning =
        (deviations earlier).map PassForm.warning ++ (addAll taken ps forms).warnings := by
  -- the passes that have been read move over to the earlier ones, one by one
  induction forms generalizing earlier ps with
  | nil =>
      cases hqs
      simpa [addAll] using h
  | cons form forms ih =>
      rw [addAll] at hqs ⊢
      obtain ⟨rs, hrs, hqs⟩ := Report.result_bind_eq_ok_iff.1 hqs
      obtain ⟨hone, horder, hwarnings⟩ := h.add hrs
      obtain ⟨hall, hrest, hothers⟩ := ih hone hqs
      rw [Report.warnings_bind_of_ok hrs, hwarnings, List.append_cons earlier]
      refine ⟨hall, by rw [hrest, horder]; simp, ?_⟩
      rw [hothers, deviations_concat, List.map_append, List.append_assoc]
      split <;> rfl

/-- **The passes of an effect** declare what they declare one after the other; without any, there is
one that draws into the final output. -/
theorem declared_ofForms {taken : List String} {forms : List PassForm} {ps : Passes}
    (hps : (ofForms taken forms).result = .ok ps) :
    Declared forms ps ∧ ps.order = (if forms = [] then [""] else forms.map PassForm.name) ∧
      (ofForms taken forms).warnings = (deviations forms).map PassForm.warning := by
  cases forms with
  | nil =>
      cases hps
      exact ⟨.nil, rfl, rfl⟩
  | cons form forms =>
      obtain ⟨hdeclared, horder, hwarnings⟩ := declared_addAll .nil hps
      exact ⟨hdeclared, horder, hwarnings.symm⟩

end Passes

/-! ### Warnings -/

/-- What a sequence warns about comes from one of its parts. -/
theorem Report.forall_warnings_bind {α β : Type} {P : Warning → Prop} {r : Report α}
    {f : α → Report β} (hr : ∀ w ∈ r.warnings, P w) (hf : ∀ a, ∀ w ∈ (f a).warnings, P w) :
    ∀ w ∈ (r >>= f).warnings, P w := by
  cases h : r.result with
  | error failure =>
      intro w hw
      have hwarnings : (r >>= f).warnings = r.warnings := by
        show (Report.bind r f).warnings = _
        simp [Report.bind, h]
      exact hr w (hwarnings ▸ hw)
  | ok a =>
      rw [Report.warnings_bind_of_ok h]
      exact List.forall_mem_append.2 ⟨hr, hf a⟩

/-- The warning is about a parameter. -/
def Warning.IsOptionLengths (w : Warning) : Prop := ∃ name n m, w = .optionLengths name n m

theorem forall_warnings_withOptions (form : InputForm) (p : Parameter) :
    ∀ w ∈ (withOptions form p).warnings, w.IsOptionLengths := by
  unfold withOptions
  split
  · simp
  · split
    · simp [Report.fail]
    · dsimp only
      split
      · refine Report.forall_warnings_bind ?_ fun _ => by simp
        simp [Report.warn, Warning.IsOptionLengths]
      · simp

theorem forall_warnings_toParameter (form : InputForm) :
    ∀ w ∈ form.toParameter.warnings, w.IsOptionLengths := by
  unfold InputForm.toParameter
  split
  · simp [Report.fail]
  · dsimp only
    split
    · simp
    · split
      · simp
      · refine Report.forall_warnings_bind (by simp) fun q => ?_
        split
        · exact Report.forall_warnings_bind (forall_warnings_withOptions form q) (by simp)
        · exact fun _ hw => absurd hw List.not_mem_nil

/-- **Reading parameters warns about parameters only.** -/
theorem forall_warnings_parametersOf (directory : String) (form : EffectForm) :
    ∀ w ∈ (parametersOf directory form).warnings, w.IsOptionLengths := by
  have hinputs (forms : List InputForm) (ps : List Parameter) :
      ∀ w ∈ (addInputs ps forms).warnings, w.IsOptionLengths := by
    induction forms generalizing ps with
    | nil => simp [addInputs]
    | cons input forms ih =>
        refine Report.forall_warnings_bind (forall_warnings_toParameter input) fun p => ?_
        exact Report.forall_warnings_bind (by simp) ih
  refine Report.forall_warnings_bind (hinputs form.inputs []) fun inputs => ?_
  exact Report.forall_warnings_bind (by simp) (by simp)

/-! ### Drawing -/

namespace Document

variable {d : Document}

/-- Passes whose targets are declared are accepted. -/
theorem undeclaredPass?_eq_none {names : List String}
    (h : ∀ name ∈ names, name ≠ "" → ∃ t, d.target? name = some t) (index : Nat) :
    d.undeclaredPass? index names = none := by
  induction names generalizing index with
  | nil => rfl
  | cons name names ih =>
      obtain ⟨hname, hnames⟩ := List.forall_mem_cons.1 h
      rw [undeclaredPass?, if_neg, ih hnames]
      rintro ⟨hne, hnone⟩
      obtain ⟨t, ht⟩ := hname hne
      rw [ht] at hnone
      cases hnone

/-- **In a well-formed document, every pass that is drawn has a target.** -/
theorem WellFormed.checkPasses_eq {σ : Type} {s : Studio σ} (hd : s.document.WellFormed) :
    Studio.checkPasses s = .ok () s := by
  rw [Studio.checkPasses, undeclaredPass?_eq_none]
  intro name hname hne
  obtain ⟨t, ht, heq⟩ := hd.passes.declared name hname hne
  exact ⟨t, (target?_eq_some_iff hd).2 ⟨ht, heq⟩⟩

end Document

/-! ### The whole -/

namespace Metadata

/-- **What the passes of an effect declare.**  They are drawn in the order of their declaration, and
if there are none, the final output is drawn once.  The first pass that names a target declares it,
with its flags and the texts of its width and its height; the targets stand in the order of these
passes, the persistent ones and the others apart.  A pass that names a target again makes no
difference to the targets, and there is a warning about it exactly if its flags are not those of the
first.  So every pass that has a name draws into the one target of this name, every target is drawn
into, and as long as the document is used, no pass is refused for its target. -/
theorem passes_declare (directory text : String) {m : Metadata}
    (hm : (ofText directory text).result = .ok m) :
    ∃ form, EffectForm.ofText text = .ok form ∧
      let forms := form.passes.getD []
      m.passes.order = (if forms = [] then [""] else forms.map PassForm.name) ∧
      Passes.Declared forms m.passes ∧
      (∀ before pass after, forms = before ++ pass :: after → ¬ pass.IsFirst before →
        Passes.Declared (before ++ after) m.passes) ∧
      (∃ others, (ofText directory text).warnings =
          others ++ (Passes.deviations forms).map PassForm.warning ∧
        ∀ w ∈ others, ∀ name, w ≠ .passFlags name) ∧
      (m.passes.targets.map Target.name).Nodup ∧
      (∀ name, (∃ t ∈ m.passes.targets, t.name = name) ↔ name ≠ "" ∧ name ∈ m.passes.order) ∧
      ∀ d : Document, d.toMetadata = m → ∀ {σ : Type} (s : Studio σ),
        s.document.blank = d.blank → Studio.checkPasses s = .ok () s := by
  have hwell {d : Document} (hd : d.toMetadata = m) : d.WellFormed :=
    (Document.wellFormed_of_ofText hm hd).1
  rw [ofText] at hm ⊢
  cases hform : EffectForm.ofText text with
  | error fault =>
      rw [hform] at hm
      cases hm
  | ok form =>
      rw [hform] at hm
      obtain ⟨ps, hps, hrest⟩ := Report.result_bind_eq_ok_iff.1 hm
      obtain ⟨passes, hpasses, hrest⟩ := Report.result_bind_eq_ok_iff.1 hrest
      cases hrest
      obtain ⟨hdeclared, horder, hwarnings⟩ := Passes.declared_ofForms hpasses
      obtain ⟨hpassesWell, -⟩ := Passes.ofForms_spec hpasses
      refine ⟨form, rfl, horder, hdeclared, ?_, ?_, hpassesWell.names, fun name => ⟨?_, ?_⟩, ?_⟩
      · intro before pass after hforms hpass
        rw [Passes.Declared, hforms, Passes.declarations_skip hpass] at hdeclared
        exact hdeclared
      · refine ⟨(parametersOf directory form).warnings, ?_, fun w hw name hflags => ?_⟩
        · dsimp only
          rw [ofForm, Report.warnings_bind_of_ok hps, Report.warnings_bind_of_ok hpasses,
            Report.warnings_pure, List.append_nil, hwarnings]
        · obtain ⟨parameter, n, k, rfl⟩ := forall_warnings_parametersOf directory form w hw
          cases hflags
      · rintro ⟨t, ht, rfl⟩
        exact hpassesWell.drawn t ht
      · rintro ⟨hne, hname⟩
        exact hpassesWell.declared name hname hne
      · intro d hd σ s hblank
        exact ((hwell hd).of_blank_eq hblank).checkPasses_eq

/-- The metadata of an effect that draws twice into a target, with other flags and another width the
second time. -/
def sketchText : String :=
  "\x7b\"PASSES\":[\x7b\"TARGET\":\"a\",\"PERSISTENT\":true,\"WIDTH\":4\x7d," ++
    "\x7b\"TARGET\":\"b\"\x7d,\x7b\"TARGET\":\"a\",\"WIDTH\":8\x7d,\x7b\x7d]\x7d"

/-- **A target that is named twice** is declared once, as the first pass has it. -/
theorem passes_declare_sketch :
    ∃ m, (ofText "/" sketchText).result = .ok m ∧ m.passes.order = ["a", "b", "a", ""] ∧
      (m.passes.targets.map fun t => (t.name, t.width, t.persistent)) =
        [("a", some "4", true), ("b", none, false)] ∧
      (ofText "/" sketchText).warnings = [.passFlags "a"] ∧
      ∃ form, EffectForm.ofText sketchText = .ok form ∧
        Passes.Declared (form.passes.getD []) m.passes := by
  cases hm : (ofText "/" sketchText).result with
  | error failure =>
      have hok : (ofText "/" sketchText).result.toOption.isSome = true := by decide +kernel
      rw [hm] at hok
      cases hok
  | ok m =>
      have hview : (ofText "/" sketchText).result.toOption.map (fun m => (m.passes.order,
          m.passes.targets.map fun t => (t.name, t.width, t.persistent))) =
          some (["a", "b", "a", ""], [("a", some "4", true), ("b", none, false)]) := by
        decide +kernel
      rw [hm] at hview
      obtain ⟨horder, htargets⟩ := Prod.mk.inj (Option.some.inj hview)
      obtain ⟨form, hform, -, hdeclared, -⟩ := passes_declare "/" sketchText hm
      exact ⟨m, rfl, horder, htargets, by decide +kernel, form, hform, hdeclared⟩

end Metadata

end ShaderEffect
