/-
**Events last for one complete frame.**

An event is an input that a host sets and a frame ends.  While it is set, every draw is told so, and
size expressions read it as one; a frame that fails leaves it set, so that the next one shows it
again, and a frame that is completed ends it.  So between one change of an event by its host and the
next, it is set in all frames up to the first one that is completed, and in no frame behind that.

An event can be called like the render size.  Draws are told that it is set all the same, but size
expressions go on reading the render size under its name.

Main definitions:

* `ShaderEffect.Parameter.Passed` — **what becomes of a parameter in a frame**;
* `ShaderEffect.Document.Signals` — whether an event is set;
* `ShaderEffect.Rendered.Fires` — a frame that shows an event;
* `ShaderEffect.Session.rendered` — all frames of a document, whichever scene renders them.

Main results:

* `ShaderEffect.Rendered.passed` — a frame ends events and loads images, and changes no other value;
* `ShaderEffect.Rendered.fires` — a frame shows the events that are set;
* `ShaderEffect.Session.signals_moved` — an event is set until the first complete frame;
* `ShaderEffect.Session.events_last_one_frame` — **what holds of every run**.
-/

import ShaderEffect.Proofs.Scene.Film
import ShaderEffect.Proofs.Scene.Settled
import ShaderEffect.Proofs.Scene.Sizing

set_option autoImplicit false

namespace ShaderEffect

open Supply

variable {σ : Type}

/-! ### Parameters -/

/-- What holds between a member of a list and what work makes of it holds between all of them, if it
holds where nothing is done. -/
theorem forall₂_eachOf {ε α τ : Type} {R : α → α → Prop} {work : EStateM ε (α × τ) Unit}
    (hrefl : ∀ a, R a a)
    (hwork : ∀ a s, Ends (fun _ r => R a r.1) (fun _ r => R a r.1) (work (a, s)))
    (as : List α) (s : τ) :
    Ends (fun _ r => List.Forall₂ R as r.1) (fun _ r => List.Forall₂ R as r.1)
      (eachOf work (as, s)) := by
  refine ends_eachOf_induct_same work (I := fun _ _ => True)
    (R := fun as _ bs _ => List.Forall₂ R as bs) (fun _ _ => .nil) (fun a as s _ => ?_) trivial
  exact (hwork a s).mono (fun _ _ ha => ⟨trivial, fun _ _ has => .cons ha has⟩)
    fun _ _ ha => .cons ha (List.forall₂_same.2 fun b _ => hrefl b)

namespace Parameter

/-- What becomes of a parameter while images are loaded: an imported image that has no buffer can be
bound to one. -/
def Loaded (p q : Parameter) : Prop :=
  q = p ∨ p.isImport = true ∧ p.current.binding? = none ∧
    ∃ v, q = { p with current := v } ∧ v.binding? ≠ none

/-- **What becomes of a parameter in a frame**: only its value can change.  An input keeps it, but
an event is over when the frame is completed.  An imported image keeps its buffer, and can be given
one if it has none. -/
structure Passed (complete : Bool) (p q : Parameter) : Prop where
  declared : q = { p with current := q.current }
  input : p.isImport = false →
    q.current = if complete = true ∧ p.current = .event true then .event false else p.current
  bound : p.isImport = true → p.current.binding? ≠ none → q.current = p.current
  unbound : p.isImport = true → q.current = p.current ∨ q.current.binding? ≠ none

variable {p q : Parameter}

theorem loaded_loadImport (device : Device σ) (p : Parameter) (s : Supply σ) :
    Ends (fun _ r => p.Loaded r.1) (fun _ r => p.Loaded r.1) (loadImport device (p, s)) := by
  have hrefl : p.Loaded p := Or.inl rfl
  unfold loadImport
  dsimp only
  split
  · rename_i path hpath hunbound
    have himport : p.isImport = true := by simp [isImport, hpath]
    rcases device.loadImage path s.device with ⟨⟨b, d⟩, state⟩ | ⟨fault, state⟩
    · dsimp only
      unfold Parameter.bind
      cases hv : Value.ofBinding? (some ⟨(s.pool.adopt d b).1, d, false⟩) p.kind with
      | none => exact hrefl
      | some v =>
        refine Or.inr ⟨himport, hunbound, v, rfl, ?_⟩
        rw [Value.binding?_ofBinding? hv]
        exact Option.some_ne_none _
    · exact hrefl
  · exact hrefl

/-- A frame that is not completed leaves parameters as they are when images have been loaded. -/
theorem Loaded.passed (h : p.Loaded q) : p.Passed false q := by
  rcases h with rfl | ⟨himport, hunbound, v, rfl, hv⟩
  · exact ⟨rfl, fun _ => by simp, fun _ _ => rfl, fun _ => Or.inl rfl⟩
  · refine ⟨rfl, fun hinput => ?_, fun _ hbound => absurd hunbound hbound, fun _ => Or.inr hv⟩
    rw [himport] at hinput
    cases hinput

/-- What has a buffer, or is an image, is no event. -/
theorem settle_eq_self (h : p.current ≠ .event true) : p.settle = p := if_neg h

/-- A frame that is completed ends events behind that. -/
theorem Loaded.passed_settle (h : p.Loaded q) (hp : p.Typed)
    (himage : p.isImport = true → p.kind = .image) : p.Passed true q.settle := by
  rcases h with rfl | ⟨himport, hunbound, v, rfl, hv⟩
  · by_cases hevent : q.current = .event true
    · have hinput : q.isImport ≠ true := by
        intro himport
        have hkind := hp.current
        rw [hevent, himage himport] at hkind
        cases hkind
      have hsettle : q.settle = { q with current := .event false } := if_pos hevent
      rw [hsettle]
      exact ⟨rfl, fun _ => by simp [hevent], fun h => absurd h hinput, fun h => absurd h hinput⟩
    · rw [settle_eq_self hevent]
      exact ⟨rfl, fun _ => by simp [hevent], fun _ _ => rfl, fun _ => Or.inl rfl⟩
  · have hevent : v ≠ .event true := by
      rintro rfl
      exact hv rfl
    rw [settle_eq_self hevent]
    refine ⟨rfl, fun hinput => ?_, fun _ hbound => absurd hunbound hbound, fun _ => Or.inr hv⟩
    rw [himport] at hinput
    cases hinput

end Parameter

/-- **Images are loaded, and no other parameter changes.** -/
theorem Studio.Loading.loaded {device : Device σ} {s t : Studio σ} (h : Loading device s t) :
    List.Forall₂ Parameter.Loaded s.document.parameters t.document.parameters := by
  have hrefl (p : Parameter) : p.Loaded p := Or.inl rfl
  rcases h.loads with hloads | hloads
  · rw [Prod.mk.injEq] at hloads
    rw [hloads.1]
    exact List.forall₂_same.2 fun p _ => hrefl p
  · have heach := forall₂_eachOf hrefl (Parameter.loaded_loadImport device)
      s.document.parameters s.supply
    have hfirst := congrArg Prod.fst hloads
    dsimp only at hfirst
    rw [hfirst]
    rcases hr : eachOf (loadImport device) (s.document.parameters, s.supply) with
      ⟨_, ps, supply⟩ | ⟨failure, ps, supply⟩
    all_goals
      rw [hr] at heach
      exact heach

/-! ### Events -/

namespace Document

variable {d e : Document} {name : String} {b : Bool}

/-- The event of a name is set, or not. -/
def Signals (d : Document) (name : String) (b : Bool) : Prop :=
  ∃ p ∈ d.inputs, p.name = name ∧ p.current = .event b

instance : Decidable (d.Signals name b) :=
  inferInstanceAs (Decidable (∃ p ∈ d.inputs, p.name = name ∧ p.current = .event b))

/-- Events are inputs, wherever they stand. -/
theorem signals_iff (hd : d.WellFormed) : d.Signals name b ↔
    ∃ p ∈ d.parameters, p.isImport = false ∧ p.name = name ∧ p.current = .event b := by
  unfold Signals
  rw [hd.inputs_eq_filter]
  simp only [List.mem_filter, and_assoc, Bool.not_eq_true']

/-- A change under another name leaves a parameter as it is. -/
theorem mem_alter_of_ne {p : Parameter} (hp : p ∈ d.parameters) (hname : p.name ≠ name)
    (change : InputChange) : p ∈ (d.alter name change).parameters := by
  unfold alter change?
  rcases hc : changeFirst name change.apply d.parameters with _ | ⟨_ | qs⟩
  · exact hp
  · exact hp
  · obtain ⟨before, q, r, after, hsplit, hq, -, rfl⟩ := changeFirst_eq_some_ok hc
    rw [hsplit] at hp
    show p ∈ before ++ r :: after
    rcases List.mem_append.1 hp with hp | hp
    · exact List.mem_append_left _ hp
    · rcases List.mem_cons.1 hp with rfl | hp
      · exact absurd hq hname
      · exact List.mem_append_right _ (List.mem_cons_of_mem _ hp)

/-- An event that is set is the number one. -/
theorem number?_of_signals (hd : d.WellFormed) (h : d.Signals name true) :
    (d.number? name).bind Value.number? = some 1.0 := by
  obtain ⟨p, hp, hname, hevent⟩ := h
  have hnumber : p.current.kind.isNumber = true := by rw [hevent]; rfl
  -- no other input has the name
  have hnames : (d.inputs.map Parameter.name).Nodup :=
    hd.parameters.names.sublist ((List.takeWhile_sublist _).map _)
  have hfind : d.inputs.reverse.find? (fun p => p.name = name ∧ p.current.kind.isNumber) =
      some p := by
    cases hf : d.inputs.reverse.find? fun p => p.name = name ∧ p.current.kind.isNumber with
    | none =>
      have hnone := List.find?_eq_none.1 hf p (List.mem_reverse.2 hp)
      simp [hname, hnumber] at hnone
    | some q =>
      have hq : q.name = name ∧ q.current.kind.isNumber = true := by
        simpa using List.find?_some hf
      have hmem := List.mem_reverse.1 (List.mem_of_find?_eq_some hf)
      rw [List.inj_on_of_nodup_map hnames hmem hp (hq.1.trans hname.symm)]
  rw [number?, hfind, Option.map_some, Option.bind_some, hevent]
  rfl

/-- What a frame does to the parameters ends an event if the frame is completed. -/
theorem Signals.passed {complete : Bool} (h : d.Signals name b) (hd : d.WellFormed)
    (he : e.WellFormed)
    (hpassed : List.Forall₂ (Parameter.Passed complete) d.parameters e.parameters) :
    e.Signals name (b && !complete) := by
  obtain ⟨p, hp, hinput, hname, hevent⟩ := (signals_iff hd).1 h
  obtain ⟨q, hq, hpq⟩ := exists_of_mem_forall₂ hpassed.flip hp
  have hcurrent := hpq.input hinput
  have hdeclared := hpq.declared
  refine (signals_iff he).2 ⟨q, hq, ?_, ?_, ?_⟩
  · rw [hdeclared]
    exact hinput
  · rw [hdeclared]
    exact hname
  · rw [hcurrent, hevent]
    cases b <;> cases complete <;> rfl

end Document

/-! ### Frames -/

namespace Rendered

variable {device : Device σ} {now : Moment} {renderSize : Size} {s : Studio (Observed σ)}
  {name : String} {b : Bool}

/-- **What a frame leaves of the parameters**, however it goes. -/
theorem passed (device : Device σ) (now : Moment) (renderSize : Size) (hs : s.Steady) :
    List.Forall₂ (Parameter.Passed (ofFrame device now renderSize s).isComplete)
      s.document.parameters (ofFrame device now renderSize s).after.document.parameters := by
  have hends := Studio.parameters_renderFrame device.observed now renderSize hs.consistent
    hs.wellFormed hs.rests
  unfold ofFrame
  rcases hr : Studio.renderFrame device.observed now renderSize s with
    ⟨report, s'⟩ | ⟨failure, s'⟩
  · rw [hr] at hends
    obtain ⟨t, hloading, hparameters⟩ := hends
    show List.Forall₂ (Parameter.Passed true) _ s'.document.parameters
    rw [hparameters, List.forall₂_map_right_iff]
    -- what has been loaded is told by the parameter that it was, which is of its kind
    refine ((List.forall₂_and_left _ _).2 ⟨fun p hp => hp, hloading.loaded⟩).imp ?_
    rintro p q ⟨hp, hloaded⟩
    exact hloaded.passed_settle (hs.typed p hp) (hs.wellFormed.parameters.imports p hp)
  · rw [hr] at hends
    obtain ⟨t, hloading, hparameters⟩ := hends
    show List.Forall₂ (Parameter.Passed false) _ s'.document.parameters
    rw [hparameters]
    exact hloading.loaded.imp fun _ _ h => h.passed

/-- **A frame that shows an event**: every draw is told that it is set; size expressions read it as
one, unless it is called like the render size; and it is with this that targets got their sizes, if
the frame was completed. -/
structure Fires (r : Rendered σ) (name : String) : Prop where
  draws : ∀ draw ∈ r.draws, Command.setUniform name (.bool true) ∈ draw
  length : r.isComplete = true → r.draws.length = r.before.document.passes.order.length
  reads : Environment.reserved? name = none → ∀ axis,
    Expr.eval (r.before.document.environment r.renderSize) axis (.var name) = .ok 1.0
  sizes : r.isComplete = true →
    List.Forall₂ (fun t u => ∃ z,
        t.resolve (r.before.document.environment r.renderSize) = .ok z ∧
          u.withoutBuffers = (t.withSize z).withoutBuffers)
      r.before.document.passes.targets r.after.document.passes.targets

/-- A complete frame draws each pass, with the sizes that its targets have for it. -/
theorem draws_targets (device : Device σ) (now : Moment) (renderSize : Size) (hs : s.Steady)
    (hcomplete : (ofFrame device now renderSize s).isComplete = true) :
    (ofFrame device now renderSize s).draws.length = s.document.passes.order.length ∧
      List.Forall₂ (fun t u => ∃ z, t.resolve (s.document.environment renderSize) = .ok z ∧
          u.withoutBuffers = (t.withSize z).withoutBuffers)
        s.document.passes.targets
        (ofFrame device now renderSize s).after.document.passes.targets := by
  unfold ofFrame at hcomplete ⊢
  rcases hr : Studio.renderFrame device.observed now renderSize s with
    ⟨report, s'⟩ | ⟨failure, s'⟩
  · obtain ⟨begun, ready, drawn, rested, c, shots, hstages, -⟩ :=
      Studio.exists_stages hs.consistent hs.wellFormed hs.rests hr
    constructor
    · have htold := (Studio.told_of_ready hstages.begins hstages.readies).trans hstages.draws.told
      rw [List.nil_append, ← hstages.device_eq] at htold
      have hdraws := (draws_eq (r := ⟨s, renderSize, .ok report, s'⟩) htold).trans
        (draws_shots _ _ shots)
      dsimp only
      rw [hdraws, List.length_map, hstages.draws.length_eq]
      exact congrArg List.length (Document.order_of_blank_eq
        (hstages.films.prepares hs.consistent hs.wellFormed).blank)
    · obtain ⟨e, hresize, houtlines⟩ :=
        hstages.exists_outlines hs.consistent hs.wellFormed hs.rests
      have hall := Document.resizeAll_targets s.document renderSize
      rw [hresize] at hall
      have hsized : List.Forall₂ (fun t v => ∃ z,
          t.resolve (s.document.environment renderSize) = .ok z ∧
            v = (t.withSize z).withoutBuffers) s.document.passes.targets e.outlines := by
        refine List.forall₂_map_right_iff.2 ((Document.resizeAll_spec hall).imp ?_)
        rintro t _ ⟨z, hz, rfl⟩
        exact ⟨z, hz, rfl⟩
      rw [← houtlines] at hsized
      exact List.forall₂_map_right_iff.1 hsized
  · rw [hr] at hcomplete
    cases hcomplete

/-- **A frame shows the events that are set.** -/
theorem fires (device : Device σ) (now : Moment) (renderSize : Size) (hs : s.Steady)
    (hsignals : s.document.Signals name true) : (ofFrame device now renderSize s).Fires name where
  draws := by
    intro draw hdraw
    obtain ⟨i, hi⟩ := List.mem_iff_getElem?.1 hdraw
    obtain ⟨begun, ready, c, shots, shot, s', hfilms, hshot, -, rfl⟩ := exists_shot hs hi
    -- passes find the inputs as they were before the frame
    have hinputs := (hfilms.document hs.consistent hs.wellFormed hshot).2
    obtain ⟨p, hp, rfl, hevent⟩ := hsignals
    rw [← hinputs] at hp
    refine Document.mem_passCommands.2 (Or.inr (Or.inr (Or.inl ?_)))
    refine List.mem_filterMap.2 ⟨p, hp, ?_⟩
    rw [hevent]
    rfl
  length := by
    intro hcomplete
    rw [before_ofFrame]
    exact (draws_targets device now renderSize hs hcomplete).1
  reads := by
    intro hname axis
    rw [before_ofFrame, renderSize_ofFrame, Expr.eval,
      Document.get?_environment s.document renderSize hname,
      Document.number?_of_signals hs.wellFormed hsignals]
  sizes := by
    intro hcomplete
    rw [before_ofFrame, renderSize_ofFrame]
    exact (draws_targets device now renderSize hs hcomplete).2

end Rendered

/-! ### Runs -/

namespace Session

variable (device : Device σ) {s : Session σ} {name : String} {b : Bool}

/-- The frame that a move renders, if it renders one. -/
def rendering? (s : Session σ) : Move → Option (Rendered σ)
  | .frame now renderSize => some (Rendered.ofFrame device now renderSize s.studio)
  | .visit other now renderSize =>
    some (Rendered.ofFrame device now renderSize { s.studio with scene := other })
  | _ => none

/-- **The frames of a document that moves render**, whichever scene it is. -/
def rendered : List Move → Session σ → List (Rendered σ)
  | [], _ => []
  | m :: moves, s => (rendering? device s m).toList ++ rendered moves (move device s m)

variable {device}

/-- A frame that a move renders is one of the document, which is left as the frame leaves it. -/
theorem rendering?_spec {m : Move} {r : Rendered σ} (hs : s.studio.Steady)
    (h : rendering? device s m = some r) :
    (∃ now t, t.Steady ∧ t.document = s.studio.document ∧
        r = Rendered.ofFrame device now r.renderSize t) ∧
      (move device s m).studio.document = r.after.document := by
  cases m with
  | frame now renderSize =>
    cases h
    refine ⟨⟨now, s.studio, hs, rfl, ?_⟩, rfl⟩
    rw [Rendered.renderSize_ofFrame]
  | visit other now renderSize =>
    cases h
    refine ⟨⟨now, { s.studio with scene := other }, hs.congr rfl hs.consistent, rfl, ?_⟩, rfl⟩
    rw [Rendered.renderSize_ofFrame]
  | _ => cases h

/-- Every frame of a run is one of a steady studio. -/
theorem exists_of_mem_rendered {moves : List Move} {r : Rendered σ} (hs : s.studio.Steady)
    (hr : r ∈ rendered device moves s) :
    ∃ now t, t.Steady ∧ r = Rendered.ofFrame device now r.renderSize t := by
  induction moves generalizing s with
  | nil => cases hr
  | cons m moves ih =>
    rw [rendered, List.mem_append, Option.mem_toList] at hr
    rcases hr with hr | hr
    · obtain ⟨now, t, ht, -, heq⟩ := (rendering?_spec hs hr).1
      exact ⟨now, t, ht, heq⟩
    · exact ih (steady_move device hs m).1 hr

/-- **One move**: an event stays as it is, unless a frame is completed or its host changes it. -/
theorem signals_move (device : Device σ) {m : Move} (hs : s.studio.Steady)
    (hsignals : s.studio.document.Signals name b) (hm : ∀ change, m ≠ .change name change) :
    (move device s m).studio.document.Signals name
      (b && (rendering? device s m).all fun r => !r.isComplete) := by
  have hafter := (steady_move device hs m).1.wellFormed
  -- where no frame is rendered, it is enough that the event is still among the parameters
  have hsame {d : Document} (hd : d.WellFormed)
      (hkeeps : ∀ p ∈ s.studio.document.parameters, p.isImport = false → p.name = name →
        p ∈ d.parameters) : d.Signals name (b && true) := by
    obtain ⟨p, hp, hinput, hname, hevent⟩ := (Document.signals_iff hs.wellFormed).1 hsignals
    rw [Bool.and_true]
    exact (Document.signals_iff hd).2 ⟨p, hkeeps p hp hinput hname, hinput, hname, hevent⟩
  cases hr : rendering? device s m with
  | some r =>
    obtain ⟨⟨now, t, ht, hdocument, heq⟩, hmove⟩ := rendering?_spec hs hr
    have hpassed := Rendered.passed device now r.renderSize ht
    rw [← heq, hdocument] at hpassed
    rw [hmove] at hafter ⊢
    exact hsignals.passed hs.wellFormed hafter hpassed
  | none =>
    cases m with
    | frame now renderSize => cases hr
    | visit other now renderSize => cases hr
    | change n change =>
      refine hsame hafter fun p hp _ hname => ?_
      have hne : p.name ≠ n := by
        rintro rfl
        exact hm change (hname ▸ rfl)
      exact Document.mem_alter_of_ne hp hne change
    | resize renderSize =>
      refine hsame hafter fun p hp _ _ => ?_
      rw [move]
      cases hresize : s.studio.document.resize renderSize with
      | error failure => exact hp
      | ok d =>
        obtain ⟨_, _, -, -, rfl⟩ := Document.resize_eq_ok_iff.1 hresize
        exact hp
    | releaseBuffers =>
      refine hsame hafter fun p hp hinput _ => ?_
      -- only imported images are unbound
      have hdocument : (move device s .releaseBuffers).studio.document = _ :=
        (Studio.document_releaseBuffers s.studio).1
      rw [hdocument]
      refine List.mem_map.2 ⟨p, hp, ?_⟩
      rw [hinput]
      rfl
    | configure settings => exact hsame hafter fun p hp _ _ => hp
    | elsewhere op => exact hsame hafter fun p hp _ _ => hp
    | switch pool => exact hsame hafter fun p hp _ _ => hp

/-- **An event is set until the first complete frame**: if it is set at first, then it is so before
a frame, behind it, and in the end, exactly as long as no frame has been completed. -/
structure UntilComplete (name : String) (b : Bool) (frames : List (Rendered σ)) (last : Document) :
    Prop where
  before : ∀ (i : Nat) (r : Rendered σ), frames[i]? = some r →
    r.before.document.Signals name (b && (frames.take i).all fun r => !r.isComplete)
  after : ∀ (i : Nat) (r : Rendered σ), frames[i]? = some r →
    r.after.document.Signals name (b && (frames.take (i + 1)).all fun r => !r.isComplete)
  last : last.Signals name (b && frames.all fun r => !r.isComplete)

/-- A frame in front of others. -/
theorem UntilComplete.cons {r : Rendered σ} {frames : List (Rendered σ)} {last : Document}
    (hbefore : r.before.document.Signals name b)
    (hafter : r.after.document.Signals name (b && !r.isComplete))
    (h : UntilComplete name (b && !r.isComplete) frames last) :
    UntilComplete name b (r :: frames) last where
  before := by
    intro i r' hi
    cases i with
    | zero =>
      cases hi
      rw [List.take_zero, List.all_nil, Bool.and_true]
      exact hbefore
    | succ i =>
      rw [List.take_succ_cons, List.all_cons, ← Bool.and_assoc]
      exact h.before i r' hi
  after := by
    intro i r' hi
    cases i with
    | zero =>
      cases hi
      rw [List.take_succ_cons, List.take_zero, List.all_cons, List.all_nil, Bool.and_true]
      exact hafter
    | succ i =>
      rw [List.take_succ_cons, List.all_cons, ← Bool.and_assoc]
      exact h.after i r' hi
  last := by
    rw [List.all_cons, ← Bool.and_assoc]
    exact h.last

/-- **All moves**: an event is set until the first complete frame, as long as its host does not
change it. -/
theorem signals_moved {moves : List Move} (hs : s.studio.Steady)
    (hsignals : s.studio.document.Signals name b)
    (hmoves : ∀ m ∈ moves, ∀ change, m ≠ .change name change) :
    UntilComplete name b (rendered device moves s) (moved device moves s).studio.document := by
  induction moves generalizing s b with
  | nil =>
    refine ⟨by simp [rendered], by simp [rendered], ?_⟩
    rw [rendered, List.all_nil, Bool.and_true]
    exact hsignals
  | cons m moves ih =>
    obtain ⟨hm, hmoves⟩ := List.forall_mem_cons.1 hmoves
    have hmove := signals_move device hs hsignals hm
    have hrest := ih (steady_move device hs m).1 hmove hmoves
    rw [rendered]
    cases hr : rendering? device s m with
    | none =>
      rw [hr, Option.all_none, Bool.and_true] at hrest
      exact hrest
    | some r =>
      obtain ⟨⟨now, t, -, hdocument, heq⟩, hafter⟩ := rendering?_spec hs hr
      rw [hr, Option.all_some] at hmove hrest
      refine .cons ?_ (hafter ▸ hmove) hrest
      rw [heq, Rendered.before_ofFrame, hdocument]
      exact hsignals

/-- **Events last for one complete frame, and frames change nothing else.**  In every run of a
session, whatever has happened before it: a frame ends the events that were set if it is completed,
binds imported images that had no buffer, and changes no other value, and it shows every event that
is set.  An event that is set at the start of a run, and that its host does not change in it, is set
in all frames up to the first one that is completed, and in no frame behind that. -/
theorem events_last_one_frame (device : Device σ) (d : {d : Document // d.Opened})
    (settings : SceneSettings) (started : Nat) (pool : PoolSettings) (state : σ)
    (moves moves' : List Move) (name : String) :
    let s := moved device moves (start d.1 settings started pool state)
    (∀ r ∈ rendered device moves' s,
      List.Forall₂ (Parameter.Passed r.isComplete) r.before.document.parameters
          r.after.document.parameters ∧
        (r.before.document.Signals name true → r.Fires name)) ∧
      (s.studio.document.Signals name true →
        (∀ m ∈ moves', ∀ change, m ≠ .change name change) →
        UntilComplete name true (rendered device moves' s)
          (moved device moves' s).studio.document) := by
  intro s
  have hs : s.studio.Steady :=
    (steady_moved device (steady_start d.2 settings started pool state) moves).1
  refine ⟨fun r hr => ?_, fun hsignals hmoves => signals_moved hs hsignals hmoves⟩
  obtain ⟨now, t, ht, heq⟩ := exists_of_mem_rendered hs hr
  have hpassed := Rendered.passed device now r.renderSize ht
  rw [heq, Rendered.before_ofFrame]
  exact ⟨hpassed, Rendered.fires device now r.renderSize ht⟩

/-- An effect with an event, whose target has no size where frames are eight pixels wide. -/
def flashText : String :=
  "/*\x7b\"INPUTS\":[\x7b\"NAME\":\"flash\",\"TYPE\":\"event\"\x7d],\"PASSES\":[" ++
    "\x7b\"TARGET\":\"a\",\"WIDTH\":\"$flash/($WIDTH-8)\"\x7d,\x7b\x7d]\x7d*/"

/-- A session with this effect. -/
def flashSession : Session Recorder :=
  start (Document.ofTextsLenient flashText none "/").2 .standard 0 .standard Recorder.fresh

/-- A frame that fails, and two that are completed. -/
def flashFrames : List Move :=
  [.frame (.ofNanoseconds 0) ⟨8, 8⟩, .frame (.ofNanoseconds 1) ⟨9, 8⟩,
    .frame (.ofNanoseconds 2) ⟨16, 8⟩]

/-- **An event that is set before a frame that fails** is shown by the next one, which is completed,
and by none behind that. -/
theorem events_last_one_frame_flash :
    let s := moved Recorder.device [.change "flash" (.set (.event true))] flashSession
    s.studio.document.Signals "flash" true ∧
      (rendered Recorder.device flashFrames s).map Rendered.isComplete = [false, true, true] ∧
      (∀ r ∈ rendered Recorder.device flashFrames s,
        r.before.document.Signals "flash" true → r.Fires "flash") ∧
      UntilComplete "flash" true (rendered Recorder.device flashFrames s)
        (moved Recorder.device flashFrames s).studio.document := by
  intro s
  have hsignals : s.studio.document.Signals "flash" true := by decide +kernel
  have hframes : (rendered Recorder.device flashFrames s).map Rendered.isComplete =
      [false, true, true] := by decide +kernel
  obtain ⟨hshown, hset⟩ := events_last_one_frame Recorder.device
    ⟨_, .ofTextsLenient flashText none "/"⟩ .standard 0 .standard Recorder.fresh
    [.change "flash" (.set (.event true))] flashFrames "flash"
  refine ⟨hsignals, hframes, fun r hr => (hshown r hr).2, hset hsignals ?_⟩
  intro m hm change heq
  simp [flashFrames, heq] at hm

/-- An effect with an event that is called like the width of the frame. -/
def widthText : String :=
  "/*\x7b\"INPUTS\":[\x7b\"NAME\":\"WIDTH\",\"TYPE\":\"event\"\x7d],\"PASSES\":[" ++
    "\x7b\"TARGET\":\"a\",\"WIDTH\":\"$WIDTH\"\x7d,\x7b\x7d]\x7d*/"

/-- **Size expressions cannot read an event that is called like the width**: it is set, draws are
told so, and the frame is completed, but the target is as wide as the frame. -/
theorem exists_event_called_width :
    (Document.ofTexts widthText none "/").result.isOk = true ∧
      let s := moved Recorder.device [.change "WIDTH" (.set (.event true))]
        (start (Document.ofTextsLenient widthText none "/").2 .standard 0 .standard
          Recorder.fresh)
      let r := Rendered.ofFrame Recorder.device (.ofNanoseconds 0) ⟨8, 8⟩ s.studio
      r.before.document.Signals "WIDTH" true ∧ r.isComplete = true ∧
        (∀ draw ∈ r.draws, Command.setUniform "WIDTH" (.bool true) ∈ draw) ∧
        Expr.eval (r.before.document.environment ⟨8, 8⟩) .width (.var "WIDTH") = .ok 8.0 ∧
        r.after.document.sizes = [("a", ⟨8, 8⟩)] := by
  decide +kernel

end Session

end ShaderEffect
