/-
**Who owns the buffers of scenes.**

Several scenes, each with its own document, render with buffers of one pool.  A buffer that stands
in a slot of a document should be owned by that slot alone: it should be handed out, and stand in
no other slot.  It is so after every step of a run, as long as no frame is refused the buffer that
is to replace one it holds already.  If a frame is, its document goes on holding the buffer that it
has given back, and the pool can hand that to somebody else.

Main definitions:

* `ShaderEffect.Host.Act`, `ShaderEffect.Host.after` — what is done with a host, and what that
  leaves behind;
* `ShaderEffect.Host.Owns` — **every buffer that stands in a slot is owned by that slot alone**;
* `ShaderEffect.Host.stranded?` — the buffer that a step gives back and goes on holding.

Main results:

* `ShaderEffect.Host.sound_after` — what is true after all steps;
* `ShaderEffect.Host.Sound.owns_act_iff` — when one step keeps what is owned;
* `ShaderEffect.Host.owns_iff_no_stranded` — **when buffers are owned throughout a run**;
* `ShaderEffect.Host.not_owns_after_refusal` — a run in which they are not.
-/

import Mathlib.Data.List.Induction
import ShaderEffect.Device.Recorder
import ShaderEffect.Host
import ShaderEffect.Proofs.Document.Change
import ShaderEffect.Proofs.Scene.Frame

set_option autoImplicit false

namespace ShaderEffect.Host

open Pool

variable {σ : Type}

/-! ### Runs -/

/-- Something that is done with a host. -/
inductive Act where
  /-- A new scene with a document of its own. -/
  | enter (d : {d : Document // d.Opened}) (settings : SceneSettings) (started : Nat)
  /-- Changes an input of the document of a scene. -/
  | change (scene : Nat) (name : String) (change : InputChange)
  /-- Changes the settings of a scene. -/
  | configure (scene : Nat) (settings : SceneSettings)
  /-- Renders a frame of a scene. -/
  | frame (scene : Nat) (now : Moment) (renderSize : Size)
  /-- Gives back all buffers of the document of a scene. -/
  | releaseBuffers (scene : Nat)
  /-- A round of housekeeping. -/
  | housekeep

/-- What work on a scene leaves behind; nothing happens if there is no such scene. -/
def worked {α : Type} (h : Host σ) (r : Option (Except Failure α × Host σ)) : Host σ :=
  (r.map Prod.snd).getD h

/-- What one thing leaves behind, where all scenes use the first pool. -/
def act (device : Device σ) (h : Host σ) : Act → Host σ
  | .enter d settings started => h.addScene d.1 settings started
  | .change scene name change =>
    match h.document? scene with
    | some d => h.setDocument scene (d.changeInput name change)
    | none => h
  | .configure scene settings => h.configure scene fun _ => settings
  | .frame scene now renderSize =>
    h.worked (h.inStudio scene 0 (Studio.renderFrame device now renderSize))
  | .releaseBuffers scene => h.worked (h.inStudio scene 0 Studio.releaseBuffers)
  | .housekeep =>
    match h.supply? 0 with
    | some s => h.setSupply 0 (s.housekeep device).2
    | none => h

/-- What many things leave behind, one after the other, for a host that starts with an empty
pool. -/
def after (device : Device σ) (settings : PoolSettings) (start : σ) (acts : List Act) : Host σ :=
  acts.foldl (act device) (.ofSettings start [settings])

theorem after_concat (device : Device σ) (settings : PoolSettings) (start : σ)
    (acts : List Act) (a : Act) :
    after device settings start (acts ++ [a]) =
      act device (after device settings start acts) a := by
  simp [after]

/-- The buffers that stand in slots of documents. -/
def slots (h : Host σ) : List Handle := h.documents.flatMap Studio.heldBuffers

/-- **Every buffer that stands in a slot is owned by that slot alone**: the pool has handed it out,
and it stands in no other slot. -/
def Owns (h : Host σ) : Prop :=
  ∃ p ∈ h.pools, h.slots.Nodup ∧ ∀ k ∈ h.slots, p.isInUse k = true

instance (h : Host σ) : Decidable h.Owns :=
  inferInstanceAs (Decidable (∃ p ∈ h.pools, h.slots.Nodup ∧ ∀ k ∈ h.slots, p.isInUse k = true))

/-- The buffer that a step gives back and goes on holding: only a frame can do that. -/
def stranded? (device : Device σ) (h : Host σ) : Act → Option Handle
  | .frame scene _ renderSize =>
    (h.studio? scene 0).bind fun s => s.stranded? device renderSize
  | _ => none

/-! ### What is always true -/

/-- What is true of a host after all steps: its pool is consistent, and its documents are well
formed and lend nothing. -/
structure Sound (h : Host σ) (p : Pool) : Prop where
  pools : h.pools = [p]
  consistent : p.Consistent
  documents : ∀ d ∈ h.documents, d.WellFormed ∧ d.Rests

/-- What the documents of a host hold together. -/
def held (h : Host σ) : Multiset Handle := allHeld Studio.heldBuffers h.documents

namespace Sound

variable {h : Host σ} {p : Pool}

/-- What is owned, said with collections. -/
theorem owns_iff (hh : Sound h p) : h.Owns ↔ h.held ≤ p.used := by
  rw [held, allHeld, le_used_iff hh.consistent, Owns, hh.pools]
  simp [slots]

/-- An empty host is sound, and holds nothing. -/
theorem ofSettings (start : σ) (settings : PoolSettings) :
    Sound (Host.ofSettings start [settings]) (Pool.ofSettings settings) :=
  ⟨rfl, consistent_ofSettings settings, fun _ hd => absurd hd List.not_mem_nil⟩

end Sound

/-- Exchanging one of several documents. -/
theorem exists_held_set {ds : List Document} {i : Nat} {d : Document} (hd : ds[i]? = some d) :
    ∃ rest, allHeld Studio.heldBuffers ds = d.held + rest ∧
      ∀ d', allHeld Studio.heldBuffers (ds.set i d') = d'.held + rest := by
  induction ds generalizing i with
  | nil => cases hd
  | cons e ds ih =>
      cases i with
      | zero =>
          cases hd
          refine ⟨allHeld Studio.heldBuffers ds, ?_, fun d' => ?_⟩
          · rw [allHeld_cons, Document.coe_heldBuffers]
          · rw [List.set_cons_zero, allHeld_cons, Document.coe_heldBuffers]
      | succ i =>
          obtain ⟨rest, hrest, hset⟩ := ih hd
          refine ⟨e.held + rest, ?_, fun d' => ?_⟩
          · rw [allHeld_cons, hrest, Document.coe_heldBuffers, add_left_comm]
          · rw [List.set_cons_succ, allHeld_cons, hset, Document.coe_heldBuffers, add_left_comm]

/-- A scene with its document and its pool. -/
theorem studio?_eq_some {h : Host σ} {scene pool : Nat} {s : Studio σ}
    (hs : h.studio? scene pool = some s) :
    ∃ hosted, h.scenes[scene]? = some hosted ∧
      h.documents[hosted.document]? = some s.document ∧ h.pools[pool]? = some s.supply.pool := by
  unfold studio? document? supply? at hs
  cases hscene : h.scenes[scene]? with
  | none =>
      rw [hscene] at hs
      cases hs
  | some hosted =>
      cases hd : h.documents[hosted.document]? with
      | none => simp [hscene, hd] at hs
      | some d =>
          cases hp : h.pools[pool]? with
          | none => simp [hp] at hs
          | some q =>
              simp only [hscene, Option.bind_some, hd, hp, Option.map_some,
                Option.some.injEq] at hs
              subst hs
              exact ⟨hosted, rfl, hd, rfl⟩

/-- What a step leaves behind: a sound host whose documents have exchanged what they hold, and may
have lost one buffer. -/
def Steps (lost : Option Handle) (h : Host σ) (p : Pool) (h' : Host σ) : Prop :=
  ∃ q, Sound h' q ∧ TradesBut lost p h.held q h'.held

namespace Sound

variable {h : Host σ} {p : Pool}

/-- A step in which nothing changes that matters. -/
theorem steps_refl (hh : Sound h p) {h' : Host σ} (hpools : h'.pools = h.pools)
    (hdocuments : h'.documents = h.documents) : Steps none h p h' := by
  refine ⟨p, ⟨hpools.trans hh.pools, hh.consistent, hdocuments ▸ hh.documents⟩, ?_⟩
  rw [show h'.held = h.held by rw [held, hdocuments, held]]
  exact Trades.refl hh.consistent _

/-- A step that exchanges one document for another one and works on the pool. -/
theorem steps_set (hh : Sound h p) {h' : Host σ} {q : Pool} {i : Nat} {d d' : Document}
    {lost : Option Handle} (hd : h.documents[i]? = some d) (hpools : h'.pools = [q])
    (hdocuments : h'.documents = h.documents.set i d')
    (htrades : TradesBut lost p d.held q d'.held) (hd' : d'.WellFormed ∧ d'.Rests) :
    Steps lost h p h' := by
  obtain ⟨rest, hrest, hset⟩ := exists_held_set hd
  refine ⟨q, ⟨hpools, htrades.consistent, fun e he => ?_⟩, ?_⟩
  · rw [hdocuments] at he
    rcases List.mem_or_eq_of_mem_set he with he | rfl
    · exact hh.documents e he
    · exact hd'
  · rw [held, held, hdocuments, hrest, hset]
    exact htrades.add_right rest

/-- A new scene with a document that was read. -/
theorem steps_addScene (hh : Sound h p) {d : Document} (hd : d.Opened) (settings : SceneSettings)
    (started : Nat) : Steps none h p (h.addScene d settings started) := by
  obtain ⟨hwell, hfresh⟩ := hd.spec
  obtain ⟨hrests, hheld⟩ := hfresh.held_eq
  refine ⟨p, ⟨hh.pools, hh.consistent, fun e he => ?_⟩, ?_⟩
  · rcases List.mem_append.1 he with he | he
    · exact hh.documents e he
    · obtain rfl := List.mem_singleton.1 he
      exact ⟨hwell.of_blank_eq rfl, hrests⟩
  · have hnew : (h.addScene d settings started).held = h.held := by
      show allHeld _ (h.documents ++ [{ d with parent := some h.scenes.length }]) = _
      rw [allHeld_append, allHeld_cons, Document.coe_heldBuffers,
        show Document.held { d with parent := some h.scenes.length } = d.held from rfl, hheld,
        zero_add]
      exact add_zero _
    rw [hnew]
    exact Trades.refl hh.consistent _

/-- A change of an input of the document of a scene. -/
theorem steps_change (hh : Sound h p) {scene : Nat} {d : Document}
    (hd : h.document? scene = some d) (name : String) (change : InputChange) :
    Steps none h p (h.setDocument scene (d.changeInput name change)) := by
  unfold document? at hd
  obtain ⟨s, hs, hd⟩ := Option.bind_eq_some_iff.1 hd
  obtain ⟨hwell, hrests⟩ := hh.documents d (List.mem_of_getElem? hd)
  unfold setDocument
  rw [hs]
  refine hh.steps_set hd hh.pools rfl ?_ ⟨?_, ?_⟩
  · have hheld : (d.changeInput name change).held = d.held := by
      rw [Document.held, Document.imported_changeInput hwell, Document.kept, Document.lent,
        Document.passes_changeInput]
      rfl
    rw [hheld]
    exact Trades.refl hh.consistent _
  · exact hwell.of_blank_eq (Document.blank_changeInput hwell name change)
  · unfold Document.Rests
    rw [Document.passes_changeInput]
    exact hrests

/-- Work on a scene that treats its document as a frame does. -/
theorem steps_inStudio (hh : Sound h p) {α : Type} {work : Work σ α}
    (lost : Studio σ → Option Handle)
    (hwork : ∀ s : Studio σ, s.supply.pool.Consistent → s.document.WellFormed →
      s.document.Rests → Ends (fun _ s' => Studio.Frames (lost s) s s')
        (fun _ s' => Studio.Frames (lost s) s s') (work s)) (scene : Nat) :
    Steps ((h.studio? scene 0).bind lost) h p (h.worked (h.inStudio scene 0 work)) := by
  unfold inStudio worked
  cases hstudio : h.studio? scene 0 with
  | none => exact hh.steps_refl rfl rfl
  | some s =>
      obtain ⟨hosted, hs, hd, hp⟩ := studio?_eq_some hstudio
      obtain rfl : s.supply.pool = p := by simpa [hh.pools] using hp.symm
      obtain ⟨hwell, hrests⟩ := hh.documents s.document (List.mem_of_getElem? hd)
      have hset (s' : Studio σ) (hframes : Studio.Frames (lost s) s s') :
          Steps (lost s) h s.supply.pool (h.setStudio scene 0 s') := by
        refine hh.steps_set hd ?_ ?_ hframes.trades ⟨hwell.of_blank_eq hframes.blank,
          hframes.rests⟩
        · simp [setStudio, setSupply, setDocument, hs, hh.pools]
        · simp [setStudio, setSupply, setDocument, hs]
      have hends := hwork s hh.consistent hwell hrests
      dsimp only
      rcases hr : work s with ⟨a, s'⟩ | ⟨e, s'⟩
      all_goals
        rw [hr] at hends
        exact hset s' hends

/-- **What every step leaves behind.** -/
theorem steps_act (hh : Sound h p) (device : Device σ) (a : Act) :
    Steps (stranded? device h a) h p (act device h a) := by
  cases a with
  | enter d settings started => exact hh.steps_addScene d.2 settings started
  | change scene name change =>
      unfold act
      cases hd : h.document? scene with
      | none =>
          simp only [hd]
          exact hh.steps_refl rfl rfl
      | some d =>
          simp only [hd]
          exact hh.steps_change hd name change
  | configure scene settings => exact hh.steps_refl rfl rfl
  | frame scene now renderSize =>
      exact hh.steps_inStudio _
        (fun s hs hd hrests => Studio.frames_renderFrame device now renderSize hs hd hrests) scene
  | releaseBuffers scene =>
      have hsteps := hh.steps_inStudio (fun _ => none)
        (fun s hs hd _ => (Studio.ends_releaseBuffers hs hd).mono (fun _ _ h => h.1)
          fun _ _ h => h.elim) scene
      rw [Option.bind_fun_none] at hsteps
      exact hsteps
  | housekeep =>
      have hsupply : h.supply? 0 = some ⟨p, h.device⟩ := by simp [supply?, hh.pools]
      unfold act
      simp only [hsupply]
      refine ⟨p.evict.2, ⟨?_, hh.consistent.evict, hh.documents⟩, trades_evict hh.consistent _⟩
      simp [setSupply, hh.pools, Supply.housekeep]

/-- **When one step keeps what is owned**: exactly if no buffer is given back and held on to. -/
theorem owns_act_iff (hh : Sound h p) (howns : h.Owns) (device : Device σ) (a : Act) :
    (act device h a).Owns ↔ stranded? device h a = none := by
  obtain ⟨q, hq, htrades⟩ := hh.steps_act device a
  rw [hq.owns_iff]
  exact htrades.le_used_iff (hh.owns_iff.1 howns)

end Sound

/-! ### Whole runs -/

/-- **A host is sound after all steps.** -/
theorem sound_after (device : Device σ) (settings : PoolSettings) (start : σ) (acts : List Act) :
    ∃ p, Sound (after device settings start acts) p := by
  -- the steps are taken off at the end, where the last one meets a sound host
  induction acts using List.reverseRecOn with
  | nil => exact ⟨_, Sound.ofSettings start settings⟩
  | append_singleton acts a ih =>
      obtain ⟨p, hp⟩ := ih
      obtain ⟨q, hq, -⟩ := hp.steps_act device a
      rw [after_concat]
      exact ⟨q, hq⟩

/-- Nothing is held at first. -/
theorem owns_nil (device : Device σ) (settings : PoolSettings) (start : σ) :
    (after device settings start []).Owns :=
  ⟨_, List.mem_singleton_self _, List.nodup_nil, fun _ h => absurd h List.not_mem_nil⟩

/-- **When buffers are owned throughout a run**: exactly if no frame of the run gives a buffer back
and goes on holding it, because it is refused the buffer that is to replace it. -/
theorem owns_iff_no_stranded (device : Device σ) (settings : PoolSettings) (start : σ)
    (acts : List Act) :
    (∀ n, (after device settings start (acts.take n)).Owns) ↔
      ∀ n a, acts[n]? = some a →
        stranded? device (after device settings start (acts.take n)) a = none := by
  have hnext {n : Nat} {a : Act} (ha : acts[n]? = some a) :
      after device settings start (acts.take (n + 1)) =
        act device (after device settings start (acts.take n)) a := by
    rw [List.take_add_one, ha]
    exact after_concat device settings start (acts.take n) a
  constructor
  · intro howns n a ha
    obtain ⟨p, hp⟩ := sound_after device settings start (acts.take n)
    exact (hp.owns_act_iff (howns n) device a).1 (hnext ha ▸ howns (n + 1))
  · intro hnone n
    induction n with
    | zero => exact owns_nil device settings start
    | succ n ih =>
        cases ha : acts[n]? with
        | none =>
            rw [List.take_add_one, ha]
            simpa using ih
        | some a =>
            obtain ⟨p, hp⟩ := sound_after device settings start (acts.take n)
            rw [hnext ha]
            exact (hp.owns_act_iff ih device a).2 (hnone n a ha)

/-! ### A run in which a buffer is lost -/

/-- A frame of one size, and then one of another size for which there is no room. -/
def refusalActs : List Act :=
  [.enter ⟨_, Document.Opened.ofTextsLenient feedbackText none "/"⟩ .standard 0,
    .frame 0 (.ofNanoseconds 0) ⟨8, 8⟩, .frame 0 (.ofNanoseconds 1) ⟨16, 16⟩]

/-- **Buffers are not always owned**: the second frame gives back a buffer of the first, is refused
a bigger one, and the document goes on holding what it gave back. -/
theorem not_owns_after_refusal :
    ¬ ∀ n, (after Recorder.device .standard { Recorder.fresh with allocationsLeft := some 2 }
      (refusalActs.take n)).Owns :=
  fun h => absurd (h 3) (by decide +kernel)

end ShaderEffect.Host
