/-
**What a session acquires for a persistent target.**

While the buffers of persistent targets are seen to, the turn of each target comes once, and only
then is anything acquired for it.  Passes acquire buffers too, but for temporary targets, and give
them back.  So the buffers that are in use after a frame, apart from those that the document holds
for others, are those that were in use before it and those that were acquired when it was the
target's turn.

Main definitions:

* `ShaderEffect.Document.heldBesides` — what a document holds for others;
* `ShaderEffect.Studio.usedFor` — **what is in use apart from that**;
* `ShaderEffect.Rendered.Acquires`, `ShaderEffect.Session.Acquired` — **what a frame acquires for a
  target, and what all frames do**.

Main results:

* `ShaderEffect.Studio.Frames.usedFor_eq` — what is in use after a frame;
* `ShaderEffect.Session.exists_acquires` — **a frame acquires two buffers for a target that has
  none, and nothing for one that has two**.
-/

import ShaderEffect.Proofs.Scene.Session

set_option autoImplicit false

namespace ShaderEffect

open Pool

variable {σ : Type}

/-! ### What is in use -/

/-- What a document holds for others than the persistent target of a name: for the other persistent
targets, for temporary targets and for imported images. -/
def Document.heldBesides (d : Document) (name : String) : Multiset Handle :=
  allHeld Target.buffers (d.passes.persistent.filter fun t => t.name ≠ name) + d.lent + d.imported

theorem Document.held_eq_stored_add (d : Document) (name : String) :
    d.held = d.stored name + d.heldBesides name := by
  have hsplit : ((d.passes.persistent.filter fun t => t.name = name) ++
      d.passes.persistent.filter fun t => !decide (t.name = name)).Perm d.passes.persistent :=
    List.filter_append_perm _ _
  have hkept : d.kept = d.stored name +
      allHeld Target.buffers (d.passes.persistent.filter fun t => t.name ≠ name) := by
    rw [kept, stored, allHeld, allHeld, Multiset.coe_add, ← List.flatMap_append]
    simp only [ne_eq, decide_not]
    exact Multiset.coe_eq_coe.2 (hsplit.flatMap_right _).symm
  rw [held, hkept, heldBesides, add_assoc, add_assoc, add_assoc]

namespace Studio

/-- **The buffers that are in use**, apart from those that the document holds for others than the
persistent target of a name. -/
def usedFor (s : Studio σ) (name : String) : Multiset Handle :=
  s.supply.pool.used - s.document.heldBesides name

/-- **What is in use after a frame** is what was in use before it, and what the target has besides
what it had. -/
theorem Frames.usedFor_eq {s s' : Studio σ} (h : Frames none s s') (hs : s.Sound) {name : String}
    {hs' : List Handle} (hstored : (s.document.stored name ++ hs').Perm (s'.document.stored name)) :
    s'.usedFor name = s.usedFor name + hs' := by
  obtain ⟨rest, hrest⟩ := Multiset.le_iff_exists_add.1 hs.held
  have hused := h.trades.used rest hrest
  have hfor {t : Studio σ} (ht : t.supply.pool.used = t.document.held + rest) :
      t.usedFor name = t.document.stored name + rest := by
    rw [usedFor, ht, t.document.held_eq_stored_add name, add_right_comm, add_tsub_cancel_right]
  rw [hfor hused, hfor hrest, ← Multiset.coe_eq_coe.2 hstored, ← Multiset.coe_add,
    add_right_comm]

end Studio

/-! ### What is acquired -/

/-- **In the frame these buffers are acquired for a persistent target.**  They are in use
afterwards, besides what was in use before, and they are acquired when it is the turn of the target,
with nothing else done then.  A frame that ends before any target gets buffers acquires none. -/
structure Rendered.Acquires (device : Device σ) (d : Descriptor) (name : String) (r : Rendered σ)
    (hs : List Handle) : Prop where
  used : r.after.usedFor name = r.before.usedFor name + hs
  turn : ∀ begun, Studio.untilBuffers device.observed r.renderSize r.before = .ok () begun →
    ∃ t u t' u', begun.Visits device.observed t u t' u' ∧ t.name = name ∧
      Supply.Acquires device.observed d u hs u'
  none : (∀ begun, Studio.untilBuffers device.observed r.renderSize r.before ≠ .ok () begun) →
    hs = []

/-- What is acquired when it is the turn of the target is what the frame acquires. -/
theorem Rendered.acquires_of_turn {device : Device σ} {d : Descriptor} {name : String}
    {r : Rendered σ} {hs : List Handle} {begun : Studio (Observed σ)} {t t' : Target}
    {u u' : Supply (Observed σ)} (hused : r.after.usedFor name = r.before.usedFor name + hs)
    (hbegun : Studio.untilBuffers device.observed r.renderSize r.before = .ok () begun)
    (hvisit : begun.Visits device.observed t u t' u') (hname : t.name = name)
    (hacquires : Supply.Acquires device.observed d u hs u') : r.Acquires device d name hs := by
  refine ⟨hused, fun begun' hbegun' => ?_, fun hnone => absurd hbegun (hnone begun)⟩
  cases hbegun.symm.trans hbegun'
  exact ⟨t, u, t', u', hvisit, hname, hacquires⟩

namespace Session

/-- What frames acquire for a persistent target, one after the other. -/
def Acquired (device : Device σ) (d : Descriptor) (name : String) (frames : List (Rendered σ))
    (hs : List Handle) : Prop :=
  ∃ parts, List.Forall₂ (Rendered.Acquires device d name) frames parts ∧ parts.flatten = hs

variable {device : Device σ} {d : Descriptor} {name : String} {frames : List (Rendered σ)}
  {r : Rendered σ} {hs hs' : List Handle}

theorem acquired_nil : Acquired device d name [] [] := ⟨[], .nil, rfl⟩

/-- One frame more acquires what it acquires. -/
theorem Acquired.concat (h : Acquired device d name frames hs) (hr : r.Acquires device d name hs') :
    Acquired device d name (frames ++ [r]) (hs ++ hs') := by
  obtain ⟨parts, hparts, rfl⟩ := h
  exact ⟨parts ++ [hs'], List.rel_append hparts (.cons hr .nil), by simp⟩

/-- A frame that acquires nothing adds nothing. -/
theorem Acquired.concat_nil (h : Acquired device d name frames hs)
    (hr : r.Acquires device d name []) : Acquired device d name (frames ++ [r]) hs :=
  List.append_nil hs ▸ h.concat hr

end Session

namespace Studio

variable {device : Device σ} {renderSize size : Size} {s begun ready : Studio σ} {name : String}
  {float : Bool}

/-- What is acquired for a target that holds nothing, or two buffers of its size: with what it held,
these are the two that it holds when the passes are drawn. -/
theorem exists_acquires_of_ok (hs : s.Sound) (hdeclares : s.document.Declares name float)
    (hsize : ∀ z ∈ s.document.sizeIn? name renderSize, z = size)
    (hheld : s.document.stored name = [] ∨
      ∃ buffers c v, Holds name (.renderTarget size float) buffers c v s)
    (hbegun : untilBuffers device renderSize s = .ok () begun)
    (hready : onPersistent (ensureBuffers device) begun = .ok () ready) :
    ∃ hs t u t' u' buffers c v, Visits device begun t u t' u' ∧ t.name = name ∧
      Supply.Acquires device (.renderTarget size float) u hs u' ∧
      Holds name (.renderTarget size float) buffers c v ready ∧
      s.document.stored name ++ hs = [c, v] := by
  obtain ⟨t, u, t', u', c, v, hvisit, hname, hstored, hknown, hacquires, hkeeps⟩ :=
    exists_visit hs hdeclares hsize hbegun hready
  rcases hheld with hnone | ⟨buffers, a, b, hholds⟩
  · obtain ⟨buffers, hholds⟩ := exists_holds hstored hknown
    exact ⟨[c, v], t, u, t', u', buffers, c, v, hvisit, hname, hacquires hnone, hholds, by
      rw [hnone, List.nil_append]⟩
  · obtain ⟨rfl, hready⟩ := hkeeps buffers a b hholds
    exact ⟨[], t, u', t', u', buffers, a, b, hvisit, hname, .none _, hready, by
      rw [hholds.stored, List.append_nil]⟩

end Studio

/-- **What a frame acquires for a target** once the passes are reached: with what the target held
before, these are the buffers that it holds afterwards, if it then holds the two that it holds when
the passes are drawn. -/
theorem Rendered.exists_acquires_of_ready {device : Device σ} {r : Rendered σ} {size : Size}
    {begun ready : Studio (Observed σ)} {name : String} {float : Bool} (hs : r.before.Sound)
    (hdeclares : r.before.document.Declares name float)
    (hsize : ∀ z ∈ r.before.document.sizeIn? name r.renderSize, z = size)
    (hheld : r.before.document.stored name = [] ∨
      ∃ buffers c v, Studio.Holds name (.renderTarget size float) buffers c v r.before)
    (hframes : Studio.Frames none r.before r.after)
    (hbegun : Studio.untilBuffers device.observed r.renderSize r.before = .ok () begun)
    (hready : Studio.onPersistent (ensureBuffers device.observed) begun = .ok () ready)
    (hafter : ∀ buffers c v, Studio.Holds name (.renderTarget size float) buffers c v ready →
      [c, v].Perm (r.after.document.stored name)) :
    ∃ hs, r.Acquires device (.renderTarget size float) name hs ∧
      (r.before.document.stored name ++ hs).Perm (r.after.document.stored name) := by
  obtain ⟨handles, t, u, t', u', buffers, c, v, hvisit, hname, hacquires, hholds, hall⟩ :=
    Studio.exists_acquires_of_ok hs hdeclares hsize hheld hbegun hready
  have hperm : (r.before.document.stored name ++ handles).Perm (r.after.document.stored name) :=
    hall ▸ hafter buffers c v hholds
  exact ⟨handles, acquires_of_turn (hframes.usedFor_eq hs hperm) hbegun hvisit hname hacquires,
    hperm⟩

namespace Session

/-- **What a frame acquires for a target** that holds nothing, or two buffers of its size: with what
it held before, these are the buffers that it holds afterwards. -/
theorem exists_acquires (device : Device σ) (now : Moment) {renderSize size : Size}
    {s : Studio (Observed σ)} {name : String} {float : Bool} (hs : s.Sound)
    (hdeclares : s.document.Declares name float)
    (hsize : ∀ z ∈ s.document.sizeIn? name renderSize, z = size)
    (hheld : s.document.stored name = [] ∨
      ∃ buffers c v, Studio.Holds name (.renderTarget size float) buffers c v s)
    (hrefused : ¬ (Rendered.ofFrame device now renderSize s).after.supply.device.HasRefused) :
    ∃ hs, (Rendered.ofFrame device now renderSize s).Acquires device (.renderTarget size float)
        name hs ∧
      (s.document.stored name ++ hs).Perm
        ((Rendered.ofFrame device now renderSize s).after.document.stored name) := by
  rcases Rendered.goes device now renderSize hs.consistent hs.wellFormed hs.rests with
    ⟨report, s', hcompletes, heq⟩ | ⟨failure, s', hfails, heq⟩
  · have hframes := hcompletes.frames hs.consistent hs.wellFormed hs.rests
    rw [heq]
    cases hcompletes with
    | @intro begun ready drawn rested reports hbegun hready hdraws hback hdevice =>
      have hdeclares' := hdeclares.of_blank_eq
        (Studio.prepares_of_ok hs.consistent hs.wellFormed hbegun hready).1.blank
      refine Rendered.exists_acquires_of_ready hs hdeclares hsize hheld hframes hbegun hready
        fun buffers c v hholds => ?_
      -- a complete frame leaves the two buffers exchanged
      have hsettled : Studio.Holds name (.renderTarget size float) buffers v c
          { rested with
            scene := rested.scene.advance now
            document := rested.document.settle } :=
        hholds.completes (hs.of_ready hbegun hready) hdeclares' hback
      rw [hsettled.stored]
      exact .swap v c []
  · have hframes := hfails.frames hs.consistent hs.wellFormed hs.rests
    rw [heq] at hrefused ⊢
    rw [hfails.stranded?_eq_none hs hrefused] at hframes
    cases hfails with
    | early hbegun =>
      have hbegins := Studio.begins_of_error hs.consistent hs.wellFormed hbegun
      have hperm : (s.document.stored name ++ []).Perm (s'.document.stored name) := by
        rw [List.append_nil, hbegins.stored]
      refine ⟨[], ⟨hframes.usedFor_eq hs hperm, fun begun' hbegun' => ?_, fun _ => rfl⟩, hperm⟩
      cases hbegun.symm.trans hbegun'
    | refused hbegun hready =>
      have hbegins := (Studio.begins_of_ok hs.consistent hs.wellFormed hbegun).1
      exact absurd (Studio.refusal_of_error hbegins.trades.consistent hready).hasRefused hrefused
    | late hbegun hready _ hback =>
      refine Rendered.exists_acquires_of_ready hs hdeclares hsize hheld hframes hbegun hready
        fun buffers c v hholds => ?_
      rw [(hholds.givesBack (hs.of_ready hbegun hready) hback).stored]

end Session

end ShaderEffect
