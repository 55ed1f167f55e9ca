/-
**What the operations of a pool do to what it knows about a handle.**

Main results:

* `ShaderEffect.Pool.takeIdle_eq_some_iff` — the handle that is taken is the first one with the
  descriptor;
* `ShaderEffect.Pool.find?_adopt`, `ShaderEffect.Pool.find?_release`,
  `ShaderEffect.Pool.find?_cleared` — what is known after an operation;
* `ShaderEffect.Pool.isOk_release_iff` — a handle is accepted back exactly if it is handed out.
-/

import ShaderEffect.Pool.Basic

set_option autoImplicit false

namespace ShaderEffect.Pool

/-! ### Tables -/

/-- Changing one entry of a table leaves the others alone. -/
theorem lookup_update (h : Handle) (f : PoolEntry → PoolEntry) (k : Handle) :
    ∀ entries : List (Handle × PoolEntry),
      (update h f entries).lookup k =
        if k = h then (entries.lookup k).map f else entries.lookup k
  | [] => by
    by_cases hk : k = h <;> simp [update, hk]
  | (k', e) :: rest => by
    have ih := lookup_update h f k rest
    unfold update at ih ⊢
    rw [List.map_cons]
    by_cases hk : k = k'
    · subst hk
      by_cases hh : k = h <;> simp [hh]
    · have hb : (k == k') = false := by simpa using hk
      split
      · rw [List.lookup_cons, List.lookup_cons, hb]
        exact ih
      · rw [List.lookup_cons, List.lookup_cons, hb]
        exact ih

/-- The handle that is taken is the first one with the descriptor, and the others stay in order. -/
theorem takeIdle_eq_some_iff {d : Descriptor} {h : Handle} :
    ∀ {idle rest : List (Descriptor × Handle)},
      takeIdle d idle = some (h, rest) ↔
        ∃ before after, idle = before ++ (d, h) :: after ∧ rest = before ++ after ∧
          ∀ e ∈ before, e.1 ≠ d
  | [], rest => by
    simp [takeIdle]
  | (d', k) :: idle, rest => by
    unfold takeIdle
    by_cases hd : d' = d
    · subst hd
      simp only [if_pos, Option.some.injEq, Prod.mk.injEq]
      constructor
      · rintro ⟨rfl, rfl⟩
        exact ⟨[], idle, rfl, rfl, by simp⟩
      · rintro ⟨before, after, heq, hrest, hne⟩
        cases before with
        | nil =>
          simp only [List.nil_append, List.cons.injEq, Prod.mk.injEq, true_and] at heq hrest
          exact ⟨heq.1, heq.2.trans hrest.symm⟩
        | cons e before =>
          rw [List.cons_append, List.cons.injEq] at heq
          have := hne e (List.mem_cons_self ..)
          rw [← heq.1] at this
          exact absurd rfl this
    · rw [if_neg hd]
      constructor
      · intro hsome
        obtain ⟨⟨h', rest'⟩, hr, heq⟩ := Option.map_eq_some_iff.1 hsome
        simp only [Prod.mk.injEq] at heq
        obtain ⟨rfl, rfl⟩ := heq
        obtain ⟨before, after, rfl, rfl, hne⟩ := takeIdle_eq_some_iff.1 hr
        refine ⟨(d', k) :: before, after, rfl, rfl, ?_⟩
        intro e he
        rcases List.mem_cons.1 he with rfl | he
        · exact hd
        · exact hne e he
      · rintro ⟨before, after, heq, rfl, hne⟩
        cases before with
        | nil =>
          simp only [List.nil_append, List.cons.injEq, Prod.mk.injEq] at heq
          exact absurd heq.1.1 hd
        | cons e before =>
          rw [List.cons_append, List.cons.injEq] at heq
          obtain ⟨rfl, rfl⟩ := heq
          refine Option.map_eq_some_iff.2 ⟨(h, before ++ after), ?_, rfl⟩
          exact takeIdle_eq_some_iff.2
            ⟨before, after, rfl, rfl, fun e he => hne e (List.mem_cons_of_mem _ he)⟩

/-! ### Operations -/

/-- A buffer taken in is known under its new handle; nothing else changes. -/
theorem find?_adopt (p : Pool) (d : Descriptor) (b : Buffer) (h : Handle) :
    (p.adopt d b).2.find? h =
      if h = (p.adopt d b).1 then some ⟨d, b, true, p.round⟩ else p.find? h := by
  unfold adopt find?
  by_cases hh : h = ⟨p.nextNumber⟩
  · simp [hh]
  · have hb : (h == (⟨p.nextNumber⟩ : Handle)) = false := by simpa using hh
    simp only [List.lookup_cons, hb, if_neg hh]

/-- A handle is handed out exactly if it is known and marked so. -/
theorem isInUse_iff {p : Pool} {h : Handle} :
    p.isInUse h = true ↔ ∃ e, p.find? h = some e ∧ e.inUse = true := by
  unfold isInUse
  cases p.find? h <;> simp

/-- A handle is accepted back exactly if it is handed out. -/
theorem isOk_release_iff {p : Pool} {h : Handle} : (p.release h).isOk ↔ p.isInUse h := by
  unfold release isInUse
  cases p.find? h with
  | none => simp [Except.isOk, Except.toBool]
  | some e => by_cases hu : e.inUse <;> simp [hu, Except.isOk, Except.toBool]

/-- A handle given back is idle from then on; nothing else is known differently. -/
theorem find?_release {p p' : Pool} {h : Handle} (hr : p.release h = .ok p') (k : Handle) :
    p'.find? k =
      if k = h then (p.find? k).map fun e => { e with inUse := false, releasedAt := p.round }
      else p.find? k := by
  unfold release at hr
  split at hr
  · cases hr
  · split at hr
    · cases hr
      exact lookup_update h (fun e => { e with inUse := false, releasedAt := p.round }) k p.entries
    · cases hr

/-- Nothing is known after everything was destroyed. -/
@[simp] theorem find?_cleared (p : Pool) (h : Handle) : p.cleared.find? h = none := rfl

end ShaderEffect.Pool
