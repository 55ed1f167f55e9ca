/-
**Objects that were read are sorted.**

Readers are put together from smaller ones, and so is what is known about their results.  A property
that a step of a container keeps, the whole container has; a property that every member of a record
keeps, the record has.  So it is enough to say once, where the members of an object are merged, that
its keys stand in strictly increasing order.

Main definitions:

* `ShaderEffect.Json.Yields` — a reader reads nothing but values with a property;
* `ShaderEffect.Json.Sorted` — the keys of all objects in a value are in strictly increasing order.

Main results:

* `ShaderEffect.Json.yields_foldContents`, `ShaderEffect.Json.yields_record` — containers and
  records;
* `ShaderEffect.Json.yields_value` — **free-form values are sorted**;
* `ShaderEffect.EffectForm.sorted_imported` — so are the imported images in the metadata.
-/

import ShaderEffect.Metadata.Form

set_option autoImplicit false

namespace ShaderEffect

namespace Json

variable {α β σ : Type}

/-! ### What readers read -/

/-- **A reader reads nothing but values with a property.** -/
def Yields (P : α → Prop) (read : Reader α) : Prop :=
  ∀ cs r, read cs = .ok r → P r.value

variable {P : α → Prop} {Q : β → Prop}

/-- What starts with the first character that is not blank. -/
theorem yields_spaced {front : Front α} (h : ∀ c cs r, front c cs = .ok r → P r.value) :
    Yields P (spaced front) := by
  intro cs r hr
  unfold spaced at hr
  split at hr
  · cases hr
  · rename_i c rest _
    split at hr
    · cases hr
    · rename_i r' hr'
      cases hr
      exact h c rest r' hr'

theorem value_of_keyword {a : α} {word : List Char} {c : Char} {cs : List Char}
    {r : Reading α (c :: cs)} (h : keyword a word c cs = .ok r) : r.value = a := by
  unfold keyword at h
  split at h
  · cases h
  · cases h
    rfl

/-- What is read behind a character that has been seen. -/
theorem exists_of_inside {body : Reader α} {f : α → β} {c : Char} {cs : List Char}
    {r : Reading β (c :: cs)} (h : inside body f c cs = .ok r) :
    ∃ r', body cs = .ok r' ∧ r.value = f r'.value := by
  unfold inside at h
  split at h
  · cases h
  · rename_i r' hr'
    cases h
    exact ⟨r', hr', rfl⟩

/-! ### Containers -/

variable {I : σ → Prop} {close : Char} {step : σ → Reader σ}

/-- What each item of a container keeps, all that follow an item keep. -/
theorem yields_foldMore (hstep : ∀ s, I s → Yields I (step s)) {s : σ} (hs : I s) :
    Yields I (foldMore close step s) := by
  intro cs r hr
  -- what is left of the text gets shorter with every item
  induction hn : cs.length using Nat.strongRecOn generalizing s cs with
  | _ n ih =>
      unfold foldMore at hr
      split at hr
      · cases hr
      · rename_i c rest hrest
        have hle := length_le_of_skipSpace hrest
        dsimp only at hr
        split at hr
        · cases hr
          exact hs
        · split at hr
          · split at hr
            · cases hr
            · rename_i r₁ hr₁
              split at hr
              · cases hr
              · rename_i r₂ hr₂
                cases hr
                have hlt := r₁.shorter
                rw [List.length_cons] at hle
                exact ih r₁.rest.length (by omega) (hstep s hs rest r₁ hr₁) r₁.rest r₂ hr₂ rfl
          · cases hr

/-- **What each item of a container keeps, the container keeps.** -/
theorem yields_foldContents (hstep : ∀ s, I s → Yields I (step s)) {s : σ} (hs : I s) :
    Yields I (foldContents close step s) := by
  intro cs r hr
  unfold foldContents at hr
  split at hr
  · cases hr
  · rename_i c rest _
    dsimp only at hr
    split at hr
    · cases hr
      exact hs
    · split at hr
      · cases hr
      · rename_i r₁ hr₁
        split at hr
        · cases hr
        · rename_i r₂ hr₂
          cases hr
          exact yields_foldMore hstep (hstep s hs _ r₁ hr₁) r₁.rest r₂ hr₂

/-- The contents of a container have what each of its items has. -/
theorem yields_contents {item : Reader α} (h : Yields P item) :
    Yields (fun as : List α => ∀ a ∈ as, P a) (contents close item) := by
  intro cs r hr
  unfold contents at hr
  dsimp only at hr
  split at hr
  · cases hr
  · rename_i r' hr'
    cases hr
    have hall : ∀ a ∈ r'.value, P a := by
      refine yields_foldContents (I := fun as : List α => ∀ a ∈ as, P a) ?_ (by simp) cs r' hr'
      intro before hbefore cs r hr
      dsimp only at hr
      split at hr
      · cases hr
      · rename_i r₁ hr₁
        cases hr
        exact List.forall_mem_cons.2 ⟨h cs r₁ hr₁, hbefore⟩
    exact fun a ha => hall a (List.mem_reverse.1 ha)

/-- A member has what its value has. -/
theorem yields_member {keyBody : Reader β} {item : Reader α} (h : Yields P item) :
    Yields (fun m : β × α => P m.2) (member keyBody item) := by
  intro cs r hr
  unfold member at hr
  split at hr
  · cases hr
  · split at hr
    · cases hr
    · rename_i c _
      split at hr
      · cases hr
      · rename_i v hv
        cases hr
        exact h c.rest v hv

/-! ### Objects -/

/-- **The keys of all objects in a value are in strictly increasing order.** -/
inductive Sorted : Json → Prop where
  | null : Sorted .null
  | bool (b : Bool) : Sorted (.bool b)
  | number (n : Number) : Sorted (.number n)
  | text (s : String) : Sorted (.text s)
  | array {items : List Json} : (∀ j ∈ items, Sorted j) → Sorted (.array items)
  | object {members : List (String × Json)} : (members.map Prod.fst).Pairwise (· < ·) →
      (∀ m ∈ members, Sorted m.2) → Sorted (.object members)

theorem mem_of_mem_putMember {key : String} {value : Json} {m : String × Json} :
    ∀ {members : List (String × Json)}, m ∈ putMember key value members →
      m = (key, value) ∨ m ∈ members
  | [], h => Or.inl (List.mem_singleton.1 h)
  | (k, v) :: rest, h => by
    unfold putMember at h
    split at h
    · exact List.mem_cons.1 h
    · split at h
      · exact (List.mem_cons.1 h).imp_right fun h => List.mem_cons_of_mem _ h
      · rcases List.mem_cons.1 h with rfl | h
        · exact Or.inr List.mem_cons_self
        · exact (mem_of_mem_putMember h).imp_right fun h => List.mem_cons_of_mem _ h

/-- **Merged members are sorted.** -/
theorem sorted_mergeMembers {ms : List (String × Json)} (h : ∀ m ∈ ms, Sorted m.2) :
    Sorted (.object (mergeMembers ms)) := by
  suffices hfold : ∀ kept : List (String × Json), (kept.map Prod.fst).Pairwise (· < ·) →
      (∀ m ∈ kept, Sorted m.2) →
      Sorted (.object (ms.foldl (fun kept m => putMember m.1 m.2 kept) kept)) from
    hfold [] List.Pairwise.nil (by simp)
  induction ms with
  | nil => exact fun kept hkeys hkept => .object hkeys hkept
  | cons m ms ih =>
      intro kept hkeys hkept
      obtain ⟨hm, hms⟩ := List.forall_mem_cons.1 h
      refine ih hms _ (pairwise_putMember hkeys) fun k hk => ?_
      rcases mem_of_mem_putMember hk with rfl | hk
      · exact hm
      · exact hkept k hk

/-- A value is sorted if the values inside are. -/
theorem yields_valueWith {inner : Option (Reader Json)}
    (h : ∀ item ∈ inner, Yields Sorted item) : Yields Sorted (valueWith inner) := by
  refine yields_spaced fun c cs r hr => ?_
  split at hr
  · exact value_of_keyword hr ▸ .null
  split at hr
  · exact value_of_keyword hr ▸ .bool true
  split at hr
  · exact value_of_keyword hr ▸ .bool false
  split at hr
  · obtain ⟨r', -, hvalue⟩ := exists_of_inside hr
    exact hvalue ▸ .text r'.value
  split at hr
  · split at hr
    · cases hr
    · rename_i item
      obtain ⟨r', hr', hvalue⟩ := exists_of_inside hr
      exact hvalue ▸ .array (yields_contents (h item rfl) cs r' hr')
  split at hr
  · split at hr
    · cases hr
    · rename_i item
      obtain ⟨r', hr', hvalue⟩ := exists_of_inside hr
      exact hvalue ▸ sorted_mergeMembers (yields_contents (yields_member (h item rfl)) cs r' hr')
  · split at hr
    · cases hr
    · rename_i r' _
      cases hr
      exact .number r'.value

/-- **Free-form values are sorted**, however deep they are. -/
theorem yields_value (n : Nat) : Yields Sorted (value n) := by
  induction n with
  | zero => exact yields_valueWith (by simp)
  | succ n ih =>
      refine yields_valueWith fun item hitem => ?_
      cases hitem
      exact ih

/-! ### Records -/

/-- What may be left out has a property if what is there has it. -/
theorem yields_optional {d : Decoder α} {n : Nat} (h : Yields P (d n)) :
    Yields (fun v : Option α => ∀ a ∈ v, P a) (optional d n) := by
  refine yields_spaced fun c cs r hr => ?_
  split at hr
  · rw [value_of_keyword hr]
    simp
  · split at hr
    · cases hr
    · rename_i r' hr'
      cases hr
      intro a ha
      cases ha
      exact h _ r' hr'

/-- A member of a record stores a value that its reader reads. -/
theorem exists_of_read {key : String} {presence : Presence} {d : Decoder β} {put : β → α → α}
    {n : Nat} {cs : List Char} {r : Reading (α → α) cs}
    (h : (RecordField.of key presence d put).read n cs = .ok r) :
    ∃ r', d n cs = .ok r' ∧ r.value = put r'.value := by
  dsimp only [RecordField.of] at h
  split at h
  · cases h
  · rename_i r' hr'
    cases h
    exact ⟨r', hr', rfl⟩

/-- What the members of a record keep, its members in an object keep. -/
theorem yields_recordMember {fields : List (RecordField α)} {n : Nat}
    (h : ∀ field ∈ fields, Yields (fun change => ∀ a, P a → P (change a)) (field.read n))
    {s : α × List String} (hs : P s.1) :
    Yields (fun s : α × List String => P s.1) (recordMember fields n s) := by
  intro cs r hr
  unfold recordMember at hr
  split at hr
  · cases hr
  split at hr
  · split at hr
    · cases hr
    split at hr
    · cases hr
    · cases hr
      exact hs
  · rename_i field hfield
    split at hr
    · cases hr
    split at hr
    · cases hr
    · rename_i c _
      split at hr
      · cases hr
      · rename_i r' hr'
        cases hr
        exact h field (List.mem_of_find?_eq_some hfield) c.rest r' hr' s.1 hs

/-- What the members of a record keep, its values in an array keep. -/
theorem yields_recordItems {wanted : String} {n : Nat} {fields : List (RecordField α)}
    (h : ∀ field ∈ fields, Yields (fun change => ∀ a, P a → P (change a)) (field.read n))
    (index : Nat) {a : α} (ha : P a) : Yields P (recordItems wanted n fields index a) := by
  induction fields generalizing index a with
  | nil =>
      refine yields_spaced fun c cs r hr => ?_
      split at hr
      · cases hr
        exact ha
      · cases hr
  | cons field fields ih =>
      obtain ⟨hfield, hfields⟩ := List.forall_mem_cons.1 h
      intro cs r hr
      unfold recordItems at hr
      split at hr
      · cases hr
      · dsimp only at hr
        split at hr
        · split at hr
          · exact ih hfields _ ha cs r hr
          · cases hr
        · split at hr
          · cases hr
          · split at hr
            · cases hr
            · rename_i r₁ hr₁
              split at hr
              · cases hr
              · rename_i r₂ hr₂
                cases hr
                exact ih hfields _ (hfield _ r₁ hr₁ a ha) r₁.rest r₂ hr₂

/-- **What the members of a record keep, the record has.** -/
theorem yields_record {name : String} {fields : List (RecordField α)} {start : α}
    (h : ∀ field ∈ fields, ∀ n, Yields (fun change => ∀ a, P a → P (change a)) (field.read n))
    (hstart : P start) (n : Nat) : Yields P (record name fields start n) := by
  refine yields_spaced fun c cs r hr => ?_
  split at hr
  · cases n with
    | zero => cases hr
    | succ n =>
        obtain ⟨r', hr', hvalue⟩ := exists_of_inside hr
        exact hvalue ▸ yields_recordItems (fun f hf => h f hf n) 0 hstart cs r' hr'
  · split at hr
    · cases n with
      | zero => cases hr
      | succ n =>
          dsimp only at hr
          split at hr
          · cases hr
          · rename_i r' hr'
            split at hr
            · cases hr
            · cases hr
              refine yields_foldContents (I := fun s : α × List String => P s.1) ?_ hstart cs r' hr'
              exact fun s hs => yields_recordMember (fun f hf => h f hf n) hs
    · cases hr

/-- A whole text is read by its reader. -/
theorem exists_of_decode {d : Decoder α} {text : String} {a : α} (h : decode d text = .ok a) :
    ∃ r, d maxNesting text.toList = .ok r ∧ r.value = a := by
  unfold decode at h
  split at h
  · cases h
  · rename_i r hr
    split at h
    · cases h
      exact ⟨r, hr, rfl⟩
    · cases h

end Json

/-! ### The metadata -/

/-- **The imported images stand in the metadata as a sorted value.** -/
theorem EffectForm.sorted_imported {text : String} {form : EffectForm}
    (h : EffectForm.ofText text = .ok form) : ∀ j ∈ form.imported, j.Sorted := by
  obtain ⟨r, hr, rfl⟩ := Json.exists_of_decode h
  refine Json.yields_record (P := fun f : EffectForm => ∀ j ∈ f.imported, j.Sorted) ?_ (by simp)
    Json.maxNesting _ r hr
  simp only [List.forall_mem_cons]
  refine ⟨?_, ?_, ?_, ?_, ?_, ?_, ?_, ?_, by simp⟩
  all_goals
    intro n cs r hr a ha
    obtain ⟨r', hr', hvalue⟩ := Json.exists_of_read hr
    rw [hvalue]
  case refine_8 => exact Json.yields_optional (Json.yields_value n) cs r' hr'
  all_goals exact ha

end ShaderEffect
