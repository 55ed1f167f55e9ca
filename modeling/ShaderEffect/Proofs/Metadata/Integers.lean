/-
**Whole numbers in the metadata of inputs.**

The values of a long input have thirty-two bits, and so has the number of samples that a sound is
wanted with.  The metadata can name larger numbers.  Those of a long input are read as doubles and
kept as the nearest numbers of thirty-two bits, so that a greater number is never kept as a lesser
one, whichever of the two ways through double arithmetic it takes.  A number of samples is read as a
machine word, and only the last thirty-two bits of that are kept.

Main definitions:

* `ShaderEffect.Value.Saturates` — a whole number is kept as the nearest one of thirty-two bits;
* `ShaderEffect.InputForm.stored` — what stands for the values of an input, and what is kept;
* `ShaderEffect.InputForm.Narrows` — **what is kept of the whole numbers written for an input**.

Main results:

* `ShaderEffect.InputForm.narrows_toParameter` — inputs are read so;
* `ShaderEffect.Metadata.integers_saturate_unless_samples` — **whole numbers are kept as the nearest
  ones of thirty-two bits**, but for numbers of samples;
* `ShaderEffect.Metadata.samples_not_saturated` — and a number of samples is not.
-/

import ShaderEffect.Proofs.Document.WellFormed
import ShaderEffect.Proofs.Json.Integers

set_option autoImplicit false

namespace ShaderEffect

/-! ### Numbers of thirty-two bits -/

/-- The number of a range that is nearest to a whole number. -/
def clamp (least greatest z : Int) : Int := max least (min greatest z)

theorem clamp_mono (least greatest : Int) : Monotone (clamp least greatest) :=
  fun _ _ h => max_le_max le_rfl (min_le_min le_rfl h)

/-- A whole number is kept as the nearest one of thirty-two bits with a sign. -/
def Value.Saturates (v : Value) (z : Int) : Prop :=
  ∃ n : Int32, v = .long n ∧ n.toInt = clamp (-2 ^ 31) (2 ^ 31 - 1) z

theorem Value.saturates_saturate (z : Int) : (Value.long (saturate z)).Saturates z := by
  refine ⟨saturate z, rfl, ?_⟩
  have hlow : -2 ^ 31 ≤ max (-2147483648) (min 2147483647 z) := by omega
  have hhigh : max (-2147483648) (min 2147483647 z) < 2 ^ 31 := by omega
  rw [saturate, Int32.toInt_ofInt_of_le hlow hhigh]
  rfl

theorem Value.saturates_longOf {j : Json} {x : Float} {z : Int} (hx : j.float? = some x)
    (hj : j.Writes z) : (Value.long (longOf x)).Saturates z := by
  have hlong := hj.longOf
  rw [hx, Option.map_some, Option.some.injEq] at hlong
  rw [hlong]
  exact saturates_saturate z

/-! ### Long inputs -/

/-- What stands for a value, and the value that is kept: a whole number that is written is kept as
the nearest one. -/
def Keeps (json : Option Json) (stored : Option Value) : Prop :=
  ∀ j ∈ json, ∀ z, j.Writes z → ∃ v ∈ stored, v.Saturates z

/-- Of two whole numbers that are written, the greater one is not kept as the lesser. -/
theorem Keeps.mono {json json' : Option Json} {stored stored' : Option Value}
    (h : Keeps json stored) (h' : Keeps json' stored') :
    ∀ i ∈ json, ∀ j ∈ json', ∀ y z, i.Writes y → j.Writes z → y ≤ z →
      ∀ k n : Int32, stored = some (.long k) → stored' = some (.long n) → k.toInt ≤ n.toInt := by
  rintro i hi j hj y z hy hz hle k n rfl rfl
  obtain ⟨_, hv, k', rfl, hk⟩ := h i hi y hy
  obtain ⟨_, hw, n', rfl, hn⟩ := h' j hj z hz
  cases hv
  cases hw
  rw [hk, hn]
  exact clamp_mono _ _ hle

theorem ReadFor.keeps {json : Option Json} {stored : Option Value}
    (h : ReadFor .long json stored) : Keeps json stored := by
  intro j hj z hz
  cases h with
  | absent => cases hj
  | present hread =>
    cases hj
    obtain ⟨x, hx, rfl⟩ := Option.map_eq_some_iff.1 hread
    exact ⟨_, rfl, Value.saturates_longOf hx hz⟩

/-- Choices are kept so, each for the value that it stands for. -/
theorem forall₂_optionNumbers? {values : List Json} {numbers : List Int32}
    (h : optionNumbers? values = some numbers) :
    List.Forall₂ (fun j n => Keeps (some j) (some (.long n))) values numbers := by
  induction values generalizing numbers with
  | nil =>
    cases h
    exact .nil
  | cons j values ih =>
    unfold optionNumbers? at h
    split at h
    · rename_i x ns hx hns
      cases h
      refine .cons ?_ (ih hns)
      intro i hi z hz
      cases hi
      exact ⟨_, rfl, Value.saturates_longOf hx hz⟩
    · cases h

/-- So is the first one. -/
theorem keeps_head? {values : List Json} {numbers : List Int32}
    (h : List.Forall₂ (fun j n => Keeps (some j) (some (.long n))) values numbers) :
    Keeps values.head? (numbers.head?.map .long) := by
  cases h with
  | nil => exact fun _ hj => nomatch hj
  | cons hfirst _ => exact hfirst

theorem map_fst_labelled (numbers : List Int32) (labels : List String) :
    (labelled numbers labels).map Prod.fst = numbers := by
  induction numbers generalizing labels with
  | nil => rfl
  | cons n numbers ih =>
    cases labels with
    | nil => exact congrArg _ (ih [])
    | cons label labels => exact congrArg _ (ih labels)

/-- Sounds are sampled. -/
theorem Kind.isSampler_of_isAudio {k : Kind} (h : k.isAudio = true) : k.isSampler = true := by
  cases k <;> first | rfl | cases h

namespace InputForm

variable {form : InputForm} {p q : Parameter}

/-- What stands for the values of an input, and the values that are kept. -/
def stored (form : InputForm) (p : Parameter) : List (Option Json × Option Value) :=
  [(form.default, p.default), (form.min, p.min), (form.max, p.max), (form.identity, p.identity)] ++
    ((form.values.getD []).zip p.options).map fun c => (some c.1, some (.long c.2.1))

/-- The values of the input are whole numbers. -/
def IsLong (form : InputForm) : Prop := Kind.ofName? form.kind = some .long

/-- The values of the input are sounds. -/
def IsAudio (form : InputForm) : Prop :=
  ∃ kind, Kind.ofName? form.kind = some kind ∧ kind.isAudio = true

/-- **What is kept of the whole numbers that are written for an input.** -/
structure Narrows (form : InputForm) (p : Parameter) : Prop where
  /-- Those of a long input are kept as the nearest ones. -/
  long : form.IsLong → ∀ s ∈ form.stored p, Keeps s.1 s.2
  /-- All values to choose from are kept. -/
  choices : form.IsLong → p.options.length = (form.values.getD []).length
  /-- The first of them is the default, if none is declared. -/
  choice : form.IsLong → form.default = none → Keeps (form.values.getD []).head? p.default
  /-- A sound is wanted with the last thirty-two bits of the number of samples. -/
  samples : form.IsAudio → ∀ j ∈ form.max, ∀ z, j.Writes z →
    0 ≤ z ∧ ∃ n ∈ p.samples, (n.toNat : Int) = z % 2 ^ 32

/-- What the values to choose from are read as, and what the default is then. -/
theorem Chooses.forall₂ (h : form.Chooses p q) (hkind : p.kind = .long) (hoptions : p.options = [])
    (hdefault : p.default = none) :
    List.Forall₂ (fun j n => Keeps (some j) (some (.long n))) (form.values.getD [])
        (q.options.map Prod.fst) ∧
      q.default = (form.choice? (q.options.map Prod.fst)).map .long := by
  cases h with
  | skipped hnone =>
    have hvalues : form.values = none := hnone.resolve_left fun h => h hkind
    have hchoice : form.choice? [] = none := ite_self none
    rw [hvalues, hoptions, hdefault, List.map_nil, hchoice]
    exact ⟨.nil, rfl⟩
  | @read values numbers _ hvalues hnumbers =>
    have hmap : (form.choosing numbers p).options.map Prod.fst = numbers := map_fst_labelled _ _
    rw [hvalues, hmap]
    refine ⟨forall₂_optionNumbers? hnumbers, ?_⟩
    show ((form.choice? numbers).elim p fun n => p.withDefault (.long n)).default = _
    cases form.choice? numbers with
    | none => exact hdefault
    | some n => rfl

theorem Defaults.keeps (h : form.Defaults p q) (hkind : p.kind = .long) :
    Keeps form.default q.default := by
  cases h with
  | undeclared hdefault =>
    rw [hdefault]
    exact fun _ hj => nomatch hj
  | declared hdefault hread =>
    rw [hdefault]
    exact (ReadFor.present (hkind ▸ hread)).keeps

/-- **The number of samples** is the rest of the whole number that is written. -/
theorem exists_samplesOf {name : String} {json : Option Json} {samples : Option UInt32}
    (h : samplesOf name json = .ok samples) : ∀ j ∈ json, ∀ z, j.Writes z →
      0 ≤ z ∧ ∃ n ∈ samples, (n.toNat : Int) = z % 2 ^ 32 := by
  rintro j rfl z hz
  unfold samplesOf at h
  dsimp only at h
  split at h
  · rename_i i hi
    cases h
    obtain ⟨rfl, -⟩ := hz.natural?_eq hi
    refine ⟨Int.natCast_nonneg i, _, rfl, ?_⟩
    rw [UInt32.toNat_ofNat']
    norm_cast
  · cases h

/-- **Whole numbers of inputs are kept so.** -/
theorem narrows_toParameter (h : form.toParameter.result = .ok p) : form.Narrows p := by
  obtain ⟨kind, hkind, hp⟩ := yields_toParameter h
  clear h
  have hlong (h : form.IsLong) : kind = .long := Option.some.inj (hkind.symm.trans h)
  have hsound (h : form.IsAudio) : kind.isAudio = true := by
    obtain ⟨k, hk, haudio⟩ := h
    obtain rfl := Option.some.inj (hkind.symm.trans hk)
    exact haudio
  cases hp with
  | audio haudio hn =>
    have hne : ¬ form.IsLong := fun h => by
      rw [hlong h] at haudio
      cases haudio
    refine ⟨fun h => absurd h hne, fun h => absurd h hne, fun h => absurd h hne, ?_⟩
    exact fun _ => exists_samplesOf hn
  | image himage hsampler =>
    have hne : ¬ form.IsLong := fun h => by
      rw [hlong h] at hsampler
      cases hsampler
    refine ⟨fun h => absurd h hne, fun h => absurd h hne, fun h => absurd h hne, ?_⟩
    exact fun haudio => absurd (hsound haudio) (himage ▸ Bool.false_ne_true)
  | @value least greatest neutral q p hsampler hleast hgreatest hneutral hchooses hdefaults =>
    have hnumbers (h : kind = .long) := hchooses.forall₂ h rfl rfl
    have hq : q.kind = kind ∧ q.min = least ∧ q.max = greatest ∧ q.identity = neutral := by
      obtain ⟨_, _, _, rfl⟩ := hchooses.exists_eq
      exact ⟨rfl, rfl, rfl, rfl⟩
    have hp : p.min = q.min ∧ p.max = q.max ∧ p.identity = q.identity ∧ p.options = q.options := by
      obtain ⟨_, _, rfl⟩ := hdefaults.exists_eq
      exact ⟨rfl, rfl, rfl, rfl⟩
    obtain ⟨hkindq, hmin, hmax, hidentity⟩ := hq
    obtain ⟨hmin', hmax', hidentity', hoptions⟩ := hp
    refine ⟨fun h => ?_, fun h => ?_, fun h hdefault => ?_, fun haudio => ?_⟩
    · obtain rfl := hlong h
      obtain ⟨hforall, -⟩ := hnumbers rfl
      rw [List.forall₂_map_right_iff, List.forall₂_iff_zip] at hforall
      rw [stored, hmin', hmax', hidentity', hoptions, hmin, hmax, hidentity]
      refine List.forall_mem_append.2 ⟨?_, List.forall_mem_map.2 fun _ hc => hforall.2 hc⟩
      simp only [List.forall_mem_cons]
      exact ⟨hdefaults.keeps hkindq, hleast.keeps, hgreatest.keeps, hneutral.keeps,
        fun _ hs => absurd hs List.not_mem_nil⟩
    · obtain ⟨hforall, -⟩ := hnumbers (hlong h)
      rw [hoptions, hforall.length_eq, List.length_map]
    · obtain ⟨hforall, hchoice⟩ := hnumbers (hlong h)
      cases hdefaults with
      | undeclared _ =>
        rw [hchoice, choice?, hdefault]
        exact keeps_head? hforall
      | declared hdeclared _ =>
        rw [hdefault] at hdeclared
        cases hdeclared
    · rw [Kind.isSampler_of_isAudio (hsound haudio)] at hsampler
      cases hsampler

end InputForm

theorem Json.eq_of_natural? {j : Json} {n : Nat} (h : j.natural? = some n) :
    j = .number (.whole n) := by
  unfold natural? at h
  split at h
  · split at h
    · cases h
      rw [Int.toNat_of_nonneg ‹_›]
    · cases h
  · cases h

/-! ### Metadata -/

namespace Metadata

/-- The range of a number of samples. -/
theorem mod_eq_clamp_iff {z : Int} (hz : 0 ≤ z) :
    z % 2 ^ 32 = clamp 0 (2 ^ 32 - 1) z ↔ z < 2 ^ 32 ∨ z % 2 ^ 32 = 2 ^ 32 - 1 := by
  unfold clamp
  omega

/-- **Whole numbers in metadata are kept as the nearest ones of thirty-two bits**, but for the
numbers of samples, of which only the last thirty-two bits are kept.  Every input has its parameter.
The whole numbers that are written for the default, the limits, the neutral value and the choices of
a long input are kept as the nearest ones of thirty-two bits, however large they are; and of two of
them the greater one is never kept as the lesser.  A number of samples is kept as the nearest one of
thirty-two bits exactly if it has no more of them, or if the last thirty-two are all set; and among
those that have no more of them, the order is kept. -/
theorem integers_saturate_unless_samples {directory text : String} {form : EffectForm}
    {m : Metadata}
    (hform : EffectForm.ofText text = .ok form) (hm : (ofText directory text).result = .ok m) :
    ∃ inputs images, m.parameters = inputs ++ images ∧
      List.Forall₂ InputForm.Narrows form.inputs inputs ∧
      ∀ a ∈ form.inputs.zip inputs, ∀ b ∈ form.inputs.zip inputs,
        (a.1.IsLong → b.1.IsLong → ∀ s ∈ a.1.stored a.2, ∀ t ∈ b.1.stored b.2,
          ∀ i ∈ s.1, ∀ j ∈ t.1, ∀ y z, i.Writes y → j.Writes z → y ≤ z →
            ∀ k n : Int32, s.2 = some (.long k) → t.2 = some (.long n) → k.toInt ≤ n.toInt) ∧
        (a.1.IsAudio → b.1.IsAudio → ∀ i ∈ a.1.max, ∀ j ∈ b.1.max, ∀ y z,
          i.Writes y → j.Writes z → ∀ k ∈ a.2.samples, ∀ n ∈ b.2.samples,
            ((n.toNat : Int) = clamp 0 (2 ^ 32 - 1) z ↔ z < 2 ^ 32 ∨ z % 2 ^ 32 = 2 ^ 32 - 1) ∧
            (y ≤ z → z < 2 ^ 32 → k.toNat ≤ n.toNat)) := by
  rw [ofText, hform] at hm
  obtain ⟨ps, hps, hrest⟩ := Report.result_bind_eq_ok_iff.1 hm
  obtain ⟨passes, -, hrest⟩ := Report.result_bind_eq_ok_iff.1 hrest
  cases hrest
  obtain ⟨inputs, images, hinputs, -, rfl, -⟩ := parametersOf_eq_ok_iff.1 hps
  have hnarrows : List.Forall₂ InputForm.Narrows form.inputs inputs :=
    hinputs.imp fun _ _ => InputForm.narrows_toParameter
  have hpairs (a : InputForm × Parameter) (ha : a ∈ form.inputs.zip inputs) : a.1.Narrows a.2 :=
    (List.forall₂_iff_zip.1 hnarrows).2 ha
  refine ⟨inputs, images, rfl, hnarrows, fun a ha b hb => ⟨?_, ?_⟩⟩
  · intro hlong hlong' s hs t ht
    exact ((hpairs a ha).long hlong s hs).mono ((hpairs b hb).long hlong' t ht)
  · intro haudio haudio' i hi j hj y z hy hz k hk n hn
    obtain ⟨hy0, k', hk', hy'⟩ := (hpairs a ha).samples haudio i hi y hy
    obtain ⟨hz0, n', hn', hz'⟩ := (hpairs b hb).samples haudio' j hj z hz
    obtain rfl := Option.some.inj (hk'.symm.trans hk)
    obtain rfl := Option.some.inj (hn'.symm.trans hn)
    rw [hz', mod_eq_clamp_iff hz0]
    exact ⟨Iff.rfl, fun hle hlt => by omega⟩

/-- The metadata of an effect with a choice of large numbers and the frequencies of a sound. -/
def dialText : String :=
  "\x7b\"INPUTS\":[\x7b\"NAME\":\"l\",\"TYPE\":\"long\",\"MIN\":-9999999999," ++
    "\"MAX\":123456789012345678901234567890,\"VALUES\":[2147483648,3]\x7d," ++
    "\x7b\"NAME\":\"w\",\"TYPE\":\"audioFFT\",\"MAX\":256\x7d]\x7d"

/-- **Large numbers** are kept as the limits of thirty-two bits. -/
theorem integers_saturate_unless_samples_dial :
    ∃ form m, EffectForm.ofText dialText = .ok form ∧ (ofText "/" dialText).result = .ok m ∧
      (m.parameters.map fun p => (p.default, p.min, p.max, p.samples)) =
        [(some (.long 2147483647), some (.long (-2147483648)), some (.long 2147483647), none),
          (none, none, none, some 256)] ∧
      ∃ inputs images, m.parameters = inputs ++ images ∧
        List.Forall₂ InputForm.Narrows form.inputs inputs := by
  cases hm : (ofText "/" dialText).result with
  | error failure =>
    have hok : (ofText "/" dialText).result.toOption.isSome = true := by decide +kernel
    rw [hm] at hok
    cases hok
  | ok m =>
    have hview : (ofText "/" dialText).result.toOption.map (fun m =>
        m.parameters.map fun p => (p.default, p.min, p.max, p.samples)) =
        some [(some (.long 2147483647), some (.long (-2147483648)), some (.long 2147483647), none),
          (none, none, none, some 256)] := by
      decide +kernel
    rw [hm] at hview
    cases hform : EffectForm.ofText dialText with
    | error fault =>
      rw [ofText, hform] at hm
      cases hm
    | ok form =>
      obtain ⟨inputs, images, hparameters, hnarrows, -⟩ :=
        integers_saturate_unless_samples hform hm
      exact ⟨form, m, rfl, rfl, Option.some.inj hview, inputs, images, hparameters, hnarrows⟩

/-- The metadata of an effect with two sounds, of which one is wanted with more samples than
thirty-two bits can count. -/
def longSoundText : String :=
  "\x7b\"INPUTS\":[\x7b\"NAME\":\"w\",\"TYPE\":\"audio\",\"MAX\":4294967296\x7d," ++
    "\x7b\"NAME\":\"v\",\"TYPE\":\"audio\",\"MAX\":256\x7d]\x7d"

/-- **A number of samples is not kept as the nearest one**: one more than the greatest of thirty-two
bits is kept as zero, and so as less than a lesser number. -/
theorem samples_not_saturated :
    ∃ form m, EffectForm.ofText longSoundText = .ok form ∧
      (ofText "/" longSoundText).result = .ok m ∧
      ∃ a b, form.inputs = [a, b] ∧ a.IsAudio ∧ b.IsAudio ∧
        (∃ j ∈ a.max, j.Writes 4294967296) ∧ (∃ j ∈ b.max, j.Writes 256) ∧
        (m.parameters.map fun p => p.samples) = [some 0, some 256] ∧
        ((0 : UInt32).toNat : Int) ≠ clamp 0 (2 ^ 32 - 1) 4294967296 := by
  have hlarge : (Json.number (.whole 4294967296)).Writes 4294967296 :=
    ⟨['4', '2', '9', '4', '9', '6', '7', '2', '9', '6'], _, _, rfl, rfl, rfl, rfl⟩
  have hsmall : (Json.number (.whole 256)).Writes 256 :=
    ⟨['2', '5', '6'], _, _, rfl, rfl, rfl, rfl⟩
  have hforms : (EffectForm.ofText longSoundText).toOption.map (fun form =>
      form.inputs.map fun f => (f.kind, f.max.bind Json.natural?)) =
      some [("audio", some 4294967296), ("audio", some 256)] := by
    decide +kernel
  have hview : (ofText "/" longSoundText).result.toOption.map (fun m =>
      m.parameters.map fun p => p.samples) = some [some 0, some 256] := by
    decide +kernel
  cases hform : EffectForm.ofText longSoundText with
  | error fault =>
    rw [hform] at hforms
    cases hforms
  | ok form =>
    cases hm : (ofText "/" longSoundText).result with
    | error failure =>
      rw [hm] at hview
      cases hview
    | ok m =>
      rw [hform] at hforms
      rw [hm] at hview
      obtain ⟨a, rest, hinputs, ha, hrest⟩ := List.map_eq_cons_iff.1 (Option.some.inj hforms)
      obtain ⟨b, _, rfl, hb, hnil⟩ := List.map_eq_cons_iff.1 hrest
      obtain rfl := List.map_eq_nil_iff.1 hnil
      obtain ⟨hkind, hmax⟩ := Prod.mk.inj ha
      obtain ⟨hkind', hmax'⟩ := Prod.mk.inj hb
      obtain ⟨i, hi, hnatural⟩ := Option.bind_eq_some_iff.1 hmax
      obtain ⟨j, hj, hnatural'⟩ := Option.bind_eq_some_iff.1 hmax'
      have haudio {f : InputForm} (h : f.kind = "audio") : f.IsAudio := ⟨.audio, h ▸ rfl, rfl⟩
      refine ⟨form, m, rfl, rfl, a, b, hinputs, haudio hkind, haudio hkind', ⟨i, hi, ?_⟩,
        ⟨j, hj, ?_⟩, Option.some.inj hview, by decide⟩
      · rw [Json.eq_of_natural? hnatural]
        exact hlarge
      · rw [Json.eq_of_natural? hnatural']
        exact hsmall

end Metadata

end ShaderEffect
