/-
**An expression depends on the variables it reads, and on nothing else.**

`ShaderEffect.Expr.reads` collects the names in an expression without evaluating it.  Here the two
are compared: values are looked up for these names alone, so that two environments that agree on
them are the same to the expression, and there is a value only if all of them are known.  Which of
several faults is reported is another matter: operands are evaluated from left to right, and a
division by zero hides an unknown variable behind it.

Main definitions:

* `ShaderEffect.Environment.insertAll` — inserting one value after the other.

Main results:

* `ShaderEffect.Expr.eval_congr` — **names that are not read do not matter**;
* `ShaderEffect.Expr.unknown_of_eval_eq_error` — only names that are read are reported unknown;
* `ShaderEffect.Expr.known_of_eval_eq_ok` — a value needs all names that are read;
* `ShaderEffect.Environment.get?_insertAll` — the render size is there, whatever is inserted;
* `ShaderEffect.Expression.evaluate_reads` — what this means for expressions as texts.
-/

import ShaderEffect.Proofs.Expr.Form
import ShaderEffect.Proofs.Expr.Lexemes

set_option autoImplicit false

namespace ShaderEffect

/-! ### Environments -/

namespace Environment

/-- The environment after some insertions, from the first to the last. -/
def insertAll (env : Environment) (bindings : List (String × Float)) : Environment :=
  bindings.foldl (fun env b => env.insert b.1 b.2) env

@[simp] theorem renderSize_insertAll (env : Environment) (bindings : List (String × Float)) :
    (env.insertAll bindings).renderSize = env.renderSize := by
  induction bindings generalizing env with
  | nil => rfl
  | cons b bindings ih => exact (ih (env.insert b.1 b.2)).trans (renderSize_insert env b.1 b.2)

theorem extent_congr {env env' : Environment} (h : env.renderSize = env'.renderSize) (axis : Axis) :
    env.extent axis = env'.extent axis := by
  rw [extent, extent, h]

/-- The names of the render size keep their values, whatever is inserted. -/
theorem Anchored.insertAll {env : Environment} (henv : env.Anchored)
    (bindings : List (String × Float)) : (env.insertAll bindings).Anchored := by
  induction bindings generalizing env with
  | nil => exact henv
  | cons b bindings ih => exact ih (henv.insert b.1 b.2)

/-- They have the extents of the render size, however many values have been inserted. -/
theorem get?_insertAll (size : Size) (bindings : List (String × Float)) {name : String}
    {axis : Axis} (h : reserved? name = some axis) :
    ((ofSize size).insertAll bindings).get? name = some (size.along axis).toFloat := by
  rw [(anchored_ofSize size).insertAll bindings h, extent, renderSize_insertAll, ofSize]

end Environment

/-! ### Trees -/

namespace Expr

variable {env env' : Environment} {axis : Axis} {e : Expr}

/-- **Names that are not read do not matter.** -/
theorem eval_congr (hsize : env.renderSize = env'.renderSize)
    (h : ∀ name ∈ e.reads, env.get? name = env'.get? name) :
    e.eval env axis = e.eval env' axis := by
  induction e with
  | number v => rfl
  | var x => rw [eval, eval, h x (List.mem_singleton_self x)]
  | percent e ih => rw [eval, eval, ih h, Environment.extent_congr hsize]
  | negate e ih => rw [eval, eval, ih h]
  | unary f e ih => rw [eval, eval, ih h]
  | arith op l r ihl ihr =>
    rw [eval, eval, ihl fun name hname => h name (List.mem_append_left _ hname),
      ihr fun name hname => h name (List.mem_append_right _ hname)]
  | binary f a b iha ihb =>
    rw [eval, eval, iha fun name hname => h name (List.mem_append_left _ hname),
      ihb fun name hname => h name (List.mem_append_right _ hname)]
  | clamp a b c iha ihb ihc =>
    have hab : ∀ name ∈ a.reads ++ b.reads, env.get? name = env'.get? name :=
      fun name hname => h name (List.mem_append_left _ hname)
    rw [eval, eval, iha fun name hname => hab name (List.mem_append_left _ hname),
      ihb fun name hname => hab name (List.mem_append_right _ hname),
      ihc fun name hname => h name (List.mem_append_right _ hname)]

/-! ### Operands are evaluated from left to right -/

/-- A fault is that of an operand, or comes from what is done with its value. -/
theorem or_of_bind_eq_error {α β : Type} {x : Except EvalFault α} {f : α → Except EvalFault β}
    {fault : EvalFault} (h : x >>= f = .error fault) :
    x = .error fault ∨ ∃ a, f a = .error fault := by
  cases x with
  | error fault' =>
    cases h
    exact Or.inl rfl
  | ok a => exact Or.inr ⟨a, h⟩

/-- Arithmetic knows no variables. -/
theorem applyArith_ne_unknownVariable (op : Arith) (x y : Float) (name : String) :
    applyArith op x y ≠ .error (.unknownVariable name) := by
  cases op with
  | div =>
    simp only [applyArith]
    split <;> simp
  | _ => simp [applyArith]

/-- Only a name that is read is reported unknown, and only if it is. -/
theorem unknown_of_eval_eq_error {name : String}
    (h : e.eval env axis = .error (.unknownVariable name)) :
    name ∈ e.reads ∧ env.get? name = none := by
  induction e with
  | number v => cases h
  | var x =>
    rw [eval] at h
    split at h
    case h_1 => cases h
    case h_2 hnone =>
      cases h
      exact ⟨List.mem_singleton_self _, hnone⟩
  | percent e ih | negate e ih | unary f e ih =>
    rcases or_of_bind_eq_error h with he | ⟨v, hv⟩
    · exact ih he
    · cases hv
  | arith op l r ihl ihr =>
    rcases or_of_bind_eq_error h with hl | ⟨x, hx⟩
    · exact ⟨List.mem_append_left _ (ihl hl).1, (ihl hl).2⟩
    · rcases or_of_bind_eq_error hx with hr | ⟨y, hy⟩
      · exact ⟨List.mem_append_right _ (ihr hr).1, (ihr hr).2⟩
      · exact absurd hy (applyArith_ne_unknownVariable op x y name)
  | binary f a b iha ihb =>
    rcases or_of_bind_eq_error h with ha | ⟨x, hx⟩
    · exact ⟨List.mem_append_left _ (iha ha).1, (iha ha).2⟩
    · rcases or_of_bind_eq_error hx with hb | ⟨y, hy⟩
      · exact ⟨List.mem_append_right _ (ihb hb).1, (ihb hb).2⟩
      · cases hy
  | clamp a b c iha ihb ihc =>
    rcases or_of_bind_eq_error h with ha | ⟨x, hx⟩
    · exact ⟨List.mem_append_left _ (List.mem_append_left _ (iha ha).1), (iha ha).2⟩
    · rcases or_of_bind_eq_error hx with hb | ⟨y, hy⟩
      · exact ⟨List.mem_append_left _ (List.mem_append_right _ (ihb hb).1), (ihb hb).2⟩
      · rcases or_of_bind_eq_error hy with hc | ⟨z, hz⟩
        · exact ⟨List.mem_append_right _ (ihc hc).1, (ihc hc).2⟩
        · cases hz

/-- There is a value only if every name that is read is known. -/
theorem known_of_eval_eq_ok {v : Float} (h : e.eval env axis = .ok v) :
    ∀ name ∈ e.reads, ∃ w, env.get? name = some w := by
  induction e generalizing v with
  | number v => simp [reads]
  | var x =>
    rw [eval] at h
    split at h
    case h_1 w hw =>
      intro name hname
      rw [List.mem_singleton.1 hname]
      exact ⟨w, hw⟩
    case h_2 => cases h
  | percent e ih | negate e ih | unary f e ih =>
    obtain ⟨w, hw, -⟩ := bind_eq_ok_iff.1 h
    exact ih hw
  | arith op l r ihl ihr | binary f l r ihl ihr =>
    obtain ⟨x, hl, h⟩ := bind_eq_ok_iff.1 h
    obtain ⟨y, hr, -⟩ := bind_eq_ok_iff.1 h
    exact fun name hname => (List.mem_append.1 hname).elim (ihl hl name) (ihr hr name)
  | clamp a b c iha ihb ihc =>
    obtain ⟨x, ha, h⟩ := bind_eq_ok_iff.1 h
    obtain ⟨y, hb, h⟩ := bind_eq_ok_iff.1 h
    obtain ⟨z, hc, -⟩ := bind_eq_ok_iff.1 h
    intro name hname
    rcases List.mem_append.1 hname with hname | hname
    · exact (List.mem_append.1 hname).elim (iha ha name) (ihb hb name)
    · exact ihc hc name hname

end Expr

/-! ### Texts -/

namespace Expression

variable {x : Expression} {env env' : Environment} {axis : Axis}

theorem evaluate_congr (hsize : env.renderSize = env'.renderSize)
    (h : ∀ name ∈ x.reads, env.get? name = env'.get? name) :
    x.evaluate env axis = x.evaluate env' axis := by
  simp only [evaluate, Expr.finiteValue, Expr.eval_congr hsize h]

/-- A value that is not finite is no unknown variable. -/
theorem unknown_of_evaluate_eq_error {name : String}
    (h : x.evaluate env axis = .error (.value (.unknownVariable name))) :
    name ∈ x.reads ∧ env.get? name = none := by
  rw [evaluate] at h
  split at h
  case h_2 => cases h
  case h_1 fault hfault =>
    cases h
    rcases Expr.or_of_bind_eq_error hfault with htree | ⟨v, hv⟩
    · exact Expr.unknown_of_eval_eq_error htree
    · split at hv <;> cases hv

/-- There is no value if a name that is read is not known. -/
theorem exists_evaluate_eq_error (h : ∃ name ∈ x.reads, env.get? name = none) :
    ∃ fault, x.evaluate env axis = .error fault := by
  obtain ⟨name, hname, hnone⟩ := h
  rw [evaluate]
  split
  case h_1 => exact ⟨_, rfl⟩
  case h_2 v hv =>
    obtain ⟨w, hw, -⟩ := Expr.bind_eq_ok_iff.1 hv
    obtain ⟨u, hu⟩ := Expr.known_of_eval_eq_ok hw name hname
    rw [hnone] at hu
    cases hu

/-- **An expression depends on the variables it reads.**  If two environments have the same render
size and the same values for these, it has the same value or the same fault in both.  An unknown
variable is reported only for a name that is read and is not known, so never if all of them are
known; and if one of them is not, there is no value.  No insertion changes what the names of the
render size stand for. -/
theorem evaluate_reads (x : Expression) (axis : Axis) :
    (∀ env env', env.renderSize = env'.renderSize →
      (∀ name ∈ x.reads, env.get? name = env'.get? name) →
        x.evaluate env axis = x.evaluate env' axis ∧ x.pixels env axis = x.pixels env' axis) ∧
    (∀ env name, x.evaluate env axis = .error (.value (.unknownVariable name)) →
      name ∈ x.reads ∧ env.get? name = none) ∧
    (∀ env, (∃ name ∈ x.reads, env.get? name = none) →
      ∃ fault, x.evaluate env axis = .error fault) ∧
    ∀ size bindings, let env := (Environment.ofSize size).insertAll bindings
      Expr.eval env axis (.var "WIDTH") = .ok size.width.toFloat ∧
        Expr.eval env axis (.var "HEIGHT") = .ok size.height.toFloat := by
  refine ⟨fun env env' hsize h => ?_, fun env name h => ?_, fun env h => ?_,
    fun size bindings => ?_⟩
  · have hvalue : x.evaluate env axis = x.evaluate env' axis := evaluate_congr hsize h
    exact ⟨hvalue, by rw [pixels, pixels, hvalue]⟩
  · exact unknown_of_evaluate_eq_error h
  · exact exists_evaluate_eq_error h
  · have hwidth : Environment.reserved? "WIDTH" = some .width := rfl
    have hheight : Environment.reserved? "HEIGHT" = some .height := rfl
    simp only [Expr.eval, Environment.get?_insertAll _ _ hwidth,
      Environment.get?_insertAll _ _ hheight]
    exact ⟨rfl, rfl⟩

/-- The scale is read, and so is the width; another name is not. -/
theorem evaluate_reads_scale :
    let x : Expression := ⟨"$scale - $WIDTH", .arith .sub (.var "scale") (.var "WIDTH")⟩
    let env := (Environment.ofSize ⟨640, 480⟩).insert "scale" 50
    let env' := env.insert "offset" 7
    parse "$scale - $WIDTH" = .ok x ∧ env.renderSize = env'.renderSize ∧
      (∀ name ∈ x.reads, env.get? name = env'.get? name) ∧
      x.evaluate env .width = x.evaluate env' .width ∧
      (∃ name ∈ x.reads, (Environment.ofSize ⟨640, 480⟩).get? name = none) ∧
      ∃ fault, x.evaluate (.ofSize ⟨640, 480⟩) .width = .error fault := by
  intro x env env'
  have hspaced : Expr.Spaced "$scale - $WIDTH".toList [.var "scale", .minus, .var "WIDTH"] :=
    @Expr.Spaced.word_of_all [] "$scale".toList _ _ _ rfl
      (.var (by decide) (List.all_eq_true.1 rfl)) rfl
      (@Expr.Spaced.word_of_all [' '] ['-'] _ _ _ rfl (.punctuation .minus) rfl
        (@Expr.Spaced.word_of_all [' '] "$WIDTH".toList [] _ _ rfl
          (.var (by decide) (List.all_eq_true.1 rfl)) rfl
          (.blanks (List.all_eq_true.1 rfl))))
  let width : Expr.Form .signed := .unsigned (.operand (.var "WIDTH") 0)
  let scale : Expr.Form .signed := .unsigned (.operand (.var "scale") 0)
  let form : Expr.Form .sum := @Expr.Form.add .minus _ rfl (.term (.factor scale)) (.factor width)
  have htokens : Expr.tokenize "$scale - $WIDTH".toList = .ok form.tokens :=
    Expr.tokenize_eq_ok_iff.2 hspaced.cuts
  have hparse : parse "$scale - $WIDTH" = .ok x := by
    rw [parse_form htokens, if_pos (by decide)]
    rfl
  have hagree : ∀ name ∈ x.reads, env.get? name = env'.get? name := by
    have hreads : x.reads = ["scale", "WIDTH"] := rfl
    rw [hreads]
    simp only [List.forall_mem_cons]
    exact ⟨rfl, rfl, by simp⟩
  have hunknown : ∃ name ∈ x.reads, (Environment.ofSize ⟨640, 480⟩).get? name = none :=
    ⟨"scale", List.mem_cons_self, rfl⟩
  obtain ⟨hcongr, -, hnone, -⟩ := evaluate_reads x .width
  exact ⟨hparse, rfl, hagree, (hcongr env env' rfl hagree).1, hunknown, hnone _ hunknown⟩

end Expression

end ShaderEffect
