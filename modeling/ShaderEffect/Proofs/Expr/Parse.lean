/-
**The readers of size expressions follow the grammar.**

A reader hands on what it has read together with the tokens that are left.  Readers with enough
levels read every derivation, readers with fewer find it too deep, and what a reader has read has a
derivation.  All three are said of the phrases of the grammar one by one, and hold of the whole text
in the end.

Main definitions:

* `ShaderEffect.Expr.Phrase.reader` — the reader of a phrase;
* `ShaderEffect.Expression.Parsed` — **what the grammar says about a text**.

Main results:

* `ShaderEffect.Expr.Derives.isRead` — a derivation is read, unless it is too deep;
* `ShaderEffect.Expr.finds_signedOf` — what is read has a derivation;
* `ShaderEffect.Expr.Derives.unique` — the tokens of a sum tell its tree and its levels;
* `ShaderEffect.Expression.parsed` — **texts are parsed as the grammar says**.
-/

import ShaderEffect.Pass.Target
import ShaderEffect.Proofs.Expr.Grammar

set_option autoImplicit false

namespace ShaderEffect.Expr

variable {α β : Type}

/-! ### Levels -/

/-- The result of reading something that has `n` levels open at once, with `m` levels left. -/
def within (n m : Nat) (x : Except SyntaxFault α) : Except SyntaxFault α :=
  if n ≤ m then x else .error .tooDeep

@[simp] theorem within_succ_succ (n m : Nat) (x : Except SyntaxFault α) :
    within (n + 1) (m + 1) x = within n m x := by
  simp [within]

/-- Reading goes on if there were enough levels. -/
@[simp] theorem bind_within (n m : Nat) (x : Except SyntaxFault α)
    (f : α → Except SyntaxFault β) : (within n m x).bind f = within n m (x.bind f) := by
  unfold within
  split <;> rfl

/-- Two parts that are read one after the other do not add up. -/
@[simp] theorem within_within (n k m : Nat) (x : Except SyntaxFault α) :
    within n m (within k m x) = within (max n k) m x := by
  simp only [within, Nat.max_le]
  by_cases hn : n ≤ m <;> simp [hn]

/-- There is something behind a first part only if there is a first part. -/
theorem bind_eq_ok_iff {ε : Type} {x : Except ε α} {f : α → Except ε β} {b : β} :
    x.bind f = .ok b ↔ ∃ a, x = .ok a ∧ f a = .ok b := by
  cases x with
  | error fault => simp [Except.bind]
  | ok a => simp [Except.bind]

/-! ### What the readers do -/

section Readers

variable {r : Reader Expr} {ts : List Token}

theorem run_expect (t : Token) : (expect t).run (t :: ts) = .ok ((), ts) := by
  simp [Reader.run, expect]

theorem eq_of_run_expect {t : Token} {rest : List Token}
    (h : (expect t).run ts = .ok ((), rest)) : ts = t :: rest := by
  cases ts with
  | nil => simp [Reader.run, expect] at h
  | cons u us =>
    by_cases hu : u = t
    · simpa [Reader.run, expect, hu] using h
    · simp [Reader.run, expect, hu] at h

theorem leaving_moreArguments_comma :
    leaving (moreArguments r (.comma :: ts)) =
      (r.run ts).bind fun x => (leaving (moreArguments r x.2)).bind fun y =>
        .ok (x.1 :: y.1, y.2) := by
  rw [moreArguments]
  unfold Reader.run
  cases r ts with
  | error fault => rfl
  | ok x =>
    dsimp only [bind_ok]
    cases moreArguments r x.rest with
    | error fault => rfl
    | ok y => rfl

/-- Without a comma there are no more arguments. -/
theorem leaving_moreArguments_of_ne (h : ∀ us, ts ≠ .comma :: us) :
    leaving (moreArguments r ts) = .ok ([], ts) := by
  rw [moreArguments]
  · rfl
  · exact h

theorem run_arguments_rparen : (arguments r).run (.rparen :: ts) = .ok ([], ts) := by
  simp [Reader.run, arguments]

theorem run_arguments_of_ne (h : ∀ us, ts ≠ .rparen :: us) :
    (arguments r).run ts =
      (r.run ts).bind fun x => (leaving (moreArguments r x.2)).bind fun y =>
        ((expect .rparen).run y.2).bind fun z => .ok (x.1 :: y.1, z.2) := by
  unfold Reader.run
  rw [arguments]
  · cases r ts with
    | error fault => rfl
    | ok x =>
      dsimp only [bind_ok]
      cases moreArguments r x.rest with
      | error fault => rfl
      | ok y =>
        dsimp only [leaving, bind_ok]
        cases expect .rparen y.2.1 with
        | error fault => rfl
        | ok z => rfl
  · exact h

/-- The call that is made of a function and of arguments that have been read. -/
def callFrom (name : String) (f : Function) (args : List Expr) (rest : List Token) :
    Except SyntaxFault (Expr × List Token) :=
  match call? f args with
  | none => .error (.wrongArity name f.arity args.length)
  | some e => .ok (e, rest)

theorem run_callOf {name : String} {f : Function} (hf : Function.ofName? name = some f) :
    (callOf r name).run ts =
      ((expect .lparen).run ts).bind fun x => ((arguments r).run x.2).bind fun y =>
        callFrom name f y.1 y.2 := by
  unfold Reader.run callOf
  rw [hf]
  dsimp only
  cases expect .lparen ts with
  | error fault => rfl
  | ok x =>
    dsimp only [bind_ok]
    cases arguments r x.rest with
    | error fault => rfl
    | ok y =>
      dsimp only [bind_ok, callFrom]
      cases call? f y.value with
      | none => rfl
      | some e => rfl

theorem run_callOf_of_none {name : String} (hf : Function.ofName? name = none) :
    (callOf r name).run ts = .error (.unknownFunction name) := by
  unfold Reader.run callOf
  rw [hf]

theorem run_atomOf_number (v : Float) :
    (atomOf r).run (.number v :: ts) = .ok (.number v, ts) := by
  simp [Reader.run, atomOf]

theorem run_atomOf_var (x : String) : (atomOf r).run (.var x :: ts) = .ok (.var x, ts) := by
  simp [Reader.run, atomOf]

theorem run_atomOf_lparen : (atomOf r).run (.lparen :: ts) =
    (r.run ts).bind fun x => ((expect .rparen).run x.2).bind fun y => .ok (x.1, y.2) := by
  unfold Reader.run
  rw [atomOf]
  cases r ts with
  | error fault => rfl
  | ok x =>
    dsimp only [bind_ok]
    cases expect .rparen x.rest with
    | error fault => rfl
    | ok y => rfl

theorem run_atomOf_ident (name : String) :
    (atomOf r).run (.ident name :: ts) = (callOf r name).run ts := by
  unfold Reader.run
  rw [atomOf]
  cases callOf r name ts with
  | error fault => rfl
  | ok x => rfl

/-- What is left behind something that was read stays shorter than the whole. -/
theorem lt_of_le_rest (r : Reading Expr ts) {rest : List Token}
    (h : rest.length ≤ r.rest.length) : rest.length < ts.length :=
  Nat.lt_of_le_of_lt h r.shorter

/-- The reader of an operand, with so many levels left for what stands in it. -/
def operandOf (m : Nat) : Reader Expr := fun ts =>
  match atomOf (sumOf (signedOf m)) ts with
  | .error fault => .error fault
  | .ok r =>
    match percents m r.value r.rest with
    | .error fault => .error fault
    | .ok (e, ⟨rest, h⟩) => .ok ⟨e, rest, lt_of_le_rest r h⟩

theorem run_operandOf (m : Nat) : (operandOf m).run ts =
    ((atomOf (sumOf (signedOf m))).run ts).bind fun x => leaving (percents m x.1 x.2) := by
  unfold Reader.run operandOf
  cases atomOf (sumOf (signedOf m)) ts with
  | error fault => rfl
  | ok x =>
    dsimp only [bind_ok]
    cases percents m x.value x.rest with
    | error fault => rfl
    | ok y => rfl

/-- As many percent signs are read as stand there, if there are levels for all of them. -/
theorem leaving_percents (k m : Nat) (e : Expr) {rest : List Token}
    (h : ∀ us, rest ≠ .percent :: us) :
    leaving (percents m e (List.replicate k .percent ++ rest)) =
      within k m (.ok (Expr.percent^[k] e, rest)) := by
  induction k generalizing m e with
  | zero =>
    rw [List.replicate_zero, List.nil_append, percents]
    · rfl
    · exact h
  | succ k ih =>
    rw [List.replicate_succ, List.cons_append]
    cases m with
    | zero => rfl
    | succ m =>
      rw [within_succ_succ, Function.iterate_succ_apply, ← ih m (.percent e)]
      rw [percents]
      cases percents m (.percent e) (List.replicate k .percent ++ rest) with
      | error fault => rfl
      | ok y => rfl

theorem run_signedOf_zero : (signedOf 0).run ts = .error .tooDeep := by
  simp [Reader.run, signedOf]

theorem run_signedOf_minus (m : Nat) : (signedOf (m + 1)).run (.minus :: ts) =
    ((signedOf m).run ts).bind fun x => .ok (.negate x.1, x.2) := by
  unfold Reader.run
  rw [signedOf]
  cases signedOf m ts with
  | error fault => rfl
  | ok x => rfl

theorem run_signedOf_plus (m : Nat) :
    (signedOf (m + 1)).run (.plus :: ts) = (signedOf m).run ts := by
  unfold Reader.run
  rw [signedOf]
  cases signedOf m ts with
  | error fault => rfl
  | ok x => rfl

/-- Without a sign there is an operand. -/
theorem run_signedOf_of_ne (m : Nat) (hminus : ∀ us, ts ≠ .minus :: us)
    (hplus : ∀ us, ts ≠ .plus :: us) : (signedOf (m + 1)).run ts = (operandOf m).run ts := by
  cases ts with
  | nil => rfl
  | cons t us =>
    cases t with
    | minus => exact absurd rfl (hminus us)
    | plus => exact absurd rfl (hplus us)
    | _ => rfl

end Readers

/-! ### Derivations are read -/

/-- The reader of a phrase, with so many levels left. -/
def Phrase.reader (m : Nat) : Phrase → Reader Expr
  | .sum => sumOf (signedOf m)
  | .product => chainOf multiplicative? (signedOf m)
  | .signed => signedOf m
  | .operand => operandOf m
  | .atom => atomOf (sumOf (signedOf m))

/-- Whether a phrase may be over in front of these tokens.  Sums and products are looked at as the
beginnings of longer ones, so that an operator of their own may follow. -/
def Phrase.Stops (rest : List Token) : Phrase → Prop
  | .sum => ∀ t us, rest = t :: us → t ≠ .percent ∧ multiplicative? t = none
  | .product | .signed | .operand => ∀ us, rest ≠ .percent :: us
  | .atom => True

/-- How reading goes on behind a phrase: with what else belongs to a sum or a product. -/
def Phrase.goOn (m : Nat) (e : Expr) (rest : List Token) :
    Phrase → Except SyntaxFault (Expr × List Token)
  | .sum => leaving (chain additive? (chainOf multiplicative? (signedOf m)) e rest)
  | .product => leaving (chain multiplicative? (signedOf m) e rest)
  | .signed | .operand | .atom => .ok (e, rest)

/-- A derivation that is read: its phrase is found, whatever follows it, if there are enough
levels. -/
def IsRead (p : Phrase) (ts : List Token) (e : Expr) (n : Nat) : Prop :=
  ∀ (m : Nat) (rest : List Token), p.Stops rest →
    (p.reader m).run (ts ++ rest) = within n m (p.goOn m e rest)

variable {ts us vs rest : List Token} {t : Token} {e a b c : Expr} {n m k : Nat} {p : Phrase}

/-- The tokens that stand behind a sum in parentheses end it. -/
theorem IsRead.run_sum (h : IsRead .sum ts e n) (m : Nat) {t : Token} (rest : List Token)
    (ht : t = .rparen ∨ t = .comma) :
    (sumOf (signedOf m)).run (ts ++ t :: rest) = within n m (.ok (e, t :: rest)) := by
  have hstops : Phrase.sum.Stops (t :: rest) := by
    intro u us hu
    cases hu
    rcases ht with rfl | rfl <;> exact ⟨by simp, rfl⟩
  have hnone : additive? t = none := by
    rcases ht with rfl | rfl <;> rfl
  rw [show sumOf (signedOf m) = Phrase.sum.reader m from rfl, h m (t :: rest) hstops]
  simp only [Phrase.goOn, leaving_chain_of_none e hnone]

/-- Behind the last argument there are no more. -/
theorem leaving_moreArguments_rparen (r : Reader Expr) (rest : List Token) :
    leaving (moreArguments r (.rparen :: rest)) = .ok ([], .rparen :: rest) :=
  leaving_moreArguments_of_ne (by simp)

/-- An argument behind a comma, and those behind it. -/
theorem IsRead.leaving_moreArguments (h : IsRead .sum us b k) (m : Nat) (rest : List Token)
    (ht : t = .rparen ∨ t = .comma) :
    leaving (moreArguments (sumOf (signedOf m)) (.comma :: (us ++ t :: rest))) =
      within k m ((leaving (moreArguments (sumOf (signedOf m)) (t :: rest))).bind fun y =>
        .ok (b :: y.1, y.2)) := by
  rw [leaving_moreArguments_comma, h.run_sum m rest ht, bind_within, bind_ok]

/-- The first argument of a call, those behind it, and the parenthesis that closes the call. -/
theorem IsRead.run_arguments (h : IsRead .sum ts a n)
    (hstart : ∀ rest us, ts ++ rest ≠ .rparen :: us) (m : Nat) (rest : List Token)
    (ht : t = .rparen ∨ t = .comma) :
    (arguments (sumOf (signedOf m))).run (ts ++ t :: rest) =
      within n m ((leaving (moreArguments (sumOf (signedOf m)) (t :: rest))).bind fun y =>
        ((expect .rparen).run y.2).bind fun z => .ok (a :: y.1, z.2)) := by
  rw [run_arguments_of_ne (hstart _), h.run_sum m rest ht, bind_within, bind_ok]

namespace IsRead

theorem parens (h : IsRead .sum ts e n) : IsRead .atom (.lparen :: ts ++ [.rparen]) e n := by
  intro m rest _
  simp only [Phrase.reader, Phrase.goOn, List.cons_append, List.append_assoc, List.nil_append,
    run_atomOf_lparen, h.run_sum m rest (Or.inl rfl), bind_within, bind_ok, run_expect]

/-- A call whose arguments are read, and make the call of the function. -/
theorem call {f : Function} {args : List Expr} (hcall : call? f args = some e)
    (hread : ∀ m rest, (arguments (sumOf (signedOf m))).run (ts ++ .rparen :: rest) =
      within n m (.ok (args, rest))) :
    IsRead .atom (.ident f.name :: .lparen :: ts ++ [.rparen]) e n := by
  intro m rest _
  have hname : Function.ofName? f.name = some f := Function.ofName?_eq_some_iff.2 rfl
  simp only [Phrase.reader, Phrase.goOn, List.cons_append, List.append_assoc, List.nil_append,
    run_atomOf_ident, run_callOf hname, run_expect, bind_ok, hread, bind_within, callFrom, hcall]

theorem operand (h : IsRead .atom ts e n) (k : Nat) :
    IsRead .operand (ts ++ List.replicate k .percent) (Expr.percent^[k] e) (max n k) := by
  intro m rest hrest
  have hatom := h m (List.replicate k .percent ++ rest) trivial
  simp only [Phrase.reader, Phrase.goOn] at hatom ⊢
  rw [List.append_assoc, run_operandOf, hatom, bind_within, bind_ok, leaving_percents k m e hrest,
    within_within]

theorem minus (h : IsRead .signed ts e n) : IsRead .signed (.minus :: ts) (.negate e) (n + 1) := by
  intro m rest hrest
  cases m with
  | zero => exact run_signedOf_zero
  | succ m =>
    have hsigned := h m rest hrest
    simp only [Phrase.reader, Phrase.goOn] at hsigned ⊢
    rw [List.cons_append, run_signedOf_minus, hsigned, bind_within, bind_ok, within_succ_succ]

theorem plus (h : IsRead .signed ts e n) : IsRead .signed (.plus :: ts) e (n + 1) := by
  intro m rest hrest
  cases m with
  | zero => exact run_signedOf_zero
  | succ m =>
    have hsigned := h m rest hrest
    simp only [Phrase.reader, Phrase.goOn] at hsigned ⊢
    rw [List.cons_append, run_signedOf_plus, hsigned, within_succ_succ]

theorem unsigned (h : IsRead .operand ts e n) (hstart : ∀ rest us, ts ++ rest ≠ .minus :: us)
    (hstart' : ∀ rest us, ts ++ rest ≠ .plus :: us) : IsRead .signed ts e (n + 1) := by
  intro m rest hrest
  cases m with
  | zero => exact run_signedOf_zero
  | succ m =>
    have hoperand := h m rest hrest
    simp only [Phrase.reader, Phrase.goOn] at hoperand ⊢
    rw [run_signedOf_of_ne m (hstart rest) (hstart' rest), hoperand, within_succ_succ]

theorem factor (h : IsRead .signed ts e n) : IsRead .product ts e n := by
  intro m rest hrest
  have hsigned := h m rest hrest
  simp only [Phrase.reader, Phrase.goOn] at hsigned ⊢
  rw [run_chainOf, hsigned, bind_within, bind_ok]

theorem times {op : Arith} (hop : multiplicative? t = some op) (hl : IsRead .product ts a n)
    (hr : IsRead .signed us b k) :
    IsRead .product (ts ++ t :: us) (.arith op a b) (max n k) := by
  intro m rest hrest
  have ht : Phrase.product.Stops (t :: (us ++ rest)) := by
    intro vs hvs
    cases hvs
    simp [multiplicative?] at hop
  have hleft := hl m (t :: (us ++ rest)) ht
  have hright := hr m rest hrest
  simp only [Phrase.reader, Phrase.goOn] at hleft hright ⊢
  rw [List.append_assoc, List.cons_append, hleft, leaving_chain_of_some a hop, hright, bind_within,
    bind_ok, within_within]

/-- A product is over where a sum may go on. -/
theorem run_product (h : IsRead .product ts e n) (m : Nat) (hrest : Phrase.sum.Stops rest) :
    (chainOf multiplicative? (signedOf m)).run (ts ++ rest) = within n m (.ok (e, rest)) := by
  have hend : leaving (chain multiplicative? (signedOf m) e rest) = .ok (e, rest) := by
    cases rest with
    | nil => exact leaving_chain_nil e
    | cons t us => exact leaving_chain_of_none e (hrest t us rfl).2
  rw [← hend]
  exact h m rest fun us hus => (hrest _ _ hus).1 rfl

theorem term (h : IsRead .product ts e n) : IsRead .sum ts e n := by
  intro m rest hrest
  simp only [Phrase.reader, Phrase.goOn]
  rw [run_sumOf, run_chainOf, h.run_product m hrest, bind_within, bind_ok]

theorem add {op : Arith} (hop : additive? t = some op) (hl : IsRead .sum ts a n)
    (hr : IsRead .product us b k) : IsRead .sum (ts ++ t :: us) (.arith op a b) (max n k) := by
  intro m rest hrest
  have ht : Phrase.sum.Stops (t :: (us ++ rest)) := by
    intro u vs hvs
    cases hvs
    cases t <;> simp [additive?] at hop <;> exact ⟨by simp, rfl⟩
  have hleft := hl m (t :: (us ++ rest)) ht
  simp only [Phrase.reader, Phrase.goOn] at hleft ⊢
  rw [List.append_assoc, List.cons_append, hleft, leaving_chain_of_some a hop,
    hr.run_product m hrest, bind_within, bind_ok, within_within]

end IsRead

/-- What arguments do not start with. -/
theorem Derives.ne_rparen (h : Derives p ts e n) (rest us : List Token) :
    ts ++ rest ≠ .rparen :: us := by
  obtain ⟨t, vs, rfl, ht, -⟩ := h.starts
  intro heq
  cases heq
  simp [Token.starts] at ht

/-- **A derivation is read**, whatever follows it, if there are enough levels. -/
theorem Derives.isRead (h : Derives p ts e n) : IsRead p ts e n := by
  induction h with
  | number v => exact fun m rest _ => run_atomOf_number v
  | var x => exact fun m rest _ => run_atomOf_var x
  | parens _ ih => exact ih.parens
  | @unary f ts a n h ih =>
    refine .call (show call? (.unary f) [a] = some _ from rfl) fun m rest => ?_
    rw [ih.run_arguments h.ne_rparen m rest (Or.inl rfl), leaving_moreArguments_rparen]
    simp only [bind_ok, run_expect]
  | @binary f ts us a b n k ha _ iha ihb =>
    have hread (m : Nat) (rest : List Token) :
        (arguments (sumOf (signedOf m))).run ((ts ++ .comma :: us) ++ .rparen :: rest) =
          within (max n k) m (.ok ([a, b], rest)) := by
      rw [List.append_assoc, List.cons_append,
        iha.run_arguments ha.ne_rparen m (us ++ .rparen :: rest) (Or.inr rfl),
        ihb.leaving_moreArguments m rest (Or.inl rfl), leaving_moreArguments_rparen]
      simp only [bind_ok, bind_within, within_within, run_expect]
    exact .call (show call? (.binary f) [a, b] = some _ from rfl) hread
  | @clamp ts us vs a b c n k l ha _ _ iha ihb ihc =>
    have hread (m : Nat) (rest : List Token) :
        (arguments (sumOf (signedOf m))).run
            ((ts ++ .comma :: us ++ .comma :: vs) ++ .rparen :: rest) =
          within (max n (max k l)) m (.ok ([a, b, c], rest)) := by
      rw [List.append_assoc, List.append_assoc, List.cons_append, List.cons_append,
        iha.run_arguments ha.ne_rparen m (us ++ .comma :: (vs ++ .rparen :: rest)) (Or.inr rfl),
        ihb.leaving_moreArguments m (vs ++ .rparen :: rest) (Or.inr rfl),
        ihc.leaving_moreArguments m rest (Or.inl rfl), leaving_moreArguments_rparen]
      simp only [bind_ok, bind_within, within_within, run_expect]
    exact .call (show call? .clamp [a, b, c] = some _ from rfl) hread
  | operand _ k ih => exact ih.operand k
  | minus _ ih => exact ih.minus
  | plus _ ih => exact ih.plus
  | unsigned h ih =>
    obtain ⟨t, us, rfl, -, hsign⟩ := h.starts
    have ht := hsign (Or.inr rfl)
    refine ih.unsigned ?_ ?_ <;>
    · intro rest vs heq
      cases heq
      simp [Token.isSign] at ht
  | factor _ ih => exact ih.factor
  | times hop _ _ ihl ihr => exact .times hop ihl ihr
  | term _ ih => exact ih.term
  | add hop _ _ ihl ihr => exact .add hop ihl ihr

/-! ### What is read has a derivation -/

/-- Whatever the reader reads is a phrase that needs no more than `m` levels. -/
def Finds (p : Phrase) (m : Nat) (r : Reader Expr) : Prop :=
  ∀ ⦃ts : List Token⦄ ⦃e : Expr⦄ ⦃rest : List Token⦄, r.run ts = .ok (e, rest) →
    ∃ us n, ts = us ++ rest ∧ Derives p us e n ∧ n ≤ m

section Finds

variable {q : Phrase} {operator? : Token → Option Arith} {r : Reader Expr}

/-- A chain of operands is a phrase, if what is in front of it is one and an operator and an operand
make it longer. -/
theorem Finds.chain (hr : Finds q m r)
    (hstep : ∀ {ts us : List Token} {t : Token} {op : Arith} {a b : Expr} {n k : Nat},
      operator? t = some op → Derives p ts a n → Derives q us b k →
        Derives p (ts ++ t :: us) (.arith op a b) (max n k))
    (hts : leaving (Expr.chain operator? r a ts) = .ok (e, rest)) (hus : Derives p us a n)
    (hn : n ≤ m) : ∃ vs k, ts = vs ++ rest ∧ Derives p (us ++ vs) e k ∧ k ≤ m := by
  -- the tokens that are left get fewer with each operand
  induction hlength : ts.length using Nat.strongRecOn generalizing ts us a n with
  | ind l ih =>
    subst hlength
    cases ts with
    | nil =>
      rw [leaving_chain_nil] at hts
      cases hts
      exact ⟨[], n, rfl, by rwa [List.append_nil], hn⟩
    | cons t ts =>
      cases hop : operator? t with
      | none =>
        rw [leaving_chain_of_none a hop] at hts
        cases hts
        exact ⟨[], n, rfl, by rwa [List.append_nil], hn⟩
      | some op =>
        rw [leaving_chain_of_some a hop] at hts
        obtain ⟨⟨b, left⟩, hb, hleft⟩ := bind_eq_ok_iff.1 hts
        obtain ⟨vs, k, rfl, hvs, hk⟩ := hr hb
        have hlt : left.length < (t :: (vs ++ left)).length := by
          rw [List.length_cons, List.length_append]
          omega
        obtain ⟨ws, l, rfl, hws, hl⟩ :=
          ih _ hlt hleft (hstep hop hus hvs) (Nat.max_le.2 ⟨hn, hk⟩) rfl
        exact ⟨t :: (vs ++ ws), l, by simp only [List.cons_append, List.append_assoc],
          by simpa only [List.cons_append, List.append_assoc] using hws, hl⟩

theorem Finds.chainOf (hr : Finds q m r)
    (hone : ∀ {ts : List Token} {a : Expr} {n : Nat}, Derives q ts a n → Derives p ts a n)
    (hstep : ∀ {ts us : List Token} {t : Token} {op : Arith} {a b : Expr} {n k : Nat},
      operator? t = some op → Derives p ts a n → Derives q us b k →
        Derives p (ts ++ t :: us) (.arith op a b) (max n k)) :
    Finds p m (Expr.chainOf operator? r) := by
  intro ts e rest h
  rw [run_chainOf] at h
  obtain ⟨⟨a, left⟩, ha, hleft⟩ := bind_eq_ok_iff.1 h
  obtain ⟨us, n, rfl, hus, hn⟩ := hr ha
  obtain ⟨vs, k, rfl, hvs, hk⟩ := hr.chain hstep hleft (hone hus) hn
  exact ⟨us ++ vs, k, (List.append_assoc ..).symm, hvs, hk⟩

theorem Finds.sumOf (hr : Finds .signed m r) : Finds .sum m (Expr.sumOf r) := by
  intro ts e rest h
  rw [run_sumOf] at h
  exact (hr.chainOf .factor .times).chainOf .term .add h

/-- Arguments that have been read: sums with commas between them, up to a parenthesis. -/
inductive DerivesAll (m : Nat) : List Token → List Expr → Prop where
  | one {ts : List Token} {a : Expr} {n : Nat} (h : Derives .sum ts a n) (hn : n ≤ m) :
      DerivesAll m ts [a]
  | more {ts us : List Token} {a : Expr} {args : List Expr} {n : Nat} (h : Derives .sum ts a n)
      (hn : n ≤ m) (hargs : DerivesAll m us args) : DerivesAll m (ts ++ .comma :: us) (a :: args)

theorem Finds.moreArguments (hr : Finds .sum m r) {args : List Expr}
    (hts : leaving (Expr.moreArguments r ts) = .ok (args, rest)) :
    (args = [] ∧ ts = rest) ∨ ∃ us, ts = .comma :: us ++ rest ∧ DerivesAll m us args := by
  induction hlength : ts.length using Nat.strongRecOn generalizing ts args with
  | ind l ih =>
    subst hlength
    by_cases hcomma : ∃ us, ts = .comma :: us
    · obtain ⟨us, rfl⟩ := hcomma
      rw [leaving_moreArguments_comma] at hts
      obtain ⟨⟨a, left⟩, ha, hleft⟩ := bind_eq_ok_iff.1 hts
      obtain ⟨⟨args', left'⟩, hargs', hleft'⟩ := bind_eq_ok_iff.1 hleft
      cases hleft'
      obtain ⟨vs, n, rfl, hvs, hn⟩ := hr ha
      have hlt : left.length < (Token.comma :: (vs ++ left)).length := by
        rw [List.length_cons, List.length_append]
        omega
      right
      rcases ih _ hlt hargs' rfl with ⟨rfl, rfl⟩ | ⟨ws, rfl, hws⟩
      · exact ⟨vs, rfl, .one hvs hn⟩
      · refine ⟨vs ++ .comma :: ws, ?_, .more hvs hn hws⟩
        simp only [List.cons_append, List.append_assoc]
    · rw [leaving_moreArguments_of_ne fun us hus => hcomma ⟨us, hus⟩] at hts
      cases hts
      exact Or.inl ⟨rfl, rfl⟩

theorem Finds.arguments (hr : Finds .sum m r) {args : List Expr}
    (hts : (Expr.arguments r).run ts = .ok (args, rest)) :
    args = [] ∨ ∃ us, ts = us ++ .rparen :: rest ∧ DerivesAll m us args := by
  by_cases hclose : ∃ us, ts = .rparen :: us
  · obtain ⟨us, rfl⟩ := hclose
    rw [run_arguments_rparen] at hts
    cases hts
    exact Or.inl rfl
  · rw [run_arguments_of_ne fun us hus => hclose ⟨us, hus⟩] at hts
    obtain ⟨⟨a, left⟩, ha, hleft⟩ := bind_eq_ok_iff.1 hts
    obtain ⟨⟨args', left'⟩, hargs', hleft'⟩ := bind_eq_ok_iff.1 hleft
    obtain ⟨⟨⟨⟩, left''⟩, hexpect, hleft''⟩ := bind_eq_ok_iff.1 hleft'
    cases hleft''
    obtain ⟨us, n, rfl, hus, hn⟩ := hr ha
    obtain rfl := eq_of_run_expect hexpect
    right
    rcases hr.moreArguments hargs' with ⟨rfl, rfl⟩ | ⟨vs, rfl, hvs⟩
    · exact ⟨us, rfl, .one hus hn⟩
    · exact ⟨us ++ .comma :: vs, by simp only [List.cons_append, List.append_assoc],
        .more hus hn hvs⟩

/-- A call of a function on arguments that have been read is an atom. -/
theorem derives_of_call? {f : Function} {args : List Expr} (hcall : call? f args = some e)
    (hargs : DerivesAll m us args) :
    ∃ n, Derives .atom (.ident f.name :: .lparen :: us ++ [.rparen]) e n ∧ n ≤ m := by
  unfold call? at hcall
  split at hcall
  case h_1 g a =>
    cases hcall
    cases hargs with
    | one ha hn => exact ⟨_, .unary g ha, hn⟩
    | more _ _ hnone => cases hnone
  case h_2 g a b =>
    cases hcall
    cases hargs with
    | more ha hn hargs =>
      cases hargs with
      | one hb hk => exact ⟨_, .binary g ha hb, Nat.max_le.2 ⟨hn, hk⟩⟩
      | more _ _ hnone => cases hnone
  case h_3 a b c =>
    cases hcall
    cases hargs with
    | more ha hn hargs =>
      cases hargs with
      | more hb hk hargs =>
        cases hargs with
        | one hc hl =>
          refine ⟨_, ?_, Nat.max_le.2 ⟨hn, Nat.max_le.2 ⟨hk, hl⟩⟩⟩
          have h := Derives.clamp ha hb hc
          simpa only [List.cons_append, List.append_assoc] using h
        | more _ _ hnone => cases hnone
  case h_4 => cases hcall

theorem Finds.callOf (hr : Finds .sum m r) {name : String}
    (h : (Expr.callOf r name).run ts = .ok (e, rest)) :
    ∃ us n, .ident name :: ts = us ++ rest ∧ Derives .atom us e n ∧ n ≤ m := by
  cases hf : Function.ofName? name with
  | none =>
    rw [run_callOf_of_none hf] at h
    cases h
  | some f =>
    rw [run_callOf hf] at h
    obtain ⟨⟨⟨⟩, opened⟩, hopen, h⟩ := bind_eq_ok_iff.1 h
    obtain ⟨⟨args, left⟩, hargs, hcall⟩ := bind_eq_ok_iff.1 h
    obtain rfl := eq_of_run_expect hopen
    obtain rfl := Function.ofName?_eq_some_iff.1 hf
    unfold callFrom at hcall
    split at hcall
    case h_1 => cases hcall
    case h_2 e' he =>
      cases hcall
      rcases hr.arguments hargs with rfl | ⟨us, rfl, hus⟩
      · cases f <;> cases he
      · obtain ⟨n, hn, hle⟩ := derives_of_call? he hus
        exact ⟨_, n, by simp only [List.cons_append, List.append_assoc, List.nil_append], hn, hle⟩

theorem Finds.atomOf (hr : Finds .sum m r) : Finds .atom m (Expr.atomOf r) := by
  intro ts e rest h
  match ts with
  | [] => simp [Reader.run, Expr.atomOf] at h
  | .number v :: ts =>
    rw [run_atomOf_number] at h
    cases h
    exact ⟨[.number v], 0, rfl, .number v, Nat.zero_le m⟩
  | .var x :: ts =>
    rw [run_atomOf_var] at h
    cases h
    exact ⟨[.var x], 0, rfl, .var x, Nat.zero_le m⟩
  | .lparen :: ts =>
    rw [run_atomOf_lparen] at h
    obtain ⟨⟨a, left⟩, ha, hleft⟩ := bind_eq_ok_iff.1 h
    obtain ⟨⟨⟨⟩, left'⟩, hexpect, hleft'⟩ := bind_eq_ok_iff.1 hleft
    cases hleft'
    obtain ⟨us, n, rfl, hus, hn⟩ := hr ha
    obtain rfl := eq_of_run_expect hexpect
    exact ⟨_, n, by simp only [List.cons_append, List.append_assoc, List.nil_append],
      .parens hus, hn⟩
  | .ident name :: ts =>
    rw [run_atomOf_ident] at h
    exact hr.callOf h
  | .plus :: _ | .minus :: _ | .star :: _ | .slash :: _ | .percent :: _ | .rparen :: _
  | .comma :: _ => simp [Reader.run, Expr.atomOf] at h

end Finds

/-- The percent signs that have been read, no more than there were levels. -/
theorem eq_of_leaving_percents (h : leaving (percents m a ts) = .ok (e, rest)) :
    ∃ k, ts = List.replicate k .percent ++ rest ∧ e = Expr.percent^[k] a ∧ k ≤ m := by
  induction m generalizing a ts with
  | zero =>
    by_cases hpercent : ∃ us, ts = .percent :: us
    · obtain ⟨us, rfl⟩ := hpercent
      cases h
    · rw [percents] at h
      · cases h
        exact ⟨0, rfl, rfl, Nat.le_refl 0⟩
      · exact fun us hus => hpercent ⟨us, hus⟩
  | succ m ih =>
    by_cases hpercent : ∃ us, ts = .percent :: us
    · obtain ⟨us, rfl⟩ := hpercent
      have hus : leaving (percents m (.percent a) us) = .ok (e, rest) := by
        rw [percents] at h
        cases hmore : percents m (.percent a) us with
        | error fault =>
          rw [hmore] at h
          cases h
        | ok y =>
          rw [hmore] at h
          exact h
      obtain ⟨k, rfl, rfl, hk⟩ := ih hus
      exact ⟨k + 1, rfl, rfl, Nat.succ_le_succ hk⟩
    · rw [percents] at h
      · cases h
        exact ⟨0, rfl, rfl, Nat.zero_le _⟩
      · exact fun us hus => hpercent ⟨us, hus⟩

theorem Finds.operandOf (hr : Finds .signed m (signedOf m)) :
    Finds .operand m (Expr.operandOf m) := by
  intro ts e rest h
  rw [run_operandOf] at h
  obtain ⟨⟨a, left⟩, ha, hleft⟩ := bind_eq_ok_iff.1 h
  obtain ⟨us, n, rfl, hus, hn⟩ := hr.sumOf.atomOf ha
  obtain ⟨k, rfl, rfl, hk⟩ := eq_of_leaving_percents hleft
  exact ⟨_, _, (List.append_assoc ..).symm, .operand hus k, Nat.max_le.2 ⟨hn, hk⟩⟩

/-- **What is read is a signed operand**, and so many levels were enough. -/
theorem finds_signedOf (m : Nat) : Finds .signed m (signedOf m) := by
  induction m with
  | zero =>
    intro ts e rest h
    rw [run_signedOf_zero] at h
    cases h
  | succ m ih =>
    intro ts e rest h
    by_cases hminus : ∃ us, ts = .minus :: us
    · obtain ⟨us, rfl⟩ := hminus
      rw [run_signedOf_minus] at h
      obtain ⟨⟨a, left⟩, ha, hleft⟩ := bind_eq_ok_iff.1 h
      cases hleft
      obtain ⟨vs, n, rfl, hvs, hn⟩ := ih ha
      exact ⟨.minus :: vs, n + 1, rfl, .minus hvs, Nat.succ_le_succ hn⟩
    · by_cases hplus : ∃ us, ts = .plus :: us
      · obtain ⟨us, rfl⟩ := hplus
        rw [run_signedOf_plus] at h
        obtain ⟨vs, n, rfl, hvs, hn⟩ := ih h
        exact ⟨.plus :: vs, n + 1, rfl, .plus hvs, Nat.succ_le_succ hn⟩
      · rw [run_signedOf_of_ne m (fun us hus => hminus ⟨us, hus⟩)
          fun us hus => hplus ⟨us, hus⟩] at h
        obtain ⟨us, n, rfl, hus, hn⟩ := ih.operandOf h
        exact ⟨us, n + 1, rfl, .unsigned hus, Nat.succ_le_succ hn⟩

/-! ### Whole texts -/

/-- All tokens have to be read. -/
theorem parseTokens_cons (t : Token) (ts : List Token) :
    parseTokens (t :: ts) = ((sumOf (signedOf maxLevels)).run (t :: ts)).bind fun x =>
      match x.2 with
      | [] => .ok x.1
      | u :: _ => .error (.trailing u) := by
  unfold parseTokens Reader.run
  rw [List.isEmpty_cons]
  cases sumOf (signedOf maxLevels) (t :: ts) with
  | error fault => rfl
  | ok r => rfl

/-- **The tokens of a sum are parsed**, unless it is too deep. -/
theorem Derives.parseTokens_eq (h : Derives .sum ts e n) :
    parseTokens ts = within n maxLevels (.ok e) := by
  have hread := h.isRead maxLevels [] (by simp [Phrase.Stops])
  simp only [Phrase.reader, Phrase.goOn, List.append_nil, leaving_chain_nil] at hread
  obtain ⟨t, us, rfl, -, -⟩ := h.starts
  rw [parseTokens_cons, hread, bind_within, bind_ok]

/-- **What is parsed is the tokens of a sum** that is not too deep. -/
theorem parseTokens_eq_ok_iff :
    parseTokens ts = .ok e ↔ ∃ n, Derives .sum ts e n ∧ n ≤ maxLevels := by
  constructor
  · intro h
    cases ts with
    | nil => cases h
    | cons t ts =>
      rw [parseTokens_cons] at h
      obtain ⟨⟨a, rest⟩, hrun, hrest⟩ := bind_eq_ok_iff.1 h
      obtain ⟨us, n, hus, hsum, hn⟩ := (finds_signedOf maxLevels).sumOf hrun
      cases rest with
      | nil =>
        cases hrest
        rw [hus, List.append_nil]
        exact ⟨n, hsum, hn⟩
      | cons u rest => cases hrest
  · rintro ⟨n, h, hn⟩
    rw [h.parseTokens_eq, within, if_pos hn]

/-- **The tokens of a sum tell its tree**, and how many levels are open at once in it. -/
theorem Derives.unique {e' : Expr} {n' : Nat} (h : Derives .sum ts e n)
    (h' : Derives .sum ts e' n') : e = e' ∧ n = n' := by
  -- both are what the reader reads with as many levels as there may be
  have hrun (m : Nat) : within n m (.ok (e, [])) =
      (within n' m (.ok (e', [])) : Except SyntaxFault (Expr × List Token)) := by
    have hread := h.isRead m [] (by simp [Phrase.Stops])
    have hread' := h'.isRead m [] (by simp [Phrase.Stops])
    simp only [Phrase.reader, Phrase.goOn, leaving_chain_nil] at hread hread'
    rw [← hread, hread']
  have hle {k l : Nat} {b c : Expr} (hk : within k k (.ok (b, [])) =
      (within l k (.ok (c, [])) : Except SyntaxFault (Expr × List Token))) : b = c ∧ l ≤ k := by
    unfold within at hk
    rw [if_pos (Nat.le_refl k)] at hk
    split at hk
    · cases hk
      exact ⟨rfl, ‹_›⟩
    · cases hk
  obtain ⟨he, hn⟩ := hle (hrun n)
  exact ⟨he, Nat.le_antisymm (hle (hrun n').symm).2 hn⟩

end ShaderEffect.Expr

namespace ShaderEffect

namespace Expression

/-- A text is parsed if its tokens are, and it is kept. -/
theorem parse_eq_ok_iff {source : String} {x : Expression} :
    parse source = .ok x ↔ x.source = source ∧ ∃ ts,
      Expr.tokenize source.toList = .ok ts ∧ Expr.parseTokens ts = .ok x.tree := by
  unfold parse treeOf
  cases Expr.tokenize source.toList with
  | error fault => simp
  | ok ts =>
    cases htree : Expr.parseTokens ts with
    | error fault => simp [htree]
    | ok e =>
      obtain ⟨text, tree⟩ := x
      simp [htree, eq_comm]

/-- **What the grammar says about a text.** -/
structure Parsed (source : String) : Prop where
  /-- A text is an expression if its tokens are those of a sum that is not too deep, and its tree is
  that of the sum. -/
  accepts : ∀ x, parse source = .ok x ↔ x.source = source ∧ ∃ ts n,
    Expr.tokenize source.toList = .ok ts ∧ Expr.Derives .sum ts x.tree n ∧ n ≤ Expr.maxLevels
  /-- Tokens are those of one sum only. -/
  unique : ∀ ts e e' n n', Expr.Derives .sum ts e n → Expr.Derives .sum ts e' n' →
    e = e' ∧ n = n'
  /-- A sum that is too deep is refused for that reason. -/
  tooDeep : ∀ ts e n, Expr.tokenize source.toList = .ok ts → Expr.Derives .sum ts e n →
    Expr.maxLevels < n → parse source = .error (.grammar .tooDeep)
  /-- Any other text has a fault, and then no extent can be evaluated. -/
  rejects : (∀ x, parse source ≠ .ok x) → ∃ fault, parse source = .error fault ∧
    ∀ env axis, Target.pixels source env axis = .error (.eval source fault)
  /-- The functions that are called have as many arguments as they take. -/
  calls : ∀ x, parse source = .ok x → ∀ f args, (f, args) ∈ x.tree.calls →
    args.length = f.arity

/-- **Texts are parsed as the grammar says.** -/
theorem parsed (source : String) : Parsed source where
  accepts x := by
    rw [parse_eq_ok_iff]
    simp only [Expr.parseTokens_eq_ok_iff, exists_and_left]
  unique ts e e' n n' h h' := h.unique h'
  tooDeep ts e n htokens h hn := by
    have htree : Expr.parseTokens ts = .error .tooDeep := by
      rw [h.parseTokens_eq, Expr.within, if_neg (Nat.not_le.2 hn)]
    rw [parse, treeOf, htokens]
    dsimp only
    rw [htree]
  rejects h := by
    cases hparse : parse source with
    | ok x => exact absurd hparse (h x)
    | error fault =>
      refine ⟨fault, rfl, fun env axis => ?_⟩
      rw [Target.pixels, hparse]
  calls x _ f args hcall := Expr.call?_isSome.1 (Expr.isSome_call?_of_mem_calls hcall)

end Expression

end ShaderEffect
