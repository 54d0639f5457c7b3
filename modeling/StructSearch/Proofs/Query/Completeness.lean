import Mathlib.Tactic
import StructSearch.Proofs.Query.Steps
import StructSearch.Proofs.Query.TermCompleteness

/-!
# What is derived is read

Tokens that a derivation writes are read as the pattern of the derivation, if the looks ahead of
the readers agree with it: at each term on whether a template list opens, and at each tilde on
whether it binds a type. The rules that lean to the left are read by loops, so a derivation is
not read by itself but with the loop that goes on after it.

Results:
* `Derivation.isRead`: the reader of a level reads a derivation and goes on with what follows.
* `ofTokens_complete`: tokens that a derivation writes are read as its pattern.
-/

namespace StructSearch.Query.Grammar

/-! ## Readings with enough steps -/

variable [Regex.Engine]

/-- With enough steps, a reader gives a result. -/
def Gives (reader : ℕ → Except Stop (Read Pattern)) (result : Read Pattern) : Prop :=
  ∃ bound, ∀ steps ≥ bound, reader steps = .ok result

namespace Gives

variable {reader first second : ℕ → Except Stop (Read Pattern)} {a b result : Read Pattern}

/-- A reader that takes one step gives what it gives in that step. -/
theorem of_succ (h : ∀ steps, reader (steps + 1) = .ok result) : Gives reader result := by
  refine ⟨1, fun steps hsteps => ?_⟩
  obtain ⟨steps, rfl⟩ := Nat.exists_eq_add_of_le' hsteps
  exact h steps

/-- A reader that goes on with another one gives what that one gives. -/
theorem of_next (hfirst : Gives first a)
    (h : ∀ steps, first steps = .ok a → reader (steps + 1) = .ok result) : Gives reader result := by
  obtain ⟨bound, hbound⟩ := hfirst
  refine ⟨bound + 1, fun steps hsteps => ?_⟩
  obtain ⟨steps, rfl⟩ := Nat.exists_eq_add_of_le' (Nat.le_of_add_left_le hsteps)
  exact h steps (hbound steps (by omega))

/-- A reader that goes on with two others gives what they give together. -/
theorem of_both (hfirst : Gives first a) (hsecond : Gives second b)
    (h : ∀ steps, first steps = .ok a → second steps = .ok b → reader (steps + 1) = .ok result) :
    Gives reader result := by
  obtain ⟨bound, hbound⟩ := hfirst
  obtain ⟨other, hother⟩ := hsecond
  refine ⟨bound + other + 1, fun steps hsteps => ?_⟩
  obtain ⟨steps, rfl⟩ := Nat.exists_eq_add_of_le' (Nat.le_of_add_left_le hsteps)
  exact h steps (hbound steps (by omega)) (hother steps (by omega))

end Gives

/-! ## Loops -/

omit [Regex.Engine] in
theorem operator?_complete {loose : LooseOperator} {taken rest : List Token}
    (hyield : terminals taken = loose.yield) :
    operator? (taken ++ rest) = .ok (some (loose.operator, rest)) := by
  cases loose with
  | or | child | parent =>
    obtain ⟨token, after, rfl, hkind, hafter⟩ := (terminals_eq_mark_cons_iff (by decide)).1 hyield
    obtain rfl := terminals_eq_nil_iff.1 hafter
    simp [operator?, hkind, LooseOperator.operator]
  | notChild | notParent =>
    obtain ⟨token, after, rfl, hkind, hafter⟩ := (terminals_eq_mark_cons_iff (by decide)).1 hyield
    obtain ⟨angle, after, rfl, hangle, hafter⟩ := (terminals_eq_mark_cons_iff (by decide)).1 hafter
    obtain rfl := terminals_eq_nil_iff.1 hafter
    simp [operator?, hkind, startsWith, hangle, LooseOperator.operator]

section Loops

variable {pattern other : Pattern} {tokens between rest : List Token} {result : Read Pattern}
  {token word closing : Token}

theorem gives_operand (hfirst : Gives (primary · tokens) (pattern, between))
    (htail : Gives (operandTail · pattern between) result) : Gives (operand · tokens) result := by
  refine hfirst.of_both htail fun steps hread hgoes => ?_
  simp [operand, hread, hgoes, bind, Except.bind]

theorem gives_name {field : Field} (hkind : token.kind = .equal) (hdata : word.kind = .data)
    (hfield : field? word.text = some field) (hnamed : named? pattern field = some other)
    (htail : Gives (operandTail · other rest) result) :
    Gives (operandTail · pattern (token :: word :: rest)) result := by
  refine htail.of_next fun steps hgoes => ?_
  have hbind : bindName pattern word token.start = .ok other :=
    bindName_eq_ok_iff.2 ⟨field, hfield, hnamed⟩
  simp [operandTail, hkind, expect_complete hdata, Stop.lift, hbind, hgoes, bind, Except.bind]

theorem gives_type {field : Field} (hkind : token.kind = .tilde) (hdata : word.kind = .data)
    (hends : endsBinding rest = true) (hfield : field? word.text = some field)
    (htyped : bindType? pattern field = some other)
    (htail : Gives (operandTail · other rest) result) :
    Gives (operandTail · pattern (token :: word :: rest)) result := by
  refine htail.of_next fun steps hgoes => ?_
  have hbinding : typeBinding? pattern (word :: rest) = some (word, rest) := by
    refine typeBinding?_eq_some_iff.2 ⟨rfl, ?_, hdata, hends⟩
    rw [← isSome_bindType? field, htyped, Option.isSome_some]
  simp [operandTail, hkind, hbinding, fieldOf_eq_ok_iff.2 hfield, Stop.lift, htyped, hgoes, bind,
    Except.bind]

theorem gives_emptyScope (hkind : token.kind = .lcurly) (hclosing : closing.kind = .rcurly)
    (htail : Gives (operandTail · pattern rest) result) :
    Gives (operandTail · pattern (token :: closing :: rest)) result := by
  refine htail.of_next fun steps hgoes => ?_
  simp [operandTail, hkind, startsWith, hclosing, hgoes]

theorem gives_scope (hkind : token.kind = .lcurly) (hstart : startsWith .rcurly tokens = false)
    (hinner : Gives (expression · tokens) (other, closing :: rest))
    (hclosing : closing.kind = .rcurly)
    (htail : Gives (operandTail · (pattern.constrain other) rest) result) :
    Gives (operandTail · pattern (token :: tokens)) result := by
  refine hinner.of_both htail fun steps hread hgoes => ?_
  simp [operandTail, hkind, hstart, hread, expect_complete hclosing, Stop.lift, hgoes, bind,
    Except.bind]

theorem gives_group (hkind : token.kind = .lparen)
    (hinner : Gives (expression · tokens) (pattern, closing :: rest))
    (hclosing : closing.kind = .rparen) :
    Gives (primary · (token :: tokens)) (pattern, rest) := by
  refine hinner.of_next fun steps hread => ?_
  simp [primary, startsWith, hkind, hread, expect_complete hclosing, Stop.lift, bind, Except.bind]

theorem gives_term (hstart : startsWith .lparen tokens = false)
    (hread : Query.term tokens = .ok (pattern, rest)) :
    Gives (primary · tokens) (pattern, rest) := by
  refine .of_succ fun steps => ?_
  simp [primary, hstart, hread, Stop.lift]

theorem gives_conjunction (hfirst : Gives (operand · tokens) (pattern, between))
    (htail : Gives (conjunctionTail · pattern between) result) :
    Gives (conjunction · tokens) result := by
  refine hfirst.of_both htail fun steps hread hgoes => ?_
  simp [conjunction, hread, hgoes, bind, Except.bind]

theorem gives_both (hkind : token.kind = .and) (hright : Gives (operand · tokens) (other, rest))
    (htail : Gives (conjunctionTail · (.combine .and pattern other) rest) result) :
    Gives (conjunctionTail · pattern (token :: tokens)) result := by
  refine hright.of_both htail fun steps hread hgoes => ?_
  simp [conjunctionTail, startsWith, hkind, hread, hgoes, bind, Except.bind]

theorem gives_constraint (hkind : token.kind = .tilde)
    (hright : Gives (operand · tokens) (other, rest))
    (htail : Gives (conjunctionTail · (pattern.constrain other) rest) result) :
    Gives (conjunctionTail · pattern (token :: tokens)) result := by
  refine hright.of_both htail fun steps hread hgoes => ?_
  simp [conjunctionTail, startsWith, hkind, hread, hgoes, bind, Except.bind]

theorem gives_expression (hfirst : Gives (conjunction · tokens) (pattern, between))
    (htail : Gives (expressionTail · pattern between) result) :
    Gives (expression · tokens) result := by
  refine hfirst.of_both htail fun steps hread hgoes => ?_
  simp [expression, hread, hgoes, bind, Except.bind]

theorem gives_binary (loose : LooseOperator) {taken : List Token}
    (hyield : terminals taken = loose.yield)
    (hright : Gives (conjunction · tokens) (other, rest))
    (htail : Gives (expressionTail · (.combine loose.operator pattern other) rest) result) :
    Gives (expressionTail · pattern (taken ++ tokens)) result := by
  refine hright.of_both htail fun steps hread hgoes => ?_
  simp [expressionTail, operator?_complete hyield, Stop.lift, hread, hgoes, bind, Except.bind]

end Loops

/-! ## Where loops stop -/

/-- The kinds that can follow a part of each level, when the loop of the level is still going. -/
def Level.follow : Level → List Token.Kind
  | .expression => [.or, .rangle, .langle, .not, .rparen, .rcurly]
  | .conjunction => [.tilde, .and, .or, .rangle, .langle, .not, .rparen, .rcurly]
  | .operand | .primary => primaryFollow

theorem gives_operandTail_stop {pattern : Pattern} {rest : List Token}
    (hrest : Opens Level.conjunction.follow (terminals rest))
    (hbinding : startsWith .tilde rest = true → typeBinding? pattern rest.tail = none) :
    Gives (operandTail · pattern rest) (pattern, rest) := by
  refine .of_succ fun steps => ?_
  cases rest with
  | nil => rfl
  | cons token tail =>
    have hequal : startsWith .equal (token :: tail) = false := hrest.startsWith (by decide)
    have hcurly : startsWith .lcurly (token :: tail) = false := hrest.startsWith (by decide)
    simp only [startsWith, decide_eq_false_iff_not, decide_eq_true_eq, List.tail_cons]
      at hequal hcurly hbinding
    rw [operandTail]
    split
    · contradiction
    · next hkind => rw [hbinding hkind]
    · contradiction
    · rfl

theorem gives_conjunctionTail_stop {pattern : Pattern} {rest : List Token}
    (hrest : Opens Level.expression.follow (terminals rest)) :
    Gives (conjunctionTail · pattern rest) (pattern, rest) := by
  have hand : startsWith .and rest = false := hrest.startsWith (by decide)
  have htilde : startsWith .tilde rest = false := hrest.startsWith (by decide)
  exact .of_succ fun steps => by simp [conjunctionTail, hand, htilde]

theorem gives_expressionTail_stop {pattern : Pattern} {rest : List Token}
    (hrest : Opens [.rparen, .rcurly] (terminals rest)) :
    Gives (expressionTail · pattern rest) (pattern, rest) := by
  have hnone : operator? rest = .ok none := by
    cases rest with
    | nil => rfl
    | cons token tail =>
      have hkind : ∀ kind ∉ [Token.Kind.rparen, .rcurly], token.kind ≠ kind := by
        intro kind hmem
        simpa [startsWith] using hrest.startsWith hmem
      rw [operator?]
      split
      · next h => exact absurd h (hkind _ (by decide))
      · next h => exact absurd h (hkind _ (by decide))
      · next h => exact absurd h (hkind _ (by decide))
      · next h => exact absurd h (hkind _ (by decide))
      · rfl
  exact .of_succ fun steps => by simp [expressionTail, hnone, Stop.lift, bind, Except.bind]

/-! ## Derivations -/

/-- The reader of a level reads a pattern off the front of the tokens and goes on with its loop at
`rest`. -/
def Resumes : Level → List Token → Pattern → List Token → Prop
  | .primary, tokens, pattern, rest => Gives (primary · tokens) (pattern, rest)
  | .operand, tokens, pattern, rest =>
    ∀ result, Gives (operandTail · pattern rest) result → Gives (operand · tokens) result
  | .conjunction, tokens, pattern, rest =>
    ∀ result, Gives (conjunctionTail · pattern rest) result → Gives (conjunction · tokens) result
  | .expression, tokens, pattern, rest =>
    ∀ result, Gives (expressionTail · pattern rest) result → Gives (expression · tokens) result

/-- An operand that is not followed by a type binding ends where a conjunction can go on. -/
theorem gives_operand_of_resumes {operand : Derivation .operand} {pattern : Pattern}
    {tokens rest : List Token} (hpattern : operand.pattern? = some pattern)
    (hresumes : Resumes .operand tokens pattern rest)
    (hbinds : tildeBinds (.operand operand, terminals rest) = true)
    (hrest : Opens Level.conjunction.follow (terminals rest)) :
    Gives (Query.operand · tokens) (pattern, rest) := by
  refine hresumes _ (gives_operandTail_stop hrest fun htilde => ?_)
  obtain ⟨tilde, htokens, hkind⟩ := startsWith_eq_true htilde
  rw [Option.eq_none_iff_forall_ne_some]
  rintro ⟨word, after⟩ hbinding
  obtain ⟨htail, htyped, hdata, hends⟩ := typeBinding?_eq_some_iff.1 hbinding
  rw [htokens, htail, terminals_cons, terminals_cons, terminal_of_kind hkind (by decide),
    terminal_of_data hdata] at hbinds
  rw [endsBinding_eq] at hends
  simp [tildeBinds, Derivation.isTyped, hpattern, htyped, hends] at hbinds

/-- The looks ahead of the readers agree with a derivation that `rest` follows. -/
def Derivation.Fits {level : Level} (derivation : Derivation level) (rest : List Terminal) : Prop :=
  ∀ site ∈ derivation.sites rest, tildeBinds site = true ∧ templateFits site

/-- The reader of the level reads a derivation wherever it fits, and goes on with what follows. -/
def Derivation.IsRead {level : Level} (derivation : Derivation level) : Prop :=
  ∀ {taken rest : List Token} {front : List Terminal} {pattern : Pattern},
    terminals taken = derivation.yield → terminals rest = front →
    derivation.pattern? = some pattern → derivation.Fits front → Opens level.follow front →
    Resumes level (taken ++ rest) pattern rest

namespace Derivation

theorem isRead_ofTerm (term : Term) : (ofTerm term).IsRead := by
  rintro taken rest _ pattern hyield rfl hpattern hfits hrest
  have hstart : startsWith .lparen (taken ++ rest) = false := by
    obtain ⟨first, tail, hfirst, -, hne⟩ := term.exists_yield_cons
    rw [← Bool.not_eq_true, startsWith_iff (by decide), terminals_append, hyield]
    simp [yield, hfirst, hne]
  have hterm := (hfits _ (List.mem_singleton_self _)).2
  exact gives_term hstart (term_complete hyield hpattern hrest hterm)

/-- Between delimiters, an expression is read up to the closing one. -/
theorem IsRead.gives_closed {inner : Derivation .expression} (h : inner.IsRead)
    {taken rest : List Token} {front : List Terminal} {pattern : Pattern} {closing : Token}
    {kind : Token.Kind} (hclosing : closing.kind = kind) (hkind : kind ∈ [.rparen, .rcurly])
    (hyield : terminals taken = inner.yield) (hrest : terminals rest = front)
    (hpattern : inner.pattern? = some pattern) (hfits : inner.Fits (.mark kind :: front)) :
    Gives (expression · (taken ++ closing :: rest)) (pattern, closing :: rest) := by
  have hne : kind ≠ .data := by
    rintro rfl
    revert hkind
    decide
  have hterminals : terminals (closing :: rest) = .mark kind :: front := by
    rw [terminals_cons, terminal_of_kind hclosing hne, hrest]
  have hopens : Opens [.rparen, .rcurly] (.mark kind :: front) := .cons hkind
  exact h hyield hterminals hpattern hfits (hopens.mono (by decide)) _
    (gives_expressionTail_stop (hterminals ▸ hopens))

theorem isRead_group {inner : Derivation .expression} (h : inner.IsRead) :
    (group inner).IsRead := by
  intro taken rest front pattern hyield hfront hpattern hfits hrest
  obtain ⟨opening, later, rfl, hopening, hyield⟩ :=
    (terminals_eq_mark_cons_iff (by decide)).1 hyield
  obtain ⟨taken, last, rfl, htaken, hlast⟩ := terminals_eq_append_iff.1 hyield
  obtain ⟨closing, last, rfl, hclosing, hnone⟩ :=
    (terminals_eq_mark_cons_iff (by decide)).1 hlast
  obtain rfl := terminals_eq_nil_iff.1 hnone
  rw [List.cons_append, List.append_assoc]
  exact gives_group hopening
    (h.gives_closed hclosing (by decide) htaken hfront hpattern hfits) hclosing

theorem isRead_ofPrimary {primary : Derivation .primary} (h : primary.IsRead) :
    (ofPrimary primary).IsRead := by
  intro taken rest front pattern hyield hfront hpattern hfits hrest result htail
  exact gives_operand (h hyield hfront hpattern hfits hrest) htail

theorem isRead_name {left : Derivation .operand} (h : left.IsRead) (word : String) :
    (name left word).IsRead := by
  intro taken rest front pattern hyield hfront hpattern hfits hrest result htail
  obtain ⟨taken, last, rfl, htaken, hlast⟩ := terminals_eq_append_iff.1 hyield
  obtain ⟨equal, last, rfl, hequal, hlast⟩ := (terminals_eq_mark_cons_iff (by decide)).1 hlast
  obtain ⟨token, last, rfl, hdata, rfl, hnone⟩ := terminals_eq_word_cons_iff.1 hlast
  obtain rfl := terminals_eq_nil_iff.1 hnone
  simp only [pattern?, Option.bind_eq_bind, Option.bind_eq_some_iff] at hpattern
  obtain ⟨first, hfirst, field, hfield, hnamed⟩ := hpattern
  have hbetween : terminals (equal :: token :: rest) =
      .mark .equal :: .word token.text :: front := by
    rw [terminals_cons, terminals_cons, terminal_of_kind hequal (by decide),
      terminal_of_data hdata, hfront]
  rw [List.append_assoc]
  exact h htaken hbetween hfirst (fun site hsite => hfits site (List.mem_cons_of_mem _ hsite))
    (.cons (by decide)) _ (gives_name hequal hdata hfield hnamed htail)

theorem isRead_type {left : Derivation .operand} (h : left.IsRead) (word : String) :
    (type left word).IsRead := by
  intro taken rest front pattern hyield hfront hpattern hfits hrest result htail
  obtain ⟨taken, last, rfl, htaken, hlast⟩ := terminals_eq_append_iff.1 hyield
  obtain ⟨tilde, last, rfl, htilde, hlast⟩ := (terminals_eq_mark_cons_iff (by decide)).1 hlast
  obtain ⟨token, last, rfl, hdata, rfl, hnone⟩ := terminals_eq_word_cons_iff.1 hlast
  obtain rfl := terminals_eq_nil_iff.1 hnone
  simp only [pattern?, Option.bind_eq_bind, Option.bind_eq_some_iff] at hpattern
  obtain ⟨first, hfirst, field, hfield, htyped⟩ := hpattern
  have hbetween : terminals (tilde :: token :: rest) =
      .mark .tilde :: .word token.text :: front := by
    rw [terminals_cons, terminals_cons, terminal_of_kind htilde (by decide),
      terminal_of_data hdata, hfront]
  have hends : endsBinding rest = true := by
    rw [endsBinding_eq, hfront]
    have hbinds := (hfits (.type left token.text, front) List.mem_cons_self).1
    rw [tildeBinds, Bool.and_eq_true] at hbinds
    exact hbinds.2
  rw [List.append_assoc]
  exact h htaken hbetween hfirst (fun site hsite => hfits site (List.mem_cons_of_mem _ hsite))
    (.cons (by decide)) _ (gives_type htilde hdata hends hfield htyped htail)

theorem isRead_emptyScope {left : Derivation .operand} (h : left.IsRead) :
    (emptyScope left).IsRead := by
  intro taken rest front pattern hyield hfront hpattern hfits hrest result htail
  obtain ⟨taken, last, rfl, htaken, hlast⟩ := terminals_eq_append_iff.1 hyield
  obtain ⟨opening, last, rfl, hopening, hlast⟩ := (terminals_eq_mark_cons_iff (by decide)).1 hlast
  obtain ⟨closing, last, rfl, hclosing, hnone⟩ :=
    (terminals_eq_mark_cons_iff (by decide)).1 hlast
  obtain rfl := terminals_eq_nil_iff.1 hnone
  have hbetween : terminals (opening :: closing :: rest) =
      .mark .lcurly :: .mark .rcurly :: front := by
    rw [terminals_cons, terminals_cons, terminal_of_kind hopening (by decide),
      terminal_of_kind hclosing (by decide), hfront]
  rw [List.append_assoc]
  exact h htaken hbetween hpattern hfits (.cons (by decide)) _
    (gives_emptyScope hopening hclosing htail)

theorem isRead_scope {left : Derivation .operand} {inner : Derivation .expression}
    (h : left.IsRead) (hinner : inner.IsRead) : (scope left inner).IsRead := by
  intro taken rest front pattern hyield hfront hpattern hfits hrest result htail
  rw [yield, List.append_assoc, List.cons_append] at hyield
  obtain ⟨taken, last, rfl, htaken, hlast⟩ := terminals_eq_append_iff.1 hyield
  obtain ⟨opening, last, rfl, hopening, hlast⟩ := (terminals_eq_mark_cons_iff (by decide)).1 hlast
  obtain ⟨content, last, rfl, hcontent, hlast⟩ := terminals_eq_append_iff.1 hlast
  obtain ⟨closing, last, rfl, hclosing, hnone⟩ :=
    (terminals_eq_mark_cons_iff (by decide)).1 hlast
  obtain rfl := terminals_eq_nil_iff.1 hnone
  simp only [pattern?, Option.bind_eq_bind, Option.bind_eq_some_iff, Option.some.injEq] at hpattern
  obtain ⟨first, hfirst, other, hother, rfl⟩ := hpattern
  have hbetween : terminals (opening :: (content ++ closing :: rest)) =
      .mark .lcurly :: inner.yield ++ .mark .rcurly :: front := by
    rw [terminals_cons, terminals_append, terminals_cons, terminal_of_kind hopening (by decide),
      terminal_of_kind hclosing (by decide), hcontent, hfront]
    rfl
  have hstart : startsWith .rcurly (content ++ closing :: rest) = false := by
    obtain ⟨terminal, tail, hterminal, hoperand⟩ := inner.exists_yield_cons
    rw [← Bool.not_eq_true, startsWith_iff (by decide), terminals_append, hcontent, hterminal]
    simp only [List.cons_append, List.head?_cons, Option.some.injEq]
    rintro rfl
    cases hoperand
  have hgives := hinner.gives_closed hclosing (by decide) hcontent hfront hother
    fun site hsite => hfits site (List.mem_append_right _ hsite)
  rw [List.append_assoc, List.cons_append, List.append_assoc]
  exact h htaken hbetween hfirst (fun site hsite => hfits site (List.mem_append_left _ hsite))
    (.cons (by decide)) _ (gives_scope hopening hstart hgives hclosing htail)

theorem isRead_ofOperand {operand : Derivation .operand} (h : operand.IsRead) :
    (ofOperand operand).IsRead := by
  rintro taken rest _ pattern hyield rfl hpattern hfits hrest result htail
  have hfirst := h hyield rfl hpattern (fun site hsite => hfits site (List.mem_cons_of_mem _ hsite))
    (hrest.mono (by decide))
  have hbinds := (hfits (.operand operand, terminals rest) List.mem_cons_self).1
  exact gives_conjunction (gives_operand_of_resumes hpattern hfirst hbinds hrest) htail

/-- The operand on the right of `&` or `~`. -/
theorem IsRead.gives_right {right : Derivation .operand} (h : right.IsRead)
    {taken rest : List Token} {pattern : Pattern} (hyield : terminals taken = right.yield)
    (hpattern : right.pattern? = some pattern)
    (hfits : ∀ site ∈ (Site.operand right, terminals rest) :: right.sites (terminals rest),
      tildeBinds site = true ∧ templateFits site)
    (hrest : Opens Level.conjunction.follow (terminals rest)) :
    Gives (Query.operand · (taken ++ rest)) (pattern, rest) := by
  have hright := h hyield rfl hpattern
    (fun site hsite => hfits site (List.mem_cons_of_mem _ hsite)) (hrest.mono (by decide))
  exact gives_operand_of_resumes hpattern hright (hfits _ List.mem_cons_self).1 hrest

/-- A conjunction and the operand after `&` or `~`, if the loop goes on with what they make. -/
theorem IsRead.resumes_joined {left : Derivation .conjunction} {right : Derivation .operand}
    (h : left.IsRead) (hright : right.IsRead) {kind : Token.Kind} (hkind : kind ∈ [.and, .tilde])
    {taken rest : List Token} {first other whole : Pattern}
    (hyield : terminals taken = left.yield ++ .mark kind :: right.yield)
    (hfirst : left.pattern? = some first) (hother : right.pattern? = some other)
    (hfits : ∀ site ∈ left.sites (.mark kind :: right.yield ++ terminals rest) ++
      (Site.operand right, terminals rest) :: right.sites (terminals rest),
      tildeBinds site = true ∧ templateFits site)
    (hrest : Opens Level.conjunction.follow (terminals rest))
    (hgoes : ∀ {token : Token} {tokens : List Token} {result : Read Pattern}, token.kind = kind →
      Gives (Query.operand · tokens) (other, rest) →
      Gives (conjunctionTail · whole rest) result →
      Gives (conjunctionTail · first (token :: tokens)) result) :
    Resumes .conjunction (taken ++ rest) whole rest := by
  intro result htail
  have hne : kind ≠ .data := by
    rintro rfl
    revert hkind
    decide
  have hfollow : kind ∈ Level.conjunction.follow :=
    (by decide : [Token.Kind.and, .tilde] ⊆ Level.conjunction.follow) hkind
  obtain ⟨taken, last, rfl, htaken, hlast⟩ := terminals_eq_append_iff.1 hyield
  obtain ⟨token, operand, rfl, htoken, hoperand⟩ := (terminals_eq_mark_cons_iff hne).1 hlast
  have hbetween : terminals (token :: (operand ++ rest)) =
      .mark kind :: right.yield ++ terminals rest := by
    rw [terminals_cons, terminals_append, terminal_of_kind htoken hne, hoperand]
    rfl
  have hgives := hright.gives_right hoperand hother
    (fun site hsite => hfits site (List.mem_append_right _ hsite)) hrest
  rw [List.append_assoc, List.cons_append]
  exact h htaken hbetween hfirst (fun site hsite => hfits site (List.mem_append_left _ hsite))
    (.cons hfollow) _ (hgoes htoken hgives htail)

theorem isRead_both {left : Derivation .conjunction} {right : Derivation .operand}
    (h : left.IsRead) (hright : right.IsRead) : (both left right).IsRead := by
  rintro taken rest _ pattern hyield rfl hpattern hfits hrest
  simp only [pattern?, Option.bind_eq_bind, Option.bind_eq_some_iff, Option.some.injEq] at hpattern
  obtain ⟨first, hfirst, other, hother, rfl⟩ := hpattern
  exact h.resumes_joined hright (by decide) hyield hfirst hother hfits hrest gives_both

theorem isRead_constraint {left : Derivation .conjunction} {right : Derivation .operand}
    (h : left.IsRead) (hright : right.IsRead) : (constraint left right).IsRead := by
  rintro taken rest _ pattern hyield rfl hpattern hfits hrest
  simp only [pattern?, Option.bind_eq_bind, Option.bind_eq_some_iff, Option.some.injEq] at hpattern
  obtain ⟨first, hfirst, other, hother, rfl⟩ := hpattern
  exact h.resumes_joined hright (by decide) hyield hfirst hother hfits hrest gives_constraint

theorem isRead_ofConjunction {conjunction : Derivation .conjunction} (h : conjunction.IsRead) :
    (ofConjunction conjunction).IsRead := by
  rintro taken rest _ pattern hyield rfl hpattern hfits hrest result htail
  have hfirst := h hyield rfl hpattern hfits (hrest.mono (by decide))
  exact gives_expression (hfirst _ (gives_conjunctionTail_stop hrest)) htail

theorem isRead_binary {left : Derivation .expression} (operator : LooseOperator)
    {right : Derivation .conjunction} (h : left.IsRead) (hright : right.IsRead) :
    (binary left operator right).IsRead := by
  rintro taken rest _ pattern hyield rfl hpattern hfits hrest result htail
  rw [yield, List.append_assoc] at hyield
  obtain ⟨taken, last, rfl, htaken, hlast⟩ := terminals_eq_append_iff.1 hyield
  obtain ⟨symbol, operand, rfl, hsymbol, hoperand⟩ := terminals_eq_append_iff.1 hlast
  simp only [pattern?, Option.bind_eq_bind, Option.bind_eq_some_iff, Option.some.injEq] at hpattern
  obtain ⟨first, hfirst, other, hother, rfl⟩ := hpattern
  have hbetween : terminals (symbol ++ (operand ++ rest)) =
      operator.yield ++ right.yield ++ terminals rest := by
    rw [terminals_append, terminals_append, hsymbol, hoperand, List.append_assoc]
  have hopens : Opens Level.expression.follow
      (operator.yield ++ right.yield ++ terminals rest) := by
    cases operator <;> exact .cons (by decide)
  have hgives := hright hoperand rfl hother
    (fun site hsite => hfits site (List.mem_append_right _ hsite)) (hrest.mono (by decide)) _
    (gives_conjunctionTail_stop hrest)
  rw [List.append_assoc, List.append_assoc]
  exact h htaken hbetween hfirst (fun site hsite => hfits site (List.mem_append_left _ hsite))
    hopens _ (gives_binary operator hsymbol hgives htail)

/-- Every derivation is read wherever it fits. -/
theorem isRead {level : Level} (derivation : Derivation level) : derivation.IsRead := by
  induction derivation with
  | ofTerm term => exact isRead_ofTerm term
  | group inner ih => exact isRead_group ih
  | ofPrimary primary ih => exact isRead_ofPrimary ih
  | name left word ih => exact isRead_name ih word
  | type left word ih => exact isRead_type ih word
  | emptyScope left ih => exact isRead_emptyScope ih
  | scope left inner ih ihinner => exact isRead_scope ih ihinner
  | ofOperand operand ih => exact isRead_ofOperand ih
  | both left right ih ihright => exact isRead_both ih ihright
  | constraint left right ih ihright => exact isRead_constraint ih ihright
  | ofConjunction conjunction ih => exact isRead_ofConjunction ih
  | binary left operator right ih ihright => exact isRead_binary operator ih ihright

end Derivation

/-- Tokens that a fitting derivation writes are read as its pattern. -/
theorem ofTokens_complete {tokens : List Token} {derivation : Derivation .expression}
    {pattern : Pattern} (hyield : derivation.yield = terminals tokens)
    (hpattern : derivation.pattern? = some pattern) (hfits : derivation.Fits []) :
    Pattern.ofTokens tokens = .ok pattern := by
  have hresumes := derivation.isRead hyield.symm terminals_nil hpattern hfits .nil
  rw [List.append_nil] at hresumes
  obtain ⟨bound, hbound⟩ := hresumes _ (gives_expressionTail_stop .nil)
  rw [Pattern.ofTokens, expression_eq_ok (hbound bound le_rfl)]

end StructSearch.Query.Grammar
