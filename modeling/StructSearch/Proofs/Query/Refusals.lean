import Mathlib.Tactic
import StructSearch.Proofs.Query.Lossless
import StructSearch.Proofs.Query.TermRefusals
import StructSearch.Regex.Builtin

/-!
# Where reading stops

What an error of a query points at. Reading expressions is traced as reading terms is, so an error
points at the token that it is about or is raised behind the last token. The tokens stand in the
query, and each starts with a character that is not blank.

Results:
* `stepTraced`: reading expressions.
* `reportedIn_of_ofTokens`: an error that points somewhere points at the token that it is about.
* `ofTokens_closed`: an error that points nowhere is raised behind the last token.
* `pointsInto_of_compile`: where every error of a query points.
-/

namespace StructSearch.Query

section AnyEngine

variable [Regex.Engine]

section Expressions

variable {closing : Token} (hclosing : IsCloser closing)
include hclosing

/-! ## Bindings and operators -/

omit hclosing in
theorem bindName_reported {pattern : Pattern} {equal word : Token} {after : List Token} {e : Error}
    (hequal : equal.kind = .equal) (hdata : word.kind = .data)
    (h : bindName pattern word equal.start = .error e) :
    e.ReportedIn (equal :: word :: after) := by
  unfold bindName at h
  cases hfield : fieldOf word with
  | error fault =>
    rw [hfield] at h
    cases h
    exact (fieldOf_reported hdata hfield).mono (List.suffix_cons equal _)
  | ok field =>
    rw [hfield] at h
    match pattern with
    | .entity (.func _) _ _ => cases h
    | .entity (.var _) _ _ => cases h
    | .entity (.record _) _ _ => cases h
    | .entity (.text _) _ _ => cases h
    | .combine .. =>
      cases h
      exact .parse (List.nil_append _).symm hequal

theorem typeBinding?_closed (pattern : Pattern) (tokens : List Token) :
    typeBinding? pattern (tokens ++ [closing]) =
      (typeBinding? pattern tokens).map fun binding => (binding.1, binding.2 ++ [closing]) := by
  have hends : ∀ rest, endsBinding (rest ++ [closing]) = endsBinding rest := by
    intro rest
    cases rest with
    | nil => obtain h | h := hclosing <;> simp [endsBinding, h]
    | cons token after => rfl
  cases tokens with
  | nil =>
    have hword : closing.kind ≠ .data := hclosing.kind_ne (by decide)
    simp [typeBinding?, hword]
  | cons word rest =>
    simp only [typeBinding?, List.cons_append, hends]
    split_ifs <;> rfl

/-- Reading on behind an operator, or where there is none. -/
theorem operator?_traced {tokens : List Token}
    {next next' : Option (Operator × List Token) → Except Stop (Read Pattern)}
    (hnone : Traced Stop.error closing tokens (next none) (next' none))
    (hsome : ∀ operator rest, rest <:+ tokens →
      Traced Stop.error closing tokens (next (some (operator, rest)))
        (next' (some (operator, rest ++ [closing])))) :
    Traced Stop.error closing tokens (Stop.lift (operator? tokens) >>= next)
      (Stop.lift (operator? (tokens ++ [closing])) >>= next') := by
  cases tokens with
  | nil =>
    have hother : operator? [closing] = .ok none := by
      obtain h | h := hclosing <;> rw [operator?, h]
    rw [List.nil_append, hother]
    exact hnone
  | cons token rest =>
    have hrest := List.suffix_cons token rest
    simp only [operator?, List.cons_append]
    split
    · exact hsome _ _ hrest
    · exact hsome _ _ hrest
    · exact hsome _ _ hrest
    · rw [startsWith_closed hclosing (by decide), startsWith_closed hclosing (by decide)]
      have hafter := (List.tail_suffix rest).trans hrest
      split_ifs with hchild hparent
      · rw [tail_closed hchild]
        exact hsome _ _ hafter
      · rw [tail_closed hparent]
        exact hsome _ _ hafter
      · have hrefused : Traced (α := Pattern) id closing rest
            (.error (unexpected .angleAfterNot rest))
            (.error (unexpected .angleAfterNot (rest ++ [closing]))) :=
          .refused fun hnil _ => by rw [hnil]; rfl
        exact hrefused.lift.mono hrest
    · exact hnone

omit hclosing in
theorem expression_nil (steps : ℕ) :
    expression steps [] = .error .exhausted ∨
      expression steps [] = .error (.error (.ended .pattern)) := by
  match steps with
  | 0 | 1 | 2 | 3 => exact Or.inl rfl
  | steps + 4 => exact Or.inr rfl

end Expressions

/-! ## Expressions -/

/-- With a number of steps, every reader of expressions is traced. -/
structure StepTraced (closing : Token) (steps : ℕ) : Prop where
  expression : ∀ tokens, Traced Stop.error closing tokens
    (expression steps tokens) (expression steps (tokens ++ [closing]))
  expressionTail : ∀ left tokens, Traced Stop.error closing tokens
    (expressionTail steps left tokens) (expressionTail steps left (tokens ++ [closing]))
  conjunction : ∀ tokens, Traced Stop.error closing tokens
    (conjunction steps tokens) (conjunction steps (tokens ++ [closing]))
  conjunctionTail : ∀ left tokens, Traced Stop.error closing tokens
    (conjunctionTail steps left tokens) (conjunctionTail steps left (tokens ++ [closing]))
  operand : ∀ tokens, Traced Stop.error closing tokens
    (operand steps tokens) (operand steps (tokens ++ [closing]))
  operandTail : ∀ left tokens, Traced Stop.error closing tokens
    (operandTail steps left tokens) (operandTail steps left (tokens ++ [closing]))
  primary : ∀ tokens, Traced Stop.error closing tokens
    (primary steps tokens) (primary steps (tokens ++ [closing]))

namespace StepTraced

variable {closing : Token} {steps : ℕ} (hclosing : IsCloser closing) (ih : StepTraced closing steps)
include hclosing ih

theorem expressionTail_succ (left : Pattern) (tokens : List Token) :
    Traced Stop.error closing tokens (Query.expressionTail (steps + 1) left tokens)
      (Query.expressionTail (steps + 1) left (tokens ++ [closing])) := by
  rw [Query.expressionTail, Query.expressionTail]
  refine operator?_traced hclosing (.read List.suffix_rfl) fun operator rest hrest => ?_
  refine ((ih.conjunction rest).mono hrest).bind fun right after _ hafter => ?_
  exact (ih.expressionTail _ after).mono hafter

theorem conjunctionTail_succ (left : Pattern) (tokens : List Token) :
    Traced Stop.error closing tokens (Query.conjunctionTail (steps + 1) left tokens)
      (Query.conjunctionTail (steps + 1) left (tokens ++ [closing])) := by
  have htail : ∀ join : Pattern → Pattern, Traced Stop.error closing tokens
      (Query.operand steps tokens.tail >>= fun read =>
        Query.conjunctionTail steps (join read.1) read.2)
      (Query.operand steps (tokens.tail ++ [closing]) >>= fun read =>
        Query.conjunctionTail steps (join read.1) read.2) := fun join =>
    ((ih.operand tokens.tail).mono (List.tail_suffix tokens)).bind fun right after _ hafter =>
      (ih.conjunctionTail (join right) after).mono hafter
  rw [Query.conjunctionTail, Query.conjunctionTail, startsWith_closed hclosing (by decide),
    startsWith_closed hclosing (by decide)]
  split_ifs with hand htilde
  · rw [tail_closed hand]
    exact htail _
  · rw [tail_closed htilde]
    exact htail _
  · exact .read List.suffix_rfl

omit hclosing in
/-- A scope that is still open asks for a pattern, unless the closing delimiter ends it. -/
theorem scope_succ (pattern : Pattern) (token : Token) (rest : List Token) :
    Traced Stop.error closing (token :: rest)
      (if startsWith .rcurly rest then Query.operandTail steps pattern rest.tail
      else do
        let (inner, rest) ← Query.expression steps rest
        let (_, rest) ← Stop.lift (expect .rcurly .closingCurly rest)
        Query.operandTail steps (pattern.constrain inner) rest)
      (if startsWith .rcurly (rest ++ [closing]) then
        Query.operandTail steps pattern (rest ++ [closing]).tail
      else do
        let (inner, rest) ← Query.expression steps (rest ++ [closing])
        let (_, rest) ← Stop.lift (expect .rcurly .closingCurly rest)
        Query.operandTail steps (pattern.constrain inner) rest) := by
  have hrest := List.suffix_cons token rest
  by_cases hended : rest = [] ∧ closing.kind = .rcurly
  · obtain ⟨rfl, hcurly⟩ := hended
    constructor
    · intro value left hread
      obtain h | h := expression_nil steps <;> rw [startsWith, h] at hread <;> cases hread
    · intro e herror
      obtain h | h := expression_nil steps <;> rw [startsWith, h] at herror <;> cases herror
      refine Or.inr ⟨.pattern, rfl, fun hkind => ?_⟩
      rw [hcurly] at hkind
      cases hkind
  · have hstart : startsWith .rcurly (rest ++ [closing]) = startsWith .rcurly rest := by
      cases rest with
      | nil => exact decide_eq_false fun hcurly => hended ⟨rfl, hcurly⟩
      | cons first after => rfl
    rw [hstart]
    split_ifs with hclose
    · rw [tail_closed hclose]
      exact (ih.operandTail _ _).mono ((List.tail_suffix rest).trans hrest)
    · refine ((ih.expression rest).mono hrest).bind fun inner after _ hafter => ?_
      refine ((expect_traced (by decide) after).lift.mono hafter).bind fun close left _ hleft => ?_
      exact (ih.operandTail _ left).mono hleft

theorem operandTail_succ (pattern : Pattern) (tokens : List Token) :
    Traced Stop.error closing tokens (Query.operandTail (steps + 1) pattern tokens)
      (Query.operandTail (steps + 1) pattern (tokens ++ [closing])) := by
  cases tokens with
  | nil =>
    have hother : Query.operandTail (steps + 1) pattern [closing] = .ok (pattern, [closing]) := by
      obtain h | h := hclosing <;> rw [Query.operandTail, h]
    rw [List.nil_append, hother]
    exact .read List.suffix_rfl
  | cons token rest =>
    have hrest := List.suffix_cons token rest
    rw [List.cons_append, Query.operandTail, Query.operandTail]
    split
    · next hequal =>
      refine ((expect_traced (by decide) rest).lift.mono hrest).bind fun word left hword hleft => ?_
      obtain ⟨rfl, hdata⟩ := expect_sound (lift_eq_ok.1 hword)
      refine .step (fun e he => bindName_reported hequal hdata (lift_eq_error.1 he)) fun named => ?_
      exact (ih.operandTail named left).mono hleft
    · rw [typeBinding?_closed hclosing]
      cases hbinding : typeBinding? pattern rest with
      | none => exact .read List.suffix_rfl
      | some binding =>
        obtain ⟨word, left⟩ := binding
        obtain ⟨rfl, -, hdata, -⟩ := Grammar.typeBinding?_eq_some_iff.1 hbinding
        refine .step (fun e he => ?_) fun type => ?_
        · exact (fieldOf_reported hdata (lift_eq_error.1 he)).mono hrest
        · exact (ih.operandTail _ left).mono ((List.suffix_cons word left).trans hrest)
    · exact ih.scope_succ pattern token rest
    · exact .read List.suffix_rfl

theorem primary_succ (tokens : List Token) :
    Traced Stop.error closing tokens (Query.primary (steps + 1) tokens)
      (Query.primary (steps + 1) (tokens ++ [closing])) := by
  rw [Query.primary, Query.primary, startsWith_closed hclosing (by decide)]
  split_ifs with hopen
  · rw [tail_closed hopen]
    refine ((ih.expression tokens.tail).mono (List.tail_suffix tokens)).bind
      fun inner after _ hafter => ?_
    exact ((expect_traced (by decide) after).lift.mono hafter).bind fun close left _ hleft =>
      .read hleft
  · exact (term_traced hclosing tokens).lift

end StepTraced

/-- Every reader of expressions is traced. -/
theorem stepTraced {closing : Token} (hclosing : IsCloser closing) (steps : ℕ) :
    StepTraced closing steps := by
  induction steps with
  | zero => constructor <;> intros <;> exact .exhausted
  | succ steps ih =>
    exact {
      expression := fun tokens => (ih.conjunction tokens).bind fun left rest _ hrest =>
        (ih.expressionTail left rest).mono hrest
      expressionTail := ih.expressionTail_succ hclosing
      conjunction := fun tokens => (ih.operand tokens).bind fun left rest _ hrest =>
        (ih.conjunctionTail left rest).mono hrest
      conjunctionTail := ih.conjunctionTail_succ hclosing
      operand := fun tokens => (ih.primary tokens).bind fun pattern rest _ hrest =>
        (ih.operandTail pattern rest).mono hrest
      operandTail := ih.operandTail_succ hclosing
      primary := ih.primary_succ hclosing }

/-! ## Patterns -/

/-- A whole sequence of tokens is no pattern because a token is left, or because reading an
expression stops. -/
theorem ofTokens_eq_error {tokens : List Token} {e : Error}
    (h : Pattern.ofTokens tokens = .error e) :
    (∃ pattern token rest,
      expression (4 * tokens.length + 4) tokens = .ok (pattern, token :: rest) ∧
      e = unexpected .operator (token :: rest)) ∨
    expression (4 * tokens.length + 4) tokens = .error (.error e) := by
  unfold Pattern.ofTokens at h
  split at h
  · cases h
  · next pattern token rest hread =>
    cases h
    exact Or.inl ⟨pattern, token, rest, hread, rfl⟩
  · next error hread =>
    cases h
    exact Or.inr hread
  · next hexhausted => exact absurd hexhausted (expression_ne_exhausted tokens)

/-- An error that points somewhere points at the token that it is about. -/
theorem reportedIn_of_ofTokens {tokens : List Token} {e : Error} {offset : ℕ}
    (h : Pattern.ofTokens tokens = .error e) (hoffset : e.offset? = some offset) :
    e.ReportedIn tokens := by
  -- the tokens are not read on, so any closing delimiter will do
  have hclosing : IsCloser ⟨.rparen, ")", 0, 1⟩ := Or.inl rfl
  have htraced := (stepTraced hclosing (4 * tokens.length + 4)).expression tokens
  obtain ⟨pattern, token, rest, hread, rfl⟩ | hread := ofTokens_eq_error h
  · obtain ⟨⟨taken, htokens⟩, -⟩ := htraced.ok hread
    exact .parse htokens.symm rfl
  · obtain hreported | ⟨expected, rfl, -⟩ := htraced.error hread
    · exact hreported
    · cases hoffset

omit [Regex.Engine] in
theorem Expected.isCloser_of_stranger {closing : Token} {expected : Expected}
    (h : closing.kind = expected.stranger) : IsCloser closing := by
  cases expected <;> first | exact Or.inl h | exact Or.inr h

/-- An error that asks for more is raised behind the last token: there a delimiter that does not fit
is refused for want of the same thing. -/
theorem ofTokens_closed {tokens : List Token} {expected : Expected}
    (h : Pattern.ofTokens tokens = .error (.ended expected)) {closing : Token}
    (hkind : closing.kind = expected.stranger) :
    Pattern.ofTokens (tokens ++ [closing]) =
      .error (.parse closing.start (.unexpected expected closing.kind)) := by
  obtain ⟨pattern, token, rest, hread, ⟨⟩⟩ | hread := ofTokens_eq_error h
  have htraced :=
    (stepTraced (Expected.isCloser_of_stranger hkind) (4 * tokens.length + 4)).expression tokens
  obtain hreported | ⟨asked, hasked, hother⟩ := htraced.error hread
  · cases hreported
  · cases hasked
    have hsteps : 4 * tokens.length + 4 ≤ 4 * (tokens ++ [closing]).length + 4 := by
      rw [List.length_append]
      omega
    obtain hexhausted | hmore :=
      Continues.of_le (fun steps => (stepContinues steps).expression (tokens ++ [closing])) hsteps
    · rw [hother hkind] at hexhausted
      cases hexhausted
    · rw [Pattern.ofTokens, ← hmore, hother hkind]
      rfl

/-! ## Queries -/

/-- The byte `offset` of the query is the first one of a character that is not blank. -/
def ShowsAt (query : List Char) (offset : ℕ) : Prop :=
  ∃ before c after, query = before ++ c :: after ∧ offset = Text.byteSize before ∧
    Text.isBlank c = false

omit [Regex.Engine] in
theorem ShowsAt.lt_byteSize {query : List Char} {offset : ℕ} (h : ShowsAt query offset) :
    offset < Text.byteSize query := by
  obtain ⟨before, c, after, rfl, rfl, -⟩ := h
  have hc := c.utf8Size_pos
  rw [Text.byteSize_append, Text.byteSize]
  omega

omit [Regex.Engine] in
theorem Consists.showsAt {before text : List Char} {tokens : List Token}
    (h : Consists before text tokens) : ∀ token ∈ tokens, ShowsAt (before ++ text) token.start := by
  induction h with
  | gap => simp
  | @token before gap source rest token tokens _ hlexeme hstart _ _ ih =>
    intro other hother
    obtain rfl | hother := List.mem_cons.1 hother
    · obtain ⟨c, tail, rfl, hblank⟩ := hlexeme.exists_head
      exact ⟨before ++ gap, c, tail ++ rest, by simp, hstart, hblank⟩
    · simpa using ih other hother

omit [Regex.Engine] in
theorem LexFault.IsMetAt.isBlank {fault : LexFault} {c : Char} {after : List Char}
    (h : fault.IsMetAt c after) : Text.isBlank c = false := by
  cases fault with
  | sigil found => rw [h.1]; decide
  | unterminated => rw [h.1]; decide
  | emptyLiteral => rw [h.1]; decide

/-- What an error says about the query that it comes from. -/
structure Error.PointsInto (query : String) (e : Error) : Prop where
  /-- The offset is a place in the query, and the character there is not blank. -/
  shows : ∀ offset ∈ e.offset?,
    offset < Text.byteSize query.toList ∧ ShowsAt query.toList offset
  /-- A token that does not fit starts there. -/
  parse : ∀ offset fault, e = .parse offset fault →
    ∃ tokens, Token.scan query = .ok tokens ∧
      ∃ token ∈ tokens, token.start = offset ∧ fault.IsMetAt token
  /-- The first word of the field that is no expression starts there. -/
  regex : ∀ source offset fault, e = .regex source offset fault →
    ∃ before word after, Token.scan query = .ok (before ++ word :: after) ∧ word.start = offset ∧
      StartsField source word after ∧ Field.compile source = .error fault
  /-- Without an offset all tokens were taken: a delimiter behind them that does not fit is refused
  for want of the same thing. -/
  ended : e.offset? = none →
    ∃ expected tokens, e = .ended expected ∧ Token.scan query = .ok tokens ∧
      ∀ closing : Token, closing.kind = expected.stranger →
        Pattern.ofTokens (tokens ++ [closing]) =
          .error (.parse closing.start (.unexpected expected closing.kind))

theorem pointsInto_of_scan {query : String} {e : Error} (h : Token.scan query = .error e) :
    e.PointsInto query := by
  have hstart : 0 = Text.byteSize [] := rfl
  obtain ⟨front, tokens, c, after, fault, hquery, -, rfl, hmet⟩ :=
    exists_stray_of_scanFrom 0 query.toList hstart h
  have hshows : ShowsAt query.toList (Text.byteSize ([] ++ front)) :=
    ⟨front, c, after, hquery, rfl, hmet.isBlank⟩
  refine ⟨?_, nofun, nofun, nofun⟩
  rintro offset ⟨⟩
  exact ⟨hshows.lt_byteSize, hshows⟩

theorem pointsInto_of_ofTokens {query : String} {tokens : List Token} {e : Error}
    (hscan : Token.scan query = .ok tokens) (h : Pattern.ofTokens tokens = .error e) :
    e.PointsInto query := by
  have hconsists : Consists [] query.toList tokens := scanFrom_eq_ok_iff.1 hscan
  have hshows : ∀ token ∈ tokens,
      token.start < Text.byteSize query.toList ∧ ShowsAt query.toList token.start := by
    intro token htoken
    have hplace := hconsists.showsAt token htoken
    exact ⟨hplace.lt_byteSize, hplace⟩
  cases hoffset : e.offset? with
  | none =>
    cases e with
    | ended expected =>
      refine ⟨nofun, nofun, nofun, fun _ => ?_⟩
      exact ⟨expected, tokens, rfl, hscan, fun closing hkind => ofTokens_closed h hkind⟩
    | _ => cases hoffset
  | some offset =>
    cases reportedIn_of_ofTokens h hoffset with
    | @parse before after token fault htokens hfault =>
      have hmem : token ∈ tokens := by simp [htokens]
      refine ⟨?_, ?_, nofun, nofun⟩
      · rintro _ ⟨⟩
        exact hshows token hmem
      · rintro _ _ ⟨⟩
        exact ⟨tokens, hscan, token, hmem, rfl, hfault⟩
    | @regex before after word source fault htokens hfield hfault =>
      refine ⟨?_, nofun, ?_, nofun⟩
      · rintro _ ⟨⟩
        exact hshows word (by simp [htokens])
      · rintro _ _ _ ⟨⟩
        exact ⟨before, word, after, by rw [hscan, htokens], rfl, hfield, hfault⟩

/-- Every error of a query points at the query, or is raised behind all of its tokens. -/
theorem pointsInto_of_compile {query : String} {e : Error} (h : Pattern.compile query = .error e) :
    e.PointsInto query := by
  cases hscan : Token.scan query with
  | error other =>
    rw [Pattern.compile, hscan] at h
    cases h
    exact pointsInto_of_scan hscan
  | ok tokens =>
    rw [Pattern.compile, hscan] at h
    exact pointsInto_of_ofTokens hscan h

end AnyEngine

/-- A type that is no expression is reported at its first word, behind a letter of two bytes. A
group that is still open is reported behind all tokens. -/
theorem pointsInto_brokenType_openGroup :
    Pattern.compile "é | x:std::/[z/" = .error (.regex "std::[z" 7 "unclosed character class") ∧
    Error.PointsInto "é | x:std::/[z/" (.regex "std::[z" 7 "unclosed character class") ∧
    Pattern.compile "(é | b" = .error (.ended .closingParen) ∧
    Error.PointsInto "(é | b" (.ended .closingParen) := by
  have hbroken : Pattern.compile "é | x:std::/[z/" =
      .error (.regex "std::[z" 7 "unclosed character class") := by decide +kernel
  have hopen : Pattern.compile "(é | b" = .error (.ended .closingParen) := by decide +kernel
  exact ⟨hbroken, pointsInto_of_compile hbroken, hopen, pointsInto_of_compile hopen⟩

end StructSearch.Query
