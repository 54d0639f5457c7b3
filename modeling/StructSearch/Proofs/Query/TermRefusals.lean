import Mathlib.Tactic
import StructSearch.Proofs.Query.Placement
import StructSearch.Proofs.Query.Steps

/-!
# Where reading a term stops

A reader that fails reports an error. It points at one of the tokens, which is what the error says
it is: the token of the kind that was found, the word of the second member access, the first word of
the field that is no expression. Only an error that asks for more points at no token, and it is
raised behind the last one: a closing delimiter put there is refused in its place, for want of the
same thing, unless that delimiter is what was asked for.

Both are told at once. `Traced` compares what is read from tokens with what is read when a closing
delimiter follows them, and it is kept by reading one part after another.

Results:
* `Traced.bind`, `Traced.step`: reading parts one after another.
* `term_traced`: reading a term.
-/

namespace StructSearch.Query

/-! ## What errors say about tokens -/

/-- What a fault says about the token that it points at. -/
def ParseFault.IsMetAt (fault : ParseFault) (token : Token) : Prop :=
  match fault with
  | .unexpected _ found => token.kind = found
  | .accessConflict _ second => token.kind = .data ∧ Text.lowercase token.text = second
  | .nameOnCombination => token.kind = .equal

/-- `word` is the first word of a field with this text, to which words behind it may be joined. -/
def StartsField (source : String) (word : Token) (after : List Token) : Prop :=
  word.kind = .data ∧ ∃ segments : List String,
    source = String.intercalate "::" (word.text :: segments) ∧
      segments.flatMap (fun segment => [.mark .doubleColon, .word segment]) <+: terminals after

variable [Regex.Engine]

/-- The error points at one of the tokens, and is about it. -/
inductive Error.ReportedIn (tokens : List Token) : Error → Prop
  | parse {before after : List Token} {token : Token} {fault : ParseFault}
    (htokens : tokens = before ++ token :: after) (hfault : fault.IsMetAt token) :
    ReportedIn tokens (.parse token.start fault)
  | regex {before after : List Token} {word : Token} {source detail : String}
    (htokens : tokens = before ++ word :: after) (hfield : StartsField source word after)
    (hdetail : Field.compile source = .error detail) :
    ReportedIn tokens (.regex source word.start detail)

theorem Error.ReportedIn.mono {tokens rest : List Token} {e : Error} (h : e.ReportedIn rest)
    (hrest : rest <:+ tokens) : e.ReportedIn tokens := by
  obtain ⟨taken, rfl⟩ := hrest
  cases h with
  | parse htokens hfault =>
    exact .parse (by rw [htokens, List.append_assoc]) hfault
  | regex htokens hfield hdetail =>
    exact .regex (by rw [htokens, List.append_assoc]) hfield hdetail

omit [Regex.Engine] in
theorem startsField_word {word : Token} (hdata : word.kind = .data) (after : List Token) :
    StartsField word.text word after :=
  ⟨hdata, [], by simp, List.nil_prefix⟩

theorem fieldAt_reported {source : String} {word : Token} {after : List Token} {e : Error}
    (hfield : StartsField source word after) (h : fieldAt word.start source = .error e) :
    e.ReportedIn (word :: after) := by
  unfold fieldAt at h
  split at h
  · cases h
  · next fault hfault =>
    cases h
    exact .regex (List.nil_append _).symm hfield hfault

theorem fieldOf_reported {word : Token} {after : List Token} {e : Error}
    (hdata : word.kind = .data) (h : fieldOf word = .error e) : e.ReportedIn (word :: after) :=
  fieldAt_reported (startsField_word hdata after) h

/-! ## Reading on towards a closing delimiter -/

omit [Regex.Engine] in
theorem lift_eq_error {α : Type} {x : Except Error α} {e : Error} :
    Stop.lift x = .error (.error e) ↔ x = .error e := by
  cases x <;> simp [Stop.lift]

/-- The token is a closing delimiter of a group or of a scope. -/
def IsCloser (token : Token) : Prop := token.kind = .rparen ∨ token.kind = .rcurly

/-- A closing delimiter that cannot stand for what is expected. -/
def Expected.stranger : Expected → Token.Kind
  | .closingParen | .commaOrParen | .parameter => .rcurly
  | _ => .rparen

/-- `outcome` is what is read from the tokens, `other` what is read with `closing` behind them.
A part that is read leaves some of the last tokens, and then those and `closing`. An error points
at one of the tokens, or it asks for something that `closing` is then refused for. -/
structure Traced {ε α : Type} (wrap : Error → ε) (closing : Token) (tokens : List Token)
    (outcome other : Except ε (Read α)) : Prop where
  ok : ∀ {value rest}, outcome = .ok (value, rest) →
    rest <:+ tokens ∧ other = .ok (value, rest ++ [closing])
  error : ∀ {e}, outcome = .error (wrap e) → e.ReportedIn tokens ∨
    ∃ expected, e = .ended expected ∧ (closing.kind = expected.stranger →
      other = .error (wrap (unexpected expected [closing])))

namespace Traced

variable {ε α β : Type} {wrap : Error → ε} {closing : Token} {tokens rest : List Token}

theorem read {value : α} (hrest : rest <:+ tokens) :
    Traced wrap closing tokens (.ok (value, rest)) (.ok (value, rest ++ [closing])) := by
  constructor
  · rintro _ _ ⟨⟩
    exact ⟨hrest, rfl⟩
  · rintro e ⟨⟩

theorem mono {outcome other : Except ε (Read α)} (h : Traced wrap closing rest outcome other)
    (hrest : rest <:+ tokens) : Traced wrap closing tokens outcome other := by
  constructor
  · intro value left hread
    obtain ⟨hleft, hother⟩ := h.ok hread
    exact ⟨hleft.trans hrest, hother⟩
  · intro e herror
    exact (h.error herror).imp_left fun hreported => hreported.mono hrest

/-- Reading another part behind a part. -/
theorem bind {first first' : Except ε (Read α)} {next next' : Read α → Except ε (Read β)}
    (hfirst : Traced wrap closing tokens first first')
    (hnext : ∀ value rest, first = .ok (value, rest) → rest <:+ tokens →
      Traced wrap closing tokens (next (value, rest)) (next' (value, rest ++ [closing]))) :
    Traced wrap closing tokens (first >>= next) (first' >>= next') := by
  cases hread : first with
  | ok part =>
    obtain ⟨value, rest⟩ := part
    obtain ⟨hrest, hother⟩ := hfirst.ok hread
    rw [hother]
    exact hnext value rest hread hrest
  | error stop =>
    constructor
    · rintro _ _ ⟨⟩
    · intro e herror
      have hstop : stop = wrap e := Except.error.inj herror
      refine (hfirst.error (by rw [hread, hstop])).imp_right ?_
      rintro ⟨expected, he, hother⟩
      exact ⟨expected, he, fun hkind => by rw [hother hkind]; rfl⟩

/-- A step that reads no token. -/
theorem step {made : Except ε β} {next next' : β → Except ε (Read α)}
    (hmade : ∀ e, made = .error (wrap e) → e.ReportedIn tokens)
    (hnext : ∀ value, Traced wrap closing tokens (next value) (next' value)) :
    Traced wrap closing tokens (made >>= next) (made >>= next') := by
  cases hresult : made with
  | ok value => exact hnext value
  | error stop =>
    constructor
    · rintro _ _ ⟨⟩
    · intro e herror
      have hstop : stop = wrap e := Except.error.inj herror
      exact Or.inl (hmade e (by rw [hresult, hstop]))

/-- Something else is expected in front of the tokens. -/
theorem refused {expected : Expected} {other : Except Error (Read α)}
    (hother : tokens = [] → closing.kind = expected.stranger →
      other = .error (unexpected expected [closing])) :
    Traced id closing tokens (.error (unexpected expected tokens)) other := by
  constructor
  · rintro _ _ ⟨⟩
  · rintro e ⟨⟩
    cases tokens with
    | nil => exact Or.inr ⟨expected, rfl, hother rfl⟩
    | cons token rest => exact Or.inl (.parse (List.nil_append _).symm rfl)

theorem refused_cons {expected : Expected} {token : Token} {other : Except Error (Read α)} :
    Traced id closing (token :: rest) (.error (unexpected expected (token :: rest))) other :=
  .refused fun hnil => absurd hnil (List.cons_ne_nil token rest)

theorem lift {outcome other : Except Error (Read α)} (h : Traced id closing tokens outcome other) :
    Traced Stop.error closing tokens (Stop.lift outcome) (Stop.lift other) := by
  constructor
  · intro value rest hread
    obtain ⟨hrest, hother⟩ := h.ok (lift_eq_ok.1 hread)
    exact ⟨hrest, by rw [hother]; rfl⟩
  · intro e herror
    refine (h.error (lift_eq_error.1 herror)).imp_right ?_
    rintro ⟨expected, he, hother⟩
    exact ⟨expected, he, fun hkind => by rw [hother hkind]; rfl⟩

theorem exhausted {other : Except Stop (Read α)} :
    Traced Stop.error closing tokens (.error .exhausted) other := by
  constructor
  · intro value rest hread
    cases hread
  · intro e herror
    cases herror

end Traced

section Terms

variable {closing : Token} (hclosing : IsCloser closing)
include hclosing

omit [Regex.Engine] in
theorem IsCloser.kind_ne {kind : Token.Kind} (hkind : kind ≠ .rparen ∧ kind ≠ .rcurly) :
    closing.kind ≠ kind := by
  obtain h | h := hclosing
  · rw [h]
    exact hkind.1.symm
  · rw [h]
    exact hkind.2.symm

omit [Regex.Engine] in
theorem startsWith_closed {kind : Token.Kind} (hkind : kind ≠ .rparen ∧ kind ≠ .rcurly)
    (tokens : List Token) :
    startsWith kind (tokens ++ [closing]) = startsWith kind tokens := by
  cases tokens with
  | nil => exact decide_eq_false (hclosing.kind_ne hkind)
  | cons token rest => rfl

omit [Regex.Engine] in
omit hclosing in
theorem tail_closed {kind : Token.Kind} {tokens : List Token} (h : startsWith kind tokens = true) :
    (tokens ++ [closing]).tail = tokens.tail ++ [closing] := by
  cases tokens with
  | nil => cases h
  | cons token rest => rfl

omit hclosing in
theorem expect_traced {kind : Token.Kind} {expected : Expected} (hkind : kind ≠ expected.stranger)
    (tokens : List Token) :
    Traced id closing tokens (expect kind expected tokens)
      (expect kind expected (tokens ++ [closing])) := by
  cases tokens with
  | nil =>
    refine .refused fun _ hstranger => if_neg ?_
    rw [hstranger]
    exact hkind.symm
  | cons token rest =>
    rw [List.cons_append, expect, expect]
    split_ifs
    · exact .read (List.suffix_cons token rest)
    · exact .refused_cons

/-! ## Types and parameters -/

omit [Regex.Engine] in
theorem typeTail_closed (text : String) (tokens : List Token) :
    typeTail text (tokens ++ [closing]) =
      ((typeTail text tokens).1, (typeTail text tokens).2 ++ [closing]) := by
  fun_induction typeTail text tokens with
  | case1 text colons segment rest hkinds ih =>
    rw [← ih]
    exact if_pos hkinds
  | case2 text colons segment rest hkinds => exact if_neg hkinds
  | case3 text tokens hshort =>
    rcases tokens with _ | ⟨colons, _ | ⟨segment, rest⟩⟩
    · rfl
    · refine if_neg fun hkinds => ?_
      exact hclosing.kind_ne (by decide) hkinds.2
    · exact absurd rfl (hshort colons segment rest)

omit [Regex.Engine] in
omit hclosing in
theorem typeTail_suffix (text : String) (tokens : List Token) :
    (typeTail text tokens).2 <:+ tokens := by
  fun_induction typeTail text tokens with
  | case1 text colons segment rest hkinds ih =>
    exact ih.trans ((List.suffix_cons segment rest).trans (List.suffix_cons colons _))
  | case2 => exact List.suffix_rfl
  | case3 => exact List.suffix_rfl

theorem typeName_traced (tokens : List Token) :
    Traced id closing tokens (typeName tokens) (typeName (tokens ++ [closing])) := by
  rw [typeName, typeName]
  refine (expect_traced (by decide) tokens).bind fun first rest hfirst hrest => ?_
  obtain ⟨rfl, hdata⟩ := expect_sound hfirst
  obtain ⟨segments, hyield, htext⟩ := Grammar.typeTail_sound rest first.text
  have hfield : StartsField (typeTail first.text rest).1 first rest :=
    ⟨hdata, segments, htext, hyield ▸ List.prefix_append _ _⟩
  simp only [typeTail_closed hclosing]
  refine .step (fun e he => fieldAt_reported hfield he) fun field => .read ?_
  exact (typeTail_suffix first.text rest).trans hrest

theorem optionalType_traced (tokens : List Token) :
    Traced id closing tokens (optionalType tokens) (optionalType (tokens ++ [closing])) := by
  unfold optionalType
  rw [startsWith_closed hclosing (by decide)]
  split_ifs
  · exact typeName_traced hclosing tokens
  · exact .read List.suffix_rfl

theorem parameter_traced (tokens : List Token) :
    Traced id closing tokens (parameter tokens) (parameter (tokens ++ [closing])) := by
  cases tokens with
  | nil =>
    refine .refused fun _ hstranger => ?_
    rw [List.nil_append, parameter, hstranger]
    rfl
  | cons token rest =>
    have hrest := List.suffix_cons token rest
    simp only [parameter, List.cons_append]
    split
    · exact .read hrest
    · exact ((optionalType_traced hclosing rest).mono hrest).bind fun type left _ hleft =>
        .read hleft
    · next hdata =>
      refine .step (fun e he => fieldOf_reported hdata he) fun name => ?_
      cases rest with
      | nil =>
        have hcolon : closing.kind ≠ .colon := hclosing.kind_ne (by decide)
        simp only [List.nil_append, if_neg hcolon]
        exact .read hrest
      | cons colon rest =>
        simp only [List.cons_append]
        split_ifs
        · exact ((optionalType_traced hclosing rest).mono
            ((List.suffix_cons colon rest).trans hrest)).bind fun type left _ hleft => .read hleft
        · exact .read hrest
    · exact .refused_cons

/-- A list that asks for its own delimiter is not closed by the delimiter behind the tokens. -/
theorem parametersFrom_traced {kind : Token.Kind} {expected : Expected}
    (hkind : kind ≠ expected.stranger) (tokens : List Token) :
    Traced id closing tokens (parametersFrom kind expected tokens)
      (parametersFrom kind expected (tokens ++ [closing])) := by
  induction hlength : tokens.length using Nat.strong_induction_on generalizing tokens with
  | _ length ih =>
    rw [Move.parametersFrom_eq, Move.parametersFrom_eq]
    refine (parameter_traced hclosing tokens).bind fun entry rest hentry hrest => ?_
    cases rest with
    | nil =>
      refine Traced.mono (.refused fun _ hstranger => ?_) hrest
      have hcomma : closing.kind ≠ .comma := hclosing.kind_ne (by decide)
      refine (if_neg hcomma).trans (if_neg ?_)
      rw [hstranger]
      exact hkind.symm
    | cons token after =>
      have hafter := (List.suffix_cons token after).trans hrest
      have hlt := length_lt_of_parameter_eq hentry
      rw [List.length_cons] at hlt
      simp only [List.cons_append]
      split_ifs
      · exact ((ih _ (by omega) after rfl).mono hafter).bind fun entries left _ hleft => .read hleft
      · exact .read hafter
      · exact Traced.refused_cons.mono hrest

theorem parameterList_traced {kind : Token.Kind} {expected : Expected}
    (hcurly : kind ≠ .rcurly) (hkind : kind ≠ expected.stranger) (tokens : List Token) :
    Traced id closing tokens (parameterList kind expected tokens)
      (parameterList kind expected (tokens ++ [closing])) := by
  cases tokens with
  | nil =>
    -- a parenthesis closes the empty list, which asked for a parameter
    have hended : parameterList kind expected [] = .error (unexpected .parameter []) := by
      rw [parameterList, Move.parametersFrom_eq]
      rfl
    rw [hended]
    refine .refused fun _ hstranger => ?_
    have hother : closing.kind ≠ kind := by
      rw [hstranger]
      exact hcurly.symm
    rw [List.nil_append, parameterList, startsWith, decide_eq_false hother, Move.parametersFrom_eq,
      parameter, hstranger]
    rfl
  | cons token rest =>
    rw [parameterList, parameterList]
    have hstart : startsWith kind (token :: rest ++ [closing]) = startsWith kind (token :: rest) :=
      rfl
    rw [hstart]
    split_ifs with hclose
    · exact .read (List.suffix_cons token rest)
    · exact parametersFrom_traced hclosing hkind (token :: rest)

omit [Regex.Engine] in
theorem templateAhead_closed (ofFunction : Bool) (tokens : List Token) :
    templateAhead ofFunction (tokens ++ [closing]) = templateAhead ofFunction tokens := by
  -- the delimiter ends the look ahead where the last token did, and begins no operand
  have hstop : isTemplateToken closing = false := by
    obtain h | h := hclosing <;> rw [isTemplateToken, h]
  cases tokens with
  | nil => exact if_neg (hclosing.kind_ne (by decide))
  | cons token rest =>
    have hdrop : (rest ++ [closing]).dropWhile isTemplateToken =
        rest.dropWhile isTemplateToken ++ [closing] := by
      rw [List.dropWhile_append]
      split_ifs with hall
      · rw [List.isEmpty_iff.1 hall, List.dropWhile_cons_of_neg (by rw [hstop]; decide)]
        rfl
      · rfl
    simp only [templateAhead, List.cons_append, hdrop]
    cases rest.dropWhile isTemplateToken with
    | nil =>
      have hangle : closing.kind ≠ .rangle := hclosing.kind_ne (by decide)
      simp [hangle]
    | cons close after =>
      cases after with
      | nil => obtain h | h := hclosing <;> simp [startsWith, startsOperand, h]
      | cons next after => rfl

theorem optionalTemplate_traced (ofFunction : Bool) (tokens : List Token) :
    Traced id closing tokens (optionalTemplate ofFunction tokens)
      (optionalTemplate ofFunction (tokens ++ [closing])) := by
  rw [optionalTemplate, optionalTemplate, templateAhead_closed hclosing]
  split_ifs with hahead
  · cases tokens with
    | nil => cases hahead
    | cons token rest =>
      exact ((parameterList_traced hclosing (by decide) (by decide) rest).mono
        (List.suffix_cons token rest)).bind fun parameters left _ hleft => .read hleft
  · exact .read List.suffix_rfl

/-! ## Attributes -/

omit hclosing in
theorem add_reported {list : AttributeList} {word : Token} {after : List Token} {e : Error}
    (hdata : word.kind = .data) (h : list.add word = .error e) : e.ReportedIn (word :: after) := by
  unfold AttributeList.add at h
  dsimp only at h
  split at h
  · cases h
  · split at h
    · cases h
      exact .parse (List.nil_append _).symm ⟨hdata, rfl⟩
    · cases h

theorem attributesFrom_traced (list : AttributeList) (tokens : List Token) :
    Traced id closing tokens (attributesFrom list tokens)
      (attributesFrom list (tokens ++ [closing])) := by
  induction list, tokens using attributesFrom.induct with
  | case1 list =>
    exact .refused fun _ _ => if_neg (hclosing.kind_ne (by decide))
  | case2 list token rest hdata ih =>
    rw [List.cons_append, attributesFrom, attributesFrom, if_pos hdata, if_pos hdata]
    refine .step (fun e he => add_reported hdata he) fun list => ?_
    have hrest := List.suffix_cons token rest
    cases rest with
    | nil =>
      refine Traced.mono (.refused fun _ _ => ?_) hrest
      exact (if_neg (hclosing.kind_ne (by decide))).trans (if_neg (hclosing.kind_ne (by decide)))
    | cons next after =>
      have hafter := (List.suffix_cons next after).trans hrest
      simp only [List.cons_append]
      split_ifs
      · exact Traced.mono (ih list) hafter
      · exact .read hafter
      · exact Traced.refused_cons.mono hrest
  | case3 list token rest hdata =>
    rw [List.cons_append, attributesFrom, attributesFrom, if_neg hdata, if_neg hdata]
    exact .refused_cons

theorem optionalAttributes_traced (tokens : List Token) :
    Traced id closing tokens (optionalAttributes tokens)
      (optionalAttributes (tokens ++ [closing])) := by
  rw [optionalAttributes, optionalAttributes, startsWith_closed hclosing (by decide)]
  by_cases hopen : startsWith .lsquare tokens = true
  · rw [if_pos hopen, if_pos hopen, tail_closed hopen, startsWith_closed hclosing (by decide)]
    have htail := List.tail_suffix tokens
    split_ifs with hclose
    · rw [tail_closed hclose]
      exact .read ((List.tail_suffix _).trans htail)
    · exact (attributesFrom_traced hclosing {} tokens.tail).mono htail
  · rw [if_neg hopen, if_neg hopen]
    exact .read List.suffix_rfl

/-! ## Entities -/

theorem colonType_traced (tokens : List Token) :
    Traced id closing tokens (colonType tokens) (colonType (tokens ++ [closing])) := by
  rw [colonType, colonType, startsWith_closed hclosing (by decide)]
  split_ifs with hcolon
  · rw [tail_closed hcolon]
    exact (typeName_traced hclosing tokens.tail).mono (List.tail_suffix tokens)
  · exact .read List.suffix_rfl

theorem sigilVariable_traced (isParameter : Bool) (tokens : List Token) :
    Traced id closing tokens (sigilVariable isParameter tokens)
      (sigilVariable isParameter (tokens ++ [closing])) := by
  refine (colonType_traced hclosing tokens).bind fun type rest _ hrest => ?_
  refine ((optionalAttributes_traced hclosing rest).mono hrest).bind fun list left _ hleft => ?_
  exact .read hleft

theorem sigilFunction_traced (tokens : List Token) :
    Traced id closing tokens (sigilFunction tokens) (sigilFunction (tokens ++ [closing])) := by
  refine (colonType_traced hclosing tokens).bind fun type rest _ hrest => ?_
  refine ((optionalTemplate_traced hclosing true rest).mono hrest).bind
    fun template rest _ hrest => ?_
  dsimp only
  rw [startsWith_closed hclosing (by decide)]
  split_ifs with hopen
  · rw [tail_closed hopen]
    refine ((parameterList_traced hclosing (by decide) (by decide) rest.tail).mono
      ((List.tail_suffix rest).trans hrest)).bind fun parameters rest _ hrest => ?_
    exact ((optionalAttributes_traced hclosing rest).mono hrest).bind
      fun list left _ hleft => .read hleft
  · exact ((optionalAttributes_traced hclosing rest).mono hrest).bind
      fun list left _ hleft => .read hleft

theorem sigilEntity_traced (sigil : Sigil) (tokens : List Token) :
    Traced id closing tokens (sigilEntity sigil tokens)
      (sigilEntity sigil (tokens ++ [closing])) := by
  cases sigil with
  | func => exact sigilFunction_traced hclosing tokens
  | type =>
    exact (optionalTemplate_traced hclosing false tokens).bind fun template rest _ hrest =>
      .read hrest
  | var => exact sigilVariable_traced hclosing false tokens
  | param => exact sigilVariable_traced hclosing true tokens

theorem namedClass_traced (tokens : List Token) :
    Traced id closing tokens (namedClass tokens) (namedClass (tokens ++ [closing])) := by
  refine (expect_traced (by decide) tokens).bind fun word rest hword hrest => ?_
  obtain ⟨rfl, hdata⟩ := expect_sound hword
  refine .step (fun e he => fieldOf_reported hdata he) fun name => ?_
  exact ((optionalTemplate_traced hclosing false rest).mono hrest).bind
    fun template left _ hleft => .read hleft

theorem structured_traced (name : Field) (tokens : List Token) :
    Traced id closing tokens (structured name tokens) (structured name (tokens ++ [closing])) := by
  refine (optionalType_traced hclosing tokens).bind fun type rest _ hrest => ?_
  refine ((optionalTemplate_traced hclosing true rest).mono hrest).bind
    fun template rest _ hrest => ?_
  dsimp only
  rw [startsWith_closed hclosing (by decide)]
  split_ifs with hopen
  · rw [tail_closed hopen]
    refine ((parameterList_traced hclosing (by decide) (by decide) rest.tail).mono
      ((List.tail_suffix rest).trans hrest)).bind fun parameters rest _ hrest => ?_
    exact ((optionalAttributes_traced hclosing rest).mono hrest).bind
      fun list left _ hleft => .read hleft
  · exact ((optionalAttributes_traced hclosing rest).mono hrest).bind
      fun list left _ hleft => .read hleft

theorem unqualified_traced (tokens : List Token) :
    Traced id closing tokens (unqualified tokens) (unqualified (tokens ++ [closing])) := by
  cases tokens with
  | nil =>
    refine .refused fun _ hstranger => ?_
    rw [List.nil_append, unqualified, hstranger]
    rfl
  | cons token rest =>
    have hrest := List.suffix_cons token rest
    simp only [unqualified, List.cons_append]
    split
    · exact (sigilEntity_traced hclosing _ rest).mono hrest
    · exact (namedClass_traced hclosing rest).mono hrest
    · exact (structured_traced hclosing .any rest).mono hrest
    · next hdata =>
      refine .step (fun e he => fieldOf_reported hdata he) fun name => ?_
      rw [startsWith_closed hclosing (by decide)]
      split_ifs with hcolon
      · rw [tail_closed hcolon]
        exact (structured_traced hclosing name rest.tail).mono
          ((List.tail_suffix rest).trans hrest)
      · exact .read hrest
    · exact .refused_cons

theorem qualifierChain_traced (tokens : List Token) :
    Traced id closing tokens (qualifierChain tokens) (qualifierChain (tokens ++ [closing])) := by
  fun_induction qualifierChain tokens with
  | case1 scope colons rest hkinds ih =>
    rw [List.cons_append, List.cons_append, qualifierChain, if_pos hkinds]
    refine .step (fun e he => fieldOf_reported hkinds.1 he) fun field => ?_
    refine (ih.mono ?_).bind fun fields left _ hleft => .read hleft
    exact (List.suffix_cons colons rest).trans (List.suffix_cons scope _)
  | case2 scope colons rest hkinds =>
    rw [List.cons_append, List.cons_append, qualifierChain, if_neg hkinds]
    exact .read List.suffix_rfl
  | case3 tokens hshort =>
    rcases tokens with _ | ⟨scope, _ | ⟨colons, rest⟩⟩
    · exact .read List.suffix_rfl
    · have hkinds : ¬(scope.kind = .data ∧ closing.kind = .doubleColon) := fun hkinds =>
        hclosing.kind_ne (by decide) hkinds.2
      rw [List.cons_append, List.nil_append, qualifierChain, if_neg hkinds]
      exact .read List.suffix_rfl
    · exact absurd rfl (hshort scope colons rest)

/-- Reading a term. -/
theorem term_traced (tokens : List Token) :
    Traced id closing tokens (term tokens) (term (tokens ++ [closing])) := by
  rw [term, term, startsWith_closed hclosing (by decide)]
  have hfront : (if startsWith .doubleColon tokens then (tokens ++ [closing]).tail
      else tokens ++ [closing]) =
      (if startsWith .doubleColon tokens then tokens.tail else tokens) ++ [closing] := by
    split_ifs with hscope
    · exact tail_closed hscope
    · rfl
  have hsuffix : (if startsWith .doubleColon tokens then tokens.tail else tokens) <:+ tokens := by
    split_ifs
    · exact List.tail_suffix tokens
    · exact List.suffix_rfl
  dsimp only
  rw [hfront]
  refine ((qualifierChain_traced hclosing _).mono hsuffix).bind fun chain rest _ hrest => ?_
  exact ((unqualified_traced hclosing rest).mono hrest).bind fun entity left _ hleft => .read hleft

end Terms

end StructSearch.Query
