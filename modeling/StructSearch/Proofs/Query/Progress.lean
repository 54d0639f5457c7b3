import Mathlib.Tactic
import StructSearch.Proofs.Query.Cursor

/-!
# Walks go forwards

Where a walk moves by hand, it has looked ahead before, and what it saw keeps the move among the
tokens. So no move of a walk goes back or beyond the last token, whether or not the walk succeeds in
the end. How many tokens a walk takes at least can be read off its result; these numbers add up when
one walk follows another.

Results:
* `Takes.bind`: walks one after another.
* `forwards_loop`, `loop_eq`: loops whose rounds take a token before they go on. They are their own
  round and then the loop again, since they never make as many rounds as they may.
* `advances_expression`: every expression takes a token.
* `progress`: the walks of all rules, and single rounds of all loops.
-/

namespace StructSearch.Query

/-! ## Moves -/

namespace Cursor

variable {tokens : List Token} {c c' : Cursor tokens}

@[simp]
theorem ahead_skip (c : Cursor tokens) (count : ℕ) : (c.skip count).ahead = c.ahead.drop count := by
  simp [ahead, skip]

theorem ahead_skip_one (c : Cursor tokens) : (c.skip 1).ahead = c.ahead.tail := by
  rw [ahead_skip, List.drop_one]

theorem ahead_skip_of_cons {token : Token} {rest : List Token} (h : c.ahead = token :: rest) :
    (c.skip 1).ahead = rest := by
  rw [ahead_skip_one, h, List.tail_cons]

theorem length_ahead (c : Cursor tokens) : c.ahead.length = tokens.length - c.pos :=
  List.length_drop

/-- A single move: the place that is left goes on the trail, and the new one is further on and not
beyond the last token. -/
structure Step (c c' : Cursor tokens) : Prop where
  passed : c'.passed = c.pos :: c.passed
  forwards : c.pos < c'.pos
  within : c'.pos ≤ tokens.length

/-- `c'` is reached from `c` by moves that go forwards among the tokens. The trail keeps every move,
so a walk that made any other move on its way does not end at such a place. -/
def Reaches : Cursor tokens → Cursor tokens → Prop := Relation.ReflTransGen Step

theorem step_skip {count : ℕ} (hpos : 0 < count) (hcount : count ≤ c.ahead.length) :
    c.Step (c.skip count) := by
  rw [length_ahead] at hcount
  exact ⟨rfl, by simp only [skip]; omega, by simp only [skip]; omega⟩

namespace Reaches

theorem refl (c : Cursor tokens) : c.Reaches c := Relation.ReflTransGen.refl

theorem trans {c'' : Cursor tokens} (h : c.Reaches c') (h' : c'.Reaches c'') : c.Reaches c'' :=
  Relation.ReflTransGen.trans h h'

theorem skip {count : ℕ} (hpos : 0 < count) (hcount : count ≤ c.ahead.length) :
    c.Reaches (c.skip count) :=
  .single (step_skip hpos hcount)

/-- The tokens between two places are ahead of the first one only. -/
theorem length_add_le (h : c.Reaches c') {count : ℕ} (hcount : c.pos + count ≤ c'.pos) :
    c'.ahead.length + count ≤ c.ahead.length := by
  rw [length_ahead, length_ahead]
  cases h with
  | refl => omega
  | tail _ hstep =>
    have hwithin := hstep.within
    omega

end Reaches

end Cursor

/-! ## Tokens taken -/

namespace Walk

variable {tokens : List Token} {α β σ : Type} {gain : α → ℕ} {total : β → ℕ}

/-- From `c`, the walk goes forwards only, and takes at least as many tokens as `gain` says of its
result if it succeeds. -/
def TakesFrom (c : Cursor tokens) (gain : α → ℕ) (walk : Walk tokens α) : Prop :=
  match walk c with
  | .ok value c' => c.Reaches c' ∧ c.pos + gain value ≤ c'.pos
  | .error _ c' => c.Reaches c'

/-- Wherever it starts, the walk goes forwards only and takes that many tokens. -/
def Takes (gain : α → ℕ) (walk : Walk tokens α) : Prop := ∀ c, walk.TakesFrom c gain

/-- The walk never goes back or beyond the tokens. -/
abbrev Forwards (walk : Walk tokens α) : Prop := walk.Takes fun _ => 0

/-- Nor does this walk, and when it succeeds it has taken a token. -/
abbrev Advances (walk : Walk tokens α) : Prop := walk.Takes fun _ => 1

/-- One token for a result, none for no result. -/
def found : Option α → ℕ
  | some _ => 1
  | none => 0

/-- One token before a loop goes on, none if it is left. -/
def continued : ForInStep σ → ℕ
  | .yield _ => 1
  | .done _ => 0

theorem TakesFrom.bind {c : Cursor tokens} {walk : Walk tokens α} {next : α → Walk tokens β}
    (h : walk.TakesFrom c gain)
    (hnext : ∀ value c', walk c = .ok value c' →
      (next value).TakesFrom c' fun result => total result - gain value) :
    (walk >>= next).TakesFrom c total := by
  simp only [TakesFrom, Bind.bind, EStateM.bind] at h hnext ⊢
  cases hwalk : walk c with
  | error halt c' => rwa [hwalk] at h
  | ok value c' =>
    rw [hwalk] at h
    obtain ⟨hreach, hgain⟩ := h
    have hrest := hnext value c' hwalk
    simp only
    cases hresult : next value c' with
    | error halt c'' =>
      rw [hresult] at hrest
      exact hreach.trans hrest
    | ok result c'' =>
      rw [hresult] at hrest
      exact ⟨hreach.trans hrest.1, by have := hrest.2; omega⟩

/-- What follows a look ahead may rely on it. -/
theorem look_apply (next : List Token → Walk tokens α) (c : Cursor tokens) :
    (ahead >>= next) c = next c.ahead c := rfl

namespace Takes

/-- The tokens that walks take one after another add up. -/
theorem bind {walk : Walk tokens α} {next : α → Walk tokens β} (h : walk.Takes gain)
    (hnext : ∀ value, (next value).Takes fun result => total result - gain value) :
    (walk >>= next).Takes total :=
  fun c => (h c).bind fun value c' _ => hnext value c'

theorem mono {walk : Walk tokens α} {less : α → ℕ} (h : walk.Takes gain)
    (hle : ∀ value, less value ≤ gain value) : walk.Takes less := by
  intro c
  have hc := h c
  unfold TakesFrom at hc ⊢
  split at hc
  · next value c' _ => exact ⟨hc.1, (Nat.add_le_add_left (hle value) _).trans hc.2⟩
  · exact hc

theorem forwards {walk : Walk tokens α} (h : walk.Takes gain) : walk.Forwards :=
  h.mono fun _ => Nat.zero_le _

/-- What a walk took is no longer ahead. -/
theorem length_add_le {walk : Walk tokens α} {c c' : Cursor tokens} {value : α}
    (h : walk.Takes gain) (hwalk : walk c = .ok value c') :
    c'.ahead.length + gain value ≤ c.ahead.length := by
  have hc := h c
  rw [TakesFrom, hwalk] at hc
  exact hc.1.length_add_le hc.2

theorem length_le {walk : Walk tokens α} {c c' : Cursor tokens} {value : α} (h : walk.Takes gain)
    (hwalk : walk c = .ok value c') : c'.ahead.length ≤ c.ahead.length :=
  (Nat.le_add_right _ _).trans (h.length_add_le hwalk)

theorem length_lt {walk : Walk tokens α} {c c' : Cursor tokens} {value : α} (h : walk.Takes gain)
    (hwalk : walk c = .ok value c') (hpos : 0 < gain value) :
    c'.ahead.length < c.ahead.length := by
  have hadd := h.length_add_le hwalk
  omega

theorem pure {value : α} (hgain : gain value = 0) :
    (Pure.pure value : Walk tokens α).Takes gain :=
  fun c => ⟨.refl c, hgain.symm ▸ le_rfl⟩

theorem throw (halt : Halt) : (MonadExcept.throw halt : Walk tokens α).Takes gain :=
  fun c => .refl c

theorem look {next : List Token → Walk tokens α}
    (h : ∀ c : Cursor tokens, (next c.ahead).TakesFrom c gain) : (ahead >>= next).Takes gain := h

end Takes

theorem forwards_lift (x : Except Error α) : Forwards (lift x : Walk tokens α) := by
  cases x with
  | ok value => exact .pure rfl
  | error e => exact .throw _

theorem eq_of_lift_eq {x : Except Error α} {c c' : Cursor tokens} {value : α}
    (h : lift x c = .ok value c') : c' = c := by
  cases x with
  | ok value => exact (EStateM.Result.ok.inj h).2.symm
  | error e => cases h

theorem takes_fail (expected : Expected) : (fail expected : Walk tokens α).Takes gain :=
  .look fun c => .refl c

/-- What was seen is there to be moved over. -/
theorem length_of_kindAt {index : ℕ} {ahead : List Token} {kind : Token.Kind}
    (h : kindAt index ahead = some kind) : index + 1 ≤ ahead.length := by
  obtain ⟨token, htoken, -⟩ := Option.map_eq_some_iff.1 h
  exact (List.getElem?_eq_some_iff.1 htoken).1

/-- A move by hand is good where the tokens for it have been seen. -/
theorem takesFrom_skip {c : Cursor tokens} {count : ℕ} (hpos : 0 < count)
    (hcount : count ≤ c.ahead.length) : (skip count).TakesFrom c fun _ => count :=
  ⟨.skip hpos hcount, le_rfl⟩

theorem advance_cons {c : Cursor tokens} {token : Token} {rest : List Token}
    (h : c.ahead = token :: rest) : advance c = .ok (some token) (c.skip 1) := by
  rw [advance, look_apply, h]
  rfl

theorem takes_advance : (advance : Walk tokens (Option Token)).Takes found := by
  refine .look fun c => ?_
  cases hahead : c.ahead with
  | nil => exact ⟨.refl c, le_rfl⟩
  | cons token rest => exact ⟨.skip one_pos (by simp [hahead]), le_rfl⟩

theorem takes_eat (kind : Token.Kind) : (eat kind : Walk tokens (Option Token)).Takes found := by
  refine .look fun c => ?_
  split_ifs
  · exact takes_advance c
  · exact ⟨.refl c, le_rfl⟩

theorem advances_expect (kind : Token.Kind) (expected : Expected) :
    Advances (expect kind expected : Walk tokens Token) := by
  refine (takes_eat kind).bind ?_
  rintro (_ | token)
  · exact takes_fail expected
  · exact .pure rfl

theorem advances_enter (kind : Token.Kind) : Advances (enter kind : Walk tokens Token) := by
  refine (takes_eat kind).bind ?_
  rintro (_ | token)
  · exact .throw _
  · exact .pure rfl

/-! ## Loops -/

theorem forwards_rounds {round : σ → Walk tokens (ForInStep σ)}
    (h : ∀ state, (round state).Takes continued) (limit : ℕ) :
    ∀ state, Forwards (rounds round limit state) := by
  induction limit with
  | zero => exact fun _ => .throw _
  | succ limit ih =>
    intro state
    refine (h state).bind ?_
    rintro (result | state)
    · exact .pure rfl
    · exact ih state

theorem forwards_loop {round : σ → Walk tokens (ForInStep σ)}
    (h : ∀ state, (round state).Takes continued) (state : σ) : Forwards (loop round state) :=
  forwards_rounds h _ state

theorem bind_apply_congr {c : Cursor tokens} {walk : Walk tokens α} {next other : α → Walk tokens β}
    (h : ∀ value c', walk c = .ok value c' → next value c' = other value c') :
    (walk >>= next) c = (walk >>= other) c := by
  simp only [Bind.bind, EStateM.bind]
  cases hwalk : walk c with
  | error halt c' => rfl
  | ok value c' => exact h value c' hwalk

/-- A loop never needs more rounds than there are tokens, and one to leave it. -/
theorem rounds_succ {round : σ → Walk tokens (ForInStep σ)}
    (h : ∀ state, (round state).Takes continued) {limit : ℕ} :
    ∀ {state : σ} {c : Cursor tokens}, c.ahead.length < limit →
      rounds round (limit + 1) state c = rounds round limit state c := by
  induction limit with
  | zero => exact fun hlimit => absurd hlimit (Nat.not_lt_zero _)
  | succ limit ih =>
    intro state c hlimit
    refine bind_apply_congr ?_
    rintro (result | next) c' hround
    · rfl
    · have hlt := (h state).length_lt hround one_pos
      exact ih (by omega)

/-- A loop is its round, and then the loop again unless it is left. -/
theorem loop_eq {round : σ → Walk tokens (ForInStep σ)}
    (h : ∀ state, (round state).Takes continued) (state : σ) :
    loop round state = (do
      match ← round state with
      | .done result => return result
      | .yield state => loop round state) := by
  funext c
  refine bind_apply_congr ?_
  rintro (result | next) c' hround
  · rfl
  · have hlt := (h state).length_lt hround one_pos
    rw [Cursor.length_ahead c] at hlt
    exact (rounds_succ h (by omega)).symm

/-! ## Types and parameters -/

theorem takes_typeRound (text : String) :
    (typeRound text : Walk tokens (ForInStep String)).Takes continued := by
  refine .look fun c => ?_
  split_ifs with hsegment
  · -- the word behind the colons was seen, so that there is room for the move over them
    have hlength := length_of_kindAt hsegment.2
    refine (takesFrom_skip one_pos (by omega)).bind fun _ c' _ => ?_
    refine (takes_advance c').bind fun segment c'' _ => ?_
    cases segment with
    | none => exact Takes.pure rfl c''
    | some segment => exact Takes.pure rfl c''
  · exact Takes.pure rfl c

variable [Regex.Engine]

theorem advances_typeName : Advances (typeName : Walk tokens Field) :=
  (advances_expect _ _).bind fun _ =>
    (forwards_loop takes_typeRound _).bind fun _ => forwards_lift _

theorem forwards_optionalType : Forwards (optionalType : Walk tokens Field) := by
  refine .look fun c => ?_
  split_ifs
  · exact advances_typeName.forwards c
  · exact Takes.pure rfl c

theorem forwards_entryType (colon : Option Token) :
    Forwards (entryType colon : Walk tokens Field) := by
  cases colon with
  | none => exact .pure rfl
  | some colon => exact forwards_optionalType

theorem advances_parameter : Advances (parameter : Walk tokens Parameter) := by
  refine (takes_eat _).bind ?_
  rintro (_ | ellipsis)
  · refine (takes_eat _).bind fun name => (takes_eat _).bind fun colon => ?_
    split_ifs with hnone
    · exact takes_fail _
    · have hrest : Forwards (do
          let field ← lift (optionalName name)
          let type ← entryType colon
          return Parameter.typed field type : Walk tokens Parameter) :=
        (forwards_lift _).bind fun _ => (forwards_entryType _).bind fun _ => .pure rfl
      refine hrest.mono fun _ => ?_
      cases name <;> cases colon <;> simp_all [found]
  · exact .pure rfl

theorem takes_parameterRound (closing : Token.Kind) (expected : Expected)
    (entries : List Parameter) :
    (parameterRound closing expected entries :
      Walk tokens (ForInStep (List Parameter))).Takes continued := by
  refine advances_parameter.bind fun entry => (takes_eat _).bind ?_
  rintro (_ | comma)
  · exact (advances_expect _ _).bind fun _ => .pure rfl
  · exact .pure rfl

theorem advances_parameterList (opening closing : Token.Kind) (expected : Expected) :
    Advances (parameterList opening closing expected : Walk tokens (List Parameter)) := by
  refine (advances_enter _).bind fun _ => (takes_eat _).bind ?_
  rintro (_ | closed)
  · exact forwards_loop (takes_parameterRound _ _) _
  · exact .pure rfl

theorem forwards_optionalParameters :
    Forwards (optionalParameters : Walk tokens (List Parameter)) := by
  refine .look fun c => ?_
  split_ifs
  · exact (advances_parameterList _ _ _).forwards c
  · exact Takes.pure rfl c

theorem forwards_optionalTemplate (ofFunction : Bool) :
    Forwards (optionalTemplate ofFunction : Walk tokens (Option (List Parameter))) := by
  refine .look fun c => ?_
  split_ifs
  · exact (advances_parameterList _ _ _).forwards.bind (fun _ => .pure rfl) c
  · exact Takes.pure rfl c

/-! ## Attributes -/

omit [Regex.Engine] in
theorem takes_attributeRound (list : AttributeList) :
    (attributeRound list : Walk tokens (ForInStep AttributeList)).Takes continued := by
  refine (advances_expect _ _).bind fun _ => (forwards_lift _).bind fun _ => (takes_eat _).bind ?_
  rintro (_ | comma)
  · exact (advances_expect _ _).bind fun _ => .pure rfl
  · exact .pure rfl

omit [Regex.Engine] in
theorem forwards_optionalAttributes :
    Forwards (optionalAttributes : Walk tokens AttributeList) := by
  refine (takes_eat _).bind ?_
  rintro (_ | opened)
  · exact .pure rfl
  · refine (takes_eat _).bind ?_
    rintro (_ | closed)
    · exact forwards_loop takes_attributeRound _
    · exact .pure rfl

/-! ## Entities -/

theorem forwards_colonType : Forwards (colonType : Walk tokens Field) := by
  refine (takes_eat _).bind ?_
  rintro (_ | colon)
  · exact .pure rfl
  · exact advances_typeName.forwards

theorem forwards_sigilVariable (isParameter : Bool) :
    Forwards (sigilVariable isParameter : Walk tokens Entity) :=
  forwards_colonType.bind fun _ => forwards_optionalAttributes.bind fun _ => .pure rfl

theorem forwards_sigilFunction : Forwards (sigilFunction : Walk tokens Entity) :=
  forwards_colonType.bind fun _ => (forwards_optionalTemplate _).bind fun _ =>
    forwards_optionalParameters.bind fun _ => forwards_optionalAttributes.bind fun _ => .pure rfl

theorem forwards_sigilEntity (sigil : Sigil) :
    Forwards (sigilEntity sigil : Walk tokens Entity) := by
  cases sigil with
  | func => exact forwards_sigilFunction
  | type => exact (forwards_optionalTemplate _).bind fun _ => .pure rfl
  | var | param => exact forwards_sigilVariable _

theorem advances_namedClass : Advances (namedClass : Walk tokens Entity) :=
  (advances_expect _ _).bind fun _ => (forwards_lift _).bind fun _ =>
    (forwards_optionalTemplate _).bind fun _ => .pure rfl

theorem advances_structured (name : Option Token) :
    Advances (structured name : Walk tokens Entity) := by
  refine (advances_enter _).bind fun _ => (forwards_lift _).bind fun _ =>
    forwards_optionalType.bind fun _ => (forwards_optionalTemplate _).bind fun _ => ?_
  refine .look fun c => ?_
  split_ifs
  · exact (advances_parameterList _ _ _).forwards.bind
      (fun _ => forwards_optionalAttributes.bind fun _ => .pure rfl) c
  · exact forwards_optionalAttributes.bind (fun _ => .pure rfl) c

omit [Regex.Engine] in
/-- A rule behind a token that has been seen. -/
theorem takesFrom_skip_bind {c : Cursor tokens} {kind : Token.Kind} {next : Unit → Walk tokens α}
    (hkind : kindAt 0 c.ahead = some kind) (hnext : (next ()).Takes fun value => gain value - 1) :
    (skip 1 >>= next).TakesFrom c gain :=
  (takesFrom_skip one_pos (length_of_kindAt hkind)).bind fun _ c' _ => hnext c'

theorem advances_unqualified : Advances (unqualified : Walk tokens Entity) := by
  refine .look fun c => ?_
  split
  · next sigil hkind => exact takesFrom_skip_bind hkind (forwards_sigilEntity sigil)
  · next hkind => exact takesFrom_skip_bind hkind advances_namedClass.forwards
  · exact advances_structured none c
  · split_ifs
    · exact takes_advance.forwards.bind (fun name => advances_structured name) c
    · exact (advances_expect _ _).bind (fun _ => (forwards_lift _).bind fun _ => .pure rfl) c
  · exact takes_fail _ c

theorem takes_qualifierRound (chain : List Field) :
    (qualifierRound chain : Walk tokens (ForInStep (List Field))).Takes continued := by
  refine .look fun c => ?_
  split_ifs with hscope
  · have hlength := length_of_kindAt hscope.2
    obtain ⟨token, rest, hahead⟩ := List.exists_cons_of_length_pos (by omega : 0 < c.ahead.length)
    refine (takes_advance c).bind fun scope c' hadvance => ?_
    -- the colons were seen behind the word, and compiling it moves nothing
    obtain ⟨rfl, rfl⟩ := EStateM.Result.ok.inj ((advance_cons hahead).symm.trans hadvance)
    refine (forwards_lift _ _).bind fun field c'' hlift => ?_
    obtain rfl := eq_of_lift_eq hlift
    refine (takesFrom_skip one_pos ?_).bind fun _ c' _ => Takes.pure rfl c'
    rw [Cursor.ahead_skip, List.length_drop]
    omega
  · exact Takes.pure rfl c

theorem advances_term : Advances (term : Walk tokens Pattern) :=
  (takes_eat _).forwards.bind fun _ => (forwards_loop takes_qualifierRound _).bind fun _ =>
    advances_unqualified.bind fun _ => .pure rfl

/-! ## Expressions -/

omit [Regex.Engine] in
theorem takes_operator : (operator : Walk tokens (Option Operator)).Takes found := by
  refine .look fun c => ?_
  split
  · next hkind => exact takesFrom_skip_bind hkind (.pure rfl)
  · next hkind => exact takesFrom_skip_bind hkind (.pure rfl)
  · next hkind => exact takesFrom_skip_bind hkind (.pure rfl)
  · next hnot =>
    split_ifs with hright hleft
    · exact (takesFrom_skip two_pos (length_of_kindAt hright)).bind fun _ c' _ => Takes.pure rfl c'
    · exact (takesFrom_skip two_pos (length_of_kindAt hleft)).bind fun _ c' _ => Takes.pure rfl c'
    · exact takesFrom_skip_bind hnot (takes_fail _)
  · exact Takes.pure rfl c

section Nested

variable {nested : Walk tokens Pattern} (hnested : nested.Forwards)
include hnested

theorem advances_scope : Advances (scope nested) := by
  refine (advances_enter _).bind fun _ => (takes_eat _).bind ?_
  rintro (_ | closed)
  · exact hnested.bind fun _ => (advances_expect _ _).bind fun _ => .pure rfl
  · exact .pure rfl

theorem advances_primary : Advances (primary nested) := by
  refine (takes_eat _).bind ?_
  rintro (_ | opened)
  · exact advances_term
  · exact hnested.bind fun _ => (advances_expect _ _).bind fun _ => .pure rfl

theorem takes_operandRound (pattern : Pattern) : (operandRound nested pattern).Takes continued := by
  refine .look fun c => ?_
  split
  · exact takes_advance.forwards.bind (fun _ => (advances_expect _ _).bind fun _ =>
      (forwards_lift _).bind fun _ => .pure rfl) c
  · next hkind =>
    split_ifs
    · exact takesFrom_skip_bind hkind
        ((advances_expect _ _).bind fun _ => (forwards_lift _).bind fun _ => .pure rfl)
    · exact Takes.pure rfl c
  · refine (advances_scope hnested).bind ?_ c
    rintro (_ | inner)
    · exact .pure rfl
    · exact .pure rfl
  · exact Takes.pure rfl c

theorem advances_operand : Advances (operand nested) :=
  (advances_primary hnested).bind fun _ => forwards_loop (takes_operandRound hnested) _

theorem takes_conjunctionRound (left : Pattern) :
    (conjunctionRound nested left).Takes continued := by
  refine (takes_eat _).bind ?_
  rintro (_ | both)
  · refine (takes_eat _).bind ?_
    rintro (_ | tilde)
    · exact .pure rfl
    · exact (advances_operand hnested).bind fun _ => .pure rfl
  · exact (advances_operand hnested).bind fun _ => .pure rfl

theorem advances_conjunction : Advances (conjunction nested) :=
  (advances_operand hnested).bind fun _ => forwards_loop (takes_conjunctionRound hnested) _

theorem takes_expressionRound (left : Pattern) :
    (expressionRound nested left).Takes continued := by
  refine takes_operator.bind ?_
  rintro (_ | operator)
  · exact .pure rfl
  · exact (advances_conjunction hnested).bind fun _ => .pure rfl

end Nested

theorem advances_expression (depth : ℕ) : Advances (expression depth : Walk tokens Pattern) := by
  induction depth with
  | zero => exact .throw _
  | succ depth ih =>
    exact (advances_conjunction ih.forwards).bind fun _ =>
      forwards_loop (takes_expressionRound ih.forwards) _

theorem advances_parse (depth : ℕ) : Advances (parse depth : Walk tokens Pattern) := by
  refine (advances_expression depth).bind fun pattern => .look fun c => ?_
  cases c.ahead with
  | nil => exact Takes.pure rfl c
  | cons token rest => exact takes_fail _ c

/-! ## All rules and loops -/

/-- What is promised of the walks of all rules, with `depth` expressions inside each other, and of
single rounds of all loops. -/
structure Progress (tokens : List Token) (depth : ℕ) : Prop where
  parse : Advances (parse depth : Walk tokens Pattern)
  expression : Advances (expression depth : Walk tokens Pattern)
  conjunction : Advances (conjunction (Walk.expression depth) : Walk tokens Pattern)
  operand : Advances (operand (Walk.expression depth) : Walk tokens Pattern)
  primary : Advances (primary (Walk.expression depth) : Walk tokens Pattern)
  scope : Advances (scope (Walk.expression depth) : Walk tokens (Option Pattern))
  term : Advances (term : Walk tokens Pattern)
  unqualified : Advances (unqualified : Walk tokens Entity)
  namedClass : Advances (namedClass : Walk tokens Entity)
  structured : ∀ name, Advances (structured name : Walk tokens Entity)
  typeName : Advances (typeName : Walk tokens Field)
  parameter : Advances (parameter : Walk tokens Parameter)
  parameterList : ∀ opening closing expected,
    Advances (parameterList opening closing expected : Walk tokens (List Parameter))
  sigilEntity : ∀ sigil, Forwards (sigilEntity sigil : Walk tokens Entity)
  optionalAttributes : Forwards (optionalAttributes : Walk tokens AttributeList)
  operator : (operator : Walk tokens (Option Operator)).Takes found
  advance : (advance : Walk tokens (Option Token)).Takes found
  eat : ∀ kind, (eat kind : Walk tokens (Option Token)).Takes found
  expect : ∀ kind expected, Advances (expect kind expected : Walk tokens Token)
  enter : ∀ kind, Advances (enter kind : Walk tokens Token)
  expressionRound : ∀ left, (expressionRound (Walk.expression depth) left :
    Walk tokens (ForInStep Pattern)).Takes continued
  conjunctionRound : ∀ left, (conjunctionRound (Walk.expression depth) left :
    Walk tokens (ForInStep Pattern)).Takes continued
  operandRound : ∀ pattern, (operandRound (Walk.expression depth) pattern :
    Walk tokens (ForInStep Pattern)).Takes continued
  qualifierRound : ∀ chain,
    (qualifierRound chain : Walk tokens (ForInStep (List Field))).Takes continued
  typeRound : ∀ text, (typeRound text : Walk tokens (ForInStep String)).Takes continued
  parameterRound : ∀ closing expected entries,
    (parameterRound closing expected entries :
      Walk tokens (ForInStep (List Parameter))).Takes continued
  attributeRound : ∀ list,
    (attributeRound list : Walk tokens (ForInStep AttributeList)).Takes continued

theorem progress (tokens : List Token) (depth : ℕ) : Progress tokens depth :=
  have hnested : Forwards (expression depth : Walk tokens Pattern) :=
    (advances_expression depth).forwards
  { parse := advances_parse depth
    expression := advances_expression depth
    conjunction := advances_conjunction hnested
    operand := advances_operand hnested
    primary := advances_primary hnested
    scope := advances_scope hnested
    term := advances_term
    unqualified := advances_unqualified
    namedClass := advances_namedClass
    structured := advances_structured
    typeName := advances_typeName
    parameter := advances_parameter
    parameterList := advances_parameterList
    sigilEntity := forwards_sigilEntity
    optionalAttributes := forwards_optionalAttributes
    operator := takes_operator
    advance := takes_advance
    eat := takes_eat
    expect := advances_expect
    enter := advances_enter
    expressionRound := takes_expressionRound hnested
    conjunctionRound := takes_conjunctionRound hnested
    operandRound := takes_operandRound hnested
    qualifierRound := takes_qualifierRound
    typeRound := takes_typeRound
    parameterRound := takes_parameterRound
    attributeRound := takes_attributeRound }

end Walk

end StructSearch.Query
