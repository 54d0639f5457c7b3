import Mathlib.Tactic
import StructSearch.Proofs.Query.Steps
import StructSearch.Proofs.Query.Progress

/-!
# Walks read what the readers read

A walk and the reader of its rule do the same: the reader returns the tokens that it leaves, and the
walk has them ahead. Where the reader fails, the walk fails with the same error. That no rule is
entered without the token that opens it, and that no loop is cut short, is part of this, since the
readers have no such failures. The walks for expressions need more depth than there are tokens
ahead, no more, since an expression inside another stands behind a delimiter.

Results:
* `ReadsFrom.bind`, `ReadsFrom.eat`, `ReadsFrom.expect`: walks one after another and single tokens.
* `reads_term`: the walk for terms.
* `readsNested_expression`: the walk for expressions.
* `readsFrom_parse`: the walk over all tokens.
-/

namespace StructSearch.Query

/-- How a walk shows that a reader stops short. -/
def Halt.ofStop : Stop → Halt
  | .error e => .error e
  | .exhausted => .exhausted

namespace Walk

variable {tokens : List Token} {ε α β : Type}

/-! ## Reading along a walk -/

/-- From `c`, the walk has this outcome: it returns the value that is read and leaves ahead what the
reader leaves, or it fails as the reader does. -/
def ReadsFrom (c : Cursor tokens) (wrap : ε → Halt) (outcome : Except ε (Read α))
    (walk : Walk tokens α) : Prop :=
  match walk c with
  | .ok value c' => outcome = .ok (value, c'.ahead)
  | .error halt _ => ∃ e, outcome = .error e ∧ halt = wrap e

/-- The walk does what the reader does with the tokens ahead. -/
def Reads (wrap : ε → Halt) (reader : List Token → Except ε (Read α)) (walk : Walk tokens α) :
    Prop :=
  ∀ c : Cursor tokens, walk.ReadsFrom c wrap (reader c.ahead)

theorem startsWith_of_kind {kind : Token.Kind} {token : Token} {ahead rest : List Token}
    (hahead : ahead = token :: rest) (hkind : token.kind = kind) :
    startsWith kind ahead = true := by
  rw [hahead]
  exact decide_eq_true hkind

theorem kindAt_zero (token : Token) (rest : List Token) :
    kindAt 0 (token :: rest) = some token.kind := rfl

theorem kindAt_one_eq_some_iff {kind : Token.Kind} {token : Token} {rest : List Token} :
    kindAt 1 (token :: rest) = some kind ↔ startsWith kind rest = true := by
  cases rest with
  | nil => simp [kindAt, startsWith]
  | cons next rest => simp [kindAt, startsWith]

theorem kindAt_one_ne_of_short {kind : Token.Kind} {ahead : List Token}
    (hshort : ∀ first second rest, ahead = first :: second :: rest → False) :
    kindAt 1 ahead ≠ some kind := by
  rcases ahead with _ | ⟨first, _ | ⟨second, rest⟩⟩
  · simp [kindAt]
  · simp [kindAt]
  · exact (hshort first second rest rfl).elim

namespace ReadsFrom

variable {c : Cursor tokens} {wrap : ε → Halt}

theorem bind {outcome : Except ε (Read α)} {reader : Read α → Except ε (Read β)}
    {walk : Walk tokens α} {next : α → Walk tokens β} (h : walk.ReadsFrom c wrap outcome)
    (hnext : ∀ value c', walk c = .ok value c' →
      (next value).ReadsFrom c' wrap (reader (value, c'.ahead))) :
    (walk >>= next).ReadsFrom c wrap (outcome >>= reader) := by
  simp only [ReadsFrom, Bind.bind, EStateM.bind] at h hnext ⊢
  cases hwalk : walk c with
  | error halt c' =>
    rw [hwalk] at h
    obtain ⟨e, rfl, rfl⟩ := h
    exact ⟨e, rfl, rfl⟩
  | ok value c' =>
    rw [hwalk] at h
    obtain rfl := h
    exact hnext value c' hwalk

theorem pure {value : α} {outcome : Except ε (Read α)} (h : outcome = .ok (value, c.ahead)) :
    (Pure.pure value : Walk tokens α).ReadsFrom c wrap outcome := h

theorem fail {expected : Expected} {outcome : Except Error (Read α)}
    (h : outcome = .error (unexpected expected c.ahead)) :
    (Walk.fail expected : Walk tokens α).ReadsFrom c Halt.error outcome :=
  ⟨_, h, rfl⟩

theorem lift {x : Except Error α} {rest : List Token} (h : c.ahead = rest) :
    (Walk.lift x).ReadsFrom c Halt.error (x >>= fun value => .ok (value, rest)) := by
  cases x with
  | error e => exact ⟨e, rfl, rfl⟩
  | ok value => exact congrArg (fun left => Except.ok (value, left)) h.symm

theorem lift_bind {x : Except Error α} {reader : α → Except Error (Read β)}
    {next : α → Walk tokens β}
    (h : ∀ value, (next value).ReadsFrom c Halt.error (reader value)) :
    (Walk.lift x >>= next).ReadsFrom c Halt.error (x >>= reader) := by
  cases x with
  | error e => exact ⟨e, rfl, rfl⟩
  | ok value => exact h value

theorem lift_bind_stop {x : Except Error α} {reader : α → Except Stop (Read β)}
    {next : α → Walk tokens β}
    (h : ∀ value, (next value).ReadsFrom c Halt.ofStop (reader value)) :
    (Walk.lift x >>= next).ReadsFrom c Halt.ofStop (Stop.lift x >>= reader) := by
  cases x with
  | error e => exact ⟨.error e, rfl, rfl⟩
  | ok value => exact h value

theorem ofStop {walk : Walk tokens α} {outcome : Except Error (Read α)}
    (h : walk.ReadsFrom c Halt.error outcome) :
    walk.ReadsFrom c Halt.ofStop (Stop.lift outcome) := by
  unfold ReadsFrom at h ⊢
  split at h
  · rw [h]
    rfl
  · obtain ⟨e, rfl, rfl⟩ := h
    exact ⟨.error e, rfl, rfl⟩

theorem of_ofStop {walk : Walk tokens α} {outcome : Except Error (Read α)}
    (h : walk.ReadsFrom c Halt.ofStop (Stop.lift outcome)) :
    walk.ReadsFrom c Halt.error outcome := by
  unfold ReadsFrom at h ⊢
  split at h
  · exact lift_eq_ok.1 h
  · obtain ⟨stop, hstop, rfl⟩ := h
    cases outcome with
    | ok read => cases hstop
    | error e =>
      obtain rfl := Except.error.inj hstop
      exact ⟨e, rfl, rfl⟩

/-- A walk that cannot fail leaves what its reader leaves. -/
theorem bind_ok {read : Read α} {outcome : Except ε (Read β)} {walk : Walk tokens α}
    {next : α → Walk tokens β} (h : walk.ReadsFrom c wrap (.ok read))
    (hnext : ∀ c', c'.ahead = read.2 → (next read.1).ReadsFrom c' wrap outcome) :
    (walk >>= next).ReadsFrom c wrap outcome := by
  simp only [ReadsFrom, Bind.bind, EStateM.bind] at h hnext ⊢
  cases hwalk : walk c with
  | error halt c' =>
    rw [hwalk] at h
    obtain ⟨e, he, -⟩ := h
    cases he
  | ok value c' =>
    rw [hwalk] at h
    obtain rfl := Except.ok.inj h
    exact hnext c' rfl

theorem look {next : List Token → Walk tokens α} {outcome : Except ε (Read α)}
    (h : (next c.ahead).ReadsFrom c wrap outcome) :
    (Walk.ahead >>= next).ReadsFrom c wrap outcome := h

theorem look_bind {next : List Token → Walk tokens α} {further : α → Walk tokens β}
    {outcome : Except ε (Read β)} (h : (next c.ahead >>= further).ReadsFrom c wrap outcome) :
    ((Walk.ahead >>= next) >>= further).ReadsFrom c wrap outcome := h

theorem skip {count : ℕ} {next : Unit → Walk tokens α} {outcome : Except ε (Read α)}
    (h : (next ()).ReadsFrom (c.skip count) wrap outcome) :
    (Walk.skip count >>= next).ReadsFrom c wrap outcome := h

theorem advance {token : Token} {rest : List Token} {next : Option Token → Walk tokens α}
    {outcome : Except ε (Read α)} (hahead : c.ahead = token :: rest)
    (h : (next (some token)).ReadsFrom (c.skip 1) wrap outcome) :
    (Walk.advance >>= next).ReadsFrom c wrap outcome := by
  simpa only [ReadsFrom, Bind.bind, EStateM.bind, advance_cons hahead] using h

/-- A token that may stand ahead is taken, or it is not there. -/
theorem eat {kind : Token.Kind} {next : Option Token → Walk tokens α}
    {outcome : Except ε (Read α)}
    (hsome : ∀ token, c.ahead = token :: (c.skip 1).ahead → token.kind = kind →
      (next (some token)).ReadsFrom (c.skip 1) wrap outcome)
    (hnone : startsWith kind c.ahead = false → (next none).ReadsFrom c wrap outcome) :
    (Walk.eat kind >>= next).ReadsFrom c wrap outcome := by
  rw [Walk.eat, bind_assoc]
  refine .look ?_
  split_ifs with hstarts
  · obtain ⟨token, hahead, hkind⟩ := startsWith_eq_true hstarts
    exact .advance hahead (hsome token (by simpa using hahead) hkind)
  · rw [pure_bind]
    exact hnone (by simpa using hstarts)

theorem eat_ite {kind : Token.Kind} {next : Option Token → Walk tokens α}
    {taken other : Except ε (Read α)}
    (hsome : ∀ token, c.ahead = token :: (c.skip 1).ahead →
      (next (some token)).ReadsFrom (c.skip 1) wrap taken)
    (hnone : (next none).ReadsFrom c wrap other) :
    (Walk.eat kind >>= next).ReadsFrom c wrap
      (if startsWith kind c.ahead = true then taken else other) := by
  refine .eat (fun token hahead hkind => ?_) fun hstarts => ?_
  · rw [if_pos (startsWith_of_kind hahead hkind)]
    exact hsome token hahead
  · rw [hstarts]
    exact hnone

theorem enter {kind : Token.Kind} {next : Token → Walk tokens α} {outcome : Except ε (Read α)}
    (hstarts : startsWith kind c.ahead = true)
    (h : ∀ token, (next token).ReadsFrom (c.skip 1) wrap outcome) :
    (Walk.enter kind >>= next).ReadsFrom c wrap outcome := by
  rw [Walk.enter, bind_assoc]
  refine .eat (fun token _ _ => ?_) fun hnone => ?_
  · exact h token
  · rw [hstarts] at hnone
    cases hnone

/-- A token that has been seen is taken. -/
theorem expect {kind : Token.Kind} {expected : Expected} {token : Token} {rest : List Token}
    {next : Token → Walk tokens α} {outcome : Except ε (Read α)} (hahead : c.ahead = token :: rest)
    (hkind : token.kind = kind) (h : (next token).ReadsFrom (c.skip 1) wrap outcome) :
    (Walk.expect kind expected >>= next).ReadsFrom c wrap outcome := by
  rw [Walk.expect, bind_assoc]
  refine .eat (fun other hother _ => ?_) fun hnone => ?_
  · obtain ⟨rfl, -⟩ := List.cons.inj (hahead.symm.trans hother)
    exact h
  · rw [startsWith_of_kind hahead hkind] at hnone
    cases hnone

end ReadsFrom

theorem reads_expect (kind : Token.Kind) (expected : Expected) :
    Reads Halt.error (Query.expect kind expected) (expect kind expected : Walk tokens Token) := by
  intro c
  refine .eat (fun token hahead hkind => .pure ?_) fun hnone => .fail ?_
  · rw [hahead]
    simp [Query.expect, hkind]
  · cases hahead : c.ahead with
    | nil => rfl
    | cons token rest => simp_all [Query.expect, startsWith]

/-! ## Types and parameters -/

theorem readsFrom_typeTail (text : String) (c : Cursor tokens) :
    (loop typeRound text).ReadsFrom c Halt.error (.ok (typeTail text c.ahead)) := by
  generalize hahead : c.ahead = ahead
  fun_induction typeTail text ahead generalizing c with
  | case1 text colons segment rest hsegment ih =>
    rw [loop_eq takes_typeRound]
    refine .look_bind ?_
    rw [if_pos (by simp [hahead, startsWith, kindAt, hsegment]), bind_assoc]
    simp only [bind_assoc]
    have hbehind := Cursor.ahead_skip_of_cons hahead
    refine .skip (.advance hbehind ?_)
    simp only [pure_bind]
    exact ih _ (Cursor.ahead_skip_of_cons hbehind)
  | case2 text colons segment rest hsegment =>
    rw [loop_eq takes_typeRound]
    refine .look_bind ?_
    rw [if_neg (by simpa [hahead, startsWith, kindAt] using hsegment), pure_bind]
    exact .pure (by rw [hahead])
  | case3 text ahead hshort =>
    rw [loop_eq takes_typeRound]
    refine .look_bind ?_
    rw [hahead, if_neg fun hsegment => kindAt_one_ne_of_short hshort hsegment.2, pure_bind]
    exact .pure (by rw [hahead])

variable [Regex.Engine]

theorem reads_typeName : Reads Halt.error Query.typeName (typeName : Walk tokens Field) := by
  intro c
  refine (reads_expect _ _ c).bind fun first c' _ => ?_
  exact (readsFrom_typeTail first.text c').bind_ok fun c'' hahead => .lift hahead

theorem reads_optionalType :
    Reads Halt.error Query.optionalType (optionalType : Walk tokens Field) := by
  intro c
  refine .look ?_
  rw [Query.optionalType]
  split_ifs
  · exact reads_typeName c
  · exact .pure rfl

theorem reads_parameter : Reads Halt.error Query.parameter (parameter : Walk tokens Parameter) := by
  intro c
  refine .eat (fun token hahead hkind => .pure ?_) fun hellipsis => ?_
  · rw [hahead]
    simp [Query.parameter, hkind]
  refine .eat (fun name hahead hname => ?_) fun hdata => ?_
  · -- a word, and a type behind a colon
    refine .eat (fun colon hahead' hcolon => ?_) fun hcolon => ?_
    · rw [if_neg (by simp), hahead, hahead', Query.parameter, hname]
      refine .lift_bind fun field => ?_
      simp only [hcolon, ↓reduceIte]
      exact (reads_optionalType _).bind fun type c' _ => .pure rfl
    · rw [if_neg (by simp), hahead, Query.parameter, hname]
      refine .lift_bind fun field => .pure ?_
      cases hrest : (c.skip 1).ahead with
      | nil => rfl
      | cons next rest =>
        simp_all [startsWith]
  · refine .eat (fun colon hahead hcolon => ?_) fun hcolon => ?_
    · rw [if_neg (by simp), hahead, Query.parameter, hcolon]
      exact (reads_optionalType _).bind fun type c' _ => .pure rfl
    · rw [if_pos ⟨rfl, rfl⟩]
      refine .fail ?_
      cases hahead : c.ahead with
      | nil => rfl
      | cons token rest =>
        simp only [hahead, startsWith, decide_eq_false_iff_not] at hellipsis hdata hcolon
        rw [Query.parameter]
        split <;> simp_all

/-- Behind an entry stands a comma or the closing delimiter. -/
theorem parametersFrom_unfold (closing : Token.Kind) (expected : Expected) (ahead : List Token) :
    parametersFrom closing expected ahead = (do
      let (entry, rest) ← Query.parameter ahead
      if startsWith .comma rest then
        let (entries, rest) ← parametersFrom closing expected rest.tail
        .ok (entry :: entries, rest)
      else
        let (_, rest) ← Query.expect closing expected rest
        .ok ([entry], rest)) := by
  rw [parametersFrom]
  split
  · next h => simp [h, bind, Except.bind]
  · next h => simp [h, bind, Except.bind, startsWith, Query.expect]
  · next h =>
    simp only [h, bind, Except.bind, startsWith, Query.expect, decide_eq_true_eq]
    split_ifs <;> rfl

theorem readsFrom_parametersFrom (closing : Token.Kind) (expected : Expected)
    (entries : List Parameter) (c : Cursor tokens) :
    (loop (parameterRound closing expected) entries).ReadsFrom c Halt.error
      (parametersFrom closing expected c.ahead >>= fun read =>
        .ok (entries ++ read.1, read.2)) := by
  -- on the tokens ahead: the loop keeps the entries that the reader adds on its way back
  induction hlength : c.ahead.length using Nat.strong_induction_on generalizing c entries with
  | _ length ih =>
  rw [loop_eq (takes_parameterRound closing expected), parametersFrom_unfold, parameterRound]
  simp only [bind_assoc]
  refine (reads_parameter c).bind fun entry c' hentry => ?_
  have hlt := advances_parameter.length_lt hentry one_pos
  refine .eat (fun comma hahead hcomma => ?_) fun hcomma => ?_
  · rw [if_pos (startsWith_of_kind hahead hcomma), bind_assoc]
    rw [hahead, List.length_cons] at hlt
    have hrest := ih _ (by omega) (entries ++ [entry]) (c'.skip 1) rfl
    simp only [List.append_assoc, List.singleton_append, Cursor.ahead_skip_one] at hrest
    exact hrest
  · simp only [hcomma, Bool.false_eq_true, ↓reduceIte, bind_assoc]
    exact (reads_expect _ _ c').bind fun _ c'' _ => .pure rfl

omit [Regex.Engine] in
/-- What is put in front of nothing is what was read. -/
theorem bind_nil_append {x : Except ε (Read (List α))} :
    (x >>= fun read => .ok ([] ++ read.1, read.2)) = x :=
  bind_pure x

theorem readsFrom_parameterList {opening closing : Token.Kind} {expected : Expected}
    {c : Cursor tokens} (hopening : startsWith opening c.ahead = true) :
    (parameterList opening closing expected).ReadsFrom c Halt.error
      (Query.parameterList closing expected c.ahead.tail) := by
  refine .enter hopening fun _ => ?_
  rw [← Cursor.ahead_skip_one, Query.parameterList]
  refine .eat_ite (fun closed _ => .pure ?_) ?_
  · rw [Cursor.ahead_skip_one (c.skip 1)]
  · have hlist := readsFrom_parametersFrom closing expected [] (c.skip 1)
    rwa [bind_nil_append] at hlist

omit [Regex.Engine] in
theorem startsWith_of_templateAhead {ofFunction : Bool} {ahead : List Token}
    (h : templateAhead ofFunction ahead = true) : startsWith .langle ahead = true := by
  cases ahead with
  | nil => cases h
  | cons token rest =>
    by_cases hangle : token.kind = .langle
    · exact decide_eq_true hangle
    · simp [templateAhead, hangle] at h

theorem reads_optionalTemplate (ofFunction : Bool) :
    Reads Halt.error (Query.optionalTemplate ofFunction)
      (optionalTemplate ofFunction : Walk tokens (Option (List Parameter))) := by
  intro c
  refine .look ?_
  rw [Query.optionalTemplate]
  split_ifs with htemplate
  · refine (readsFrom_parameterList (startsWith_of_templateAhead htemplate)).bind ?_
    exact fun list c' _ => .pure rfl
  · exact .pure rfl

/-! ## Attributes -/

omit [Regex.Engine] in
/-- Behind an attribute stands a comma or the closing bracket. -/
theorem attributesFrom_unfold (list : AttributeList) (ahead : List Token) :
    attributesFrom list ahead = (do
      let (token, rest) ← Query.expect .data .attributeName ahead
      let list ← list.add token
      if startsWith .comma rest then attributesFrom list rest.tail
      else
        let (_, rest) ← Query.expect .rsquare .commaOrSquare rest
        .ok (list, rest)) := by
  cases ahead with
  | nil => rfl
  | cons token rest =>
    rw [attributesFrom, Query.expect]
    split_ifs with hdata
    · refine congrArg _ (funext fun list => ?_)
      cases rest with
      | nil => rfl
      | cons next rest =>
        simp only [startsWith, Query.expect, decide_eq_true_eq, List.tail_cons]
        split_ifs <;> rfl
    · rfl

omit [Regex.Engine] in
theorem readsFrom_attributesFrom (list : AttributeList) (c : Cursor tokens) :
    (loop attributeRound list).ReadsFrom c Halt.error (attributesFrom list c.ahead) := by
  induction hlength : c.ahead.length using Nat.strong_induction_on generalizing c list with
  | _ length ih =>
  rw [loop_eq takes_attributeRound, attributesFrom_unfold, attributeRound]
  simp only [bind_assoc]
  refine (reads_expect _ _ c).bind fun word c' hword => .lift_bind fun list => ?_
  have hlt := (advances_expect _ _).length_lt hword one_pos
  refine .eat_ite (fun comma hahead => ?_) ?_
  · rw [hahead, List.length_cons] at hlt
    have hrest := ih _ (by omega) list (c'.skip 1) rfl
    rwa [Cursor.ahead_skip_one] at hrest
  · simp only [bind_assoc]
    exact (reads_expect _ _ c').bind fun _ c'' _ => .pure rfl

omit [Regex.Engine] in
theorem reads_optionalAttributes :
    Reads Halt.error Query.optionalAttributes (optionalAttributes : Walk tokens AttributeList) := by
  intro c
  rw [Query.optionalAttributes, ← Cursor.ahead_skip_one]
  refine .eat_ite (fun opened _ => ?_) (.pure rfl)
  refine .eat_ite (fun closed _ => .pure ?_) (readsFrom_attributesFrom {} (c.skip 1))
  rw [Cursor.ahead_skip_one (c.skip 1)]

/-! ## Entities -/

theorem reads_colonType : Reads Halt.error Query.colonType (colonType : Walk tokens Field) := by
  intro c
  rw [Query.colonType, ← Cursor.ahead_skip_one]
  exact .eat_ite (fun colon _ => reads_typeName (c.skip 1)) (.pure rfl)

theorem reads_sigilVariable (isParameter : Bool) :
    Reads Halt.error (Query.sigilVariable isParameter)
      (sigilVariable isParameter : Walk tokens Entity) :=
  fun c => (reads_colonType c).bind fun _ c' _ =>
    (reads_optionalAttributes c').bind fun _ _ _ => .pure rfl

theorem reads_sigilFunction :
    Reads Halt.error Query.sigilFunction (sigilFunction : Walk tokens Entity) := by
  intro c
  refine (reads_colonType c).bind fun _ c' _ => (reads_optionalTemplate _ c').bind fun _ c'' _ => ?_
  rw [optionalParameters, bind_assoc]
  refine .look ?_
  dsimp only
  split_ifs with hparameters
  · exact (readsFrom_parameterList hparameters).bind fun _ c₃ _ =>
      (reads_optionalAttributes c₃).bind fun _ _ _ => .pure rfl
  · exact (reads_optionalAttributes c'').bind fun _ _ _ => .pure rfl

theorem reads_sigilEntity (sigil : Sigil) :
    Reads Halt.error (Query.sigilEntity sigil) (sigilEntity sigil : Walk tokens Entity) := by
  intro c
  cases sigil with
  | func => exact reads_sigilFunction c
  | type => exact (reads_optionalTemplate false c).bind fun _ _ _ => .pure rfl
  | var => exact reads_sigilVariable false c
  | param => exact reads_sigilVariable true c

theorem reads_namedClass :
    Reads Halt.error Query.namedClass (namedClass : Walk tokens Entity) :=
  fun c => (reads_expect _ _ c).bind fun _ c' _ => .lift_bind fun _ =>
    (reads_optionalTemplate false c').bind fun _ _ _ => .pure rfl

/-- Behind its colon, an entity is read with the field of its name. -/
theorem readsFrom_structured (name : Option Token) {c : Cursor tokens}
    (hcolon : startsWith .colon c.ahead = true) :
    (structured name).ReadsFrom c Halt.error
      (optionalName name >>= fun field => Query.structured field c.ahead.tail) := by
  refine .enter hcolon fun _ => .lift_bind fun field => ?_
  rw [← Cursor.ahead_skip_one]
  refine (reads_optionalType _).bind fun type c' _ =>
    (reads_optionalTemplate _ c').bind fun template c'' _ => .look ?_
  dsimp only
  split_ifs with hparameters
  · exact (readsFrom_parameterList hparameters).bind fun _ c₃ _ =>
      (reads_optionalAttributes c₃).bind fun _ _ _ => .pure rfl
  · exact (reads_optionalAttributes c'').bind fun _ _ _ => .pure rfl

theorem reads_unqualified :
    Reads Halt.error Query.unqualified (unqualified : Walk tokens Entity) := by
  intro c
  refine .look ?_
  cases hahead : c.ahead with
  | nil => exact .fail (by rw [hahead]; rfl)
  | cons token rest =>
    obtain rfl := Cursor.ahead_skip_of_cons hahead
    rw [Query.unqualified]
    rw [kindAt_zero]
    split
    · next sigil hkind =>
      simp only [hkind]
      exact .skip (reads_sigilEntity sigil _)
    · next hkind =>
      simp only [hkind]
      exact .skip (reads_namedClass _)
    · next hkind =>
      simp only [hkind]
      have hcolon := readsFrom_structured none (startsWith_of_kind hahead hkind)
      rwa [hahead] at hcolon
    · next hkind =>
      simp only [hkind, kindAt_one_eq_some_iff]
      split_ifs with hcolon
      · refine .advance hahead ?_
        exact readsFrom_structured (some token) hcolon
      · exact .expect hahead hkind (.lift_bind fun field => .pure rfl)
    · next hsigil hpound hcolon hdata =>
      split
      · next sigil hkind => exact absurd (Option.some.inj hkind) (hsigil sigil)
      · next hkind => exact absurd (Option.some.inj hkind) hpound
      · next hkind => exact absurd (Option.some.inj hkind) hcolon
      · next hkind => exact absurd (Option.some.inj hkind) hdata
      · exact .fail (by rw [hahead])

theorem readsFrom_qualifierChain (chain : List Field) (c : Cursor tokens) :
    (loop qualifierRound chain).ReadsFrom c Halt.error
      (qualifierChain c.ahead >>= fun read => .ok (chain ++ read.1, read.2)) := by
  generalize hahead : c.ahead = ahead
  fun_induction qualifierChain ahead generalizing c chain with
  | case1 scope colons rest hkinds ih =>
    rw [loop_eq takes_qualifierRound]
    refine .look_bind ?_
    rw [if_pos (by simp [hahead, startsWith, kindAt, hkinds])]
    simp only [bind_assoc]
    refine .advance hahead ?_
    simp only [bind_assoc]
    refine .lift_bind fun field => .skip ?_
    have hrest := ih (chain ++ [field]) _
      (Cursor.ahead_skip_of_cons (Cursor.ahead_skip_of_cons hahead))
    simp only [List.append_assoc, List.singleton_append] at hrest
    exact hrest
  | case2 scope colons rest hkinds =>
    rw [loop_eq takes_qualifierRound]
    refine .look_bind ?_
    rw [if_neg (by simpa [hahead, startsWith, kindAt] using hkinds), pure_bind]
    exact .pure (by rw [hahead]; simp [bind, Except.bind])
  | case3 ahead hshort =>
    rw [loop_eq takes_qualifierRound]
    refine .look_bind ?_
    rw [hahead, if_neg fun hkinds => kindAt_one_ne_of_short hshort hkinds.2, pure_bind]
    exact .pure (by rw [hahead]; simp [bind, Except.bind])

theorem reads_qualifierChain :
    Reads Halt.error qualifierChain (loop qualifierRound [] : Walk tokens (List Field)) := by
  intro c
  have hchain := readsFrom_qualifierChain [] c
  rwa [bind_nil_append] at hchain

theorem reads_term : Reads Halt.error Query.term (term : Walk tokens Pattern) := by
  intro c
  rw [Query.term]
  refine .eat (fun colons hahead hcolons => ?_) fun hcolons => ?_
  · simp only [startsWith_of_kind hahead hcolons, ↓reduceIte, ← Cursor.ahead_skip_one]
    exact (reads_qualifierChain _).bind fun _ c' _ => (reads_unqualified c').bind fun _ _ _ =>
      .pure rfl
  · simp only [hcolons, Bool.false_eq_true, ↓reduceIte]
    exact (reads_qualifierChain c).bind fun _ c' _ => (reads_unqualified c').bind fun _ _ _ =>
      .pure rfl

/-! ## Expressions -/

/-- The operator of the loosest level, if there is one, and what it leaves. -/
def operatorRead (ahead : List Token) : Except Error (Read (Option Operator)) := do
  match ← operator? ahead with
  | none => .ok (none, ahead)
  | some (operator, rest) => .ok (some operator, rest)

omit [Regex.Engine] in
theorem reads_operator :
    Reads Halt.error operatorRead (operator : Walk tokens (Option Operator)) := by
  intro c
  refine .look ?_
  rw [operatorRead]
  cases hahead : c.ahead with
  | nil => exact .pure (by rw [hahead]; rfl)
  | cons token rest =>
    obtain rfl := Cursor.ahead_skip_of_cons hahead
    rw [operator?, kindAt_zero]
    split
    · next hkind =>
      simp only [hkind]
      exact .skip (.pure rfl)
    · next hkind =>
      simp only [hkind]
      exact .skip (.pure rfl)
    · next hkind =>
      simp only [hkind]
      exact .skip (.pure rfl)
    · next hkind =>
      have htwo : (c.skip 1).ahead.tail = (c.skip 2).ahead := by
        rw [Cursor.ahead_skip, Cursor.ahead_skip, List.tail_drop]
      simp only [hkind, kindAt_one_eq_some_iff, htwo]
      split_ifs
      · exact .skip (.pure rfl)
      · exact .skip (.pure rfl)
      · exact .skip (.fail rfl)
    · next hor hright hleft hnot =>
      split
      · next hkind => exact absurd (Option.some.inj hkind) hor
      · next hkind => exact absurd (Option.some.inj hkind) hright
      · next hkind => exact absurd (Option.some.inj hkind) hleft
      · next hkind => exact absurd (Option.some.inj hkind) hnot
      · exact .pure (by rw [hahead]; rfl)

theorem expressionTail_unfold (steps : ℕ) (left : Pattern) (ahead : List Token) :
    Query.expressionTail (steps + 1) left ahead = (do
      let (operator, rest) ← Stop.lift (operatorRead ahead)
      match operator with
      | none => .ok (left, rest)
      | some operator =>
        let (right, rest) ← Query.conjunction steps rest
        Query.expressionTail steps (.combine operator left right) rest) := by
  rw [Query.expressionTail, operatorRead]
  rcases operator? ahead with e | (_ | ⟨operator, rest⟩)
  · rfl
  · rfl
  · rfl

section Nested

variable {nested : Walk tokens Pattern} {depth : ℕ}

/-- `nested` reads expressions where fewer than `depth` tokens are ahead. -/
def ReadsNested (depth : ℕ) (nested : Walk tokens Pattern) : Prop :=
  ∀ (c : Cursor tokens) (steps : ℕ), c.ahead.length < depth → 4 * c.ahead.length + 4 ≤ steps →
    nested.ReadsFrom c Halt.ofStop (Query.expression steps c.ahead)

variable (hforwards : nested.Forwards) (hnested : ReadsNested depth nested)
include hnested

theorem readsFrom_primary {c : Cursor tokens} {steps : ℕ} (hdepth : c.ahead.length ≤ depth)
    (hsteps : 4 * c.ahead.length + 1 ≤ steps) :
    (primary nested).ReadsFrom c Halt.ofStop (Query.primary steps c.ahead) := by
  obtain ⟨steps, rfl⟩ := Nat.exists_eq_add_one_of_ne_zero (by omega : steps ≠ 0)
  rw [Query.primary, ← Cursor.ahead_skip_one]
  refine .eat_ite (fun opened hahead => ?_) (reads_term c).ofStop
  rw [hahead, List.length_cons] at hdepth hsteps
  refine (hnested _ _ (by omega) (by omega)).bind fun inner c' _ => ?_
  exact (reads_expect _ _ c').ofStop.bind fun _ c'' _ => .pure rfl

include hforwards

theorem readsFrom_operandTail {steps : ℕ} : ∀ {c : Cursor tokens} {pattern : Pattern},
    c.ahead.length ≤ depth → 4 * c.ahead.length + 1 ≤ steps →
    (loop (operandRound nested) pattern).ReadsFrom c Halt.ofStop
      (Query.operandTail steps pattern c.ahead) := by
  -- on the steps of the reader: a binding or a scope uses up one of them and at least a token
  induction steps with
  | zero => exact fun _ hsteps => absurd hsteps (by omega)
  | succ steps ih =>
    intro c pattern hdepth hsteps
    rw [loop_eq (takes_operandRound hforwards)]
    refine .look_bind ?_
    cases hahead : c.ahead with
    | nil =>
      exact .pure (by rw [hahead]; rfl)
    | cons token rest =>
      obtain rfl := Cursor.ahead_skip_of_cons hahead
      rw [hahead, List.length_cons] at hdepth hsteps
      rw [Query.operandTail, kindAt_zero]
      split
      · next hkind =>
        simp only [hkind, bind_assoc, pure_bind]
        refine .advance hahead ?_
        refine (reads_expect _ _ _).ofStop.bind fun word c' hword => .lift_bind_stop fun named => ?_
        have hlt := (advances_expect _ _).length_lt hword one_pos
        exact ih (by omega) (by omega)
      · next hkind =>
        simp only [hkind, List.tail_cons]
        split
        · next word rest hbinding =>
          obtain ⟨hword, -, hdata, -⟩ := Grammar.typeBinding?_eq_some_iff.1 hbinding
          obtain rfl := Cursor.ahead_skip_of_cons hword
          simp only [hbinding, Option.isSome_some, ↓reduceIte, bind_assoc, pure_bind]
          rw [hword, List.length_cons] at hdepth hsteps
          refine .skip (.expect hword hdata (.lift_bind_stop fun type => ?_))
          exact ih (by omega) (by omega)
        · next hbinding =>
          simp only [hbinding, Option.isSome_none, Bool.false_eq_true, ↓reduceIte, pure_bind]
          exact .pure (by rw [hahead])
      · next hkind =>
        simp only [hkind, scope, bind_assoc]
        refine .enter (startsWith_of_kind hahead hkind) fun _ => ?_
        rw [← Cursor.ahead_skip_one (c.skip 1)]
        refine .eat_ite (fun closed hclosed => ?_) ?_
        · rw [hclosed, List.length_cons] at hdepth hsteps
          simp only [pure_bind]
          exact ih (by omega) (by omega)
        · simp only [bind_assoc, pure_bind]
          refine (hnested _ _ (by omega) (by omega)).bind fun inner c' hinner => ?_
          refine (reads_expect _ _ c').ofStop.bind fun closed c'' hclosed => ?_
          have hle := hforwards.length_le hinner
          have hlt := (advances_expect _ _).length_lt hclosed one_pos
          exact ih (by omega) (by omega)
      · next hequal htilde hcurly =>
        split
        · next hkind => exact absurd (Option.some.inj hkind) hequal
        · next hkind => exact absurd (Option.some.inj hkind) htilde
        · next hkind => exact absurd (Option.some.inj hkind) hcurly
        · exact .pure (by rw [hahead])

theorem readsFrom_operand {c : Cursor tokens} {steps : ℕ} (hdepth : c.ahead.length ≤ depth)
    (hsteps : 4 * c.ahead.length + 2 ≤ steps) :
    (operand nested).ReadsFrom c Halt.ofStop (Query.operand steps c.ahead) := by
  obtain ⟨steps, rfl⟩ := Nat.exists_eq_add_one_of_ne_zero (by omega : steps ≠ 0)
  refine (readsFrom_primary hnested hdepth (by omega)).bind fun pattern c' hpattern => ?_
  have hlt := (advances_primary hforwards).length_lt hpattern one_pos
  exact readsFrom_operandTail hforwards hnested (by omega) (by omega)

theorem readsFrom_conjunctionTail {steps : ℕ} : ∀ {c : Cursor tokens} {left : Pattern},
    c.ahead.length ≤ depth → 4 * c.ahead.length + 1 ≤ steps →
    (loop (conjunctionRound nested) left).ReadsFrom c Halt.ofStop
      (Query.conjunctionTail steps left c.ahead) := by
  induction steps with
  | zero => exact fun _ hsteps => absurd hsteps (by omega)
  | succ steps ih =>
    intro c left hdepth hsteps
    -- behind `&` and behind `~` the same is read, and only joined in another way
    have hjoin : ∀ (token : Token) (join : Pattern → Pattern),
        c.ahead = token :: (c.skip 1).ahead →
        (operand nested >>= fun right => loop (conjunctionRound nested) (join right)).ReadsFrom
          (c.skip 1) Halt.ofStop (Query.operand steps (c.skip 1).ahead >>= fun read =>
            Query.conjunctionTail steps (join read.1) read.2) := by
      intro token join hahead
      rw [hahead, List.length_cons] at hdepth hsteps
      refine (readsFrom_operand hforwards hnested (by omega) (by omega)).bind ?_
      intro right c' hright
      have hlt := (advances_operand hforwards).length_lt hright one_pos
      exact ih (by omega) (by omega)
    rw [loop_eq (takes_conjunctionRound hforwards), conjunctionRound, Query.conjunctionTail,
      ← Cursor.ahead_skip_one]
    simp only [bind_assoc]
    refine .eat_ite (fun both hahead => ?_) ?_
    · simp only [bind_assoc, pure_bind]
      exact hjoin both (.combine .and left) hahead
    · simp only [bind_assoc]
      refine .eat_ite (fun tilde hahead => ?_) (.pure rfl)
      simp only [bind_assoc, pure_bind]
      exact hjoin tilde left.constrain hahead

theorem readsFrom_conjunction {c : Cursor tokens} {steps : ℕ} (hdepth : c.ahead.length ≤ depth)
    (hsteps : 4 * c.ahead.length + 3 ≤ steps) :
    (conjunction nested).ReadsFrom c Halt.ofStop (Query.conjunction steps c.ahead) := by
  obtain ⟨steps, rfl⟩ := Nat.exists_eq_add_one_of_ne_zero (by omega : steps ≠ 0)
  refine (readsFrom_operand hforwards hnested hdepth (by omega)).bind fun left c' hleft => ?_
  have hlt := (advances_operand hforwards).length_lt hleft one_pos
  exact readsFrom_conjunctionTail hforwards hnested (by omega) (by omega)

theorem readsFrom_expressionTail {steps : ℕ} : ∀ {c : Cursor tokens} {left : Pattern},
    c.ahead.length ≤ depth → 4 * c.ahead.length + 1 ≤ steps →
    (loop (expressionRound nested) left).ReadsFrom c Halt.ofStop
      (Query.expressionTail steps left c.ahead) := by
  induction steps with
  | zero => exact fun _ hsteps => absurd hsteps (by omega)
  | succ steps ih =>
    intro c left hdepth hsteps
    rw [loop_eq (takes_expressionRound hforwards), expressionRound, expressionTail_unfold]
    simp only [bind_assoc]
    refine (reads_operator c).ofStop.bind ?_
    rintro (_ | operator) c' hoperator
    · exact .pure rfl
    · have hlt := takes_operator.length_lt hoperator one_pos
      simp only [bind_assoc, pure_bind]
      refine (readsFrom_conjunction hforwards hnested (by omega) (by omega)).bind ?_
      intro right c'' hright
      have hlt' := (advances_conjunction hforwards).length_lt hright one_pos
      exact ih (by omega) (by omega)

end Nested

theorem readsNested_expression (depth : ℕ) :
    ReadsNested depth (expression depth : Walk tokens Pattern) := by
  induction depth with
  | zero => exact fun c steps hdepth _ => absurd hdepth (Nat.not_lt_zero _)
  | succ depth ih =>
    intro c steps hdepth hsteps
    obtain ⟨steps, rfl⟩ := Nat.exists_eq_add_one_of_ne_zero (by omega : steps ≠ 0)
    have hforwards : Forwards (expression depth : Walk tokens Pattern) :=
      (advances_expression depth).forwards
    refine (readsFrom_conjunction hforwards ih (by omega) (by omega)).bind fun left c' hleft => ?_
    have hlt := (advances_conjunction hforwards).length_lt hleft one_pos
    exact readsFrom_expressionTail hforwards ih (by omega) (by omega)

/-- A pattern behind which nothing is left. -/
def readToEnd (read : Read Pattern) : Except Error (Read Pattern) :=
  match read.2 with
  | [] => .ok read
  | _ :: _ => .error (unexpected .operator read.2)

theorem lift_ofTokens (tokens : List Token) :
    Stop.lift (Pattern.ofTokens tokens >>= fun pattern => .ok (pattern, [])) =
      Query.expression (4 * tokens.length + 4) tokens >>= fun read =>
        Stop.lift (readToEnd read) := by
  have hsteps := expression_ne_exhausted tokens
  rw [Pattern.ofTokens]
  rcases hread : Query.expression (4 * tokens.length + 4) tokens with
    (e | _) | ⟨pattern, _ | ⟨token, rest⟩⟩
  · rfl
  · exact absurd hread hsteps
  · rfl
  · rfl

/-- With depth enough for the tokens, the walk ends: with the pattern that they write and behind
the last of them, or with the error that reading them gives. -/
theorem readsFrom_parse {depth : ℕ} (hdepth : tokens.length < depth) :
    (parse depth : Walk tokens Pattern).ReadsFrom .start Halt.error
      (Pattern.ofTokens tokens >>= fun pattern => .ok (pattern, [])) := by
  refine .of_ofStop ?_
  rw [lift_ofTokens]
  refine (readsNested_expression depth .start _ hdepth le_rfl).bind fun pattern c' _ => ?_
  refine .ofStop (.look ?_)
  rw [readToEnd]
  cases hahead : c'.ahead with
  | nil => exact .pure (by rw [hahead])
  | cons token rest => exact .fail (by rw [hahead])

end Walk

end StructSearch.Query
