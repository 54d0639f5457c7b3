import Mathlib.Tactic
import StructSearch.Proofs.Query.Terminals

/-!
# Terms that are read are derived

Whenever the reader of a part of a term succeeds, the tokens that it took are the yield of such a
part, and what it returns is what the part stands for.

Results:
* `typeName_sound` up to `unqualified_sound`: each part of a term is read as the grammar derives it.
* `term_sound`: so is a whole term.
-/

namespace StructSearch.Query.Grammar

/-! ## Types and parameter lists -/

theorem typeTail_sound (tokens : List Token) : ∀ text : String,
    ∃ segments, terminals tokens =
        segments.flatMap (fun segment => [.mark .doubleColon, .word segment]) ++
          terminals (typeTail text tokens).2 ∧
      (typeTail text tokens).1 = String.intercalate "::" (text :: segments) := by
  intro text
  fun_induction typeTail text tokens with
  | case1 text colons segment rest h ih =>
    obtain ⟨segments, hyield, htext⟩ := ih
    refine ⟨segment.text :: segments, ?_, htext⟩
    rw [terminals_cons, terminals_cons, hyield, terminal_of_kind h.1 (by decide),
      terminal_of_data h.2]
    rfl
  | case2 text colons segment rest h => exact ⟨[], rfl, by simp⟩
  | case3 text tokens h => exact ⟨[], rfl, by simp⟩

variable [Regex.Engine]

theorem typeName_sound {tokens rest : List Token} {field : Field}
    (h : typeName tokens = .ok (field, rest)) :
    ∃ type : TypeName, terminals tokens = type.yield ++ terminals rest ∧
      type.field? = some field := by
  simp only [typeName, bind_eq_ok_iff, Prod.exists, Except.ok.injEq, Prod.mk.injEq] at h
  obtain ⟨first, tail, hfirst, _, hfield, rfl, rfl⟩ := h
  obtain ⟨rfl, hkind⟩ := expect_sound hfirst
  obtain ⟨segments, hyield, htext⟩ := typeTail_sound tail first.text
  refine ⟨⟨first.text, segments⟩, ?_, ?_⟩
  · rw [terminals_cons, hyield, terminal_of_data hkind]
    rfl
  · rw [fieldAt_eq_ok_iff, htext] at hfield
    exact hfield

theorem optionalType_sound {tokens rest : List Token} {field : Field}
    (h : optionalType tokens = .ok (field, rest)) :
    ∃ type : Option TypeName,
      terminals tokens = type.elim [] TypeName.yield ++ terminals rest ∧
      orAny? TypeName.field? type = some field := by
  unfold optionalType at h
  split_ifs at h
  · obtain ⟨type, hyield, hfield⟩ := typeName_sound h
    exact ⟨some type, hyield, hfield⟩
  · simp only [Except.ok.injEq, Prod.mk.injEq] at h
    obtain ⟨rfl, rfl⟩ := h
    exact ⟨none, rfl, rfl⟩

theorem colonType_sound {tokens rest : List Token} {field : Field}
    (h : colonType tokens = .ok (field, rest)) :
    ∃ type : Option TypeName, terminals tokens = Head.colonYield type ++ terminals rest ∧
      orAny? TypeName.field? type = some field := by
  unfold colonType at h
  split_ifs at h with hcolon
  · obtain ⟨colon, htokens, hkind⟩ := startsWith_eq_true hcolon
    obtain ⟨type, hyield, hfield⟩ := typeName_sound h
    refine ⟨some type, ?_, hfield⟩
    rw [htokens, terminals_cons, hyield, terminal_of_kind hkind (by decide)]
    rfl
  · simp only [Except.ok.injEq, Prod.mk.injEq] at h
    obtain ⟨rfl, rfl⟩ := h
    exact ⟨none, rfl, rfl⟩

theorem parameter_sound {tokens rest : List Token} {parameter : Parameter}
    (h : Query.parameter tokens = .ok (parameter, rest)) :
    ∃ entry : Entry, terminals tokens = entry.yield ++ terminals rest ∧
      entry.parameter? = some parameter := by
  cases tokens with
  | nil => simp [Query.parameter] at h
  | cons token tail =>
    simp only [Query.parameter] at h
    split at h
    · next hkind =>
      simp only [Except.ok.injEq, Prod.mk.injEq] at h
      obtain ⟨rfl, rfl⟩ := h
      exact ⟨.ellipsis, by rw [terminals_cons, terminal_of_kind hkind (by decide)]; rfl, rfl⟩
    · next hkind =>
      simp only [bind_eq_ok_iff, Prod.exists, Except.ok.injEq, Prod.mk.injEq] at h
      obtain ⟨_, _, htype, rfl, rfl⟩ := h
      obtain ⟨type, hyield, hfield⟩ := optionalType_sound htype
      refine ⟨.typed none type, ?_, ?_⟩
      · rw [terminals_cons, hyield, terminal_of_kind hkind (by decide)]
        rfl
      · rw [Entry.parameter?, hfield]
        rfl
    · next hkind =>
      obtain ⟨name, hname, h⟩ := bind_eq_ok_iff.1 h
      rw [fieldOf_eq_ok_iff] at hname
      rw [terminals_cons, terminal_of_data hkind]
      have hnamed : (Entry.named token.text).parameter? = some (.typed name .any) := by
        rw [Entry.parameter?, hname]
        rfl
      cases tail with
      | nil =>
        simp only [Except.ok.injEq, Prod.mk.injEq] at h
        obtain ⟨rfl, rfl⟩ := h
        exact ⟨.named token.text, rfl, hnamed⟩
      | cons colon tail =>
        simp only at h
        split_ifs at h with hcolon
        · simp only [bind_eq_ok_iff, Prod.exists, Except.ok.injEq, Prod.mk.injEq] at h
          obtain ⟨_, _, htype, rfl, rfl⟩ := h
          obtain ⟨type, hyield, hfield⟩ := optionalType_sound htype
          refine ⟨.typed (some token.text) type, ?_, ?_⟩
          · rw [terminals_cons, hyield, terminal_of_kind hcolon (by decide)]
            rfl
          · rw [Entry.parameter?, hfield, orAny?, hname]
            rfl
        · simp only [Except.ok.injEq, Prod.mk.injEq] at h
          obtain ⟨rfl, rfl⟩ := h
          exact ⟨.named token.text, rfl, hnamed⟩
    · simp at h

theorem parametersFrom_sound {closing : Token.Kind} {expected : Expected}
    (hclosing : closing ≠ .data) (tokens : List Token) :
    ∀ {rest : List Token} {parameters : List Parameter},
    parametersFrom closing expected tokens = .ok (parameters, rest) →
    ∃ entries : List Entry, entries ≠ [] ∧
      terminals tokens = separated Entry.yield entries ++ .mark closing :: terminals rest ∧
      parameters? entries = some parameters := by
  induction hlen : tokens.length using Nat.strong_induction_on generalizing tokens with
  | _ n ih =>
    intro rest parameters h
    rw [parametersFrom] at h
    split at h
    · simp at h
    · simp at h
    · next parameter token tail hparameter =>
      obtain ⟨entry, hyield, hentry⟩ := parameter_sound hparameter
      have hlt := length_lt_of_parameter_eq hparameter
      split_ifs at h with hcomma hclose
      · simp only [bind_eq_ok_iff, Prod.exists, Except.ok.injEq, Prod.mk.injEq] at h
        obtain ⟨_, _, htail, rfl, rfl⟩ := h
        rw [List.length_cons] at hlt
        obtain ⟨entries, hne, hyields, hentries⟩ := ih _ (by omega) tail rfl htail
        refine ⟨entry :: entries, by simp, ?_, ?_⟩
        · obtain ⟨next, entries, rfl⟩ := List.exists_cons_of_ne_nil hne
          rw [hyield, terminals_cons, hyields, terminal_of_kind hcomma (by decide), separated]
          simp
        · rw [parameters?] at hentries
          simp [parameters?, hentry, hentries]
      · simp only [Except.ok.injEq, Prod.mk.injEq] at h
        obtain ⟨rfl, rfl⟩ := h
        refine ⟨[entry], by simp, ?_, by simp [parameters?, hentry]⟩
        rw [hyield, terminals_cons, terminal_of_kind hclose hclosing]
        rfl

/-- A list that is opened by a token is read up to its closing delimiter. -/
theorem parameterList_sound {closing : Token.Kind} {expected : Expected}
    (hclosing : closing ≠ .data) {tokens rest : List Token} {parameters : List Parameter}
    (h : parameterList closing expected tokens = .ok (parameters, rest)) :
    ∃ entries : List Entry,
      terminals tokens = separated Entry.yield entries ++ .mark closing :: terminals rest ∧
      parameters? entries = some parameters := by
  unfold parameterList at h
  split_ifs at h with hstart
  · obtain ⟨token, htokens, hkind⟩ := startsWith_eq_true hstart
    simp only [Except.ok.injEq, Prod.mk.injEq] at h
    obtain ⟨rfl, rfl⟩ := h
    refine ⟨[], ?_, rfl⟩
    rw [htokens, terminals_cons, terminal_of_kind hkind hclosing]
    rfl
  · obtain ⟨entries, -, hyield, hentries⟩ := parametersFrom_sound hclosing tokens h
    exact ⟨entries, hyield, hentries⟩

/-! ## Template lists -/

theorem optionalTemplate_sound {ofFunction : Bool} {tokens rest : List Token}
    {parameters : Option (List Parameter)}
    (h : optionalTemplate ofFunction tokens = .ok (parameters, rest)) :
    ∃ template : Option (List Entry),
      terminals tokens = template.elim [] templateYield ++ terminals rest ∧
      template? template = some parameters ∧
      (ofFunction = true → template.isSome → startsWith .lparen rest = true) := by
  unfold optionalTemplate at h
  split_ifs at h with hahead
  · simp only [bind_eq_ok_iff, Prod.exists, Except.ok.injEq, Prod.mk.injEq] at h
    obtain ⟨_, after, hlist, rfl, rfl⟩ := h
    obtain ⟨entries, hyield, hentries⟩ := parameterList_sound (by decide) hlist
    have hyields : terminals tokens = templateYield entries ++ terminals after := by
      cases tokens with
      | nil => simp [templateAhead] at hahead
      | cons token tail =>
        have hopen : token.kind = .langle := by
          by_contra hne
          simp [templateAhead, hne] at hahead
        rw [List.tail_cons] at hyield
        rw [terminals_cons, hyield, terminal_of_kind hopen (by decide)]
        simp [templateYield, entriesYield]
    refine ⟨some entries, hyields, by simp [template?, hentries], ?_⟩
    rintro rfl -
    rw [templateAhead_eq, hyields, opensTemplate_entries] at hahead
    rw [startsWith_iff (by decide)]
    simpa using hahead
  · simp only [Except.ok.injEq, Prod.mk.injEq] at h
    obtain ⟨rfl, rfl⟩ := h
    exact ⟨none, rfl, rfl, by simp⟩

/-! ## Attributes -/

omit [Regex.Engine] in
theorem attributesFrom_sound (tokens : List Token) :
    ∀ {list result : AttributeList} {rest : List Token},
    attributesFrom list tokens = .ok (result, rest) → OneAccess list.names.names →
    ∃ words : List String,
      terminals tokens =
        separated (fun word => [.word word]) words ++ .mark .rsquare :: terminals rest ∧
      result = (words.map Text.lowercase).foldl addName list ∧
      OneAccess (list.names.names ++ words.map Text.lowercase) ∧ words ≠ [] := by
  intro list result rest
  fun_induction attributesFrom list tokens with
  | case1 list => simp
  | case2 list token tail hdata ih =>
    intro h hone
    obtain ⟨added, hadd, h⟩ := bind_eq_ok_iff.1 h
    obtain ⟨rfl, hagree⟩ := add_eq_ok_iff.1 hadd
    have hadded := oneAccess_append_singleton hone hagree
    cases tail with
    | nil => simp at h
    | cons next tail =>
      simp only at h
      rw [terminals_cons, terminals_cons, terminal_of_data hdata]
      split_ifs at h with hcomma hclose
      · obtain ⟨words, hyield, rfl, hones, hne⟩ := ih _ h (by
          have := oneAccess_addName list (Text.lowercase token.text) []
          rw [List.append_nil] at this
          exact this.2 hadded)
        refine ⟨token.text :: words, ?_, rfl, (oneAccess_addName _ _ _).1 hones, by simp⟩
        obtain ⟨word, words, rfl⟩ := List.exists_cons_of_ne_nil hne
        rw [hyield, terminal_of_kind hcomma (by decide)]
        rfl
      · simp only [Except.ok.injEq, Prod.mk.injEq] at h
        obtain ⟨rfl, rfl⟩ := h
        refine ⟨[token.text], ?_, rfl, hadded, by simp⟩
        rw [terminal_of_kind hclose (by decide)]
        rfl
  | case3 list token tail hdata => simp

omit [Regex.Engine] in
theorem optionalAttributes_sound {tokens rest : List Token} {list : AttributeList}
    (h : optionalAttributes tokens = .ok (list, rest)) :
    ∃ words : Option (List String),
      terminals tokens = words.elim [] attributesYield ++ terminals rest ∧
      attributes? words = some list := by
  unfold optionalAttributes at h
  split_ifs at h with hopen hclose
  · obtain ⟨opening, htokens, hkind⟩ := startsWith_eq_true hopen
    obtain ⟨closing, htail, hclosing⟩ := startsWith_eq_true hclose
    simp only [Except.ok.injEq, Prod.mk.injEq] at h
    obtain ⟨rfl, rfl⟩ := h
    refine ⟨some [], ?_, rfl⟩
    rw [htokens, terminals_cons, htail, terminals_cons, terminal_of_kind hkind (by decide),
      terminal_of_kind hclosing (by decide)]
    rfl
  · obtain ⟨opening, htokens, hkind⟩ := startsWith_eq_true hopen
    obtain ⟨words, hyield, rfl, hone, -⟩ := attributesFrom_sound tokens.tail h (by decide)
    refine ⟨some words, ?_, ?_⟩
    · rw [htokens, terminals_cons, hyield, terminal_of_kind hkind (by decide)]
      simp [attributesYield]
    · exact attributes?_eq_some.2 ⟨hone, rfl⟩
  · simp only [Except.ok.injEq, Prod.mk.injEq] at h
    obtain ⟨rfl, rfl⟩ := h
    exact ⟨none, rfl, rfl⟩

/-! ## Terms -/

theorem sigilVariable_sound (isParameter : Bool) {tokens rest : List Token} {entity : Entity}
    (h : sigilVariable isParameter tokens = .ok (entity, rest)) :
    ∃ head : Head, .mark (.sigil (if isParameter then .param else .var)) :: terminals tokens =
        head.yield ++ terminals rest ∧ head.entity? = some entity := by
  simp only [sigilVariable, bind_eq_ok_iff, Prod.exists, Except.ok.injEq, Prod.mk.injEq] at h
  obtain ⟨type, _, htype, list, _, hlist, rfl, rfl⟩ := h
  obtain ⟨typeName, htypeYield, htype⟩ := colonType_sound htype
  obtain ⟨words, hwordsYield, hwords⟩ := optionalAttributes_sound hlist
  refine ⟨.sigilVariable isParameter typeName words, ?_, ?_⟩
  · rw [htypeYield, hwordsYield]
    simp [Head.yield]
  · simp [Head.entity?, htype, hwords]

theorem sigilFunction_sound {tokens rest : List Token} {entity : Entity}
    (h : sigilFunction tokens = .ok (entity, rest)) :
    ∃ head : Head, .mark (.sigil .func) :: terminals tokens = head.yield ++ terminals rest ∧
      head.entity? = some entity := by
  simp only [sigilFunction, bind_eq_ok_iff, Prod.exists] at h
  obtain ⟨_, _, htype, _, _, htemplate, h⟩ := h
  obtain ⟨type, htypeYield, htype⟩ := colonType_sound htype
  obtain ⟨template, htemplateYield, htemplate, -⟩ := optionalTemplate_sound htemplate
  split_ifs at h with hopen
  · simp only [bind_eq_ok_iff, Prod.exists, Except.ok.injEq, Prod.mk.injEq] at h
    obtain ⟨_, _, hparameters, _, _, hlist, rfl, rfl⟩ := h
    obtain ⟨opening, htokens, hkind⟩ := startsWith_eq_true hopen
    obtain ⟨entries, hyield, hentries⟩ := parameterList_sound (by decide) hparameters
    obtain ⟨words, hwordsYield, hwords⟩ := optionalAttributes_sound hlist
    refine ⟨.sigilFunction type template (some entries) words, ?_, ?_⟩
    · rw [htypeYield, htemplateYield, htokens, terminals_cons, hyield, hwordsYield,
        terminal_of_kind hkind (by decide)]
      simp [Head.yield, parametersYield, entriesYield]
    · simp [Head.entity?, htype, htemplate, hentries, hwords]
  · simp only [bind_eq_ok_iff, Prod.exists, Except.ok.injEq, Prod.mk.injEq] at h
    obtain ⟨_, _, ⟨rfl, rfl⟩, _, _, hlist, rfl, rfl⟩ := h
    obtain ⟨words, hwordsYield, hwords⟩ := optionalAttributes_sound hlist
    refine ⟨.sigilFunction type template none words, ?_, ?_⟩
    · rw [htypeYield, htemplateYield, hwordsYield]
      simp [Head.yield]
    · simp [Head.entity?, htype, htemplate, hwords]

theorem sigilEntity_sound {sigil : Sigil} {tokens rest : List Token} {entity : Entity}
    (h : sigilEntity sigil tokens = .ok (entity, rest)) :
    ∃ head : Head, .mark (.sigil sigil) :: terminals tokens = head.yield ++ terminals rest ∧
      head.entity? = some entity := by
  cases sigil with
  | func => exact sigilFunction_sound h
  | var => exact sigilVariable_sound false h
  | param => exact sigilVariable_sound true h
  | type =>
    simp only [sigilEntity, bind_eq_ok_iff, Prod.exists, Except.ok.injEq, Prod.mk.injEq] at h
    obtain ⟨_, _, htemplate, rfl, rfl⟩ := h
    obtain ⟨template, hyield, htemplate, -⟩ := optionalTemplate_sound htemplate
    refine ⟨.sigilClass template, ?_, by simp [Head.entity?, htemplate]⟩
    rw [hyield]
    rfl

theorem namedClass_sound {tokens rest : List Token} {entity : Entity}
    (h : namedClass tokens = .ok (entity, rest)) :
    ∃ head : Head, .mark .pound :: terminals tokens = head.yield ++ terminals rest ∧
      head.entity? = some entity := by
  simp only [namedClass, bind_eq_ok_iff, Prod.exists, Except.ok.injEq, Prod.mk.injEq] at h
  obtain ⟨token, tail, hname, name, hfield, _, _, htemplate, rfl, rfl⟩ := h
  obtain ⟨rfl, hdata⟩ := expect_sound hname
  rw [fieldOf_eq_ok_iff] at hfield
  obtain ⟨template, hyield, htemplate, -⟩ := optionalTemplate_sound htemplate
  refine ⟨.namedClass token.text template, ?_, by simp [Head.entity?, hfield, htemplate]⟩
  rw [terminals_cons, hyield, terminal_of_data hdata]
  rfl

theorem structured_sound (name : Option String) {field : Field}
    (hname : orAny? field? name = some field) {tokens rest : List Token} {entity : Entity}
    (h : structured field tokens = .ok (entity, rest)) :
    ∃ head : Head, name.elim [] (fun name => [.word name]) ++ .mark .colon :: terminals tokens =
        head.yield ++ terminals rest ∧ head.entity? = some entity := by
  simp only [structured, bind_eq_ok_iff, Prod.exists] at h
  obtain ⟨_, _, htype, _, _, htemplate, h⟩ := h
  obtain ⟨type, htypeYield, htype⟩ := optionalType_sound htype
  obtain ⟨template, htemplateYield, htemplate, hopens⟩ := optionalTemplate_sound htemplate
  split_ifs at h with hopen
  · simp only [bind_eq_ok_iff, Prod.exists, Except.ok.injEq, Prod.mk.injEq] at h
    obtain ⟨_, _, hparameters, _, _, hlist, rfl, rfl⟩ := h
    obtain ⟨opening, htokens, hkind⟩ := startsWith_eq_true hopen
    obtain ⟨entries, hyield, hentries⟩ := parameterList_sound (by decide) hparameters
    obtain ⟨words, hwordsYield, hwords⟩ := optionalAttributes_sound hlist
    refine ⟨.typedFunction name type template entries words, ?_, ?_⟩
    · rw [htypeYield, htemplateYield, htokens, terminals_cons, hyield, hwordsYield,
        terminal_of_kind hkind (by decide)]
      simp [Head.yield, parametersYield, entriesYield]
    · simp [Head.entity?, hname, htype, htemplate, hentries, hwords]
  · simp only [bind_eq_ok_iff, Prod.exists, Except.ok.injEq, Prod.mk.injEq] at h
    obtain ⟨_, _, hlist, rfl, rfl⟩ := h
    obtain ⟨words, hwordsYield, hwords⟩ := optionalAttributes_sound hlist
    -- Only a parameter list can follow the template list of a function.
    obtain rfl : template = none := by
      cases template with
      | none => rfl
      | some entries => exact absurd (hopens rfl rfl) hopen
    refine ⟨.typedVariable name type words, ?_, ?_⟩
    · rw [htypeYield, htemplateYield, hwordsYield]
      simp [Head.yield]
    · simp [Head.entity?, hname, htype, hwords]

theorem unqualified_sound {tokens rest : List Token} {entity : Entity}
    (h : unqualified tokens = .ok (entity, rest)) :
    ∃ head : Head, terminals tokens = head.yield ++ terminals rest ∧
      head.entity? = some entity := by
  cases tokens with
  | nil => simp [unqualified] at h
  | cons token tail =>
    rw [terminals_cons]
    simp only [unqualified] at h
    split at h
    · next sigil hkind =>
      rw [terminal_of_kind hkind (by simp)]
      exact sigilEntity_sound h
    · next hkind =>
      rw [terminal_of_kind hkind (by decide)]
      exact namedClass_sound h
    · next hkind =>
      rw [terminal_of_kind hkind (by decide)]
      exact structured_sound none rfl h
    · next hkind =>
      obtain ⟨name, hname, h⟩ := bind_eq_ok_iff.1 h
      rw [fieldOf_eq_ok_iff] at hname
      rw [terminal_of_data hkind]
      split_ifs at h with hcolon
      · obtain ⟨colon, htokens, hcolon⟩ := startsWith_eq_true hcolon
        rw [htokens, terminals_cons, terminal_of_kind hcolon (by decide)]
        exact structured_sound (some token.text) hname h
      · simp only [Except.ok.injEq, Prod.mk.injEq] at h
        obtain ⟨rfl, rfl⟩ := h
        exact ⟨.search token.text, rfl, by simp [Head.entity?, hname]⟩
    · simp at h

theorem qualifierChain_sound (tokens : List Token) :
    ∀ {fields : List Field} {rest : List Token}, qualifierChain tokens = .ok (fields, rest) →
    ∃ scopes : List String,
      terminals tokens =
        scopes.flatMap (fun scope => [.word scope, .mark .doubleColon]) ++ terminals rest ∧
      scopes.mapM field? = some fields := by
  intro fields rest
  fun_induction qualifierChain tokens generalizing fields rest with
  | case1 scope colons tail hkinds ih =>
    intro h
    simp only [bind_eq_ok_iff, Prod.exists, Except.ok.injEq, Prod.mk.injEq] at h
    obtain ⟨field, hfield, _, _, htail, rfl, rfl⟩ := h
    obtain ⟨scopes, hyield, hscopes⟩ := ih htail
    rw [fieldOf_eq_ok_iff] at hfield
    refine ⟨scope.text :: scopes, ?_, by simp [hfield, hscopes]⟩
    rw [terminals_cons, terminals_cons, hyield, terminal_of_data hkinds.1,
      terminal_of_kind hkinds.2 (by decide)]
    rfl
  | case2 scope colons tail hkinds =>
    intro h
    simp only [Except.ok.injEq, Prod.mk.injEq] at h
    obtain ⟨rfl, rfl⟩ := h
    exact ⟨[], rfl, rfl⟩
  | case3 tokens hshort =>
    intro h
    simp only [Except.ok.injEq, Prod.mk.injEq] at h
    obtain ⟨rfl, rfl⟩ := h
    exact ⟨[], rfl, rfl⟩

/-- A term is read as the grammar derives it. -/
theorem term_sound {tokens rest : List Token} {pattern : Pattern}
    (h : Query.term tokens = .ok (pattern, rest)) :
    ∃ term : Term, terminals tokens = term.yield ++ terminals rest ∧
      term.pattern? = some pattern := by
  simp only [Query.term, bind_eq_ok_iff, Prod.exists, Except.ok.injEq, Prod.mk.injEq] at h
  obtain ⟨fields, afterScopes, hchain, entity, _, hentity, rfl, rfl⟩ := h
  obtain ⟨scopes, hscopesYield, hscopes⟩ := qualifierChain_sound _ hchain
  obtain ⟨head, hheadYield, hhead⟩ := unqualified_sound hentity
  refine ⟨⟨startsWith .doubleColon tokens, scopes, head⟩, ?_, ?_⟩
  · rw [Term.yield, List.append_assoc, List.append_assoc, ← hheadYield, ← hscopesYield]
    split_ifs with hcolons
    · obtain ⟨colons, htokens, hkind⟩ := startsWith_eq_true hcolons
      rw [htokens, terminals_cons, terminal_of_kind hkind (by decide)]
      rfl
    · rfl
  · cases fields <;> simp [Term.pattern?, Term.qualifier?, hscopes, hhead]

end StructSearch.Query.Grammar
