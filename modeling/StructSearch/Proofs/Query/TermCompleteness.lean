import Mathlib.Tactic
import StructSearch.Proofs.Query.Terminals

/-!
# Terms that are derived are read

Tokens that a term writes are read as the pattern of the term, if the look ahead for a template
list agrees with it. What may follow a part is told by the kinds of the tokens that can stand in
front of the rest.

Results:
* `typeName_complete` up to `unqualified_complete`: each part of a term is read as it is derived.
* `term_complete`: so is a whole term.
-/

namespace StructSearch.Query.Grammar

/-! ## Types and parameter lists -/

theorem expect_complete {kind : Token.Kind} {expected : Expected} {token : Token}
    {rest : List Token} (h : token.kind = kind) :
    expect kind expected (token :: rest) = .ok (token, rest) := by
  simp [expect, h]

theorem typeTail_complete {rest : List Token} (hrest : startsWith .doubleColon rest = false)
    (segments : List String) : ∀ {taken : List Token} (text : String),
    terminals taken = segments.flatMap (fun segment => [.mark .doubleColon, .word segment]) →
    typeTail text (taken ++ rest) = (String.intercalate "::" (text :: segments), rest) := by
  induction segments with
  | nil =>
    intro taken text h
    obtain rfl := terminals_eq_nil_iff.1 h
    rw [List.nil_append]
    match rest with
    | [] => simp [typeTail]
    | [token] => simp [typeTail]
    | colons :: segment :: tail =>
      have hne : colons.kind ≠ .doubleColon := by simpa [startsWith] using hrest
      simp [typeTail, hne]
  | cons segment segments ih =>
    intro taken text h
    obtain ⟨colons, taken, rfl, hcolons, h⟩ := (terminals_eq_mark_cons_iff (by decide)).1 h
    obtain ⟨word, taken, rfl, hdata, rfl, htail⟩ := terminals_eq_word_cons_iff.1 h
    rw [List.cons_append, List.cons_append, typeTail, if_pos ⟨hcolons, hdata⟩, ih _ htail]
    rfl

variable [Regex.Engine]

theorem typeName_complete {taken rest : List Token} {type : TypeName} {field : Field}
    (hyield : terminals taken = type.yield) (hfield : type.field? = some field)
    (hrest : startsWith .doubleColon rest = false) :
    typeName (taken ++ rest) = .ok (field, rest) := by
  obtain ⟨first, taken, rfl, hdata, hfirst, hsegments⟩ := terminals_eq_word_cons_iff.1 hyield
  have htail := typeTail_complete hrest type.segments first.text hsegments
  have hat : fieldAt first.start type.text = .ok field := fieldAt_eq_ok_iff.2 hfield
  rw [hfirst] at htail
  simp only [typeName, List.cons_append, expect_complete hdata, bind, Except.bind, hfirst, htail]
  rw [← TypeName.text, hat]

theorem optionalType_complete {taken rest : List Token} {type : Option TypeName} {field : Field}
    (hyield : terminals taken = type.elim [] TypeName.yield)
    (hfield : orAny? TypeName.field? type = some field)
    (hcolons : startsWith .doubleColon rest = false) (hdata : startsWith .data rest = false) :
    optionalType (taken ++ rest) = .ok (field, rest) := by
  cases type with
  | none =>
    obtain rfl := terminals_eq_nil_iff.1 hyield
    obtain rfl : Field.any = field := by simpa [orAny?] using hfield
    simp [optionalType, hdata]
  | some type =>
    have hstart : startsWith .data (taken ++ rest) = true := by
      obtain ⟨first, taken, rfl, hkind, -⟩ := terminals_eq_word_cons_iff.1 hyield
      simp [startsWith, hkind]
    rw [optionalType, if_pos hstart]
    exact typeName_complete hyield hfield hcolons

theorem colonType_complete {taken rest : List Token} {type : Option TypeName} {field : Field}
    (hyield : terminals taken = Head.colonYield type)
    (hfield : orAny? TypeName.field? type = some field)
    (hcolons : startsWith .doubleColon rest = false) (hcolon : startsWith .colon rest = false) :
    colonType (taken ++ rest) = .ok (field, rest) := by
  cases type with
  | none =>
    obtain rfl := terminals_eq_nil_iff.1 hyield
    obtain rfl : Field.any = field := by simpa [orAny?] using hfield
    simp [colonType, hcolon]
  | some type =>
    obtain ⟨colon, taken, rfl, hkind, hyield⟩ := (terminals_eq_mark_cons_iff (by decide)).1 hyield
    rw [colonType, List.cons_append, if_pos (by simp [startsWith, hkind])]
    exact typeName_complete hyield hfield hcolons

theorem parameter_complete {taken rest : List Token} {entry : Entry} {parameter : Parameter}
    (hyield : terminals taken = entry.yield) (hentry : entry.parameter? = some parameter)
    (hrest : Opens [.comma, .rparen, .rangle] (terminals rest)) :
    Query.parameter (taken ++ rest) = .ok (parameter, rest) := by
  have hcolons : startsWith .doubleColon rest = false := hrest.startsWith (by decide)
  have hdata : startsWith .data rest = false := hrest.startsWith (by decide)
  cases entry with
  | ellipsis =>
    obtain ⟨token, taken, rfl, hkind, htaken⟩ := (terminals_eq_mark_cons_iff (by decide)).1 hyield
    obtain rfl := terminals_eq_nil_iff.1 htaken
    obtain rfl : Parameter.ellipsis = parameter := by simpa [Entry.parameter?] using hentry
    simp [Query.parameter, hkind]
  | named name =>
    obtain ⟨token, taken, rfl, hkind, rfl, htaken⟩ := terminals_eq_word_cons_iff.1 hyield
    obtain rfl := terminals_eq_nil_iff.1 htaken
    simp only [Entry.parameter?, Option.bind_eq_bind, Option.bind_eq_some_iff,
      Option.some.injEq] at hentry
    obtain ⟨field, hfield, rfl⟩ := hentry
    have hof : fieldOf token = .ok field := fieldOf_eq_ok_iff.2 hfield
    have hcolon : startsWith .colon rest = false := hrest.startsWith (by decide)
    cases rest with
    | nil => simp [Query.parameter, hkind, hof, bind, Except.bind]
    | cons next rest =>
      have hne : next.kind ≠ .colon := by simpa [startsWith] using hcolon
      simp [Query.parameter, hkind, hof, bind, Except.bind, hne]
  | typed name type =>
    simp only [Entry.parameter?, Option.bind_eq_bind, Option.bind_eq_some_iff,
      Option.some.injEq] at hentry
    obtain ⟨nameField, hname, typeField, htype, rfl⟩ := hentry
    cases name with
    | none =>
      obtain ⟨colon, taken, rfl, hkind, htaken⟩ :=
        (terminals_eq_mark_cons_iff (by decide)).1 hyield
      have hread := optionalType_complete htaken htype hcolons hdata
      obtain rfl : Field.any = nameField := by simpa [orAny?] using hname
      simp [Query.parameter, hkind, hread, bind, Except.bind]
    | some name =>
      obtain ⟨token, taken, rfl, hword, rfl, htaken⟩ := terminals_eq_word_cons_iff.1 hyield
      obtain ⟨colon, taken, rfl, hkind, htaken⟩ :=
        (terminals_eq_mark_cons_iff (by decide)).1 htaken
      have hread := optionalType_complete htaken htype hcolons hdata
      have hof : fieldOf token = .ok nameField := fieldOf_eq_ok_iff.2 hname
      simp [Query.parameter, hkind, hword, hof, hread, bind, Except.bind]

theorem parameters?_cons_eq_some_iff {entry : Entry} {entries : List Entry}
    {parameters : List Parameter} :
    parameters? (entry :: entries) = some parameters ↔
      ∃ parameter later, entry.parameter? = some parameter ∧
        parameters? entries = some later ∧ parameter :: later = parameters := by
  simp [parameters?, Option.bind_eq_some_iff]

theorem parametersFrom_complete {closing : Token.Kind} {expected : Expected}
    (hclosing : closing ∈ [Token.Kind.rparen, .rangle]) {rest : List Token}
    (entries : List Entry) : ∀ {taken : List Token} {parameters : List Parameter},
    entries ≠ [] → terminals taken = separated Entry.yield entries ++ [.mark closing] →
    parameters? entries = some parameters →
    parametersFrom closing expected (taken ++ rest) = .ok (parameters, rest) := by
  have hdata : closing ≠ .data := by
    rintro rfl
    revert hclosing
    decide
  have hcomma : closing ≠ .comma := by
    rintro rfl
    revert hclosing
    decide
  intro taken parameters
  fun_induction separated Entry.yield entries generalizing taken parameters with
  | case1 => simp
  | case2 entry =>
    intro _ hyield hentries
    obtain ⟨taken, last, rfl, hentry, hlast⟩ := terminals_eq_append_iff.1 hyield
    obtain ⟨token, last, rfl, hkind, hlast⟩ := (terminals_eq_mark_cons_iff hdata).1 hlast
    obtain rfl := terminals_eq_nil_iff.1 hlast
    obtain ⟨parameter, later, hparameter, hnone, rfl⟩ := parameters?_cons_eq_some_iff.1 hentries
    obtain rfl : [] = later := by simpa [parameters?] using hnone
    have hopens : Opens [.comma, .rparen, .rangle] (terminals (token :: rest)) := by
      rw [terminals_cons, terminal_of_kind hkind hdata]
      exact .cons (List.mem_cons_of_mem _ hclosing)
    rw [parametersFrom, List.append_assoc, List.cons_append, List.nil_append]
    rw [parameter_complete hentry hparameter hopens]
    simp [hkind, hcomma]
  | case3 entry next entries ih =>
    intro _ hyield hentries
    rw [List.append_assoc] at hyield
    obtain ⟨taken, later, rfl, hentry, hlater⟩ := terminals_eq_append_iff.1 hyield
    obtain ⟨token, later, rfl, hkind, hlater⟩ :=
      (terminals_eq_mark_cons_iff (by decide)).1 hlater
    obtain ⟨parameter, others, hparameter, hothers, rfl⟩ :=
      parameters?_cons_eq_some_iff.1 hentries
    have hopens : Opens [.comma, .rparen, .rangle] (terminals (token :: (later ++ rest))) := by
      rw [terminals_cons, terminal_of_kind hkind (by decide)]
      exact .cons (by decide)
    rw [parametersFrom, List.append_assoc, List.cons_append]
    rw [parameter_complete hentry hparameter hopens]
    simp [hkind, ih (by simp) hlater hothers, bind, Except.bind]

omit [Regex.Engine] in
theorem separated_cons {α : Type} (yield : α → List Terminal) (part : α) (parts : List α) :
    ∃ later, separated yield (part :: parts) = yield part ++ later := by
  cases parts with
  | nil => exact ⟨[], by simp [separated]⟩
  | cons next parts => exact ⟨_, rfl⟩

omit [Regex.Engine] in
theorem Entry.yield_ne_nil (entry : Entry) : entry.yield ≠ [] := by
  cases entry <;> simp [Entry.yield]

theorem parameterList_complete {closing : Token.Kind} {expected : Expected}
    (hclosing : closing ∈ [Token.Kind.rparen, .rangle]) {taken rest : List Token}
    {entries : List Entry} {parameters : List Parameter}
    (hyield : terminals taken = separated Entry.yield entries ++ [.mark closing])
    (hentries : parameters? entries = some parameters) :
    parameterList closing expected (taken ++ rest) = .ok (parameters, rest) := by
  have hdata : closing ≠ .data := by
    rintro rfl
    revert hclosing
    decide
  cases entries with
  | nil =>
    obtain ⟨token, taken, rfl, hkind, htaken⟩ := (terminals_eq_mark_cons_iff hdata).1 hyield
    obtain rfl := terminals_eq_nil_iff.1 htaken
    obtain rfl : [] = parameters := by simpa [parameters?] using hentries
    simp [parameterList, startsWith, hkind]
  | cons entry entries =>
    have hstart : startsWith closing (taken ++ rest) = false := by
      obtain ⟨later, hlater⟩ := separated_cons Entry.yield entry entries
      obtain ⟨first, tail, hfirst⟩ := List.exists_cons_of_ne_nil entry.yield_ne_nil
      have htemplate : isTemplateTerminal first = true :=
        isTemplateTerminal_of_mem_entry (by rw [hfirst]; exact List.mem_cons_self)
      rw [← Bool.not_eq_true, startsWith_iff hdata, terminals_append, hyield, hlater, hfirst]
      simp only [List.cons_append, List.head?_cons, Option.some.injEq]
      rintro rfl
      simp only [List.mem_cons, List.not_mem_nil, or_false] at hclosing
      obtain rfl | rfl := hclosing <;> cases htemplate
    rw [parameterList, hstart]
    exact parametersFrom_complete hclosing _ (by simp) hyield hentries

/-! ## Template lists -/

theorem optionalTemplate_complete {ofFunction : Bool} {taken rest : List Token}
    {template : Option (List Entry)} {parameters : Option (List Parameter)}
    (hyield : terminals taken = template.elim [] templateYield)
    (htemplate : template? template = some parameters)
    (hahead : opensTemplate ofFunction (template.elim [] templateYield ++ terminals rest) =
      template.isSome) :
    optionalTemplate ofFunction (taken ++ rest) = .ok (parameters, rest) := by
  rw [← hyield, ← terminals_append, ← templateAhead_eq] at hahead
  rw [optionalTemplate, hahead]
  cases template with
  | none =>
    obtain rfl := terminals_eq_nil_iff.1 hyield
    obtain rfl : none = parameters := by simpa [template?] using htemplate
    rfl
  | some entries =>
    obtain ⟨opening, taken, rfl, -, htaken⟩ := (terminals_eq_mark_cons_iff (by decide)).1 hyield
    obtain ⟨list, hlist, rfl⟩ : ∃ list, parameters? entries = some list ∧ some list = parameters :=
      by simpa [template?] using htemplate
    have hread : parameterList .rangle .commaOrAngle (taken ++ rest) = .ok (list, rest) :=
      parameterList_complete (by decide) htaken hlist
    simp [hread, bind, Except.bind]

/-! ## Attributes -/

omit [Regex.Engine] in
theorem attributesFrom_complete {rest : List Token} (words : List String) :
    ∀ {taken : List Token} {list : AttributeList}, words ≠ [] →
    terminals taken = separated (fun word => [.word word]) words ++ [.mark .rsquare] →
    OneAccess (list.names.names ++ words.map Text.lowercase) →
    attributesFrom list (taken ++ rest) =
      .ok ((words.map Text.lowercase).foldl addName list, rest) := by
  induction words with
  | nil => simp
  | cons word words ih =>
    intro taken list _ hyield hone
    have hadd : ∀ token : Token, token.text = word →
        list.add token = .ok (addName list (Text.lowercase word)) := by
      rintro token rfl
      refine add_eq_ok_iff.2 ⟨rfl, fun other hother hname haccess => ?_⟩
      exact hone other (by simp [hother]) _ (by simp) haccess hname
    cases words with
    | nil =>
      obtain ⟨token, taken, rfl, hdata, htext, htaken⟩ := terminals_eq_word_cons_iff.1 hyield
      obtain ⟨closing, taken, rfl, hkind, htaken⟩ :=
        (terminals_eq_mark_cons_iff (by decide)).1 htaken
      obtain rfl := terminals_eq_nil_iff.1 htaken
      simp [attributesFrom, hdata, hadd token htext, hkind, bind, Except.bind]
    | cons next words =>
      obtain ⟨token, taken, rfl, hdata, htext, htaken⟩ := terminals_eq_word_cons_iff.1 hyield
      obtain ⟨comma, taken, rfl, hkind, htaken⟩ :=
        (terminals_eq_mark_cons_iff (by decide)).1 htaken
      have hread := ih (by simp) htaken ((oneAccess_addName _ _ _).2 hone)
      simp [attributesFrom, hdata, hadd token htext, hkind, bind, Except.bind, hread]

omit [Regex.Engine] in
theorem optionalAttributes_complete {taken rest : List Token} {words : Option (List String)}
    {list : AttributeList} (hyield : terminals taken = words.elim [] attributesYield)
    (hlist : attributes? words = some list) (hrest : startsWith .lsquare rest = false) :
    optionalAttributes (taken ++ rest) = .ok (list, rest) := by
  obtain ⟨hone, rfl⟩ := attributes?_eq_some.1 hlist
  cases words with
  | none =>
    obtain rfl := terminals_eq_nil_iff.1 hyield
    simp [optionalAttributes, hrest]
  | some words =>
    obtain ⟨opening, taken, rfl, hopening, htaken⟩ :=
      (terminals_eq_mark_cons_iff (by decide)).1 hyield
    rw [optionalAttributes, List.cons_append, if_pos (by simp [startsWith, hopening]),
      List.tail_cons]
    cases words with
    | nil =>
      obtain ⟨closing, taken, rfl, hkind, htaken⟩ :=
        (terminals_eq_mark_cons_iff (by decide)).1 htaken
      obtain rfl := terminals_eq_nil_iff.1 htaken
      simp [startsWith, hkind]
    | cons word words =>
      have hstart : startsWith .rsquare (taken ++ rest) = false := by
        obtain ⟨later, hlater⟩ := separated_cons (fun word => [Terminal.word word]) word words
        rw [← Bool.not_eq_true, startsWith_iff (by decide), terminals_append, htaken, hlater]
        simp
      rw [hstart]
      exact attributesFrom_complete _ (by simp) htaken hone

/-! ## Terms -/

/-- The kinds that can follow a primary. -/
def primaryFollow : List Token.Kind :=
  [.equal, .lcurly, .tilde, .and, .or, .rangle, .langle, .not, .rparen, .rcurly]

omit [Regex.Engine] in
theorem head?_attributesYield (words : List String) :
    (attributesYield words).head? = some (.mark .lsquare) := rfl

omit [Regex.Engine] in
theorem head?_parametersYield (entries : List Entry) :
    (parametersYield entries).head? = some (.mark .lparen) := rfl

omit [Regex.Engine] in
theorem head?_templateYield (entries : List Entry) :
    (templateYield entries).head? = some (.mark .langle) := rfl

theorem sigilVariable_complete {isParameter : Bool} {type : Option TypeName}
    {attributes : Option (List String)} {taken rest : List Token} {entity : Entity}
    (hyield : terminals taken = Head.colonYield type ++ attributes.elim [] attributesYield)
    (hentity : (Head.sigilVariable isParameter type attributes).entity? = some entity)
    (hrest : Opens primaryFollow (terminals rest)) :
    sigilVariable isParameter (taken ++ rest) = .ok (entity, rest) := by
  obtain ⟨taken, list, rfl, htype, hlist⟩ := terminals_eq_append_iff.1 hyield
  simp only [Head.entity?, Option.bind_eq_bind, Option.bind_eq_some_iff, Option.some.injEq]
    at hentity
  obtain ⟨field, hfield, names, hnames, rfl⟩ := hentity
  have hafter : Opens (.lsquare :: primaryFollow) (terminals (list ++ rest)) := by
    rw [terminals_append, hlist]
    exact hrest.optional head?_attributesYield
  rw [List.append_assoc]
  simp only [sigilVariable, bind, Except.bind,
    colonType_complete htype hfield (hafter.startsWith (by decide)) (hafter.startsWith (by decide)),
    optionalAttributes_complete hlist hnames (hrest.startsWith (by decide))]

/-- A parameter list with its delimiters. -/
theorem parameters_complete {taken : List Token} (rest : List Token) {entries : List Entry}
    {parameters : List Parameter} (hyield : terminals taken = parametersYield entries)
    (hentries : parameters? entries = some parameters) :
    startsWith .lparen (taken ++ rest) = true ∧
      parameterList .rparen .commaOrParen (taken ++ rest).tail = .ok (parameters, rest) := by
  obtain ⟨opening, taken, rfl, hkind, htaken⟩ := (terminals_eq_mark_cons_iff (by decide)).1 hyield
  refine ⟨by simp [startsWith, hkind], ?_⟩
  rw [List.cons_append, List.tail_cons]
  exact parameterList_complete (by decide) htaken hentries

theorem sigilFunction_complete {type : Option TypeName} {template entries : Option (List Entry)}
    {attributes : Option (List String)} {taken rest : List Token} {entity : Entity}
    (hyield : terminals taken = Head.colonYield type ++ (template.elim [] templateYield ++
      (entries.elim [] parametersYield ++ attributes.elim [] attributesYield)))
    (hentity : (Head.sigilFunction type template entries attributes).entity? = some entity)
    (hrest : Opens primaryFollow (terminals rest))
    (hfits : (Head.sigilFunction type template entries attributes).TemplateFits
      (terminals rest)) :
    sigilFunction (taken ++ rest) = .ok (entity, rest) := by
  obtain ⟨taken, later, rfl, htype, hyield⟩ := terminals_eq_append_iff.1 hyield
  obtain ⟨angles, later, rfl, hangles, hyield⟩ := terminals_eq_append_iff.1 hyield
  obtain ⟨parens, list, rfl, hparens, hlist⟩ := terminals_eq_append_iff.1 hyield
  simp only [Head.entity?, Option.bind_eq_bind, Option.bind_eq_some_iff, Option.some.injEq]
    at hentity
  obtain ⟨field, hfield, parameters, hparameters, arguments, harguments, names, hnames, rfl⟩ :=
    hentity
  have hafter : Opens (.lsquare :: primaryFollow) (terminals (list ++ rest)) := by
    rw [terminals_append, hlist]
    exact hrest.optional head?_attributesYield
  have hopens : Opens (.langle :: .lparen :: .lsquare :: primaryFollow)
      (terminals (angles ++ (parens ++ (list ++ rest)))) := by
    rw [terminals_append, terminals_append, hangles, hparens]
    exact (hafter.optional head?_parametersYield).optional head?_templateYield
  have hahead : opensTemplate true (template.elim [] templateYield ++
      terminals (parens ++ (list ++ rest))) = template.isSome := by
    rw [terminals_append, terminals_append, hparens, hlist]
    exact hfits
  simp only [List.append_assoc]
  simp only [sigilFunction, bind, Except.bind,
    colonType_complete htype hfield (hopens.startsWith (by decide)) (hopens.startsWith (by decide)),
    optionalTemplate_complete hangles hparameters hahead]
  cases entries with
  | none =>
    obtain rfl := terminals_eq_nil_iff.1 hparens
    obtain rfl : [Parameter.ellipsis] = arguments := by simpa using harguments
    have hparen : startsWith .lparen (list ++ rest) = false := hafter.startsWith (by decide)
    simp [hparen, optionalAttributes_complete hlist hnames (hrest.startsWith (by decide))]
  | some entries =>
    obtain ⟨hparen, hread⟩ := parameters_complete (list ++ rest) hparens harguments
    simp [hparen, hread, optionalAttributes_complete hlist hnames (hrest.startsWith (by decide))]

theorem namedClass_complete {name : String} {template : Option (List Entry)}
    {taken rest : List Token} {entity : Entity}
    (hyield : terminals taken = .word name :: template.elim [] templateYield)
    (hentity : (Head.namedClass name template).entity? = some entity)
    (hfits : (Head.namedClass name template).TemplateFits (terminals rest)) :
    namedClass (taken ++ rest) = .ok (entity, rest) := by
  obtain ⟨token, angles, rfl, hdata, rfl, hangles⟩ := terminals_eq_word_cons_iff.1 hyield
  simp only [Head.entity?, Option.bind_eq_bind, Option.bind_eq_some_iff, Option.some.injEq]
    at hentity
  obtain ⟨field, hfield, parameters, hparameters, rfl⟩ := hentity
  simp only [namedClass, bind, Except.bind, List.cons_append, expect_complete hdata,
    fieldOf_eq_ok_iff.2 hfield, optionalTemplate_complete hangles hparameters hfits]

theorem sigilClass_complete {template : Option (List Entry)} {taken rest : List Token}
    {entity : Entity} (hyield : terminals taken = template.elim [] templateYield)
    (hentity : (Head.sigilClass template).entity? = some entity)
    (hfits : (Head.sigilClass template).TemplateFits (terminals rest)) :
    sigilEntity .type (taken ++ rest) = .ok (entity, rest) := by
  simp only [Head.entity?, Option.bind_eq_bind, Option.bind_eq_some_iff, Option.some.injEq]
    at hentity
  obtain ⟨parameters, hparameters, rfl⟩ := hentity
  simp only [sigilEntity, bind, Except.bind, optionalTemplate_complete hyield hparameters hfits]

omit [Regex.Engine] in
/-- Before a parameter list, `<` opens a template list. -/
theorem opensTemplate_parameters (template : Option (List Entry)) (entries : List Entry)
    (rest : List Terminal) :
    opensTemplate true (template.elim [] templateYield ++ (parametersYield entries ++ rest)) =
      template.isSome := by
  cases template with
  | none => rfl
  | some list =>
    rw [Option.elim_some, opensTemplate_entries]
    rfl

theorem typedFunction_complete {name : Option String} {type : Option TypeName}
    {template : Option (List Entry)} {entries : List Entry} {attributes : Option (List String)}
    {taken rest : List Token} {entity : Entity} {nameField : Field}
    (hyield : terminals taken = type.elim [] TypeName.yield ++ (template.elim [] templateYield ++
      (parametersYield entries ++ attributes.elim [] attributesYield)))
    (hname : orAny? field? name = some nameField)
    (hentity : (Head.typedFunction name type template entries attributes).entity? = some entity)
    (hrest : Opens primaryFollow (terminals rest)) :
    structured nameField (taken ++ rest) = .ok (entity, rest) := by
  obtain ⟨taken, later, rfl, htype, hyield⟩ := terminals_eq_append_iff.1 hyield
  obtain ⟨angles, later, rfl, hangles, hyield⟩ := terminals_eq_append_iff.1 hyield
  obtain ⟨parens, list, rfl, hparens, hlist⟩ := terminals_eq_append_iff.1 hyield
  simp only [Head.entity?, hname, Option.bind_eq_bind, Option.bind_some, Option.bind_eq_some_iff,
    Option.some.injEq] at hentity
  obtain ⟨field, hfield, parameters, hparameters, arguments, harguments, names, hnames, rfl⟩ :=
    hentity
  have hopens : Opens [.langle, .lparen] (terminals (angles ++ (parens ++ (list ++ rest)))) := by
    rw [terminals_append, terminals_append, hangles, hparens]
    exact Opens.optional (Opens.cons (by decide)) head?_templateYield
  have hahead : opensTemplate true (template.elim [] templateYield ++
      terminals (parens ++ (list ++ rest))) = template.isSome := by
    rw [terminals_append, hparens]
    exact opensTemplate_parameters template entries _
  obtain ⟨hparen, hread⟩ := parameters_complete (list ++ rest) hparens harguments
  simp only [List.append_assoc]
  simp only [structured, bind, Except.bind, hparen, hread, if_true,
    optionalType_complete htype hfield (hopens.startsWith (by decide))
      (hopens.startsWith (by decide)),
    optionalTemplate_complete hangles hparameters hahead,
    optionalAttributes_complete hlist hnames (hrest.startsWith (by decide))]

theorem typedVariable_complete {name : Option String} {type : Option TypeName}
    {attributes : Option (List String)} {taken rest : List Token} {entity : Entity}
    {nameField : Field}
    (hyield : terminals taken = type.elim [] TypeName.yield ++ attributes.elim [] attributesYield)
    (hname : orAny? field? name = some nameField)
    (hentity : (Head.typedVariable name type attributes).entity? = some entity)
    (hrest : Opens primaryFollow (terminals rest))
    (hfits : (Head.typedVariable name type attributes).TemplateFits (terminals rest)) :
    structured nameField (taken ++ rest) = .ok (entity, rest) := by
  obtain ⟨taken, list, rfl, htype, hlist⟩ := terminals_eq_append_iff.1 hyield
  simp only [Head.entity?, hname, Option.bind_eq_bind, Option.bind_some, Option.bind_eq_some_iff,
    Option.some.injEq] at hentity
  obtain ⟨field, hfield, names, hnames, rfl⟩ := hentity
  have hafter : Opens (.lsquare :: primaryFollow) (terminals (list ++ rest)) := by
    rw [terminals_append, hlist]
    exact hrest.optional head?_attributesYield
  have hahead : templateAhead true (list ++ rest) = false := by
    rw [templateAhead_eq, terminals_append, hlist]
    exact hfits
  have hparen : startsWith .lparen (list ++ rest) = false := hafter.startsWith (by decide)
  rw [List.append_assoc]
  simp [structured, bind, Except.bind, optionalTemplate, hahead, hparen,
    optionalType_complete htype hfield (hafter.startsWith (by decide))
      (hafter.startsWith (by decide)),
    optionalAttributes_complete hlist hnames (hrest.startsWith (by decide))]

/-- After a name and a colon, a function or a variable is read. -/
theorem unqualified_eq_structured {name : Option String} {nameField : Field} {taken : List Token}
    (later : List Token)
    (hyield : terminals taken = name.elim [] (fun name => [.word name]) ++ [.mark .colon])
    (hname : orAny? field? name = some nameField) :
    unqualified (taken ++ later) = structured nameField later := by
  cases name with
  | none =>
    obtain ⟨colon, taken, rfl, hkind, htaken⟩ := (terminals_eq_mark_cons_iff (by decide)).1 hyield
    obtain rfl := terminals_eq_nil_iff.1 htaken
    obtain rfl : Field.any = nameField := by simpa [orAny?] using hname
    simp [unqualified, hkind]
  | some name =>
    obtain ⟨token, taken, rfl, hdata, rfl, htaken⟩ := terminals_eq_word_cons_iff.1 hyield
    obtain ⟨colon, taken, rfl, hkind, htaken⟩ := (terminals_eq_mark_cons_iff (by decide)).1 htaken
    obtain rfl := terminals_eq_nil_iff.1 htaken
    have hof : fieldOf token = .ok nameField := fieldOf_eq_ok_iff.2 hname
    simp [unqualified, hdata, hof, startsWith, hkind, bind, Except.bind]

theorem unqualified_complete {head : Head} {taken rest : List Token} {entity : Entity}
    (hyield : terminals taken = head.yield) (hentity : head.entity? = some entity)
    (hrest : Opens primaryFollow (terminals rest)) (hfits : head.TemplateFits (terminals rest)) :
    unqualified (taken ++ rest) = .ok (entity, rest) := by
  cases head with
  | sigilFunction type template parameters attributes =>
    simp only [Head.yield, List.cons_append, List.append_assoc] at hyield
    obtain ⟨sigil, taken, rfl, hkind, hyield⟩ := (terminals_eq_mark_cons_iff (by simp)).1 hyield
    simp only [unqualified, List.cons_append, hkind]
    exact sigilFunction_complete hyield hentity hrest hfits
  | sigilVariable isParameter type attributes =>
    simp only [Head.yield, List.cons_append] at hyield
    obtain ⟨sigil, taken, rfl, hkind, hyield⟩ := (terminals_eq_mark_cons_iff (by simp)).1 hyield
    have hread := sigilVariable_complete hyield hentity hrest
    cases isParameter <;> simpa [unqualified, hkind, sigilEntity] using hread
  | sigilClass template =>
    obtain ⟨sigil, taken, rfl, hkind, hyield⟩ := (terminals_eq_mark_cons_iff (by simp)).1 hyield
    simp only [unqualified, List.cons_append, hkind]
    exact sigilClass_complete hyield hentity hfits
  | namedClass name template =>
    obtain ⟨pound, taken, rfl, hkind, hyield⟩ := (terminals_eq_mark_cons_iff (by simp)).1 hyield
    simp only [unqualified, List.cons_append, hkind]
    exact namedClass_complete hyield hentity hfits
  | typedFunction name type template parameters attributes =>
    obtain ⟨nameField, hname, -⟩ := Option.bind_eq_some_iff.1 hentity
    simp only [Head.yield, List.append_assoc, List.cons_append] at hyield
    rw [List.append_cons] at hyield
    obtain ⟨taken, later, rfl, htaken, hyield⟩ := terminals_eq_append_iff.1 hyield
    rw [List.append_assoc, unqualified_eq_structured _ htaken hname]
    exact typedFunction_complete hyield hname hentity hrest
  | typedVariable name type attributes =>
    obtain ⟨nameField, hname, -⟩ := Option.bind_eq_some_iff.1 hentity
    simp only [Head.yield, List.append_assoc, List.cons_append] at hyield
    rw [List.append_cons] at hyield
    obtain ⟨taken, later, rfl, htaken, hyield⟩ := terminals_eq_append_iff.1 hyield
    rw [List.append_assoc, unqualified_eq_structured _ htaken hname]
    exact typedVariable_complete hyield hname hentity hrest hfits
  | search text =>
    obtain ⟨token, taken, rfl, hdata, rfl, htaken⟩ := terminals_eq_word_cons_iff.1 hyield
    obtain rfl := terminals_eq_nil_iff.1 htaken
    simp only [Head.entity?, Option.bind_eq_bind, Option.bind_eq_some_iff, Option.some.injEq]
      at hentity
    obtain ⟨field, hfield, rfl⟩ := hentity
    have hcolon : startsWith .colon rest = false := hrest.startsWith (by decide)
    simp [unqualified, hdata, fieldOf_eq_ok_iff.2 hfield, bind, Except.bind, hcolon]

omit [Regex.Engine] in
/-- A head does not look like a qualifier. -/
theorem head_ne_qualifier {head : Head} {taken rest : List Token}
    (hyield : terminals taken = head.yield) (hrest : Opens primaryFollow (terminals rest)) :
    ∀ scope colons tail, taken ++ rest = scope :: colons :: tail →
      ¬(scope.kind = .data ∧ colons.kind = .doubleColon) := by
  rintro scope colons tail heq ⟨hdata, hcolons⟩
  have hterminals := congrArg terminals heq
  rw [terminals_append, hyield, terminals_cons, terminals_cons, terminal_of_data hdata,
    terminal_of_kind hcolons (by decide)] at hterminals
  cases head with
  | sigilFunction | sigilVariable | sigilClass | namedClass => simp [Head.yield] at hterminals
  | typedFunction name => cases name <;> simp [Head.yield] at hterminals
  | typedVariable name => cases name <;> simp [Head.yield] at hterminals
  | search text =>
    simp only [Head.yield, List.cons_append, List.nil_append, List.cons.injEq] at hterminals
    obtain ⟨kind, hkind, hmark⟩ := hrest (.mark .doubleColon) (by simp [hterminals.2])
    obtain rfl := Terminal.mark.inj hmark
    revert hkind
    decide

theorem qualifierChain_complete {rest : List Token}
    (hrest : ∀ scope colons tail, rest = scope :: colons :: tail →
      ¬(scope.kind = .data ∧ colons.kind = .doubleColon)) (scopes : List String) :
    ∀ {taken : List Token} {fields : List Field},
    terminals taken = scopes.flatMap (fun scope => [.word scope, .mark .doubleColon]) →
    scopes.mapM field? = some fields → qualifierChain (taken ++ rest) = .ok (fields, rest) := by
  induction scopes with
  | nil =>
    intro taken fields hyield hfields
    obtain rfl := terminals_eq_nil_iff.1 hyield
    obtain rfl : [] = fields := by simpa using hfields
    rw [List.nil_append]
    match rest with
    | [] => rfl
    | [token] => rfl
    | scope :: colons :: tail => rw [qualifierChain, if_neg (hrest scope colons tail rfl)]
  | cons scope scopes ih =>
    intro taken fields hyield hfields
    obtain ⟨word, taken, rfl, hdata, rfl, htaken⟩ := terminals_eq_word_cons_iff.1 hyield
    obtain ⟨colons, taken, rfl, hkind, htail⟩ := (terminals_eq_mark_cons_iff (by decide)).1 htaken
    simp only [List.mapM_cons, Option.bind_eq_bind, Option.bind_eq_some_iff, Option.pure_def,
      Option.some.injEq] at hfields
    obtain ⟨field, hfield, others, hothers, rfl⟩ := hfields
    rw [List.cons_append, List.cons_append, qualifierChain, if_pos ⟨hdata, hkind⟩]
    simp [fieldOf_eq_ok_iff.2 hfield, ih htail hothers, bind, Except.bind]

/-- A term that fits what follows it is read as it is derived. -/
theorem term_complete {term : Term} {taken rest : List Token} {pattern : Pattern}
    (hyield : terminals taken = term.yield) (hpattern : term.pattern? = some pattern)
    (hrest : Opens primaryFollow (terminals rest))
    (hfits : term.head.TemplateFits (terminals rest)) :
    Query.term (taken ++ rest) = .ok (pattern, rest) := by
  simp only [Term.pattern?, Term.qualifier?, Option.bind_eq_bind, Option.bind_eq_some_iff,
    Option.some.injEq] at hpattern
  obtain ⟨_, ⟨fields, hfields, rfl⟩, entity, hentity, rfl⟩ := hpattern
  rw [Term.yield, List.append_assoc] at hyield
  obtain ⟨colons, later, rfl, hcolons, hyield⟩ := terminals_eq_append_iff.1 hyield
  obtain ⟨scopes, head, rfl, hscopes, hhead⟩ := terminals_eq_append_iff.1 hyield
  have hchain := qualifierChain_complete (head_ne_qualifier hhead hrest) _ hscopes hfields
  have hread := unqualified_complete hhead hentity hrest hfits
  simp only [List.append_assoc]
  cases hscope : term.fileScope with
  | true =>
    simp only [hscope, if_true] at hcolons
    obtain ⟨token, colons, rfl, hkind, hnone⟩ :=
      (terminals_eq_mark_cons_iff (by decide)).1 hcolons
    obtain rfl := terminals_eq_nil_iff.1 hnone
    have hstart : startsWith .doubleColon (token :: (scopes ++ (head ++ rest))) = true := by
      simp [startsWith, hkind]
    cases fields <;> simp [Query.term, hstart, hchain, hread, bind, Except.bind]
  | false =>
    simp only [hscope, Bool.false_eq_true, if_false] at hcolons
    obtain rfl := terminals_eq_nil_iff.1 hcolons
    have hstart : startsWith .doubleColon (scopes ++ (head ++ rest)) = false := by
      rw [← Bool.not_eq_true, startsWith_iff (by decide), terminals_append, terminals_append,
        hscopes, hhead]
      cases term.scopes with
      | cons scope scopes => simp
      | nil =>
        obtain ⟨first, tail, hfirst, -, -, hne⟩ := term.head.exists_yield_cons
        simp [hfirst, hne]
    cases fields <;> simp [Query.term, hstart, hchain, hread, bind, Except.bind]

end StructSearch.Query.Grammar
