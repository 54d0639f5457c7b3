import Mathlib.Tactic
import StructSearch.Proofs.Query.Grammar

/-!
# What readers see of tokens

The grammar sees the terminals of tokens, and so do the tests that the readers make: the kind of
the first token, the look ahead for a template list, the end of a type binding. The small steps
that a reader takes without reading on, to compile a field, to add an attribute, to bind a name or
a type, are told here once for both directions.

Results:
* `templateAhead_eq`, `endsBinding_eq`: the looks ahead depend on the terminals alone.
* `fieldOf_eq_ok_iff`, `add_eq_ok_iff`, `bindName_eq_ok_iff`, `typeBinding?_eq_some_iff`: when a
  small step succeeds, and with what.
* `Derivation.exists_yield_cons`: what is derived is not empty and starts like an operand.
-/

namespace StructSearch.Query

/-! ## Success of a sequence of readers -/

theorem bind_eq_ok_iff {ε α β : Type} {first : Except ε α} {next : α → Except ε β} {result : β} :
    first >>= next = .ok result ↔ ∃ value, first = .ok value ∧ next value = .ok result := by
  cases first <;> simp [bind, Except.bind]

@[simp] theorem lift_eq_ok {α : Type} {x : Except Error α} {a : α} :
    Stop.lift x = .ok a ↔ x = .ok a := by
  cases x <;> simp [Stop.lift]

/-! ## Terminals -/

@[simp] theorem terminals_nil : terminals [] = [] := rfl

@[simp] theorem terminals_cons (token : Token) (tokens : List Token) :
    terminals (token :: tokens) = token.terminal :: terminals tokens := rfl

theorem terminal_of_data {token : Token} (h : token.kind = .data) :
    token.terminal = .word token.text := by
  rw [Token.terminal, if_pos h]

theorem terminal_of_kind {token : Token} {kind : Token.Kind} (h : token.kind = kind)
    (hne : kind ≠ .data) : token.terminal = .mark kind := by
  rw [Token.terminal, if_neg (by rw [h]; exact hne), h]

theorem terminal_eq_mark_iff {token : Token} {kind : Token.Kind} (hne : kind ≠ .data) :
    token.terminal = .mark kind ↔ token.kind = kind := by
  unfold Token.terminal
  split_ifs with h
  · simp [h, hne.symm]
  · simp

theorem terminal_eq_word_iff {token : Token} {text : String} :
    token.terminal = .word text ↔ token.kind = .data ∧ token.text = text := by
  unfold Token.terminal
  split_ifs with h <;> simp [h]

theorem startsWith_iff {kind : Token.Kind} (hne : kind ≠ .data) {tokens : List Token} :
    startsWith kind tokens = true ↔ (terminals tokens).head? = some (.mark kind) := by
  cases tokens with
  | nil => simp [startsWith]
  | cons token rest => simp [startsWith, terminal_eq_mark_iff hne]

theorem startsWith_eq_true {kind : Token.Kind} {tokens : List Token}
    (h : startsWith kind tokens = true) :
    ∃ token, tokens = token :: tokens.tail ∧ token.kind = kind := by
  cases tokens with
  | nil => simp [startsWith] at h
  | cons token rest => exact ⟨token, rfl, by simpa [startsWith] using h⟩

theorem expect_sound {kind : Token.Kind} {expected : Expected} {tokens rest : List Token}
    {token : Token} (h : expect kind expected tokens = .ok (token, rest)) :
    tokens = token :: rest ∧ token.kind = kind := by
  cases tokens with
  | nil => simp [expect] at h
  | cons first tail =>
    simp only [expect] at h
    split_ifs at h with hkind
    simp only [Except.ok.injEq, Prod.mk.injEq] at h
    obtain ⟨rfl, rfl⟩ := h
    exact ⟨rfl, hkind⟩

/-! ## Tokens of given terminals -/

theorem terminals_append (taken rest : List Token) :
    terminals (taken ++ rest) = terminals taken ++ terminals rest :=
  List.map_append

theorem terminals_eq_nil_iff {tokens : List Token} : terminals tokens = [] ↔ tokens = [] :=
  List.map_eq_nil_iff

theorem terminals_eq_append_iff {tokens : List Token} {first second : List Terminal} :
    terminals tokens = first ++ second ↔
      ∃ taken rest, tokens = taken ++ rest ∧ terminals taken = first ∧ terminals rest = second :=
  List.map_eq_append_iff

theorem terminals_eq_word_cons_iff {tokens : List Token} {text : String} {tail : List Terminal} :
    terminals tokens = .word text :: tail ↔
      ∃ token rest, tokens = token :: rest ∧ token.kind = .data ∧ token.text = text ∧
        terminals rest = tail := by
  simp [terminals, List.map_eq_cons_iff, terminal_eq_word_iff, and_assoc]

theorem terminals_eq_mark_cons_iff {tokens : List Token} {kind : Token.Kind}
    (hne : kind ≠ .data) {tail : List Terminal} :
    terminals tokens = .mark kind :: tail ↔
      ∃ token rest, tokens = token :: rest ∧ token.kind = kind ∧ terminals rest = tail := by
  simp [terminals, List.map_eq_cons_iff, terminal_eq_mark_iff hne]

namespace Grammar

/-- Nothing stands in front, or a mark of one of the kinds. -/
def Opens (kinds : List Token.Kind) (front : List Terminal) : Prop :=
  ∀ terminal ∈ front.head?, ∃ kind ∈ kinds, terminal = .mark kind

namespace Opens

variable {kinds : List Token.Kind} {front : List Terminal}

theorem nil : Opens kinds [] := by
  simp [Opens]

theorem cons {kind : Token.Kind} (h : kind ∈ kinds) : Opens kinds (.mark kind :: front) := by
  simpa [Opens] using h

theorem mono {others : List Token.Kind} (h : Opens kinds front) (hsub : kinds ⊆ others) :
    Opens others front := by
  intro terminal hterminal
  obtain ⟨kind, hkind, heq⟩ := h terminal hterminal
  exact ⟨kind, hsub hkind, heq⟩

/-- A part that may be left out adds the kind that it starts with. -/
theorem optional {α : Type} {part : Option α} {yield : α → List Terminal} {kind : Token.Kind}
    (h : Opens kinds front) (hyield : ∀ a, (yield a).head? = some (.mark kind)) :
    Opens (kind :: kinds) (part.elim [] yield ++ front) := by
  cases part with
  | none => exact h.mono (List.subset_cons_self _ _)
  | some a =>
    intro terminal hterminal
    rw [Option.elim_some, List.head?_append, hyield, Option.some_or, Option.mem_some] at hterminal
    exact ⟨kind, List.mem_cons_self, hterminal.symm⟩

/-- A token of another kind does not stand in front. -/
theorem startsWith {kind : Token.Kind} {tokens : List Token} (h : Opens kinds (terminals tokens))
    (hkind : kind ∉ kinds) : startsWith kind tokens = false := by
  cases tokens with
  | nil => rfl
  | cons token rest =>
    obtain ⟨other, hother, heq⟩ := h token.terminal (by simp)
    have hne : token.kind ≠ kind := by
      rintro rfl
      unfold Token.terminal at heq
      split_ifs at heq
      rw [Terminal.mark.injEq] at heq
      rw [heq] at hkind
      exact hkind hother
    simp [Query.startsWith, hne]

end Opens

/-! ## Template lists -/

theorem isTemplateToken_eq (token : Token) :
    isTemplateToken token = isTemplateTerminal token.terminal := by
  unfold isTemplateToken Token.terminal
  cases token.kind <;> simp [isTemplateTerminal]

theorem startsOperand_eq (token : Token) :
    Query.startsOperand token = startsOperand token.terminal := by
  unfold Query.startsOperand Token.terminal
  cases token.kind <;> simp [startsOperand]

theorem terminals_dropWhile (tokens : List Token) :
    terminals (tokens.dropWhile isTemplateToken) =
      (terminals tokens).dropWhile isTemplateTerminal := by
  rw [terminals, terminals, List.dropWhile_map]
  congr 2
  funext token
  exact isTemplateToken_eq token

/-- The two readings of `<` depend on the terminals alone. -/
theorem templateAhead_eq (ofFunction : Bool) (tokens : List Token) :
    templateAhead ofFunction tokens = opensTemplate ofFunction (terminals tokens) := by
  cases tokens with
  | nil => rfl
  | cons token rest =>
    simp only [templateAhead, terminals_cons]
    by_cases hopen : token.kind = .langle
    · rw [if_pos hopen, terminal_of_kind hopen (by decide), opensTemplate, ← terminals_dropWhile]
      cases rest.dropWhile isTemplateToken with
      | nil => rfl
      | cons token after =>
        simp only [terminals_cons]
        by_cases hclose : token.kind = .rangle
        · rw [terminal_of_kind hclose (by decide), Bool.eq_iff_iff]
          cases ofFunction with
          | true => simp [hclose, startsWith_iff]
          | false => cases after <;> simp [hclose, startsOperand_eq]
        · have hne : token.terminal ≠ .mark .rangle := by
            rwa [Ne, terminal_eq_mark_iff (by decide)]
          split <;> simp_all
    · have hne : token.terminal ≠ .mark .langle := by
        rwa [Ne, terminal_eq_mark_iff (by decide)]
      rw [if_neg hopen]
      unfold opensTemplate
      split <;> simp_all

theorem isTemplateTerminal_of_mem_type {type : TypeName} {terminal : Terminal}
    (h : terminal ∈ type.yield) : isTemplateTerminal terminal = true := by
  simp only [TypeName.yield, List.mem_cons, List.mem_flatMap, List.not_mem_nil, or_false] at h
  obtain rfl | ⟨segment, -, rfl | rfl⟩ := h <;> rfl

theorem isTemplateTerminal_of_mem_entry {entry : Entry} {terminal : Terminal}
    (h : terminal ∈ entry.yield) : isTemplateTerminal terminal = true := by
  cases entry with
  | ellipsis =>
    obtain rfl := List.mem_singleton.1 h
    rfl
  | named name =>
    obtain rfl := List.mem_singleton.1 h
    rfl
  | typed name type =>
    rw [Entry.yield, List.mem_append, List.mem_cons] at h
    obtain hname | rfl | htype := h
    · cases name with
      | none => cases hname
      | some name =>
        obtain rfl := List.mem_singleton.1 hname
        rfl
    · rfl
    · cases type with
      | none => cases htype
      | some type => exact isTemplateTerminal_of_mem_type htype

theorem isTemplateTerminal_of_mem_entries {terminal : Terminal} (entries : List Entry)
    (h : terminal ∈ separated Entry.yield entries) : isTemplateTerminal terminal = true := by
  fun_induction separated Entry.yield entries with
  | case1 => cases h
  | case2 entry => exact isTemplateTerminal_of_mem_entry h
  | case3 entry next rest ih =>
    rw [List.mem_append, List.mem_cons] at h
    obtain hentry | rfl | hrest := h
    · exact isTemplateTerminal_of_mem_entry hentry
    · rfl
    · exact ih hrest

/-- A list that is opened as a template list is one iff what follows it fits. -/
theorem opensTemplate_entries (ofFunction : Bool) (entries : List Entry) (after : List Terminal) :
    opensTemplate ofFunction (templateYield entries ++ after) =
      if ofFunction then decide (after.head? = some (.mark .lparen))
      else !after.head?.any startsOperand := by
  have hdrop : (separated Entry.yield entries ++ .mark .rangle :: after).dropWhile
      isTemplateTerminal = .mark .rangle :: after := by
    rw [List.dropWhile_append_of_pos fun _ => isTemplateTerminal_of_mem_entries entries]
    rfl
  simp only [templateYield, entriesYield, List.cons_append, List.append_assoc, List.nil_append,
    opensTemplate, hdrop]

/-! ## Attributes -/

/-- The list with a name added; `expr` asks for expressions. -/
def addName (list : AttributeList) (name : String) : AttributeList :=
  if name = "expr" then { list with isExpression := true }
  else { list with names := list.names.insert name }

theorem foldl_addName (names : List String) : ∀ list : AttributeList,
    names.foldl addName list = {
      names := (names.filter (· ≠ "expr")).foldl Attributes.insert list.names
      isExpression := list.isExpression || names.contains "expr" } := by
  induction names with
  | nil => intro list; simp
  | cons name names ih =>
    intro list
    rw [List.foldl_cons, ih, addName]
    by_cases hexpr : name = "expr"
    · simp [hexpr]
    · simp [hexpr, Ne.symm hexpr]

/-- Whether names agree on the access depends on which of them ask for one. -/
theorem OneAccess.congr {names others : List String}
    (h : ∀ name ∈ accessAttributes, name ∈ names ↔ name ∈ others) :
    OneAccess names ↔ OneAccess others := by
  constructor <;> intro hone a ha b hb haccess hbaccess
  · exact hone a ((h a haccess).2 ha) b ((h b hbaccess).2 hb) haccess hbaccess
  · exact hone a ((h a haccess).1 ha) b ((h b hbaccess).1 hb) haccess hbaccess

/-- The attributes of words are added one after the other. -/
theorem attributes?_eq_some {words : Option (List String)} {list : AttributeList} :
    attributes? words = some list ↔ OneAccess ((words.getD []).map Text.lowercase) ∧
      ((words.getD []).map Text.lowercase).foldl addName {} = list := by
  simp [attributes?, foldl_addName]

theorem oneAccess_append_singleton {names : List String} {name : String} (h : OneAccess names)
    (hname : ∀ other ∈ names, name ∈ accessAttributes → other ∈ accessAttributes → other = name) :
    OneAccess (names ++ [name]) := by
  intro a ha b hb haccess hbaccess
  rw [List.mem_append, List.mem_singleton] at ha hb
  obtain ha | rfl := ha <;> obtain hb | rfl := hb
  · exact h a ha b hb haccess hbaccess
  · exact hname a ha hbaccess haccess
  · exact (hname b hb haccess hbaccess).symm
  · rfl

/-- A name that is added takes part in the agreement as if it still stood in front. -/
theorem oneAccess_addName (list : AttributeList) (name : String) (names : List String) :
    OneAccess ((addName list name).names.names ++ names) ↔
      OneAccess (list.names.names ++ name :: names) := by
  refine OneAccess.congr fun access haccess => ?_
  unfold addName
  split_ifs with hexpr
  · have hne : access ≠ name := by
      rintro rfl
      rw [hexpr] at haccess
      revert haccess
      decide
    simp [hne]
  · simp only [Attributes.insert, List.mem_append, mem_insertName, List.mem_cons]
    tauto

/-- A name can be added unless it asks for another access than a name before it. -/
theorem add_eq_ok_iff {list result : AttributeList} {token : Token} :
    list.add token = .ok result ↔
      result = addName list (Text.lowercase token.text) ∧
        ∀ other ∈ list.names.names, Text.lowercase token.text ∈ accessAttributes →
          other ∈ accessAttributes → other = Text.lowercase token.text := by
  unfold AttributeList.add addName
  generalize Text.lowercase token.text = name
  by_cases hexpr : name = "expr"
  · have hname : name ∉ accessAttributes := by
      rw [hexpr]
      decide
    rw [if_pos hexpr, if_pos hexpr, Except.ok.injEq, eq_comm]
    exact ⟨fun h => ⟨h, fun _ _ haccess => absurd haccess hname⟩, fun h => h.1⟩
  · simp only [hexpr, if_false, List.contains_eq_mem, decide_eq_true_eq]
    split
    · next other hrival =>
      split_ifs at hrival with hname
      have hother := List.find?_some hrival
      have hmem := List.mem_of_find?_eq_some hrival
      simp only [Bool.and_eq_true, decide_eq_true_eq, bne_iff_ne] at hother
      simp only [reduceCtorEq, false_iff, not_and, not_forall]
      exact fun _ => ⟨other, hmem, hname, hother.1, hother.2⟩
    · next hrival =>
      have hagree : ∀ other ∈ list.names.names, name ∈ accessAttributes →
          other ∈ accessAttributes → other = name := by
        intro other hother hname haccess
        rw [if_pos hname, List.find?_eq_none] at hrival
        simpa [haccess] using hrival other hother
      rw [Except.ok.injEq, eq_comm]
      exact ⟨fun h => ⟨h, hagree⟩, fun h => h.1⟩

/-! ## Bindings -/

theorem endsBinding_eq (tokens : List Token) :
    endsBinding tokens = standsAlone (terminals tokens) := by
  cases tokens with
  | nil => rfl
  | cons token rest =>
    simp only [endsBinding, terminals_cons, Token.terminal]
    cases token.kind <;> simp [standsAlone]

/-! ## First terminals -/

/-- A head starts like an operand, but not like a group or a qualifier. -/
theorem Head.exists_yield_cons (head : Head) : ∃ first tail, head.yield = first :: tail ∧
    startsOperand first = true ∧ first ≠ .mark .lparen ∧ first ≠ .mark .doubleColon := by
  cases head with
  | sigilFunction | sigilVariable | sigilClass | namedClass | search =>
    exact ⟨_, _, rfl, rfl, by simp, by simp⟩
  | typedFunction name => cases name <;> exact ⟨_, _, rfl, rfl, by simp, by simp⟩
  | typedVariable name => cases name <;> exact ⟨_, _, rfl, rfl, by simp, by simp⟩

/-- A term starts like an operand, but not like a group. -/
theorem Term.exists_yield_cons (term : Term) : ∃ first tail, term.yield = first :: tail ∧
    startsOperand first = true ∧ first ≠ .mark .lparen := by
  obtain ⟨fileScope, scopes, head⟩ := term
  cases fileScope with
  | true => exact ⟨_, _, rfl, rfl, by simp⟩
  | false =>
    cases scopes with
    | cons scope scopes => exact ⟨_, _, rfl, rfl, by simp⟩
    | nil =>
      obtain ⟨first, tail, hhead, hfirst, hne, -⟩ := head.exists_yield_cons
      exact ⟨first, tail, by simp [Term.yield, hhead], hfirst, hne⟩

/-- What is derived starts like an operand. -/
theorem Derivation.exists_yield_cons {level : Level} (derivation : Derivation level) :
    ∃ first tail, derivation.yield = first :: tail ∧ startsOperand first = true := by
  induction derivation with
  | ofTerm term =>
    obtain ⟨first, tail, hyield, hfirst, -⟩ := term.exists_yield_cons
    exact ⟨first, tail, hyield, hfirst⟩
  | group inner => exact ⟨_, _, rfl, rfl⟩
  | ofPrimary _ ih | ofOperand _ ih | ofConjunction _ ih => exact ih
  | name left _ ih | type left _ ih | emptyScope left ih | scope left _ ih | both left _ ih
  | constraint left _ ih | binary left _ _ ih =>
    obtain ⟨first, tail, hyield, hfirst⟩ := ih
    exact ⟨first, _, by simp only [yield, hyield, List.cons_append]; rfl, hfirst⟩

/-! ## Fields and names -/

variable [Regex.Engine]

theorem field?_eq_some_iff {text : String} {field : Field} :
    field? text = some field ↔ Field.compile text = .ok field := by
  unfold field?
  cases Field.compile text <;> simp [Except.toOption]

theorem fieldAt_eq_ok_iff {offset : ℕ} {text : String} {field : Field} :
    fieldAt offset text = .ok field ↔ field? text = some field := by
  rw [field?_eq_some_iff, fieldAt]
  cases Field.compile text <;> simp

theorem fieldOf_eq_ok_iff {token : Token} {field : Field} :
    fieldOf token = .ok field ↔ field? token.text = some field :=
  fieldAt_eq_ok_iff

theorem bindName_eq_ok_iff {pattern result : Pattern} {token : Token} {offset : ℕ} :
    bindName pattern token offset = .ok result ↔
      ∃ field, field? token.text = some field ∧ named? pattern field = some result := by
  simp only [bindName, bind_eq_ok_iff, fieldOf_eq_ok_iff]
  refine exists_congr fun field => and_congr_right fun _ => ?_
  unfold named?
  split <;> simp

theorem typeBinding?_eq_some_iff {pattern : Pattern} {tokens rest : List Token} {word : Token} :
    typeBinding? pattern tokens = some (word, rest) ↔
      tokens = word :: rest ∧ isTyped pattern = true ∧ word.kind = .data ∧
        endsBinding rest = true := by
  cases tokens with
  | nil => simp [typeBinding?]
  | cons first tail =>
    simp only [typeBinding?, Bool.and_eq_true, decide_eq_true_eq]
    split_ifs with hbinds
    · simp only [Option.some.injEq, Prod.mk.injEq, List.cons.injEq]
      refine ⟨?_, fun h => h.1⟩
      rintro ⟨rfl, rfl⟩
      exact ⟨⟨rfl, rfl⟩, hbinds.1.1, hbinds.1.2, hbinds.2⟩
    · simp only [List.cons.injEq, false_iff]
      rintro ⟨⟨rfl, rfl⟩, htyped, hdata, hends⟩
      exact hbinds ⟨⟨htyped, hdata⟩, hends⟩

theorem isSome_bindType? {pattern : Pattern} (type : Field) :
    (bindType? pattern type).isSome = isTyped pattern := by
  unfold bindType? isTyped
  split <;> simp_all

end Grammar

end StructSearch.Query
