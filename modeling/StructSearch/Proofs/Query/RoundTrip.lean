import Mathlib.Tactic
import StructSearch.Proofs.Query.Printing
import StructSearch.Regex.Builtin

/-!
# Printing and reading back

A pattern that a query is read as is printed as a query that is read as the same pattern, if its
fields hold no slash and its attributes are words that need none. Every word of a query is the text
of a token, so no field is empty, and reading gives the pattern the structure that its text keeps.

Results:
* `everywhere_regular_of_compile`: the structure of the pattern of a query.
* `compile_print_of_compiled`: the text of the pattern of a query is read back.
-/

namespace StructSearch.Query

open Grammar

section AnyEngine

variable [Regex.Engine]

theorem source_of_compile {text : String} {field : Field} (h : Field.compile text = .ok field) :
    field.source = text := by
  obtain ⟨rfl, rfl⟩ | ⟨-, expr, -, rfl⟩ := Field.compile_eq_ok_iff.1 h
  · rfl
  · rfl

/-- A field that a text of a query is read as: its own text is read the same way. -/
def Field.IsCompiled (field : Field) : Prop :=
  Field.compile field.source = .ok field ∧ field.source.toList ≠ []

theorem readsInto_isCompiled {front : List Terminal} (h : ∀ word, .word word ∈ front → word ≠ "") :
    ReadsInto front Field.IsCompiled where
  any := ⟨rfl, by simp [Field.any, Field.anySource]⟩
  type := by
    intro type field hmem hfield
    have hcompile := field?_eq_some_iff.1 hfield
    have hsource := source_of_compile hcompile
    refine ⟨by rw [hsource, hcompile], ?_⟩
    have hfirst : type.first.toList ≠ [] := by simpa using h type.first hmem
    rw [hsource, TypeName.text]
    cases type.segments with
    | nil => rwa [String.intercalate_singleton]
    | cons segment segments => simp [String.intercalate_cons_cons]

/-- The pattern of a query is regular everywhere. -/
theorem everywhere_regular_of_compile {query : String} {pattern : Pattern}
    (h : Pattern.compile query = .ok pattern) :
    pattern.Everywhere (Pattern.Regular Field.IsCompiled) := by
  obtain ⟨tokens, hscan, hread⟩ := bind_eq_ok_iff.1 h
  obtain ⟨derivation, hyield, hpattern⟩ := ofTokens_sound hread
  refine derivation.everywhere_regular (readsInto_isCompiled fun word hword => ?_) hpattern
  rw [hyield, terminals, List.mem_map] at hword
  obtain ⟨token, htoken, hterminal⟩ := hword
  obtain ⟨hdata, rfl⟩ := terminal_eq_word_iff.1 hterminal
  exact text_ne_empty_of_scanFrom_eq 0 query.toList hscan token htoken hdata

/-- A variable with one attribute that holds a comma. -/
def commaPattern : Pattern :=
  .entity (.var { attributes := Attributes.empty.insert "a,b" }) .anywhere []

theorem compile_commaPattern : Pattern.compile "\\V[/a,b/]" = .ok commaPattern := by
  have hscan : Token.scan "\\V[/a,b/]" = .ok [⟨.sigil .var, "\\V", 0, 2⟩, ⟨.lsquare, "[", 2, 3⟩,
      ⟨.data, "a,b", 3, 8⟩, ⟨.rsquare, "]", 8, 9⟩] := by decide +kernel
  rw [Pattern.compile, hscan]
  rfl

/-- What `commaPattern` is printed as has two attributes. -/
theorem compile_print_commaPattern :
    Pattern.compile commaPattern.print = .ok (.entity (.var
      { attributes := (Attributes.empty.insert "a").insert "b" }) .anywhere []) := by
  have hprint : commaPattern.print = "\\V[a,b]" := by
    simp [commaPattern, Pattern.print, Pattern.printContents, Qualifier.print, Entity.print,
      printType, printAttributes, printName, Field.isAny, Field.any, Attributes.insert,
      Attributes.empty, insertName]
  have hscan : Token.scan "\\V[a,b]" = .ok [⟨.sigil .var, "\\V", 0, 2⟩, ⟨.lsquare, "[", 2, 3⟩,
      ⟨.data, "a", 3, 4⟩, ⟨.comma, ",", 4, 5⟩, ⟨.data, "b", 5, 6⟩, ⟨.rsquare, "]", 6, 7⟩] := by
    decide +kernel
  rw [hprint, Pattern.compile, hscan]
  rfl

/-- Printing the pattern of a query gives a query with the same pattern, if no field holds a slash
and every attribute is a bare word. The attributes matter: they are printed without slashes, so
those of some query without a slash in its fields are not read back. -/
theorem compile_print_of_compiled :
    (∀ (query : String) (pattern : Pattern), Pattern.compile query = .ok pattern →
      (∀ part ∈ pattern.subpatterns, ∀ field ∈ part.fields, '/' ∉ field.source.toList) →
      (∀ part ∈ pattern.subpatterns, ∀ name ∈ part.attributeNames, IsAttributeName name) →
      Pattern.compile pattern.print = .ok pattern) ∧
    ∃ (query : String) (pattern : Pattern), Pattern.compile query = .ok pattern ∧
      (∀ part ∈ pattern.subpatterns, ∀ field ∈ part.fields, '/' ∉ field.source.toList) ∧
      Pattern.compile pattern.print ≠ .ok pattern := by
  refine ⟨fun query pattern h hslash hnames => ?_, ?_⟩
  · refine Pattern.compile_print fun part hpart => ⟨?_, hnames part hpart⟩
    refine (everywhere_regular_of_compile h part hpart).imp_field fun field hfield hcompiled => ?_
    exact ⟨hcompiled.1, hcompiled.2, hslash part hpart field hfield⟩
  · refine ⟨"\\V[/a,b/]", commaPattern, compile_commaPattern, ?_, ?_⟩
    · simp [commaPattern, Pattern.subpatterns, Pattern.subpatternsAll, Pattern.fields,
        Qualifier.fields, Entity.fields, Field.any, Field.anySource]
    · rw [compile_print_commaPattern]
      intro hsame
      have hnames : insertName "b" (insertName "a" []) = insertName "a,b" [] :=
        congrArg Pattern.attributeNames (Except.ok.inj hsame)
      have hmem : "a" ∈ insertName "b" (insertName "a" []) :=
        mem_insertName.2 (.inr (mem_insertName.2 (.inl rfl)))
      rw [hnames, mem_insertName] at hmem
      simp at hmem

end AnyEngine

/-- A query with most forms of entities, bindings and lists. -/
def nestedQuery : String :=
  "(A::\\F:int<T, ...>(x:int, ...)[Static, expr] = f " ++
    "\x7b \\V ~ int \x7d \x7b #C<:> \x7d | ::b) ~ c < \\T"

/-- The pattern of `nestedQuery`. -/
def nestedPattern : Pattern := (Pattern.compile nestedQuery).toOption.getD default

theorem compile_print_of_nestedQuery :
    Pattern.compile nestedQuery = .ok nestedPattern ∧
      (∀ part ∈ nestedPattern.subpatterns, ∀ field ∈ part.fields, '/' ∉ field.source.toList) ∧
      (∀ part ∈ nestedPattern.subpatterns, ∀ name ∈ part.attributeNames, IsAttributeName name) ∧
      Pattern.compile nestedPattern.print = .ok nestedPattern := by
  have hread : Pattern.compile nestedQuery = .ok nestedPattern := by decide +kernel
  have hslash : ∀ part ∈ nestedPattern.subpatterns, ∀ field ∈ part.fields,
      '/' ∉ field.source.toList := by decide +kernel
  have hnames : ∀ part ∈ nestedPattern.subpatterns, ∀ name ∈ part.attributeNames,
      IsAttributeName name := by decide +kernel
  exact ⟨hread, hslash, hnames,
    compile_print_of_compiled.1 nestedQuery nestedPattern hread hslash hnames⟩

end StructSearch.Query
