import Mathlib.Tactic
import StructSearch.Query.Field
import StructSearch.Proofs.Regex.BuiltinLaws

/-!
# Fields tied to the start of a spelling

A field should accept a spelling if its expression matches from the start of it. Its text is put
between `^(?:` and `)` for that, and the whole is read as one expression. With every engine that has
the documented laws this says what it should, for every text that does not close the parenthesis
itself. Two kinds of text show that it is the text and not the expression that is put there:

* A text with a parenthesis that nothing opens is no expression, but ends the group and goes on
  after it, as `a)|(?:b` does, so that what follows is not tied to the start.
* In extended mode a comment at the end of the text swallows the closing parenthesis, so that an
  expression such as `(?x)a #c` is refused.

Results:
* `read_anchored`, `read_of_anchored`: reading an expression tied to the start.
* `compile_ties_expression`: which texts are fields, and what they accept.
-/

namespace StructSearch.Query.Field

open Regex.Engine

/-! ## Texts tied to the start -/

theorem anchored_eq (source : String) :
    anchored source = String.singleton '^' ++ grouped source := by
  rw [← String.toList_inj]
  simp [anchored, grouped, String.toList_append]

theorem anchored_eq_append (source : String) :
    anchored source = String.singleton '^' ++ "(?:" ++ (source ++ ")") := by
  rw [← String.toList_inj]
  simp [anchored, String.toList_append]

/-- The group around a text is closed by the parenthesis put behind it, or by one of the text. -/
theorem eq_or_eq_of_closed {source inner behind : String}
    (h : source ++ ")" = inner ++ ")" ++ behind) :
    source = inner ∨ ∃ front, source = inner ++ ")" ++ front := by
  have hlist : source.toList ++ [')'] = inner.toList ++ ')' :: behind.toList := by
    simpa [String.toList_append] using congrArg String.toList h
  obtain hnil | ⟨front, last, hbehind⟩ := List.eq_nil_or_concat behind.toList
  · rw [hnil] at hlist
    exact .inl (String.toList_inj.1 (List.append_cancel_right hlist))
  · rw [hbehind, List.concat_eq_append, ← List.cons_append, ← List.append_assoc] at hlist
    obtain ⟨hfront, -⟩ := List.append_inj' hlist rfl
    refine .inr ⟨String.ofList front, String.toList_inj.1 ?_⟩
    simpa [String.toList_append] using hfront

section AnyEngine

variable [Regex.Engine] {spans : Regex.Engine.Expr → String → ℕ → ℕ → Prop} {source : String}
  {expr whole : Regex.Engine.Expr}

/-- If a text can be read, the expression breaks none of the limits. -/
def KeepsToLimits (text : String) : Prop := ∀ expr, read text = .ok expr → excess? expr = none

/-- An expression that does not end in a comment can be tied to the start. It then matches a subject
if it matches a stretch from the start of it. -/
theorem read_anchored (laws : Documented spans) (h : read source = .ok expr)
    (hcomment : ¬EndsInComment source) :
    ∃ whole, read (anchored source) = .ok whole ∧ ∀ subject,
      isMatch whole subject = true ↔ ∃ stop ≤ subject.length, spans expr subject 0 stop := by
  obtain ⟨start, hstart, hbeginning⟩ := laws.beginning
  obtain ⟨inner, hinner, hsame⟩ := laws.group source expr h hcomment
  obtain ⟨whole, hwhole, hfollows⟩ :=
    laws.sequence '^' source start expr inner (by decide) hstart h hcomment hinner
  refine ⟨whole, anchored_eq source ▸ hwhole, fun subject => ?_⟩
  rw [laws.search]
  constructor
  · rintro ⟨i, stop, hspans⟩
    obtain ⟨place, hfirst, hsecond⟩ := (hfollows subject i stop).1 hspans
    obtain ⟨-, rfl⟩ := (hbeginning subject i place).1 hfirst
    exact ⟨stop, laws.inside _ _ _ _ hsecond, (hsame subject 0 stop).1 hsecond⟩
  · rintro ⟨stop, -, hspans⟩
    exact ⟨0, stop, (hfollows subject 0 stop).2
      ⟨0, (hbeginning subject 0 0).2 ⟨rfl, rfl⟩, (hsame subject 0 stop).2 hspans⟩⟩

/-- A text that does not close the parenthesis itself can be tied to the start only if it is an
expression and does not end in a comment. -/
theorem read_of_anchored (laws : Documented spans) (h : read (anchored source) = .ok whole)
    (hunopened : read source ≠ .error .groupUnopened) :
    (∃ expr, read source = .ok expr) ∧ ¬EndsInComment source := by
  obtain ⟨start, hstart, -⟩ := laws.beginning
  rw [anchored_eq_append] at h
  obtain ⟨inner, behind, hsplit, ⟨expr, hinner⟩, hcomment⟩ :=
    laws.closed '^' (source ++ ")") start whole (by decide) hstart h
  -- The group ends at the parenthesis put behind the text, or at one in it that nothing opened.
  obtain rfl | ⟨front, rfl⟩ := eq_or_eq_of_closed hsplit
  · exact ⟨⟨expr, hinner⟩, hcomment⟩
  · exact absurd (laws.unopened inner expr hinner hcomment front) hunopened

/-! ## Fields -/

theorem read_anySource (laws : Documented spans) :
    ∃ expr, read anySource = .ok expr ∧ ¬EndsInComment anySource ∧
      ∀ subject, spans expr subject 0 0 := by
  obtain ⟨expr, hread, hspans⟩ := laws.anything
  refine ⟨expr, hread, fun hcomment => ?_, fun subject => hspans subject 0 (Nat.zero_le _)⟩
  obtain ⟨front, comment, hsource, -⟩ := laws.comment _ hcomment
  have hhash : '#' ∈ anySource.toList := by simp [hsource]
  exact absurd hhash (by decide)

/-- A text that is not `.*` is a field if it can be tied to the start and keeps to the limits. -/
theorem compile_eq_ok_iff_anchored {field : Field} (h : source ≠ anySource) :
    compile source = .ok field ↔ KeepsToLimits (anchored source) ∧
      ∃ whole, read (anchored source) = .ok whole ∧ field = ⟨source, some whole⟩ := by
  simp only [compile_eq_ok_iff, h, false_and, false_or, ne_eq, not_false_eq_true, true_and,
    Regex.Engine.compile_eq_ok_iff]
  constructor
  · rintro ⟨whole, ⟨hread, hlimits⟩, rfl⟩
    refine ⟨fun other hother => ?_, whole, hread, rfl⟩
    obtain rfl : whole = other := Except.ok.inj (hread.symm.trans hother)
    exact hlimits
  · rintro ⟨hlimits, whole, hread, rfl⟩
    exact ⟨whole, ⟨hread, hlimits whole hread⟩, rfl⟩

/-- A text that does not close the parenthesis put behind it is a field exactly if it is an
expression, does not end in a comment and, unless it is `.*`, keeps to the limits when it is tied to
the start. The field then accepts the spellings that its expression matches from the start. -/
theorem compile_ties_expression (laws : Documented spans) (source : String)
    (hunopened : read source ≠ .error .groupUnopened) :
    ((∃ field, compile source = .ok field) ↔
      ∃ expr, read source = .ok expr ∧ ¬EndsInComment source ∧
        (source = anySource ∨ KeepsToLimits (anchored source))) ∧
    ∀ field expr, compile source = .ok field → read source = .ok expr →
      ∀ subject, field.accepts subject = true ↔
        ∃ stop ≤ subject.length, spans expr subject 0 stop := by
  by_cases hany : source = anySource
  · subst hany
    obtain ⟨expr, hread, hcomment, hspans⟩ := read_anySource laws
    refine ⟨iff_of_true ⟨any, rfl⟩ ⟨expr, hread, hcomment, .inl rfl⟩, ?_⟩
    intro field other hfield hother subject
    obtain rfl : any = field := Except.ok.inj hfield
    obtain rfl : expr = other := Except.ok.inj (hread.symm.trans hother)
    exact iff_of_true rfl ⟨0, Nat.zero_le _, hspans subject⟩
  · refine ⟨⟨?_, ?_⟩, fun field expr hfield hexpr subject => ?_⟩
    · rintro ⟨field, hfield⟩
      obtain ⟨hlimits, whole, hwhole, -⟩ := (compile_eq_ok_iff_anchored hany).1 hfield
      obtain ⟨⟨expr, hexpr⟩, hcomment⟩ := read_of_anchored laws hwhole hunopened
      exact ⟨expr, hexpr, hcomment, .inr hlimits⟩
    · rintro ⟨expr, hexpr, hcomment, hlimits⟩
      obtain ⟨whole, hwhole, -⟩ := read_anchored laws hexpr hcomment
      exact ⟨_, (compile_eq_ok_iff_anchored hany).2
        ⟨hlimits.resolve_left hany, whole, hwhole, rfl⟩⟩
    · obtain ⟨-, whole, hwhole, rfl⟩ := (compile_eq_ok_iff_anchored hany).1 hfield
      obtain ⟨-, hcomment⟩ := read_of_anchored laws hwhole hunopened
      obtain ⟨found, hfound, hmatches⟩ := read_anchored laws hexpr hcomment
      obtain rfl : whole = found := Except.ok.inj (hwhole.symm.trans hfound)
      exact hmatches subject

end AnyEngine

/-- Alternatives, flags and a comment that ends before the text does. -/
theorem commentedAlternatives_tied :
    (∃ field, compile "(?x) ab|c # or\n" = .ok field) ∧
      ∀ field, compile "(?x) ab|c # or\n" = .ok field →
        field.accepts "cd" = true ∧ field.accepts "dc" = false := by
  have hexpr : read "(?x) ab|c # or\n" = .ok (Regex.Expr.either
      (.seq .empty (.seq (.one (.single 'a')) (.one (.single 'b')))) (.one (.single 'c'))) := by
    decide +kernel
  have hopen : read ("(?x) ab|c # or\n" ++ ")") = .error .groupUnopened := by decide +kernel
  have hcomment : ¬EndsInComment "(?x) ab|c # or\n" := by
    rintro ⟨expr, -, hread⟩
    rw [hopen] at hread
    cases hread
  have hwhole : read (anchored "(?x) ab|c # or\n") = .ok (Regex.Expr.seq (.look .textStart)
      (.group none (.either (.seq .empty (.seq (.one (.single 'a')) (.one (.single 'b'))))
        (.one (.single 'c'))))) := by decide +kernel
  have hlimits : KeepsToLimits (anchored "(?x) ab|c # or\n") := by
    intro expr hread
    obtain rfl := Except.ok.inj (hwhole.symm.trans hread)
    decide +kernel
  obtain ⟨hfield, haccepts⟩ := compile_ties_expression Regex.builtin_documented "(?x) ab|c # or\n"
    (by rw [hexpr]; exact nofun)
  refine ⟨hfield.2 ⟨_, hexpr, hcomment, .inr hlimits⟩, fun field h => ⟨?_, ?_⟩⟩
  · exact (haccepts field _ h hexpr "cd").2
      ⟨1, by decide, Nat.zero_le _, .inr ⟨by decide +kernel, rfl⟩⟩
  · rw [Bool.eq_false_iff, ne_eq, haccepts field _ h hexpr]
    rintro ⟨stop, -, -, ⟨_, rfl, _, ⟨hfirst, -⟩, -⟩ | ⟨hfirst, -⟩⟩
    · exact absurd hfirst (by decide +kernel)
    · exact absurd hfirst (by decide +kernel)

/-- A text that is no expression is taken for one, and its second part is not tied to the start. An
expression that ends in a comment is refused. -/
theorem unopenedParenthesis_escapes_group :
    read "a)(b" = .error .groupUnopened ∧
    (∃ field, compile "a)(b" = .ok field) ∧
    read "a)|(?:b" = .error .groupUnopened ∧
    (∃ field, compile "a)|(?:b" = .ok field ∧ field.accepts "xb" = true) ∧
    (∃ expr, Regex.Engine.compile "(?x)a #c" = .ok expr) ∧
    compile "(?x)a #c" = .error "unclosed group" := by
  have hjoined : Regex.Engine.compile (anchored "a)(b") = .ok (Regex.Expr.seq (.look .textStart)
      (.seq (.group none (.one (.single 'a'))) (.group (some 0) (.one (.single 'b'))))) := by
    decide +kernel
  have hescaped : Regex.Engine.compile (anchored "a)|(?:b") = .ok (Regex.Expr.either
      (.seq (.look .textStart) (.group none (.one (.single 'a'))))
      (.group none (.one (.single 'b')))) := by decide +kernel
  have halone : Regex.Engine.compile "(?x)a #c" =
      .ok (Regex.Expr.seq .empty (.one (.single 'a'))) := by decide +kernel
  refine ⟨by decide +kernel, ⟨_, compile_eq_ok_iff.2 (.inr ⟨by decide, _, hjoined, rfl⟩)⟩,
    by decide +kernel, ⟨_, compile_eq_ok_iff.2 (.inr ⟨by decide, _, hescaped, rfl⟩), ?_⟩,
    ⟨_, halone⟩, by decide +kernel⟩
  decide +kernel

end StructSearch.Query.Field
