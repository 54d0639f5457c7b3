import Mathlib.Tactic
import StructSearch.Regex.Builtin
import StructSearch.Proofs.Regex.Matching
import StructSearch.Proofs.Regex.FollowedGroups

/-!
# The laws of the built-in engine

The engine that the program runs with has the laws that engines are documented to have. What its
expressions match is given by the stretches that they span; how it reads a text inside another
follows from the way in which its readers treat a parenthesis behind the text.

Results:
* `builtin_documented`: the laws of the built-in engine.
-/

namespace StructSearch.Regex

namespace Expr

/-! ## Stretches -/

/-- An expression matches the stretch of a subject between two places. -/
def Matches (expr : Expr) (subject : String) (start stop : ℕ) : Prop :=
  start ≤ subject.length ∧ expr.Spans subject.toList.toArray start stop

theorem Matches.stop_le {expr : Expr} {subject : String} {start stop : ℕ}
    (h : expr.Matches subject start stop) : stop ≤ subject.length := by
  have hbound := (computes_advance subject.toList.toArray expr).bounded h.2
  rw [List.size_toArray, String.length_toList] at hbound
  exact hbound h.1

/-! ## Groups behind a character -/

/-- The characters that are no expressions on their own. -/
def refusedChars : List Char := [')', '(', '[', '?', '*', '+', '{', '\\']

theorem all_not_isOk_parse : (refusedChars.all fun c => !(parse [c]).isOk) = true := by
  decide +kernel

theorem parse_singleton_isOk {c : Char} (h : c ∈ refusedChars) : (parse [c]).isOk = false :=
  Bool.not_eq_eq_eq_not.1 (List.all_eq_true.1 all_not_isOk_parse c h)

section Behind

variable {c : Char} {first : Expr}

/-- A character that is an expression on its own, and not the mark of a choice, is the same
expression at the start of a longer text. -/
theorem alternatives_of_singleton (h : parse [c] = .ok first) (hc : c ≠ '|') (fuel : ℕ)
    (rest : List Char) : alternatives (fuel + 1) {} [] [] [] (c :: rest) =
      alternatives fuel {} [] [] [.atom first] rest := by
  by_cases hliteral : c ∉ specialChars
  · rw [parse_eq, List.length_singleton, alternatives_of_literal rfl hliteral] at h
    obtain rfl : ({} : Flags).literal c = first := Except.ok.inj h
    exact alternatives_of_literal rfl hliteral
  have hrefused : c ∉ refusedChars := fun hmem => by
    have hfails := parse_singleton_isOk hmem
    rw [h] at hfails
    cases hfails
  -- The special characters that are expressions by themselves.
  obtain rfl | rfl | rfl : c = '.' ∨ c = '^' ∨ c = '$' := by
    simp only [specialChars, refusedChars, List.mem_cons, List.not_mem_nil, or_false] at *
    tauto
  all_goals
    cases h
    rfl

/-- A group that is not remembered, behind some items. -/
theorem alternatives_of_group (fuel : ℕ) (items : List Item) (rest : List Char) :
    alternatives (fuel + 1) {} [] [] items ('(' :: '?' :: ':' :: rest) =
      alternatives fuel {} [] [] [] rest >>= closedAndRest fuel {} [] items none := rfl

/-- A group that can be read is closed, and what stands in it can be read on its own. -/
theorem closed_of_alternatives {fuel : ℕ} {items : List Item} {rest : List Char}
    {found : (Expr × List (Option (List Char))) × List Char}
    (h : alternatives (fuel + 1) {} [] [] items ('(' :: '?' :: ':' :: rest) = .ok found) :
    ∃ inner behind, rest = inner ++ ')' :: behind ∧ (∃ expr, parse inner = .ok expr) ∧
      ∀ other, parse (inner ++ [')']) ≠ .ok other := by
  rw [alternatives_of_group] at h
  cases hinside : alternatives fuel {} [] [] [] rest with
  | error fault =>
    rw [hinside] at h
    cases h
  | ok inside =>
    obtain ⟨⟨expr, groups⟩, left⟩ := inside
    obtain ⟨behind, rfl⟩ : ∃ behind, left = ')' :: behind := by
      rw [hinside] at h
      simp only [bind, Except.bind, closedAndRest] at h
      split at h
      · exact ⟨_, rfl⟩
      · cases h
    obtain ⟨inner, rfl⟩ := neverBack _ _ _ _ _ _ _ _ hinside
    obtain ⟨hinner, hcomment⟩ := parse_of_followed hinside
    exact ⟨inner, behind, rfl, ⟨expr, hinner⟩, hcomment⟩

/-- A group around an expression that does not end in a comment, behind some items. -/
theorem alternatives_grouped {text : List Char} {expr : Expr} (h : parse text = .ok expr)
    (hcomment : parse (text ++ [')']) ≠ .ok expr) :
    ∃ groups, ∀ fuel > text.length, ∀ items,
      alternatives (fuel + 1) {} [] [] items ('(' :: '?' :: ':' :: (text ++ [')'])) =
        .ok ((sequenceOf (.atom (.group none expr) :: items), groups), []) := by
  obtain ⟨groups, hfollowed⟩ := (parse_followed h).resolve_right fun hlost => hcomment hlost.2
  refine ⟨groups, fun fuel hfuel items => ?_⟩
  rw [alternatives_of_group, hfollowed [] fuel hfuel]
  exact alternatives_of_nil (by omega) (skip_nil _)

end Behind

end Expr

/-! ## The laws -/

open Engine (EndsInComment grouped)

theorem read_eq (text : String) : Engine.read text = Expr.parse text.toList := rfl

theorem toList_grouped (text : String) :
    (grouped text).toList = '(' :: '?' :: ':' :: (text.toList ++ [')']) := by
  simp [grouped, String.toList_append]

theorem not_endsInComment_iff {text : String} {expr : Expr}
    (h : Expr.parse text.toList = .ok expr) :
    ¬EndsInComment text ↔ Expr.parse (text.toList ++ [')']) ≠ .ok expr := by
  have happend : Engine.read (text ++ ")") = Expr.parse (text.toList ++ [')']) := by
    rw [read_eq, String.toList_append]
    rfl
  constructor
  · exact fun hcomment hlost => hcomment ⟨expr, h, happend.trans hlost⟩
  · rintro hlost ⟨other, hread, hagain⟩
    obtain rfl : expr = other := Except.ok.inj (h.symm.trans hread)
    exact hlost (happend.symm.trans hagain)

theorem read_grouped {text : String} {expr : Expr} (h : Expr.parse text.toList = .ok expr)
    (hcomment : ¬EndsInComment text) :
    Engine.read (grouped text) = .ok (Expr.group none expr) := by
  obtain ⟨groups, hgrouped⟩ := Expr.alternatives_grouped h ((not_endsInComment_iff h).1 hcomment)
  rw [read_eq, toList_grouped]
  exact Expr.parse_eq_ok_iff.2 ⟨groups, hgrouped _ (by simp; omega) []⟩

theorem read_singleton_grouped {c : Char} {text : String} {first expr : Expr} (hc : c ≠ '|')
    (hfirst : Engine.read (String.singleton c) = .ok first)
    (h : Expr.parse text.toList = .ok expr) (hcomment : ¬EndsInComment text) :
    Engine.read (String.singleton c ++ grouped text) =
      .ok (Expr.seq first (.group none expr)) := by
  obtain ⟨groups, hgrouped⟩ := Expr.alternatives_grouped h ((not_endsInComment_iff h).1 hcomment)
  rw [read_eq, String.toList_append, toList_grouped, String.toList_singleton, List.singleton_append]
  refine Expr.parse_eq_ok_iff.2 ⟨groups, ?_⟩
  rw [Expr.alternatives_of_singleton (by simpa [read_eq] using hfirst) hc]
  exact hgrouped _ (by simp; omega) [.atom first]

/-- A group behind a character that can be read is closed, and what stands in it can be read. -/
theorem closed_of_read {c : Char} {rest : String} {first whole : Expr} (hc : c ≠ '|')
    (hfirst : Engine.read (String.singleton c) = .ok first)
    (h : Engine.read (String.singleton c ++ "(?:" ++ rest) = .ok whole) :
    ∃ inner behind, rest = inner ++ ")" ++ behind ∧ (∃ expr, Engine.read inner = .ok expr) ∧
      ¬EndsInComment inner := by
  have hlist : (String.singleton c ++ "(?:" ++ rest).toList =
      c :: '(' :: '?' :: ':' :: rest.toList := by simp [String.toList_append]
  rw [read_eq, hlist] at h
  obtain ⟨groups, hread⟩ := Expr.parse_eq_ok_iff.1 h
  rw [Expr.alternatives_of_singleton (by simpa [read_eq] using hfirst) hc] at hread
  obtain ⟨inner, behind, hrest, ⟨expr, hinner⟩, hcomment⟩ := Expr.closed_of_alternatives hread
  have hinner' : Expr.parse (String.ofList inner).toList = .ok expr := by
    rwa [String.toList_ofList]
  refine ⟨String.ofList inner, String.ofList behind, ?_, ⟨expr, hinner'⟩, ?_⟩
  · rw [← String.toList_inj, hrest]
    simp [String.toList_append]
  · rw [not_endsInComment_iff hinner', String.toList_ofList]
    exact hcomment expr

/-- A parenthesis behind an expression is refused, unless a comment swallows it. -/
theorem read_append_paren {text : String} {expr : Expr} (h : Expr.parse text.toList = .ok expr)
    (hcomment : ¬EndsInComment text) (behind : String) :
    Engine.read (text ++ ")" ++ behind) = .error .groupUnopened := by
  have hlist : (text ++ ")" ++ behind).toList = text.toList ++ ')' :: behind.toList := by
    simp [String.toList_append]
  rw [read_eq, hlist]
  exact ((Expr.parse_followed h).resolve_right
    fun hlost => (not_endsInComment_iff h).1 hcomment hlost.2).parse _

theorem hashInLastLine_of_endsInComment {text : String} (h : EndsInComment text) :
    HashInLastLine text.toList := by
  obtain ⟨expr, hread, hlost⟩ := h
  obtain hfollowed | ⟨hhash, -⟩ := Expr.parse_followed hread
  · rw [read_eq, String.toList_append] at hlost
    exact absurd ((hfollowed.parse []).symm.trans hlost) nofun
  · exact hhash

/-- The built-in engine has the laws that engines are documented to have. -/
theorem builtin_documented : Engine.Documented Expr.Matches where
  search expr subject := by
    refine Expr.isMatch_iff.trans ?_
    simp only [Expr.Matches, String.length_toList, exists_and_left]
  inside expr subject start stop h := h.stop_le
  beginning := by
    refine ⟨.look .textStart, rfl, fun subject start stop => ⟨?_, ?_⟩⟩
    · rintro ⟨-, hstart, rfl⟩
      have hzero : start = 0 := by simpa [Anchor.holds] using hstart
      exact ⟨hzero, hzero⟩
    · rintro ⟨rfl, rfl⟩
      exact ⟨Nat.zero_le _, rfl, rfl⟩
  anything := by
    refine ⟨.times (.one (.compl (.single '\n'))) 0 none false, rfl, fun subject place hplace => ?_⟩
    exact ⟨hplace, 0, by simp, rfl⟩
  group text expr h hcomment :=
    ⟨_, read_grouped h hcomment, fun subject start stop => Iff.rfl⟩
  sequence c text first expr second hc hfirst h hcomment hsecond := by
    obtain rfl : Expr.group none expr = second :=
      Except.ok.inj ((read_grouped h hcomment).symm.trans hsecond)
    refine ⟨_, read_singleton_grouped hc hfirst h hcomment, fun subject start stop => ⟨?_, ?_⟩⟩
    · rintro ⟨hstart, place, hfirst, hsecond⟩
      exact ⟨place, ⟨hstart, hfirst⟩, Expr.Matches.stop_le ⟨hstart, hfirst⟩, hsecond⟩
    · rintro ⟨place, ⟨hstart, hfirst⟩, -, hsecond⟩
      exact ⟨hstart, place, hfirst, hsecond⟩
  closed c rest first whole hc hfirst h := closed_of_read hc hfirst h
  unopened text expr h hcomment behind := read_append_paren h hcomment behind
  comment text h := hashInLastLine_of_endsInComment h

end StructSearch.Regex
