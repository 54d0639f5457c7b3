import Mathlib.Tactic
import StructSearch.Proofs.Regex.Documented
import StructSearch.Regex.Parser

/-!
# Texts that a parenthesis follows

The text of a field is put between parentheses, and more may come behind it. Whether the whole says
what it should depends on how every reader treats the closing parenthesis behind its text. Most
leave it where it is, whatever comes after it. In extended mode a comment that the text ends in
swallows it, and a reader that fails for want of more may take it for what was missing, as `\` does
to write a character. In both cases the parenthesis is used up.

`Sealed` says this of one reading, and `Steady` of a reader. Both are kept by reading one part after
another, so that there is one lemma for each reader. What comes behind the parenthesis is an
argument throughout: which of the three happens may not depend on it. This module has the readers
of numbers and escapes.

Results:
* `skip_leaves`: what extended mode ignores.
* `Sealed.bind`, `Steady.bind`: reading one part after another.
* `counts_steady`, `escape_sealed`: the bounds of a repetition, and escapes.
-/

namespace StructSearch.Regex

/-! ## What is left of a text -/

theorem HashInLastLine.mono {text rest : List Char} (h : HashInLastLine rest)
    (hrest : rest <:+ text) : HashInLastLine text := by
  obtain ⟨front, comment, rfl, hcomment⟩ := h
  obtain ⟨more, rfl⟩ := hrest
  exact ⟨more ++ front, comment, (List.append_assoc _ _ _).symm, hcomment⟩

/-- What is left of a text, and what is left if a parenthesis and more follow it: the same with
both, or some of what is behind the parenthesis if that was taken for a part of a comment. -/
def Leaves (text rest : List Char) (other : List Char → List Char) : Prop :=
  (rest <:+ text ∧ ∀ behind, other behind = rest ++ ')' :: behind) ∨
    (rest = [] ∧ (∀ behind, other behind <:+ behind) ∧ HashInLastLine text)

namespace Leaves

variable {text less rest : List Char} {other : List Char → List Char}

theorem whole (text : List Char) : Leaves text text fun behind => text ++ ')' :: behind :=
  .inl ⟨List.suffix_refl _, fun _ => rfl⟩

theorem mono (h : Leaves less rest other) (hless : less <:+ text) : Leaves text rest other :=
  h.imp (fun ⟨hrest, hother⟩ => ⟨hrest.trans hless, hother⟩)
    fun ⟨hrest, hother, hhash⟩ => ⟨hrest, hother, hhash.mono hless⟩

/-- Leaving some of what is left. -/
theorem trans (h : Leaves text rest other) {f : List Char → List Char}
    (hsuffix : ∀ text, f text <:+ text)
    (hf : Leaves rest (f rest) fun behind => f (rest ++ ')' :: behind)) :
    Leaves text (f rest) fun behind => f (other behind) := by
  obtain ⟨hrest, hother⟩ | ⟨rfl, hother, hhash⟩ := h
  · simp only [hother]
    exact hf.mono hrest
  · exact .inr ⟨List.suffix_nil.1 (hsuffix []),
      fun behind => (hsuffix _).trans (hother behind), hhash⟩

end Leaves

theorem skipComments_suffix (inComment : Bool) (text : List Char) :
    skipComments inComment text <:+ text := by
  induction text generalizing inComment with
  | nil => exact List.nil_suffix
  | cons c rest ih =>
    have hrest : ∀ inComment, skipComments inComment rest <:+ c :: rest :=
      fun inComment => (ih inComment).trans (List.suffix_cons c rest)
    simp only [skipComments]
    split_ifs
    · exact hrest _
    · exact hrest _
    · exact hrest _
    · exact List.suffix_refl _

theorem skip_suffix (extended : Bool) (text : List Char) : skip extended text <:+ text := by
  unfold skip
  split_ifs
  · exact skipComments_suffix _ _
  · exact List.suffix_refl _

/-- Outside of comments, and in a comment of which `front` was read. -/
theorem skipComments_leaves (text : List Char) :
    (Leaves text (skipComments false text) fun behind =>
      skipComments false (text ++ ')' :: behind)) ∧
    ∀ front, '\n' ∉ front →
      Leaves ('#' :: front ++ text) (skipComments true text) fun behind =>
        skipComments true (text ++ ')' :: behind) := by
  -- Together, because a comment may start after any character and end after any other.
  induction text with
  | nil =>
    refine ⟨.inl ⟨List.nil_suffix, fun _ => rfl⟩, fun front hfront => .inr ⟨rfl, ?_, ?_⟩⟩
    · exact skipComments_suffix true
    · exact ⟨[], front, by simp, hfront⟩
  | cons c rest ih =>
    have hrest : rest <:+ c :: rest := List.suffix_cons _ _
    refine ⟨?_, fun front hfront => ?_⟩
    · simp only [skipComments, List.cons_append, Bool.false_eq_true, if_false]
      split_ifs with hblank hhash
      · exact ih.1.mono hrest
      · obtain rfl : c = '#' := by simpa using hhash
        exact ih.2 [] (by simp)
      · exact .whole _
    · simp only [skipComments, List.cons_append, if_true]
      by_cases hline : c = '\n'
      · subst hline
        exact ih.1.mono (hrest.trans (List.suffix_append ('#' :: front) _))
      · have hnext : '\n' ∉ front ++ [c] := by simp [hfront, Ne.symm hline]
        have hinside : (c != '\n') = true := by simpa using hline
        rw [hinside]
        simpa using ih.2 (front ++ [c]) hnext

theorem skip_leaves (extended : Bool) (text : List Char) :
    Leaves text (skip extended text) fun behind => skip extended (text ++ ')' :: behind) := by
  cases extended with
  | false => exact .whole text
  | true => exact (skipComments_leaves text).1

@[simp] theorem skip_nil (extended : Bool) : skip extended [] = [] := by
  cases extended <;> rfl

theorem Leaves.skip {text rest : List Char} {other : List Char → List Char}
    (h : Leaves text rest other) (extended : Bool) :
    Leaves text (skip extended rest) fun behind => skip extended (other behind) :=
  h.trans (skip_suffix extended) (skip_leaves extended rest)

theorem dropWhile_leaves {p : Char → Bool} (hp : p ')' = false) (text : List Char) :
    Leaves text (text.dropWhile p) fun behind => (text ++ ')' :: behind).dropWhile p := by
  refine .inl ⟨List.dropWhile_suffix p, fun behind => ?_⟩
  dsimp only
  rw [List.dropWhile_append]
  split_ifs with hempty
  · simp [List.isEmpty_iff.1 hempty, hp]
  · rfl

/-- What stands before a delimiter holds the parenthesis, or the delimiter is found in the text
itself. -/
theorem span_append {p : Char → Bool} (hp : p ')' = true) (text : List Char) :
    (text.dropWhile p = [] ∧ ∀ behind, ')' ∈ (text ++ ')' :: behind).takeWhile p) ∨
      ∃ c rest, text.dropWhile p = c :: rest ∧ c :: rest <:+ text ∧ ∀ behind,
        (text ++ ')' :: behind).dropWhile p = c :: (rest ++ ')' :: behind) ∧
        (text ++ ')' :: behind).takeWhile p = text.takeWhile p := by
  have hsplit := congrArg List.length (List.takeWhile_append_dropWhile (p := p) (l := text))
  rw [List.length_append] at hsplit
  cases hdrop : text.dropWhile p with
  | nil =>
    have hlong : (text.takeWhile p).length = text.length := by simpa [hdrop] using hsplit
    refine .inl ⟨rfl, fun behind => ?_⟩
    rw [List.takeWhile_append, if_pos hlong, List.takeWhile_cons_of_pos hp]
    simp
  | cons c rest =>
    have hshort : (text.takeWhile p).length ≠ text.length := by
      rw [hdrop, List.length_cons] at hsplit
      omega
    refine .inr ⟨c, rest, rfl, hdrop ▸ List.dropWhile_suffix p, fun behind => ⟨?_, ?_⟩⟩
    · simp [List.dropWhile_append, hdrop]
    · rw [List.takeWhile_append, if_neg hshort]

/-! ## Readings -/

section Readings

variable {α β : Type}

/-- What is left after a reading, if it succeeds, is an end of a text. -/
def Within (text : List Char) (x : Except Fault (α × List Char)) : Prop :=
  ∀ a rest, x = .ok (a, rest) → rest <:+ text

/-- What one reading gives, the other gives too. -/
def Refines (x y : Except Fault α) : Prop := ∀ a, x = .ok a → y = .ok a

/-- What is read from a text, and what is read if a parenthesis and more follow it. Nothing that was
read is changed by what follows, unless the text ends in a comment. The parenthesis is left, or it
is used up and some of what is behind it is left. -/
inductive Sealed (text : List Char) :
    Except Fault (α × List Char) → (List Char → Except Fault (α × List Char)) → Prop
  | read (a : α) {rest : List Char} {y : List Char → Except Fault (α × List Char)}
    (h : rest <:+ text) (hy : ∀ behind, y behind = .ok (a, rest ++ ')' :: behind)) :
    Sealed text (.ok (a, rest)) y
  | lost (a : α) {y : List Char → Except Fault (α × List Char)} (hhash : HashInLastLine text)
    (hwithin : ∀ behind, Within behind (y behind)) (hend : y [] = .ok (a, [])) :
    Sealed text (.ok (a, [])) y
  | refused (fault : Fault) {y : List Char → Except Fault (α × List Char)}
    (hwithin : ∀ behind, Within behind (y behind)) : Sealed text (.error fault) y

/-- A reader that treats a parenthesis behind any text in this way. -/
def Steady (read : List Char → Except Fault (α × List Char)) : Prop :=
  ∀ text, Sealed text (read text) fun behind => read (text ++ ')' :: behind)

variable {text less rest : List Char} {x : Except Fault (α × List Char)}
  {y : List Char → Except Fault (α × List Char)} {other : List Char → List Char}

namespace Within

theorem error (fault : Fault) : Within text (.error fault : Except Fault (α × List Char)) :=
  fun _ _ h => by cases h

theorem ok (a : α) (h : rest <:+ text) : Within text (.ok (a, rest)) := by
  rintro _ _ ⟨⟩
  exact h

theorem mono (h : Within less x) (hless : less <:+ text) : Within text x :=
  fun a rest hx => (h a rest hx).trans hless

theorem bind (h : Within text x) {f : α × List Char → Except Fault (β × List Char)}
    (hnext : ∀ a rest, Within rest (f (a, rest))) : Within text (x >>= f) := by
  cases x with
  | error fault => exact error fault
  | ok result => exact (hnext result.1 result.2).mono (h _ _ rfl)

/-- A step that reads nothing. -/
theorem after {z : Except Fault β} {f : β → Except Fault (α × List Char)}
    (h : ∀ b, Within text (f b)) : Within text (z >>= f) := by
  cases z with
  | error fault => exact error fault
  | ok b => exact h b

end Within

namespace Refines

theorem refl (x : Except Fault α) : Refines x x := fun _ h => h

theorem error (fault : Fault) (y : Except Fault α) : Refines (.error fault) y :=
  fun _ h => by cases h

theorem bind {x y : Except Fault α} {f g : α → Except Fault β} (h : Refines x y)
    (hnext : ∀ a, Refines (f a) (g a)) : Refines (x >>= f) (y >>= g) := by
  cases x with
  | error fault => exact error fault _
  | ok a =>
    rw [h a rfl]
    exact hnext a

end Refines

namespace Sealed

theorem within (h : Sealed text x y) : Within text x := by
  cases h with
  | read a h => exact .ok a h
  | lost a => exact .ok a List.nil_suffix
  | refused fault => exact .error fault

theorem mono (h : Sealed less x y) (hless : less <:+ text) : Sealed text x y := by
  cases h with
  | read a h hy => exact .read a (h.trans hless) hy
  | lost a hhash hwithin hend => exact .lost a (hhash.mono hless) hwithin hend
  | refused fault hwithin => exact .refused fault hwithin

/-- Two readings that fail. -/
theorem failed (fault other : Fault) :
    Sealed text (.error fault : Except Fault (α × List Char)) fun _ => .error other :=
  .refused fault fun _ => .error other

/-- A reading at the end of the text and one behind the parenthesis. -/
theorem of_lost (hhash : HashInLastLine text) (hx : Within [] x)
    (hy : ∀ behind, Within behind (y behind)) (hend : Refines x (y [])) : Sealed text x y := by
  cases x with
  | error fault => exact .refused fault hy
  | ok result =>
    obtain ⟨a, rest⟩ := result
    obtain rfl : rest = [] := List.suffix_nil.1 (hx a rest rfl)
    exact .lost a hhash hy (hend _ rfl)

/-- Reading one part after another. -/
theorem bind {f : α × List Char → Except Fault (β × List Char)}
    {g : List Char → α × List Char → Except Fault (β × List Char)} (h : Sealed text x y)
    (hread : ∀ a rest, rest <:+ text →
      Sealed rest (f (a, rest)) fun behind => g behind (a, rest ++ ')' :: behind))
    (hwithin : ∀ behind a rest, Within rest (g behind (a, rest)))
    (hend : ∀ a, Refines (f (a, [])) (g [] (a, []))) :
    Sealed text (x >>= f) fun behind => y behind >>= g behind := by
  cases h with
  | read a h hy =>
    simp only [hy]
    exact (hread a _ h).mono h
  | lost a hhash hy hnil =>
    refine .of_lost hhash (hread a [] List.nil_suffix).within
      (fun behind => (hy behind).bind (hwithin behind)) ?_
    rw [hnil]
    exact hend a
  | refused fault hy => exact .refused fault fun behind => (hy behind).bind (hwithin behind)

/-- Reading on with one reader. -/
theorem bind_read (h : Sealed text x y) {f : α × List Char → Except Fault (β × List Char)}
    (hnext : ∀ a, Steady fun rest => f (a, rest)) :
    Sealed text (x >>= f) fun behind => y behind >>= f :=
  h.bind (fun a rest _ => hnext a rest) (fun _ a rest => (hnext a rest).within) fun _ => .refl _

end Sealed

/-- Reading what is left. -/
theorem Leaves.sealed {f : List Char → Except Fault (α × List Char)}
    {g : List Char → List Char → Except Fault (α × List Char)} (h : Leaves text rest other)
    (hread : rest <:+ text → Sealed rest (f rest) fun behind => g behind (rest ++ ')' :: behind))
    (hwithin : ∀ behind text, Within text (g behind text)) (hend : Refines (f []) (g [] [])) :
    Sealed text (f rest) fun behind => g behind (other behind) := by
  obtain ⟨hrest, hother⟩ | ⟨rfl, hother, hhash⟩ := h
  · simp only [hother]
    exact (hread hrest).mono hrest
  · refine .of_lost hhash (hread List.nil_suffix).within
      (fun behind => (hwithin behind _).mono (hother behind)) ?_
    rw [List.suffix_nil.1 (hother [])]
    exact hend

/-- Reading what is left with one reader. -/
theorem Leaves.sealed_read {read : List Char → Except Fault (α × List Char)}
    (h : Leaves text rest other)
    (hread : Sealed rest (read rest) fun behind => read (rest ++ ')' :: behind))
    (hwithin : ∀ text, Within text (read text)) :
    Sealed text (read rest) fun behind => read (other behind) :=
  h.sealed (fun _ => hread) (fun _ => hwithin) (.refl _)

namespace Steady

variable {read : List Char → Except Fault (α × List Char)}

theorem within (h : Steady read) (text : List Char) : Within text (read text) := (h text).within

theorem sealed (h : Steady read) (hleaves : Leaves text rest other) :
    Sealed text (read rest) fun behind => read (other behind) :=
  hleaves.sealed_read (h rest) h.within

theorem skip (h : Steady read) (extended : Bool) :
    Steady fun text => read (skip extended text) :=
  fun text => h.sealed (skip_leaves extended text)

theorem dropWhile (h : Steady read) {p : Char → Bool} (hp : p ')' = false) :
    Steady fun text => read (text.dropWhile p) :=
  fun text => h.sealed (dropWhile_leaves hp text)

theorem bind (h : Steady read) {f : α × List Char → Except Fault (β × List Char)}
    (hnext : ∀ a, Steady fun rest => f (a, rest)) : Steady fun text => read text >>= f :=
  fun text => (h text).bind_read hnext

/-- A reader told by the first character of its text. -/
theorem of_head (hnil : Sealed [] (read []) fun behind => read (')' :: behind))
    (hcons : ∀ c rest,
      Sealed rest (read (c :: rest)) fun behind => read (c :: (rest ++ ')' :: behind))) :
    Steady read := by
  intro text
  cases text with
  | nil => exact hnil
  | cons c rest => exact (hcons c rest).mono (List.suffix_cons c rest)

/-- A reader that does something else at one character only. -/
theorem of_special {plain : List Char → Except Fault (α × List Char)} (h : Steady plain)
    (special : Char) (hne : special ≠ ')')
    (hplain : ∀ text, text.head? ≠ some special → read text = plain text)
    (hspecial : ∀ rest, Sealed rest (read (special :: rest)) fun behind =>
      read (special :: (rest ++ ')' :: behind))) : Steady read := by
  intro text
  by_cases htext : text.head? = some special
  · obtain ⟨rest, rfl⟩ : ∃ rest, text = special :: rest := by
      cases text with
      | nil => simp at htext
      | cons c rest => exact ⟨rest, by simpa using htext⟩
    exact (hspecial rest).mono (List.suffix_cons special rest)
  · have hother : ∀ behind, (text ++ ')' :: behind).head? ≠ some special := by
      cases text with
      | nil => simpa using hne.symm
      | cons c rest => simpa using htext
    simp only [hplain _ htext, hplain _ (hother _)]
    exact h text

/-- A result that reads nothing more. -/
theorem pure (a : α) : Steady fun rest => .ok (a, rest) :=
  fun _ => .read a (List.suffix_refl _) fun _ => rfl

theorem error (fault : Fault) : Steady (fun _ => .error fault : List Char → Except Fault (α × _)) :=
  fun _ => .failed fault fault

end Steady

end Readings

/-! ## Numbers -/

theorem fixedHex_steady (extended : Bool) (count value : ℕ) :
    Steady (fixedHex extended count value) := by
  induction count generalizing value with
  | zero => exact .pure value
  | succ count ih =>
    refine .of_head (.failed _ _) fun c rest => ?_
    simp only [fixedHex]
    cases hexValue? c with
    | none => exact .failed _ _
    | some digit => exact (ih _).sealed (skip_leaves extended rest)

theorem bracedHex_within (extended : Bool) (value : Option ℕ) (text : List Char) :
    Within text (bracedHex extended value text) := by
  fun_induction bracedHex extended value text with
  | case1 | case3 | case5 => exact .error _
  | case2 rest value => exact .ok _ ((skip_suffix _ _).trans (List.suffix_cons _ rest))
  | case4 value c rest _ digit _ ih =>
    exact ih.mono ((skip_suffix _ _).trans (List.suffix_cons c rest))

theorem bracedHex_cons {extended : Bool} {value : Option ℕ} {c : Char} (h : c ≠ '}')
    (rest : List Char) : bracedHex extended value (c :: rest) =
      match hexValue? c with
      | some digit => bracedHex extended (some (16 * value.getD 0 + digit)) (skip extended rest)
      | none => .error .escape := by
  rw [bracedHex.eq_def]
  split
  · next heq => cases heq
  · next heq => exact absurd (List.cons.inj heq).1 h
  · next heq =>
    obtain ⟨rfl, rfl⟩ := List.cons.inj heq
    rfl

theorem bracedHex_steady (extended : Bool) (value : Option ℕ) :
    Steady (bracedHex extended value) := by
  intro text
  fun_induction bracedHex extended value text with
  | case1 value =>
    simp only [List.nil_append, bracedHex_cons (by decide : ')' ≠ '}'),
      show hexValue? ')' = none by decide]
    exact .failed _ _
  | case2 rest value =>
    simp only [List.cons_append, bracedHex]
    exact (Steady.pure value).sealed ((skip_leaves extended rest).mono (List.suffix_cons _ rest))
  | case3 rest =>
    simp only [List.cons_append, bracedHex]
    exact .failed _ _
  | case4 value c rest hc digit hdigit ih =>
    simp only [List.cons_append, bracedHex_cons hc, hdigit]
    refine Sealed.mono ?_ (List.suffix_cons c rest)
    exact (skip_leaves extended rest).sealed_read ih (bracedHex_within _ _)
  | case5 value c rest hc hdigit =>
    simp only [List.cons_append, bracedHex_cons hc, hdigit]
    exact .failed _ _

theorem hexDigits_steady (extended : Bool) (count : ℕ) : Steady (hexDigits extended count) := by
  refine (fixedHex_steady extended count 0).of_special '{' (by decide) (fun text htext => ?_)
    fun rest => (bracedHex_steady extended none).sealed (skip_leaves extended rest)
  unfold hexDigits
  split
  · exact absurd rfl htext
  · rfl

theorem hexEscape_steady (extended : Bool) (count : ℕ) : Steady (hexEscape extended count) := by
  refine ((hexDigits_steady extended count).skip extended).bind fun code => ?_
  dsimp only
  cases charOfCode? code with
  | none => exact .error _
  | some c => exact .pure c

theorem digitsFrom_within (extended : Bool) (value : Option ℕ) (text : List Char) :
    Within text (.ok (digitsFrom extended value text)) := by
  fun_induction digitsFrom extended value text with
  | case1 value => exact .ok value (List.suffix_refl _)
  | case2 value c rest _ ih => exact ih.mono ((skip_suffix _ _).trans (List.suffix_cons c rest))
  | case3 value c rest => exact .ok value (List.suffix_refl _)

theorem digitsFrom_steady (extended : Bool) (value : Option ℕ) :
    Steady fun text => .ok (digitsFrom extended value text) := by
  intro text
  dsimp only
  fun_induction digitsFrom extended value text with
  | case1 value =>
    refine .read value (List.suffix_refl _) fun behind => ?_
    rw [List.nil_append, digitsFrom, if_neg (by decide)]
  | case2 value c rest hdigit ih =>
    have hcons : ∀ rest, digitsFrom extended value (c :: rest) =
        digitsFrom extended (some (10 * value.getD 0 + (c.toNat - 48))) (skip extended rest) :=
      fun rest => by rw [digitsFrom, if_pos hdigit]
    simp only [List.cons_append, hcons]
    refine Sealed.mono ?_ (List.suffix_cons c rest)
    exact (skip_leaves extended rest).sealed_read ih (digitsFrom_within _ _)
  | case3 value c rest hdigit =>
    refine .read value (List.suffix_refl _) fun behind => ?_
    rw [List.cons_append, digitsFrom, if_neg hdigit]

theorem decimal_steady (extended : Bool) : Steady (decimal extended) := by
  have hblank : Text.isBlank ')' = false := by decide
  have hcount : ∀ value, Steady fun rest => countOf extended (value, rest) := by
    rintro (_ | value)
    · exact .error _
    intro rest
    simp only [countOf]
    split_ifs
    · exact (Steady.pure value).sealed ((dropWhile_leaves hblank rest).skip extended)
    · exact .failed _ _
  exact ((digitsFrom_steady extended none).dropWhile hblank).bind hcount

/-- The upper bound of a repetition up to its closing brace. -/
theorem countsUpTo_steady (extended : Bool) (least : ℕ) : Steady (countsUpTo extended least) := by
  refine (decimal_steady extended).bind fun most => .of_head (.failed _ _) fun c rest => ?_
  by_cases hclose : c = '}'
  · subst hclose
    dsimp only
    split_ifs
    · exact .read (least, some most) (List.suffix_refl _) fun _ => rfl
    · exact .failed _ _
  · simp [hclose, Sealed.failed]

theorem countsFrom_steady (extended : Bool) (least : ℕ) : Steady (countsFrom extended least) := by
  refine (countsUpTo_steady extended least).of_special '}' (by decide) (fun text htext => ?_)
    fun rest => .read (least, none) (List.suffix_refl _) fun _ => rfl
  unfold countsFrom
  split
  · exact absurd rfl htext
  · rfl

theorem counts_steady (extended : Bool) : Steady (counts extended) := by
  refine (decimal_steady extended).bind fun least => .of_head (.failed _ _) fun c rest => ?_
  dsimp only
  by_cases hclose : c = '}'
  · subst hclose
    exact .read (least, some least) (List.suffix_refl _) fun _ => rfl
  by_cases hcomma : c = ','
  · subst hcomma
    exact (countsFrom_steady extended least).sealed (skip_leaves extended rest)
  · simp [hclose, hcomma, Sealed.failed]

/-- Bounds do not start with the parenthesis. -/
theorem counts_within {extended : Bool} {behind text : List Char} (h : text <:+ ')' :: behind) :
    Within behind (counts extended text) := by
  obtain rfl | hbehind := List.suffix_cons_iff.1 h
  · have hfails : decimal extended (')' :: behind) = .error .repetitionCount := by
      simp [decimal, digitsFrom, countOf, show Text.isBlank ')' = false by decide,
        show (')').isDigit = false by decide]
    rw [counts, hfails]
    exact .error _
  · exact ((counts_steady extended).within text).mono hbehind

/-! ## Escapes -/

theorem boundaryName_within (extended : Bool) (text : List Char) :
    Within text (.ok (boundaryName extended text)) := by
  fun_induction boundaryName extended text with
  | case1 => exact .ok [] (List.suffix_refl _)
  | case2 c rest _ name left hname ih =>
    have hleft : left <:+ skip extended rest := ih name left (by rw [hname])
    exact .ok _ (hleft.trans ((skip_suffix _ _).trans (List.suffix_cons c rest)))
  | case3 c rest => exact .ok [] (List.suffix_refl _)

theorem boundaryName_steady (extended : Bool) :
    Steady fun text => .ok (boundaryName extended text) := by
  intro text
  dsimp only
  fun_induction boundaryName extended text with
  | case1 =>
    refine .read [] (List.suffix_refl _) fun behind => ?_
    rw [List.nil_append, boundaryName, if_neg (by decide)]
  | case2 c rest hletter name left hname ih =>
    have hcons : ∀ rest, boundaryName extended (c :: rest) =
        ((c :: (boundaryName extended (skip extended rest)).1),
          (boundaryName extended (skip extended rest)).2) :=
      fun rest => by rw [boundaryName, if_pos hletter]
    have hrest := (skip_leaves extended rest).sealed_read ih (boundaryName_within extended)
    rw [hname] at hrest
    simp only [List.cons_append, hcons]
    exact (hrest.bind_read (f := fun found => .ok (c :: found.1, found.2))
      fun name => .pure (c :: name)).mono (List.suffix_cons c rest)
  | case3 c rest hletter =>
    refine .read [] (List.suffix_refl _) fun behind => ?_
    rw [List.cons_append, boundaryName, if_neg hletter]

/-- Where no name follows the brace of a word boundary, nothing was read. -/
theorem boundaryName_of_nil {extended : Bool} {text left : List Char}
    (h : boundaryName extended text = ([], left)) : left = text := by
  cases text with
  | nil => simpa [boundaryName, eq_comm] using h
  | cons c rest =>
    rw [boundaryName] at h
    split_ifs at h
    · simp at h
    · simpa [eq_comm] using h

/-- A reading that fails where a word boundary and a brace are read if more follows, behind which
nothing of the text is left. -/
def LeavesBrace {α : Type} (extended : Bool) (a : α) (x : Except Fault (α × List Char))
    (y : List Char → Except Fault (α × List Char)) : Prop :=
  (∃ fault, x = .error fault) ∧ ∀ behind, Within behind (y behind) ∨
    ∃ rest, y behind = .ok (a, '{' :: rest) ∧ skip extended rest <:+ ')' :: behind

theorem namedBoundary_within {text name left : List Char} (h : name = [] → left = []) :
    Within left.tail (namedBoundary text (name, left)) := by
  unfold namedBoundary
  split
  · exact .error _
  · next hfound =>
    obtain ⟨rfl, rfl⟩ := Prod.mk.inj hfound
    simp at h
  · next hfound =>
    obtain ⟨rfl, rfl⟩ := Prod.mk.inj hfound
    split
    · exact .ok _ (List.suffix_refl _)
    · exact .error _
  · exact .error _

/-- A name that nothing of the text is left behind, or no name and nothing left. -/
theorem namedBoundary_brace {extended : Bool} {text behind : List Char}
    (h : (boundaryName extended (skip extended text)).2 <:+ ')' :: behind) :
    Within behind (namedBoundary ('{' :: text) (boundaryName extended (skip extended text))) ∨
      ∃ rest, namedBoundary ('{' :: text) (boundaryName extended (skip extended text)) =
        .ok (.wordBoundary, '{' :: rest) ∧ skip extended rest <:+ ')' :: behind := by
  obtain ⟨name, left, hfound⟩ : ∃ name left, boundaryName extended (skip extended text) =
      (name, left) := ⟨_, _, rfl⟩
  rw [hfound] at h ⊢
  by_cases hname : name = [] → left = []
  · refine .inl ((namedBoundary_within hname).mono ?_)
    obtain rfl | hleft := List.suffix_cons_iff.1 h
    · exact List.suffix_refl behind
    · exact (List.tail_suffix left).trans hleft
  · obtain ⟨rfl, hsome⟩ := not_forall.1 hname
    obtain ⟨d, tail, rfl⟩ := List.exists_cons_of_ne_nil hsome
    exact .inr ⟨text, rfl, boundaryName_of_nil hfound ▸ h⟩

/-- A name, or none, that more of the text is left behind. -/
theorem namedBoundary_sealed (name : List Char) {text rest : List Char} {c : Char}
    (h : c :: rest <:+ text) : Sealed text (namedBoundary text (name, c :: rest)) fun behind =>
      namedBoundary (text ++ ')' :: behind) (name, c :: (rest ++ ')' :: behind)) := by
  cases name with
  | nil => exact .read Anchor.wordBoundary (List.suffix_refl _) fun _ => rfl
  | cons first name =>
    by_cases hclose : c = '}'
    · subst hclose
      simp only [namedBoundary]
      cases boundary? (first :: name) with
      | none => exact .failed _ _
      | some anchor => exact .read anchor ((List.suffix_cons _ rest).trans h) fun _ => rfl
    · simp [namedBoundary, hclose, Sealed.failed]

theorem wordBoundary_sealed (extended : Bool) (text : List Char) :
    (Sealed text (wordBoundary extended text) fun behind =>
        wordBoundary extended (text ++ ')' :: behind)) ∨
      LeavesBrace extended .wordBoundary (wordBoundary extended text) fun behind =>
        wordBoundary extended (text ++ ')' :: behind) := by
  cases text with
  | nil => exact .inl (.read Anchor.wordBoundary (List.suffix_refl _) fun _ => rfl)
  | cons c rest =>
    by_cases hopen : c = '{'
    · subst hopen
      simp only [wordBoundary, List.cons_append]
      have hname := (boundaryName_steady extended).skip extended rest
      have hfound : ∀ behind name left, (.ok (boundaryName extended
          (skip extended (rest ++ ')' :: behind))) : Except Fault _) = .ok (name, left) →
          boundaryName extended (skip extended (rest ++ ')' :: behind)) = (name, left) :=
        fun _ _ _ => Except.ok.inj
      dsimp only at hname
      generalize boundaryName extended (skip extended rest) = found at hname ⊢
      cases hname with
      | @read name left _ hleft hother =>
        replace hother := fun behind => hfound _ _ _ (hother behind)
        cases left with
        | nil =>
          refine .inr ⟨⟨_, rfl⟩, fun behind => namedBoundary_brace ?_⟩
          rw [hother]
          exact List.suffix_refl _
        | cons d tail =>
          simp only [hother]
          exact .inl (namedBoundary_sealed name (hleft.trans (List.suffix_cons _ rest)))
      | lost name hhash hwithin =>
        exact .inr ⟨⟨_, rfl⟩, fun behind => namedBoundary_brace
          ((hwithin behind _ _ rfl).trans (List.suffix_cons _ behind))⟩
    · have hplain : ∀ rest, wordBoundary extended (c :: rest) = .ok (.wordBoundary, c :: rest) := by
        intro rest
        simp [wordBoundary, hopen]
      simp only [List.cons_append, hplain]
      exact .inl (.read Anchor.wordBoundary (List.suffix_refl _) fun _ => rfl)

theorem escape_sealed (extended : Bool) (text : List Char) :
    (Sealed text (escape extended text) fun behind => escape extended (text ++ ')' :: behind)) ∨
      LeavesBrace extended (.anchor .wordBoundary) (escape extended text) fun behind =>
        escape extended (text ++ ')' :: behind) := by
  cases text with
  | nil => exact .inl (.refused _ fun _ => .ok (Primitive.literal ')') (List.suffix_refl _))
  | cons c rest =>
    have hrest : rest <:+ c :: rest := List.suffix_cons c rest
    have hplain : ∀ primitive : Primitive, Sealed (c :: rest) (.ok (primitive, rest))
        fun behind => .ok (primitive, rest ++ ')' :: behind) :=
      fun primitive => .read primitive hrest fun _ => rfl
    have hhex : ∀ count, Sealed (c :: rest)
        (hexEscape extended count rest >>= fun found => .ok (Primitive.literal found.1, found.2))
        fun behind => hexEscape extended count (rest ++ ')' :: behind) >>= fun found =>
          .ok (Primitive.literal found.1, found.2) :=
      fun count => ((hexEscape_steady extended count rest).bind_read
        fun c => .pure (Primitive.literal c)).mono hrest
    simp only [escape, List.cons_append]
    split
    case h_1 | h_2 | h_3 => exact .inl (hhex _)
    case h_18 =>
      obtain hboundary | ⟨⟨fault, hfault⟩, hbrace⟩ := wordBoundary_sealed extended rest
      · exact .inl ((hboundary.bind_read fun anchor => .pure (Primitive.anchor anchor)).mono hrest)
      · refine .inr ⟨⟨fault, by rw [hfault]; rfl⟩, fun behind => ?_⟩
        obtain hwithin | ⟨left, hleft, hskip⟩ := hbrace behind
        · exact .inl (hwithin.bind fun anchor rest => .ok _ (List.suffix_refl rest))
        · exact .inr ⟨left, by simp only [hleft]; rfl, hskip⟩
    case h_22 | h_23 => exact .inl (.failed _ _)
    case h_24 =>
      split_ifs
      · exact .inl (hplain _)
      · exact .inl (.failed _ _)
    all_goals exact .inl (hplain _)

theorem escape_within (extended : Bool) (text : List Char) :
    Within text (escape extended text) := by
  obtain hsealed | ⟨⟨fault, hfault⟩, -⟩ := escape_sealed extended text
  · exact hsealed.within
  · rw [hfault]
    exact .error fault

end StructSearch.Regex
