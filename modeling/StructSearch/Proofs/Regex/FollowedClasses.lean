import Mathlib.Tactic
import StructSearch.Proofs.Regex.Followed

/-!
# Classes that a parenthesis follows

A class needs its own closing bracket, and no parenthesis stands for it. Inside a class that is left
open a parenthesis is one more item, so that a class which cannot be read for want of a bracket may
be read on behind the parenthesis, which is then used up.

Results:
* `classItem_steady`, `classRange_sealed`: a character, an escape or a range.
* `classOpen_steady`: the start of a class.
* `bracketed_steady`: classes.
-/

namespace StructSearch.Regex

/-! ## Items -/

theorem classItem_sealed (extended : Bool) (c : Char) (rest : List Char) :
    Sealed rest (classItem extended (c :: rest)) fun behind =>
      classItem extended (c :: (rest ++ ')' :: behind)) := by
  by_cases hescape : c = '\\'
  · subst hescape
    simp only [classItem]
    obtain hsealed | ⟨⟨fault, hfault⟩, hbrace⟩ := escape_sealed extended rest
    · refine hsealed.bind_read fun item => ?_
      cases item with
      | literal c => exact .pure _
      | set chars => exact .pure _
      | anchor condition => exact .error _
    · rw [hfault]
      refine .refused _ fun behind => ?_
      obtain hwithin | ⟨left, hleft, -⟩ := hbrace behind
      · refine hwithin.bind fun item left => ?_
        cases item with
        | anchor condition => exact .error _
        | literal | set => exact .ok _ (List.suffix_refl left)
      · simp only [hleft]
        exact .error _
  · simp only [classItem]
    exact .read (Primitive.literal c) (List.suffix_refl rest) fun _ => rfl

theorem classItem_steady (extended : Bool) : Steady (classItem extended) :=
  .of_head (.refused _ fun _ => .ok (Primitive.literal ')') (List.suffix_refl _))
    (classItem_sealed extended)

/-- A part that may be missing is read from a text as it is if a parenthesis and more follow. -/
def ReadAlike {α : Type} (text : List Char) (x : Option (α × List Char))
    (y : List Char → Option (α × List Char)) : Prop :=
  (x = none ∧ ∀ behind, y behind = none) ∨
    ∃ a rest, rest <:+ text ∧ x = some (a, rest) ∧
      ∀ behind, y behind = some (a, rest ++ ')' :: behind)

namespace ReadAlike

variable {α : Type} {text less : List Char} {x : Option (α × List Char)}
  {y : List Char → Option (α × List Char)}

theorem none : ReadAlike (α := α) text .none fun _ => .none := .inl ⟨rfl, fun _ => rfl⟩

theorem mono (h : ReadAlike less x y) (hless : less <:+ text) : ReadAlike text x y :=
  h.imp_right fun ⟨a, rest, hrest, hx, hy⟩ => ⟨a, rest, hrest.trans hless, hx, hy⟩

theorem suffix {a : α} {rest : List Char} (h : ReadAlike text x y) (hx : x = some (a, rest)) :
    rest <:+ text := by
  obtain ⟨hnone, -⟩ | ⟨_, _, hrest, hsome, -⟩ := h
  · rw [hnone] at hx
    cases hx
  · rw [hsome] at hx
    cases hx
    exact hrest

end ReadAlike

/-- No ASCII class has a parenthesis in its name. -/
theorem ascii?_eq_none {name : String} (h : ')' ∈ name.toList) : CharSet.ascii? name = none := by
  unfold CharSet.ascii?
  split
  case h_15 => rfl
  all_goals exact absurd h (by decide)

theorem asciiNamed?_alike (flags : Flags) (negated : Bool) (text : List Char) :
    ReadAlike text (asciiNamed? flags negated text) fun behind =>
      asciiNamed? flags negated (text ++ ')' :: behind) := by
  unfold asciiNamed?
  obtain ⟨hnil, hparen⟩ | ⟨c, tail, hcons, hsuffix, hother⟩ :=
    span_append (p := (· != ':')) (by decide) text
  · refine .inl ⟨by rw [hnil], fun behind => ?_⟩
    dsimp only
    split
    · rw [ascii?_eq_none (by simpa using hparen behind)]
      rfl
    · rfl
  simp only [hcons, (hother _).1, (hother _).2]
  refine ReadAlike.mono ?_ ((List.suffix_cons c tail).trans hsuffix)
  by_cases hcolon : c = ':'
  · subst hcolon
    cases tail with
    | nil => exact .none
    | cons d tail =>
      by_cases hclose : d = ']'
      · subst hclose
        simp only [List.cons_append]
        cases CharSet.ascii? (String.ofList (text.takeWhile (· != ':'))) with
        | none => exact .none
        | some set => exact .inr ⟨_, _, List.suffix_cons _ tail, rfl, fun _ => rfl⟩
      · simp [hclose, ReadAlike.none]
  · simp [hcolon, ReadAlike.none]

theorem asciiClass?_alike (flags : Flags) (text : List Char) :
    ReadAlike text (asciiClass? flags text) fun behind =>
      asciiClass? flags (text ++ ')' :: behind) := by
  cases text with
  | nil => exact .none
  | cons first rest =>
    by_cases hcolon : first = ':'
    · subst hcolon
      refine ReadAlike.mono ?_ (List.suffix_cons _ rest)
      cases rest with
      | nil => exact asciiNamed?_alike flags false []
      | cons c rest =>
        by_cases hcaret : c = '^'
        · subst hcaret
          exact (asciiNamed?_alike flags true rest).mono (List.suffix_cons _ rest)
        · have hplain : ∀ rest, asciiClass? flags (':' :: c :: rest) =
              asciiNamed? flags false (c :: rest) := by
            intro rest
            simp [asciiClass?, hcaret]
          simp only [List.cons_append, hplain]
          exact asciiNamed?_alike flags false (c :: rest)
    · simp [asciiClass?, hcolon, ReadAlike.none]

/-! ## Ranges -/

theorem firstWritten?_append (inComment : Bool) (text behind : List Char) :
    firstWritten? inComment (text ++ ')' :: behind) =
      (firstWritten? inComment text).or (some ')') := by
  induction text generalizing inComment with
  | nil => cases inComment <;> rfl
  | cons c rest ih =>
    simp only [firstWritten?, List.cons_append]
    split_ifs
    · exact ih _
    · exact ih _
    · rfl

/-- What follows does not change what tells a range from a hyphen that stands for itself. -/
theorem afterHyphen?_append (extended : Bool) (text behind : List Char) {c : Char}
    (hblank : Text.isBlank c = false) (hhash : c ≠ '#') (hparen : c ≠ ')') :
    afterHyphen? extended (text ++ ')' :: behind) = some c ↔
      afterHyphen? extended text = some c := by
  cases extended with
  | false => cases text <;> simp [afterHyphen?, hparen.symm]
  | true =>
    simp only [afterHyphen?, if_true, firstWritten?_append]
    cases hfirst : firstWritten? false text with
    | some first => simp
    | none =>
      have hhead : text.head? ≠ some c := by
        intro hhead
        cases text with
        | nil => cases hhead
        | cons first rest =>
          obtain rfl : first = c := by simpa using hhead
          simp [firstWritten?, hblank, hhash] at hfirst
      simp [hhead, hparen.symm]

/-- A set that is known before the rest of the text. -/
theorem steady_of_set (found : Except Fault CharSet) :
    Steady fun text => found >>= fun set => .ok (set, text) := by
  cases found with
  | error fault => exact .error fault
  | ok set => exact .pure set

theorem rangeTo_steady (extended : Bool) (first : Primitive) : Steady (rangeTo extended first) :=
  ((classItem_steady extended).skip extended).bind fun last => steady_of_set (first.upTo last)

theorem rangeFrom_steady (extended : Bool) (first : Primitive) :
    Steady (rangeFrom extended first) := by
  intro text
  have halone := steady_of_set first.alone
  cases text with
  | nil => exact halone []
  | cons c rest =>
    by_cases hhyphen : c = '-'
    · subst hhyphen
      have hclose := fun behind =>
        afterHyphen?_append extended rest behind (c := ']') (by decide) (by decide) (by decide)
      have hdouble := fun behind =>
        afterHyphen?_append extended rest behind (c := '-') (by decide) (by decide) (by decide)
      simp only [rangeFrom, List.cons_append, hclose, hdouble]
      split_ifs
      · exact halone ('-' :: rest)
      · exact (rangeTo_steady extended first rest).mono (List.suffix_cons _ rest)
    · have hplain : ∀ rest, rangeFrom extended first (c :: rest) =
          first.alone >>= fun set => .ok (set, c :: rest) := by
        intro rest
        simp [rangeFrom, hhyphen]
      simp only [List.cons_append, hplain]
      exact halone (c :: rest)

theorem classRange_sealed (extended : Bool) (c : Char) (rest : List Char) :
    Sealed rest (classRange extended (c :: rest)) fun behind =>
      classRange extended (c :: (rest ++ ')' :: behind)) :=
  (classItem_sealed extended c rest).bind_read fun first =>
    (rangeFrom_steady extended first).skip extended

/-! ## The start of a class -/

theorem leadingHyphens_within (extended : Bool) (set : CharSet) (text : List Char) :
    Within text (.ok (leadingHyphens extended set text)) := by
  fun_induction leadingHyphens extended set text with
  | case1 set rest ih => exact ih.mono ((skip_suffix _ _).trans (List.suffix_cons _ rest))
  | case2 set text => exact .ok set (List.suffix_refl text)

theorem leadingHyphens_steady (extended : Bool) (set : CharSet) :
    Steady fun text => .ok (leadingHyphens extended set text) := by
  intro text
  dsimp only
  fun_induction leadingHyphens extended set text with
  | case1 set rest ih =>
    simp only [List.cons_append, leadingHyphens]
    refine Sealed.mono ?_ (List.suffix_cons _ rest)
    exact (skip_leaves extended rest).sealed_read ih (leadingHyphens_within _ _)
  | case2 set text hhyphen =>
    refine .read set (List.suffix_refl text) fun behind => ?_
    rw [leadingHyphens]
    intro rest hrest
    cases text with
    | nil => simp at hrest
    | cons c text => simp_all

theorem classCaret_steady (extended : Bool) :
    Steady fun text => .ok (classCaret extended text) := by
  refine (Steady.pure false).of_special '^' (by decide) (fun text htext => ?_) fun rest =>
    (Steady.pure true).sealed (skip_leaves extended rest)
  unfold classCaret
  split
  · exact absurd rfl htext
  · rfl

theorem classStart_steady (extended : Bool) :
    Steady fun text => .ok (classStart extended text) := by
  refine (leadingHyphens_steady extended .none).of_special ']' (by decide) (fun text htext => ?_)
    fun rest => (Steady.pure (CharSet.single ']')).sealed (skip_leaves extended rest)
  unfold classStart
  split
  · exact absurd rfl htext
  · rfl

theorem classOpen_steady (extended : Bool) :
    Steady fun text => .ok (classOpen extended text) :=
  ((classCaret_steady extended).skip extended).bind
    (f := fun caret => .ok (classStart extended caret.2) >>= fun start =>
      .ok ((caret.1, start.1), start.2))
    fun negated => (classStart_steady extended).bind
      (f := fun start => .ok ((negated, start.1), start.2)) fun set => .pure (negated, set)

/-! ## Classes -/

theorem setOperator?_alike (c : Char) (rest : List Char) :
    ReadAlike rest (setOperator? (c :: rest)) fun behind =>
      setOperator? (c :: (rest ++ ')' :: behind)) := by
  cases rest with
  | nil =>
    refine .inl ⟨rfl, fun behind => ?_⟩
    simp only [setOperator?, List.nil_append]
    split_ifs with hparen
    · subst hparen
      rfl
    · rfl
  | cons d rest =>
    simp only [setOperator?, List.cons_append]
    split_ifs
    · cases SetOp.ofChar? c with
      | none => exact .none
      | some operator => exact .inr ⟨operator, rest, List.suffix_cons d rest, rfl, fun _ => rfl⟩
    · exact .none

section ClassBody

variable {flags : Flags} {negated : Bool} {fuel : ℕ} {set : CharSet}
  {pending : Option (SetOp × CharSet)} {text rest left : List Char}

theorem classBody_of_nil (h : skip flags.extended text = []) :
    classBody flags negated fuel set pending text = .error .classUnclosed := by
  cases fuel with
  | zero => rfl
  | succ fuel => simp [classBody, h]

theorem classBody_of_close (h : skip flags.extended text = ']' :: rest) :
    classBody flags negated (fuel + 1) set pending text =
      let whole := flags.fold (SetOp.join flags pending set)
      .ok (.bracket (if negated then .compl whole else whole), rest) := by
  rw [classBody, h]
  rfl

theorem classBody_of_ascii {item : CharSet} (h : skip flags.extended text = '[' :: rest)
    (hascii : asciiClass? flags rest = some (item, left)) :
    classBody flags negated (fuel + 1) set pending text =
      classBody flags negated fuel (.union set item) pending left := by
  rw [classBody, h]
  simp only [hascii]

theorem classBody_of_nested (h : skip flags.extended text = '[' :: rest)
    (hascii : asciiClass? flags rest = none) :
    classBody flags negated (fuel + 1) set pending text =
      .ok (classOpen flags.extended rest) >>= fun ((isNegated, start), rest) =>
        classBody flags isNegated fuel start none rest >>= fun (item, rest) =>
          classBody flags negated fuel (.union set item) pending rest := by
  rw [classBody, h]
  simp only [hascii]
  rfl

theorem classBody_of_operator {c : Char} {operator : SetOp}
    (h : skip flags.extended text = c :: rest) (hclose : c ≠ ']') (hopen : c ≠ '[')
    (hoperator : setOperator? (c :: rest) = some (operator, left)) :
    classBody flags negated (fuel + 1) set pending text = classBody flags negated fuel .none
      (some (operator, SetOp.join flags pending set)) left := by
  rw [classBody, h]
  simp [hclose, hopen, hoperator]

theorem classBody_of_item {c : Char} (h : skip flags.extended text = c :: rest) (hclose : c ≠ ']')
    (hopen : c ≠ '[') (hoperator : setOperator? (c :: rest) = none) :
    classBody flags negated (fuel + 1) set pending text =
      classRange flags.extended (c :: rest) >>= fun (item, rest) =>
        classBody flags negated fuel (.union set item) pending rest := by
  rw [classBody, h]
  simp [hclose, hopen, hoperator]

end ClassBody

/-- A class is read from its first character on, which is read in any case. -/
theorem classBody_within_tail (flags : Flags) (negated : Bool) (fuel : ℕ) (set : CharSet)
    (pending : Option (SetOp × CharSet)) (text : List Char) :
    Within (skip flags.extended text).tail (classBody flags negated fuel set pending text) := by
  induction fuel generalizing negated set pending text with
  | zero => exact .error _
  | succ fuel ih =>
    have hnext : ∀ (negated : Bool) (set : CharSet) (pending : Option (SetOp × CharSet))
        (text : List Char), Within text (classBody flags negated fuel set pending text) :=
      fun negated set pending text => (ih negated set pending text).mono
        ((List.tail_suffix _).trans (skip_suffix _ _))
    cases hskip : skip flags.extended text with
    | nil =>
      rw [classBody_of_nil hskip]
      exact .error _
    | cons c rest =>
      rw [List.tail_cons]
      by_cases hclose : c = ']'
      · subst hclose
        rw [classBody_of_close hskip]
        exact .ok _ (List.suffix_refl rest)
      by_cases hopen : c = '['
      · subst hopen
        cases hascii : asciiClass? flags rest with
        | none =>
          rw [classBody_of_nested hskip hascii]
          exact ((classOpen_steady flags.extended).within rest).bind fun (isNegated, start) rest =>
            (hnext isNegated start none rest).bind fun item => hnext negated _ pending
        | some found =>
          obtain ⟨item, left⟩ := found
          rw [classBody_of_ascii hskip hascii]
          exact (hnext _ _ _ left).mono ((asciiClass?_alike flags rest).suffix hascii)
      cases hoperator : setOperator? (c :: rest) with
      | none =>
        rw [classBody_of_item hskip hclose hopen hoperator]
        exact (classRange_sealed flags.extended c rest).within.bind fun item => hnext _ _ _
      | some found =>
        obtain ⟨operator, left⟩ := found
        rw [classBody_of_operator hskip hclose hopen hoperator]
        exact (hnext _ _ _ left).mono ((setOperator?_alike c rest).suffix hoperator)

theorem classBody_within (flags : Flags) (negated : Bool) (fuel : ℕ) (set : CharSet)
    (pending : Option (SetOp × CharSet)) (text : List Char) :
    Within text (classBody flags negated fuel set pending text) :=
  (classBody_within_tail flags negated fuel set pending text).mono
    ((List.tail_suffix _).trans (skip_suffix _ _))

theorem classBody_nil (flags : Flags) (negated : Bool) (fuel : ℕ) (set : CharSet)
    (pending : Option (SetOp × CharSet)) (y : Except Fault (CharSet × List Char)) :
    Refines (classBody flags negated fuel set pending []) y := by
  rw [classBody_of_nil (skip_nil _)]
  exact .error _ _

/-- Texts of less than `bound` characters are read as classes with `fuel` steps as they are with
`more` steps if a parenthesis and more follow. -/
def ClassesAgree (flags : Flags) (bound fuel : ℕ) (more : List Char → ℕ) : Prop :=
  ∀ (negated : Bool) (set : CharSet) (pending : Option (SetOp × CharSet)) {text : List Char},
    text.length < bound →
    Sealed text (classBody flags negated fuel set pending text) fun behind =>
      classBody flags negated (more behind) set pending (text ++ ')' :: behind)

namespace ClassesAgree

variable {flags : Flags} {bound fuel : ℕ} {more : List Char → ℕ} {negated : Bool} {set : CharSet}
  {pending : Option (SetOp × CharSet)} {rest left : List Char} {other : List Char → List Char}

/-- The rest of a class after one of its items. -/
theorem bind (h : ClassesAgree flags bound fuel more) (hrest : rest.length < bound)
    {x : Except Fault (CharSet × List Char)} {y : List Char → Except Fault (CharSet × List Char)}
    (hread : Sealed rest x y) :
    Sealed rest
      (x >>= fun (item, rest) => classBody flags negated fuel (.union set item) pending rest)
      fun behind => y behind >>= fun (item, rest) =>
        classBody flags negated (more behind) (.union set item) pending rest :=
  hread.bind (fun _ _ hleft => h _ _ _ (lt_of_le_of_lt hleft.length_le hrest))
    (fun _ _ => classBody_within _ _ _ _ _) fun _ => classBody_nil _ _ _ _ _ _

/-- A class inside a class, and what follows it. -/
theorem nested (h : ClassesAgree flags bound fuel more) (hrest : rest.length < bound) :
    Sealed rest
      (.ok (classOpen flags.extended rest) >>= fun ((isNegated, start), rest) =>
        classBody flags isNegated fuel start none rest >>= fun (item, rest) =>
          classBody flags negated fuel (.union set item) pending rest)
      fun behind => .ok (classOpen flags.extended (rest ++ ')' :: behind)) >>=
        fun ((isNegated, start), rest) =>
          classBody flags isNegated (more behind) start none rest >>= fun (item, rest) =>
            classBody flags negated (more behind) (.union set item) pending rest := by
  refine (classOpen_steady flags.extended rest).bind (fun (isNegated, start) left hleft => ?_)
    (fun _ (isNegated, start) left => ?_) fun (isNegated, start) => ?_
  · have hshort := lt_of_le_of_lt hleft.length_le hrest
    exact h.bind hshort (h _ _ _ hshort)
  · exact (classBody_within _ _ _ _ _ left).bind fun _ => classBody_within _ _ _ _ _
  · dsimp only
    rw [classBody_of_nil (skip_nil _)]
    exact .error _ _

/-- A class from one character on. -/
theorem succ (h : ClassesAgree flags bound fuel more) (hrest : rest.length < bound)
    {c : Char} {text : List Char} (hskip : skip flags.extended text = c :: rest)
    (hother : ∀ behind, skip flags.extended (other behind) = c :: (rest ++ ')' :: behind)) :
    Sealed rest (classBody flags negated (fuel + 1) set pending text) fun behind =>
      classBody flags negated (more behind + 1) set pending (other behind) := by
  by_cases hclose : c = ']'
  · subst hclose
    simp only [classBody_of_close hskip, classBody_of_close (hother _)]
    exact .read _ (List.suffix_refl rest) fun _ => rfl
  by_cases hopen : c = '['
  · subst hopen
    obtain ⟨hnone, hnone'⟩ | ⟨item, left, hleft, hitem, hitem'⟩ := asciiClass?_alike flags rest
    · simp only [classBody_of_nested hskip hnone, classBody_of_nested (hother _) (hnone' _)]
      exact h.nested hrest
    · simp only [classBody_of_ascii hskip hitem, classBody_of_ascii (hother _) (hitem' _)]
      exact (h _ _ _ (lt_of_le_of_lt hleft.length_le hrest)).mono hleft
  obtain ⟨hnone, hnone'⟩ | ⟨operator, left, hleft, hsome, hsome'⟩ := setOperator?_alike c rest
  · simp only [classBody_of_item hskip hclose hopen hnone,
      classBody_of_item (hother _) hclose hopen (hnone' _)]
    exact h.bind hrest (classRange_sealed flags.extended c rest)
  · simp only [classBody_of_operator hskip hclose hopen hsome,
      classBody_of_operator (hother _) hclose hopen (hsome' _)]
    exact (h _ _ _ (lt_of_le_of_lt hleft.length_le hrest)).mono hleft

end ClassesAgree

/-- Reading on behind the text may take more steps. -/
theorem classesAgree (flags : Flags) {fuel : ℕ} {more : List Char → ℕ}
    (hmore : ∀ behind, fuel ≤ more behind) : ClassesAgree flags fuel fuel more := by
  induction fuel generalizing more with
  | zero =>
    intro _ _ _ _ hlength
    omega
  | succ fuel ih =>
    intro negated set pending text hlength
    obtain ⟨more, rfl⟩ : ∃ n : List Char → ℕ, more = fun behind => n behind + 1 :=
      ⟨fun behind => more behind - 1, funext fun behind => (Nat.sub_add_cancel
        (le_trans (Nat.succ_pos fuel) (hmore behind))).symm⟩
    have hwithin := fun behind =>
      classBody_within_tail flags negated (more behind + 1) set pending (text ++ ')' :: behind)
    obtain ⟨hsuffix, hother⟩ | ⟨hskip, hother, -⟩ := skip_leaves flags.extended text
    · cases hskip : skip flags.extended text with
      | nil =>
        simp only [hother, hskip] at hwithin
        rw [classBody_of_nil hskip]
        exact .refused _ hwithin
      | cons c rest =>
        rw [hskip] at hsuffix hother
        have hshort := hsuffix.length_le
        rw [List.length_cons] at hshort
        refine Sealed.mono ?_ ((List.suffix_cons c rest).trans hsuffix)
        exact (ih fun behind => Nat.le_of_succ_le_succ (hmore behind)).succ (by omega) hskip hother
    · rw [classBody_of_nil hskip]
      exact .refused _ fun behind =>
        (hwithin behind).mono ((List.tail_suffix _).trans (hother behind))

theorem bracketed_steady (flags : Flags) : Steady (bracketed flags) := by
  intro text
  refine (classOpen_steady flags.extended text).bind
    (f := fun ((negated, start), rest) =>
      classBody flags negated (text.length + 1) start none rest)
    (g := fun behind ((negated, start), rest) =>
      classBody flags negated ((text ++ ')' :: behind).length + 1) start none rest)
    (fun (negated, start) left hleft => ?_) (fun _ _ => classBody_within _ _ _ _ _)
    fun _ => classBody_nil _ _ _ _ _ _
  have hshort := hleft.length_le
  exact classesAgree flags (by simp) negated start none (by omega)

end StructSearch.Regex
