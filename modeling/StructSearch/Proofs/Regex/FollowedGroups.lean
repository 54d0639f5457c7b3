import Mathlib.Tactic
import StructSearch.Proofs.Regex.FollowedClasses

/-!
# Expressions that a parenthesis follows

A parenthesis behind the text of an expression is left for the group around it, is taken for a part
of a comment, or closes a group of the text itself that was left open. The last case is one in which
the text alone cannot be read. Steps are counted in a way that lets the two readings have different
numbers of them, since the longer text is given more.

Results:
* `agrees`: readings of a text alone and with more behind it.
* `alternatives_le`: more steps read the same.
* `Expr.parse_followed`, `Expr.parse_of_followed`: a whole text and a parenthesis behind it.
-/

namespace StructSearch.Regex

/-! ## Groups -/

theorem flagList_steady (flags : Flags) (seen : List Char) (value dangling : Bool) :
    Steady (flagList flags seen value dangling) := by
  intro text
  induction text generalizing flags seen value dangling with
  | nil =>
    simp only [flagList, List.nil_append]
    split_ifs
    · exact .failed _ _
    · exact .failed _ _
    · exact .refused _ fun behind => .ok (flags, false) (List.suffix_refl behind)
  | cons c rest ih =>
    refine Sealed.mono ?_ (List.suffix_cons c rest)
    simp only [List.cons_append]
    by_cases hcolon : c = ':'
    · subst hcolon
      simp only [flagList]
      split_ifs
      · exact .failed _ _
      · exact .read (flags, true) (List.suffix_refl rest) fun _ => rfl
    by_cases hclose : c = ')'
    · subst hclose
      simp only [flagList]
      split_ifs
      · exact .failed _ _
      · exact .failed _ _
      · exact .read (flags, false) (List.suffix_refl rest) fun _ => rfl
    by_cases hhyphen : c = '-'
    · subst hhyphen
      simp only [flagList]
      split_ifs
      · exact ih _ _ _ _
      · exact .failed _ _
    · simp only [flagList]
      split_ifs
      · exact .failed _ _
      · cases flags.set? c value with
        | none => exact .failed _ _
        | some flags => exact ih _ _ _ _

/-- No group has a parenthesis in its name. -/
theorem isGroupName_eq_false {name : List Char} (h : ')' ∈ name) : isGroupName name = false := by
  have hparen : ∀ first, isNameChar first ')' = false := by decide +kernel
  cases name with
  | nil => rfl
  | cons c name =>
    obtain rfl | hmem := List.mem_cons.1 h
    · simp [isGroupName, hparen]
    · have hall : name.all (isNameChar false) = false :=
        List.all_eq_false.2 ⟨')', hmem, by simp [hparen]⟩
      simp [isGroupName, hall]

theorem groupName_steady : Steady groupName := by
  intro text
  unfold groupName
  obtain ⟨hnil, hparen⟩ | ⟨c, tail, hcons, hsuffix, hother⟩ :=
    span_append (p := (· != '>')) (by decide) text
  · rw [hnil]
    refine .refused _ fun behind => ?_
    split
    · rw [if_neg (by simp [isGroupName_eq_false (hparen behind)])]
      exact .error _
    · exact .error _
  · simp only [hcons, (hother _).1, (hother _).2]
    by_cases hclose : c = '>'
    · subst hclose
      split_ifs
      · exact .read _ ((List.suffix_cons _ tail).trans hsuffix) fun _ => rfl
      · exact .failed _ _
    · simp [hclose, Sealed.failed]

theorem namedHead_steady : Steady namedHead :=
  groupName_steady.bind fun name => .pure (GroupHead.capture (some name))

theorem flaggedHead_steady (flags : Flags) : Steady (flaggedHead flags) :=
  (flagList_steady flags [] true false).bind fun (inner, opens) =>
    .pure (if opens then GroupHead.plain inner else .directive inner)

theorem angleHead_steady : Steady angleHead := by
  intro text
  have hnamed := namedHead_steady text
  cases text with
  | nil => exact hnamed
  | cons c rest =>
    by_cases hlook : c = '=' ∨ c = '!'
    · obtain rfl | rfl := hlook <;> exact .failed _ _
    · have hplain : ∀ rest, angleHead (c :: rest) = namedHead (c :: rest) := by
        intro rest
        simp_all [angleHead]
      simp only [List.cons_append, hplain]
      exact hnamed

theorem markHead_steady (flags : Flags) : Steady (markHead flags) := by
  intro text
  have hflagged := flaggedHead_steady flags text
  cases text with
  | nil => exact hflagged
  | cons c rest =>
    have hrest : rest <:+ c :: rest := List.suffix_cons c rest
    by_cases hlook : c = '=' ∨ c = '!'
    · obtain rfl | rfl := hlook <;> exact .failed _ _
    by_cases hopen : c = '<'
    · subst hopen
      exact (angleHead_steady rest).mono hrest
    by_cases hname : ∃ left, c :: rest = 'P' :: '<' :: left
    · obtain ⟨left, hname⟩ := hname
      obtain ⟨rfl, rfl⟩ := List.cons.inj hname
      exact (namedHead_steady left).mono ((List.suffix_cons _ left).trans hrest)
    · have hplain : ∀ rest, (∀ left, c :: rest ≠ 'P' :: '<' :: left) →
          markHead flags (c :: rest) = flaggedHead flags (c :: rest) := by
        intro rest hname
        unfold markHead
        split <;> simp_all
      have hname' : ∀ behind left, c :: (rest ++ ')' :: behind) ≠ 'P' :: '<' :: left := by
        intro behind left hleft
        cases rest <;> simp_all
      simp only [List.cons_append, hplain rest (not_exists.1 hname), hplain _ (hname' _)]
      exact hflagged

theorem groupHead_steady (flags : Flags) : Steady (groupHead flags) := by
  refine (Steady.pure (GroupHead.capture none)).of_special '?' (by decide) (fun text htext => ?_)
    fun rest => markHead_steady flags rest
  unfold groupHead
  split
  · exact absurd rfl htext
  · rfl

/-! ## Expressions -/

theorem lazyMark_steady (flags : Flags) : Steady (fun text => .ok (lazyMark flags text)) := by
  refine (Steady.pure flags.swapLazy).of_special '?' (by decide) (fun text htext => ?_)
    fun rest => .read (!flags.swapLazy) (List.suffix_refl rest) fun _ => rfl
  unfold lazyMark
  split
  · exact absurd rfl htext
  · rfl

section Alternatives

variable {fuel : ℕ} {flags : Flags} {groups : List (Option (List Char))}
  {branches : List Expr} {items : List Item} {text rest : List Char}

theorem alternatives_of_nil (hfuel : 0 < fuel) (h : skip flags.extended text = []) :
    alternatives fuel flags groups branches items text =
      .ok ((choiceOf branches (sequenceOf items), groups), []) := by
  obtain ⟨fuel, rfl⟩ := Nat.exists_eq_succ_of_ne_zero hfuel.ne'
  rw [alternatives, h]

theorem alternatives_of_close (hfuel : 0 < fuel) (h : skip flags.extended text = ')' :: rest) :
    alternatives fuel flags groups branches items text =
      .ok ((choiceOf branches (sequenceOf items), groups), ')' :: rest) := by
  obtain ⟨fuel, rfl⟩ := Nat.exists_eq_succ_of_ne_zero hfuel.ne'
  rw [alternatives, h]
  rfl

/-- The characters with a meaning of their own outside of classes. -/
def specialChars : List Char :=
  [')', '|', '(', '[', '?', '*', '+', '{', '\\', '.', '^', '$']

theorem alternatives_of_literal {c : Char} (h : skip flags.extended text = c :: rest)
    (hc : c ∉ specialChars) :
    alternatives (fuel + 1) flags groups branches items text =
      alternatives fuel flags groups branches (.atom (flags.literal c) :: items) rest := by
  rw [alternatives, h]
  simp only [specialChars, List.mem_cons, List.not_mem_nil, or_false, not_or] at hc
  simp [hc]

theorem alternatives_of_escape (h : skip flags.extended text = '\\' :: rest) :
    alternatives (fuel + 1) flags groups branches items text =
      escape flags.extended rest >>= fun (primitive, rest) =>
        alternatives fuel flags groups branches (.atom (primitive.expr flags) :: items) rest := by
  rw [alternatives, h]
  rfl

end Alternatives

section Parts

variable (fuel : ℕ) (flags : Flags) (groups : List (Option (List Char))) (branches : List Expr)
  (items : List Item)

/-- What follows the inside of a group: its closing parenthesis, and more. -/
def closedAndRest (index : Option ℕ) (inside : (Expr × List (Option (List Char))) × List Char) :
    Except Fault ((Expr × List (Option (List Char))) × List Char) :=
  match inside.2 with
  | ')' :: rest =>
    alternatives fuel flags inside.1.2 branches (.atom (.group index inside.1.1) :: items) rest
  | _ => .error .groupUnclosed

/-- A group under flags of its own, and what follows it. -/
def groupAndRest (inner : Flags) (index : Option ℕ) (text : List Char) :
    Except Fault ((Expr × List (Option (List Char))) × List Char) :=
  alternatives fuel inner groups [] [] text >>= closedAndRest fuel flags branches items index

/-- What follows the head of a group: the rest of the enclosing one if it only sets flags. -/
def headAndRest (head : GroupHead × List Char) :
    Except Fault ((Expr × List (Option (List Char))) × List Char) :=
  match head.1 with
  | .directive inner => alternatives fuel inner groups branches (.directive :: items) head.2
  | .plain inner => groupAndRest fuel flags groups branches items inner none head.2
  | .capture name =>
    if name.isSome && groups.contains name then .error .groupNameTwice
    else groupAndRest fuel flags (name :: groups) branches items flags (some groups.length) head.2

/-- What follows the mark that a repetition of the last item is lazy. -/
def repeatedAndRest (least : ℕ) (most : Option ℕ) (mark : Bool × List Char) :
    Except Fault ((Expr × List (Option (List Char))) × List Char) := do
  let items ← repeatLast items least most mark.1
  alternatives fuel flags groups branches items mark.2

/-- Readings with some number of steps never go back. -/
def NeverBack : Prop :=
  ∀ (flags : Flags) (groups : List (Option (List Char))) (branches : List Expr)
    (items : List Item) (text : List Char),
    Within text (alternatives fuel flags groups branches items text)

variable {fuel}

theorem NeverBack.closed (h : NeverBack fuel) (index : Option ℕ)
    (value : Expr × List (Option (List Char))) (rest : List Char) :
    Within rest (closedAndRest fuel flags branches items index (value, rest)) := by
  unfold closedAndRest
  dsimp only
  split
  · exact (h _ _ _ _ _).mono (List.suffix_cons _ _)
  · exact .error _

theorem NeverBack.grouped (h : NeverBack fuel) (inner : Flags) (index : Option ℕ)
    (text : List Char) :
    Within text (groupAndRest fuel flags groups branches items inner index text) :=
  (h inner groups [] [] text).bind (h.closed flags branches items index)

theorem NeverBack.headed (h : NeverBack fuel) (head : GroupHead) (text : List Char) :
    Within text (headAndRest fuel flags groups branches items (head, text)) := by
  cases head with
  | directive inner => exact h _ _ _ _ _
  | plain inner => exact h.grouped _ _ _ _ _ _ _
  | capture name =>
    simp only [headAndRest]
    split_ifs
    · exact .error _
    · exact h.grouped _ _ _ _ _ _ _

theorem NeverBack.repeated (h : NeverBack fuel) (least : ℕ) (most : Option ℕ) (text : List Char) :
    Within text (repeatedAndRest fuel flags groups branches items least most
      (lazyMark flags text)) :=
  ((lazyMark_steady flags).within text).bind
    (f := repeatedAndRest fuel flags groups branches items least most)
    fun _ rest => .after fun items => h flags groups branches items rest

theorem alternatives_of_open {text rest : List Char} (h : skip flags.extended text = '(' :: rest) :
    alternatives (fuel + 1) flags groups branches items text =
      groupHead flags (skip flags.extended rest) >>=
        headAndRest fuel flags groups branches items := by
  rw [alternatives, h]
  refine congrArg (_ >>= ·) (funext fun (head, left) => ?_)
  cases head with
  | directive inner => rfl
  | plain inner => rfl
  | capture name =>
    simp only [headAndRest]
    split_ifs <;> rfl

end Parts

theorem alternatives_within_skip (fuel : ℕ) (flags : Flags) (groups : List (Option (List Char)))
    (branches : List Expr) (items : List Item) (text : List Char) :
    Within (skip flags.extended text) (alternatives fuel flags groups branches items text) := by
  induction fuel generalizing flags groups branches items text with
  | zero => exact .error _
  | succ fuel ih =>
    have hback : NeverBack fuel := fun flags groups branches items text =>
      (ih flags groups branches items text).mono (skip_suffix _ _)
    by_cases hopen : ∃ rest, skip flags.extended text = '(' :: rest
    · obtain ⟨rest, hskip⟩ := hopen
      rw [alternatives_of_open _ _ _ _ hskip, hskip]
      exact ((((groupHead_steady flags).skip flags.extended).within rest).bind
        (hback.headed flags groups branches items)).mono (List.suffix_cons _ rest)
    rw [alternatives]
    generalize skip flags.extended text = left at hopen ⊢
    split
    case h_1 | h_2 => exact .ok _ (List.suffix_refl _)
    case h_4 rest => exact absurd ⟨rest, rfl⟩ hopen
    case h_5 rest =>
      exact (((bracketed_steady flags).within rest).bind fun _ => hback _ _ _ _).mono
        (List.suffix_cons _ rest)
    case h_6 rest | h_7 rest | h_8 rest =>
      exact (hback.repeated _ _ _ _ _ _ rest).mono (List.suffix_cons _ rest)
    case h_9 rest =>
      exact ((((counts_steady flags.extended).skip flags.extended).within rest).bind
        fun (least, most) rest => (hback.repeated _ _ _ _ least most _).mono
          (skip_suffix _ rest)).mono (List.suffix_cons _ rest)
    case h_10 rest =>
      exact ((escape_within flags.extended rest).bind fun _ => hback _ _ _ _).mono
        (List.suffix_cons _ rest)
    all_goals exact (hback _ _ _ _ _).mono (List.suffix_cons _ _)

theorem neverBack (fuel : ℕ) : NeverBack fuel := fun flags groups branches items text =>
  (alternatives_within_skip fuel flags groups branches items text).mono (skip_suffix _ _)

/-- A brace that is left behind a word boundary is read as one of a repetition, which does not read
the parenthesis. -/
theorem alternatives_brace_within {flags : Flags} {behind rest : List Char} (fuel : ℕ)
    (groups : List (Option (List Char))) (branches : List Expr) (items : List Item)
    (h : skip flags.extended rest <:+ ')' :: behind) :
    Within behind (alternatives fuel flags groups branches items ('{' :: rest)) := by
  cases fuel with
  | zero => exact .error _
  | succ fuel =>
    have hskip : skip flags.extended ('{' :: rest) = '{' :: rest := by
      cases flags.extended <;> rfl
    rw [alternatives, hskip]
    exact (counts_within h).bind fun (least, most) rest =>
      ((neverBack fuel).repeated _ _ _ _ least most _).mono (skip_suffix _ rest)

/-- Texts of less than `bound` characters are read with `fuel` steps as they are with `more` steps
if a parenthesis and more follow. -/
structure Agrees (bound fuel : ℕ) (more : List Char → ℕ) : Prop where
  fuel_pos : 0 < fuel
  more_pos : 0 < more []
  append : ∀ (flags : Flags) (groups : List (Option (List Char))) (branches : List Expr)
    (items : List Item) {text : List Char}, text.length < bound →
    Sealed text (alternatives fuel flags groups branches items text) fun behind =>
      alternatives (more behind) flags groups branches items (text ++ ')' :: behind)

namespace Agrees

variable {bound fuel : ℕ} {more : List Char → ℕ} {flags : Flags}
  {groups : List (Option (List Char))} {branches : List Expr} {items : List Item}
  {text rest left : List Char} {other : List Char → List Char}

theorem nil (h : Agrees bound fuel more) :
    Refines (alternatives fuel flags groups branches items [])
      (alternatives (more []) flags groups branches items []) := by
  rw [alternatives_of_nil h.fuel_pos (skip_nil _), alternatives_of_nil h.more_pos (skip_nil _)]
  exact .refl _

/-- A repetition of the last item. -/
theorem repeated (h : Agrees bound fuel more) (hrest : rest.length < bound)
    (hleaves : Leaves rest left other) (least : ℕ) (most : Option ℕ) :
    Sealed rest (repeatedAndRest fuel flags groups branches items least most
        (lazyMark flags left)) fun behind =>
      repeatedAndRest (more behind) flags groups branches items least most
        (lazyMark flags (other behind)) := by
  refine ((lazyMark_steady flags).sealed hleaves).bind
    (f := repeatedAndRest fuel flags groups branches items least most)
    (g := fun behind => repeatedAndRest (more behind) flags groups branches items least most)
    (fun isLazy tail htail => ?_) (fun behind isLazy tail => .after fun items =>
      neverBack (more behind) flags groups branches items tail)
    fun isLazy => .bind (.refl _) fun items => h.nil
  unfold repeatedAndRest
  dsimp only
  cases repeatLast items least most isLazy with
  | error fault => exact .failed _ _
  | ok items => exact h.append _ _ _ _ (lt_of_le_of_lt htail.length_le hrest)

/-- A group that the text leaves open is closed by the parenthesis. -/
theorem grouped (h : Agrees bound fuel more) (hrest : rest.length < bound) (inner : Flags)
    (index : Option ℕ) :
    Sealed rest (groupAndRest fuel flags groups branches items inner index rest) fun behind =>
      groupAndRest (more behind) flags groups branches items inner index
        (rest ++ ')' :: behind) := by
  refine (h.append inner groups [] [] hrest).bind (fun (expr, groups) tail htail => ?_)
    (fun behind => (neverBack (more behind)).closed flags branches items index)
    fun (expr, groups) => .error _ _
  have hshort := htail.length_le
  cases tail with
  | nil =>
    -- The group is open at the end of the text, so that the parenthesis is its own.
    exact .refused _ fun behind => neverBack _ _ _ _ _ behind
  | cons c tail =>
    by_cases hclose : c = ')'
    · subst hclose
      refine Sealed.mono ?_ (List.suffix_cons _ tail)
      exact h.append _ _ _ _ (by simp at hshort; omega)
    · simp [closedAndRest, hclose, Sealed.failed]

theorem grouped_nil (h : Agrees bound fuel more) (inner : Flags) (index : Option ℕ)
    (y : Except Fault ((Expr × List (Option (List Char))) × List Char)) :
    Refines (groupAndRest fuel flags groups branches items inner index []) y := by
  rw [groupAndRest, alternatives_of_nil h.fuel_pos (skip_nil _)]
  exact .error _ _

/-- A group from its head on. -/
theorem opened (h : Agrees bound fuel more) (hrest : rest.length < bound)
    (hskip : skip flags.extended text = '(' :: rest)
    (hother : ∀ behind, skip flags.extended (other behind) = '(' :: (rest ++ ')' :: behind)) :
    Sealed rest (alternatives (fuel + 1) flags groups branches items text) fun behind =>
      alternatives (more behind + 1) flags groups branches items (other behind) := by
  simp only [alternatives_of_open _ _ _ _ hskip, alternatives_of_open _ _ _ _ (hother _)]
  refine ((groupHead_steady flags).skip flags.extended rest).bind
    (fun head left hleft => ?_) (fun behind head left => ?_) fun head => ?_
  · have hshort := lt_of_le_of_lt hleft.length_le hrest
    cases head with
    | plain inner => exact h.grouped hshort inner none
    | directive inner => exact h.append _ _ _ _ hshort
    | capture name =>
      simp only [headAndRest]
      split_ifs
      · exact .failed _ _
      · exact h.grouped hshort flags (some groups.length)
  · exact (neverBack (more behind)).headed _ _ _ _ head left
  · cases head with
    | plain inner => exact h.grouped_nil inner none _
    | directive inner => exact h.nil
    | capture name =>
      simp only [headAndRest]
      split_ifs
      · exact .error _ _
      · exact h.grouped_nil flags (some groups.length) _

/-- An escape and what follows it. -/
theorem escaped (h : Agrees bound fuel more) (hrest : rest.length < bound)
    (hskip : skip flags.extended text = '\\' :: rest)
    (hother : ∀ behind, skip flags.extended (other behind) = '\\' :: (rest ++ ')' :: behind)) :
    Sealed rest (alternatives (fuel + 1) flags groups branches items text) fun behind =>
      alternatives (more behind + 1) flags groups branches items (other behind) := by
  simp only [alternatives_of_escape hskip, alternatives_of_escape (hother _)]
  obtain hescape | ⟨⟨fault, hfault⟩, hbrace⟩ := escape_sealed flags.extended rest
  · exact hescape.bind
      (fun _ _ hleft => h.append _ _ _ _ (lt_of_le_of_lt hleft.length_le hrest))
      (fun behind _ rest => neverBack (more behind) _ _ _ _ rest) fun _ => h.nil
  · rw [hfault]
    refine .refused _ fun behind => ?_
    obtain hwithin | ⟨left, hleft, hskip⟩ := hbrace behind
    · exact hwithin.bind fun _ rest => neverBack (more behind) _ _ _ _ rest
    · simp only [hleft]
      exact alternatives_brace_within (more behind) groups branches _ hskip

/-- Anything from its first character on. -/
theorem succ (h : Agrees bound fuel more) (hrest : rest.length < bound) {c : Char}
    (hskip : skip flags.extended text = c :: rest)
    (hother : ∀ behind, skip flags.extended (other behind) = c :: (rest ++ ')' :: behind)) :
    Sealed (c :: rest) (alternatives (fuel + 1) flags groups branches items text) fun behind =>
      alternatives (more behind + 1) flags groups branches items (other behind) := by
  by_cases hclose : c = ')'
  · subst hclose
    simp only [alternatives_of_close (Nat.succ_pos _) hskip,
      alternatives_of_close (Nat.succ_pos _) (hother _)]
    exact .read _ (List.suffix_refl (')' :: rest)) fun _ => rfl
  refine Sealed.mono ?_ (List.suffix_cons c rest)
  by_cases hopen : c = '('
  · subst hopen
    exact h.opened hrest hskip hother
  by_cases hescape : c = '\\'
  · subst hescape
    exact h.escaped hrest hskip hother
  by_cases hliteral : c ∉ specialChars
  · simp only [alternatives_of_literal hskip hliteral, alternatives_of_literal (hother _) hliteral]
    exact h.append _ _ _ _ hrest
  simp only [alternatives, hskip, hother]
  have hwhole := List.suffix_refl rest
  simp only [specialChars, List.mem_cons, List.not_mem_nil, or_false, not_not] at hliteral
  obtain rfl | rfl | rfl | rfl | rfl | rfl | rfl | rfl | rfl | rfl | rfl | rfl := hliteral
  · exact absurd rfl hclose
  · exact h.append _ _ _ _ hrest
  · exact absurd rfl hopen
  · exact (bracketed_steady flags rest).bind
      (fun _ _ hleft => h.append _ _ _ _ (lt_of_le_of_lt hleft.length_le hrest))
      (fun behind _ rest => neverBack (more behind) _ _ _ _ rest) fun _ => h.nil
  · exact h.repeated hrest (.whole rest) 0 (some 1)
  · exact h.repeated hrest (.whole rest) 0 none
  · exact h.repeated hrest (.whole rest) 1 none
  · refine ((counts_steady flags.extended).skip flags.extended rest).bind
      (fun (least, most) left hleft => ?_) (fun behind (least, most) left => ?_)
      fun (least, most) => ?_
    · exact h.repeated (lt_of_le_of_lt hleft.length_le hrest) (skip_leaves _ left) least most
    · exact ((neverBack (more behind)).repeated _ _ _ _ least most _).mono (skip_suffix _ left)
    · simp only [skip_nil]
      exact .bind (.refl _) fun items => h.nil
  · exact absurd rfl hescape
  · exact h.append _ _ _ _ hrest
  · exact h.append _ _ _ _ hrest
  · exact h.append _ _ _ _ hrest

end Agrees

/-- A parenthesis behind a text is left, is taken for a part of a comment, or closes a group. -/
theorem agrees {fuel : ℕ} {more : List Char → ℕ} (hfuel : 0 < fuel)
    (hmore : ∀ behind, fuel ≤ more behind) : Agrees fuel fuel more := by
  induction fuel generalizing more with
  | zero => omega
  | succ fuel ih =>
    refine ⟨hfuel, lt_of_lt_of_le hfuel (hmore []), ?_⟩
    intro flags groups branches items text hlength
    -- The other reading has a step left as well, whatever is behind the parenthesis.
    obtain ⟨more, rfl⟩ : ∃ n : List Char → ℕ, more = fun behind => n behind + 1 :=
      ⟨fun behind => more behind - 1, funext fun behind => (Nat.sub_add_cancel
        (le_trans (Nat.succ_pos fuel) (hmore behind))).symm⟩
    obtain ⟨hsuffix, hother⟩ | ⟨hskip, hother, hhash⟩ := skip_leaves flags.extended text
    · refine Sealed.mono ?_ hsuffix
      have hshort := hsuffix.length_le
      cases hrest : skip flags.extended text with
      | nil =>
        simp only [hrest, List.nil_append] at hother
        simp only [alternatives_of_nil (Nat.succ_pos _) hrest,
          alternatives_of_close (Nat.succ_pos _) (hother _)]
        exact .read _ (List.suffix_refl []) fun _ => rfl
      | cons c rest =>
        rw [hrest, List.length_cons] at hshort
        simp only [hrest] at hother
        exact (ih (by omega) fun behind => Nat.le_of_succ_le_succ (hmore behind)).succ (by omega)
          hrest hother
    · -- A comment goes on to the end, so that the parenthesis is a part of it.
      rw [alternatives_of_nil (Nat.succ_pos _) hskip]
      refine .lost _ hhash (fun behind => ?_) ?_
      · exact (alternatives_within_skip _ _ _ _ _ _).mono (hother behind)
      · exact alternatives_of_nil (Nat.succ_pos _) (List.suffix_nil.1 (hother []))

/-! ## More steps -/

/-- More steps read the same. -/
theorem alternatives_succ (fuel : ℕ) (flags : Flags) (groups : List (Option (List Char)))
    (branches : List Expr) (items : List Item) (text : List Char) :
    Refines (alternatives fuel flags groups branches items text)
      (alternatives (fuel + 1) flags groups branches items text) := by
  induction fuel generalizing flags groups branches items text with
  | zero => exact .error _ _
  | succ fuel ih =>
    have hgroup : ∀ (inner : Flags) (groups : List (Option (List Char))) (index : Option ℕ)
        (rest : List Char), Refines (groupAndRest fuel flags groups branches items inner index rest)
          (groupAndRest (fuel + 1) flags groups branches items inner index rest) := by
      intro inner groups index rest
      refine .bind (ih _ _ _ _ _) fun ((expr, groups), rest) => ?_
      unfold closedAndRest
      split
      · exact ih _ _ _ _ _
      · exact .refl _
    rw [alternatives, alternatives]
    generalize skip flags.extended text = left
    split
    case h_1 | h_2 => exact .refl _
    case h_4 =>
      refine .bind (.refl _) fun ⟨head, rest⟩ => ?_
      cases head with
      | directive inner => exact ih _ _ _ _ _
      | plain inner => exact hgroup _ _ _ _
      | capture name =>
        dsimp only
        split_ifs
        · exact .refl _
        · exact hgroup _ _ _ _
    case h_9 => exact .bind (.refl _) fun _ => .bind (.refl _) fun _ => ih _ _ _ _ _
    case h_5 | h_6 | h_7 | h_8 | h_10 => exact .bind (.refl _) fun _ => ih _ _ _ _ _
    all_goals exact ih _ _ _ _ _

theorem alternatives_le {fuel more : ℕ} (h : fuel ≤ more) (flags : Flags)
    (groups : List (Option (List Char))) (branches : List Expr) (items : List Item)
    (text : List Char) : Refines (alternatives fuel flags groups branches items text)
      (alternatives more flags groups branches items text) := by
  induction more, h using Nat.le_induction with
  | base => exact .refl _
  | succ more _ ih =>
    exact fun value hvalue => alternatives_succ _ _ _ _ _ _ value (ih value hvalue)

/-! ## Whole texts -/

namespace Expr

/-- What the reading of a whole text makes of the expression at its start. -/
def whole : (Expr × List (Option (List Char))) × List Char → Except Fault Expr
  | ((expr, _), []) => .ok expr
  | (_, _ :: _) => .error .groupUnopened

theorem parse_eq (text : List Char) :
    parse text = alternatives (text.length + 1) {} [] [] [] text >>= whole := by
  unfold parse
  refine congrArg (_ >>= ·) (funext fun ((expr, groups), rest) => ?_)
  cases rest <;> rfl

theorem parse_eq_ok_iff {text : List Char} {expr : Expr} :
    parse text = .ok expr ↔
      ∃ groups, alternatives (text.length + 1) {} [] [] [] text = .ok ((expr, groups), []) := by
  rw [parse_eq]
  cases alternatives (text.length + 1) {} [] [] [] text with
  | error fault => simp [bind, Except.bind]
  | ok found =>
    obtain ⟨⟨inner, groups⟩, rest⟩ := found
    cases rest <;> simp [bind, Except.bind, whole]

variable {text : List Char} {expr : Expr}

/-- A text is read as an expression up to a parenthesis, whatever is behind that. -/
def ReadUpTo (text : List Char) (expr : Expr) : Prop :=
  ∃ groups, ∀ behind, ∀ fuel > text.length,
    alternatives fuel {} [] [] [] (text ++ ')' :: behind) = .ok ((expr, groups), ')' :: behind)

/-- The parenthesis is then refused where no group is open. -/
theorem ReadUpTo.parse (h : ReadUpTo text expr) (behind : List Char) :
    Expr.parse (text ++ ')' :: behind) = .error .groupUnopened := by
  obtain ⟨groups, hread⟩ := h
  rw [parse_eq, hread behind _ (by simp)]
  rfl

/-- An expression is read up to a parenthesis behind it, unless its comment swallows that. -/
theorem parse_followed (h : parse text = .ok expr) :
    ReadUpTo text expr ∨ HashInLastLine text ∧ parse (text ++ [')']) = .ok expr := by
  obtain ⟨groups, hread⟩ := parse_eq_ok_iff.1 h
  have hagrees : Agrees (text.length + 1) (text.length + 1) fun _ => text.length + 1 :=
    agrees (by omega) fun _ => le_rfl
  have hfollowed := hagrees.append {} [] [] [] text.length.lt_succ_self
  rw [hread] at hfollowed
  cases hfollowed with
  | @read _ _ _ hrest hy =>
    exact .inl ⟨groups, fun behind fuel hfuel => alternatives_le hfuel _ _ _ _ _ _ (hy behind)⟩
  | lost _ hhash _ hend =>
    refine .inr ⟨hhash, parse_eq_ok_iff.2 ⟨groups, ?_⟩⟩
    exact alternatives_le (by simp) _ _ _ _ _ _ hend

/-- What is read up to a parenthesis is an expression, and does not end in a comment. -/
theorem parse_of_followed {behind : List Char} {groups : List (Option (List Char))} {fuel : ℕ}
    (h : alternatives fuel {} [] [] [] (text ++ ')' :: behind) =
      .ok ((expr, groups), ')' :: behind)) :
    parse text = .ok expr ∧ ∀ other, parse (text ++ [')']) ≠ .ok other := by
  have hbehind : ¬ ')' :: behind <:+ behind := fun hsuffix => by
    have hlength := hsuffix.length_le
    simp at hlength
  -- Enough steps for the reading that is given, and for the text with a parenthesis that is lost.
  have hagrees : Agrees (text.length + 1) (text.length + 1) fun _ => max fuel (text.length + 2) :=
    agrees (by omega) fun _ => by omega
  have hfollowed := hagrees.append {} [] [] [] text.length.lt_succ_self
  replace h := alternatives_le (le_max_left fuel (text.length + 2)) _ _ _ _ _ _ h
  generalize hx : alternatives (text.length + 1) {} [] [] [] text = x at hfollowed
  cases hfollowed with
  | @read found rest _ hrest hy =>
    obtain ⟨rfl, hleft⟩ := Prod.mk.inj (Except.ok.inj ((hy behind).symm.trans h))
    obtain rfl : rest = [] := by simpa using hleft
    refine ⟨parse_eq_ok_iff.2 ⟨groups, hx⟩, fun other hother => ?_⟩
    obtain ⟨groups', hlost⟩ := parse_eq_ok_iff.1 hother
    have hagain := alternatives_le (le_max_right fuel (text.length + 2)) {} [] [] []
      (text ++ [')']) _ (by simpa using hlost)
    simpa using (hy []).symm.trans hagain
  | lost _ _ hwithin => exact absurd (hwithin behind _ _ h) hbehind
  | refused _ hwithin => exact absurd (hwithin behind _ _ h) hbehind

end Expr

end StructSearch.Regex
