import Mathlib.Data.List.TakeWhile
import Mathlib.Tactic
import StructSearch.Matching.Parameters
import StructSearch.Regex.Builtin

/-!
# What a parameter list describes, and what a walk without return finds

A parameter list describes lists of actual parameters: an ellipsis stands for any run of them,
every other entry for a single one that it accepts. `parametersFit` looks for such a reading in one
walk: behind an ellipsis an entry takes the first actual parameter that it accepts, for good. What
the walk finds is always a reading. It misses one only where a later choice would have been right,
because the next entry wants its actual parameter right behind that choice. An ellipsis there
takes the demand away, and an ellipsis anywhere never turns a fit into a miss.

Results:
* `parametersFitFrom_typed_iff`: what the walk does at one entry. All else is derived from it.
* `parametersFitFrom_append_left`: earlier actual parameters do no harm to a lenient walk over
  spaced entries, since taking an earlier one leaves more of them to the entries behind.
* `parametersFit_finds_readings`: the walk is sound, and complete without an ellipsis and for
  entries that are spaced from the first ellipsis on.
* `finds_every_reading_iff`: for no other entries is it complete whatever they accept.
* `parametersFit_with_ellipsis`: an ellipsis that is put in loses no fit.
-/

namespace StructSearch.Matching

open Query

section AnyEngine

variable [Regex.Engine]

variable {α : Type} {accepts : Field → Field → α → Bool}

/-! ## Readings -/

/-- The actual parameters that entries describe, all of them read in order: an ellipsis reads any
run, every other entry one actual parameter that it accepts. -/
inductive Describes (accepts : Field → Field → α → Bool) : List Parameter → List α → Prop
  | nil : Describes accepts [] []
  | ellipsis (run : List α) {entries : List Parameter} {actual : List α} :
      Describes accepts entries actual → Describes accepts (.ellipsis :: entries) (run ++ actual)
  | typed {name type : Field} {a : α} {entries : List Parameter} {actual : List α} :
      accepts name type a = true → Describes accepts entries actual →
      Describes accepts (.typed name type :: entries) (a :: actual)

/-- Every entry that is not an ellipsis is followed at once by one. -/
def Spaced : List Parameter → Prop
  | [] => True
  | .ellipsis :: entries => Spaced entries
  | .typed _ _ :: entries => entries.head? = some .ellipsis ∧ Spaced entries

instance Spaced.decidable : DecidablePred Spaced
  | [] => isTrue trivial
  | .ellipsis :: entries => Spaced.decidable entries
  | .typed _ _ :: entries => @instDecidableAnd _ _ inferInstance (Spaced.decidable entries)

/-- The entries from the first ellipsis on. -/
def fromEllipsis (entries : List Parameter) : List Parameter :=
  entries.dropWhile (· ≠ .ellipsis)

theorem fromEllipsis_ellipsis (entries : List Parameter) :
    fromEllipsis (.ellipsis :: entries) = .ellipsis :: entries :=
  List.dropWhile_cons_of_neg (by simp)

theorem fromEllipsis_typed (name type : Field) (entries : List Parameter) :
    fromEllipsis (.typed name type :: entries) = fromEllipsis entries :=
  List.dropWhile_cons_of_pos (by simp)

theorem fromEllipsis_eq_nil {entries : List Parameter} (h : .ellipsis ∉ entries) :
    fromEllipsis entries = [] := by
  refine List.dropWhile_eq_nil_iff.2 fun entry hentry => ?_
  rw [decide_eq_true_iff]
  rintro rfl
  exact h hentry

theorem Spaced.fromEllipsis {entries : List Parameter} (h : Spaced entries) :
    Spaced (fromEllipsis entries) := by
  induction entries with
  | nil => exact h
  | cons entry entries ih =>
    cases entry with
    | ellipsis => rwa [fromEllipsis_ellipsis]
    | typed name type =>
      rw [fromEllipsis_typed]
      exact ih h.2

/-! ## One step of the walk -/

/-- An entry skips what it does not accept, nothing at all unless the walk is lenient, and takes
the next actual parameter. -/
theorem parametersFitFrom_typed_iff {lenient : Bool} {name type : Field}
    {entries : List Parameter} {actual : List α} :
    parametersFitFrom accepts lenient (.typed name type :: entries) actual = true ↔
      ∃ skipped a rest, actual = skipped ++ a :: rest ∧ (lenient = false → skipped = []) ∧
        (∀ b ∈ skipped, accepts name type b = false) ∧ accepts name type a = true ∧
        parametersFitFrom accepts false entries rest = true := by
  rw [parametersFitFrom]
  constructor
  · intro h
    split at h
    · cases h
    · next a rest hskip =>
      rw [Bool.and_eq_true] at h
      cases lenient with
      | false => exact ⟨[], a, rest, hskip, fun _ => rfl, by simp, h⟩
      | true =>
        have hskipped := List.takeWhile_append_dropWhile (p := fun b => !accepts name type b)
          (l := actual)
        rw [show actual.dropWhile _ = a :: rest from hskip] at hskipped
        exact ⟨_, a, rest, hskipped.symm, by simp,
          fun b hb => by simpa using List.mem_takeWhile_imp hb, h⟩
  · rintro ⟨skipped, a, rest, rfl, hstrict, hskipped, ha, hrest⟩
    have hskip : skipTo accepts lenient name type (skipped ++ a :: rest) = a :: rest := by
      cases lenient with
      | false => rw [hstrict rfl]; rfl
      | true =>
        show (skipped ++ a :: rest).dropWhile _ = a :: rest
        rw [List.dropWhile_append_of_pos (by simpa using hskipped),
          List.dropWhile_cons_of_neg (by simp [ha])]
    rw [hskip]
    simp [ha, hrest]

/-- A lenient walk finds what a strict one does. -/
theorem parametersFitFrom_lenient {lenient : Bool} {entries : List Parameter} {actual : List α}
    (h : parametersFitFrom accepts lenient entries actual = true) :
    parametersFitFrom accepts true entries actual = true := by
  cases entries with
  | nil => rfl
  | cons entry entries =>
    cases entry with
    | ellipsis => exact h
    | typed name type =>
      obtain ⟨skipped, a, rest, hactual, -, hrest⟩ := parametersFitFrom_typed_iff.1 h
      exact parametersFitFrom_typed_iff.2 ⟨skipped, a, rest, hactual, by simp, hrest⟩

/-! ## Soundness -/

/-- What the walk accepts is described by the entries, behind a run that only a lenient walk
leaves out. -/
theorem exists_describes_of_parametersFitFrom {entries : List Parameter} :
    ∀ {lenient : Bool} {actual : List α}, parametersFitFrom accepts lenient entries actual = true →
      ∃ run rest, actual = run ++ rest ∧ (lenient = false → run = []) ∧
        Describes accepts entries rest := by
  induction entries with
  | nil =>
    intro lenient actual h
    refine ⟨actual, [], (List.append_nil actual).symm, ?_, .nil⟩
    rintro rfl
    simpa [parametersFitFrom] using h
  | cons entry entries ih =>
    intro lenient actual h
    cases entry with
    | ellipsis =>
      rw [parametersFitFrom] at h
      obtain ⟨run, rest, rfl, -, hrest⟩ := ih h
      exact ⟨[], run ++ rest, rfl, fun _ => rfl, .ellipsis run hrest⟩
    | typed name type =>
      obtain ⟨skipped, a, rest, rfl, hstrict, -, ha, hrest⟩ := parametersFitFrom_typed_iff.1 h
      obtain ⟨run, behind, rfl, hrun, hbehind⟩ := ih hrest
      obtain rfl := hrun rfl
      exact ⟨skipped, a :: behind, rfl, hstrict, .typed ha hbehind⟩

/-! ## Completeness over spaced entries -/

/-- Earlier actual parameters do no harm: an entry may take one of them instead, and then all that
stood behind its old choice still stands behind the new one. -/
theorem parametersFitFrom_append_left {entries : List Parameter} (hspaced : Spaced entries) :
    ∀ (before : List α) {actual : List α}, parametersFitFrom accepts true entries actual = true →
      parametersFitFrom accepts true entries (before ++ actual) = true := by
  induction entries with
  | nil => intros; rfl
  | cons entry entries ih =>
    intro before actual h
    cases entry with
    | ellipsis => exact ih hspaced before h
    | typed name type =>
      obtain ⟨hnext, hspaced⟩ := hspaced
      obtain ⟨skipped, a, rest, rfl, -, -, ha, hrest⟩ := parametersFitFrom_typed_iff.1 h
      -- The first choice among what now stands before the rest, the old choice at the latest.
      have hsome : ((before ++ skipped ++ [a]).find? (accepts name type)).isSome = true := by
        rw [List.find?_isSome]
        exact ⟨a, by simp, ha⟩
      obtain ⟨first, hfirst⟩ := Option.isSome_iff_exists.1 hsome
      obtain ⟨htaken, missed, left, hsplit, hmissed⟩ := List.find?_eq_some_iff_append.1 hfirst
      refine parametersFitFrom_typed_iff.2
        ⟨missed, first, left ++ rest, ?_, by simp, by simpa using hmissed, htaken, ?_⟩
      · calc before ++ (skipped ++ a :: rest) = (before ++ skipped ++ [a]) ++ rest := by simp
          _ = missed ++ first :: (left ++ rest) := by rw [hsplit]; simp
      · -- The next entry is an ellipsis, so the walk is lenient for what follows it.
        obtain ⟨further, rfl⟩ : ∃ further, entries = .ellipsis :: further :=
          List.head?_eq_some_iff.1 hnext
        exact ih hspaced left (parametersFitFrom_lenient hrest)

/-- The walk accepts what the entries describe if they are spaced from the first ellipsis on. -/
theorem parametersFitFrom_of_describes {entries : List Parameter} {actual : List α}
    (h : Describes accepts entries actual) (hspaced : Spaced (fromEllipsis entries)) :
    parametersFitFrom accepts false entries actual = true := by
  induction h with
  | nil => rfl
  | ellipsis run _ ih =>
    rw [fromEllipsis_ellipsis, Spaced] at hspaced
    rw [parametersFitFrom]
    have hrest := parametersFitFrom_lenient (ih hspaced.fromEllipsis)
    exact parametersFitFrom_append_left hspaced run hrest
  | @typed _ _ a _ actual ha _ ih =>
    rw [fromEllipsis_typed] at hspaced
    exact parametersFitFrom_typed_iff.2 ⟨[], a, actual, rfl, fun _ => rfl, by simp, ha, ih hspaced⟩

/-- Actual parameters that fit are described by the entries; and those that are described fit if
the entries hold no ellipsis, or if from the first ellipsis on each entry other than an ellipsis is
followed at once by one. -/
theorem parametersFit_finds_readings (accepts : Field → Field → α → Bool)
    (entries : List Parameter) (actual : List α) :
    (parametersFit accepts entries actual = true → Describes accepts entries actual) ∧
      (.ellipsis ∉ entries ∨ Spaced (fromEllipsis entries) →
        (parametersFit accepts entries actual = true ↔ Describes accepts entries actual)) := by
  have hsound : parametersFit accepts entries actual = true → Describes accepts entries actual := by
    intro h
    obtain ⟨run, rest, rfl, hrun, hrest⟩ := exists_describes_of_parametersFitFrom h
    obtain rfl := hrun rfl
    exact hrest
  refine ⟨hsound, fun hentries => ⟨hsound, fun h => parametersFitFrom_of_describes h ?_⟩⟩
  obtain hnone | hspaced := hentries
  · rw [fromEllipsis_eq_nil hnone]
    trivial
  · exact hspaced

/-- An entry that asks for a type only. -/
def ofType (source : String) : Parameter :=
  .typed .any ((Field.compile source).toOption.getD .any)

/-- Whether a type asked for accepts a spelling. -/
def typeAccepts (_ type : Field) (spelling : String) : Bool := type.accepts spelling

end AnyEngine

/-- The first `char` is taken and the ellipsis behind it reads the rest, with another one. -/
theorem parametersFit_finds_first_char :
    let entries := [ofType "int", .ellipsis, ofType "char", .ellipsis]
    let actual := ["int", "long", "char", "int", "char"]
    Spaced (fromEllipsis entries) ∧ Describes typeAccepts entries actual ∧
      parametersFit typeAccepts entries actual = true := by
  intro entries actual
  have hspaced : Spaced (fromEllipsis entries) := by decide +kernel
  have hdescribes : Describes typeAccepts entries actual :=
    .typed (by decide +kernel) (.ellipsis ["long"] (.typed (by decide +kernel)
      (.ellipsis ["int", "char"] .nil)))
  exact ⟨hspaced, hdescribes,
    ((parametersFit_finds_readings typeAccepts entries actual).2 (.inr hspaced)).2 hdescribes⟩

/-! ## Only over spaced entries -/

section AnyEngine

variable [Regex.Engine]

variable {α : Type} {accepts : Field → Field → α → Bool}

/-- Entries that accept `true` and nothing else, whatever they ask for. -/
def acceptsTrue (_ _ : Field) (a : Bool) : Bool := a

/-- All entries can be met. -/
theorem exists_describes (entries : List Parameter) :
    ∃ actual, Describes acceptsTrue entries actual := by
  induction entries with
  | nil => exact ⟨[], .nil⟩
  | cons entry entries ih =>
    obtain ⟨actual, h⟩ := ih
    cases entry with
    | ellipsis => exact ⟨[] ++ actual, .ellipsis [] h⟩
    | typed name type => exact ⟨true :: actual, .typed rfl h⟩

theorem Describes.append_left {entries : List Parameter} {actual : List α} (before : List α)
    (h : Describes accepts (.ellipsis :: entries) actual) :
    Describes accepts (.ellipsis :: entries) (before ++ actual) := by
  cases h with
  | ellipsis run h =>
    rw [← List.append_assoc]
    exact .ellipsis (before ++ run) h

/-- Behind an ellipsis, entries that are not spaced miss a reading: where two of them stand
together, what the first one takes too early is followed by a `false`, and where one stands at the
end, by a `true` that is left over. -/
theorem exists_missed_of_not_spaced {entries : List Parameter} (h : ¬Spaced entries) :
    ∃ run actual, Describes acceptsTrue entries actual ∧
      parametersFitFrom acceptsTrue true entries (run ++ actual) = false := by
  induction entries with
  | nil => exact absurd trivial h
  | cons entry entries ih =>
    cases entry with
    | ellipsis =>
      obtain ⟨run, actual, hdescribes, hmissed⟩ := ih h
      exact ⟨run, [] ++ actual, .ellipsis [] hdescribes, hmissed⟩
    | typed name type =>
      match entries with
      | [] => exact ⟨[true], [true], .typed rfl .nil, rfl⟩
      | .typed _ _ :: entries =>
        obtain ⟨actual, hdescribes⟩ := exists_describes entries
        exact ⟨[true, false], true :: true :: actual, .typed rfl (.typed rfl hdescribes), rfl⟩
      | .ellipsis :: entries =>
        obtain ⟨run, actual, hdescribes, hmissed⟩ := ih fun hspaced => h ⟨rfl, hspaced⟩
        exact ⟨[], true :: (run ++ actual), .typed rfl (hdescribes.append_left run), hmissed⟩

theorem exists_missed_reading {entries : List Parameter} (h : ¬Spaced (fromEllipsis entries)) :
    ∃ actual, Describes acceptsTrue entries actual ∧
      parametersFit acceptsTrue entries actual = false := by
  induction entries with
  | nil => exact absurd trivial h
  | cons entry entries ih =>
    cases entry with
    | ellipsis =>
      rw [fromEllipsis_ellipsis] at h
      obtain ⟨run, actual, hdescribes, hmissed⟩ := exists_missed_of_not_spaced h
      exact ⟨run ++ actual, hdescribes.append_left run, hmissed⟩
    | typed name type =>
      rw [fromEllipsis_typed] at h
      obtain ⟨actual, hdescribes, hmissed⟩ := ih h
      exact ⟨true :: actual, .typed rfl hdescribes, hmissed⟩

/-- The walk finds every reading of its entries, whatever they accept, exactly if they are spaced
from the first ellipsis on. -/
theorem finds_every_reading_iff (entries : List Parameter) :
    (∀ (α : Type) (accepts : Field → Field → α → Bool) (actual : List α),
        Describes accepts entries actual → parametersFit accepts entries actual = true) ↔
      Spaced (fromEllipsis entries) := by
  constructor
  · intro h
    by_contra hspaced
    obtain ⟨actual, hdescribes, hmissed⟩ := exists_missed_reading hspaced
    rw [h Bool acceptsTrue actual hdescribes] at hmissed
    cases hmissed
  · intro hspaced α accepts actual h
    exact parametersFitFrom_of_describes h hspaced

/-! ## An ellipsis more -/

/-- Two walks that read the same entries first make the same choices there, so they differ only in
what follows. -/
theorem parametersFitFrom_through {back wide : List Parameter} {more : List α}
    (h : ∀ (lenient : Bool) (rest : List α), parametersFitFrom accepts lenient back rest = true →
      parametersFitFrom accepts lenient wide (rest ++ more) = true) (front : List Parameter) :
    ∀ {lenient : Bool} {actual : List α},
      parametersFitFrom accepts lenient (front ++ back) actual = true →
      parametersFitFrom accepts lenient (front ++ wide) (actual ++ more) = true := by
  induction front with
  | nil => exact fun hback => h _ _ hback
  | cons entry front ih =>
    intro lenient actual hfit
    cases entry with
    | ellipsis =>
      rw [List.cons_append, parametersFitFrom] at hfit ⊢
      exact ih hfit
    | typed name type =>
      obtain ⟨skipped, a, rest, rfl, hstrict, hskipped, ha, hrest⟩ :=
        parametersFitFrom_typed_iff.1 hfit
      exact parametersFitFrom_typed_iff.2
        ⟨skipped, a, rest ++ more, by simp, hstrict, hskipped, ha, ih hrest⟩

/-- Actual parameters that fit still fit after an ellipsis is put anywhere among the entries; and
with an ellipsis at the end they fit together with any others behind them. -/
theorem parametersFit_with_ellipsis (accepts : Field → Field → α → Bool)
    (front back : List Parameter) (actual more : List α) :
    (parametersFit accepts (front ++ back) actual = true →
        parametersFit accepts (front ++ [.ellipsis] ++ back) actual = true) ∧
      (parametersFit accepts front actual = true →
        parametersFit accepts (front ++ [.ellipsis]) (actual ++ more) = true) := by
  constructor
  · intro h
    have hwide : ∀ (lenient : Bool) (rest : List α),
        parametersFitFrom accepts lenient back rest = true →
        parametersFitFrom accepts lenient (.ellipsis :: back) (rest ++ []) = true := by
      intro lenient rest hback
      rw [List.append_nil]
      exact parametersFitFrom_lenient hback
    rw [List.append_assoc, ← List.append_nil actual]
    exact parametersFitFrom_through hwide front h
  · intro h
    rw [← List.append_nil front] at h
    exact parametersFitFrom_through (fun _ _ _ => rfl) front h

end AnyEngine

/-- An exact list that fits leaves room for a gap inside it and for more behind it. -/
theorem parametersFit_with_ellipsis_inside :
    let entries := [ofType "int", ofType "char"]
    parametersFit typeAccepts entries ["int", "char"] = true ∧
      parametersFit typeAccepts [ofType "int", .ellipsis, ofType "char"] ["int", "char"] = true ∧
      parametersFit typeAccepts [ofType "int", ofType "char", .ellipsis]
        ["int", "char", "long", "int"] = true := by
  intro entries
  have hfit : parametersFit typeAccepts entries ["int", "char"] = true := by decide +kernel
  refine ⟨hfit, ?_, ?_⟩
  · exact (parametersFit_with_ellipsis typeAccepts [ofType "int"] [ofType "char"]
      ["int", "char"] []).1 hfit
  · exact (parametersFit_with_ellipsis typeAccepts entries [] ["int", "char"] ["long", "int"]).2
      hfit

end StructSearch.Matching
