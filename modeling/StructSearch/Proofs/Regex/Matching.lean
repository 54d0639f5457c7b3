import Mathlib.Tactic
import Mathlib.Data.Finset.Card
import StructSearch.Regex.Match

/-!
# What matching finds

An expression spans a stretch of a subject, from one place to another, by rules that follow its
form. The matcher never looks at single stretches: it sends lists of places to lists of places,
stops a counted repetition as soon as the list repeats itself, and goes on with an unbounded one
from new places only, for no more rounds than the subject has places. Here these lists are shown
to hold exactly the places that are spanned to.

Results:
* `Computes.power`: a step repeated, with a stop when nothing changes any more.
* `Searched.next`, `Searched.mem_closure_iff`: a search by rounds.
* `Expr.computes_advance`: the places that an expression reaches.
* `Expr.isMatch_iff`: an expression matches a subject if it spans a stretch of it.
-/

namespace StructSearch.Regex

/-! ## Spans -/

/-- `count` steps of a relation between places, one after the other. -/
def Repeats (relation : ℕ → ℕ → Prop) : ℕ → ℕ → ℕ → Prop
  | 0, i, j => i = j
  | count + 1, i, j => ∃ k, relation i k ∧ Repeats relation count k j

/-- An expression spans the characters of a subject from place `i` to place `j`. A repetition has
its least number of rounds, and then more, up to the greatest number if there is one. -/
def Expr.Spans (subject : Array Char) : Expr → ℕ → ℕ → Prop
  | empty, i, j => i = j
  | one set, i, j => (subject[i]?).any set.contains = true ∧ i + 1 = j
  | look anchor, i, j => anchor.holds subject i = true ∧ i = j
  | seq first second, i, j => ∃ k, first.Spans subject i k ∧ second.Spans subject k j
  | either left right, i, j => left.Spans subject i j ∨ right.Spans subject i j
  | times body least most _, i, j =>
    ∃ more, (∀ limit ∈ most, more ≤ limit - least) ∧
      Repeats (body.Spans subject) (least + more) i j
  | group _ body, i, j => body.Spans subject i j

/-! ## Repetitions -/

section Repeats

variable {relation : ℕ → ℕ → Prop} {size count more i j k : ℕ}

theorem repeats_add :
    Repeats relation (count + more) i j ↔
      ∃ k, Repeats relation count i k ∧ Repeats relation more k j := by
  induction count generalizing i with
  | zero => simp [Repeats]
  | succ count ih =>
    rw [Nat.add_right_comm]
    simp only [Repeats, ih]
    constructor
    · rintro ⟨k, hstep, l, hcount, hmore⟩
      exact ⟨l, ⟨k, hstep, hcount⟩, hmore⟩
    · rintro ⟨l, ⟨k, hstep, hcount⟩, hmore⟩
      exact ⟨k, hstep, l, hcount, hmore⟩

/-- What one step keeps, any number of steps keeps. -/
theorem Repeats.keeps {property : ℕ → Prop} (h : Repeats relation count i j)
    (hstep : ∀ {i j}, relation i j → property i → property j) (hi : property i) : property j := by
  induction count generalizing i with
  | zero =>
    obtain rfl : i = j := h
    exact hi
  | succ count ih =>
    obtain ⟨k, hfirst, hrest⟩ := h
    exact ih hrest (hstep hfirst hi)

/-- Among the places up to `size`, as many steps lead everywhere that any number of steps does. -/
theorem Repeats.shorten (h : Repeats relation count i j)
    (hbound : ∀ {i j}, relation i j → i ≤ size → j ≤ size) (hi : i ≤ size) :
    ∃ fewer ≤ count, fewer ≤ size ∧ Repeats relation fewer i j := by
  induction count using Nat.strong_induction_on with
  | _ count ih =>
    by_cases hcount : count ≤ size
    · exact ⟨count, le_refl count, hcount, h⟩
    -- There are more steps than places, so a place is met twice and the way between is left out.
    have hvia : ∀ n, ∃ k, n ≤ count →
        Repeats relation n i k ∧ Repeats relation (count - n) k j := by
      intro n
      by_cases hn : n ≤ count
      · rw [← Nat.add_sub_of_le hn, repeats_add] at h
        exact h.imp fun k hk _ => hk
      · exact ⟨i, fun hle => absurd hle hn⟩
    choose place hplace using hvia
    have hmaps : ∀ n ∈ Finset.range (count + 1), place n ∈ Finset.range (size + 1) := by
      intro n hn
      have hle : n ≤ count := by simpa [Nat.lt_succ_iff] using hn
      simpa [Nat.lt_succ_iff] using (hplace n hle).1.keeps hbound hi
    obtain ⟨a, ha, b, hb, hne, hsame⟩ := Finset.exists_ne_map_eq_of_card_lt_of_maps_to
      (by simpa using hcount) hmaps
    have hcut : ∀ a b, a < b → b ≤ count → place a = place b →
        ∃ fewer ≤ count, fewer ≤ size ∧ Repeats relation fewer i j := by
      intro a b hlt hle hsame
      have hshort : Repeats relation (a + (count - b)) i j :=
        repeats_add.2 ⟨place a, (hplace a (by omega)).1, hsame ▸ (hplace b hle).2⟩
      obtain ⟨fewer, hfewer, hsize, hrepeats⟩ := ih _ (by omega) hshort
      exact ⟨fewer, by omega, hsize, hrepeats⟩
    simp only [Finset.mem_range, Nat.lt_succ_iff] at ha hb
    obtain hlt | hlt := Nat.lt_or_gt_of_ne hne
    · exact hcut a b hlt hb hsame
    · exact hcut b a hlt ha hsame.symm

end Repeats

/-! ## Steps between lists of places -/

/-- A step sends a list of places of a subject of `size` characters to those that a relation leads
to. -/
structure Computes (size : ℕ) (relation : ℕ → ℕ → Prop) (step : List ℕ → List ℕ) : Prop where
  bounded : ∀ {i j : ℕ}, relation i j → i ≤ size → j ≤ size
  mem_iff : ∀ {places : List ℕ}, (∀ i ∈ places, i ≤ size) → ∀ {j : ℕ},
    j ∈ step places ↔ ∃ i ∈ places, relation i j

namespace Computes

variable {size : ℕ} {relation : ℕ → ℕ → Prop} {step : List ℕ → List ℕ} {places : List ℕ}

theorem le_of_mem (h : Computes size relation step) (hplaces : ∀ i ∈ places, i ≤ size) :
    ∀ j ∈ step places, j ≤ size := by
  intro j hj
  obtain ⟨i, hi, hstep⟩ := (h.mem_iff hplaces).1 hj
  exact h.bounded hstep (hplaces i hi)

/-- Places that a step leaves as they are stay so after any number of steps. -/
theorem repeats_of_fixed (h : Computes size relation step) (hplaces : ∀ i ∈ places, i ≤ size)
    (hfixed : step places = places) (count : ℕ) {j : ℕ} :
    j ∈ places ↔ ∃ i ∈ places, Repeats relation count i j := by
  induction count generalizing j with
  | zero => simp [Repeats]
  | succ count ih =>
    rw [ih]
    constructor
    · rintro ⟨k, hk, hrest⟩
      rw [← hfixed, h.mem_iff hplaces] at hk
      obtain ⟨i, hi, hstep⟩ := hk
      exact ⟨i, hi, k, hstep, hrest⟩
    · rintro ⟨i, hi, k, hstep, hrest⟩
      refine ⟨k, ?_, hrest⟩
      rw [← hfixed, h.mem_iff hplaces]
      exact ⟨i, hi, hstep⟩

theorem power (h : Computes size relation step) (count : ℕ) :
    Computes size (Repeats relation count) (power step count) where
  bounded hrepeats := hrepeats.keeps h.bounded
  mem_iff := by
    induction count with
    | zero => simp [Regex.power, Repeats]
    | succ count ih =>
      intro places hplaces j
      rw [Regex.power]
      split_ifs with hfixed
      · exact h.repeats_of_fixed hplaces hfixed (count + 1)
      · rw [ih (h.le_of_mem hplaces)]
        simp only [h.mem_iff hplaces, Repeats]
        constructor
        · rintro ⟨k, ⟨i, hi, hstep⟩, hrest⟩
          exact ⟨i, hi, k, hstep, hrest⟩
        · rintro ⟨i, hi, k, hstep, hrest⟩
          exact ⟨k, ⟨i, hi, hstep⟩, hrest⟩

end Computes

/-! ## Searches -/

/-- Of the places that a search has seen, only those of its frontier may lead to new ones. -/
structure Searched (size : ℕ) (relation : ℕ → ℕ → Prop) (seen frontier : List ℕ) : Prop where
  le : ∀ i ∈ seen, i ≤ size
  subset : frontier ⊆ seen
  closed : ∀ i ∈ seen, i ∈ frontier ∨ ∀ k, relation i k → k ∈ seen

/-- The places that a step leads to from the frontier and that were not seen before. -/
def fresh (step : List ℕ → List ℕ) (seen frontier : List ℕ) : List ℕ :=
  (step frontier).filter fun i => !seen.contains i

namespace Searched

variable {size : ℕ} {relation : ℕ → ℕ → Prop} {step : List ℕ → List ℕ} {seen frontier : List ℕ}

theorem start (h : ∀ i ∈ seen, i ≤ size) : Searched size relation seen seen :=
  ⟨h, List.Subset.refl _, fun _ hi => .inl hi⟩

theorem mem_fresh_iff (h : Searched size relation seen frontier)
    (hstep : Computes size relation step) {k : ℕ} :
    k ∈ fresh step seen frontier ↔ (∃ i ∈ frontier, relation i k) ∧ k ∉ seen := by
  rw [fresh, List.mem_filter, hstep.mem_iff fun i hi => h.le i (h.subset hi)]
  simp

/-- One step leads from what was seen to what was seen or is new. -/
theorem mem_merge_fresh (h : Searched size relation seen frontier)
    (hstep : Computes size relation step) {i k : ℕ} (hi : i ∈ seen) (hk : relation i k) :
    k ∈ merge seen (fresh step seen frontier) := by
  rw [mem_merge, h.mem_fresh_iff hstep]
  by_cases hseen : k ∈ seen
  · exact .inl hseen
  · obtain hfront | hin := h.closed i hi
    · exact .inr ⟨⟨i, hfront, hk⟩, hseen⟩
    · exact absurd (hin k hk) hseen

/-- A round of the search. -/
theorem next (h : Searched size relation seen frontier) (hstep : Computes size relation step) :
    Searched size relation (merge seen (fresh step seen frontier)) (fresh step seen frontier) where
  le i hi := by
    obtain hi | hi := mem_merge.1 hi
    · exact h.le i hi
    · obtain ⟨⟨first, hfirst, hlead⟩, -⟩ := (h.mem_fresh_iff hstep).1 hi
      exact hstep.bounded hlead (h.le first (h.subset hfirst))
  subset _ hi := mem_merge.2 (.inr hi)
  closed i hi := by
    obtain hi | hi := mem_merge.1 hi
    · exact .inr fun _ => h.mem_merge_fresh hstep hi
    · exact .inl hi

/-- The rounds of a search find what as many steps lead to. -/
theorem mem_closure_iff (h : Searched size relation seen frontier)
    (hstep : Computes size relation step) (rounds : ℕ) {j : ℕ} :
    j ∈ closure step rounds seen frontier ↔
      ∃ i ∈ seen, ∃ count ≤ rounds, Repeats relation count i j := by
  induction rounds generalizing seen frontier with
  | zero => simp [closure, Repeats]
  | succ rounds ih =>
    rw [closure]
    split_ifs with hempty
    · -- Nothing is new, so that no number of steps leaves what was seen.
      have hnone : fresh step seen frontier = [] := List.isEmpty_iff.1 hempty
      have hstays : ∀ {i k}, relation i k → i ∈ seen → k ∈ seen := by
        intro i k hk hi
        have hmem := h.mem_merge_fresh hstep hi hk
        rw [hnone, mem_merge] at hmem
        exact hmem.resolve_right List.not_mem_nil
      exact ⟨fun hj => ⟨j, hj, 0, Nat.zero_le _, rfl⟩,
        fun ⟨i, hi, count, _, hrepeats⟩ => hrepeats.keeps hstays hi⟩
    · refine (ih (h.next hstep)).trans ⟨?_, ?_⟩
      · rintro ⟨i, hi, count, hcount, hrepeats⟩
        obtain hi | hi := mem_merge.1 hi
        · exact ⟨i, hi, count, by omega, hrepeats⟩
        · obtain ⟨⟨first, hfirst, hlead⟩, -⟩ := (h.mem_fresh_iff hstep).1 hi
          exact ⟨first, h.subset hfirst, count + 1, by omega, i, hlead, hrepeats⟩
      · rintro ⟨i, hi, count, hcount, hrepeats⟩
        cases count with
        | zero => exact ⟨i, mem_merge.2 (.inl hi), 0, Nat.zero_le _, hrepeats⟩
        | succ count =>
          obtain ⟨k, hlead, hrest⟩ := hrepeats
          exact ⟨k, h.mem_merge_fresh hstep hi hlead, count, by omega, hrest⟩

end Searched

/-! ## Expressions -/

namespace Expr

variable (subject : Array Char)

/-- A repetition computes its least number of rounds and then as many more as it may have. -/
theorem computes_times {body : Expr} (h : Computes subject.size (body.Spans subject)
    (body.advance subject)) (least : ℕ) (most : Option ℕ) (isLazy : Bool) :
    Computes subject.size ((times body least most isLazy).Spans subject)
      ((times body least most isLazy).advance subject) where
  bounded := by
    rintro i j ⟨more, -, hrepeats⟩
    exact hrepeats.keeps h.bounded
  mem_iff := by
    intro places hplaces j
    have hstart := (h.power least).le_of_mem hplaces
    unfold advance
    rw [(Searched.start hstart).mem_closure_iff h]
    simp only [(h.power least).mem_iff hplaces]
    constructor
    · rintro ⟨k, ⟨i, hi, hleast⟩, more, hmore, hrepeats⟩
      refine ⟨i, hi, more, fun limit hlimit => ?_, repeats_add.2 ⟨k, hleast, hrepeats⟩⟩
      obtain rfl : most = some limit := hlimit
      exact le_trans hmore (min_le_left _ _)
    · rintro ⟨i, hi, more, hlimit, hrepeats⟩
      obtain ⟨k, hleast, hmore⟩ := repeats_add.1 hrepeats
      -- Beyond the number of places, more rounds reach nothing new.
      obtain ⟨fewer, hfewer, hsize, hfew⟩ :=
        hmore.shorten h.bounded (hleast.keeps h.bounded (hplaces i hi))
      refine ⟨k, ⟨i, hi, hleast⟩, fewer, ?_, hfew⟩
      cases most with
      | none => exact Nat.le_succ_of_le hsize
      | some limit =>
        have hle := hlimit limit rfl
        exact le_min (by omega) (by omega)

/-- The places that an expression reaches are those that it spans to. -/
theorem computes_advance (expr : Expr) :
    Computes subject.size (expr.Spans subject) (expr.advance subject) := by
  induction expr with
  | empty => exact ⟨fun h hi => h ▸ hi, fun _ => by simp [advance, Spans]⟩
  | one set =>
    refine ⟨?_, fun _ => ?_⟩
    · rintro i j ⟨hset, rfl⟩ -
      cases hchar : subject[i]? with
      | none => simp [hchar] at hset
      | some c => exact (Array.getElem?_eq_some_iff.1 hchar).1
    · simp only [advance, Spans, List.mem_filterMap, Option.ite_none_right_eq_some,
        Option.some.injEq, implies_true]
  | look anchor =>
    refine ⟨fun h hi => h.2 ▸ hi, fun _ j => ?_⟩
    simp only [advance, Spans, List.mem_filter]
    constructor
    · exact fun h => ⟨j, h.1, h.2, rfl⟩
    · rintro ⟨i, hi, hholds, rfl⟩
      exact ⟨hi, hholds⟩
  | seq first second ihfirst ihsecond =>
    refine ⟨fun ⟨k, hfirst, hsecond⟩ hi => ihsecond.bounded hsecond (ihfirst.bounded hfirst hi), ?_⟩
    intro places hplaces j
    rw [advance, ihsecond.mem_iff (ihfirst.le_of_mem hplaces)]
    simp only [ihfirst.mem_iff hplaces, Spans]
    constructor
    · rintro ⟨k, ⟨i, hi, hfirst⟩, hsecond⟩
      exact ⟨i, hi, k, hfirst, hsecond⟩
    · rintro ⟨i, hi, k, hfirst, hsecond⟩
      exact ⟨k, ⟨i, hi, hfirst⟩, hsecond⟩
  | either left right ihleft ihright =>
    refine ⟨fun h hi => h.elim (ihleft.bounded · hi) (ihright.bounded · hi), fun hplaces j => ?_⟩
    rw [advance, mem_merge, ihleft.mem_iff hplaces, ihright.mem_iff hplaces, ← exists_or]
    simp only [Spans, and_or_left]
  | times body least most isLazy ih => exact computes_times subject ih least most isLazy
  | group index body ih => exact ⟨ih.bounded, ih.mem_iff⟩

/-- An expression matches a subject if it spans a stretch of it. -/
theorem isMatch_iff {expr : Expr} {subject : String} :
    expr.isMatch subject = true ↔
      ∃ start ≤ subject.toList.length, ∃ stop, expr.Spans subject.toList.toArray start stop := by
  set chars := subject.toList.toArray with hchars
  have hplaces : ∀ i ∈ List.range (chars.size + 1), i ≤ chars.size := by
    intro i hi
    exact Nat.lt_succ_iff.1 (List.mem_range.1 hi)
  rw [isMatch, Bool.not_eq_true', List.isEmpty_eq_false_iff_exists_mem]
  simp only [← hchars, (computes_advance chars expr).mem_iff hplaces, List.mem_range,
    Nat.lt_succ_iff]
  rw [exists_comm]
  simp only [hchars, List.size_toArray, exists_and_left]

end Expr

end StructSearch.Regex
