import Mathlib.Algebra.Order.Group.Multiset
import StructSearch.Proofs.Outline.Growth

/-!
# Budgets of calls

The calls of an outline are counted by their ranges. A program has a budget: the calls that it may
add. Budgets of programs that run one after the other add up, so a rule that builds each tree inside
its construct once stays within the calls of the construct.

Templates change the range of a node after it was built. They leave calls alone as long as the node
is a declaration, which is why programs also say that their main node is no call.

Results:
* `callRanges_add`, `Rewrites.callRanges`: what a step does to the calls.
* `Spends`: a program stays within a budget, with the rules by which programs are composed.
-/

namespace StructSearch

open Source ParseTree Outline

namespace Outline

/-! ## The calls of an outline -/

/-- The range of a node that is a call. -/
def callRange? (outline : Outline) (id : NodeId) : Option ByteRange :=
  (outline.info? id).bind fun info => if info.kind = .callExpr then some info.range else none

/-- The ranges of the calls of an outline, from old to new. -/
def callRanges (outline : Outline) : List ByteRange :=
  (List.range outline.size).filterMap outline.callRange?

/-- The ranges of the calls of an outline, counted. -/
def calls (outline : Outline) : Multiset ByteRange := outline.callRanges

/-- A node that is no call. -/
structure IsNoCall (outline : Outline) (id : NodeId) : Prop where
  lt_size : id < outline.size
  hasKind_eq : outline.hasKind (· == .callExpr) id = false

theorem callRanges_add (outline : Outline) (parent : NodeId) (info : NodeInfo) (role : Role) :
    (outline.add parent info role).callRanges =
      outline.callRanges ++ if info.kind = .callExpr then [info.range] else [] := by
  refine (outline.gather_add parent info role _).trans ?_
  by_cases hcall : info.kind = .callExpr
  · rw [if_pos hcall, if_pos hcall]
    rfl
  · rw [if_neg hcall, if_neg hcall]
    rfl

/-- Records may change as long as calls stay calls, with their ranges. -/
theorem Rewrites.callRanges {f : NodeId → NodeInfo → NodeInfo} {before after : Outline}
    (h : Rewrites f before after)
    (hkind : ∀ id info, ((f id info).kind == .callExpr) = (info.kind == .callExpr))
    (hrange : ∀ id info, before.info? id = some info → info.kind = .callExpr →
      (f id info).range = info.range) :
    after.callRanges = before.callRanges := by
  refine h.gather fun id info hinfo => ?_
  have hsame : (f id info).kind = .callExpr ↔ info.kind = .callExpr := by
    rw [← beq_iff_eq, hkind, beq_iff_eq]
  by_cases hcall : info.kind = .callExpr
  · rw [if_pos (hsame.2 hcall), if_pos hcall, hrange id info hinfo hcall]
  · rw [if_neg (mt hsame.1 hcall), if_neg hcall]

/-! ## Budgets -/

/-- An outline grew, adding at most the calls of a budget. -/
structure Spending (budget : Multiset ByteRange) (before after : Outline) : Prop where
  size_le : before.size ≤ after.size
  calls_le : after.calls ≤ before.calls + budget
  hasKind_eq : ∀ id < before.size,
    after.hasKind (· == .callExpr) id = before.hasKind (· == .callExpr) id

variable {budget more : Multiset ByteRange} {before middle after : Outline}

theorem Spending.refl (outline : Outline) : Spending 0 outline outline where
  size_le := le_rfl
  calls_le := le_self_add
  hasKind_eq _ _ := rfl

theorem Spending.mono (h : Spending budget before after) (hle : budget ≤ more) :
    Spending more before after :=
  ⟨h.size_le, h.calls_le.trans (add_le_add_right hle _), h.hasKind_eq⟩

theorem Spending.trans (h : Spending budget before middle) (h' : Spending more middle after) :
    Spending (budget + more) before after where
  size_le := h.size_le.trans h'.size_le
  calls_le := by
    rw [← add_assoc]
    exact h'.calls_le.trans (add_le_add_left h.calls_le _)
  hasKind_eq id hid := by
    rw [h'.hasKind_eq id (lt_of_lt_of_le hid h.size_le), h.hasKind_eq id hid]

theorem IsNoCall.keeps {id : NodeId} (h : before.IsNoCall id)
    (hspending : Spending budget before after) : after.IsNoCall id :=
  ⟨lt_of_lt_of_le h.lt_size hspending.size_le, by
    rw [hspending.hasKind_eq id h.lt_size, h.hasKind_eq]⟩

theorem spending_add (outline : Outline) (parent : NodeId) (info : NodeInfo) (role : Role) :
    Spending (if info.kind = .callExpr then {info.range} else 0) outline
      (outline.add parent info role) where
  size_le := by simp
  calls_le := by
    unfold calls
    rw [callRanges_add, ← Multiset.coe_add]
    split_ifs <;> exact le_rfl
  hasKind_eq id hid := hasKind_add_of_lt _ _ _ _ _ _ hid

theorem isNoCall_add {outline : Outline} {info : NodeInfo} (hkind : info.kind ≠ .callExpr)
    (parent : NodeId) (role : Role) :
    (outline.add parent info role).IsNoCall outline.size where
  lt_size := by simp
  hasKind_eq := by
    rw [hasKind_add, if_pos rfl]
    simpa using hkind

/-- A node that is no call becomes a template. -/
theorem spending_generalized {outline : Outline} {id : NodeId} (h : outline.IsNoCall id)
    (isGeneral : Bool) (extent : Extent) (range : ByteRange) :
    Spending 0 outline (outline.modifyInfo id (.generalized isGeneral extent range)) := by
  have hf := rewrites_modifyInfo outline id (.generalized isGeneral extent range)
  have hkind : ∀ other info, ((if id = other then
      NodeInfo.generalized isGeneral extent range info else info).kind == .callExpr) =
        (info.kind == .callExpr) := by
    intro other info
    have htemplate : (Rules.templateKind info.kind == .callExpr) = (info.kind == .callExpr) := by
      cases info.kind <;> rfl
    unfold NodeInfo.generalized
    split_ifs
    · exact htemplate
    · rfl
    · rfl
  refine ⟨by simp, ?_, fun other _ => hf.hasKind hkind other⟩
  unfold calls
  rw [hf.callRanges hkind, add_zero]
  intro other info hinfo hcall
  have hne : id ≠ other := by
    rintro rfl
    have hsame := h.hasKind_eq
    rw [hasKind_of_info? hinfo, hcall] at hsame
    cases hsame
  rw [if_neg hne]

end Outline

/-! ## Programs within a budget -/

/-- From a draft, a program adds at most the calls of a budget and ends as `post` says. -/
def Spends {α : Type} (budget : Multiset ByteRange) (draft : Draft) (program : Build α)
    (post : α → Outline → Prop) : Prop :=
  Spending budget draft.outline (program.run draft).2.outline ∧
    post (program.run draft).1 (program.run draft).2.outline

namespace Spends

variable {α β : Type} {budget more : Multiset ByteRange} {draft : Draft} {program : Build α}
  {next : α → Build β} {post : α → Outline → Prop} {post' : β → Outline → Prop}

theorem pure {value : α} (h : post value draft.outline) :
    Spends 0 draft (Pure.pure value) post :=
  ⟨.refl _, h⟩

theorem mono (h : Spends budget draft program post) (hle : budget ≤ more) :
    Spends more draft program post :=
  ⟨h.1.mono hle, h.2⟩

theorem bind (h : Spends budget draft program post)
    (hnext : ∀ value after, Spending budget draft.outline after.outline →
      post value after.outline → Spends more after (next value) post') :
    Spends (budget + more) draft (program >>= next) post' := by
  obtain ⟨hspending, hpost⟩ := h
  obtain ⟨hspending', hpost'⟩ := hnext _ _ hspending hpost
  exact ⟨hspending.trans hspending', hpost'⟩

/-- The last program that adds calls. -/
theorem last (h : Spends budget draft program post)
    (hnext : ∀ value after, Spending budget draft.outline after.outline →
      post value after.outline → Spends 0 after (next value) post') :
    Spends budget draft (program >>= next) post' := by
  have hall := h.bind hnext
  rwa [add_zero] at hall

/-- A program that adds no call. -/
theorem free (h : Spends 0 draft program post)
    (hnext : ∀ value after, Spending 0 draft.outline after.outline →
      post value after.outline → Spends budget after (next value) post') :
    Spends budget draft (program >>= next) post' := by
  have hall := h.bind hnext
  rwa [zero_add] at hall

/-- A program that leaves the outline alone. -/
theorem silent (hsame : (program.run draft).2.outline = draft.outline)
    (hnext : ∀ value after, after.outline = draft.outline →
      Spends budget after (next value) post') :
    Spends budget draft (program >>= next) post' := by
  have hrun := hnext (program.run draft).1 (program.run draft).2 hsame
  unfold Spends at hrun
  rw [hsame] at hrun
  exact hrun

theorem get {next : Draft → Build β} (h : Spends budget draft (next draft) post') :
    Spends budget draft (MonadState.get >>= next) post' :=
  h

theorem push {parent : NodeId} {role : Role} {info : NodeInfo} {next : NodeId → Build β}
    (hkind : info.kind ≠ .callExpr)
    (hnext : ∀ after : Draft, Spending 0 draft.outline after.outline →
      after.outline.IsNoCall draft.outline.size →
      Spends budget after (next draft.outline.size) post') :
    Spends budget draft (Build.push parent role info >>= next) post' := by
  have hadded := spending_add draft.outline parent info role
  rw [if_neg hkind] at hadded
  have hrun := hnext (draft.withNode parent role info) hadded (isNoCall_add hkind parent role)
  refine ⟨?_, hrun.2⟩
  have hall := hadded.trans hrun.1
  rwa [zero_add] at hall

theorem pushCall {parent : NodeId} {role : Role} {info : NodeInfo} {next : NodeId → Build β}
    (hnext : ∀ after : Draft, Spends budget after (next draft.outline.size) post') :
    Spends ({info.range} + budget) draft (Build.push parent role info >>= next) post' := by
  have hadded := (spending_add draft.outline parent info role).mono
    (show _ ≤ ({info.range} : Multiset ByteRange) by split_ifs <;> simp)
  have hrun := hnext (draft.withNode parent role info)
  exact ⟨hadded.trans hrun.1, hrun.2⟩

theorem inBlock {program : Build Unit} (h : Spends budget draft program fun _ _ => True) :
    Spends budget draft (Build.inBlock program) fun _ _ => True :=
  h

theorem inside {program : Build Unit} {frame : Frame}
    (h : ∀ start : Draft, Spends budget start program fun _ _ => True) :
    Spends budget draft (Build.inside frame program) fun _ _ => True :=
  h { draft with frames := frame :: draft.frames }

end Spends

end StructSearch
