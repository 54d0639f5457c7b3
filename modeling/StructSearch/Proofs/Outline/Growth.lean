import StructSearch.Outline.OfParseTree
import StructSearch.Proofs.Outline.Records

/-!
# How a draft grows

Whatever rules build, they change a draft by few kinds of steps: they add a node that suits its
parent, they declare a function together with its result, they turn a node into a template, and
they change what is visible at the current place. `Step` says once what each of them may do, and
every invariant of outlines is derived from it.

A run of steps belongs to a place: `parent` is the node below which it builds and `base` the number
of nodes before it. It adds nodes below `parent` and below its own nodes only, and it leaves the
records of all older nodes alone.

Results:
* `Steps.info?_eq`, `Steps.parent?_eq`, `Steps.children_eq`: older nodes stay as they are, but for
  the children of `parent`.
* `Steps.exists_parent`, `Steps.mem_ancestors`: new nodes stand below `parent`.
* `Grows`: a program makes steps only, with the rules by which programs are composed.
-/

namespace StructSearch

open Source Outline

/-- Declarations other than functions, parameters and template parameters. -/
def Kind.isPlainDeclaration : Kind → Bool
  | namespaceDecl | classDecl | structDecl | unionDecl | enumDecl | enumConstant | typedefDecl
  | aliasDecl | varDecl | fieldDecl => true
  | _ => false

/-- The record of a node that a template makes general. -/
def NodeInfo.generalized (isGeneral : Bool) (extent : Extent) (range : ByteRange)
    (info : NodeInfo) : NodeInfo :=
  { info with
    kind := if isGeneral then Rules.templateKind info.kind else info.kind
    extent, range }

/-- Which nodes may be added below a node with the record `above`, by their role. -/
inductive Joins (draft : Draft) (above : NodeInfo) : Role → NodeInfo → Prop
  | declaration {info : NodeInfo} (hkind : info.kind.isPlainDeclaration = true) :
      Joins draft above .member info
  /-- An expression, as an argument only of a call. A call has the type of the first function of
  its name so far, and a member has no type yet. -/
  | expression {info : NodeInfo} {role : Role} (hkind : info.kind.isExpression = true)
      (hdefinition : info.isDefinition = false)
      (hrole : role = .member ∨ role = .argument ∧ above.kind = .callExpr)
      (hcall : info.kind = .callExpr → info.type = info.result ∧
        info.result = (draft.resultOf? info.spelling).getD "")
      (hmember : info.kind = .memberRef → info.type = "") :
      Joins draft above role info
  | parameter {info : NodeInfo} (habove : above.kind.isFunctionDeclaration = true)
      (hkind : info.kind = .paramDecl) : Joins draft above .argument info
  | templateParameter {info : NodeInfo} (habove : Rules.templateKind above.kind = above.kind)
      (hkind : info.kind.isTemplateParameter = true) : Joins draft above .template info

/-- A step of a run below `parent` that began with `base` nodes. The range of a new node is within
that of its parent in the sense of `fits`. -/
inductive Step (fits : ByteRange → ByteRange → Prop) (base : ℕ) (parent : NodeId) :
    Draft → Draft → Prop
  | add {draft : Draft} {owner : NodeId} {above info : NodeInfo} {role : Role}
      (howner : owner = parent ∨ base ≤ owner) (habove : draft.outline.info? owner = some above)
      (hfits : fits info.range above.range) (hjoins : Joins draft above role info) :
      Step fits base parent draft (draft.withNode owner role info)
  | function {draft : Draft} {owner : NodeId} {above info : NodeInfo}
      (howner : owner = parent ∨ base ≤ owner) (habove : draft.outline.info? owner = some above)
      (hfits : fits info.range above.range) (hkind : info.kind.isFunctionDeclaration = true) :
      Step fits base parent draft
        ((draft.withNode owner .member info).withResult info.spelling info.result)
  | generalize {draft : Draft} {id owner : NodeId} {above info : NodeInfo} {isGeneral : Bool}
      {extent : Extent} {range : ByteRange} (hid : base ≤ id)
      (hinfo : draft.outline.info? id = some info) (hparent : draft.outline.parent? id = some owner)
      (habove : draft.outline.info? owner = some above) (hgrown : fits info.range range)
      (hfits : fits range above.range) :
      Step fits base parent draft { draft with
        outline := draft.outline.modifyInfo id (NodeInfo.generalized isGeneral extent range) }
  | context {draft : Draft} (bindings : List Binding) (frames : List Frame)
      (classes : List String) :
      Step fits base parent draft { draft with bindings, frames, classes }

/-- A run of steps. -/
def Steps (fits : ByteRange → ByteRange → Prop) (base : ℕ) (parent : NodeId) :
    Draft → Draft → Prop :=
  Relation.ReflTransGen (Step fits base parent)

/-! ## What a step does to nodes -/

namespace Draft

@[simp] theorem withNode_outline (draft : Draft) (parent : NodeId) (role : Role)
    (info : NodeInfo) :
    (draft.withNode parent role info).outline = draft.outline.add parent info role := rfl

@[simp] theorem withResult_outline (draft : Draft) (name result : String) :
    (draft.withResult name result).outline = draft.outline := by
  unfold withResult
  split_ifs <;> rfl

@[simp] theorem withBinding_outline (draft : Draft) (name type : String) :
    (draft.withBinding name type).outline = draft.outline := by
  unfold withBinding
  split_ifs <;> rfl

@[simp] theorem withClass_outline (draft : Draft) (name : String) :
    (draft.withClass name).outline = draft.outline := by
  unfold withClass
  split_ifs <;> rfl

@[simp] theorem withAccess_outline (draft : Draft) (access : Access) :
    (draft.withAccess access).outline = draft.outline := by
  unfold withAccess
  split <;> rfl

theorem withResult_withBinding (draft : Draft) (name type name' result : String) :
    (draft.withBinding name type).withResult name' result =
      (draft.withResult name' result).withBinding name type := by
  unfold withBinding withResult resultOf?
  split_ifs <;> simp_all

end Draft

variable {fits : ByteRange → ByteRange → Prop} {base : ℕ} {parent : NodeId}
  {draft before middle after : Draft}

theorem Step.withBinding (draft : Draft) (name type : String) :
    Step fits base parent draft (draft.withBinding name type) := by
  unfold Draft.withBinding
  split_ifs
  · exact .context draft.bindings draft.frames draft.classes
  · exact .context (⟨name, type⟩ :: draft.bindings) draft.frames draft.classes

theorem Step.withClass (draft : Draft) (name : String) :
    Step fits base parent draft (draft.withClass name) := by
  unfold Draft.withClass
  split_ifs
  · exact .context draft.bindings draft.frames draft.classes
  · exact .context draft.bindings draft.frames (name :: draft.classes)

theorem Step.withAccess (draft : Draft) (access : Access) :
    Step fits base parent draft (draft.withAccess access) := by
  unfold Draft.withAccess
  split
  · exact .context draft.bindings _ draft.classes
  · exact .context draft.bindings draft.frames draft.classes

theorem Step.size_le (h : Step fits base parent before after) :
    before.outline.size ≤ after.outline.size := by
  cases h with
  | add => simp
  | function => simp
  | generalize => simp
  | context => exact le_rfl

theorem Step.info?_eq (h : Step fits base parent before after)
    (hbase : base ≤ before.outline.size) {id : NodeId} (hid : id < base) :
    after.outline.info? id = before.outline.info? id := by
  have hlt : id < before.outline.size := lt_of_lt_of_le hid hbase
  cases h with
  | add => exact info?_add_of_lt _ _ _ _ _ hlt
  | function =>
    rw [Draft.withResult_outline]
    exact info?_add_of_lt _ _ _ _ _ hlt
  | generalize hnew => rw [info?_modifyInfo, if_neg (by lia)]
  | context => rfl

theorem Step.parent?_eq (h : Step fits base parent before after) {id : NodeId}
    (hid : id < before.outline.size) :
    after.outline.parent? id = before.outline.parent? id := by
  cases h with
  | add => rw [Draft.withNode_outline, parent?_add, if_neg (Nat.ne_of_lt hid)]
  | function =>
    rw [Draft.withResult_outline, Draft.withNode_outline, parent?_add,
      if_neg (Nat.ne_of_lt hid)]
  | generalize => exact parent?_modifyInfo _ _ _ _
  | context => rfl

/-- A step adds children to `parent` and to new nodes only. -/
theorem Step.children_eq (h : Step fits base parent before after) {id : NodeId} (hid : id < base)
    (hne : id ≠ parent) : after.outline.children id = before.outline.children id := by
  cases h with
  | add howner => rw [Draft.withNode_outline, children_add, if_neg (by lia)]
  | function howner =>
    rw [Draft.withResult_outline, Draft.withNode_outline, children_add, if_neg (by lia)]
  | generalize => exact children_modifyInfo _ _ _ _
  | context => rfl

theorem Step.exists_parent (h : Step fits base parent before after)
    (hnew : ∀ id, base ≤ id → id < before.outline.size →
      ∃ owner, before.outline.parent? id = some owner ∧ (owner = parent ∨ base ≤ owner))
    {id : NodeId} (hid : base ≤ id) (hlt : id < after.outline.size) :
    ∃ owner, after.outline.parent? id = some owner ∧ (owner = parent ∨ base ≤ owner) := by
  by_cases hold : id < before.outline.size
  · rw [h.parent?_eq hold]
    exact hnew id hid hold
  · cases h with
    | add howner habove =>
      rw [Draft.withNode_outline, size_add] at hlt
      rw [Draft.withNode_outline, parent?_add, if_pos (by lia),
        if_pos (lt_size_of_info?_eq habove)]
      exact ⟨_, rfl, howner⟩
    | function howner habove =>
      rw [Draft.withResult_outline, Draft.withNode_outline, size_add] at hlt
      rw [Draft.withResult_outline, Draft.withNode_outline, parent?_add, if_pos (by lia),
        if_pos (lt_size_of_info?_eq habove)]
      exact ⟨_, rfl, howner⟩
    | generalize =>
      rw [size_modifyInfo] at hlt
      exact absurd hlt hold
    | context => exact absurd hlt hold

theorem Step.linked (h : Step fits base parent before after) (hl : before.outline.Linked) :
    after.outline.Linked := by
  cases h with
  | add => exact hl.add _ _ _
  | function =>
    rw [Draft.withResult_outline]
    exact hl.add _ _ _
  | generalize => exact hl.modifyInfo _ _
  | context => exact hl

/-! ## Runs -/

theorem Steps.size_le (h : Steps fits base parent before after) :
    before.outline.size ≤ after.outline.size := by
  induction h with
  | refl => exact le_rfl
  | tail _ hstep ih => exact le_trans ih hstep.size_le

theorem Steps.linked (h : Steps fits base parent before after) (hl : before.outline.Linked) :
    after.outline.Linked := by
  induction h with
  | refl => exact hl
  | tail _ hstep ih => exact hstep.linked ih

/-- A run leaves the records of the nodes before it alone. -/
theorem Steps.info?_eq (h : Steps fits base parent before after)
    (hbase : base ≤ before.outline.size) {id : NodeId} (hid : id < base) :
    after.outline.info? id = before.outline.info? id := by
  induction h with
  | refl => rfl
  | tail hsteps hstep ih => rw [hstep.info?_eq (le_trans hbase (Steps.size_le hsteps)) hid, ih]

theorem Steps.parent?_eq (h : Steps fits base parent before after) {id : NodeId}
    (hid : id < before.outline.size) :
    after.outline.parent? id = before.outline.parent? id := by
  induction h with
  | refl => rfl
  | tail hsteps hstep ih =>
    rw [hstep.parent?_eq (lt_of_lt_of_le hid (Steps.size_le hsteps)), ih]

theorem Steps.children_eq (h : Steps fits base parent before after) {id : NodeId} (hid : id < base)
    (hne : id ≠ parent) : after.outline.children id = before.outline.children id := by
  induction h with
  | refl => rfl
  | tail _ hstep ih => rw [hstep.children_eq hid hne, ih]

/-- The nodes that a run adds stand below `parent` or below each other. -/
theorem Steps.exists_parent (h : Steps fits before.outline.size parent before after) {id : NodeId}
    (hid : before.outline.size ≤ id) (hlt : id < after.outline.size) :
    ∃ owner, after.outline.parent? id = some owner ∧
      (owner = parent ∨ before.outline.size ≤ owner) := by
  induction h generalizing id with
  | refl => lia
  | tail _ hstep ih => exact hstep.exists_parent (fun _ => ih) hid hlt

theorem Steps.mem_ancestors (h : Steps fits before.outline.size parent before after)
    (hl : before.outline.Linked) {id : NodeId} (hid : before.outline.size ≤ id)
    (hlt : id < after.outline.size) : parent ∈ after.outline.ancestors id := by
  have hlinked := h.linked hl
  induction id using Nat.strong_induction_on with
  | _ id ih =>
    obtain ⟨owner, howner, hplace⟩ := h.exists_parent hid hlt
    have hbelow := hlinked.parent_lt howner
    refine hlinked.mem_ancestors_iff.2 ⟨owner, howner, ?_⟩
    rcases hplace with hsame | hnew
    · exact Or.inl hsame.symm
    · exact Or.inr (ih owner hbelow hnew (lt_trans hbelow hlt))

/-- A run below a new node is part of the run around it. -/
theorem Steps.widen {base' : ℕ} {parent' : NodeId} (h : Steps fits base' parent' before after)
    (hbase : base ≤ base') (hparent : parent' = parent ∨ base ≤ parent') :
    Steps fits base parent before after := by
  -- The owners that the inner run may use are owners that the outer run may use.
  have howner : ∀ {owner : NodeId}, owner = parent' ∨ base' ≤ owner →
      owner = parent ∨ base ≤ owner := by lia
  refine Relation.ReflTransGen.mono ?_ _ _ h
  intro _ _ hstep
  cases hstep with
  | add h1 h2 h3 h4 => exact .add (howner h1) h2 h3 h4
  | function h1 h2 h3 h4 => exact .function (howner h1) h2 h3 h4
  | generalize h1 h2 h3 h4 h5 h6 => exact .generalize (le_trans hbase h1) h2 h3 h4 h5 h6
  | context bindings frames classes => exact .context bindings frames classes

/-! ## Programs that make steps -/

/-- From a draft, a program makes steps only and ends as `post` says. -/
def Grows {α : Type} (fits : ByteRange → ByteRange → Prop) (base : ℕ) (parent : NodeId)
    (draft : Draft) (program : Build α) (post : α → Draft → Prop) : Prop :=
  Steps fits base parent draft (program.run draft).2 ∧
    post (program.run draft).1 (program.run draft).2

namespace Grows

variable {α β : Type} {program : Build α} {next : α → Build β} {post : α → Draft → Prop}
  {post' : β → Draft → Prop}

theorem pure {value : α} (h : post value draft) :
    Grows fits base parent draft (Pure.pure value) post :=
  ⟨.refl, h⟩

theorem bind (h : Grows fits base parent draft program post)
    (hnext : ∀ value after, Steps fits base parent draft after → post value after →
      Grows fits base parent after (next value) post') :
    Grows fits base parent draft (program >>= next) post' := by
  obtain ⟨hsteps, hpost⟩ := h
  obtain ⟨hsteps', hpost'⟩ := hnext _ _ hsteps hpost
  exact ⟨hsteps.trans hsteps', hpost'⟩

theorem imp {post'' : α → Draft → Prop} (h : Grows fits base parent draft program post)
    (hpost : ∀ value after, Steps fits base parent draft after → post value after →
      post'' value after) :
    Grows fits base parent draft program post'' :=
  ⟨h.1, hpost _ _ h.1 h.2⟩

theorem widen {base' : ℕ} {parent' : NodeId} (h : Grows fits base' parent' draft program post)
    (hbase : base ≤ base') (hparent : parent' = parent ∨ base ≤ parent') :
    Grows fits base parent draft program post :=
  ⟨h.1.widen hbase hparent, h.2⟩

/-- A part of a program that runs below a node of its own. -/
theorem bind_below {id : NodeId} (hid : id = parent ∨ base ≤ id)
    (hbase : base ≤ draft.outline.size)
    (h : Grows fits draft.outline.size id draft program post)
    (hnext : ∀ value after, Steps fits draft.outline.size id draft after → post value after →
      Grows fits base parent after (next value) post') :
    Grows fits base parent draft (program >>= next) post' := by
  obtain ⟨hsteps, hpost⟩ := h
  obtain ⟨hsteps', hpost'⟩ := hnext _ _ hsteps hpost
  exact ⟨(hsteps.widen hbase hid).trans hsteps', hpost'⟩

theorem get {next : Draft → Build β} (h : Grows fits base parent draft (next draft) post') :
    Grows fits base parent draft (MonadState.get >>= next) post' :=
  h

/-- A node is added; what follows may use its number and its record. -/
theorem push {owner : NodeId} {above info : NodeInfo} {role : Role} {next : NodeId → Build β}
    (howner : owner = parent ∨ base ≤ owner) (habove : draft.outline.info? owner = some above)
    (hfits : fits info.range above.range) (hjoins : Joins draft above role info)
    (h : ∀ start : Draft, start.outline = draft.outline.add owner info role →
      Grows fits base parent start (next draft.outline.size) post') :
    Grows fits base parent draft (Build.push owner role info >>= next) post' := by
  have hrun := h (draft.withNode owner role info) rfl
  exact ⟨.head (.add howner habove hfits hjoins) hrun.1, hrun.2⟩

theorem declare {name type : String} {next : Unit → Build β}
    (h : ∀ start : Draft, start.outline = draft.outline →
      Grows fits base parent start (next ()) post') :
    Grows fits base parent draft (Build.declare name type >>= next) post' := by
  have hrun := h (draft.withBinding name type) (draft.withBinding_outline name type)
  exact ⟨.head (.withBinding draft name type) hrun.1, hrun.2⟩

theorem defineClass {name : String} {next : PUnit → Build β}
    (h : ∀ start : Draft, start.outline = draft.outline →
      Grows fits base parent start (next ⟨⟩) post') :
    Grows fits base parent draft (modify (·.withClass name) >>= next) post' := by
  have hrun := h (draft.withClass name) (draft.withClass_outline name)
  exact ⟨.head (.withClass draft name) hrun.1, hrun.2⟩

/-- A function is added, made visible and remembered with its result. -/
theorem pushFunction {owner : NodeId} {above info : NodeInfo} {next : NodeId → Build β}
    (howner : owner = parent ∨ base ≤ owner) (habove : draft.outline.info? owner = some above)
    (hfits : fits info.range above.range) (hkind : info.kind.isFunctionDeclaration = true)
    (h : ∀ start : Draft, start.outline = draft.outline.add owner info .member →
      Grows fits base parent start (next draft.outline.size) post') :
    Grows fits base parent draft (do
      let id ← Build.push owner .member info
      Build.declare info.spelling info.type
      modify (·.withResult info.spelling info.result)
      next id) post' := by
  have hrun := h (((draft.withNode owner .member info).withBinding info.spelling info.type)
    |>.withResult info.spelling info.result) (by simp)
  have hsteps : Steps fits base parent draft
      (((draft.withNode owner .member info).withBinding info.spelling info.type)
        |>.withResult info.spelling info.result) := by
    rw [Draft.withResult_withBinding]
    exact .tail (.single (.function howner habove hfits hkind)) (.withBinding _ _ _)
  exact ⟨hsteps.trans hrun.1, hrun.2⟩

/-- A node becomes a template. -/
theorem generalize {id owner : NodeId} {above info : NodeInfo} {isGeneral : Bool}
    {extent : Extent} {range : ByteRange} {next : PUnit → Build β} (hid : base ≤ id)
    (hinfo : draft.outline.info? id = some info) (hparent : draft.outline.parent? id = some owner)
    (habove : draft.outline.info? owner = some above) (hgrown : fits info.range range)
    (hfits : fits range above.range)
    (h : ∀ start : Draft,
      start.outline = draft.outline.modifyInfo id (.generalized isGeneral extent range) →
      Grows fits base parent start (next ⟨⟩) post') :
    Grows fits base parent draft (modify (fun draft => { draft with
      outline := draft.outline.modifyInfo id (.generalized isGeneral extent range) }) >>= next)
      post' := by
  have hrun := h { draft with
    outline := draft.outline.modifyInfo id (.generalized isGeneral extent range) } rfl
  exact ⟨.head (.generalize hid hinfo hparent habove hgrown hfits) hrun.1, hrun.2⟩

theorem inBlock {program : Build Unit}
    (h : Grows fits base parent draft program fun _ _ => True) :
    Grows fits base parent draft (Build.inBlock program) fun _ _ => True :=
  ⟨.tail h.1 (.context _ _ _), trivial⟩

theorem inside {program : Build Unit} {frame : Frame}
    (h : ∀ start : Draft, start.outline = draft.outline →
      Grows fits base parent start program fun _ _ => True) :
    Grows fits base parent draft (Build.inside frame program) fun _ _ => True := by
  have hrun := h { draft with frames := frame :: draft.frames } rfl
  exact ⟨.head (.context _ _ _) (.tail hrun.1 (.context _ _ _)), trivial⟩

end Grows

end StructSearch
