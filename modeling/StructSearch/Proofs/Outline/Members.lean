import StructSearch.Proofs.Outline.Labels

/-!
# Members of classes and the frames around them

While an outline is built, the top frame says in which class members stand and with which access.
Labels change the access of the top frame, and the body of a class or of a function is built under
a frame of its own. `Orderly` says what a run of building below a node does with the frames and
with the access of the members that it adds. It is closed under everything that programs are
composed of, so each rule is followed through only once.

A run is calm if it meets no label at its own place. Then it leaves the frames alone, and the
members that it adds directly below its node have the access of the top frame.

Results:
* `Extends`: what no later step changes about a node.
* `FollowsLabels`: the access of the members of a class as the labels in its body say.
* `Orderly.trans`, `Orderly.below`: runs after each other, and runs below a new node.
* `Orderly.addNode`, `Orderly.label`, `Orderly.inFunction`, `Orderly.inClass`: the single steps.
* `Keeps`: a program is orderly, with the rules by which programs are composed.
-/

namespace StructSearch

open Source ParseTree Outline

/-! ## What stays of a node -/

/-- Classes, structures, unions and their templates. -/
def Kind.isRecord : Kind → Bool
  | classDecl | structDecl | unionDecl | classTemplate => true
  | _ => false

/-- The declarations that have an access as members of a class: types, names for types, functions,
variables and data members. -/
def Kind.isMember : Kind → Bool
  | classDecl | structDecl | unionDecl | classTemplate | enumDecl | typedefDecl | aliasDecl
  | functionDecl | functionTemplate | method | ctor | dtor | varDecl | fieldDecl => true
  | _ => false

theorem Rules.isRecord_templateKind (kind : Kind) :
    (Rules.templateKind kind).isRecord = kind.isRecord := by
  cases kind <;> rfl

theorem Rules.isMember_templateKind (kind : Kind) :
    (Rules.templateKind kind).isMember = kind.isMember := by
  cases kind <;> rfl

/-- The part of a record that no later step changes. -/
structure Lasting where
  spelling : String
  access : Access
  isDefinition : Bool
  isMember : Bool
  isRecord : Bool
  deriving DecidableEq

/-- The lasting part of a record. -/
def NodeInfo.lasting (info : NodeInfo) : Lasting :=
  ⟨info.spelling, info.access, info.isDefinition, info.kind.isMember, info.kind.isRecord⟩

theorem NodeInfo.lasting_generalized (isGeneral : Bool) (extent : Extent) (range : ByteRange)
    (info : NodeInfo) : (info.generalized isGeneral extent range).lasting = info.lasting := by
  unfold NodeInfo.generalized NodeInfo.lasting
  cases isGeneral
  · rfl
  · simp only [if_true, Rules.isRecord_templateKind, Rules.isMember_templateKind]

namespace Outline

/-- The lasting part of the record of a node. -/
def lasting? (outline : Outline) (id : NodeId) : Option Lasting :=
  (outline.info? id).map (·.lasting)

/-- Whether a node is a class with a body. -/
def isClassDefinition (outline : Outline) (id : NodeId) : Bool :=
  (outline.lasting? id).any fun node => node.isRecord && node.isDefinition

/-- The access of a node as a member of another one. -/
def memberAccess? (outline : Outline) (owner child : NodeId) : Option Access :=
  if outline.parent? child = some owner then
    (outline.lasting? child).bind fun node => if node.isMember then some node.access else none
  else none

/-- Every extent is that of the node's range. -/
def Placed (source : List Char) (outline : Outline) : Prop :=
  ∀ id info, outline.info? id = some info → info.extent = extentOf source info.range

/-- The nodes of the first outline are nodes of the second one. -/
structure Extends (before after : Outline) : Prop where
  size_le : before.size ≤ after.size
  parent_eq : ∀ id < before.size, after.parent? id = before.parent? id
  lasting_eq : ∀ id < before.size, after.lasting? id = before.lasting? id

variable {before middle after outline : Outline} {id owner child : NodeId} {access : Access}

theorem Extends.refl (outline : Outline) : outline.Extends outline :=
  ⟨le_rfl, fun _ _ => rfl, fun _ _ => rfl⟩

theorem Extends.trans (h : before.Extends middle) (h' : middle.Extends after) :
    before.Extends after := by
  refine ⟨le_trans h.size_le h'.size_le, fun id hid => ?_, fun id hid => ?_⟩
  · rw [h'.parent_eq id (lt_of_lt_of_le hid h.size_le), h.parent_eq id hid]
  · rw [h'.lasting_eq id (lt_of_lt_of_le hid h.size_le), h.lasting_eq id hid]

theorem Extends.memberAccess?_eq (h : before.Extends after) (hchild : child < before.size) :
    after.memberAccess? owner child = before.memberAccess? owner child := by
  unfold memberAccess?
  rw [h.parent_eq child hchild, h.lasting_eq child hchild]

theorem Extends.isClassDefinition_eq (h : before.Extends after) (hid : id < before.size) :
    after.isClassDefinition id = before.isClassDefinition id := by
  unfold isClassDefinition
  rw [h.lasting_eq id hid]

theorem lt_size_of_isClassDefinition (h : outline.isClassDefinition id = true) :
    id < outline.size := by
  by_contra hge
  rw [isClassDefinition, lasting?, info?, slot?_eq_none (Nat.le_of_not_lt hge)] at h
  cases h

theorem parent?_of_memberAccess? (h : outline.memberAccess? owner child = some access) :
    outline.parent? child = some owner := by
  unfold memberAccess? at h
  split_ifs at h with hparent
  exact hparent

theorem lt_size_of_memberAccess? (h : outline.memberAccess? owner child = some access) :
    child < outline.size :=
  lt_size_of_parent?_eq (parent?_of_memberAccess? h)

theorem extends_add (outline : Outline) (parent : NodeId) (info : NodeInfo) (role : Role) :
    outline.Extends (outline.add parent info role) := by
  refine ⟨by rw [size_add]; exact Nat.le_succ _, fun id hid => ?_, fun id hid => ?_⟩
  · rw [parent?_add, if_neg (Nat.ne_of_lt hid)]
  · rw [lasting?, info?_add_of_lt _ _ _ _ _ hid, lasting?]

theorem extends_rewrites {f : NodeId → NodeInfo → NodeInfo} (h : Rewrites f before after)
    (hf : ∀ id info, (f id info).lasting = info.lasting) : before.Extends after := by
  refine ⟨le_of_eq h.size.symm, fun id _ => h.parent? id, fun id _ => ?_⟩
  rw [lasting?, lasting?, h.info?, Option.map_map]
  simp only [Function.comp_def, hf]

theorem extends_generalized (outline : Outline) (id : NodeId) (isGeneral : Bool) (extent : Extent)
    (range : ByteRange) :
    outline.Extends (outline.modifyInfo id (.generalized isGeneral extent range)) := by
  refine extends_rewrites (rewrites_modifyInfo outline id _) fun other info => ?_
  split_ifs
  · exact NodeInfo.lasting_generalized _ _ _ _
  · rfl

/-- The new node of an outline is a member of its parent only. -/
theorem memberAccess?_add_size {parent : NodeId} {info : NodeInfo} {role : Role}
    (h : (outline.add parent info role).memberAccess? owner outline.size = some access) :
    owner = parent ∧ info.kind.isMember = true ∧ access = info.access := by
  unfold memberAccess? at h
  rw [parent?_add, if_pos rfl, lasting?, info?_add_size, Option.map_some, Option.bind_some] at h
  split_ifs at h with hlt hparent hmember
  · cases h
    exact ⟨(Option.some.inj hparent).symm, hmember, rfl⟩
  · contradiction

theorem isClassDefinition_add_size (outline : Outline) (parent : NodeId) (info : NodeInfo)
    (role : Role) :
    (outline.add parent info role).isClassDefinition outline.size =
      (info.kind.isRecord && info.isDefinition) := by
  rw [isClassDefinition, lasting?, info?_add_size]
  rfl

theorem Placed.add {source : List Char} {parent : NodeId} {info : NodeInfo} {role : Role}
    (h : outline.Placed source) (hinfo : info.extent = extentOf source info.range) :
    (outline.add parent info role).Placed source := by
  intro id other hother
  rw [info?_add] at hother
  split_ifs at hother
  · cases hother
    exact hinfo
  · exact h id other hother

end Outline

/-! ## Classes and their labels -/

/-- The access of the first members of a class: private, but public in structures and unions. -/
def startAccess (record : ParseTree) : Access :=
  if record.construct = .classSpecifier then .isPrivate else .isPublic

theorem initialAccess_recordKind (record : ParseTree) :
    Rules.initialAccess (Rules.recordKind record.construct) = startAccess record := by
  unfold Rules.initialAccess Rules.recordKind startAccess
  split <;> simp_all

/-- The draft after some items of the body of the class `id` are built. -/
def afterItems (source : List Char) (id : NodeId) (entered : Draft) (front : List ParseTree) :
    Draft :=
  ((Rules.each (buildTree source) id front).run entered).2

theorem afterItems_concat (source : List Char) (id : NodeId) (entered : Draft)
    (front : List ParseTree) (item : ParseTree) :
    afterItems source id entered (front ++ [item]) =
      ((buildTree source .member item id).run (afterItems source id entered front)).2 := by
  unfold afterItems
  rw [Rules.each_append]
  rfl

/-- The node `id` was made for the class `record` inside `root`, and the body of the class was built
from the draft `entered` on. -/
structure MadeFor (source : List Char) (root : ParseTree) (outline : Outline) (id : NodeId)
    (record body : ParseTree) (entered : Draft) : Prop where
  mem : record ∈ root.subtrees
  body_eq : record.part? .body = some body
  size_eq : entered.outline.size = id + 1
  exists_info : ∃ info, entered.outline.info? id = some info ∧
    info.kind = Rules.recordKind record.construct ∧ info.range = record.range
  built : (afterItems source id entered (bodyItems body)).outline.Extends outline

/-- Each member of the class `id` was made by one of some items of its body, and it has the access
of the last label before that item; before all labels it has the access `initial`. -/
def MembersFollow (source : List Char) (id : NodeId) (entered : Draft) (initial : Access)
    (parts : List ParseTree) (outline : Outline) : Prop :=
  ∀ child access, id < child → outline.memberAccess? id child = some access →
    ∃ front item back, parts = front ++ item :: back ∧
      (afterItems source id entered front).outline.size ≤ child ∧
      child < (afterItems source id entered (front ++ [item])).outline.size ∧
      access = lastAccess source initial front

/-- The members of a class follow the labels in its body. -/
def FollowsLabels (source : List Char) (root : ParseTree) (outline : Outline) (id : NodeId) :
    Prop :=
  ∃ record body entered, MadeFor source root outline id record body entered ∧
    MembersFollow source id entered (startAccess record) (bodyItems body) outline

variable {source : List Char} {root : ParseTree} {calm : Prop} {base : ℕ} {parent id : NodeId}

theorem MembersFollow.extends {before after : Outline} {entered : Draft} {initial : Access}
    {parts : List ParseTree} (h : MembersFollow source id entered initial parts before)
    (hextends : before.Extends after)
    (hnone : ∀ child access, before.size ≤ child → after.memberAccess? id child ≠ some access) :
    MembersFollow source id entered initial parts after := by
  intro child access hlt hchild
  by_cases hold : child < before.size
  · rw [hextends.memberAccess?_eq hold] at hchild
    exact h child access hlt hchild
  · exact absurd hchild (hnone child access (Nat.le_of_not_lt hold))

/-- A class goes on to follow its labels if no members are added to it. -/
theorem FollowsLabels.extends {before after : Outline} (h : FollowsLabels source root before id)
    (hextends : before.Extends after)
    (hnone : ∀ child access, before.size ≤ child → after.memberAccess? id child ≠ some access) :
    FollowsLabels source root after id := by
  obtain ⟨record, body, entered, hmade, hmembers⟩ := h
  exact ⟨record, body, entered, ⟨hmade.mem, hmade.body_eq, hmade.size_eq, hmade.exists_info,
    hmade.built.trans hextends⟩, hmembers.extends hextends hnone⟩

/-- Every class from the number `base` on follows its labels. -/
def Settled (source : List Char) (root : ParseTree) (base : ℕ) (outline : Outline) : Prop :=
  ∀ id, base ≤ id → outline.isClassDefinition id = true → FollowsLabels source root outline id

/-! ## Frames -/

/-- The frames are the same, up to the access of the top frame. -/
def SameFrames (before after : Draft) : Prop :=
  ∃ access, after.frames = (before.withAccess access).frames

theorem Draft.withAccess_frames (draft : Draft) (access : Access) :
    (draft.withAccess access).frames =
      match draft.frames with
      | .ofClass name _ :: frames => .ofClass name access :: frames
      | frames => frames := by
  unfold Draft.withAccess
  split <;> simp_all

theorem sameFrames_of_eq {before after : Draft} (h : after.frames = before.frames) :
    SameFrames before after := by
  refine ⟨before.memberAccess, ?_⟩
  rw [h, Draft.withAccess_frames, Draft.memberAccess]
  split <;> simp_all

theorem SameFrames.trans {before middle after : Draft} (h : SameFrames before middle)
    (h' : SameFrames middle after) : SameFrames before after := by
  obtain ⟨access, h⟩ := h
  obtain ⟨access', h'⟩ := h'
  refine ⟨access', ?_⟩
  rw [h', Draft.withAccess_frames, h, Draft.withAccess_frames, Draft.withAccess_frames]
  rcases before.frames with _ | ⟨_ | _, _⟩ <;> rfl

@[simp] theorem Draft.withBinding_frames (draft : Draft) (name type : String) :
    (draft.withBinding name type).frames = draft.frames := by
  unfold withBinding
  split_ifs <;> rfl

@[simp] theorem Draft.withClass_frames (draft : Draft) (name : String) :
    (draft.withClass name).frames = draft.frames := by
  unfold withClass
  split_ifs <;> rfl

@[simp] theorem Draft.withResult_frames (draft : Draft) (name result : String) :
    (draft.withResult name result).frames = draft.frames := by
  unfold withResult
  split_ifs <;> rfl

theorem Draft.memberAccess_congr {before after : Draft} (h : after.frames = before.frames) :
    after.memberAccess = before.memberAccess := by
  unfold Draft.memberAccess
  rw [h]

/-! ## Orderly runs -/

/-- A run below `parent` that keeps the nodes numbered from `base` on in order. It adds members
below `parent` or below its own nodes and gives the frames back. If it is calm, it leaves the frames
alone, and the members below `parent` have the access of the top frame. Whatever classes it adds
follow their labels. -/
structure Orderly (source : List Char) (root : ParseTree) (calm : Prop) (base : ℕ)
    (parent : NodeId) (before after : Draft) : Prop where
  grown : before.outline.Extends after.outline
  owned : ∀ {owner child access}, before.outline.size ≤ child →
    after.outline.memberAccess? owner child = some access → owner = parent ∨ base ≤ owner
  frames : SameFrames before after
  quiet : calm → after.frames = before.frames
  access : calm → ∀ {child access}, before.outline.size ≤ child →
    after.outline.memberAccess? parent child = some access → access = before.memberAccess
  placed : before.outline.Placed source → after.outline.Placed source
  settled : LabelsInBodies source root → Settled source root base before.outline →
    Settled source root base after.outline

namespace Orderly

variable {before middle after draft : Draft}

/-- A step that adds no node. -/
theorem noNode (hgrown : before.outline.Extends after.outline)
    (hsize : after.outline.size = before.outline.size) (hframes : SameFrames before after)
    (hquiet : calm → after.frames = before.frames)
    (hplaced : before.outline.Placed source → after.outline.Placed source) :
    Orderly source root calm base parent before after := by
  have hnone : ∀ {owner child access}, before.outline.size ≤ child →
      after.outline.memberAccess? owner child ≠ some access := by
    intro owner child access hge hchild
    have := lt_size_of_memberAccess? hchild
    lia
  refine ⟨hgrown, fun hge hchild => absurd hchild (hnone hge), hframes, hquiet,
    fun _ _ _ hge hchild => absurd hchild (hnone hge), hplaced, fun _ hsettled id hid hclass => ?_⟩
  have hlt := lt_size_of_isClassDefinition hclass
  rw [hgrown.isClassDefinition_eq (by lia)] at hclass
  exact (hsettled id hid hclass).extends hgrown fun _ _ => hnone

/-- A step that changes neither nodes nor frames. -/
theorem unchanged (houtline : after.outline = before.outline)
    (hframes : after.frames = before.frames) :
    Orderly source root calm base parent before after := by
  refine .noNode ?_ ?_ (sameFrames_of_eq hframes) (fun _ => hframes) ?_
  · rw [houtline]
    exact .refl _
  · rw [houtline]
  · rw [houtline]
    exact id

/-- A label changes the access of the top frame. -/
theorem label (access : Access) (hcalm : ¬calm) :
    Orderly source root calm base parent draft (draft.withAccess access) := by
  refine .noNode ?_ ?_ ⟨access, rfl⟩ (fun hc => absurd hc hcalm) ?_
  · rw [Draft.withAccess_outline]
    exact .refl _
  · rw [Draft.withAccess_outline]
  · rw [Draft.withAccess_outline]
    exact id

/-- A node becomes a template and takes its place. -/
theorem generalize (id : NodeId) (isGeneral : Bool) (tree : ParseTree) :
    Orderly source root calm base parent draft { draft with
      outline := draft.outline.modifyInfo id
        (.generalized isGeneral (tree.extent source) tree.range) } := by
  refine .noNode (extends_generalized _ _ _ _ _) (size_modifyInfo _ _ _) (sameFrames_of_eq rfl)
    (fun _ => rfl) fun hplaced other info hinfo => ?_
  rw [info?_modifyInfo] at hinfo
  split_ifs at hinfo
  · obtain ⟨old, -, rfl⟩ := Option.map_eq_some_iff.1 hinfo
    rfl
  · exact hplaced other info hinfo

theorem trans (h : Orderly source root calm base parent before middle)
    (h' : Orderly source root calm base parent middle after) :
    Orderly source root calm base parent before after where
  grown := h.grown.trans h'.grown
  owned {_ child _} hge hchild := by
    by_cases hold : child < middle.outline.size
    · rw [h'.grown.memberAccess?_eq hold] at hchild
      exact h.owned hge hchild
    · exact h'.owned (Nat.le_of_not_lt hold) hchild
  frames := h.frames.trans h'.frames
  quiet hcalm := (h'.quiet hcalm).trans (h.quiet hcalm)
  access hcalm {child _} hge hchild := by
    by_cases hold : child < middle.outline.size
    · rw [h'.grown.memberAccess?_eq hold] at hchild
      exact h.access hcalm hge hchild
    · rw [h'.access hcalm (Nat.le_of_not_lt hold) hchild]
      exact Draft.memberAccess_congr (h.quiet hcalm)
  placed hplaced := h'.placed (h.placed hplaced)
  settled hlabels hsettled := h'.settled hlabels (h.settled hlabels hsettled)

theorem imp_calm {calm' : Prop} (h : Orderly source root calm' base parent before after)
    (hcalm : calm → calm') : Orderly source root calm base parent before after :=
  ⟨h.grown, h.owned, h.frames, fun hc => h.quiet (hcalm hc), fun hc => h.access (hcalm hc),
    h.placed, h.settled⟩

/-- A run below a node of its own, which is no class, is part of the run around it. -/
theorem below {base' : ℕ} {parent' : NodeId}
    (h : Orderly source root calm base' parent' before after) (hparent : parent < base)
    (hbase : base ≤ base') (hsize : base' ≤ before.outline.size)
    (howner : parent' = parent ∨
      base ≤ parent' ∧ before.outline.isClassDefinition parent' = false) :
    Orderly source root calm base parent before after where
  grown := h.grown
  owned hge hchild := by
    have := h.owned hge hchild
    lia
  frames := h.frames
  quiet := h.quiet
  access hcalm {_ _} hge hchild := by
    rcases howner with rfl | ⟨hnew, -⟩
    · exact h.access hcalm hge hchild
    · have := h.owned hge hchild
      lia
  placed := h.placed
  settled hlabels hsettled := by
    intro id hid hclass
    by_cases hnew : base' ≤ id
    · exact h.settled hlabels (fun other hother => hsettled other (le_trans hbase hother)) id hnew
        hclass
    · have hold : id < before.outline.size := by lia
      rw [h.grown.isClassDefinition_eq hold] at hclass
      refine (hsettled id hid hclass).extends h.grown fun child access hge hchild => ?_
      -- The class is neither `parent` nor the node of the inner run, so it gets no members.
      have howned := h.owned hge hchild
      rcases howner with rfl | ⟨-, hplain⟩
      · lia
      · have hid : id = parent' := by lia
        rw [hid, hplain] at hclass
        cases hclass

/-- A node is added that is no class with a body. A member is added below `parent`, with the access
of the top frame. -/
theorem addNode {owner : NodeId} {role : Role} {info : NodeInfo} (hparent : parent < base)
    (hmember : info.kind.isMember = true → owner = parent ∧ info.access = draft.memberAccess)
    (hclass : (info.kind.isRecord && info.isDefinition) = false)
    (hplaced : info.extent = extentOf source info.range) :
    Orderly source root calm base parent draft (draft.withNode owner role info) := by
  have hgrown : draft.outline.Extends (draft.withNode owner role info).outline :=
    extends_add draft.outline owner info role
  -- The only new member is the new node itself.
  have hnew : ∀ {above child access}, draft.outline.size ≤ child →
      (draft.withNode owner role info).outline.memberAccess? above child = some access →
      above = parent ∧ access = draft.memberAccess := by
    intro above child access hge hchild
    have hlt := lt_size_of_memberAccess? hchild
    rw [Draft.withNode_outline, size_add] at hlt
    obtain rfl : child = draft.outline.size := by lia
    obtain ⟨rfl, hkind, rfl⟩ := memberAccess?_add_size hchild
    exact hmember hkind
  refine ⟨hgrown, fun hge hchild => Or.inl (hnew hge hchild).1, sameFrames_of_eq rfl, fun _ => rfl,
    fun _ _ _ hge hchild => (hnew hge hchild).2, fun h => h.add hplaced,
    fun _ hsettled id hid hdefined => ?_⟩
  have hlt := lt_size_of_isClassDefinition hdefined
  rw [Draft.withNode_outline, size_add] at hlt
  by_cases hold : id < draft.outline.size
  · rw [hgrown.isClassDefinition_eq hold] at hdefined
    refine (hsettled id hid hdefined).extends hgrown fun child access hge hchild => ?_
    have := (hnew hge hchild).1
    lia
  · obtain rfl : id = draft.outline.size := by lia
    rw [Draft.withNode_outline, isClassDefinition_add_size, hclass] at hdefined
    cases hdefined

/-- What is inside a function is built below its node and under a frame that is taken away again,
whatever labels are met there. -/
theorem inFunction {inner : Draft}
    (h : Orderly source root False draft.outline.size id
      { draft with frames := .ofFunction :: draft.frames } inner)
    (hparent : parent < base) (hid : base ≤ id) (hbase : base ≤ draft.outline.size)
    (hplain : draft.outline.isClassDefinition id = false) :
    Orderly source root calm base parent draft { inner with frames := inner.frames.tail } := by
  have hframes : inner.frames.tail = draft.frames := by
    obtain ⟨access, hinner⟩ := h.frames
    rw [hinner]
    rfl
  have hwhole := h.below hparent hbase le_rfl (Or.inr ⟨hid, hplain⟩)
  refine ⟨hwhole.grown, hwhole.owned, sameFrames_of_eq hframes, fun _ => hframes, ?_,
    hwhole.placed, hwhole.settled⟩
  intro _ child access hge hchild
  have := h.owned hge hchild
  lia

end Orderly

/-! ## The body of a class -/

/-- Building a tree is orderly, and calm if no label is built at its place. -/
def Lowers (source : List Char) (root tree : ParseTree) : Prop :=
  ∀ (role : Role) (parent : NodeId) (draft : Draft), parent < draft.outline.size →
    Orderly source root (holdsLabel source tree = false) draft.outline.size parent draft
      ((buildTree source role tree parent).run draft).2

section Body

variable {entered : Draft} {front : List ParseTree} {name : String} {initial : Access}
  {frames : List Frame}

/-- A label sets the access of the members after it and does nothing else. -/
theorem buildTree_label {role : Role} {tree : ParseTree} (draft : Draft)
    (h : tree.construct = .accessSpecifier) :
    ((buildTree source role tree parent).run draft).2 =
      (labelAccess? source tree).elim draft draft.withAccess := by
  rw [buildTree_eq, Rules.rule]
  simp only [h, labelAccess?, if_true, Rules.accessLabel]
  cases Access.ofKeyword? (String.ofList (Text.trim (tree.text source))) <;> rfl

theorem afterItems_orderly (hid : id < entered.outline.size)
    (hlowers : ∀ item ∈ front, Lowers source root item) :
    Orderly source root False entered.outline.size id entered
      (afterItems source id entered front) := by
  induction front using List.reverseRecOn with
  | nil => exact .unchanged rfl rfl
  | append_singleton front item ih =>
    have hfront := ih fun other hother => hlowers other (List.mem_append_left _ hother)
    have hsize := hfront.grown.size_le
    have hitem := hlowers item (by simp) .member id (afterItems source id entered front) (by lia)
    rw [afterItems_concat]
    exact hfront.trans ((hitem.below hid hsize le_rfl (Or.inl rfl)).imp_calm False.elim)

section Items

variable (hid : id < entered.outline.size) (hlowers : ∀ item ∈ front, Lowers source root item)
  (hlabels : ∀ item ∈ front, item.construct = .accessSpecifier ∨ holdsLabel source item = false)
include hid hlowers hlabels

/-- Building the items of a body changes the top frame as the labels among them say. -/
theorem afterItems_frames (hframes : entered.frames = .ofClass name initial :: frames) :
    (afterItems source id entered front).frames =
      .ofClass name (lastAccess source initial front) :: frames := by
  induction front using List.reverseRecOn with
  | nil => exact hframes
  | append_singleton front item ih =>
    have hfront : ∀ other ∈ front, other ∈ front ++ [item] := fun _ => List.mem_append_left _
    have hlast : item ∈ front ++ [item] := by simp
    have htop := ih (fun other hother => hlowers other (hfront other hother))
      fun other hother => hlabels other (hfront other hother)
    have hsize := (afterItems_orderly hid fun other hother =>
      hlowers other (hfront other hother)).grown.size_le
    rw [lastAccess_concat, afterItems_concat]
    rcases hlabels item hlast with hlabel | hcalm
    · rw [buildTree_label _ hlabel]
      cases labelAccess? source item with
      | none => exact htop
      | some access =>
        rw [Option.elim_some, Draft.withAccess_frames, htop]
        rfl
    · have hnone : labelAccess? source item = none := if_neg (holdsLabel_eq_false_iff.1 hcalm).1
      rw [(hlowers item hlast .member id _ (by lia)).quiet hcalm, htop, hnone, Option.getD_none]

/-- Each member of the class has the access that the top frame had when the item that made the
member was built. -/
theorem afterItems_members (hsize : entered.outline.size ≤ id + 1)
    (hframes : entered.frames = .ofClass name initial :: frames) :
    MembersFollow source id entered initial front
      (afterItems source id entered front).outline := by
  induction front using List.reverseRecOn with
  | nil =>
    intro child access hlt hchild
    have : child < entered.outline.size := lt_size_of_memberAccess? hchild
    lia
  | append_singleton front item ih =>
    have hfront : ∀ other ∈ front, other ∈ front ++ [item] := fun _ => List.mem_append_left _
    have hlast : item ∈ front ++ [item] := by simp
    have hbefore : ∀ other ∈ front, Lowers source root other :=
      fun other hother => hlowers other (hfront other hother)
    have hmembers := ih hbefore fun other hother => hlabels other (hfront other hother)
    have htop := afterItems_frames hid hbefore
      (fun other hother => hlabels other (hfront other hother)) hframes
    have hgrown := (afterItems_orderly hid hbefore).grown.size_le
    have hitem := hlowers item hlast .member id (afterItems source id entered front) (by lia)
    rw [← afterItems_concat] at hitem
    intro child access hlt hchild
    by_cases hold : child < (afterItems source id entered front).outline.size
    · -- The member was there before the last item.
      rw [hitem.grown.memberAccess?_eq hold] at hchild
      obtain ⟨front', item', back, rfl, hplace⟩ := hmembers child access hlt hchild
      exact ⟨front', item', back ++ [item], by simp, hplace⟩
    · have hnew := lt_size_of_memberAccess? hchild
      refine ⟨front, item, [], rfl, Nat.le_of_not_lt hold, hnew, ?_⟩
      rcases hlabels item hlast with hlabel | hcalm
      · rw [afterItems_concat, buildTree_label _ hlabel] at hnew
        cases haccess : labelAccess? source item with
        | none =>
          rw [haccess] at hnew
          exact absurd hnew hold
        | some access =>
          rw [haccess, Option.elim_some, Draft.withAccess_outline] at hnew
          exact absurd hnew hold
      · rw [hitem.access hcalm (Nat.le_of_not_lt hold) hchild, Draft.memberAccess, htop]

end Items

section Class

variable {draft : Draft} {record body : ParseTree} {info : NodeInfo}
  (hentered : entered.outline = draft.outline.add parent info .member)
  (hframes : entered.frames = .ofClass name (startAccess record) :: draft.frames)
  (hlowers : ∀ item ∈ bodyItems body, Lowers source root item)
include hentered hframes hlowers

/-- The node of a class follows the labels in its body as soon as the body is built. -/
theorem followsLabels_of_entered (hlabels : LabelsInBodies source root)
    (hmem : record ∈ root.subtrees) (hbody : record.part? .body = some body)
    (hkind : info.kind = Rules.recordKind record.construct) (hrange : info.range = record.range) :
    FollowsLabels source root
      (afterItems source draft.outline.size entered (bodyItems body)).outline
      draft.outline.size := by
  have hsize : entered.outline.size = draft.outline.size + 1 := by rw [hentered, size_add]
  have hinfo : entered.outline.info? draft.outline.size = some info := by
    rw [hentered, info?_add_size]
  refine ⟨record, body, entered, ⟨hmem, hbody, hsize, ⟨info, hinfo, hkind, hrange⟩, .refl _⟩, ?_⟩
  exact afterItems_members (by lia) hlowers (hlabels record hmem body hbody) (by lia) hframes

omit hframes in
/-- The class is a member of `parent`, and all other members that are new stand below the class. -/
theorem owner_of_entered (haccess : info.access = draft.memberAccess) {owner child : NodeId}
    {access : Access} (hge : draft.outline.size ≤ child)
    (hchild : (afterItems source draft.outline.size entered
      (bodyItems body)).outline.memberAccess? owner child = some access) :
    owner = parent ∧ access = draft.memberAccess ∨ draft.outline.size ≤ owner := by
  have hsize : entered.outline.size = draft.outline.size + 1 := by rw [hentered, size_add]
  have hrun := afterItems_orderly (show draft.outline.size < entered.outline.size by lia) hlowers
  by_cases hbelow : entered.outline.size ≤ child
  · have := hrun.owned hbelow hchild
    lia
  · obtain rfl : child = draft.outline.size := by lia
    rw [hrun.grown.memberAccess?_eq (by lia), hentered] at hchild
    obtain ⟨rfl, -, rfl⟩ := memberAccess?_add_size hchild
    exact Or.inl ⟨rfl, haccess⟩

/-- The body of a class is built below its node and under a frame that is taken away again. -/
theorem Orderly.inClass (hparent : parent < base) (hbase : base ≤ draft.outline.size)
    (hmem : record ∈ root.subtrees) (hbody : record.part? .body = some body)
    (hkind : info.kind = Rules.recordKind record.construct) (hrange : info.range = record.range)
    (haccess : info.access = draft.memberAccess)
    (hplaced : info.extent = extentOf source info.range) :
    let inner := afterItems source draft.outline.size entered (bodyItems body)
    Orderly source root calm base parent draft { inner with frames := inner.frames.tail } := by
  intro inner
  have hsize : entered.outline.size = draft.outline.size + 1 := by rw [hentered, size_add]
  have hrun : Orderly source root False entered.outline.size draft.outline.size entered inner :=
    afterItems_orderly (by lia) hlowers
  have hadded : draft.outline.Extends entered.outline := by
    rw [hentered]
    exact extends_add _ _ _ _
  have hgrown := hadded.trans hrun.grown
  have hleft : inner.frames.tail = draft.frames := by
    obtain ⟨access, htop⟩ := hrun.frames
    rw [htop, Draft.withAccess_frames, hframes]
    rfl
  refine ⟨hgrown, fun hge hchild => ?_, sameFrames_of_eq hleft, fun _ => hleft,
    fun _ _ _ hge hchild => ?_, fun h => ?_, fun hlabels hsettled id hid hclass => ?_⟩
  · have := owner_of_entered hentered hlowers haccess hge hchild
    lia
  · rcases owner_of_entered hentered hlowers haccess hge hchild with ⟨-, hsame⟩ | hbelow
    · exact hsame
    · lia
  · refine hrun.placed ?_
    rw [hentered]
    exact h.add hplaced
  · -- Classes from before gain no members, the new class is settled by its own body, and the
    -- classes inside it by theirs.
    by_cases hold : id < draft.outline.size
    · rw [hgrown.isClassDefinition_eq hold] at hclass
      refine (hsettled id hid hclass).extends hgrown fun child access hge hchild => ?_
      have := owner_of_entered hentered hlowers haccess hge hchild
      lia
    · by_cases hself : id = draft.outline.size
      · rw [hself]
        exact followsLabels_of_entered hentered hframes hlowers hlabels hmem hbody hkind hrange
      · refine hrun.settled hlabels (fun other hother hdefined => ?_) id (by lia) hclass
        exact absurd (lt_size_of_isClassDefinition hdefined) (Nat.not_lt_of_le hother)

end Class

end Body

/-! ## Orderly programs -/

/-- From a draft, a program is an orderly run. -/
def Keeps {α : Type} (source : List Char) (root : ParseTree) (calm : Prop) (base : ℕ)
    (parent : NodeId) (draft : Draft) (program : Build α) : Prop :=
  Orderly source root calm base parent draft (program.run draft).2

namespace Keeps

variable {α β : Type} {draft : Draft} {program : Build α} {next : α → Build β}

theorem pure (value : α) : Keeps source root calm base parent draft (Pure.pure value) :=
  .unchanged rfl rfl

theorem get {next : Draft → Build β} (h : Keeps source root calm base parent draft (next draft)) :
    Keeps source root calm base parent draft (MonadState.get >>= next) :=
  h

theorem bind_run (h : Keeps source root calm base parent draft program)
    (hnext : Keeps source root calm base parent (program.run draft).2
      (next (program.run draft).1)) :
    Keeps source root calm base parent draft (program >>= next) :=
  h.trans hnext

theorem bind (h : Keeps source root calm base parent draft program)
    (hnext : ∀ value after, Orderly source root calm base parent draft after →
      Keeps source root calm base parent after (next value)) :
    Keeps source root calm base parent draft (program >>= next) :=
  h.bind_run (hnext _ _ h)

/-- A program that goes on below the same node after another one. -/
theorem andThen (h : Keeps source root calm draft.outline.size parent draft program)
    (hparent : parent < draft.outline.size)
    (hnext : ∀ value after, parent < after.outline.size →
      Keeps source root calm after.outline.size parent after (next value)) :
    Keeps source root calm draft.outline.size parent draft (program >>= next) := by
  refine h.bind fun value after horderly => ?_
  have hsize := horderly.grown.size_le
  exact Orderly.below (hnext value after (by lia)) hparent hsize le_rfl (Or.inl rfl)

/-- A program that ends with a value. -/
theorem last (h : Keeps source root calm base parent draft program) {f : α → β} :
    Keeps source root calm base parent draft (program >>= fun value => Pure.pure (f value)) :=
  h.bind fun _ _ _ => .pure _

theorem note {f : Draft → Draft} (houtline : (f draft).outline = draft.outline)
    (hframes : (f draft).frames = draft.frames) :
    Keeps source root calm base parent draft (modify f : Build PUnit) :=
  Orderly.unchanged houtline hframes

theorem declare (name type : String) :
    Keeps source root calm base parent draft (Build.declare name type) :=
  .note (draft.withBinding_outline name type) (draft.withBinding_frames name type)

theorem remember (name result : String) :
    Keeps source root calm base parent draft
      (modify (·.withResult name result) : Build PUnit) :=
  .note (draft.withResult_outline name result) (draft.withResult_frames name result)

/-- A node is added that is no class with a body. -/
theorem push {owner : NodeId} {role : Role} {info : NodeInfo} {next : NodeId → Build β}
    (hparent : parent < base)
    (hmember : info.kind.isMember = true → owner = parent ∧ info.access = draft.memberAccess)
    (hclass : (info.kind.isRecord && info.isDefinition) = false)
    (hplaced : info.extent = extentOf source info.range)
    (h : ∀ start : Draft, start.outline = draft.outline.add owner info role →
      Keeps source root calm base parent start (next draft.outline.size)) :
    Keeps source root calm base parent draft (Build.push owner role info >>= next) :=
  (Orderly.addNode hparent hmember hclass hplaced).trans (h (draft.withNode owner role info) rfl)

theorem inBlock (h : Keeps source root calm base parent draft program) :
    Keeps source root calm base parent draft (Build.inBlock program) :=
  Orderly.trans h (.unchanged rfl rfl)

theorem inFunction (h : ∀ start : Draft, start.outline = draft.outline →
      Keeps source root False start.outline.size id start program)
    (hparent : parent < base) (hid : base ≤ id) (hbase : base ≤ draft.outline.size)
    (hplain : draft.outline.isClassDefinition id = false) :
    Keeps source root calm base parent draft (Build.inside .ofFunction program) :=
  Orderly.inFunction (h { draft with frames := .ofFunction :: draft.frames } rfl) hparent hid hbase
    hplain

end Keeps

end StructSearch
