import StructSearch.Outline.Inference
import StructSearch.Proofs.Outline.Links

/-!
# Records and lists of a node

What a step in building an outline does to the records of its nodes, to the arguments and to the
template parameters. Changing records, of one node or of all of them, is described once: the links
stay as they are and the records go through a function.

Results:
* `info?_add`, `arguments_add`, `templateParameters_add`: adding a node.
* `Rewrites`: changing records, with `rewrites_modifyInfo` and `rewrites_mapInfo` as its instances.
* `Linked.rewrites`: the links still agree after records have changed.
* `gather_add`, `Rewrites.gather`: what is gathered from all records.
-/

namespace StructSearch.Outline

/-! ## Numbers in use -/

theorem lt_size_of_info?_eq {outline : Outline} {id : NodeId} {info : NodeInfo}
    (h : outline.info? id = some info) : id < outline.size := by
  by_contra hge
  rw [info?, slot?_eq_none (Nat.le_of_not_lt hge)] at h
  cases h

theorem exists_info? {outline : Outline} {id : NodeId} (h : id < outline.size) :
    ∃ info, outline.info? id = some info := by
  obtain ⟨slot, hs⟩ : ∃ slot, outline.slot? id = some slot := ⟨_, Array.getElem?_eq_getElem h⟩
  exact ⟨slot.info, by rw [info?, hs]; rfl⟩

theorem children_eq_nil {outline : Outline} {id : NodeId} (h : outline.size ≤ id) :
    outline.children id = [] := by
  rw [children, slot?_eq_none h]
  rfl

theorem arguments_eq_nil {outline : Outline} {id : NodeId} (h : outline.size ≤ id) :
    outline.arguments id = [] := by
  rw [arguments, slot?_eq_none h]
  rfl

theorem templateParameters_eq_nil {outline : Outline} {id : NodeId} (h : outline.size ≤ id) :
    outline.templateParameters id = [] := by
  rw [templateParameters, slot?_eq_none h]
  rfl

/-! ## Kinds -/

/-- Whether a node has a kind of a group. -/
def hasKind (outline : Outline) (ofKind : Kind → Bool) (id : NodeId) : Bool :=
  (outline.info? id).any fun info => ofKind info.kind

theorem hasKind_of_info? {outline : Outline} {id : NodeId} {info : NodeInfo}
    (h : outline.info? id = some info) (ofKind : Kind → Bool) :
    outline.hasKind ofKind id = ofKind info.kind := by
  rw [hasKind, h]
  rfl

theorem lt_size_of_hasKind {outline : Outline} {ofKind : Kind → Bool} {id : NodeId}
    (h : outline.hasKind ofKind id = true) : id < outline.size := by
  by_contra hge
  rw [hasKind, info?, slot?_eq_none (Nat.le_of_not_lt hge)] at h
  cases h

/-! ## Adding a node -/

section Add

variable (outline : Outline) (parent : NodeId) (info : NodeInfo) (role : Role) (id : NodeId)

theorem info?_add :
    (outline.add parent info role).info? id =
      if id = outline.size then some info else outline.info? id := by
  unfold info?
  rw [slot?_add]
  by_cases h1 : id = outline.size
  · simp only [if_pos h1, Option.map_some]
  · rw [if_neg h1, if_neg h1]
    by_cases h2 : parent = id
    · rw [if_pos h2]
      cases outline.slot? id <;> cases role <;> rfl
    · rw [if_neg h2]

@[simp] theorem info?_add_size :
    (outline.add parent info role).info? outline.size = some info := by
  rw [info?_add, if_pos rfl]

theorem info?_add_of_lt (h : id < outline.size) :
    (outline.add parent info role).info? id = outline.info? id := by
  rw [info?_add, if_neg (Nat.ne_of_lt h)]

/-- A list of a slot that starts out empty and grows when a child is adopted in certain roles. -/
theorem list_add (list : Slot → List NodeId) (grows : Role → Prop) [DecidablePred grows]
    (hnew : ∀ info parent, list { info, parent } = [])
    (hadopt : ∀ slot role child, list (slot.adopt role child) =
      if grows role then list slot ++ [child] else list slot) :
    (((outline.add parent info role).slot? id).map list).getD [] =
      if id = parent ∧ parent < outline.size ∧ grows role then
        ((outline.slot? id).map list).getD [] ++ [outline.size]
      else ((outline.slot? id).map list).getD [] := by
  rw [slot?_add]
  by_cases h1 : id = outline.size
  · have h2 : ¬(id = parent ∧ parent < outline.size ∧ grows role) := by lia
    rw [if_pos h1, if_neg h2, slot?_eq_none (by lia)]
    exact hnew _ _
  · rw [if_neg h1]
    by_cases h2 : parent = id
    · subst h2
      rw [if_pos rfl]
      by_cases h3 : parent < outline.size
      · obtain ⟨slot, hs⟩ : ∃ slot, outline.slot? parent = some slot :=
          ⟨_, Array.getElem?_eq_getElem h3⟩
        simp [hs, h3, hadopt]
      · have h4 : ¬(parent = parent ∧ parent < outline.size ∧ grows role) := by lia
        rw [if_neg h4, slot?_eq_none (by lia)]
        rfl
    · have h3 : ¬(id = parent ∧ parent < outline.size ∧ grows role) := by lia
      rw [if_neg h2, if_neg h3]

theorem arguments_add :
    (outline.add parent info role).arguments id =
      if id = parent ∧ parent < outline.size ∧ role = .argument then
        outline.arguments id ++ [outline.size]
      else outline.arguments id := by
  refine list_add outline parent info role id (·.arguments) (· = .argument) (fun _ _ => rfl) ?_
  intro slot role child
  cases role <;> rfl

theorem templateParameters_add :
    (outline.add parent info role).templateParameters id =
      if id = parent ∧ parent < outline.size ∧ role = .template then
        outline.templateParameters id ++ [outline.size]
      else outline.templateParameters id := by
  refine list_add outline parent info role id (·.templateParameters) (· = .template)
    (fun _ _ => rfl) ?_
  intro slot role child
  cases role <;> rfl

theorem hasKind_add (ofKind : Kind → Bool) :
    (outline.add parent info role).hasKind ofKind id =
      if id = outline.size then ofKind info.kind else outline.hasKind ofKind id := by
  unfold hasKind
  rw [info?_add]
  split_ifs <;> rfl

theorem hasKind_add_of_lt (ofKind : Kind → Bool) (h : id < outline.size) :
    (outline.add parent info role).hasKind ofKind id = outline.hasKind ofKind id := by
  rw [hasKind_add, if_neg (Nat.ne_of_lt h)]

end Add

/-! ## Changing records -/

/-- The second outline has the links of the first one; the record of each node went through a
function. -/
def Rewrites (f : NodeId → NodeInfo → NodeInfo) (before after : Outline) : Prop :=
  ∀ id, after.slot? id = (before.slot? id).map fun slot => { slot with info := f id slot.info }

theorem rewrites_modifyInfo (outline : Outline) (id : NodeId) (f : NodeInfo → NodeInfo) :
    Rewrites (fun other info => if id = other then f info else info) outline
      (outline.modifyInfo id f) := by
  intro other
  rw [slot?_modifyInfo]
  by_cases h : id = other
  · simp only [if_pos h]
  · simp only [if_neg h, Option.map_id']

theorem info?_modifyInfo (outline : Outline) (id : NodeId) (f : NodeInfo → NodeInfo)
    (other : NodeId) :
    (outline.modifyInfo id f).info? other =
      if id = other then (outline.info? other).map f else outline.info? other := by
  unfold info?
  rw [slot?_modifyInfo]
  split_ifs
  · cases outline.slot? other <;> rfl
  · rfl

theorem rewrites_mapInfo (outline : Outline) (f : NodeInfo → NodeInfo) :
    Rewrites (fun _ => f) outline (outline.mapInfo f) := by
  intro id
  simp only [slot?, mapInfo, Array.getElem?_map]

section Rewrites

variable {f : NodeId → NodeInfo → NodeInfo} {before after : Outline} (h : Rewrites f before after)
include h

theorem Rewrites.info? (id : NodeId) : after.info? id = (before.info? id).map (f id) := by
  unfold Outline.info?
  rw [h id]
  cases before.slot? id <;> rfl

theorem Rewrites.parent? (id : NodeId) : after.parent? id = before.parent? id := by
  unfold Outline.parent?
  rw [h id]
  cases before.slot? id <;> rfl

theorem Rewrites.children (id : NodeId) : after.children id = before.children id := by
  unfold Outline.children
  rw [h id]
  cases before.slot? id <;> rfl

theorem Rewrites.arguments (id : NodeId) : after.arguments id = before.arguments id := by
  unfold Outline.arguments
  rw [h id]
  cases before.slot? id <;> rfl

theorem Rewrites.templateParameters (id : NodeId) :
    after.templateParameters id = before.templateParameters id := by
  unfold Outline.templateParameters
  rw [h id]
  cases before.slot? id <;> rfl

theorem Rewrites.size : after.size = before.size := by
  have hnone : ∀ id, after.slot? id = none ↔ before.slot? id = none := by
    intro id
    rw [h id, Option.map_eq_none_iff]
  simp only [slot?, Array.getElem?_eq_none_iff] at hnone
  exact le_antisymm ((hnone _).2 le_rfl) ((hnone _).1 le_rfl)

theorem Rewrites.hasKind {ofKind : Kind → Bool}
    (hf : ∀ id info, ofKind (f id info).kind = ofKind info.kind) (id : NodeId) :
    after.hasKind ofKind id = before.hasKind ofKind id := by
  unfold Outline.hasKind
  rw [h.info?]
  cases before.info? id with
  | none => rfl
  | some info => exact hf id info

theorem Linked.rewrites (hl : before.Linked) : after.Linked := by
  constructor
  · intro id parent hp
    rw [h.parent?] at hp
    exact hl.parent_lt hp
  · intro id child
    rw [h.children, h.parent?]
    exact hl.mem_children
  · intro id
    rw [h.children]
    exact hl.children_sorted id

theorem Rewrites.ancestors (hl : before.Linked) (id : NodeId) :
    after.ancestors id = before.ancestors id := by
  induction id using Nat.strong_induction_on with
  | _ id ih =>
    rw [(hl.rewrites h).ancestors_eq, hl.ancestors_eq, h.parent?]
    cases hp : before.parent? id with
    | none => rfl
    | some parent =>
      dsimp only
      rw [ih parent (hl.parent_lt hp)]

end Rewrites

/-! ## Gathering from the records -/

section Gather

variable {β γ : Type}

/-- What the records of an outline have to offer, from old to new. -/
def gather (outline : Outline) (pick : NodeInfo → Option β) : List β :=
  (List.range outline.size).filterMap fun id => (outline.info? id).bind pick

theorem gather_add (outline : Outline) (parent : NodeId) (info : NodeInfo) (role : Role)
    (pick : NodeInfo → Option β) :
    (outline.add parent info role).gather pick = outline.gather pick ++ (pick info).toList := by
  have hold : (List.range outline.size).filterMap
      (fun id => ((outline.add parent info role).info? id).bind pick) = outline.gather pick := by
    refine List.filterMap_congr fun id hid => ?_
    rw [info?_add_of_lt _ _ _ _ _ (List.mem_range.1 hid)]
  have hnew : [outline.size].filterMap
      (fun id => ((outline.add parent info role).info? id).bind pick) = (pick info).toList := by
    cases hpick : pick info <;> simp [hpick]
  rw [gather, size_add, List.range_succ, List.filterMap_append, hold, hnew]

theorem Rewrites.gather {f : NodeId → NodeInfo → NodeInfo} {before after : Outline}
    (h : Rewrites f before after) {pick pick' : NodeInfo → Option β}
    (hpick : ∀ id info, before.info? id = some info → pick (f id info) = pick' info) :
    after.gather pick = before.gather pick' := by
  unfold Outline.gather
  rw [h.size]
  refine List.filterMap_congr fun id _ => ?_
  rw [h.info?]
  cases hinfo : before.info? id with
  | none => rfl
  | some info => exact hpick id info hinfo

theorem gather_map (outline : Outline) (pick : NodeInfo → Option β) (g : β → γ) :
    outline.gather (fun info => (pick info).map g) = (outline.gather pick).map g := by
  rw [gather, gather, List.map_filterMap]
  refine List.filterMap_congr fun id _ => ?_
  cases outline.info? id <;> rfl

end Gather

/-! ## Types by name -/

section Inference

variable (values functions results : List (String × String)) (info : NodeInfo)

/-- Filling in types changes the types of references and calls only. -/
theorem inferInfo_eq :
    ∃ type result, inferInfo values functions results info = { info with type, result } := by
  unfold inferInfo
  split
  · exact ⟨_, _, rfl⟩
  · split
    all_goals first
      | exact ⟨_, _, rfl⟩
      | split <;> exact ⟨_, _, rfl⟩

@[simp] theorem inferInfo_kind :
    (inferInfo values functions results info).kind = info.kind := by
  obtain ⟨_, _, h⟩ := inferInfo_eq values functions results info
  rw [h]

@[simp] theorem inferInfo_spelling :
    (inferInfo values functions results info).spelling = info.spelling := by
  obtain ⟨_, _, h⟩ := inferInfo_eq values functions results info
  rw [h]

@[simp] theorem inferInfo_range :
    (inferInfo values functions results info).range = info.range := by
  obtain ⟨_, _, h⟩ := inferInfo_eq values functions results info
  rw [h]

@[simp] theorem inferInfo_isDefinition :
    (inferInfo values functions results info).isDefinition = info.isDefinition := by
  obtain ⟨_, _, h⟩ := inferInfo_eq values functions results info
  rw [h]

end Inference

theorem rewrites_inferTypes (outline : Outline) (results : List (String × String)) :
    Rewrites (fun _ => inferInfo (outline.declaredTypes isValue)
      (outline.declaredTypes Kind.isFunctionDeclaration) results) outline
      (outline.inferTypes results) :=
  rewrites_mapInfo _ _

end StructSearch.Outline
