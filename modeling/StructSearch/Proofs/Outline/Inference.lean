import StructSearch.Proofs.Outline.CallTypes

/-!
# Types filled in by name

When a file is built, references and calls may still lack a type. `inferTypes` gives them the type
of the first declaration of their name, where values are looked for in pre-order. Pre-order is not
the order of the numbers, since template parameters are added after what they belong to, and the
types that are looked up stand in the same outline that is changed. No declaration is among the
nodes that change, so looking up again finds what was found before.

Results:
* `filledIn_inferInfo`: what filling in may change about a node.
* `inferTypes_inferTypes`: filling in a second time changes nothing.
* `Steps.membersUntyped`: while a file is built, members have no type.
* `inferTypes_by_first_value`: what filling in does after a file is built.
-/

namespace StructSearch

open Source Outline

/-! ## What changes about a node -/

/-- The record with a type; a call has it as its result, too. -/
def NodeInfo.withType (info : NodeInfo) (type : String) : NodeInfo :=
  { info with type, result := if info.kind = .callExpr then type else info.result }

/-- The second record is the first one, or the first one had no type, was a reference or a call,
and was given a type. -/
def NodeInfo.FilledIn (info filled : NodeInfo) : Prop :=
  filled = info ∨
    info.type = "" ∧ (info.kind = .declRef ∨ info.kind = .memberRef ∨ info.kind = .callExpr) ∧
      ∃ type, filled = info.withType type

namespace Outline

section Records

variable (values functions results : List (String × String)) (info : NodeInfo)

/-- The type that is looked up for a reference or a call. -/
def lookedUp? : Option String :=
  match info.kind with
  | .declRef => (values.lookup info.spelling).or (functions.lookup info.spelling)
  | .memberRef => values.lookup info.spelling
  | .callExpr => results.lookup info.spelling
  | _ => none

/-- A record that has a type keeps it, any other one is given what is looked up for it. -/
theorem inferInfo_eq_withType :
    inferInfo values functions results info =
      if info.type = "" then
        ((lookedUp? values functions results info).map info.withType).getD info
      else info := by
  unfold inferInfo lookedUp? NodeInfo.withType
  by_cases hempty : info.type = ""
  · have hmissing : (!info.type.isEmpty) = false := by rw [hempty]; rfl
    rw [hmissing, if_pos hempty, if_neg Bool.false_ne_true]
    split
    · next hkind =>
      rw [hkind]
      cases (values.lookup info.spelling).or (functions.lookup info.spelling) <;> simp
    · next hkind =>
      rw [hkind]
      cases values.lookup info.spelling <;> simp
    · next hkind =>
      rw [hkind]
      cases results.lookup info.spelling <;> simp
    · split <;> simp_all
  · rw [if_pos (by simpa using hempty), if_neg hempty]

theorem filledIn_inferInfo : info.FilledIn (inferInfo values functions results info) := by
  rw [inferInfo_eq_withType]
  split_ifs with hempty
  · cases hfound : lookedUp? values functions results info with
    | none => exact Or.inl rfl
    | some type =>
      refine Or.inr ⟨hempty, ?_, type, rfl⟩
      unfold lookedUp? at hfound
      split at hfound
      all_goals simp_all
  · exact Or.inl rfl

/-- What was filled in is not empty, or it is what the same look-up gives once more. -/
theorem inferInfo_inferInfo :
    inferInfo values functions results (inferInfo values functions results info) =
      inferInfo values functions results info := by
  by_cases hempty : info.type = ""
  · cases hfound : lookedUp? values functions results info with
    | none =>
      have hsame : inferInfo values functions results info = info := by
        rw [inferInfo_eq_withType, if_pos hempty, hfound]
        rfl
      rw [hsame, hsame]
    | some type =>
      have hfilled : inferInfo values functions results info = info.withType type := by
        rw [inferInfo_eq_withType, if_pos hempty, hfound]
        rfl
      have hagain : lookedUp? values functions results (info.withType type) = some type := hfound
      have htwice : (info.withType type).withType type = info.withType type := by
        simp only [NodeInfo.withType]
        split_ifs <;> rfl
      rw [hfilled, inferInfo_eq_withType, hagain, Option.map_some, htwice]
      exact ite_self _
  · have hsame : inferInfo values functions results info = info := by
      rw [inferInfo_eq_withType, if_neg hempty]
    rw [hsame, hsame]

/-- A member without a type is given that of the first value of its name. -/
theorem inferInfo_member (hkind : info.kind = .memberRef) (hempty : info.type = "") :
    (inferInfo values functions results info).type = (values.lookup info.spelling).getD "" := by
  have hfound : lookedUp? values functions results info = values.lookup info.spelling := by
    rw [lookedUp?, hkind]
  rw [inferInfo_eq_withType, if_pos hempty, hfound]
  cases values.lookup info.spelling with
  | some type => rfl
  | none => exact hempty

/-- Declarations stay as they are. -/
theorem inferInfo_declaration (h : isValue info.kind = true ∨
    info.kind.isFunctionDeclaration = true) : inferInfo values functions results info = info := by
  obtain hsame | ⟨-, hkind, -⟩ := filledIn_inferInfo values functions results info
  · exact hsame
  · refine absurd h ?_
    obtain hkind | hkind | hkind := hkind <;> rw [hkind] <;> decide

end Records

/-! ## The first value of a name -/

/-- Whether a node declares a value of a name. -/
def declaresValue (outline : Outline) (name : String) (id : NodeId) : Bool :=
  (outline.info? id).any fun info => isValue info.kind && info.spelling == name

/-- The first node below the root in pre-order that declares a value of a name. -/
def firstValue? (outline : Outline) (name : String) : Option NodeId :=
  (outline.descendants root).find? (outline.declaresValue name)

/-- The type of the first value of a name. -/
def firstValueType? (outline : Outline) (name : String) : Option String :=
  ((outline.firstValue? name).bind outline.info?).map (·.type)

/-- The values that are looked up give the first one of a name. -/
theorem lookup_declaredTypes (outline : Outline) (name : String) :
    (outline.declaredTypes isValue).lookup name = outline.firstValueType? name := by
  unfold declaredTypes firstValueType? firstValue?
  induction outline.descendants root with
  | nil => rfl
  | cons id ids ih =>
    rw [List.filterMap_cons, List.find?_cons]
    cases hinfo : outline.info? id with
    | none => simpa [declaresValue, hinfo] using ih
    | some info =>
      by_cases hkind : isValue info.kind = true
      · by_cases hname : info.spelling = name
        · simp [declaresValue, hinfo, hkind, hname]
        · have hne : (name == info.spelling) = false := by simpa using Ne.symm hname
          have hother : (info.spelling == name) = false := by simpa using hname
          simpa [declaresValue, hinfo, hkind, List.lookup_cons, hne, hother] using ih
      · simpa [declaresValue, hinfo, hkind] using ih

/-! ## Filling in twice -/

theorem Rewrites.descendants {f : NodeId → NodeInfo → NodeInfo} {before after : Outline}
    (h : Rewrites f before after) (id : NodeId) : after.descendants id = before.descendants id := by
  have hwalk : ∀ visits stack, after.walk visits stack = before.walk visits stack := by
    intro visits
    induction visits with
    | zero => intro stack; rfl
    | succ visits ih =>
      intro stack
      cases stack with
      | nil => rfl
      | cons first rest => rw [walk, walk, h.children, ih]
  rw [Outline.descendants, Outline.descendants, hwalk, h.size, h.children]

/-- The declared types are the same before and after types are filled in. -/
theorem declaredTypes_inferTypes (outline : Outline) (results : List (String × String))
    (ofKind : Kind → Bool) (hkinds : ∀ kind, ofKind kind = true →
      isValue kind = true ∨ kind.isFunctionDeclaration = true) :
    (outline.inferTypes results).declaredTypes ofKind = outline.declaredTypes ofKind := by
  have hrewrites := rewrites_inferTypes outline results
  unfold declaredTypes
  rw [hrewrites.descendants]
  refine List.filterMap_congr fun id _ => ?_
  rw [hrewrites.info?]
  cases outline.info? id with
  | none => rfl
  | some info =>
    simp only [Option.map_some, inferInfo_kind]
    split_ifs with hkind
    · rw [inferInfo_declaration _ _ _ _ (hkinds _ hkind)]
    · rfl

/-- Filling in types a second time changes nothing. -/
theorem inferTypes_inferTypes (outline : Outline) (results : List (String × String)) :
    (outline.inferTypes results).inferTypes results = outline.inferTypes results := by
  have hvalues := declaredTypes_inferTypes outline results isValue fun _ => Or.inl
  have hfunctions := declaredTypes_inferTypes outline results
    Kind.isFunctionDeclaration fun _ => Or.inr
  rw [inferTypes, hvalues, hfunctions]
  simp only [inferTypes, mapInfo, Array.map_map, Function.comp_def, inferInfo_inferInfo]

end Outline

/-! ## Members while a file is built -/

/-- No member has a type yet. -/
def Outline.MembersUntyped (outline : Outline) : Prop :=
  ∀ {id : NodeId} {info : NodeInfo}, outline.info? id = some info → info.kind = .memberRef →
    info.type = ""

variable {fits : ByteRange → ByteRange → Prop} {base : ℕ} {parent : NodeId}
  {draft before after : Draft} {above info : NodeInfo} {role : Role}

theorem Joins.member_type (h : Joins draft above role info) (hkind : info.kind = .memberRef) :
    info.type = "" := by
  cases h with
  | declaration hplain =>
    rw [hkind] at hplain
    cases hplain
  | expression _ _ _ _ hmember => exact hmember hkind
  | parameter _ hparameter =>
    rw [hkind] at hparameter
    cases hparameter
  | templateParameter _ htemplate =>
    rw [hkind] at htemplate
    cases htemplate

theorem Outline.MembersUntyped.add {outline : Outline} (h : outline.MembersUntyped)
    (hnew : info.kind = .memberRef → info.type = "") (owner : NodeId) :
    (outline.add owner info role).MembersUntyped := by
  intro id record hrecord hkind
  rw [info?_add] at hrecord
  split_ifs at hrecord
  · cases hrecord
    exact hnew hkind
  · exact h hrecord hkind

theorem Step.membersUntyped (h : Step fits base parent before after)
    (hbefore : before.outline.MembersUntyped) : after.outline.MembersUntyped := by
  cases h with
  | add _ _ _ hjoins => exact hbefore.add hjoins.member_type _
  | function _ _ _ hfunction =>
    rw [Draft.withResult_outline]
    refine hbefore.add (fun hkind => ?_) _
    rw [hkind] at hfunction
    cases hfunction
  | generalize =>
    -- A template changes the kinds of declarations only, and no types.
    intro id record hrecord hkind
    rw [info?_modifyInfo] at hrecord
    split_ifs at hrecord
    · obtain ⟨old, hold, rfl⟩ := Option.map_eq_some_iff.1 hrecord
      have hmember : old.kind = .memberRef := by
        have hkinds : ∀ kind, Rules.templateKind kind = .memberRef → kind = .memberRef := by
          intro kind
          cases kind <;> decide
        unfold NodeInfo.generalized at hkind
        split_ifs at hkind
        · exact hkinds _ hkind
        · exact hkind
      have hempty : old.type = "" := hbefore hold hmember
      exact hempty
    · exact hbefore hrecord hkind
  | context => exact hbefore

theorem Steps.membersUntyped (h : Steps fits base parent before after)
    (hbefore : before.outline.MembersUntyped) : after.outline.MembersUntyped := by
  induction h with
  | refl => exact hbefore
  | tail _ hstep ih => exact hstep.membersUntyped ih

theorem membersUntyped_finish (source : List Char) (name : String) (tree : ParseTree) :
    (Draft.finish source name tree).outline.MembersUntyped := by
  refine (finish_steps_any source name tree).membersUntyped ?_
  intro id info hinfo hkind
  obtain rfl : id = root := Nat.lt_one_iff.1 (lt_size_of_info?_eq hinfo)
  cases hinfo
  cases hkind

/-! ## After a file is built -/

/-- After a file is built, filling in types leaves all nodes in their places and changes nothing
but the types, and the results of calls, of references and calls without a type. Filling in again
changes nothing. Every member then has the type of the first value of its name in pre-order, be
that declared before it or after it, and none if there is no such value. -/
theorem inferTypes_by_first_value (source : List Char) (name : String) (tree : ParseTree) :
    let built := Draft.finish source name tree
    let outline := built.outline.inferTypes built.results
    (∀ id, outline.slot? id = none ↔ built.outline.slot? id = none) ∧
    (∀ id slot, built.outline.slot? id = some slot →
      ∃ info, slot.info.FilledIn info ∧ outline.slot? id = some { slot with info }) ∧
    outline.inferTypes built.results = outline ∧
    ∀ id info, outline.info? id = some info → info.kind = .memberRef →
      info.type = (outline.firstValueType? info.spelling).getD "" := by
  intro built outline
  have hrewrites := rewrites_inferTypes built.outline built.results
  refine ⟨fun id => ?_, fun id slot hslot => ?_, inferTypes_inferTypes _ _, ?_⟩
  · rw [hrewrites id, Option.map_eq_none_iff]
  · refine ⟨inferInfo (built.outline.declaredTypes isValue)
      (built.outline.declaredTypes Kind.isFunctionDeclaration) built.results slot.info,
      filledIn_inferInfo _ _ _ _, ?_⟩
    rw [hrewrites id, hslot]
    rfl
  · intro id info hinfo hkind
    obtain ⟨old, hold, rfl⟩ := Option.map_eq_some_iff.1 ((hrewrites.info? id).symm.trans hinfo)
    have hmember : old.kind = .memberRef := by rwa [inferInfo_kind] at hkind
    have hempty := membersUntyped_finish source name tree hold hmember
    have hvalues := declaredTypes_inferTypes built.outline built.results isValue
      fun _ => Or.inl
    rw [inferInfo_member _ _ _ _ hmember hempty, inferInfo_spelling, ← lookup_declaredTypes,
      hvalues]

end StructSearch
