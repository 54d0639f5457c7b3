import StructSearch.Proofs.Outline.RuleGrowth

/-!
# The types of calls

A call has the result type of the first function of its name, be that declared before the call or
after it. While the outline is built, a call takes the result that its name has so far; what is
still missing is filled in at the end. Both ways lead to the same function because results are
remembered in the order in which functions get their numbers, and the first one of a name stays.

Results:
* `firstResult?_add`: how the results of functions grow, which is also how drafts remember them.
* `ofParseTree_call_type`: the type of a call.
-/

namespace StructSearch

open Source Outline

namespace Outline

/-- Whether a node declares a function of a name. -/
def declaresFunction (outline : Outline) (name : String) (id : NodeId) : Bool :=
  (outline.info? id).any fun info => info.kind.isFunctionDeclaration && info.spelling == name

/-- The function of a name that has the lowest number. -/
def firstFunction? (outline : Outline) (name : String) : Option NodeId :=
  (List.range outline.size).find? (outline.declaresFunction name)

/-- The result type of the first function of a name. -/
def firstResult? (outline : Outline) (name : String) : Option String :=
  ((outline.firstFunction? name).bind outline.info?).map (·.result)

/-! ## What a step does to the first function of a name -/

theorem lt_size_of_firstFunction?_eq {outline : Outline} {name : String} {id : NodeId}
    (h : outline.firstFunction? name = some id) : id < outline.size :=
  List.mem_range.1 (List.mem_of_find?_eq_some h)

theorem firstFunction?_add (outline : Outline) (parent : NodeId) (info : NodeInfo) (role : Role)
    (name : String) :
    (outline.add parent info role).firstFunction? name =
      (outline.firstFunction? name).or
        (if info.kind.isFunctionDeclaration && info.spelling == name then some outline.size
        else none) := by
  have hold : (List.range outline.size).find?
      ((outline.add parent info role).declaresFunction name) = outline.firstFunction? name := by
    refine List.find?_congr fun id hid => ?_
    unfold declaresFunction
    rw [info?_add_of_lt _ _ _ _ _ (List.mem_range.1 hid)]
  rw [firstFunction?, size_add, List.range_succ, List.find?_append, hold, List.find?_singleton]
  unfold declaresFunction
  rw [info?_add_size]
  rfl

/-- The first function of a name stays, and a new function is the first one of a new name. -/
theorem firstResult?_add (outline : Outline) (parent : NodeId) (info : NodeInfo) (role : Role)
    (name : String) :
    (outline.add parent info role).firstResult? name =
      (outline.firstResult? name).or
        (if info.kind.isFunctionDeclaration && info.spelling == name then some info.result
        else none) := by
  unfold firstResult?
  rw [firstFunction?_add]
  cases hfirst : outline.firstFunction? name with
  | some id =>
    have hid := lt_size_of_firstFunction?_eq hfirst
    obtain ⟨record, hrecord⟩ := exists_info? hid
    simp [info?_add_of_lt _ _ _ _ _ hid, hrecord]
  | none =>
    split_ifs
    · simp
    · rfl

theorem Rewrites.firstResult? {f : NodeId → NodeInfo → NodeInfo} {before after : Outline}
    (h : Rewrites f before after)
    (hkind : ∀ id info, (f id info).kind.isFunctionDeclaration = info.kind.isFunctionDeclaration)
    (hspelling : ∀ id info, (f id info).spelling = info.spelling)
    (hresult : ∀ id info, info.kind.isFunctionDeclaration = true →
      (f id info).result = info.result) (name : String) :
    after.firstResult? name = before.firstResult? name := by
  have hdeclares : after.declaresFunction name = before.declaresFunction name := by
    funext id
    unfold declaresFunction
    rw [h.info?, Option.any_map]
    simp only [hkind, hspelling]
  have hfirst : after.firstFunction? name = before.firstFunction? name := by
    rw [firstFunction?, firstFunction?, hdeclares, h.size]
  unfold Outline.firstResult?
  rw [hfirst]
  cases hfound : before.firstFunction? name with
  | none => rfl
  | some id =>
    have hdeclared := List.find?_some hfound
    unfold declaresFunction at hdeclared
    rw [Option.bind_some, Option.bind_some, h.info?]
    cases hinfo : before.info? id with
    | none => rfl
    | some info =>
      rw [hinfo, Option.any_some, Bool.and_eq_true] at hdeclared
      simp [hresult id info hdeclared.1]

end Outline

/-! ## What drafts remember -/

theorem Draft.resultOf?_withResult (draft : Draft) (name result other : String) :
    (draft.withResult name result).resultOf? other =
      (draft.resultOf? other).or (if name == other then some result else none) := by
  unfold withResult
  by_cases hname : name = other
  · subst hname
    cases hfound : draft.resultOf? name with
    | some known => simp [hfound]
    | none => simp [resultOf?]
  · have hne : (other == name) = false := by simpa using Ne.symm hname
    have hsame : (if name == other then some result else none) = none := by simp [hname]
    rw [hsame, Option.or_none]
    split_ifs
    · rfl
    · simp [resultOf?, List.lookup_cons, hne]

/-- A draft remembers the result of the first function of each name, and a call with a result has
that of the first function of its name. -/
structure Draft.Resolved (draft : Draft) : Prop where
  resultOf?_eq : ∀ name, draft.resultOf? name = draft.outline.firstResult? name
  calls : ∀ {id : NodeId} {info : NodeInfo}, draft.outline.info? id = some info →
    info.kind = .callExpr → info.type = info.result ∧
      (info.result = "" ∨ draft.outline.firstResult? info.spelling = some info.result)

variable {fits : ByteRange → ByteRange → Prop} {base : ℕ} {parent : NodeId}
  {draft before after : Draft} {above info : NodeInfo} {role : Role}

/-- A node is added; if it is a function, its result is remembered. -/
theorem Draft.Resolved.add {owner : NodeId} (h : draft.Resolved)
    (houtline : after.outline = draft.outline.add owner info role)
    (hresults : ∀ name, after.resultOf? name = (draft.resultOf? name).or
      (if info.kind.isFunctionDeclaration && info.spelling == name then some info.result
      else none))
    (hcall : info.kind = .callExpr → info.type = info.result ∧
      info.result = (draft.resultOf? info.spelling).getD "") : after.Resolved := by
  -- The first function of a name stays the first one.
  have hstays : ∀ {name result}, draft.outline.firstResult? name = some result →
      after.outline.firstResult? name = some result := by
    intro name result hfirst
    rw [houtline, firstResult?_add, hfirst, Option.some_or]
  constructor
  · intro name
    rw [hresults, houtline, firstResult?_add, h.resultOf?_eq]
  · intro id record hrecord hkind
    rw [houtline, info?_add] at hrecord
    split_ifs at hrecord
    · cases hrecord
      obtain ⟨htype, hresult⟩ := hcall hkind
      refine ⟨htype, ?_⟩
      rw [h.resultOf?_eq] at hresult
      cases hfirst : draft.outline.firstResult? info.spelling with
      | none => exact Or.inl (by rw [hresult, hfirst]; rfl)
      | some result => exact Or.inr (by rw [hstays hfirst, hresult, hfirst]; rfl)
    · obtain ⟨htype, hresult⟩ := h.calls hrecord hkind
      exact ⟨htype, hresult.imp_right hstays⟩

theorem Joins.not_function (h : Joins draft above role info) :
    info.kind.isFunctionDeclaration = false := by
  have hkinds : ∀ kind : Kind, kind.isPlainDeclaration = true ∨ kind.isExpression = true ∨
      kind = .paramDecl ∨ kind.isTemplateParameter = true → kind.isFunctionDeclaration = false := by
    intro kind
    cases kind <;> decide
  cases h with
  | declaration hkind => exact hkinds _ (Or.inl hkind)
  | expression hkind => exact hkinds _ (Or.inr (Or.inl hkind))
  | parameter _ hkind => exact hkinds _ (Or.inr (Or.inr (Or.inl hkind)))
  | templateParameter _ hkind => exact hkinds _ (Or.inr (Or.inr (Or.inr hkind)))

theorem Joins.call_type (h : Joins draft above role info) (hkind : info.kind = .callExpr) :
    info.type = info.result ∧ info.result = (draft.resultOf? info.spelling).getD "" := by
  cases h with
  | declaration hplain =>
    rw [hkind] at hplain
    cases hplain
  | expression _ _ _ hcall => exact hcall hkind
  | parameter _ hparameter =>
    rw [hkind] at hparameter
    cases hparameter
  | templateParameter _ htemplate =>
    rw [hkind] at htemplate
    cases htemplate

/-- A template changes neither names nor results, and functions stay functions. -/
theorem Draft.Resolved.generalized (h : draft.Resolved) (id : NodeId) (isGeneral : Bool)
    (extent : Extent) (range : ByteRange) :
    Draft.Resolved { draft with
      outline := draft.outline.modifyInfo id (.generalized isGeneral extent range) } := by
  have hf := rewrites_modifyInfo draft.outline id (.generalized isGeneral extent range)
  have hkinds : ∀ kind : Kind, (Rules.templateKind kind).isFunctionDeclaration =
      kind.isFunctionDeclaration ∧ (Rules.templateKind kind = .callExpr → kind = .callExpr) := by
    intro kind
    cases kind <;> decide
  have hfirst : ∀ name, (draft.outline.modifyInfo id
      (.generalized isGeneral extent range)).firstResult? name =
        draft.outline.firstResult? name := by
    refine hf.firstResult? ?_ ?_ ?_
    · intro other info
      unfold NodeInfo.generalized
      split_ifs
      · exact (hkinds info.kind).1
      · rfl
      · rfl
    · intro other info
      split_ifs <;> rfl
    · intro other info _
      split_ifs <;> rfl
  constructor
  · intro name
    rw [hfirst]
    exact h.resultOf?_eq name
  · intro other record hrecord hkind
    rw [hf.info?, Option.map_eq_some_iff] at hrecord
    obtain ⟨info, hinfo, rfl⟩ := hrecord
    rw [hfirst]
    have hcall : info.kind = .callExpr := by
      unfold NodeInfo.generalized at hkind
      split_ifs at hkind
      · exact (hkinds info.kind).2 hkind
      · exact hkind
      · exact hkind
    have hcalls := h.calls hinfo hcall
    split_ifs <;> exact hcalls

theorem Step.resolved (h : Step fits base parent before after) (hr : before.Resolved) :
    after.Resolved := by
  cases h with
  | add _ _ _ hjoins =>
    refine hr.add rfl (fun name => ?_) hjoins.call_type
    simp only [hjoins.not_function, Bool.false_and, Bool.false_eq_true, if_false, Option.or_none]
    rfl
  | function _ _ _ hkind =>
    refine hr.add (Draft.withResult_outline _ _ _) (fun name => ?_) ?_
    · rw [Draft.resultOf?_withResult, hkind, Bool.true_and]
      rfl
    · intro hcall
      rw [hcall] at hkind
      cases hkind
  | generalize => exact hr.generalized _ _ _ _
  | context => exact ⟨hr.resultOf?_eq, hr.calls⟩

theorem Steps.resolved (h : Steps fits base parent before after) (hr : before.Resolved) :
    after.Resolved := by
  induction h with
  | refl => exact hr
  | tail _ hstep ih => exact hstep.resolved ih

/-! ## Outlines of parse trees -/

theorem resolved_start (source : List Char) (name : String) (tree : ParseTree) :
    (Draft.start source name tree).Resolved := by
  constructor
  · intro function
    rfl
  · intro id info hinfo hkind
    obtain rfl : id = root := Nat.lt_one_iff.1 (lt_size_of_info?_eq hinfo)
    cases hinfo
    cases hkind

theorem inferInfo_function (values functions results : List (String × String))
    (h : info.kind.isFunctionDeclaration = true) :
    inferInfo values functions results info = info := by
  unfold inferInfo
  split_ifs
  · rfl
  · split
    · simp_all [Kind.isFunctionDeclaration]
    · simp_all [Kind.isFunctionDeclaration]
    · simp_all [Kind.isFunctionDeclaration]
    · rfl

/-- A call without a type takes the result of the function of its name. -/
theorem inferInfo_call {values functions results : List (String × String)} {inferred : NodeInfo}
    (hinferred : inferInfo values functions results info = inferred)
    (hkind : info.kind = .callExpr) (htype : info.type = info.result) :
    inferred.type = inferred.result ∧
      inferred.result =
        if info.result = "" then (results.lookup info.spelling).getD "" else info.result := by
  subst hinferred
  unfold inferInfo
  by_cases hempty : info.result = ""
  · have hmissing : (!info.type.isEmpty) = false := by rw [htype, hempty]; rfl
    rw [hmissing, hkind, if_pos hempty]
    cases results.lookup info.spelling with
    | some result => exact ⟨rfl, rfl⟩
    | none => exact ⟨htype, hempty⟩
  · have hpresent : (!info.type.isEmpty) = true := by simpa [htype] using hempty
    rw [hpresent, if_neg hempty]
    exact ⟨htype, rfl⟩

/-- The type of a call is the result of the first function of its name, wherever in the file that
is declared, and empty if the file declares none. -/
theorem ofParseTree_call_type (source name : String) (tree : ParseTree) {id : NodeId}
    (hinfo : (Outline.ofParseTree source name tree).info? id = some info)
    (hkind : info.kind = .callExpr) :
    info.type = info.result ∧
      info.result =
        ((Outline.ofParseTree source name tree).firstResult? info.spelling).getD "" := by
  have hresolved := (finish_steps_any source.toList name tree).resolved (resolved_start _ _ _)
  have hinfer := rewrites_inferTypes (Draft.finish source.toList name tree).outline
    (Draft.finish source.toList name tree).results
  have hfirst : ∀ function, (Outline.ofParseTree source name tree).firstResult? function =
      (Draft.finish source.toList name tree).outline.firstResult? function := by
    refine hinfer.firstResult? ?_ ?_ ?_
    · intro _ record
      rw [inferInfo_kind]
    · intro _ record
      rw [inferInfo_spelling]
    · intro _ record hfunction
      rw [inferInfo_function _ _ _ hfunction]
  obtain ⟨old, hold, hinferred⟩ := Option.map_eq_some_iff.1 ((hinfer.info? id).symm.trans hinfo)
  have hcall : old.kind = .callExpr := by
    rwa [← hinferred, inferInfo_kind] at hkind
  have hspelling : info.spelling = old.spelling := by
    rw [← hinferred, inferInfo_spelling]
  obtain ⟨htype, hresult⟩ := hresolved.calls hold hcall
  obtain ⟨hsame, hfilled⟩ := inferInfo_call hinferred hcall htype
  refine ⟨hsame, ?_⟩
  rw [hfilled, hfirst, hspelling]
  -- A call that was built without a result looks its name up again, now in the whole file.
  by_cases hempty : old.result = ""
  · rw [if_pos hempty, ← hresolved.resultOf?_eq]
    rfl
  · rw [if_neg hempty, hresult.resolve_left hempty]
    rfl

/-- The source `int a = f(); long f(); int f();`: a call before two functions of its name. -/
def callBeforeFunctions : ParseTree :=
  .plain "translation_unit" 0 31 none [
    .plain "declaration" 0 12 none [
      .plain "primitive_type" 0 3 (some .type) [],
      .plain "init_declarator" 4 11 (some .declarator) [
        .plain "identifier" 4 5 (some .declarator) [],
        .plain "call_expression" 8 11 (some .value) [
          .plain "identifier" 8 9 (some .function) [],
          .plain "argument_list" 9 11 (some .arguments) []]]],
    .plain "declaration" 13 22 none [
      .plain "primitive_type" 13 17 (some .type) [],
      .plain "function_declarator" 18 21 (some .declarator) [
        .plain "identifier" 18 19 (some .declarator) [],
        .plain "parameter_list" 19 21 (some .parameters) []]],
    .plain "declaration" 23 31 none [
      .plain "primitive_type" 23 26 (some .type) [],
      .plain "function_declarator" 27 30 (some .declarator) [
        .plain "identifier" 27 28 (some .declarator) [],
        .plain "parameter_list" 28 30 (some .parameters) []]]]

/-- The call has the type of the function that comes first, although both come after the call. -/
theorem callBeforeFunctions_type :
    ∃ info, (Outline.ofParseTree "int a = f(); long f(); int f();" "a.cpp"
        callBeforeFunctions).info? 2 = some info ∧
      info.kind = .callExpr ∧ info.type = "long" ∧ info.result = "long" := by
  have hkind : ((Outline.ofParseTree "int a = f(); long f(); int f();" "a.cpp"
      callBeforeFunctions).info? 2).map (fun info => (info.kind, info.spelling)) =
        some (.callExpr, "f") := by decide +kernel
  have hfirst : (Outline.ofParseTree "int a = f(); long f(); int f();" "a.cpp"
      callBeforeFunctions).firstResult? "f" = some "long" := by decide +kernel
  obtain ⟨info, hinfo, hrecord⟩ := Option.map_eq_some_iff.1 hkind
  obtain ⟨hcall, hspelling⟩ := Prod.mk.inj hrecord
  obtain ⟨htype, hresult⟩ := ofParseTree_call_type _ _ _ hinfo hcall
  rw [hspelling, hfirst] at hresult
  exact ⟨info, hinfo, hcall, htype.trans hresult, hresult⟩

end StructSearch
