import StructSearch.Outline.OfParseTree
import StructSearch.Proofs.Source.Subtrees

/-!
# Spellings of types

A declarator makes a type of its base type, layer by layer from the name outwards: `*p[3]` is an
array of three pointers, `(*p)[3]` a pointer to an array of three. The spelling of the type is put
together from three texts, the marks of all pointers, the brackets of all arrays and the signature
of a function, so it does not tell how these layers are nested: both of the types above are spelled
`int *[3]`.

What the spelling does tell is the type with its layers flattened. If there is a function, only the
one nearest the name is left, behind a pointer; otherwise the arrays come first and then the
pointers. Types that are flat already are told apart.

Results:
* `typeSpelling_of_declares`: the spelling of a type in terms of its layers.
* `flatMap_code_inj`: pointers and arrays can be read back from their marks and brackets.
* `typeSpelling_eq_iff_flattened`: two types are spelled alike iff they are alike when flattened.
* `pointerToArray_spelled_as_array`: two types that are spelled alike.
-/

namespace StructSearch

open Source ParseTree

/-! ## Types of declarators -/

/-- A layer that a declarator adds to a type. -/
inductive TypeLayer where
  | pointer (isConst : Bool)
  | array (bound : String)
  | function (parameters : String)
  deriving Repr, DecidableEq

/-- The type that a declarator gives to a variable: its layers from the name outwards. A function
declarator stands around parentheses; any other declares a function. -/
inductive Declares (source : List Char) : ParseTree → List TypeLayer → Prop
  | name {tree : ParseTree} (hname : wrapsName tree.construct = false) : Declares source tree []
  | parenthesized {tree inner : ParseTree} {type : List TypeLayer}
      (hconstruct : tree.construct = .parenthesizedDeclarator)
      (hinner : tree.namedChildren.head? = some inner) (h : Declares source inner type) :
      Declares source tree type
  | pointer {tree inner : ParseTree} {type : List TypeLayer}
      (hconstruct : tree.construct = .pointerDeclarator)
      (hinner : tree.part? .declarator = some inner) (h : Declares source inner type) :
      Declares source tree (type ++ [.pointer (hasConst source tree)])
  | array {tree inner : ParseTree} {type : List TypeLayer}
      (hconstruct : tree.construct = .arrayDeclarator)
      (hinner : tree.part? .declarator = some inner) (h : Declares source inner type) :
      Declares source tree (type ++ [.array (tree.partWords source .size)])
  | function {tree inner : ParseTree} {type : List TypeLayer}
      (hconstruct : tree.construct = .functionDeclarator)
      (hinner : tree.part? .declarator = some inner)
      (hparentheses : inner.construct = .parenthesizedDeclarator) (h : Declares source inner type) :
      Declares source tree (type ++ [.function (tree.partWords source .parameters)])

theorem Declares.of_eq {source : List Char} {tree : ParseTree} {type other : List TypeLayer}
    (h : Declares source tree type) (heq : type = other) : Declares source tree other :=
  heq ▸ h

namespace TypeLayer

/-- How a layer is written in the spelling of a type without functions. -/
def code : TypeLayer → List Char
  | pointer isConst => '*' :: if isConst then "const".toList else []
  | array bound => '[' :: (bound.toList ++ [']'])
  | function _ => []

/-- Whether a layer is a pointer or a reference. -/
def isPointer : TypeLayer → Bool
  | pointer _ => true
  | _ => false

/-- Whether a layer is an array. -/
def isArray : TypeLayer → Bool
  | array _ => true
  | _ => false

/-- The text of the parameters, for the layer of a function. -/
def parameters? : TypeLayer → Option String
  | function parameters => some parameters
  | _ => none

/-- The text of the bound, for the layer of an array. -/
def bound? : TypeLayer → Option String
  | array bound => some bound
  | _ => none

end TypeLayer

/-- The parameters of the function nearest the name. -/
def nearestFunction? (type : List TypeLayer) : Option String :=
  type.findSome? TypeLayer.parameters?

/-- The pointers of a type from the outside in, which is how they are written. -/
def writtenPointers (type : List TypeLayer) : List TypeLayer :=
  (type.filter TypeLayer.isPointer).reverse

/-- The arrays of a type from the name outwards, which is how they are written. -/
def writtenArrays (type : List TypeLayer) : List TypeLayer := type.filter TypeLayer.isArray

/-- The pointers and the arrays of a type in the order in which they are written. -/
def writtenLayers (type : List TypeLayer) : List TypeLayer :=
  writtenPointers type ++ writtenArrays type

/-- A text behind a space, if it is not empty. -/
def spaced (text : List Char) : List Char := if text.isEmpty then [] else ' ' :: text

theorem spaced_inj {text other : List Char} (h : spaced text = spaced other) : text = other := by
  cases text with
  | nil =>
    cases other with
    | nil => rfl
    | cons c rest => cases h
  | cons c rest =>
    cases other with
    | nil => cases h
    | cons c' rest' => exact List.tail_eq_of_cons_eq h

/-- What the spelling of a type has behind its base type. -/
def spellingTail (type : List TypeLayer) : List Char :=
  match nearestFunction? type with
  | some parameters => " (*)".toList ++ parameters.toList
  | none => spaced ((writtenLayers type).flatMap TypeLayer.code)

@[simp]
theorem nearestFunction?_concat (type : List TypeLayer) (layer : TypeLayer) :
    nearestFunction? (type ++ [layer]) = (nearestFunction? type).or layer.parameters? := by
  rw [nearestFunction?, List.findSome?_append]
  cases layer <;> rfl

@[simp]
theorem writtenPointers_append (type other : List TypeLayer) :
    writtenPointers (type ++ other) = writtenPointers other ++ writtenPointers type := by
  simp only [writtenPointers, List.filter_append, List.reverse_append]

@[simp]
theorem writtenArrays_append (type other : List TypeLayer) :
    writtenArrays (type ++ other) = writtenArrays type ++ writtenArrays other :=
  List.filter_append ..

namespace Declarator

variable {source : List Char} {tree : ParseTree} {type : List TypeLayer}

theorem unwrap_declares (h : Declares source tree type) (d : Declarator) :
    (unwrap source d tree).pointers.toList =
        d.pointers.toList ++ (writtenPointers type).flatMap TypeLayer.code ∧
      (unwrap source d tree).arrays.toList =
        (writtenArrays type).flatMap TypeLayer.code ++ d.arrays.toList ∧
      (unwrap source d tree).functionPointer =
        ((nearestFunction? type).map ("(*)" ++ ·)).or d.functionPointer := by
  induction h generalizing d with
  | name hname =>
    rw [unwrap_name hname]
    exact ⟨(List.append_nil _).symm, rfl, rfl⟩
  | parenthesized hconstruct hinner _ ih =>
    rw [unwrap_parenthesized hconstruct hinner]
    exact ih d
  | @pointer tree inner type hconstruct hinner _ ih =>
    rw [unwrap_pointer hconstruct hinner]
    obtain ⟨hpointers, harrays, hfunction⟩ := ih _
    refine ⟨?_, ?_, ?_⟩
    · have hlast (isConst : Bool) : writtenPointers [.pointer isConst] = [.pointer isConst] := rfl
      rw [hpointers, writtenPointers_append, hlast, List.flatMap_append, ← List.append_assoc,
        String.append_assoc, String.toList_append]
      cases hasConst source tree <;> rfl
    · rw [harrays, writtenArrays_append, List.flatMap_append]
      exact congrArg (· ++ _) (List.append_nil _).symm
    · rw [hfunction, nearestFunction?_concat]
      exact congrArg (Option.or · _) (congrArg _ (Option.or_none.symm))
  | array hconstruct hinner _ ih =>
    rw [unwrap_array hconstruct hinner]
    obtain ⟨hpointers, harrays, hfunction⟩ := ih _
    refine ⟨?_, ?_, ?_⟩
    · rw [hpointers, writtenPointers_append]
      rfl
    · have hlast (bound : String) : writtenArrays [.array bound] = [.array bound] := rfl
      rw [harrays, writtenArrays_append, hlast, List.flatMap_append]
      simp only [String.toList_append, List.append_assoc, List.flatMap_singleton, TypeLayer.code,
        List.cons_append, List.nil_append]
      rfl
    · rw [hfunction, nearestFunction?_concat]
      exact congrArg (Option.or · _) (congrArg _ (Option.or_none.symm))
  | @function tree inner type hconstruct hinner hparentheses _ ih =>
    rw [unwrap_functionPointer hconstruct hinner hparentheses]
    obtain ⟨hpointers, harrays, hfunction⟩ := ih _
    refine ⟨?_, ?_, ?_⟩
    · rw [hpointers, writtenPointers_append]
      rfl
    · rw [harrays, writtenArrays_append, List.flatMap_append]
      exact congrArg (· ++ _) (List.append_nil _).symm
    · -- An inner function replaces the signature of an outer one.
      rw [hfunction, nearestFunction?_concat]
      cases nearestFunction? type <;> rfl

theorem typeSpelling_of_functionPointer_eq_none {d : Declarator} (h : d.functionPointer = none)
    (base : String) :
    (d.typeSpelling base).toList =
      base.toList ++ spaced (d.pointers.toList ++ d.arrays.toList) := by
  rw [typeSpelling, h, spaced]
  by_cases hpointers : d.pointers = ""
  · by_cases harrays : d.arrays = ""
    · simp [hpointers, harrays]
    · simp [hpointers, harrays]
  · simp [hpointers]

/-- The spelling of a type in terms of its layers. -/
theorem typeSpelling_of_declares (h : Declares source tree type) (base : String) :
    ((ofTree source tree).typeSpelling base).toList = base.toList ++ spellingTail type := by
  obtain ⟨hpointers, harrays, hfunction⟩ := unwrap_declares h {}
  rw [Option.or_none] at hfunction
  cases hnearest : nearestFunction? type with
  | some parameters => simp [ofTree, typeSpelling, spellingTail, hfunction, hnearest]
  | none =>
    rw [hnearest] at hfunction
    have hmarks : (writtenLayers type).flatMap TypeLayer.code =
        (unwrap source {} tree).pointers.toList ++ (unwrap source {} tree).arrays.toList := by
      rw [hpointers, harrays, writtenLayers, List.flatMap_append]
      exact congrArg (_ ++ ·) (List.append_nil _).symm
    rw [ofTree, typeSpelling_of_functionPointer_eq_none hfunction, spellingTail, hnearest, hmarks]

end Declarator

/-! ## Reading the layers back -/

/-- The bounds of arrays are told apart by the brackets that close them: none of them, with its
bracket, is where another one begins. -/
def BoundsClosed (layers : List TypeLayer) : Prop :=
  ∀ b ∈ layers.filterMap TypeLayer.bound?, ∀ c ∈ layers.filterMap TypeLayer.bound?,
    b.toList ++ [']'] <+: c.toList ++ [']'] → b = c

instance (layers : List TypeLayer) : Decidable (BoundsClosed layers) :=
  inferInstanceAs (Decidable (∀ b ∈ _, ∀ c ∈ _, _ → _))

theorem BoundsClosed.eq_of_isPrefix {layers : List TypeLayer} {b c : String}
    (h : BoundsClosed layers) (hb : .array b ∈ layers) (hc : .array c ∈ layers)
    (hbegins : b.toList ++ [']'] <+: c.toList ++ [']']) : b = c :=
  h b (List.mem_filterMap.2 ⟨_, hb, rfl⟩) c (List.mem_filterMap.2 ⟨_, hc, rfl⟩) hbegins

/-- What is written of pointers and arrays begins with a mark or a bracket. -/
theorem flatMap_code_ne_cons {c : Char} (hmark : c ≠ '*') (hbracket : c ≠ '[')
    (layers : List TypeLayer) (rest : List Char) : layers.flatMap TypeLayer.code ≠ c :: rest := by
  induction layers with
  | nil => simp
  | cons layer layers ih =>
    rw [List.flatMap_cons]
    cases layer with
    | pointer isConst => exact fun h => hmark (List.cons.inj h).1.symm
    | array bound => exact fun h => hbracket (List.cons.inj h).1.symm
    | function parameters => exact ih

/-- The first of several layers can be read back, and what is written behind it. -/
theorem code_append_inj {context : List TypeLayer} (hclosed : BoundsClosed context)
    {layer other : TypeLayer} {layers others : List TypeLayer}
    (hlayer : layer ∈ context) (hother : other ∈ context)
    (hleft : layer.parameters? = none) (hright : other.parameters? = none)
    (h : layer.code ++ layers.flatMap TypeLayer.code =
      other.code ++ others.flatMap TypeLayer.code) :
    layer = other ∧ layers.flatMap TypeLayer.code = others.flatMap TypeLayer.code := by
  cases layer with
  | function parameters => cases hleft
  | pointer isConst =>
    cases other with
    | function parameters => cases hright
    | array bound => exact absurd (List.cons.inj h).1 (by decide)
    | pointer isConst' =>
      have htail := List.tail_eq_of_cons_eq h
      cases isConst <;> cases isConst'
      · exact ⟨rfl, htail⟩
      · exact absurd htail (flatMap_code_ne_cons (by decide) (by decide) _ _)
      · exact absurd htail.symm (flatMap_code_ne_cons (by decide) (by decide) _ _)
      · exact ⟨rfl, List.append_cancel_left htail⟩
  | array bound =>
    cases other with
    | function parameters => cases hright
    | pointer isConst => exact absurd (List.cons.inj h).1 (by decide)
    | array bound' =>
      have htail := List.tail_eq_of_cons_eq h
      have hother' : bound'.toList ++ [']'] <+:
          bound.toList ++ [']'] ++ layers.flatMap TypeLayer.code := ⟨_, htail.symm⟩
      have hbound : bound = bound' := by
        rcases List.prefix_or_prefix_of_prefix (List.prefix_append _ _) hother' with
          hbegins | hbegins
        · exact hclosed.eq_of_isPrefix hlayer hother hbegins
        · exact (hclosed.eq_of_isPrefix hother hlayer hbegins).symm
      subst hbound
      exact ⟨rfl, List.append_cancel_left htail⟩

theorem code_ne_nil {layer : TypeLayer} (h : layer.parameters? = none) : layer.code ≠ [] := by
  cases layer with
  | pointer isConst => exact List.cons_ne_nil _ _
  | array bound => exact List.cons_ne_nil _ _
  | function parameters => cases h

/-- Pointers and arrays can be read back from their marks and brackets. -/
theorem flatMap_code_inj {context : List TypeLayer} (hclosed : BoundsClosed context)
    {layers others : List TypeLayer} (hlayers : layers ⊆ context) (hothers : others ⊆ context)
    (hleft : ∀ layer ∈ layers, layer.parameters? = none)
    (hright : ∀ layer ∈ others, layer.parameters? = none)
    (h : layers.flatMap TypeLayer.code = others.flatMap TypeLayer.code) : layers = others := by
  induction layers generalizing others with
  | nil =>
    cases others with
    | nil => rfl
    | cons other others =>
      exact absurd (List.append_eq_nil_iff.1 h.symm).1 (code_ne_nil (hright _ List.mem_cons_self))
  | cons layer layers ih =>
    cases others with
    | nil =>
      exact absurd (List.append_eq_nil_iff.1 h).1 (code_ne_nil (hleft _ List.mem_cons_self))
    | cons other others =>
      rw [List.cons_subset] at hlayers hothers
      rw [List.forall_mem_cons] at hleft hright
      obtain ⟨rfl, hrest⟩ := code_append_inj hclosed hlayers.1 hothers.1 hleft.1 hright.1 h
      rw [ih hlayers.2 hothers.2 hleft.2 hright.2 hrest]

/-! ## Flattened types -/

/-- What the spelling of a type keeps of it: the function nearest the name, behind a pointer, or
else the arrays and then the pointers. -/
def flattened (type : List TypeLayer) : List TypeLayer :=
  match nearestFunction? type with
  | some parameters => [.pointer false, .function parameters]
  | none => writtenArrays type ++ (writtenPointers type).reverse

/-- Types that the spelling keeps whole: pointers to functions, and arrays of pointers. -/
def IsFlat (type : List TypeLayer) : Prop :=
  (∃ parameters, type = [.pointer false, .function parameters]) ∨
    ∃ bounds marks, type = List.map .array bounds ++ List.map .pointer marks

theorem writtenLayers_subset (type : List TypeLayer) : writtenLayers type ⊆ type := by
  intro layer hlayer
  simp only [writtenLayers, writtenPointers, writtenArrays, List.mem_append, List.mem_reverse,
    List.mem_filter] at hlayer
  rcases hlayer with h | h
  · exact h.1
  · exact h.1

theorem parameters?_of_mem_writtenLayers {type : List TypeLayer} {layer : TypeLayer}
    (h : layer ∈ writtenLayers type) : layer.parameters? = none := by
  cases layer with
  | pointer isConst => rfl
  | array bound => rfl
  | function parameters =>
    simp [writtenLayers, writtenPointers, writtenArrays, TypeLayer.isPointer,
      TypeLayer.isArray] at h

@[simp]
theorem writtenPointers_reverse (type : List TypeLayer) :
    writtenPointers type.reverse = (writtenPointers type).reverse := by
  rw [writtenPointers, List.filter_reverse, writtenPointers]

@[simp]
theorem writtenArrays_reverse (type : List TypeLayer) :
    writtenArrays type.reverse = (writtenArrays type).reverse :=
  List.filter_reverse

@[simp]
theorem writtenPointers_writtenArrays (type : List TypeLayer) :
    writtenPointers (writtenArrays type) = [] := by
  rw [writtenPointers, List.reverse_eq_nil_iff, writtenArrays, List.filter_filter,
    List.filter_eq_nil_iff]
  intro layer _
  cases layer <;> exact Bool.false_ne_true

@[simp]
theorem writtenArrays_writtenPointers (type : List TypeLayer) :
    writtenArrays (writtenPointers type) = [] := by
  rw [writtenPointers, writtenArrays_reverse, List.reverse_eq_nil_iff, writtenArrays,
    List.filter_filter, List.filter_eq_nil_iff]
  intro layer _
  cases layer <;> exact Bool.false_ne_true

@[simp]
theorem writtenPointers_writtenPointers (type : List TypeLayer) :
    writtenPointers (writtenPointers type) = (writtenPointers type).reverse :=
  congrArg List.reverse <| List.filter_eq_self.2 fun _ hlayer =>
    (List.mem_filter.1 (List.mem_reverse.1 hlayer)).2

@[simp]
theorem writtenArrays_writtenArrays (type : List TypeLayer) :
    writtenArrays (writtenArrays type) = writtenArrays type :=
  List.filter_eq_self.2 fun _ hlayer => (List.mem_filter.1 hlayer).2

/-- Without functions, the flattened type can be told from the layers that are written. -/
theorem flattened_of_nearestFunction?_eq_none {type : List TypeLayer}
    (h : nearestFunction? type = none) :
    flattened type =
      writtenArrays (writtenLayers type) ++ writtenPointers (writtenLayers type) := by
  rw [flattened, h]
  simp [writtenLayers]

/-- The spelling of a type depends on nothing but the flattened type. -/
theorem spellingTail_flattened (type : List TypeLayer) :
    spellingTail (flattened type) = spellingTail type := by
  cases hnearest : nearestFunction? type with
  | some parameters =>
    rw [flattened, hnearest, spellingTail, spellingTail, hnearest]
    rfl
  | none =>
    have hflat : nearestFunction? (flattened type) = none := by
      rw [nearestFunction?, List.findSome?_eq_none_iff, flattened, hnearest]
      intro layer hlayer
      have hwritten : layer ∈ writtenLayers type := by
        simpa [writtenLayers, or_comm] using hlayer
      exact parameters?_of_mem_writtenLayers hwritten
    have hlayers : writtenLayers (flattened type) = writtenLayers type := by
      rw [flattened, hnearest]
      simp [writtenLayers]
    rw [spellingTail, hflat, hlayers, spellingTail, hnearest]

/-- No marks of pointers and arrays are taken for a signature. -/
theorem spaced_flatMap_code_ne (layers : List TypeLayer) (parameters : List Char) :
    spaced (layers.flatMap TypeLayer.code) ≠ " (*)".toList ++ parameters := by
  unfold spaced
  split_ifs
  · exact (List.cons_ne_nil _ _).symm
  · intro h
    exact flatMap_code_ne_cons (by decide) (by decide) _ _ (List.tail_eq_of_cons_eq h)

/-- The flattened type can be read off the spelling. -/
theorem flattened_eq_of_spellingTail_eq {type other : List TypeLayer}
    (hclosed : BoundsClosed (type ++ other)) (h : spellingTail type = spellingTail other) :
    flattened type = flattened other := by
  unfold spellingTail at h
  cases hfirst : nearestFunction? type with
  | some parameters =>
    cases hsecond : nearestFunction? other with
    | some parameters' =>
      rw [hfirst, hsecond] at h
      rw [flattened, flattened, hfirst, hsecond, String.toList_inj.1 (List.append_cancel_left h)]
    | none =>
      rw [hfirst, hsecond] at h
      exact absurd h.symm (spaced_flatMap_code_ne _ _)
  | none =>
    cases hsecond : nearestFunction? other with
    | some parameters =>
      rw [hfirst, hsecond] at h
      exact absurd h (spaced_flatMap_code_ne _ _)
    | none =>
      rw [hfirst, hsecond] at h
      have hlayers := flatMap_code_inj hclosed
        (List.subset_append_of_subset_left _ (writtenLayers_subset type))
        (List.subset_append_of_subset_right _ (writtenLayers_subset other))
        (fun _ => parameters?_of_mem_writtenLayers)
        (fun _ => parameters?_of_mem_writtenLayers) (spaced_inj h)
      rw [flattened_of_nearestFunction?_eq_none hfirst,
        flattened_of_nearestFunction?_eq_none hsecond, hlayers]

theorem flattened_of_isFlat {type : List TypeLayer} (h : IsFlat type) : flattened type = type := by
  rcases h with ⟨parameters, rfl⟩ | ⟨bounds, marks, rfl⟩
  · rfl
  · have hnone : nearestFunction? (List.map .array bounds ++ List.map .pointer marks) = none := by
      rw [nearestFunction?, List.findSome?_eq_none_iff]
      intro layer hlayer
      rcases List.mem_append.1 hlayer with h | h
      · obtain ⟨bound, -, rfl⟩ := List.mem_map.1 h
        rfl
      · obtain ⟨isConst, -, rfl⟩ := List.mem_map.1 h
        rfl
    rw [flattened, hnone]
    simp [writtenArrays, writtenPointers, List.filter_map, Function.comp_def, TypeLayer.isArray,
      TypeLayer.isPointer]

/-- Two types over the same base type are spelled alike iff they are alike when flattened. So arrays
of pointers and pointers to functions are told apart, but not how pointers and arrays are nested in
other types, nor what a function gives back. -/
theorem typeSpelling_eq_iff_flattened (source source' : List Char) (first second : ParseTree)
    (type other : List TypeLayer) (base : String) (hfirst : Declares source first type)
    (hsecond : Declares source' second other) (hclosed : BoundsClosed (type ++ other)) :
    ((Declarator.ofTree source first).typeSpelling base =
        (Declarator.ofTree source' second).typeSpelling base ↔ flattened type = flattened other) ∧
      (IsFlat type → IsFlat other →
        (Declarator.ofTree source first).typeSpelling base =
          (Declarator.ofTree source' second).typeSpelling base → type = other) := by
  have hiff : (Declarator.ofTree source first).typeSpelling base =
      (Declarator.ofTree source' second).typeSpelling base ↔ flattened type = flattened other := by
    rw [← String.toList_inj, Declarator.typeSpelling_of_declares hfirst,
      Declarator.typeSpelling_of_declares hsecond, List.append_cancel_left_eq]
    refine ⟨flattened_eq_of_spellingTail_eq hclosed, fun h => ?_⟩
    rw [← spellingTail_flattened type, h, spellingTail_flattened]
  refine ⟨hiff, fun hflat hflat' h => ?_⟩
  calc type = flattened type := (flattened_of_isFlat hflat).symm
    _ = flattened other := hiff.1 h
    _ = other := flattened_of_isFlat hflat'

/-- Declarations of an array of pointers, a pointer to an array and a pointer to a function. -/
def nestedTypes : String := "int *p[3], (*q)[3], (*f)(int);"

/-- The first declarator of `nestedTypes`. -/
def arrayOfPointers : ParseTree :=
  .plain "pointer_declarator" 4 9 (some .declarator) [
    .plain "array_declarator" 5 9 (some .declarator) [
      .plain "identifier" 5 6 (some .declarator) [],
      .plain "number_literal" 7 8 (some .size) []]]

/-- The second declarator of `nestedTypes`. -/
def pointerToArray : ParseTree :=
  .plain "array_declarator" 11 18 (some .declarator) [
    .plain "parenthesized_declarator" 11 15 (some .declarator) [
      .plain "pointer_declarator" 12 14 none [
        .plain "identifier" 13 14 (some .declarator) []]],
    .plain "number_literal" 16 17 (some .size) []]

/-- The third declarator of `nestedTypes`. -/
def pointerToFunction : ParseTree :=
  .plain "function_declarator" 20 29 (some .declarator) [
    .plain "parenthesized_declarator" 20 24 (some .declarator) [
      .plain "pointer_declarator" 21 23 none [
        .plain "identifier" 22 23 (some .declarator) []]],
    .plain "parameter_list" 24 29 (some .parameters) [
      .plain "parameter_declaration" 25 28 none [
        .plain "primitive_type" 25 28 (some .type) []]]]

theorem declares_arrayOfPointers :
    Declares nestedTypes.toList arrayOfPointers [.array "3", .pointer false] := by
  have h : Declares nestedTypes.toList arrayOfPointers _ :=
    .pointer (by decide +kernel) rfl (.array (by decide +kernel) rfl (.name (by decide +kernel)))
  exact h.of_eq (by decide +kernel)

theorem declares_pointerToArray :
    Declares nestedTypes.toList pointerToArray [.pointer false, .array "3"] := by
  have h : Declares nestedTypes.toList pointerToArray _ :=
    .array (by decide +kernel) rfl (.parenthesized (by decide +kernel) rfl
      (.pointer (by decide +kernel) rfl (.name (by decide +kernel))))
  exact h.of_eq (by decide +kernel)

theorem declares_pointerToFunction :
    Declares nestedTypes.toList pointerToFunction [.pointer false, .function "(int)"] := by
  have h : Declares nestedTypes.toList pointerToFunction _ :=
    .function (by decide +kernel) rfl (by decide +kernel) (.parenthesized (by decide +kernel) rfl
      (.pointer (by decide +kernel) rfl (.name (by decide +kernel))))
  exact h.of_eq (by decide +kernel)

/-- An array of pointers is not spelled like a pointer to a function. -/
theorem arrayOfPointers_told_from_pointerToFunction :
    ∃ type other, Declares nestedTypes.toList arrayOfPointers type ∧
      Declares nestedTypes.toList pointerToFunction other ∧ BoundsClosed (type ++ other) ∧
      IsFlat type ∧ IsFlat other ∧
      (Declarator.ofTree nestedTypes.toList arrayOfPointers).typeSpelling "int" ≠
        (Declarator.ofTree nestedTypes.toList pointerToFunction).typeSpelling "int" := by
  have hclosed : BoundsClosed
      ([.array "3", .pointer false] ++ [.pointer false, .function "(int)"]) := by
    decide
  have hflat : IsFlat [.array "3", .pointer false] := Or.inr ⟨["3"], [false], rfl⟩
  have hflat' : IsFlat [.pointer false, .function "(int)"] := Or.inl ⟨"(int)", rfl⟩
  refine ⟨_, _, declares_arrayOfPointers, declares_pointerToFunction, hclosed, hflat, hflat',
    fun h => ?_⟩
  have hsame := (typeSpelling_eq_iff_flattened _ _ _ _ _ _ "int" declares_arrayOfPointers
    declares_pointerToFunction hclosed).2 hflat hflat' h
  cases hsame

/-- A pointer to an array of three is spelled like an array of three pointers. -/
theorem pointerToArray_spelled_as_array :
    let outline := Outline.ofParseTree nestedTypes "types.c"
      (.plain "translation_unit" 0 30 none [
        .plain "declaration" 0 30 none [
          .plain "primitive_type" 0 3 (some .type) [],
          arrayOfPointers, pointerToArray, pointerToFunction]])
    ∃ type other, Declares nestedTypes.toList arrayOfPointers type ∧
      Declares nestedTypes.toList pointerToArray other ∧ type ≠ other ∧
      (Declarator.ofTree nestedTypes.toList arrayOfPointers).typeSpelling "int" =
        (Declarator.ofTree nestedTypes.toList pointerToArray).typeSpelling "int" ∧
      (outline.info? 1).map (fun info => (info.spelling, info.type)) = some ("p", "int *[3]") ∧
      (outline.info? 2).map (fun info => (info.spelling, info.type)) = some ("q", "int *[3]") := by
  refine ⟨_, _, declares_arrayOfPointers, declares_pointerToArray, by decide, ?_, ?_, ?_⟩
  · decide +kernel
  · decide +kernel
  · decide +kernel

end StructSearch
