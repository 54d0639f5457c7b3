import StructSearch.Outline.Kind
import StructSearch.Source.Position

/-!
# Outlines

An outline holds the declarations and expressions of one file. Its nodes are numbered in the order
in which they are added, the root being node `0`, and know their parents and children. A node that
is added below a number that is not in use yet stays apart from the root.

This is the tree that the program searches. It is a single array of nodes, so that a node is known
by its number wherever it stands.
-/

namespace StructSearch

open Source

/-- The number of a node. -/
abbrev NodeId : Type := Nat

/-- What an outline records about a node: what kind of thing it is, how it is spelled, its types,
where it stands in the source, and what its declaration says about it. -/
structure NodeInfo where
  kind : Kind
  /-- The name, or the text of an expression without one. -/
  spelling : String := ""
  /-- The declared or inferred type, empty if unknown. -/
  type : String := ""
  /-- The type that a function or a call gives, empty otherwise. -/
  result : String := ""
  extent : Extent
  range : ByteRange
  isDefinition : Bool := false
  isVirtual : Bool := false
  isStatic : Bool := false
  isConst : Bool := false
  access : Access := .none
  deriving Repr, DecidableEq, Inhabited

/-- How a child belongs to its parent. Every child has one role, by which patterns find the
parameters of a function, the arguments of a call and the parameters of a template. -/
inductive Role where
  | member
  /-- A parameter of a function or an argument of a call. -/
  | argument
  /-- A template parameter. -/
  | template
  deriving Repr, DecidableEq, Inhabited

/-- A node with its place in the outline. Arguments and template parameters are children too, so
that each is in two lists. -/
structure Slot where
  info : NodeInfo
  parent : Option NodeId := none
  children : List NodeId := []
  arguments : List NodeId := []
  templateParameters : List NodeId := []
  deriving Repr, DecidableEq, Inhabited

/-- The slot after a child is added: the child is the last of the children, and of the arguments or
template parameters if it has that role. -/
def Slot.adopt (slot : Slot) (role : Role) (child : NodeId) : Slot :=
  let slot := { slot with children := slot.children ++ [child] }
  match role with
  | .member => slot
  | .argument => { slot with arguments := slot.arguments ++ [child] }
  | .template => { slot with templateParameters := slot.templateParameters ++ [child] }

/-- The nodes of a file, with at least the root. That a node is listed by its parent and only there
is not part of the structure, but holds of every outline that is built by adding nodes. -/
structure Outline where
  slots : Array Slot
  size_pos : 0 < slots.size

namespace Outline

/-- The number of the root. -/
def root : NodeId := 0

/-- The outline of a single node. -/
def single (info : NodeInfo) : Outline := ⟨#[{ info }], by simp⟩

instance : Inhabited Outline := ⟨single default⟩

/-- The number of nodes. -/
def size (outline : Outline) : Nat := outline.slots.size

/-- The slot of a node. -/
def slot? (outline : Outline) (id : NodeId) : Option Slot := outline.slots[id]?

/-- What is recorded about a node. -/
def info? (outline : Outline) (id : NodeId) : Option NodeInfo := (outline.slot? id).map (·.info)

/-- The parent of a node. -/
def parent? (outline : Outline) (id : NodeId) : Option NodeId := (outline.slot? id).bind (·.parent)

/-- The children of a node, in the order in which they were added. -/
def children (outline : Outline) (id : NodeId) : List NodeId :=
  ((outline.slot? id).map (·.children)).getD []

/-- The parameters of a function or the arguments of a call. -/
def arguments (outline : Outline) (id : NodeId) : List NodeId :=
  ((outline.slot? id).map (·.arguments)).getD []

/-- The template parameters of a node. -/
def templateParameters (outline : Outline) (id : NodeId) : List NodeId :=
  ((outline.slot? id).map (·.templateParameters)).getD []

/-- Whether a node has template parameters. -/
def isTemplate (outline : Outline) (id : NodeId) : Bool := !(outline.templateParameters id).isEmpty

/-- The outline with a new node below `parent`. The new node has the number `outline.size`; if
`parent` is not in the outline, the new node has no parent. -/
def add (outline : Outline) (parent : NodeId) (info : NodeInfo) (role : Role) : Outline :=
  let id := outline.size
  let slot : Slot := { info, parent := if parent < id then some parent else none }
  ⟨(outline.slots.modify parent (·.adopt role id)).push slot, by simp⟩

/-- The outline with the record of a node changed. -/
def modifyInfo (outline : Outline) (id : NodeId) (f : NodeInfo → NodeInfo) : Outline :=
  ⟨outline.slots.modify id fun slot => { slot with info := f slot.info },
    by simpa using outline.size_pos⟩

@[simp] theorem size_single (info : NodeInfo) : (single info).size = 1 := rfl

@[simp] theorem size_add (outline : Outline) (parent : NodeId) (info : NodeInfo) (role : Role) :
    (outline.add parent info role).size = outline.size + 1 := by
  simp [add, size]

@[simp] theorem size_modifyInfo (outline : Outline) (id : NodeId) (f : NodeInfo → NodeInfo) :
    (outline.modifyInfo id f).size = outline.size := by
  simp [modifyInfo, size]

end Outline

end StructSearch
