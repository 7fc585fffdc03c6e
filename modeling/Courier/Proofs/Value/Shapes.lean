import Courier.Value.Portable
import Mathlib.Data.List.Forall2

/-!
# The shape of a value and its references

A value is plain data with references at some of its leaves: live objects and
handles.  Its shape is the value with all references blanked out, and its
references are those leaves in the order in which they stand.  The two together
make up the value, so two values are compared by comparing both.

`Value.Resembles` says that two values have one shape and that their references
are pairwise in some relation.
-/

namespace Courier

set_option autoImplicit false

/-! ## Shapes and references -/

namespace Value

mutual

/-- The value with all references blanked out. -/
def shape : Value → Value
  | null => null
  | bool value => bool value
  | int value => int value
  | float value => float value
  | str text => str text
  | bytes content => bytes content
  | list items => list (shapeItems items)
  | map entries => map (shapeEntries entries)
  | remote _ => remote ⟨"", []⟩
  | live _ => remote ⟨"", []⟩

def shapeItems : List Value → List Value
  | [] => []
  | item :: rest => shape item :: shapeItems rest

def shapeEntries : List (String × Value) → List (String × Value)
  | [] => []
  | (key, value) :: rest => (key, shape value) :: shapeEntries rest

end

mutual

/-- The live objects and the handles at the leaves of a value, in order. -/
def references : Value → List Value
  | list items => referencesItems items
  | map entries => referencesEntries entries
  | remote handle => [remote handle]
  | live object => [live object]
  | _ => []

def referencesItems : List Value → List Value
  | [] => []
  | item :: rest => references item ++ referencesItems rest

def referencesEntries : List (String × Value) → List Value
  | [] => []
  | (_, value) :: rest => references value ++ referencesEntries rest

end

theorem references_sublist_of_mem {items : List Value} {item : Value} (listed : item ∈ items) :
    item.references.Sublist (list items).references := by
  induction items with
  | nil => cases listed
  | cons first rest ih =>
    rcases List.mem_cons.mp listed with rfl | later
    · exact List.sublist_append_left _ _
    · exact (ih later).trans (List.sublist_append_right _ _)

theorem references_sublist_of_mem_map {entries : List (String × Value)} {entry : String × Value}
    (listed : entry ∈ entries) : entry.2.references.Sublist (map entries).references := by
  induction entries with
  | nil => cases listed
  | cons first rest ih =>
    rcases List.mem_cons.mp listed with rfl | later
    · exact List.sublist_append_left _ _
    · exact (ih later).trans (List.sublist_append_right _ _)

theorem depth_lt_of_mem {items : List Value} {item : Value} (listed : item ∈ items) :
    item.depth < (list items).depth := by
  refine Nat.lt_succ_of_le ?_
  induction items with
  | nil => cases listed
  | cons first rest ih =>
    rcases List.mem_cons.mp listed with rfl | later
    · exact Nat.le_max_left _ _
    · exact Nat.le_trans (ih later) (Nat.le_max_right _ _)

theorem depth_lt_of_mem_map {entries : List (String × Value)} {entry : String × Value}
    (listed : entry ∈ entries) : entry.2.depth < (map entries).depth := by
  refine Nat.lt_succ_of_le ?_
  induction entries with
  | nil => cases listed
  | cons first rest ih =>
    rcases List.mem_cons.mp listed with rfl | later
    · exact Nat.le_max_left _ _
    · exact Nat.le_trans (ih later) (Nat.le_max_right _ _)

/-! ## Values that resemble one another -/

/-- What is in the second of two lists is related to something in the first. -/
theorem exists_of_mem_forall₂ {α β : Type} {related : α → β → Prop} {items : List α}
    {others : List β} (pairs : List.Forall₂ related items others) {other : β}
    (listed : other ∈ others) : ∃ item ∈ items, related item other := by
  induction pairs with
  | nil => cases listed
  | cons first _ ih =>
    rcases List.mem_cons.mp listed with rfl | later
    · exact ⟨_, List.mem_cons_self .., first⟩
    · obtain ⟨item, among, related⟩ := ih later
      exact ⟨item, List.mem_cons_of_mem _ among, related⟩

/-- Two values have one shape, and their references are in a relation, each with that in its place.
-/
structure Resembles (related : Value → Value → Prop) (value other : Value) : Prop where
  shape : other.shape = value.shape
  references : List.Forall₂ related value.references other.references

variable {related further : Value → Value → Prop}

theorem Resembles.mono {value other : Value} (resembles : Resembles related value other)
    (weaker : ∀ leaf leaf', related leaf leaf' → further leaf leaf') :
    Resembles further value other :=
  ⟨resembles.shape, resembles.references.imp weaker⟩

theorem Resembles.refl (reflexive : ∀ leaf, related leaf leaf) (value : Value) :
    Resembles related value value :=
  ⟨rfl, List.forall₂_same.mpr fun leaf _ => reflexive leaf⟩

theorem Resembles.exists_of_mem {value other : Value} (resembles : Resembles related value other)
    {leaf' : Value} (listed : leaf' ∈ other.references) :
    ∃ leaf ∈ value.references, related leaf leaf' :=
  exists_of_mem_forall₂ resembles.references listed

/-- A value resembles what its resemblance resembles. -/
theorem Resembles.trans {first second third : Value} {all : Value → Value → Prop}
    (before : Resembles related first second) (after : Resembles further second third)
    (composed : ∀ leaf leaf' leaf'', related leaf leaf' → further leaf' leaf'' → all leaf leaf'') :
    Resembles all first third where
  shape := after.shape.trans before.shape
  references := by
    have far := after.references
    generalize third.references = last at far
    have near := before.references
    generalize second.references = middle at near far
    generalize first.references = start at near
    induction near generalizing last with
    | nil =>
      cases far
      exact .nil
    | cons related _ ih =>
      cases far with
      | cons further rest => exact .cons (composed _ _ _ related further) (ih _ rest)

theorem Resembles.list {items others : List Value}
    (each : List.Forall₂ (Resembles related) items others) :
    Resembles related (.list items) (.list others) := by
  have both : shapeItems others = shapeItems items ∧
      List.Forall₂ related (referencesItems items) (referencesItems others) := by
    induction each with
    | nil => exact ⟨rfl, .nil⟩
    | cons first _ ih =>
      refine ⟨?_, List.rel_append first.references ih.2⟩
      rw [shapeItems, shapeItems, first.shape, ih.1]
  exact ⟨congrArg Value.list both.1, both.2⟩

theorem Resembles.map {entries others : List (String × Value)}
    (each : List.Forall₂ (fun entry other => entry.1 = other.1 ∧
      Resembles related entry.2 other.2) entries others) :
    Resembles related (.map entries) (.map others) := by
  have both : shapeEntries others = shapeEntries entries ∧
      List.Forall₂ related (referencesEntries entries) (referencesEntries others) := by
    induction each with
    | nil => exact ⟨rfl, .nil⟩
    | cons first _ ih =>
      refine ⟨?_, List.rel_append first.2.references ih.2⟩
      rw [shapeEntries, shapeEntries, first.1, first.2.shape, ih.1]
  exact ⟨congrArg Value.map both.1, both.2⟩

end Value

/-! ## Portable values as values -/

namespace Portable

mutual

/-- A portable value as a value. -/
def value : Portable → Value
  | null => .null
  | bool value => .bool value
  | int value => .int value
  | float value => .float value
  | str text => .str text
  | bytes content => .bytes content
  | list items => .list (values items)
  | map entries => .map (valueEntries entries)
  | ref handle => .remote handle

def values : List Portable → List Value
  | [] => []
  | item :: rest => value item :: values rest

def valueEntries : List (String × Portable) → List (String × Value)
  | [] => []
  | (key, item) :: rest => (key, value item) :: valueEntries rest

end

theorem values_eq_map (items : List Portable) : values items = items.map value := by
  induction items with
  | nil => rfl
  | cons item rest ih => rw [values, ih, List.map_cons]

theorem valueEntries_eq_map (entries : List (String × Portable)) :
    valueEntries entries = entries.map fun entry => (entry.1, entry.2.value) := by
  induction entries with
  | nil => rfl
  | cons entry rest ih => rw [valueEntries, ih, List.map_cons]

end Portable

end Courier
