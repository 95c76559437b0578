import UserAgentWorker.Arrow.Array

namespace Arrow

structure Builder (α : Type) where
  values : List (Option α)

namespace Builder

variable {α : Type}

def new : Builder α := ⟨[]⟩

def push (builder : Builder α) (value : Option α) : Builder α := ⟨builder.values ++ [value]⟩

def appendValue (builder : Builder α) (value : α) : Builder α := builder.push (some value)

def appendNull (builder : Builder α) : Builder α := builder.push none

theorem push_foldl {ρ : Type} (field : ρ → Option α) (builder : Builder α) (rows : List ρ) :
    rows.foldl (fun builder row => builder.push (field row)) builder = ⟨builder.values ++ rows.map field⟩ := by
  induction rows generalizing builder with
  | nil => simp
  | cons row rows ih =>
    rw [List.foldl_cons, ih]
    simp [push]

end Builder

abbrev StringBuilder := Builder String

namespace StringBuilder

/-- The row a finished builder holds; a NULL row has an empty text under its cleared bit. -/
def slot : Option String → Slot
  | some value => .text true value
  | none => .text false ""

theorem slot_typed (value : Option String) : (slot value).hasType .utf8 = true := by
  cases value <;> rfl

def finish (builder : StringBuilder) : ArrayRef where
  dataType := .utf8
  slots := builder.values.map slot
  typed := by
    intro row member
    obtain ⟨value, _, same⟩ := List.mem_map.mp member
    rw [← same]
    exact slot_typed value

end StringBuilder

abbrev BooleanBuilder := Builder Bool

namespace BooleanBuilder

def slot : Option Bool → Slot
  | some value => .boolean true value
  | none => .boolean false false

theorem slot_typed (value : Option Bool) : (slot value).hasType .boolean = true := by
  cases value <;> rfl

def finish (builder : BooleanBuilder) : ArrayRef where
  dataType := .boolean
  slots := builder.values.map slot
  typed := by
    intro row member
    obtain ⟨value, _, same⟩ := List.mem_map.mp member
    rw [← same]
    exact slot_typed value

end BooleanBuilder

namespace StructArray

/-- What a struct asks of one child: its type, its length, and NULLs of a non-nullable field under cleared struct
    bits only. -/
def ChildFits (validity : List Bool) (field : Field) (child : ArrayRef) : Prop :=
  child.dataType = field.dataType ∧ child.len = validity.length ∧
    (field.nullable = true ∨ ∀ row ∈ child.slots.zip validity, row.1.isLogicallyNull = true → row.2 = false)

instance (validity : List Bool) (field : Field) (child : ArrayRef) : Decidable (ChildFits validity field child) :=
  inferInstanceAs (Decidable (_ ∧ _ ∧ (_ ∨ _)))

def Fits (fields : Fields) (children : List ArrayRef) (validity : List Bool) : Prop :=
  children ≠ [] ∧ List.Forall₂ (ChildFits validity) fields.toList children

instance (fields : Fields) (children : List ArrayRef) (validity : List Bool) :
    Decidable (Fits fields children validity) := inferInstanceAs (Decidable (_ ∧ _))

def rowChildren (children : List ArrayRef) (i : Nat) : List Slot := children.filterMap fun child => child.slots[i]?

def rows (children : List ArrayRef) (validity : List Bool) : List Slot :=
  validity.zipIdx.map fun row => .struct row.1 (rowChildren children row.2)

theorem rowChildren_cons {child : ArrayRef} {children : List ArrayRef} {i : Nat} (there : i < child.slots.length) :
    rowChildren (child :: children) i = child.slots[i] :: rowChildren children i := by
  simp [rowChildren, List.getElem?_eq_getElem there]

theorem rowChildren_typed {fields : Fields} {children : List ArrayRef} {validity : List Bool} {i : Nat}
    (fits : List.Forall₂ (ChildFits validity) fields.toList children) (inside : i < validity.length) :
    childrenHaveTypes (rowChildren children i) fields = true := by
  induction children generalizing fields with
  | nil =>
    cases fields with
    | nil => rfl
    | cons head tail => cases fits
  | cons child children ih =>
    cases fields with
    | nil => cases fits
    | cons head tail =>
      obtain ⟨⟨type, length, _⟩, rest⟩ := List.forall₂_cons.mp fits
      have there : i < child.slots.length := by
        rw [ArrayRef.len] at length
        omega
      have slot := child.typed child.slots[i] (List.getElem_mem there)
      rw [rowChildren_cons there, childrenHaveTypes, Bool.and_eq_true, ← type]
      exact ⟨slot, ih rest⟩

theorem rows_typed {fields : Fields} {children : List ArrayRef} {validity : List Bool}
    (fits : Fits fields children validity) :
    ∀ slot ∈ rows children validity, slot.hasType (.struct fields) = true := by
  intro slot member
  obtain ⟨⟨valid, i⟩, present, same⟩ := List.mem_map.mp member
  have inside := List.snd_lt_of_mem_zipIdx present
  rw [← same, Slot.hasType]
  exact rowChildren_typed fits.2 (by simpa using inside)

/-- The children side by side under the validity. -/
def assemble {fields : Fields} {children : List ArrayRef} {validity : List Bool}
    (fits : Fits fields children validity) : ArrayRef where
  dataType := .struct fields
  slots := rows children validity
  typed := rows_typed fits

end StructArray

end Arrow
