import UserAgentWorker.Arrow.Schema
import UserAgentWorker.Rows.Traversal

namespace Arrow

/-- One row of an array, with its bit of the validity buffer where the layout has one. -/
inductive Slot
  | null
  | boolean (valid : Bool) (value : Bool)
  | text (valid : Bool) (value : String)
  | plain (valid : Bool)
  | struct (valid : Bool) (children : List Slot)
  | dictionary (key : Option Slot)
  | runEndEncoded (value : Slot)
  | union (typeId : Int) (value : Slot)

/-- `Array::is_null`: the physical validity buffer alone, which Null, Union and RunEndEncoded lack. -/
def Slot.isNull : Slot → Bool
  | .null => false
  | .boolean valid _ | .text valid _ | .plain valid | .struct valid _ => !valid
  -- The validity buffer of a dictionary array is that of its keys.
  | .dictionary key => key.isNone
  | .runEndEncoded _ => false
  | .union _ _ => false

/-- A row of `Array::logical_nulls`. -/
def Slot.isLogicallyNull : Slot → Bool
  | .null => true
  | .boolean valid _ | .text valid _ | .plain valid | .struct valid _ => !valid
  | .dictionary none => true
  | .dictionary (some value) => value.isLogicallyNull
  | .runEndEncoded value => value.isLogicallyNull
  | .union _ value => value.isLogicallyNull

mutual

def Slot.hasType : Slot → DataType → Bool
  | .null, .null => true
  | .boolean _ _, .boolean => true
  | .text _ _, .utf8 | .text _ _, .largeUtf8 => true
  | .plain _, dataType => dataType.plain
  | .struct _ children, .struct fields => childrenHaveTypes children fields
  | .dictionary none, .dictionary _ _ => true
  | .dictionary (some slot), .dictionary _ value => slot.hasType value
  | .runEndEncoded slot, .runEndEncoded _ values => slot.hasType values.dataType
  | .union typeId slot, .union fields _ =>
    match fields.find typeId with
    | some field => slot.hasType field.dataType
    | none => false
  | _, _ => false

def childrenHaveTypes : List Slot → Fields → Bool
  | [], .nil => true
  | child :: children, .cons field fields => child.hasType field.dataType && childrenHaveTypes children fields
  | _, _ => false

end

theorem Slot.isLogicallyNull_of_isNull {slot : Slot} (absent : slot.isNull = true) :
    slot.isLogicallyNull = true := by
  cases slot with
  | dictionary key =>
    cases key with
    | none => rfl
    | some value => simp [Slot.isNull] at absent
  | _ => simp_all [Slot.isNull, Slot.isLogicallyNull]

structure ArrayRef where
  dataType : DataType
  slots : List Slot
  typed : ∀ slot ∈ slots, slot.hasType dataType = true

theorem ArrayRef.ext {left right : ArrayRef} (types : left.dataType = right.dataType)
    (slots : left.slots = right.slots) : left = right := by
  cases left
  cases right
  simp only at types slots
  subst types
  subst slots
  rfl

def ArrayRef.len (array : ArrayRef) : Nat := array.slots.length

def ArrayRef.take (array : ArrayRef) (positions : List Nat) : ArrayRef where
  dataType := array.dataType
  slots := Rows.pick positions array.slots
  typed := by
    intro slot member
    obtain ⟨i, _, found⟩ := List.mem_filterMap.mp member
    exact array.typed slot (List.mem_of_getElem? found)

section Text

def DataType.isText (dataType : DataType) : Prop := dataType = .utf8 ∨ dataType = .largeUtf8

instance (dataType : DataType) : Decidable dataType.isText :=
  inferInstanceAs (Decidable (_ = _ ∨ _ = _))

def Slot.string : Slot → Option String
  | .text true value => some value
  | _ => none

theorem Slot.text_of_hasType {slot : Slot} {dataType : DataType} (text : dataType.isText)
    (typed : slot.hasType dataType = true) : ∃ valid value, slot = .text valid value := by
  rcases text with rfl | rfl
  all_goals cases slot with
    | text valid value => exact ⟨valid, value, rfl⟩
    | dictionary key => cases key <;> simp [Slot.hasType] at typed
    | _ => simp [Slot.hasType, DataType.plain] at typed

end Text

section Struct

def Slot.child (slot : Slot) (k : Nat) : Option Slot :=
  match slot with
  | .struct _ children => children[k]?
  | _ => none

theorem childrenHaveTypes_getElem {children : List Slot} {fields : Fields}
    (typed : childrenHaveTypes children fields = true) {k : Nat} {child : Slot} {field : Field}
    (there : children[k]? = some child) (named : fields.toList[k]? = some field) :
    child.hasType field.dataType = true := by
  induction children generalizing fields k with
  | nil => simp at there
  | cons first rest ih =>
    cases fields with
    | nil => simp [Fields.toList] at named
    | cons head tail =>
      simp only [childrenHaveTypes, Bool.and_eq_true] at typed
      cases k with
      | zero =>
        simp only [Fields.toList, List.getElem?_cons_zero, Option.some.injEq] at there named
        rw [← there, ← named]
        exact typed.1
      | succ k =>
        simp only [Fields.toList, List.getElem?_cons_succ] at there named
        exact ih typed.2 there named

theorem Slot.child_hasType {slot child : Slot} {fields : Fields} {k : Nat} {field : Field}
    (typed : slot.hasType (.struct fields) = true) (there : slot.child k = some child)
    (named : fields.toList[k]? = some field) : child.hasType field.dataType = true := by
  cases slot with
  | struct valid children =>
    rw [Slot.hasType] at typed
    exact childrenHaveTypes_getElem typed there named
  | _ => simp [Slot.child] at there

def ArrayRef.column (array : ArrayRef) (k : Nat) : Option ArrayRef :=
  match same : array.dataType with
  | .struct fields =>
    match named : fields.toList[k]? with
    | some field => some {
        dataType := field.dataType
        slots := array.slots.filterMap fun slot => slot.child k
        typed := by
          intro child member
          obtain ⟨slot, present, there⟩ := List.mem_filterMap.mp member
          exact Slot.child_hasType (same ▸ array.typed slot present) there named }
    | none => none
  | _ => none

theorem ArrayRef.column_eq_some {array child : ArrayRef} {fields : Fields} {k : Nat} {field : Field}
    (type : array.dataType = .struct fields) (named : fields.toList[k]? = some field)
    (childType : child.dataType = field.dataType)
    (content : array.slots.filterMap (fun slot => slot.child k) = child.slots) : array.column k = some child := by
  obtain ⟨dataType, slots, typed⟩ := array
  simp only at type content
  subst type
  unfold ArrayRef.column
  split
  · next fields' same =>
    cases same
    split
    · next field' named' =>
      rw [named, Option.some_inj] at named'
      subst named'
      rw [Option.some_inj]
      exact ArrayRef.ext childType.symm content
    · next missing =>
      rw [named] at missing
      cases missing
  · next other => exact absurd rfl (other fields)

def ArrayRef.columnByName (array : ArrayRef) (name : String) : Option ArrayRef :=
  match array.dataType with
  | .struct fields => (fields.toList.findIdx? fun field => field.name == name).bind array.column
  | _ => none

end Struct

end Arrow
