import UserAgentWorker.Arrow.Builders
import UserAgentWorker.Arrow.Record

-- The two checked constructors as the arrow crate has them. Nothing rests on them but the runs on fixed inputs.
namespace Arrow

namespace RecordBatch

def nullInNonNullable (fields : List Field) (columns : List ArrayRef) : Option Field :=
  ((fields.zip columns).find? fun column => !column.1.nullable && column.2.slots.any Slot.isNull).map Prod.fst

def tryNew (schema : Schema) (columns : List ArrayRef) : Except String RecordBatch :=
  if schema.fields.length ≠ columns.length then
    .error "number of columns must match number of fields in schema"
  else match columns.head? with
    | none => .error "must either specify a row count or at least one column"
    | some first =>
      match nullInNonNullable schema.fields columns with
      | some _ => .error "a column is declared as non-nullable but contains null values"
      | none =>
        if lengths : ∀ column ∈ columns, column.len = first.len then
          if types : columns.map ArrayRef.dataType = schema.fields.map Field.dataType then
            .ok { schema := schema, columns := columns, numRows := first.len, lengths := lengths, types := types }
          else .error "column types must match schema types"
        else .error "all columns in a record batch must have the same length"

theorem tryNew_parts {schema : Schema} {columns : List ArrayRef} {batch : RecordBatch}
    (made : tryNew schema columns = .ok batch) : batch.schema = schema ∧ batch.columns = columns := by
  unfold tryNew at made
  split at made
  · cases made
  · split at made
    · cases made
    · split at made
      · cases made
      · split at made
        · split at made
          · cases made
            exact ⟨rfl, rfl⟩
          · cases made
        · cases made

theorem nullInNonNullable_none {fields : List Field} (nullable : ∀ field ∈ fields, field.nullable = true)
    (columns : List ArrayRef) : nullInNonNullable fields columns = none := by
  rw [nullInNonNullable, Option.map_eq_none_iff, List.find?_eq_none]
  intro column member
  simp [nullable column.1 (List.of_mem_zip member).1]

theorem tryNew_accepts (batch : RecordBatch) (some : batch.columns ≠ [])
    (nullable : ∀ field ∈ batch.schema.fields, field.nullable = true) :
    tryNew batch.schema batch.columns = .ok batch := by
  obtain ⟨schema, columns, numRows, lengths, types⟩ := batch
  cases columns with
  | nil => exact absurd rfl some
  | cons first rest =>
    have count := congrArg List.length types
    rw [List.length_map, List.length_map] at count
    have rows : first.len = numRows := lengths first (by simp)
    subst rows
    simp only [tryNew, count, ne_eq, not_true_eq_false, if_false, List.head?_cons]
    rw [nullInNonNullable_none nullable]
    simp only [dif_pos lengths, dif_pos types]

end RecordBatch

/-- `StructArray::new`, which panics where `try_new` reports an error. -/
def StructArray.new (fields : Fields) (children : List ArrayRef) (validity : List Bool) : Option ArrayRef :=
  if fits : Fits fields children validity then some (assemble fits) else none

theorem StructArray.new_accepts {fields : Fields} {children : List ArrayRef} {validity : List Bool}
    (fits : Fits fields children validity) : StructArray.new fields children validity = some (assemble fits) :=
  dif_pos fits

end Arrow
