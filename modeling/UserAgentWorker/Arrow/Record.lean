import UserAgentWorker.Arrow.Array

namespace Arrow

structure Schema where
  fields : List Field

/-- A batch whose columns all have one row per row of the batch and the types its schema declares. -/
structure RecordBatch where
  schema : Schema
  columns : List ArrayRef
  numRows : Nat
  lengths : ∀ column ∈ columns, column.len = numRows
  types : columns.map ArrayRef.dataType = schema.fields.map Field.dataType

namespace RecordBatch

def single (name : String) (column : ArrayRef) : RecordBatch where
  schema := ⟨[.new name column.dataType true]⟩
  columns := [column]
  numRows := column.len
  lengths := by
    intro other member
    rw [List.mem_singleton.mp member]
  types := rfl

end RecordBatch

end Arrow
