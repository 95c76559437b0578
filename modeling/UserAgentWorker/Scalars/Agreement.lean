import UserAgentWorker.Scalars.Register

namespace UserAgentProof

open Arrow UserAgentModel

/-- The children of the `ua_parse` struct, each with the scalar that answers the same question. -/
def childScalars (ex : Externals) : List (String × ScalarFunction) := [
  ("browser", UaField.scalar ex .browser),
  ("browser_version", UaField.scalar ex .browserVersion),
  ("os", UaField.scalar ex .os),
  ("os_version", UaField.scalar ex .osVersion),
  ("device", UaField.scalar ex .device),
  ("brand", UaField.scalar ex .deviceBrand),
  ("is_bot", UaIsBot.scalar ex)]

def childAt (array : ArrayRef) (name : String) (i : Nat) : Option Slot :=
  (array.columnByName name).bind fun column => column.slots[i]?

/-- One row of the struct against the same row of the input. -/
structure RowAgrees (ex : Externals) (out : ArrayRef) (i : Nat) (slot row : Slot) : Prop where
  null : row.isNull = slot.isNull
  logical : row.isNull = slot.isLogicallyNull
  nullChildren : row.isNull = true →
    ∀ child ∈ childScalars ex, ∃ cell, childAt out child.1 i = some cell ∧ cell.isNull = true
  flag : row.isNull = false → ∃ flag, childAt out "is_bot" i = some (.boolean true flag)

structure Agrees (ex : Externals) (batch : RecordBatch) (col out : ArrayRef) : Prop where
  input : batch.columns[0]? = some col ∧ batch.numRows = col.len
  builders : ∃ b, (List.range batch.numRows).foldlM (UaParse.step ex col) UaParse.Builders.new = .ok b ∧
    (∀ array ∈ b.arrays, array.len = batch.numRows) ∧ b.valid.length = batch.numRows
  type : out.dataType = parseStructType
  len : out.len = col.len
  children : ∀ child ∈ childScalars ex, ∃ column,
    runScalarOn child.2 batch = .ok column ∧ out.columnByName child.1 = some column ∧ column.len = col.len
  rows : ∀ i slot, col.slots[i]? = some slot → ∃ row, out.slots[i]? = some row ∧ RowAgrees ex out i slot row

section Children

theorem parse_column {name : String} {k : Nat} {field : Arrow.Field} {child : RowFunction Parsed}
    (first : parseStructFields.toList.findIdx? (fun field => field.name == name) = some k)
    (named : parseStructFields.toList[k]? = some field) (there : parseChildren[k]? = some child)
    (rows : List (Option Parsed)) : (parseRow.column rows).columnByName name = some (child.column rows) := by
  have kth := RowFunction.struct_column parseChildren_types there named rows
  have index : (parseRow.column rows).columnByName name =
      (parseStructFields.toList.findIdx? fun field => field.name == name).bind (parseRow.column rows).column := rfl
  rw [index, first]
  exact kth

theorem childScalars_rows {ex : Externals} {child : String × ScalarFunction} (member : child ∈ childScalars ex) :
    ∃ row ∈ parseChildren, (∀ batch, runScalarOn child.2 batch = (batchRows ex batch).map row.column) ∧
      ∀ rows, (parseRow.column rows).columnByName child.1 = some (row.column rows) := by
  simp only [childScalars, List.mem_cons, List.not_mem_nil, or_false] at member
  rcases member with rfl | rfl | rfl | rfl | rfl | rfl | rfl
  · exact ⟨fieldRow .browser, by simp [parseChildren], fun batch => fieldScalar_eq ex batch .browser,
      parse_column (k := 0) rfl rfl rfl⟩
  · exact ⟨fieldRow .browserVersion, by simp [parseChildren], fun batch => fieldScalar_eq ex batch .browserVersion,
      parse_column (k := 1) rfl rfl rfl⟩
  · exact ⟨fieldRow .os, by simp [parseChildren], fun batch => fieldScalar_eq ex batch .os,
      parse_column (k := 2) rfl rfl rfl⟩
  · exact ⟨fieldRow .osVersion, by simp [parseChildren], fun batch => fieldScalar_eq ex batch .osVersion,
      parse_column (k := 3) rfl rfl rfl⟩
  · exact ⟨fieldRow .device, by simp [parseChildren], fun batch => fieldScalar_eq ex batch .device,
      parse_column (k := 4) rfl rfl rfl⟩
  · exact ⟨fieldRow .deviceBrand, by simp [parseChildren], fun batch => fieldScalar_eq ex batch .deviceBrand,
      parse_column (k := 5) rfl rfl rfl⟩
  · exact ⟨botRow, by simp [parseChildren], botScalar_eq ex, parse_column (k := 6) rfl rfl rfl⟩

theorem runs_agree {ex : Externals} {child : String × ScalarFunction} (member : child ∈ childScalars ex)
    (batch : RecordBatch) (e : Fault) :
    runScalarOn (UaParse.scalar ex) batch = .error e ↔ runScalarOn child.2 batch = .error e := by
  obtain ⟨row, _, runs, _⟩ := childScalars_rows member
  rw [parseScalar_eq, runs]
  cases batchRows ex batch with
  | error e' => simp [Except.map]
  | ok rows => simp [Except.map]

end Children

section Rows

variable {ex : Externals} {batch : RecordBatch} {rows : List (Option Parsed)}

theorem batchRows_ok (reads : batchRows ex batch = .ok rows) :
    ∃ col, batch.columns[0]? = some col ∧ batch.numRows = col.len ∧ columnRows ex col = .ok rows := by
  rw [batchRows] at reads
  cases first : columnAt batch 0 with
  | error e =>
    rw [first] at reads
    cases reads
  | ok col =>
    rw [first] at reads
    exact ⟨col, columnAt_ok_iff.mp first, columnAt_numRows first, reads⟩

theorem parse_builders {col : ArrayRef} (reads : columnRows ex col = .ok rows) :
    ∃ b, (List.range col.len).foldlM (UaParse.step ex col) UaParse.Builders.new = .ok b ∧
      (∀ array ∈ b.arrays, array.len = col.len) ∧ b.valid.length = col.len := by
  have length : rows.length = col.len := Rows.mapM_length reads
  refine ⟨rows.foldl pushParsed UaParse.Builders.new, ?_, ?_, ?_⟩
  · rw [parseLoop_eq, reads]
    rfl
  · intro array member
    rw [parse_arrays] at member
    obtain ⟨child, _, same⟩ := List.mem_map.mp member
    rw [← same, RowFunction.column_len, length]
  · rw [parse_valid, List.length_map, length]

theorem row_agrees {col : ArrayRef} (reads : columnRows ex col = .ok rows) {i : Nat} {slot : Slot}
    (there : col.slots[i]? = some slot) :
    ∃ row, (parseRow.column rows).slots[i]? = some row ∧ RowAgrees ex (parseRow.column rows) i slot row := by
  obtain ⟨row, answer, found⟩ := Rows.mapM_getElem reads there
  obtain ⟨logical, _, present⟩ := cell_ok (col.typed slot (List.mem_of_getElem? there)) answer
  have entry : ∀ f : RowFunction Parsed, (f.column rows).slots[i]? = some (f.slot row) := by
    intro f
    rw [RowFunction.column_getElem, found, Option.map_some]
  have null : (parseRow.slot row).isNull = slot.isNull := by
    have bit : (parseRow.slot row).isNull = !row.isSome := rfl
    rw [bit, present, Bool.not_not]
  refine ⟨parseRow.slot row, entry parseRow, null, logical ▸ null, ?_, ?_⟩
  · intro absent child member
    obtain ⟨f, _, _, column⟩ := childScalars_rows member
    rw [null] at absent
    rw [absent, Bool.not_true, Option.isSome_eq_false_iff, Option.isNone_iff_eq_none] at present
    refine ⟨f.slot row, ?_, ?_⟩
    · rw [childAt, column, Option.bind_some, entry]
    · rw [present]
      exact f.nullOut
  · intro here
    rw [null] at here
    rw [here, Bool.not_false, Option.isSome_iff_exists] at present
    obtain ⟨p, same⟩ := present
    have flags : (parseRow.column rows).columnByName "is_bot" = some (botRow.column rows) :=
      parse_column (k := 6) rfl rfl rfl rows
    refine ⟨p.isBot, ?_⟩
    rw [childAt, flags, Option.bind_some, entry, same]
    rfl

end Rows

theorem parse_agrees (ex : Externals) (batch : RecordBatch) :
    (∀ child ∈ childScalars ex, ∀ e,
      runScalarOn (UaParse.scalar ex) batch = .error e ↔ runScalarOn child.2 batch = .error e) ∧
    ∀ out, runScalarOn (UaParse.scalar ex) batch = .ok out → ∃ col, Agrees ex batch col out := by
  refine ⟨fun child member e => runs_agree member batch e, ?_⟩
  intro out success
  rw [parseScalar_eq] at success
  cases reads : batchRows ex batch with
  | error e =>
    rw [reads] at success
    cases success
  | ok rows =>
    rw [reads] at success
    cases success
    obtain ⟨col, first, numRows, read⟩ := batchRows_ok reads
    have length : rows.length = col.len := Rows.mapM_length read
    have builders := parse_builders read
    rw [← numRows] at builders
    refine ⟨col, ⟨first, numRows⟩, builders, rfl, ?_, ?_, ?_⟩
    · rw [RowFunction.column_len, length]
    · intro child member
      obtain ⟨row, _, runs, column⟩ := childScalars_rows member
      refine ⟨row.column rows, ?_, column rows, ?_⟩
      · rw [runs, reads]
        rfl
      · rw [RowFunction.column_len, length]
    · intro i slot there
      exact row_agrees read there

end UserAgentProof
