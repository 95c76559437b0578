import UserAgentWorker.Scalars.Loops

namespace UserAgentProof

open Arrow UserAgentModel

/-- Under a schema of one nullable column of its type, a column is sent as it is. -/
theorem tryNew_nullable (ex : Externals) (name : String) (col : ArrayRef) :
    ex.tryNew ⟨[.new name col.dataType true]⟩ [col] = .ok (.single name col) := by
  have nullable : ∀ field ∈ (RecordBatch.single name col).schema.fields, field.nullable = true := by
    intro field member
    rw [List.mem_singleton.mp member]
    rfl
  exact ex.tryNew_accepts (.single name col) (by simp [RecordBatch.single]) nullable

theorem newBatch_nullable (ex : Externals) (name : String) (col : ArrayRef) :
    newBatch ex ⟨[.new name col.dataType true]⟩ [col] = .ok (.single name col) := by
  rw [newBatch, tryNew_nullable]

theorem result_column (ex : Externals) (col : ArrayRef) :
    (newBatch ex (BindResponse.result ex col.dataType).outputSchema [col] >>= fun out => columnAt out 0) =
      .ok col := by
  obtain ⟨name, declared⟩ := ex.result_declares col.dataType
  rw [BindResponse.result, declared, newBatch_nullable]
  rfl

theorem columnAt_ok_iff {batch : RecordBatch} {i : Nat} {col : ArrayRef} :
    columnAt batch i = .ok col ↔ batch.columns[i]? = some col := by
  rw [columnAt]
  cases batch.columns[i]? with
  | none => simp
  | some column => simp

theorem columnAt_numRows {batch : RecordBatch} {col : ArrayRef} (first : columnAt batch 0 = .ok col) :
    batch.numRows = col.len :=
  (batch.lengths col (List.mem_of_getElem? (columnAt_ok_iff.mp first))).symm

section Finish

variable (rows : List (Option Parsed))

theorem fieldRow_finish (field : UserAgentModel.Field) :
    StringBuilder.finish ⟨rows.map fun row => row.bind (fieldOf field)⟩ = (fieldRow field).column rows := by
  apply ArrayRef.ext
  · rfl
  · exact List.map_map

theorem botRow_finish :
    BooleanBuilder.finish ⟨rows.map fun row => row.map Parsed.isBot⟩ = botRow.column rows := by
  apply ArrayRef.ext
  · rfl
  · exact List.map_map

theorem parse_arrays :
    (rows.foldl pushParsed UaParse.Builders.new).arrays = parseChildren.map fun child => child.column rows := by
  rw [pushParsed_foldl, parseChildren]
  simp only [List.map_cons, List.map_nil, ← fieldRow_finish, ← botRow_finish]
  rfl

theorem parse_valid : (rows.foldl pushParsed UaParse.Builders.new).valid = rows.map Option.isSome := by
  rw [pushParsed_foldl]
  rfl

theorem parse_struct (ex : Externals) :
    ex.structNew parseStructFields (rows.foldl pushParsed UaParse.Builders.new).arrays
      (rows.foldl pushParsed UaParse.Builders.new).valid = some (parseRow.column rows) := by
  have fits := StructArray.fits_struct parseChildren_types (by decide) (by simp [parseChildren]) rows
  rw [parse_arrays, parse_valid, ex.structNew_accepts fits]
  exact congrArg some (StructArray.assemble_columns parseChildren_types fits)

theorem scalar_finish (ex : Externals) (scalar : Scalar) (params : ProcessParams) :
    scalar.finish ex params (rows.foldl scalar.push scalar.new) =
      newBatch ex params.outputSchema [scalar.row.column rows] := by
  cases scalar with
  | accessor field =>
    have built : rows.foldl (Scalar.accessor field).push (Scalar.accessor field).new =
        ⟨rows.map fun row => row.bind (fieldOf field)⟩ := Builder.push_foldl _ _ rows
    rw [built]
    exact congrArg (fun column => newBatch ex params.outputSchema [column]) (fieldRow_finish rows field)
  | isBot =>
    have built : rows.foldl Scalar.isBot.push Scalar.isBot.new = ⟨rows.map fun row => row.map Parsed.isBot⟩ :=
      Builder.push_foldl _ _ rows
    rw [built]
    exact congrArg (fun column => newBatch ex params.outputSchema [column]) (botRow_finish rows)
  | parse =>
    have struct : UaParse.finish ex params (rows.foldl pushParsed UaParse.Builders.new) =
        newBatch ex params.outputSchema [parseRow.column rows] := by
      rw [UaParse.finish, parse_struct]
    exact struct

end Finish

section Runs

variable (ex : Externals)

/-- The three `process` functions are one loop with three kinds of builders. -/
theorem process_loop (scalar : Scalar) (params : ProcessParams) (batch : RecordBatch) :
    (scalar.function ex).process params batch = columnAt batch 0 >>= fun col =>
      (List.range batch.numRows).foldlM (scalar.step ex col) scalar.new >>= scalar.finish ex params := by
  cases scalar <;> rfl

theorem scalar_process (scalar : Scalar) (params : ProcessParams) (batch : RecordBatch) :
    (scalar.function ex).process params batch =
      batchRows ex batch >>= fun rows => newBatch ex params.outputSchema [scalar.row.column rows] := by
  rw [process_loop]
  simp only [batchRows, bind, Except.bind]
  cases first : columnAt batch 0 with
  | error e => rfl
  | ok col =>
    simp only [columnAt_numRows first, loop_eq]
    cases columnRows ex col with
    | error e => rfl
    | ok rows => exact scalar_finish rows ex scalar params

variable {ex}

/-- A function bound to the type of its row function answers with the column of that row function. -/
theorem runScalarOn_eq {f : ScalarFunction} {row : RowFunction Parsed}
    (bound : f.onBind = .ok (.result ex row.dataType))
    (process : ∀ params batch, f.process params batch =
      batchRows ex batch >>= fun rows => newBatch ex params.outputSchema [row.column rows])
    (batch : RecordBatch) : runScalarOn f batch = (batchRows ex batch).map row.column := by
  rw [runScalarOn, bound]
  simp only [bind, Except.bind, process]
  cases batchRows ex batch with
  | error e => rfl
  | ok rows => exact result_column ex (row.column rows)

variable (ex)

theorem scalar_bind (scalar : Scalar) : (scalar.function ex).onBind = .ok (.result ex scalar.row.dataType) := by
  cases scalar <;> rfl

theorem scalar_run (scalar : Scalar) (batch : RecordBatch) :
    runScalarOn (scalar.function ex) batch = (batchRows ex batch).map scalar.row.column :=
  runScalarOn_eq (scalar_bind ex scalar) (scalar_process ex scalar) batch

variable (batch : RecordBatch)

theorem fieldScalar_eq (field : UserAgentModel.Field) :
    runScalarOn (UaField.scalar ex field) batch = (batchRows ex batch).map (fieldRow field).column :=
  scalar_run ex (.accessor field) batch

theorem botScalar_eq : runScalarOn (UaIsBot.scalar ex) batch = (batchRows ex batch).map botRow.column :=
  scalar_run ex .isBot batch

theorem parseScalar_eq : runScalarOn (UaParse.scalar ex) batch = (batchRows ex batch).map parseRow.column :=
  scalar_run ex .parse batch

end Runs

section Register

variable {ex : Externals} {f : ScalarFunction}

def registerRows : List (RowFunction Parsed) := [
  fieldRow .browser,
  fieldRow .browserVersion,
  fieldRow .os,
  fieldRow .osVersion,
  fieldRow .device,
  fieldRow .deviceBrand,
  botRow,
  parseRow]

theorem register_scalar (member : f ∈ register ex) : ∃ scalar : Scalar, f = scalar.function ex := by
  simp only [register, List.mem_cons, List.not_mem_nil, or_false] at member
  rcases member with rfl | rfl | rfl | rfl | rfl | rfl | rfl | rfl
  · exact ⟨.accessor .browser, rfl⟩
  · exact ⟨.accessor .browserVersion, rfl⟩
  · exact ⟨.accessor .os, rfl⟩
  · exact ⟨.accessor .osVersion, rfl⟩
  · exact ⟨.accessor .device, rfl⟩
  · exact ⟨.accessor .deviceBrand, rfl⟩
  · exact ⟨.isBot, rfl⟩
  · exact ⟨.parse, rfl⟩

theorem row_listed (scalar : Scalar) : scalar.row ∈ registerRows := by
  cases scalar with
  | accessor field => cases field <;> simp [Scalar.row, registerRows]
  | isBot => simp [Scalar.row, registerRows]
  | parse => simp [Scalar.row, registerRows]

def onColumn (f : ScalarFunction) (col : ArrayRef) : Run ArrayRef := runScalarOn f (.single "ua" col)

theorem scalar_column (ex : Externals) (scalar : Scalar) (col : ArrayRef) :
    onColumn (scalar.function ex) col = (columnRows ex col).map scalar.row.column :=
  scalar_run ex scalar (.single "ua" col)

theorem scalar_type {scalar : Scalar} {col column : ArrayRef}
    (success : onColumn (scalar.function ex) col = .ok column) : column.dataType = scalar.row.dataType := by
  rw [scalar_column] at success
  cases reads : columnRows ex col with
  | error e =>
    rw [reads] at success
    cases success
  | ok rows =>
    rw [reads] at success
    cases success
    rfl

/-- A scalar makes its column of the first one of the batch before it looks at the schema. -/
theorem process_column (ex : Externals) (scalar : Scalar) (params : ProcessParams) {batch : RecordBatch}
    {col : ArrayRef} (first : batch.columns[0]? = some col) :
    (scalar.function ex).process params batch =
      onColumn (scalar.function ex) col >>= fun column => newBatch ex params.outputSchema [column] := by
  have rows : batchRows ex batch = columnRows ex col := by
    rw [batchRows, columnAt_ok_iff.mpr first]
    rfl
  rw [scalar_process, scalar_column, rows]
  cases columnRows ex col <;> rfl

theorem scalar_rowwise (ex : Externals) (scalar : Scalar) :
    Rowwise (onColumn (scalar.function ex)) (cell ex) scalar.row := ⟨scalar_column ex scalar⟩

theorem register_rowwise (member : f ∈ register ex) :
    ∃ row ∈ registerRows, Rowwise (onColumn f) (cell ex) row := by
  obtain ⟨scalar, same⟩ := register_scalar member
  subst same
  exact ⟨scalar.row, row_listed scalar, scalar_rowwise ex scalar⟩

theorem cell_alike (dataType : DataType) (left right : Slot) (e e' : Fault)
    (bad : cell ex dataType left = .error e) (bad' : cell ex dataType right = .error e') : e = e' := by
  rw [(cell_error_iff.mp bad).2.2, (cell_error_iff.mp bad').2.2]

end Register

def textColumn : ArrayRef := ⟨.utf8, [.text true "curl/8.5.0", .text false ""], by decide⟩

end UserAgentProof
