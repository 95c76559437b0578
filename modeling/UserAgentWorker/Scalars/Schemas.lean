import UserAgentWorker.Scalars.Register

namespace UserAgentProof

open Arrow UserAgentModel

/-- The output is the one column, under the declared schema, which has just this column to declare. -/
structure Sent (schema : Schema) (batch : RecordBatch) (column : ArrayRef) (out : RecordBatch) : Prop where
  kept : out.schema = schema
  alone : out.columns = [column]
  rows : out.numRows = batch.numRows
  declared : ∃ name nullable, schema.fields = [.new name column.dataType nullable]

section Schemas

variable {ex : Externals} {schema : Schema} {column : ArrayRef} {out : RecordBatch}

theorem newBatch_sent (made : newBatch ex schema [column] = .ok out) :
    out.schema = schema ∧ out.columns = [column] ∧ out.numRows = column.len ∧
      ∃ name nullable, schema.fields = [.new name column.dataType nullable] := by
  unfold newBatch at made
  split at made
  · next batch sent =>
    cases made
    obtain ⟨same, columns⟩ := ex.tryNew_parts sent
    have types := out.types
    rw [same, columns, List.map_singleton, eq_comm, List.map_eq_singleton_iff] at types
    obtain ⟨field, one, type⟩ := types
    obtain ⟨name, dataType, nullable⟩ := field
    refine ⟨same, columns, (out.lengths column (by simp [columns])).symm, name, nullable, ?_⟩
    rw [one, ← type]
    rfl
  · cases made

theorem bound_declares {scalar : Scalar} {col : ArrayRef} {bound : BindResponse}
    (success : onColumn (scalar.function ex) col = .ok column) (binds : (scalar.function ex).onBind = .ok bound) :
    ∃ name, bound.outputSchema = ⟨[.new name column.dataType true]⟩ := by
  rw [scalar_bind, Except.ok.injEq] at binds
  rw [← binds, scalar_type success]
  exact ex.result_declares scalar.row.dataType

end Schemas

/-- Rows are read before the schema is looked at; then the schema decides what becomes of the one column there is. -/
theorem process_against_schema (ex : Externals) (scalar : Scalar) (schema : Schema) (batch : RecordBatch) :
    (batch.columns = [] → (scalar.function ex).process ⟨schema⟩ batch = .error .panic) ∧
    ∀ col, batch.columns[0]? = some col →
      (∀ e, onColumn (scalar.function ex) col = .error e → (scalar.function ex).process ⟨schema⟩ batch = .error e) ∧
      ∀ column, onColumn (scalar.function ex) col = .ok column →
        (∀ out, (scalar.function ex).process ⟨schema⟩ batch = .ok out ↔ ex.tryNew schema [column] = .ok out) ∧
        (∀ e, (scalar.function ex).process ⟨schema⟩ batch = .error e ↔
          ∃ text, ex.tryNew schema [column] = .error text ∧ e = .rpc (.runtimeError text)) ∧
        (∀ out, (scalar.function ex).process ⟨schema⟩ batch = .ok out → Sent schema batch column out) ∧
        (∀ name, schema.fields = [.new name column.dataType true] →
          ∃ out, (scalar.function ex).process ⟨schema⟩ batch = .ok out) ∧
        ∀ bound, (scalar.function ex).onBind = .ok bound →
          ∃ name, bound.outputSchema = ⟨[.new name column.dataType true]⟩ := by
  refine ⟨?_, ?_⟩
  · intro none
    rw [scalar_process, batchRows, columnAt, none]
    rfl
  · intro col first
    rw [process_column ex scalar ⟨schema⟩ first]
    refine ⟨?_, ?_⟩
    · intro e failed
      rw [failed]
      rfl
    · intro column success
      have sends : (onColumn (scalar.function ex) col >>= fun column => newBatch ex schema [column]) =
          newBatch ex schema [column] := by
        rw [success]
        rfl
      simp only [sends]
      refine ⟨?_, ?_, ?_, ?_, ?_⟩
      · intro out
        rw [newBatch]
        cases ex.tryNew schema [column] <;> simp
      · intro e
        rw [newBatch]
        cases ex.tryNew schema [column] with
        | ok out => simp
        | error text => simp [eq_comm]
      · intro out made
        obtain ⟨same, columns, len, declared⟩ := newBatch_sent made
        have rows : column.len = col.len := (scalar_rowwise ex scalar).len success
        refine ⟨same, columns, ?_, declared⟩
        rw [len, rows, columnAt_numRows (columnAt_ok_iff.mpr first)]
      · intro name one
        obtain ⟨fields⟩ := schema
        subst one
        exact ⟨_, newBatch_nullable ex name column⟩
      · intro bound binds
        exact bound_declares success binds

theorem process_against_schema_parse :
    let ex := constantEngine unmatched
    let empty : RecordBatch := ⟨⟨[]⟩, [], 3, by simp, rfl⟩
    let batch : RecordBatch := .single "ua" textColumn
    (UaParse.scalar ex).process ⟨⟨[]⟩⟩ empty = .error .panic ∧
      (∃ out, (UaParse.scalar ex).process ⟨⟨[.new "row" parseStructType true]⟩⟩ batch = .ok out) ∧
      ∃ text, (UaParse.scalar ex).process ⟨⟨[.new "row" .utf8 true]⟩⟩ batch = .error (.rpc (.runtimeError text)) := by
  intro ex empty batch
  have answered : ∃ column, onColumn (UaParse.scalar ex) textColumn = .ok column ∧
      column.dataType = parseStructType := by
    rw [onColumn, parseScalar_eq]
    exact ⟨_, rfl, rfl⟩
  obtain ⟨column, success, type⟩ := answered
  refine ⟨(process_against_schema ex .parse ⟨[]⟩ empty).1 rfl, ?_, ?_⟩
  · obtain ⟨_, sent⟩ := (process_against_schema ex .parse ⟨[.new "row" parseStructType true]⟩ batch).2 textColumn rfl
    exact (sent column success).2.2.2.1 "row" (by rw [type])
  · obtain ⟨_, sent⟩ := (process_against_schema ex .parse ⟨[.new "row" .utf8 true]⟩ batch).2 textColumn rfl
    obtain ⟨_, failed, keeps, _⟩ := sent column success
    cases answer : (UaParse.scalar ex).process ⟨⟨[.new "row" .utf8 true]⟩⟩ batch with
    | ok out =>
      obtain ⟨name, nullable, one⟩ := (keeps out answer).declared
      rw [type] at one
      cases one
    | error e =>
      obtain ⟨text, _, same⟩ := (failed e).mp answer
      exact ⟨text, by rw [same]⟩

end UserAgentProof
