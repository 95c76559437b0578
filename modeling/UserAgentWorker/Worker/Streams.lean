import UserAgentWorker.Scalars.Nulls
import UserAgentWorker.Worker.Calls

namespace UserAgentProof

open Arrow UserAgentModel UserAgentProcess Threads

def Returned (c : Config Process Running) (i : Nat) (found : Run RecordBatch) : Prop :=
  ∃ t, c.threads[i]? = some t ∧ t.stage = .returned found

section Streams

variable (ex : Externals) (scalar : Scalar)

theorem process_bound {bound : BindResponse} (binds : (scalar.function ex).onBind = .ok bound) :
    ∃ name, ∀ batch piece, batch.columns[0]? = some piece →
      (scalar.function ex).process ⟨bound.outputSchema⟩ batch =
        (onColumn (scalar.function ex) piece).map (RecordBatch.single name) := by
  rw [scalar_bind] at binds
  cases binds
  obtain ⟨name, declared⟩ := ex.result_declares scalar.row.dataType
  refine ⟨name, ?_⟩
  intro batch piece first
  rw [process_column ex scalar _ first, BindResponse.result, declared]
  cases success : onColumn (scalar.function ex) piece with
  | error e => rfl
  | ok column =>
    rw [← scalar_type success]
    exact newBatch_nullable ex name column

theorem returned_iff {calls : List Call} {schedule : List Nat} {i : Nat} {call : Call} (there : calls[i]? = some call)
    (turns : call.batch.numRows + 2 ≤ schedule.count i) (found : Run RecordBatch) :
    Returned (serve ex (some ex.parser) calls schedule) i found ↔
      found = (call.scalar.function ex).process call.params call.batch := by
  obtain ⟨t, thread, _, alone, returns⟩ := serve_thread ex (some ex.parser) schedule there
  rw [answer_works] at alone
  obtain ⟨final, stage⟩ := returns turns
  constructor
  · intro returned
    obtain ⟨u, thread', stage'⟩ := returned
    rw [thread, Option.some_inj] at thread'
    subst thread'
    exact alone found stage'
  · intro same
    rw [same, ← alone final stage]
    exact ⟨t, thread, stage⟩

end Streams

/-- A table sent in batches, each on some thread among other calls, comes back as the column in one piece would. -/
theorem table_streamed (ex : Externals) (scalar : Scalar) (bound : BindResponse)
    (binds : (scalar.function ex).onBind = .ok bound) (col : ArrayRef) (pieces : List ArrayRef)
    (cut : Concatenates pieces col) (calls : List Call) (place : Nat → Nat)
    (placed : ∀ k piece, pieces[k]? = some piece → ∃ batch, batch.columns[0]? = some piece ∧
      calls[place k]? = some ⟨scalar, ⟨bound.outputSchema⟩, batch⟩)
    (schedule : List Nat)
    (turns : ∀ k piece, pieces[k]? = some piece → piece.len + 2 ≤ schedule.count (place k)) :
    (∀ out, onColumn (scalar.function ex) col = .ok out → ∃ outs, Concatenates outs out ∧
      outs.length = pieces.length ∧ ∀ k column, outs[k]? = some column →
        ∃ batch, Returned (serve ex (some ex.parser) calls schedule) (place k) (.ok batch) ∧
          batch.columns = [column]) ∧
    ∀ e, onColumn (scalar.function ex) col = .error e ↔
      ∃ k < pieces.length, Returned (serve ex (some ex.parser) calls schedule) (place k) (.error e) := by
  have rowwise := scalar_rowwise ex scalar
  obtain ⟨name, wraps⟩ := process_bound ex scalar binds
  have served : ∀ k piece, pieces[k]? = some piece → ∀ found,
      Returned (serve ex (some ex.parser) calls schedule) (place k) found ↔
        found = (onColumn (scalar.function ex) piece).map (RecordBatch.single name) := by
    intro k piece there found
    obtain ⟨batch, first, call⟩ := placed k piece there
    have numRows : batch.numRows = piece.len := columnAt_numRows (columnAt_ok_iff.mpr first)
    rw [← wraps batch piece first]
    exact returned_iff ex call (numRows ▸ turns k piece there) found
  refine ⟨?_, ?_⟩
  · intro out success
    cases parts : pieces.mapM (onColumn (scalar.function ex)) with
    | error e =>
      rw [(rowwise.pieces_error cut e).mp parts] at success
      cases success
    | ok outs =>
      obtain ⟨whole, same, joined⟩ := rowwise.pieces_ok cut parts
      rw [success, Except.ok.injEq] at same
      subst same
      refine ⟨outs, joined, Rows.mapM_length parts, ?_⟩
      intro k column answered
      have inside : k < pieces.length := Rows.mapM_length parts ▸ (List.getElem?_eq_some_iff.mp answered).1
      obtain ⟨column', answer, found⟩ := Rows.mapM_getElem parts (List.getElem?_eq_getElem inside)
      rw [answered, Option.some_inj] at found
      subst found
      refine ⟨.single name column, (served k _ (List.getElem?_eq_getElem inside) _).mpr ?_, rfl⟩
      rw [answer]
      rfl
  · intro e
    rw [rowwise.error_iff_piece cell_alike cut]
    constructor
    · intro some
      obtain ⟨piece, member, failed⟩ := some
      obtain ⟨k, there⟩ := List.mem_iff_getElem?.mp member
      refine ⟨k, (List.getElem?_eq_some_iff.mp there).1, (served k piece there _).mpr ?_⟩
      rw [failed]
      rfl
    · intro some
      obtain ⟨k, inside, returned⟩ := some
      refine ⟨pieces[k], List.getElem_mem inside, ?_⟩
      rw [served k _ (List.getElem?_eq_getElem inside)] at returned
      cases answer : onColumn (scalar.function ex) pieces[k] with
      | error e' =>
        rw [answer] at returned
        cases returned
        rfl
      | ok column =>
        rw [answer] at returned
        cases returned

def boolColumn : ArrayRef := ⟨.boolean, [.boolean false false, .boolean true true], by decide⟩

theorem table_streamed_is_bot :
    let ex := constantEngine unmatched
    let call : ArrayRef → Call := fun piece => ⟨.isBot, ⟨⟨[.new "result" .boolean true]⟩⟩, .single "ua" piece⟩
    let served : ArrayRef → Threads.Config Process Running := fun col =>
      serve ex (some ex.parser) ([col.take [0], col.take [1]].map call) [1, 0, 1, 0, 1, 0]
    (∃ outs, Concatenates outs (BooleanBuilder.finish ⟨[some false, none]⟩) ∧ outs.length = 2 ∧
      ∀ (k : Nat) (column : ArrayRef), outs[k]? = some column →
        ∃ batch, Returned (served textColumn) k (.ok batch) ∧ batch.columns = [column]) ∧
    ∃ k < 2, Returned (served boolColumn) k (.error (.rpc (valueError ex .boolean))) := by
  intro ex call served
  have placed : ∀ (col : ArrayRef) (k : Nat) (piece : ArrayRef), [col.take [0], col.take [1]][k]? = some piece →
      ∃ batch : RecordBatch, batch.columns[0]? = some piece ∧
        ([col.take [0], col.take [1]].map call)[k]? = some ⟨.isBot, ⟨⟨[.new "result" .boolean true]⟩⟩, batch⟩ := by
    intro col k piece there
    refine ⟨.single "ua" piece, rfl, ?_⟩
    rw [List.getElem?_map, there]
    rfl
  have turns : ∀ (col : ArrayRef) (k : Nat) (piece : ArrayRef), [col.take [0], col.take [1]][k]? = some piece →
      piece.len + 2 ≤ [1, 0, 1, 0, 1, 0].count k := by
    intro col k piece there
    have short : ∀ i, (col.take [i]).len ≤ 1 := fun i => (List.length_filterMap_le _ _).trans (by simp)
    have inside : k < 2 := (List.getElem?_eq_some_iff.mp there).1
    have which : k = 0 ∨ k = 1 := by omega
    rcases which with rfl | rfl
    · cases there
      exact (Nat.add_le_add_right (short 0) 2).trans (by decide)
    · cases there
      exact (Nat.add_le_add_right (short 1) 2).trans (by decide)
  have texts : Concatenates [textColumn.take [0], textColumn.take [1]] textColumn :=
    ⟨by simp [ArrayRef.take], rfl⟩
  have bools : Concatenates [boolColumn.take [0], boolColumn.take [1]] boolColumn :=
    ⟨by simp [ArrayRef.take], rfl⟩
  refine ⟨?_, ?_⟩
  · exact (table_streamed ex .isBot _ rfl textColumn _ texts _ id (placed textColumn) [1, 0, 1, 0, 1, 0]
      (turns textColumn)).1 _ rfl
  · exact ((table_streamed ex .isBot _ rfl boolColumn _ bools _ id (placed boolColumn) [1, 0, 1, 0, 1, 0]
      (turns boolColumn)).2 _).mp rfl

end UserAgentProof
