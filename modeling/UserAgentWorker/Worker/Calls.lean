import UserAgentWorker.Threads.Schedule
import UserAgentWorker.Worker.Turns

namespace UserAgentProof

open Text Arrow UserAgentModel UserAgentProcess Threads

section Answers

variable (ex : Externals) (fromBytes : Option (String → Client))

def answerRows (batch : RecordBatch) : Run (List (Option Parsed)) :=
  columnAt batch 0 >>= fun col => (List.range col.len).mapM (rowAnswer ex fromBytes col)

def answer (call : Call) : Run RecordBatch :=
  answerRows ex fromBytes call.batch >>= fun rows =>
    newBatch ex call.params.outputSchema [call.scalar.row.column rows]

theorem rowAnswer_works (col : ArrayRef) (i : Nat) : rowAnswer ex (some ex.parser) col i = readRow ex col i := by
  rw [rowAnswer, readRow]
  cases textStr ex col i with
  | error e => rfl
  | ok text => cases text <;> rfl

theorem answer_works (call : Call) :
    answer ex (some ex.parser) call = (call.scalar.function ex).process call.params call.batch := by
  rw [scalar_process, answer, answerRows, batchRows]
  have reads : (fun col : ArrayRef => (List.range col.len).mapM (rowAnswer ex (some ex.parser) col)) =
      columnRows ex := by
    funext col
    rw [← readRows_eq]
    congr 1
    funext i
    exact rowAnswer_works ex col i
  rw [reads]

end Answers

section Turns

/-- What one turn of a call can do to its stage and to the process. -/
inductive Turn (ex : Externals) (fromBytes : Option (String → Client)) (call : Call) (p : Process) :
    Stage call.scalar → Process → Stage call.scalar → Prop
  | column {col : ArrayRef} : columnAt call.batch 0 = .ok col →
      Turn ex fromBytes call p .called p (.looping col call.scalar.new 0)
  | noColumn {e : Fault} : columnAt call.batch 0 = .error e →
      Turn ex fromBytes call p .called p (.returned (.error e))
  | row {col : ArrayRef} {out : call.scalar.Builders} {i : Nat} {answer : Option Parsed} : i < call.batch.numRows →
      rowAnswer ex fromBytes col i = .ok answer →
      Turn ex fromBytes call p (.looping col out i) (rowTrace ex fromBytes col i p)
        (.looping col (call.scalar.push out answer) (i + 1))
  | badRow {col : ArrayRef} {out : call.scalar.Builders} {i : Nat} {e : Fault} : i < call.batch.numRows →
      rowAnswer ex fromBytes col i = .error e →
      Turn ex fromBytes call p (.looping col out i) (rowTrace ex fromBytes col i p) (.returned (.error e))
  | finish {col : ArrayRef} {out : call.scalar.Builders} {i : Nat} : ¬ i < call.batch.numRows →
      Turn ex fromBytes call p (.looping col out i) p (.returned (call.scalar.finish ex call.params out))

variable {ex : Externals} {fromBytes : Option (String → Client)}

theorem step_turn {p p' : Process} {t t' : Running} (follows : p.parser.Follows fromBytes)
    (taken : step ex fromBytes p t = some (p', t')) :
    ∃ stage, t' = t.after stage ∧ Turn ex fromBytes t.call p t.stage p' stage := by
  obtain ⟨call, stage⟩ := t
  unfold step at taken
  cases stage with
  | called =>
    simp only at taken ⊢
    cases first : columnAt call.batch 0 with
    | ok col =>
      simp only [first, Option.some.injEq, Prod.mk.injEq] at taken
      obtain ⟨same, next⟩ := taken
      subst same
      exact ⟨_, next.symm, .column first⟩
    | error e =>
      simp only [first, Option.some.injEq, Prod.mk.injEq] at taken
      obtain ⟨same, next⟩ := taken
      subst same
      exact ⟨_, next.symm, .noColumn first⟩
  | looping col out i =>
    simp only [turn_runOn follows] at taken ⊢
    by_cases inside : i < call.batch.numRows
    · rw [if_pos inside] at taken
      cases read : rowAnswer ex fromBytes col i with
      | ok answer =>
        simp only [read, Except.map, Option.some.injEq, Prod.mk.injEq] at taken
        obtain ⟨same, next⟩ := taken
        subst same
        exact ⟨_, next.symm, .row inside read⟩
      | error e =>
        simp only [read, Except.map, Option.some.injEq, Prod.mk.injEq] at taken
        obtain ⟨same, next⟩ := taken
        subst same
        exact ⟨_, next.symm, .badRow inside read⟩
    · rw [if_neg inside] at taken
      simp only [Option.some.injEq, Prod.mk.injEq] at taken
      obtain ⟨same, next⟩ := taken
      subst same
      exact ⟨_, next.symm, .finish inside⟩
  | returned found => cases taken

end Turns

section Invariant

variable (ex : Externals) (fromBytes : Option (String → Client))

def Standing (call : Call) : Stage call.scalar → Prop
  | .called => True
  | .looping col out i =>
    columnAt call.batch 0 = .ok col ∧ i ≤ col.len ∧
      ∃ rows, (List.range i).mapM (rowAnswer ex fromBytes col) = .ok rows ∧
        out = rows.foldl call.scalar.push call.scalar.new
  | .returned found => found = answer ex fromBytes call

/-- Before the first text the cell is untouched; behind it the one compilation has been made. -/
def Engaged (p : Process) : Prop :=
  p.parser = .pending ∧ p.compiled = 0 ∧ p.parsed = [] ∨
    p.parser = Lazy.settled fromBytes ∧ p.compiled = 1 ∧ (p.parsed = [] ↔ fromBytes = none)

variable {ex fromBytes}

theorem Engaged.follows {p : Process} (engaged : Engaged fromBytes p) : p.parser.Follows fromBytes := by
  rcases engaged with pending | settled
  · exact .inl pending.1
  · exact .inr settled.1

theorem Engaged.consult {p : Process} (engaged : Engaged fromBytes p) (ua : String) :
    Engaged fromBytes (consult fromBytes p ua) := by
  right
  have compiled : (forced fromBytes p).compiled = 1 := by
    rcases engaged with ⟨cell, count, _⟩ | ⟨cell, count, _⟩
    · simp [forced, cell, count, Lazy.isPending]
    · simp [forced, cell, count]
  cases fromBytes with
  | some parser => exact ⟨rfl, compiled, by simp [UserAgentProof.consult]⟩
  | none =>
    refine ⟨rfl, compiled, ?_⟩
    have texts : p.parsed = [] := by
      rcases engaged with ⟨_, _, none⟩ | ⟨_, _, none⟩
      · exact none
      · exact none.mpr rfl
    simp [UserAgentProof.consult, forced, texts]

theorem Engaged.rowTrace {p : Process} (engaged : Engaged fromBytes p) (col : ArrayRef) (i : Nat) :
    Engaged fromBytes (rowTrace ex fromBytes col i p) := by
  rw [UserAgentProof.rowTrace]
  cases rowText ex col i with
  | none => exact engaged
  | some ua => exact engaged.consult ua

theorem answer_of_column {call : Call} {col : ArrayRef} (first : columnAt call.batch 0 = .ok col) :
    answer ex fromBytes call = (List.range col.len).mapM (rowAnswer ex fromBytes col) >>= fun rows =>
      newBatch ex call.params.outputSchema [call.scalar.row.column rows] := by
  rw [answer, answerRows, first]
  rfl

theorem standing_turn {call : Call} {p p' : Process} {stage stage' : Stage call.scalar}
    (standing : Standing ex fromBytes call stage) (turn : Turn ex fromBytes call p stage p' stage') :
    Standing ex fromBytes call stage' := by
  cases turn with
  | column first => exact ⟨first, Nat.zero_le _, [], rfl, rfl⟩
  | noColumn missing =>
    rw [Standing, answer, answerRows, missing]
    rfl
  | @row col out i found inside read =>
    obtain ⟨first, _, rows, reads, same⟩ := standing
    rw [columnAt_numRows first] at inside
    refine ⟨first, inside, rows ++ [found], Rows.mapM_range_succ reads read, ?_⟩
    rw [List.foldl_append, ← same]
    rfl
  | @badRow col out i e inside failed =>
    obtain ⟨first, _, rows, reads, same⟩ := standing
    rw [columnAt_numRows first] at inside
    rw [Standing, answer_of_column first, Rows.mapM_range_error reads failed inside]
    rfl
  | @finish col out i done =>
    obtain ⟨first, bound, rows, reads, same⟩ := standing
    rw [columnAt_numRows first] at done
    have last : i = col.len := by omega
    rw [Standing, answer_of_column first, ← last, reads, same, scalar_finish]
    rfl

theorem engaged_turn {call : Call} {p p' : Process} {stage stage' : Stage call.scalar}
    (engaged : Engaged fromBytes p) (turn : Turn ex fromBytes call p stage p' stage') : Engaged fromBytes p' := by
  cases turn with
  | row => exact engaged.rowTrace _ _
  | badRow => exact engaged.rowTrace _ _
  | _ => exact engaged

theorem calls_invariant :
    Threads.Invariant (step ex fromBytes) (Engaged fromBytes) fun _ t => Standing ex fromBytes t.call t.stage where
  own p t p' t' engaged standing taken := by
    obtain ⟨stage, same, turn⟩ := step_turn engaged.follows taken
    subst same
    exact ⟨engaged_turn engaged turn, standing_turn standing turn⟩
  stable _ _ _ _ _ _ _ standing _ := standing

end Invariant

section Progress

variable {ex : Externals} {fromBytes : Option (String → Client)}

def turnsLeft (t : Running) : Nat :=
  match t.stage with
  | .called => t.call.batch.numRows + 2
  | .looping _ _ i => t.call.batch.numRows - i + 1
  | .returned _ => 0

theorem step_after (p : Process) (t : Running) (p' : Process) (t' : Running)
    (taken : step ex fromBytes p t = some (p', t')) : t'.call = t.call ∧ turnsLeft t' < turnsLeft t := by
  obtain ⟨call, stage⟩ := t
  unfold step at taken
  cases stage with
  | called =>
    simp only at taken
    split at taken
    all_goals
      cases taken
      simp [turnsLeft, Running.after]
  | looping col out i =>
    simp only at taken
    split at taken
    · next inside =>
      split at taken
      all_goals
        cases taken
        simp only [turnsLeft, Running.after, true_and]
        omega
    · cases taken
      simp [turnsLeft, Running.after]
  | returned found => cases taken

theorem step_call (p : Process) (t : Running) (p' : Process) (t' : Running)
    (taken : step ex fromBytes p t = some (p', t')) : t'.call = t.call := (step_after p t p' t' taken).1

theorem step_shrinks (p : Process) (t : Running) (p' : Process) (t' : Running)
    (taken : step ex fromBytes p t = some (p', t')) : turnsLeft t' < turnsLeft t := (step_after p t p' t' taken).2

theorem running_eq_none_iff (p : Process) (t : Running) :
    step ex fromBytes p t = none ↔ ∃ found, t.stage = .returned found := by
  obtain ⟨call, stage⟩ := t
  unfold step
  cases stage with
  | called =>
    simp only [reduceCtorEq, exists_false, iff_false]
    split <;> simp
  | looping col out i =>
    simp only [reduceCtorEq, exists_false, iff_false]
    split
    · split <;> simp
    · simp
  | returned found => simp

end Progress

section Runs

variable (ex : Externals) (fromBytes : Option (String → Client)) (calls : List Call) (schedule : List Nat)

/-- A fresh process and the calls that will run in it, each on a thread of its own. -/
def opening : Threads.Config Process Running := ⟨Process.new, calls.map fun call => ⟨call, .called⟩⟩

def serve : Threads.Config Process Running := Threads.run (step ex fromBytes) (opening calls) schedule

theorem opening_holds :
    Threads.Holds (Engaged fromBytes) (fun _ t => Standing ex fromBytes t.call t.stage) (opening calls) := by
  refine ⟨.inl ⟨rfl, rfl, rfl⟩, ?_⟩
  intro t member
  obtain ⟨call, _, same⟩ := List.mem_map.mp member
  subst same
  exact True.intro

theorem serve_holds : Threads.Holds (Engaged fromBytes) (fun _ t => Standing ex fromBytes t.call t.stage)
    (serve ex fromBytes calls schedule) := calls_invariant.run (opening_holds ex fromBytes calls) schedule

variable {calls}

theorem serve_thread {i : Nat} {call : Call} (there : calls[i]? = some call) :
    ∃ t, (serve ex fromBytes calls schedule).threads[i]? = some t ∧ t.call = call ∧
      (∀ found, t.stage = .returned found → found = answer ex fromBytes call) ∧
      (call.batch.numRows + 2 ≤ schedule.count i → ∃ found, t.stage = .returned found) := by
  have start : (opening calls).threads[i]? = some ⟨call, .called⟩ := by
    rw [opening, List.getElem?_map, there, Option.map_some]
  have stays : ∀ p t, step ex fromBytes p t = none → ∀ p', step ex fromBytes p' t = none := by
    intro p t idle p'
    rw [running_eq_none_iff] at idle ⊢
    exact idle
  obtain ⟨t, found, same⟩ := Threads.run_thread step_call schedule start
  have same : t.call = call := same
  have standing : Standing ex fromBytes t.call t.stage :=
    (serve_holds ex fromBytes calls schedule).2 t (List.mem_of_getElem? found)
  refine ⟨t, found, same, ?_, ?_⟩
  · intro returned stage
    rw [stage, Standing, same] at standing
    exact standing
  · intro turns
    obtain ⟨u, found', stuck⟩ := Threads.run_returns step_shrinks stays schedule start turns
    rw [found, Option.some_inj] at found'
    subst found'
    exact (running_eq_none_iff Process.new t).mp (stuck Process.new)

end Runs

/-- However its calls take turns, a process answers each as `process` answers it alone. -/
theorem calls_answer_alone (ex : Externals) (calls : List Call) (schedule : List Nat) {i : Nat} {call : Call}
    (there : calls[i]? = some call) :
    ∃ t, (serve ex (some ex.parser) calls schedule).threads[i]? = some t ∧ t.call = call ∧
      (∀ found, t.stage = .returned found →
        found = (call.scalar.function ex).process call.params call.batch) ∧
      (call.batch.numRows + 2 ≤ schedule.count i → ∃ found, t.stage = .returned found) := by
  rw [← answer_works]
  exact serve_thread ex (some ex.parser) schedule there

theorem calls_answer_alone_pair :
    let ex := constantEngine unmatched
    let call : Call := ⟨.isBot, ⟨⟨[.new "result" .boolean true]⟩⟩, .single "ua" textColumn⟩
    ∃ t, (serve ex (some ex.parser) [call, call] [0, 1, 1, 0, 1, 1]).threads[1]? = some t ∧
      ∃ found, t.stage = .returned found ∧ found = (UaIsBot.scalar ex).process call.params call.batch := by
  intro ex call
  obtain ⟨t, there, _, alone, turns⟩ := calls_answer_alone ex [call, call] [0, 1, 1, 0, 1, 1] (i := 1) rfl
  obtain ⟨found, returned⟩ := turns (by decide)
  exact ⟨t, there, found, returned, alone found returned⟩

end UserAgentProof
