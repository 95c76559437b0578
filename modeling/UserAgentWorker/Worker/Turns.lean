import UserAgentWorker.Model.Process
import UserAgentWorker.Scalars.Register

namespace UserAgentProof

open Text Arrow UserAgentModel UserAgentProcess Threads

section Work

variable {α β : Type} (p : Process)

theorem runOn_lift (run : Run α) : (liftM run : Work α).runOn p = (run, p) := rfl

theorem runOn_bind (work : Work α) (next : α → Work β) :
    (work >>= next).runOn p =
      match work.runOn p with
      | (.ok a, q) => (next a).runOn q
      | (.error e, q) => (.error e, q) := by
  simp only [Work.runOn, ExceptT.run_bind, StateT.run_bind]
  cases (ExceptT.run work).run p with
  | mk answer q => cases answer <;> rfl

theorem runOn_bind_ok {work : Work α} {a : α} {q : Process} (ran : work.runOn p = (.ok a, q)) (next : α → Work β) :
    (work >>= next).runOn p = (next a).runOn q := by
  rw [runOn_bind, ran]

theorem runOn_bind_error {work : Work α} {e : Fault} {q : Process} (ran : work.runOn p = (.error e, q))
    (next : α → Work β) : (work >>= next).runOn p = (.error e, q) := by
  rw [runOn_bind, ran]

theorem runOn_map {work : Work α} {answer : Run α} {q : Process} (ran : work.runOn p = (answer, q)) (f : α → β) :
    (work >>= fun a => pure (f a)).runOn p = (answer.map f, q) := by
  cases answer with
  | ok a => exact runOn_bind_ok p ran _
  | error e => exact runOn_bind_error p ran _

end Work

section Engine

variable (fromBytes : Option (String → Client)) (p : Process) (ua : String)

/-- What becomes of a text, whoever compiles the rules: the engine's answer, or the panic of `expect`. -/
def consulted : Run Parsed :=
  match fromBytes with
  | some parser => .ok (parsedOf (parser (truncate maxInputBytes ua)))
  | none => .error .panic

def forced : Process where
  parser := Lazy.settled fromBytes
  compiled := if p.parser.isPending then p.compiled + 1 else p.compiled
  parsed := p.parsed

def consult : Process :=
  match fromBytes with
  | some _ => { forced fromBytes p with parsed := p.parsed ++ [truncate maxInputBytes ua] }
  | none => forced fromBytes p

variable {fromBytes p}

theorem compile_runOn : (compile fromBytes).runOn p = (.ok fromBytes, { p with compiled := p.compiled + 1 }) := rfl

theorem access_runOn (follows : p.parser.Follows fromBytes) :
    (p.parser.force (compile fromBytes)).runOn p =
      (.ok (fromBytes, Lazy.settled fromBytes), { forced fromBytes p with parser := p.parser }) := by
  obtain ⟨cell, count, texts⟩ := p
  rcases follows with pending | settled
  · simp only at pending
    subst pending
    simp only [Lazy.force_pending, map_eq_pure_bind]
    exact runOn_map _ compile_runOn _
  · simp only at settled
    subst settled
    simp only [Lazy.force_settled, forced, Lazy.isPending_settled]
    rfl

theorem engine_runOn (follows : p.parser.Follows fromBytes) (ua : String) :
    (parseWith (UserAgentProcess.engine fromBytes) ua).runOn p = (consulted fromBytes ua, consult fromBytes p ua) := by
  have shared : Work.runOn get p = (.ok p, p) := rfl
  rw [parseWith_eq, map_eq_pure_bind, UserAgentProcess.engine, force]
  simp only [bind_assoc]
  rw [runOn_bind_ok p shared, runOn_bind_ok p (access_runOn follows)]
  cases fromBytes <;> rfl

end Engine

section Turns

variable (ex : Externals) (fromBytes : Option (String → Client)) (col : ArrayRef) (i : Nat)

/-- The text a turn hands to the engine, if it gets that far. -/
def rowText : Option String :=
  match textStr ex col i with
  | .ok text => text
  | .error _ => none

def rowAnswer : Run (Option Parsed) :=
  match textStr ex col i with
  | .ok (some ua) => (consulted fromBytes ua).map some
  | .ok none => .ok none
  | .error e => .error e

/-- What a turn leaves in the process. -/
def rowTrace (p : Process) : Process :=
  match rowText ex col i with
  | some ua => consult fromBytes p ua
  | none => p

variable {ex fromBytes col i} {p : Process}

theorem row_runOn (follows : p.parser.Follows fromBytes) :
    (rowWith ex (UserAgentProcess.engine fromBytes) col i).runOn p =
      (rowAnswer ex fromBytes col i, rowTrace ex fromBytes col i p) := by
  rw [rowWith]
  cases read : textStr ex col i with
  | error e =>
    simp only [rowAnswer, rowTrace, rowText, read]
    exact runOn_bind_error p (runOn_lift p _) _
  | ok found =>
    simp only [rowAnswer, rowTrace, rowText, read]
    rw [runOn_bind_ok p (runOn_lift p _)]
    cases found with
    | none => rfl
    | some ua => exact runOn_map p (engine_runOn follows ua) some

theorem turn_runOn (follows : p.parser.Follows fromBytes) (scalar : Scalar) (out : scalar.Builders) :
    (scalar.stepWith ex (UserAgentProcess.engine fromBytes) appendValue col out i).runOn p =
      ((rowAnswer ex fromBytes col i).map (scalar.push out), rowTrace ex fromBytes col i p) := by
  have push : pushWith appendValue scalar out = fun row => (pure (scalar.push out row) : Work scalar.Builders) :=
    funext (pushWith_appendValue scalar out)
  rw [stepWith_eq, push]
  exact runOn_map p (row_runOn follows) (scalar.push out)

end Turns

end UserAgentProof
