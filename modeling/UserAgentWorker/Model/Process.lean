import UserAgentWorker.Model.Parse
import UserAgentWorker.Threads.Lazy

namespace UserAgentProcess

open Arrow UserAgentModel Threads

/-- What the calls of one process share: the `PARSER` cell, with a count of the runs of its initialiser and the
    texts the engine was handed. -/
structure Process where
  parser : Lazy (String → Client)
  compiled : Nat
  parsed : List String

def Process.new : Process := ⟨.pending, 0, []⟩

abbrev Work := ExceptT Fault (StateM Process)

def Work.runOn {α : Type} (work : Work α) (p : Process) : Run α × Process := (ExceptT.run work).run p

section Work

variable (fromBytes : Option (String → Client))

/-- The initialiser of `PARSER`, which counts its runs; `fromBytes` is what compiling the embedded rules gives,
    `none` where `expect` panics. -/
def compile : Work (Option (String → Client)) := do
  modify fun p => { p with compiled := p.compiled + 1 }
  return fromBytes

def force : Work (String → Client) := do
  let (value, cell) ← (← get).parser.force (compile fromBytes)
  modify fun p => { p with parser := cell }
  match value with
  | some parser => return parser
  | none => throw .panic

def engine (ua : String) : Work Client := do
  let parser ← force fromBytes
  modify fun p => { p with parsed := p.parsed ++ [ua] }
  return parser ua

end Work

structure Call where
  scalar : Scalar
  params : ProcessParams
  batch : RecordBatch

inductive Stage (scalar : Scalar)
  | called
  | looping (col : ArrayRef) (out : scalar.Builders) (i : Nat)
  | returned (answer : Run RecordBatch)

structure Running where
  call : Call
  stage : Stage call.scalar

def Running.after (t : Running) (stage : Stage t.call.scalar) : Running := ⟨t.call, stage⟩

/-- A turn takes the column, does one row of the loop or finishes; it dereferences `PARSER` at most once. -/
def step (ex : Externals) (fromBytes : Option (String → Client)) (p : Process) (t : Running) :
    Option (Process × Running) :=
  match t.stage with
  | .called =>
    match columnAt t.call.batch 0 with
    | .ok col => some (p, t.after (.looping col t.call.scalar.new 0))
    | .error e => some (p, t.after (.returned (.error e)))
  | .looping col out i =>
    if i < t.call.batch.numRows then
      match (t.call.scalar.stepWith ex (engine fromBytes) appendValue col out i).runOn p with
      | (.ok out, p) => some (p, t.after (.looping col out (i + 1)))
      | (.error e, p) => some (p, t.after (.returned (.error e)))
    else some (p, t.after (.returned (t.call.scalar.finish ex t.call.params out)))
  | .returned _ => none

end UserAgentProcess
