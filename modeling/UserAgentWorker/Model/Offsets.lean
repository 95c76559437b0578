import UserAgentWorker.Arrow.Offsets
import UserAgentWorker.Model.Parse

namespace UserAgentOffsets

open Arrow UserAgentModel

/-- `append_value` over offsets that end at `limit`. -/
def appendValue (limit : Nat) (b : StringBuilder) (s : String) : Run StringBuilder :=
  match b.appendValueWithin limit s with
  | some b => .ok b
  | none => .error .panic

def process (ex : Externals) (limit : Nat) (scalar : Scalar) (params : ProcessParams) (batch : RecordBatch) :
    Run RecordBatch := do
  let col ← columnAt batch 0
  let out ← (List.range batch.numRows).foldlM (scalar.stepWith ex ex.engine (appendValue limit) col) scalar.new
  scalar.finish ex params out

end UserAgentOffsets
