import UserAgentWorker.Arrow.Record
import UserAgentWorker.Model.ArrowIo

namespace UserAgentModel

open Arrow

structure ArgSpec where
  name : String
  position : Nat
  anyType : Bool
  doc : String

def ArgSpec.anyColumn (name : String) (position : Nat) (doc : String) : ArgSpec := ⟨name, position, true, doc⟩

structure BindResponse where
  outputSchema : Schema

def BindResponse.result (ex : Externals) (dataType : DataType) : BindResponse := ⟨ex.result dataType⟩

structure ProcessParams where
  outputSchema : Schema

structure ScalarFunction where
  name : String
  argumentSpecs : List ArgSpec
  onBind : Run BindResponse
  process : ProcessParams → RecordBatch → Run RecordBatch

/-- `batch.column(i)`, a panic where the batch has no such column. -/
def columnAt (batch : RecordBatch) (i : Nat) : Run ArrayRef :=
  match batch.columns[i]? with
  | some column => .ok column
  | none => .error .panic

/-- `RecordBatch::try_new(..).map_err(|e| RpcError::runtime_error(e.to_string()))`. -/
def newBatch (ex : Externals) (schema : Schema) (columns : List ArrayRef) : Run RecordBatch :=
  match ex.tryNew schema columns with
  | .ok batch => .ok batch
  | .error e => .error (.rpc (.runtimeError e))

def runScalarOn (f : ScalarFunction) (batch : RecordBatch) : Run ArrayRef := do
  let bound ← f.onBind
  let out ← f.process { outputSchema := bound.outputSchema } batch
  columnAt out 0

end UserAgentModel
