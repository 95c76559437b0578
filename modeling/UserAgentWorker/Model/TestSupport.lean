import UserAgentWorker.Model.Parse

namespace UserAgentModel

open Arrow

namespace TestSupport

def appendRow (b : StringBuilder) : Option String → StringBuilder
  | some s => b.appendValue s
  | none => b.appendNull

def textBatch (ex : Externals) (rows : List (Option String)) : Run RecordBatch :=
  let b := rows.foldl appendRow Builder.new
  let arr := StringBuilder.finish b
  match ex.tryNew ⟨[.new "ua" arr.dataType true]⟩ [arr] with
  | .ok batch => .ok batch
  | .error _ => .error .panic

def runScalarText (ex : Externals) (f : ScalarFunction) (rows : List (Option String)) : Run ArrayRef := do
  runScalarOn f (← textBatch ex rows)

def boundType (f : ScalarFunction) : Run DataType :=
  match f.onBind with
  | .ok bound =>
    match bound.outputSchema.fields[0]? with
    | some field => .ok field.dataType
    | none => .error .panic
  | .error _ => .error .panic

end TestSupport

end UserAgentModel
