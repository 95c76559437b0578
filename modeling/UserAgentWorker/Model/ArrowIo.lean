import UserAgentWorker.Arrow.Builders
import UserAgentWorker.Model.UserAgent

namespace UserAgentModel

open Arrow

def isNull (col : ArrayRef) (row : Nat) : Run Bool :=
  match col.slots[row]? with
  | some slot => .ok slot.isNull
  -- Past the end an array without a validity buffer says false; no loop gets there.
  | none => .error .panic

/-- `col.as_string::<O>().value(row)`, a panic on an array of another type. -/
def asString (offsets : DataType) (col : ArrayRef) (row : Nat) : Run String :=
  if col.dataType = offsets then
    match col.slots[row]? with
    | some (.text _ value) => .ok value
    | _ => .error .panic
  else .error .panic

def valueError (ex : Externals) (other : DataType) : RpcError :=
  .valueError ("expected a VARCHAR (string) argument, got " ++ ex.debugDataType other)

def textStr (ex : Externals) (col : ArrayRef) (row : Nat) : Run (Option String) := do
  -- NULL is tested before the type: a column of a foreign type fails on its other rows only.
  if ← isNull col row then
    return none
  match col.dataType with
  | .utf8 => return some (← asString .utf8 col row)
  | .largeUtf8 => return some (← asString .largeUtf8 col row)
  | other => throw (.rpc (valueError ex other))

def parseStructFields : Fields := Fields.ofList [
  .new "browser" .utf8 true,
  .new "browser_version" .utf8 true,
  .new "os" .utf8 true,
  .new "os_version" .utf8 true,
  .new "device" .utf8 true,
  .new "brand" .utf8 true,
  .new "is_bot" .boolean true]

def parseStructType : DataType := .struct parseStructFields

end UserAgentModel
