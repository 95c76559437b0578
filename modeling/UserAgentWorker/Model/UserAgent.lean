import UserAgentWorker.Arrow.Builders
import UserAgentWorker.Arrow.Record
import UserAgentWorker.Text.Segments
import UserAgentWorker.Text.Truncation

namespace UserAgentModel

open Text Arrow

structure UserAgent where
  family : String
  major : Option String
  minor : Option String
  patch : Option String

structure OS where
  family : String
  major : Option String
  minor : Option String
  patch : Option String
  patchMinor : Option String

structure Device where
  family : String
  brand : Option String

/-- `uaparser::Client`, as far as the worker reads it. -/
structure Client where
  userAgent : UserAgent
  os : OS
  device : Device

/-- The third-party code behind the worker, and what the worker relies on of it: the engine, the rendering of a
    type, `BindResponse::result`, `RecordBatch::try_new` with the text of its error, and `StructArray::new`. -/
structure Externals where
  parser : String → Client
  debugDataType : DataType → String
  result : DataType → Schema
  result_declares : ∀ dataType, ∃ name, result dataType = ⟨[.new name dataType true]⟩
  tryNew : Schema → List ArrayRef → Except String RecordBatch
  tryNew_parts : ∀ {schema : Schema} {columns : List ArrayRef} {batch : RecordBatch},
    tryNew schema columns = .ok batch → batch.schema = schema ∧ batch.columns = columns
  tryNew_accepts : ∀ batch : RecordBatch, batch.columns ≠ [] →
    (∀ field ∈ batch.schema.fields, field.nullable = true) → tryNew batch.schema batch.columns = .ok batch
  structNew : Fields → List ArrayRef → List Bool → Option ArrayRef
  structNew_accepts : ∀ {fields : Fields} {children : List ArrayRef} {validity : List Bool}
    (fits : StructArray.Fits fields children validity),
    structNew fields children validity = some (StructArray.assemble fits)

inductive RpcError
  | valueError (message : String)
  | runtimeError (message : String)
  deriving DecidableEq

inductive Fault
  | panic
  | rpc (error : RpcError)
  deriving DecidableEq

abbrev Run := Except Fault

def maxInputBytes : Nat := 64 * 1024

structure Parsed where
  browser : Option String
  browserVersion : Option String
  os : Option String
  osVersion : Option String
  device : Option String
  brand : Option String
  isBot : Bool
  deriving DecidableEq

/-- The scan of `bound`: `while end > 0 && !ua.is_char_boundary(end) { end -= 1; }`. -/
def boundScan (ua : String) : Nat → Nat
  | 0 => 0
  | stop + 1 => if !isCharBoundary ua (stop + 1) then boundScan ua stop else stop + 1

def bound (ua : String) : Run String :=
  if ua.utf8ByteSize ≤ maxInputBytes then .ok ua
  else match sliceTo ua (boundScan ua maxInputBytes) with
    | some front => .ok front
    | none => .error .panic

def normFamily (family : String) : Option String :=
  let f := trim family
  if f = "" ∨ f = "Other" then none else some f

def normOpt : Option String → Option String
  | some v => if !(trim v).isEmpty then some v else none
  | none => none

/-- The loop of `version`, which stops at the first missing or blank part. -/
def versionRun (out : List String) : List (Option String) → List String
  | some v :: parts => if !(trim v).isEmpty then versionRun (out ++ [trim v]) parts else out
  | none :: _ => out
  | [] => out

def version (parts : List (Option String)) : Option String :=
  let out := versionRun [] parts
  if out.isEmpty then none else some (join '.' out)

/-- The part of `parse` that follows the call of the engine. -/
def parsedOf (client : Client) : Parsed :=
  let browser := normFamily client.userAgent.family
  let browserVersion := browser.bind fun _ =>
    version [client.userAgent.major, client.userAgent.minor, client.userAgent.patch]
  let os := normFamily client.os.family
  let osVersion := os.bind fun _ =>
    version [client.os.major, client.os.minor, client.os.patch, client.os.patchMinor]
  let isBot := client.device.family == "Spider"
  let (device, brand) :=
    if isBot then (none, none) else (normFamily client.device.family, normOpt client.device.brand)
  { browser, browserVersion, os, osVersion, device, brand, isBot }

section Parsing

-- The engine is an effect: a plain function for a call by itself, a cell of the process where calls meet.
variable {m : Type → Type} [Monad m] [MonadLiftT Run m] (engine : String → m Client)

def parseWith (ua : String) : m Parsed := do
  let ua ← bound ua
  return parsedOf (← engine ua)

def browserWith (ua : String) : m (Option String) := return (← parseWith engine ua).browser

def browserVersionWith (ua : String) : m (Option String) := return (← parseWith engine ua).browserVersion

def osWith (ua : String) : m (Option String) := return (← parseWith engine ua).os

def osVersionWith (ua : String) : m (Option String) := return (← parseWith engine ua).osVersion

def deviceWith (ua : String) : m (Option String) := return (← parseWith engine ua).device

def deviceBrandWith (ua : String) : m (Option String) := return (← parseWith engine ua).brand

def isBotWith (ua : String) : m Bool := do
  let ua ← bound ua
  return (← parseWith engine ua).isBot

end Parsing

section Alone

variable (ex : Externals)

def Externals.engine (ua : String) : Run Client := return ex.parser ua

def parse (ua : String) : Run Parsed := parseWith ex.engine ua

def isBot (ua : String) : Run Bool := isBotWith ex.engine ua

end Alone

end UserAgentModel
