import UserAgentWorker.Model.Scalar

namespace UserAgentModel

open Arrow

inductive Field
  | browser | browserVersion | os | osVersion | device | deviceBrand
  deriving DecidableEq

def Field.name : Field → String
  | .browser => "ua_browser"
  | .browserVersion => "ua_browser_version"
  | .os => "ua_os"
  | .osVersion => "ua_os_version"
  | .device => "ua_device"
  | .deviceBrand => "ua_device_brand"

section Rows

variable {m : Type → Type} [Monad m] [MonadLiftT Run m] (ex : Externals) (engine : String → m Client)

def Field.extractWith (field : Field) (ua : String) : m (Option String) :=
  match field with
  | .browser => browserWith engine ua
  | .browserVersion => browserVersionWith engine ua
  | .os => osWith engine ua
  | .osVersion => osVersionWith engine ua
  | .device => deviceWith engine ua
  | .deviceBrand => deviceBrandWith engine ua

/-- `append_value` of a string builder that has room. -/
def appendValue (out : StringBuilder) (v : String) : m StringBuilder := return out.appendValue v

/-- The body of the loop of `process`, over the engine and over what appending a text does. -/
def UaField.stepWith (append : StringBuilder → String → m StringBuilder) (field : Field) (col : ArrayRef)
    (out : StringBuilder) (i : Nat) : m StringBuilder := do
  match ← textStr ex col i with
  | none => return out.appendNull
  | some ua =>
    match ← field.extractWith engine ua with
    | some v => append out v
    | none => return out.appendNull

def UaIsBot.stepWith (col : ArrayRef) (out : BooleanBuilder) (i : Nat) : m BooleanBuilder := do
  match ← textStr ex col i with
  | none => return out.appendNull
  | some ua => return out.appendValue (← isBotWith engine ua)

end Rows

def Field.extract (ex : Externals) (field : Field) (ua : String) : Run (Option String) := field.extractWith ex.engine ua

namespace UaField

section Process

variable (ex : Externals) (field : Field)

def step (col : ArrayRef) (out : StringBuilder) (i : Nat) : Run StringBuilder :=
  stepWith ex ex.engine appendValue field col out i

def process (params : ProcessParams) (batch : RecordBatch) : Run RecordBatch := do
  let col ← columnAt batch 0
  let out ← (List.range batch.numRows).foldlM (step ex field col) Builder.new
  newBatch ex params.outputSchema [StringBuilder.finish out]

end Process

def scalar (ex : Externals) (field : Field) : ScalarFunction where
  name := field.name
  argumentSpecs := [.anyColumn "ua" 0
    "The HTTP User-Agent header string to parse — a table column of raw User-Agent values or a single string literal."]
  onBind := return .result ex .utf8
  process := process ex field

end UaField

namespace UaIsBot

def step (ex : Externals) (col : ArrayRef) (out : BooleanBuilder) (i : Nat) : Run BooleanBuilder :=
  stepWith ex ex.engine col out i

def process (ex : Externals) (params : ProcessParams) (batch : RecordBatch) : Run RecordBatch := do
  let col ← columnAt batch 0
  let out ← (List.range batch.numRows).foldlM (step ex col) Builder.new
  newBatch ex params.outputSchema [BooleanBuilder.finish out]

def scalar (ex : Externals) : ScalarFunction where
  name := "ua_is_bot"
  argumentSpecs := [.anyColumn "ua" 0 "The HTTP User-Agent header value to test for being a spider/crawler (bot)."]
  onBind := return .result ex .boolean
  process := process ex

end UaIsBot

end UserAgentModel
