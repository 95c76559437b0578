import UserAgentWorker.Model.Fields

namespace UserAgentModel

open Arrow

namespace UaParse

structure Builders where
  browser : StringBuilder
  browserVersion : StringBuilder
  os : StringBuilder
  osVersion : StringBuilder
  device : StringBuilder
  brand : StringBuilder
  isBot : BooleanBuilder
  valid : List Bool

def Builders.new : Builders where
  browser := .new
  browserVersion := .new
  os := .new
  osVersion := .new
  device := .new
  brand := .new
  isBot := .new
  valid := []

def Builders.appendNull (b : Builders) : Builders where
  browser := b.browser.appendNull
  browserVersion := b.browserVersion.appendNull
  os := b.os.appendNull
  osVersion := b.osVersion.appendNull
  device := b.device.appendNull
  brand := b.brand.appendNull
  isBot := b.isBot.appendNull
  valid := b.valid ++ [false]

section Rows

variable {m : Type → Type} [Monad m] [MonadLiftT Run m] (ex : Externals) (engine : String → m Client)
variable (append : StringBuilder → String → m StringBuilder)

def appendOpt (b : StringBuilder) : Option String → m StringBuilder
  | some s => append b s
  | none => return b.appendNull

def Builders.appendParsed (b : Builders) (p : Parsed) : m Builders := do
  let browser ← appendOpt append b.browser p.browser
  let browserVersion ← appendOpt append b.browserVersion p.browserVersion
  let os ← appendOpt append b.os p.os
  let osVersion ← appendOpt append b.osVersion p.osVersion
  let device ← appendOpt append b.device p.device
  let brand ← appendOpt append b.brand p.brand
  return {
    browser, browserVersion, os, osVersion, device, brand
    isBot := b.isBot.appendValue p.isBot
    valid := b.valid ++ [true] }

def stepWith (col : ArrayRef) (b : Builders) (i : Nat) : m Builders := do
  match ← textStr ex col i with
  | none => return b.appendNull
  | some ua =>
    let p ← parseWith engine ua
    b.appendParsed append p

end Rows

def step (ex : Externals) (col : ArrayRef) (b : Builders) (i : Nat) : Run Builders :=
  stepWith ex ex.engine appendValue col b i

def Builders.arrays (b : Builders) : List ArrayRef := [
  StringBuilder.finish b.browser,
  StringBuilder.finish b.browserVersion,
  StringBuilder.finish b.os,
  StringBuilder.finish b.osVersion,
  StringBuilder.finish b.device,
  StringBuilder.finish b.brand,
  BooleanBuilder.finish b.isBot]

/-- What `process` makes of its builders. -/
def finish (ex : Externals) (params : ProcessParams) (b : Builders) : Run RecordBatch :=
  match ex.structNew parseStructFields b.arrays b.valid with
  | some out => newBatch ex params.outputSchema [out]
  | none => .error .panic

def process (ex : Externals) (params : ProcessParams) (batch : RecordBatch) : Run RecordBatch := do
  let col ← columnAt batch 0
  let b ← (List.range batch.numRows).foldlM (step ex col) Builders.new
  finish ex params b

def scalar (ex : Externals) : ScalarFunction where
  name := "ua_parse"
  argumentSpecs := [.anyColumn "ua" 0
    "The HTTP User-Agent header value to parse into all of its components at once (browser, OS, device, brand, and bot flag)."]
  onBind := return .result ex parseStructType
  process := process ex

end UaParse

/-- The three kinds of scalars that `register` registers. -/
inductive Scalar
  | accessor (field : Field)
  | isBot
  | parse

namespace Scalar

def function (ex : Externals) : Scalar → ScalarFunction
  | .accessor field => UaField.scalar ex field
  | .isBot => UaIsBot.scalar ex
  | .parse => UaParse.scalar ex

def Builders : Scalar → Type
  | .accessor _ => StringBuilder
  | .isBot => BooleanBuilder
  | .parse => UaParse.Builders

def new : (scalar : Scalar) → scalar.Builders
  | .accessor _ => Builder.new
  | .isBot => Builder.new
  | .parse => UaParse.Builders.new

def stepWith {m : Type → Type} [Monad m] [MonadLiftT Run m] (ex : Externals) (engine : String → m Client)
    (append : StringBuilder → String → m StringBuilder) (col : ArrayRef) :
    (scalar : Scalar) → scalar.Builders → Nat → m scalar.Builders
  | .accessor field, out, i => UaField.stepWith ex engine append field col out i
  | .isBot, out, i => UaIsBot.stepWith ex engine col out i
  | .parse, b, i => UaParse.stepWith ex engine append col b i

def step (ex : Externals) (col : ArrayRef) (scalar : Scalar) (out : scalar.Builders) (i : Nat) : Run scalar.Builders :=
  scalar.stepWith ex ex.engine appendValue col out i

def finish (ex : Externals) (params : ProcessParams) : (scalar : Scalar) → scalar.Builders → Run RecordBatch
  | .accessor _, out => newBatch ex params.outputSchema [StringBuilder.finish out]
  | .isBot, out => newBatch ex params.outputSchema [BooleanBuilder.finish out]
  | .parse, b => UaParse.finish ex params b

end Scalar

/-- The scalars of `register`, in the order of registration. -/
def register (ex : Externals) : List ScalarFunction := [
  UaField.scalar ex .browser,
  UaField.scalar ex .browserVersion,
  UaField.scalar ex .os,
  UaField.scalar ex .osVersion,
  UaField.scalar ex .device,
  UaField.scalar ex .deviceBrand,
  UaIsBot.scalar ex,
  UaParse.scalar ex]

end UserAgentModel
