import UserAgentWorker.Arrow.Rowwise
import UserAgentWorker.Model.Parse
import UserAgentWorker.Scalars.Reading

namespace UserAgentProof

open Arrow UserAgentModel

def fieldOf : UserAgentModel.Field → Parsed → Option String
  | .browser => Parsed.browser
  | .browserVersion => Parsed.browserVersion
  | .os => Parsed.os
  | .osVersion => Parsed.osVersion
  | .device => Parsed.device
  | .deviceBrand => Parsed.brand

def fieldRow (field : UserAgentModel.Field) : RowFunction Parsed where
  dataType := .utf8
  slot row := StringBuilder.slot (row.bind (fieldOf field))
  typed := by
    intro row
    exact StringBuilder.slot_typed _
  nullOut := rfl

def botRow : RowFunction Parsed where
  dataType := .boolean
  slot row := BooleanBuilder.slot (row.map Parsed.isBot)
  typed := by
    intro row
    exact BooleanBuilder.slot_typed _
  nullOut := rfl

def parseChildren : List (RowFunction Parsed) := [
  fieldRow .browser,
  fieldRow .browserVersion,
  fieldRow .os,
  fieldRow .osVersion,
  fieldRow .device,
  fieldRow .deviceBrand,
  botRow]

theorem parseChildren_types :
    parseChildren.map RowFunction.dataType = parseStructFields.toList.map Field.dataType := rfl

def parseRow : RowFunction Parsed := .struct parseStructFields parseChildren parseChildren_types

section Builders

def pushParsed (b : UaParse.Builders) (row : Option Parsed) : UaParse.Builders where
  browser := b.browser.push (row.bind Parsed.browser)
  browserVersion := b.browserVersion.push (row.bind Parsed.browserVersion)
  os := b.os.push (row.bind Parsed.os)
  osVersion := b.osVersion.push (row.bind Parsed.osVersion)
  device := b.device.push (row.bind Parsed.device)
  brand := b.brand.push (row.bind Parsed.brand)
  isBot := b.isBot.push (row.map Parsed.isBot)
  valid := b.valid ++ [row.isSome]

/-- The seven builders and the validity never leave step. -/
theorem pushParsed_foldl (b : UaParse.Builders) (rows : List (Option Parsed)) :
    rows.foldl pushParsed b = {
      browser := ⟨b.browser.values ++ rows.map fun row => row.bind Parsed.browser⟩
      browserVersion := ⟨b.browserVersion.values ++ rows.map fun row => row.bind Parsed.browserVersion⟩
      os := ⟨b.os.values ++ rows.map fun row => row.bind Parsed.os⟩
      osVersion := ⟨b.osVersion.values ++ rows.map fun row => row.bind Parsed.osVersion⟩
      device := ⟨b.device.values ++ rows.map fun row => row.bind Parsed.device⟩
      brand := ⟨b.brand.values ++ rows.map fun row => row.bind Parsed.brand⟩
      isBot := ⟨b.isBot.values ++ rows.map fun row => row.map Parsed.isBot⟩
      valid := b.valid ++ rows.map Option.isSome } := by
  induction rows generalizing b with
  | nil => simp
  | cons row rows ih =>
    rw [List.foldl_cons, ih]
    simp [pushParsed, Builder.push]

end Builders

end UserAgentProof

namespace UserAgentModel.Scalar

open Arrow UserAgentProof

/-- The builders behind one more row. -/
def push : (scalar : Scalar) → scalar.Builders → Option Parsed → scalar.Builders
  | .accessor field, out, row => Builder.push out (row.bind (fieldOf field))
  | .isBot, out, row => Builder.push out (row.map Parsed.isBot)
  | .parse, b, row => pushParsed b row

def row : Scalar → RowFunction Parsed
  | .accessor field => fieldRow field
  | .isBot => botRow
  | .parse => parseRow

end UserAgentModel.Scalar

namespace UserAgentProof

open Arrow UserAgentModel

section Turns

variable {m : Type → Type} [Monad m] [MonadLiftT Run m] (ex : Externals) (engine : String → m Client)
variable (append : StringBuilder → String → m StringBuilder) (col : ArrayRef) (i : Nat)

/-- What a turn of any of the loops reads off its row. -/
def rowWith : m (Option Parsed) := do
  match ← textStr ex col i with
  | none => return none
  | some ua => return some (← parseWith engine ua)

def pushWith : (scalar : Scalar) → scalar.Builders → Option Parsed → m scalar.Builders
  | .accessor field, out, row => UaParse.appendOpt append out (row.bind (fieldOf field))
  | .isBot, out, row => pure (Builder.push out (row.map Parsed.isBot))
  | .parse, b, none => pure (UaParse.Builders.appendNull b)
  | .parse, b, some p => UaParse.Builders.appendParsed append b p

variable [LawfulMonad m]

omit [MonadLiftT Run m] in
theorem pushWith_appendValue (scalar : Scalar) (out : scalar.Builders) (row : Option Parsed) :
    pushWith appendValue scalar out row = (pure (scalar.push out row) : m scalar.Builders) := by
  have appendOpt : ∀ (b : StringBuilder) value,
      UaParse.appendOpt appendValue b value = (pure (b.push value) : m StringBuilder) := by
    intro b value
    cases value <;> rfl
  cases scalar with
  | accessor field => exact appendOpt out _
  | isBot => rfl
  | parse =>
    cases row with
    | none => rfl
    | some p =>
      simp only [pushWith, UaParse.Builders.appendParsed, appendOpt, pure_bind]
      rfl

theorem extractWith_eq (field : UserAgentModel.Field) (ua : String) :
    field.extractWith engine ua = fieldOf field <$> parseWith engine ua := by
  rw [map_eq_pure_bind]
  cases field <;> rfl

theorem fieldStepWith_eq (field : UserAgentModel.Field) (out : StringBuilder) :
    UaField.stepWith ex engine append field col out i =
      rowWith ex engine col i >>= fun row => UaParse.appendOpt append out (row.bind (fieldOf field)) := by
  rw [UaField.stepWith, rowWith, bind_assoc]
  apply bind_congr
  intro text
  cases text with
  | none =>
    simp only [pure_bind]
    rfl
  | some ua =>
    simp only [extractWith_eq, map_eq_pure_bind, bind_assoc, pure_bind]
    apply bind_congr
    intro p
    rw [Option.bind_some]
    cases fieldOf field p <;> rfl

theorem parseStepWith_eq (b : UaParse.Builders) :
    UaParse.stepWith ex engine append col b i = rowWith ex engine col i >>= pushWith append .parse b := by
  rw [UaParse.stepWith, rowWith, bind_assoc]
  apply bind_congr
  intro text
  cases text with
  | none =>
    simp only [pure_bind]
    rfl
  | some ua =>
    simp only [bind_assoc, pure_bind]
    rfl

variable [LawfulMonadLiftT Run m]

theorem botStepWith_eq (out : BooleanBuilder) :
    UaIsBot.stepWith ex engine col out i =
      rowWith ex engine col i >>= fun row => pure (out.push (row.map Parsed.isBot)) := by
  rw [UaIsBot.stepWith, rowWith, bind_assoc]
  apply bind_congr
  intro text
  cases text with
  | none =>
    simp only [pure_bind]
    rfl
  | some ua =>
    simp only [isBotWith_eq, map_eq_pure_bind, bind_assoc, pure_bind]
    rfl

/-- The three loops read their row alike and differ in what they push. -/
theorem stepWith_eq (scalar : Scalar) (out : scalar.Builders) :
    scalar.stepWith ex engine append col out i = rowWith ex engine col i >>= pushWith append scalar out := by
  cases scalar with
  | accessor field => exact fieldStepWith_eq ex engine append col i field out
  | isBot => exact botStepWith_eq ex engine col i out
  | parse => exact parseStepWith_eq ex engine append col i out

end Turns

section Runs

variable (ex : Externals) (col : ArrayRef)

theorem extract_eq (field : UserAgentModel.Field) (ua : String) :
    field.extract ex ua = .ok (fieldOf field (parsedAt ex ua)) := by
  have parsed : parseWith ex.engine ua = .ok (parsedAt ex ua) := parse_eq ex ua
  rw [UserAgentModel.Field.extract, extractWith_eq, parsed]
  rfl

theorem rowWith_engine (i : Nat) : rowWith ex ex.engine col i = readRow ex col i := by
  have parsed : ∀ ua, parseWith ex.engine ua = .ok (parsedAt ex ua) := parse_eq ex
  rw [rowWith, readRow]
  cases textStr ex col i with
  | error e => rfl
  | ok text =>
    cases text with
    | none => rfl
    | some ua =>
      simp only [parsed]
      rfl

theorem step_eq (scalar : Scalar) (out : scalar.Builders) (i : Nat) :
    scalar.step ex col out i = (readRow ex col i).map (scalar.push out) := by
  rw [Scalar.step, stepWith_eq, rowWith_engine]
  cases readRow ex col i with
  | error e => rfl
  | ok row => exact pushWith_appendValue scalar out row

/-- A loop reads its rows first and pushes them after. -/
theorem loop_eq (scalar : Scalar) (out : scalar.Builders) :
    (List.range col.len).foldlM (scalar.step ex col) out = (columnRows ex col).map (List.foldl scalar.push out) := by
  rw [Rows.foldlM_push scalar.push fun out i => step_eq ex col scalar out i, readRows_eq]

theorem parseLoop_eq :
    (List.range col.len).foldlM (UaParse.step ex col) UaParse.Builders.new =
      (columnRows ex col).map (List.foldl pushParsed UaParse.Builders.new) :=
  loop_eq ex col .parse UaParse.Builders.new

end Runs

end UserAgentProof
