import UserAgentWorker.Model.TestSupport
import UserAgentWorker.Scalars.Nulls

namespace UserAgentProof

open Text Arrow UserAgentModel TestSupport

/-- NULL for NULL, and for a text what the function makes of it. -/
def RowAnswers {β : Type} (f : String → Run β) : Option String → Option β → Prop
  | none, none => True
  | some ua, some value => f ua = .ok value
  | _, _ => False

def structSlot (p : Option Parsed) : Slot := .struct p.isSome [
  StringBuilder.slot (p.bind Parsed.browser),
  StringBuilder.slot (p.bind Parsed.browserVersion),
  StringBuilder.slot (p.bind Parsed.os),
  StringBuilder.slot (p.bind Parsed.osVersion),
  StringBuilder.slot (p.bind Parsed.device),
  StringBuilder.slot (p.bind Parsed.brand),
  BooleanBuilder.slot (p.map Parsed.isBot)]

section Harness

variable (ex : Externals) (rows : List (Option String))

theorem textBatch_eq : textBatch ex rows = .ok (.single "ua" (StringBuilder.finish ⟨rows⟩)) := by
  have built : rows.foldl appendRow Builder.new = ⟨rows⟩ := by
    have push : appendRow = fun b row => b.push (id row) := by
      funext b row
      cases row <;> rfl
    rw [push, Builder.push_foldl, List.map_id, Builder.new, List.nil_append]
  have sent := tryNew_nullable ex "ua" (StringBuilder.finish ⟨rows⟩)
  rw [textBatch, built]
  simp only [sent]

theorem finish_strings : (StringBuilder.finish ⟨rows⟩).slots.map Slot.string = rows := by
  have each : Slot.string ∘ StringBuilder.slot = id := by
    funext row
    cases row <;> rfl
  rw [StringBuilder.finish, List.map_map, each, List.map_id]

theorem runScalarText_eq (scalar : Scalar) :
    runScalarText ex (scalar.function ex) rows = .ok (scalar.row.column (rows.map (Option.map (parsedAt ex)))) := by
  have text : (StringBuilder.finish ⟨rows⟩).dataType.isText := .inl rfl
  have reads := @columnRows_text ex _ text
  rw [finish_strings] at reads
  have run : runScalarText ex (scalar.function ex) rows =
      onColumn (scalar.function ex) (StringBuilder.finish ⟨rows⟩) := by
    rw [runScalarText, textBatch_eq]
    rfl
  rw [run, scalar_column, reads]
  rfl

theorem boundType_eq (scalar : Scalar) : boundType (scalar.function ex) = .ok scalar.row.dataType := by
  obtain ⟨name, declared⟩ := ex.result_declares scalar.row.dataType
  simp only [boundType, scalar_bind, BindResponse.result, declared]
  rfl

theorem rowAnswers_map {β : Type} {f : String → Run β} {g : Parsed → β}
    (each : ∀ ua, f ua = .ok (g (parsedAt ex ua))) :
    List.Forall₂ (RowAnswers f) rows (rows.map (Option.map fun ua => g (parsedAt ex ua))) := by
  rw [List.forall₂_map_right_iff, List.forall₂_same]
  intro row _
  cases row with
  | none => exact True.intro
  | some ua => exact each ua

end Harness

/-- The scalars on a batch of texts: no failure, and row for row what the pure functions answer. -/
theorem texts_answered (ex : Externals) (rows : List (Option String)) :
    (∀ field : UserAgentModel.Field, ∃ values, List.Forall₂ (RowAnswers (field.extract ex)) rows values ∧
      runScalarText ex (UaField.scalar ex field) rows = .ok (StringBuilder.finish ⟨values.map Option.join⟩) ∧
      boundType (UaField.scalar ex field) = .ok .utf8) ∧
    (∃ values, List.Forall₂ (RowAnswers (isBot ex)) rows values ∧
      runScalarText ex (UaIsBot.scalar ex) rows = .ok (BooleanBuilder.finish ⟨values⟩) ∧
      boundType (UaIsBot.scalar ex) = .ok .boolean) ∧
    ∃ values out, List.Forall₂ (RowAnswers (parse ex)) rows values ∧
      runScalarText ex (UaParse.scalar ex) rows = .ok out ∧ boundType (UaParse.scalar ex) = .ok out.dataType ∧
      out.dataType = parseStructType ∧ out.slots = values.map structSlot := by
  refine ⟨?_, ?_, ?_⟩
  · intro field
    refine ⟨_, rowAnswers_map ex rows (extract_eq ex field), ?_, boundType_eq ex (.accessor field)⟩
    have joined : (rows.map (Option.map (parsedAt ex))).map (fun row => row.bind (fieldOf field)) =
        (rows.map (Option.map fun ua => fieldOf field (parsedAt ex ua))).map Option.join := by
      rw [List.map_map, List.map_map]
      apply List.map_congr_left
      intro row _
      cases row <;> rfl
    rw [← joined, fieldRow_finish]
    exact runScalarText_eq ex rows (.accessor field)
  · refine ⟨_, rowAnswers_map ex rows (isBot_eq ex), ?_, boundType_eq ex .isBot⟩
    have flags : (rows.map (Option.map (parsedAt ex))).map (Option.map Parsed.isBot) =
        rows.map (Option.map fun ua => (parsedAt ex ua).isBot) := by
      rw [List.map_map]
      apply List.map_congr_left
      intro row _
      cases row <;> rfl
    rw [← flags, botRow_finish]
    exact runScalarText_eq ex rows .isBot
  · refine ⟨_, _, @rowAnswers_map ex rows _ _ id (parse_eq ex), runScalarText_eq ex rows .parse,
      boundType_eq ex .parse, rfl, ?_⟩
    rfl

end UserAgentProof
