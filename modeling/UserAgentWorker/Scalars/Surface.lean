import UserAgentWorker.Scalars.Nulls
import UserAgentWorker.UserAgent.Normal

namespace UserAgentProof

open Text Arrow UserAgentModel

/-- The texts one output row shows, those of a struct included. -/
def surfaced : Slot → List String
  | .text true value => [value]
  | .struct true children => children.filterMap Slot.string
  | _ => []

def Presentable (out : ArrayRef) : Prop := ∀ slot ∈ out.slots, ∀ s ∈ surfaced slot, Displayable s

def NormalColumn (ex : Externals) (col : ArrayRef) : Prop :=
  ∀ slot ∈ col.slots, ∀ ua ∈ slot.string, ∃ front, bound ua = .ok front ∧ NormalClient (ex.parser front)

section Surface

variable {ex : Externals} {f : ScalarFunction} {row : RowFunction Parsed} {col : ArrayRef}

theorem string_slot (value : Option String) : (StringBuilder.slot value).string = value := by
  cases value <;> rfl

theorem surfaced_field (field : UserAgentModel.Field) (p : Option Parsed) :
    surfaced ((fieldRow field).slot p) = (p.bind (fieldOf field)).toList := by
  cases value : p.bind (fieldOf field) <;> simp [fieldRow, value, StringBuilder.slot, surfaced]

theorem surfaced_bot (p : Option Parsed) : surfaced (botRow.slot p) = [] := by
  cases p <;> rfl

theorem surfaced_parse (p : Parsed) : surfaced (parseRow.slot (some p)) = (fields p).filterMap id := by
  have flag : (botRow.slot (some p)).string = none := rfl
  simp only [parseRow, RowFunction.struct, Option.isSome_some, surfaced, parseChildren, List.map_cons, List.map_nil,
    List.filterMap_cons, List.filterMap_nil, flag, fieldRow, string_slot, Option.bind_some, fieldOf, fields, id]

theorem fieldOf_mem (field : UserAgentModel.Field) (p : Parsed) : fieldOf field p ∈ fields p := by
  cases field <;> simp [fieldOf, fields]

/-- A scalar shows nothing but fields of the parse result. -/
theorem surfaced_fields (listed : row ∈ registerRows) {p : Option Parsed} {s : String}
    (shown : s ∈ surfaced (row.slot p)) : ∃ q ∈ p, some s ∈ fields q := by
  have single : ∀ field, row = fieldRow field → ∃ q ∈ p, some s ∈ fields q := by
    intro field same
    subst same
    rw [surfaced_field, Option.mem_toList, Option.bind_eq_some_iff] at shown
    obtain ⟨q, there, value⟩ := shown
    exact ⟨q, there, value ▸ fieldOf_mem field q⟩
  simp only [registerRows, List.mem_cons, List.not_mem_nil, or_false] at listed
  rcases listed with same | same | same | same | same | same | same | same
  · exact single _ same
  · exact single _ same
  · exact single _ same
  · exact single _ same
  · exact single _ same
  · exact single _ same
  · rw [same, surfaced_bot] at shown
    cases shown
  · subst same
    cases p with
    | none => cases shown
    | some q =>
      rw [surfaced_parse, List.mem_filterMap] at shown
      obtain ⟨field, member, value⟩ := shown
      exact ⟨q, rfl, value ▸ member⟩

theorem presentable_of_normal (listed : row ∈ registerRows) (rowwise : Rowwise (onColumn f) (cell ex) row)
    (normal : NormalColumn ex col) {out : ArrayRef} (success : onColumn f col = .ok out) : Presentable out := by
  intro answer member s shown
  obtain ⟨i, there⟩ := List.mem_iff_getElem?.mp member
  have length : i < col.slots.length := by
    have same := rowwise.len success
    rw [ArrayRef.len, ArrayRef.len] at same
    rw [← same]
    exact (List.getElem?_eq_some_iff.mp there).1
  obtain ⟨p, read, found⟩ := rowwise.slot success (List.getElem?_eq_getElem length)
  rw [there, Option.some_inj] at found
  subst found
  obtain ⟨q, present, field⟩ := surfaced_fields listed shown
  obtain ⟨_, string, _⟩ := cell_ok (col.typed _ (List.getElem_mem length)) read
  rw [Option.mem_def] at present
  rw [present, eq_comm, Option.map_eq_some_iff] at string
  obtain ⟨ua, text, same⟩ := string
  obtain ⟨front, bounded, client⟩ := normal _ (List.getElem_mem length) ua text
  rw [bound_eq] at bounded
  cases bounded
  have good : Normalised q := by
    rw [← same]
    exact (normalised_iff _).mpr client
  exact good _ field s rfl

theorem normal_of_presentable (rowwise : Rowwise (onColumn f) (cell ex) parseRow)
    (presentable : ∀ out, onColumn f col = .ok out → Presentable out) : NormalColumn ex col := by
  intro slot member ua string
  have text : col.dataType.isText := by
    have typed := col.typed slot member
    cases slot with
    | text valid value =>
      generalize col.dataType = dataType at typed ⊢
      cases dataType with
      | utf8 => exact .inl rfl
      | largeUtf8 => exact .inr rfl
      | _ => simp [Slot.hasType] at typed
    | _ => cases string
  have reads := @columnRows_text ex col text
  rw [columnRows] at reads
  have success :
      onColumn f col = .ok (parseRow.column ((col.slots.map Slot.string).map (Option.map (parsedAt ex)))) := by
    rw [rowwise.run_eq, reads]
    rfl
  refine ⟨_, bound_eq ua, (normalised_iff _).mp ?_⟩
  intro field listed s value
  refine presentable _ success (parseRow.slot (some (parsedAt ex ua))) ?_ s ?_
  · apply List.mem_map_of_mem
    rw [List.map_map]
    refine List.mem_map.mpr ⟨slot, member, ?_⟩
    rw [Function.comp_apply, Option.mem_def.mp string, Option.map_some]
  · rw [surfaced_parse, List.mem_filterMap]
    exact ⟨field, listed, value⟩

end Surface

theorem fields_normalised (ex : Externals) (ua : String) (col : ArrayRef) :
    (∃ front p, bound ua = .ok front ∧ parse ex ua = .ok p ∧ (Normalised p ↔ NormalClient (ex.parser front))) ∧
      ((∀ f ∈ register ex, ∀ out, onColumn f col = .ok out → Presentable out) ↔ NormalColumn ex col) := by
  refine ⟨⟨_, _, bound_eq ua, parse_eq ex ua, normalised_iff _⟩, ?_⟩
  constructor
  · intro presentable
    -- The struct shows all six fields, so `ua_parse` alone decides.
    exact normal_of_presentable ⟨fun col => parseScalar_eq ex (.single "ua" col)⟩
      (presentable (UaParse.scalar ex) (by simp [register]))
  · intro normal f member out success
    obtain ⟨row, listed, rowwise⟩ := register_rowwise member
    exact presentable_of_normal listed rowwise normal success

/-- The engine's answer to "SmartWatch(Other; Watch;", whose brand is the first group. -/
def smartWatch : Client := { unmatched with device := ⟨"Other Watch", some "Other"⟩ }

theorem captured_brand_is_sentinel : ¬ ∀ ex ua p, parse ex ua = .ok p → Normalised p := by
  intro claim
  have normal := claim (constantEngine smartWatch) "SmartWatch(Other; Watch;" _ (parse_constantEngine smartWatch _)
  have brand : (parsedOf smartWatch).brand = some "Other" := by decide
  have listed : (parsedOf smartWatch).brand ∈ fields (parsedOf smartWatch) := by simp [fields]
  exact (normal _ listed "Other" brand).known rfl

end UserAgentProof
