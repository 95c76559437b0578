import UserAgentWorker.Scalars.Selections

namespace UserAgentProof

open Text Arrow UserAgentModel

/-- The engine's answers that leave a field of a present text NULL. -/
def Unknown (client : Client) : UserAgentModel.Field → Prop
  | .browser => ¬ Known client.userAgent.family
  | .browserVersion => Known client.userAgent.family → ∀ v ∈ client.userAgent.major, Blank v
  | .os => ¬ Known client.os.family
  | .osVersion => Known client.os.family → ∀ v ∈ client.os.major, Blank v
  | .device => client.device.family ≠ "Spider" → ¬ Known client.device.family
  | .deviceBrand => client.device.family ≠ "Spider" → ∀ v ∈ client.device.brand, Blank v

section Fields

variable (client : Client)

theorem normFamily_eq_none_iff (family : String) : normFamily family = none ↔ ¬ Known family := by
  rw [known_iff, ne_eq, not_not]

theorem normOpt_eq_none_iff (value : Option String) : normOpt value = none ↔ ∀ v ∈ value, Blank v := by
  rw [Option.eq_none_iff_forall_ne_some]
  simp only [ne_eq, normOpt_eq_some_iff, not_and, not_not, Option.mem_def]

theorem versionField_eq_none_iff (family : String) (parts : List (Option String)) :
    ((normFamily family).bind fun _ => version parts) = none ↔
      (Known family → ∀ part ∈ parts.head?, ∀ v ∈ part, Blank v) := by
  rw [← presentRun_eq_nil_iff, ← version_eq_none_iff, known_iff]
  cases normFamily family with
  | none => simp
  | some name => simp

theorem field_unknown_iff (field : UserAgentModel.Field) :
    fieldOf field (parsedOf client) = none ↔ Unknown client field := by
  cases field with
  | browser => rw [fieldOf, parsedOf_browser, normFamily_eq_none_iff, Unknown]
  | browserVersion =>
    rw [fieldOf, parsedOf_browserVersion, versionField_eq_none_iff, Unknown]
    simp [browserParts]
  | os => rw [fieldOf, parsedOf_os, normFamily_eq_none_iff, Unknown]
  | osVersion =>
    rw [fieldOf, parsedOf_osVersion, versionField_eq_none_iff, Unknown]
    simp [osParts]
  | device =>
    by_cases bot : client.device.family = "Spider"
    · simp [fieldOf, parsedOf_bot client bot, Unknown, bot]
    · simp [fieldOf, parsedOf_other client bot, Unknown, bot, normFamily_eq_none_iff]
  | deviceBrand =>
    by_cases bot : client.device.family = "Spider"
    · simp [fieldOf, parsedOf_bot client bot, Unknown, bot]
    · simp [fieldOf, parsedOf_other client bot, Unknown, bot, normOpt_eq_none_iff]

theorem fieldRow_isNull_iff (ex : Externals) (field : UserAgentModel.Field) (text : Option String) :
    ((fieldRow field).slot (text.map (parsedAt ex))).isNull = true ↔
      ∀ ua ∈ text, ∃ front, bound ua = .ok front ∧ Unknown (ex.parser front) field := by
  rw [fieldRow_isNull, Option.isNone_iff_eq_none]
  cases text with
  | none => simp
  | some ua =>
    simp only [Option.map_some, Option.bind_some, parsedAt, field_unknown_iff, Option.mem_def, Option.some_inj,
      forall_eq', bound_eq, Except.ok.injEq, exists_eq_left']

end Fields

section Cells

variable {ex : Externals} {f : ScalarFunction} {row : RowFunction Parsed} {col : ArrayRef}

theorem text_rows (rowwise : Rowwise (onColumn f) (cell ex) row) (text : col.dataType.isText) :
    ∃ out, onColumn f col = .ok out ∧ ∀ (i : Nat) (slot : Slot), col.slots[i]? = some slot →
      out.slots[i]? = some (row.slot (slot.string.map (parsedAt ex))) := by
  have reads := @columnRows_text ex col text
  rw [columnRows] at reads
  refine ⟨_, (rowwise.ok_iff col _).mpr ⟨_, reads, rfl⟩, ?_⟩
  intro i slot there
  rw [RowFunction.column_getElem, List.getElem?_map, List.getElem?_map, there]
  rfl

theorem text_nulls (rowwise : Rowwise (onColumn f) (cell ex) row) (shown : ∀ p, (row.slot (some p)).isNull = false)
    (text : col.dataType.isText) :
    ∃ out, onColumn f col = .ok out ∧ ∀ (i : Nat) (slot : Slot), col.slots[i]? = some slot →
      ∃ answer : Slot, out.slots[i]? = some answer ∧ (answer.isNull = true ↔ slot.string = none) := by
  obtain ⟨out, success, rows⟩ := text_rows rowwise text
  refine ⟨out, success, ?_⟩
  intro i slot there
  refine ⟨_, rows i slot there, ?_⟩
  cases slot.string with
  | none => simp [row.nullOut]
  | some ua => simp [shown]

end Cells

/-- NULL for a text only where the engine's answer says nothing; the flag and the struct for no text at all. -/
theorem unknown_cells (ex : Externals) (col : ArrayRef) (text : col.dataType.isText) :
    (∀ field : UserAgentModel.Field, ∃ out, onColumn (UaField.scalar ex field) col = .ok out ∧
      ∀ (i : Nat) (slot : Slot), col.slots[i]? = some slot → ∃ row : Slot, out.slots[i]? = some row ∧
        (row.isNull = true ↔
          ∀ ua ∈ slot.string, ∃ front, bound ua = .ok front ∧ Unknown (ex.parser front) field)) ∧
    ∀ f, f = UaIsBot.scalar ex ∨ f = UaParse.scalar ex → ∃ out, onColumn f col = .ok out ∧
      ∀ (i : Nat) (slot : Slot), col.slots[i]? = some slot → ∃ row : Slot, out.slots[i]? = some row ∧
        (row.isNull = true ↔ slot.string = none) := by
  refine ⟨?_, ?_⟩
  · intro field
    obtain ⟨out, success, rows⟩ := text_rows (field_rowwise ex field) text
    refine ⟨out, success, ?_⟩
    intro i slot there
    exact ⟨_, rows i slot there, fieldRow_isNull_iff ex field slot.string⟩
  · intro f which
    rcases which with rfl | rfl
    · exact text_nulls (bot_rowwise ex) (fun _ => rfl) text
    · exact text_nulls (parse_rowwise ex) (fun _ => rfl) text

theorem unknown_cells_curl :
    ∃ out, onColumn (UaField.scalar (constantEngine unmatched) .browserVersion) textColumn = .ok out ∧
      ∃ row : Slot, out.slots[0]? = some row ∧ row.isNull = true := by
  obtain ⟨fields, _⟩ := unknown_cells (constantEngine unmatched) textColumn (.inl rfl)
  obtain ⟨out, success, rows⟩ := fields .browserVersion
  obtain ⟨row, found, null⟩ := rows 0 _ rfl
  refine ⟨out, success, row, found, null.mpr ?_⟩
  intro ua _
  refine ⟨_, bound_eq ua, ?_⟩
  intro known
  have unnamed : ¬ Known unmatched.userAgent.family := by decide
  exact absurd known unnamed

def Shows (column : ArrayRef) (i : Nat) : Prop := ∃ slot, column.slots[i]? = some slot ∧ slot.isNull = false

/-- What one row of the seven answers says together. -/
structure Consistent (out : UserAgentModel.Field → ArrayRef) (flags : ArrayRef) (i : Nat) : Prop where
  browser : Shows (out .browserVersion) i → Shows (out .browser) i
  os : Shows (out .osVersion) i → Shows (out .os) i
  device : Shows (out .device) i ∨ Shows (out .deviceBrand) i → flagAt flags i = some false
  unread : flagAt flags i = none → ∀ field, ¬ Shows (out field) i

section Consistency

variable {ex : Externals} {rows : List (Option Parsed)}

theorem shows_column (field : UserAgentModel.Field) (i : Nat) :
    Shows ((fieldRow field).column rows) i ↔ ∃ p, rows[i]? = some (some p) ∧ fieldOf field p ≠ none := by
  simp only [Shows, RowFunction.column_getElem, Option.map_eq_some_iff]
  constructor
  · intro shown
    obtain ⟨slot, ⟨row, there, same⟩, present⟩ := shown
    rw [← same, fieldRow_isNull] at present
    cases row with
    | none => cases present
    | some p => exact ⟨p, there, by simpa [Option.isNone_eq_false_iff, Option.isSome_iff_ne_none] using present⟩
  · intro shown
    obtain ⟨p, there, present⟩ := shown
    refine ⟨_, ⟨some p, there, rfl⟩, ?_⟩
    rw [fieldRow_isNull, Option.bind_some, Option.isNone_eq_false_iff, Option.isSome_iff_ne_none]
    exact present

theorem version_has_family (client : Client) :
    ((parsedOf client).browserVersion ≠ none → (parsedOf client).browser ≠ none) ∧
      ((parsedOf client).osVersion ≠ none → (parsedOf client).os ≠ none) := by
  rw [parsedOf_browserVersion, parsedOf_browser, parsedOf_osVersion, parsedOf_os]
  refine ⟨?_, ?_⟩
  · intro version absent
    exact version (by rw [absent, Option.bind_none])
  · intro version absent
    exact version (by rw [absent, Option.bind_none])

theorem named_not_bot {ua : String} (named : (parsedAt ex ua).device ≠ none ∨ (parsedAt ex ua).brand ≠ none) :
    (parsedAt ex ua).isBot = false := by
  cases bot : (parsedAt ex ua).isBot with
  | false => rfl
  | true =>
    obtain ⟨device, brand⟩ := bot_unnamed bot
    rcases named with named | named
    · exact absurd device named
    · exact absurd brand named

theorem row_consistent {col : ArrayRef} (reads : columnRows ex col = .ok rows) (i : Nat) :
    Consistent (fun field => (fieldRow field).column rows) (botRow.column rows) i := by
  refine ⟨?_, ?_, ?_, ?_⟩
  · intro version
    obtain ⟨p, there, shown⟩ := (shows_column .browserVersion i).mp version
    obtain ⟨ua, same⟩ := row_parsed reads (List.mem_of_getElem? there)
    subst same
    exact (shows_column .browser i).mpr ⟨_, there, (version_has_family _).1 shown⟩
  · intro version
    obtain ⟨p, there, shown⟩ := (shows_column .osVersion i).mp version
    obtain ⟨ua, same⟩ := row_parsed reads (List.mem_of_getElem? there)
    subst same
    exact (shows_column .os i).mpr ⟨_, there, (version_has_family _).2 shown⟩
  · intro named
    rw [shows_column, shows_column] at named
    rw [flagAt_column]
    rcases named with ⟨p, there, shown⟩ | ⟨p, there, shown⟩
    · obtain ⟨ua, same⟩ := row_parsed reads (List.mem_of_getElem? there)
      subst same
      rw [there, Option.bind_some, Option.map_some, named_not_bot (.inl shown)]
    · obtain ⟨ua, same⟩ := row_parsed reads (List.mem_of_getElem? there)
      subst same
      rw [there, Option.bind_some, Option.map_some, named_not_bot (.inr shown)]
  · intro unread field shown
    obtain ⟨p, there, _⟩ := (shows_column field i).mp shown
    rw [flagAt_column, there] at unread
    cases unread

end Consistency

theorem answers_consistent (ex : Externals) (col : ArrayRef) (out : UserAgentModel.Field → ArrayRef)
    (flags : ArrayRef) (fields : ∀ field, onColumn (UaField.scalar ex field) col = .ok (out field))
    (bots : onColumn (UaIsBot.scalar ex) col = .ok flags) (i : Nat) : Consistent out flags i := by
  obtain ⟨rows, reads, same⟩ := ((bot_rowwise ex).ok_iff col flags).mp bots
  subst same
  have columns : out = fun field => (fieldRow field).column rows := by
    funext field
    have whole := ((field_rowwise ex field).ok_iff col _).mpr ⟨rows, reads, rfl⟩
    rw [fields] at whole
    exact Except.ok.inj whole
  rw [columns]
  exact row_consistent reads i

def visitAnswers : UserAgentModel.Field → List (Option String)
  | .browser => [some "Googlebot", some "Mobile Safari", none]
  | .browserVersion => [some "2.1", some "17.0", none]
  | .os => [none, some "iOS", none]
  | .osVersion => [none, some "17.0", none]
  | .device => [none, some "iPhone", none]
  | .deviceBrand => [none, some "Apple", none]

theorem answers_consistent_visits :
    let out := fun field => StringBuilder.finish ⟨visitAnswers field⟩
    let flags := BooleanBuilder.finish ⟨[some true, some false, none]⟩
    Consistent out flags 0 ∧ Consistent out flags 1 ∧ Consistent out flags 2 ∧
      (∀ field, Shows (out field) 1) ∧ flagAt flags 0 = some true ∧ flagAt flags 2 = none := by
  intro out flags
  have fields : ∀ field, onColumn (UaField.scalar visitors field) visits = .ok (out field) := by
    intro field
    have texts : visitAnswers field =
        [some (parsedOf googlebot), some (parsedOf iphone), none].map fun row => row.bind (fieldOf field) := by
      cases field
      all_goals decide
    have column : out field =
        (fieldRow field).column [some (parsedOf googlebot), some (parsedOf iphone), none] := by
      rw [← fieldRow_finish, ← texts]
    exact ((field_rowwise visitors field).ok_iff visits _).mpr ⟨_, visits_rows, column.symm⟩
  have consistent := answers_consistent visitors visits out flags fields visits_flags
  refine ⟨consistent 0, consistent 1, consistent 2, ?_, by decide, by decide⟩
  intro field
  cases field
  all_goals exact ⟨_, rfl, rfl⟩

end UserAgentProof
