import UserAgentWorker.Model.Scalar
import UserAgentWorker.UserAgent.Bound

namespace UserAgentProof

open Text Arrow UserAgentModel

/-- What `text_str` reads off one row: NULL comes before the type, the type before the text. -/
def cellText (ex : Externals) (dataType : DataType) (slot : Slot) : Run (Option String) :=
  if slot.isNull then .ok none
  else if dataType.isText then .ok slot.string
  else .error (.rpc (valueError ex dataType))

section Cells

variable {ex : Externals} {dataType : DataType} {slot : Slot}

theorem cellText_null (absent : slot.isNull = true) : cellText ex dataType slot = .ok none := if_pos absent

theorem cellText_text (text : dataType.isText) (typed : slot.hasType dataType = true) :
    cellText ex dataType slot = .ok slot.string := by
  obtain ⟨valid, value, same⟩ := Slot.text_of_hasType text typed
  subst same
  cases valid with
  | false => rfl
  | true => exact if_pos text

theorem cellText_other (other : ¬ dataType.isText) (present : slot.isNull = false) :
    cellText ex dataType slot = .error (.rpc (valueError ex dataType)) := by
  rw [cellText, present, if_neg Bool.false_ne_true, if_neg other]

theorem cellText_error_iff {e : Fault} :
    cellText ex dataType slot = .error e ↔
      ¬ dataType.isText ∧ slot.isNull = false ∧ e = .rpc (valueError ex dataType) := by
  unfold cellText
  cases slot.isNull with
  | true => simp
  | false =>
    by_cases text : dataType.isText
    · simp [text]
    · simp only [text, Bool.false_eq_true, if_false, Except.error.injEq, not_false_eq_true, true_and]
      exact eq_comm

theorem asString_text {offsets : DataType} {col : ArrayRef} {i : Nat} {value : String} {valid : Bool}
    (type : col.dataType = offsets) (there : col.slots[i]? = some (.text valid value)) :
    asString offsets col i = .ok value := by
  rw [asString, if_pos type, there]

end Cells

theorem textStr_eq (ex : Externals) {col : ArrayRef} {i : Nat} {slot : Slot} (there : col.slots[i]? = some slot) :
    textStr ex col i = cellText ex col.dataType slot := by
  have typed := col.typed slot (List.mem_of_getElem? there)
  have null : isNull col i = .ok slot.isNull := by rw [isNull, there]
  unfold textStr
  rw [null]
  simp only [bind, Except.bind]
  cases absent : slot.isNull with
  | true => rw [cellText_null absent]; rfl
  | false =>
    by_cases text : col.dataType.isText
    · obtain ⟨valid, value, same⟩ := Slot.text_of_hasType text typed
      subst same
      rw [Slot.isNull, Bool.not_eq_false'] at absent
      subst absent
      rw [cellText_text text typed]
      rcases text with type | type
      · rw [type, asString_text type there]; rfl
      · rw [type, asString_text type there]; rfl
    · rw [cellText_other text absent, if_neg Bool.false_ne_true]
      split
      · next type => exact absurd (.inl type) text
      · next type => exact absurd (.inr type) text
      · rfl

section Rows

variable (ex : Externals)

/-- One row as every scalar sees it: NULL, or what the engine makes of the bounded text. -/
def cell (dataType : DataType) (slot : Slot) : Run (Option Parsed) :=
  (cellText ex dataType slot).map (Option.map (parsedAt ex))

def readRow (col : ArrayRef) (i : Nat) : Run (Option Parsed) := (textStr ex col i).map (Option.map (parsedAt ex))

def columnRows (col : ArrayRef) : Run (List (Option Parsed)) := col.slots.mapM (cell ex col.dataType)

def batchRows (batch : RecordBatch) : Run (List (Option Parsed)) := columnAt batch 0 >>= columnRows ex

theorem readRows_eq (col : ArrayRef) : (List.range col.len).mapM (readRow ex col) = columnRows ex col := by
  apply Rows.mapM_range
  intro i slot there
  rw [readRow, textStr_eq ex there, cell]

variable {ex}

theorem cell_error_iff {dataType : DataType} {slot : Slot} {e : Fault} :
    cell ex dataType slot = .error e ↔
      ¬ dataType.isText ∧ slot.isNull = false ∧ e = .rpc (valueError ex dataType) := by
  rw [← cellText_error_iff, cell]
  cases cellText ex dataType slot with
  | ok text => simp [Except.map]
  | error e' => simp [Except.map]

/-- A row that is read at all is NULL in either sense or holds a text. -/
theorem cell_ok {dataType : DataType} {slot : Slot} {row : Option Parsed} (typed : slot.hasType dataType = true)
    (read : cell ex dataType slot = .ok row) :
    slot.isLogicallyNull = slot.isNull ∧ row = slot.string.map (parsedAt ex) ∧ row.isSome = !slot.isNull := by
  unfold cell at read
  by_cases text : dataType.isText
  · obtain ⟨valid, value, same⟩ := Slot.text_of_hasType text typed
    subst same
    rw [cellText_text text typed] at read
    cases read
    cases valid <;> exact ⟨rfl, rfl, rfl⟩
  · cases absent : slot.isNull with
    | true =>
      rw [cellText_null absent] at read
      cases read
      have nothing : slot.string = none := by
        cases slot with
        | text valid value =>
          rw [Slot.isNull, Bool.not_eq_true'] at absent
          rw [absent]
          rfl
        | _ => rfl
      rw [nothing]
      exact ⟨Slot.isLogicallyNull_of_isNull absent, rfl, rfl⟩
    | false =>
      rw [cellText_other text absent] at read
      cases read

end Rows

end UserAgentProof
