import UserAgentWorker.Scalars.Register

namespace UserAgentProof

open Arrow UserAgentModel

/-- The run over a column ends with this error in the turn of its `i`-th row. -/
def RaisedAt (ex : Externals) (scalar : Scalar) (col : ArrayRef) (i : Nat) (e : Fault) : Prop :=
  Rows.StopsAt (scalar.step ex col) scalar.new (List.range col.len) i e

/-- NULL in, NULL out, and an error for present values of a foreign type only. -/
structure NullContract (ex : Externals) (scalar : Scalar) (col : ArrayRef) : Prop where
  causesNoError : ∀ (i : Nat) (slot : Slot) (e : Fault), col.slots[i]? = some slot → slot.isLogicallyNull = true →
    ¬ RaisedAt ex scalar col i e
  nullOut : ∀ (out : ArrayRef), onColumn (scalar.function ex) col = .ok out →
    ∀ (i : Nat) (slot : Slot), col.slots[i]? = some slot → slot.isLogicallyNull = true →
      ∃ row : Slot, out.slots[i]? = some row ∧ row.isNull = true
  valueErrorIff : onColumn (scalar.function ex) col = .error (.rpc (valueError ex col.dataType)) ↔
    ¬ col.dataType.isText ∧ ∃ slot ∈ col.slots, slot.isLogicallyNull = false
  onlyValueError : ∀ e, onColumn (scalar.function ex) col = .error e → e = .rpc (valueError ex col.dataType)

def TextTypesAgree (f : ScalarFunction) : Prop :=
  ∀ small large : ArrayRef, small.dataType = .utf8 → large.dataType = .largeUtf8 →
    small.slots.map Slot.string = large.slots.map Slot.string → onColumn f small = onColumn f large

/-- In front of the first value, every row that is NULL to a reader has its validity bit cleared. -/
def LeadingNullsArePhysical (col : ArrayRef) : Prop :=
  ∀ slot ∈ col.slots.takeWhile Slot.isLogicallyNull, slot.isNull = true

instance (col : ArrayRef) : Decidable (LeadingNullsArePhysical col) := inferInstanceAs (Decidable (∀ _ ∈ _, _))

section Nulls

variable {ex : Externals} {f : ScalarFunction} {row : RowFunction Parsed} {col : ArrayRef}

theorem valueError_iff (rowwise : Rowwise (onColumn f) (cell ex) row) :
    onColumn f col = .error (.rpc (valueError ex col.dataType)) ↔
      ¬ col.dataType.isText ∧ ∃ slot ∈ col.slots, slot.isNull = false := by
  rw [rowwise.error_iff, Rows.mapM_error_iff (cell_alike col.dataType)]
  simp only [cell_error_iff, and_true]
  constructor
  · intro some
    obtain ⟨slot, member, other, present⟩ := some
    exact ⟨other, slot, member, present⟩
  · intro some
    obtain ⟨other, slot, member, present⟩ := some
    exact ⟨slot, member, other, present⟩

theorem only_valueError (rowwise : Rowwise (onColumn f) (cell ex) row) (e : Fault)
    (failed : onColumn f col = .error e) : e = .rpc (valueError ex col.dataType) := by
  rw [rowwise.error_iff] at failed
  obtain ⟨slot, _, bad⟩ := Rows.mem_of_mapM_error failed
  exact (cell_error_iff.mp bad).2.2

theorem cell_null {dataType : DataType} {slot : Slot} (absent : slot.isNull = true) :
    cell ex dataType slot = .ok none := by
  rw [cell, cellText_null absent]
  rfl

theorem leading_iff : LeadingNullsArePhysical col ↔
    ∀ i slot, col.slots[i]? = some slot → (∀ s ∈ col.slots.take i, s.isNull = true) → slot.isNull = false →
      slot.isLogicallyNull = false :=
  Rows.takeWhile_strong_iff (fun _ => Slot.isLogicallyNull_of_isNull) col.slots

theorem present_of_logical {slot : Slot} (present : slot.isLogicallyNull = false) : slot.isNull = false := by
  by_contra absent
  rw [Bool.not_eq_false] at absent
  rw [Slot.isLogicallyNull_of_isNull absent] at present
  cases present

theorem text_logical {slot : Slot} (text : col.dataType.isText) (member : slot ∈ col.slots) :
    slot.isLogicallyNull = slot.isNull := by
  obtain ⟨valid, value, same⟩ := Slot.text_of_hasType text (col.typed slot member)
  rw [same, Slot.isLogicallyNull, Slot.isNull]

theorem readRows_take (ex : Externals) (col : ArrayRef) (i : Nat) :
    ((List.range col.len).take i).mapM (readRow ex col) = (col.slots.take i).mapM (cell ex col.dataType) := by
  have front : (List.range col.len).take i = List.range (col.slots.take i).length := by
    rw [List.take_range, List.length_take, ArrayRef.len]
  rw [front]
  apply Rows.mapM_range
  intro j slot there
  have inside : col.slots[j]? = some slot := by
    rw [List.getElem?_take] at there
    split at there
    · exact there
    · cases there
  rw [readRow, textStr_eq ex inside, cell]

theorem raisedAt_iff (scalar : Scalar) {i : Nat} {slot : Slot} (there : col.slots[i]? = some slot) (e : Fault) :
    RaisedAt ex scalar col i e ↔
      (∀ s ∈ col.slots.take i, s.isNull = true) ∧ slot.isNull = false ∧ ¬ col.dataType.isText ∧
        e = .rpc (valueError ex col.dataType) := by
  have inside : i < col.len := (List.getElem?_eq_some_iff.mp there).1
  have turn : (List.range col.len)[i]? = some i := by
    rw [List.getElem?_eq_getElem (by simpa using inside), List.getElem_range]
  have reads : readRow ex col i = cell ex col.dataType slot := by rw [readRow, textStr_eq ex there, cell]
  have stops := Rows.stopsAt_push_iff scalar.push (fun out i => step_eq ex col scalar out i) scalar.new
    (List.range col.len) i e
  rw [RaisedAt, stops]
  simp only [turn, Option.some_inj, exists_eq_left', reads, readRows_take, cell_error_iff]
  constructor
  · intro raised
    obtain ⟨⟨rows, before⟩, other, present, same⟩ := raised
    refine ⟨?_, present, other, same⟩
    intro s member
    by_contra value
    rw [Bool.not_eq_true] at value
    exact Rows.mapM_not_ok member (cell_error_iff.mpr ⟨other, value, rfl⟩) rows before
  · intro raised
    obtain ⟨before, present, other, same⟩ := raised
    exact ⟨⟨_, Rows.mapM_answer (fun _ => none) fun s member => cell_null (before s member)⟩, other, present, same⟩

theorem raised_iff (ex : Externals) (scalar : Scalar) (col : ArrayRef) (e : Fault) :
    onColumn (scalar.function ex) col = .error e ↔ ∃ i, RaisedAt ex scalar col i e := by
  rw [scalar_column]
  refine Iff.trans ?_ (Rows.foldlM_error_iff scalar.new (List.range col.len) e)
  rw [loop_eq]
  cases columnRows ex col with
  | error e' => simp [Except.map]
  | ok rows => simp [Except.map]

theorem nullContract_of_leading (scalar : Scalar) (leading : LeadingNullsArePhysical col) :
    NullContract ex scalar col := by
  have rowwise := scalar_rowwise ex scalar
  have first := leading_iff.mp leading
  refine ⟨?_, ?_, ?_, only_valueError rowwise⟩
  · intro i slot e there logical raised
    obtain ⟨before, present, _⟩ := (raisedAt_iff scalar there e).mp raised
    rw [first i slot there before present] at logical
    cases logical
  · intro out success i slot there logical
    obtain ⟨answer, read, found⟩ := rowwise.slot success there
    obtain ⟨same, _⟩ := cell_ok (col.typed slot (List.mem_of_getElem? there)) read
    rw [same] at logical
    rw [cell_null logical] at read
    cases read
    exact ⟨scalar.row.slot none, found, scalar.row.nullOut⟩
  · rw [valueError_iff rowwise, and_congr_right_iff]
    intro _
    constructor
    · intro value
      obtain ⟨slot, member, present⟩ := value
      -- Were all rows NULL to a reader, all would be leading ones.
      by_contra none
      have all : col.slots.takeWhile Slot.isLogicallyNull = col.slots := by
        rw [List.takeWhile_eq_self_iff]
        intro s inside
        by_contra here
        rw [Bool.not_eq_true] at here
        exact none ⟨s, inside, here⟩
      rw [LeadingNullsArePhysical, all] at leading
      rw [leading slot member] at present
      cases present
    · intro value
      obtain ⟨slot, member, present⟩ := value
      exact ⟨slot, member, present_of_logical present⟩

theorem nullContract_iff (scalar : Scalar) : NullContract ex scalar col ↔ LeadingNullsArePhysical col := by
  constructor
  · intro contract
    rw [leading_iff]
    intro i slot there before present
    by_contra logical
    rw [Bool.not_eq_false] at logical
    by_cases text : col.dataType.isText
    · rw [text_logical text (List.mem_of_getElem? there), present] at logical
      cases logical
    · exact contract.causesNoError i slot _ there logical
        ((raisedAt_iff scalar there _).mpr ⟨before, present, text, rfl⟩)
  · exact nullContract_of_leading scalar

theorem columnRows_text (text : col.dataType.isText) :
    columnRows ex col = .ok ((col.slots.map Slot.string).map (Option.map (parsedAt ex))) := by
  rw [columnRows, List.map_map]
  apply Rows.mapM_answer
  intro slot member
  rw [cell, cellText_text text (col.typed slot member)]
  rfl

theorem textTypes_agree (rowwise : Rowwise (onColumn f) (cell ex) row) : TextTypesAgree f := by
  intro small large smallType largeType same
  have left := @columnRows_text ex _ (.inl smallType)
  have right := @columnRows_text ex _ (.inr largeType)
  rw [columnRows] at left right
  rw [rowwise.run_eq, rowwise.run_eq, left, right, same]

end Nulls

theorem null_contract (ex : Externals) (scalar : Scalar) :
    (∀ col, (NullContract ex scalar col ↔ LeadingNullsArePhysical col) ∧
      ∀ e, onColumn (scalar.function ex) col = .error e ↔ ∃ i, RaisedAt ex scalar col i e) ∧
    TextTypesAgree (scalar.function ex) :=
  ⟨fun col => ⟨nullContract_iff scalar, raised_iff ex scalar col⟩, textTypes_agree (scalar_rowwise ex scalar)⟩

def nullColumn : ArrayRef := ⟨.null, [.null], by decide⟩

def nullUnderKey : ArrayRef :=
  ⟨.dictionary .int32 .utf8, [.dictionary (some (.text true "curl/8.5.0")), .dictionary (some (.text false ""))],
    by decide⟩

theorem null_contract_is_bot :
    NullContract (constantEngine unmatched) .isBot nullUnderKey ∧
      ¬ NullContract (constantEngine unmatched) .isBot (nullUnderKey.take [1, 0]) ∧
      ¬ NullContract (constantEngine unmatched) .isBot nullColumn := by
  obtain ⟨contract, _⟩ := null_contract (constantEngine unmatched) .isBot
  refine ⟨(contract nullUnderKey).1.mpr (by decide), ?_, ?_⟩
  · intro holds
    exact absurd ((contract (nullUnderKey.take [1, 0])).1.mp holds) (by decide)
  · intro holds
    exact absurd ((contract nullColumn).1.mp holds) (by decide)

/-- A NULL literal arrives as a Null-typed column, and fails. -/
theorem null_column_fails :
    ¬ ∀ ex scalar, (∀ col, NullContract ex scalar col) ∧ TextTypesAgree (scalar.function ex) := by
  intro claim
  have contract := (claim (constantEngine unmatched) .isBot).1 nullColumn
  have failed := (@valueError_iff _ _ _ nullColumn (scalar_rowwise (constantEngine unmatched) .isBot)).mpr
    ⟨by decide, .null, by simp [nullColumn], rfl⟩
  obtain ⟨_, slot, member, present⟩ := contract.valueErrorIff.mp failed
  rw [nullColumn, List.mem_singleton] at member
  subst member
  cases present

end UserAgentProof
