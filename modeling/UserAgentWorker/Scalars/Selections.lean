import UserAgentWorker.Scalars.Nulls
import UserAgentWorker.UserAgent.Normal

namespace UserAgentProof

open Text Arrow UserAgentModel

/-- Any choice of rows, some twice or not at all, is answered row by row and fails by its own rows only. -/
theorem any_selection (ex : Externals) (f : ScalarFunction) (member : f ∈ register ex) (col : ArrayRef)
    (positions : List Nat) :
    (∀ out, onColumn f col = .ok out → onColumn f (col.take positions) = .ok (out.take positions)) ∧
    (∀ outs, positions.mapM (fun i => onColumn f (col.take [i])) = .ok outs →
      ∃ out, onColumn f (col.take positions) = .ok out ∧ Concatenates outs out) ∧
    ∀ e, onColumn f (col.take positions) = .error e ↔ ∃ i ∈ positions, onColumn f (col.take [i]) = .error e := by
  obtain ⟨row, _, rowwise⟩ := register_rowwise member
  refine ⟨?_, ?_, ?_⟩
  · intro out success
    exact rowwise.take_ok success positions
  · intro outs success
    rw [← Function.comp_def, ← List.mapM_map] at success
    exact rowwise.pieces_ok (col.take_concatenates positions) success
  · intro e
    exact rowwise.take_error_iff cell_alike col positions e

theorem any_selection_parse :
    let f := UaParse.scalar (constantEngine unmatched)
    (∀ out, onColumn f textColumn = .ok out → onColumn f (textColumn.take [1, 1]) = .ok (out.take [1, 1])) ∧
      ∀ e, onColumn f (nullColumn.take [0, 0]) = .error e ↔
        ∃ i ∈ [0, 0], onColumn f (nullColumn.take [i]) = .error e := by
  intro f
  have member : f ∈ register (constantEngine unmatched) := by simp [register, f]
  obtain ⟨whole, _⟩ := any_selection (constantEngine unmatched) f member textColumn [1, 1]
  obtain ⟨_, _, failed⟩ := any_selection (constantEngine unmatched) f member nullColumn [0, 0]
  exact ⟨whole, failed⟩

/-- What a BOOLEAN column says of a row, NULL as none. -/
def flagAt (flags : ArrayRef) (i : Nat) : Option Bool :=
  match flags.slots[i]? with
  | some (.boolean true flag) => some flag
  | _ => none

/-- The rows that `WHERE ua_is_bot(ua) IS NOT DISTINCT FROM flag` keeps. -/
def rowsWhere (flags : ArrayRef) (flag : Option Bool) : List Nat :=
  (List.range flags.len).filter fun i => flagAt flags i == flag

section Rowwise

variable (ex : Externals)

theorem field_rowwise (field : UserAgentModel.Field) :
    Rowwise (onColumn (UaField.scalar ex field)) (cell ex) (fieldRow field) :=
  ⟨fun col => fieldScalar_eq ex (.single "ua" col) field⟩

theorem bot_rowwise : Rowwise (onColumn (UaIsBot.scalar ex)) (cell ex) botRow :=
  ⟨fun col => botScalar_eq ex (.single "ua" col)⟩

theorem parse_rowwise : Rowwise (onColumn (UaParse.scalar ex)) (cell ex) parseRow :=
  ⟨fun col => parseScalar_eq ex (.single "ua" col)⟩

end Rowwise

section Filter

variable {ex : Externals} {col : ArrayRef} {rows : List (Option Parsed)}

def flagged (flag : Option Bool) (row : Option Parsed) : Bool := row.map Parsed.isBot == flag

theorem flagAt_column (i : Nat) : flagAt (botRow.column rows) i = rows[i]?.bind (Option.map Parsed.isBot) := by
  rw [flagAt, RowFunction.column_getElem]
  cases rows[i]? with
  | none => rfl
  | some row => cases row <;> rfl

theorem rowsWhere_column (flag : Option Bool) :
    rowsWhere (botRow.column rows) flag =
      (List.range rows.length).filter fun i => rows[i]?.any (flagged flag) := by
  rw [rowsWhere, RowFunction.column_len]
  apply List.filter_congr
  intro i member
  rw [flagAt_column, List.getElem?_eq_getElem (List.mem_range.mp member)]
  rfl

theorem pick_rowsWhere (flag : Option Bool) :
    Rows.pick (rowsWhere (botRow.column rows) flag) rows = rows.filter (flagged flag) := by
  rw [rowsWhere_column, Rows.pick_filter]

theorem bot_unnamed {ua : String} (bot : (parsedAt ex ua).isBot = true) :
    (parsedAt ex ua).device = none ∧ (parsedAt ex ua).brand = none := by
  rw [parsedAt] at bot ⊢
  by_cases spider : (ex.parser (truncate maxInputBytes ua)).device.family = "Spider"
  · exact (parsedOf_bot _ spider).2
  · rw [(parsedOf_other _ spider).1] at bot
    cases bot

theorem fieldRow_isNull (field : UserAgentModel.Field) (row : Option Parsed) :
    ((fieldRow field).slot row).isNull = (row.bind (fieldOf field)).isNone := by
  have slot : (fieldRow field).slot row = StringBuilder.slot (row.bind (fieldOf field)) := rfl
  rw [slot]
  cases row.bind (fieldOf field) <;> rfl

theorem columnRows_getElem (reads : columnRows ex col = .ok rows) {i : Nat} {slot : Slot}
    (there : col.slots[i]? = some slot) :
    ∃ row, rows[i]? = some row ∧ row = slot.string.map (parsedAt ex) ∧ row.isSome = !slot.isNull := by
  obtain ⟨row, read, found⟩ := Rows.mapM_getElem reads there
  obtain ⟨_, string, present⟩ := cell_ok (col.typed slot (List.mem_of_getElem? there)) read
  exact ⟨row, found, string, present⟩

theorem null_rows (reads : columnRows ex col = .ok rows) {i : Nat} {slot : Slot} (there : col.slots[i]? = some slot) :
    i ∈ rowsWhere (botRow.column rows) none ↔ slot.isNull = true := by
  obtain ⟨row, found, _, present⟩ := columnRows_getElem reads there
  have inside : i < rows.length := (List.getElem?_eq_some_iff.mp found).1
  simp only [rowsWhere_column, List.mem_filter, List.mem_range, inside, true_and, found, Option.any_some]
  cases row with
  | none => simpa [flagged] using present
  | some p => simpa [flagged] using present

theorem rowsWhere_kept (flag : Option Bool) (kept : ∀ row ∈ rows, flagged flag row = true) :
    rowsWhere (botRow.column rows) flag = List.range (botRow.column rows).len := by
  rw [rowsWhere_column, RowFunction.column_len, List.filter_eq_self]
  intro i member
  rw [List.getElem?_eq_getElem (List.mem_range.mp member)]
  exact kept _ (List.getElem_mem (List.mem_range.mp member))

theorem row_parsed (reads : columnRows ex col = .ok rows) {p : Parsed} (member : some p ∈ rows) :
    ∃ ua, p = parsedAt ex ua := by
  obtain ⟨i, found⟩ := List.mem_iff_getElem?.mp member
  have length : rows.length = col.slots.length := Rows.mapM_length reads
  have inside : i < col.slots.length := length ▸ (List.getElem?_eq_some_iff.mp found).1
  obtain ⟨row, same, string, _⟩ := columnRows_getElem reads (List.getElem?_eq_getElem inside)
  rw [found, Option.some_inj] at same
  rw [← same, eq_comm, Option.map_eq_some_iff] at string
  obtain ⟨ua, _, parsed⟩ := string
  exact ⟨ua, parsed.symm⟩

theorem bot_rows_unnamed (reads : columnRows ex col = .ok rows) {field : UserAgentModel.Field}
    (named : field = .device ∨ field = .deviceBrand) {row : Option Parsed} (member : row ∈ rows)
    (bot : flagged (some true) row = true) : ((fieldRow field).slot row).isNull = true := by
  cases row with
  | none => cases bot
  | some p =>
    obtain ⟨ua, same⟩ := row_parsed reads member
    subst same
    have flag : (parsedAt ex ua).isBot = true := by simpa [flagged] using bot
    obtain ⟨device, brand⟩ := bot_unnamed flag
    rw [fieldRow_isNull, Option.bind_some]
    rcases named with rfl | rfl
    · rw [fieldOf, device, Option.isNone_none]
    · rw [fieldOf, brand, Option.isNone_none]

end Filter

/-- `WHERE ua_is_bot(ua)`, `WHERE NOT ua_is_bot(ua)` and `WHERE ua IS NULL` on one column. -/
structure BotsFiltered (ex : Externals) (col flags : ArrayRef) : Prop where
  split : (rowsWhere flags (some false) ++ rowsWhere flags (some true) ++ rowsWhere flags none).Perm
    (List.range col.len)
  nulls : ∀ (i : Nat) (slot : Slot), col.slots[i]? = some slot →
    (i ∈ rowsWhere flags none ↔ slot.isNull = true)
  commutes : ∀ f ∈ register ex, ∃ out, onColumn f col = .ok out ∧
    ∀ flag, onColumn f (col.take (rowsWhere flags flag)) = .ok (out.take (rowsWhere flags flag))
  settled : ∀ flag again, onColumn (UaIsBot.scalar ex) (col.take (rowsWhere flags flag)) = .ok again →
    rowsWhere again flag = List.range again.len
  unnamed : ∀ field : UserAgentModel.Field, field = .device ∨ field = .deviceBrand →
    ∀ out, onColumn (UaField.scalar ex field) (col.take (rowsWhere flags (some true))) = .ok out →
      ∀ slot ∈ out.slots, slot.isNull = true

theorem bots_filtered (ex : Externals) (col flags : ArrayRef)
    (success : onColumn (UaIsBot.scalar ex) col = .ok flags) : BotsFiltered ex col flags := by
  obtain ⟨rows, reads, same⟩ := ((bot_rowwise ex).ok_iff col flags).mp success
  subst same
  have length : rows.length = col.len := Rows.mapM_length reads
  have some : ∀ {f : ScalarFunction} {row : RowFunction Parsed}, Rowwise (onColumn f) (cell ex) row →
      ∀ flag, onColumn f (col.take (rowsWhere (botRow.column rows) flag)) =
        .ok (row.column (rows.filter (flagged flag))) := by
    intro f row rowwise flag
    have whole : onColumn f col = .ok (row.column rows) := (rowwise.ok_iff col _).mpr ⟨rows, reads, rfl⟩
    rw [rowwise.take_ok whole, ← RowFunction.column_take, pick_rowsWhere]
  refine ⟨?_, ?_, ?_, ?_, ?_⟩
  · rw [← length, ← RowFunction.column_len botRow rows]
    exact Rows.filter_partition _ _
  · intro i slot there
    exact null_rows reads there
  · intro f member
    obtain ⟨row, _, rowwise⟩ := register_rowwise member
    refine ⟨row.column rows, (rowwise.ok_iff col _).mpr ⟨rows, reads, rfl⟩, ?_⟩
    intro flag
    rw [some rowwise, ← pick_rowsWhere, RowFunction.column_take]
  · intro flag again kept
    rw [some (bot_rowwise ex), Except.ok.injEq] at kept
    subst kept
    exact rowsWhere_kept flag fun row member => List.of_mem_filter member
  · intro field named out kept slot member
    rw [some (field_rowwise ex field), Except.ok.injEq] at kept
    subst kept
    obtain ⟨row, inside, same⟩ := List.mem_map.mp member
    subst same
    obtain ⟨listed, bot⟩ := List.mem_filter.mp inside
    exact bot_rows_unnamed reads named listed bot

section Visits

def googlebotText : String := "Mozilla/5.0 (compatible; Googlebot/2.1; +http://www.google.com/bot.html)"

def iphoneText : String :=
  "Mozilla/5.0 (iPhone; CPU iPhone OS 17_0 like Mac OS X) Version/17.0 Mobile/15E148 Safari/604.1"

def googlebot : Client where
  userAgent := ⟨"Googlebot", some "2", some "1", none⟩
  os := ⟨"Other", none, none, none, none⟩
  device := ⟨"Spider", some "Spider"⟩

def iphone : Client where
  userAgent := ⟨"Mobile Safari", some "17", some "0", none⟩
  os := ⟨"iOS", some "17", some "0", none, none⟩
  device := ⟨"iPhone", some "Apple"⟩

def visitor (ua : String) : Client := if ua = googlebotText then googlebot else iphone

def visitors : Externals := withEngine visitor

def visits : ArrayRef :=
  ⟨.utf8, [.text true googlebotText, .text true iphoneText, .text false ""], by decide⟩

theorem visits_rows :
    columnRows visitors visits = .ok [some (parsedOf googlebot), some (parsedOf iphone), none] := by
  have other : iphoneText ≠ googlebotText := by decide +kernel
  have bot : visitor googlebotText = googlebot := if_pos rfl
  have phone : visitor iphoneText = iphone := if_neg other
  have botRow : parsedAt visitors googlebotText = parsedOf googlebot := by
    rw [parsedAt, truncate_whole (by decide +kernel)]
    exact congrArg parsedOf bot
  have phoneRow : parsedAt visitors iphoneText = parsedOf iphone := by
    rw [parsedAt, truncate_whole (by decide +kernel)]
    exact congrArg parsedOf phone
  rw [columnRows_text (.inl rfl), ← botRow, ← phoneRow]
  rfl

theorem visits_flags :
    onColumn (UaIsBot.scalar visitors) visits = .ok (BooleanBuilder.finish ⟨[some true, some false, none]⟩) :=
  ((bot_rowwise visitors).ok_iff visits _).mpr ⟨_, visits_rows, rfl⟩

end Visits

theorem bots_filtered_visits :
    let flags := BooleanBuilder.finish ⟨[some true, some false, none]⟩
    BotsFiltered visitors visits flags ∧ rowsWhere flags (some true) = [0] ∧
      rowsWhere flags (some false) = [1] ∧ rowsWhere flags none = [2] := by
  intro flags
  exact ⟨bots_filtered visitors visits flags visits_flags, by decide, by decide, by decide⟩

end UserAgentProof
