import UserAgentWorker.Model.Offsets
import UserAgentWorker.Scalars.Nulls

namespace UserAgentProof

open Text Arrow UserAgentModel

def textFields : Scalar → List UserAgentModel.Field
  | .accessor field => [field]
  | .isBot => []
  | .parse => [.browser, .browserVersion, .os, .osVersion, .device, .deviceBrand]

def answerLen (field : UserAgentModel.Field) (row : Option Parsed) : Nat :=
  ((row.bind (fieldOf field)).getD "").utf8ByteSize

def answersLen (field : UserAgentModel.Field) (rows : List (Option Parsed)) : Nat := (rows.map (answerLen field)).sum

def textAnswers (ex : Externals) (col : ArrayRef) : List (Option Parsed) :=
  (col.slots.map Slot.string).map (Option.map (parsedAt ex))

/-- The offsets reach to the end of every string column of the answer. -/
def WithinOffsets (ex : Externals) (limit : Nat) (scalar : Scalar) (col : ArrayRef) : Prop :=
  ∀ field ∈ textFields scalar, answersLen field (textAnswers ex col) ≤ limit

instance (ex : Externals) (limit : Nat) (scalar : Scalar) (col : ArrayRef) :
    Decidable (WithinOffsets ex limit scalar col) := inferInstanceAs (Decidable (∀ _ ∈ _, _))

def limited (ex : Externals) (limit : Nat) (scalar : Scalar) : ScalarFunction :=
  { scalar.function ex with process := UserAgentOffsets.process ex limit scalar }

section Answers

variable {ex : Externals} {field : UserAgentModel.Field} {col : ArrayRef}

theorem answersLen_none {rows : List (Option Parsed)} (unread : ∀ row ∈ rows, row = none) :
    answersLen field rows = 0 := by
  apply List.sum_eq_zero
  intro length member
  obtain ⟨row, inside, same⟩ := List.mem_map.mp member
  rw [← same, unread row inside]
  rfl

theorem answersLen_le {rows : List (Option Parsed)} {longest : Nat}
    (short : ∀ row ∈ rows, answerLen field row ≤ longest) : answersLen field rows ≤ rows.length * longest := by
  have bound := List.sum_le_card_nsmul (rows.map (answerLen field)) longest (by simpa using short)
  simpa [answersLen] using bound

theorem string_of_other {slot : Slot} {dataType : DataType} (other : ¬ dataType.isText)
    (typed : slot.hasType dataType = true) : slot.string = none := by
  cases slot with
  | text valid value =>
    cases dataType with
    | utf8 => exact absurd (.inl rfl) other
    | largeUtf8 => exact absurd (.inr rfl) other
    | _ => simp [Slot.hasType] at typed
  | _ => rfl

theorem textAnswers_other (other : ¬ col.dataType.isText) : ∀ row ∈ textAnswers ex col, row = none := by
  intro row member
  simp only [textAnswers, List.map_map, List.mem_map] at member
  obtain ⟨slot, inside, same⟩ := member
  rw [← same, Function.comp_apply, string_of_other other (col.typed slot inside)]
  rfl

theorem readRow_other (other : ¬ col.dataType.isText) {i : Nat} {row : Option Parsed} (inside : i < col.len)
    (read : readRow ex col i = .ok row) : row = none := by
  have there : col.slots[i]? = some (col.slots.get ⟨i, inside⟩) := List.getElem?_eq_getElem inside
  have typed := col.typed _ (List.mem_of_getElem? there)
  rw [readRow, textStr_eq ex there] at read
  rw [(cell_ok typed read).2.1, string_of_other other typed]
  rfl

/-- The rows in front of the first bad one hold all the texts there are: only a column without texts has a bad row. -/
theorem front_len (ex : Externals) (field : UserAgentModel.Field) (col : ArrayRef) :
    answersLen field (Rows.front (readRow ex col) (List.range col.len)) = answersLen field (textAnswers ex col) := by
  by_cases text : col.dataType.isText
  · have reads : (List.range col.len).mapM (readRow ex col) = .ok (textAnswers ex col) := by
      rw [readRows_eq]
      exact columnRows_text text
    rw [Rows.front_ok reads]
  · rw [answersLen_none (textAnswers_other text)]
    apply answersLen_none
    intro row member
    obtain ⟨i, inside, read⟩ := Rows.mem_front member
    exact readRow_other text (List.mem_range.mp inside) read

end Answers

section Turns

variable {limit : Nat}

def Room (limit : Nat) : (scalar : Scalar) → scalar.Builders → Prop
  | .accessor _, out => StringBuilder.valuesLen out ≤ limit
  | .isBot, _ => True
  | .parse, b =>
    let b : UaParse.Builders := b
    b.browser.valuesLen ≤ limit ∧ b.browserVersion.valuesLen ≤ limit ∧ b.os.valuesLen ≤ limit ∧
      b.osVersion.valuesLen ≤ limit ∧ b.device.valuesLen ≤ limit ∧ b.brand.valuesLen ≤ limit

instance (limit : Nat) (scalar : Scalar) : DecidablePred (Room limit scalar) := fun _ =>
  match scalar with
  | .accessor _ => inferInstanceAs (Decidable (_ ≤ _))
  | .isBot => inferInstanceAs (Decidable True)
  | .parse => inferInstanceAs (Decidable (_ ∧ _))

theorem room_shrinks (scalar : Scalar) (out : scalar.Builders) (row : Option Parsed)
    (room : Room limit scalar (scalar.push out row)) : Room limit scalar out := by
  cases scalar with
  | accessor field => exact StringBuilder.room_of_push room
  | isBot => exact True.intro
  | parse =>
    obtain ⟨browser, browserVersion, os, osVersion, device, brand⟩ := room
    exact ⟨StringBuilder.room_of_push browser, StringBuilder.room_of_push browserVersion,
      StringBuilder.room_of_push os, StringBuilder.room_of_push osVersion, StringBuilder.room_of_push device,
      StringBuilder.room_of_push brand⟩

theorem room_new (scalar : Scalar) : Room limit scalar scalar.new := by
  cases scalar with
  | accessor field => exact Nat.zero_le limit
  | isBot => exact True.intro
  | parse => simp [Room, Scalar.new, UaParse.Builders.new]

theorem appendOpt_guard {out : StringBuilder} (room : out.valuesLen ≤ limit) (value : Option String) :
    UaParse.appendOpt (UserAgentOffsets.appendValue limit) out value =
      if StringBuilder.valuesLen (out.push value) ≤ limit then .ok (out.push value) else .error .panic := by
  cases value with
  | none =>
    have same : StringBuilder.valuesLen (out.push none) ≤ limit := by simpa using room
    exact (if_pos same).symm
  | some s =>
    rw [UaParse.appendOpt, UserAgentOffsets.appendValue]
    by_cases fits : StringBuilder.valuesLen (out.push (some s)) ≤ limit
    · rw [StringBuilder.appendValueWithin_fits fits, if_pos fits]
    · rw [StringBuilder.appendValueWithin_outgrown fits, if_neg fits]

theorem guard_bind {α β : Type} {fits : Prop} [Decidable fits] (a : α) (next : α → Run β) :
    ((if fits then .ok a else .error .panic : Run α) >>= next) = if fits then next a else .error .panic := by
  by_cases room : fits
  · rw [if_pos room, if_pos room]
    rfl
  · rw [if_neg room, if_neg room]
    rfl

theorem pushWith_guard (scalar : Scalar) {out : scalar.Builders} (room : Room limit scalar out) (row : Option Parsed) :
    pushWith (UserAgentOffsets.appendValue limit) scalar out row =
      if Room limit scalar (scalar.push out row) then .ok (scalar.push out row) else .error .panic := by
  cases scalar with
  | accessor field => exact appendOpt_guard room _
  | isBot => rfl
  | parse =>
    obtain ⟨browser, browserVersion, os, osVersion, device, brand⟩ := room
    cases row with
    | none =>
      have same : Room limit .parse (pushParsed out none) := by
        simpa [Room, pushParsed] using ⟨browser, browserVersion, os, osVersion, device, brand⟩
      exact (if_pos same).symm
    | some p =>
      simp only [pushWith, UaParse.Builders.appendParsed, appendOpt_guard browser, appendOpt_guard browserVersion,
        appendOpt_guard os, appendOpt_guard osVersion, appendOpt_guard device, appendOpt_guard brand, guard_bind,
        ← ite_and]
      rfl

end Turns

section Runs

variable (ex : Externals) (limit : Nat)

/-- A loop under the limit is the loop without it, unless the rows it reads outgrow the room. -/
theorem loop_guard (scalar : Scalar) (col : ArrayRef) :
    (List.range col.len).foldlM (scalar.stepWith ex ex.engine (UserAgentOffsets.appendValue limit) col) scalar.new =
      if Room limit scalar ((Rows.front (readRow ex col) (List.range col.len)).foldl scalar.push scalar.new)
      then (List.range col.len).foldlM (scalar.step ex col) scalar.new else .error .panic := by
  have turn : ∀ out i, Room limit scalar out →
      scalar.stepWith ex ex.engine (UserAgentOffsets.appendValue limit) col out i = readRow ex col i >>= fun row =>
        if Room limit scalar (scalar.push out row) then .ok (scalar.push out row) else .error .panic := by
    intro out i room
    rw [stepWith_eq, rowWith_engine]
    exact bind_congr fun row => pushWith_guard scalar room row
  rw [Rows.foldlM_guard (room_shrinks scalar) turn (room_new scalar),
    Rows.foldlM_push scalar.push fun out i => step_eq ex col scalar out i]

theorem valuesLen_answers (field : UserAgentModel.Field) (rows : List (Option Parsed)) :
    StringBuilder.valuesLen ⟨rows.map fun row => row.bind (fieldOf field)⟩ = answersLen field rows := by
  rw [StringBuilder.valuesLen, List.map_map]
  rfl

theorem within_iff (scalar : Scalar) (col : ArrayRef) : WithinOffsets ex limit scalar col ↔
    Room limit scalar ((Rows.front (readRow ex col) (List.range col.len)).foldl scalar.push scalar.new) := by
  have each : ∀ field, StringBuilder.valuesLen
      ⟨(Rows.front (readRow ex col) (List.range col.len)).map fun row => row.bind (fieldOf field)⟩ =
        answersLen field (textAnswers ex col) := by
    intro field
    rw [valuesLen_answers, front_len]
  cases scalar with
  | accessor field =>
    have built : (Rows.front (readRow ex col) (List.range col.len)).foldl (Scalar.accessor field).push
        (Scalar.accessor field).new = ⟨_⟩ := Builder.push_foldl _ _ _
    rw [built]
    simp only [WithinOffsets, textFields, List.mem_singleton, forall_eq, ← each]
    exact Iff.rfl
  | isBot => simp [WithinOffsets, textFields, Room]
  | parse =>
    have built := pushParsed_foldl UaParse.Builders.new (Rows.front (readRow ex col) (List.range col.len))
    have same : (Rows.front (readRow ex col) (List.range col.len)).foldl Scalar.parse.push Scalar.parse.new = _ := built
    rw [same]
    simp only [WithinOffsets, textFields, List.mem_cons, List.not_mem_nil, or_false, forall_eq_or_imp, forall_eq,
      ← each]
    exact Iff.rfl

theorem limited_process (scalar : Scalar) (params : ProcessParams) (batch : RecordBatch) :
    (limited ex limit scalar).process params batch = columnAt batch 0 >>= fun col =>
      if WithinOffsets ex limit scalar col then (scalar.function ex).process params batch else .error .panic := by
  rw [process_loop]
  simp only [limited, UserAgentOffsets.process, bind, Except.bind]
  cases first : columnAt batch 0 with
  | error e => rfl
  | ok col =>
    simp only [columnAt_numRows first, loop_guard, ← within_iff]
    by_cases within : WithinOffsets ex limit scalar col
    · simp only [if_pos within]
    · simp only [if_neg within]

end Runs

structure BatchedWithin (run plain : ArrayRef → Run ArrayRef) (pieces : List ArrayRef) (whole : ArrayRef) : Prop where
  wholeFits : ∀ out, run whole = .ok out → ∃ outs, pieces.mapM run = .ok outs ∧ Concatenates outs out
  piecesFit : ∀ outs, pieces.mapM run = .ok outs → ∃ out, plain whole = .ok out ∧ Concatenates outs out

section Batches

variable {ex : Externals} {limit : Nat} {scalar : Scalar} {col : ArrayRef} {pieces : List ArrayRef}

theorem limited_column (ex : Externals) (limit : Nat) (scalar : Scalar) (col : ArrayRef) :
    onColumn (limited ex limit scalar) col =
      if WithinOffsets ex limit scalar col then onColumn (scalar.function ex) col else .error .panic := by
  have bound : (limited ex limit scalar).onBind = (scalar.function ex).onBind := rfl
  have first : columnAt (.single "ua" col) 0 = .ok col := rfl
  simp only [onColumn, runScalarOn, bound, scalar_bind, limited_process, first, bind, Except.bind]
  by_cases within : WithinOffsets ex limit scalar col
  · rw [if_pos within, if_pos within]
  · rw [if_neg within, if_neg within]

theorem within_of_ok {out : ArrayRef} (success : onColumn (limited ex limit scalar) col = .ok out) :
    WithinOffsets ex limit scalar col := by
  by_contra outgrown
  rw [limited_column, if_neg outgrown] at success
  cases success

theorem within_piece (cut : Concatenates pieces col) (within : WithinOffsets ex limit scalar col) {piece : ArrayRef}
    (member : piece ∈ pieces) : WithinOffsets ex limit scalar piece := by
  intro field listed
  have slots : piece.slots.Sublist col.slots := by
    rw [← cut.slots]
    exact List.sublist_flatten_of_mem (List.mem_map_of_mem member)
  have answers := ((slots.map Slot.string).map (Option.map (parsedAt ex))).map (answerLen field)
  exact (answers.sum_le_sum fun _ _ => Nat.zero_le _).trans (within field listed)

theorem within_short {longest : Nat}
    (short : ∀ field ∈ textFields scalar, ∀ ua, answerLen field (some (parsedAt ex ua)) ≤ longest)
    (small : col.len * longest ≤ limit) : WithinOffsets ex limit scalar col := by
  intro field listed
  have each : ∀ row ∈ textAnswers ex col, answerLen field row ≤ longest := by
    intro row member
    obtain ⟨text, _, same⟩ := List.mem_map.mp member
    subst same
    cases text with
    | none => exact Nat.zero_le longest
    | some ua => exact short field listed ua
  have bound := answersLen_le each
  have length : (textAnswers ex col).length = col.len := by simp [textAnswers, ArrayRef.len]
  rw [length] at bound
  exact bound.trans small

theorem limited_pieces (within : ∀ piece ∈ pieces, WithinOffsets ex limit scalar piece) :
    pieces.mapM (onColumn (limited ex limit scalar)) = pieces.mapM (onColumn (scalar.function ex)) := by
  apply Rows.mapM_congr
  apply List.map_congr_left
  intro piece member
  rw [limited_column, if_pos (within piece member)]

end Batches

/-- The panic of a string builder that outgrows its offsets is all that sets a process with offsets apart, and
    sending smaller batches never makes it worse. -/
theorem offsets_exact (ex : Externals) (limit : Nat) (scalar : Scalar) :
    (∀ params batch, (limited ex limit scalar).process params batch = columnAt batch 0 >>= fun col =>
      if WithinOffsets ex limit scalar col then (scalar.function ex).process params batch else .error .panic) ∧
    ∀ pieces whole, Concatenates pieces whole →
      BatchedWithin (onColumn (limited ex limit scalar)) (onColumn (scalar.function ex)) pieces whole ∧
      ∀ longest, (∀ field ∈ textFields scalar, ∀ ua, answerLen field (some (parsedAt ex ua)) ≤ longest) →
        (∀ piece ∈ pieces, piece.len * longest ≤ limit) →
        pieces.mapM (onColumn (limited ex limit scalar)) = pieces.mapM (onColumn (scalar.function ex)) := by
  have rowwise := scalar_rowwise ex scalar
  refine ⟨limited_process ex limit scalar, ?_⟩
  intro pieces whole cut
  refine ⟨⟨?_, ?_⟩, ?_⟩
  · intro out success
    have within := within_of_ok success
    rw [limited_column, if_pos within] at success
    rw [limited_pieces fun piece member => within_piece cut within member]
    cases parts : pieces.mapM (onColumn (scalar.function ex)) with
    | error e =>
      rw [(rowwise.pieces_error cut e).mp parts] at success
      cases success
    | ok outs =>
      obtain ⟨out', same, joined⟩ := rowwise.pieces_ok cut parts
      rw [success] at same
      cases same
      exact ⟨outs, rfl, joined⟩
  · intro outs success
    have within : ∀ piece ∈ pieces, WithinOffsets ex limit scalar piece := by
      intro piece member
      obtain ⟨k, there⟩ := List.mem_iff_getElem?.mp member
      obtain ⟨_, answer, _⟩ := Rows.mapM_getElem success there
      exact within_of_ok answer
    rw [limited_pieces within] at success
    exact rowwise.pieces_ok cut success
  · intro longest short small
    exact limited_pieces fun piece member => within_short short (small piece member)

def curlEngine : Externals := constantEngine { unmatched with userAgent := ⟨"curl", none, none, none⟩ }

def curls : ArrayRef := ⟨.utf8, [.text true "curl/8.5.0", .text true "curl/7.0.0"], by decide⟩

/-- Two answers of 4 bytes outgrow offsets that end at 7, and in batches of one row they do not. -/
theorem offsets_exact_curl :
    let pieces := [curls.take [0], curls.take [1]]
    ¬ WithinOffsets curlEngine 7 (.accessor .browser) curls ∧
      pieces.mapM (onColumn (limited curlEngine 7 (.accessor .browser))) =
        pieces.mapM (onColumn (UaField.scalar curlEngine .browser)) := by
  intro pieces
  have cut : Concatenates pieces curls := ⟨by simp [pieces, ArrayRef.take], rfl⟩
  have short : ∀ field ∈ textFields (.accessor .browser), ∀ ua,
      answerLen field (some (parsedAt curlEngine ua)) ≤ 4 := by
    intro field listed ua
    cases List.mem_singleton.mp listed
    exact show answerLen .browser (some (parsedOf (curlEngine.parser ""))) ≤ 4 by decide
  exact ⟨by decide, ((offsets_exact curlEngine 7 (.accessor .browser)).2 pieces curls cut).2 4 short (by decide)⟩

/-- With `i32` offsets, batches of 32767 rows hold any answers as long as a bounded text. -/
example : 32767 * maxInputBytes ≤ StringBuilder.offsetMax := by decide

end UserAgentProof
