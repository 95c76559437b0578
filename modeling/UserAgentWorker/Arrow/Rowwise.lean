import UserAgentWorker.Arrow.Builders

namespace Arrow

/-- A scalar function with its columns taken away: the output row for an input row or for NULL. -/
structure RowFunction (ρ : Type) where
  dataType : DataType
  slot : Option ρ → Slot
  typed : ∀ row, (slot row).hasType dataType = true
  nullOut : (slot none).isNull = true

def RowFunction.column {ρ : Type} (f : RowFunction ρ) (rows : List (Option ρ)) : ArrayRef where
  dataType := f.dataType
  slots := rows.map f.slot
  typed := by
    intro slot member
    obtain ⟨row, _, same⟩ := List.mem_map.mp member
    rw [← same]
    exact f.typed row

@[simp] theorem RowFunction.column_len {ρ : Type} (f : RowFunction ρ) (rows : List (Option ρ)) :
    (f.column rows).len = rows.length := List.length_map f.slot

@[simp] theorem RowFunction.column_getElem {ρ : Type} (f : RowFunction ρ) (rows : List (Option ρ)) (i : Nat) :
    (f.column rows).slots[i]? = rows[i]?.map f.slot := List.getElem?_map

section Struct

variable {ρ : Type}

theorem childrenHaveTypes_slots {children : List (RowFunction ρ)} {fields : Fields} (row : Option ρ)
    (types : children.map RowFunction.dataType = fields.toList.map Field.dataType) :
    childrenHaveTypes (children.map fun child => child.slot row) fields = true := by
  induction children generalizing fields with
  | nil =>
    cases fields with
    | nil => rfl
    | cons head tail => simp [Fields.toList] at types
  | cons child children ih =>
    cases fields with
    | nil => simp [Fields.toList] at types
    | cons head tail =>
      simp only [Fields.toList, List.map_cons, List.cons.injEq] at types
      rw [List.map_cons, childrenHaveTypes, Bool.and_eq_true, ← types.1]
      exact ⟨child.typed row, ih types.2⟩

/-- The row functions of the fields, side by side under one validity bit. -/
def RowFunction.struct (fields : Fields) (children : List (RowFunction ρ))
    (types : children.map RowFunction.dataType = fields.toList.map Field.dataType) : RowFunction ρ where
  dataType := .struct fields
  slot row := .struct row.isSome (children.map fun child => child.slot row)
  typed := by
    intro row
    rw [Slot.hasType]
    exact childrenHaveTypes_slots row types
  nullOut := rfl

variable {fields : Fields} {children : List (RowFunction ρ)}
variable (types : children.map RowFunction.dataType = fields.toList.map Field.dataType)
include types

theorem StructArray.fits_columns (nullable : ∀ field ∈ fields.toList, field.nullable = true) (rows : List (Option ρ)) :
    List.Forall₂ (ChildFits (rows.map Option.isSome)) fields.toList (children.map fun child => child.column rows) := by
  induction children generalizing fields with
  | nil =>
    rw [List.map_nil, eq_comm, List.map_eq_nil_iff] at types
    rw [types]
    exact .nil
  | cons child children ih =>
    cases fields with
    | nil => simp [Fields.toList] at types
    | cons head tail =>
      simp only [Fields.toList, List.map_cons, List.cons.injEq] at types
      simp only [Fields.toList, List.mem_cons, forall_eq_or_imp] at nullable
      refine .cons ⟨types.1, ?_, .inl nullable.1⟩ (ih types.2 nullable.2)
      rw [RowFunction.column_len, List.length_map]

omit types in
theorem StructArray.rows_columns (rows : List (Option ρ)) :
    StructArray.rows (children.map fun child => child.column rows) (rows.map Option.isSome) =
      rows.map fun row => .struct row.isSome (children.map fun child => child.slot row) := by
  apply List.ext_getElem
  · simp [StructArray.rows]
  · intro i left right
    rw [List.length_map] at right
    have each : ∀ child ∈ children, (child.column rows).slots[i]? = some (child.slot rows[i]) := by
      intro child _
      rw [RowFunction.column_getElem, List.getElem?_eq_getElem right, Option.map_some]
    have row : rowChildren (children.map fun child => child.column rows) i =
        children.map fun child => child.slot rows[i] := by
      rw [rowChildren, List.filterMap_map, ← List.filterMap_eq_map]
      exact List.filterMap_congr each
    simp [StructArray.rows, row]

theorem StructArray.fits_struct (nullable : ∀ field ∈ fields.toList, field.nullable = true) (some : children ≠ [])
    (rows : List (Option ρ)) :
    Fits fields (children.map fun child => child.column rows) (rows.map Option.isSome) :=
  ⟨by simpa using some, fits_columns types nullable rows⟩

theorem StructArray.assemble_columns {rows : List (Option ρ)}
    (fits : Fits fields (children.map fun child => child.column rows) (rows.map Option.isSome)) :
    assemble fits = (RowFunction.struct fields children types).column rows :=
  ArrayRef.ext rfl (rows_columns rows)

theorem RowFunction.struct_column {k : Nat} {child : RowFunction ρ} {field : Field}
    (there : children[k]? = some child) (named : fields.toList[k]? = some field) (rows : List (Option ρ)) :
    ((RowFunction.struct fields children types).column rows).column k = some (child.column rows) := by
  have kth := congrArg (fun list => list[k]?) types
  simp only [List.getElem?_map, there, named, Option.map_some, Option.some_inj] at kth
  apply ArrayRef.column_eq_some rfl named kth
  simp only [RowFunction.column, RowFunction.struct, List.filterMap_map, Function.comp_def, Slot.child,
    List.getElem?_map, there, Option.map_some]
  exact congrFun List.filterMap_eq_map rows

end Struct

structure Concatenates (pieces : List ArrayRef) (whole : ArrayRef) : Prop where
  types : ∀ piece ∈ pieces, piece.dataType = whole.dataType
  slots : (pieces.map ArrayRef.slots).flatten = whole.slots

/-- A kernel reads every row on its own and answers all rows, or fails with the error of one. -/
structure Rowwise {ε ρ : Type} (run : ArrayRef → Except ε ArrayRef) (read : DataType → Slot → Except ε (Option ρ))
    (f : RowFunction ρ) : Prop where
  run_eq : ∀ col, run col = (col.slots.mapM (read col.dataType)).map f.column

section Rowwise

variable {ε ρ : Type} {run : ArrayRef → Except ε ArrayRef} {read : DataType → Slot → Except ε (Option ρ)}
variable {f : RowFunction ρ}

theorem RowFunction.column_take (positions : List Nat) (rows : List (Option ρ)) :
    f.column (Rows.pick positions rows) = (f.column rows).take positions :=
  ArrayRef.ext rfl (Rows.pick_map positions f.slot rows).symm

theorem RowFunction.column_concatenates (pieces : List (List (Option ρ))) :
    Concatenates (pieces.map f.column) (f.column pieces.flatten) where
  types := by
    intro piece member
    obtain ⟨rows, _, same⟩ := List.mem_map.mp member
    rw [← same]
    rfl
  slots := by
    rw [List.map_map]
    exact List.map_flatten.symm

theorem Rowwise.ok_iff (rowwise : Rowwise run read f) (col out : ArrayRef) :
    run col = .ok out ↔ ∃ rows, col.slots.mapM (read col.dataType) = .ok rows ∧ f.column rows = out := by
  rw [rowwise.run_eq]
  cases col.slots.mapM (read col.dataType) with
  | ok rows => simp [Except.map]
  | error e => simp [Except.map]

theorem Rowwise.error_iff (rowwise : Rowwise run read f) (col : ArrayRef) (e : ε) :
    run col = .error e ↔ col.slots.mapM (read col.dataType) = .error e := by
  rw [rowwise.run_eq]
  cases col.slots.mapM (read col.dataType) with
  | ok rows => simp [Except.map]
  | error e' => simp [Except.map]

theorem Rowwise.len (rowwise : Rowwise run read f) {col out : ArrayRef} (success : run col = .ok out) :
    out.len = col.len := by
  obtain ⟨rows, reads, same⟩ := (rowwise.ok_iff col out).mp success
  rw [← same, RowFunction.column_len, Rows.mapM_length reads, ArrayRef.len]

theorem Rowwise.slot (rowwise : Rowwise run read f) {col out : ArrayRef} (success : run col = .ok out) {i : Nat}
    {slot : Slot} (there : col.slots[i]? = some slot) :
    ∃ row, read col.dataType slot = .ok row ∧ out.slots[i]? = some (f.slot row) := by
  obtain ⟨rows, reads, same⟩ := (rowwise.ok_iff col out).mp success
  obtain ⟨row, read, found⟩ := Rows.mapM_getElem reads there
  refine ⟨row, read, ?_⟩
  rw [← same, RowFunction.column_getElem, found, Option.map_some]

theorem Rowwise.pieces_eq (rowwise : Rowwise run read f) {pieces : List ArrayRef} {whole : ArrayRef}
    (cut : Concatenates pieces whole) :
    pieces.mapM run =
      ((pieces.map ArrayRef.slots).mapM (List.mapM (read whole.dataType))).map (List.map f.column) := by
  rw [List.mapM_map, ← Rows.mapM_map_answer]
  apply Rows.mapM_congr
  apply List.map_congr_left
  intro piece member
  rw [rowwise.run_eq, cut.types piece member]
  rfl

theorem Rowwise.pieces_ok (rowwise : Rowwise run read f) {pieces outs : List ArrayRef} {whole : ArrayRef}
    (cut : Concatenates pieces whole) (success : pieces.mapM run = .ok outs) :
    ∃ out, run whole = .ok out ∧ Concatenates outs out := by
  rw [rowwise.pieces_eq cut] at success
  have flat := Rows.mapM_flatten (read whole.dataType) (pieces.map ArrayRef.slots)
  rw [cut.slots] at flat
  rw [rowwise.run_eq, flat]
  cases reads : (pieces.map ArrayRef.slots).mapM (List.mapM (read whole.dataType)) with
  | error e =>
    rw [reads] at success
    cases success
  | ok rows =>
    rw [reads] at success
    cases success
    exact ⟨f.column rows.flatten, rfl, RowFunction.column_concatenates rows⟩

theorem Rowwise.pieces_error (rowwise : Rowwise run read f) {pieces : List ArrayRef} {whole : ArrayRef}
    (cut : Concatenates pieces whole) (e : ε) : pieces.mapM run = .error e ↔ run whole = .error e := by
  have flat := Rows.mapM_flatten (read whole.dataType) (pieces.map ArrayRef.slots)
  rw [cut.slots] at flat
  rw [rowwise.pieces_eq cut, rowwise.run_eq, flat]
  cases (pieces.map ArrayRef.slots).mapM (List.mapM (read whole.dataType)) with
  | error e' => simp [Except.map]
  | ok rows => simp [Except.map]

/-- Any choice of rows, some of them twice or not at all. -/
theorem Rowwise.take_ok (rowwise : Rowwise run read f) {col out : ArrayRef} (success : run col = .ok out)
    (positions : List Nat) : run (col.take positions) = .ok (out.take positions) := by
  obtain ⟨rows, reads, same⟩ := (rowwise.ok_iff col out).mp success
  rw [rowwise.ok_iff]
  refine ⟨Rows.pick positions rows, Rows.mapM_pick_ok reads positions, ?_⟩
  rw [← same, RowFunction.column_take]

theorem ArrayRef.take_concatenates (col : ArrayRef) (positions : List Nat) :
    Concatenates (positions.map fun i => col.take [i]) (col.take positions) where
  types := by
    intro piece member
    obtain ⟨i, _, same⟩ := List.mem_map.mp member
    rw [← same]
    rfl
  slots := by
    rw [List.map_map]
    exact Rows.pick_flatten positions col.slots

section Alike

variable (alike : ∀ dataType x y e e', read dataType x = .error e → read dataType y = .error e' → e = e')
include alike

theorem Rowwise.error_iff_piece (rowwise : Rowwise run read f) {pieces : List ArrayRef} {whole : ArrayRef}
    (cut : Concatenates pieces whole) (e : ε) :
    run whole = .error e ↔ ∃ piece ∈ pieces, run piece = .error e := by
  rw [rowwise.error_iff, Rows.mapM_error_iff (alike whole.dataType), ← cut.slots]
  simp only [List.mem_flatten, List.mem_map]
  constructor
  · intro some
    obtain ⟨slot, ⟨slots, ⟨piece, member, same⟩, inside⟩, bad⟩ := some
    subst same
    refine ⟨piece, member, ?_⟩
    rw [rowwise.error_iff, cut.types piece member, Rows.mapM_error_iff (alike whole.dataType)]
    exact ⟨slot, inside, bad⟩
  · intro some
    obtain ⟨piece, member, bad⟩ := some
    rw [rowwise.error_iff, cut.types piece member, Rows.mapM_error_iff (alike whole.dataType)] at bad
    obtain ⟨slot, inside, bad⟩ := bad
    exact ⟨slot, ⟨piece.slots, ⟨piece, member, rfl⟩, inside⟩, bad⟩

/-- A selection fails where one of its rows fails by itself, whatever the rows left out hold. -/
theorem Rowwise.take_error_iff (rowwise : Rowwise run read f) (col : ArrayRef) (positions : List Nat) (e : ε) :
    run (col.take positions) = .error e ↔ ∃ i ∈ positions, run (col.take [i]) = .error e := by
  rw [rowwise.error_iff_piece alike (col.take_concatenates positions)]
  simp only [List.mem_map, exists_exists_and_eq_and]

theorem Rowwise.take (rowwise : Rowwise run read f) {col : ArrayRef} {positions : List Nat}
    (all : positions.Perm (List.range col.len)) :
    run (col.take positions) = (run col).map fun out => out.take positions := by
  rw [rowwise.run_eq, rowwise.run_eq]
  have reads := Rows.mapM_pick all (alike col.dataType)
  rw [ArrayRef.take, reads]
  cases col.slots.mapM (read col.dataType) with
  | error e => rfl
  | ok rows =>
    simp only [Except.map]
    rw [RowFunction.column_take]

end Alike

end Rowwise

end Arrow
