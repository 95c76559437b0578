import UserAgentWorker.Scalars.Nulls

namespace UserAgentProof

open Text Arrow UserAgentModel

section Cap

variable {ex : Externals} {f : ScalarFunction} {row : RowFunction Parsed}

theorem parsed_related {a b : Option String} (related : Option.Rel (SameUpTo maxInputBytes) a b) :
    a.map (parsedAt ex) = b.map (parsedAt ex) := by
  cases related with
  | some same => rw [Option.map_some, Option.map_some, parsedAt_congr same]
  | none => rfl

theorem rows_related {left right : List (Option String)}
    (related : List.Forall₂ (Option.Rel (SameUpTo maxInputBytes)) left right) :
    left.map (Option.map (parsedAt ex)) = right.map (Option.map (parsedAt ex)) := by
  induction related with
  | nil => rfl
  | cons head _ ih => rw [List.map_cons, List.map_cons, parsed_related head, ih]

theorem columns_related (rowwise : Rowwise (onColumn f) (cell ex) row) {left right : ArrayRef}
    (leftText : left.dataType.isText) (rightText : right.dataType.isText)
    (related : List.Forall₂ (Option.Rel (SameUpTo maxInputBytes))
      (left.slots.map Slot.string) (right.slots.map Slot.string)) : onColumn f left = onColumn f right := by
  have leftRows := @columnRows_text ex _ leftText
  have rightRows := @columnRows_text ex _ rightText
  rw [columnRows] at leftRows rightRows
  rw [rowwise.run_eq, rowwise.run_eq, leftRows, rightRows, rows_related related]

end Cap

theorem cap_hides_the_rest :
    (∀ a b, SameUpTo 65536 a b → bound a = bound b ∧ ∀ ex, parse ex a = parse ex b) ∧
    (∀ ex f, f ∈ register ex → ∀ left right : ArrayRef, left.dataType.isText → right.dataType.isText →
      List.Forall₂ (Option.Rel (SameUpTo 65536)) (left.slots.map Slot.string) (right.slots.map Slot.string) →
      onColumn f left = onColumn f right) ∧
    ∀ ua rest, 65536 ≤ ua.utf8ByteSize →
      SameUpTo 65536 ua (ua ++ rest) ∧ bound (ua ++ rest) = bound ua ∧ ∀ ex, parse ex (ua ++ rest) = parse ex ua := by
  rw [← maxInputBytes_eq]
  have alike : ∀ a b, SameUpTo maxInputBytes a b → bound a = bound b ∧ ∀ ex, parse ex a = parse ex b := by
    intro a b same
    refine ⟨?_, ?_⟩
    · rw [bound_eq, bound_eq, same.truncate_eq]
    · intro ex
      rw [parse_eq, parse_eq, parsedAt_congr same]
  refine ⟨alike, ?_, ?_⟩
  · intro ex f member left right leftText rightText related
    obtain ⟨row, _, rowwise⟩ := register_rowwise member
    exact columns_related rowwise leftText rightText related
  · intro ua rest full
    have same := sameUpTo_append full rest
    obtain ⟨bounded, parsed⟩ := alike _ _ same.symm
    exact ⟨same, bounded, parsed⟩

end UserAgentProof
