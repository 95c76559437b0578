import UserAgentWorker.Text.Trim

namespace Text

/-- `s.split(sep)`: the pieces between the separators, empty ones kept. -/
def split (sep : Char) (s : String) : List String := (s.toList.splitOn sep).map String.ofList

/-- `pieces.join(sep)`. -/
def join (sep : Char) (pieces : List String) : String := (String.singleton sep).intercalate pieces

section Segments

variable {sep : Char}

@[simp] theorem toList_join (pieces : List String) :
    (join sep pieces).toList = [sep].intercalate (pieces.map String.toList) := by
  simp [join, String.toList_intercalate]

@[simp] theorem join_singleton (piece : String) : join sep [piece] = piece := by
  rw [← String.toList_inj]
  simp

theorem split_of_not_mem {s : String} (absent : sep ∉ s.toList) : split sep s = [s] := by
  rw [split, List.splitOn_eq_singleton absent, List.map_singleton, String.ofList_toList]

theorem split_at {s front back : String} (cut : s.toList = front.toList ++ sep :: back.toList) :
    split sep s = split sep front ++ split sep back := by
  rw [split, cut, List.splitOn_append_cons_self, List.map_append, split, split]

theorem join_cons_cons (piece next : String) (rest : List String) :
    (join sep (piece :: next :: rest)).toList = piece.toList ++ sep :: (join sep (next :: rest)).toList := by
  simp [List.intercalate_cons_cons]

theorem split_join {pieces : List String} (nonempty : pieces ≠ []) :
    split sep (join sep pieces) = pieces.flatMap (split sep) := by
  induction pieces with
  | nil => exact absurd rfl nonempty
  | cons piece rest ih =>
    cases rest with
    | nil => simp
    | cons next rest =>
      rw [split_at (join_cons_cons piece next rest), ih (List.cons_ne_nil _ _), ← List.flatMap_cons]

theorem split_join_of_not_mem {pieces : List String} (nonempty : pieces ≠ [])
    (absent : ∀ piece ∈ pieces, sep ∉ piece.toList) : split sep (join sep pieces) = pieces := by
  rw [split_join nonempty]
  clear nonempty
  induction pieces with
  | nil => rfl
  | cons piece rest ih =>
    rw [List.flatMap_cons, split_of_not_mem (absent piece (by simp)), ih fun next member =>
      absent next (List.mem_cons_of_mem _ member), List.singleton_append]

theorem not_mem_of_mem_split {s piece : String} (member : piece ∈ split sep s) : sep ∉ piece.toList := by
  by_cases present : sep ∈ s.toList
  · obtain ⟨front, back, cut, absent⟩ := List.eq_append_cons_of_mem present
    have pieces : split sep s = split sep (String.ofList front) ++ split sep (String.ofList back) :=
      split_at (by simpa using cut)
    have shorter : back.length < s.toList.length := by simp [cut]; omega
    rw [pieces, split_of_not_mem (by simpa using absent), List.mem_append, List.mem_singleton] at member
    rcases member with same | later
    · subst same
      simpa using absent
    · exact not_mem_of_mem_split later
  · rw [split_of_not_mem present, List.mem_singleton] at member
    subst member
    exact present
termination_by s.toList.length
decreasing_by simpa using shorter

theorem join_first {piece : String} (shown : piece ≠ "") (rest : List String) :
    (join sep (piece :: rest)).toList.head? = piece.toList.head? := by
  have chars : piece.toList ≠ [] := by simpa using shown
  cases rest with
  | nil => rw [join_singleton]
  | cons next rest => rw [join_cons_cons, List.head?_append_of_ne_nil _ chars]

theorem join_last (piece : String) {next : String} {rest : List String}
    (shown : (join sep (next :: rest)).toList ≠ []) :
    (join sep (piece :: next :: rest)).toList.getLast? = (join sep (next :: rest)).toList.getLast? := by
  rw [join_cons_cons, List.getLast?_append_of_ne_nil _ (List.cons_ne_nil _ _), List.getLast?_cons_of_ne_nil shown]

theorem join_trimmed {pieces : List String} (nonempty : pieces ≠ [])
    (each : ∀ piece ∈ pieces, Trimmed piece ∧ ¬ Blank piece) :
    Trimmed (join sep pieces) ∧ ¬ Blank (join sep pieces) := by
  induction pieces with
  | nil => exact absurd rfl nonempty
  | cons piece rest ih =>
    obtain ⟨trimmed, shown⟩ := each piece (by simp)
    cases rest with
    | nil =>
      rw [join_singleton]
      exact ⟨trimmed, shown⟩
    | cons next rest =>
      obtain ⟨later, seen⟩ := ih (List.cons_ne_nil _ _) fun piece member => each piece (List.mem_cons_of_mem _ member)
      have solid : piece ≠ "" := fun empty => shown (empty ▸ blank_empty)
      have tail : (join sep (next :: rest)).toList ≠ [] := by
        intro empty
        apply seen
        rw [Blank, empty]
        simp
      refine ⟨⟨?_, ?_⟩, ?_⟩
      · rw [join_first solid]
        exact trimmed.1
      · rw [join_last piece tail]
        exact later.2
      · intro blank
        apply shown
        intro c member
        apply blank
        rw [join_cons_cons]
        exact List.mem_append_left _ member

theorem join_eq_iff {pieces : List String} {s : String} (nonempty : pieces ≠ []) (absent : sep ∉ s.toList) :
    join sep pieces = s ↔ pieces = [s] := by
  constructor
  · intro same
    cases pieces with
    | nil => exact absurd rfl nonempty
    | cons piece rest =>
      cases rest with
      | nil =>
        rw [join_singleton] at same
        rw [same]
      | cons next rest =>
        have chars := @join_cons_cons sep piece next rest
        rw [same] at chars
        apply absurd _ absent
        rw [chars]
        simp
  · intro same
    rw [same, join_singleton]

/-- Every piece between separators has something to show. -/
def Segmented (sep : Char) (s : String) : Prop := ∀ piece ∈ split sep s, ¬ Blank piece

theorem segmented_join {pieces : List String} (nonempty : pieces ≠ []) :
    Segmented sep (join sep pieces) ↔ ∀ piece ∈ pieces, Segmented sep piece := by
  simp only [Segmented, split_join nonempty, List.mem_flatMap]
  constructor
  · intro all piece member segment inside
    exact all segment ⟨piece, member, inside⟩
  · intro all segment found
    obtain ⟨piece, member, inside⟩ := found
    exact all piece member segment inside

theorem split_empty : split sep "" = [""] := split_of_not_mem (by simp)

/-- A separator at either end, or two in a row, leave an empty piece. -/
theorem Segmented.not_empty_around {s front back : String} (segmented : Segmented sep s)
    (cut : s.toList = front.toList ++ sep :: back.toList) : front ≠ "" ∧ back ≠ "" := by
  constructor
  · intro empty
    subst empty
    refine segmented "" ?_ blank_empty
    rw [split_at cut, split_empty]
    simp
  · intro empty
    subst empty
    refine segmented "" ?_ blank_empty
    rw [split_at cut, split_empty]
    simp

theorem Segmented.not_adjacent {s front back : String} (segmented : Segmented sep s) :
    s.toList ≠ front.toList ++ sep :: sep :: back.toList := by
  intro cut
  have next : s.toList = front.toList ++ sep :: (String.ofList (sep :: back.toList)).toList := by simpa using cut
  have later : (String.ofList (sep :: back.toList)).toList = "".toList ++ sep :: back.toList := by simp
  refine segmented "" ?_ blank_empty
  rw [split_at next, split_at later, split_empty]
  simp

end Segments

end Text
