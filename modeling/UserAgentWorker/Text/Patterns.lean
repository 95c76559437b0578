import Mathlib.Computability.RegularExpressions

namespace Text

open RegularExpression

def literal (s : List Char) : RegularExpression Char := s.foldr (fun c rest => char c * rest) 1

def isBlank (c : Char) : Bool := c == ' ' || c == '\t'

/-- `[ \t]*`. -/
def blanks : RegularExpression Char := (char ' ' + char '\t').star

/-- `[ \t]+`. -/
def gap : RegularExpression Char := (char ' ' + char '\t') * blanks

section Patterns

variable {x : List Char}

theorem mem_mul_iff (P Q : RegularExpression Char) :
    x ∈ (P * Q).matches' ↔ ∃ front ∈ P.matches', ∃ back ∈ Q.matches', front ++ back = x := Language.mem_mul

theorem mem_add_iff (P Q : RegularExpression Char) :
    x ∈ (P + Q).matches' ↔ x ∈ P.matches' ∨ x ∈ Q.matches' := Iff.rfl

theorem mem_char_iff (c : Char) : x ∈ (char c).matches' ↔ x = [c] := Iff.rfl

theorem mem_literal_iff (s : List Char) : x ∈ (literal s).matches' ↔ x = s := by
  induction s generalizing x with
  | nil => exact Language.mem_one x
  | cons c s ih =>
    rw [literal, List.foldr_cons, ← literal, mem_mul_iff]
    simp only [mem_char_iff, ih, exists_eq_left, List.singleton_append]
    exact eq_comm

theorem mem_blank_iff : x ∈ (char ' ' + char '\t').matches' ↔ ∃ c, isBlank c = true ∧ x = [c] := by
  have either : x ∈ (char ' ' + char '\t').matches' ↔ x = [' '] ∨ x = ['\t'] := Iff.rfl
  simp only [either, isBlank, Bool.or_eq_true, beq_iff_eq, or_and_right, exists_or, exists_eq_left]

theorem mem_blanks_iff : x ∈ blanks.matches' ↔ ∀ c ∈ x, isBlank c = true := by
  rw [blanks, matches'_star, Language.mem_kstar]
  constructor
  · intro parts c member
    obtain ⟨pieces, same, each⟩ := parts
    subst same
    obtain ⟨piece, listed, inside⟩ := List.mem_flatten.mp member
    obtain ⟨d, blank, single⟩ := mem_blank_iff.mp (each piece listed)
    rw [single, List.mem_singleton] at inside
    rw [inside]
    exact blank
  · intro all
    refine ⟨x.map fun c => [c], (List.flatMap_singleton' x).symm, ?_⟩
    intro piece listed
    obtain ⟨c, member, same⟩ := List.mem_map.mp listed
    exact mem_blank_iff.mpr ⟨c, all c member, same.symm⟩

theorem mem_gap_iff : x ∈ gap.matches' ↔ x ≠ [] ∧ ∀ c ∈ x, isBlank c = true := by
  rw [gap, mem_mul_iff]
  constructor
  · intro parts
    obtain ⟨front, first, rest, others, same⟩ := parts
    obtain ⟨c, blank, single⟩ := mem_blank_iff.mp first
    have all := mem_blanks_iff.mp others
    subst same
    subst single
    simp only [List.singleton_append, ne_eq, reduceCtorEq, not_false_eq_true, List.mem_cons, forall_eq_or_imp,
      true_and]
    exact ⟨blank, all⟩
  · intro parts
    cases x with
    | nil => exact absurd rfl parts.1
    | cons c rest =>
      have all := parts.2
      simp only [List.mem_cons, forall_eq_or_imp] at all
      exact ⟨[c], mem_blank_iff.mpr ⟨c, all.1, rfl⟩, rest, mem_blanks_iff.mpr all.2, rfl⟩

end Patterns

section Runs

variable {α : Type} {sep : α → Bool} {xs ys : List α}

/-- The maximal runs without a separator. -/
def runs (sep : α → Bool) (xs : List α) : List (List α) := (xs.splitOnP sep).filter fun run => !run.isEmpty

theorem runs_cut {s : α} (between : sep s = true) : runs sep (xs ++ s :: ys) = runs sep xs ++ runs sep ys := by
  rw [runs, List.splitOnP_append_cons xs ys between, List.filter_append, runs, runs]

theorem runs_word (unbroken : ∀ x ∈ xs, sep x = false) (some : xs ≠ []) : runs sep xs = [xs] := by
  rw [runs, List.splitOnP_eq_singleton unbroken]
  simp [some]

theorem runs_seps (all : ∀ x ∈ xs, sep x = true) : runs sep xs = [] := by
  induction xs with
  | nil => rfl
  | cons x xs ih =>
    simp only [List.mem_cons, forall_eq_or_imp] at all
    have cut := @runs_cut α sep [] xs x all.1
    rw [List.nil_append] at cut
    rw [cut, ih all.2]
    rfl

theorem runs_gap {g : List α} (some : g ≠ []) (all : ∀ x ∈ g, sep x = true) :
    runs sep (xs ++ (g ++ ys)) = runs sep xs ++ runs sep ys := by
  induction g generalizing xs with
  | nil => exact absurd rfl some
  | cons x g ih =>
    simp only [List.mem_cons, forall_eq_or_imp] at all
    rw [List.cons_append, runs_cut all.1]
    by_cases last : g = []
    · rw [last, List.nil_append]
    · have rest := @ih [] last all.2
      rw [List.nil_append] at rest
      rw [rest]
      rfl

/-- A list is unbroken, or it is an unbroken front, a separator and the rest. -/
theorem runs_induction {P : List α → Prop} (word : ∀ front, (∀ x ∈ front, sep x = false) → P front)
    (cut : ∀ front s rest, (∀ x ∈ front, sep x = false) → sep s = true → P rest → P (front ++ s :: rest))
    (xs : List α) : P xs := by
  have all : ∀ front : List α, (∀ x ∈ front, sep x = false) → P (front ++ xs) := by
    induction xs with
    | nil =>
      intro front unbroken
      rw [List.append_nil]
      exact word front unbroken
    | cons x xs ih =>
      intro front unbroken
      cases between : sep x with
      | true => exact cut front x xs unbroken between (ih [] (by simp))
      | false =>
        have longer := ih (front ++ [x]) (by simpa [or_imp, forall_and, between] using unbroken)
        rw [List.append_assoc, List.singleton_append] at longer
        exact longer
  exact all [] (by simp)

theorem mem_runs {run : List α} (member : run ∈ runs sep xs) : run ≠ [] ∧ ∀ x ∈ run, sep x = false := by
  have word : ∀ front : List α, (∀ x ∈ front, sep x = false) → run ∈ runs sep front →
      run ≠ [] ∧ ∀ x ∈ run, sep x = false := by
    intro front unbroken listed
    by_cases empty : front = []
    · subst empty
      cases listed
    · rw [runs_word unbroken empty, List.mem_singleton] at listed
      subst listed
      exact ⟨empty, unbroken⟩
  induction xs using @runs_induction α sep with
  | word front unbroken => exact word front unbroken member
  | cut front s rest unbroken between ih =>
    rw [runs_cut between, List.mem_append] at member
    rcases member with listed | listed
    · exact word front unbroken listed
    · exact ih listed

theorem runs_flatMap {f : α → List α} (keeps : ∀ x, sep x = true → f x = [x]) (xs : List α) :
    runs sep (xs.flatMap f) = (runs sep xs).flatMap fun run => runs sep (run.flatMap f) := by
  have word : ∀ front : List α, (∀ x ∈ front, sep x = false) →
      runs sep (front.flatMap f) = (runs sep front).flatMap fun run => runs sep (run.flatMap f) := by
    intro front unbroken
    cases front with
    | nil => rfl
    | cons x front => rw [runs_word unbroken (List.cons_ne_nil x front), List.flatMap_singleton]
  induction xs using @runs_induction α sep with
  | word front unbroken => exact word front unbroken
  | cut front s rest unbroken between ih =>
    rw [List.flatMap_append, List.flatMap_cons, keeps s between, List.singleton_append, runs_cut between,
      runs_cut between, List.flatMap_append, word front unbroken, ih]

end Runs

end Text
