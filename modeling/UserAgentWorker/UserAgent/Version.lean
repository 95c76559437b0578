import UserAgentWorker.Model.UserAgent

namespace UserAgentProof

open Text UserAgentModel

def isPresent (part : Option String) : Bool := part.any fun v => decide (¬ Blank v)

/-- The leading run of present, non-blank parts, as the engine spelled them. -/
def presentRun (parts : List (Option String)) : List String := (parts.takeWhile isPresent).filterMap id

theorem isPresent_iff (v : String) : isPresent (some v) = true ↔ ¬ Blank v := by
  rw [isPresent, Option.any_some, decide_eq_true_iff]

theorem presentRun_present {v : String} (present : ¬ Blank v) (parts : List (Option String)) :
    presentRun (some v :: parts) = v :: presentRun parts := by
  rw [presentRun, List.takeWhile_cons_of_pos ((isPresent_iff v).mpr present)]
  rfl

theorem presentRun_blank {v : String} (blank : Blank v) (parts : List (Option String)) :
    presentRun (some v :: parts) = [] := by
  have absent : ¬ isPresent (some v) = true := fun present => (isPresent_iff v).mp present blank
  rw [presentRun, List.takeWhile_cons_of_neg absent]
  rfl

theorem presentRun_none (parts : List (Option String)) : presentRun (none :: parts) = [] := rfl

theorem not_blank_of_mem_presentRun {parts : List (Option String)} {v : String}
    (member : v ∈ presentRun parts) : ¬ Blank v := by
  obtain ⟨part, taken, same⟩ := List.mem_filterMap.mp member
  have present := List.mem_takeWhile_imp taken
  subst same
  exact (isPresent_iff v).mp present

/-- The accumulator of the loop holds what it started with, then the trimmed run. -/
theorem versionRun_eq (out : List String) (parts : List (Option String)) :
    versionRun out parts = out ++ (presentRun parts).map trim := by
  induction parts generalizing out with
  | nil => simp [versionRun, presentRun]
  | cons part parts ih =>
    cases part with
    | none => simp [versionRun, presentRun_none]
    | some v =>
      by_cases blank : Blank v
      · simp [versionRun, presentRun_blank blank, (trim_isEmpty_iff v).mpr blank]
      · have kept : (trim v).isEmpty = false := by
          rw [Bool.eq_false_iff, ne_eq, trim_isEmpty_iff]
          exact blank
        simp [versionRun, kept, ih, presentRun_present blank]

theorem version_eq (parts : List (Option String)) :
    version parts = if presentRun parts = [] then none else some (join '.' ((presentRun parts).map trim)) := by
  rw [version, versionRun_eq]
  simp

example : version [some "17", some " 0 ", none] = some "17.0" := by decide

example : version [some "17", none, some "3"] = some "17" := by decide

theorem version_eq_none_iff (parts : List (Option String)) : version parts = none ↔ presentRun parts = [] := by
  rw [version_eq]
  split <;> simp_all

theorem version_eq_some_iff (parts : List (Option String)) (s : String) :
    version parts = some s ↔ presentRun parts ≠ [] ∧ join '.' ((presentRun parts).map trim) = s := by
  rw [version_eq]
  split <;> simp_all

theorem presentRun_eq_nil_iff (parts : List (Option String)) :
    presentRun parts = [] ↔ ∀ part ∈ parts.head?, ∀ v ∈ part, Blank v := by
  cases parts with
  | nil => simp [presentRun]
  | cons part parts =>
    cases part with
    | none => simp [presentRun_none]
    | some v =>
      by_cases blank : Blank v
      · simp [presentRun_blank blank, blank]
      · simp [presentRun_present blank, blank]

def DotFree (parts : List (Option String)) : Prop := ∀ v ∈ presentRun parts, '.' ∉ v.toList

theorem split_version {parts : List (Option String)} (dotFree : DotFree parts) {s : String}
    (assembled : version parts = some s) : split '.' s = (presentRun parts).map trim := by
  obtain ⟨nonempty, same⟩ := (version_eq_some_iff parts s).mp assembled
  rw [← same]
  apply split_join_of_not_mem
  · simpa using nonempty
  · intro piece member dot
    obtain ⟨v, inside, trimmed⟩ := List.mem_map.mp member
    subst trimmed
    exact dotFree v inside (mem_of_mem_trim dot)

theorem presentRun_gap (front : List (Option String)) {gap : Option String} (missing : ∀ v ∈ gap, Blank v)
    (tail : List (Option String)) : presentRun (front ++ gap :: tail) = presentRun front := by
  induction front with
  | nil =>
    cases gap with
    | none => rw [List.nil_append, presentRun_none]; rfl
    | some v => rw [List.nil_append, presentRun_blank (missing v rfl)]; rfl
  | cons part front ih =>
    cases part with
    | none => rw [List.cons_append, presentRun_none, presentRun_none]
    | some v =>
      by_cases blank : Blank v
      · rw [List.cons_append, presentRun_blank blank, presentRun_blank blank]
      · rw [List.cons_append, presentRun_present blank, presentRun_present blank, ih]

theorem version_of_presentRun_eq {left right : List (Option String)}
    (same : (presentRun left).map trim = (presentRun right).map trim) : version left = version right := by
  have empty : presentRun left = [] ↔ presentRun right = [] := by
    rw [← List.map_eq_nil_iff (f := trim), same, List.map_eq_nil_iff]
  rw [version_eq, version_eq, same]
  simp only [empty]

theorem version_injective {left right : List (Option String)} (leftFree : DotFree left) (rightFree : DotFree right)
    (same : version left = version right) : (presentRun left).map trim = (presentRun right).map trim := by
  cases assembled : version left with
  | none =>
    have leftEmpty := (version_eq_none_iff left).mp assembled
    have rightEmpty := (version_eq_none_iff right).mp (same ▸ assembled)
    rw [leftEmpty, rightEmpty]
  | some s => rw [← split_version leftFree assembled, ← split_version rightFree (same ▸ assembled)]

theorem version_assembly :
    (∀ parts, version parts = none ↔ parts = [] ∨ ∃ first rest, parts = first :: rest ∧ ∀ v ∈ first, Blank v) ∧
    (∀ parts, version parts ≠ none → DotFree parts →
      ∃ s, version parts = some s ∧ split '.' s = (presentRun parts).map trim) ∧
    (∀ left right, DotFree left → DotFree right →
      (version left = version right ↔ (presentRun left).map trim = (presentRun right).map trim)) ∧
    (∀ front gap tail, (∀ v ∈ gap, Blank v) → version (front ++ gap :: tail) = version front) := by
  refine ⟨?_, ?_, ?_, ?_⟩
  · intro parts
    rw [version_eq_none_iff, presentRun_eq_nil_iff]
    cases parts <;> simp
  · intro parts some dotFree
    obtain ⟨s, assembled⟩ := Option.ne_none_iff_exists'.mp some
    exact ⟨s, assembled, split_version dotFree assembled⟩
  · intro left right leftFree rightFree
    exact ⟨version_injective leftFree rightFree, version_of_presentRun_eq⟩
  · intro front gap tail missing
    apply version_of_presentRun_eq
    rw [presentRun_gap front missing tail]

end UserAgentProof
