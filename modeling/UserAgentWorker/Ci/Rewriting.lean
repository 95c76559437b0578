import UserAgentWorker.Ci.Gates

namespace UserAgentProof

open Text PreprocessRequire

/-- The records of a test file lie between its empty lines. -/
def records (lines : List String) : List (List String) := runs (fun line => line == "") lines

section Lines

variable {transport line : String}

theorem rewrite_plain : ∀ printed ∈ rewrite transport line, isGate printed = false := by
  intro printed member
  cases gate : isGate line with
  | true =>
    obtain ⟨ext, channel, known, requires⟩ := isGate_iff.mp gate
    rw [rewrite_gate transport known requires, List.mem_append] at member
    rcases member with member | member
    · exact (signed_plain _ known printed member).1
    · split at member
      · exact (injected_plain transport printed member).1
      · cases member
  | false =>
    cases loads : matchesLine loadVgi line with
    | true =>
      rw [rewrite_load transport gate loads, List.mem_cons] at member
      rcases member with same | member
      · rw [same, gate]
      · exact (injected_plain transport printed member).1
    | false =>
      rw [rewrite_other transport gate loads, List.mem_singleton] at member
      rw [member, gate]

theorem rewrite_nonempty : rewrite transport line ≠ [] := by
  unfold rewrite
  split
  · simp [signed]
  · split
    · simp
    · split <;> simp [signed]

theorem injected_off (other : transport ≠ "http") : injected transport = [] := if_neg other

theorem rewrite_settled (quiet : transport = "http" → hooks line = false) :
    ∀ printed ∈ rewrite transport line, rewrite transport printed = [printed] := by
  intro printed member
  have plain := rewrite_plain printed member
  cases loads : matchesLine loadVgi printed with
  | false => exact rewrite_other transport plain loads
  | true =>
    rw [rewrite_load transport plain loads]
    by_cases http : transport = "http"
    · have noHook := quiet http
      rw [hooks, Bool.or_eq_false_iff] at noHook
      cases gate : isGate line with
      | true =>
        obtain ⟨ext, channel, known, requires⟩ := isGate_iff.mp gate
        have core : ext ≠ "vgi" := by
          intro same
          rw [same, ← requireVgi_iff, noHook.1] at requires
          cases requires
        rw [rewrite_gate transport known requires, if_neg core, List.append_nil] at member
        have vgi := (signed_plain _ known printed member).2.mp loads
        subst vgi
        exact absurd (signed_load _ known member) core
      | false =>
        rw [rewrite_other transport gate noHook.2, List.mem_singleton] at member
        rw [member, noHook.2] at loads
        cases loads
    · rw [injected_off http]

end Lines

section Passes

variable {transport : String} {lines : List String}

theorem length_flatMap {α : Type} {f : α → List α} (some : ∀ x, f x ≠ []) (xs : List α) :
    xs.length ≤ (xs.flatMap f).length := by
  induction xs with
  | nil => simp
  | cons x xs ih =>
    have first := List.length_pos_iff.mpr (some x)
    simp only [List.flatMap_cons, List.length_append, List.length_cons]
    omega

theorem flatMap_fixed {α : Type} {f : α → List α} (some : ∀ x, f x ≠ []) {xs : List α} (fixed : xs.flatMap f = xs) :
    ∀ x ∈ xs, (f x).length = 1 := by
  have lengths := congrArg List.length fixed
  clear fixed
  induction xs with
  | nil => simp
  | cons x xs ih =>
    have first := List.length_pos_iff.mpr (some x)
    have rest := length_flatMap some xs
    simp only [List.flatMap_cons, List.length_append, List.length_cons] at lengths
    simp only [List.mem_cons, forall_eq_or_imp]
    exact ⟨by omega, ih (by omega)⟩

theorem preprocess_settled (quiet : transport = "http" → ∀ line ∈ lines, hooks line = false) :
    preprocess transport (preprocess transport lines) = preprocess transport lines := by
  have each : ∀ printed ∈ preprocess transport lines, rewrite transport printed = [printed] := by
    intro printed member
    obtain ⟨line, listed, inside⟩ := List.mem_flatMap.mp member
    exact rewrite_settled (fun http => quiet http line listed) printed inside
  rw [preprocess, List.flatMap_congr each, List.flatMap_singleton']

/-- On http a hook leaves a `LOAD vgi;` behind, which a second pass takes for a hook again. -/
theorem preprocess_grows {line : String} (member : line ∈ lines) (hook : hooks line = true) :
    preprocess "http" (preprocess "http" lines) ≠ preprocess "http" lines := by
  intro fixed
  obtain ⟨printed, listed, loads⟩ : ∃ printed ∈ rewrite "http" line, matchesLine loadVgi printed = true := by
    cases gate : matchesLine requireVgi line with
    | true =>
      rw [rewrite_gate "http" (by decide : ("vgi", "community") ∈ channels) (requireVgi_iff.mp gate)]
      exact ⟨load "vgi", by decide, by decide⟩
    | false =>
      rw [hooks, gate, Bool.false_or] at hook
      refine ⟨line, ?_, hook⟩
      rw [rewrite, gate, if_neg Bool.false_ne_true, if_pos hook]
      exact List.mem_cons_self
  have one := flatMap_fixed (fun _ => rewrite_nonempty) fixed printed (List.mem_flatMap.mpr ⟨line, member, listed⟩)
  rw [rewrite_load "http" (rewrite_plain printed listed) loads] at one
  revert one
  simp [injected, signed]

theorem preprocess_keeps : (lines.filter fun line => !isGate line).Sublist (preprocess transport lines) := by
  induction lines with
  | nil => exact .slnil
  | cons line lines ih =>
    rw [preprocess, List.flatMap_cons]
    cases gate : isGate line with
    | true =>
      rw [List.filter_cons_of_neg (by simp [gate])]
      exact ih.trans (List.sublist_append_right _ _)
    | false =>
      rw [List.filter_cons_of_pos (by simp [gate])]
      cases loads : matchesLine loadVgi line with
      | true =>
        rw [rewrite_load transport gate loads]
        exact .cons_cons line (ih.trans (List.sublist_append_right _ _))
      | false =>
        rw [rewrite_other transport gate loads]
        exact .cons_cons line ih

theorem records_rewritten :
    records (preprocess transport lines) =
      (records lines).flatMap fun record => records (preprocess transport record) := by
  apply runs_flatMap
  intro line blank
  rw [beq_iff_eq] at blank
  subst blank
  exact rewrite_other transport (by decide) (by decide)

end Passes

/-- One pass takes every gate it knows, keeps the other lines and works record by record; a second pass changes
    the file exactly if the transport is http and there was a line to hook. -/
theorem preprocess_once (transport : String) (lines : List String) :
    (∀ line ∈ preprocess transport lines, isGate line = false) ∧
    (lines.filter fun line => !isGate line).Sublist (preprocess transport lines) ∧
    records (preprocess transport lines) =
      (records lines).flatMap (fun record => records (preprocess transport record)) ∧
    (preprocess transport (preprocess transport lines) = preprocess transport lines ↔
      (transport = "http" → ∀ line ∈ lines, hooks line = false)) := by
  refine ⟨?_, preprocess_keeps, records_rewritten, ?_, preprocess_settled⟩
  · intro line member
    obtain ⟨source, _, inside⟩ := List.mem_flatMap.mp member
    exact rewrite_plain line inside
  · intro fixed http line member
    subst http
    rw [← Bool.not_eq_true]
    intro hook
    exact preprocess_grows member hook fixed

end UserAgentProof
