import UserAgentWorker.UserAgent.Normal

namespace UserAgentProof

open Text UserAgentModel

structure WellDotted (s : String) : Prop where
  segments : ∀ piece ∈ split '.' s, ¬ Blank piece
  first : ∀ back, s ≠ "." ++ back
  last : ∀ front, s ≠ front ++ "."
  adjacent : ∀ front back, s ≠ front ++ ".." ++ back

theorem wellDotted_iff (s : String) : WellDotted s ↔ Segmented '.' s := by
  constructor
  · intro dotted
    exact dotted.segments
  · intro segmented
    refine ⟨segmented, ?_, ?_, ?_⟩
    · intro back same
      have cut : s.toList = "".toList ++ '.' :: back.toList := by simp [same]
      exact (segmented.not_empty_around cut).1 rfl
    · intro front same
      have cut : s.toList = front.toList ++ '.' :: "".toList := by simp [same]
      exact (segmented.not_empty_around cut).2 rfl
    · intro front back same
      have cut : s.toList = front.toList ++ '.' :: '.' :: back.toList := by simp [same]
      exact segmented.not_adjacent cut

def VersionsDotted (p : Parsed) : Prop :=
  (∀ s ∈ p.browserVersion, WellDotted s) ∧ ∀ s ∈ p.osVersion, WellDotted s

/-- Where a part has dots of its own, it has something between, before and after them. -/
def SolidParts (parts : List (Option String)) : Prop := ∀ v ∈ presentRun parts, Segmented '.' (trim v)

theorem version_wellDotted_iff {parts : List (Option String)} {s : String} (assembled : version parts = some s) :
    WellDotted s ↔ SolidParts parts := by
  obtain ⟨nonempty, same⟩ := (version_eq_some_iff parts s).mp assembled
  rw [wellDotted_iff, ← same, segmented_join (by simpa using nonempty)]
  simp only [List.mem_map, forall_exists_index, and_imp, forall_apply_eq_imp_iff₂]
  rfl

theorem versionField_dotted_iff (family : String) (parts : List (Option String)) :
    (∀ s ∈ (normFamily family).bind fun _ => version parts, WellDotted s) ↔ (Known family → SolidParts parts) := by
  simp only [Option.mem_def, versionField_eq_some_iff]
  constructor
  · intro good known
    cases assembled : version parts with
    | none =>
      intro v member
      rw [(version_eq_none_iff parts).mp assembled] at member
      cases member
    | some s => exact (version_wellDotted_iff assembled).mp (good s ⟨known, assembled⟩)
  · intro solid s assembled
    exact (version_wellDotted_iff assembled.2).mpr (solid assembled.1)

theorem versions_dotted (ex : Externals) (ua : String) :
    ∃ front p, bound ua = .ok front ∧ parse ex ua = .ok p ∧
      (VersionsDotted p ↔
        (Known (ex.parser front).userAgent.family → SolidParts (browserParts (ex.parser front))) ∧
        (Known (ex.parser front).os.family → SolidParts (osParts (ex.parser front)))) := by
  refine ⟨_, _, bound_eq ua, parse_eq ex ua, ?_⟩
  rw [VersionsDotted, parsedAt, parsedOf_browserVersion, parsedOf_osVersion, versionField_dotted_iff,
    versionField_dotted_iff]

/-- The engine's answer to "FxiOS/17.0.3", whose fourth group captures the dot. -/
def firefoxIos : Client := { unmatched with userAgent := ⟨"Firefox iOS", some "17", some "0", some ".3"⟩ }

theorem captured_dot_doubles : ¬ ∀ ex ua p, parse ex ua = .ok p → VersionsDotted p := by
  intro claim
  have dotted := claim (constantEngine firefoxIos) "FxiOS/17.0.3" _ (parse_constantEngine firefoxIos _)
  have doubled : (parsedOf firefoxIos).browserVersion = some "17.0..3" := by decide
  exact (dotted.1 _ doubled).adjacent "17.0" "3" (by decide)

end UserAgentProof
