import UserAgentWorker.UserAgent.Bound
import UserAgentWorker.UserAgent.Version

namespace UserAgentProof

open Text UserAgentModel

/-- What may leave the worker as a text: something to read, no padding, not the sentinel. -/
structure Displayable (s : String) : Prop where
  nonempty : s ≠ ""
  shown : ¬ Blank s
  trimmed : Trimmed s
  known : s ≠ "Other"

def fields (p : Parsed) : List (Option String) := [p.browser, p.browserVersion, p.os, p.osVersion, p.device, p.brand]

def Normalised (p : Parsed) : Prop := ∀ field ∈ fields p, ∀ s ∈ field, Displayable s

def browserParts (client : Client) : List (Option String) :=
  [client.userAgent.major, client.userAgent.minor, client.userAgent.patch]

def osParts (client : Client) : List (Option String) :=
  [client.os.major, client.os.minor, client.os.patch, client.os.patchMinor]

def Known (family : String) : Prop := trim family ≠ "" ∧ trim family ≠ "Other"

instance (family : String) : Decidable (Known family) := inferInstanceAs (Decidable (_ ∧ _))

/-- No version is the sentinel spelled in one component, and a brand that is shown is ready to show. -/
structure NormalClient (client : Client) : Prop where
  browser : Known client.userAgent.family → (presentRun (browserParts client)).map trim ≠ ["Other"]
  os : Known client.os.family → (presentRun (osParts client)).map trim ≠ ["Other"]
  brand : client.device.family ≠ "Spider" → ∀ s ∈ client.device.brand, ¬ Blank s → Trimmed s ∧ s ≠ "Other"

section Normalisers

theorem displayable_of_trim {s : String} (shown : trim s ≠ "") (known : trim s ≠ "Other") : Displayable (trim s) where
  nonempty := shown
  shown := by
    rw [(trim_trimmed s).blank_iff]
    exact shown
  trimmed := trim_trimmed s
  known := known

theorem normFamily_eq (family : String) :
    normFamily family = if trim family = "" ∨ trim family = "Other" then none else some (trim family) := rfl

theorem normFamily_eq_some_iff (family s : String) :
    normFamily family = some s ↔ trim family = s ∧ s ≠ "" ∧ s ≠ "Other" := by
  by_cases unknown : trim family = "" ∨ trim family = "Other"
  · rw [normFamily_eq, if_pos unknown]
    constructor
    · intro named
      cases named
    · intro named
      obtain ⟨same, shown, known⟩ := named
      subst same
      rcases unknown with empty | sentinel
      · exact absurd empty shown
      · exact absurd sentinel known
  · rw [normFamily_eq, if_neg unknown, Option.some_inj]
    constructor
    · intro same
      subst same
      exact ⟨rfl, fun empty => unknown (.inl empty), fun sentinel => unknown (.inr sentinel)⟩
    · intro named
      exact named.1

theorem normFamily_displayable {family s : String} (named : normFamily family = some s) : Displayable s := by
  obtain ⟨same, shown, known⟩ := (normFamily_eq_some_iff family s).mp named
  subst same
  exact displayable_of_trim shown known

theorem normOpt_eq_some_iff (value : Option String) (s : String) :
    normOpt value = some s ↔ value = some s ∧ ¬ Blank s := by
  cases value with
  | none => simp [normOpt]
  | some v =>
    by_cases blank : Blank v
    · simp only [normOpt, (trim_isEmpty_iff v).mpr blank, Bool.not_true, Bool.false_eq_true, if_false]
      constructor
      · intro none
        cases none
      · intro same
        rw [Option.some_inj] at same
        exact absurd (same.1 ▸ blank) same.2
    · have kept : (trim v).isEmpty = false := by
        rw [Bool.eq_false_iff, ne_eq, trim_isEmpty_iff]
        exact blank
      simp only [normOpt, kept, Bool.not_false, if_true]
      constructor
      · intro same
        rw [Option.some_inj] at same
        subst same
        exact ⟨rfl, blank⟩
      · intro same
        exact same.1

/-- A version is always trimmed and shown; only a lone component can spell the sentinel. -/
theorem version_displayable_iff {parts : List (Option String)} {s : String} (assembled : version parts = some s) :
    Displayable s ↔ (presentRun parts).map trim ≠ ["Other"] := by
  obtain ⟨nonempty, same⟩ := (version_eq_some_iff parts s).mp assembled
  have pieces : (presentRun parts).map trim ≠ [] := by simpa using nonempty
  have each : ∀ piece ∈ (presentRun parts).map trim, Trimmed piece ∧ ¬ Blank piece := by
    intro piece member
    obtain ⟨v, inside, trimmed⟩ := List.mem_map.mp member
    subst trimmed
    exact ⟨trim_trimmed v, fun blank => not_blank_of_mem_presentRun inside ((trim_blank_iff v).mp blank)⟩
  obtain ⟨trimmed, shown⟩ := @join_trimmed '.' _ pieces each
  have known : s = "Other" ↔ (presentRun parts).map trim = ["Other"] := by
    rw [← same]
    exact join_eq_iff pieces (by decide)
  rw [same] at trimmed shown
  constructor
  · intro good sentinel
    exact good.known (known.mpr sentinel)
  · intro other
    refine ⟨?_, shown, trimmed, fun sentinel => other (known.mp sentinel)⟩
    intro empty
    subst empty
    exact shown blank_empty

theorem known_iff (family : String) : Known family ↔ normFamily family ≠ none := by
  rw [Option.ne_none_iff_exists']
  simp only [normFamily_eq_some_iff, Known]
  constructor
  · intro known
    exact ⟨trim family, rfl, known⟩
  · intro named
    obtain ⟨s, same, known⟩ := named
    rw [same]
    exact known

end Normalisers

section Fields

variable (client : Client)

theorem versionField_eq_some_iff (family : String) (parts : List (Option String)) (s : String) :
    ((normFamily family).bind fun _ => version parts) = some s ↔ Known family ∧ version parts = some s := by
  rw [known_iff]
  cases normFamily family with
  | none => simp
  | some name => simp

theorem versionField_normal_iff (family : String) (parts : List (Option String)) :
    (∀ s ∈ (normFamily family).bind fun _ => version parts, Displayable s) ↔
      (Known family → (presentRun parts).map trim ≠ ["Other"]) := by
  simp only [Option.mem_def, versionField_eq_some_iff]
  constructor
  · intro good known sentinel
    cases assembled : version parts with
    | none =>
      rw [(version_eq_none_iff parts).mp assembled] at sentinel
      cases sentinel
    | some s => exact (version_displayable_iff assembled).mp (good s ⟨known, assembled⟩) sentinel
  · intro condition s assembled
    exact (version_displayable_iff assembled.2).mpr (condition assembled.1)

theorem family_normal (family : String) : ∀ s ∈ normFamily family, Displayable s := by
  intro s named
  exact normFamily_displayable named

theorem parsedOf_browser : (parsedOf client).browser = normFamily client.userAgent.family := by
  simp only [parsedOf]

theorem parsedOf_browserVersion :
    (parsedOf client).browserVersion =
      (normFamily client.userAgent.family).bind fun _ => version (browserParts client) := by
  simp only [parsedOf, browserParts]

theorem parsedOf_os : (parsedOf client).os = normFamily client.os.family := by
  simp only [parsedOf]

theorem parsedOf_osVersion :
    (parsedOf client).osVersion = (normFamily client.os.family).bind fun _ => version (osParts client) := by
  simp only [parsedOf, osParts]

theorem parsedOf_bot (bot : client.device.family = "Spider") :
    (parsedOf client).isBot = true ∧ (parsedOf client).device = none ∧ (parsedOf client).brand = none := by
  simp [parsedOf, bot]

theorem parsedOf_other (other : client.device.family ≠ "Spider") :
    (parsedOf client).isBot = false ∧ (parsedOf client).device = normFamily client.device.family ∧
      (parsedOf client).brand = normOpt client.device.brand := by
  simp [parsedOf, other]

theorem device_normal : ∀ s ∈ (parsedOf client).device, Displayable s := by
  by_cases bot : client.device.family = "Spider"
  · rw [(parsedOf_bot client bot).2.1]
    simp
  · rw [(parsedOf_other client bot).2.1]
    exact family_normal client.device.family

theorem brand_normal_iff :
    (∀ s ∈ (parsedOf client).brand, Displayable s) ↔
      (client.device.family ≠ "Spider" → ∀ s ∈ client.device.brand, ¬ Blank s → Trimmed s ∧ s ≠ "Other") := by
  by_cases bot : client.device.family = "Spider"
  · rw [(parsedOf_bot client bot).2.2]
    simp [bot]
  · rw [(parsedOf_other client bot).2.2]
    simp only [Option.mem_def, normOpt_eq_some_iff]
    constructor
    · intro good _ s named shown
      have display := good s ⟨named, shown⟩
      exact ⟨display.trimmed, display.known⟩
    · intro condition s brand
      obtain ⟨trimmed, known⟩ := condition bot s brand.1 brand.2
      refine ⟨?_, brand.2, trimmed, known⟩
      intro empty
      rw [empty] at brand
      exact brand.2 blank_empty

theorem normalised_fields (p : Parsed) :
    Normalised p ↔ (∀ s ∈ p.browser, Displayable s) ∧ (∀ s ∈ p.browserVersion, Displayable s) ∧
      (∀ s ∈ p.os, Displayable s) ∧ (∀ s ∈ p.osVersion, Displayable s) ∧
      (∀ s ∈ p.device, Displayable s) ∧ ∀ s ∈ p.brand, Displayable s := by
  simp only [Normalised, fields, List.forall_mem_cons, List.not_mem_nil, false_implies, implies_true, and_true]

theorem normalised_iff : Normalised (parsedOf client) ↔ NormalClient client := by
  rw [normalised_fields, parsedOf_browser, parsedOf_browserVersion, versionField_normal_iff, parsedOf_os,
    parsedOf_osVersion, versionField_normal_iff, brand_normal_iff]
  constructor
  · intro normal
    obtain ⟨_, browserVersion, _, osVersion, _, brand⟩ := normal
    exact ⟨browserVersion, osVersion, brand⟩
  · intro condition
    exact ⟨family_normal _, condition.browser, family_normal _, condition.os, device_normal client, condition.brand⟩

end Fields

end UserAgentProof
