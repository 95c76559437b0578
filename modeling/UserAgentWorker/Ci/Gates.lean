import UserAgentWorker.Model.PreprocessRequire

namespace UserAgentProof

open Text PreprocessRequire

/-- The extensions the script knows, each with the channel that signs it. -/
def channels : List (String × String) := [
  ("vgi", "community"),
  ("httpfs", "core"),
  ("json", "core"),
  ("parquet", "core"),
  ("spatial", "core")]

/-- The line asks the runner for an extension, and says nothing else. -/
def Requires (line ext : String) : Prop :=
  ∃ before after, line.toList = "require".toList ++ (before ++ (ext.toList ++ after)) ∧ before ≠ [] ∧
    (∀ c ∈ before, isBlank c = true) ∧ ∀ c ∈ after, isBlank c = true

def isGate (line : String) : Bool := matchesLine requireVgi line || matchesLine requireCore line

/-- The lines that get `httpfs` behind them when the transport is http. -/
def hooks (line : String) : Bool := matchesLine requireVgi line || matchesLine loadVgi line

section Matching

variable {line ext : String}

theorem matchesLine_iff (pattern : RegularExpression Char) :
    matchesLine pattern line = true ↔ line.toList ∈ pattern.matches' :=
  RegularExpression.rmatch_iff_matches' pattern line.toList

theorem requires_iff (words : RegularExpression Char) :
    matchesLine (literal "require".toList * gap * words * blanks) line = true ↔
      ∃ word ∈ words.matches', Requires line (String.ofList word) := by
  rw [matchesLine_iff]
  simp only [mem_mul_iff, Requires]
  constructor
  · intro parts
    obtain ⟨_, ⟨_, ⟨keyword, spelled, before, blank, rfl⟩, word, listed, rfl⟩, after, trailing, same⟩ := parts
    obtain ⟨some, all⟩ := mem_gap_iff.mp blank
    rw [mem_literal_iff] at spelled
    refine ⟨word, listed, before, after, ?_, some, all, mem_blanks_iff.mp trailing⟩
    rw [← same, spelled]
    simp
  · intro parts
    obtain ⟨word, listed, before, after, same, some, all, trailing⟩ := parts
    refine ⟨_, ⟨_, ⟨_, (mem_literal_iff _).mpr rfl, before, mem_gap_iff.mpr ⟨some, all⟩, rfl⟩, word, listed, rfl⟩,
      after, mem_blanks_iff.mpr trailing, ?_⟩
    rw [same]
    simp

theorem requireVgi_iff : matchesLine requireVgi line = true ↔ Requires line "vgi" := by
  rw [requireVgi, requires_iff]
  simp [mem_literal_iff]

theorem requireCore_iff :
    matchesLine requireCore line = true ↔ ∃ ext, (ext, "core") ∈ channels ∧ Requires line ext := by
  rw [requireCore, requires_iff]
  simp only [mem_add_iff, mem_literal_iff, or_and_right, exists_or, exists_eq_left, String.ofList_toList]
  simp [channels, or_assoc]

theorem field_requires (requires : Requires line ext) (some : ext.toList ≠ [])
    (unbroken : ∀ c ∈ ext.toList, isBlank c = false) : field 2 line = ext := by
  obtain ⟨before, after, same, gap, all, trailing⟩ := requires
  have keyword : runs isBlank "require".toList = ["require".toList] := runs_word (by simp [isBlank]) (by simp)
  have word : runs isBlank (ext.toList ++ after) = [ext.toList] := by
    cases after with
    | nil => rw [List.append_nil, runs_word unbroken some]
    | cons c after =>
      simp only [List.mem_cons, forall_eq_or_imp] at trailing
      rw [runs_cut trailing.1, runs_word unbroken some, runs_seps trailing.2, List.append_nil]
  have fields : runs isBlank line.toList = ["require".toList, ext.toList] := by
    rw [same, runs_gap gap all, keyword, word]
    rfl
  rw [field, fields]
  exact String.ofList_toList

theorem channels_words : ∀ entry ∈ channels, entry.1.toList ≠ [] ∧ ∀ c ∈ entry.1.toList, isBlank c = false := by
  simp [channels, isBlank]

theorem requires_unique {other channel channel' : String} (known : (ext, channel) ∈ channels)
    (known' : (other, channel') ∈ channels) (requires : Requires line ext) (requires' : Requires line other) :
    ext = other := by
  obtain ⟨some, unbroken⟩ := channels_words _ known
  obtain ⟨some', unbroken'⟩ := channels_words _ known'
  rw [← field_requires requires some unbroken, field_requires requires' some' unbroken']

theorem isGate_iff : isGate line = true ↔ ∃ ext channel, (ext, channel) ∈ channels ∧ Requires line ext := by
  rw [isGate, Bool.or_eq_true, requireVgi_iff, requireCore_iff]
  constructor
  · intro either
    rcases either with vgi | ⟨ext, known, core⟩
    · exact ⟨"vgi", "community", by decide, vgi⟩
    · exact ⟨ext, "core", known, core⟩
  · intro gate
    obtain ⟨ext, channel, known, requires⟩ := gate
    have either : (ext = "vgi" ∧ channel = "community") ∨ channel = "core" := by
      revert known
      simp only [channels, List.mem_cons, Prod.mk.injEq, List.not_mem_nil, or_false]
      tauto
    rcases either with ⟨vgi, _⟩ | core
    · exact .inl (vgi ▸ requires)
    · exact .inr ⟨ext, core ▸ known, requires⟩

theorem requires_first (requires : Requires line ext) : line.toList.head? = some 'r' := by
  obtain ⟨before, after, same, _⟩ := requires
  rw [same]
  rfl

theorem load_first (loads : matchesLine loadVgi line = true) : line.toList.head? = some 'L' := by
  rw [matchesLine_iff] at loads
  simp only [loadVgi, mem_mul_iff, mem_literal_iff] at loads
  obtain ⟨_, ⟨_, ⟨_, ⟨_, ⟨keyword, spelled, _, _, rfl⟩, _, _, rfl⟩, _, _, rfl⟩, _, _, rfl⟩, _, _, same⟩ := loads
  rw [← same, spelled]
  rfl

theorem gate_not_load (requires : Requires line ext) : matchesLine loadVgi line = false := by
  rw [Bool.eq_false_iff]
  intro loads
  have letters := load_first loads
  rw [requires_first requires] at letters
  revert letters
  decide

end Matching

section Rewriting

variable {line : String} (transport : String)

theorem rewrite_gate {ext channel : String} (known : (ext, channel) ∈ channels) (requires : Requires line ext) :
    rewrite transport line = signed ext channel ++ if ext = "vgi" then injected transport else [] := by
  by_cases vgi : ext = "vgi"
  · subst vgi
    have community : channel = "community" := by
      revert known
      simp [channels]
    rw [rewrite, if_pos (requireVgi_iff.mpr requires), if_pos rfl, community]
  · have core : channel = "core" := by
      revert known
      simp only [channels, List.mem_cons, Prod.mk.injEq, List.not_mem_nil, or_false]
      tauto
    subst core
    have other : ¬ matchesLine requireVgi line = true := by
      rw [requireVgi_iff]
      intro requires'
      exact vgi (requires_unique known (by decide : ("vgi", "community") ∈ channels) requires requires')
    obtain ⟨some, unbroken⟩ := channels_words _ known
    rw [rewrite, if_neg other, gate_not_load requires, if_neg Bool.false_ne_true,
      if_pos (requireCore_iff.mpr ⟨ext, known, requires⟩), field_requires requires some unbroken, if_neg vgi,
      List.append_nil]

theorem rewrite_load (plain : isGate line = false) (load : matchesLine loadVgi line = true) :
    rewrite transport line = line :: injected transport := by
  rw [isGate, Bool.or_eq_false_iff] at plain
  rw [rewrite, plain.1, if_neg Bool.false_ne_true, if_pos load]

theorem rewrite_other (plain : isGate line = false) (other : matchesLine loadVgi line = false) :
    rewrite transport line = [line] := by
  rw [isGate, Bool.or_eq_false_iff] at plain
  rw [rewrite, plain.1, plain.2, other, if_neg Bool.false_ne_true, if_neg Bool.false_ne_true,
    if_neg Bool.false_ne_true]

theorem signed_first : ∀ entry ∈ channels, ∀ line ∈ signed entry.1 entry.2,
    line.toList.head? ≠ some 'r' ∧ (line.toList.head? = some 'L' → line = load entry.1) := by decide

theorem load_matches : ∀ entry ∈ channels, matchesLine loadVgi (load entry.1) = (entry.1 == "vgi") := by decide

theorem isGate_first (letter : line.toList.head? ≠ some 'r') : isGate line = false := by
  rw [Bool.eq_false_iff]
  intro gate
  obtain ⟨ext, channel, _, requires⟩ := isGate_iff.mp gate
  exact letter (requires_first requires)

/-- What the script prints asks for nothing again, and its only `LOAD vgi;` is the one for vgi. -/
theorem signed_plain : ∀ entry ∈ channels, ∀ line ∈ signed entry.1 entry.2,
    isGate line = false ∧ (matchesLine loadVgi line = true ↔ line = load "vgi") := by
  intro entry known line printed
  obtain ⟨letter, loads⟩ := signed_first entry known line printed
  refine ⟨isGate_first letter, ?_⟩
  constructor
  · intro hook
    have same := loads (load_first hook)
    rw [same, load_matches entry known, beq_iff_eq] at hook
    rw [same, hook]
  · intro same
    rw [same, load_matches ("vgi", "community") (by decide)]
    rfl

theorem signed_load : ∀ entry ∈ channels, load "vgi" ∈ signed entry.1 entry.2 → entry.1 = "vgi" := by decide

theorem injected_plain : ∀ line ∈ injected transport, isGate line = false ∧ matchesLine loadVgi line = false := by
  intro line member
  rw [injected] at member
  split at member
  · rcases List.mem_cons.mp member with rfl | printed
    · decide
    · obtain ⟨plain, only⟩ := signed_plain ("httpfs", "core") (by decide) line printed
      refine ⟨plain, ?_⟩
      rw [Bool.eq_false_iff, ne_eq, only]
      intro same
      subst same
      revert printed
      decide
  · cases member

end Rewriting

end UserAgentProof
