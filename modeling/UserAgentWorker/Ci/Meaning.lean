import UserAgentWorker.Ci.Rewriting

namespace UserAgentProof

open Text PreprocessRequire

/-- A runner that has the extensions linked in, and one that installs them from their channels: a signed
    install and load amounts to the gate, and the two agree on every other record. -/
structure Replaces {σ : Type} (linked standalone : List String → σ → σ) : Prop where
  gate : ∀ ext channel, (ext, channel) ∈ channels → ∀ line, Requires line ext → ∀ s,
    standalone ["statement ok", load ext] (standalone ["statement ok", install ext channel] s) = linked [line] s
  other : ∀ record, (∀ line ∈ record, isGate line = false) → ∀ s, standalone record s = linked record s

/-- A gate is a record of its own, and on http nothing of a record follows its `LOAD vgi;`. -/
structure Stands (transport : String) (record : List String) : Prop where
  gate : ∀ line ∈ record, isGate line = true → record = [line]
  load : transport = "http" → ∀ front line back, record = front ++ line :: back →
    matchesLine loadVgi line = true → back = []

section Meaning

variable {σ : Type} (linked standalone : List String → σ → σ) (transport : String)

def runAll (runner : List String → σ → σ) (records : List (List String)) (s : σ) : σ :=
  records.foldl (fun s record => runner record s) s

def loadHttpfs (s : σ) : σ :=
  standalone ["statement ok", load "httpfs"] (standalone ["statement ok", install "httpfs" "core"] s)

/-- On http the extension for it is loaded as soon as vgi is. -/
def withHttpfs (record : List String) (s : σ) : σ :=
  if transport = "http" ∧ record.any hooks = true then loadHttpfs standalone (linked record s) else linked record s

variable {linked standalone} {record : List String}

theorem runAll_append (runner : List String → σ → σ) (front back : List (List String)) (s : σ) :
    runAll runner (front ++ back) s = runAll runner back (runAll runner front s) := List.foldl_append

theorem records_signed : ∀ entry ∈ channels, records (signed entry.1 entry.2) =
    [["statement ok", install entry.1 entry.2], ["statement ok", load entry.1]] := by decide

theorem runAll_injected (lines : List String) (s : σ) :
    runAll standalone (records (lines ++ injected transport)) s =
      if transport = "http" then loadHttpfs standalone (runAll standalone (records lines) s)
      else runAll standalone (records lines) s := by
  rw [injected]
  split
  · rw [records, runs_cut (by decide), ← records, ← records, records_signed ("httpfs", "core") (by decide),
      runAll_append]
    rfl
  · rw [List.append_nil]

theorem records_one (some : record ≠ []) (unbroken : ∀ line ∈ record, (line == "") = false) :
    records record = [record] := runs_word unbroken some

theorem preprocess_plain (plain : ∀ line ∈ record, isGate line = false)
    (quiet : transport = "http" → ∀ line ∈ record, matchesLine loadVgi line = false) :
    preprocess transport record = record := by
  have each : ∀ line ∈ record, rewrite transport line = [line] := by
    intro line member
    cases loads : matchesLine loadVgi line with
    | false => exact rewrite_other transport (plain line member) loads
    | true =>
      have other : transport ≠ "http" := by
        intro http
        rw [quiet http line member] at loads
        cases loads
      rw [rewrite_load transport (plain line member) loads, injected_off other]
  rw [preprocess, List.flatMap_congr each, List.flatMap_singleton']

theorem hooks_of_plain {line : String} (plain : isGate line = false) : hooks line = matchesLine loadVgi line := by
  rw [isGate, Bool.or_eq_false_iff] at plain
  rw [hooks, plain.1, Bool.false_or]

theorem gate_record (replaces : Replaces linked standalone) {line : String} (gate : isGate line = true) (s : σ) :
    runAll standalone (records (preprocess transport [line])) s = withHttpfs linked standalone transport [line] s := by
  obtain ⟨ext, channel, known, requires⟩ := isGate_iff.mp gate
  have one : preprocess transport [line] = rewrite transport line := List.flatMap_singleton _ _
  have loaded : runAll standalone (records (signed ext channel)) s = linked [line] s := by
    rw [records_signed _ known]
    exact replaces.gate ext channel known line requires s
  rw [one, rewrite_gate transport known requires, withHttpfs]
  by_cases vgi : ext = "vgi"
  · subst vgi
    have hook : [line].any hooks = true := by simp [hooks, requireVgi_iff.mpr requires]
    simp only [if_pos, runAll_injected, loaded, hook, and_true]
  · have noHook : [line].any hooks = false := by
      have other : ¬ Requires line "vgi" := fun requires' =>
        vgi (requires_unique known (by decide : ("vgi", "community") ∈ channels) requires requires')
      have noVgi : matchesLine requireVgi line = false := by rwa [← Bool.not_eq_true, requireVgi_iff]
      simp [hooks, gate_not_load requires, noVgi]
    simp only [if_neg vgi, List.append_nil, loaded, noHook, Bool.false_eq_true, and_false, if_false]

theorem load_record (replaces : Replaces linked standalone) (some : record ≠ [])
    (unbroken : ∀ line ∈ record, (line == "") = false) (plain : ∀ line ∈ record, isGate line = false)
    (last : transport = "http" → ∀ front line back, record = front ++ line :: back →
      matchesLine loadVgi line = true → back = []) (s : σ) :
    runAll standalone (records (preprocess transport record)) s = withHttpfs linked standalone transport record s := by
  have alone : runAll standalone (records record) s = linked record s := by
    rw [records_one some unbroken]
    exact replaces.other record plain s
  by_cases quiet : transport = "http" → ∀ line ∈ record, matchesLine loadVgi line = false
  · have noHook : ¬ (transport = "http" ∧ record.any hooks = true) := by
      intro hook
      obtain ⟨line, member, loads⟩ := List.any_eq_true.mp hook.2
      rw [hooks_of_plain (plain line member), quiet hook.1 line member] at loads
      cases loads
    rw [preprocess_plain transport plain quiet, alone, withHttpfs, if_neg noHook]
  · simp only [not_forall, Bool.not_eq_false] at quiet
    obtain ⟨http, line, member, loads⟩ := quiet
    obtain ⟨front, back, cut⟩ := List.append_of_mem member
    have ends := last http front line back cut loads
    subst ends
    have before : ∀ other ∈ front, matchesLine loadVgi other = false := by
      intro other inside
      obtain ⟨front', back', cut'⟩ := List.append_of_mem inside
      rw [Bool.eq_false_iff]
      intro loads'
      have ends := last http front' other (back' ++ [line])
        (by rw [cut, cut', List.append_assoc, List.cons_append]) loads'
      simp at ends
    have hook : record.any hooks = true := by
      rw [List.any_eq_true]
      exact ⟨line, member, by rw [hooks_of_plain (plain line member), loads]⟩
    have untouched : preprocess transport front = front :=
      preprocess_plain transport (fun other inside => plain other (by simp [cut, inside])) fun _ => before
    have printed : preprocess transport record = record ++ injected transport := by
      rw [cut, preprocess, List.flatMap_append, List.flatMap_singleton, ← preprocess, untouched,
        rewrite_load transport (plain line member) loads, List.append_assoc, List.singleton_append]
    rw [printed, runAll_injected, alone, withHttpfs, if_pos http, if_pos ⟨http, hook⟩]

end Meaning

/-- The standalone runner does on the rewritten file what the linking runner does on the original. -/
theorem preprocess_means {σ : Type} (linked standalone : List String → σ → σ) (replaces : Replaces linked standalone)
    (transport : String) (lines : List String) (stands : ∀ record ∈ records lines, Stands transport record) (s : σ) :
    runAll standalone (records (preprocess transport lines)) s =
      runAll (withHttpfs linked standalone transport) (records lines) s := by
  have unbroken : ∀ record ∈ records lines, record ≠ [] ∧ ∀ line ∈ record, (line == "") = false :=
    fun record member => mem_runs member
  rw [records_rewritten]
  generalize records lines = source at stands unbroken
  induction source generalizing s with
  | nil => rfl
  | cons record source ih =>
    simp only [List.mem_cons, forall_eq_or_imp] at stands unbroken
    have first : runAll standalone (records (preprocess transport record)) s =
        withHttpfs linked standalone transport record s := by
      by_cases gate : ∃ line ∈ record, isGate line = true
      · obtain ⟨line, member, gate⟩ := gate
        rw [stands.1.gate line member gate]
        exact gate_record transport replaces gate s
      · have plain : ∀ line ∈ record, isGate line = false := by simpa using gate
        exact load_record transport replaces unbroken.1.1 unbroken.1.2 plain stands.1.load s
    rw [List.flatMap_cons, runAll_append, first, ih _ stands.2 unbroken.2]
    rfl

/-- The extensions loaded so far, by the records of a test whose other statements load none. -/
def standaloneLoads (record : List String) (loaded : List String) : List String :=
  loaded ++ (channels.map Prod.fst).filter fun ext => record == ["statement ok", load ext]

def linkedLoads (record : List String) (loaded : List String) : List String :=
  match record with
  | [line] =>
    if matchesLine requireVgi line then loaded ++ ["vgi"]
    else if matchesLine requireCore line then loaded ++ [field 2 line]
    else loaded
  | _ => standaloneLoads record loaded

theorem standaloneLoads_signed : ∀ entry ∈ channels,
    standaloneLoads ["statement ok", install entry.1 entry.2] [] = [] ∧
      standaloneLoads ["statement ok", load entry.1] [] = [entry.1] := by decide

theorem standaloneLoads_append (record loaded : List String) :
    standaloneLoads record loaded = loaded ++ standaloneLoads record [] := rfl

theorem linkedLoads_gate {ext channel line : String} (known : (ext, channel) ∈ channels) (requires : Requires line ext)
    (loaded : List String) : linkedLoads [line] loaded = loaded ++ [ext] := by
  simp only [linkedLoads]
  by_cases vgi : matchesLine requireVgi line = true
  · have same := requires_unique known (by decide : ("vgi", "community") ∈ channels) requires (requireVgi_iff.mp vgi)
    rw [if_pos vgi, same]
  · have gate : isGate line = true := isGate_iff.mpr ⟨ext, channel, known, requires⟩
    obtain ⟨some, unbroken⟩ := channels_words _ known
    simp only [isGate, vgi, Bool.false_or] at gate
    rw [if_neg vgi, if_pos gate, field_requires requires some unbroken]

theorem loads_replace : Replaces linkedLoads standaloneLoads where
  gate := by
    intro ext channel known line requires loaded
    obtain ⟨installs, loads⟩ := standaloneLoads_signed _ known
    rw [linkedLoads_gate known requires, standaloneLoads_append, loads, standaloneLoads_append, installs,
      List.append_nil]
  other := by
    intro record plain loaded
    unfold linkedLoads
    split
    · next line =>
      have gate := plain line (List.mem_singleton_self line)
      rw [isGate, Bool.or_eq_false_iff] at gate
      rw [gate.1, gate.2, standaloneLoads]
      simp
    · rfl

theorem stands_single (transport line : String) : Stands transport [line] where
  gate := by
    intro other member _
    rw [List.mem_singleton.mp member]
  load := by
    intro _ front other back cut _
    cases front with
    | nil =>
      cases cut
      rfl
    | cons first front => simp at cut

theorem preprocess_means_loads :
    runAll standaloneLoads (records (preprocess "http" ["require vgi", "", "require json"])) [] =
      ["vgi", "httpfs", "json"] := by
  have source : records ["require vgi", "", "require json"] = [["require vgi"], ["require json"]] := by decide
  have stands : ∀ record ∈ records ["require vgi", "", "require json"], Stands "http" record := by
    rw [source]
    simp [stands_single]
  rw [preprocess_means linkedLoads standaloneLoads loads_replace "http" _ stands []]
  decide

end UserAgentProof
