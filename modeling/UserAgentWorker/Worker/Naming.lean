import UserAgentWorker.Model.Worker

namespace UserAgentProof

open Environment UserAgentModel

def catalogKey : String := "VGI_WORKER_CATALOG_NAME"

def storageKey : String := "VGI_WORKER_SHARED_STORAGE"

/-- The defaults the worker may export, by variable. -/
def workerDefaults (key : String) : Option String :=
  if key = catalogKey then some "useragent" else if key = storageKey then some "memory" else none

def enter (env : Variables) (entries : List Entry) (schedule : List Nat) : Threads.Config Variables Defaulting :=
  Threads.run (fun env t => t.step env) ⟨env, entries.map Entry.call⟩ schedule

/-- What a thread leaves behind that has returned, whoever ran in between. -/
def Outcome (ex : Externals) (before now : Variables) (answer : Option String) : Entry → Prop
  | .catalogName =>
    ∃ name, answer = some name ∧ name = (catalogName before).1 ∧
      workerNamed ex name = (buildWorker ex before).1 ∧
      now catalogKey = (catalogName before).2 catalogKey ∧
      ((∀ raw, before catalogKey = some raw → String.fromUTF8? raw ≠ none) → var now catalogKey = .ok name)
  | .wasmInit => answer = none ∧ now storageKey = wasmInit before storageKey

section Entries

theorem catalogName_eq (env : Variables) :
    catalogName env = (varOr env catalogKey "useragent", setDefault env catalogKey "useragent") := by
  rw [← varOr_setDefault]
  rfl

theorem entry_declared (entry : Entry) : workerDefaults entry.call.key = some entry.call.fallback := by
  cases entry <;> decide

theorem catalogName_alone (env : Variables) :
    enter env [.catalogName] [0, 0, 0] =
      ⟨(catalogName env).2, [Entry.catalogName.call.after (.returned (some (catalogName env).1))]⟩ := by
  cases found : env "VGI_WORKER_CATALOG_NAME" <;>
    simp [enter, Threads.run, Threads.turn, Entry.call, Defaulting.step, Defaulting.after, Defaulting.exported, varOs,
      found, catalogName]

theorem wasmInit_alone (env : Variables) :
    enter env [.wasmInit] [0, 0] = ⟨wasmInit env, [Entry.wasmInit.call.after (.returned none)]⟩ := by
  cases found : env "VGI_WORKER_SHARED_STORAGE" <;>
    simp [enter, Threads.run, Threads.turn, Entry.call, Defaulting.step, Defaulting.after, Defaulting.exported, varOs,
      found, wasmInit]

end Entries

section Runs

variable (env : Variables) (entries : List Entry) (schedule : List Nat)

theorem enter_holds :
    Threads.Holds (Settled env workerDefaults) (Sound env workerDefaults) (enter env entries schedule) := by
  apply (defaults_invariant env workerDefaults).run
  refine ⟨settled_start env, ?_⟩
  intro t member
  obtain ⟨entry, _, same⟩ := List.mem_map.mp member
  subst same
  refine ⟨entry_declared entry, ?_⟩
  cases entry <;> exact True.intro

theorem enter_thread {i : Nat} {entry : Entry} (there : entries[i]? = some entry) :
    ∃ t, (enter env entries schedule).threads[i]? = some t ∧
      (t.key, t.fallback, t.reads) = (entry.call.key, entry.call.fallback, entry.call.reads) ∧
      (3 ≤ schedule.count i → ∃ answer, t.stage = .returned answer) := by
  have start : (Threads.Config.mk env (entries.map Entry.call)).threads[i]? = some entry.call := by
    rw [List.getElem?_map, there, Option.map_some]
  have stays : ∀ (s : Variables) (t : Defaulting), t.step s = none → ∀ s', t.step s' = none := by
    intro s t idle s'
    rw [step_eq_none_iff] at idle ⊢
    exact idle
  obtain ⟨t, found, request⟩ := Threads.run_thread step_request schedule start
  refine ⟨t, found, request, ?_⟩
  intro turns
  have three : entry.call.turnsLeft = 3 := by cases entry <;> rfl
  obtain ⟨u, found', stuck⟩ := Threads.run_returns turnsLeft_shrinks stays schedule start (three.symm ▸ turns)
  rw [found, Option.some_inj] at found'
  subst found'
  exact (step_eq_none_iff env t).mp (stuck env)

end Runs

theorem outcome_of_sound (ex : Externals) {before now : Variables} {t : Defaulting} {entry : Entry}
    {answer : Option String} (settled : Settled before workerDefaults now)
    (sound : Sound before workerDefaults now t) (returned : t.stage = .returned answer)
    (request : (t.key, t.fallback, t.reads) = (entry.call.key, entry.call.fallback, entry.call.reads)) :
    Outcome ex before now answer entry := by
  obtain ⟨declared, knows⟩ := sound
  rw [returned] at knows
  obtain ⟨set, same⟩ := knows
  have exported := settled.eq_setDefault declared set
  simp only [Prod.mk.injEq] at request
  obtain ⟨key, fallback, reads⟩ := request
  rw [key, fallback] at exported same
  rw [reads] at same
  cases entry with
  | catalogName =>
    refine ⟨(catalogName before).1, ?_, rfl, rfl, ?_, ?_⟩
    · rw [same, catalogName_eq]
      rfl
    · rw [catalogName_eq]
      exact exported
    · intro unicode
      have alike : now catalogKey = setDefault before catalogKey "useragent" catalogKey := exported
      rw [catalogName_eq, var_congr _ alike]
      exact var_setDefault unicode
  | wasmInit => exact ⟨same, exported⟩

/-- However the threads take turns, all of them name the one catalog that the environment asked for. -/
theorem worker_named_once (ex : Externals) (env : Variables) (entries : List Entry) (schedule : List Nat) :
    (∀ i entry, entries[i]? = some entry → ∃ t, (enter env entries schedule).threads[i]? = some t ∧
      (∀ answer, t.stage = .returned answer → Outcome ex env (enter env entries schedule).shared answer entry) ∧
      (3 ≤ schedule.count i → ∃ answer, t.stage = .returned answer)) ∧
    (∀ key, env key ≠ none → (enter env entries schedule).shared key = env key) ∧
    ∀ key, workerDefaults key = none → (enter env entries schedule).shared key = env key := by
  obtain ⟨settled, sound⟩ := enter_holds env entries schedule
  refine ⟨?_, ?_, ?_⟩
  · intro i entry there
    obtain ⟨t, found, request, turns⟩ := enter_thread env entries schedule there
    refine ⟨t, found, ?_, turns⟩
    intro answer returned
    exact outcome_of_sound ex settled (sound t (List.mem_of_getElem? found)) returned request
  · intro key set
    rcases settled key with same | ⟨unset, _⟩
    · exact same
    · exact absurd unset set
  · intro key foreign
    rcases settled key with same | ⟨_, value, declared, _⟩
    · exact same
    · rw [foreign] at declared
      cases declared

end UserAgentProof
