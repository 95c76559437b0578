import Mathlib.Algebra.BigOperators.Group.List.Basic
import Mathlib.Data.List.Induction

namespace Threads

/-- Threads that take turns on one shared store. -/
structure Config (σ τ : Type) where
  shared : σ
  threads : List τ

section Runs

-- One turn of a thread on the store; `none` for a thread that has returned.
variable {σ τ : Type} (step : σ → τ → Option (σ × τ))

def turn (c : Config σ τ) (i : Nat) : Config σ τ :=
  match c.threads[i]? with
  | none => c
  | some t =>
    match step c.shared t with
    | none => c
    | some (s, t') => ⟨s, c.threads.set i t'⟩

def run (c : Config σ τ) (schedule : List Nat) : Config σ τ := schedule.foldl (turn step) c

variable {step} {c : Config σ τ} {i : Nat}

theorem turn_cases (step : σ → τ → Option (σ × τ)) (c : Config σ τ) (i : Nat) :
    (turn step c i = c ∧ ∀ t, c.threads[i]? = some t → step c.shared t = none) ∨
      ∃ t s t', c.threads[i]? = some t ∧ step c.shared t = some (s, t') ∧
        turn step c i = ⟨s, c.threads.set i t'⟩ := by
  unfold turn
  cases there : c.threads[i]? with
  | none => exact .inl ⟨rfl, fun t same => by cases same⟩
  | some t =>
    cases taken : step c.shared t with
    | none =>
      refine .inl ⟨by simp only [taken], ?_⟩
      intro u same
      cases same
      exact taken
    | some next => exact .inr ⟨t, next.1, next.2, rfl, taken, by simp only [taken]⟩

theorem run_cons (c : Config σ τ) (i : Nat) (schedule : List Nat) :
    run step c (i :: schedule) = run step (turn step c i) schedule := rfl

theorem run_concat (c : Config σ τ) (schedule : List Nat) (i : Nat) :
    run step c (schedule ++ [i]) = turn step (run step c schedule) i := by
  rw [run, List.foldl_append]
  rfl

section Invariant

variable {I : σ → Prop} {J : σ → τ → Prop}

/-- An assertion on the store, one on each thread, and no turn of a thread that breaks another's. -/
structure Invariant (step : σ → τ → Option (σ × τ)) (I : σ → Prop) (J : σ → τ → Prop) : Prop where
  own : ∀ s t s' t', I s → J s t → step s t = some (s', t') → I s' ∧ J s' t'
  stable : ∀ s t s' t' u, I s → J s t → J s u → step s t = some (s', t') → J s' u

def Holds (I : σ → Prop) (J : σ → τ → Prop) (c : Config σ τ) : Prop := I c.shared ∧ ∀ t ∈ c.threads, J c.shared t

theorem Invariant.turn (invariant : Invariant step I J) (holds : Holds I J c) (i : Nat) :
    Holds I J (turn step c i) := by
  obtain ⟨store, each⟩ := holds
  rcases turn_cases step c i with ⟨same, _⟩ | ⟨t, s, t', there, taken, same⟩
  · rw [same]
    exact ⟨store, each⟩
  · have mine := each t (List.mem_of_getElem? there)
    obtain ⟨store', mine'⟩ := invariant.own _ _ _ _ store mine taken
    rw [same]
    refine ⟨store', ?_⟩
    intro u member
    rcases List.mem_or_eq_of_mem_set member with other | new
    · exact invariant.stable _ _ _ _ u store mine (each u other) taken
    · rw [new]
      exact mine'

theorem Invariant.run (invariant : Invariant step I J) (holds : Holds I J c) (schedule : List Nat) :
    Holds I J (run step c schedule) := by
  induction schedule generalizing c with
  | nil => exact holds
  | cons i schedule ih =>
    rw [run_cons]
    exact ih (invariant.turn holds i)

end Invariant

section Frame

variable {κ : Type} {key : τ → κ}

theorem run_keeps (keeps : ∀ s t s' t', step s t = some (s', t') → key t' = key t) (c : Config σ τ)
    (schedule : List Nat) : (run step c schedule).threads.map key = c.threads.map key := by
  induction schedule generalizing c with
  | nil => rfl
  | cons i schedule ih =>
    rw [run_cons, ih]
    rcases turn_cases step c i with ⟨same, _⟩ | ⟨t, s, t', there, taken, same⟩
    · rw [same]
    · obtain ⟨inside, here⟩ := List.getElem?_eq_some_iff.mp there
      rw [same, List.map_set, keeps _ _ _ _ taken, ← here, ← List.getElem_map key]
      · exact List.set_getElem_self _
      · simpa using inside

theorem run_thread (keeps : ∀ s t s' t', step s t = some (s', t') → key t' = key t) (schedule : List Nat) {t : τ}
    (there : c.threads[i]? = some t) : ∃ t', (run step c schedule).threads[i]? = some t' ∧ key t' = key t := by
  have kept := congrArg (fun list => list[i]?) (run_keeps keeps c schedule)
  simp only [List.getElem?_map, there, Option.map_some] at kept
  exact Option.map_eq_some_iff.mp kept

end Frame

section Balance

variable {M : Type} [AddCancelCommMonoid M] {I : σ → Prop} {J : σ → τ → Prop} {store : σ → M} {share : τ → M}

theorem sum_set (share : τ → M) {threads : List τ} {t : τ} (there : threads[i]? = some t) (t' : τ) :
    share t + ((threads.set i t').map share).sum = share t' + (threads.map share).sum := by
  induction threads generalizing i with
  | nil => simp at there
  | cons head tail ih =>
    cases i with
    | zero =>
      rw [List.getElem?_cons_zero, Option.some_inj] at there
      subst there
      simp only [List.set_cons_zero, List.map_cons, List.sum_cons]
      exact add_left_comm _ _ _
    | succ i =>
      rw [List.getElem?_cons_succ] at there
      simp only [List.set_cons_succ, List.map_cons, List.sum_cons]
      rw [add_left_comm, ih there, add_left_comm]

theorem Invariant.balance (invariant : Invariant step I J)
    (pays : ∀ s t s' t', I s → J s t → step s t = some (s', t') → store s' + share t = store s + share t')
    (holds : Holds I J c) (schedule : List Nat) :
    store (Threads.run step c schedule).shared + (c.threads.map share).sum =
      store c.shared + ((Threads.run step c schedule).threads.map share).sum := by
  induction schedule generalizing c with
  | nil => rfl
  | cons i schedule ih =>
    rw [run_cons]
    have later := ih (invariant.turn holds i)
    rcases turn_cases step c i with ⟨same, _⟩ | ⟨t, s, t', there, taken, same⟩
    · rwa [same] at later ⊢
    · have paid := pays _ _ _ _ holds.1 (holds.2 t (List.mem_of_getElem? there)) taken
      have shares := sum_set share there t'
      rw [same] at later ⊢
      generalize (Threads.run step ⟨s, c.threads.set i t'⟩ schedule) = last at later ⊢
      -- The turn adds `share t'` to one side of the balance and `share t` to the other.
      apply add_left_cancel (a := share t')
      calc share t' + (store last.shared + (c.threads.map share).sum)
          = store last.shared + (share t' + (c.threads.map share).sum) := add_left_comm _ _ _
        _ = store last.shared + (share t + ((c.threads.set i t').map share).sum) := by rw [shares]
        _ = share t + (store last.shared + ((c.threads.set i t').map share).sum) := add_left_comm _ _ _
        _ = share t + (store s + (last.threads.map share).sum) := by rw [later]
        _ = store s + share t + (last.threads.map share).sum := by rw [← add_assoc, add_comm (share t)]
        _ = store c.shared + share t' + (last.threads.map share).sum := by rw [paid]
        _ = share t' + (store c.shared + (last.threads.map share).sum) := by
          rw [add_comm (store c.shared), add_assoc]

end Balance

section Progress

variable {size : τ → Nat}

theorem run_size (shrinks : ∀ s t s' t', step s t = some (s', t') → size t' < size t)
    (stays : ∀ s t, step s t = none → ∀ s', step s' t = none) (schedule : List Nat) {t : τ}
    (there : c.threads[i]? = some t) :
    ∃ t', (run step c schedule).threads[i]? = some t' ∧
      ((∀ s, step s t' = none) ∨ size t' + schedule.count i ≤ size t) := by
  induction schedule using List.reverseRecOn with
  | nil => exact ⟨t, there, .inr (by simp)⟩
  | append_singleton schedule j ih =>
    obtain ⟨u, here, left⟩ := ih
    rw [run_concat, List.count_append, List.count_singleton]
    rcases turn_cases step (run step c schedule) j with ⟨same, idle⟩ | ⟨v, s, v', mine, taken, same⟩
    · rw [same]
      refine ⟨u, here, ?_⟩
      by_cases own : j = i
      · subst own
        exact .inl (stays _ u (idle u here))
      · simpa [own] using left
    · rw [same]
      by_cases own : j = i
      · subst own
        rw [here, Option.some_inj] at mine
        subst mine
        have inside := (List.getElem?_eq_some_iff.mp here).1
        refine ⟨v', by simp [inside], .inr ?_⟩
        have smaller := shrinks _ _ _ _ taken
        rcases left with returned | left
        · rw [returned] at taken
          cases taken
        · simp only [beq_self_eq_true, if_true]
          omega
      · refine ⟨u, by simp [own, here], ?_⟩
        simpa [own] using left

theorem run_returns (shrinks : ∀ s t s' t', step s t = some (s', t') → size t' < size t)
    (stays : ∀ s t, step s t = none → ∀ s', step s' t = none) (schedule : List Nat) {t : τ}
    (there : c.threads[i]? = some t) (enough : size t ≤ schedule.count i) :
    ∃ t', (run step c schedule).threads[i]? = some t' ∧ ∀ s, step s t' = none := by
  obtain ⟨t', there', left⟩ := run_size shrinks stays schedule there
  refine ⟨t', there', ?_⟩
  rcases left with returned | left
  · exact returned
  · have empty : size t' = 0 := by omega
    intro s
    cases taken : step s t' with
    | none => rfl
    | some next =>
      have smaller := shrinks s t' next.1 next.2 taken
      omega

end Progress

section Apart

variable {I : σ → Prop} {J : σ → τ → Prop} {apart : τ → Option τ}

def advance (apart : τ → Option τ) (t : τ) : τ := (apart t).getD t

theorem Invariant.turn_apart (own : ∀ s t, I s → J s t → (step s t).map Prod.snd = apart t) (holds : Holds I J c)
    (j : Nat) : (Threads.turn step c j).threads[i]? =
      c.threads[i]?.map (if j = i then advance apart else id) := by
  rcases turn_cases step c j with ⟨same, idle⟩ | ⟨t, s, t', there, taken, same⟩
  · rw [same]
    split
    · next mine =>
      subst mine
      cases there : c.threads[j]? with
      | none => rfl
      | some t =>
        have stuck := own _ t holds.1 (holds.2 t (List.mem_of_getElem? there))
        rw [idle t there, Option.map_none] at stuck
        rw [Option.map_some, advance, ← stuck, Option.getD_none]
    · rw [Option.map_id_fun, id]
  · have moved := own _ t holds.1 (holds.2 t (List.mem_of_getElem? there))
    rw [taken, Option.map_some] at moved
    obtain ⟨inside, _⟩ := List.getElem?_eq_some_iff.mp there
    rw [same, List.getElem?_set]
    split
    · next mine =>
      subst mine
      rw [there, Option.map_some, advance, ← moved, Option.getD_some]
    · rw [Option.map_id_fun, id]

/-- When a turn does to its thread what the thread alone decides, a run does as many of them as it has turns. -/
theorem Invariant.run_apart (invariant : Invariant step I J)
    (own : ∀ s t, I s → J s t → (step s t).map Prod.snd = apart t) (holds : Holds I J c) (schedule : List Nat) :
    (Threads.run step c schedule).threads[i]? =
      c.threads[i]?.map ((advance apart)^[schedule.count i]) := by
  induction schedule generalizing c with
  | nil => rw [Threads.run, List.foldl_nil, List.count_nil, Function.iterate_zero, Option.map_id_fun, id]
  | cons j schedule ih =>
    rw [run_cons, ih (invariant.turn holds j), Invariant.turn_apart own holds, Option.map_map, List.count_cons]
    by_cases mine : j = i
    · rw [if_pos mine, if_pos (beq_iff_eq.mpr mine), Function.iterate_succ]
    · rw [if_neg mine, if_neg (by simpa using mine), Function.comp_id, Nat.add_zero]

theorem Invariant.run_perm (invariant : Invariant step I J)
    (own : ∀ s t, I s → J s t → (step s t).map Prod.snd = apart t) (holds : Holds I J c) {left right : List Nat}
    (same : left.Perm right) : (Threads.run step c left).threads = (Threads.run step c right).threads := by
  apply List.ext_getElem?
  intro i
  rw [invariant.run_apart own holds, invariant.run_apart own holds, same.count_eq]

end Apart

end Runs

end Threads
