import Mathlib.Logic.Function.Basic
import UserAgentWorker.Threads.Schedule

namespace Environment

/-- The environment of a process: byte strings, which need not be UTF-8. -/
abbrev Variables := String → Option ByteArray

inductive VarError
  | notPresent
  | notUnicode (raw : ByteArray)

def varOs (env : Variables) (key : String) : Option ByteArray := env key

def setVar (env : Variables) (key value : String) : Variables := Function.update env key (some value.toByteArray)

def var (env : Variables) (key : String) : Except VarError String :=
  match env key with
  | none => .error .notPresent
  | some raw =>
    match String.fromUTF8? raw with
    | some value => .ok value
    | none => .error (.notUnicode raw)

/-- `var(key).unwrap_or_else(|_| fallback)`. -/
def varOr (env : Variables) (key fallback : String) : String :=
  match var env key with
  | .ok value => value
  | .error _ => fallback

def setDefault (env : Variables) (key fallback : String) : Variables :=
  if (varOs env key).isNone then setVar env key fallback else env

section Variables

variable (env : Variables) (key fallback : String)

theorem fromUTF8_toByteArray (s : String) : String.fromUTF8? s.toByteArray = some s := by
  rw [String.fromUTF8?, dif_pos s.isValidUTF8]
  rfl

@[simp] theorem setVar_same (value : String) : setVar env key value key = some value.toByteArray :=
  Function.update_self ..

theorem setVar_other {key other : String} (different : other ≠ key) (value : String) :
    setVar env key value other = env other := Function.update_of_ne different ..

theorem varOr_set (value : String) (set : env key = some value.toByteArray) : varOr env key fallback = value := by
  simp only [varOr, var, set, fromUTF8_toByteArray]

theorem var_congr {left right : Variables} (same : left key = right key) : var left key = var right key := by
  simp only [var, same]

theorem varOr_congr {left right : Variables} (same : left key = right key) :
    varOr left key fallback = varOr right key fallback := by
  rw [varOr, var_congr key same, varOr]

theorem varOr_unset (unset : env key = none) : varOr env key fallback = fallback := by
  simp only [varOr, var, unset]

end Variables

/-- Where a thread stands that sets a default and, if it is to, reads the variable back. -/
inductive Stage
  | testing
  | exporting
  | reading
  | returned (answer : Option String)

structure Defaulting where
  key : String
  fallback : String
  reads : Bool
  stage : Stage

namespace Defaulting

def after (t : Defaulting) (stage : Stage) : Defaulting := { t with stage }

def exported (t : Defaulting) : Defaulting := t.after (if t.reads then .reading else .returned none)

/-- Each step is one access to the environment, which the standard library serialises. -/
def step (env : Variables) (t : Defaulting) : Option (Variables × Defaulting) :=
  match t.stage with
  | .testing => some (env, if (varOs env t.key).isNone then t.after .exporting else t.exported)
  | .exporting => some (setVar env t.key t.fallback, t.exported)
  | .reading => some (env, t.after (.returned (some (varOr env t.key t.fallback))))
  | .returned _ => none

def turnsLeft (t : Defaulting) : Nat :=
  match t.stage with
  | .testing => 3
  | .exporting => 2
  | .reading => 1
  | .returned _ => 0

end Defaulting

section Protocol

variable {before : Variables} {defaults : String → Option String}

/-- A variable is as it was, or it was unset and has its default. -/
def Settled (before : Variables) (defaults : String → Option String) (env : Variables) : Prop :=
  ∀ key, env key = before key ∨
    before key = none ∧ ∃ value, defaults key = some value ∧ env key = some value.toByteArray

/-- What a thread knows at its stage, whatever the others do meanwhile. -/
def Knows (before env : Variables) (t : Defaulting) : Stage → Prop
  | .testing => True
  | .exporting => before t.key = none
  | .reading => t.reads = true ∧ env t.key ≠ none
  | .returned answer =>
    env t.key ≠ none ∧ answer = if t.reads then some (varOr before t.key t.fallback) else none

def Sound (before : Variables) (defaults : String → Option String) (env : Variables) (t : Defaulting) : Prop :=
  defaults t.key = some t.fallback ∧ Knows before env t t.stage

theorem settled_start (before : Variables) : Settled before defaults before := fun _ => .inl rfl

section Settled

variable {env : Variables} {key fallback : String}

theorem Settled.set (settled : Settled before defaults env) (declared : defaults key = some fallback)
    (unset : before key = none) : Settled before defaults (setVar env key fallback) := by
  intro other
  by_cases same : other = key
  · subst same
    exact .inr ⟨unset, fallback, declared, setVar_same env other fallback⟩
  · rw [setVar_other env same]
    exact settled other

theorem Settled.eq_setDefault (settled : Settled before defaults env) (declared : defaults key = some fallback)
    (set : env key ≠ none) : env key = setDefault before key fallback key := by
  rcases settled key with same | ⟨unset, value, listed, exported⟩
  · have kept : (varOs before key).isNone = false := by
      rw [varOs, ← same, Option.isNone_eq_false_iff, Option.isSome_iff_ne_none]
      exact set
    rw [setDefault, kept, same]
    rfl
  · rw [declared, Option.some_inj] at listed
    subst listed
    rw [exported, setDefault, varOs, unset]
    exact (setVar_same before key fallback).symm

theorem varOr_setDefault (before : Variables) (key fallback : String) :
    varOr (setDefault before key fallback) key fallback = varOr before key fallback := by
  cases found : before key with
  | none =>
    rw [varOr_unset before key fallback found, setDefault, varOs, found]
    exact varOr_set _ _ _ _ (setVar_same before key fallback)
  | some raw =>
    rw [setDefault, varOs, found]
    rfl

/-- Whoever reads the variable behind the export reads the same, unless it was set to no UTF-8. -/
theorem var_setDefault {before : Variables} (unicode : ∀ raw, before key = some raw → String.fromUTF8? raw ≠ none) :
    var (setDefault before key fallback) key = .ok (varOr before key fallback) := by
  cases found : before key with
  | none =>
    rw [varOr_unset before key fallback found, setDefault, varOs, found]
    simp only [Option.isNone_none, if_true, var, setVar_same, fromUTF8_toByteArray]
  | some raw =>
    obtain ⟨value, text⟩ := Option.ne_none_iff_exists'.mp (unicode raw found)
    rw [setDefault, varOs, found]
    simp only [Option.isNone_some, Bool.false_eq_true, if_false, varOr, var, found, text]

theorem Settled.varOr_eq (settled : Settled before defaults env) (declared : defaults key = some fallback)
    (set : env key ≠ none) : varOr env key fallback = varOr before key fallback := by
  rw [varOr_congr _ _ (settled.eq_setDefault declared set), varOr_setDefault]

end Settled

theorem exported_sound {env : Variables} {t : Defaulting} (declared : defaults t.key = some t.fallback)
    (set : env t.key ≠ none) : Sound before defaults env t.exported := by
  refine ⟨declared, ?_⟩
  cases reads : t.reads with
  | true =>
    have stage : t.exported = t.after .reading := by simp [Defaulting.exported, reads]
    rw [stage]
    exact ⟨reads, set⟩
  | false =>
    have stage : t.exported = t.after (.returned none) := by simp [Defaulting.exported, reads]
    rw [stage]
    exact ⟨set, by simp [Defaulting.after, reads]⟩

theorem step_sound {env env' : Variables} {t t' : Defaulting} (settled : Settled before defaults env)
    (sound : Sound before defaults env t) (taken : t.step env = some (env', t')) :
    Settled before defaults env' ∧ Sound before defaults env' t' := by
  obtain ⟨declared, knows⟩ := sound
  unfold Defaulting.step at taken
  cases stage : t.stage with
  | testing =>
    simp only [stage, Option.some.injEq, Prod.mk.injEq] at taken
    obtain ⟨same, next⟩ := taken
    subst same
    refine ⟨settled, ?_⟩
    cases found : env t.key with
    | none =>
      simp only [varOs, found, Option.isNone_none, if_true] at next
      subst next
      refine ⟨declared, ?_⟩
      rcases settled t.key with same | ⟨unset, _⟩
      · exact same.symm.trans found
      · exact unset
    | some raw =>
      simp only [varOs, found, Option.isNone_some, Bool.false_eq_true, if_false] at next
      subst next
      exact exported_sound declared (by simp [found])
  | exporting =>
    simp only [stage, Option.some.injEq, Prod.mk.injEq] at taken knows
    obtain ⟨same, next⟩ := taken
    subst same
    subst next
    refine ⟨settled.set declared knows, exported_sound declared ?_⟩
    rw [setVar_same]
    simp
  | reading =>
    simp only [stage, Option.some.injEq, Prod.mk.injEq] at taken knows
    obtain ⟨same, next⟩ := taken
    subst same
    subst next
    refine ⟨settled, declared, knows.2, ?_⟩
    rw [settled.varOr_eq declared knows.2]
    simp [Defaulting.after, knows.1]
  | returned answer =>
    simp only [stage] at taken
    cases taken

theorem step_set {env env' : Variables} {t t' : Defaulting} (taken : t.step env = some (env', t')) {key : String}
    (set : env key ≠ none) : env' key ≠ none := by
  unfold Defaulting.step at taken
  cases stage : t.stage with
  | exporting =>
    simp only [stage, Option.some.injEq, Prod.mk.injEq] at taken
    rw [← taken.1]
    by_cases same : key = t.key
    · subst same
      rw [setVar_same]
      simp
    · rwa [setVar_other env same]
  | returned answer =>
    simp only [stage] at taken
    cases taken
  | _ =>
    simp only [stage, Option.some.injEq, Prod.mk.injEq] at taken
    rwa [← taken.1]

theorem knows_stable {env env' : Variables} {u : Defaulting} (grows : ∀ key, env key ≠ none → env' key ≠ none) :
    ∀ {stage : Stage}, Knows before env u stage → Knows before env' u stage
  | .testing, knows => knows
  | .exporting, knows => knows
  | .reading, knows => ⟨knows.1, grows _ knows.2⟩
  | .returned _, knows => ⟨grows _ knows.1, knows.2⟩

theorem defaults_invariant (before : Variables) (defaults : String → Option String) :
    Threads.Invariant (fun env (t : Defaulting) => t.step env) (Settled before defaults) (Sound before defaults) where
  own _ _ _ _ settled sound taken := step_sound settled sound taken
  stable _ _ _ _ _ _ _ sound taken := ⟨sound.1, knows_stable (fun _ set => step_set taken set) sound.2⟩

end Protocol

section Returning

theorem turnsLeft_shrinks (env : Variables) (t : Defaulting) (env' : Variables) (t' : Defaulting)
    (taken : t.step env = some (env', t')) : t'.turnsLeft < t.turnsLeft := by
  unfold Defaulting.step at taken
  have behind : t.exported.turnsLeft ≤ 1 := by
    unfold Defaulting.exported
    split <;> simp [Defaulting.turnsLeft, Defaulting.after]
  cases stage : t.stage with
  | testing =>
    simp only [stage, Option.some.injEq, Prod.mk.injEq] at taken
    rw [← taken.2]
    split
    · simp [Defaulting.turnsLeft, Defaulting.after, stage]
    · rw [show t.turnsLeft = 3 by simp [Defaulting.turnsLeft, stage]]
      omega
  | exporting =>
    simp only [stage, Option.some.injEq, Prod.mk.injEq] at taken
    rw [← taken.2, show t.turnsLeft = 2 by simp [Defaulting.turnsLeft, stage]]
    omega
  | reading =>
    simp only [stage, Option.some.injEq, Prod.mk.injEq] at taken
    rw [← taken.2]
    simp [Defaulting.turnsLeft, Defaulting.after, stage]
  | returned answer =>
    simp only [stage] at taken
    cases taken

theorem step_eq_none_iff (env : Variables) (t : Defaulting) :
    t.step env = none ↔ ∃ answer, t.stage = .returned answer := by
  unfold Defaulting.step
  cases stage : t.stage with
  | returned answer => simp
  | _ => simp

theorem step_request (env : Variables) (t : Defaulting) (env' : Variables) (t' : Defaulting)
    (taken : t.step env = some (env', t')) : (t'.key, t'.fallback, t'.reads) = (t.key, t.fallback, t.reads) := by
  unfold Defaulting.step at taken
  have kept : ∀ u ∈ [t.exported, t.after .exporting],
      (u.key, u.fallback, u.reads) = (t.key, t.fallback, t.reads) := by
    simp [Defaulting.exported, Defaulting.after]
  cases stage : t.stage with
  | testing =>
    simp only [stage, Option.some.injEq, Prod.mk.injEq] at taken
    rw [← taken.2]
    split
    · exact kept _ (by simp)
    · exact kept _ (by simp)
  | exporting =>
    simp only [stage, Option.some.injEq, Prod.mk.injEq] at taken
    rw [← taken.2]
    exact kept _ (by simp)
  | reading =>
    simp only [stage, Option.some.injEq, Prod.mk.injEq] at taken
    rw [← taken.2]
    rfl
  | returned answer =>
    simp only [stage] at taken
    cases taken

end Returning

end Environment
