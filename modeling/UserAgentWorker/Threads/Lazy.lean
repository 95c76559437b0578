namespace Threads

/-- A cell that is filled on its first use; an initialisation that fails poisons it for good. -/
inductive Lazy (α : Type)
  | pending
  | ready (value : α)
  | poisoned

namespace Lazy

variable {α : Type}

/-- The value, if there is one, and the cell behind the access. Only a pending cell runs the initialiser, and whoever
    comes meanwhile waits for it, so that an access is one step. -/
def force {m : Type → Type} [Monad m] (init : m (Option α)) : Lazy α → m (Option α × Lazy α)
  | .pending => do
    match ← init with
    | some value => return (some value, .ready value)
    | none => return (none, .poisoned)
  | .ready value => return (some value, .ready value)
  | .poisoned => return (none, .poisoned)

def isPending : Lazy α → Bool
  | .pending => true
  | _ => false

def settled : Option α → Lazy α
  | some value => .ready value
  | none => .poisoned

def Follows (outcome : Option α) (cell : Lazy α) : Prop := cell = .pending ∨ cell = settled outcome

theorem force_pending {m : Type → Type} [Monad m] [LawfulMonad m] (init : m (Option α)) :
    force init .pending = (fun value => (value, settled value)) <$> init := by
  rw [force, map_eq_pure_bind]
  apply bind_congr
  intro value
  cases value <;> rfl

theorem force_settled {m : Type → Type} [Monad m] (init : m (Option α)) (outcome : Option α) :
    force init (settled outcome) = pure (outcome, settled outcome) := by
  cases outcome <;> rfl

@[simp] theorem isPending_settled (outcome : Option α) : (settled outcome).isPending = false := by
  cases outcome <;> rfl

end Lazy

end Threads
