import UserAgentWorker.Worker.Ledger

namespace UserAgentProof

open Arrow UserAgentModel UserAgentProcess Threads

section Apart

variable (ex : Externals) (fromBytes : Option (String → Client))

def stepApart (t : Running) : Option Running := (step ex fromBytes Process.new t).map Prod.snd

variable {ex fromBytes}

theorem step_apart {p : Process} (follows : p.parser.Follows fromBytes) (t : Running) :
    (step ex fromBytes p t).map Prod.snd = stepApart ex fromBytes t := by
  have fresh : Process.new.parser.Follows fromBytes := .inl rfl
  obtain ⟨call, stage⟩ := t
  unfold stepApart step
  cases stage with
  | called =>
    cases columnAt call.batch 0 <;> rfl
  | looping col out i =>
    simp only [turn_runOn follows, turn_runOn fresh]
    split
    · cases rowAnswer ex fromBytes col i <;> rfl
    · rfl
  | returned found => rfl

theorem serve_perm (ex : Externals) (fromBytes : Option (String → Client)) (calls : List Call) {left right : List Nat}
    (same : left.Perm right) :
    (serve ex fromBytes calls left).threads = (serve ex fromBytes calls right).threads := by
  have own : ∀ p t, Engaged fromBytes p → Standing ex fromBytes t.call t.stage →
      (step ex fromBytes p t).map Prod.snd = stepApart ex fromBytes t := by
    intro p t engaged _
    exact step_apart engaged.follows t
  exact calls_invariant.run_perm own (opening_holds ex fromBytes calls) same

end Apart

/-- The order of the turns shows nowhere but in the order of the engine's texts. -/
theorem interleavings_agree (ex : Externals) (calls : List Call) (left right : List Nat) (same : left.Perm right) :
    (∀ fromBytes, (serve ex fromBytes calls left).threads = (serve ex fromBytes calls right).threads) ∧
    let p := (serve ex (some ex.parser) calls left).shared
    let q := (serve ex (some ex.parser) calls right).shared
    p.parser = q.parser ∧ p.compiled = q.compiled ∧ p.parsed.Perm q.parsed := by
  refine ⟨fun fromBytes => serve_perm ex fromBytes calls same, ?_⟩
  intro p q
  have texts : p.parsed.Perm q.parsed := by
    have mine := serve_balance ex calls left
    rw [serve_perm ex (some ex.parser) calls same] at mine
    exact mine.trans (serve_balance ex calls right).symm
  have empty : p.parsed = [] ↔ q.parsed = [] := by
    rw [← List.length_eq_zero_iff, texts.length_eq, List.length_eq_zero_iff]
  obtain ⟨cell, compiled⟩ := (serve_holds ex (some ex.parser) calls left).1.cell
  obtain ⟨cell', compiled'⟩ := (serve_holds ex (some ex.parser) calls right).1.cell
  refine ⟨?_, ?_, texts⟩
  · rw [cell, cell']
    simp only [p, q] at empty
    simp only [empty]
  · rw [compiled, compiled']
    simp only [p, q] at empty
    simp only [empty]

theorem interleavings_agree_pair :
    let ex := constantEngine unmatched
    let call : Call := ⟨.isBot, ⟨⟨[.new "result" .boolean true]⟩⟩, .single "ua" textColumn⟩
    (serve ex none [call, call] [0, 0, 1, 1]).threads = (serve ex none [call, call] [1, 0, 1, 0]).threads := by
  intro ex call
  exact (interleavings_agree ex [call, call] [0, 0, 1, 1] [1, 0, 1, 0] (by decide)).1 none

end UserAgentProof
