import Mathlib.Algebra.Order.Group.Multiset
import UserAgentWorker.Worker.Calls

namespace UserAgentProof

open Text Arrow UserAgentModel UserAgentProcess Threads

/-- The texts of a column, row by row; only the two text types have any. -/
def columnTexts (col : ArrayRef) : List String := if col.dataType.isText then col.slots.filterMap Slot.string else []

def callTexts (call : Call) : List String :=
  match columnAt call.batch 0 with
  | .ok col => columnTexts col
  | .error _ => []

/-- The texts a call hands to the engine in all, as the cap leaves them. -/
def handed (call : Call) : List String := (callTexts call).map (truncate maxInputBytes)

def textsUpTo (ex : Externals) (col : ArrayRef) (i : Nat) : List String := (List.range i).filterMap (rowText ex col)

def handedSoFar (ex : Externals) (t : Running) : List String :=
  match t.stage with
  | .called => []
  | .looping col _ i => (textsUpTo ex col i).map (truncate maxInputBytes)
  | .returned _ => handed t.call

section Texts

variable {ex : Externals} {col : ArrayRef} {i : Nat} {slot : Slot}

theorem rowText_eq (there : col.slots[i]? = some slot) :
    rowText ex col i = if col.dataType.isText then slot.string else none := by
  have typed := col.typed slot (List.mem_of_getElem? there)
  rw [rowText, textStr_eq ex there]
  by_cases text : col.dataType.isText
  · rw [cellText_text text typed, if_pos text]
  · rw [if_neg text]
    cases absent : slot.isNull with
    | true => rw [cellText_null absent]
    | false => rw [cellText_other text absent]

theorem filterMap_range {α β : Type} (f : α → Option β) (xs : List α) :
    (List.range xs.length).filterMap (fun i => xs[i]?.bind f) = xs.filterMap f := by
  rw [← List.filterMap_filterMap, ← Rows.pick, Rows.pick_range]

theorem textsUpTo_len (ex : Externals) (col : ArrayRef) : textsUpTo ex col col.len = columnTexts col := by
  have each : ∀ i ∈ List.range col.len, rowText ex col i =
      col.slots[i]?.bind fun slot => if col.dataType.isText then slot.string else none := by
    intro i member
    obtain ⟨slot, there⟩ : ∃ slot, col.slots[i]? = some slot :=
      ⟨_, List.getElem?_eq_getElem (List.mem_range.mp member)⟩
    rw [rowText_eq there, there, Option.bind_some]
  rw [textsUpTo, List.filterMap_congr each, ArrayRef.len, filterMap_range, columnTexts]
  split
  · rfl
  · exact List.filterMap_eq_nil_iff.mpr fun slot _ => rfl

theorem textsUpTo_succ (ex : Externals) (col : ArrayRef) (i : Nat) :
    textsUpTo ex col (i + 1) = textsUpTo ex col i ++ (rowText ex col i).toList := by
  rw [textsUpTo, List.range_succ, List.filterMap_append]
  cases found : rowText ex col i <;> simp [textsUpTo, found]

/-- A row fails for the type of its column, so such a column has no texts at all. -/
theorem no_texts_of_error {e : Fault} (inside : i < col.len) (failed : textStr ex col i = .error e) :
    columnTexts col = [] := by
  rw [textStr_eq ex (List.getElem?_eq_getElem inside), cellText_error_iff] at failed
  rw [columnTexts, if_neg failed.1]

theorem callTexts_eq {call : Call} (first : columnAt call.batch 0 = .ok col) : callTexts call = columnTexts col := by
  rw [callTexts, first]

end Texts

section Balance

variable {ex : Externals} {call : Call} {p p' : Process} {stage stage' : Stage call.scalar}

theorem rowTrace_parsed (ex : Externals) (parser : String → Client) (col : ArrayRef) (i : Nat) (p : Process) :
    (rowTrace ex (some parser) col i p).parsed =
      p.parsed ++ (rowText ex col i).toList.map (truncate maxInputBytes) := by
  rw [rowTrace]
  cases rowText ex col i with
  | none => simp
  | some ua => rfl

theorem textStr_error_of_rowAnswer {parser : String → Client} {col : ArrayRef} {i : Nat} {e : Fault}
    (failed : rowAnswer ex (some parser) col i = .error e) : textStr ex col i = .error e := by
  cases read : textStr ex col i with
  | error e' =>
    simp only [rowAnswer, read] at failed
    cases failed
    rfl
  | ok text =>
    cases text with
    | none =>
      simp only [rowAnswer, read] at failed
      cases failed
    | some ua =>
      simp only [rowAnswer, read] at failed
      cases failed

theorem turn_pays (standing : Standing ex (some ex.parser) call stage)
    (turn : Turn ex (some ex.parser) call p stage p' stage') :
    (p'.parsed : Multiset String) + handedSoFar ex ⟨call, stage⟩ = p.parsed + handedSoFar ex ⟨call, stage'⟩ := by
  cases turn with
  | column first => rfl
  | noColumn missing =>
    have none : handed call = [] := by rw [handed, callTexts, missing, List.map_nil]
    simp only [handedSoFar, none]
  | @row col out i found inside read =>
    simp only [handedSoFar, rowTrace_parsed, textsUpTo_succ, List.map_append, Multiset.coe_add, Multiset.coe_eq_coe]
    rw [List.append_assoc]
    exact List.perm_append_comm.append_left _
  | @badRow col out i e inside failed =>
    obtain ⟨first, bound, _⟩ := standing
    rw [columnAt_numRows first] at inside
    have none := no_texts_of_error inside (textStr_error_of_rowAnswer failed)
    have soFar : textsUpTo ex col (i + 1) = [] := by
      rw [← List.sublist_nil, ← none, ← textsUpTo_len ex]
      exact (List.range_sublist.mpr inside).filterMap _
    rw [textsUpTo_succ, List.append_eq_nil_iff] at soFar
    simp only [handedSoFar, rowTrace_parsed, handed, callTexts_eq first, none, soFar, List.map_nil, List.append_nil]
  | @finish col out i done =>
    obtain ⟨first, bound, _⟩ := standing
    rw [columnAt_numRows first] at done
    have last : i = col.len := by omega
    simp only [handedSoFar, handed, callTexts_eq first, last, textsUpTo_len]

theorem coe_flatMap {τ : Type} (texts : τ → List String) (threads : List τ) :
    (threads.map fun t => (texts t : Multiset String)).sum = (threads.flatMap texts : Multiset String) := by
  induction threads with
  | nil => rfl
  | cons t threads ih => rw [List.map_cons, List.sum_cons, ih, List.flatMap_cons, Multiset.coe_add]

theorem serve_balance (ex : Externals) (calls : List Call) (schedule : List Nat) :
    (serve ex (some ex.parser) calls schedule).shared.parsed.Perm
      ((serve ex (some ex.parser) calls schedule).threads.flatMap (handedSoFar ex)) := by
  have pays : ∀ p (t : Running) p' t', Engaged (some ex.parser) p → Standing ex (some ex.parser) t.call t.stage →
      step ex (some ex.parser) p t = some (p', t') →
      (p'.parsed : Multiset String) + handedSoFar ex t = p.parsed + handedSoFar ex t' := by
    intro p t p' t' engaged standing taken
    obtain ⟨stage, same, turn⟩ := step_turn engaged.follows taken
    subst same
    exact turn_pays standing turn
  have balance := calls_invariant.balance pays (opening_holds ex (some ex.parser) calls) schedule
  have before : (opening calls).threads.flatMap (handedSoFar ex) = [] := by
    rw [opening, List.flatMap_map, List.flatMap_eq_nil_iff]
    intro call _
    rfl
  have fresh : (opening calls).shared.parsed = [] := rfl
  rw [coe_flatMap, coe_flatMap, before, fresh, Multiset.coe_add, Multiset.coe_add, List.append_nil, List.nil_append,
    Multiset.coe_eq_coe] at balance
  exact balance

theorem handedSoFar_returned (ex : Externals) {t : Running} (returned : ∃ found, t.stage = .returned found) :
    handedSoFar ex t = handed t.call := by
  obtain ⟨found, stage⟩ := returned
  rw [handedSoFar, stage]

theorem handedSoFar_bound (ex : Externals) {t : Running} {ua : String} (member : ua ∈ handedSoFar ex t) :
    ua.utf8ByteSize ≤ 65536 := by
  have capped : ∀ {texts : List String}, ua ∈ texts.map (truncate maxInputBytes) → ua.utf8ByteSize ≤ 65536 := by
    intro texts listed
    obtain ⟨text, _, same⟩ := List.mem_map.mp listed
    rw [← same, ← maxInputBytes_eq]
    exact (truncate_spec maxInputBytes text).fits
  unfold handedSoFar at member
  split at member
  · cases member
  · exact capped member
  · exact capped member

theorem serve_calls (ex : Externals) (fromBytes : Option (String → Client)) (calls : List Call) (schedule : List Nat) :
    (serve ex fromBytes calls schedule).threads.map Running.call = calls := by
  have kept := Threads.run_keeps (@step_call ex fromBytes) (opening calls) schedule
  rw [serve, kept, opening, List.map_map]
  exact List.map_id calls

theorem Engaged.cell {parser : String → Client} {p : Process} (engaged : Engaged (some parser) p) :
    p.parser = (if p.parsed = [] then .pending else .settled (some parser)) ∧
      p.compiled = if p.parsed = [] then 0 else 1 := by
  rcases engaged with ⟨cell, compiled, parsed⟩ | ⟨cell, compiled, parsed⟩
  · rw [if_pos parsed, if_pos parsed]
    exact ⟨cell, compiled⟩
  · have some : p.parsed ≠ [] := fun none => by cases parsed.mp none
    rw [if_neg some, if_neg some]
    exact ⟨cell, compiled⟩

end Balance

/-- The engine is compiled once, before its first text, and sees every text row of every call exactly once. -/
theorem engine_ledger (ex : Externals) (calls : List Call) (schedule : List Nat) :
    let c := serve ex (some ex.parser) calls schedule
    c.shared.compiled = (if c.shared.parsed = [] then 0 else 1) ∧
      c.shared.parsed.Perm (c.threads.flatMap (handedSoFar ex)) ∧
      (∀ ua ∈ c.shared.parsed, ua.utf8ByteSize ≤ 65536) ∧
      ((∀ t ∈ c.threads, ∃ found, t.stage = .returned found) → c.shared.parsed.Perm (calls.flatMap handed)) := by
  intro c
  have balance := serve_balance ex calls schedule
  refine ⟨?_, balance, ?_, ?_⟩
  · exact (serve_holds ex (some ex.parser) calls schedule).1.cell.2
  · intro ua member
    obtain ⟨t, _, inside⟩ := List.mem_flatMap.mp (balance.mem_iff.mp member)
    exact handedSoFar_bound ex inside
  · intro returned
    have whole : c.threads.flatMap (handedSoFar ex) = calls.flatMap handed := by
      rw [← serve_calls ex (some ex.parser) calls schedule, List.flatMap_map]
      exact List.flatMap_congr fun t member => handedSoFar_returned ex (returned t member)
    exact whole ▸ balance

section Poisoned

variable {ex : Externals} {col : ArrayRef} {i : Nat}

theorem rowAnswer_untouched (untouched : rowText ex col i = none) (left right : Option (String → Client)) :
    rowAnswer ex left col i = rowAnswer ex right col i := by
  rw [rowText] at untouched
  cases read : textStr ex col i with
  | error e => simp only [rowAnswer, read]
  | ok text =>
    rw [read] at untouched
    subst untouched
    simp only [rowAnswer, read]

theorem rowAnswer_poisoned {ua : String} (text : rowText ex col i = some ua) :
    rowAnswer ex none col i = .error .panic := by
  rw [rowText] at text
  cases read : textStr ex col i with
  | error e =>
    rw [read] at text
    cases text
  | ok found =>
    rw [read] at text
    subst text
    simp only [rowAnswer, read]
    rfl

theorem rowAnswer_panics (texts : columnTexts col ≠ []) {e : Fault} (failed : rowAnswer ex none col i = .error e) :
    e = .panic := by
  cases text : rowText ex col i with
  | some ua =>
    rw [rowAnswer_poisoned text] at failed
    cases failed
    rfl
  | none =>
    rw [rowAnswer_untouched text none (some ex.parser)] at failed
    have failed := textStr_error_of_rowAnswer failed
    by_cases inside : i < col.len
    · exact absurd (no_texts_of_error inside failed) texts
    · have outside : col.slots[i]? = none := List.getElem?_eq_none (Nat.le_of_not_lt inside)
      have missing : isNull col i = .error .panic := by rw [isNull, outside]
      rw [textStr, missing] at failed
      cases failed
      rfl

theorem mapM_poisoned (texts : columnTexts col ≠ []) :
    (List.range col.len).mapM (rowAnswer ex none col) = .error .panic := by
  have alike : ∀ i j e e', rowAnswer ex none col i = .error e → rowAnswer ex none col j = .error e' → e = e' := by
    intro i j e e' bad bad'
    rw [rowAnswer_panics texts bad, rowAnswer_panics texts bad']
  rw [Rows.mapM_error_iff alike]
  rw [← textsUpTo_len ex, textsUpTo] at texts
  obtain ⟨ua, member⟩ := List.exists_mem_of_ne_nil _ texts
  obtain ⟨i, inside, text⟩ := List.mem_filterMap.mp member
  exact ⟨i, inside, rowAnswer_poisoned text⟩

theorem mapM_untouched (none : columnTexts col = []) (left right : Option (String → Client)) :
    (List.range col.len).mapM (rowAnswer ex left col) = (List.range col.len).mapM (rowAnswer ex right col) := by
  rw [← textsUpTo_len ex, textsUpTo, List.filterMap_eq_nil_iff] at none
  apply Rows.mapM_congr
  apply List.map_congr_left
  intro i inside
  exact rowAnswer_untouched (none i inside) left right

theorem answer_poisoned (ex : Externals) (call : Call) :
    answer ex none call =
      if callTexts call = [] then (call.scalar.function ex).process call.params call.batch else .error .panic := by
  rw [← answer_works]
  cases first : columnAt call.batch 0 with
  | error e =>
    have none : callTexts call = [] := by rw [callTexts, first]
    rw [if_pos none, answer, answer, answerRows, answerRows, first]
    rfl
  | ok col =>
    rw [callTexts_eq first, answer_of_column first, answer_of_column first]
    split
    · next none => rw [mapM_untouched none]
    · next texts => rw [mapM_poisoned texts]; rfl

end Poisoned

/-- Rules that do not compile fail every call with a text to parse, and no other. -/
theorem poisoned_calls (ex : Externals) (calls : List Call) (schedule : List Nat) :
    (∀ i call, calls[i]? = some call → ∃ t, (serve ex none calls schedule).threads[i]? = some t ∧ t.call = call ∧
      (∀ found, t.stage = .returned found → found =
        if callTexts call = [] then (call.scalar.function ex).process call.params call.batch else .error .panic) ∧
      (call.batch.numRows + 2 ≤ schedule.count i → ∃ found, t.stage = .returned found)) ∧
    (serve ex none calls schedule).shared.parsed = [] ∧ (serve ex none calls schedule).shared.compiled ≤ 1 := by
  refine ⟨?_, ?_⟩
  · intro i call there
    rw [← answer_poisoned]
    exact serve_thread ex none schedule there
  · rcases (serve_holds ex none calls schedule).1 with ⟨_, compiled, parsed⟩ | ⟨_, compiled, parsed⟩
    · exact ⟨parsed, by omega⟩
    · exact ⟨parsed.mpr rfl, by omega⟩

end UserAgentProof
