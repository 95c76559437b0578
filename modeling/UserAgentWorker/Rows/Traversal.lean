import Mathlib.Data.List.Induction
import Mathlib.Data.List.Perm.Basic

namespace Rows

section Traversal

variable {ε α β : Type} {row : α → Except ε β}

theorem mapM_cons_ok_iff (x : α) (xs : List α) (ys : List β) :
    (x :: xs).mapM row = .ok ys ↔
      ∃ y rest, row x = .ok y ∧ xs.mapM row = .ok rest ∧ ys = y :: rest := by
  rw [List.mapM_cons]
  cases head : row x with
  | error e => simp [bind, Except.bind]
  | ok y =>
    cases tail : xs.mapM row with
    | error e => simp [bind, Except.bind]
    | ok rest =>
      simp only [bind, Except.bind, pure, Except.pure, Except.ok.injEq]
      constructor
      · intro same
        exact ⟨y, rest, rfl, rfl, same.symm⟩
      · intro parts
        obtain ⟨y', rest', first, second, same⟩ := parts
        rw [same, first, second]

theorem mapM_ok_iff (xs : List α) (ys : List β) :
    xs.mapM row = .ok ys ↔ xs.map row = ys.map Except.ok := by
  induction xs generalizing ys with
  | nil =>
    cases ys with
    | nil => simp [pure, Except.pure]
    | cons y ys => simp [pure, Except.pure]
  | cons x xs ih =>
    rw [mapM_cons_ok_iff]
    cases ys with
    | nil => simp
    | cons y ys =>
      simp only [ih, List.map_cons, List.cons.injEq]
      constructor
      · intro parts
        obtain ⟨y', rest, first, second, rfl, rfl⟩ := parts
        exact ⟨first, second⟩
      · intro parts
        exact ⟨y, ys, parts.1, parts.2, rfl, rfl⟩

theorem mapM_getElem {xs : List α} {ys : List β} (success : xs.mapM row = .ok ys) {i : Nat} {x : α}
    (there : xs[i]? = some x) : ∃ y, row x = .ok y ∧ ys[i]? = some y := by
  have each := congrArg (fun list => list[i]?) ((mapM_ok_iff xs ys).mp success)
  simp only [List.getElem?_map, there, Option.map_some] at each
  obtain ⟨y, found, answer⟩ := Option.map_eq_some_iff.mp each.symm
  exact ⟨y, answer.symm, found⟩

theorem mapM_length {xs : List α} {ys : List β} (success : xs.mapM row = .ok ys) :
    ys.length = xs.length := by
  have lengths := congrArg List.length ((mapM_ok_iff xs ys).mp success)
  simpa using lengths.symm

theorem mapM_answer {xs : List α} (answer : α → β) (each : ∀ x ∈ xs, row x = .ok (answer x)) :
    xs.mapM row = .ok (xs.map answer) := by
  rw [mapM_ok_iff, List.map_map]
  exact List.map_congr_left each

theorem mem_of_mapM_error {xs : List α} {e : ε} (failure : xs.mapM row = .error e) :
    ∃ x ∈ xs, row x = .error e := by
  induction xs with
  | nil => simp [pure, Except.pure] at failure
  | cons x xs ih =>
    rw [List.mapM_cons] at failure
    cases head : row x with
    | error e' =>
      simp only [head, bind, Except.bind, Except.error.injEq] at failure
      exact ⟨x, by simp, by rw [head, failure]⟩
    | ok y =>
      cases tail : xs.mapM row with
      | error e' =>
        simp only [head, tail, bind, Except.bind, Except.error.injEq] at failure
        obtain ⟨z, member, bad⟩ := ih (by rw [tail, failure])
        exact ⟨z, List.mem_cons_of_mem x member, bad⟩
      | ok rest => simp [head, tail, bind, Except.bind, pure, Except.pure] at failure

theorem mapM_not_ok {xs : List α} {x : α} {e : ε} (member : x ∈ xs) (bad : row x = .error e) (ys : List β) :
    xs.mapM row ≠ .ok ys := by
  intro success
  have rows := (mapM_ok_iff xs ys).mp success
  have image : row x ∈ ys.map Except.ok := by
    rw [← rows]
    exact List.mem_map_of_mem member
  rw [bad] at image
  simp at image

/-- When every failing row fails alike, the position of the first failure does not show. -/
theorem mapM_error_iff {xs : List α} (alike : ∀ x y e e', row x = .error e → row y = .error e' → e = e') (e : ε) :
    xs.mapM row = .error e ↔ ∃ x ∈ xs, row x = .error e := by
  constructor
  · exact mem_of_mapM_error
  · intro some
    obtain ⟨x, member, bad⟩ := some
    cases whole : xs.mapM row with
    | ok ys => exact absurd whole (mapM_not_ok member bad ys)
    | error e' =>
      obtain ⟨y, _, bad'⟩ := mem_of_mapM_error whole
      rw [alike y x e' e bad' bad]

theorem mapM_congr {γ : Type} {xs : List α} {other : γ → Except ε β} {zs : List γ}
    (same : xs.map row = zs.map other) : xs.mapM row = zs.mapM other := by
  have listed := congrArg (List.mapM id) same
  rw [List.mapM_map, List.mapM_map] at listed
  exact listed

theorem mapM_map_answer {γ : Type} (answer : β → γ) (xs : List α) :
    xs.mapM (fun x => (row x).map answer) = (xs.mapM row).map (List.map answer) := by
  induction xs with
  | nil => rfl
  | cons x xs ih =>
    rw [List.mapM_cons, List.mapM_cons, ih]
    cases row x with
    | error e => rfl
    | ok y =>
      cases xs.mapM row with
      | error e => rfl
      | ok ys => rfl

theorem mapM_flatten (row : α → Except ε β) (pieces : List (List α)) :
    pieces.flatten.mapM row = (pieces.mapM (List.mapM row)).map List.flatten := by
  induction pieces with
  | nil => rfl
  | cons piece pieces ih =>
    rw [List.flatten_cons, List.mapM_append, ih, List.mapM_cons]
    cases piece.mapM row with
    | error e => rfl
    | ok first =>
      cases pieces.mapM (List.mapM row) with
      | error e => rfl
      | ok rest => rfl

end Traversal

section Selection

variable {ε α β : Type} {row : α → Except ε β}

def pick (positions : List Nat) (xs : List α) : List α := positions.filterMap fun i => xs[i]?

theorem pick_map (positions : List Nat) (f : α → β) (xs : List α) :
    pick positions (xs.map f) = (pick positions xs).map f := by
  simp [pick, List.map_filterMap]

theorem pick_range (xs : List α) : pick (List.range xs.length) xs = xs := by
  induction xs using List.reverseRecOn with
  | nil => rfl
  | append_singleton xs x ih =>
    rw [List.length_append, List.length_singleton, List.range_succ]
    simp only [pick, List.filterMap_append] at ih ⊢
    have earlier : (List.range xs.length).filterMap (fun i => (xs ++ [x])[i]?) =
        (List.range xs.length).filterMap (fun i => xs[i]?) := by
      apply List.filterMap_congr
      intro i member
      rw [List.getElem?_append_left (List.mem_range.mp member)]
    rw [earlier, ih]
    simp

theorem pick_perm {positions : List Nat} {xs : List α}
    (all : positions.Perm (List.range xs.length)) : (pick positions xs).Perm xs := by
  have picked := all.filterMap fun i => xs[i]?
  rwa [← pick, ← pick, pick_range] at picked

theorem mapM_pick {positions : List Nat} {xs : List α} (all : positions.Perm (List.range xs.length))
    (alike : ∀ x y e e', row x = .error e → row y = .error e' → e = e') :
    (pick positions xs).mapM row = (xs.mapM row).map (pick positions) := by
  cases whole : xs.mapM row with
  | ok ys =>
    have rows := (mapM_ok_iff xs ys).mp whole
    rw [Except.map, mapM_ok_iff, ← pick_map, rows, pick_map]
  | error e =>
    -- Another failing row may come first now, but it fails with the same error.
    obtain ⟨x, member, bad⟩ := mem_of_mapM_error whole
    rw [Except.map, mapM_error_iff alike]
    exact ⟨x, (pick_perm all).mem_iff.mpr member, bad⟩

theorem mapM_pick_ok {xs : List α} {ys : List β} (success : xs.mapM row = .ok ys) (positions : List Nat) :
    (pick positions xs).mapM row = .ok (pick positions ys) := by
  rw [mapM_ok_iff] at success ⊢
  rw [← pick_map, success, pick_map]

theorem pick_flatten (positions : List Nat) (xs : List α) :
    (positions.map fun i => pick [i] xs).flatten = pick positions xs := by
  have each : ∀ i ∈ positions, pick [i] xs = xs[i]?.toList := by
    intro i _
    cases there : xs[i]? <;> simp [pick, there]
  rw [List.map_congr_left each, pick, List.filterMap_eq_flatMap_toList, List.flatMap_def]

theorem pick_filter (test : α → Bool) (xs : List α) :
    pick ((List.range xs.length).filter fun i => xs[i]?.any test) xs = xs.filter test := by
  have each : ∀ i ∈ List.range xs.length,
      (if xs[i]?.any test = true then xs[i]? else none) = xs[i]?.filter test := by
    intro i _
    cases xs[i]? with
    | none => rfl
    | some x => cases kept : test x <;> simp [Option.filter, kept]
  have whole := congrArg (List.filter test) (pick_range xs)
  rw [pick, List.filter_filterMap] at whole
  rw [pick, List.filterMap_filter, List.filterMap_congr each, whole]

theorem filter_partition (flag : Nat → Option Bool) (positions : List Nat) :
    (positions.filter (fun i => flag i == some false) ++ positions.filter (fun i => flag i == some true) ++
      positions.filter fun i => flag i == none).Perm positions := by
  induction positions with
  | nil => exact .nil
  | cons i positions ih =>
    rcases value : flag i with _ | _ | _
    · simp only [List.filter_cons, value]
      exact List.perm_middle.trans (.cons i ih)
    · simp only [List.filter_cons, value]
      exact .cons i ih
    · simp only [List.filter_cons, value, List.append_assoc]
      rw [List.append_assoc] at ih
      exact List.perm_middle.trans (.cons i ih)

end Selection

section Loop

variable {ε α β σ : Type} {row : α → Except ε β} {step : σ → α → Except ε σ}

/-- A loop whose every turn reads one row and pushes its answer is the traversal, pushed at the end. -/
theorem foldlM_push (push : σ → β → σ) (turn : ∀ s x, step s x = (row x).map (push s)) (s : σ) (xs : List α) :
    xs.foldlM step s = (xs.mapM row).map (List.foldl push s) := by
  induction xs generalizing s with
  | nil => rfl
  | cons x xs ih =>
    rw [List.foldlM_cons, List.mapM_cons, turn]
    cases row x with
    | error e => rfl
    | ok y =>
      simp only [Except.map, bind, Except.bind]
      rw [ih]
      cases xs.mapM row with
      | error e => rfl
      | ok ys => rfl

theorem mapM_range {read : Nat → Except ε β} (xs : List α) (reads : ∀ i x, xs[i]? = some x → read i = row x) :
    (List.range xs.length).mapM read = xs.mapM row := by
  apply mapM_congr
  apply List.ext_getElem
  · simp
  · intro i left right
    rw [List.length_map, List.length_range] at left
    rw [List.getElem_map, List.getElem_map, List.getElem_range]
    exact reads i xs[i] (List.getElem?_eq_getElem left)

theorem mapM_range_succ {read : Nat → Except ε β} {i : Nat} {ys : List β} {y : β}
    (before : (List.range i).mapM read = .ok ys) (next : read i = .ok y) :
    (List.range (i + 1)).mapM read = .ok (ys ++ [y]) := by
  rw [mapM_ok_iff] at before ⊢
  rw [List.range_succ, List.map_append, before, List.map_append, List.map_singleton, next]
  rfl

/-- The first row that fails decides, whatever the rows behind it hold. -/
theorem mapM_range_error {read : Nat → Except ε β} {i n : Nat} {ys : List β} {e : ε}
    (before : (List.range i).mapM read = .ok ys) (bad : read i = .error e) (inside : i < n) :
    (List.range n).mapM read = .error e := by
  obtain ⟨rest, same⟩ := Nat.exists_eq_add_of_lt inside
  have rows : List.range n = List.range i ++ i :: (List.range rest).map (i + 1 + ·) := by
    rw [same, Nat.add_assoc, Nat.add_comm rest 1, ← Nat.add_assoc, List.range_add, List.range_succ]
    simp
  rw [rows, List.mapM_append, before, List.mapM_cons, bad]
  rfl

end Loop

section Stop

variable {ε α β σ : Type} {row : α → Except ε β} {step : σ → α → Except ε σ}

/-- The loop ends with this error in the turn of its `i`-th element. -/
def StopsAt (step : σ → α → Except ε σ) (s : σ) (xs : List α) (i : Nat) (e : ε) : Prop :=
  ∃ x s', xs[i]? = some x ∧ (xs.take i).foldlM step s = .ok s' ∧ step s' x = .error e

theorem stopsAt_zero (s : σ) (x : α) (xs : List α) (e : ε) :
    StopsAt step s (x :: xs) 0 e ↔ step s x = .error e := by
  constructor
  · intro stops
    obtain ⟨y, s', there, start, failed⟩ := stops
    cases there
    cases start
    exact failed
  · intro failed
    exact ⟨x, s, rfl, rfl, failed⟩

theorem stopsAt_succ (s : σ) (x : α) (xs : List α) (i : Nat) (e : ε) :
    StopsAt step s (x :: xs) (i + 1) e ↔ ∃ s', step s x = .ok s' ∧ StopsAt step s' xs i e := by
  unfold StopsAt
  simp only [List.getElem?_cons_succ, List.take_succ_cons, List.foldlM_cons]
  cases head : step s x with
  | error e' => simp [bind, Except.bind]
  | ok s' => simp [bind, Except.bind]

theorem foldlM_error_iff (s : σ) (xs : List α) (e : ε) :
    xs.foldlM step s = .error e ↔ ∃ i, StopsAt step s xs i e := by
  induction xs generalizing s with
  | nil => simp [StopsAt, pure, Except.pure]
  | cons x xs ih =>
    rw [List.foldlM_cons]
    cases head : step s x with
    | error e' =>
      constructor
      · intro failed
        exact ⟨0, (stopsAt_zero s x xs e).mpr (head.trans failed)⟩
      · intro stops
        obtain ⟨i, stops⟩ := stops
        cases i with
        | zero => exact head.symm.trans ((stopsAt_zero s x xs e).mp stops)
        | succ i =>
          obtain ⟨s', taken, _⟩ := (stopsAt_succ s x xs i e).mp stops
          rw [head] at taken
          cases taken
    | ok s' =>
      refine (ih s').trans ?_
      constructor
      · intro stops
        obtain ⟨i, stops⟩ := stops
        exact ⟨i + 1, (stopsAt_succ s x xs i e).mpr ⟨s', head, stops⟩⟩
      · intro stops
        obtain ⟨i, stops⟩ := stops
        cases i with
        | zero =>
          rw [stopsAt_zero, head] at stops
          cases stops
        | succ i =>
          obtain ⟨s'', taken, later⟩ := (stopsAt_succ s x xs i e).mp stops
          rw [head, Except.ok.injEq] at taken
          exact ⟨i, taken ▸ later⟩

/-- A loop that pushes what it reads stops where it cannot read, behind rows that it can. -/
theorem stopsAt_push_iff (push : σ → β → σ) (turn : ∀ s x, step s x = (row x).map (push s)) (s : σ) (xs : List α)
    (i : Nat) (e : ε) :
    StopsAt step s xs i e ↔ ∃ x, xs[i]? = some x ∧ (∃ ys, (xs.take i).mapM row = .ok ys) ∧ row x = .error e := by
  unfold StopsAt
  simp only [foldlM_push push turn, turn]
  constructor
  · intro stops
    obtain ⟨x, s', there, read, failed⟩ := stops
    refine ⟨x, there, ?_, ?_⟩
    · cases reads : (xs.take i).mapM row with
      | ok ys => exact ⟨ys, rfl⟩
      | error e' =>
        rw [reads] at read
        cases read
    · cases last : row x with
      | error e' =>
        rw [last] at failed
        cases failed
        rfl
      | ok y =>
        rw [last] at failed
        cases failed
  · intro stops
    obtain ⟨x, there, ⟨ys, reads⟩, failed⟩ := stops
    refine ⟨x, ys.foldl push s, there, ?_, ?_⟩
    · rw [reads]
      rfl
    · rw [failed]
      rfl

theorem takeWhile_strong_iff {weak strong : α → Bool} (implies : ∀ x, strong x = true → weak x = true) (xs : List α) :
    (∀ x ∈ xs.takeWhile weak, strong x = true) ↔
      ∀ i x, xs[i]? = some x → (∀ y ∈ xs.take i, strong y = true) → strong x = false → weak x = false := by
  induction xs with
  | nil => simp
  | cons x xs ih =>
    cases head : strong x with
    | true =>
      rw [List.takeWhile_cons_of_pos (implies x head), List.forall_mem_cons, ih]
      constructor
      · intro tail i y there before failed
        cases i with
        | zero =>
          cases there
          rw [head] at failed
          cases failed
        | succ i =>
          rw [List.take_succ_cons, List.forall_mem_cons] at before
          exact tail.2 i y there before.2 failed
      · intro tail
        refine ⟨head, ?_⟩
        intro i y there before failed
        refine tail (i + 1) y there ?_ failed
        rw [List.take_succ_cons, List.forall_mem_cons]
        exact ⟨head, before⟩
    | false =>
      constructor
      · intro front i y there before failed
        cases i with
        | zero =>
          cases there
          by_contra kept
          rw [Bool.not_eq_false] at kept
          have strong := front x (by rw [List.takeWhile_cons_of_pos kept]; simp)
          rw [head] at strong
          cases strong
        | succ i =>
          rw [List.take_succ_cons, List.forall_mem_cons, head] at before
          cases before.1
      · intro first y member
        have failed := first 0 x rfl (by simp) head
        rw [List.takeWhile_cons_of_neg (by simp [failed])] at member
        cases member

end Stop

section Guard

variable {ε α β σ : Type} {row : α → Except ε β} {step : σ → α → Except ε σ}

def front (row : α → Except ε β) : List α → List β
  | [] => []
  | x :: xs =>
    match row x with
    | .ok y => y :: front row xs
    | .error _ => []

theorem front_ok {xs : List α} {ys : List β} (success : xs.mapM row = .ok ys) : front row xs = ys := by
  induction xs generalizing ys with
  | nil =>
    cases success
    rfl
  | cons x xs ih =>
    obtain ⟨y, rest, first, second, same⟩ := (mapM_cons_ok_iff x xs ys).mp success
    rw [front, first, same, ih second]

theorem mem_front {xs : List α} {y : β} (member : y ∈ front row xs) : ∃ x ∈ xs, row x = .ok y := by
  induction xs with
  | nil => cases member
  | cons x xs ih =>
    cases head : row x with
    | error e => simp [front, head] at member
    | ok z =>
      simp only [front, head, List.mem_cons] at member
      rcases member with same | later
      · subst same
        exact ⟨x, by simp, head⟩
      · obtain ⟨x', inside, found⟩ := ih later
        exact ⟨x', List.mem_cons_of_mem x inside, found⟩

variable {push : σ → β → σ} {Fits : σ → Prop}

theorem fits_of_foldl (shrinks : ∀ s y, Fits (push s y) → Fits s) (s : σ) (ys : List β)
    (fits : Fits (ys.foldl push s)) : Fits s := by
  induction ys generalizing s with
  | nil => exact fits
  | cons y ys ih => exact shrinks s y (ih (push s y) fits)

/-- A loop that stops with an error once its state has outgrown the room it has. Rows are only ever added, so
    it suffices to look at the state in front of the first row that fails. -/
theorem foldlM_guard [DecidablePred Fits] {full : ε} (shrinks : ∀ s y, Fits (push s y) → Fits s)
    (turn : ∀ s x, Fits s →
      step s x = row x >>= fun y => if Fits (push s y) then .ok (push s y) else .error full)
    {s : σ} (room : Fits s) (xs : List α) :
    xs.foldlM step s =
      if Fits ((front row xs).foldl push s) then (xs.mapM row).map (List.foldl push s) else .error full := by
  induction xs generalizing s with
  | nil => exact (if_pos room).symm
  | cons x xs ih =>
    rw [List.foldlM_cons, List.mapM_cons, turn s x room, front]
    cases row x with
    | error e => exact (if_pos room).symm
    | ok y =>
      simp only [bind, Except.bind, List.foldl_cons]
      by_cases fits : Fits (push s y)
      · simp only [if_pos fits]
        rw [ih fits]
        cases xs.mapM row with
        | error e => rfl
        | ok ys => rfl
      · have outgrown : ¬ Fits ((front row xs).foldl push (push s y)) :=
          fun later => fits (fits_of_foldl shrinks (push s y) _ later)
        rw [if_neg fits]
        exact (if_neg outgrown).symm

end Guard

end Rows
