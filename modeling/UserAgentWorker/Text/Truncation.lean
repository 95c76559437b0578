import Mathlib.Data.Nat.Find
import Mathlib.Order.Bounds.Basic
import UserAgentWorker.Text.Boundary

namespace Text

/-- The longest prefix of whole characters that fits into `cap` bytes. -/
structure Truncation (cap : Nat) (s t : String) : Prop where
  front : ∃ rest, s = t ++ rest
  longest : IsGreatest {index | Boundary s index ∧ index ≤ cap} t.utf8ByteSize

def SameUpTo (cap : Nat) (a b : String) : Prop :=
  a.toByteArray.extract 0 cap = b.toByteArray.extract 0 cap

section Truncation

variable {cap : Nat} {s t : String}

theorem Truncation.fits (cut : Truncation cap s t) : t.utf8ByteSize ≤ cap := cut.longest.1.2

theorem Truncation.bytes (cut : Truncation cap s t) :
    t.toByteArray = s.toByteArray.extract 0 t.utf8ByteSize := by
  obtain ⟨rest, rfl⟩ := cut.front
  rw [String.toByteArray_append, ByteArray.extract_append_eq_left (by simp)]

theorem Truncation.unique {u : String} (left : Truncation cap s t) (right : Truncation cap s u) : t = u := by
  have size := left.longest.unique right.longest
  rw [← String.toByteArray_inj, left.bytes, right.bytes, size]

theorem truncation_whole (short : s.utf8ByteSize ≤ cap) : Truncation cap s s where
  front := ⟨"", by simp⟩
  longest := ⟨⟨boundary_size s, short⟩, fun _ cut => cut.1.le_size⟩

/-- At most three bytes of a character that straddles the cap are given up. -/
theorem Truncation.near_cap (cut : Truncation cap s t) (long : cap < s.utf8ByteSize) :
    cap < t.utf8ByteSize + 4 := by
  obtain ⟨front, c, back, rfl, above, below⟩ := char_at s cap long
  have size := c.utf8Size_le_four
  have bound : front.utf8ByteSize ≤ t.utf8ByteSize :=
    cut.longest.2 ⟨⟨front, String.singleton c ++ back, rfl, rfl⟩, above⟩
  omega

theorem findGreatest_longest (cap : Nat) (s : String) :
    IsGreatest {index | Boundary s index ∧ index ≤ cap}
      (Nat.findGreatest (fun index => isCharBoundary s index = true) cap) := by
  have start : isCharBoundary s 0 = true := (isCharBoundary_iff s 0).mpr (boundary_zero s)
  refine ⟨⟨?_, Nat.findGreatest_le cap⟩, ?_⟩
  · rw [← isCharBoundary_iff]
    exact Nat.findGreatest_spec (P := fun index => isCharBoundary s index = true) (Nat.zero_le cap) start
  · intro index cut
    exact Nat.le_findGreatest cut.2 ((isCharBoundary_iff s index).mpr cut.1)

def truncate (cap : Nat) (s : String) : String :=
  (sliceTo s (Nat.findGreatest (fun index => isCharBoundary s index = true) cap)).getD s

theorem truncate_slice (cap : Nat) (s : String) :
    sliceTo s (Nat.findGreatest (fun index => isCharBoundary s index = true) cap) = some (truncate cap s) ∧
      (truncate cap s).utf8ByteSize = Nat.findGreatest (fun index => isCharBoundary s index = true) cap ∧
      Truncation cap s (truncate cap s) := by
  have longest := findGreatest_longest cap s
  unfold truncate
  generalize Nat.findGreatest (fun index => isCharBoundary s index = true) cap = size at longest ⊢
  obtain ⟨⟨front, back, rfl, rfl⟩, _⟩ := longest.1
  rw [sliceTo_front, Option.getD_some]
  exact ⟨rfl, rfl, ⟨back, rfl⟩, longest⟩

theorem truncate_spec (cap : Nat) (s : String) : Truncation cap s (truncate cap s) := (truncate_slice cap s).2.2

theorem truncate_whole (short : s.utf8ByteSize ≤ cap) : truncate cap s = s :=
  (truncate_spec cap s).unique (truncation_whole short)

theorem truncate_truncate (cap : Nat) (s : String) : truncate cap (truncate cap s) = truncate cap s :=
  truncate_whole (truncate_spec cap s).fits

end Truncation

section Agreement

variable {cap : Nat} {a b t : String}

theorem SameUpTo.symm (same : SameUpTo cap a b) : SameUpTo cap b a := Eq.symm same

theorem SameUpTo.extract (same : SameUpTo cap a b) {index : Nat} (bound : index ≤ cap) :
    a.toByteArray.extract 0 index = b.toByteArray.extract 0 index := by
  have cut := congrArg (fun bytes => bytes.extract 0 index) same
  simpa [ByteArray.extract_extract, Nat.min_eq_left bound] using cut

theorem SameUpTo.size (same : SameUpTo cap a b) :
    min cap a.utf8ByteSize = min cap b.utf8ByteSize := by
  have size := congrArg ByteArray.size same
  simpa [ByteArray.size_extract] using size

theorem SameUpTo.boundary (same : SameUpTo cap a b) {index : Nat} (bound : index ≤ cap)
    (cut : Boundary a index) : Boundary b index := by
  -- The byte at the cap, which `isCharBoundary` looks at, may differ: the valid bytes before it decide.
  have size := same.size
  rw [boundary_iff_valid_bytes] at cut ⊢
  rw [← same.extract bound]
  exact ⟨by omega, cut.2⟩

theorem SameUpTo.truncation (same : SameUpTo cap a b) (cut : Truncation cap a t) : Truncation cap b t := by
  have cuts : {index | Boundary a index ∧ index ≤ cap} = {index | Boundary b index ∧ index ≤ cap} := by
    ext index
    exact ⟨fun h => ⟨same.boundary h.2 h.1, h.2⟩, fun h => ⟨same.symm.boundary h.2 h.1, h.2⟩⟩
  have longest := cut.longest
  rw [cuts] at longest
  obtain ⟨front, back, rfl, size⟩ := longest.1.1
  have equal : t = front := by
    rw [← String.toByteArray_inj, cut.bytes, same.extract cut.fits, size]
    rw [String.toByteArray_append, ByteArray.extract_append_eq_left (by simp)]
  subst equal
  exact ⟨⟨back, rfl⟩, longest⟩

theorem SameUpTo.truncate_eq (same : SameUpTo cap a b) : truncate cap a = truncate cap b :=
  (same.truncation (truncate_spec cap a)).unique (truncate_spec cap b)

theorem sameUpTo_append (full : cap ≤ a.utf8ByteSize) (rest : String) : SameUpTo cap a (a ++ rest) := by
  rw [SameUpTo, String.toByteArray_append, ByteArray.extract_append, String.size_toByteArray,
    Nat.sub_eq_zero_of_le full]
  simp

end Agreement

end Text
