import Mathlib.Order.Bounds.Basic

namespace Text

/-- A byte that starts a character: `(b as i8) >= -0x40`, anything but `10xxxxxx`. -/
def leadByte (b : UInt8) : Bool := b < 128 || 192 ≤ b

def isCharBoundary (s : String) (index : Nat) : Bool :=
  if index = 0 then true
  else if h : index < s.toByteArray.size then leadByte s.toByteArray[index]
  else index = s.toByteArray.size

/-- Byte offsets at which the text falls apart into two texts. -/
def Boundary (s : String) (index : Nat) : Prop :=
  ∃ front back : String, s = front ++ back ∧ index = front.utf8ByteSize

theorem Boundary.le_size {s : String} {index : Nat} (cut : Boundary s index) : index ≤ s.utf8ByteSize := by
  obtain ⟨front, back, rfl, rfl⟩ := cut
  rw [String.utf8ByteSize_append]
  omega

theorem boundary_zero (s : String) : Boundary s 0 := ⟨"", s, by simp, by simp⟩

theorem boundary_size (s : String) : Boundary s s.utf8ByteSize := ⟨s, "", by simp, rfl⟩

theorem leadByte_ofNat (n : Nat) : leadByte (UInt8.ofNat n) = true ↔ n % 256 < 128 ∨ 192 ≤ n % 256 := by
  simp [leadByte, UInt8.lt_iff_toNat_lt, UInt8.le_iff_toNat_le]

theorem leadByte_encoded (c : Char) (i : Nat) (bound : i < (String.utf8EncodeChar c).length) :
    leadByte (String.utf8EncodeChar c)[i] = true ↔ i = 0 := by
  revert bound
  simp only [String.utf8EncodeChar]
  split_ifs with one two three
  all_goals
    intro bound
    rcases i with _ | _ | _ | _ | i
  all_goals first
    | (simp only [List.length_cons, List.length_nil] at bound; omega)
    | (simp only [List.getElem_cons_zero, List.getElem_cons_succ, leadByte_ofNat, iff_true]; omega)

theorem encoded_singleton_size (c : Char) : (String.singleton c).utf8ByteSize = c.utf8Size := by
  simp [← String.size_toByteArray, List.utf8Encode_singleton]

theorem char_at (s : String) (index : Nat) (inside : index < s.utf8ByteSize) :
    ∃ front c back, s = front ++ (String.singleton c ++ back) ∧ front.utf8ByteSize ≤ index ∧
      index < front.utf8ByteSize + c.utf8Size := by
  induction s using String.push_induction with
  | empty => simp at inside
  | push s c ih =>
    by_cases earlier : index < s.utf8ByteSize
    · obtain ⟨front, d, back, split, above, below⟩ := ih earlier
      refine ⟨front, d, back ++ String.singleton c, ?_, above, below⟩
      rw [← String.append_singleton, split, String.append_assoc, String.append_assoc]
    · rw [String.utf8ByteSize_push] at inside
      exact ⟨s, c, "", by simp, by omega, inside⟩

theorem byte_in_char (front back : String) (c : Char) (offset : Nat)
    (bound : offset < (String.utf8EncodeChar c).length)
    (inside : front.utf8ByteSize + offset < (front ++ (String.singleton c ++ back)).toByteArray.size) :
    (front ++ (String.singleton c ++ back)).toByteArray[front.utf8ByteSize + offset] =
      (String.utf8EncodeChar c)[offset] := by
  have size : (String.singleton c).toByteArray.size = c.utf8Size := encoded_singleton_size c
  rw [String.length_utf8EncodeChar] at bound
  simp only [String.toByteArray_append]
  rw [ByteArray.getElem_append_right (by simp)]
  rw [ByteArray.getElem_append_left (by simp only [String.size_toByteArray] at size ⊢; omega)]
  simp [List.utf8Encode_singleton]

theorem boundary_of_leadByte {s : String} {index : Nat} (inside : index < s.toByteArray.size)
    (lead : leadByte s.toByteArray[index] = true) : Boundary s index := by
  obtain ⟨front, c, back, split, above, below⟩ := char_at s index inside
  obtain ⟨offset, rfl⟩ := Nat.exists_eq_add_of_le above
  subst split
  rw [byte_in_char front back c offset (by rw [String.length_utf8EncodeChar]; omega), leadByte_encoded] at lead
  subst lead
  exact ⟨front, String.singleton c ++ back, rfl, rfl⟩

theorem Boundary.leadByte {s : String} {index : Nat} (cut : Boundary s index)
    (inside : index < s.toByteArray.size) : leadByte s.toByteArray[index] = true := by
  obtain ⟨front, back, rfl, rfl⟩ := cut
  have rest : back.toList ≠ [] := by
    intro empty
    have none : back = "" := String.toList_inj.mp (by simpa using empty)
    simp [none] at inside
  obtain ⟨c, tail, chars⟩ := List.exists_cons_of_ne_nil rest
  have head : back = String.singleton c ++ String.ofList tail := by
    apply String.toList_inj.mp
    simp [chars]
  subst head
  have byte := byte_in_char front (String.ofList tail) c 0 (by simp [c.utf8Size_pos]) (by simpa using inside)
  simp only [Nat.add_zero] at byte
  rw [byte, leadByte_encoded]

theorem isCharBoundary_iff (s : String) (index : Nat) : isCharBoundary s index = true ↔ Boundary s index := by
  unfold isCharBoundary
  split
  · next start =>
    subst start
    simp [boundary_zero]
  · split
    · next inside => exact ⟨boundary_of_leadByte inside, fun cut => cut.leadByte inside⟩
    · next outside =>
      simp only [String.size_toByteArray, decide_eq_true_eq] at outside ⊢
      constructor
      · intro last
        subst last
        exact boundary_size s
      · intro cut
        have bound := cut.le_size
        omega

/-- A boundary is an offset whose earlier bytes are themselves valid UTF-8. -/
theorem boundary_iff_valid_bytes (s : String) (index : Nat) :
    Boundary s index ↔ index ≤ s.utf8ByteSize ∧ (s.toByteArray.extract 0 index).IsValidUTF8 := by
  have raw := String.Pos.Raw.isValid_iff_exists_append (s := s) (p := ⟨index⟩)
  have bytes := String.Pos.Raw.isValid_iff_isValidUTF8_extract_zero (s := s) (p := ⟨index⟩)
  simp only [String.Pos.Raw.le_iff, String.byteIdx_rawEndPos, String.Pos.Raw.ext_iff] at raw bytes
  exact raw.symm.trans bytes

/-- `&s[..stop]`, which panics off a character boundary. -/
def sliceTo (s : String) (stop : Nat) : Option String :=
  if cut : isCharBoundary s stop = true then
    some ⟨s.toByteArray.extract 0 stop,
      ((boundary_iff_valid_bytes s stop).mp ((isCharBoundary_iff s stop).mp cut)).2⟩
  else none

theorem sliceTo_front (front back : String) : sliceTo (front ++ back) front.utf8ByteSize = some front := by
  have cut : isCharBoundary (front ++ back) front.utf8ByteSize = true :=
    (isCharBoundary_iff _ _).mpr ⟨front, back, rfl, rfl⟩
  rw [sliceTo, dif_pos cut, Option.some_inj, ← String.toByteArray_inj]
  change (front ++ back).toByteArray.extract 0 front.utf8ByteSize = front.toByteArray
  rw [String.toByteArray_append, ByteArray.extract_append_eq_left (by simp)]

end Text
