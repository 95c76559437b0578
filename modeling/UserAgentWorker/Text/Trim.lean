import Mathlib.Data.List.DropRight
import Mathlib.Data.List.Infix

namespace Text

section Strip

variable {α : Type} (p : α → Bool)

def strip (l : List α) : List α := (l.dropWhile p).rdropWhile p

def Stripped (l : List α) : Prop :=
  (∀ x ∈ l.head?, p x = false) ∧ ∀ x ∈ l.getLast?, p x = false

variable {p} {l : List α}

theorem strip_infix : strip p l <:+: l :=
  (List.rdropWhile_prefix p _).isInfix.trans (List.dropWhile_suffix p).isInfix

theorem strip_eq_nil_iff : strip p l = [] ↔ ∀ x ∈ l, p x = true := by
  rw [strip, List.rdropWhile_eq_nil_iff]
  constructor
  · intro dropped x member
    rw [← List.takeWhile_append_dropWhile (p := p) (l := l), List.mem_append] at member
    rcases member with taken | rest
    · exact List.mem_takeWhile_imp taken
    · exact dropped x rest
  · intro all x member
    exact all x ((List.dropWhile_suffix p).subset member)

theorem strip_stripped : Stripped p (strip p l) := by
  constructor
  · intro x first
    obtain ⟨rest, split⟩ := List.rdropWhile_prefix p (l.dropWhile p)
    have front : x ∈ (l.dropWhile p).head? := by
      rw [Option.mem_def, strip] at first
      rw [Option.mem_def, ← split, List.head?_append, first, Option.some_or]
    have kept := List.head?_dropWhile_not p l
    rw [Option.mem_def.mp front] at kept
    exact kept
  · intro x last
    have nonempty : (l.dropWhile p).rdropWhile p ≠ [] := by
      intro empty
      simp [strip, empty] at last
    have kept := List.rdropWhile_last_not p (l.dropWhile p) nonempty
    rw [Option.mem_def, strip, List.getLast?_eq_some_getLast nonempty, Option.some_inj] at last
    simpa [last] using kept

theorem strip_eq_self_iff : strip p l = l ↔ Stripped p l := by
  constructor
  · intro same
    rw [← same]
    exact strip_stripped
  · intro stripped
    obtain ⟨first, last⟩ := stripped
    have front : l.dropWhile p = l := by
      cases l with
      | nil => rfl
      | cons x xs => exact List.dropWhile_cons_of_neg (by simp [first x rfl])
    rw [strip, front, List.rdropWhile_eq_self_iff]
    intro nonempty
    simp [last _ (List.getLast?_eq_some_getLast nonempty)]

end Strip

/-- `char::is_whitespace`: the Unicode `White_Space` property. -/
def isWhitespace (c : Char) : Bool :=
  let n := c.toNat
  n == 0x20 || (0x09 ≤ n && n ≤ 0x0d) || n == 0x85 || n == 0xa0 || n == 0x1680 ||
    (0x2000 ≤ n && n ≤ 0x200a) || n == 0x2028 || n == 0x2029 || n == 0x202f || n == 0x205f || n == 0x3000

/-- `str::trim`. -/
def trim (s : String) : String := String.ofList (strip isWhitespace s.toList)

/-- Nothing but whitespace, the empty text included. -/
def Blank (s : String) : Prop := ∀ c ∈ s.toList, isWhitespace c = true

def Trimmed (s : String) : Prop := Stripped isWhitespace s.toList

instance (s : String) : Decidable (Blank s) := inferInstanceAs (Decidable (∀ c ∈ s.toList, _))

instance (s : String) : Decidable (Trimmed s) :=
  inferInstanceAs (Decidable ((∀ c ∈ s.toList.head?, _) ∧ ∀ c ∈ s.toList.getLast?, _))

@[simp] theorem toList_trim (s : String) : (trim s).toList = strip isWhitespace s.toList := by simp [trim]

theorem trim_trimmed (s : String) : Trimmed (trim s) := by
  rw [Trimmed, toList_trim]
  exact strip_stripped

theorem trim_eq_self_iff (s : String) : trim s = s ↔ Trimmed s := by
  rw [← String.toList_inj, toList_trim, strip_eq_self_iff, Trimmed]

theorem trim_eq_empty_iff (s : String) : trim s = "" ↔ Blank s := by
  rw [← String.toList_inj, toList_trim, String.toList_empty, strip_eq_nil_iff, Blank]

theorem trim_isEmpty_iff (s : String) : (trim s).isEmpty = true ↔ Blank s := by
  rw [String.isEmpty_iff, trim_eq_empty_iff]

theorem blank_empty : Blank "" := by simp [Blank]

theorem Trimmed.blank_iff {s : String} (trimmed : Trimmed s) : Blank s ↔ s = "" := by
  rw [← trim_eq_empty_iff, (trim_eq_self_iff s).mpr trimmed]

theorem trim_blank_iff (s : String) : Blank (trim s) ↔ Blank s := by
  rw [(trim_trimmed s).blank_iff, trim_eq_empty_iff]

theorem mem_of_mem_trim {s : String} {c : Char} (member : c ∈ (trim s).toList) : c ∈ s.toList := by
  rw [toList_trim] at member
  exact strip_infix.subset member

end Text
