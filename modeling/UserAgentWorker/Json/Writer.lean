import UserAgentWorker.Json.Grammar
import UserAgentWorker.Text.Segments

namespace Json

open Text

def hexChar (n : Nat) : Char := if n < 10 then Char.ofNat (0x30 + n) else Char.ofNat (0x57 + n)

def shortLetter : Char → Option Char
  | '\"' => some '\"'
  | '\\' => some '\\'
  | '\x08' => some 'b'
  | '\x0c' => some 'f'
  | '\n' => some 'n'
  | '\r' => some 'r'
  | '\t' => some 't'
  | _ => none

/-- A short escape where there is one, `\u00xx` for the other control characters. -/
def escapeChar (c : Char) : List Char :=
  match shortLetter c with
  | some letter => ['\\', letter]
  | none =>
    if c.toNat < 0x20 then ['\\', 'u', '0', '0', hexChar (c.toNat / 16), hexChar (c.toNat % 16)]
    else [c]

def quote (s : String) : String := String.ofList ('\"' :: s.toList.flatMap escapeChar ++ ['\"'])

section Quote

theorem hexNumber_control : ∀ n < 0x20, hexNumber '0' '0' (hexChar (n / 16)) (hexChar (n % 16)) = some n := by
  decide

theorem shortEscape_letter {c letter : Char} (found : shortLetter c = some letter) : shortEscape letter = some c := by
  unfold shortLetter at found
  split at found <;> cases found <;> rfl

theorem plain_of_no_letter {c : Char} (missing : shortLetter c = none) (printable : 0x20 ≤ c.toNat) :
    isPlain c = true := by
  have quotation : c ≠ '\"' := by
    intro same
    subst same
    cases missing
  have backslash : c ≠ '\\' := by
    intro same
    subst same
    cases missing
  simp [isPlain, printable, quotation, backslash]

theorem escapeChar_body {text value : List Char} (c : Char) (body : Body text value) :
    Body (escapeChar c ++ text) (c :: value) := by
  unfold escapeChar
  split
  · next letter found => exact .short (shortEscape_letter found) body
  · next missing =>
    split
    · next control =>
      have high : ¬ IsHigh c.toNat := by
        unfold IsHigh
        omega
      have low : ¬ IsLow c.toNat := by
        unfold IsLow
        omega
      have whole := Body.unicode (hexNumber_control c.toNat control) high low body
      rwa [Char.ofNat_toNat] at whole
    · next printable => exact .plain (plain_of_no_letter missing (by omega)) body

theorem escape_body (value : List Char) : Body (value.flatMap escapeChar) value := by
  induction value with
  | nil => exact .nil
  | cons c value ih =>
    rw [List.flatMap_cons]
    exact escapeChar_body c ih

theorem quote_string (s : String) : QuotedString (quote s).toList s := by
  have quoted := QuotedString.quoted (escape_body s.toList)
  rwa [String.ofList_toList, ← String.toList_ofList (l := '\"' :: _ ++ _)] at quoted

end Quote

section Array

variable {text : String → String}

theorem elements_join (encodes : ∀ s, QuotedString (text s).toList s) {values : List String} (some : values ≠ []) :
    Elements (join ',' (values.map text)).toList values := by
  induction values with
  | nil => exact absurd rfl some
  | cons value rest ih =>
    cases rest with
    | nil =>
      have alone := Elements.one ws_nil (encodes value) ws_nil
      rwa [List.nil_append, List.append_nil] at alone
    | cons next rest =>
      have more := Elements.more ws_nil (encodes value) ws_nil (ih (List.cons_ne_nil _ _))
      rwa [List.nil_append, List.append_nil, List.map_cons, ← join_cons_cons] at more

theorem stringArray_join (encodes : ∀ s, QuotedString (text s).toList s) (values : List String) :
    StringArray ("[" ++ join ',' (values.map text) ++ "]").toList values := by
  have chars : ("[" ++ join ',' (values.map text) ++ "]").toList =
      [] ++ '[' :: (join ',' (values.map text)).toList ++ ']' :: [] := by simp
  rw [chars]
  by_cases some : values = []
  · subst some
    exact .empty ws_nil ws_nil ws_nil
  · exact .some ws_nil (elements_join encodes some) ws_nil

end Array

end Json
