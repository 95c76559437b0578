namespace Json

def isWs (c : Char) : Bool := c == ' ' || c == '\t' || c == '\n' || c == '\r'

def isPlain (c : Char) : Bool := decide (0x20 ≤ c.toNat) && c != '\"' && c != '\\'

def shortEscape : Char → Option Char
  | '\"' => some '\"'
  | '\\' => some '\\'
  | '/' => some '/'
  | 'b' => some '\x08'
  | 'f' => some '\x0c'
  | 'n' => some '\n'
  | 'r' => some '\r'
  | 't' => some '\t'
  | _ => none

def hexDigit (c : Char) : Option Nat :=
  let n := c.toNat
  if 0x30 ≤ n ∧ n ≤ 0x39 then some (n - 0x30)
  else if 0x41 ≤ n ∧ n ≤ 0x46 then some (n - 0x37)
  else if 0x61 ≤ n ∧ n ≤ 0x66 then some (n - 0x57)
  else none

def hexNumber (a b c d : Char) : Option Nat :=
  match hexDigit a, hexDigit b, hexDigit c, hexDigit d with
  | some a, some b, some c, some d => some (16 * (16 * (16 * a + b) + c) + d)
  | _, _, _, _ => none

def IsHigh (n : Nat) : Prop := 0xd800 ≤ n ∧ n < 0xdc00

def IsLow (n : Nat) : Prop := 0xdc00 ≤ n ∧ n < 0xe000

instance (n : Nat) : Decidable (IsHigh n) := inferInstanceAs (Decidable (_ ∧ _))

instance (n : Nat) : Decidable (IsLow n) := inferInstanceAs (Decidable (_ ∧ _))

def pairCode (high low : Nat) : Nat := 0x10000 + 0x400 * (high - 0xd800) + (low - 0xdc00)

/-- The text between the quotes of a string, and the characters it stands for. -/
inductive Body : List Char → List Char → Prop
  | nil : Body [] []
  | plain {c : Char} {text value : List Char} : isPlain c = true → Body text value → Body (c :: text) (c :: value)
  | short {e c : Char} {text value : List Char} : shortEscape e = some c → Body text value →
      Body ('\\' :: e :: text) (c :: value)
  | unicode {a b c d : Char} {n : Nat} {text value : List Char} : hexNumber a b c d = some n →
      ¬ IsHigh n → ¬ IsLow n → Body text value → Body ('\\' :: 'u' :: a :: b :: c :: d :: text) (Char.ofNat n :: value)
  | pair {a b c d a' b' c' d' : Char} {high low : Nat} {text value : List Char} : hexNumber a b c d = some high →
      hexNumber a' b' c' d' = some low → IsHigh high → IsLow low → Body text value →
      Body ('\\' :: 'u' :: a :: b :: c :: d :: '\\' :: 'u' :: a' :: b' :: c' :: d' :: text)
        (Char.ofNat (pairCode high low) :: value)

def Ws (text : List Char) : Prop := ∀ c ∈ text, isWs c = true

inductive QuotedString : List Char → String → Prop
  | quoted {text value : List Char} : Body text value → QuotedString ('\"' :: text ++ ['\"']) (String.ofList value)

/-- The strings of a non-empty array, with the commas and the whitespace between them. -/
inductive Elements : List Char → List String → Prop
  | one {left right text : List Char} {value : String} : Ws left → QuotedString text value → Ws right →
      Elements (left ++ text ++ right) [value]
  | more {left right text rest : List Char} {value : String} {values : List String} : Ws left →
      QuotedString text value → Ws right → Elements rest values →
      Elements (left ++ text ++ right ++ ',' :: rest) (value :: values)

inductive StringArray : List Char → List String → Prop
  | empty {left inner right : List Char} : Ws left → Ws inner → Ws right →
      StringArray (left ++ '[' :: inner ++ ']' :: right) []
  | some {left right text : List Char} {values : List String} : Ws left → Elements text values → Ws right →
      StringArray (left ++ '[' :: text ++ ']' :: right) values

theorem ws_nil : Ws [] := by
  intro c member
  cases member

end Json
