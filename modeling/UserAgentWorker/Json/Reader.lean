import UserAgentWorker.Json.Grammar

namespace Json

/-- Where a reader of an array of strings stands, and the characters of the string it is in. -/
inductive Mode
  | start
  | first
  | next
  | after
  | done
  | text (value : List Char)
  | escape (value : List Char)
  | unicode (value : List Char) (high : Option Nat) (left number : Nat)
  | pairing (value : List Char) (high : Nat) (slash : Bool)

structure Reader where
  items : List String
  mode : Mode

/-- The code unit of a finished escape: half of a pair waits for the other half. -/
def unit (value : List Char) (high : Option Nat) (number : Nat) : Option Mode :=
  match high with
  | none =>
    if IsHigh number then some (.pairing value number false)
    else if IsLow number then none
    else some (.text (value ++ [Char.ofNat number]))
  | some high => if IsLow number then some (.text (value ++ [Char.ofNat (pairCode high number)])) else none

def step (r : Reader) (c : Char) : Option Reader :=
  match r.mode with
  | .start => if isWs c then some r else if c = '[' then some ⟨r.items, .first⟩ else none
  | .first =>
    if isWs c then some r
    else if c = '\"' then some ⟨r.items, .text []⟩
    else if c = ']' then some ⟨r.items, .done⟩
    else none
  | .next => if isWs c then some r else if c = '\"' then some ⟨r.items, .text []⟩ else none
  | .after =>
    if isWs c then some r
    else if c = ',' then some ⟨r.items, .next⟩
    else if c = ']' then some ⟨r.items, .done⟩
    else none
  | .done => if isWs c then some r else none
  | .text value =>
    if c = '\"' then some ⟨r.items ++ [String.ofList value], .after⟩
    else if c = '\\' then some ⟨r.items, .escape value⟩
    else if isPlain c then some ⟨r.items, .text (value ++ [c])⟩
    else none
  | .escape value =>
    if c = 'u' then some ⟨r.items, .unicode value none 3 0⟩
    else (shortEscape c).map fun e => ⟨r.items, .text (value ++ [e])⟩
  | .unicode value high left number =>
    (hexDigit c).bind fun digit =>
      match left with
      | 0 => (unit value high (16 * number + digit)).map fun mode => ⟨r.items, mode⟩
      | left + 1 => some ⟨r.items, .unicode value high left (16 * number + digit)⟩
  | .pairing value high false => if c = '\\' then some ⟨r.items, .pairing value high true⟩ else none
  | .pairing value high true => if c = 'u' then some ⟨r.items, .unicode value (some high) 3 0⟩ else none

def read (r : Reader) (text : List Char) : Option Reader := text.foldlM step r

def decode (text : String) : Option (List String) :=
  match read ⟨[], .start⟩ text.toList with
  | some ⟨items, .done⟩ => some items
  | _ => none

section Reading

variable {items : List String} {text value : List Char}

theorem read_step {r next : Reader} {c : Char} (taken : step r c = some next) (rest : List Char) :
    read r (c :: rest) = read next rest := by
  rw [read, List.foldlM_cons, taken]
  rfl

/-- The modes in which whitespace says nothing. -/
def Mode.Between : Mode → Prop
  | .start | .first | .next | .after | .done => True
  | _ => False

theorem read_ws (mode : Mode) (between : mode.Between) (ws : Ws text) (rest : List Char) :
    read ⟨items, mode⟩ (text ++ rest) = read ⟨items, mode⟩ rest := by
  induction text with
  | nil => rfl
  | cons c text ih =>
    have space : isWs c = true := ws c (by simp)
    have stays : step ⟨items, mode⟩ c = some ⟨items, mode⟩ := by
      cases mode <;> first | exact absurd between id | simp [step, space]
    rw [List.cons_append, read_step stays]
    exact ih fun d member => ws d (List.mem_cons_of_mem c member)

section Body

variable {acc : List Char}

theorem step_plain {c : Char} (plain : isPlain c = true) :
    step ⟨items, .text acc⟩ c = some ⟨items, .text (acc ++ [c])⟩ := by
  have free := plain
  simp only [isPlain, Bool.and_eq_true, bne_iff_ne, ne_eq] at free
  simp [step, free.1.2, free.2, plain]

theorem step_backslash : step ⟨items, .text acc⟩ '\\' = some ⟨items, .escape acc⟩ := by simp [step]

theorem step_short {e c : Char} (short : shortEscape e = some c) :
    step ⟨items, .escape acc⟩ e = some ⟨items, .text (acc ++ [c])⟩ := by
  have letter : e ≠ 'u' := by
    intro same
    subst same
    cases short
  simp [step, letter, short]

theorem read_escape (rest : List Char) :
    read ⟨items, .text acc⟩ ('\\' :: 'u' :: rest) = read ⟨items, .unicode acc none 3 0⟩ rest := by
  rw [read_step step_backslash]
  exact read_step (by simp [step]) rest

theorem read_pairing (high : Nat) (rest : List Char) :
    read ⟨items, .pairing acc high false⟩ ('\\' :: 'u' :: rest) = read ⟨items, .unicode acc (some high) 3 0⟩ rest := by
  have slash : step ⟨items, .pairing acc high false⟩ '\\' = some ⟨items, .pairing acc high true⟩ := by simp [step]
  rw [read_step slash]
  exact read_step (by simp [step]) rest

theorem step_digit {high : Option Nat} {left number digit : Nat} {c : Char} (hex : hexDigit c = some digit) :
    step ⟨items, .unicode acc high (left + 1) number⟩ c =
      some ⟨items, .unicode acc high left (16 * number + digit)⟩ := by
  simp [step, hex]

theorem read_number {high : Option Nat} {a b c d : Char} {n : Nat} {mode : Mode}
    (number : hexNumber a b c d = some n) (finished : unit acc high n = some mode) (rest : List Char) :
    read ⟨items, .unicode acc high 3 0⟩ (a :: b :: c :: d :: rest) = read ⟨items, mode⟩ rest := by
  unfold hexNumber at number
  split at number
  · next da db dc dd ha hb hc hd =>
    cases number
    rw [read_step (step_digit ha), read_step (step_digit hb), read_step (step_digit hc)]
    apply read_step
    simp [step, hd, finished]
  · cases number

theorem unit_scalar {n : Nat} (high : ¬ IsHigh n) (low : ¬ IsLow n) :
    unit acc none n = some (.text (acc ++ [Char.ofNat n])) := by
  rw [unit, if_neg high, if_neg low]

theorem unit_high {n : Nat} (high : IsHigh n) : unit acc none n = some (.pairing acc n false) := if_pos high

theorem unit_low {high n : Nat} (low : IsLow n) :
    unit acc (some high) n = some (.text (acc ++ [Char.ofNat (pairCode high n)])) := if_pos low

theorem read_body (body : Body text value) (acc : List Char) (rest : List Char) :
    read ⟨items, .text acc⟩ (text ++ rest) = read ⟨items, .text (acc ++ value)⟩ rest := by
  -- The value read so far is the accumulator of the mode, so it varies along the derivation.
  induction body generalizing acc with
  | nil => rw [List.nil_append, List.append_nil]
  | plain plain _ ih =>
    rw [List.cons_append, read_step (step_plain plain), ih, List.append_assoc, List.singleton_append]
  | short short _ ih =>
    rw [List.cons_append, List.cons_append, read_step step_backslash, read_step (step_short short), ih,
      List.append_assoc, List.singleton_append]
  | unicode number high low _ ih =>
    simp only [List.cons_append]
    rw [read_escape, read_number number (unit_scalar high low), ih, List.append_assoc, List.singleton_append]
  | pair number number' high low _ ih =>
    simp only [List.cons_append]
    rw [read_escape, read_number number (unit_high high), read_pairing, read_number number' (unit_low low), ih,
      List.append_assoc, List.singleton_append]

end Body

section Arrays

def Mode.Opens : Mode → Prop
  | .first | .next => True
  | _ => False

theorem Mode.Opens.between {mode : Mode} (opens : mode.Opens) : mode.Between := by
  cases mode <;> first | exact True.intro | exact opens

theorem read_string {mode : Mode} (opens : mode.Opens) {text : List Char} {value : String}
    (quoted : QuotedString text value) (rest : List Char) :
    read ⟨items, mode⟩ (text ++ rest) = read ⟨items ++ [value], .after⟩ rest := by
  obtain ⟨body⟩ := quoted
  have opening : step ⟨items, mode⟩ '\"' = some ⟨items, .text []⟩ := by
    cases mode <;> first | exact absurd opens id | simp [step, isWs]
  rw [List.append_assoc, List.cons_append, read_step opening, read_body body, List.nil_append]
  exact read_step (by simp [step]) rest

theorem step_comma (items : List String) : step ⟨items, .after⟩ ',' = some ⟨items, .next⟩ := by simp [step, isWs]

theorem read_elements (mode : Mode) (opens : mode.Opens) {text : List Char} {values : List String}
    (elements : Elements text values) (rest : List Char) :
    read ⟨items, mode⟩ (text ++ rest) = read ⟨items ++ values, .after⟩ rest := by
  induction elements generalizing items mode with
  | one left quoted right =>
    rw [List.append_assoc, List.append_assoc, read_ws mode opens.between left, read_string opens quoted,
      read_ws .after True.intro right]
  | more left quoted right _ ih =>
    rw [List.append_assoc, List.append_assoc, List.append_assoc, read_ws mode opens.between left,
      read_string opens quoted, read_ws .after True.intro right, List.cons_append, read_step (step_comma _),
      ih .next True.intro, List.append_assoc, List.singleton_append]

theorem read_open (rest : List Char) : read ⟨[], .start⟩ ('[' :: rest) = read ⟨[], .first⟩ rest :=
  read_step (by simp [step, isWs]) rest

theorem read_close {mode : Mode} (closes : mode = .first ∨ mode = .after) {right : List Char} (ws : Ws right) :
    read ⟨items, mode⟩ (']' :: right) = some ⟨items, .done⟩ := by
  have closing : step ⟨items, mode⟩ ']' = some ⟨items, .done⟩ := by
    rcases closes with rfl | rfl <;> simp [step, isWs]
  have ending := @read_ws items right .done True.intro ws []
  rw [List.append_nil] at ending
  rw [read_step closing, ending]
  rfl

theorem read_stringArray {text : List Char} {values : List String} (array : StringArray text values) :
    read ⟨[], .start⟩ text = some ⟨values, .done⟩ := by
  cases array with
  | empty left inner right =>
    rw [List.append_assoc, read_ws .start True.intro left, List.cons_append, read_open,
      read_ws .first True.intro inner, read_close (.inl rfl) right]
  | some left elements right =>
    rw [List.append_assoc, read_ws .start True.intro left, List.cons_append, read_open,
      read_elements .first True.intro elements, List.nil_append, read_close (.inr rfl) right]

theorem decode_stringArray {text : String} {values : List String} (array : StringArray text.toList values) :
    decode text = some values := by
  rw [decode, read_stringArray array]

theorem stringArray_unique {text : String} {left right : List String} (array : StringArray text.toList left)
    (other : StringArray text.toList right) : left = right := by
  rw [← Option.some_inj, ← decode_stringArray array, ← decode_stringArray other]

end Arrays

end Reading

end Json
