import UserAgentWorker.Arrow.Crate
import UserAgentWorker.Model.UserAgent

namespace UserAgentProof

open Text Arrow UserAgentModel

theorem maxInputBytes_eq : maxInputBytes = 65536 := by decide

theorem boundScan_eq (ua : String) (stop : Nat) :
    boundScan ua stop = Nat.findGreatest (fun index => isCharBoundary ua index = true) stop := by
  induction stop with
  | zero => rfl
  | succ stop ih =>
    rw [boundScan, Nat.findGreatest_succ, ih]
    cases isCharBoundary ua (stop + 1) <;> rfl

theorem bound_eq (ua : String) : bound ua = .ok (truncate maxInputBytes ua) := by
  unfold bound
  split
  · next short => rw [truncate_whole short]
  · rw [boundScan_eq, (truncate_slice maxInputBytes ua).1]

theorem boundScan_size (ua : String) : boundScan ua maxInputBytes = (truncate maxInputBytes ua).utf8ByteSize := by
  rw [boundScan_eq, (truncate_slice maxInputBytes ua).2.1]

theorem boundScan_steps (ua : String) (long : 65536 < ua.utf8ByteSize) :
    ∃ steps ≤ 3, boundScan ua 65536 = 65536 - steps ∧ 0 < 65536 - steps ∧
      isCharBoundary ua (65536 - steps) = true ∧ ∀ k < steps, isCharBoundary ua (65536 - k) = false := by
  have cut := truncate_spec maxInputBytes ua
  have near := cut.near_cap long
  have fits := cut.fits
  have scan := boundScan_size ua
  have stop : isCharBoundary ua (truncate maxInputBytes ua).utf8ByteSize = true :=
    (isCharBoundary_iff ua _).mpr cut.longest.1.1
  have longest := cut.longest.2
  generalize (truncate maxInputBytes ua).utf8ByteSize = size at near fits scan stop longest
  rw [maxInputBytes_eq] at near fits scan longest
  refine ⟨65536 - size, by omega, by omega, by omega, ?_, ?_⟩
  · have back : 65536 - (65536 - size) = size := by omega
    rw [back]
    exact stop
  · intro k before
    by_contra lead
    rw [Bool.not_eq_false, isCharBoundary_iff] at lead
    have bound := longest ⟨lead, Nat.sub_le _ _⟩
    omega

theorem bound_longest_front (ua : String) :
    ∃ front, bound ua = .ok front ∧
      (∃ rest, ua = front ++ rest) ∧
      isCharBoundary ua front.utf8ByteSize = true ∧
      front.utf8ByteSize ≤ 65536 ∧
      (ua.utf8ByteSize ≤ 65536 → front = ua) ∧
      (65536 < ua.utf8ByteSize →
        65533 ≤ front.utf8ByteSize ∧
        (∀ index ≤ 65536, isCharBoundary ua index = true → index ≤ front.utf8ByteSize) ∧
        ∃ steps ≤ 3, boundScan ua 65536 = 65536 - steps ∧ 0 < 65536 - steps ∧
          isCharBoundary ua (65536 - steps) = true ∧ ∀ k < steps, isCharBoundary ua (65536 - k) = false) ∧
      bound front = .ok front := by
  have cut := truncate_spec maxInputBytes ua
  refine ⟨truncate maxInputBytes ua, bound_eq ua, cut.front, ?_, cut.fits, ?_, ?_, ?_⟩
  · exact (isCharBoundary_iff ua _).mpr cut.longest.1.1
  · intro short
    exact truncate_whole short
  · intro long
    refine ⟨?_, ?_, boundScan_steps ua long⟩
    · have near := cut.near_cap long
      rw [maxInputBytes_eq] at near ⊢
      omega
    · intro index inside lead
      exact cut.longest.2 ⟨(isCharBoundary_iff ua index).mp lead, inside⟩
  · rw [bound_eq, truncate_truncate]

section Engine

variable {m : Type → Type} [Monad m] [LawfulMonad m] [MonadLiftT Run m] [LawfulMonadLiftT Run m]
variable (engine : String → m Client) (ua : String)

omit [LawfulMonad m] in
theorem lift_bound : (liftM (bound ua) : m String) = pure (truncate maxInputBytes ua) := by
  have whole : bound ua = pure (truncate maxInputBytes ua) := bound_eq ua
  rw [whole, liftM_pure]

theorem parseWith_eq : parseWith engine ua = parsedOf <$> engine (truncate maxInputBytes ua) := by
  rw [parseWith, lift_bound, pure_bind, map_eq_pure_bind]

/-- The second cut of `is_bot` changes nothing. -/
theorem isBotWith_eq : isBotWith engine ua = Parsed.isBot <$> parseWith engine ua := by
  have same : parseWith engine (truncate maxInputBytes ua) = parseWith engine ua := by
    rw [parseWith_eq, parseWith_eq, truncate_truncate]
  rw [isBotWith, lift_bound, pure_bind, same, map_eq_pure_bind]

end Engine

section Parsing

variable (ex : Externals) (ua : String)

def parsedAt : Parsed := parsedOf (ex.parser (truncate maxInputBytes ua))

theorem parse_eq : parse ex ua = .ok (parsedAt ex ua) := by
  rw [parse, parseWith_eq]
  rfl

theorem isBot_eq : isBot ex ua = .ok (parsedAt ex ua).isBot := by
  have parsed : parseWith ex.engine ua = .ok (parsedAt ex ua) := parse_eq ex ua
  rw [isBot, isBotWith_eq, parsed]
  rfl

variable {ex}

theorem parsedAt_congr {a b : String} (same : SameUpTo maxInputBytes a b) : parsedAt ex a = parsedAt ex b := by
  rw [parsedAt, same.truncate_eq, parsedAt]

end Parsing

def withEngine (parser : String → Client) : Externals where
  parser := parser
  debugDataType _ := "Null"
  result dataType := ⟨[.new "result" dataType true]⟩
  result_declares _ := ⟨"result", rfl⟩
  tryNew := RecordBatch.tryNew
  tryNew_parts := RecordBatch.tryNew_parts
  tryNew_accepts := RecordBatch.tryNew_accepts
  structNew := StructArray.new
  structNew_accepts := StructArray.new_accepts

def constantEngine (client : Client) : Externals := withEngine fun _ => client

/-- What the engine answers to a text that none of its rules match. -/
def unmatched : Client where
  userAgent := ⟨"Other", none, none, none⟩
  os := ⟨"Other", none, none, none, none⟩
  device := ⟨"Other", none⟩

theorem parse_constantEngine (client : Client) (ua : String) :
    parse (constantEngine client) ua = .ok (parsedOf client) := by
  rw [parse_eq]
  rfl

end UserAgentProof
