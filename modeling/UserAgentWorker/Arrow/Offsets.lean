import Mathlib.Algebra.Order.BigOperators.Group.List
import Mathlib.Algebra.Order.Ring.Nat
import UserAgentWorker.Arrow.Builders

namespace Arrow.StringBuilder

/-- `i32::MAX`, the largest offset of a `StringArray`. -/
def offsetMax : Nat := 2147483647

def valuesLen (builder : StringBuilder) : Nat := (builder.values.map fun value => (value.getD "").utf8ByteSize).sum

/-- `append_value` over offsets that end at `limit`, a panic where the values buffer outgrows them. -/
def appendValueWithin (limit : Nat) (builder : StringBuilder) (value : String) : Option StringBuilder :=
  let next : StringBuilder := builder.appendValue value
  if next.valuesLen ≤ limit then some next else none

@[simp] theorem valuesLen_new : valuesLen .new = 0 := rfl

@[simp] theorem valuesLen_push (builder : StringBuilder) (value : Option String) :
    valuesLen (builder.push value) = builder.valuesLen + (value.getD "").utf8ByteSize := by
  simp [valuesLen, Builder.push]

section Append

variable {limit : Nat} {builder : StringBuilder} {value : String}

theorem appendValueWithin_fits (fits : valuesLen (builder.push (some value)) ≤ limit) :
    builder.appendValueWithin limit value = some (builder.push (some value)) := if_pos fits

theorem appendValueWithin_outgrown (outgrown : ¬ valuesLen (builder.push (some value)) ≤ limit) :
    builder.appendValueWithin limit value = none := if_neg outgrown

theorem room_of_push {value : Option String} (fits : valuesLen (builder.push value) ≤ limit) :
    builder.valuesLen ≤ limit := by
  rw [valuesLen_push] at fits
  omega

end Append

end Arrow.StringBuilder
