import PageScan.Script.Byte
import PageScan.Script.Cut

/-!
# Operators

An operator is one byte, except for the six pairs `++`, `--`, `+=`, `-=`, `*=` and `/=`. No
operator has three bytes: `+++` is `++` and `+`, and `===` is three operators.
-/

namespace PageScan.Script

/-- The pairs of bytes that make one operator. -/
def isOperatorPair (a b : UInt8) : Bool :=
  ((a == plus || a == minus) && b == a) ||
    ((a == plus || a == minus || a == star || a == slash) && b == equals)

/-- **An operator from behind its first byte.** -/
def operatorTail (first : UInt8) : List UInt8 → Cut
  | [] => ⟨[], [], true⟩
  | b :: s => if isOperatorPair first b then ⟨[b], s, true⟩ else ⟨[], b :: s, true⟩

theorem operatorTail_text_append_rest (first : UInt8) (s : List UInt8) :
    (operatorTail first s).text ++ (operatorTail first s).rest = s := by
  cases s with
  | nil => rfl
  | cons b s => simp only [operatorTail]; split <;> rfl

@[simp] theorem closed_operatorTail (first : UInt8) (s : List UInt8) :
    (operatorTail first s).closed = true := by
  cases s with
  | nil => rfl
  | cons b s => simp only [operatorTail]; split <;> rfl

end PageScan.Script
