import Mathlib.Data.Int.Notation
import Mathlib.Data.Nat.Notation

/-!
# The 32-bit operators of JavaScript

`&`, `|`, `^`, `~`, `<<` and `>>>` on integral numbers.  Each first takes its operand modulo `2 ^
32` (`bits`); all but `>>>` read the result as a signed number.
-/

namespace SelfRelay

/-- The 32 bits of an integral number. -/
def bits (n : ℤ) : BitVec 32 := BitVec.ofInt 32 n

/-- `x & y` -/
def bitAnd (x y : ℤ) : ℤ := (bits x &&& bits y).toInt

/-- `x | y` -/
def bitOr (x y : ℤ) : ℤ := (bits x ||| bits y).toInt

/-- `x ^ y` -/
def bitXor (x y : ℤ) : ℤ := (bits x ^^^ bits y).toInt

/-- `~x` -/
def bitNot (x : ℤ) : ℤ := (~~~bits x).toInt

/-- `x << amount` -/
def shiftLeft (x : ℤ) (amount : ℕ) : ℤ := (bits x <<< (amount % 32)).toInt

/-- `x >>> amount` -/
def shiftRightUnsigned (x : ℤ) (amount : ℕ) : ℤ := (bits x >>> (amount % 32)).toNat

/-! ## The bits of a result -/

theorem bits_toInt (b : BitVec 32) : bits b.toInt = b := BitVec.ofInt_toInt

theorem bits_natCast (n : ℕ) : bits n = BitVec.ofNat 32 n := BitVec.ofInt_natCast 32 n

@[simp] theorem bits_bitAnd (x y : ℤ) : bits (bitAnd x y) = bits x &&& bits y := bits_toInt _

@[simp] theorem bits_bitOr (x y : ℤ) : bits (bitOr x y) = bits x ||| bits y := bits_toInt _

@[simp] theorem bits_bitXor (x y : ℤ) : bits (bitXor x y) = bits x ^^^ bits y := bits_toInt _

@[simp] theorem bits_bitNot (x : ℤ) : bits (bitNot x) = ~~~bits x := bits_toInt _

@[simp] theorem bits_shiftLeft (x : ℤ) (amount : ℕ) :
    bits (shiftLeft x amount) = bits x <<< (amount % 32) := bits_toInt _

@[simp] theorem bits_shiftRightUnsigned (x : ℤ) (amount : ℕ) :
    bits (shiftRightUnsigned x amount) = bits x >>> (amount % 32) := by
  rw [shiftRightUnsigned, bits_natCast, BitVec.ofNat_toNat, BitVec.setWidth_eq]

@[simp] theorem bits_add (x y : ℤ) : bits (x + y) = bits x + bits y := BitVec.ofInt_add x y

/-- `x >>> 0` is the number modulo `2 ^ 32`. -/
theorem shiftRightUnsigned_zero (x : ℤ) : shiftRightUnsigned x 0 = (bits x).toNat := rfl

end SelfRelay
