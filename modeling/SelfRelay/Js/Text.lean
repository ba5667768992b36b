import Mathlib.Data.Nat.Notation

/-!
# JavaScript strings

A JavaScript string is a sequence of UTF-16 code units, not necessarily well formed.
-/

namespace SelfRelay

/-- A JavaScript string: its UTF-16 code units. -/
abbrev JsString := List UInt16

/-- The JavaScript string of an ASCII literal. -/
def js (literal : String) : JsString := literal.toList.map fun c => UInt16.ofNat c.toNat

end SelfRelay
