import Mathlib.Data.List.DropRight
import SelfRelay.Js.Json

/-!
# The JSON grammar

The texts that RFC 8259 calls JSON texts, with what they denote.  `Text text value` lists the
members of an object as they stand in the text, also where two of them have one name;
`Json.DistinctNames` says that this happens nowhere in a value.

A reader takes the longest number, so what follows a number must not continue it (`NumberEnds`);
whatever may follow a value does not.
-/

namespace SelfRelay

namespace JsonGrammar

/-- Whitespace, possibly none. -/
def Ws (text : JsString) : Prop := ∀ u ∈ text, isJsonSpace u = true

/-! ## Strings -/

/-- A character of a string literal and the code unit that it stands for. -/
inductive Character : JsString → UInt16 → Prop where
  | unescaped {u : UInt16} :
      0x20 ≤ u.toNat → u ≠ quote → u ≠ backslash → Character [u] u
  | escaped {letter u : UInt16} :
      unescape letter = some u → Character [backslash, letter] u
  | unicode {a b c d : UInt16} {k l m n : ℕ} :
      hexUnitValue a = some k → hexUnitValue b = some l → hexUnitValue c = some m →
      hexUnitValue d = some n →
      Character [backslash, 0x75, a, b, c, d] (UInt16.ofNat (k * 4096 + l * 256 + m * 16 + n))

inductive Characters : JsString → JsString → Prop where
  | nil : Characters [] []
  | cons {character text value : JsString} {u : UInt16} :
      Character character u → Characters text value → Characters (character ++ text) (u :: value)

/-- A string literal and its value. -/
inductive StringLiteral : JsString → JsString → Prop where
  | mk {text value : JsString} :
      Characters text value → StringLiteral (quote :: text ++ [quote]) value

/-! ## Numbers -/

/-- One digit or more. -/
structure Digits (text : JsString) : Prop where
  ne_nil : text ≠ []
  digits : ∀ u ∈ text, isDigit u = true

/-- Digits without a leading zero. -/
structure IntegerPart (text : JsString) : Prop extends Digits text where
  leading : text.head? = some 0x30 → text = [0x30]

/-- The fraction of a number and its digits. -/
inductive Fraction : JsString → JsString → Prop where
  | absent : Fraction [] []
  | present {digits : JsString} : Digits digits → Fraction (0x2e :: digits) digits

/-- The exponent of a number. -/
inductive Exponent : JsString → ℤ → Prop where
  | absent : Exponent [] 0
  | unsigned {e : UInt16} {digits : JsString} :
      e = 0x65 ∨ e = 0x45 → Digits digits → Exponent (e :: digits) (digitsValue digits)
  | plus {e : UInt16} {digits : JsString} :
      e = 0x65 ∨ e = 0x45 → Digits digits → Exponent (e :: 0x2b :: digits) (digitsValue digits)
  | minus {e : UInt16} {digits : JsString} :
      e = 0x65 ∨ e = 0x45 → Digits digits → Exponent (e :: 0x2d :: digits) (-digitsValue digits)

/-- The sign of a number. -/
def sign (negative : Bool) : JsString := if negative then [0x2d] else []

/-- A number and its parts: the sign, the integer digits, the fraction digits and the exponent. -/
inductive NumberLiteral : JsString → Bool × JsString × JsString × ℤ → Prop where
  | mk {negative : Bool} {int fraction digits exponent : JsString} {e : ℤ} :
      IntegerPart int → Fraction fraction digits → Exponent exponent e →
      NumberLiteral (sign negative ++ (int ++ (fraction ++ exponent))) (negative, int, digits, e)

/-! ## Values -/

mutual

/-- A value without whitespace around it. -/
inductive Value : JsString → Json → Prop where
  | literalNull : Value (js "null") .null
  | literalTrue : Value (js "true") (.bool true)
  | literalFalse : Value (js "false") (.bool false)
  | number {text : JsString} {parts : Bool × JsString × JsString × ℤ} :
      NumberLiteral text parts → Value text (.number (numberValue parts))
  | string {text value : JsString} : StringLiteral text value → Value text (.string value)
  | emptyArray {space : JsString} : Ws space → Value (0x5b :: space ++ [0x5d]) (.array [])
  | array {text : JsString} {items : List Json} :
      Elements text items → Value (0x5b :: text ++ [0x5d]) (.array items)
  | emptyObject {space : JsString} : Ws space → Value (0x7b :: space ++ [0x7d]) (.object [])
  | object {text : JsString} {members : List (JsString × Json)} :
      Members text members → Value (0x7b :: text ++ [0x7d]) (.object members)

/-- A value with whitespace around it. -/
inductive Element : JsString → Json → Prop where
  | mk {before text after : JsString} {value : Json} :
      Ws before → Value text value → Ws after → Element (before ++ (text ++ after)) value

/-- One value or more, separated by commas. -/
inductive Elements : JsString → List Json → Prop where
  | single {text : JsString} {value : Json} : Element text value → Elements text [value]
  | cons {text rest : JsString} {value : Json} {items : List Json} :
      Element text value → Elements rest items → Elements (text ++ 0x2c :: rest) (value :: items)

/-- A name and its value. -/
inductive Member : JsString → JsString × Json → Prop where
  | mk {before name after text key : JsString} {value : Json} :
      Ws before → StringLiteral name key → Ws after → Element text value →
      Member (before ++ (name ++ (after ++ 0x3a :: text))) (key, value)

/-- One member or more, separated by commas. -/
inductive Members : JsString → List (JsString × Json) → Prop where
  | single {text : JsString} {member : JsString × Json} :
      Member text member → Members text [member]
  | cons {text rest : JsString} {member : JsString × Json} {members : List (JsString × Json)} :
      Member text member → Members rest members →
      Members (text ++ 0x2c :: rest) (member :: members)

end

/-- A JSON text. -/
def Text (text : JsString) (value : Json) : Prop := Element text value

end JsonGrammar

namespace Json

mutual

/-- No object in the value has two members of one name. -/
def DistinctNames : Json → Prop
  | .array items => DistinctNamesItems items
  | .object members => (members.map Prod.fst).Nodup ∧ DistinctNamesMembers members
  | .null | .bool _ | .number _ | .string _ => True

def DistinctNamesItems : List Json → Prop
  | [] => True
  | item :: items => DistinctNames item ∧ DistinctNamesItems items

def DistinctNamesMembers : List (JsString × Json) → Prop
  | [] => True
  | (_, value) :: members => DistinctNames value ∧ DistinctNamesMembers members

end

end Json

namespace JsonGrammar

/-! ## Whitespace -/

theorem skipSpace_append {space : JsString} (h : Ws space) (text : JsString) :
    skipSpace (space ++ text) = skipSpace text :=
  List.dropWhile_append_of_pos h

theorem skipSpace_cons {u : UInt16} (h : isJsonSpace u = false) (text : JsString) :
    skipSpace (u :: text) = u :: text :=
  List.dropWhile_cons_of_neg (Bool.eq_false_iff.1 h)

theorem skipSpace_skipSpace (text : JsString) : skipSpace (skipSpace text) = skipSpace text :=
  List.dropWhile_idempotent _ text

theorem length_skipSpace_le (text : JsString) : (skipSpace text).length ≤ text.length :=
  List.length_dropWhile_le _ _

theorem skipSpace_spec (text : JsString) : ∃ space, text = space ++ skipSpace text ∧ Ws space :=
  ⟨text.takeWhile isJsonSpace, List.takeWhile_append_dropWhile.symm,
    fun _ hu => List.mem_takeWhile_imp hu⟩

/-! ## What follows a number -/

/-- What follows does not continue a number. -/
def NumberEnds (rest : JsString) : Prop :=
  ∀ u ∈ rest.head?, isDigit u = false ∧ u ≠ 0x2e ∧ u ≠ 0x65 ∧ u ≠ 0x45

theorem NumberEnds.digit {rest : JsString} (h : NumberEnds rest) :
    ∀ u ∈ rest.head?, isDigit u = false := fun u hu => (h u hu).1

theorem NumberEnds.of_space {u : UInt16} (h : isJsonSpace u = true) (rest : JsString) :
    NumberEnds (u :: rest) := by
  rintro _ ⟨⟩
  simp only [isJsonSpace, Bool.or_eq_true, decide_eq_true_eq] at h
  rcases h with ((rfl | rfl) | rfl) | rfl <;> decide

theorem NumberEnds.of_punctuation {u : UInt16} {rest : JsString}
    (h : u = 0x2c ∨ u = 0x5d ∨ u = 0x7d) : NumberEnds (u :: rest) := by
  rintro _ ⟨⟩
  rcases h with rfl | rfl | rfl <;> decide

theorem NumberEnds.append {space rest : JsString} (h : Ws space) (hrest : NumberEnds rest) :
    NumberEnds (space ++ rest) := by
  cases space with
  | nil => exact hrest
  | cons u space => exact .of_space (h u List.mem_cons_self) _

/-! ## First characters -/

theorem IntegerPart.head {int : JsString} (h : IntegerPart int) :
    ∃ u tail, int = u :: tail ∧ isDigit u = true := by
  obtain ⟨⟨hne, hdigits⟩, -⟩ := h
  cases int with
  | nil => exact absurd rfl hne
  | cons u tail => exact ⟨u, tail, rfl, hdigits u List.mem_cons_self⟩

theorem NumberLiteral.head {text : JsString} {parts : Bool × JsString × JsString × ℤ}
    (h : NumberLiteral text parts) : ∃ u tail, text = u :: tail ∧
      (u = 0x2d ∨ isDigit u = true) := by
  cases h with
  | @mk negative int fraction digits exponent e hint =>
    cases negative with
    | true => exact ⟨_, _, rfl, .inl rfl⟩
    | false =>
      obtain ⟨u, tail, rfl, hu⟩ := hint.head
      exact ⟨u, _, rfl, .inr hu⟩

/-- A number starts with a character of its own. -/
theorem numberHead_ne {u v : UInt16} (hu : u = 0x2d ∨ isDigit u = true)
    (hv : v ≠ 0x2d ∧ isDigit v = false) : u ≠ v := by
  rintro rfl
  rcases hu with rfl | hu
  · exact hv.1 rfl
  · exact Bool.false_ne_true (hv.2.symm.trans hu)

theorem numberHead_space {u : UInt16} (hu : u = 0x2d ∨ isDigit u = true) :
    isJsonSpace u = false := by
  simp only [isJsonSpace, Bool.or_eq_false_iff, decide_eq_false_iff_not]
  exact ⟨⟨⟨numberHead_ne hu (by decide), numberHead_ne hu (by decide)⟩,
    numberHead_ne hu (by decide)⟩,
    numberHead_ne hu (by decide)⟩

/-- A value starts with a visible character, which is not a closing bracket. -/
theorem Value.head {text : JsString} {value : Json} (h : Value text value) :
    ∃ u tail, text = u :: tail ∧ isJsonSpace u = false ∧ u ≠ 0x5d := by
  cases h with
  | literalNull | literalTrue | literalFalse | emptyArray | array | emptyObject | object =>
    exact ⟨_, _, rfl, by decide, by decide⟩
  | string h =>
    cases h
    exact ⟨_, _, rfl, by decide, by decide⟩
  | number h =>
    obtain ⟨u, tail, rfl, hu⟩ := h.head
    exact ⟨u, tail, rfl, numberHead_space hu, numberHead_ne hu (by decide)⟩

theorem Value.skipSpace_append {text : JsString} {value : Json} (h : Value text value)
    {space : JsString} (hspace : Ws space) (rest : JsString) :
    skipSpace (space ++ (text ++ rest)) = text ++ rest := by
  obtain ⟨u, tail, rfl, hu, -⟩ := h.head
  rw [JsonGrammar.skipSpace_append hspace]
  exact skipSpace_cons hu _

theorem Element.skipSpace_head {text : JsString} {value : Json} (h : Element text value)
    (rest : JsString) : (skipSpace (text ++ rest)).head? ≠ some 0x5d := by
  cases h with
  | @mk before text after value hbefore hvalue hafter =>
    rw [List.append_assoc, List.append_assoc, hvalue.skipSpace_append hbefore]
    obtain ⟨u, tail, rfl, -, hu⟩ := hvalue.head
    exact fun heq => hu (Option.some.inj heq)

theorem Elements.skipSpace_head {text : JsString} {items : List Json} (h : Elements text items)
    (rest : JsString) : (skipSpace (text ++ rest)).head? ≠ some 0x5d := by
  cases h with
  | single h => exact h.skipSpace_head rest
  | cons h =>
    rw [List.append_assoc]
    exact h.skipSpace_head _


theorem Members.skipSpace_head {text : JsString} {members : List (JsString × Json)}
    (h : Members text members) (rest : JsString) :
    (skipSpace (text ++ rest)).head? ≠ some 0x7d := by
  have hmember : ∀ {text : JsString} {member : JsString × Json}, Member text member →
      ∀ rest, (skipSpace (text ++ rest)).head? = some quote := by
    intro text member h rest
    cases h with
    | mk hbefore hname =>
      cases hname
      rw [List.append_assoc, JsonGrammar.skipSpace_append hbefore]
      rfl
  have hne : some quote ≠ some (0x7d : UInt16) := by decide
  cases h with
  | single h => exact fun heq => hne ((hmember h rest).symm.trans heq)
  | cons h =>
    rw [List.append_assoc]
    exact fun heq => hne ((hmember h _).symm.trans heq)

end JsonGrammar

end SelfRelay
