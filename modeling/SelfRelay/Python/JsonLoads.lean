import SelfRelay.Python.Dumps

/-!
# `json.loads`

The scanner of the `json` module, with the hook `_json_object_no_duplicates`.  The text is that of a
WebSocket frame, so that it has no surrogates of its own; an escape may denote one.

The scanner is a recursive descent.  `depth` is the number of containers that it may still open
before the interpreter raises `RecursionError`; its fuel is bounded by the length of the text, and
more does not change what it finds (`scanValue_fuel`).
-/

namespace SelfRelay.Python

/-! ## Tokens -/

/-- `[ \t\n\r]` -/
def isSpace (c : ℕ) : Bool := c = 0x20 || c = 0x09 || c = 0x0a || c = 0x0d

def skipSpace (text : PyStr) : PyStr := text.dropWhile isSpace

def isDigit (c : ℕ) : Bool := 0x30 ≤ c && c ≤ 0x39

def spanDigits (text : PyStr) : PyStr × PyStr := text.span isDigit

/-- The number that digits spell. -/
def digitsValue (digits : PyStr) : ℕ := digits.foldl (fun n c => n * 10 + (c - 0x30)) 0

def hexValue (c : ℕ) : Option ℕ :=
  if isDigit c then some (c - 0x30)
  else if 0x61 ≤ c ∧ c ≤ 0x66 then some (c - 0x57)
  else if 0x41 ≤ c ∧ c ≤ 0x46 then some (c - 0x37)
  else none

/-- The character that a two-character escape stands for. -/
def unescape (letter : ℕ) : Option ℕ :=
  if letter = 0x22 ∨ letter = 0x5c ∨ letter = 0x2f then some letter
  else if letter = 0x62 then some 0x08
  else if letter = 0x66 then some 0x0c
  else if letter = 0x6e then some 0x0a
  else if letter = 0x72 then some 0x0d
  else if letter = 0x74 then some 0x09
  else none

/-- An escaped high surrogate and the low one after it make one character. -/
def joinSurrogates (c : ℕ) : PyStr → PyStr
  | low :: rest =>
    if 0xd800 ≤ c ∧ c ≤ 0xdbff ∧ 0xdc00 ≤ low ∧ low ≤ 0xdfff then
      (0x10000 + (c - 0xd800) * 0x400 + (low - 0xdc00)) :: rest
    else c :: low :: rest
  | [] => [c]

/-- The contents of a string literal and the text after its closing quote. -/
def scanString : PyStr → Option (PyStr × PyStr)
  | [] => none
  | c :: rest =>
    if c = 0x22 then some ([], rest)
    else if c < 0x20 then none
    else if c = 0x5c then
      match rest with
      | 0x75 :: a :: b :: c :: d :: rest => do
        let a ← hexValue a
        let b ← hexValue b
        let c ← hexValue c
        let d ← hexValue d
        let (value, rest) ← scanString rest
        return (joinSurrogates (a * 4096 + b * 256 + c * 16 + d) value, rest)
      | letter :: rest => do
        let c ← unescape letter
        let (value, rest) ← scanString rest
        return (c :: value, rest)
      | [] => none
    else do
      let (value, rest) ← scanString rest
      return (c :: value, rest)

/-- The digits of a fraction. -/
def scanFraction : PyStr → Option (PyStr × PyStr)
  | 0x2e :: rest =>
    match spanDigits rest with
    | ([], _) => none
    | (digits, rest) => some (digits, rest)
  | _ => none

/-- The value of an exponent. -/
def scanExponent : PyStr → Option (ℤ × PyStr)
  | e :: rest =>
    if e = 0x65 ∨ e = 0x45 then
      let (negative, rest) := match rest with
        | 0x2d :: rest => (true, rest)
        | 0x2b :: rest => (false, rest)
        | _ => (false, rest)
      match spanDigits rest with
      | ([], _) => none
      | (digits, rest) => some (if negative then -digitsValue digits else digitsValue digits, rest)
    else none
  | [] => none

/-- The digits before the point: `0|[1-9]\d*`. -/
def scanInteger : PyStr → Option (PyStr × PyStr)
  | 0x30 :: rest => some ([0x30], rest)
  | text =>
    match spanDigits text with
    | ([], _) => none
    | (digits, rest) => some (digits, rest)

/-- A number: an `int` when it has neither fraction nor exponent. -/
def scanNumber (negative : Bool) (text : PyStr) : Option (PyValue × PyStr) := do
  let (int, rest) ← scanInteger text
  match scanFraction rest, scanExponent rest with
  | some (fraction, rest), _ =>
    let (exponent, rest) := (scanExponent rest).getD (0, rest)
    return (.float
      (.ofRat negative (digitsValue (int ++ fraction) * 10 ^ (exponent - fraction.length))),
      rest)
  | none, some (exponent, rest) =>
    return (.float (.ofRat negative (digitsValue int * 10 ^ exponent)), rest)
  | none, none =>
    -- the conversion to `int` raises `ValueError`, as a scanner that finds no number does
    if intMaxStrDigits < int.length then none
    else return (.int (if negative then -digitsValue int else digitsValue int), rest)

/-- The constants of the scanner. -/
def constants : List (PyStr × PyValue) :=
  [(py "null", .none), (py "true", .bool true), (py "false", .bool false), (py "NaN", .float .nan),
    (py "Infinity", .float (.infinity false)), (py "-Infinity", .float (.infinity true))]

/-- A value that is neither a string nor a container. -/
def scanScalar (text : PyStr) : Option (PyValue × PyStr) :=
  match constants.find? fun constant => constant.1 <+: text with
  | some (name, value) => some (value, text.drop name.length)
  | none =>
    match text with
    | 0x2d :: rest => scanNumber true rest
    | _ => scanNumber false text

/-! ## Containers -/

/-- `_json_object_no_duplicates` -/
def jsonObjectNoDuplicates (pairs : List (PyStr × PyValue)) : Except PyError PyValue :=
  if (pairs.map Prod.fst).Nodup then .ok (.dict pairs) else .error .valueError

/-- What a scanner of tokens found; it raises `ValueError` otherwise. -/
def found {α : Type} : Option α → Except PyError α
  | some a => .ok a
  | none => .error .valueError

mutual

/-- A value and the text after it. -/
def scanValue : ℕ → ℕ → PyStr → Except PyError (PyValue × PyStr)
  | 0, _, _ => .error .valueError
  | fuel + 1, depth, text =>
    match text with
    | 0x22 :: rest => (found (scanString rest)).map fun (value, rest) => (.str value, rest)
    | 0x5b :: rest =>
      match depth with
      | 0 => .error .recursionError
      | depth + 1 =>
        match skipSpace rest with
        | 0x5d :: rest => .ok (.list [], rest)
        | rest => (scanItems fuel depth rest).map fun (items, rest) => (.list items, rest)
    | 0x7b :: rest =>
      match depth with
      | 0 => .error .recursionError
      | depth + 1 =>
        match skipSpace rest with
        | 0x7d :: rest => .ok (.dict [], rest)
        | rest => do
          let (pairs, rest) ← scanMembers fuel depth rest
          let value ← jsonObjectNoDuplicates pairs
          return (value, rest)
    | text => found (scanScalar text)

/-- The items of a list up to its closing bracket. -/
def scanItems : ℕ → ℕ → PyStr → Except PyError (List PyValue × PyStr)
  | 0, _, _ => .error .valueError
  | fuel + 1, depth, text => do
    let (item, rest) ← scanValue fuel depth text
    match skipSpace rest with
    | 0x5d :: rest => return ([item], rest)
    | 0x2c :: rest => do
      let (items, rest) ← scanItems fuel depth (skipSpace rest)
      return (item :: items, rest)
    | _ => .error .valueError

/-- The members of an object up to its closing brace. -/
def scanMembers : ℕ → ℕ → PyStr → Except PyError (List (PyStr × PyValue) × PyStr)
  | 0, _, _ => .error .valueError
  | fuel + 1, depth, text =>
    match text with
    | 0x22 :: rest => do
      let (key, rest) ← found (scanString rest)
      match skipSpace rest with
      | 0x3a :: rest => do
        let (value, rest) ← scanValue fuel depth (skipSpace rest)
        match skipSpace rest with
        | 0x7d :: rest => return ([(key, value)], rest)
        | 0x2c :: rest => do
          let (members, rest) ← scanMembers fuel depth (skipSpace rest)
          return ((key, value) :: members, rest)
        | _ => .error .valueError
      | _ => .error .valueError
    | _ => .error .valueError

end

/-! ### Fuel -/

theorem length_skipSpace_le (text : PyStr) : (skipSpace text).length ≤ text.length :=
  (List.dropWhile_suffix isSpace).length_le

theorem spanDigits_shortens (text : PyStr) :
    (spanDigits text).1.length + (spanDigits text).2.length = text.length := by
  rw [spanDigits, List.span_eq_takeWhile_dropWhile, ← List.length_append,
    List.takeWhile_append_dropWhile]

theorem scanString_shortens {text value rest : PyStr} (h : scanString text = some (value, rest)) :
    rest.length < text.length := by
  fun_induction scanString text generalizing value rest with
  | case1 => cases h
  | case2 => cases h; simp
  | case3 => cases h
  | case4 a b c d tail _ _ ih =>
    simp only [Option.bind_eq_bind, Option.bind_eq_some_iff] at h
    obtain ⟨a, -, b, -, c, -, d, -, ⟨value', rest'⟩, hscan, heq⟩ := h
    cases heq
    have := ih hscan
    simp only [List.length_cons]
    omega
  | case5 letter tail _ _ _ ih =>
    simp only [Option.bind_eq_bind, Option.bind_eq_some_iff] at h
    obtain ⟨c, -, ⟨value', rest'⟩, hscan, heq⟩ := h
    cases heq
    have := ih hscan
    simp only [List.length_cons]
    omega
  | case6 => cases h
  | case7 c tail _ _ _ ih =>
    simp only [Option.bind_eq_bind, Option.bind_eq_some_iff] at h
    obtain ⟨⟨value', rest'⟩, hscan, heq⟩ := h
    cases heq
    have := ih hscan
    simp only [List.length_cons]
    omega

theorem scanInteger_shortens {text digits rest : PyStr}
    (h : scanInteger text = some (digits, rest)) :
    rest.length < text.length := by
  unfold scanInteger at h
  split at h
  · cases h
    simp
  · have hlength := spanDigits_shortens text
    split at h
    · cases h
    · rename_i digits' rest' hne hspan
      cases h
      rw [hspan] at hlength
      have hpos := List.length_pos_of_ne_nil hne
      dsimp only at hlength
      omega

theorem scanFraction_shortens {text digits rest : PyStr}
    (h : scanFraction text = some (digits, rest)) : rest.length ≤ text.length := by
  unfold scanFraction at h
  split at h
  · rename_i tail
    have hlength := spanDigits_shortens tail
    split at h
    · cases h
    · rename_i digits' rest' hne hspan
      cases h
      rw [hspan] at hlength
      dsimp only at hlength
      rw [List.length_cons]
      omega
  · cases h

theorem scanExponent_shortens {text rest : PyStr} {exponent : ℤ}
    (h : scanExponent text = some (exponent, rest)) : rest.length ≤ text.length := by
  have hdigits {tail : PyStr} {negative : Bool}
      (h : (match spanDigits tail with
        | ([], _) => none
        | (digits, rest) =>
          some ((if negative then -digitsValue digits else digitsValue digits : ℤ), rest)) =
        some (exponent, rest)) : rest.length ≤ tail.length := by
    have hlength := spanDigits_shortens tail
    split at h
    · cases h
    · rename_i digits' rest' hne hspan
      cases h
      rw [hspan] at hlength
      dsimp only at hlength
      omega
  unfold scanExponent at h
  split at h
  · split_ifs at h
    have hle := hdigits h
    rw [List.length_cons]
    refine hle.trans ?_
    split <;> simp only [List.length_cons] <;> omega
  · cases h

theorem scanNumber_shortens {negative : Bool} {text rest : PyStr} {value : PyValue}
    (h : scanNumber negative text = some (value, rest)) : rest.length < text.length := by
  unfold scanNumber at h
  rw [Option.bind_eq_bind, Option.bind_eq_some_iff] at h
  obtain ⟨⟨int, tail⟩, hint, h⟩ := h
  have hshort := scanInteger_shortens hint
  dsimp only at h
  split at h
  · rename_i fraction tail' hfraction
    have hle := scanFraction_shortens hfraction
    cases h
    cases hexponent : scanExponent tail' with
    | none =>
      rw [Option.getD_none]
      dsimp only
      omega
    | some found =>
      have hle' := scanExponent_shortens hexponent
      rw [Option.getD_some]
      omega
  · rename_i exponent tail' _ hexponent
    have hle := scanExponent_shortens hexponent
    cases h
    omega
  · by_cases hlong : intMaxStrDigits < int.length
    · rw [if_pos hlong] at h
      cases h
    · rw [if_neg hlong] at h
      cases h
      exact hshort

theorem scanScalar_shortens {text rest : PyStr} {value : PyValue}
    (h : scanScalar text = some (value, rest)) : rest.length < text.length := by
  unfold scanScalar at h
  split at h
  · rename_i name value' hfind
    cases h
    have hfound := List.find?_some hfind
    have hle := (of_decide_eq_true hfound).length_le
    have hpos : 0 < name.length := by
      have hall : ∀ constant ∈ constants, 0 < constant.1.length := by decide
      exact hall _ (List.mem_of_find?_eq_some hfind)
    rw [List.length_drop]
    dsimp only at hle
    omega
  · split at h
    · have := scanNumber_shortens h
      rw [List.length_cons]
      omega
    · exact scanNumber_shortens h

theorem found_eq_ok {α : Type} {x : Option α} {a : α} (h : found x = .ok a) : x = some a := by
  cases x with
  | none => cases h
  | some b => exact congrArg some (Except.ok.inj h)

/-- What is left after the first character of trimmed text is shorter. -/
theorem lt_of_skipSpace {text rest : PyStr} {c : ℕ} (h : skipSpace text = c :: rest) :
    rest.length < text.length := by
  have hle := length_skipSpace_le text
  rw [h, List.length_cons] at hle
  exact hle

/-- The scanners consume text. -/
structure Shortens (fuel : ℕ) : Prop where
  value {depth : ℕ} {text rest : PyStr} {v : PyValue} :
    scanValue fuel depth text = .ok (v, rest) → rest.length < text.length
  items {depth : ℕ} {text rest : PyStr} {vs : List PyValue} :
    scanItems fuel depth text = .ok (vs, rest) → rest.length < text.length
  members {depth : ℕ} {text rest : PyStr} {ms : List (PyStr × PyValue)} :
    scanMembers fuel depth text = .ok (ms, rest) → rest.length < text.length

theorem shortens (fuel : ℕ) : Shortens fuel := by
  induction fuel with
  | zero => exact ⟨by rintro _ _ _ _ ⟨⟩, by rintro _ _ _ _ ⟨⟩, by rintro _ _ _ _ ⟨⟩⟩
  | succ fuel ih =>
    refine ⟨?_, ?_, ?_⟩
    · intro depth text rest v h
      unfold scanValue at h
      split at h
      · obtain ⟨⟨value, rest'⟩, hscan, heq⟩ := map_eq_ok h
        cases heq
        have hlt := scanString_shortens (found_eq_ok hscan)
        rw [List.length_cons]
        omega
      · rename_i tail
        have hle := length_skipSpace_le tail
        split at h
        · cases h
        · split at h
          · rename_i hskip
            cases h
            have hlt := lt_of_skipSpace hskip
            rw [List.length_cons]
            omega
          · obtain ⟨⟨items, rest'⟩, hscan, heq⟩ := map_eq_ok h
            cases heq
            have hlt := ih.items hscan
            rw [List.length_cons]
            omega
      · rename_i tail
        have hle := length_skipSpace_le tail
        split at h
        · cases h
        · split at h
          · rename_i hskip
            cases h
            have hlt := lt_of_skipSpace hskip
            rw [List.length_cons]
            omega
          · obtain ⟨⟨pairs, rest'⟩, hscan, h⟩ := bind_eq_ok h
            obtain ⟨value, -, heq⟩ := bind_eq_ok h
            cases heq
            have hlt := ih.members hscan
            rw [List.length_cons]
            omega
      · exact scanScalar_shortens (found_eq_ok h)
    · intro depth text rest vs h
      unfold scanItems at h
      obtain ⟨⟨item, tail⟩, hscan, h⟩ := bind_eq_ok h
      have hlt := ih.value hscan
      dsimp only at h
      split at h
      · rename_i hskip
        cases h
        have := lt_of_skipSpace hskip
        omega
      · rename_i tail' hskip
        have := lt_of_skipSpace hskip
        have := length_skipSpace_le tail'
        obtain ⟨⟨items, rest'⟩, hscan, heq⟩ := bind_eq_ok h
        cases heq
        have := ih.items hscan
        dsimp only
        omega
      · cases h
    · intro depth text rest ms h
      unfold scanMembers at h
      split at h
      · rename_i tail
        obtain ⟨⟨key, tail₁⟩, hkey, h⟩ := bind_eq_ok h
        have hlt := scanString_shortens (found_eq_ok hkey)
        dsimp only at h
        rw [List.length_cons]
        split at h
        · rename_i tail₂ hskip
          have := lt_of_skipSpace hskip
          have := length_skipSpace_le tail₂
          obtain ⟨⟨value, tail₃⟩, hvalue, h⟩ := bind_eq_ok h
          have := ih.value hvalue
          dsimp only at h
          split at h
          · rename_i hskip
            cases h
            have := lt_of_skipSpace hskip
            omega
          · rename_i tail₄ hskip
            have := lt_of_skipSpace hskip
            have := length_skipSpace_le tail₄
            obtain ⟨⟨members, rest'⟩, hscan, heq⟩ := bind_eq_ok h
            cases heq
            have := ih.members hscan
            dsimp only
            omega
          · cases h
        · cases h
      · cases h

/-- With fuel for the text, more fuel changes nothing. -/
structure Stable (fuel : ℕ) : Prop where
  value (depth : ℕ) {text : PyStr} : 2 * text.length + 1 ≤ fuel →
    scanValue (fuel + 1) depth text = scanValue fuel depth text
  items (depth : ℕ) {text : PyStr} : 2 * text.length + 2 ≤ fuel →
    scanItems (fuel + 1) depth text = scanItems fuel depth text
  members (depth : ℕ) {text : PyStr} : 2 * text.length + 2 ≤ fuel →
    scanMembers (fuel + 1) depth text = scanMembers fuel depth text

theorem stable (fuel : ℕ) : Stable fuel := by
  induction fuel with
  | zero => exact ⟨fun _ _ h => by omega, fun _ _ h => by omega, fun _ _ h => by omega⟩
  | succ fuel ih =>
    have hshort := shortens fuel
    refine ⟨?_, ?_, ?_⟩
    · intro depth text h
      unfold scanValue
      split
      · rfl
      · rename_i tail
        have hle := length_skipSpace_le tail
        rw [List.length_cons] at h
        split
        · rfl
        · split
          · rfl
          · rw [ih.items _ (by omega)]
      · rename_i tail
        have hle := length_skipSpace_le tail
        rw [List.length_cons] at h
        split
        · rfl
        · split
          · rfl
          · rw [ih.members _ (by omega)]
      · rfl
    · intro depth text h
      unfold scanItems
      rw [ih.value depth (by omega)]
      cases hvalue : scanValue fuel depth text with
      | error e => rfl
      | ok scanned =>
        obtain ⟨item, tail⟩ := scanned
        have hlt := hshort.value hvalue
        simp only [bind, Except.bind]
        split
        · rfl
        · rename_i tail' hskip
          have hlt' := lt_of_skipSpace hskip
          have hle := length_skipSpace_le tail'
          rw [ih.items depth (by omega)]
        · rfl
    · intro depth text h
      unfold scanMembers
      split
      · rename_i tail
        rw [List.length_cons] at h
        cases hkey : scanString tail with
        | none => rfl
        | some scanned =>
          obtain ⟨key, tail₁⟩ := scanned
          have hlt := scanString_shortens hkey
          simp only [found, bind, Except.bind]
          split
          · rename_i tail₂ hskip
            have hlt₁ := lt_of_skipSpace hskip
            have hle₁ := length_skipSpace_le tail₂
            rw [ih.value depth (by omega)]
            cases hvalue : scanValue fuel depth (skipSpace tail₂) with
            | error e => rfl
            | ok scanned =>
              obtain ⟨value, tail₃⟩ := scanned
              have hlt₂ := hshort.value hvalue
              dsimp only
              split
              · rfl
              · rename_i tail₄ hskip
                have hlt₃ := lt_of_skipSpace hskip
                have hle₂ := length_skipSpace_le tail₄
                rw [ih.members depth (by omega)]
              · rfl
          · rfl
      · rfl

/-- The fuel of `loads` is enough: with more of it the scanner finds the same. -/
theorem scanValue_fuel (depth : ℕ) (text : PyStr) {fuel : ℕ} (h : 2 * text.length + 1 ≤ fuel) :
    scanValue fuel depth text = scanValue (2 * text.length + 1) depth text := by
  induction fuel, h using Nat.le_induction with
  | base => rfl
  | succ fuel hfuel ih => rw [(stable fuel).value depth hfuel, ih]

/-- `json.loads(text, object_pairs_hook=_json_object_no_duplicates)` -/
def loads (depth : ℕ) (text : PyStr) : Except PyError PyValue := do
  -- a byte order mark
  if text.head? = some 0xfeff then throw .valueError
  let (value, rest) ← scanValue (2 * text.length + 2) depth (skipSpace text)
  match skipSpace rest with
  | [] => return value
  | _ :: _ => throw .valueError

/-! ## Integers

An integer that the scanner converted is short enough to be converted back. -/

theorem digitsValue_lt {digits : PyStr} (h : ∀ c ∈ digits, isDigit c = true) :
    digitsValue digits < 10 ^ digits.length := by
  suffices hfold : ∀ n, digits.foldl (fun n c => n * 10 + (c - 0x30)) n < (n + 1) * 10 ^
      digits.length by
    simpa [digitsValue] using hfold 0
  induction digits with
  | nil => simp
  | cons c digits ih =>
    intro n
    have hdigit := h c (by simp)
    simp only [isDigit, Bool.and_eq_true, decide_eq_true_eq] at hdigit
    have hlt := ih (fun c hc => h c (by simp [hc])) (n * 10 + (c - 0x30))
    rw [List.foldl_cons, List.length_cons, pow_succ]
    refine hlt.trans_le ?_
    calc (n * 10 + (c - 0x30) + 1) * 10 ^ digits.length
        ≤ (n + 1) * 10 * 10 ^ digits.length := by gcongr; omega
      _ = (n + 1) * (10 ^ digits.length * 10) := by ring

theorem scanInteger_digits {text digits rest : PyStr} (h : scanInteger text = some (digits, rest)) :
    ∀ c ∈ digits, isDigit c = true := by
  unfold scanInteger at h
  split at h
  · obtain ⟨rfl, -⟩ := Prod.mk.inj (Option.some.inj h)
    decide
  · split at h
    · cases h
    · rename_i digits' rest' _ hspan
      obtain ⟨rfl, rfl⟩ := Prod.mk.inj (Option.some.inj h)
      rw [spanDigits, List.span_eq_takeWhile_dropWhile] at hspan
      obtain ⟨rfl, -⟩ := Prod.mk.inj hspan
      exact List.all_eq_true.1 List.all_takeWhile

theorem scanNumber_intsPrintable {negative : Bool} {text rest : PyStr} {value : PyValue}
    (h : scanNumber negative text = some (value, rest)) : value.intsPrintable = true := by
  unfold scanNumber at h
  rw [Option.bind_eq_bind, Option.bind_eq_some_iff] at h
  obtain ⟨⟨int, tail⟩, hint, h⟩ := h
  dsimp only at h
  split at h
  · cases h
    rfl
  · cases h
    rfl
  · by_cases hlong : intMaxStrDigits < int.length
    · rw [if_pos hlong] at h
      cases h
    · rw [if_neg hlong] at h
      obtain ⟨rfl, -⟩ := Prod.mk.inj (Option.some.inj h)
      have hlt : digitsValue int < 10 ^ intMaxStrDigits :=
        (digitsValue_lt (scanInteger_digits hint)).trans_le
          (Nat.pow_le_pow_right (by omega) (not_lt.1 hlong))
      have hlength : (decimal (digitsValue int)).length ≤ intMaxStrDigits := by
        rw [decimal, List.length_map]
        exact (Nat.length_toDigits_le_iff (by omega) (by decide)).2 hlt
      cases negative <;> simpa [PyValue.intsPrintable, PyValue.all] using hlength

theorem scanScalar_intsPrintable {text rest : PyStr} {value : PyValue}
    (h : scanScalar text = some (value, rest)) : value.intsPrintable = true := by
  unfold scanScalar at h
  split at h
  · rename_i name value' hfind
    obtain ⟨rfl, -⟩ := Prod.mk.inj (Option.some.inj h)
    have hall : ∀ constant ∈ constants, constant.2.intsPrintable = true := by decide
    exact hall _ (List.mem_of_find?_eq_some hfind)
  · split at h
    · exact scanNumber_intsPrintable h
    · exact scanNumber_intsPrintable h

/-- The integers of what the scanners find are short. -/
structure Printable (fuel : ℕ) : Prop where
  value {depth : ℕ} {text rest : PyStr} {v : PyValue} :
    scanValue fuel depth text = .ok (v, rest) → v.intsPrintable = true
  items {depth : ℕ} {text rest : PyStr} {vs : List PyValue} :
    scanItems fuel depth text = .ok (vs, rest) → (PyValue.list vs).intsPrintable = true
  members {depth : ℕ} {text rest : PyStr} {ms : List (PyStr × PyValue)} :
    scanMembers fuel depth text = .ok (ms, rest) → (PyValue.dict ms).intsPrintable = true

theorem intsPrintable_list_cons {v : PyValue} {vs : List PyValue} (hv : v.intsPrintable = true)
    (hvs : (PyValue.list vs).intsPrintable = true) :
    (PyValue.list (v :: vs)).intsPrintable = true :=
  Bool.and_eq_true_iff.2 ⟨hv, hvs⟩

theorem intsPrintable_dict_cons {key : PyStr} {v : PyValue} {ms : List (PyStr × PyValue)}
    (hv : v.intsPrintable = true) (hms : (PyValue.dict ms).intsPrintable = true) :
    (PyValue.dict ((key, v) :: ms)).intsPrintable = true :=
  Bool.and_eq_true_iff.2 ⟨hv, hms⟩

theorem jsonObjectNoDuplicates_eq_ok {pairs : List (PyStr × PyValue)} {value : PyValue}
    (h : jsonObjectNoDuplicates pairs = .ok value) : value = .dict pairs := by
  unfold jsonObjectNoDuplicates at h
  split_ifs at h
  exact (Except.ok.inj h).symm

theorem printable (fuel : ℕ) : Printable fuel := by
  induction fuel with
  | zero => exact ⟨by rintro _ _ _ _ ⟨⟩, by rintro _ _ _ _ ⟨⟩, by rintro _ _ _ _ ⟨⟩⟩
  | succ fuel ih =>
    refine ⟨?_, ?_, ?_⟩
    · intro depth text rest v h
      unfold scanValue at h
      split at h
      · obtain ⟨⟨value, rest'⟩, -, heq⟩ := map_eq_ok h
        cases heq
        rfl
      · split at h
        · cases h
        · split at h
          · cases h
            rfl
          · obtain ⟨⟨items, rest'⟩, hscan, heq⟩ := map_eq_ok h
            cases heq
            exact ih.items hscan
      · split at h
        · cases h
        · split at h
          · cases h
            rfl
          · obtain ⟨⟨pairs, rest'⟩, hscan, h⟩ := bind_eq_ok h
            obtain ⟨value, hvalue, heq⟩ := bind_eq_ok h
            cases heq
            rw [jsonObjectNoDuplicates_eq_ok hvalue]
            exact ih.members hscan
      · exact scanScalar_intsPrintable (found_eq_ok h)
    · intro depth text rest vs h
      unfold scanItems at h
      obtain ⟨⟨item, tail⟩, hscan, h⟩ := bind_eq_ok h
      have hitem := ih.value hscan
      dsimp only at h
      split at h
      · cases h
        exact intsPrintable_list_cons hitem rfl
      · obtain ⟨⟨items, rest'⟩, hscan, heq⟩ := bind_eq_ok h
        cases heq
        exact intsPrintable_list_cons hitem (ih.items hscan)
      · cases h
    · intro depth text rest ms h
      unfold scanMembers at h
      split at h
      · obtain ⟨⟨key, tail₁⟩, -, h⟩ := bind_eq_ok h
        dsimp only at h
        split at h
        · obtain ⟨⟨value, tail₂⟩, hvalue, h⟩ := bind_eq_ok h
          have hprintable := ih.value hvalue
          dsimp only at h
          split at h
          · cases h
            exact intsPrintable_dict_cons hprintable rfl
          · obtain ⟨⟨members, rest'⟩, hscan, heq⟩ := bind_eq_ok h
            cases heq
            exact intsPrintable_dict_cons hprintable (ih.members hscan)
          · cases h
        · cases h
      · cases h

theorem loads_intsPrintable {depth : ℕ} {text : PyStr} {value : PyValue}
    (h : loads depth text = .ok value) : value.intsPrintable = true := by
  unfold loads at h
  split_ifs at h
  · cases h
  · obtain ⟨⟨value', rest⟩, hscan, h⟩ := bind_eq_ok h
    dsimp only at h
    split at h
    · obtain rfl := Except.ok.inj h
      exact (printable _).value hscan
    · cases h

end SelfRelay.Python
