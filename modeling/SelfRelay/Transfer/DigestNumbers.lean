import SelfRelay.Js.Bitwise
import SelfRelay.Transfer.Payload
import SelfRelay.Transfer.Digest

/-!
# The digest on numbers

`process` computes on JavaScript numbers: its 32-bit operators return signed integers, the typed
arrays hold unsigned ones, and a sum of five of either is far below `2 ^ 53`, so that `+` is exact.
`processNumbers` is that computation and `processBlock` is what it does to the words
(`processNumbers_eq`); with it the whole digest is SHA-256, however its input is cut
(`incrementalSha256_eq`).
-/

namespace SelfRelay

/-! ## The computation -/

/-- `rotateRight` -/
def rotateRightNumber (value : ℤ) (amount : ℕ) : ℤ :=
  bitOr (shiftRightUnsigned value amount) (shiftLeft value (32 - amount))

/-- `words[index]`, from the words before it. -/
def fillNumber (words : List ℤ) : ℤ :=
  let index := words.length
  let s0 := bitXor (bitXor (rotateRightNumber (words.getD (index - 15) 0) 7)
    (rotateRightNumber (words.getD (index - 15) 0) 18))
    (shiftRightUnsigned (words.getD (index - 15) 0) 3)
  let s1 := bitXor (bitXor (rotateRightNumber (words.getD (index - 2) 0) 17)
    (rotateRightNumber (words.getD (index - 2) 0) 19))
    (shiftRightUnsigned (words.getD (index - 2) 0) 10)
  shiftRightUnsigned (words.getD (index - 16) 0 + s0 + words.getD (index - 7) 0 + s1) 0

/-- The loop that fills `words[16]` to `words[63]`. -/
def fillNumbers : ℕ → List ℤ → List ℤ
  | 0, words => words
  | n + 1, words => fillNumbers n (words ++ [fillNumber words])

/-- The variables `a` to `h`. -/
structure Registers where
  a : ℤ
  b : ℤ
  c : ℤ
  d : ℤ
  e : ℤ
  f : ℤ
  g : ℤ
  h : ℤ
  deriving DecidableEq, Repr

/-- One turn of the loop over the 64 rounds. -/
def roundNumbers (s : Registers) (kw : ℤ × ℤ) : Registers :=
  let sigma1 := bitXor (bitXor (rotateRightNumber s.e 6) (rotateRightNumber s.e 11))
    (rotateRightNumber s.e 25)
  let choice := bitXor (bitAnd s.e s.f) (bitAnd (bitNot s.e) s.g)
  let temporary1 := shiftRightUnsigned (s.h + sigma1 + choice + kw.1 + kw.2) 0
  let sigma0 := bitXor (bitXor (rotateRightNumber s.a 2) (rotateRightNumber s.a 13))
    (rotateRightNumber s.a 22)
  let majority := bitXor (bitXor (bitAnd s.a s.b) (bitAnd s.a s.c)) (bitAnd s.b s.c)
  let temporary2 := shiftRightUnsigned (sigma0 + majority) 0
  { h := s.g, g := s.f, f := s.e, e := shiftRightUnsigned (s.d + temporary1) 0, d := s.c,
    c := s.b, b := s.a,
    a := shiftRightUnsigned (temporary1 + temporary2) 0 }

/-- `let [a, b, c, d, e, f, g, h] = this.state` -/
def Registers.ofState (state : List ℤ) : Registers :=
  ⟨state.getD 0 0, state.getD 1 0, state.getD 2 0, state.getD 3 0, state.getD 4 0, state.getD 5 0,
    state.getD 6 0, state.getD 7 0⟩

/-- The number of a word. -/
def wordNumber (w : UInt32) : ℤ := w.toNat

/-- `process` -/
def processNumbers (state : List ℤ) (block : Bytes) : List ℤ :=
  let words := fillNumbers 48 ((Sha256.words block).map wordNumber)
  let s := ((Sha256.constants.map wordNumber).zip words).foldl roundNumbers
    (Registers.ofState state)
  List.zipWith (fun x y => shiftRightUnsigned (x + y) 0) state [s.a, s.b, s.c, s.d, s.e,
    s.f, s.g, s.h]

/-! ## Numbers and words -/

theorem bits_wordNumber (w : UInt32) : bits (wordNumber w) = w.toBitVec := by
  rw [wordNumber, bits_natCast, ← UInt32.toNat_toBitVec, BitVec.ofNat_toNat, BitVec.setWidth_eq]

/-- A number taken modulo `2 ^ 32` is the word with its bits. -/
theorem shiftRightUnsigned_zero_eq {x : ℤ} {w : UInt32} (h : bits x = w.toBitVec) :
    shiftRightUnsigned x 0 = wordNumber w := by
  rw [shiftRightUnsigned_zero, h, UInt32.toNat_toBitVec, wordNumber]

theorem addWords (v w : UInt32) : shiftRightUnsigned (wordNumber v + wordNumber w) 0 =
    wordNumber (v + w) := by
  apply shiftRightUnsigned_zero_eq
  rw [bits_add, bits_wordNumber, bits_wordNumber, UInt32.toBitVec_add]

theorem bits_rotateRightNumber (w : UInt32) {n : ℕ} {amount : UInt32} (hamount : amount.toNat = n)
    (hlt : n < 32) : bits (rotateRightNumber (wordNumber w) n) =
      (rotateRight w amount).toBitVec := by
  have hright : (amount.toBitVec % 32).toNat = n % 32 := by
    rw [BitVec.toNat_umod, UInt32.toNat_toBitVec, hamount]
    rfl
  have hsub : (32 - amount).toNat = 32 - n := by
    rw [UInt32.toNat_sub_of_le _ _ (by rw [UInt32.le_iff_toNat_le, hamount]; exact hlt.le), hamount]
    rfl
  have hleft : ((32 - amount).toBitVec % 32).toNat = (32 - n) % 32 := by
    rw [BitVec.toNat_umod, UInt32.toNat_toBitVec, hsub]
    rfl
  rw [rotateRightNumber, bits_bitOr, bits_shiftRightUnsigned, bits_shiftLeft, bits_wordNumber,
    rotateRight,
    UInt32.toBitVec_or, UInt32.toBitVec_shiftRight, UInt32.toBitVec_shiftLeft,
    BitVec.ushiftRight_eq',
    BitVec.shiftLeft_eq', hright, hleft]

theorem bits_shiftRight (w : UInt32) {n : ℕ} {amount : UInt32} (hamount : amount.toNat = n) :
    bits (shiftRightUnsigned (wordNumber w) n) = (w >>> amount).toBitVec := by
  have hright : (amount.toBitVec % 32).toNat = n % 32 := by
    rw [BitVec.toNat_umod, UInt32.toNat_toBitVec, hamount]
    rfl
  rw [bits_shiftRightUnsigned, bits_wordNumber, UInt32.toBitVec_shiftRight,
    BitVec.ushiftRight_eq', hright]

theorem getD_map_wordNumber (words : List UInt32) (i : ℕ) :
    (words.map wordNumber).getD i 0 = wordNumber (words.getD i 0) := by
  rw [List.getD_eq_getElem?_getD, List.getD_eq_getElem?_getD, List.getElem?_map]
  cases words[i]? with
  | none => rfl
  | some w => rfl

/-! ## One block -/

theorem fillNumber_eq (words : List UInt32) :
    fillNumber (words.map wordNumber) = wordNumber (fillWord words) := by
  have h7 (w : UInt32) :=
    bits_rotateRightNumber w (show (7 : UInt32).toNat = 7 from rfl) (by decide)
  have h18 (w : UInt32) :=
    bits_rotateRightNumber w (show (18 : UInt32).toNat = 18 from rfl) (by decide)
  have h17 (w : UInt32) :=
    bits_rotateRightNumber w (show (17 : UInt32).toNat = 17 from rfl) (by decide)
  have h19 (w : UInt32) :=
    bits_rotateRightNumber w (show (19 : UInt32).toNat = 19 from rfl) (by decide)
  have h3 (w : UInt32) := bits_shiftRight w (show (3 : UInt32).toNat = 3 from rfl)
  have h10 (w : UInt32) := bits_shiftRight w (show (10 : UInt32).toNat = 10 from rfl)
  apply shiftRightUnsigned_zero_eq
  simp only [List.length_map, getD_map_wordNumber, bits_add, bits_bitXor, bits_wordNumber, h7,
    h18, h17, h19,
    h3, h10, fillWord, UInt32.toBitVec_add, UInt32.toBitVec_xor]

theorem fillNumbers_eq (n : ℕ) (words : List UInt32) :
    fillNumbers n (words.map wordNumber) = (fillWords n words).map wordNumber := by
  induction n generalizing words with
  | zero => rfl
  | succ n ih =>
    have hmap : (words ++ [fillWord words]).map wordNumber =
        words.map wordNumber ++ [fillNumber (words.map wordNumber)] := by
      rw [fillNumber_eq, List.map_append, List.map_singleton]
    rw [fillNumbers, fillWords, ← hmap, ih]

/-- The registers hold the numbers of the working variables. -/
def Registers.ofWorking (s : Sha256.Working) : Registers :=
  ⟨wordNumber s.a, wordNumber s.b, wordNumber s.c, wordNumber s.d, wordNumber s.e, wordNumber s.f,
    wordNumber s.g, wordNumber s.h⟩

theorem roundNumbers_eq (s : Sha256.Working) (k w : UInt32) :
    roundNumbers (.ofWorking s)
      (wordNumber k, wordNumber w) = .ofWorking (processRound s (k, w)) := by
  have h2 (w : UInt32) :=
    bits_rotateRightNumber w (show (2 : UInt32).toNat = 2 from rfl) (by decide)
  have h6 (w : UInt32) :=
    bits_rotateRightNumber w (show (6 : UInt32).toNat = 6 from rfl) (by decide)
  have h11 (w : UInt32) :=
    bits_rotateRightNumber w (show (11 : UInt32).toNat = 11 from rfl) (by decide)
  have h13 (w : UInt32) :=
    bits_rotateRightNumber w (show (13 : UInt32).toNat = 13 from rfl) (by decide)
  have h22 (w : UInt32) :=
    bits_rotateRightNumber w (show (22 : UInt32).toNat = 22 from rfl) (by decide)
  have h25 (w : UInt32) :=
    bits_rotateRightNumber w (show (25 : UInt32).toNat = 25 from rfl) (by decide)
  have htemporary1 : shiftRightUnsigned
    (wordNumber s.h + bitXor (bitXor (rotateRightNumber (wordNumber s.e) 6)
      (rotateRightNumber (wordNumber s.e) 11)) (rotateRightNumber (wordNumber s.e) 25) +
        bitXor (bitAnd (wordNumber s.e) (wordNumber s.f))
          (bitAnd (bitNot (wordNumber s.e)) (wordNumber s.g)) +
          wordNumber k + wordNumber w) 0 =
      wordNumber (s.h + (rotateRight s.e 6 ^^^ rotateRight s.e 11 ^^^ rotateRight s.e 25) +
        ((s.e &&& s.f) ^^^ (~~~s.e &&& s.g)) + k + w) := by
    apply shiftRightUnsigned_zero_eq
    simp only [bits_add, bits_bitXor, bits_bitAnd, bits_bitNot, bits_wordNumber, h6, h11, h25,
      UInt32.toBitVec_add, UInt32.toBitVec_xor, UInt32.toBitVec_and, UInt32.toBitVec_not]
  have htemporary2 : shiftRightUnsigned (bitXor (bitXor (rotateRightNumber (wordNumber s.a) 2)
      (rotateRightNumber (wordNumber s.a) 13)) (rotateRightNumber (wordNumber s.a) 22) +
        bitXor (bitXor (bitAnd (wordNumber s.a) (wordNumber s.b))
          (bitAnd (wordNumber s.a) (wordNumber s.c)))
          (bitAnd (wordNumber s.b) (wordNumber s.c))) 0 =
      wordNumber ((rotateRight s.a 2 ^^^ rotateRight s.a 13 ^^^ rotateRight s.a 22) +
        ((s.a &&& s.b) ^^^ (s.a &&& s.c) ^^^ (s.b &&& s.c))) := by
    apply shiftRightUnsigned_zero_eq
    simp only [bits_add, bits_bitXor, bits_bitAnd, bits_wordNumber, h2, h13, h22,
      UInt32.toBitVec_add,
      UInt32.toBitVec_xor, UInt32.toBitVec_and]
  simp only [roundNumbers, Registers.ofWorking, htemporary1, htemporary2, addWords]
  rfl

theorem foldl_roundNumbers (kws : List (UInt32 × UInt32)) (s : Sha256.Working) :
    (kws.map fun kw => (wordNumber kw.1, wordNumber kw.2)).foldl roundNumbers (.ofWorking s) =
      .ofWorking (kws.foldl processRound s) := by
  induction kws generalizing s with
  | nil => rfl
  | cons kw kws ih => rw [List.map_cons, List.foldl_cons, List.foldl_cons, roundNumbers_eq, ih]

/-- On the numbers of some words `process` computes the numbers of what it does to the words. -/
theorem processNumbers_eq (state : List UInt32) (block : Bytes) :
    processNumbers (state.map wordNumber) block = (processBlock state block).map wordNumber := by
  have hstate : Registers.ofState (state.map wordNumber) =
      .ofWorking (Sha256.Working.ofHash state) := by
    simp only [Registers.ofState, getD_map_wordNumber]
    rfl
  have hzip (words : List UInt32) : (Sha256.constants.map wordNumber).zip (words.map wordNumber) =
      (Sha256.constants.zip words).map fun kw => (wordNumber kw.1, wordNumber kw.2) := by
    rw [List.zip_map]
    rfl
  rw [processNumbers, fillNumbers_eq, hstate, hzip, foldl_roundNumbers, processBlock,
    List.map_zipWith]
  set s := (Sha256.constants.zip (fillWords 48 (Sha256.words block))).foldl processRound
    (Sha256.Working.ofHash state)
  have hregisters : [(Registers.ofWorking s).a, (Registers.ofWorking s).b,
    (Registers.ofWorking s).c,
      (Registers.ofWorking s).d, (Registers.ofWorking s).e, (Registers.ofWorking s).f,
      (Registers.ofWorking s).g, (Registers.ofWorking s).h] =
      [s.a, s.b, s.c, s.d, s.e, s.f, s.g, s.h].map wordNumber := rfl
  simp only [hregisters, List.zipWith_map, addWords]

/-! ## The digest of a run -/

namespace IncrementalSha256

theorem Absorbed.exists_update {d : IncrementalSha256} {message : Bytes} (hd : d.Absorbed message)
    (bytes : Bytes) (hle : message.length + bytes.length ≤ JsNumber.maxSafeInteger) :
    ∃ e, d.update bytes = .ok e ∧ e.Absorbed (message ++ bytes) := by
  have hfits : ¬ d.totalBytes + bytes.length > JsNumber.maxSafeInteger := by
    rw [hd.total]
    exact not_lt.2 hle
  have hnot : ¬ d.finalized = true := by
    rw [hd.finalized]
    decide
  have hok : ∃ e, d.update bytes = .ok e := by
    rw [IncrementalSha256.update, throwIf_of_not hnot, ok_bind, throwIf_of_not hfits, ok_bind]
    dsimp only
    split_ifs
    · exact ⟨_, rfl⟩
    · exact ⟨_, rfl⟩
  obtain ⟨e, he⟩ := hok
  exact ⟨e, he, hd.update he⟩

theorem Absorbed.exists_updates {d : IncrementalSha256} {message : Bytes} (hd : d.Absorbed message)
    (chunks : List Bytes)
    (hle : message.length + (chunks.map List.length).sum ≤ JsNumber.maxSafeInteger) :
    ∃ e, chunks.foldlM IncrementalSha256.update d = .ok e ∧
      e.Absorbed (message ++ chunks.flatten) := by
  induction chunks generalizing d message with
  | nil => exact ⟨d, rfl, by rwa [List.flatten_nil, List.append_nil]⟩
  | cons chunk chunks ih =>
    rw [List.map_cons, List.sum_cons] at hle
    obtain ⟨e, he, hseen⟩ := hd.exists_update chunk (by omega)
    obtain ⟨f, hf, hall⟩ := ih hseen (by rw [List.length_append]; omega)
    refine ⟨f, ?_, ?_⟩
    · rw [List.foldlM_cons, he, ok_bind, hf]
    · rwa [List.flatten_cons, ← List.append_assoc]

/-- The digest has returned this output, and keeps it. -/
structure Finished (d : IncrementalSha256) (output : Bytes) : Prop where
  finalized : d.finalized = true
  finalDigest : d.finalDigest = some output

theorem Absorbed.exists_digest {d : IncrementalSha256} {message : Bytes} (hd : d.Absorbed message)
    (hle : message.length + 72 ≤ JsNumber.maxSafeInteger) :
    ∃ e, d.digest = .ok (Sha256.hash message, e) ∧ e.Finished (Sha256.hash message) := by
  have hpadding : d.padding.length ≤ 72 := by
    simp only [padding, List.length_append, List.length_cons, List.length_replicate,
      BigEndian.length_encode]
    split_ifs <;> omega
  obtain ⟨e, he, -⟩ := hd.exists_update d.padding (by omega)
  have hdigest : ∃ output,
      d.digest = .ok (output, { e with finalized := true, finalDigest := some output }) := by
    rw [IncrementalSha256.digest, hd.finalDigest]
    dsimp only
    rw [he, ok_bind]
    exact ⟨_, rfl⟩
  obtain ⟨output, hdigest⟩ := hdigest
  obtain rfl := hd.digest hdigest
  exact ⟨_, hdigest, rfl, rfl⟩

theorem Finished.digest {d : IncrementalSha256} {output : Bytes} (hd : d.Finished output) :
    d.digest = .ok (output, d) := by
  rw [IncrementalSha256.digest, hd.finalDigest]

theorem Finished.update {d : IncrementalSha256} {output : Bytes} (hd : d.Finished output)
    (bytes : Bytes) :
    d.update bytes = .error (protocolError "Digest is already finalized." "digest_finalized") := by
  rw [IncrementalSha256.update, throwIf, if_pos hd.finalized]
  rfl

/-- The digest of a file that may be sent is its SHA-256, in whatever pieces it came; a second
`digest` returns the same, and an `update` between them throws before it changes anything. -/
theorem incrementalSha256_eq (chunks : List Bytes)
    (hle : (chunks.map List.length).sum ≤ maxTransferBytes) :
    (∀ state block, processNumbers (List.map wordNumber state) block =
      (processBlock state block).map wordNumber) ∧
    ∃ d e, chunks.foldlM update new = .ok d ∧ d.digest = .ok (Sha256.hash chunks.flatten, e) ∧
      e.digest = .ok (Sha256.hash chunks.flatten, e) ∧
      ∀ bytes, e.update bytes = .error
        (protocolError "Digest is already finalized." "digest_finalized") := by
  have hsafe : maxTransferBytes + 72 ≤ JsNumber.maxSafeInteger := by decide
  obtain ⟨d, hd, hseen⟩ := absorbed_new.exists_updates chunks (by rw [List.length_nil]; omega)
  rw [List.nil_append] at hseen
  have hlen : chunks.flatten.length = (chunks.map List.length).sum := List.length_flatten
  obtain ⟨e, he, hfinished⟩ := hseen.exists_digest (by omega)
  exact ⟨processNumbers_eq, d, e, hd, he, hfinished.digest, hfinished.update⟩

/-- Four bytes in two pieces. -/
theorem incrementalSha256_eq_pieces :
    ∃ d e, ([[0x74, 0x65], [0x73, 0x74]] : List Bytes).foldlM update new = .ok d ∧
      d.digest = .ok (Sha256.hash [0x74, 0x65, 0x73, 0x74], e) := by
  obtain ⟨-, d, e, hd, he, -⟩ := incrementalSha256_eq [[0x74, 0x65], [0x73, 0x74]] (by decide)
  exact ⟨d, e, hd, he⟩

end IncrementalSha256

end SelfRelay
