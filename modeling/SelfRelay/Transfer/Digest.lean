import SelfRelay.Js.Number
import SelfRelay.Lib.Sha256
import SelfRelay.Protocol.Frame

/-!
# The incremental digest

`IncrementalSha256`: a buffer of 64 bytes in front of the compression function, so that a file can
be hashed chunk by chunk.  `Absorbed` says which message a digest has seen; `update` appends to it
(`Absorbed.update`) and `digest` returns its SHA-256 (`Absorbed.digest`).
-/

namespace SelfRelay

/-! ## The compression function of the source -/

/-- `rotateRight` -/
def rotateRight (value amount : UInt32) : UInt32 := (value >>> amount) ||| (value <<< (32 - amount))

/-- `words[index]` from the words before it. -/
def fillWord (words : List UInt32) : UInt32 :=
  let index := words.length
  let s0 := rotateRight (words.getD (index - 15) 0) 7 ^^^
    rotateRight (words.getD (index - 15) 0) 18 ^^^ (words.getD (index - 15) 0 >>> 3)
  let s1 := rotateRight (words.getD (index - 2) 0) 17 ^^^
    rotateRight (words.getD (index - 2) 0) 19 ^^^ (words.getD (index - 2) 0 >>> 10)
  words.getD (index - 16) 0 + s0 + words.getD (index - 7) 0 + s1

/-- The loop that fills `words[16]` to `words[63]`. -/
def fillWords : ℕ → List UInt32 → List UInt32
  | 0, words => words
  | n + 1, words => fillWords n (words ++ [fillWord words])

/-- One turn of the loop over the 64 rounds. -/
def processRound (s : Sha256.Working) (kw : UInt32 × UInt32) : Sha256.Working :=
  let sigma1 := rotateRight s.e 6 ^^^ rotateRight s.e 11 ^^^ rotateRight s.e 25
  let choice := (s.e &&& s.f) ^^^ (~~~s.e &&& s.g)
  let temporary1 := s.h + sigma1 + choice + kw.1 + kw.2
  let sigma0 := rotateRight s.a 2 ^^^ rotateRight s.a 13 ^^^ rotateRight s.a 22
  let majority := (s.a &&& s.b) ^^^ (s.a &&& s.c) ^^^ (s.b &&& s.c)
  let temporary2 := sigma0 + majority
  { h := s.g, g := s.f, f := s.e, e := s.d + temporary1, d := s.c, c := s.b, b := s.a,
    a := temporary1 + temporary2 }

/-- `process` -/
def processBlock (state : List UInt32) (block : Bytes) : List UInt32 :=
  let words := fillWords 48 (Sha256.words block)
  let s := (Sha256.constants.zip words).foldl processRound (Sha256.Working.ofHash state)
  List.zipWith (· + ·) state [s.a, s.b, s.c, s.d, s.e, s.f, s.g, s.h]

theorem fillWord_eq (words : List UInt32) : fillWord words = Sha256.nextWord words := by
  have hsum (a b c d : UInt32) : a + b + c + d = d + c + b + a := by ac_rfl
  exact hsum _ _ _ _

theorem fillWords_eq (n : ℕ) (words : List UInt32) :
    fillWords n words = Sha256.schedule n words := by
  induction n generalizing words with
  | zero => rfl
  | succ n ih =>
    rw [fillWords, Sha256.schedule, ih, fillWord_eq]

theorem processBlock_eq (state : List UInt32) (block : Bytes) :
    processBlock state block = Sha256.compress state block := by
  rw [processBlock, Sha256.compress, fillWords_eq]
  rfl

/-! ## The buffer -/

/-- The fields of `IncrementalSha256`. -/
structure IncrementalSha256 where
  state : List UInt32
  buffer : Bytes
  bufferLength : ℕ
  totalBytes : ℕ
  finalized : Bool
  finalDigest : Option Bytes
  deriving DecidableEq, Repr

/-- `target.set(source, offset)` -/
def setBytes (target source : Bytes) (offset : ℕ) : Bytes :=
  target.take offset ++ source ++ target.drop (offset + source.length)

namespace IncrementalSha256

/-- `new IncrementalSha256()` -/
def new : IncrementalSha256 := ⟨Sha256.initial, List.replicate 64 0, 0, 0, false, none⟩

/-- The loop of `update` over the complete blocks behind `offset`. -/
def processBlocks (state : List UInt32) (bytes : Bytes) (offset : ℕ) : ℕ → List UInt32 × ℕ
  | 0 => (state, offset)
  | fuel + 1 =>
    if offset + 64 ≤ bytes.length then
      processBlocks (processBlock state (slice bytes offset (offset + 64))) bytes (offset + 64) fuel
    else (state, offset)

/-- The first part of `update`: fill the buffer and process it when it is full. -/
def fillBuffer (d : IncrementalSha256) (bytes : Bytes) : IncrementalSha256 × ℕ :=
  if d.bufferLength > 0 then
    let copied := min (64 - d.bufferLength) bytes.length
    let buffer := setBytes d.buffer (slice bytes 0 copied) d.bufferLength
    if d.bufferLength + copied = 64 then
      ({ d with state := processBlock d.state buffer, buffer, bufferLength := 0 }, copied)
    else ({ d with buffer, bufferLength := d.bufferLength + copied }, copied)
  else (d, 0)

/-- `update` -/
def update (d : IncrementalSha256) (bytes : Bytes) : Checked IncrementalSha256 := do
  throwIf (d.finalized = true) (protocolError "Digest is already finalized." "digest_finalized")
  throwIf (d.totalBytes + bytes.length > JsNumber.maxSafeInteger)
    (protocolError "Digest input is too large." "file_too_large")
  let (d, offset) := fillBuffer { d with totalBytes := d.totalBytes + bytes.length } bytes
  let (state, offset) := processBlocks d.state bytes offset (bytes.length / 64)
  if offset < bytes.length then
    return { d with
      state
      buffer := setBytes d.buffer (bytes.drop offset) 0
      bufferLength := bytes.length - offset }
  else return { d with state }

/-- The padding that `digest` appends. -/
def padding (d : IncrementalSha256) : Bytes :=
  let paddingLength := if d.bufferLength < 56 then 56 - d.bufferLength else 120 - d.bufferLength
  0x80 :: List.replicate (paddingLength - 1) 0 ++ BigEndian.encode 8 (d.totalBytes * 8)

/-- `digest`, with the digest object it leaves behind. -/
def digest (d : IncrementalSha256) : Checked (Bytes × IncrementalSha256) :=
  match d.finalDigest with
  | some output => .ok (output, d)
  | none => do
    let d ← d.update d.padding
    let output := d.state.flatMap fun w => BigEndian.encode 4 w.toNat
    return (output, { d with finalized := true, finalDigest := some output })

/-! ## What a digest has seen -/

/-- The bytes that wait in the buffer. -/
structure Pending (d : IncrementalSha256) (tail : Bytes) : Prop where
  full : d.buffer.length = 64
  length : tail.length = d.bufferLength
  lt : d.bufferLength < 64
  buffered : d.buffer.take d.bufferLength = tail

theorem slice_block {bytes : Bytes} {offset : ℕ} :
    slice bytes offset (offset + 64) = (bytes.drop offset).take 64 := by
  rw [slice, List.drop_take]
  congr 1
  omega

theorem processBlocks_eq {bytes : Bytes} (fuel : ℕ) {state : List UInt32} {offset : ℕ}
    (hle : offset ≤ bytes.length) (hfuel : (bytes.length - offset) / 64 ≤ fuel) :
    processBlocks state bytes offset fuel =
      (Sha256.absorb ((bytes.length - offset) / 64) state (bytes.drop offset),
        offset + (bytes.length - offset) / 64 * 64) := by
  induction fuel generalizing state offset with
  | zero =>
    rw [Nat.le_zero.1 hfuel]
    rfl
  | succ fuel ih =>
    unfold processBlocks
    split_ifs with h
    · have hblocks : (bytes.length - offset) / 64 = (bytes.length - (offset + 64)) / 64 + 1 := by
        omega
      rw [ih h (by omega), hblocks, Sha256.absorb, processBlock_eq, slice_block, List.drop_drop]
      congr 1
      omega
    · have hblocks : (bytes.length - offset) / 64 = 0 := by omega
      rw [hblocks]
      rfl

/-- Filling the buffer and then processing blocks is processing what waited and what came. -/
theorem fillBuffer_spec {d e : IncrementalSha256} {tail bytes : Bytes} {offset : ℕ}
    (hd : d.Pending tail) (h : fillBuffer d bytes = (e, offset)) :
    offset ≤ bytes.length ∧
      Sha256.absorb ((tail ++ bytes).length / 64) d.state (tail ++ bytes) =
        Sha256.absorb ((bytes.length - offset) / 64) e.state (bytes.drop offset) ∧
      e.totalBytes = d.totalBytes ∧ e.finalized = d.finalized ∧ e.finalDigest = d.finalDigest ∧
      ((e.bufferLength = 0 ∧ e.buffer.length = 64 ∧
          (tail ++ bytes).drop ((tail ++ bytes).length / 64 * 64) =
            bytes.drop (offset + (bytes.length - offset) / 64 * 64)) ∨
        (offset = bytes.length ∧
          e.Pending ((tail ++ bytes).drop ((tail ++ bytes).length / 64 * 64)))) := by
  have hfull := hd.full
  have hlen := hd.length
  have hlt := hd.lt
  unfold fillBuffer at h
  by_cases hpos : d.bufferLength > 0
  · simp only [if_pos hpos] at h
    obtain ⟨copied, hcopied⟩ : ∃ copied, min (64 - d.bufferLength) bytes.length = copied := ⟨_, rfl⟩
    rw [hcopied] at h
    split_ifs at h with hblock <;> obtain ⟨rfl, rfl⟩ := Prod.mk.inj h
    · -- the buffer becomes full and is processed
      have hcopy : copied = 64 - d.bufferLength := by omega
      have hbuffer : setBytes d.buffer (slice bytes 0 copied) d.bufferLength =
          (tail ++ bytes).take 64 := by
        have hdrop : d.buffer.drop (d.bufferLength + (slice bytes 0 copied).length) = [] := by
          rw [List.drop_eq_nil_iff, slice, List.drop_zero, List.length_take]
          omega
        rw [setBytes, hdrop, hd.buffered, List.append_nil, List.take_append, slice, List.drop_zero,
          List.take_of_length_le (show tail.length ≤ 64 by omega)]
        congr 2
        omega
      have hrest : (tail ++ bytes).drop 64 = bytes.drop copied := by
        rw [List.drop_append, List.drop_eq_nil_of_le (by omega), List.nil_append]
        congr 1
        omega
      have hblocks : (tail ++ bytes).length / 64 = (bytes.length - copied) / 64 + 1 := by
        rw [List.length_append]
        omega
      refine ⟨by omega, ?_, rfl, rfl, rfl, .inl ⟨rfl, ?_, ?_⟩⟩
      · rw [hblocks, Sha256.absorb, hrest, hbuffer, processBlock_eq]
      · rw [hbuffer, List.length_take, List.length_append]
        omega
      · have hsum : (tail ++ bytes).length / 64 * 64 =
            64 + (bytes.length - copied) / 64 * 64 := by omega
        rw [hsum, ← List.drop_drop, hrest, List.drop_drop]
    · -- everything still fits into the buffer
      have hcopy : copied = bytes.length := by omega
      have hblocks : (tail ++ bytes).length / 64 = 0 := by
        rw [List.length_append]
        omega
      have hslice : slice bytes 0 copied = bytes := by
        rw [slice, List.drop_zero, hcopy, List.take_length]
      have hset : setBytes d.buffer bytes d.bufferLength =
          (tail ++ bytes) ++ d.buffer.drop (d.bufferLength + bytes.length) := by
        rw [setBytes, hd.buffered]
      refine ⟨by omega, ?_, rfl, rfl, rfl, .inr ⟨hcopy, ?_⟩⟩
      · rw [hblocks, hcopy, Nat.sub_self]
        rfl
      · rw [hblocks, Nat.zero_mul, List.drop_zero, hslice, hset]
        refine ⟨?_, ?_, by simp only; omega, ?_⟩
        · simp only [List.length_append, List.length_drop]
          omega
        · simp only [List.length_append]
          omega
        · have hcount : d.bufferLength + copied = (tail ++ bytes).length := by
            rw [List.length_append]
            omega
          exact hcount ▸ List.take_left
  · have hzero : d.bufferLength = 0 := by omega
    have htail : tail = [] := List.length_eq_zero_iff.1 (by omega)
    subst htail
    rw [if_neg hpos] at h
    obtain ⟨rfl, rfl⟩ := Prod.mk.inj h
    simp [hzero, hfull]

/-- `update` processes the complete blocks of what waited and what came, and keeps the rest. -/
theorem update_spec {d e : IncrementalSha256} {tail bytes : Bytes} (hd : d.Pending tail)
    (h : d.update bytes = .ok e) :
    e.state = Sha256.absorb ((tail ++ bytes).length / 64) d.state (tail ++ bytes) ∧
      e.Pending ((tail ++ bytes).drop ((tail ++ bytes).length / 64 * 64)) ∧
      e.totalBytes = d.totalBytes + bytes.length ∧ e.finalized = d.finalized ∧
      e.finalDigest = d.finalDigest := by
  simp only [update, bind_eq_ok, throwIf_eq_ok] at h
  obtain ⟨-, -, -, -, h⟩ := h
  have hd' : Pending { d with totalBytes := d.totalBytes + bytes.length } tail :=
    ⟨hd.full, hd.length, hd.lt, hd.buffered⟩
  rcases hfill : fillBuffer { d with totalBytes := d.totalBytes + bytes.length } bytes with
    ⟨f, offset⟩
  obtain ⟨hle, habsorb, htotal, hfinal, hdigest, hcases⟩ := fillBuffer_spec hd' hfill
  simp only [hfill, processBlocks_eq _ hle (Nat.div_le_div_right (Nat.sub_le _ _)), ← habsorb] at h
  have hlt : (bytes.length - offset) / 64 * 64 + (bytes.length - offset) % 64 =
      bytes.length - offset := Nat.div_add_mod' _ _
  have hmod := Nat.mod_lt (bytes.length - offset) (show 0 < 64 by decide)
  split_ifs at h with hrest <;> obtain rfl := pure_eq_ok.1 h
  · refine ⟨rfl, ?_, htotal, hfinal, hdigest⟩
    rcases hcases with ⟨hzero, hfull, hdrop⟩ | ⟨rfl, -⟩
    · rw [hdrop]
      refine ⟨?_, List.length_drop, by simp only; omega, ?_⟩
      · simp only [setBytes, List.length_append, List.length_take, List.length_drop]
        omega
      · simp only [setBytes, List.take_zero, List.nil_append]
        rw [List.take_append_of_le_length (by rw [List.length_drop]),
          List.take_of_length_le (by rw [List.length_drop])]
    · omega
  · refine ⟨rfl, ?_, htotal, hfinal, hdigest⟩
    rcases hcases with ⟨hzero, hfull, hdrop⟩ | ⟨-, hpending⟩
    · rw [hdrop, List.drop_eq_nil_of_le (by omega)]
      exact ⟨hfull, hzero.symm, by simp only; omega, by rw [hzero]; rfl⟩
    · exact ⟨hpending.full, hpending.length, hpending.lt, hpending.buffered⟩

/-- The digest has seen exactly this message. -/
structure Absorbed (d : IncrementalSha256) (message : Bytes) : Prop where
  finalized : d.finalized = false
  finalDigest : d.finalDigest = none
  total : d.totalBytes = message.length
  state : d.state = Sha256.absorb (message.length / 64) Sha256.initial message
  pending : d.Pending (message.drop (message.length / 64 * 64))

theorem absorbed_new : new.Absorbed [] :=
  ⟨rfl, rfl, rfl, rfl, ⟨rfl, rfl, by decide, rfl⟩⟩

theorem Absorbed.update {d e : IncrementalSha256} {message bytes : Bytes} (hd : d.Absorbed message)
    (h : d.update bytes = .ok e) : e.Absorbed (message ++ bytes) := by
  obtain ⟨hstate, hpending, htotal, hfinal, hdigest⟩ := update_spec hd.pending h
  set n := message.length / 64 with hn
  have hle : n * 64 ≤ message.length := by omega
  have hw : message.drop (n * 64) ++ bytes = (message ++ bytes).drop (n * 64) :=
    (List.drop_append_of_le_length hle).symm
  have hlen : (message ++ bytes).length = n * 64 + (message.drop (n * 64) ++ bytes).length := by
    simp only [List.length_append, List.length_drop]
    omega
  have hblocks : (message ++ bytes).length / 64 =
      n + (message.drop (n * 64) ++ bytes).length / 64 := by
    rw [hlen, Nat.add_comm, Nat.add_mul_div_right _ _ (by decide), Nat.add_comm]
  refine ⟨hfinal.trans hd.finalized, hdigest.trans hd.finalDigest, ?_, ?_, ?_⟩
  · rw [htotal, hd.total, List.length_append]
  · rw [hstate, hblocks, Sha256.absorb_add, Sha256.absorb_append _ _ hle, ← hd.state, ← hw]
  · rw [hblocks, Nat.add_mul, ← List.drop_drop, ← hw]
    exact hpending

/-- A digest that has seen little enough returns the SHA-256 of what it has seen. -/
theorem Absorbed.digest {d e : IncrementalSha256} {message output : Bytes}
    (hd : d.Absorbed message) (h : d.digest = .ok (output, e)) : output = Sha256.hash message := by
  have hpadding : d.padding = Sha256.padding message.length := by
    have hlen := hd.pending.length
    rw [List.length_drop] at hlen
    have hzeros : (if d.bufferLength < 56 then 56 - d.bufferLength else 120 - d.bufferLength) - 1 =
        (119 - message.length % 64) % 64 := by
      split_ifs <;> omega
    rw [padding, Sha256.padding, hzeros, hd.total]
  simp only [IncrementalSha256.digest, hd.finalDigest, bind_eq_ok, pure_eq_ok] at h
  obtain ⟨f, hf, heq⟩ := h
  rw [hpadding] at hf
  rw [← (Prod.mk.inj heq).1, (hd.update hf).state]
  rfl

end IncrementalSha256

end SelfRelay
