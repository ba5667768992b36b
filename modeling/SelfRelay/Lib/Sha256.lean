import Mathlib.Data.List.DropRight
import SelfRelay.Lib.BigEndian

/-!
# SHA-256

The hash function of FIPS 180-4 on byte strings: the message is padded to a multiple of 64 bytes
(`pad`), and each block is folded into eight 32-bit words (`compress`).
-/

namespace Sha256

/-- The first 32 bits of the fractional parts of the square roots of the first eight primes. -/
def initial : List UInt32 :=
  [0x6a09e667, 0xbb67ae85, 0x3c6ef372, 0xa54ff53a, 0x510e527f, 0x9b05688c, 0x1f83d9ab, 0x5be0cd19]

/-- The first 32 bits of the fractional parts of the cube roots of the first 64 primes. -/
def constants : List UInt32 :=
  [0x428a2f98, 0x71374491, 0xb5c0fbcf, 0xe9b5dba5, 0x3956c25b, 0x59f111f1, 0x923f82a4, 0xab1c5ed5,
    0xd807aa98, 0x12835b01, 0x243185be, 0x550c7dc3, 0x72be5d74, 0x80deb1fe, 0x9bdc06a7, 0xc19bf174,
    0xe49b69c1, 0xefbe4786, 0x0fc19dc6, 0x240ca1cc, 0x2de92c6f, 0x4a7484aa, 0x5cb0a9dc, 0x76f988da,
    0x983e5152, 0xa831c66d, 0xb00327c8, 0xbf597fc7, 0xc6e00bf3, 0xd5a79147, 0x06ca6351, 0x14292967,
    0x27b70a85, 0x2e1b2138, 0x4d2c6dfc, 0x53380d13, 0x650a7354, 0x766a0abb, 0x81c2c92e, 0x92722c85,
    0xa2bfe8a1, 0xa81a664b, 0xc24b8b70, 0xc76c51a3, 0xd192e819, 0xd6990624, 0xf40e3585, 0x106aa070,
    0x19a4c116, 0x1e376c08, 0x2748774c, 0x34b0bcb5, 0x391c0cb3, 0x4ed8aa4a, 0x5b9cca4f, 0x682e6ff3,
    0x748f82ee, 0x78a5636f, 0x84c87814, 0x8cc70208, 0x90befffa, 0xa4506ceb, 0xbef9a3f7, 0xc67178f2]

example : ∀ x ∈ ((List.range 312).filter fun p => 1 < p ∧ ∀ d ∈ List.range 18, d ∣ p →
      d = 1 ∨ d = p).zip
    constants,
    ∃ whole ∈ List.range 7, (whole * 2 ^ 32 + x.2.toNat) ^ 3 ≤ x.1 * 2 ^ 96 ∧
      x.1 * 2 ^ 96 < (whole * 2 ^ 32 + x.2.toNat + 1) ^ 3 := by decide +kernel

/-! ## The functions on words -/

def rotr (n : UInt32) (x : UInt32) : UInt32 := (x >>> n) ||| (x <<< (32 - n))

def ch (x y z : UInt32) : UInt32 := (x &&& y) ^^^ (~~~x &&& z)

def maj (x y z : UInt32) : UInt32 := (x &&& y) ^^^ (x &&& z) ^^^ (y &&& z)

def bigSigma0 (x : UInt32) : UInt32 := rotr 2 x ^^^ rotr 13 x ^^^ rotr 22 x

def bigSigma1 (x : UInt32) : UInt32 := rotr 6 x ^^^ rotr 11 x ^^^ rotr 25 x

def smallSigma0 (x : UInt32) : UInt32 := rotr 7 x ^^^ rotr 18 x ^^^ (x >>> 3)

def smallSigma1 (x : UInt32) : UInt32 := rotr 17 x ^^^ rotr 19 x ^^^ (x >>> 10)

/-! ## One block -/

/-- The big-endian words of some bytes. -/
def words : List UInt8 → List UInt32
  | a :: b :: c :: d :: rest => UInt32.ofNat (BigEndian.decode [a, b, c, d]) :: words rest
  | _ => []

/-- The next word of a message schedule. -/
def nextWord (w : List UInt32) : UInt32 :=
  let t := w.length
  smallSigma1 (w.getD (t - 2) 0) + w.getD (t - 7) 0 + smallSigma0 (w.getD (t - 15) 0) +
    w.getD (t - 16) 0

/-- Extend a message schedule by some words. -/
def schedule : ℕ → List UInt32 → List UInt32
  | 0, w => w
  | n + 1, w => schedule n (w ++ [nextWord w])

/-- The eight working variables. -/
structure Working where
  a : UInt32
  b : UInt32
  c : UInt32
  d : UInt32
  e : UInt32
  f : UInt32
  g : UInt32
  h : UInt32
  deriving DecidableEq, Repr

/-- One round with its constant and its schedule word. -/
def Working.round (s : Working) (kw : UInt32 × UInt32) : Working :=
  let t₁ := s.h + bigSigma1 s.e + ch s.e s.f s.g + kw.1 + kw.2
  let t₂ := bigSigma0 s.a + maj s.a s.b s.c
  ⟨t₁ + t₂, s.a, s.b, s.c, s.d + t₁, s.e, s.f, s.g⟩

/-- The working variables of a hash value. -/
def Working.ofHash (hash : List UInt32) : Working :=
  ⟨hash.getD 0 0, hash.getD 1 0, hash.getD 2 0, hash.getD 3 0, hash.getD 4 0, hash.getD 5 0,
    hash.getD 6 0, hash.getD 7 0⟩

/-- The hash value after one more block of 64 bytes. -/
def compress (hash : List UInt32) (block : List UInt8) : List UInt32 :=
  let s := (constants.zip (schedule 48 (words block))).foldl Working.round (Working.ofHash hash)
  List.zipWith (· + ·) hash [s.a, s.b, s.c, s.d, s.e, s.f, s.g, s.h]

/-! ## The whole message -/

/-- The padding behind a message of `n` bytes: a one bit, zeros, and the length in bits. -/
def padding (n : ℕ) : List UInt8 :=
  0x80 :: List.replicate ((119 - n % 64) % 64) 0 ++ BigEndian.encode 8 (n * 8)

/-- Fold the first blocks of a byte string into a hash value. -/
def absorb : ℕ → List UInt32 → List UInt8 → List UInt32
  | 0, hash, _ => hash
  | n + 1, hash, bytes => absorb n (compress hash (bytes.take 64)) (bytes.drop 64)

/-- SHA-256 of a byte string. -/
def hash (message : List UInt8) : List UInt8 :=
  let padded := message ++ padding message.length
  (absorb (padded.length / 64) initial padded).flatMap fun w => BigEndian.encode 4 w.toNat

example : BigEndian.decode (hash [0x61, 0x62, 0x63]) =
    0xba7816bf8f01cfea414140de5dae2223b00361a396177a9cb410ff61f20015ad := by decide +kernel

/-! ## Blocks one after another -/

theorem absorb_add (m n : ℕ) (hash : List UInt32) (bytes : List UInt8) :
    absorb (m + n) hash bytes = absorb n (absorb m hash bytes) (bytes.drop (m * 64)) := by
  induction m generalizing hash bytes with
  | zero => simp [absorb]
  | succ m ih =>
    rw [Nat.succ_add, absorb, absorb, ih, List.drop_drop]
    congr 2
    omega

/-- Only the first blocks matter. -/
theorem absorb_append {n : ℕ} (hash : List UInt32) {bytes : List UInt8} (more : List UInt8)
    (h : n * 64 ≤ bytes.length) : absorb n hash (bytes ++ more) = absorb n hash bytes := by
  induction n generalizing hash bytes with
  | zero => rfl
  | succ n ih =>
    rw [absorb, absorb, List.take_append_of_le_length (by omega),
      List.drop_append_of_le_length (by omega), ih]
    rw [List.length_drop]
    omega

/-! ## The length of a digest -/

theorem length_absorb (n : ℕ) {hash : List UInt32} (bytes : List UInt8) (h : hash.length = 8) :
    (absorb n hash bytes).length = 8 := by
  induction n generalizing hash bytes with
  | zero => exact h
  | succ n ih =>
    apply ih
    simp [compress, h]

theorem length_hash (message : List UInt8) : (hash message).length = 32 := by
  have hwords := length_absorb ((message ++ padding message.length).length / 64)
    (message ++ padding message.length) (show initial.length = 8 from rfl)
  rw [hash, List.length_flatMap, List.map_congr_left fun w _ => BigEndian.length_encode 4 w.toNat,
    List.map_const', hwords]
  rfl

end Sha256
