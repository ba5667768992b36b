import Mathlib.Data.Nat.Notation
import Mathlib.Tactic.Ring
import Mathlib.Data.List.Induction

/-!
# Fixed-width big-endian numerals

`encode k n` writes the low `8 k` bits of `n` as `k` bytes, most significant first, and `decode`
reads such a byte string back.  The two are inverse on `k`-byte strings (`encode_decode`) and on
numbers below `256 ^ k` (`decode_encode_of_lt`).
-/

namespace BigEndian

/-- The low `8 k` bits of a number as `k` bytes, most significant first. -/
def encode : ℕ → ℕ → List UInt8
  | 0, _ => []
  | k + 1, n => encode k (n / 256) ++ [UInt8.ofNat n]

/-- The number a byte string denotes. -/
def decode (bs : List UInt8) : ℕ := bs.foldl (fun n b => n * 256 + b.toNat) 0

@[simp] theorem length_encode (k n : ℕ) : (encode k n).length = k := by
  induction k generalizing n with
  | zero => rfl
  | succ k ih => simp [encode, ih]

theorem decode_append_singleton (bs : List UInt8) (b : UInt8) :
    decode (bs ++ [b]) = decode bs * 256 + b.toNat := by
  simp [decode]

theorem decode_encode (k n : ℕ) : decode (encode k n) = n % 256 ^ k := by
  induction k generalizing n with
  | zero => simp [encode, decode, Nat.mod_one]
  | succ k ih =>
    have hsplit : n % 256 ^ (k + 1) = n % 256 + 256 * (n / 256 % 256 ^ k) := by
      rw [Nat.pow_succ, Nat.mul_comm, Nat.mod_mul]
    rw [encode, decode_append_singleton, ih, UInt8.toNat_ofNat', hsplit]
    omega

theorem decode_encode_of_lt {k n : ℕ} (h : n < 256 ^ k) : decode (encode k n) = n := by
  rw [decode_encode, Nat.mod_eq_of_lt h]

theorem decode_lt (bs : List UInt8) : decode bs < 256 ^ bs.length := by
  induction bs using List.reverseRecOn with
  | nil => simp [decode]
  | append_singleton bs b ih =>
    have hb := b.toNat_lt
    rw [decode_append_singleton, List.length_append, List.length_singleton, Nat.pow_succ]
    omega

theorem encode_decode (bs : List UInt8) : encode bs.length (decode bs) = bs := by
  induction bs using List.reverseRecOn with
  | nil => rfl
  | append_singleton bs b ih =>
    have hb := b.toNat_lt
    have hdiv : (decode bs * 256 + b.toNat) / 256 = decode bs := by omega
    have hlow : UInt8.ofNat (decode bs * 256 + b.toNat) = b := by
      apply UInt8.toNat_inj.1
      rw [UInt8.toNat_ofNat']
      omega
    rw [List.length_append, List.length_singleton, encode, decode_append_singleton, hdiv, ih, hlow]

theorem encode_injective {k m n : ℕ} (hm : m < 256 ^ k) (hn : n < 256 ^ k)
    (h : encode k m = encode k n) : m = n := by
  rw [← decode_encode_of_lt hm, h, decode_encode_of_lt hn]

end BigEndian
