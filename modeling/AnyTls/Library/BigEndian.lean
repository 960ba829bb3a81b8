/-
# Big-endian machine words as bytes

A `put_uN` call writes the low `8 * N` bits of a value most significant byte
first, and a `get_uN` call reads them back. This module states both over
natural numbers, so that a narrowing cast before the write is the `% 256 ^ N`
that `ofBytes_toBytes` exposes, and nothing else is lost.
-/

import Mathlib

namespace BigEndian

/-- The low `width` bytes of `value`, most significant first. -/
def toBytes : Nat → Nat → List UInt8
  | 0, _ => []
  | width + 1, value => toBytes width (value / 256) ++ [UInt8.ofNat value]

/-- The value of a big-endian byte string. -/
def ofBytes (bytes : List UInt8) : Nat :=
  bytes.foldl (fun acc byte => acc * 256 + byte.toNat) 0

@[simp]
theorem length_toBytes (width value : Nat) : (toBytes width value).length = width := by
  induction width generalizing value with
  | zero => rfl
  | succ width ih => simp [toBytes, ih]

@[simp]
theorem ofBytes_nil : ofBytes [] = 0 := rfl

theorem ofBytes_append_single (bytes : List UInt8) (last : UInt8) :
    ofBytes (bytes ++ [last]) = ofBytes bytes * 256 + last.toNat := by
  simp [ofBytes, List.foldl_append]

/-- Reading back a written word gives the value modulo the word size: the write
keeps exactly the low `8 * width` bits. -/
theorem ofBytes_toBytes (width value : Nat) :
    ofBytes (toBytes width value) = value % 256 ^ width := by
  induction width generalizing value with
  | zero => simp [toBytes, Nat.mod_one]
  | succ width ih =>
      have split : value % 256 ^ (width + 1) = value % 256 + 256 * (value / 256 % 256 ^ width) := by
        rw [pow_succ', Nat.mod_mul]
      rw [toBytes, ofBytes_append_single, ih, UInt8.toNat_ofNat', split]
      omega

/-- Words that fit are written and read back unchanged. -/
theorem ofBytes_toBytes_of_lt {width value : Nat} (fits : value < 256 ^ width) :
    ofBytes (toBytes width value) = value := by
  rw [ofBytes_toBytes, Nat.mod_eq_of_lt fits]

end BigEndian
