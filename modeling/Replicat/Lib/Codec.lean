import Mathlib.Data.Nat.Digits.Lemmas
import Mathlib.Logic.Equiv.List

/-!
# Bytes of countable types

Every `Encodable` type has an image in byte strings with a left inverse: the digits of its
number in base 256.
-/

namespace Codec

/-- The digits of a number in base 256, the lowest first. -/
def bytesOfNat (n : ℕ) : List UInt8 := (Nat.digits 256 n).map UInt8.ofNat

def natOfBytes (bytes : List UInt8) : ℕ := Nat.ofDigits 256 (bytes.map UInt8.toNat)

@[simp] theorem natOfBytes_bytesOfNat (n : ℕ) : natOfBytes (bytesOfNat n) = n := by
  have hdigits : ((Nat.digits 256 n).map UInt8.ofNat).map UInt8.toNat = Nat.digits 256 n := by
    rw [List.map_map]
    conv_rhs => rw [← List.map_id (Nat.digits 256 n)]
    refine List.map_congr_left fun d hd => ?_
    have hlt : d < 256 := Nat.digits_lt_base (by omega) hd
    exact UInt8.toNat_ofNat_of_lt' hlt
  unfold natOfBytes bytesOfNat
  rw [hdigits, Nat.ofDigits_digits]

section
variable {α : Type} [Encodable α]

def write (a : α) : List UInt8 := bytesOfNat (Encodable.encode a)

def read (bytes : List UInt8) : Option α := Encodable.decode (natOfBytes bytes)

@[simp] theorem read_write (a : α) : read (write a) = some a := by
  simp [read, write]

end

instance encodableUInt8 : Encodable UInt8 :=
  Encodable.ofLeftInverse UInt8.toNat UInt8.ofNat fun n => by simp
instance encodableUInt64 : Encodable UInt64 :=
  Encodable.ofLeftInverse UInt64.toNat UInt64.ofNat fun n => by simp
instance encodableInt64 : Encodable Int64 :=
  Encodable.ofLeftInverse Int64.toInt Int64.ofInt fun n => by simp
instance encodableChar : Encodable Char :=
  Encodable.ofLeftInverse Char.toNat Char.ofNat fun c => by simp
instance encodableString : Encodable String :=
  Encodable.ofLeftInverse String.toList String.ofList fun s => by simp

end Codec
