import Mathlib.Data.List.Induction
import Mathlib.Tactic.Ring

/-!
# Big-endian byte strings

A natural number is written as a fixed number of bytes, most significant byte
first, and a byte string is read back as the number it denotes.  The two
directions are inverse up to the width: reading what was written gives the
value modulo `256 ^ width`, and writing what was read gives the bytes back.

The fixed-width words at the end are the usual 16- and 64-bit put and get
operations of a big-endian byte order; a get reads only the first bytes of
its argument, so a word can be read off the front of a longer string.  A
slice `b[start:stop]` of a byte string is `List.extract`.
-/

namespace BigEndian

/-- The `width` low-order bytes of `value`, most significant byte first. -/
def encode : Nat → Nat → List UInt8
  | 0, _ => []
  | width + 1, value => encode width (value / 256) ++ [UInt8.ofNat value]

/-- The number a byte string denotes, its first byte the most significant. -/
def decode (bytes : List UInt8) : Nat :=
  bytes.foldl (fun acc byte => acc * 256 + byte.toNat) 0

@[simp] theorem length_encode (width value : Nat) :
    (encode width value).length = width := by
  induction width generalizing value with
  | zero => rfl
  | succ width ih => simp [encode, ih]

/-- The fold behind `decode`, started from an arbitrary accumulator. -/
theorem foldl_eq_decode (bytes : List UInt8) (acc : Nat) :
    bytes.foldl (fun acc byte => acc * 256 + byte.toNat) acc =
      acc * 256 ^ bytes.length + decode bytes := by
  induction bytes generalizing acc with
  | nil => simp [decode]
  | cons byte rest ih =>
      unfold decode
      simp only [List.foldl_cons, ih, Nat.zero_mul, Nat.zero_add, List.length_cons]
      rw [pow_succ]
      ring

@[simp] theorem decode_nil : decode [] = 0 := rfl

theorem decode_cons (byte : UInt8) (rest : List UInt8) :
    decode (byte :: rest) = byte.toNat * 256 ^ rest.length + decode rest := by
  unfold decode
  rw [List.foldl_cons, foldl_eq_decode]
  simp [decode]

theorem decode_append (front back : List UInt8) :
    decode (front ++ back) = decode front * 256 ^ back.length + decode back := by
  unfold decode
  rw [List.foldl_append, foldl_eq_decode]
  rfl

theorem decode_append_singleton (bytes : List UInt8) (byte : UInt8) :
    decode (bytes ++ [byte]) = decode bytes * 256 + byte.toNat := by
  rw [decode_append]
  simp [decode]

/-- A byte string of length `n` denotes a number below `256 ^ n`. -/
theorem decode_lt (bytes : List UInt8) : decode bytes < 256 ^ bytes.length := by
  induction bytes with
  | nil => simp
  | cons byte rest ih =>
      have byteBound : byte.toNat < 256 := byte.toNat_lt
      rw [decode_cons, List.length_cons, pow_succ]
      calc byte.toNat * 256 ^ rest.length + decode rest
          < byte.toNat * 256 ^ rest.length + 256 ^ rest.length := by omega
        _ = (byte.toNat + 1) * 256 ^ rest.length := by ring
        _ ≤ 256 * 256 ^ rest.length := Nat.mul_le_mul_right _ byteBound
        _ = 256 ^ rest.length * 256 := Nat.mul_comm _ _

/-- Reading back a written value gives it modulo the width. -/
theorem decode_encode (width value : Nat) :
    decode (encode width value) = value % 256 ^ width := by
  induction width generalizing value with
  | zero => simp [encode, Nat.mod_one]
  | succ width ih =>
      have split : value % 256 ^ (width + 1) =
          value % 256 + 256 * (value / 256 % 256 ^ width) := by
        rw [Nat.pow_succ, Nat.mul_comm, Nat.mod_mul]
      rw [encode, decode_append_singleton, ih, UInt8.toNat_ofNat', split]
      omega

theorem decode_encode_of_lt {width value : Nat} (fits : value < 256 ^ width) :
    decode (encode width value) = value := by
  rw [decode_encode, Nat.mod_eq_of_lt fits]

/-- Writing back a read byte string gives the bytes themselves. -/
theorem encode_decode (bytes : List UInt8) :
    encode bytes.length (decode bytes) = bytes := by
  induction bytes using List.reverseRecOn with
  | nil => rfl
  | append_singleton front byte ih =>
      have byteBound : byte.toNat < 256 := byte.toNat_lt
      have quotient : (decode front * 256 + byte.toNat) / 256 = decode front := by
        omega
      have lowByte : UInt8.ofNat (decode front * 256 + byte.toNat) = byte := by
        apply UInt8.toNat_inj.mp
        rw [UInt8.toNat_ofNat']
        omega
      rw [List.length_append, List.length_singleton, encode,
        decode_append_singleton, quotient, ih, lowByte]

/-- The two bytes of a 16-bit word. -/
def putUint16 (value : UInt16) : List UInt8 := encode 2 value.toNat

/-- The 16-bit word in the first two bytes. -/
def uint16 (bytes : List UInt8) : UInt16 := UInt16.ofNat (decode (bytes.take 2))

/-- The eight bytes of a 64-bit word. -/
def putUint64 (value : UInt64) : List UInt8 := encode 8 value.toNat

/-- The 64-bit word in the first eight bytes. -/
def uint64 (bytes : List UInt8) : UInt64 := UInt64.ofNat (decode (bytes.take 8))

@[simp] theorem length_putUint16 (value : UInt16) : (putUint16 value).length = 2 :=
  length_encode 2 _

@[simp] theorem length_putUint64 (value : UInt64) : (putUint64 value).length = 8 :=
  length_encode 8 _

/-- A 16-bit word written in front of any bytes is read back. -/
@[simp] theorem uint16_putUint16_append (value : UInt16) (rest : List UInt8) :
    uint16 (putUint16 value ++ rest) = value := by
  have fits : value.toNat < 256 ^ 2 := value.toNat_lt
  rw [uint16, List.take_left' (length_putUint16 value), putUint16,
    decode_encode_of_lt fits, UInt16.ofNat_toNat]

/-- A 64-bit word written in front of any bytes is read back. -/
@[simp] theorem uint64_putUint64_append (value : UInt64) (rest : List UInt8) :
    uint64 (putUint64 value ++ rest) = value := by
  have fits : value.toNat < 256 ^ 8 := value.toNat_lt
  rw [uint64, List.take_left' (length_putUint64 value), putUint64,
    decode_encode_of_lt fits, UInt64.ofNat_toNat]

@[simp] theorem uint64_putUint64 (value : UInt64) : uint64 (putUint64 value) = value := by
  simpa using uint64_putUint64_append value []

/-- Eight bytes are the word they denote, written back. -/
theorem putUint64_uint64 {bytes : List UInt8} (eight : bytes.length = 8) :
    putUint64 (uint64 bytes) = bytes := by
  have fits : decode bytes < 2 ^ 64 := by
    simpa [eight] using decode_lt bytes
  rw [putUint64, uint64, List.take_of_length_le (by omega),
    UInt64.toNat_ofNat_of_lt' fits, ← eight, encode_decode]

end BigEndian

namespace List

end List
