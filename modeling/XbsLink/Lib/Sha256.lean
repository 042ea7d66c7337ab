import XbsLink.Lib.BigEndian

/-!
# The SHA-256 hash function

A byte-level definition of SHA-256 on 32-bit words.  The message is padded
with a one bit, zeros and its bit length to a whole number of 64-byte blocks;
each block is expanded to a 64-word schedule and mixed into an eight-word
chaining value by 64 rounds; the final chaining value, written big-endian,
is the 32-byte digest.

Every recursion is structural (on a round count or a block count), so the
definition evaluates; `length_hash` is the only fact later modules need.
-/

namespace Sha256

/-- The 64 round constants. -/
def roundConstants : List UInt32 :=
  [0x428a2f98, 0x71374491, 0xb5c0fbcf, 0xe9b5dba5, 0x3956c25b, 0x59f111f1, 0x923f82a4, 0xab1c5ed5,
   0xd807aa98, 0x12835b01, 0x243185be, 0x550c7dc3, 0x72be5d74, 0x80deb1fe, 0x9bdc06a7, 0xc19bf174,
   0xe49b69c1, 0xefbe4786, 0x0fc19dc6, 0x240ca1cc, 0x2de92c6f, 0x4a7484aa, 0x5cb0a9dc, 0x76f988da,
   0x983e5152, 0xa831c66d, 0xb00327c8, 0xbf597fc7, 0xc6e00bf3, 0xd5a79147, 0x06ca6351, 0x14292967,
   0x27b70a85, 0x2e1b2138, 0x4d2c6dfc, 0x53380d13, 0x650a7354, 0x766a0abb, 0x81c2c92e, 0x92722c85,
   0xa2bfe8a1, 0xa81a664b, 0xc24b8b70, 0xc76c51a3, 0xd192e819, 0xd6990624, 0xf40e3585, 0x106aa070,
   0x19a4c116, 0x1e376c08, 0x2748774c, 0x34b0bcb5, 0x391c0cb3, 0x4ed8aa4a, 0x5b9cca4f, 0x682e6ff3,
   0x748f82ee, 0x78a5636f, 0x84c87814, 0x8cc70208, 0x90befffa, 0xa4506ceb, 0xbef9a3f7, 0xc67178f2]

/-- Eight working words; also the chaining value between blocks. -/
structure Words where
  a : UInt32
  b : UInt32
  c : UInt32
  d : UInt32
  e : UInt32
  f : UInt32
  g : UInt32
  h : UInt32

/-- The chaining value before the first block. -/
def initialHash : Words :=
  ⟨0x6a09e667, 0xbb67ae85, 0x3c6ef372, 0xa54ff53a,
   0x510e527f, 0x9b05688c, 0x1f83d9ab, 0x5be0cd19⟩

/-- Rotation of a word to the right. -/
def rotr (x n : UInt32) : UInt32 := (x >>> n) ||| (x <<< (32 - n))

def ch (e f g : UInt32) : UInt32 := (e &&& f) ^^^ (~~~e &&& g)

def maj (a b c : UInt32) : UInt32 := (a &&& b) ^^^ (a &&& c) ^^^ (b &&& c)

def bigSigma0 (x : UInt32) : UInt32 := rotr x 2 ^^^ rotr x 13 ^^^ rotr x 22

def bigSigma1 (x : UInt32) : UInt32 := rotr x 6 ^^^ rotr x 11 ^^^ rotr x 25

def smallSigma0 (x : UInt32) : UInt32 := rotr x 7 ^^^ rotr x 18 ^^^ (x >>> 3)

def smallSigma1 (x : UInt32) : UInt32 := rotr x 17 ^^^ rotr x 19 ^^^ (x >>> 10)

/-- Extend a schedule by `count` words, each from four earlier ones. -/
def extend : Nat → List UInt32 → List UInt32
  | 0, schedule => schedule
  | count + 1, schedule =>
      let t := schedule.length
      extend count (schedule ++
        [smallSigma1 (schedule.getD (t - 2) 0) + schedule.getD (t - 7) 0 +
          smallSigma0 (schedule.getD (t - 15) 0) + schedule.getD (t - 16) 0])

/-- The big-endian words of a block of bytes. -/
def blockWords : Nat → List UInt8 → List UInt32
  | 0, _ => []
  | count + 1, bytes =>
      UInt32.ofNat (BigEndian.decode (bytes.take 4)) :: blockWords count (bytes.drop 4)

/-- One round on the working words. -/
def round (s : Words) (k w : UInt32) : Words :=
  let t1 := s.h + bigSigma1 s.e + ch s.e s.f s.g + k + w
  let t2 := bigSigma0 s.a + maj s.a s.b s.c
  ⟨t1 + t2, s.a, s.b, s.c, s.d + t1, s.e, s.f, s.g⟩

/-- Mix one 64-byte block into the chaining value. -/
def compress (hash : Words) (block : List UInt8) : Words :=
  let schedule := extend 48 (blockWords 16 block)
  let s := (roundConstants.zip schedule).foldl (fun s kw => round s kw.1 kw.2) hash
  ⟨hash.a + s.a, hash.b + s.b, hash.c + s.c, hash.d + s.d,
   hash.e + s.e, hash.f + s.f, hash.g + s.g, hash.h + s.h⟩

/-- Padding: a one bit, zeros up to 56 bytes modulo 64, and the bit length. -/
def pad (message : List UInt8) : List UInt8 :=
  message ++ [0x80] ++ List.replicate ((119 - message.length % 64) % 64) 0 ++
    BigEndian.encode 8 (8 * message.length)

/-- Split into `count` blocks of 64 bytes. -/
def blocks : Nat → List UInt8 → List (List UInt8)
  | 0, _ => []
  | count + 1, bytes => bytes.take 64 :: blocks count (bytes.drop 64)

/-- The digest of the final chaining value. -/
def Words.digest (s : Words) : List UInt8 :=
  [s.a, s.b, s.c, s.d, s.e, s.f, s.g, s.h].flatMap fun w => BigEndian.encode 4 w.toNat

/-- The SHA-256 digest of a byte string. -/
def hash (message : List UInt8) : List UInt8 :=
  let padded := pad message
  ((blocks (padded.length / 64) padded).foldl compress initialHash).digest

@[simp] theorem length_digest (s : Words) : s.digest.length = 32 := by
  simp [Words.digest]

/-- Every digest has 32 bytes. -/
@[simp] theorem length_hash (message : List UInt8) : (hash message).length = 32 :=
  length_digest _

end Sha256
