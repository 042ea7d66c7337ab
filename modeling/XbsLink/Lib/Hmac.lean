import XbsLink.Lib.Sha256

/-!
# Keyed message authentication codes

`Mac width` is a keyed function whose tags all have `width` bytes; it is the
interface a framing layer relies on, and results stated over an arbitrary
`Mac` hold for any choice of it.  `hmac` is the nested keyed-hash
construction over a hash function with a given block size, and
`hmacSha256` its instance over SHA-256, a `Mac 32`.
-/

/-- A keyed authentication code whose tags have a fixed width. -/
structure Mac (width : Nat) where
  /-- The tag of a message under a key. -/
  tag : List UInt8 → List UInt8 → List UInt8
  /-- Every tag has the fixed width. -/
  length_tag : ∀ key message, (tag key message).length = width

namespace Mac

/-- The nested keyed hash: a key longer than a block is hashed first, the
key is padded with zeros to a block, and the message is hashed under the
inner pad and the result again under the outer pad. -/
def hmac (hash : List UInt8 → List UInt8) (blockSize : Nat)
    (key message : List UInt8) : List UInt8 :=
  let shortKey := if blockSize < key.length then hash key else key
  let padded := shortKey ++ List.replicate (blockSize - shortKey.length) 0
  hash (padded.map (· ^^^ 0x5c) ++ hash (padded.map (· ^^^ 0x36) ++ message))

/-- HMAC-SHA256. -/
def hmacSha256 : Mac 32 where
  tag := hmac Sha256.hash 64
  length_tag _ _ := Sha256.length_hash _

end Mac
