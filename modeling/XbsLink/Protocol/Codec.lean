import XbsLink.Lib.Hmac
import XbsLink.Lib.Buffer

/-!
# The wire codec

The model of `internal/protocol/protocol.go`.  A datagram is a type byte and a
payload; in secure mode (a non-empty pre-shared key) an 8-byte big-endian
nonce follows the type byte and a 32-byte tag over everything before it
closes the datagram:

* secure:   `[Type(1)][Nonce(8)][Payload][HMAC(32)]`
* insecure: `[Type(1)][Payload]`

A `Codec` is the per-process state: the key, the counter `encode` draws
nonces from, and the last nonce `decode` accepted.  Go mutates the codec in
place; here every operation returns the codec after it.  The tag function is
the section variable `mac`, which the program fixes to `Mac.hmacSha256`; no
result depends on that choice.

`crypto/rand.Read` never fails (Go 1.24 and later), so `encodeHello` takes the
sixteen bytes it fills as an argument and has no error path.
-/

namespace XbsLink
namespace Protocol

open BigEndian

/-! ## Constants -/

def protocolVersion : UInt16 := 1

def msgFrame : UInt8 := 0x00
def msgHello : UInt8 := 0x01
def msgHelloAck : UInt8 := 0x02
def msgPing : UInt8 := 0x03
def msgPong : UInt8 := 0x04
def msgBye : UInt8 := 0x05

def nonceSize : Nat := 8
def hmacSize : Nat := 32
def challengeSize : Nat := 16
def challengeRespLen : Nat := 32
def minHeaderSize : Nat := 1
def maxFrameSize : Nat := 1514
def minEthernetFrame : Nat := 14
def helloPayloadSize : Nat := 2 + challengeSize
def helloAckPayloadSize : Nat := 2 + challengeRespLen
def pingPongPayloadSize : Nat := 8

/-- The tag function of `computeHMAC`: HMAC-SHA256 under the pre-shared key. -/
def hmacSha256 : Mac hmacSize := Mac.hmacSha256

/-- `MessageTypeName`. -/
def messageTypeName (t : UInt8) : String :=
  if t = msgFrame then "FRAME"
  else if t = msgHello then "HELLO"
  else if t = msgHelloAck then "HELLO_ACK"
  else if t = msgPing then "PING"
  else if t = msgPong then "PONG"
  else if t = msgBye then "BYE"
  else "UNKNOWN(0x" ++ hexByte t ++ ")"
where
  /-- `%02x`: two lower-case hexadecimal digits. -/
  hexByte (b : UInt8) : String :=
    String.ofList [Nat.digitChar (b.toNat / 16), Nat.digitChar (b.toNat % 16)]

/-! ## Errors -/

/-- The sentinel errors `Decode` can wrap (`errors.Is` targets). -/
inductive Sentinel
  | messageTooShort
  | invalidHMAC
  | replayDetected
  | unknownMsgType
  | invalidPayload
  | versionMismatch
  deriving DecidableEq, Repr

/-- The text of each sentinel error. -/
def Sentinel.text : Sentinel → String
  | .messageTooShort => "message too short"
  | .invalidHMAC => "invalid HMAC signature"
  | .replayDetected => "replay attack detected: nonce not increasing"
  | .unknownMsgType => "unknown message type"
  | .invalidPayload => "invalid payload size"
  | .versionMismatch => "protocol version mismatch"

/-- Every error `Decode` returns: a sentinel, or a sentinel wrapped by
`fmt.Errorf` with the values its message prints. -/
inductive DecodeError
  | messageTooShort
  | invalidHMAC
  | replayDetected
  | frameTooSmall (size : Nat)
  | frameTooLarge (size : Nat)
  /-- A HELLO, HELLO_ACK, PING or PONG payload below its size. -/
  | payloadTooSmall (msgType : UInt8)
  | versionMismatch (version : UInt16)
  | unknownMsgType (msgType : UInt8)
  deriving DecidableEq, Repr

/-- The sentinel `errors.Is` finds in an error. -/
def DecodeError.sentinel : DecodeError → Sentinel
  | .messageTooShort => .messageTooShort
  | .invalidHMAC => .invalidHMAC
  | .replayDetected => .replayDetected
  | .frameTooSmall _ | .frameTooLarge _ | .payloadTooSmall _ => .invalidPayload
  | .versionMismatch _ => .versionMismatch
  | .unknownMsgType _ => .unknownMsgType

/-- What `fmt.Errorf` prints after the wrapped sentinel, if anything. -/
def DecodeError.detail : DecodeError → Option String
  | .messageTooShort | .invalidHMAC | .replayDetected => none
  | .frameTooSmall size => some ("frame too small (" ++ toString size ++ " bytes)")
  | .frameTooLarge size => some ("frame too large (" ++ toString size ++ " bytes)")
  | .payloadTooSmall msgType => some (messageTypeName msgType ++ " payload too small")
  | .versionMismatch version =>
      some ("expected " ++ toString protocolVersion ++ ", got " ++ toString version)
  | .unknownMsgType msgType => some ("0x" ++ messageTypeName.hexByte msgType)

/-- `Error()` of a decode error: `%w: detail` wraps the sentinel's text. -/
def DecodeError.error (e : DecodeError) : String :=
  match e.detail with
  | none => e.sentinel.text
  | some detail => e.sentinel.text ++ ": " ++ detail

/-- The error of `EncodeFrame` for a frame outside `[14, 1514]`. -/
structure FrameSizeError where
  size : Nat
  deriving DecidableEq, Repr

def FrameSizeError.error (e : FrameSizeError) : String :=
  "frame size " ++ toString e.size ++ " out of range [" ++ toString minEthernetFrame ++
    ", " ++ toString maxFrameSize ++ "]"

/-! ## Codec state -/

/-- `Codec`.  `secureMode` is set by `NewCodec` from the key and never
changed, so it carries its defining equation. -/
@[ext] structure Codec where
  key : List UInt8
  sendNonce : UInt64
  recvNonce : UInt64
  secureMode : Bool
  secureMode_eq : secureMode = decide (0 < key.length)

/-- `NewCodec`: nil and empty keys both give insecure mode. -/
def newCodec (key : List UInt8) : Codec where
  key := key
  sendNonce := 0
  recvNonce := 0
  secureMode := decide (0 < key.length)
  secureMode_eq := rfl

namespace Codec

/-- Two codecs with one key are in one mode. -/
theorem secureMode_eq_of_key_eq {c c' : Codec} (sameKey : c.key = c'.key) :
    c.secureMode = c'.secureMode := by
  rw [c.secureMode_eq, c'.secureMode_eq, sameKey]

def isSecure (c : Codec) : Bool := c.secureMode

/-- `ResetRecvNonce`. -/
def resetRecvNonce (c : Codec) : Codec := { c with recvNonce := 0 }

/-- `nextNonce`: the atomic increment, wrapping at `2 ^ 64`. -/
def nextNonce (c : Codec) : UInt64 × Codec :=
  (c.sendNonce + 1, { c with sendNonce := c.sendNonce + 1 })

section Mac

variable (mac : Mac hmacSize)

def computeHMAC (c : Codec) (data : List UInt8) : List UInt8 := mac.tag c.key data

/-- `verifyHMAC`; `hmac.Equal` is equality of byte strings. -/
def verifyHMAC (c : Codec) (data sig : List UInt8) : Bool := c.computeHMAC mac data == sig

/-- `encode`: the datagram and the codec with its send counter advanced in
secure mode. -/
def encode (c : Codec) (msgType : UInt8) (payload : List UInt8) : List UInt8 × Codec :=
  if c.secureMode then
    let (nonce, next) := c.nextNonce
    let signed := msgType :: putUint64 nonce ++ payload
    (signed ++ next.computeHMAC mac signed, next)
  else
    (msgType :: payload, c)

/-- The replay check of `decode`: HELLO and HELLO_ACK are exempt; any other
type is refused when its nonce is non-zero and at most the stored one, and
otherwise its nonce is stored. -/
def checkReplay (c : Codec) (msgType : UInt8) (nonce : UInt64) (payload : List UInt8) :
    Except DecodeError (UInt8 × List UInt8) × Codec :=
  if msgType ≠ msgHello ∧ msgType ≠ msgHelloAck then
    if 0 < nonce ∧ nonce ≤ c.recvNonce then (.error .replayDetected, c)
    else (.ok (msgType, payload), { c with recvNonce := nonce })
  else (.ok (msgType, payload), c)

/-- `decode`: the type byte and payload, after the length check, the tag
check and the replay check. -/
def decode (c : Codec) :
    List UInt8 → Except DecodeError (UInt8 × List UInt8) × Codec
  | [] => (.error .messageTooShort, c)
  | data@(msgType :: _) =>
      if c.secureMode then
        if data.length < 1 + nonceSize + hmacSize then (.error .messageTooShort, c)
        else
          let nonce := uint64 (data.extract 1 9)
          let payloadEnd := data.length - hmacSize
          let payload := data.extract 9 payloadEnd
          let sig := data.drop payloadEnd
          if !c.verifyHMAC mac (data.take payloadEnd) sig then (.error .invalidHMAC, c)
          else c.checkReplay msgType nonce payload
      else (.ok (msgType, data.drop 1), c)

end Mac

/-- Where in an `n`-byte datagram `decode` takes the payload from:
`data[9:payloadEnd]` in secure mode, `data[1:]` otherwise. -/
def payloadSlice (c : Codec) (n : Nat) : Buffer.Slice :=
  if c.secureMode then ⟨9, n - hmacSize⟩ else ⟨1, n⟩

end Codec

/-! ## Messages -/

/-- `Message`; the fields a type does not use keep Go's zero values. -/
structure Message where
  type : UInt8
  frame : List UInt8 := []
  version : UInt16 := 0
  challenge : List UInt8 := []
  response : List UInt8 := []
  timestamp : Int64 := 0
  deriving DecidableEq, Repr

/-- The `switch` of `Decode`: the payload checks of each type. -/
def parsePayload (msgType : UInt8) (payload : List UInt8) : Except DecodeError Message :=
  if msgType = msgFrame then
    if payload.length < minEthernetFrame then .error (.frameTooSmall payload.length)
    else if maxFrameSize < payload.length then .error (.frameTooLarge payload.length)
    else .ok { type := msgType, frame := payload }
  else if msgType = msgHello then
    if payload.length < helloPayloadSize then .error (.payloadTooSmall msgType)
    else if uint16 payload ≠ protocolVersion then .error (.versionMismatch (uint16 payload))
    else .ok { type := msgType, version := uint16 payload,
               challenge := payload.extract 2 (2 + challengeSize) }
  else if msgType = msgHelloAck then
    if payload.length < helloAckPayloadSize then .error (.payloadTooSmall msgType)
    else if uint16 payload ≠ protocolVersion then .error (.versionMismatch (uint16 payload))
    else .ok { type := msgType, version := uint16 payload,
               response := payload.extract 2 (2 + challengeRespLen) }
  else if msgType = msgPing ∨ msgType = msgPong then
    if payload.length < pingPongPayloadSize then .error (.payloadTooSmall msgType)
    else .ok { type := msgType, timestamp := (uint64 payload).toInt64 }
  else if msgType = msgBye then .ok { type := msgType }
  else .error (.unknownMsgType msgType)

/-- A fixed number of bytes from `crypto/rand.Read`. -/
structure RandomBytes (n : Nat) where
  bytes : List UInt8
  length_bytes : bytes.length = n

namespace Codec

section Mac

variable (mac : Mac hmacSize)

/-- `Decode`: `decode`, then the payload checks of the type. -/
def Decode (c : Codec) (data : List UInt8) : Except DecodeError Message × Codec :=
  match c.decode mac data with
  | (.error e, next) => (.error e, next)
  | (.ok (msgType, payload), next) => (parsePayload msgType payload, next)

/-- `EncodeFrame`. -/
def encodeFrame (c : Codec) (frame : List UInt8) :
    Except FrameSizeError (List UInt8 × Codec) :=
  if frame.length < minEthernetFrame ∨ maxFrameSize < frame.length then
    .error ⟨frame.length⟩
  else .ok (c.encode mac msgFrame frame)

/-- `EncodeHello`: the datagram and the challenge it carries. -/
def encodeHello (c : Codec) (random : RandomBytes challengeSize) :
    (List UInt8 × List UInt8) × Codec :=
  let (hello, next) := c.encode mac msgHello (putUint16 protocolVersion ++ random.bytes)
  ((hello, random.bytes), next)

/-- The response `EncodeHelloAck` puts after the version: the tag of a
16-byte challenge in secure mode, zeros otherwise. -/
def challengeResponse (c : Codec) (challenge : List UInt8) : List UInt8 :=
  if c.secureMode ∧ challenge.length = challengeSize then c.computeHMAC mac challenge
  else List.replicate challengeRespLen 0

/-- `EncodeHelloAck`. -/
def encodeHelloAck (c : Codec) (challenge : List UInt8) : List UInt8 × Codec :=
  c.encode mac msgHelloAck (putUint16 protocolVersion ++ c.challengeResponse mac challenge)

/-- `EncodePing`: `uint64(timestamp)` is the two's-complement bit pattern. -/
def encodePing (c : Codec) (timestamp : Int64) : List UInt8 × Codec :=
  c.encode mac msgPing (putUint64 timestamp.toUInt64)

/-- `EncodePong`. -/
def encodePong (c : Codec) (timestamp : Int64) : List UInt8 × Codec :=
  c.encode mac msgPong (putUint64 timestamp.toUInt64)

/-- `EncodeBye`. -/
def encodeBye (c : Codec) : List UInt8 × Codec := c.encode mac msgBye []

/-- `VerifyChallengeResponse`. -/
def verifyChallengeResponse (c : Codec) (challenge response : List UInt8) : Bool :=
  if !c.secureMode then true
  else if challenge.length ≠ challengeSize ∨ response.length ≠ challengeRespLen then false
  else c.computeHMAC mac challenge == response

end Mac

end Codec

end Protocol
end XbsLink
