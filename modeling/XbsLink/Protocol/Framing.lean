import XbsLink.Protocol.Codec
import XbsLink.Lib.Word

/-!
# The two framings

Spec lemmas for `encode`, `decode` and the payload checks, so that later
modules never unfold them.  In secure mode `encode` seals a type, its next
nonce and a payload under the key, and `decode` of any datagram of at least
41 bytes, split at its last 32, is the tag comparison followed by
`checkReplay`.  In insecure mode both are the identity on `type :: payload`.
The payloads the typed encoders build pass the checks of `parsePayload`.
-/

namespace XbsLink
namespace Protocol

open BigEndian

section Mac

variable (mac : Mac hmacSize)

/-- The secure framing of a type, a nonce and a payload under a key. -/
def sealed (key : List UInt8) (msgType : UInt8) (nonce : UInt64) (payload : List UInt8) :
    List UInt8 :=
  (msgType :: putUint64 nonce ++ payload) ++ mac.tag key (msgType :: putUint64 nonce ++ payload)

@[simp] theorem length_sealed (key : List UInt8) (msgType : UInt8) (nonce : UInt64)
    (payload : List UInt8) :
    (sealed mac key msgType nonce payload).length = payload.length + 41 := by
  simp [sealed, mac.length_tag, hmacSize]
  omega

namespace Codec

variable {mac}
variable {c : Codec} {msgType : UInt8} {payload : List UInt8}

@[simp] theorem key_encode : (c.encode mac msgType payload).2.key = c.key := by
  unfold Codec.encode; split <;> rfl

@[simp] theorem recvNonce_encode :
    (c.encode mac msgType payload).2.recvNonce = c.recvNonce := by
  unfold Codec.encode; split <;> rfl

@[simp] theorem secureMode_encode :
    (c.encode mac msgType payload).2.secureMode = c.secureMode := by
  unfold Codec.encode; split <;> rfl

theorem encode_of_secureMode (secure : c.secureMode = true) :
    c.encode mac msgType payload =
      (sealed mac c.key msgType (c.sendNonce + 1) payload,
        { c with sendNonce := c.sendNonce + 1 }) := by
  simp [Codec.encode, secure, Codec.nextNonce, Codec.computeHMAC, sealed]

theorem encode_of_not_secureMode (insecure : c.secureMode = false) :
    c.encode mac msgType payload = (msgType :: payload, c) := by
  simp [Codec.encode, insecure]

/-- `encode` reads only the key and the send counter of the codec. -/
theorem encode_eq_of_same {c' : Codec} (sameKey : c'.key = c.key)
    (sameNonce : c'.sendNonce = c.sendNonce) :
    (c'.encode mac msgType payload).1 = (c.encode mac msgType payload).1 ∧
      (c'.encode mac msgType payload).2.sendNonce = (c.encode mac msgType payload).2.sendNonce := by
  have sameMode : c'.secureMode = c.secureMode := secureMode_eq_of_key_eq sameKey
  cases secure : c.secureMode with
  | false =>
      rw [encode_of_not_secureMode secure, encode_of_not_secureMode (sameMode.trans secure)]
      exact ⟨rfl, sameNonce⟩
  | true =>
      rw [encode_of_secureMode secure, encode_of_secureMode (sameMode.trans secure)]
      constructor
      · change sealed mac c'.key msgType (c'.sendNonce + 1) payload = _
        rw [sameKey, sameNonce]
      · change c'.sendNonce + 1 = c.sendNonce + 1
        rw [sameNonce]

@[simp] theorem key_checkReplay (nonce : UInt64) :
    (c.checkReplay msgType nonce payload).2.key = c.key := by
  unfold Codec.checkReplay; split_ifs <;> rfl

@[simp] theorem sendNonce_checkReplay (nonce : UInt64) :
    (c.checkReplay msgType nonce payload).2.sendNonce = c.sendNonce := by
  unfold Codec.checkReplay; split_ifs <;> rfl

@[simp] theorem secureMode_checkReplay (nonce : UInt64) :
    (c.checkReplay msgType nonce payload).2.secureMode = c.secureMode := by
  unfold Codec.checkReplay; split_ifs <;> rfl

theorem checkReplay_of_exempt {nonce : UInt64}
    (exempt : msgType = msgHello ∨ msgType = msgHelloAck) :
    c.checkReplay msgType nonce payload = (.ok (msgType, payload), c) := by
  unfold Codec.checkReplay
  rw [if_neg (by tauto)]

theorem checkReplay_of_replayed {nonce : UInt64}
    (checked : msgType ≠ msgHello ∧ msgType ≠ msgHelloAck)
    (replayed : 0 < nonce ∧ nonce ≤ c.recvNonce) :
    c.checkReplay msgType nonce payload = (.error .replayDetected, c) := by
  unfold Codec.checkReplay
  rw [if_pos checked, if_pos replayed]

theorem checkReplay_of_accepted {nonce : UInt64}
    (checked : msgType ≠ msgHello ∧ msgType ≠ msgHelloAck)
    (accepted : ¬ (0 < nonce ∧ nonce ≤ c.recvNonce)) :
    c.checkReplay msgType nonce payload =
      (.ok (msgType, payload), { c with recvNonce := nonce }) := by
  unfold Codec.checkReplay
  rw [if_pos checked, if_neg accepted]

/-- A nonce above the stored one, or zero, passes the replay check. -/
theorem checkReplay_of_fresh {nonce : UInt64} (fresh : nonce = 0 ∨ c.recvNonce < nonce) :
    (c.checkReplay msgType nonce payload).1 = .ok (msgType, payload) := by
  unfold Codec.checkReplay
  split_ifs with checked replayed
  · rcases fresh with zero | above
    · simp [zero] at replayed
    · rw [UInt64.lt_iff_toNat_lt] at above
      rw [UInt64.le_iff_toNat_le] at replayed
      omega
  · rfl
  · rfl

theorem uint64_take_eight (bytes : List UInt8) : uint64 (bytes.take 8) = uint64 bytes := by
  simp [uint64, List.take_take]

/-- `decode` in secure mode on a datagram split at its last 32 bytes: the tag
comparison, then the replay check of the type, the nonce in the eight bytes
after the type, and the bytes between the nonce and the tag. -/
theorem decode_append_tag (secure : c.secureMode = true) {rest sig : List UInt8}
    (long : nonceSize ≤ rest.length) (tagged : sig.length = hmacSize) :
    c.decode mac ((msgType :: rest) ++ sig) =
      if mac.tag c.key (msgType :: rest) = sig then
        c.checkReplay msgType (uint64 rest) (rest.drop nonceSize)
      else (.error .invalidHMAC, c) := by
  have dataLength : ((msgType :: rest) ++ sig).length = rest.length + 1 + hmacSize := by
    simp [tagged]
    omega
  have payloadEnd : ((msgType :: rest) ++ sig).length - hmacSize = rest.length + 1 := by
    omega
  have nonceBytes : ((msgType :: rest) ++ sig).extract 1 9 = rest.take 8 := by
    simp only [List.extract_eq_take_drop, List.cons_append, List.drop_succ_cons,
      List.drop_zero]
    exact List.take_append_of_le_length (by simpa [nonceSize] using long)
  have signed : ((msgType :: rest) ++ sig).take (rest.length + 1) = msgType :: rest :=
    List.take_left' (by simp)
  have payloadBytes : ((msgType :: rest) ++ sig).extract 9 (rest.length + 1) =
      rest.drop nonceSize := by
    have remaining : (rest.drop 8).length = rest.length + 1 - 9 := by
      simp only [List.length_drop]
      omega
    simp only [List.extract_eq_take_drop, List.cons_append, nonceSize]
    rw [List.drop_succ_cons, List.drop_append_of_le_length (by simpa [nonceSize] using long),
      List.take_left' remaining]
  have tagBytes : ((msgType :: rest) ++ sig).drop (rest.length + 1) = sig :=
    List.drop_left' (by simp)
  have longEnough : ¬ ((msgType :: rest) ++ sig).length < 1 + nonceSize + hmacSize := by
    rw [dataLength]
    simp only [nonceSize, hmacSize] at long ⊢
    omega
  rw [List.cons_append, Codec.decode.eq_2, ← List.cons_append]
  simp only [secure, if_true, longEnough, if_false, payloadEnd, nonceBytes, signed,
    payloadBytes, tagBytes, uint64_take_eight, Codec.verifyHMAC, Codec.computeHMAC]
  by_cases tagMatches : mac.tag c.key (msgType :: rest) = sig <;> simp [tagMatches]

/-- `decode` of a datagram sealed under the codec's own key: only the replay
check decides. -/
theorem decode_sealed (secure : c.secureMode = true) (nonce : UInt64) :
    c.decode mac (sealed mac c.key msgType nonce payload) =
      c.checkReplay msgType nonce payload := by
  have split : sealed mac c.key msgType nonce payload =
      (msgType :: (putUint64 nonce ++ payload)) ++
        mac.tag c.key (msgType :: (putUint64 nonce ++ payload)) := rfl
  rw [split, decode_append_tag secure (by simp [nonceSize]) (mac.length_tag _ _)]
  simp [List.drop_left', nonceSize]

theorem decode_of_not_secureMode (insecure : c.secureMode = false) :
    c.decode mac (msgType :: payload) = (.ok (msgType, payload), c) := by
  simp [Codec.decode, insecure]

/-- A datagram shorter than the secure minimum is refused in secure mode. -/
theorem decode_of_short (secure : c.secureMode = true) {data : List UInt8}
    (short : data.length < 1 + nonceSize + hmacSize) :
    c.decode mac data = (.error .messageTooShort, c) := by
  cases data with
  | nil => rfl
  | cons msgType rest => rw [Codec.decode.eq_2, if_pos secure, if_pos short]

end Codec

end Mac

/-! ## Payload checks -/

section Payloads

variable {payload : List UInt8}

theorem parsePayload_frame (large : minEthernetFrame ≤ payload.length)
    (small : payload.length ≤ maxFrameSize) :
    parsePayload msgFrame payload = .ok { type := msgFrame, frame := payload } := by
  simp [parsePayload, not_lt.mpr large, not_lt.mpr small]

theorem parsePayload_hello {challenge : List UInt8} (sized : challenge.length = challengeSize) :
    parsePayload msgHello (putUint16 protocolVersion ++ challenge) =
      .ok { type := msgHello, version := protocolVersion, challenge := challenge } := by
  have bytes : (putUint16 protocolVersion ++ challenge).extract 2 (2 + challengeSize) =
      challenge := by
    simp [List.drop_left', ← sized]
  simp [parsePayload, msgFrame, msgHello, helloPayloadSize, bytes, sized]

theorem parsePayload_helloAck {response : List UInt8} (sized : response.length = challengeRespLen) :
    parsePayload msgHelloAck (putUint16 protocolVersion ++ response) =
      .ok { type := msgHelloAck, version := protocolVersion, response := response } := by
  have bytes : (putUint16 protocolVersion ++ response).extract 2 (2 + challengeRespLen) =
      response := by
    simp [List.drop_left', ← sized]
  simp [parsePayload, msgFrame, msgHello, msgHelloAck, helloAckPayloadSize, bytes, sized]

theorem parsePayload_ping (timestamp : Int64) :
    parsePayload msgPing (putUint64 timestamp.toUInt64) =
      .ok { type := msgPing, timestamp := timestamp } := by
  simp [parsePayload, msgFrame, msgHello, msgHelloAck, msgPing, pingPongPayloadSize]

theorem parsePayload_pong (timestamp : Int64) :
    parsePayload msgPong (putUint64 timestamp.toUInt64) =
      .ok { type := msgPong, timestamp := timestamp } := by
  simp [parsePayload, msgFrame, msgHello, msgHelloAck, msgPing, msgPong, pingPongPayloadSize]

theorem parsePayload_bye : parsePayload msgBye payload = .ok { type := msgBye } := by
  simp [parsePayload, msgFrame, msgHello, msgHelloAck, msgPing, msgPong, msgBye]

end Payloads

end Protocol
end XbsLink
