import XbsLink.Protocol.Framing

/-!
# Round trip over message sequences

A sender encodes a sequence of messages with the typed encoders and a
receiver decodes the datagrams in the same order.  `Outgoing` names the six
encoders with their arguments, `emitAll` and `decodeAll` run the two sides,
and `Outgoing.expected` is the message the receiver should hand back.

In insecure mode every datagram comes back.  In secure mode the receiver's
window `recvNonce` stays at most the sender's counter as long as the counter
does not wrap, so every nonce the receiver checks is fresh; this is the
invariant of `decodeAll_emitAll_of_secure`.  The counter is a `uint64`: the
`2 ^ 64`-th datagram carries nonce `0`, which the replay check lets through,
but a handshake datagram there leaves the window at `2 ^ 64 - 1` and the next
checked nonce, `1`, is refused.
-/

namespace XbsLink
namespace Protocol

open BigEndian

/-- A message a sender encodes, with its encoder's arguments. -/
inductive Outgoing
  | frame (frame : List UInt8)
  | hello (random : RandomBytes challengeSize)
  | helloAck (challenge : List UInt8)
  | ping (timestamp : Int64)
  | pong (timestamp : Int64)
  | bye

namespace Outgoing

/-- Frames passed to `EncodeFrame` are within `[14, 1514]`. -/
def Valid : Outgoing → Prop
  | .frame bytes => minEthernetFrame ≤ bytes.length ∧ bytes.length ≤ maxFrameSize
  | _ => True

instance : DecidablePred Valid
  | .frame _ => inferInstanceAs (Decidable (_ ∧ _))
  | .hello _ | .helloAck _ | .ping _ | .pong _ | .bye => inferInstanceAs (Decidable True)

/-- The type byte of an outgoing message. -/
def msgType : Outgoing → UInt8
  | .frame _ => msgFrame
  | .hello _ => msgHello
  | .helloAck _ => msgHelloAck
  | .ping _ => msgPing
  | .pong _ => msgPong
  | .bye => msgBye

section Mac

variable (mac : Mac hmacSize)

/-- The payload the encoder of a message builds. -/
def payload (c : Codec) : Outgoing → List UInt8
  | .frame bytes => bytes
  | .hello random => putUint16 protocolVersion ++ random.bytes
  | .helloAck challenge => putUint16 protocolVersion ++ c.challengeResponse mac challenge
  | .ping timestamp => putUint64 timestamp.toUInt64
  | .pong timestamp => putUint64 timestamp.toUInt64
  | .bye => []

/-- The decoded message the round trip promises for a message sent under
`key`: the frame, the version and challenge, the response (the tag of a
16-byte challenge under a non-empty key, 32 zero bytes otherwise), the
timestamp. -/
def expected (key : List UInt8) : Outgoing → Message
  | .frame bytes => { type := msgFrame, frame := bytes }
  | .hello random =>
      { type := msgHello, version := protocolVersion, challenge := random.bytes }
  | .helloAck challenge =>
      { type := msgHelloAck, version := protocolVersion,
        response := if 0 < key.length ∧ challenge.length = challengeSize then
          mac.tag key challenge else List.replicate challengeRespLen 0 }
  | .ping timestamp => { type := msgPing, timestamp := timestamp }
  | .pong timestamp => { type := msgPong, timestamp := timestamp }
  | .bye => { type := msgBye }

end Mac

end Outgoing

namespace Codec

section Mac

variable (mac : Mac hmacSize)

/-- Encode one message with its encoder. -/
def emit (c : Codec) : Outgoing → Except FrameSizeError (List UInt8 × Codec)
  | .frame bytes => c.encodeFrame mac bytes
  | .hello random => .ok ((c.encodeHello mac random).1.1, (c.encodeHello mac random).2)
  | .helloAck challenge => .ok (c.encodeHelloAck mac challenge)
  | .ping timestamp => .ok (c.encodePing mac timestamp)
  | .pong timestamp => .ok (c.encodePong mac timestamp)
  | .bye => .ok (c.encodeBye mac)

/-- Encode messages in order, stopping at the first encoder error. -/
def emitAll (c : Codec) : List Outgoing → Except FrameSizeError (List (List UInt8) × Codec)
  | [] => .ok ([], c)
  | message :: rest =>
      match c.emit mac message with
      | .error e => .error e
      | .ok (datagram, next) =>
          match next.emitAll rest with
          | .error e => .error e
          | .ok (datagrams, last) => .ok (datagram :: datagrams, last)

/-- `Decode` datagrams in order, threading the codec. -/
def decodeAll (c : Codec) : List (List UInt8) → List (Except DecodeError Message) × Codec
  | [] => ([], c)
  | datagram :: rest =>
      let (result, next) := c.Decode mac datagram
      let (results, last) := next.decodeAll rest
      (result :: results, last)

end Mac

variable {mac : Mac hmacSize}

@[simp] theorem length_challengeResponse (c : Codec) (challenge : List UInt8) :
    (c.challengeResponse mac challenge).length = challengeRespLen := by
  unfold challengeResponse
  split_ifs
  · exact mac.length_tag _ _
  · exact List.length_replicate

/-- Every valid message is its encoder's type and payload passed to `encode`. -/
theorem emit_of_valid (c : Codec) {message : Outgoing} (valid : message.Valid) :
    c.emit mac message = .ok (c.encode mac message.msgType (message.payload mac c)) := by
  cases message with
  | frame bytes =>
      obtain ⟨large, small⟩ := valid
      simp [emit, encodeFrame, not_lt.mpr large, not_lt.mpr small, Outgoing.msgType,
        Outgoing.payload]
  | hello random => rfl
  | helloAck challenge => rfl
  | ping timestamp => rfl
  | pong timestamp => rfl
  | bye => rfl

/-- The payload each encoder builds passes `parsePayload` as the promised
message. -/
theorem parsePayload_payload (c : Codec) {message : Outgoing} (valid : message.Valid) :
    parsePayload message.msgType (message.payload mac c) = .ok (message.expected mac c.key) := by
  cases message with
  | frame bytes => exact parsePayload_frame valid.1 valid.2
  | hello random => exact parsePayload_hello random.length_bytes
  | helloAck challenge =>
      rw [Outgoing.msgType, Outgoing.payload,
        parsePayload_helloAck (length_challengeResponse c challenge)]
      simp [Outgoing.expected, challengeResponse, computeHMAC, c.secureMode_eq]
  | ping timestamp => exact parsePayload_ping timestamp
  | pong timestamp => exact parsePayload_pong timestamp
  | bye => exact parsePayload_bye

theorem Decode_of_decode {c next : Codec} {data : List UInt8} {msgType : UInt8}
    {payload : List UInt8} (decoded : c.decode mac data = (.ok (msgType, payload), next)) :
    c.Decode mac data = (parsePayload msgType payload, next) := by
  simp [Decode, decoded]

@[simp] theorem decodeAll_nil (c : Codec) : c.decodeAll mac [] = ([], c) := rfl

theorem decodeAll_cons (c : Codec) (datagram : List UInt8) (rest : List (List UInt8)) :
    c.decodeAll mac (datagram :: rest) =
      ((c.Decode mac datagram).1 :: ((c.Decode mac datagram).2.decodeAll mac rest).1,
        ((c.Decode mac datagram).2.decodeAll mac rest).2) := rfl

theorem decodeAll_append (c : Codec) (front back : List (List UInt8)) :
    c.decodeAll mac (front ++ back) =
      ((c.decodeAll mac front).1 ++ ((c.decodeAll mac front).2.decodeAll mac back).1,
        ((c.decodeAll mac front).2.decodeAll mac back).2) := by
  induction front generalizing c with
  | nil => rfl
  | cons datagram rest ih => simp [decodeAll_cons, ih]

theorem emitAll_cons_of_emit {c next : Codec} {message : Outgoing} {datagram : List UInt8}
    (rest : List Outgoing) (emitted : c.emit mac message = .ok (datagram, next)) :
    c.emitAll mac (message :: rest) =
      match next.emitAll mac rest with
      | .error e => .error e
      | .ok (datagrams, last) => .ok (datagram :: datagrams, last) := by
  simp [emitAll, emitted]

/-! ## Insecure mode -/

/-- In insecure mode every valid message comes back as promised. -/
theorem decodeAll_emitAll_of_insecure (messages : List Outgoing)
    (valid : ∀ message ∈ messages, message.Valid) {sender receiver : Codec}
    (insecureSender : sender.secureMode = false) (insecureReceiver : receiver.secureMode = false) :
    ∃ datagrams last, sender.emitAll mac messages = .ok (datagrams, last) ∧
      (receiver.decodeAll mac datagrams).1 =
        messages.map fun message => .ok (message.expected mac sender.key) := by
  induction messages with
  | nil => exact ⟨[], sender, rfl, rfl⟩
  | cons message rest ih =>
      obtain ⟨datagrams, last, emitted, decoded⟩ :=
        ih fun other member => valid other (List.mem_cons_of_mem _ member)
      have emitOne : sender.emit mac message =
          .ok (message.msgType :: message.payload mac sender, sender) := by
        rw [emit_of_valid sender (valid message List.mem_cons_self),
          encode_of_not_secureMode insecureSender]
      refine ⟨(message.msgType :: message.payload mac sender) :: datagrams, last, ?_, ?_⟩
      · rw [emitAll_cons_of_emit rest emitOne, emitted]
      · rw [decodeAll_cons, Decode_of_decode (decode_of_not_secureMode insecureReceiver),
          parsePayload_payload sender (valid message List.mem_cons_self), decoded]
        rfl

/-! ## Secure mode -/

theorem recvNonce_checkReplay_le {c : Codec} {msgType : UInt8} {nonce : UInt64}
    {payload : List UInt8} (below : c.recvNonce ≤ nonce) :
    (c.checkReplay msgType nonce payload).2.recvNonce ≤ nonce := by
  unfold checkReplay
  split_ifs <;> simp [below]

/-- One secure step: a fresh nonce for the receiver makes the datagram of
any valid message decode as promised. -/
theorem Decode_emit_of_fresh {sender receiver : Codec} {message : Outgoing}
    (valid : message.Valid) (secure : receiver.secureMode = true)
    (sameKey : receiver.key = sender.key)
    (fresh : sender.sendNonce + 1 = 0 ∨ receiver.recvNonce < sender.sendNonce + 1) :
    receiver.Decode mac (sealed mac sender.key message.msgType (sender.sendNonce + 1)
        (message.payload mac sender)) =
      (.ok (message.expected mac sender.key),
        (receiver.checkReplay message.msgType (sender.sendNonce + 1)
          (message.payload mac sender)).2) := by
  have decoded : receiver.decode mac (sealed mac receiver.key message.msgType
      (sender.sendNonce + 1) (message.payload mac sender)) =
      receiver.checkReplay message.msgType (sender.sendNonce + 1) (message.payload mac sender) :=
    decode_sealed secure _
  rw [sameKey] at decoded
  rw [Decode, decoded]
  have accepted : (receiver.checkReplay message.msgType (sender.sendNonce + 1)
      (message.payload mac sender)).1 = .ok (message.msgType, message.payload mac sender) :=
    checkReplay_of_fresh fresh
  generalize receiver.checkReplay message.msgType (sender.sendNonce + 1)
    (message.payload mac sender) = checked at accepted ⊢
  obtain ⟨result, after⟩ := checked
  subst accepted
  simp [parsePayload_payload sender valid]

/-- The secure run: while the sender's counter does not wrap before the last
message, the receiver's window stays at most the counter and every datagram
decodes as promised. -/
theorem decodeAll_emitAll_of_secure (messages : List Outgoing)
    (valid : ∀ message ∈ messages, message.Valid) {sender receiver : Codec}
    (secureSender : sender.secureMode = true) (secure : receiver.secureMode = true)
    (sameKey : receiver.key = sender.key) (behind : receiver.recvNonce ≤ sender.sendNonce)
    (noWrap : sender.sendNonce.toNat + messages.length ≤ 2 ^ 64) :
    ∃ datagrams last, sender.emitAll mac messages = .ok (datagrams, last) ∧
      (receiver.decodeAll mac datagrams).1 =
        messages.map fun message => .ok (message.expected mac sender.key) := by
  induction messages generalizing sender receiver with
  | nil => exact ⟨[], sender, rfl, rfl⟩
  | cons message rest ih =>
      have validHead := valid message List.mem_cons_self
      let next : Codec := { sender with sendNonce := sender.sendNonce + 1 }
      let checked := receiver.checkReplay message.msgType (sender.sendNonce + 1)
        (message.payload mac sender)
      have emitOne : sender.emit mac message =
          .ok (sealed mac sender.key message.msgType (sender.sendNonce + 1)
            (message.payload mac sender), next) := by
        rw [emit_of_valid sender validHead, encode_of_secureMode secureSender]
      -- The nonce is fresh: either it wrapped to zero or it is one above the counter.
      have decodedHead : receiver.Decode mac _ = _ :=
        Decode_emit_of_fresh validHead secure sameKey (UInt64.add_one_eq_zero_or_lt_of_le behind)
      cases rest with
      | nil =>
          refine ⟨[sealed mac sender.key message.msgType (sender.sendNonce + 1)
            (message.payload mac sender)], next, by rw [emitAll_cons_of_emit [] emitOne]; rfl, ?_⟩
          rw [decodeAll_cons, decodedHead]
          rfl
      | cons second rest =>
          -- More messages follow, so the counter did not wrap and the window stays behind it.
          have noWrapHere : sender.sendNonce.toNat + 1 < 2 ^ 64 := by
            simp only [List.length_cons] at noWrap
            omega
          have behindNext : checked.2.recvNonce ≤ next.sendNonce :=
            recvNonce_checkReplay_le (UInt64.le_add_one_of_le behind noWrapHere)
          obtain ⟨datagrams, last, emitted, decoded⟩ := @ih
            (fun other member => valid other (List.mem_cons_of_mem _ member))
            next checked.2 secureSender
            (by simp [checked, secure]) (by simp [checked, sameKey, next]) behindNext
            (by
              simp only [List.length_cons] at noWrap ⊢
              rw [UInt64.toNat_add_one_of_lt noWrapHere]
              omega)
          refine ⟨sealed mac sender.key message.msgType (sender.sendNonce + 1)
            (message.payload mac sender) :: datagrams, last, ?_, ?_⟩
          · rw [emitAll_cons_of_emit _ emitOne, emitted]
          · rw [decodeAll_cons, decodedHead]
            simp only [List.map_cons, List.cons.injEq, true_and]
            exact decoded

theorem emitAll_append {c next : Codec} {front : List Outgoing}
    {datagrams : List (List UInt8)} (emitted : c.emitAll mac front = .ok (datagrams, next))
    (back : List Outgoing) :
    c.emitAll mac (front ++ back) =
      match next.emitAll mac back with
      | .error e => .error e
      | .ok (more, last) => .ok (datagrams ++ more, last) := by
  induction front generalizing c datagrams with
  | nil =>
      cases emitted
      rw [List.nil_append]
      cases next.emitAll mac back <;> rfl
  | cons message rest ih =>
      unfold emitAll at emitted
      split at emitted
      · cases emitted
      · rename_i datagram after emittedHead
        split at emitted
        · cases emitted
        · rename_i more last emittedRest
          cases emitted
          rw [List.cons_append, emitAll_cons_of_emit _ emittedHead, ih emittedRest]
          cases next.emitAll mac back <;> rfl

/-- A run of frames moves the receiver's window along with the sender's
counter, as long as the counter does not wrap. -/
theorem emitAll_replicate_frame {bytes : List UInt8} (valid : (Outgoing.frame bytes).Valid)
    (count : Nat) {sender receiver : Codec} (secureSender : sender.secureMode = true)
    (secure : receiver.secureMode = true) (sameKey : receiver.key = sender.key)
    (aligned : receiver.recvNonce = sender.sendNonce)
    (noWrap : sender.sendNonce.toNat + count < 2 ^ 64) :
    ∃ datagrams, sender.emitAll mac (List.replicate count (.frame bytes)) =
        .ok (datagrams, { sender with sendNonce := sender.sendNonce + UInt64.ofNat count }) ∧
      (receiver.decodeAll mac datagrams).2 =
        { receiver with recvNonce := sender.sendNonce + UInt64.ofNat count } := by
  induction count generalizing sender receiver with
  | zero =>
      refine ⟨[], ?_, ?_⟩
      · simp [emitAll]
      · ext <;> simp [aligned]
  | succ count ih =>
      have noWrapHere : sender.sendNonce.toNat + 1 < 2 ^ 64 := by omega
      let next : Codec := { sender with sendNonce := sender.sendNonce + 1 }
      have emitOne : sender.emit mac (.frame bytes) =
          .ok (sealed mac sender.key msgFrame (sender.sendNonce + 1) bytes, next) := by
        rw [emit_of_valid sender valid, encode_of_secureMode secureSender]
        rfl
      have fresh : ¬ (0 < sender.sendNonce + 1 ∧ sender.sendNonce + 1 ≤ receiver.recvNonce) := by
        rw [aligned, UInt64.le_iff_toNat_le, UInt64.toNat_add_one_of_lt noWrapHere]
        omega
      have checked : msgFrame ≠ msgHello ∧ msgFrame ≠ msgHelloAck := by decide
      have decodedHead : receiver.Decode mac
          (sealed mac sender.key msgFrame (sender.sendNonce + 1) bytes) =
          (parsePayload msgFrame bytes, { receiver with recvNonce := sender.sendNonce + 1 }) := by
        rw [← sameKey]
        exact Decode_of_decode (by rw [decode_sealed secure, checkReplay_of_accepted checked fresh])
      obtain ⟨datagrams, emitted, decoded⟩ := @ih next
        { receiver with recvNonce := sender.sendNonce + 1 } secureSender secure sameKey rfl
        (by rw [UInt64.toNat_add_one_of_lt noWrapHere]; omega)
      refine ⟨sealed mac sender.key msgFrame (sender.sendNonce + 1) bytes :: datagrams, ?_, ?_⟩
      · rw [List.replicate_succ, emitAll_cons_of_emit _ emitOne, emitted]
        simp only [next, UInt64.add_one_add_ofNat]
      · rw [decodeAll_cons, decodedHead]
        dsimp only
        rw [decoded]
        ext <;> simp [next, UInt64.add_one_add_ofNat]

/-- At the top of the counter a HELLO_ACK takes nonce zero, which leaves a
full window as it is, and the frame after it, nonce one, is refused. -/
theorem emitAll_wrap_refused {sender receiver : Codec} {bytes : List UInt8}
    (valid : (Outgoing.frame bytes).Valid) (secureSender : sender.secureMode = true)
    (secure : receiver.secureMode = true) (sameKey : receiver.key = sender.key)
    (top : sender.sendNonce.toNat + 1 = 2 ^ 64) (full : receiver.recvNonce = sender.sendNonce) :
    ∃ datagrams last, sender.emitAll mac [.helloAck [], .frame bytes] = .ok (datagrams, last) ∧
      (receiver.decodeAll mac datagrams).1.getLast? = some (.error .replayDetected) := by
  let wrapped : Codec := { sender with sendNonce := sender.sendNonce + 1 }
  have wrapsToZero : wrapped.sendNonce = 0 := UInt64.add_one_eq_zero_of top
  let ackPayload := (Outgoing.helloAck []).payload mac sender
  have emitAck : sender.emit mac (.helloAck []) =
      .ok (sealed mac sender.key msgHelloAck (sender.sendNonce + 1) ackPayload, wrapped) := by
    rw [@emit_of_valid mac sender (.helloAck []) trivial, encode_of_secureMode secureSender]
    rfl
  have emitFrame : wrapped.emit mac (.frame bytes) =
      .ok (sealed mac sender.key msgFrame (wrapped.sendNonce + 1) bytes,
        { wrapped with sendNonce := wrapped.sendNonce + 1 }) := by
    rw [emit_of_valid wrapped valid,
      encode_of_secureMode (show wrapped.secureMode = true from secureSender)]
    rfl
  have ackKept : receiver.Decode mac
      (sealed mac sender.key msgHelloAck (sender.sendNonce + 1) ackPayload) =
      (parsePayload msgHelloAck ackPayload, receiver) := by
    rw [← sameKey]
    exact Decode_of_decode (by rw [decode_sealed secure, checkReplay_of_exempt (.inr rfl)])
  have replayed : 0 < wrapped.sendNonce + 1 ∧ wrapped.sendNonce + 1 ≤ receiver.recvNonce := by
    rw [wrapsToZero, full, UInt64.le_iff_toNat_le]
    refine ⟨by decide, ?_⟩
    simp only [UInt64.toNat_add, UInt64.toNat_zero, UInt64.toNat_one]
    omega
  have frameRefused : receiver.Decode mac
      (sealed mac sender.key msgFrame (wrapped.sendNonce + 1) bytes) =
      (.error .replayDetected, receiver) := by
    rw [← sameKey, Decode, decode_sealed secure, checkReplay_of_replayed (by decide) replayed]
  refine ⟨[sealed mac sender.key msgHelloAck (sender.sendNonce + 1) ackPayload,
    sealed mac sender.key msgFrame (wrapped.sendNonce + 1) bytes],
    { wrapped with sendNonce := wrapped.sendNonce + 1 }, ?_, ?_⟩
  · rw [emitAll_cons_of_emit _ emitAck, emitAll_cons_of_emit _ emitFrame]
    rfl
  · rw [decodeAll_cons, ackKept, decodeAll_cons, frameRefused]
    rfl

end Codec

/-- `EncodeFrame` fails exactly for frames outside `[14, 1514]`. -/
theorem encodeFrame_error_iff (mac : Mac hmacSize) (c : Codec) (bytes : List UInt8) :
    (∃ e, c.encodeFrame mac bytes = .error e) ↔
      bytes.length < minEthernetFrame ∨ maxFrameSize < bytes.length := by
  unfold Codec.encodeFrame
  split_ifs with outside
  · exact ⟨fun _ => outside, fun _ => ⟨_, rfl⟩⟩
  · exact ⟨fun ⟨_, refused⟩ => (nomatch refused), fun inside => absurd inside outside⟩

/-- `Decode` refuses a FRAME payload exactly when it is outside `[14, 1514]`. -/
theorem parsePayload_frame_error_iff (payload : List UInt8) :
    (∃ e, parsePayload msgFrame payload = .error e) ↔
      payload.length < minEthernetFrame ∨ maxFrameSize < payload.length := by
  by_cases small : payload.length < minEthernetFrame
  · simp [parsePayload, small]
  · by_cases large : maxFrameSize < payload.length
    · simp [parsePayload, small, large]
    · simp [parsePayload, small, large]

/-- The round trip from a fresh sender.  A receiver with the same key and an
empty window decodes, in order, every datagram of a sequence of valid
messages as the promised message, provided that under a non-empty key the
sequence has at most `2 ^ 64` messages; and `EncodeFrame` refuses exactly the
frame sizes `Decode` refuses. -/
theorem decodeAll_emitAll_newCodec (mac : Mac hmacSize) (key : List UInt8)
    (messages : List Outgoing) (valid : ∀ message ∈ messages, message.Valid)
    (bounded : key = [] ∨ messages.length ≤ 2 ^ 64)
    (receiver : Codec) (sameKey : receiver.key = key) (fresh : receiver.recvNonce = 0) :
    (∃ datagrams last, (newCodec key).emitAll mac messages = .ok (datagrams, last) ∧
      (receiver.decodeAll mac datagrams).1 =
        messages.map fun message => .ok (message.expected mac key)) ∧
    ∀ (c : Codec) (bytes : List UInt8),
      ((∃ e, c.encodeFrame mac bytes = .error e) ↔
        bytes.length < minEthernetFrame ∨ maxFrameSize < bytes.length) ∧
      ((∃ e, parsePayload msgFrame bytes = .error e) ↔
        bytes.length < minEthernetFrame ∨ maxFrameSize < bytes.length) := by
  refine ⟨?_, fun c bytes => ⟨encodeFrame_error_iff mac c bytes, parsePayload_frame_error_iff bytes⟩⟩
  have receiverMode : receiver.secureMode = decide (0 < key.length) := by
    rw [receiver.secureMode_eq, sameKey]
  by_cases empty : key = []
  · subst empty
    exact Codec.decodeAll_emitAll_of_insecure messages valid rfl receiverMode
  · have nonEmpty : 0 < key.length := List.length_pos_iff.mpr empty
    have atMost : messages.length ≤ 2 ^ 64 := bounded.resolve_left empty
    exact Codec.decodeAll_emitAll_of_secure messages valid (by simp [newCodec, nonEmpty])
      (by simp [receiverMode, nonEmpty]) sameKey (by simp [fresh, newCodec])
      (by simp [newCodec]; omega)

theorem decodeAll_emitAll_newCodec_handshake_frame :
    ∃ datagrams last, (newCodec [7]).emitAll hmacSha256
        [.helloAck (List.replicate 16 1), .frame (List.replicate 14 2)] = .ok (datagrams, last) ∧
      ((newCodec [7]).decodeAll hmacSha256 datagrams).1 =
        [.ok (Outgoing.expected hmacSha256 [7] (.helloAck (List.replicate 16 1))),
         .ok (Outgoing.expected hmacSha256 [7] (.frame (List.replicate 14 2)))] :=
  (decodeAll_emitAll_newCodec hmacSha256 [7] _ (by decide) (.inr (by decide))
    (newCodec [7]) rfl rfl).1

/-- A fresh sender's `2 ^ 64 - 1` frames, then a HELLO_ACK, whose nonce
wraps to zero, then one more frame. -/
def nonceWrapRun : List Outgoing :=
  List.replicate (2 ^ 64 - 1) (.frame (List.replicate minEthernetFrame 0)) ++
    [.helloAck [], .frame (List.replicate minEthernetFrame 0)]

/-- The round trip fails after the nonce wraps: the last frame of
`nonceWrapRun`, nonce `1`, is refused as a replay by the receiver whose
window the earlier frames left at `2 ^ 64 - 1`. -/
theorem decodeAll_emitAll_nonceWrapRun :
    ∃ datagrams last, (newCodec [1]).emitAll hmacSha256 nonceWrapRun =
        .ok (datagrams, last) ∧
      ((newCodec [1]).decodeAll hmacSha256 datagrams).1.getLast? =
        some (.error .replayDetected) := by
  have valid : (Outgoing.frame (List.replicate minEthernetFrame 0)).Valid := by decide
  obtain ⟨front, frontEmitted, frontDecoded⟩ :=
    @Codec.emitAll_replicate_frame hmacSha256 _ valid (2 ^ 64 - 1) (newCodec [1])
      (newCodec [1]) rfl rfl rfl rfl (by decide)
  obtain ⟨back, last, backEmitted, backRefused⟩ :=
    @Codec.emitAll_wrap_refused hmacSha256
      { newCodec [1] with sendNonce := (newCodec [1]).sendNonce + UInt64.ofNat (2 ^ 64 - 1) }
      { newCodec [1] with recvNonce := (newCodec [1]).sendNonce + UInt64.ofNat (2 ^ 64 - 1) }
      _ valid rfl rfl rfl (by decide) rfl
  refine ⟨front ++ back, last, ?_, ?_⟩
  · rw [nonceWrapRun, Codec.emitAll_append frontEmitted, backEmitted]
  · rw [Codec.decodeAll_append, frontDecoded, List.getLast?_append, backRefused]
    rfl

end Protocol
end XbsLink
