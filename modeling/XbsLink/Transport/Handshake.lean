import XbsLink.Protocol.Receive
import XbsLink.Transport.Addr

/-!
# The handshake of `Transport`

`WaitForPeer` (listen mode) reads datagrams until one decodes as a HELLO,
answers it with a HELLO_ACK and records its source as the peer.
`attemptHandshake` (connect mode) sends a HELLO and reads until a HELLO_ACK
from the configured peer decodes and, in secure mode, carries the tag of the
challenge.  Both loops are driven by what the environment supplies to each
iteration: the context found done, or the result of one `ReadFromUDP`
(a read timeout, another read error, or a datagram and its source); the
handshake's loop also ends when its ten seconds are over.  A loop whose
script runs out has not returned yet.

Writes to the socket are recorded in `sent` with their destination and are
taken to succeed, except `WriteToUDP` to a nil address.  `Connect` repeats
the handshake until it succeeds or the context is done.  Not modelled: the
log lines, the length of `Connect`'s backoff delays (only whether the context
is done before one ends), and `crypto/rand` failing in `EncodeHello`.
-/

namespace XbsLink
namespace Transport

open Protocol BigEndian

/-- `Mode`. -/
inductive Mode
  | listen
  | connect
  deriving DecidableEq, Repr

/-- What one `ReadFromUDP` returns. -/
inductive ReadResult
  /-- The read deadline expired: a `net.Error` whose `Timeout()` is true. -/
  | timeout
  /-- Any other read error. -/
  | error
  | datagram (source : UDPAddr) (bytes : List UInt8)
  deriving DecidableEq, Repr

/-- What one iteration of a read loop finds. -/
inductive Event
  /-- The `select` on `ctx.Done()` at the top of the loop takes its first case. -/
  | cancelled
  | read (result : ReadResult)
  deriving DecidableEq, Repr

/-- What one iteration of `attemptHandshake`'s loop finds. -/
inductive HandshakeEvent
  /-- `time.Now().Before(deadline)` is false. -/
  | expired
  | event (event : Event)
  deriving DecidableEq, Repr

/-- The errors the handshake returns. -/
inductive TransportError
  /-- `"WaitForPeer only valid in listen mode"`. -/
  | wrongMode
  /-- `"Connect only valid in connect mode"`. -/
  | notConnectMode
  /-- `ctx.Err()`. -/
  | cancelled
  /-- `"read error: %w"`. -/
  | readError
  /-- `"failed to send HELLO: %w"`: `WriteToUDP` to a nil peer address. -/
  | sendFailed
  /-- `ErrChallengeInvalid`. -/
  | challengeInvalid
  /-- `"handshake timeout after %v"`. -/
  | handshakeTimeout
  deriving DecidableEq, Repr

/-- What one iteration of `Connect`'s loop finds: the context done at its
top, or a handshake attempt, with the bytes `crypto/rand` supplies to it and
the events it reads, and whether the context is done before the backoff's
timer fires should the attempt fail. -/
inductive ConnectEvent
  | cancelled
  | attempt (random : RandomBytes challengeSize) (events : List HandshakeEvent)
      (cancelledInBackoff : Bool)

end Transport

/-- The fields of `Transport` the handshake reads and writes, and the
datagrams written so far with their destinations. -/
structure Transport where
  mode : Transport.Mode
  codec : Protocol.Codec
  peerAddr : Option Transport.UDPAddr
  challenge : List UInt8
  connected : Bool
  sent : List (Transport.UDPAddr × List UInt8)

namespace Transport

open Protocol

section Mac

variable (mac : Mac hmacSize)

/-- The loop of `WaitForPeer`. -/
def awaitHello (t : Transport) : List Event → Option (Except TransportError Unit × Transport)
  | [] => none
  | .cancelled :: _ => some (.error .cancelled, t)
  | .read .timeout :: rest => awaitHello t rest
  | .read .error :: _ => some (.error .readError, t)
  | .read (.datagram source bytes) :: rest =>
      match t.codec.Decode mac bytes with
      | (.error _, codec) => awaitHello { t with codec := codec } rest
      | (.ok message, codec) =>
          if message.type ≠ msgHello then
            -- A BYE to the source asks it for a fresh handshake.
            let (bye, codec) := codec.encodeBye mac
            awaitHello { t with codec := codec, sent := t.sent ++ [(source, bye)] } rest
          else
            let (ack, codec) := codec.resetRecvNonce.encodeHelloAck mac message.challenge
            some (.ok (), { t with
              codec := codec
              peerAddr := some source
              challenge := message.challenge
              sent := t.sent ++ [(source, ack)]
              connected := true })

/-- `WaitForPeer`. -/
def waitForPeer (t : Transport) (events : List Event) :
    Option (Except TransportError Unit × Transport) :=
  if t.mode ≠ .listen then some (.error .wrongMode, t) else awaitHello mac t events

/-- The loop of `attemptHandshake` after the HELLO is sent. -/
def awaitHelloAck (t : Transport) :
    List HandshakeEvent → Option (Except TransportError Unit × Transport)
  | [] => none
  | .expired :: _ => some (.error .handshakeTimeout, t)
  | .event .cancelled :: _ => some (.error .cancelled, t)
  | .event (.read .timeout) :: rest => awaitHelloAck t rest
  | .event (.read .error) :: _ => some (.error .readError, t)
  | .event (.read (.datagram source bytes)) :: rest =>
      if !addrEqual (some source) t.peerAddr then awaitHelloAck t rest
      else
        match t.codec.Decode mac bytes with
        | (.error _, codec) => awaitHelloAck { t with codec := codec } rest
        | (.ok message, codec) =>
            if message.type ≠ msgHelloAck then awaitHelloAck { t with codec := codec } rest
            else if codec.isSecure && !codec.verifyChallengeResponse mac t.challenge message.response
            then some (.error .challengeInvalid, { t with codec := codec })
            else some (.ok (), { t with codec := codec.resetRecvNonce, connected := true })

/-- `attemptHandshake`, with the 16 bytes `crypto/rand` supplies to
`EncodeHello`. -/
def attemptHandshake (t : Transport) (random : RandomBytes challengeSize)
    (events : List HandshakeEvent) : Option (Except TransportError Unit × Transport) :=
  let ((hello, challenge), codec) := t.codec.encodeHello mac random
  match t.peerAddr with
  | none => some (.error .sendFailed, { t with codec := codec, challenge := challenge })
  | some peer =>
      awaitHelloAck mac
        { t with codec := codec, challenge := challenge, sent := t.sent ++ [(peer, hello)] } events

/-- The loop of `Connect`: a failed attempt is followed by the backoff and a
reset of the window. -/
def connectLoop (t : Transport) : List ConnectEvent → Option (Except TransportError Unit × Transport)
  | [] => none
  | .cancelled :: _ => some (.error .cancelled, t)
  | .attempt random events cancelledInBackoff :: rest =>
      match attemptHandshake mac t random events with
      | none => none
      | some (.ok (), t') => some (.ok (), t')
      | some (.error _, t') =>
          if cancelledInBackoff then some (.error .cancelled, t')
          else connectLoop { t' with codec := t'.codec.resetRecvNonce } rest

/-- `Connect`. -/
def connect (t : Transport) (events : List ConnectEvent) :
    Option (Except TransportError Unit × Transport) :=
  if t.mode ≠ .connect then some (.error .notConnectMode, t) else connectLoop mac t events

end Mac

end Transport

/-! ## Decoding a HELLO -/

namespace Protocol.Codec

open BigEndian

variable {mac : Mac hmacSize}

/-- A HELLO or HELLO_ACK encoded under the receiver's key decodes as its type
and payload, and leaves the receiver's codec as it was: the replay check
exempts both types. -/
theorem decode_encode_of_exempt {sender receiver : Codec} (sameKey : receiver.key = sender.key)
    {msgType : UInt8} (exempt : msgType = msgHello ∨ msgType = msgHelloAck)
    (payload : List UInt8) :
    receiver.decode mac (sender.encode mac msgType payload).1 = (.ok (msgType, payload), receiver) := by
  have sameMode : receiver.secureMode = sender.secureMode := secureMode_eq_of_key_eq sameKey
  cases secure : sender.secureMode with
  | false =>
      rw [encode_of_not_secureMode secure]
      exact decode_of_not_secureMode (sameMode.trans secure)
  | true =>
      rw [encode_of_secureMode secure]
      change receiver.decode mac (sealed mac sender.key msgType (sender.sendNonce + 1) payload) = _
      rw [← sameKey, decode_sealed (sameMode.trans secure), checkReplay_of_exempt exempt]

theorem Decode_encodeHello {sender receiver : Codec} (sameKey : receiver.key = sender.key)
    (random : RandomBytes challengeSize) :
    receiver.Decode mac (sender.encodeHello mac random).1.1 =
      (.ok { type := msgHello, version := protocolVersion, challenge := random.bytes }, receiver) := by
  change receiver.Decode mac
    (sender.encode mac msgHello (putUint16 protocolVersion ++ random.bytes)).1 = _
  rw [Decode_of_decode (decode_encode_of_exempt sameKey (.inl rfl) _),
    parsePayload_hello random.length_bytes]

theorem Decode_encodeHelloAck {sender receiver : Codec} (sameKey : receiver.key = sender.key)
    (challenge : List UInt8) :
    receiver.Decode mac (sender.encodeHelloAck mac challenge).1 =
      (.ok { type := msgHelloAck, version := protocolVersion,
             response := sender.challengeResponse mac challenge }, receiver) := by
  rw [encodeHelloAck, Decode_of_decode (decode_encode_of_exempt sameKey (.inr rfl) _),
    parsePayload_helloAck (length_challengeResponse sender challenge)]

/-- The response a codec puts in its HELLO_ACK passes the check of a codec
with the same key. -/
theorem verifyChallengeResponse_challengeResponse {responder verifier : Codec}
    (sameKey : verifier.key = responder.key) {challenge : List UInt8}
    (sized : challenge.length = challengeSize) :
    verifier.verifyChallengeResponse mac challenge (responder.challengeResponse mac challenge) =
      true := by
  have sameMode : verifier.secureMode = responder.secureMode := secureMode_eq_of_key_eq sameKey
  unfold verifyChallengeResponse challengeResponse
  cases secure : verifier.secureMode with
  | false => rfl
  | true =>
      have responderSecure : responder.secureMode = true := sameMode.symm.trans secure
      simp [responderSecure, sized, computeHMAC, sameKey, mac.length_tag, challengeRespLen,
        hmacSize]

end Protocol.Codec

/-! ## The two loops -/

namespace Transport

open Protocol

section Loops

variable {mac : Mac hmacSize} {t : Transport}

theorem awaitHello_timeouts (t : Transport) (waited : Nat) (events : List Event) :
    awaitHello mac t (List.replicate waited (.read .timeout) ++ events) =
      awaitHello mac t events := by
  induction waited with
  | zero => rfl
  | succ waited ih => rw [List.replicate_succ, List.cons_append, awaitHello, ih]

/-- A HELLO is answered, and its source becomes the peer. -/
theorem awaitHello_of_hello {source : UDPAddr} {bytes : List UInt8} {message : Message}
    {codec : Codec} (decoded : t.codec.Decode mac bytes = (.ok message, codec))
    (isHello : message.type = msgHello) (rest : List Event) :
    awaitHello mac t (.read (.datagram source bytes) :: rest) =
      some (.ok (), { t with
        codec := (codec.resetRecvNonce.encodeHelloAck mac message.challenge).2
        peerAddr := some source
        challenge := message.challenge
        sent := t.sent ++ [(source, (codec.resetRecvNonce.encodeHelloAck mac message.challenge).1)]
        connected := true }) := by
  rw [awaitHello, decoded]
  simp [isHello]

theorem awaitHelloAck_timeouts (t : Transport) (waited : Nat) (events : List HandshakeEvent) :
    awaitHelloAck mac t (List.replicate waited (.event (.read .timeout)) ++ events) =
      awaitHelloAck mac t events := by
  induction waited with
  | zero => rfl
  | succ waited ih => rw [List.replicate_succ, List.cons_append, awaitHelloAck, ih]

/-- A HELLO_ACK from the peer whose response checks out ends the handshake. -/
theorem awaitHelloAck_of_accepted {source : UDPAddr} {bytes : List UInt8} {message : Message}
    {codec : Codec} (fromPeer : addrEqual (some source) t.peerAddr = true)
    (decoded : t.codec.Decode mac bytes = (.ok message, codec))
    (isAck : message.type = msgHelloAck)
    (verified : codec.verifyChallengeResponse mac t.challenge message.response = true)
    (rest : List HandshakeEvent) :
    awaitHelloAck mac t (.event (.read (.datagram source bytes)) :: rest) =
      some (.ok (), { t with codec := codec.resetRecvNonce, connected := true }) := by
  rw [awaitHelloAck, fromPeer, decoded]
  simp [isAck, verified]

/-- With a peer address, `attemptHandshake` sends its HELLO there and waits. -/
theorem attemptHandshake_of_peer {peer : UDPAddr} (dialing : t.peerAddr = some peer)
    (random : RandomBytes challengeSize) (events : List HandshakeEvent) :
    attemptHandshake mac t random events =
      awaitHelloAck mac
        { t with
          codec := (t.codec.encodeHello mac random).2
          challenge := (t.codec.encodeHello mac random).1.2
          sent := t.sent ++ [(peer, (t.codec.encodeHello mac random).1.1)] } events := by
  unfold attemptHandshake
  rw [dialing]

/-- An attempt that succeeds ends `Connect`. -/
theorem connect_of_handshake {t' : Transport} (connecting : t.mode = .connect)
    {random : RandomBytes challengeSize} {events : List HandshakeEvent}
    (succeeded : attemptHandshake mac t random events = some (.ok (), t'))
    (cancelledInBackoff : Bool) (rest : List ConnectEvent) :
    connect mac t (.attempt random events cancelledInBackoff :: rest) = some (.ok (), t') := by
  rw [connect, if_neg (by simp [connecting]), connectLoop, succeeded]

/-- A listener answers a HELLO encoded under its key, after any number of
read timeouts, and takes its source as the peer. -/
theorem waitForPeer_of_hello (listening : t.mode = .listen) {sender : Codec}
    (sameKey : t.codec.key = sender.key) (random : RandomBytes challengeSize) (source : UDPAddr)
    (waited : Nat) (rest : List Event) :
    waitForPeer mac t (List.replicate waited (.read .timeout) ++
        .read (.datagram source (sender.encodeHello mac random).1.1) :: rest) =
      some (.ok (), { t with
        codec := (t.codec.resetRecvNonce.encodeHelloAck mac random.bytes).2
        peerAddr := some source
        challenge := random.bytes
        sent := t.sent ++ [(source, (t.codec.resetRecvNonce.encodeHelloAck mac random.bytes).1)]
        connected := true }) := by
  rw [waitForPeer, if_neg (by simp [listening]), awaitHello_timeouts,
    awaitHello_of_hello (Codec.Decode_encodeHello sameKey random) rfl]

/-- A connector whose HELLO is answered by a codec with its key, after any
number of read timeouts, finds the response valid and returns nil. -/
theorem attemptHandshake_of_answer {peer : UDPAddr} (dialing : t.peerAddr = some peer)
    {responder : Codec} (sameKey : responder.key = t.codec.key)
    (random : RandomBytes challengeSize) (waited : Nat) (rest : List HandshakeEvent) :
    attemptHandshake mac t random (List.replicate waited (.event (.read .timeout)) ++
        .event (.read (.datagram peer (responder.encodeHelloAck mac random.bytes).1)) :: rest) =
      some (.ok (), { t with
        codec := (t.codec.encodeHello mac random).2.resetRecvNonce
        challenge := random.bytes
        sent := t.sent ++ [(peer, (t.codec.encodeHello mac random).1.1)]
        connected := true }) := by
  have ackKey : (t.codec.encodeHello mac random).2.key = responder.key := by
    change (t.codec.encode mac msgHello _).2.key = _
    rw [Codec.key_encode, sameKey]
  rw [attemptHandshake_of_peer dialing, awaitHelloAck_timeouts,
    awaitHelloAck_of_accepted (by simp [dialing]) (Codec.Decode_encodeHelloAck ackKey random.bytes)
      rfl (Codec.verifyChallengeResponse_challengeResponse ackKey random.length_bytes)]
  rfl

end Loops

/-! ## The two ends agree -/

/-- A listener on the usage text's port, with the key `[1]`. -/
def handshakeListener : Transport :=
  { mode := .listen, codec := newCodec [1], peerAddr := none, challenge := [],
    connected := false, sent := [] }

/-- The listener's address as the connector sees it. -/
def listenerAddress : UDPAddr := ⟨[203, 0, 113, 50], 31415⟩

/-- The connector's address as the listener sees it. -/
def connectorAddress : UDPAddr := ⟨[198, 51, 100, 7], 40000⟩

/-- A connector dialing the listener, with the same key. -/
def handshakeConnector : Transport :=
  { mode := .connect, codec := newCodec [1], peerAddr := some listenerAddress, challenge := [],
    connected := false, sent := [] }

/-- Sixteen bytes from `crypto/rand`. -/
def sampleRandom : RandomBytes challengeSize := ⟨List.replicate 16 7, by simp [challengeSize]⟩

end Transport

end XbsLink
