import XbsLink.Transport.Handshake
import XbsLink.Protocol.Grammar

/-!
# What the connector authenticates

In secure mode `attemptHandshake` returns nil only after it has read a
datagram that answers the challenge of this very attempt: one from the peer
address, that a codec with the pre-shared key decodes as a HELLO_ACK, and
whose response is the tag of the challenge `EncodeHello` returned
(`handshake_authenticated`).  A replayed HELLO_ACK, or one answering an
earlier attempt, carries the tag of another challenge.  Every other way out of
the attempt is an error that leaves `connected` as it was, and `Connect`
returns nil only through such an attempt.

The loop's four filters (source, `Decode`, type, response) are read once, in
`awaitHelloAck_cons_cases`; the run lemmas are inductions over the events
that cite it.
-/

namespace XbsLink

namespace Protocol.Codec

variable {mac : Mac hmacSize}

/-- A response passes the secure check only if it is the tag of a 16-byte
challenge. -/
theorem response_of_verifyChallengeResponse {c : Codec} (secure : c.secureMode = true)
    {challenge response : List UInt8}
    (verified : c.verifyChallengeResponse mac challenge response = true) :
    challenge.length = challengeSize ∧ response = mac.tag c.key challenge := by
  unfold verifyChallengeResponse at verified
  rw [secure, if_neg (by decide)] at verified
  by_cases sized : challenge.length ≠ challengeSize ∨ response.length ≠ challengeRespLen
  · rw [if_pos sized] at verified
    cases verified
  rw [if_neg sized] at verified
  rw [not_or, not_not, not_not] at sized
  exact ⟨sized.1, (beq_iff_eq.mp verified).symm⟩

end Protocol.Codec

namespace Transport

open Protocol

/-- A datagram that answers a challenge: it comes from the peer address, a
codec with the key decodes it as a HELLO_ACK, and its response is the tag of
the challenge under the key. -/
def AnswersChallenge (mac : Mac hmacSize) (key : List UInt8) (peerAddr : Option UDPAddr)
    (challenge : List UInt8) (source : UDPAddr) (bytes : List UInt8) : Prop :=
  addrEqual (some source) peerAddr = true ∧
    ∃ (codec : Codec) (message : Message), codec.key = key ∧
      (codec.Decode mac bytes).1 = .ok message ∧ message.type = msgHelloAck ∧
      message.response = mac.tag key challenge

/-- The errors the handshake's loop returns. -/
def LoopError (e : TransportError) : Prop :=
  e = .handshakeTimeout ∨ e = .cancelled ∨ e = .readError ∨ e = .challengeInvalid

section Loop

variable {mac : Mac hmacSize} {t : Transport}

/-- What one iteration of `attemptHandshake`'s loop can do: read on, with the
codec as it was or as a datagram's `Decode` left it; return an error, with
such a codec; or accept a HELLO_ACK from the peer whose response passed the
check. -/
theorem awaitHelloAck_cons_cases (event : HandshakeEvent) (rest : List HandshakeEvent) :
    (∃ codec : Codec, codec.key = t.codec.key ∧
        awaitHelloAck mac t (event :: rest) = awaitHelloAck mac { t with codec := codec } rest) ∨
      (∃ (e : TransportError) (codec : Codec), LoopError e ∧ codec.key = t.codec.key ∧
        awaitHelloAck mac t (event :: rest) = some (.error e, { t with codec := codec })) ∨
      ∃ source bytes message codec, event = .event (.read (.datagram source bytes)) ∧
        addrEqual (some source) t.peerAddr = true ∧ t.codec.Decode mac bytes = (.ok message, codec) ∧
        message.type = msgHelloAck ∧
        (codec.isSecure && !codec.verifyChallengeResponse mac t.challenge message.response) = false ∧
        awaitHelloAck mac t (event :: rest) =
          some (.ok (), { t with codec := codec.resetRecvNonce, connected := true }) := by
  rcases event with _ | _ | _ | _ | ⟨source, bytes⟩
  case expired => exact .inr (.inl ⟨.handshakeTimeout, t.codec, .inl rfl, rfl, rfl⟩)
  case cancelled => exact .inr (.inl ⟨.cancelled, t.codec, .inr (.inl rfl), rfl, rfl⟩)
  case timeout => exact .inl ⟨t.codec, rfl, rfl⟩
  case error => exact .inr (.inl ⟨.readError, t.codec, .inr (.inr (.inl rfl)), rfl, rfl⟩)
  case datagram =>
    by_cases fromPeer : addrEqual (some source) t.peerAddr = true
    swap
    · refine .inl ⟨t.codec, rfl, ?_⟩
      rw [awaitHelloAck, if_pos (by simpa using fromPeer)]
    have sameKey : (t.codec.Decode mac bytes).2.key = t.codec.key := by
      rw [Codec.Decode_snd, Codec.key_decode]
    rcases decoded : t.codec.Decode mac bytes with ⟨_ | message, codec⟩
    case error e =>
      rw [decoded] at sameKey
      refine .inl ⟨codec, sameKey, ?_⟩
      rw [awaitHelloAck, if_neg (by simpa using fromPeer), decoded]
    case ok =>
      rw [decoded] at sameKey
      by_cases isAck : message.type = msgHelloAck
      swap
      · refine .inl ⟨codec, sameKey, ?_⟩
        rw [awaitHelloAck, if_neg (by simpa using fromPeer), decoded]
        simp only [if_pos isAck]
      by_cases refused : (codec.isSecure && !codec.verifyChallengeResponse mac t.challenge
          message.response) = true
      · refine .inr (.inl ⟨.challengeInvalid, codec, .inr (.inr (.inr rfl)), sameKey, ?_⟩)
        rw [awaitHelloAck, if_neg (by simpa using fromPeer), decoded]
        simp only [isAck, ne_eq, not_true_eq_false, if_false, refused, if_true]
      · refine .inr (.inr ⟨source, bytes, message, codec, rfl, fromPeer, decoded, isAck,
          by simpa using refused, ?_⟩)
        rw [awaitHelloAck, if_neg (by simpa using fromPeer), decoded]
        simp only [isAck, ne_eq, not_true_eq_false, if_false]
        rw [if_neg refused]

/-- An error of the loop keeps the peer address, the key and `connected`. -/
theorem awaitHelloAck_error {events : List HandshakeEvent} {e : TransportError} {t' : Transport}
    (returned : awaitHelloAck mac t events = some (.error e, t')) :
    LoopError e ∧ t'.connected = t.connected ∧ t'.peerAddr = t.peerAddr ∧
      t'.codec.key = t.codec.key := by
  induction events generalizing t with
  | nil => cases returned
  | cons event rest ih =>
      rcases awaitHelloAck_cons_cases event rest with
        ⟨codec, sameKey, readOn⟩ | ⟨e', codec, loopError, sameKey, failed⟩ |
          ⟨source, bytes, message, codec, -, -, -, -, -, accepted⟩
      · rw [readOn] at returned
        obtain ⟨loopError, connected, peer, key⟩ := ih returned
        exact ⟨loopError, connected, peer, key.trans sameKey⟩
      · rw [failed] at returned
        obtain ⟨⟨⟩, rfl⟩ := Prod.mk.inj (Option.some.inj returned)
        exact ⟨loopError, rfl, rfl, sameKey⟩
      · rw [accepted] at returned
        cases returned

/-- The loop returns once its deadline has passed: at the first `expired` of
its events at the latest. -/
theorem awaitHelloAck_isSome_of_expired {events : List HandshakeEvent}
    (expired : .expired ∈ events) : (awaitHelloAck mac t events).isSome = true := by
  induction events generalizing t with
  | nil => cases expired
  | cons event rest ih =>
      by_cases atHead : event = .expired
      · rw [atHead, awaitHelloAck]
        rfl
      have later : .expired ∈ rest := (List.mem_cons.mp expired).resolve_left fun h => atHead h.symm
      rcases @awaitHelloAck_cons_cases mac t event rest with
        ⟨codec, -, readOn⟩ | ⟨e, codec, -, -, failed⟩ |
          ⟨source, bytes, message, codec, -, -, -, -, -, accepted⟩
      · rw [readOn]
        exact ih later
      · rw [failed]
        rfl
      · rw [accepted]
        rfl

/-- In secure mode the loop returns nil only after reading a datagram that
answers the transport's challenge. -/
theorem awaitHelloAck_answered (secure : t.codec.secureMode = true)
    {events : List HandshakeEvent} {t' : Transport}
    (returned : awaitHelloAck mac t events = some (.ok (), t')) :
    t'.connected = true ∧ ∃ source bytes, .event (.read (.datagram source bytes)) ∈ events ∧
      AnswersChallenge mac t.codec.key t.peerAddr t.challenge source bytes := by
  induction events generalizing t with
  | nil => cases returned
  | cons event rest ih =>
      rcases awaitHelloAck_cons_cases event rest with
        ⟨codec, sameKey, readOn⟩ | ⟨e, codec, -, -, failed⟩ |
          ⟨source, bytes, message, codec, rfl, fromPeer, decoded, isAck, passed, accepted⟩
      · rw [readOn] at returned
        have stillSecure : codec.secureMode = true :=
          (Codec.secureMode_eq_of_key_eq sameKey).trans secure
        obtain ⟨connected, source, bytes, read, answers⟩ := ih stillSecure returned
        rw [show ({ t with codec := codec } : Transport).codec.key = t.codec.key from sameKey]
          at answers
        exact ⟨connected, source, bytes, List.mem_cons_of_mem _ read, answers⟩
      · rw [failed] at returned
        cases returned
      · rw [accepted] at returned
        obtain ⟨-, rfl⟩ := Prod.mk.inj (Option.some.inj returned)
        -- The codec after `Decode` is still secure, so the response was checked.
        have codecSecure : codec.secureMode = true := by
          rw [← secure, ← Codec.secureMode_decode t.codec bytes, ← Codec.Decode_snd, decoded]
        have verified : codec.verifyChallengeResponse mac t.challenge message.response = true := by
          simpa [Codec.isSecure, codecSecure] using passed
        have codecKey : codec.key = t.codec.key := by
          rw [← Codec.key_decode t.codec bytes, ← Codec.Decode_snd, decoded]
        obtain ⟨-, response⟩ := Codec.response_of_verifyChallengeResponse codecSecure verified
        refine ⟨rfl, source, bytes, List.mem_cons_self, fromPeer, t.codec, message, rfl,
          by rw [decoded], isAck, ?_⟩
        rw [response, codecKey]

end Loop

/-! ## One attempt, and `Connect` -/

section Attempt

variable {mac : Mac hmacSize} {t : Transport}

/-- The codec that sent the HELLO keeps the key. -/
theorem key_encodeHello (random : RandomBytes challengeSize) :
    (t.codec.encodeHello mac random).2.key = t.codec.key :=
  Codec.key_encode

theorem attemptHandshake_error {random : RandomBytes challengeSize} {events : List HandshakeEvent}
    {e : TransportError} {t' : Transport}
    (returned : attemptHandshake mac t random events = some (.error e, t')) :
    (e = .sendFailed ∨ LoopError e) ∧ t'.connected = t.connected ∧ t'.peerAddr = t.peerAddr ∧
      t'.codec.key = t.codec.key := by
  cases dialing : t.peerAddr with
  | none =>
      -- `WriteToUDP` to a nil address fails before anything is read.
      unfold attemptHandshake at returned
      rw [dialing] at returned
      obtain ⟨⟨⟩, rfl⟩ := Prod.mk.inj (Option.some.inj returned)
      exact ⟨.inl rfl, rfl, rfl, key_encodeHello random⟩
  | some peer =>
      rw [attemptHandshake_of_peer dialing] at returned
      obtain ⟨loopError, connected, peerAddr, key⟩ := awaitHelloAck_error returned
      exact ⟨.inr loopError, connected, peerAddr.trans dialing, key.trans (key_encodeHello random)⟩

theorem attemptHandshake_isSome_of_expired (random : RandomBytes challengeSize)
    {events : List HandshakeEvent} (expired : .expired ∈ events) :
    (attemptHandshake mac t random events).isSome = true := by
  cases dialing : t.peerAddr with
  | none =>
      unfold attemptHandshake
      rw [dialing]
      rfl
  | some peer =>
      rw [attemptHandshake_of_peer dialing]
      exact awaitHelloAck_isSome_of_expired expired

/-- In secure mode an attempt returns nil only after reading a datagram that
answers the challenge `EncodeHello` returned in it. -/
theorem attemptHandshake_ok (secure : t.codec.secureMode = true) {random : RandomBytes challengeSize}
    {events : List HandshakeEvent} {t' : Transport}
    (returned : attemptHandshake mac t random events = some (.ok (), t')) :
    t'.connected = true ∧ ∃ source bytes, .event (.read (.datagram source bytes)) ∈ events ∧
      AnswersChallenge mac t.codec.key t.peerAddr (t.codec.encodeHello mac random).1.2 source
        bytes := by
  cases dialing : t.peerAddr with
  | none =>
      unfold attemptHandshake at returned
      rw [dialing] at returned
      cases returned
  | some peer =>
      rw [attemptHandshake_of_peer dialing] at returned
      have helloSecure : (t.codec.encodeHello mac random).2.secureMode = true :=
        (Codec.secureMode_eq_of_key_eq (key_encodeHello random)).trans secure
      obtain ⟨connected, source, bytes, read, answers⟩ := awaitHelloAck_answered helloSecure returned
      rw [show ({ t with codec := (t.codec.encodeHello mac random).2 } : Transport).codec.key =
        t.codec.key from key_encodeHello random] at answers
      refine ⟨connected, source, bytes, read, ?_⟩
      rw [← dialing]
      exact answers

/-- `Connect`'s loop returns nil only through an attempt that did, made with
the key and the peer address it started with. -/
theorem connectLoop_ok {events : List ConnectEvent} {t' : Transport}
    (returned : connectLoop mac t events = some (.ok (), t')) :
    ∃ (t₀ : Transport) (random : RandomBytes challengeSize) (attemptEvents : List HandshakeEvent)
      (cancelledInBackoff : Bool), .attempt random attemptEvents cancelledInBackoff ∈ events ∧
      t₀.codec.key = t.codec.key ∧ t₀.peerAddr = t.peerAddr ∧
      attemptHandshake mac t₀ random attemptEvents = some (.ok (), t') := by
  induction events generalizing t with
  | nil => cases returned
  | cons event rest ih =>
      cases event with
      | cancelled => cases returned
      | attempt random attemptEvents cancelledInBackoff =>
          unfold connectLoop at returned
          rcases attempted : attemptHandshake mac t random attemptEvents with
            _ | ⟨_ | ⟨⟩, t''⟩
          · rw [attempted] at returned
            cases returned
          · -- A failed attempt: the loop goes on after the backoff, with the window reset.
            rename_i e
            rw [attempted] at returned
            obtain ⟨-, -, peerAddr, key⟩ := attemptHandshake_error attempted
            cases cancelledInBackoff
            · obtain ⟨t₀, random₀, events₀, cancelled₀, mem, key₀, peer₀, succeeded⟩ := ih returned
              exact ⟨t₀, random₀, events₀, cancelled₀, List.mem_cons_of_mem _ mem,
                key₀.trans key, peer₀.trans peerAddr, succeeded⟩
            · cases returned
          · rw [attempted] at returned
            obtain ⟨-, rfl⟩ := Prod.mk.inj (Option.some.inj returned)
            exact ⟨t, random, attemptEvents, cancelledInBackoff, List.mem_cons_self, rfl, rfl,
              attempted⟩

/-- An error of `Connect`'s loop leaves `connected` as it was: every failed
attempt does. -/
theorem connectLoop_error {events : List ConnectEvent} {e : TransportError} {t' : Transport}
    (returned : connectLoop mac t events = some (.error e, t')) : t'.connected = t.connected := by
  induction events generalizing t with
  | nil => cases returned
  | cons event rest ih =>
      cases event with
      | cancelled =>
          unfold connectLoop at returned
          obtain ⟨-, rfl⟩ := Prod.mk.inj (Option.some.inj returned)
          rfl
      | attempt random attemptEvents cancelledInBackoff =>
          unfold connectLoop at returned
          rcases attempted : attemptHandshake mac t random attemptEvents with
            _ | ⟨_ | ⟨⟩, t''⟩
          · rw [attempted] at returned
            cases returned
          · rw [attempted] at returned
            obtain ⟨-, connected, -, -⟩ := attemptHandshake_error attempted
            cases cancelledInBackoff
            · exact (ih returned).trans connected
            · obtain ⟨-, rfl⟩ := Prod.mk.inj (Option.some.inj returned)
              exact connected
          · rw [attempted] at returned
            cases returned

theorem connect_error {events : List ConnectEvent} {e : TransportError} {t' : Transport}
    (returned : connect mac t events = some (.error e, t')) : t'.connected = t.connected := by
  unfold connect at returned
  by_cases wrongMode : t.mode ≠ .connect
  · rw [if_pos wrongMode] at returned
    obtain ⟨-, rfl⟩ := Prod.mk.inj (Option.some.inj returned)
    rfl
  · rw [if_neg wrongMode] at returned
    exact connectLoop_error returned

end Attempt

/-- The connector's side of the handshake in secure mode.  An attempt returns
nil, and sets `connected`, only after reading a datagram from the peer address
that a codec with the key decodes as a HELLO_ACK whose response is the tag of
the challenge `EncodeHello` returned in this attempt; otherwise it returns one
of its errors and leaves `connected` as it was, false for a transport not yet
connected.  `Connect` returns nil only through such an attempt, and its errors
leave `connected` as it was too.  The loop of an attempt, and so the attempt,
returns by the time its deadline has passed. -/
theorem handshake_authenticated (mac : Mac hmacSize) {t : Transport}
    (secure : t.codec.secureMode = true) :
    (∀ (random : RandomBytes challengeSize) (events : List HandshakeEvent)
        (result : Except TransportError Unit) (t' : Transport),
        attemptHandshake mac t random events = some (result, t') →
        (result = .ok () → t'.connected = true ∧
          ∃ source bytes, .event (.read (.datagram source bytes)) ∈ events ∧
            AnswersChallenge mac t.codec.key t.peerAddr (t.codec.encodeHello mac random).1.2 source
              bytes) ∧
        (∀ e, result = .error e → (e = .sendFailed ∨ LoopError e) ∧ t'.connected = t.connected)) ∧
      (∀ (events : List ConnectEvent) (t' : Transport), connect mac t events = some (.ok (), t') →
        t'.connected = true ∧
        ∃ (t₀ : Transport) (random : RandomBytes challengeSize) (attemptEvents : List HandshakeEvent)
          (cancelledInBackoff : Bool), .attempt random attemptEvents cancelledInBackoff ∈ events ∧
          attemptHandshake mac t₀ random attemptEvents = some (.ok (), t') ∧
          ∃ source bytes, .event (.read (.datagram source bytes)) ∈ attemptEvents ∧
            AnswersChallenge mac t.codec.key t.peerAddr (t₀.codec.encodeHello mac random).1.2 source
              bytes) ∧
      (∀ (events : List ConnectEvent) (e : TransportError) (t' : Transport),
        connect mac t events = some (.error e, t') → t'.connected = t.connected) ∧
      (∀ (t₁ : Transport) (events : List HandshakeEvent), .expired ∈ events →
        (awaitHelloAck mac t₁ events).isSome = true) ∧
      ∀ (random : RandomBytes challengeSize) (events : List HandshakeEvent), .expired ∈ events →
        (attemptHandshake mac t random events).isSome = true := by
  refine ⟨fun random events result t' returned => ⟨?_, ?_⟩, fun events t' returned => ?_,
    fun events e t' returned => connect_error returned,
    fun t₁ events expired => awaitHelloAck_isSome_of_expired expired,
    fun random events expired => attemptHandshake_isSome_of_expired random expired⟩
  · rintro rfl
    exact attemptHandshake_ok secure returned
  · rintro e rfl
    obtain ⟨failure, connected, -, -⟩ := attemptHandshake_error returned
    exact ⟨failure, connected⟩
  · unfold connect at returned
    by_cases wrongMode : t.mode ≠ .connect
    · rw [if_pos wrongMode] at returned
      cases returned
    rw [if_neg wrongMode] at returned
    obtain ⟨t₀, random, attemptEvents, cancelledInBackoff, mem, key, peer, succeeded⟩ :=
      connectLoop_ok returned
    have secure₀ : t₀.codec.secureMode = true := (Codec.secureMode_eq_of_key_eq key).trans secure
    obtain ⟨connected, source, bytes, read, answers⟩ := attemptHandshake_ok secure₀ succeeded
    rw [key, peer] at answers
    exact ⟨connected, t₀, random, attemptEvents, cancelledInBackoff, mem, succeeded, source, bytes,
      read, answers⟩

theorem handshake_authenticated_connector :
    (∀ (random : RandomBytes challengeSize) (events : List HandshakeEvent)
        (result : Except TransportError Unit) (t' : Transport),
        attemptHandshake hmacSha256 handshakeConnector random events = some (result, t') →
        (result = .ok () → t'.connected = true ∧
          ∃ source bytes, .event (.read (.datagram source bytes)) ∈ events ∧
            AnswersChallenge hmacSha256 handshakeConnector.codec.key handshakeConnector.peerAddr
              (handshakeConnector.codec.encodeHello hmacSha256 random).1.2 source bytes) ∧
        (∀ e, result = .error e →
          (e = .sendFailed ∨ LoopError e) ∧ t'.connected = handshakeConnector.connected)) ∧
      (∀ (events : List ConnectEvent) (t' : Transport),
        connect hmacSha256 handshakeConnector events = some (.ok (), t') →
        t'.connected = true ∧
        ∃ (t₀ : Transport) (random : RandomBytes challengeSize) (attemptEvents : List HandshakeEvent)
          (cancelledInBackoff : Bool), .attempt random attemptEvents cancelledInBackoff ∈ events ∧
          attemptHandshake hmacSha256 t₀ random attemptEvents = some (.ok (), t') ∧
          ∃ source bytes, .event (.read (.datagram source bytes)) ∈ attemptEvents ∧
            AnswersChallenge hmacSha256 handshakeConnector.codec.key handshakeConnector.peerAddr
              (t₀.codec.encodeHello hmacSha256 random).1.2 source bytes) ∧
      (∀ (events : List ConnectEvent) (e : TransportError) (t' : Transport),
        connect hmacSha256 handshakeConnector events = some (.error e, t') →
          t'.connected = handshakeConnector.connected) ∧
      (∀ (t₁ : Transport) (events : List HandshakeEvent), .expired ∈ events →
        (awaitHelloAck hmacSha256 t₁ events).isSome = true) ∧
      ∀ (random : RandomBytes challengeSize) (events : List HandshakeEvent), .expired ∈ events →
        (attemptHandshake hmacSha256 handshakeConnector random events).isSome = true :=
  handshake_authenticated hmacSha256 (t := handshakeConnector) rfl

end Transport

end XbsLink
