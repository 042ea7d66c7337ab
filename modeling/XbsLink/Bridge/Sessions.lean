import XbsLink.Bridge.Steps
import XbsLink.Protocol.Delivery
import XbsLink.Transport.Handshake

/-!
# Sessions and replays across them

A session of a listening bridge is one `Run`: `WaitForPeer`, then the
goroutines, started with the transport's codec and peer.  The window of the
codec is reset by every HELLO `WaitForPeer` accepts, and HELLO is exempt from
the replay check, so a recorded HELLO opens a session for whoever resends it,
from any address, and the nonces of that session start again at zero.

Within a session the window does its job: the FRAME datagrams a secure codec
accepts between two resets carry valid tags under the key and strictly
increasing nonces, as long as no authentic one carries nonce zero
(`framesAccepted`).
Across sessions nothing is kept: a FRAME datagram recorded in one session is
accepted again in the next one opened with a replayed HELLO.
-/

namespace XbsLink

open Protocol Transport BigEndian Codec

/-! ## FRAMEs accepted within a session -/

namespace Protocol.Codec

section Frames

variable {mac : Mac hmacSize}

theorem type_of_parsePayload {msgType : UInt8} {payload : List UInt8} {message : Message}
    (parsed : parsePayload msgType payload = .ok message) : message.type = msgType := by
  unfold parsePayload at parsed
  split_ifs at parsed <;> cases parsed <;> rfl

/-- The payload checks pass a message as a FRAME only for the FRAME type
byte, with the payload as its frame, of 14 to 1514 bytes. -/
theorem frame_of_parsePayload {msgType : UInt8} {payload : List UInt8} {message : Message}
    (parsed : parsePayload msgType payload = .ok message) (isFrame : message.type = msgFrame) :
    msgType = msgFrame ∧ message.frame = payload ∧
      minEthernetFrame ≤ payload.length ∧ payload.length ≤ maxFrameSize := by
  have typed : msgType = msgFrame := (type_of_parsePayload parsed).symm.trans isFrame
  subst typed
  unfold parsePayload at parsed
  rw [if_pos rfl] at parsed
  split_ifs at parsed with small large
  cases parsed
  exact ⟨rfl, rfl, Nat.le_of_not_lt small, Nat.le_of_not_lt large⟩

/-- Read into any buffer, a FRAME that `Decode` accepts lies where
`payloadSlice` says: the slice that `msg.Frame` is shows its frame. -/
theorem read_payloadSlice_overwrite {c : Codec} {data : List UInt8} {message : Message}
    (decoded : (c.Decode mac data).1 = .ok message) (isFrame : message.type = msgFrame)
    (buf : List UInt8) : (c.payloadSlice data.length).read (Buffer.overwrite buf data) = message.frame := by
  rw [Buffer.read_overwrite_of_le (hi_payloadSlice_le data.length)]
  rw [Decode_fst] at decoded
  cases raw : (c.decode mac data).1 with
  | error e =>
      rw [raw] at decoded
      cases decoded
  | ok decodedPair =>
      obtain ⟨msgType, payload⟩ := decodedPair
      rw [raw] at decoded
      have parsed : parsePayload msgType payload = .ok message := decoded
      obtain ⟨-, framed, -, -⟩ := frame_of_parsePayload parsed isFrame
      rw [framed, read_payloadSlice_of_decode raw]

/-- After a reset every nonce is fresh. -/
theorem fresh_of_recvNonce_zero {c : Codec} (reset : c.recvNonce = 0) (nonce : UInt64) :
    c.Fresh nonce := by
  rw [fresh_iff_not_replayed, reset]
  rintro ⟨positive, atMost⟩
  exact UInt64.lt_irrefl 0 (UInt64.lt_of_lt_of_le positive atMost)

/-- The datagrams a run of `Decode` calls accepts as FRAMEs, in order. -/
def framesAccepted (mac : Mac hmacSize) (c : Codec) : List (List UInt8) → List (List UInt8)
  | [] => []
  | data :: rest =>
      (match (c.Decode mac data).1 with
        | .ok message => if message.type = msgFrame then [data] else []
        | .error _ => []) ++
      (c.Decode mac data).2.framesAccepted mac rest

/-- A datagram a secure codec accepts as a FRAME is an authentic FRAME under
the codec's key with a fresh nonce, which the codec stores. -/
theorem frame_of_Decode {c : Codec} (secure : c.secureMode = true) {data : List UInt8}
    {message : Message} (decoded : (c.Decode mac data).1 = .ok message)
    (isFrame : message.type = msgFrame) :
    (∃ rest, data = (msgFrame :: rest) ++ mac.tag c.key (msgFrame :: rest)) ∧
      Authentic mac c.key data ∧ c.Fresh (nonceField data) ∧
        (c.Decode mac data).2 = { c with recvNonce := nonceField data } := by
  rw [Decode_fst] at decoded
  rcases @decode_cases_of_secure mac c secure data with short | forged | ⟨msgType, rest, long, rfl, checked⟩
  · rw [short] at decoded
    cases decoded
  · rw [forged] at decoded
    cases decoded
  rw [checked, checkReplay_fst] at decoded
  split_ifs at decoded with replayed
  · cases decoded
  have typed : msgType = msgFrame := (type_of_parsePayload decoded).symm.trans isFrame
  subst typed
  have fresh : c.Fresh (uint64 rest) := by
    by_contra stale
    exact replayed ⟨by decide, stale⟩
  rw [nonceField_append long, Decode_snd, checked, checkReplay_snd, if_pos ⟨by decide, fresh⟩]
  exact ⟨⟨rest, rfl⟩, ⟨msgFrame, rest, long, rfl, by decide, by decide⟩, fresh, rfl⟩

/-- The step of `framesAccepted`: the first datagram is skipped, or it is a
FRAME under the key whose nonce is above the window and becomes it. -/
theorem framesAccepted_cons_cases {c : Codec} (secure : c.secureMode = true) (data : List UInt8)
    (rest : List (List UInt8)) (nonzero : Authentic mac c.key data → nonceField data ≠ 0) :
    c.framesAccepted mac (data :: rest) = (c.Decode mac data).2.framesAccepted mac rest ∨
      c.framesAccepted mac (data :: rest) = data :: (c.Decode mac data).2.framesAccepted mac rest ∧
        c.recvNonce < nonceField data ∧ (c.Decode mac data).2.recvNonce = nonceField data ∧
        ∃ body, data = (msgFrame :: body) ++ mac.tag c.key (msgFrame :: body) := by
  rw [framesAccepted]
  cases decoded : (c.Decode mac data).1 with
  | error e => exact .inl rfl
  | ok message =>
      by_cases isFrame : message.type = msgFrame
      · obtain ⟨tagged, authentic, fresh, stored⟩ := frame_of_Decode secure decoded isFrame
        dsimp only
        rw [if_pos isFrame, stored]
        exact .inr ⟨rfl, lt_of_fresh fresh (nonzero authentic), rfl, tagged⟩
      · dsimp only
        rw [if_neg isFrame]
        exact .inl rfl

/-- Within a session of a secure codec, as long as no authentic datagram
carries nonce zero, the datagrams accepted as FRAMEs carry valid tags under the key and
nonces that increase strictly from above the window: none is accepted twice. -/
theorem framesAccepted_increasing {c : Codec} (secure : c.secureMode = true)
    (datagrams : List (List UInt8))
    (nonzero : ∀ data ∈ datagrams, Authentic mac c.key data → nonceField data ≠ 0) :
    ((c.framesAccepted mac datagrams).map nonceField).Pairwise (· < ·) ∧
      ∀ data ∈ c.framesAccepted mac datagrams, c.recvNonce < nonceField data ∧
        ∃ body, data = (msgFrame :: body) ++ mac.tag c.key (msgFrame :: body) := by
  induction datagrams generalizing c with
  | nil => simp [framesAccepted]
  | cons data rest ih =>
      have secureNext : (c.Decode mac data).2.secureMode = true := by
        simp [secure]
      have sameKey : (c.Decode mac data).2.key = c.key := by
        simp
      have forward : c.recvNonce ≤ (c.Decode mac data).2.recvNonce := by
        have moved : c.recvNonce ≤ (c.decodeAll mac [data]).2.recvNonce :=
          recvNonce_le_decodeAll secure [data] fun other member => by
            rw [List.mem_singleton] at member
            exact member ▸ nonzero data List.mem_cons_self
        rwa [decodeAll_singleton, ← Decode_snd] at moved
      obtain ⟨increasing, later⟩ := ih secureNext fun other member authentic =>
        nonzero other (List.mem_cons_of_mem _ member) (sameKey ▸ authentic)
      have laterAbove : ∀ frame ∈ (c.Decode mac data).2.framesAccepted mac rest,
          c.recvNonce < nonceField frame ∧
            ∃ body, frame = (msgFrame :: body) ++ mac.tag c.key (msgFrame :: body) := by
        intro frame member
        obtain ⟨above, tagged⟩ := later frame member
        exact ⟨UInt64.lt_of_le_of_lt forward above, sameKey ▸ tagged⟩
      rcases framesAccepted_cons_cases secure data rest (nonzero data List.mem_cons_self) with
        skipped | ⟨taken, above, stored, tagged⟩
      · rw [skipped]
        exact ⟨increasing, laterAbove⟩
      · rw [taken, List.map_cons, List.pairwise_cons]
        refine ⟨⟨fun after afterMem => ?_, increasing⟩, fun frame member => ?_⟩
        · obtain ⟨frame, frameMem, rfl⟩ := List.mem_map.mp afterMem
          exact stored ▸ (later frame frameMem).1
        · rcases List.mem_cons.mp member with rfl | laterMem
          · exact ⟨above, tagged⟩
          · exact laterAbove frame laterMem

/-- A FRAME datagram under the key `[1]` with nonce 1, and its replay. -/
def replayedInSession : List (List UInt8) :=
  [sealed hmacSha256 [1] msgFrame 1 (List.replicate minEthernetFrame 0),
    sealed hmacSha256 [1] msgFrame 1 (List.replicate minEthernetFrame 0)]

theorem framesAccepted_replayedInSession :
    (newCodec [1]).secureMode = true ∧
      (∀ data ∈ replayedInSession, Authentic hmacSha256 (newCodec [1]).key data →
        nonceField data ≠ 0) ∧
      (((newCodec [1]).framesAccepted hmacSha256 replayedInSession).map nonceField).Pairwise
          (· < ·) ∧
        ∀ data ∈ (newCodec [1]).framesAccepted hmacSha256 replayedInSession,
          (newCodec [1]).recvNonce < nonceField data ∧
            ∃ body, data = (msgFrame :: body) ++ hmacSha256.tag (newCodec [1]).key (msgFrame :: body) := by
  have nonzero : ∀ data ∈ replayedInSession, Authentic hmacSha256 (newCodec [1]).key data →
      nonceField data ≠ 0 := by
    simp [replayedInSession]
  exact ⟨rfl, nonzero, framesAccepted_increasing rfl replayedInSession nonzero⟩

end Frames

end Protocol.Codec

/-! ## Sessions of `Run` -/

namespace Bridge

section Sessions

variable (mac : Mac hmacSize)

/-- `Run` once its connection phase has returned `result`: on an error it
returns before any goroutine starts (a `cancelled` error is the nil of a
graceful shutdown); on nil the goroutines start with the transport's codec
and peer and take `actions`.  `WaitForPeer` and `Connect` return nil only
with a peer recorded. -/
def runSession (result : Option (Except TransportError Unit × Transport)) (capture : Option Bool)
    (statsInterval : Bool) (actions : List Action) : Option (Except TransportError Bridge) :=
  match result with
  | none => none
  | some (.error e, _) => some (.error e)
  | some (.ok (), t) =>
      match t.peerAddr with
      | none => none
      | some peer =>
          (Trace.exec (step mac) (start t.codec capture statsInterval peer) actions).map .ok

/-- `Run` in listen mode, with the events `WaitForPeer` reads. -/
def listenSession (t : Transport) (capture : Option Bool) (statsInterval : Bool)
    (events : List Event) (actions : List Action) : Option (Except TransportError Bridge) :=
  runSession mac (waitForPeer mac t events) capture statsInterval actions

/-- `Run` in connect mode, with the attempts `Connect` makes. -/
def connectSession (t : Transport) (capture : Option Bool) (statsInterval : Bool)
    (events : List ConnectEvent) (actions : List Action) : Option (Except TransportError Bridge) :=
  runSession mac (connect mac t events) capture statsInterval actions

end Sessions

/-- A datagram from `source` reaches the LAN: `recvLoop` passes the top of its
loop and reads it, and `injectLoop` starts and writes what `handleFrame` queued. -/
def deliverFrame (source : UDPAddr) (data : List UInt8) : List Action :=
  [.recvLoop .timeout, .recvLoop (.datagram source data 0), .injectLoop false, .injectLoop false]

/-- A frame from the LAN reaches the peer: `captureLoop` starts and reads it,
and `sendLoop` encodes and writes it. -/
def captureFrame (frame : List UInt8) : List Action :=
  [.captureLoop false none, .captureLoop false none, .captureLoop false (some frame),
    .sendLoop false, .sendLoop false]

section Runs

variable {mac : Mac hmacSize}

/-- A FRAME the codec accepts from the peer is injected into the LAN. -/
theorem exec_deliverFrame {codec next : Codec} {data payload : List UInt8}
    (decoded : codec.Decode mac data = (.ok { type := msgFrame, frame := payload }, next))
    (large : minEthernetFrame ≤ payload.length) (statsInterval : Bool) (peer : UDPAddr) :
    Trace.exec (step mac) (start codec (some true) statsInterval peer) (deliverFrame peer data) =
      some { start next (some true) statsInterval peer with
        recvBuf := Buffer.overwrite (List.replicate recvBufferSize 0) data
        injected := [payload]
        injectLoop := .select } := by
  have readBack : (codec.payloadSlice data.length).read
      (Buffer.overwrite (List.replicate recvBufferSize 0) data) = payload :=
    read_payloadSlice_overwrite (by rw [decoded]) rfl _
  have notShort : ¬ payload.length < 14 := not_lt.mpr large
  simp [deliverFrame, Trace.exec, step, recvStep, injectStep, start, decoded, dispatch,
    handleFrame, offer, channelBufferSize, readBack, notShort]

/-- A frame in the size range read from the LAN goes out sealed under the
next nonce. -/
theorem exec_captureFrame {codec : Codec} (secure : codec.secureMode = true) {frame : List UInt8}
    (large : minEthernetFrame ≤ frame.length) (small : frame.length ≤ maxFrameSize)
    (statsInterval : Bool) (peer : UDPAddr) :
    Trace.exec (step mac) (start codec (some true) statsInterval peer) (captureFrame frame) =
      some { start { codec with sendNonce := codec.sendNonce + 1 } (some true) statsInterval peer with
        wire := [sealed mac codec.key msgFrame (codec.sendNonce + 1) frame]
        captureLoop := .top } := by
  have inRange : ¬ (frame.length < minEthernetFrame ∨ maxFrameSize < frame.length) := by
    omega
  simp [captureFrame, Trace.exec, step, captureStep, sendStep, start, encodeFrame, inRange,
    encode_of_secureMode secure, transportSend, offer, channelBufferSize]

/-- A HELLO that `WaitForPeer` accepts opens the session: the goroutines start
with the codec it answered with, and the HELLO's source as the peer. -/
theorem listenSession_of_hello {t : Transport} (listening : t.mode = .listen) {source : UDPAddr}
    {hello : List UInt8} {message : Message} {codec : Codec}
    (decoded : t.codec.Decode mac hello = (.ok message, codec)) (isHello : message.type = msgHello)
    (capture : Option Bool) (statsInterval : Bool) (rest : List Event) (actions : List Action) :
    listenSession mac t capture statsInterval (.read (.datagram source hello) :: rest) actions =
      (Trace.exec (step mac)
        (start (codec.resetRecvNonce.encodeHelloAck mac message.challenge).2 capture statsInterval
          source) actions).map .ok := by
  rw [listenSession, waitForPeer, if_neg (by simp [listening]), awaitHello_of_hello decoded isHello]
  rfl

/-- A session opened by any HELLO the listener accepts, from any source,
injects every FRAME sealed under the key, whatever nonce it carries:
`WaitForPeer` resets the window before the goroutines start, and nothing of an
earlier session is kept. -/
theorem listenSession_accepts_sealed_frame {t : Transport} (listening : t.mode = .listen)
    (secure : t.codec.secureMode = true) {hello : List UInt8} {message : Message} {codec : Codec}
    (decodedHello : t.codec.Decode mac hello = (.ok message, codec))
    (isHello : message.type = msgHello) (source : UDPAddr) (nonce : UInt64) {payload : List UInt8}
    (large : minEthernetFrame ≤ payload.length) (small : payload.length ≤ maxFrameSize)
    (statsInterval : Bool) :
    ∃ b, listenSession mac t (some true) statsInterval [.read (.datagram source hello)]
        (deliverFrame source (sealed mac t.codec.key msgFrame nonce payload)) = some (.ok b) ∧
      b.peerAddr = some source ∧ b.injected = [payload] := by
  let session := (codec.resetRecvNonce.encodeHelloAck mac message.challenge).2
  have decodedCodec : codec = (t.codec.Decode mac hello).2 := by
    rw [decodedHello]
  have sessionSecure : session.secureMode = true := by
    simp [session, encodeHelloAck, resetRecvNonce, decodedCodec, secure]
  have sessionKey : session.key = t.codec.key := by
    simp [session, encodeHelloAck, resetRecvNonce, decodedCodec]
  have sessionReset : session.recvNonce = 0 := by
    simp [session, encodeHelloAck, resetRecvNonce]
  have decodedFrame : session.Decode mac (sealed mac t.codec.key msgFrame nonce payload) =
      (.ok { type := msgFrame, frame := payload }, { session with recvNonce := nonce }) := by
    rw [Decode_of_decode (decode_of_sealed_accepted sessionSecure sessionKey (by decide)
      (fresh_of_recvNonce_zero sessionReset nonce)), parsePayload_frame large small]
  refine ⟨{ start { session with recvNonce := nonce } (some true) statsInterval source with
    recvBuf := Buffer.overwrite (List.replicate recvBufferSize 0)
      (sealed mac t.codec.key msgFrame nonce payload)
    injected := [payload]
    injectLoop := .select }, ?_, rfl, rfl⟩
  rw [listenSession_of_hello listening decodedHello isHello,
    exec_deliverFrame decodedFrame large]
  rfl

end Runs

/-! ## A FRAME replayed after a restart -/

/-- A frame of the minimum size. -/
def sampleFrame : List UInt8 := List.replicate minEthernetFrame 0

/-- The HELLO of the connector's first attempt. -/
def recordedHello : List UInt8 :=
  (handshakeConnector.codec.encodeHello hmacSha256 sampleRandom).1.1

/-- The HELLO_ACK a fresh listener answers it with. -/
def recordedAck : List UInt8 :=
  (handshakeListener.codec.resetRecvNonce.encodeHelloAck hmacSha256 sampleRandom.bytes).1

/-- The connector's first FRAME datagram: nonce 2, after its HELLO's 1. -/
def recordedFrame : List UInt8 := sealed hmacSha256 [1] msgFrame 2 sampleFrame

/-- An address of the adversary's. -/
def adversaryAddress : UDPAddr := ⟨[192, 0, 2, 66], 5555⟩

/-- The connector's single attempt, answered by the listener. -/
def connectorAttempt : List ConnectEvent :=
  [.attempt sampleRandom [.event (.read (.datagram listenerAddress recordedAck))] false]

/-- The listener answers the connector's HELLO, and the connector's `Connect`
returns nil on the answer; each side sent one datagram. -/
theorem handshake_recorded :
    ∃ listener connector,
      waitForPeer hmacSha256 handshakeListener [.read (.datagram connectorAddress recordedHello)] =
        some (.ok (), listener) ∧ listener.sent = [(connectorAddress, recordedAck)] ∧
      connect hmacSha256 handshakeConnector connectorAttempt = some (.ok (), connector) ∧
      connector.sent = [(listenerAddress, recordedHello)] ∧
      connector.codec = (handshakeConnector.codec.encodeHello hmacSha256 sampleRandom).2.resetRecvNonce ∧
      connector.peerAddr = some listenerAddress := by
  have sameKey : handshakeListener.codec.key = handshakeConnector.codec.key := rfl
  refine ⟨_, _, waitForPeer_of_hello rfl sameKey sampleRandom connectorAddress 0 [], rfl,
    connect_of_handshake rfl (attemptHandshake_of_answer rfl sameKey sampleRandom 0 []) false [],
    rfl, rfl, rfl⟩

/-- A restarted listener accepts the connector's recorded HELLO and FRAME
from the adversary's address.  In the first session the connector sends its
HELLO and its first FRAME datagram, and the listener, whose HELLO_ACK the
connector accepted, injects the frame.  After a restart the adversary resends
both datagrams from its own address: `WaitForPeer` takes it as the peer, and
the second session injects the same frame again, although nobody encoded
anything in it. -/
theorem frame_replayed_after_restart :
    ∃ connectorBridge first second,
      connectSession hmacSha256 handshakeConnector (some true) false connectorAttempt
          (captureFrame sampleFrame) = some (.ok connectorBridge) ∧
        connectorBridge.wire = [recordedFrame] ∧
      listenSession hmacSha256 handshakeListener (some true) false
          [.read (.datagram connectorAddress recordedHello)]
          (deliverFrame connectorAddress recordedFrame) = some (.ok first) ∧
        first.injected = [sampleFrame] ∧
      listenSession hmacSha256 handshakeListener (some true) false
          [.read (.datagram adversaryAddress recordedHello)]
          (deliverFrame adversaryAddress recordedFrame) = some (.ok second) ∧
        second.peerAddr = some adversaryAddress ∧ second.injected = [sampleFrame] := by
  obtain ⟨-, connector, -, -, connected, -, connectorCodec, dialed⟩ := handshake_recorded
  have sameKey : handshakeListener.codec.key = handshakeConnector.codec.key := rfl
  have decodedHello := @Codec.Decode_encodeHello hmacSha256 _ _ sameKey sampleRandom
  have large : minEthernetFrame ≤ sampleFrame.length := by decide
  have small : sampleFrame.length ≤ maxFrameSize := by decide
  obtain ⟨first, firstSession, -, firstInjected⟩ :=
    listenSession_accepts_sealed_frame rfl rfl decodedHello rfl connectorAddress 2 large small false
  obtain ⟨second, secondSession, secondPeer, secondInjected⟩ :=
    listenSession_accepts_sealed_frame rfl rfl decodedHello rfl adversaryAddress 2 large small false
  have connectorSecure : connector.codec.secureMode = true := by
    rw [connectorCodec]
    rfl
  have sent := @exec_captureFrame hmacSha256 _ connectorSecure _ large small false listenerAddress
  have recorded : sealed hmacSha256 connector.codec.key msgFrame (connector.codec.sendNonce + 1)
      sampleFrame = recordedFrame := by
    rw [connectorCodec]
    rfl
  refine ⟨{ start { connector.codec with sendNonce := connector.codec.sendNonce + 1 } (some true) false
      listenerAddress with
    wire := [sealed hmacSha256 connector.codec.key msgFrame (connector.codec.sendNonce + 1) sampleFrame]
    captureLoop := .top }, first, second, ?_, by rw [recorded], firstSession, firstInjected,
    secondSession, secondPeer, secondInjected⟩
  rw [connectSession, connected]
  simp only [runSession, dialed, sent, Option.map_some]

end Bridge

end XbsLink
