import XbsLink.Bridge.Inbound
import Mathlib.Data.List.Forall2

/-!
# The frame paths keep their order

A bridge moves frames two ways.  `captureLoop` offers every frame
`ReadPacket` returns to `framesToSend`, and `sendLoop` takes them off in
order, encodes each and writes it to the peer.  `recvLoop` hands the frame of
every FRAME message it decodes from the peer's address to `handleFrame`,
which offers it to `framesToInject`, and `injectLoop` takes them off in order
and writes them to the LAN.  On the way a frame can be dropped: by a full
channel, by an encode error, by a `Send` on a closed transport, and by
`WritePacket` without a capture or for a short frame.

What a run shows of the frames is a list of events (`frameEvents`): a frame
captured, a frame received from the peer, a FRAME datagram written.  In every
interleaving in which no datagram is read over a frame still queued
(`KeepsQueued`), the frames injected into the LAN are, in order, a sublist of
the frames received, and the FRAME datagrams written are on the wire in the
order written and carry, in order, a sublist of the frames captured
(`frames_in_order`).  Neither path duplicates, reorders or makes up a frame.

The invariant (`InOrder`) relates what is queued, in flight or delivered to
the events so far.  Steps that show a frame add it to the end of both sides;
every other step leaves the queues alone or drops the head of one, and the
events only grow, so those steps keep the invariant whatever they show.
-/

namespace XbsLink

open Protocol Transport Codec

open scoped List

namespace Bridge

/-- What a step shows of the frames passing through the bridge. -/
inductive FrameEvent
  /-- `ReadPacket` returned the frame to `captureLoop`. -/
  | captured (frame : List UInt8)
  /-- `recvLoop` decoded a FRAME with the frame from the peer's address. -/
  | received (frame : List UInt8)
  /-- `sendLoop`'s `Send` wrote the datagram. -/
  | written (datagram : List UInt8)
  deriving DecidableEq, Repr

namespace FrameEvent

def captured? : FrameEvent → Option (List UInt8)
  | .captured frame => some frame
  | .received _ => none
  | .written _ => none

def received? : FrameEvent → Option (List UInt8)
  | .captured _ => none
  | .received frame => some frame
  | .written _ => none

def written? : FrameEvent → Option (List UInt8)
  | .captured _ => none
  | .received _ => none
  | .written datagram => some datagram

variable (frame : List UInt8)

@[simp] theorem captured?_captured : (captured frame).captured? = some frame := rfl
@[simp] theorem captured?_received : (received frame).captured? = none := rfl
@[simp] theorem captured?_written : (written frame).captured? = none := rfl
@[simp] theorem received?_captured : (captured frame).received? = none := rfl
@[simp] theorem received?_received : (received frame).received? = some frame := rfl
@[simp] theorem received?_written : (written frame).received? = none := rfl
@[simp] theorem written?_captured : (captured frame).written? = none := rfl
@[simp] theorem written?_received : (received frame).written? = none := rfl
@[simp] theorem written?_written : (written frame).written? = some frame := rfl

end FrameEvent

/-- The FRAME datagram `sendLoop` holds between `EncodeFrame` and `Send`. -/
def sendingFrame (b : Bridge) : List (List UInt8) :=
  match b.sendLoop with
  | .send datagram => [datagram]
  | _ => []

/-- The frame events of the step `action` from `b`. -/
def frameEvents (mac : Mac hmacSize) (b : Bridge) : Action → List FrameEvent
  | .captureLoop _ (some frame) =>
    if b.captureLoop = .read ∧ b.capture = some true then [.captured frame] else []
  | .recvLoop (.datagram source bytes _) =>
    if b.recvLoop = .read ∧ b.transportClosed = false ∧
        (b.peerAddr.isSome && !addrEqual (some source) b.peerAddr) = false then
      match (b.codec.Decode mac bytes).1 with
      | .ok message => if message.type = msgFrame then [.received message.frame] else []
      | .error _ => []
    else []
  | .sendLoop _ =>
    match b.sendLoop with
    | .send datagram => if b.transportClosed || !b.connected then [] else [.written datagram]
    | _ => []
  | _ => []

/-! ## The invariant -/

section Invariant

variable {mac : Mac hmacSize} {codec : Codec} {events : List FrameEvent} {b b' : Bridge}

/-- The frame paths after the events `events`: the frames injected or queued
for the LAN are, in order, among those received; the frames written or on
their way to the peer are, in order, among those captured, each carried by its
datagram; and the datagrams written are on the wire in order. -/
structure InOrder (mac : Mac hmacSize) (codec : Codec) (events : List FrameEvent) (b : Bridge) :
    Prop where
  keyed : b.codec.key = codec.key
  inbound : b.injected ++ queued b <+ events.filterMap FrameEvent.received?
  outbound : ∃ carried, carried ++ b.framesToSend <+ events.filterMap FrameEvent.captured? ∧
    List.Forall₂ (CarriesFrame mac codec) carried
      (events.filterMap FrameEvent.written? ++ sendingFrame b)
  onWire : events.filterMap FrameEvent.written? <+ b.wire

/-- A step that leaves the queues, the frame in flight and the delivered
frames alone, and at most appends to the wire. -/
structure Quiet (b b' : Bridge) : Prop where
  toSend : b'.framesToSend = b.framesToSend
  toInject : queued b' = queued b
  injected : b'.injected = b.injected
  sending : sendingFrame b' = sendingFrame b
  wire : b.wire <+ b'.wire

/-- A quiet step keeps the invariant, whatever frames it shows, as long as it
writes none. -/
theorem InOrder.quiet (inv : InOrder mac codec events b) (quiet : Quiet b b')
    (keyed : b'.codec.key = b.codec.key) {later : List FrameEvent}
    (unwritten : later.filterMap FrameEvent.written? = []) :
    InOrder mac codec (events ++ later) b' := by
  obtain ⟨carried, sent, carries⟩ := inv.outbound
  refine ⟨keyed.trans inv.keyed, ?_, ⟨carried, ?_, ?_⟩, ?_⟩
  · rw [quiet.injected, quiet.toInject, List.filterMap_append]
    exact inv.inbound.trans (List.sublist_append_left _ _)
  · rw [quiet.toSend, List.filterMap_append]
    exact sent.trans (List.sublist_append_left _ _)
  · rw [quiet.sending, List.filterMap_append, unwritten, List.append_nil]
    exact carries
  · rw [List.filterMap_append, unwritten, List.append_nil]
    exact inv.onWire.trans quiet.wire

/-- Only `sendLoop` writes. -/
theorem written_frameEvents {action : Action} (notSend : ∀ stop, action ≠ .sendLoop stop) :
    (frameEvents mac b action).filterMap FrameEvent.written? = [] := by
  unfold frameEvents
  split
  · split <;> rfl
  · split
    · split
      · split <;> rfl
      · rfl
    · rfl
  · exact absurd rfl (notSend _)
  · rfl

/-- A datagram `EncodeFrame` returns carries its frame. -/
theorem carriesFrame_of_encodeFrame {c next : Codec} {frame datagram : List UInt8}
    (encoded : c.encodeFrame mac frame = .ok (datagram, next)) : CarriesFrame mac c frame datagram := by
  obtain ⟨-, -, written⟩ := encodeFrame_of_ok encoded
  unfold CarriesFrame
  cases secure : c.secureMode with
  | true =>
    rw [if_pos rfl]
    rw [encode_of_secureMode secure] at written
    exact ⟨c.sendNonce + 1, (Prod.mk.inj written).1⟩
  | false =>
    rw [if_neg (by simp)]
    rw [encode_of_not_secureMode secure] at written
    exact (Prod.mk.inj written).1

end Invariant

/-! ## One lemma per goroutine -/

section Send

variable (b : Bridge) (datagram : List UInt8)

/-- `transportSend` touches only the wire. -/
theorem codec_transportSend : (transportSend b datagram).codec = b.codec := by rw [transportSend_eq]

theorem framesToSend_transportSend :
    (transportSend b datagram).framesToSend = b.framesToSend := by rw [transportSend_eq]

theorem queued_transportSend : queued (transportSend b datagram) = queued b := by
  rw [transportSend_eq]
  rfl

theorem injected_transportSend : (transportSend b datagram).injected = b.injected := by
  rw [transportSend_eq]

theorem sendingFrame_transportSend : sendingFrame (transportSend b datagram) = sendingFrame b := by
  rw [transportSend_eq]
  rfl

theorem wire_sublist_transportSend : b.wire <+ (transportSend b datagram).wire := by
  rw [transportSend_eq]
  split_ifs
  · exact List.Sublist.refl _
  · exact List.sublist_append_left _ _

end Send

section Steps

variable {mac : Mac hmacSize} {codec : Codec} {events : List FrameEvent} {b b' : Bridge}

theorem runStep_quiet (stepped : runStep mac b = some b') : Quiet b b' := by
  rcases runStep_cases stepped with
    ⟨-, -, rfl⟩ | ⟨-, -, rfl⟩ | ⟨-, -, rfl⟩ | ⟨-, -, rfl⟩ | ⟨-, -, -, rfl⟩ |
    ⟨bye, -, rfl⟩ | ⟨-, rfl⟩ | ⟨peer, -, rfl⟩ | ⟨peer, -, rfl⟩ | ⟨peer, -, -, rfl⟩
  all_goals constructor <;> simp [closeDone_eq, sendingFrame, queued]

theorem pingStep_quiet {tick : Option Int64} (stepped : pingStep mac b tick = some b') :
    Quiet b b' := by
  rcases pingStep_cases stepped with ⟨-, -, -, rfl⟩ | ⟨timestamp, -, -, rfl⟩ | ⟨ping, -, rfl⟩
  · exact ⟨rfl, rfl, rfl, rfl, List.Sublist.refl _⟩
  · rcases @sendPing_cases mac b timestamp with ⟨-, -, pinged⟩ | pinged <;> rw [pinged]
    · constructor <;> simp [closeDoneOnce_eq, sendingFrame, queued]
    · exact ⟨rfl, rfl, rfl, rfl, List.Sublist.refl _⟩
  · exact ⟨framesToSend_transportSend b ping, queued_transportSend b ping,
      injected_transportSend b ping, sendingFrame_transportSend b ping,
      wire_sublist_transportSend b ping⟩

theorem captureStep_inOrder (inv : InOrder mac codec events b) {stop : Bool}
    {packet : Option (List UInt8)} (stepped : captureStep b stop packet = some b') :
    InOrder mac codec (events ++ frameEvents mac b (.captureLoop stop packet)) b' := by
  have unwritten : (frameEvents mac b (.captureLoop stop packet)).filterMap FrameEvent.written? = [] :=
    written_frameEvents (fun _ => by simp)
  rcases captureStep_cases stepped with
    ⟨-, -, -, rfl⟩ | ⟨-, -, -, rfl⟩ | ⟨-, -, rfl⟩ | ⟨-, -, rfl⟩ | ⟨-, -, rfl⟩ | ⟨-, -, rfl⟩ |
    ⟨-, -, -, rfl⟩ | ⟨frame, atRead, isOpen, rfl, rfl⟩
  iterate 7 exact inv.quiet (by exact ⟨rfl, rfl, rfl, rfl, List.Sublist.refl _⟩) (by rfl) unwritten
  have observed : frameEvents mac b (.captureLoop stop (some frame)) = [.captured frame] := by
    rw [frameEvents, if_pos ⟨atRead, isOpen⟩]
  rw [observed]
  obtain ⟨carried, sent, carries⟩ := inv.outbound
  refine ⟨inv.keyed, ?_, ⟨carried, ?_, by simpa [sendingFrame, List.filterMap_cons] using carries⟩, ?_⟩
  · simpa [List.filterMap_cons, queued] using inv.inbound
  · simp only [List.filterMap_append, FrameEvent.captured?, List.filterMap_cons,
      List.filterMap_nil, offer]
    split_ifs
    · rw [← List.append_assoc]
      exact sent.append (List.Sublist.refl _)
    · exact sent.trans (List.sublist_append_left _ _)
  · simpa [List.filterMap_cons] using inv.onWire

theorem sendStep_inOrder (inv : InOrder mac codec events b) {stop : Bool}
    (stepped : sendStep mac b stop = some b') :
    InOrder mac codec (events ++ frameEvents mac b (.sendLoop stop)) b' := by
  obtain ⟨carried, sent, carries⟩ := inv.outbound
  rcases sendStep_cases stepped with
    ⟨atPc, -, -, rfl⟩ | ⟨frame, rest, e, atPc, -, queued, -, rfl⟩ |
    ⟨frame, rest, datagram, next, atPc, -, queued, encoded, rfl⟩ | ⟨datagram, atPc, rfl⟩
  · have quiet : Quiet b { b with sendLoop := .finished } :=
      ⟨rfl, rfl, rfl, by simp [sendingFrame, atPc], List.Sublist.refl _⟩
    exact inv.quiet quiet rfl (by simp [frameEvents, atPc])
  · have observed : frameEvents mac b (.sendLoop stop) = [] := by simp [frameEvents, atPc]
    rw [observed, List.append_nil]
    refine ⟨inv.keyed, inv.inbound, ⟨carried, ?_, by simpa [sendingFrame] using carries⟩, inv.onWire⟩
    rw [queued] at sent
    exact ((List.Sublist.refl carried).append (List.sublist_cons_self frame rest)).trans sent
  · have observed : frameEvents mac b (.sendLoop stop) = [] := by simp [frameEvents, atPc]
    rw [observed, List.append_nil]
    have carried' : CarriesFrame mac codec frame datagram := by
      rw [← carriesFrame_of_key_eq inv.keyed]
      exact carriesFrame_of_encodeFrame encoded
    have written : sendingFrame b = [] := by simp [sendingFrame, atPc]
    rw [written, List.append_nil] at carries
    refine ⟨?_, inv.inbound, ⟨carried ++ [frame], ?_, ?_⟩, inv.onWire⟩
    · have encodedPair := (encodeFrame_of_ok encoded).2.2
      have keyed : next.key = b.codec.key := by
        rw [show next = (b.codec.encode mac msgFrame frame).2 from congrArg Prod.snd encodedPair,
          key_encode]
      exact keyed.trans inv.keyed
    · rw [queued] at sent
      simpa using sent
    · exact List.rel_append carries (List.Forall₂.cons carried' List.Forall₂.nil)
  · have inFlight : sendingFrame b = [datagram] := by simp [sendingFrame, atPc]
    rw [inFlight] at carries
    by_cases dropped : (b.transportClosed || !b.connected) = true
    · have observed : frameEvents mac b (.sendLoop stop) = [] := by
        simp only [frameEvents, atPc]
        rw [if_pos dropped]
      rw [observed, List.append_nil]
      have front := List.forall₂_take_append carried _ _ carries
      have kept : carried.take (events.filterMap FrameEvent.written?).length ++ b.framesToSend <+
          events.filterMap FrameEvent.captured? :=
        ((List.take_sublist _ _).append (List.Sublist.refl _)).trans sent
      have unchanged : (transportSend b datagram).wire = b.wire := by
        rw [transportSend_eq, if_pos dropped]
      refine ⟨by simpa [codec_transportSend] using inv.keyed, ?_,
        ⟨carried.take (events.filterMap FrameEvent.written?).length, ?_, ?_⟩, ?_⟩
      · simpa [injected_transportSend, transportSend_eq, queued] using inv.inbound
      · simpa [framesToSend_transportSend] using kept
      · simpa [sendingFrame] using front
      · simpa [unchanged] using inv.onWire
    · have observed : frameEvents mac b (.sendLoop stop) = [.written datagram] := by
        simp only [frameEvents, atPc]
        rw [if_neg dropped]
      rw [observed]
      have writes : (transportSend b datagram).wire = b.wire ++ [datagram] := by
        rw [transportSend_eq, if_neg dropped]
      refine ⟨by simpa [codec_transportSend] using inv.keyed, ?_, ⟨carried, ?_, ?_⟩, ?_⟩
      · simpa [transportSend_eq, queued, List.filterMap_cons, FrameEvent.received?] using inv.inbound
      · simpa [framesToSend_transportSend, List.filterMap_cons, FrameEvent.captured?] using sent
      · simpa [sendingFrame, FrameEvent.written?] using carries
      · rw [writes]
        simpa [FrameEvent.written?] using inv.onWire.append (List.Sublist.refl [datagram])

/-- The `switch` of `recvLoop` leaves the other queue, `sendLoop` and the wire
alone. -/
theorem dispatch_sendSide (b : Bridge) (message : Message) (slice : Buffer.Slice) (now : Int64) :
    (dispatch mac b message slice now).framesToSend = b.framesToSend ∧
      sendingFrame (dispatch mac b message slice now) = sendingFrame b ∧
      (dispatch mac b message slice now).wire = b.wire := by
  rcases @dispatch_cases mac b message slice now with
    ⟨-, dispatched⟩ | ⟨-, dispatched⟩ | ⟨-, dispatched⟩ | ⟨-, dispatched⟩ | ⟨-, dispatched⟩ <;>
    simp [dispatched, handleFrame, handlePong_eq, handleBye, closeDoneOnce_eq, sendingFrame]

/-- The `switch` of `recvLoop` keeps the frame paths in order, with the frame
of a FRAME received, as long as the FRAME's slice shows that frame. -/
theorem dispatch_inOrder (inv : InOrder mac codec events b) (message : Message)
    (slice : Buffer.Slice) (now : Int64)
    (keyed : (dispatch mac b message slice now).codec.key = b.codec.key)
    (shown : message.type = msgFrame → slice.read b.recvBuf = message.frame) :
    InOrder mac codec (events ++ if message.type = msgFrame then [.received message.frame] else [])
      (dispatch mac b message slice now) := by
  obtain ⟨-, sameBuf, sameInjected, queue⟩ := @dispatch_queue mac b message slice now
  obtain ⟨sameToSend, sameSending, sameWire⟩ := @dispatch_sendSide mac b message slice now
  by_cases isFrame : message.type = msgFrame
  · rw [if_pos isFrame]
    rw [if_pos isFrame] at queue
    obtain ⟨carried, sent, carries⟩ := inv.outbound
    refine ⟨keyed.trans inv.keyed, ?_, ⟨carried, ?_, ?_⟩, ?_⟩
    · simp only [queued, queue, sameBuf, sameInjected, offer, List.filterMap_append,
        FrameEvent.received?, List.filterMap_cons, List.filterMap_nil]
      split_ifs
      · rw [List.map_append, List.map_singleton, shown isFrame, ← List.append_assoc]
        exact inv.inbound.append (List.Sublist.refl _)
      · exact inv.inbound.trans (List.sublist_append_left _ _)
    · simpa [sameToSend, List.filterMap_cons] using sent
    · simpa [sameSending, List.filterMap_cons] using carries
    · simpa [sameWire, List.filterMap_cons] using inv.onWire
  · rw [if_neg isFrame]
    rw [if_neg isFrame] at queue
    refine inv.quiet ⟨sameToSend, ?_, sameInjected, sameSending, by rw [sameWire]⟩ keyed (by rfl)
    rw [queued, queued, queue, sameBuf]

theorem recvStep_inOrder (inv : InOrder mac codec events b) {input : RecvInput}
    (stepped : recvStep mac b input = some b') (keyed : b'.codec.key = b.codec.key)
    (kept : ∀ frame ∈ b.framesToInject, frame.read b'.recvBuf = frame.read b.recvBuf) :
    InOrder mac codec (events ++ frameEvents mac b (.recvLoop input)) b' := by
  have unwritten : (frameEvents mac b (.recvLoop input)).filterMap FrameEvent.written? = [] :=
    written_frameEvents (fun _ => by simp)
  rcases recvStep_cases stepped with
    ⟨-, -, rfl⟩ | ⟨-, -, rfl⟩ | ⟨-, -, -, rfl⟩ | ⟨-, rfl⟩ | ⟨source, bytes, now, -, -, rfl⟩ |
    ⟨source, bytes, now, e, next, -, -, -, rfl⟩ |
    ⟨source, bytes, now, message, next, atRead, reading, rfl, fromPeer, decoded, rfl⟩ | ⟨pong, -, rfl⟩
  iterate 4 exact inv.quiet (by exact ⟨rfl, rfl, rfl, rfl, List.Sublist.refl _⟩) keyed unwritten
  iterate 2
    exact inv.quiet (by exact ⟨rfl, queued_eq_of_keeps kept rfl, rfl, rfl, .refl _⟩) keyed unwritten
  · let read := { b with codec := next, recvBuf := Buffer.overwrite b.recvBuf bytes }
    obtain ⟨-, sameBuf, -, -⟩ := @dispatch_queue mac read message (b.codec.payloadSlice bytes.length) now
    have nextKey : next.key = b.codec.key := by
      rw [show next = (b.codec.decode mac bytes).2 by rw [← Decode_snd, decoded], key_decode]
    have moved : InOrder mac codec events read := by
      have before : queued read = queued b := queued_eq_of_keeps (by rwa [sameBuf] at kept) rfl
      exact ⟨nextKey.trans inv.keyed, by rw [before]; exact inv.inbound, inv.outbound, inv.onWire⟩
    have checked : (b.peerAddr.isSome && !addrEqual (some source) b.peerAddr) = false := by
      cases known : b.peerAddr.isSome
      · rfl
      · simp [fromPeer known]
    have observed : frameEvents mac b (.recvLoop (.datagram source bytes now)) =
        if message.type = msgFrame then [.received message.frame] else [] := by
      rw [frameEvents, if_pos ⟨atRead, reading, checked⟩, decoded]
    rw [observed]
    exact dispatch_inOrder moved message _ now (keyed.trans nextKey.symm)
      (read_payloadSlice_overwrite (by rw [decoded]) · b.recvBuf)
  · exact inv.quiet (by exact ⟨framesToSend_transportSend b pong, queued_transportSend b pong,
      injected_transportSend b pong, sendingFrame_transportSend b pong,
      wire_sublist_transportSend b pong⟩) keyed unwritten

theorem injectStep_inOrder (inv : InOrder mac codec events b) {stop : Bool}
    (stepped : injectStep b stop = some b') :
    InOrder mac codec (events ++ frameEvents mac b (.injectLoop stop)) b' := by
  have observed : frameEvents mac b (.injectLoop stop) = [] := rfl
  rw [observed, List.append_nil]
  obtain ⟨carried, sent, carries⟩ := inv.outbound
  have outbound : ∃ carried, carried ++ b.framesToSend <+ events.filterMap FrameEvent.captured? ∧
      List.Forall₂ (CarriesFrame mac codec) carried
        (events.filterMap FrameEvent.written? ++ sendingFrame b) := ⟨carried, sent, carries⟩
  have inbound := inv.inbound
  rcases injectStep_cases stepped with
    ⟨-, -, -, rfl⟩ | ⟨-, -, -, rfl⟩ | ⟨frame, rest, -, -, queuedAt, -, rfl⟩ |
    ⟨frame, rest, -, -, queuedAt, -, -, rfl⟩ | ⟨frame, rest, -, -, queuedAt, -, -, rfl⟩
  · exact ⟨inv.keyed, inv.inbound, outbound, inv.onWire⟩
  · exact ⟨inv.keyed, inv.inbound, outbound, inv.onWire⟩
  all_goals
    refine ⟨inv.keyed, ?_, outbound, inv.onWire⟩
    simp only [queued, queuedAt, List.map_cons] at inbound ⊢
  · exact ((List.Sublist.refl _).append (List.sublist_cons_self _ _)).trans inbound
  · simpa using inbound
  · exact ((List.Sublist.refl _).append (List.sublist_cons_self _ _)).trans inbound

/-- The step lemma: every step that keeps the queued frames keeps the frame
paths in order with the events it shows. -/
theorem InOrder.step (inv : InOrder mac codec events b) {action : Action}
    (kept : KeepsQueued mac b action) (stepped : step mac b action = some b') :
    InOrder mac codec (events ++ frameEvents mac b action) b' := by
  have keyed := (step_transmit stepped).1
  have keptHere := kept b' stepped
  obtain ⟨-, stepped⟩ := step_cases stepped
  cases action with
  | cancel | setCapture =>
    obtain ⟨-, rfl⟩ := stepped
    exact inv.quiet (by exact ⟨rfl, rfl, rfl, rfl, List.Sublist.refl _⟩) (by rfl) (by rfl)
  | run => exact inv.quiet (runStep_quiet stepped) keyed (by rfl)
  | captureLoop stop packet => exact captureStep_inOrder inv stepped
  | sendLoop stop => exact sendStep_inOrder inv stepped
  | recvLoop input => exact recvStep_inOrder inv stepped keyed keptHere
  | injectLoop stop => exact injectStep_inOrder inv stepped
  | pingLoop tick => exact inv.quiet (pingStep_quiet stepped) keyed (by rfl)
  | statsLoop | stdinLoop =>
    obtain ⟨-, -, rfl⟩ := stepped
    exact inv.quiet (by exact ⟨rfl, rfl, rfl, rfl, List.Sublist.refl _⟩) (by rfl) (by rfl)

end Steps

/-! ## Over a run -/

/-- In every interleaving of a bridge's goroutines in which no datagram is
read over a frame still queued, the frames injected into the LAN are, in
order, a sublist of the frames `recvLoop` received from the peer; the FRAME
datagrams `sendLoop` wrote are on the wire in that order; and they carry, in
order, a sublist of the frames `captureLoop` captured.  No frame is
duplicated, reordered or made up on either path. -/
theorem frames_in_order (mac : Mac hmacSize) {codec : Codec} {capture : Option Bool}
    {statsInterval : Bool} {peer : UDPAddr} {actions : List Action} {b : Bridge}
    (kept : Trace.AlongSteps (step mac) (KeepsQueued mac) (start codec capture statsInterval peer)
      actions)
    (ran : Trace.exec (step mac) (start codec capture statsInterval peer) actions = some b) :
    ∃ events, Trace.outputs (step mac) (frameEvents mac) (start codec capture statsInterval peer)
        actions = some events ∧
      b.injected <+ events.filterMap FrameEvent.received? ∧
      events.filterMap FrameEvent.written? <+ b.wire ∧
      ∃ carried, carried <+ events.filterMap FrameEvent.captured? ∧
        List.Forall₂ (CarriesFrame mac codec) carried (events.filterMap FrameEvent.written?) := by
  have initial : InOrder mac codec [] (start codec capture statsInterval peer) :=
    ⟨rfl, by simp [start, queued], ⟨[], by simp [start], by simp [start, sendingFrame]⟩,
      by simp [start]⟩
  obtain ⟨events, shown, inv⟩ :=
    Trace.outputs_induction_on (P := fun events b => InOrder mac codec events b)
      (fun _ _ _ _ kept inv stepped => inv.step kept stepped) initial kept ran
  rw [List.nil_append] at inv
  obtain ⟨carried, sent, carries⟩ := inv.outbound
  refine ⟨events, shown, (List.sublist_append_left _ _).trans inv.inbound, inv.onWire,
    carried.take (events.filterMap FrameEvent.written?).length, ?_,
    List.forall₂_take_append carried _ _ carries⟩
  exact (List.take_sublist _ _).trans ((List.sublist_append_left _ _).trans sent)

/-- A secure bridge captures a frame and sends it. -/
theorem frames_in_order_captureFrame :
    ∃ b, Trace.exec (step hmacSha256) (start (newCodec [1]) (some true) false remotePeer)
        (captureFrame sampleFrame) = some b ∧
      Trace.AlongSteps (step hmacSha256) (KeepsQueued hmacSha256)
        (start (newCodec [1]) (some true) false remotePeer) (captureFrame sampleFrame) ∧
      ∃ events, Trace.outputs (step hmacSha256) (frameEvents hmacSha256)
          (start (newCodec [1]) (some true) false remotePeer) (captureFrame sampleFrame) = some events ∧
        b.injected <+ events.filterMap FrameEvent.received? ∧
        events.filterMap FrameEvent.written? <+ b.wire ∧
        ∃ carried, carried <+ events.filterMap FrameEvent.captured? ∧
          List.Forall₂ (CarriesFrame hmacSha256 (newCodec [1])) carried
            (events.filterMap FrameEvent.written?) := by
  have secure : (newCodec [1]).secureMode = true := rfl
  have ran := @exec_captureFrame hmacSha256 _ secure sampleFrame (by decide) (by decide) false remotePeer
  have kept : Trace.AlongSteps (step hmacSha256) (KeepsQueued hmacSha256)
      (start (newCodec [1]) (some true) false remotePeer) (captureFrame sampleFrame) :=
    Trace.AlongSteps.of_forall fun _ a taken =>
      keepsQueued_of_ne_datagram fun source bytes now => by
        simp only [captureFrame, List.mem_cons, List.not_mem_nil, or_false] at taken
        rcases taken with rfl | rfl | rfl | rfl | rfl <;> simp
  exact ⟨_, ran, kept, frames_in_order hmacSha256 kept ran⟩

end Bridge

end XbsLink
