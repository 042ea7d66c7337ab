import XbsLink.Bridge.Sessions
import XbsLink.Bridge.SendOrder

/-!
# What reaches the LAN

`injectLoop` writes to the LAN the frames `handleFrame` queued on
`framesToInject`, and `handleFrame` queues the frame of every FRAME message
`recvLoop` decodes from a datagram whose source passed the peer check.  So
every frame a bridge injects was carried by a datagram read from the peer's
address (`injected_carried`): in secure mode a FRAME sealed with the tag under
the key, in insecure mode the bare type byte and the frame, and either way of
14 to 1514 bytes.  With a key, frames reach the LAN only from a holder of the
key; without one, from anyone who can send from the peer's address.

That holds only while no datagram is read over a frame still queued.  The
queue holds slices of `recvLoop`'s one buffer, not copies, and `ReadFromUDP`
writes every datagram into that buffer before any check: a datagram read, from
any address, while a frame waits for `injectLoop`, replaces the bytes
`WritePacket` then writes to the LAN (`injected_overwritten`).  So the theorem
assumes that no step of the run changes the bytes of a queued frame
(`KeepsQueued`).

The proof follows each frame back one step at a time: a frame on its way to the
LAN was on its way before the step, or the step is the `recvLoop` step that
decoded it (`step_inbound`).  What a run reads is the labels of its actions, so
the invariant names the actions of the run, and `Trace.PreservedOn.exec`
admits exactly those steps that also keep the queued frames.
-/

namespace XbsLink

open Protocol Transport BigEndian Codec

/-! ## FRAME datagrams -/

namespace Protocol.Codec

section Frames

variable {mac : Mac hmacSize}

/-- `data` carries `frame` as a FRAME for a codec: sealed under its key with
some nonce in secure mode, after the bare type byte otherwise. -/
def CarriesFrame (mac : Mac hmacSize) (c : Codec) (frame data : List UInt8) : Prop :=
  if c.secureMode then ∃ nonce, data = sealed mac c.key msgFrame nonce frame
  else data = msgFrame :: frame

/-- Codecs with one key agree on what carries a frame. -/
theorem carriesFrame_of_key_eq {c c' : Codec} (sameKey : c.key = c'.key) :
    CarriesFrame mac c = CarriesFrame mac c' := by
  unfold CarriesFrame
  rw [secureMode_eq_of_key_eq sameKey, sameKey]

/-- A datagram split after its type byte, with eight nonce bytes ahead of the
payload and the tag behind it, is the datagram sealed with that nonce. -/
theorem sealed_uint64 {key : List UInt8} {msgType : UInt8} {rest : List UInt8}
    (long : nonceSize ≤ rest.length) :
    (msgType :: rest) ++ mac.tag key (msgType :: rest) =
      sealed mac key msgType (uint64 rest) (rest.drop nonceSize) := by
  have nonceBytes : putUint64 (uint64 rest) = rest.take nonceSize := by
    rw [← uint64_take_eight, putUint64_uint64 (List.length_take_of_le long)]
    rfl
  simp only [sealed, nonceBytes, List.cons_append, List.take_append_drop]

/-- A datagram `Decode` accepts as a FRAME carries the message's frame, which
is of Ethernet size. -/
theorem carriesFrame_of_Decode {c : Codec} {data : List UInt8} {message : Message}
    (decoded : (c.Decode mac data).1 = .ok message) (isFrame : message.type = msgFrame) :
    CarriesFrame mac c message.frame data ∧
      minEthernetFrame ≤ message.frame.length ∧ message.frame.length ≤ maxFrameSize := by
  rw [Decode_fst] at decoded
  unfold CarriesFrame
  cases secure : c.secureMode with
  | false =>
      cases data with
      | nil => cases decoded
      | cons msgType payload =>
          rw [decode_of_not_secureMode secure] at decoded
          obtain ⟨rfl, framed, large, small⟩ := frame_of_parsePayload decoded isFrame
          rw [framed]
          exact ⟨rfl, large, small⟩
  | true =>
      rcases @decode_cases_of_secure mac c secure data with
        short | forged | ⟨msgType, rest, long, rfl, checked⟩
      · rw [short] at decoded
        cases decoded
      · rw [forged] at decoded
        cases decoded
      rw [checked, checkReplay_fst] at decoded
      split_ifs at decoded
      · cases decoded
      obtain ⟨rfl, framed, large, small⟩ := frame_of_parsePayload decoded isFrame
      rw [framed]
      exact ⟨⟨uint64 rest, sealed_uint64 long⟩, large, small⟩

end Frames

end Protocol.Codec

namespace Bridge

/-- The bytes of the queued frames, as `WritePacket` would write them now. -/
def queued (b : Bridge) : List (List UInt8) := b.framesToInject.map fun frame => frame.read b.recvBuf

/-- The frames on their way to the LAN: queued on `framesToInject`, or
already injected. -/
def inbound (b : Bridge) : List (List UInt8) := queued b ++ b.injected

/-- The step `action` from `b` leaves the bytes of every queued frame as they
were. -/
def KeepsQueued (mac : Mac hmacSize) (b : Bridge) (action : Action) : Prop :=
  ∀ b', step mac b action = some b' →
    ∀ frame ∈ b.framesToInject, frame.read b'.recvBuf = frame.read b.recvBuf

/-! ## What each step does to them -/

section Steps

variable {mac : Mac hmacSize} {b b' : Bridge}

/-- A step that leaves the LAN side of the bridge alone: the queue, `buf`,
the frames injected and the peer. -/
structure Untouched (b b' : Bridge) : Prop where
  framesToInject : b'.framesToInject = b.framesToInject
  recvBuf : b'.recvBuf = b.recvBuf
  injected : b'.injected = b.injected
  peerAddr : b'.peerAddr = b.peerAddr

theorem Untouched.inbound (untouched : Untouched b b') : inbound b' = inbound b := by
  rw [Bridge.inbound, Bridge.inbound, queued, queued, untouched.framesToInject, untouched.recvBuf,
    untouched.injected]

theorem queued_eq_of_keeps
    (kept : ∀ frame ∈ b.framesToInject, frame.read b'.recvBuf = frame.read b.recvBuf)
    (sameQueue : b'.framesToInject = b.framesToInject) : queued b' = queued b := by
  rw [queued, queued, sameQueue]
  exact List.map_congr_left kept

/-- Where a frame on its way to the LAN after the step `action` from `b` comes
from: it was on its way already, or `action` is `recvLoop` reading a datagram
from a source that passed the peer check and decoding a FRAME with it. -/
def Arrived (mac : Mac hmacSize) (b : Bridge) (action : Action) (frame : List UInt8) : Prop :=
  frame ∈ inbound b ∨
    ∃ source data now message, action = .recvLoop (.datagram source data now) ∧
      (b.peerAddr.isSome = true → addrEqual (some source) b.peerAddr = true) ∧
      (b.codec.Decode mac data).1 = .ok message ∧ message.type = msgFrame ∧ message.frame = frame

theorem runStep_untouched (stepped : runStep mac b = some b') : Untouched b b' := by
  rcases runStep_cases stepped with
    ⟨-, -, rfl⟩ | ⟨-, -, rfl⟩ | ⟨-, -, rfl⟩ | ⟨-, -, rfl⟩ | ⟨-, -, -, rfl⟩ |
    ⟨bye, -, rfl⟩ | ⟨-, rfl⟩ | ⟨peer, -, rfl⟩ | ⟨peer, -, rfl⟩ | ⟨peer, -, -, rfl⟩
  all_goals constructor <;> simp [closeDone_eq]

/-- `captureLoop` fills the other queue. -/
theorem captureStep_untouched {stop : Bool} {packet : Option (List UInt8)}
    (stepped : captureStep b stop packet = some b') : Untouched b b' := by
  rcases captureStep_cases stepped with
    ⟨-, -, -, rfl⟩ | ⟨-, -, -, rfl⟩ | ⟨-, -, rfl⟩ | ⟨-, -, rfl⟩ | ⟨-, -, rfl⟩ | ⟨-, -, rfl⟩ |
    ⟨-, -, -, rfl⟩ | ⟨frame, -, -, -, rfl⟩ <;>
  exact ⟨rfl, rfl, rfl, rfl⟩

theorem sendStep_untouched {stop : Bool} (stepped : sendStep mac b stop = some b') :
    Untouched b b' := by
  rcases sendStep_cases stepped with
    ⟨-, -, -, rfl⟩ | ⟨frame, rest, e, -, -, -, -, rfl⟩ |
    ⟨frame, rest, datagram, codec, -, -, -, -, rfl⟩ | ⟨datagram, -, rfl⟩
  all_goals constructor <;> simp [transportSend_eq]

theorem pingStep_untouched {tick : Option Int64} (stepped : pingStep mac b tick = some b') :
    Untouched b b' := by
  rcases pingStep_cases stepped with ⟨-, -, -, rfl⟩ | ⟨timestamp, -, -, rfl⟩ | ⟨ping, -, rfl⟩
  · exact ⟨rfl, rfl, rfl, rfl⟩
  · rcases @sendPing_cases mac b timestamp with ⟨-, -, pinged⟩ | pinged <;> rw [pinged]
    · constructor <;> simp [closeDoneOnce_eq]
    · exact ⟨rfl, rfl, rfl, rfl⟩
  · constructor <;> simp [transportSend_eq]

/-- `injectLoop` takes the head of the queue and injects the bytes it shows,
drops it, or crashes on it: nothing new appears, and `buf` is left alone. -/
theorem injectStep_inbound {stop : Bool} (stepped : injectStep b stop = some b') :
    (∀ frame ∈ inbound b', frame ∈ inbound b) ∧ b'.recvBuf = b.recvBuf ∧ b'.peerAddr = b.peerAddr := by
  rcases injectStep_cases stepped with
    ⟨-, -, -, rfl⟩ | ⟨-, -, -, rfl⟩ | ⟨frame, rest, -, -, queuedAt, -, rfl⟩ |
    ⟨frame, rest, -, -, queuedAt, -, -, rfl⟩ | ⟨frame, rest, -, -, queuedAt, -, -, rfl⟩
  · exact ⟨fun _ member => member, rfl, rfl⟩
  · exact ⟨fun _ member => member, rfl, rfl⟩
  all_goals
    refine ⟨fun other member => ?_, rfl, rfl⟩
    simp only [inbound, queued, queuedAt, List.map_cons, List.mem_append, List.mem_cons] at member ⊢
    tauto

/-- The `switch` of `recvLoop` leaves the peer, `buf` and the frames injected
alone, and only a FRAME adds to the queue: the slice of its payload. -/
theorem dispatch_queue (b : Bridge) (message : Message) (frame : Buffer.Slice) (now : Int64) :
    (dispatch mac b message frame now).peerAddr = b.peerAddr ∧
      (dispatch mac b message frame now).recvBuf = b.recvBuf ∧
      (dispatch mac b message frame now).injected = b.injected ∧
      (dispatch mac b message frame now).framesToInject =
        if message.type = msgFrame then offer b.framesToInject frame else b.framesToInject := by
  unfold dispatch
  split_ifs <;> simp_all [handleFrame, handlePong_eq, handleBye, closeDoneOnce_eq]

/-- A frame on its way after the `switch` was on its way before, or is the
bytes of the FRAME's slice. -/
theorem dispatch_inbound (message : Message) (slice : Buffer.Slice) (now : Int64) {frame : List UInt8}
    (member : frame ∈ inbound (dispatch mac b message slice now)) :
    frame ∈ inbound b ∨ message.type = msgFrame ∧ slice.read b.recvBuf = frame := by
  obtain ⟨samePeer, sameBuf, sameInjected, queue⟩ := @dispatch_queue mac b message slice now
  by_cases isFrame : message.type = msgFrame
  · rw [if_pos isFrame] at queue
    simp only [inbound, queued, queue, sameBuf, sameInjected, offer] at member
    split_ifs at member
    · simp only [List.map_append, List.map_singleton, List.mem_append, List.mem_singleton] at member
      rcases member with (before | rfl) | injected
      · exact .inl (List.mem_append_left _ before)
      · exact .inr ⟨isFrame, rfl⟩
      · exact .inl (List.mem_append_right _ injected)
    · exact .inl member
  · rw [if_neg isFrame] at queue
    rw [Untouched.inbound ⟨queue, sameBuf, sameInjected, samePeer⟩] at member
    exact .inl member

theorem recvStep_inbound {input : RecvInput} (stepped : recvStep mac b input = some b')
    (kept : ∀ frame ∈ b.framesToInject, frame.read b'.recvBuf = frame.read b.recvBuf) :
    (∀ frame ∈ inbound b', Arrived mac b (.recvLoop input) frame) ∧ b'.peerAddr = b.peerAddr := by
  rcases recvStep_cases stepped with
    ⟨-, -, rfl⟩ | ⟨-, -, rfl⟩ | ⟨-, -, -, rfl⟩ | ⟨-, rfl⟩ | ⟨source, bytes, now, -, -, rfl⟩ |
    ⟨source, bytes, now, e, codec, -, -, -, rfl⟩ |
    ⟨source, bytes, now, message, codec, -, -, rfl, fromPeer, decoded, rfl⟩ | ⟨pong, -, rfl⟩
  · exact ⟨fun _ => .inl, rfl⟩
  · exact ⟨fun _ => .inl, rfl⟩
  · exact ⟨fun _ => .inl, rfl⟩
  · exact ⟨fun _ => .inl, rfl⟩
  · refine ⟨fun frame member => .inl ?_, rfl⟩
    rwa [inbound, queued_eq_of_keeps kept rfl] at member
  · refine ⟨fun frame member => .inl ?_, rfl⟩
    rwa [inbound, queued_eq_of_keeps kept rfl] at member
  · obtain ⟨samePeer, sameBuf, -, -⟩ := @dispatch_queue mac _ message (b.codec.payloadSlice bytes.length) now
    refine ⟨fun frame member => ?_, samePeer⟩
    rcases dispatch_inbound message _ now member with before | ⟨isFrame, framed⟩
    · have same : queued { b with codec := codec, recvBuf := Buffer.overwrite b.recvBuf bytes } =
          queued b :=
        queued_eq_of_keeps (by rwa [sameBuf] at kept) rfl
      rw [inbound, same] at before
      exact .inl before
    · rw [read_payloadSlice_overwrite (by rw [decoded]) isFrame] at framed
      exact .inr ⟨source, bytes, now, message, rfl, fromPeer, by rw [decoded], isFrame, framed⟩
  · refine ⟨fun _ member => .inl ?_, by simp [transportSend_eq]⟩
    simpa [inbound, queued, transportSend_eq] using member

/-- The step lemma: every frame on its way to the LAN after a step that keeps
the queued frames arrived through it, and the peer does not change. -/
theorem step_inbound {action : Action} (kept : KeepsQueued mac b action)
    (stepped : step mac b action = some b') :
    (∀ frame ∈ inbound b', Arrived mac b action frame) ∧ b'.peerAddr = b.peerAddr := by
  have keptHere := kept b' stepped
  obtain ⟨-, stepped⟩ := step_cases stepped
  have untouched (same : Untouched b b') :
      (∀ frame ∈ inbound b', Arrived mac b action frame) ∧ b'.peerAddr = b.peerAddr :=
    ⟨fun _ member => .inl (same.inbound ▸ member), same.peerAddr⟩
  cases action with
  | cancel | setCapture =>
      obtain ⟨-, rfl⟩ := stepped
      exact untouched ⟨rfl, rfl, rfl, rfl⟩
  | run => exact untouched (runStep_untouched stepped)
  | captureLoop => exact untouched (captureStep_untouched stepped)
  | sendLoop => exact untouched (sendStep_untouched stepped)
  | recvLoop => exact recvStep_inbound stepped keptHere
  | injectLoop =>
      obtain ⟨frames, -, peer⟩ := injectStep_inbound stepped
      exact ⟨fun frame member => .inl (frames frame member), peer⟩
  | pingLoop => exact untouched (pingStep_untouched stepped)
  | statsLoop | stdinLoop =>
      obtain ⟨-, -, rfl⟩ := stepped
      exact untouched ⟨rfl, rfl, rfl, rfl⟩

/-- Only `Recv` writes into `buf`. -/
theorem recvBuf_step {action : Action} (stepped : step mac b action = some b') :
    b'.recvBuf = b.recvBuf ∨ ∃ source bytes now, action = .recvLoop (.datagram source bytes now) ∧
      b'.recvBuf = Buffer.overwrite b.recvBuf bytes := by
  obtain ⟨-, stepped⟩ := step_cases stepped
  cases action with
  | cancel | setCapture =>
      obtain ⟨-, rfl⟩ := stepped
      exact .inl rfl
  | run => exact .inl (runStep_untouched stepped).recvBuf
  | captureLoop => exact .inl (captureStep_untouched stepped).recvBuf
  | sendLoop => exact .inl (sendStep_untouched stepped).recvBuf
  | recvLoop input =>
      rcases recvStep_cases stepped with
        ⟨-, -, rfl⟩ | ⟨-, -, rfl⟩ | ⟨-, -, -, rfl⟩ | ⟨-, rfl⟩ | ⟨source, bytes, now, -, rfl, rfl⟩ |
        ⟨source, bytes, now, e, codec, -, rfl, -, rfl⟩ |
        ⟨source, bytes, now, message, codec, -, -, rfl, -, -, rfl⟩ | ⟨pong, -, rfl⟩
      · exact .inl rfl
      · exact .inl rfl
      · exact .inl rfl
      · exact .inl rfl
      · exact .inr ⟨source, bytes, now, rfl, rfl⟩
      · exact .inr ⟨source, bytes, now, rfl, rfl⟩
      · exact .inr ⟨source, bytes, now, rfl, (@dispatch_queue mac _ message _ now).2.1⟩
      · exact .inl (by simp [transportSend_eq])
  | injectLoop => exact .inl (injectStep_inbound stepped).2.1
  | pingLoop => exact .inl (pingStep_untouched stepped).recvBuf
  | statsLoop | stdinLoop =>
      obtain ⟨-, -, rfl⟩ := stepped
      exact .inl rfl

/-- A step that reads no datagram keeps the queued frames. -/
theorem keepsQueued_of_ne_datagram {action : Action}
    (notRead : ∀ source bytes now, action ≠ .recvLoop (.datagram source bytes now)) :
    KeepsQueued mac b action := by
  intro b' stepped frame _
  rcases recvBuf_step stepped with same | ⟨source, bytes, now, rfl, -⟩
  · rw [same]
  · exact absurd rfl (notRead source bytes now)

/-- With nothing queued there is nothing to overwrite. -/
theorem keepsQueued_of_empty (empty : b.framesToInject = []) (action : Action) :
    KeepsQueued mac b action := by
  intro b' _ frame member
  rw [empty] at member
  cases member

end Steps

/-! ## Over a run -/

section Runs

variable {mac : Mac hmacSize}

/-- Every frame on its way to the LAN is of Ethernet size and was carried, for
`codec`, by a datagram that an action of the run read from `peer`'s address;
the bridge keeps the key and the peer. -/
def Delivered (mac : Mac hmacSize) (codec : Codec) (peer : UDPAddr) (actions : List Action)
    (b : Bridge) : Prop :=
  b.codec.key = codec.key ∧ b.peerAddr = some peer ∧
    ∀ frame ∈ inbound b, minEthernetFrame ≤ frame.length ∧ frame.length ≤ maxFrameSize ∧
      ∃ source data now, addrEqual (some source) (some peer) = true ∧
        .recvLoop (.datagram source data now) ∈ actions ∧ CarriesFrame mac codec frame data

theorem delivered_preserved (codec : Codec) (peer : UDPAddr) (actions : List Action) :
    Trace.PreservedOn (step mac) (fun b a => a ∈ actions ∧ KeepsQueued mac b a)
      (Delivered mac codec peer actions) := by
  intro b action b' ⟨taken, kept⟩ ⟨keyed, fromPeer, delivered⟩ stepped
  obtain ⟨arrived, samePeer⟩ := step_inbound kept stepped
  have keyed' : b'.codec.key = codec.key := (step_transmit stepped).1.trans keyed
  refine ⟨keyed', samePeer.trans fromPeer, fun frame member => ?_⟩
  rcases arrived frame member with
    before | ⟨source, data, now, message, rfl, checked, decoded, isFrame, rfl⟩
  · exact delivered frame before
  obtain ⟨carried, large, small⟩ := carriesFrame_of_Decode decoded isFrame
  rw [carriesFrame_of_key_eq keyed] at carried
  rw [fromPeer] at checked
  exact ⟨large, small, source, data, now, checked rfl, taken, carried⟩

/-- Every frame a bridge injects into the LAN, in any interleaving of its
goroutines in which no datagram is read over a frame still queued, is of
Ethernet size and was carried by a datagram `recvLoop` read from the peer's
address: sealed under the key in secure mode, or the bare FRAME type byte and
the frame in insecure mode. -/
theorem injected_carried (mac : Mac hmacSize) {codec : Codec} {capture : Option Bool}
    {statsInterval : Bool} {peer : UDPAddr} {actions : List Action} {b : Bridge}
    (kept : Trace.AlongSteps (step mac) (KeepsQueued mac) (start codec capture statsInterval peer)
      actions)
    (ran : Trace.exec (step mac) (start codec capture statsInterval peer) actions = some b)
    {frame : List UInt8} (injected : frame ∈ b.injected) :
    minEthernetFrame ≤ frame.length ∧ frame.length ≤ maxFrameSize ∧
      ∃ source data now, addrEqual (some source) (some peer) = true ∧
        .recvLoop (.datagram source data now) ∈ actions ∧ CarriesFrame mac codec frame data := by
  have initial : Delivered mac codec peer actions (start codec capture statsInterval peer) :=
    ⟨rfl, rfl, fun frame member => by simp [inbound, queued, start] at member⟩
  have admitted := (Trace.AlongSteps.of_forall fun _ a taken => taken).and kept
  have delivered := (delivered_preserved codec peer actions).exec initial admitted ran
  exact delivered.2.2 frame (List.mem_append_right _ injected)

/-- In `deliverFrame` the datagram is read with nothing queued. -/
theorem keepsQueued_deliverFrame (codec : Codec) (capture : Option Bool) (statsInterval : Bool)
    (peer source : UDPAddr) (data : List UInt8) :
    Trace.AlongSteps (step mac) (KeepsQueued mac) (start codec capture statsInterval peer)
      (deliverFrame source data) := by
  refine ⟨keepsQueued_of_empty rfl _, fun b stepped => ⟨keepsQueued_of_empty ?_ _, fun _ _ =>
    ⟨keepsQueued_of_ne_datagram (by simp), fun _ _ =>
      ⟨keepsQueued_of_ne_datagram (by simp), fun _ _ => trivial⟩⟩⟩⟩
  simp only [step, start, recvStep, Option.isSome_none, Bool.false_eq_true, if_false] at stepped
  cases stepped
  rfl

/-- The first FRAME of a secure bridge's peer, sealed with nonce one. -/
def peerFrame : List UInt8 := sealed hmacSha256 [1] msgFrame 1 sampleFrame

/-- A sealed FRAME from the peer is injected, and it is what carried the frame. -/
theorem injected_carried_peerFrame :
    ∃ b, Trace.exec (step hmacSha256) (start (newCodec [1]) (some true) false remotePeer)
        (deliverFrame remotePeer peerFrame) = some b ∧ sampleFrame ∈ b.injected ∧
      Trace.AlongSteps (step hmacSha256) (KeepsQueued hmacSha256)
        (start (newCodec [1]) (some true) false remotePeer) (deliverFrame remotePeer peerFrame) ∧
      minEthernetFrame ≤ sampleFrame.length ∧ sampleFrame.length ≤ maxFrameSize ∧
        ∃ source data now, addrEqual (some source) (some remotePeer) = true ∧
          .recvLoop (.datagram source data now) ∈ deliverFrame remotePeer peerFrame ∧
          CarriesFrame hmacSha256 (newCodec [1]) sampleFrame data := by
  have large : minEthernetFrame ≤ sampleFrame.length := by simp [sampleFrame]
  have accepted : (newCodec [1]).decode hmacSha256 peerFrame =
      (.ok (msgFrame, sampleFrame), { newCodec [1] with recvNonce := 1 }) :=
    decode_of_sealed_accepted rfl rfl (by decide) (fresh_of_recvNonce_zero rfl 1)
  have decoded : (newCodec [1]).Decode hmacSha256 peerFrame =
      (.ok { type := msgFrame, frame := sampleFrame }, { newCodec [1] with recvNonce := 1 }) := by
    rw [Decode_of_decode accepted, parsePayload_frame large (by simp [sampleFrame, minEthernetFrame, maxFrameSize])]
  have ran := exec_deliverFrame decoded large false remotePeer
  have kept := @keepsQueued_deliverFrame hmacSha256 (newCodec [1]) (some true) false remotePeer remotePeer peerFrame
  exact ⟨_, ran, List.mem_singleton_self _, kept,
    injected_carried hmacSha256 kept ran (List.mem_singleton_self _)⟩

/-! ## A datagram read over a queued frame -/

/-- `recvLoop` reads every datagram into the buffer the queued frames are
slices of, before it checks the source: a datagram from an address other than
the peer's, which `recvLoop` then ignores, read while a frame is queued and
covering it, puts its own bytes on the LAN in the frame's place. -/
theorem injected_overwritten (mac : Mac hmacSize) {b : Bridge} {frame : Buffer.Slice}
    {rest : List Buffer.Slice} (queuedAt : b.framesToInject = frame :: rest) (alive : b.crash = none)
    (reading : b.recvLoop = .read) (transportOpen : b.transportClosed = false)
    (selecting : b.injectLoop = .select) (captureOpen : b.capture = some true) {peer source : UDPAddr}
    (fromPeer : b.peerAddr = some peer) (stranger : addrEqual (some source) (some peer) = false)
    {bytes : List UInt8} (covers : frame.hi ≤ bytes.length) (large : 14 ≤ frame.hi - frame.lo)
    (now : Int64) :
    Trace.exec (step mac) b [.recvLoop (.datagram source bytes now), .injectLoop false] =
      some { b with recvBuf := Buffer.overwrite b.recvBuf bytes, recvLoop := .top,
                    framesToInject := rest, injected := b.injected ++ [frame.read bytes] } := by
  have ignored : step mac b (.recvLoop (.datagram source bytes now)) =
      some { b with recvBuf := Buffer.overwrite b.recvBuf bytes, recvLoop := .top } := by
    simp [step, recvStep, alive, reading, transportOpen, fromPeer, stranger]
  have shown : frame.read (Buffer.overwrite b.recvBuf bytes) = frame.read bytes :=
    Buffer.read_overwrite_of_le covers b.recvBuf
  have long : ¬ (frame.read bytes).length < 14 := by
    rw [Buffer.length_read frame covers]
    omega
  rw [Trace.exec_cons_of_step ignored]
  simp [Trace.exec, step, injectStep, alive, selecting, queuedAt, captureOpen, shown, long]

/-- An insecure bridge's peer FRAME is queued, and `recvLoop` is back in
`Recv` before `injectLoop` takes it. -/
def frameQueued : List Action :=
  [.recvLoop .timeout, .recvLoop (.datagram remotePeer (msgFrame :: sampleFrame) 0),
    .recvLoop .timeout, .injectLoop false]

/-- A datagram of the adversary's. -/
def strangerBytes : List UInt8 := List.replicate 64 255

theorem exec_frameQueued (mac : Mac hmacSize) :
    (Trace.exec (step mac) (start (newCodec []) (some true) false remotePeer) frameQueued).map
        (fun b => (b.framesToInject, b.crash, b.recvLoop, b.transportClosed, b.injectLoop, b.capture,
          b.peerAddr, b.injected)) =
      some ([⟨1, 15⟩], none, .read, false, .select, some true, some remotePeer, []) := by
  rfl

/-- The adversary's bytes, not the peer's frame, reach the LAN. -/
theorem injected_overwritten_stranger :
    ∃ b, Trace.exec (step hmacSha256) (start (newCodec []) (some true) false remotePeer)
        frameQueued = some b ∧ b.injected = [] ∧
      Trace.exec (step hmacSha256) b [.recvLoop (.datagram adversaryAddress strangerBytes 0),
          .injectLoop false] =
        some { b with recvBuf := Buffer.overwrite b.recvBuf strangerBytes, recvLoop := .top,
                      framesToInject := [],
                      injected := b.injected ++ [(Buffer.Slice.mk 1 15).read strangerBytes] } ∧
      (Buffer.Slice.mk 1 15).read strangerBytes = List.replicate 14 255 := by
  obtain ⟨b, ran, observed⟩ := Option.map_eq_some_iff.mp (exec_frameQueued hmacSha256)
  simp only [Prod.mk.injEq] at observed
  obtain ⟨queuedAt, alive, reading, transportOpen, selecting, captureOpen, fromPeer, injected⟩ :=
    observed
  exact ⟨b, ran, injected, injected_overwritten hmacSha256 queuedAt alive reading transportOpen
    selecting captureOpen fromPeer (by decide) (by decide) (by decide) 0, by decide⟩

end Runs

end Bridge

end XbsLink
