import XbsLink.Protocol.Codec
import XbsLink.Transport.Addr
import XbsLink.Bridge.Stats
import XbsLink.Lib.Buffer
import XbsLink.Lib.Trace

/-!
# `Bridge.Run` and its goroutines

The model of `internal/bridge/bridge.go` from the moment `Run` has connected
and started its goroutines.  A `Bridge` holds the shared state (the context,
the `done` channel and its `sync.Once`, the capture, the transport, the codec,
the two frame channels, the ping state) and one program counter per
goroutine.  A step is one atomic action of one goroutine, or one action of the
environment: the application cancelling the context, or background discovery
calling `SetCapture`.  Critical sections under `pingMu`, `captureMu`,
`stateMu` and the transport's lock are single steps; so is every statement
that touches only one goroutine's data.  A `select` that has several ready
cases is decided by the label, as Go decides it at random.

The steps are as coarse as the shared state allows and no coarser: where a
goroutine reads shared state in one statement and acts on it in a later one
(the context check at the top of a loop and the read that follows it;
`Run`'s second `select` and its `close(b.done)`; an encode and the `Send`
after it), those are two steps, since another goroutine can act in between.

A panic in any goroutine ends the process: `crash` records it, and no step is
enabled afterwards.  `ReadPacket` and `WritePacket` on a capture that `Close`
has set to a nil handle panic on the nil `*pcap.Handle`.

`recvLoop` reads every datagram into one buffer, `buf`, made once when it
starts, and `Decode` returns the frame of a FRAME as a slice of it: what
`handleFrame` queues on `framesToInject` is where the frame lies in `buf`, and
`WritePacket` later writes whatever `buf` holds there (`Buffer`).  A UDP
payload is at most 65507 bytes, so every datagram fits in the 65536 of `buf`.

`handlePong` takes the round-trip time from `time.Now()`, which the label of
the `recvLoop` step supplies, and adds it to the statistics.

Not modelled: the packet counters (only `printStats` reads them),
`CheckRTTSpike` and the alert threshold (they only decide log lines and an
event), the log lines and emitted events, and the connection phase of `Run`
before its goroutines start.
-/

namespace XbsLink

open Protocol Transport

namespace Bridge

/-- `ChannelBufferSize`. -/
def channelBufferSize : Nat := 256

/-- `MaxMissedPongs`. -/
def maxMissedPongs : Nat := 3

/-- The size of `recvLoop`'s `buf`. -/
def recvBufferSize : Nat := 65536

/-- `State`: what `setState` records. -/
inductive State
  | disconnected
  | connecting
  | connected
  deriving DecidableEq, Repr

/-- A panic that ends the process. -/
inductive Crash
  /-- `close` of a channel that is already closed. -/
  | closeOfClosedChannel
  /-- `ReadPacket` or `WritePacket` on a capture whose handle `Close` set to nil. -/
  | captureUsedAfterClose
  deriving DecidableEq, Repr

/-- `Run` after it started its goroutines.  The flag of the last four is
whether `done` was closed first (the peer-disconnect path) or the context was
cancelled (the application-shutdown path). -/
inductive RunPc
  /-- The first `select`, on `ctx.Done()` and `b.done`. -/
  | waiting
  /-- The second `select`, on `b.done` with a `default`. -/
  | deciding
  /-- `transport.SendBye`: its check, then `EncodeBye`. -/
  | sendBye
  /-- The `WriteToUDP` of `SendBye`. -/
  | writeBye (datagram : List UInt8)
  /-- `close(b.done)` of the application-shutdown path. -/
  | closeDone
  | closeTransport (peerDisconnected : Bool)
  | closeCapture (peerDisconnected : Bool)
  /-- `wg.Wait()`. -/
  | wait (peerDisconnected : Bool)
  /-- `Run` returned `ErrPeerDisconnected` (`true`) or `nil`. -/
  | returned (peerDisconnected : Bool)
  deriving DecidableEq, Repr

/-- `captureLoop`. -/
inductive CapturePc
  /-- The `select` on `ctx.Done()` and `b.captureReady`. -/
  | awaitReady
  /-- The `select` on `ctx.Done()` with a `default` at the top of the loop. -/
  | top
  /-- `cap := b.capture`, `ReadPacket` and the enqueue. -/
  | read
  | finished
  deriving DecidableEq, Repr

/-- `sendLoop`. -/
inductive SendPc
  /-- The `select` on `ctx.Done()` and `b.framesToSend`, then `EncodeFrame`. -/
  | select
  /-- `transport.Send` of the encoded frame. -/
  | send (datagram : List UInt8)
  | finished
  deriving DecidableEq, Repr

/-- `recvLoop`. -/
inductive RecvPc
  /-- The `select` on `ctx.Done()` with a `default` at the top of the loop. -/
  | top
  /-- `Recv`, the source check, `Decode` and the dispatch. -/
  | read
  /-- `transport.Send` of the PONG `handlePing` encoded. -/
  | sendPong (datagram : List UInt8)
  | finished
  deriving DecidableEq, Repr

/-- `injectLoop`. -/
inductive InjectPc
  /-- The `select` on `ctx.Done()` and `b.captureReady`. -/
  | awaitReady
  /-- The `select` on `ctx.Done()` and `b.framesToInject`, then `WritePacket`. -/
  | select
  | finished
  deriving DecidableEq, Repr

/-- `pingLoop`. -/
inductive PingPc
  /-- The `select` on `ctx.Done()` and the ticker, then the body of `sendPing`. -/
  | select
  /-- `transport.Send` of the PING `sendPing` encoded. -/
  | sendPing (datagram : List UInt8)
  | finished
  deriving DecidableEq, Repr

/-- `statsLoop` and `stdinLoop`: loops whose iterations touch nothing this
model keeps; `absent` is a `statsLoop` that `Run` did not start
(`statsInterval` is zero). -/
inductive LoopPc
  | running
  | finished
  | absent
  deriving DecidableEq, Repr

end Bridge

/-- The state shared by `Run` and its goroutines, and where each one is. -/
structure Bridge where
  codec : Codec
  /-- The context passed to `Run` is cancelled. -/
  ctxCancelled : Bool
  doneClosed : Bool
  /-- `doneOnce.Do` has run its function. -/
  doneOnceFired : Bool
  /-- `b.capture`: `none` is nil, `some isOpen` a capture whose handle is
  open or was set to nil by `Close`.  `captureReady` is closed exactly when
  the capture is set. -/
  capture : Option Bool
  transportClosed : Bool
  connected : Bool
  /-- `transport.PeerAddr()`, which `recvLoop` reads once. -/
  peerAddr : Option UDPAddr
  state : Bridge.State
  framesToSend : List (List UInt8)
  /-- The frames `handleFrame` queued, as the slices of `buf` they are. -/
  framesToInject : List Buffer.Slice
  pendingPing : Int64
  /-- `int32`, counted up by `atomic.AddInt32`, which wraps. -/
  missedPongs : Int32
  /-- The round-trip part of `b.stats`. -/
  stats : Bridge.Stats.Kept
  /-- `b.stats.lastRTT`. -/
  lastRTT : Int64
  /-- `recvLoop`'s `buf`. -/
  recvBuf : List UInt8
  /-- The datagrams written to the peer, in order. -/
  wire : List (List UInt8)
  /-- The frames `WritePacket` injected into the LAN, in order. -/
  injected : List (List UInt8)
  crash : Option Bridge.Crash
  run : Bridge.RunPc
  captureLoop : Bridge.CapturePc
  sendLoop : Bridge.SendPc
  recvLoop : Bridge.RecvPc
  injectLoop : Bridge.InjectPc
  pingLoop : Bridge.PingPc
  statsLoop : Bridge.LoopPc
  stdinLoop : Bridge.LoopPc

namespace Bridge

/-- What a `Recv` call returns. -/
inductive RecvInput
  /-- The read deadline expired. -/
  | timeout
  /-- Any other read error. -/
  | readError
  /-- `ReadFromUDP` read `bytes` from `source`; `now` is what `time.Now()`
  returns to `handlePong` if the datagram is an accepted PONG. -/
  | datagram (source : UDPAddr) (bytes : List UInt8) (now : Int64)
  deriving DecidableEq, Repr

/-- A step: the environment's, or one goroutine's with what the environment
supplies to it.  `stop` takes the `ctx.Done()` case of a `select` whose other
case is ready too. -/
inductive Action
  /-- The application shuts down and the context is cancelled. -/
  | cancel
  /-- `SetCapture` from background discovery. -/
  | setCapture
  | run
  /-- `packet` is what `ReadPacket` returns: a frame, or none on a timeout or
  an error. -/
  | captureLoop (stop : Bool) (packet : Option (List UInt8))
  | sendLoop (stop : Bool)
  | recvLoop (input : RecvInput)
  | injectLoop (stop : Bool)
  /-- A tick of the ticker with `time.Now().UnixNano()`, or `none` for the
  `ctx.Done()` case. -/
  | pingLoop (tick : Option Int64)
  | statsLoop
  | stdinLoop
  deriving DecidableEq, Repr

/-- The state `Run` starts its goroutines in: connected, with `setState`
done, every goroutine at the top of its function. -/
def start (codec : Codec) (capture : Option Bool) (statsInterval : Bool) (peerAddr : UDPAddr) :
    Bridge where
  codec := codec
  ctxCancelled := false
  doneClosed := false
  doneOnceFired := false
  capture := capture
  transportClosed := false
  connected := true
  peerAddr := some peerAddr
  state := .connected
  framesToSend := []
  framesToInject := []
  pendingPing := 0
  missedPongs := 0
  stats := Stats.Kept.zero
  lastRTT := 0
  recvBuf := List.replicate recvBufferSize 0
  wire := []
  injected := []
  crash := none
  run := .waiting
  captureLoop := .awaitReady
  sendLoop := .select
  recvLoop := .top
  injectLoop := .awaitReady
  pingLoop := .select
  statsLoop := if statsInterval then .running else .absent
  stdinLoop := .running

/-! ## Shared operations -/

/-- `close(b.done)`: a panic if it is closed already. -/
def closeDone (b : Bridge) : Bridge :=
  if b.doneClosed then { b with crash := some .closeOfClosedChannel }
  else { b with doneClosed := true }

/-- `b.doneOnce.Do(func() { close(b.done) })`. -/
def closeDoneOnce (b : Bridge) : Bridge :=
  if b.doneOnceFired then b else closeDone { b with doneOnceFired := true }

/-- `transport.Send`: nothing is written once the transport is closed or not
connected. -/
def transportSend (b : Bridge) (datagram : List UInt8) : Bridge :=
  if b.transportClosed || !b.connected then b else { b with wire := b.wire ++ [datagram] }

/-- A send on a buffered channel with a `default`: dropped when full. -/
def offer {α : Type} (queue : List α) (item : α) : List α :=
  if queue.length < channelBufferSize then queue ++ [item] else queue

/-- Every goroutine `wg` waits for has returned. -/
def allStopped (b : Bridge) : Bool :=
  b.captureLoop == .finished && b.sendLoop == .finished && b.recvLoop == .finished &&
    b.injectLoop == .finished && b.pingLoop == .finished && b.statsLoop != .running &&
    b.stdinLoop != .running

/-! ## Handlers -/

/-- `handleFrame`: a non-blocking send on `framesToInject`. -/
def handleFrame (b : Bridge) (frame : Buffer.Slice) : Bridge :=
  { b with framesToInject := offer b.framesToInject frame }

/-- `handlePong`: a PONG echoing the pending PING clears it and the count of
missed PONGs, and its round-trip time, `now` less the timestamp, is added to
the statistics after the last one is kept as `lastRTT`. -/
def handlePong (b : Bridge) (timestamp now : Int64) : Bridge :=
  if b.pendingPing = 0 then b
  else if timestamp ≠ b.pendingPing then b
  else
    let rtt := now - timestamp
    { b with pendingPing := 0, missedPongs := 0, lastRTT := b.stats.stats.rttCurrent,
             stats := b.stats.addRTTSample rtt }

/-- `handleBye`. -/
def handleBye (b : Bridge) : Bridge := closeDoneOnce { b with state := .disconnected }

section Mac

variable (mac : Mac hmacSize)

/-- The `switch` of `recvLoop` on a decoded message; `frame` is where its
payload lies in `buf`, which `msg.Frame` is a slice of. -/
def dispatch (b : Bridge) (message : Message) (frame : Buffer.Slice) (now : Int64) : Bridge :=
  if message.type = msgFrame then { handleFrame b frame with recvLoop := .top }
  else if message.type = msgPing then
    -- `handlePing`: the PONG is encoded here and sent in the next step.
    let (pong, codec) := b.codec.encodePong mac message.timestamp
    { b with codec := codec, recvLoop := .sendPong pong }
  else if message.type = msgPong then { handlePong b message.timestamp now with recvLoop := .top }
  else if message.type = msgBye then { handleBye b with recvLoop := .top }
  else { b with recvLoop := .top }

/-- The body of `sendPing` on a tick. -/
def sendPing (b : Bridge) (timestamp : Int64) : Bridge :=
  let fresh (b : Bridge) : Bridge :=
    let (ping, codec) := b.codec.encodePing mac timestamp
    { b with pendingPing := timestamp, codec := codec, pingLoop := .sendPing ping }
  if b.pendingPing ≠ 0 then
    let missed := b.missedPongs + 1
    -- The untyped constant is compared as an `int32`.
    if Int32.ofNat maxMissedPongs ≤ missed then
      { closeDoneOnce { b with missedPongs := missed, state := .disconnected } with
        pingLoop := .select }
    else fresh { b with missedPongs := missed }
  else fresh b

/-! ## Steps -/

/-- One step of `Run`. -/
def runStep (b : Bridge) : Option Bridge :=
  match b.run with
  | .waiting => if b.ctxCancelled || b.doneClosed then some { b with run := .deciding } else none
  | .deciding =>
      if b.doneClosed then some { b with run := .closeTransport true }
      else some { b with run := .sendBye }
  | .sendBye =>
      if !b.connected || b.transportClosed then some { b with run := .closeDone }
      else
        let (bye, codec) := b.codec.encodeBye mac
        some { b with codec := codec, run := .writeBye bye }
  | .writeBye bye => some { b with wire := b.wire ++ [bye], run := .closeDone }
  | .closeDone => some { closeDone b with run := .closeTransport false }
  | .closeTransport peer =>
      some { b with transportClosed := true, connected := false, run := .closeCapture peer }
  | .closeCapture peer =>
      some { b with capture := b.capture.map fun _ => false, run := .wait peer }
  | .wait peer =>
      if b.allStopped then some { b with state := .disconnected, run := .returned peer }
      else none
  | .returned _ => none

/-- One step of `captureLoop`. -/
def captureStep (b : Bridge) (stop : Bool) (packet : Option (List UInt8)) : Option Bridge :=
  match b.captureLoop with
  | .awaitReady =>
      if stop then (if b.ctxCancelled then some { b with captureLoop := .finished } else none)
      else if b.capture.isSome then some { b with captureLoop := .top } else none
  | .top =>
      if b.ctxCancelled then some { b with captureLoop := .finished }
      else some { b with captureLoop := .read }
  | .read =>
      match b.capture with
      | none => some { b with captureLoop := .finished }
      | some false => some { b with crash := some .captureUsedAfterClose }
      | some true =>
          match packet with
          | none => some { b with captureLoop := .top }
          | some frame =>
              some { b with framesToSend := offer b.framesToSend frame, captureLoop := .top }
  | .finished => none

/-- One step of `sendLoop`. -/
def sendStep (b : Bridge) (stop : Bool) : Option Bridge :=
  match b.sendLoop with
  | .select =>
      if stop then (if b.ctxCancelled then some { b with sendLoop := .finished } else none)
      else
        match b.framesToSend with
        | [] => none
        | frame :: rest =>
            match b.codec.encodeFrame mac frame with
            | .error _ => some { b with framesToSend := rest }
            | .ok (datagram, codec) =>
                some { b with framesToSend := rest, codec := codec, sendLoop := .send datagram }
  | .send datagram => some { transportSend b datagram with sendLoop := .select }
  | .finished => none

/-- One step of `recvLoop`. -/
def recvStep (b : Bridge) (input : RecvInput) : Option Bridge :=
  match b.recvLoop with
  | .top =>
      if b.ctxCancelled then some { b with recvLoop := .finished }
      else some { b with recvLoop := .read }
  | .read =>
      -- A closed transport makes `Recv` return `ErrClosed`, which is not a timeout.
      let failed : Bridge :=
        if b.ctxCancelled then { b with recvLoop := .finished } else { b with recvLoop := .top }
      if b.transportClosed then some failed
      else
        match input with
        | .timeout => some { b with recvLoop := .top }
        | .readError => some failed
        | .datagram source bytes now =>
            -- `ReadFromUDP` fills `buf` before the source is checked.
            let b := { b with recvBuf := Buffer.overwrite b.recvBuf bytes }
            if b.peerAddr.isSome && !addrEqual (some source) b.peerAddr then
              some { b with recvLoop := .top }
            else
              match b.codec.Decode mac bytes with
              | (.error _, codec) => some { b with codec := codec, recvLoop := .top }
              | (.ok message, codec) =>
                  some (dispatch mac { b with codec := codec } message
                    (b.codec.payloadSlice bytes.length) now)
  | .sendPong pong => some { transportSend b pong with recvLoop := .top }
  | .finished => none

/-- One step of `injectLoop`. -/
def injectStep (b : Bridge) (stop : Bool) : Option Bridge :=
  match b.injectLoop with
  | .awaitReady =>
      if stop then (if b.ctxCancelled then some { b with injectLoop := .finished } else none)
      else if b.capture.isSome then some { b with injectLoop := .select } else none
  | .select =>
      if stop then (if b.ctxCancelled then some { b with injectLoop := .finished } else none)
      else
        match b.framesToInject with
        | [] => none
        | frame :: rest =>
            let b := { b with framesToInject := rest }
            -- `WritePacket` writes what `buf` holds under the slice now.
            let bytes := frame.read b.recvBuf
            match b.capture with
            | none => some b
            | some isOpen =>
                if bytes.length < 14 then some b
                else if isOpen then some { b with injected := b.injected ++ [bytes] }
                else some { b with crash := some .captureUsedAfterClose }
  | .finished => none

/-- One step of `pingLoop`. -/
def pingStep (b : Bridge) (tick : Option Int64) : Option Bridge :=
  match b.pingLoop with
  | .select =>
      match tick with
      | none => if b.ctxCancelled then some { b with pingLoop := .finished } else none
      | some timestamp => some (sendPing mac b timestamp)
  | .sendPing ping => some { transportSend b ping with pingLoop := .select }
  | .finished => none

/-- A step of `statsLoop` or `stdinLoop`: only the `ctx.Done()` case changes
anything this model keeps. -/
def loopStep (b : Bridge) (pc : LoopPc) : Option LoopPc :=
  if pc = .running ∧ b.ctxCancelled then some .finished else none

/-- One step of the system. -/
def step (b : Bridge) (action : Action) : Option Bridge :=
  if b.crash.isSome then none
  else
    match action with
    | .cancel => if b.ctxCancelled then none else some { b with ctxCancelled := true }
    | .setCapture => if b.capture.isSome then none else some { b with capture := some true }
    | .run => runStep mac b
    | .captureLoop stop packet => captureStep b stop packet
    | .sendLoop stop => sendStep mac b stop
    | .recvLoop input => recvStep mac b input
    | .injectLoop stop => injectStep b stop
    | .pingLoop tick => pingStep mac b tick
    | .statsLoop => (loopStep b b.statsLoop).map fun pc => { b with statsLoop := pc }
    | .stdinLoop => (loopStep b b.stdinLoop).map fun pc => { b with stdinLoop := pc }

end Mac

end Bridge

end XbsLink
