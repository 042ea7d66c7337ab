import XbsLink.Bridge.Sessions
import XbsLink.Bridge.Shutdown

/-!
# The `state_changed` events of a bridge

`setState` swaps the state under `stateMu` and emits a `state_changed` event
after unlocking, when the state it replaced differs from the new one; the
event names the new state, and on CONNECTED also the transport's peer
address.  Whether to emit is decided inside the lock, so of the three callers
that can set DISCONNECTED concurrently (`handleBye` in `recvLoop`, the
unresponsive-peer branch of `sendPing` in `pingLoop`, and `Run`'s own
cleanup) only the first one emits.  Every other emission of a bridge happens
in `Run` before its goroutines start, so the events come out in the order the
state changes.

A bridge starts in DISCONNECTED (`New`).  `Run` sets CONNECTING, and
CONNECTED once the connection phase succeeds; after that every step of the
goroutines keeps the state or sets DISCONNECTED (`step_state`).  So the events
of one bridge are a prefix of CONNECTING, CONNECTED, DISCONNECTED
(`sessionEvents_prefix`).
-/

namespace XbsLink

open Protocol Transport

namespace Bridge

/-- The data of a `state_changed` event: the state, and with CONNECTED the
transport's peer address. -/
structure StateChanged where
  state : State
  peerAddr : Option UDPAddr
  deriving DecidableEq, Repr

/-- What `setState` emits on moving from `prev` to `state`. -/
def setStateEvents (prev state : State) (peerAddr : Option UDPAddr) : List StateChanged :=
  if prev ≠ state then [⟨state, if state = .connected then peerAddr else none⟩] else []

/-- The event for reaching the state of `b`. -/
def stateChanged (b : Bridge) : StateChanged :=
  ⟨b.state, if b.state = .connected then b.peerAddr else none⟩

section Mac

variable (mac : Mac hmacSize)

/-- The events of `Run`'s goroutines along a run: one for each step that
changes the state. -/
def runEvents (b : Bridge) (actions : List Action) : Option (List StateChanged) :=
  (Trace.changes (step mac) Bridge.state b actions).map (List.map stateChanged)

/-- The events of one `Run` from `New`'s DISCONNECTED: CONNECTING, and when
the connection phase succeeds, CONNECTED and the goroutines' events. -/
def sessionEvents (result : Option (Except TransportError Unit × Transport))
    (capture : Option Bool) (statsInterval : Bool) (actions : List Action) :
    Option (List StateChanged) :=
  let connecting := setStateEvents .disconnected .connecting none
  match result with
  | some (.ok (), t) =>
      match t.peerAddr with
      | none => none
      | some peer =>
          (runEvents mac (start t.codec capture statsInterval peer) actions).map fun later =>
            connecting ++ setStateEvents .connecting .connected (some peer) ++ later
  | _ => some connecting

end Mac

/-! ## Each step sets DISCONNECTED or leaves the state alone -/

section Steps

variable {mac : Mac hmacSize} {b b' : Bridge}

theorem runStep_state (stepped : runStep mac b = some b') :
    b'.state = b.state ∨ b'.state = .disconnected := by
  rcases runStep_cases stepped with
    ⟨-, -, rfl⟩ | ⟨-, -, rfl⟩ | ⟨-, -, rfl⟩ | ⟨-, -, rfl⟩ | ⟨-, -, -, rfl⟩ |
    ⟨bye, -, rfl⟩ | ⟨-, rfl⟩ | ⟨peer, -, rfl⟩ | ⟨peer, -, rfl⟩ | ⟨peer, -, -, rfl⟩
  all_goals simp [closeDone_eq]

theorem captureStep_state {stop : Bool} {packet : Option (List UInt8)}
    (stepped : captureStep b stop packet = some b') : b'.state = b.state := by
  rcases captureStep_cases stepped with
    ⟨-, -, -, rfl⟩ | ⟨-, -, -, rfl⟩ | ⟨-, -, rfl⟩ | ⟨-, -, rfl⟩ | ⟨-, -, rfl⟩ | ⟨-, -, rfl⟩ |
    ⟨-, -, -, rfl⟩ | ⟨frame, -, -, -, rfl⟩ <;>
  rfl

theorem sendStep_state {stop : Bool} (stepped : sendStep mac b stop = some b') :
    b'.state = b.state := by
  rcases sendStep_cases stepped with
    ⟨-, -, -, rfl⟩ | ⟨frame, rest, e, -, -, -, -, rfl⟩ |
    ⟨frame, rest, datagram, codec, -, -, -, -, rfl⟩ | ⟨datagram, -, rfl⟩
  all_goals simp [transportSend_eq]

theorem injectStep_state {stop : Bool} (stepped : injectStep b stop = some b') :
    b'.state = b.state := by
  rcases injectStep_cases stepped with
    ⟨-, -, -, rfl⟩ | ⟨-, -, -, rfl⟩ | ⟨frame, rest, -, -, -, -, rfl⟩ |
    ⟨frame, rest, -, -, -, -, -, rfl⟩ | ⟨frame, rest, -, -, -, -, -, rfl⟩ <;>
  rfl

/-- Of the message handlers only `handleBye` sets the state. -/
theorem dispatch_state (b : Bridge) (message : Message) (frame : Buffer.Slice) (now : Int64) :
    (dispatch mac b message frame now).state = b.state ∨
      (dispatch mac b message frame now).state = .disconnected := by
  rcases @dispatch_cases mac b message frame now with
    ⟨-, dispatched⟩ | ⟨-, dispatched⟩ | ⟨-, dispatched⟩ | ⟨-, dispatched⟩ | ⟨-, dispatched⟩ <;>
    rw [dispatched]
  · exact .inl rfl
  · exact .inl rfl
  · exact .inl (by rw [handlePong_eq])
  · exact .inr (by rw [handleBye, closeDoneOnce_eq])
  · exact .inl rfl

theorem recvStep_state {input : RecvInput} (stepped : recvStep mac b input = some b') :
    b'.state = b.state ∨ b'.state = .disconnected := by
  rcases recvStep_cases stepped with
    ⟨-, -, rfl⟩ | ⟨-, -, rfl⟩ | ⟨-, -, -, rfl⟩ | ⟨-, rfl⟩ | ⟨source, bytes, now, -, -, rfl⟩ |
    ⟨source, bytes, now, e, codec, -, -, -, rfl⟩ |
    ⟨source, bytes, now, message, codec, -, -, -, -, -, rfl⟩ | ⟨pong, -, rfl⟩
  · exact .inl rfl
  · exact .inl rfl
  · exact .inl rfl
  · exact .inl rfl
  · exact .inl rfl
  · exact .inl rfl
  · exact dispatch_state _ message _ now
  · exact .inl (by simp [transportSend_eq])

/-- `sendPing` sets DISCONNECTED when it gives up, and nothing else. -/
theorem pingStep_state {tick : Option Int64} (stepped : pingStep mac b tick = some b') :
    b'.state = b.state ∨ b'.state = .disconnected := by
  rcases pingStep_cases stepped with ⟨-, -, -, rfl⟩ | ⟨timestamp, -, -, rfl⟩ | ⟨ping, -, rfl⟩
  · exact .inl rfl
  · rcases @sendPing_cases mac b timestamp with ⟨-, -, pinged⟩ | pinged <;> rw [pinged]
    · exact .inr (by rw [closeDoneOnce_eq])
    · exact .inl rfl
  · exact .inl (by simp [transportSend_eq])

/-- The step lemma: every step keeps the state or sets DISCONNECTED. -/
theorem step_state {action : Action} (stepped : step mac b action = some b') :
    b'.state = b.state ∨ b'.state = .disconnected := by
  obtain ⟨-, stepped⟩ := step_cases stepped
  cases action with
  | cancel | setCapture =>
      obtain ⟨-, rfl⟩ := stepped
      exact .inl rfl
  | run => exact runStep_state stepped
  | captureLoop => exact .inl (captureStep_state stepped)
  | sendLoop => exact .inl (sendStep_state stepped)
  | recvLoop => exact recvStep_state stepped
  | injectLoop => exact .inl (injectStep_state stepped)
  | pingLoop => exact pingStep_state stepped
  | statsLoop | stdinLoop =>
      obtain ⟨-, -, rfl⟩ := stepped
      exact .inl rfl

end Steps

/-! ## Over a run -/

section Runs

variable {mac : Mac hmacSize}

/-- The only change of state the goroutines make leads to DISCONNECTED. -/
def IntoDisconnected (prev state : State) : Prop := prev ≠ .disconnected ∧ state = .disconnected

theorem state_moves (b : Bridge) (action : Action) (b' : Bridge)
    (stepped : step mac b action = some b') (changed : b'.state ≠ b.state) :
    IntoDisconnected b.state b'.state := by
  rcases step_state stepped with same | disconnected
  · exact absurd same changed
  · exact ⟨fun before => changed (disconnected.trans before.symm), disconnected⟩

/-- The goroutines emit at most one event, DISCONNECTED. -/
theorem runEvents_eq {b : Bridge} {actions : List Action}
    {events : List StateChanged} (emitted : runEvents mac b actions = some events) :
    events = [] ∨ events = [⟨.disconnected, none⟩] := by
  obtain ⟨later, ran, rfl⟩ := Option.map_eq_some_iff.mp emitted
  have chained := Trace.changes_isChain (r := IntoDisconnected) state_moves ran
  match later, chained with
  | [], _ => exact .inl rfl
  | [after], chained =>
      obtain ⟨-, disconnected⟩ := List.isChain_cons_cons.mp chained |>.1
      right
      simp [stateChanged, disconnected]
  | first :: second :: rest, chained =>
      obtain ⟨-, intoSecond⟩ := List.isChain_cons_cons.mp chained
      obtain ⟨⟨leaves, -⟩, -⟩ := List.isChain_cons_cons.mp intoSecond
      exact absurd (List.isChain_cons_cons.mp chained).1.2 leaves

/-- Every bridge's `state_changed` events, over every result of the
connection phase and every interleaving of the goroutines `Run` starts:
CONNECTING alone, or CONNECTING and CONNECTED with the transport's peer
address, possibly followed by one DISCONNECTED. -/
theorem sessionEvents_prefix (mac : Mac hmacSize)
    (result : Option (Except TransportError Unit × Transport)) (capture : Option Bool)
    (statsInterval : Bool) (actions : List Action) {events : List StateChanged}
    (emitted : sessionEvents mac result capture statsInterval actions = some events) :
    events = [⟨.connecting, none⟩] ∨
      ∃ t peer, result = some (.ok (), t) ∧ t.peerAddr = some peer ∧
        (events = [⟨.connecting, none⟩, ⟨.connected, some peer⟩] ∨
          events = [⟨.connecting, none⟩, ⟨.connected, some peer⟩, ⟨.disconnected, none⟩]) := by
  unfold sessionEvents at emitted
  rcases result with _ | ⟨_ | ⟨⟩, t⟩
  · cases emitted
    exact .inl rfl
  · cases emitted
    exact .inl rfl
  · cases dialed : t.peerAddr with
    | none => simp [dialed] at emitted
    | some peer =>
        simp only [dialed] at emitted
        obtain ⟨later, ran, rfl⟩ := Option.map_eq_some_iff.mp emitted
        refine .inr ⟨t, peer, rfl, dialed, ?_⟩
        rcases runEvents_eq ran with rfl | rfl
        · exact .inl rfl
        · exact .inr rfl

/-- A connector's transport after `Connect` returned nil, with no key. -/
def dialer : Transport :=
  { mode := .connect, codec := newCodec [], peerAddr := some remotePeer, challenge := [],
    connected := true, sent := [] }

/-- All three callers set DISCONNECTED: `sendPing` gives up on its fourth tick,
a BYE arrives, and after the application shuts down and every goroutine has
returned, `Run` sets it once more. -/
def allDisconnect : List Action :=
  [.pingLoop (some 1), .pingLoop none, .pingLoop (some 2), .pingLoop none, .pingLoop (some 3),
    .pingLoop none, .pingLoop (some 4),
    .recvLoop .timeout, .recvLoop (.datagram remotePeer [msgBye] 0),
    .run, .run, .run, .run,
    .cancel, .captureLoop true none, .sendLoop true, .recvLoop .timeout, .injectLoop true,
    .pingLoop none, .stdinLoop, .run]

theorem sessionEvents_prefix_allDisconnect :
    [⟨.connecting, none⟩, ⟨.connected, some remotePeer⟩, ⟨.disconnected, none⟩] =
        [(⟨.connecting, none⟩ : StateChanged)] ∨
      ∃ t peer, (some (.ok (), dialer) : Option (Except TransportError Unit × Transport)) =
          some (.ok (), t) ∧ t.peerAddr = some peer ∧
        ([⟨.connecting, none⟩, ⟨.connected, some remotePeer⟩, ⟨.disconnected, none⟩] =
            [(⟨.connecting, none⟩ : StateChanged), ⟨.connected, some peer⟩] ∨
          [⟨.connecting, none⟩, ⟨.connected, some remotePeer⟩, ⟨.disconnected, none⟩] =
            [(⟨.connecting, none⟩ : StateChanged), ⟨.connected, some peer⟩,
              ⟨.disconnected, none⟩]) :=
  sessionEvents_prefix hmacSha256 (some (.ok (), dialer)) (some true) false allDisconnect (by decide)

end Runs

end Bridge

end XbsLink
