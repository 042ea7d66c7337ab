import XbsLink.Bridge.Sessions
import XbsLink.Bridge.Shutdown

/-!
# The reconnection loop of `runBridge`

`runBridge` in `main.go` keeps one codec and one capture for the whole
process.  Each round of its loop makes a transport and a bridge and calls
`Run` with `connCtx`, a context derived from the application's; `connCancel`
runs only after `Run` has returned, so during `Run` only the application
cancels `connCtx`, with the `cancel` action.  When `Run` returns
`ErrPeerDisconnected` the loop resets the codec's window, waits out the
backoff in connect mode and goes round again; a shutdown of the application
ends the loop, and any other error ends the process.

`Run` returns from a started session only once its context is cancelled
(`wg.Wait()` waits for `stdinLoop`, which stops only on `ctx.Done()`), and
the connection phase never returns `ErrPeerDisconnected`.  By the time the
loop could go round again the application has shut down, so the loop never
reaches a second round (`reconnect_cons`).

Not modelled: `transport.New` and `bridge.New` failing (socket setup, address
resolution), the log lines, and the length of the backoff.
-/

namespace XbsLink

open Protocol Transport

namespace Bridge

/-- What the environment does in one round of the loop. -/
structure Round where
  /-- `appCtx.Err() != nil` at the top of the loop. -/
  cancelledBefore : Bool
  /-- What `WaitForPeer` reads, in listen mode. -/
  events : List Event
  /-- What `Connect`'s attempts find, in connect mode. -/
  attempts : List ConnectEvent
  /-- The steps taken once `Run` has started its goroutines. -/
  actions : List Action
  /-- The application shuts down after `Run` returns, before the loop looks. -/
  cancelledAfter : Bool
  /-- The application shuts down during the backoff, in connect mode. -/
  cancelledInBackoff : Bool

/-- How `runBridge` ends. -/
inductive Outcome
  /-- "Application shutting down": at the top of the loop, after `Run`, or
  during the backoff. -/
  | shutdown
  /-- `os.Exit(1)` after "Bridge error". -/
  | fatal
  /-- "Bridge stopped normally". -/
  | stopped
  deriving DecidableEq, Repr

/-- `transport.New`: the peer address is resolved in connect mode only. -/
def newTransport (mode : Mode) (peer : UDPAddr) (codec : Codec) : Transport where
  mode := mode
  codec := codec
  peerAddr := match mode with
    | .listen => none
    | .connect => some peer
  challenge := []
  connected := false
  sent := []

section Loop

variable (mac : Mac hmacSize)

/-- `Run` in a round: its connection phase by mode, then the goroutines. -/
def roundSession (mode : Mode) (peer : UDPAddr) (codec : Codec) (capture : Option Bool)
    (statsInterval : Bool) (round : Round) : Option (Except TransportError Bridge) :=
  match mode with
  | .listen =>
      listenSession mac (newTransport mode peer codec) capture statsInterval round.events
        round.actions
  | .connect =>
      connectSession mac (newTransport mode peer codec) capture statsInterval round.attempts
        round.actions

/-- The loop of `runBridge` from its top, with the codec and the capture it
keeps between rounds; `none` while it has not ended. -/
def reconnect (mode : Mode) (peer : UDPAddr) (codec : Codec) (capture : Option Bool)
    (statsInterval : Bool) : List Round → Option Outcome
  | [] => none
  | round :: rest =>
      if round.cancelledBefore then some .shutdown
      else
        match roundSession mac mode peer codec capture statsInterval round with
        | none => none
        | some (.error e) =>
            -- `Run` returns nil when its context was cancelled, and wraps any
            -- other error as "connection failed".
            if e = .cancelled ∨ round.cancelledAfter = true then some .shutdown else some .fatal
        | some (.ok b) =>
            match b.run with
            | .returned peerDisconnected =>
                if .cancel ∈ round.actions ∨ round.cancelledAfter = true then some .shutdown
                else if peerDisconnected then
                  if mode = .connect ∧ round.cancelledInBackoff = true then some .shutdown
                  -- `codec.ResetRecvNonce()`; `Run` has closed the capture.
                  else
                    reconnect mode peer b.codec.resetRecvNonce (capture.map fun _ => false)
                      statsInterval rest
                else some .stopped
            | _ => none

end Loop

section Rounds

variable {mac : Mac hmacSize}

/-- A session that reached its goroutines is a run from `start`. -/
theorem exec_of_runSession {result : Option (Except TransportError Unit × Transport)}
    {capture : Option Bool} {statsInterval : Bool} {actions : List Action} {b : Bridge}
    (session : runSession mac result capture statsInterval actions = some (.ok b)) :
    ∃ codec peer, Trace.exec (step mac) (start codec capture statsInterval peer) actions = some b := by
  unfold runSession at session
  split at session
  · cases session
  · cases session
  · split at session
    · cases session
    · obtain ⟨b', ran, same⟩ := Option.map_eq_some_iff.mp session
      cases same
      exact ⟨_, _, ran⟩

theorem exec_of_roundSession {mode : Mode} {peer : UDPAddr} {codec : Codec}
    {capture : Option Bool} {statsInterval : Bool} {round : Round} {b : Bridge}
    (session : roundSession mac mode peer codec capture statsInterval round = some (.ok b)) :
    ∃ codec' peer', Trace.exec (step mac) (start codec' capture statsInterval peer') round.actions =
      some b := by
  cases mode with
  | listen => exact exec_of_runSession session
  | connect => exact exec_of_runSession session

/-- The loop never goes round: whatever the environment does in later rounds,
`runBridge` ends, or waits, as its first round decides. -/
theorem reconnect_cons (mode : Mode) (peer : UDPAddr) (codec : Codec) (capture : Option Bool)
    (statsInterval : Bool) (round : Round) (rest : List Round) :
    reconnect mac mode peer codec capture statsInterval (round :: rest) =
      reconnect mac mode peer codec capture statsInterval [round] := by
  rw [reconnect, reconnect]
  by_cases cancelledBefore : round.cancelledBefore = true
  · rw [if_pos cancelledBefore, if_pos cancelledBefore]
  rw [if_neg cancelledBefore, if_neg cancelledBefore]
  cases session : roundSession mac mode peer codec capture statsInterval round with
  | none => rfl
  | some result =>
      cases result with
      | error e => rfl
      | ok b =>
          dsimp only
          cases returned : b.run with
          | returned peerDisconnected =>
              obtain ⟨codec', peer', ran⟩ := exec_of_roundSession session
              have cancelled : .cancel ∈ round.actions ∨ round.cancelledAfter = true := by
                refine .inl ?_
                by_contra notCancelled
                exact (running_of_exec ran notCancelled).notReturned _ returned
              dsimp only
              rw [if_pos cancelled, if_pos cancelled]
          | _ => rfl

end Rounds

end Bridge

end XbsLink
