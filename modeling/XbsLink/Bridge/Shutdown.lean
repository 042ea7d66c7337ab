import XbsLink.Bridge.Steps

/-!
# Shutdown of `Bridge.Run`

`Run` waits for `ctx.Done()` or `b.done`.  On the peer-disconnect path (a
BYE, or three missed PONGs, closed `done`) it closes the transport and the
capture and waits for its goroutines; on the application-shutdown path it
sends a BYE, closes `done` itself and does the same.  Three things go wrong:

* every loop leaves only on `ctx.Done()`, and `runBridge` cancels the context
  only after `Run` returns, so on the peer-disconnect path `wg.Wait()` never
  returns (`Running` is the invariant of every run without a cancellation);
* `captureLoop` keeps calling `ReadPacket` on the capture `Run` has just
  closed;
* `Run` closes `done` directly, not through `doneOnce`, so a BYE that
  `recvLoop` read before the context was cancelled closes it a second time.
-/

namespace XbsLink

open Protocol Transport

namespace Bridge

/-- Nothing has cancelled the context, no goroutine has returned and `Run`
has not returned.  A `captureLoop` past `captureReady` has a capture. -/
structure Running (b : Bridge) : Prop where
  notCancelled : b.ctxCancelled = false
  notReturned : ∀ peer, b.run ≠ .returned peer
  capture : b.captureLoop ≠ .finished
  captureSet : b.captureLoop = .top ∨ b.captureLoop = .read → b.capture.isSome = true
  send : b.sendLoop ≠ .finished
  recv : b.recvLoop ≠ .finished
  inject : b.injectLoop ≠ .finished
  ping : b.pingLoop ≠ .finished
  stats : b.statsLoop ≠ .finished
  stdin : b.stdinLoop = .running

variable {mac : Mac hmacSize} {b b' : Bridge}

theorem Running.runStep (running : Running b) (stepped : runStep mac b = some b') : Running b' := by
  rcases runStep_cases stepped with
    ⟨-, -, rfl⟩ | ⟨-, -, rfl⟩ | ⟨-, -, rfl⟩ | ⟨-, -, rfl⟩ | ⟨-, -, -, rfl⟩ | ⟨bye, -, rfl⟩ |
    ⟨-, rfl⟩ | ⟨peer, -, rfl⟩ | ⟨peer, -, rfl⟩ | ⟨peer, -, stopped, rfl⟩
  · exact { running with notReturned := fun _ => by simp }
  · exact { running with notReturned := fun _ => by simp }
  · exact { running with notReturned := fun _ => by simp }
  · exact { running with notReturned := fun _ => by simp }
  · exact { running with notReturned := fun _ => by simp }
  · exact { running with notReturned := fun _ => by simp }
  · rw [closeDone_eq]
    exact { running with notReturned := fun _ => by simp }
  · exact { running with notReturned := fun _ => by simp }
  · exact { running with
      notReturned := fun _ => by simp
      captureSet := fun atLoop => by simpa using running.captureSet atLoop }
  · simp [allStopped, running.stdin] at stopped

theorem Running.captureStep (running : Running b) {stop : Bool} {packet : Option (List UInt8)}
    (stepped : captureStep b stop packet = some b') : Running b' := by
  rcases captureStep_cases stepped with
    ⟨-, -, cancelled, rfl⟩ | ⟨-, -, set, rfl⟩ | ⟨-, cancelled, rfl⟩ | ⟨atTop, -, rfl⟩ |
    ⟨atRead, unset, rfl⟩ | ⟨-, -, rfl⟩ | ⟨atRead, -, -, rfl⟩ | ⟨frame, atRead, -, -, rfl⟩
  · simp [running.notCancelled] at cancelled
  · exact { running with capture := by simp, captureSet := fun _ => set }
  · simp [running.notCancelled] at cancelled
  · exact { running with capture := by simp, captureSet := fun _ => running.captureSet (.inl atTop) }
  · simpa [unset] using running.captureSet (.inr atRead)
  · exact { running with }
  · exact { running with capture := by simp, captureSet := fun _ => running.captureSet (.inr atRead) }
  · exact { running with capture := by simp, captureSet := fun _ => running.captureSet (.inr atRead) }

theorem Running.sendStep (running : Running b) {stop : Bool} (stepped : sendStep mac b stop = some b') :
    Running b' := by
  rcases sendStep_cases stepped with
    ⟨-, -, cancelled, rfl⟩ | ⟨frame, rest, e, -, -, -, -, rfl⟩ |
    ⟨frame, rest, datagram, codec, -, -, -, -, rfl⟩ | ⟨datagram, -, rfl⟩
  · simp [running.notCancelled] at cancelled
  · exact { running with }
  · exact { running with send := by simp }
  · rw [transportSend_eq]
    exact { running with send := by simp }

theorem Running.dispatch (running : Running b) (message : Message) (frame : Buffer.Slice)
    (now : Int64) : Running (dispatch mac b message frame now) := by
  rcases @dispatch_cases mac b message frame now with
    ⟨-, dispatched⟩ | ⟨-, dispatched⟩ | ⟨-, dispatched⟩ | ⟨-, dispatched⟩ | ⟨-, dispatched⟩ <;>
    rw [dispatched]
  · exact { running with recv := by simp }
  · exact { running with recv := by simp }
  · rw [handlePong_eq]
    exact { running with recv := by simp }
  · rw [handleBye, closeDoneOnce_eq]
    exact { running with recv := by simp }
  · exact { running with recv := by simp }

theorem Running.recvStep (running : Running b) {input : RecvInput}
    (stepped : recvStep mac b input = some b') : Running b' := by
  rcases recvStep_cases stepped with
    ⟨-, cancelled, rfl⟩ | ⟨-, -, rfl⟩ | ⟨-, cancelled, -, rfl⟩ | ⟨-, rfl⟩ |
    ⟨source, bytes, now, -, -, rfl⟩ | ⟨source, bytes, now, e, codec, -, -, -, rfl⟩ |
    ⟨source, bytes, now, message, codec, -, -, -, -, -, rfl⟩ | ⟨pong, -, rfl⟩
  · simp [running.notCancelled] at cancelled
  · exact { running with recv := by simp }
  · simp [running.notCancelled] at cancelled
  · exact { running with recv := by simp }
  · exact { running with recv := by simp }
  · exact { running with recv := by simp }
  · have decoded : Running { b with codec := codec, recvBuf := Buffer.overwrite b.recvBuf bytes } :=
      { running with }
    exact decoded.dispatch message _ now
  · rw [transportSend_eq]
    exact { running with recv := by simp }

theorem Running.injectStep (running : Running b) {stop : Bool} (stepped : injectStep b stop = some b') :
    Running b' := by
  rcases injectStep_cases stepped with
    ⟨-, -, cancelled, rfl⟩ | ⟨-, -, -, rfl⟩ | ⟨frame, rest, -, -, -, -, rfl⟩ |
    ⟨frame, rest, -, -, -, -, -, rfl⟩ | ⟨frame, rest, -, -, -, -, -, rfl⟩
  · simp [running.notCancelled] at cancelled
  · exact { running with inject := by simp }
  · exact { running with }
  · exact { running with }
  · exact { running with }

theorem Running.sendPing (running : Running b) (timestamp : Int64) :
    Running (sendPing mac b timestamp) := by
  rcases @sendPing_cases mac b timestamp with ⟨-, -, pinged⟩ | pinged <;> rw [pinged]
  · rw [closeDoneOnce_eq]
    exact { running with ping := by simp }
  · exact { running with ping := by simp }

theorem Running.pingStep (running : Running b) {tick : Option Int64}
    (stepped : pingStep mac b tick = some b') : Running b' := by
  rcases pingStep_cases stepped with ⟨-, -, cancelled, rfl⟩ | ⟨timestamp, -, -, rfl⟩ | ⟨ping, -, rfl⟩
  · simp [running.notCancelled] at cancelled
  · exact running.sendPing timestamp
  · rw [transportSend_eq]
    exact { running with ping := by simp }

/-- A step other than the cancellation keeps the system `Running`: the
goroutines' own exits all need a cancelled context, and `Run` returns only
from `wg.Wait()`, which needs `stdinLoop` to have returned. -/
theorem Running.step (running : Running b) {action : Action} (notCancel : action ≠ .cancel)
    (stepped : step mac b action = some b') : Running b' := by
  obtain ⟨-, stepped⟩ := step_cases stepped
  cases action with
  | cancel => exact absurd rfl notCancel
  | setCapture =>
      obtain ⟨-, rfl⟩ := stepped
      exact { running with captureSet := fun _ => rfl }
  | run => exact running.runStep stepped
  | captureLoop => exact running.captureStep stepped
  | sendLoop => exact running.sendStep stepped
  | recvLoop => exact running.recvStep stepped
  | injectLoop => exact running.injectStep stepped
  | pingLoop => exact running.pingStep stepped
  | statsLoop | stdinLoop =>
      obtain ⟨-, cancelled, -⟩ := stepped
      simp [running.notCancelled] at cancelled

theorem running_preserved : Trace.Preserved (step mac) (· ≠ .cancel) Running :=
  fun _ _ _ notCancel running stepped => running.step notCancel stepped

theorem running_start (codec : Codec) (capture : Option Bool) (statsInterval : Bool)
    (peerAddr : UDPAddr) : Running (start codec capture statsInterval peerAddr) where
  notCancelled := rfl
  notReturned := fun _ => by simp [start]
  capture := by simp [start]
  captureSet := by simp [start]
  send := by simp [start]
  recv := by simp [start]
  inject := by simp [start]
  ping := by simp [start]
  stats := by cases statsInterval <;> simp [start]
  stdin := rfl

theorem Running.allStopped_eq_false (running : Running b) : b.allStopped = false := by
  simp [allStopped, running.stdin]

/-- The run lemma of `Running`: every run from `start` without a cancellation
keeps every goroutine running. -/
theorem running_of_exec {codec : Codec} {capture : Option Bool} {statsInterval : Bool}
    {peerAddr : UDPAddr} {actions : List Action}
    (ran : Trace.exec (step mac) (start codec capture statsInterval peerAddr) actions = some b)
    (notCancelled : .cancel ∉ actions) : Running b :=
  running_preserved.exec (running_start _ _ _ _)
    (fun _ member cancel => notCancelled (cancel ▸ member)) ran

/-- `Run` returns only in a run in which the context was cancelled. -/
theorem cancel_mem_of_returned {codec : Codec} {capture : Option Bool} {statsInterval : Bool}
    {peerAddr : UDPAddr} {actions : List Action} {peer : Bool}
    (ran : Trace.exec (step mac) (start codec capture statsInterval peerAddr) actions = some b)
    (returned : b.run = .returned peer) : .cancel ∈ actions := by
  by_contra notCancelled
  exact (running_of_exec ran notCancelled).notReturned peer returned

/-! ## The peer-disconnect path -/

/-- The peer, at the address and port of the usage text of `main.go`. -/
def remotePeer : UDPAddr := ⟨[203, 0, 113, 50], 31415⟩

/-- `recvLoop` reads a BYE from the peer; `Run` sees `done` closed, closes the
transport and the capture and reaches `wg.Wait()`. -/
def byeSchedule : List Action :=
  [.recvLoop .timeout, .recvLoop (.datagram remotePeer [msgBye] 0), .run, .run, .run, .run]

theorem exec_byeSchedule_run :
    (Trace.exec (step hmacSha256) (start (newCodec []) (some true) false remotePeer)
      byeSchedule).map (fun b => (b.ctxCancelled, b.doneClosed, b.run)) =
      some (false, true, .wait true) := by
  decide

/-- After `done` is closed by a BYE, `Run` never returns and `wg.Wait()` stays
blocked for as long as nobody cancels the context: every goroutine of the
bridge leaves its loop only on `ctx.Done()`. -/
theorem run_blocked_after_bye :
    ∃ b, Trace.exec (step hmacSha256) (start (newCodec []) (some true) false remotePeer)
        byeSchedule = some b ∧ b.doneClosed = true ∧ b.run = .wait true ∧
      ∀ actions b', (∀ a ∈ actions, a ≠ .cancel) → Trace.exec (step hmacSha256) b actions = some b' →
        (∀ peer, b'.run ≠ .returned peer) ∧ b'.allStopped = false := by
  obtain ⟨b, ran, observed⟩ := Option.map_eq_some_iff.mp exec_byeSchedule_run
  simp only [Prod.mk.injEq] at observed
  obtain ⟨-, closed, waiting⟩ := observed
  have running : Running b :=
    running_preserved.exec (running_start _ _ _ _) (by decide) ran
  refine ⟨b, ran, closed, waiting, fun actions b' notCancelled ran' => ?_⟩
  have stillRunning : Running b' := running_preserved.exec running notCancelled ran'
  exact ⟨stillRunning.notReturned, stillRunning.allStopped_eq_false⟩

/-- After the same BYE, `captureLoop`, which only watches the context, leaves
its `select` and calls `ReadPacket` on the capture `Run` has closed. -/
def readAfterClose : List Action :=
  byeSchedule ++ [.captureLoop false none, .captureLoop false none, .captureLoop false none]

theorem exec_readAfterClose :
    (Trace.exec (step hmacSha256) (start (newCodec []) (some true) false remotePeer)
      readAfterClose).map (fun b => (b.ctxCancelled, b.capture, b.captureLoop, b.crash)) =
      some (false, some false, .read, some .captureUsedAfterClose) := by
  decide

/-! ## The application-shutdown path -/

/-- `recvLoop` is in `Recv` when the context is cancelled; `Run` sends its BYE
and, before it closes `done`, the peer's own BYE arrives and `handleBye`
closes `done` through `doneOnce`.  `Run`'s `close(b.done)` then panics. -/
def byeDuringShutdown : List Action :=
  [.recvLoop .timeout, .cancel, .run, .run, .run, .run,
    .recvLoop (.datagram remotePeer [msgBye] 0), .run]

theorem exec_byeDuringShutdown :
    (Trace.exec (step hmacSha256) (start (newCodec []) (some true) false remotePeer)
      byeDuringShutdown).map (fun b => (b.wire, b.doneOnceFired, b.crash)) =
      some ([[msgBye]], true, some .closeOfClosedChannel) := by
  decide

/-- The context is cancelled; `Run` sends its BYE, closes `done`, the
transport and the capture; every goroutine takes its `ctx.Done()` case and
`Run` returns `nil`. -/
def shutdownSchedule : List Action :=
  [.cancel, .run, .run, .run, .run, .run, .run, .run,
    .captureLoop true none, .sendLoop true, .recvLoop .timeout, .injectLoop true, .pingLoop none,
    .stdinLoop, .run]

theorem cancel_mem_shutdownSchedule :
    ∃ b, Trace.exec (step hmacSha256) (start (newCodec []) (some true) false remotePeer)
        shutdownSchedule = some b ∧ b.run = .returned false ∧ Action.cancel ∈ shutdownSchedule := by
  have returned : (Trace.exec (step hmacSha256) (start (newCodec []) (some true) false remotePeer)
      shutdownSchedule).map Bridge.run = some (.returned false) := by
    decide
  obtain ⟨b, ran, returned⟩ := Option.map_eq_some_iff.mp returned
  exact ⟨b, ran, returned, cancel_mem_of_returned ran returned⟩

end Bridge

end XbsLink
