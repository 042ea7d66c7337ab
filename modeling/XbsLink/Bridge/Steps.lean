import XbsLink.Bridge.Run
import XbsLink.Protocol.Receive

/-!
# What each step can do

One inversion lemma per goroutine of `Bridge.Run`: from `some b'` as the
result of a step, the guard that enabled it and the state `b'` it built, as a
record update of `b`.  Later proofs take a step apart with `rcases` on these
lemmas and never unfold the step functions.  The shared operations get
equations in record-update form, so that `simp` reads every field of their
result.
-/

namespace XbsLink

open Protocol Transport

namespace Bridge

/-! ## Shared operations as record updates -/

section Shapes

variable (b : Bridge)

theorem closeDone_eq : closeDone b =
    { b with doneClosed := true,
             crash := if b.doneClosed then some .closeOfClosedChannel else b.crash } := by
  unfold closeDone
  cases b
  split_ifs <;> simp_all

theorem closeDoneOnce_eq : closeDoneOnce b =
    { b with doneOnceFired := true, doneClosed := b.doneClosed || !b.doneOnceFired,
             crash := if !b.doneOnceFired && b.doneClosed then some .closeOfClosedChannel
               else b.crash } := by
  unfold closeDoneOnce
  rw [closeDone_eq]
  cases b
  split_ifs <;> simp_all

theorem transportSend_eq (datagram : List UInt8) : transportSend b datagram =
    { b with wire := if b.transportClosed || !b.connected then b.wire else b.wire ++ [datagram] } := by
  unfold transportSend
  split_ifs <;> rfl

theorem handlePong_eq (timestamp now : Int64) : handlePong b timestamp now =
    { b with pendingPing := if b.pendingPing ≠ 0 ∧ timestamp = b.pendingPing then 0 else b.pendingPing,
             missedPongs := if b.pendingPing ≠ 0 ∧ timestamp = b.pendingPing then 0
               else b.missedPongs,
             lastRTT := if b.pendingPing ≠ 0 ∧ timestamp = b.pendingPing then b.stats.stats.rttCurrent
               else b.lastRTT,
             stats := if b.pendingPing ≠ 0 ∧ timestamp = b.pendingPing then
                 b.stats.addRTTSample (now - timestamp)
               else b.stats } := by
  unfold handlePong
  cases b
  split_ifs <;> simp_all

end Shapes

/-! ## One lemma per goroutine -/

section Steps

variable {mac : Mac hmacSize} {b b' : Bridge}

theorem runStep_cases (stepped : runStep mac b = some b') :
    (b.run = .waiting ∧ (b.ctxCancelled = true ∨ b.doneClosed = true) ∧
        b' = { b with run := .deciding }) ∨
      (b.run = .deciding ∧ b.doneClosed = true ∧ b' = { b with run := .closeTransport true }) ∨
      (b.run = .deciding ∧ b.doneClosed = false ∧ b' = { b with run := .sendBye }) ∨
      (b.run = .sendBye ∧ (b.connected = false ∨ b.transportClosed = true) ∧
        b' = { b with run := .closeDone }) ∨
      (b.run = .sendBye ∧ b.connected = true ∧ b.transportClosed = false ∧
        b' = { b with codec := (b.codec.encodeBye mac).2,
                      run := .writeBye (b.codec.encodeBye mac).1 }) ∨
      (∃ bye, b.run = .writeBye bye ∧ b' = { b with wire := b.wire ++ [bye], run := .closeDone }) ∨
      (b.run = .closeDone ∧ b' = { closeDone b with run := .closeTransport false }) ∨
      (∃ peer, b.run = .closeTransport peer ∧
        b' = { b with transportClosed := true, connected := false, run := .closeCapture peer }) ∨
      (∃ peer, b.run = .closeCapture peer ∧
        b' = { b with capture := b.capture.map fun _ => false, run := .wait peer }) ∨
      (∃ peer, b.run = .wait peer ∧ b.allStopped = true ∧
        b' = { b with state := .disconnected, run := .returned peer }) := by
  unfold runStep at stepped
  split at stepped <;> (try split_ifs at stepped) <;> simp_all

theorem captureStep_cases {stop : Bool} {packet : Option (List UInt8)}
    (stepped : captureStep b stop packet = some b') :
    (b.captureLoop = .awaitReady ∧ stop = true ∧ b.ctxCancelled = true ∧
        b' = { b with captureLoop := .finished }) ∨
      (b.captureLoop = .awaitReady ∧ stop = false ∧ b.capture.isSome = true ∧
        b' = { b with captureLoop := .top }) ∨
      (b.captureLoop = .top ∧ b.ctxCancelled = true ∧ b' = { b with captureLoop := .finished }) ∨
      (b.captureLoop = .top ∧ b.ctxCancelled = false ∧ b' = { b with captureLoop := .read }) ∨
      (b.captureLoop = .read ∧ b.capture = none ∧ b' = { b with captureLoop := .finished }) ∨
      (b.captureLoop = .read ∧ b.capture = some false ∧
        b' = { b with crash := some .captureUsedAfterClose }) ∨
      (b.captureLoop = .read ∧ b.capture = some true ∧ packet = none ∧
        b' = { b with captureLoop := .top }) ∨
      (∃ frame, b.captureLoop = .read ∧ b.capture = some true ∧ packet = some frame ∧
        b' = { b with framesToSend := offer b.framesToSend frame, captureLoop := .top }) := by
  unfold captureStep at stepped
  split at stepped <;> (try split_ifs at stepped) <;> (try split at stepped) <;>
    (try split at stepped) <;> simp_all

theorem sendStep_cases {stop : Bool} (stepped : sendStep mac b stop = some b') :
    (b.sendLoop = .select ∧ stop = true ∧ b.ctxCancelled = true ∧
        b' = { b with sendLoop := .finished }) ∨
      (∃ frame rest e, b.sendLoop = .select ∧ stop = false ∧ b.framesToSend = frame :: rest ∧
        b.codec.encodeFrame mac frame = .error e ∧ b' = { b with framesToSend := rest }) ∨
      (∃ frame rest datagram codec, b.sendLoop = .select ∧ stop = false ∧
        b.framesToSend = frame :: rest ∧ b.codec.encodeFrame mac frame = .ok (datagram, codec) ∧
        b' = { b with framesToSend := rest, codec := codec, sendLoop := .send datagram }) ∨
      (∃ datagram, b.sendLoop = .send datagram ∧
        b' = { transportSend b datagram with sendLoop := .select }) := by
  unfold sendStep at stepped
  split at stepped <;> (try split_ifs at stepped) <;> (try split at stepped) <;>
    (try split at stepped) <;> simp_all

/-- What `dispatch` does with each type. -/
theorem dispatch_cases (b : Bridge) (message : Message) (frame : Buffer.Slice) (now : Int64) :
    (message.type = msgFrame ∧
        dispatch mac b message frame now = { handleFrame b frame with recvLoop := .top }) ∨
      (message.type = msgPing ∧
        dispatch mac b message frame now =
          { b with codec := (b.codec.encodePong mac message.timestamp).2,
                   recvLoop := .sendPong (b.codec.encodePong mac message.timestamp).1 }) ∨
      (message.type = msgPong ∧
        dispatch mac b message frame now =
          { handlePong b message.timestamp now with recvLoop := .top }) ∨
      (message.type = msgBye ∧
        dispatch mac b message frame now = { handleBye b with recvLoop := .top }) ∨
      (message.type ≠ msgPing ∧ dispatch mac b message frame now = { b with recvLoop := .top }) := by
  unfold dispatch
  split_ifs <;> simp_all

theorem recvStep_cases {input : RecvInput} (stepped : recvStep mac b input = some b') :
    (b.recvLoop = .top ∧ b.ctxCancelled = true ∧ b' = { b with recvLoop := .finished }) ∨
      (b.recvLoop = .top ∧ b.ctxCancelled = false ∧ b' = { b with recvLoop := .read }) ∨
      (b.recvLoop = .read ∧ b.ctxCancelled = true ∧
        (b.transportClosed = true ∨ input = .readError) ∧
        b' = { b with recvLoop := .finished }) ∨
      (b.recvLoop = .read ∧ b' = { b with recvLoop := .top }) ∨
      (∃ source bytes now, b.recvLoop = .read ∧ input = .datagram source bytes now ∧
        b' = { b with recvBuf := Buffer.overwrite b.recvBuf bytes, recvLoop := .top }) ∨
      (∃ source bytes now e codec, b.recvLoop = .read ∧ input = .datagram source bytes now ∧
        b.codec.Decode mac bytes = (.error e, codec) ∧
        b' = { b with codec := codec, recvBuf := Buffer.overwrite b.recvBuf bytes,
                      recvLoop := .top }) ∨
      (∃ source bytes now message codec, b.recvLoop = .read ∧ b.transportClosed = false ∧
        input = .datagram source bytes now ∧
        (b.peerAddr.isSome = true → addrEqual (some source) b.peerAddr = true) ∧
        b.codec.Decode mac bytes = (.ok message, codec) ∧
        b' = dispatch mac { b with codec := codec, recvBuf := Buffer.overwrite b.recvBuf bytes }
          message (b.codec.payloadSlice bytes.length) now) ∨
      (∃ pong, b.recvLoop = .sendPong pong ∧
        b' = { transportSend b pong with recvLoop := .top }) := by
  -- `Recv` fails on a closed transport and on a read error alike.
  have failed (returned : some (if b.ctxCancelled = true then { b with recvLoop := .finished }
      else { b with recvLoop := .top }) = some b') :
      (b.ctxCancelled = true ∧ b' = { b with recvLoop := .finished }) ∨
        b' = { b with recvLoop := .top } := by
    by_cases cancelled : b.ctxCancelled = true
    · rw [if_pos cancelled] at returned
      exact .inl ⟨cancelled, (Option.some.inj returned).symm⟩
    · rw [if_neg cancelled] at returned
      exact .inr (Option.some.inj returned).symm
  cases pc : b.recvLoop with
  | top =>
    simp only [recvStep, pc] at stepped
    by_cases cancelled : b.ctxCancelled = true
    · rw [if_pos cancelled] at stepped
      exact .inl ⟨rfl, cancelled, (Option.some.inj stepped).symm⟩
    · rw [if_neg cancelled] at stepped
      exact .inr (.inl ⟨rfl, by simpa using cancelled, (Option.some.inj stepped).symm⟩)
  | read =>
    simp only [recvStep, pc] at stepped
    by_cases closed : b.transportClosed = true
    · rw [if_pos closed] at stepped
      rcases failed stepped with ⟨cancelled, rfl⟩ | rfl
      · exact .inr (.inr (.inl ⟨rfl, cancelled, .inl closed, rfl⟩))
      · exact .inr (.inr (.inr (.inl ⟨rfl, rfl⟩)))
    · rw [if_neg closed] at stepped
      cases input <;> dsimp only at stepped
      case timeout => exact .inr (.inr (.inr (.inl ⟨rfl, (Option.some.inj stepped).symm⟩)))
      case readError =>
        rcases failed stepped with ⟨cancelled, rfl⟩ | rfl
        · exact .inr (.inr (.inl ⟨rfl, cancelled, .inr rfl, rfl⟩))
        · exact .inr (.inr (.inr (.inl ⟨rfl, rfl⟩)))
      case datagram source bytes now =>
        by_cases stranger : (b.peerAddr.isSome && !addrEqual (some source) b.peerAddr) = true
        · rw [if_pos stranger] at stepped
          exact .inr (.inr (.inr (.inr (.inl ⟨source, bytes, now, rfl, rfl,
            (Option.some.inj stepped).symm⟩))))
        · rw [if_neg stranger] at stepped
          have fromPeer : b.peerAddr.isSome = true → addrEqual (some source) b.peerAddr = true := by
            intro known
            simpa [known] using stranger
          rcases decoded : b.codec.Decode mac bytes with ⟨result, codec⟩
          rw [decoded] at stepped
          cases result with
          | error e =>
            exact .inr (.inr (.inr (.inr (.inr (.inl
              ⟨source, bytes, now, e, codec, rfl, rfl, decoded, (Option.some.inj stepped).symm⟩)))))
          | ok message =>
            exact .inr (.inr (.inr (.inr (.inr (.inr (.inl
              ⟨source, bytes, now, message, codec, rfl, by simpa using closed, rfl, fromPeer, decoded,
                (Option.some.inj stepped).symm⟩))))))
  | sendPong pong =>
    simp only [recvStep, pc] at stepped
    exact .inr (.inr (.inr (.inr (.inr (.inr (.inr ⟨pong, rfl, (Option.some.inj stepped).symm⟩))))))
  | finished =>
    simp only [recvStep, pc] at stepped
    cases stepped

theorem injectStep_cases {stop : Bool} (stepped : injectStep b stop = some b') :
    ((b.injectLoop = .awaitReady ∨ b.injectLoop = .select) ∧ stop = true ∧
        b.ctxCancelled = true ∧ b' = { b with injectLoop := .finished }) ∨
      (b.injectLoop = .awaitReady ∧ stop = false ∧ b.capture.isSome = true ∧
        b' = { b with injectLoop := .select }) ∨
      (∃ frame rest, b.injectLoop = .select ∧ stop = false ∧ b.framesToInject = frame :: rest ∧
        (b.capture = none ∨ (frame.read b.recvBuf).length < 14) ∧
        b' = { b with framesToInject := rest }) ∨
      (∃ frame rest, b.injectLoop = .select ∧ stop = false ∧ b.framesToInject = frame :: rest ∧
        b.capture = some true ∧ 14 ≤ (frame.read b.recvBuf).length ∧
        b' = { b with framesToInject := rest, injected := b.injected ++ [frame.read b.recvBuf] }) ∨
      (∃ frame rest, b.injectLoop = .select ∧ stop = false ∧ b.framesToInject = frame :: rest ∧
        b.capture = some false ∧ 14 ≤ (frame.read b.recvBuf).length ∧
        b' = { b with framesToInject := rest, crash := some .captureUsedAfterClose }) := by
  unfold injectStep at stepped
  split at stepped
  · split_ifs at stepped <;> simp_all
  · split_ifs at stepped with stopped
    · simp_all
    split at stepped
    · cases stepped
    rename_i frame rest queued
    cases hcap : b.capture with
    | none => simp_all
    | some isOpen =>
        simp only [hcap] at stepped
        by_cases short : (frame.read b.recvBuf).length < 14
        · rw [if_pos short] at stepped
          simp_all
        · rw [if_neg short] at stepped
          cases isOpen <;> simp_all
  · cases stepped

/-- What the body of `sendPing` does: give up on the third missed PONG, or
encode a new PING. -/
theorem sendPing_cases (b : Bridge) (timestamp : Int64) :
    (b.pendingPing ≠ 0 ∧ Int32.ofNat maxMissedPongs ≤ b.missedPongs + 1 ∧
        sendPing mac b timestamp =
          { closeDoneOnce { b with missedPongs := b.missedPongs + 1, state := .disconnected } with
            pingLoop := .select }) ∨
      sendPing mac b timestamp =
        { b with missedPongs := if b.pendingPing ≠ 0 then b.missedPongs + 1 else b.missedPongs,
                 pendingPing := timestamp,
                 codec := (b.codec.encodePing mac timestamp).2,
                 pingLoop := .sendPing (b.codec.encodePing mac timestamp).1 } := by
  unfold sendPing
  by_cases pending : b.pendingPing ≠ 0
  · by_cases gaveUp : Int32.ofNat maxMissedPongs ≤ b.missedPongs + 1
    · exact .inl ⟨pending, gaveUp, by rw [if_pos pending, if_pos gaveUp]⟩
    · right
      rw [if_pos pending, if_neg gaveUp]
      simp [pending]
  · right
    rw [if_neg pending]
    simp [pending]

theorem pingStep_cases {tick : Option Int64} (stepped : pingStep mac b tick = some b') :
    (b.pingLoop = .select ∧ tick = none ∧ b.ctxCancelled = true ∧
        b' = { b with pingLoop := .finished }) ∨
      (∃ timestamp, b.pingLoop = .select ∧ tick = some timestamp ∧
        b' = sendPing mac b timestamp) ∨
      (∃ ping, b.pingLoop = .sendPing ping ∧
        b' = { transportSend b ping with pingLoop := .select }) := by
  unfold pingStep at stepped
  split at stepped <;> (try split at stepped) <;> (try split_ifs at stepped) <;> simp_all

theorem loopStep_eq_some {pc pc' : LoopPc} (stepped : loopStep b pc = some pc') :
    pc = .running ∧ b.ctxCancelled = true ∧ pc' = .finished := by
  unfold loopStep at stepped
  split_ifs at stepped with running
  · cases stepped
    exact ⟨running.1, running.2, rfl⟩

/-- A step of the system: no process that crashed steps again, and each
label is its goroutine's step. -/
theorem step_cases {action : Action} (stepped : step mac b action = some b') :
    b.crash = none ∧
      match action with
      | .cancel => b.ctxCancelled = false ∧ b' = { b with ctxCancelled := true }
      | .setCapture => b.capture = none ∧ b' = { b with capture := some true }
      | .run => runStep mac b = some b'
      | .captureLoop stop packet => captureStep b stop packet = some b'
      | .sendLoop stop => sendStep mac b stop = some b'
      | .recvLoop input => recvStep mac b input = some b'
      | .injectLoop stop => injectStep b stop = some b'
      | .pingLoop tick => pingStep mac b tick = some b'
      | .statsLoop => b.statsLoop = .running ∧ b.ctxCancelled = true ∧
          b' = { b with statsLoop := .finished }
      | .stdinLoop => b.stdinLoop = .running ∧ b.ctxCancelled = true ∧
          b' = { b with stdinLoop := .finished } := by
  unfold step at stepped
  by_cases crashed : b.crash.isSome = true
  · rw [if_pos crashed] at stepped
    cases stepped
  rw [if_neg crashed] at stepped
  refine ⟨by simpa using crashed, ?_⟩
  cases action with
  | cancel =>
      by_cases cancelled : b.ctxCancelled = true
      · rw [if_pos cancelled] at stepped
        cases stepped
      · rw [if_neg cancelled] at stepped
        cases stepped
        exact ⟨by simpa using cancelled, rfl⟩
  | setCapture =>
      by_cases set : b.capture.isSome = true
      · rw [if_pos set] at stepped
        cases stepped
      · rw [if_neg set] at stepped
        cases stepped
        exact ⟨by simpa using set, rfl⟩
  | statsLoop =>
      obtain ⟨pc, stepped', rfl⟩ := Option.map_eq_some_iff.mp stepped
      obtain ⟨running, cancelled, rfl⟩ := loopStep_eq_some stepped'
      exact ⟨running, cancelled, rfl⟩
  | stdinLoop =>
      obtain ⟨pc, stepped', rfl⟩ := Option.map_eq_some_iff.mp stepped
      obtain ⟨running, cancelled, rfl⟩ := loopStep_eq_some stepped'
      exact ⟨running, cancelled, rfl⟩
  | run | captureLoop | sendLoop | recvLoop | injectLoop | pingLoop => exact stepped

end Steps

end Bridge

end XbsLink
