import XbsLink.Bridge.Shutdown
import XbsLink.Main.CommandLine

/-!
# On-demand statistics: `statsLoop`, `stdinLoop` and the stdin reader

`Run` starts `statsLoop` only when `statsInterval > 0`, and `stdinLoop`
always.  `stdinLoop` starts a goroutine that reads standard input a byte at a
time and, on `'\n'` or `'\r'`, makes a non-blocking send on the unbuffered
`inputCh`; for each signal it receives, `stdinLoop` makes a non-blocking send
on the unbuffered `b.stdinCh`; `statsLoop` runs `printStats` on each tick of
its ticker and on each signal from `stdinCh`.  A send on an unbuffered channel
with a `default` goes through only to a receiver waiting in its `select`, and
is dropped otherwise.

`Bridge` keeps of `statsLoop` and `stdinLoop` only whether they run; this
module models the three goroutines a statement a step, with the context's
cancellation, the ticks and what `os.Stdin.Read` returns as the environment's
actions.  `printStats` reads counters that nothing here changes, so a print is
counted and not formatted.  What follows:

* with `statsLoop` not started, nothing is ever printed, however often Enter
  is pressed (`printed_eq_zero_of_absent`), although the usage text of
  `main.go` promises the statistics on Enter; whether it starts is decided by
  the `--stats-interval` value, in wrapping `int64` nanoseconds
  (`statsLoop_prints_iff`);
* the prints never outnumber the ticks and the newline bytes read
  (`printed_le_owed`), so a terminal that sends `"\r\n"` for Enter can have
  one press printed twice;
* each step is a stutter of `Bridge`'s view of `statsLoop` and `stdinLoop`, or
  one of its steps (`exec_simulates`).
-/

namespace XbsLink

open Protocol Transport

namespace StatsMonitor

/-- Where `statsLoop` is; `absent` when `Run` did not start it. -/
inductive StatsPc
  | absent
  /-- In the `select` on `ctx.Done()`, `ticker.C` and `b.stdinCh`. -/
  | select
  /-- In `printStats`, after a tick or a signal. -/
  | printing
  | finished
  deriving DecidableEq, Repr

/-- Where `stdinLoop` is. -/
inductive StdinPc
  /-- In the `select` on `ctx.Done()` and `inputCh`. -/
  | select
  /-- At the non-blocking send on `b.stdinCh`. -/
  | forwarding
  | finished
  deriving DecidableEq, Repr

/-- Where the reader goroutine is. -/
inductive ReaderPc
  /-- In `os.Stdin.Read`. -/
  | reading
  /-- At the non-blocking send on `inputCh`, after a newline. -/
  | signalling
  /-- Returned on a read error. -/
  | stopped
  deriving DecidableEq, Repr

end StatsMonitor

/-- The context, where each of the three goroutines is, and how many times
`printStats` has run. -/
structure StatsMonitor where
  ctxCancelled : Bool
  statsLoop : StatsMonitor.StatsPc
  stdinLoop : StatsMonitor.StdinPc
  reader : StatsMonitor.ReaderPc
  printed : Nat
  deriving DecidableEq, Repr

namespace StatsMonitor

/-- A step: the environment's, with what it supplies, or one goroutine's
statement.  A `select` with several ready cases is decided by the label. -/
inductive Action
  /-- The application cancels the context. -/
  | cancel
  /-- `statsLoop`'s `select` takes `ctx.Done()` and returns. -/
  | statsDone
  /-- `statsLoop`'s `select` takes a tick of `ticker.C`. -/
  | tick
  /-- `printStats` returns to the `select`. -/
  | print
  /-- `stdinLoop`'s `select` takes `ctx.Done()` and returns. -/
  | stdinDone
  /-- `stdinLoop`'s send on `b.stdinCh`. -/
  | forward
  /-- `os.Stdin.Read` returns a byte, or `none` for an error. -/
  | read (byte : Option UInt8)
  /-- The reader's send on `inputCh`. -/
  | signal
  deriving DecidableEq, Repr

/-- `buf[0] == '\n' || buf[0] == '\r'`. -/
def isNewline (c : UInt8) : Bool := c == '\n'.toUInt8 || c == '\r'.toUInt8

/-- Goroutines 6 and 7 of `Run` as they start (`statsLoop` when
`statsInterval > 0`), and the reader as `stdinLoop` starts it. -/
def start (statsStarted : Bool) : StatsMonitor where
  ctxCancelled := false
  statsLoop := if statsStarted then .select else .absent
  stdinLoop := .select
  reader := .reading
  printed := 0

/-- Whether the label's goroutine stands at the statement the label runs,
with the label's case ready; a context is cancelled once. -/
def enabled (m : StatsMonitor) : Action → Bool
  | .cancel => !m.ctxCancelled
  | .statsDone => m.statsLoop == .select && m.ctxCancelled
  | .tick => m.statsLoop == .select
  | .print => m.statsLoop == .printing
  | .stdinDone => m.stdinLoop == .select && m.ctxCancelled
  | .forward => m.stdinLoop == .forwarding
  | .read _ => m.reader == .reading
  | .signal => m.reader == .signalling

/-- `select { case b.stdinCh <- struct{}{}: default: }`: the send on the
unbuffered channel goes through only to a `statsLoop` waiting in its
`select`. -/
def forward (m : StatsMonitor) : StatsMonitor :=
  if m.statsLoop = .select then { m with stdinLoop := .select, statsLoop := .printing }
  else { m with stdinLoop := .select }

/-- `select { case inputCh <- struct{}{}: default: }`, to a `stdinLoop`
waiting in its `select`. -/
def signal (m : StatsMonitor) : StatsMonitor :=
  if m.stdinLoop = .select then { m with reader := .reading, stdinLoop := .forwarding }
  else { m with reader := .reading }

/-- The reader after `os.Stdin.Read`: it returns on an error, and signals
after a newline. -/
def read (m : StatsMonitor) : Option UInt8 → StatsMonitor
  | none => { m with reader := .stopped }
  | some c => if isNewline c then { m with reader := .signalling } else m

/-- What the label's statement does. -/
def next (m : StatsMonitor) : Action → StatsMonitor
  | .cancel => { m with ctxCancelled := true }
  | .statsDone => { m with statsLoop := .finished }
  | .tick => { m with statsLoop := .printing }
  | .print => { m with statsLoop := .select, printed := m.printed + 1 }
  | .stdinDone => { m with stdinLoop := .finished }
  | .forward => m.forward
  | .read byte => m.read byte
  | .signal => m.signal

/-- One step of the three goroutines and their environment. -/
def step (m : StatsMonitor) (a : Action) : Option StatsMonitor :=
  if m.enabled a then some (m.next a) else none

variable {m m' : StatsMonitor} {a : Action}

theorem step_eq_some : m.step a = some m' ↔ m.enabled a = true ∧ m.next a = m' := by
  by_cases guard : m.enabled a = true
  · simp [step, guard]
  · simp [step, guard]

/-! ### What each send and read touches -/

section Frame

variable (m : StatsMonitor) (byte : Option UInt8)

@[simp] theorem read_ctxCancelled : (m.read byte).ctxCancelled = m.ctxCancelled := by
  cases byte with
  | none => rfl
  | some c => simp only [read]; split <;> rfl

@[simp] theorem read_statsLoop : (m.read byte).statsLoop = m.statsLoop := by
  cases byte with
  | none => rfl
  | some c => simp only [read]; split <;> rfl

@[simp] theorem read_stdinLoop : (m.read byte).stdinLoop = m.stdinLoop := by
  cases byte with
  | none => rfl
  | some c => simp only [read]; split <;> rfl

@[simp] theorem read_printed : (m.read byte).printed = m.printed := by
  cases byte with
  | none => rfl
  | some c => simp only [read]; split <;> rfl

@[simp] theorem signal_ctxCancelled : m.signal.ctxCancelled = m.ctxCancelled := by
  unfold signal; split <;> rfl

@[simp] theorem signal_statsLoop : m.signal.statsLoop = m.statsLoop := by
  unfold signal; split <;> rfl

@[simp] theorem signal_printed : m.signal.printed = m.printed := by
  unfold signal; split <;> rfl

@[simp] theorem signal_reader : m.signal.reader = .reading := by
  unfold signal; split <;> rfl

@[simp] theorem forward_ctxCancelled : m.forward.ctxCancelled = m.ctxCancelled := by
  unfold forward; split <;> rfl

@[simp] theorem forward_reader : m.forward.reader = m.reader := by
  unfold forward; split <;> rfl

@[simp] theorem forward_printed : m.forward.printed = m.printed := by
  unfold forward; split <;> rfl

@[simp] theorem forward_stdinLoop : m.forward.stdinLoop = .select := by
  unfold forward; split <;> rfl

end Frame

/-! ### Nothing is printed without `statsLoop` -/

/-- `statsLoop` was never started, and nothing has been printed. -/
def Silent (m : StatsMonitor) : Prop := m.statsLoop = .absent ∧ m.printed = 0

/-- Only `statsLoop`'s own statements move it, and none of them is enabled
while it is absent; `forward` finds no receiver. -/
theorem silent_invariant : Trace.Invariant step Silent := by
  rintro m a m' - ⟨absent, none⟩ stepped
  obtain ⟨guard, rfl⟩ := step_eq_some.mp stepped
  cases a with
  | statsDone | tick | print => simp [enabled, absent] at guard
  | forward => exact ⟨by simp [next, forward, absent], by simp [next, none]⟩
  | read _ | signal | cancel | stdinDone => exact ⟨by simp [next, absent], by simp [next, none]⟩

/-- With `statsLoop` not started (`--stats-interval 0`), no interleaving of
ticks, bytes read and cancellation ever prints the statistics. -/
theorem printed_eq_zero_of_absent {actions : List Action}
    (ran : Trace.exec step (start false) actions = some m) : m.printed = 0 :=
  (silent_invariant.exec ⟨rfl, rfl⟩ ran).2

/-- `--stats-interval n` decides whether the statistics are ever printed:
`Run` starts `statsLoop` exactly when `n` seconds, as wrapping `int64`
nanoseconds, are positive, and its ticker then prints them; otherwise nothing
prints them, however often Enter is pressed.  Below 9223372037 seconds
nothing wraps, and only 0 starts no loop. -/
theorem statsLoop_prints_iff (codec : Codec) (capture : Option Bool) (peer : UDPAddr) (n : UInt64) :
    ((Bridge.start codec capture (statsLoopStarted (secondsDuration n)) peer).statsLoop = .running ↔
        0 < ((n.toNat : Int) * 1000000000).bmod (2 ^ 64)) ∧
      ((∃ actions m, Trace.exec step (start (statsLoopStarted (secondsDuration n))) actions = some m ∧
          0 < m.printed) ↔ 0 < ((n.toNat : Int) * 1000000000).bmod (2 ^ 64)) ∧
      (n.toNat ≤ 9223372036 → (0 < ((n.toNat : Int) * 1000000000).bmod (2 ^ 64) ↔ 0 < n.toNat)) := by
  have started := statsLoopStarted_secondsDuration n
  refine ⟨?_, ⟨fun ⟨actions, m, ran, printed⟩ => ?_, fun positive => ?_⟩, fun small => ?_⟩
  · rw [started]
    simp [Bridge.start]
  · by_contra notPositive
    rw [started, decide_eq_false notPositive] at ran
    exact absurd (printed_eq_zero_of_absent ran) (Nat.pos_iff_ne_zero.mp printed)
  · refine ⟨[.tick, .print], { start true with printed := 1 }, ?_, Nat.one_pos⟩
    rw [started, decide_eq_true positive]
    rfl
  · have noWrap : ((n.toNat : Int) * 1000000000).bmod (2 ^ 64) = n.toNat * 1000000000 :=
      Int.bmod_eq_of_le (by omega) (by omega)
    rw [noWrap]
    omega

/-! ### The prints are owed to ticks and newlines -/

/-- A `printStats` under way. -/
@[simp] def StatsPc.pending : StatsPc → Nat
  | .absent => 0
  | .select => 0
  | .printing => 1
  | .finished => 0

/-- A signal `stdinLoop` holds. -/
@[simp] def StdinPc.pending : StdinPc → Nat
  | .select => 0
  | .forwarding => 1
  | .finished => 0

/-- A signal the reader holds. -/
@[simp] def ReaderPc.pending : ReaderPc → Nat
  | .reading => 0
  | .signalling => 1
  | .stopped => 0

/-- The prints on their way. -/
def pending (m : StatsMonitor) : Nat := m.statsLoop.pending + m.stdinLoop.pending + m.reader.pending

/-- The prints a label can bring about: a tick, or a newline read. -/
def Action.owed : Action → Nat
  | .tick => 1
  | .read (some c) => if isNewline c then 1 else 0
  | _ => 0

/-- A step moves a pending print along, or drops it, or prints it; only a
tick or a newline adds one. -/
theorem printed_add_pending_le (stepped : m.step a = some m') :
    m'.printed + m'.pending ≤ m.printed + m.pending + a.owed := by
  obtain ⟨guard, rfl⟩ := step_eq_some.mp stepped
  cases a with
  | cancel => simp [next, pending, Action.owed]
  | statsDone =>
      simp only [enabled, Bool.and_eq_true, beq_iff_eq] at guard
      simp [next, pending, guard.1, Action.owed]
  | tick =>
      simp only [enabled, beq_iff_eq] at guard
      simp [next, pending, guard, Action.owed]
      omega
  | print =>
      simp only [enabled, beq_iff_eq] at guard
      simp [next, pending, guard, Action.owed]
      omega
  | stdinDone =>
      simp only [enabled, Bool.and_eq_true, beq_iff_eq] at guard
      simp [next, pending, guard.1, Action.owed]
  | forward =>
      simp only [enabled, beq_iff_eq] at guard
      simp only [next, forward]
      split_ifs with waiting
      · simp [pending, guard, waiting, Action.owed]
      · simp [pending, guard, Action.owed]
  | read byte =>
      simp only [enabled, beq_iff_eq] at guard
      cases byte with
      | none => simp [next, read, pending, guard, Action.owed]
      | some c =>
          simp only [next, read]
          split_ifs with newline
          · simp [pending, guard, newline, Action.owed]
            omega
          · simp [newline, Action.owed]
  | signal =>
      simp only [enabled, beq_iff_eq] at guard
      simp only [next, signal]
      split_ifs with waiting
      · simp [pending, guard, waiting, Action.owed]
      · simp [pending, guard, Action.owed]

/-- However the goroutines interleave, the statistics are printed at most
once for each tick and each newline byte read. -/
theorem printed_le_owed {started : Bool} {actions : List Action}
    (ran : Trace.exec step (start started) actions = some m) :
    m.printed ≤ (actions.map Action.owed).sum := by
  have grown := Trace.le_add_sum_of_growth (f := fun m => m.printed + m.pending)
    (fun _ _ _ stepped => printed_add_pending_le stepped) ran
  have nonePending : (start started).printed + (start started).pending = 0 := by
    cases started <;> rfl
  simp only [nonePending] at grown
  omega

/-- A terminal that sends `"\r\n"` for Enter: both bytes are newlines, and
with the goroutines waiting between them the press is printed twice. -/
def crlfEnter : List Action :=
  [.read (some '\r'.toUInt8), .signal, .forward, .print, .read (some '\n'.toUInt8), .signal,
    .forward, .print]

theorem printed_le_owed_crlfEnter :
    Trace.exec step (start true) crlfEnter = some { start true with printed := 2 } ∧
      ({ start true with printed := 2 } : StatsMonitor).printed ≤ (crlfEnter.map Action.owed).sum := by
  have ran : Trace.exec step (start true) crlfEnter = some { start true with printed := 2 } := by
    decide
  exact ⟨ran, printed_le_owed ran⟩

/-- The context cancelled and both loops returned. -/
def afterShutdown : List Action := [.cancel, .statsDone, .stdinDone]

/-- Where `afterShutdown` leads from `start true`. -/
def shutDown : StatsMonitor := ⟨true, .finished, .finished, .reading, 0⟩

theorem exec_afterShutdown : Trace.exec step (start true) afterShutdown = some shutDown := by
  decide

/-! ### `Bridge`'s view of the two loops -/

/-- What `Bridge` keeps of `statsLoop`: whether it runs. -/
def StatsPc.coarse : StatsPc → Bridge.LoopPc
  | .absent => .absent
  | .select => .running
  | .printing => .running
  | .finished => .finished

/-- What `Bridge` keeps of `stdinLoop`. -/
def StdinPc.coarse : StdinPc → Bridge.LoopPc
  | .select => .running
  | .forwarding => .running
  | .finished => .finished

/-- A `Bridge` that has not crashed and agrees with the monitor on the
context and on whether each loop runs. -/
structure Abstracts (m : StatsMonitor) (b : Bridge) : Prop where
  noCrash : b.crash = none
  cancelled : b.ctxCancelled = m.ctxCancelled
  stats : b.statsLoop = m.statsLoop.coarse
  stdin : b.stdinLoop = m.stdinLoop.coarse

/-- The `Bridge` steps a label is: a cancellation, a loop returning, or none. -/
def Action.coarse : Action → List Bridge.Action
  | .cancel => [.cancel]
  | .statsDone => [.statsLoop]
  | .stdinDone => [.stdinLoop]
  | _ => []

variable (mac : Mac hmacSize)

/-- A step of the monitor is its label's `Bridge` steps: each statement that
does not return keeps both loops running, or both as they were. -/
theorem step_simulates {b : Bridge} (abstracts : Abstracts m b) (stepped : m.step a = some m') :
    ∃ b', Trace.exec (Bridge.step mac) b a.coarse = some b' ∧ Abstracts m' b' := by
  obtain ⟨noCrash, cancelled, stats, stdin⟩ := abstracts
  obtain ⟨guard, rfl⟩ := step_eq_some.mp stepped
  cases a with
  | cancel =>
      simp only [enabled, Bool.not_eq_true'] at guard
      refine ⟨{ b with ctxCancelled := true }, ?_, ⟨noCrash, rfl, stats, stdin⟩⟩
      simp [Action.coarse, Trace.exec_cons, Bridge.step, noCrash, cancelled, guard]
  | statsDone =>
      simp only [enabled, Bool.and_eq_true, beq_iff_eq] at guard
      refine ⟨{ b with statsLoop := .finished }, ?_, ⟨noCrash, cancelled, rfl, stdin⟩⟩
      simp [Action.coarse, Trace.exec_cons, Bridge.step, Bridge.loopStep, noCrash, cancelled, stats,
        guard, StatsPc.coarse]
  | stdinDone =>
      simp only [enabled, Bool.and_eq_true, beq_iff_eq] at guard
      refine ⟨{ b with stdinLoop := .finished }, ?_, ⟨noCrash, cancelled, stats, rfl⟩⟩
      simp [Action.coarse, Trace.exec_cons, Bridge.step, Bridge.loopStep, noCrash, cancelled, stdin,
        guard, StdinPc.coarse]
  | tick =>
      simp only [enabled, beq_iff_eq] at guard
      exact ⟨b, rfl, ⟨noCrash, cancelled, by simp [stats, guard, next, StatsPc.coarse], stdin⟩⟩
  | print =>
      simp only [enabled, beq_iff_eq] at guard
      exact ⟨b, rfl, ⟨noCrash, cancelled, by simp [stats, guard, next, StatsPc.coarse], stdin⟩⟩
  | forward =>
      simp only [enabled, beq_iff_eq] at guard
      refine ⟨b, rfl, ?_⟩
      simp only [next, forward]
      split_ifs with waiting
      · exact ⟨noCrash, cancelled, by simp [stats, waiting, StatsPc.coarse],
          by simp [stdin, guard, StdinPc.coarse]⟩
      · exact ⟨noCrash, cancelled, stats, by simp [stdin, guard, StdinPc.coarse]⟩
  | read byte =>
      exact ⟨b, rfl, noCrash, by simpa [next] using cancelled, by simpa [next] using stats,
        by simpa [next] using stdin⟩
  | signal =>
      refine ⟨b, rfl, ?_⟩
      simp only [next, signal]
      split_ifs with waiting
      · exact ⟨noCrash, cancelled, stats, by simp [stdin, waiting, StdinPc.coarse]⟩
      · exact ⟨noCrash, cancelled, stats, stdin⟩

theorem abstracts_start (codec : Codec) (capture : Option Bool) (statsStarted : Bool)
    (peerAddr : UDPAddr) : Abstracts (start statsStarted) (Bridge.start codec capture statsStarted peerAddr) where
  noCrash := rfl
  cancelled := rfl
  stats := by cases statsStarted <;> rfl
  stdin := rfl

/-- Every run of the monitor is a run of `Bridge` from the state `Run` starts
its goroutines in, with the same cancellation and loops returning: `Bridge`'s
two loops that only return on `ctx.Done()` are what the three goroutines
amount to. -/
theorem exec_simulates {codec : Codec} {capture : Option Bool} {statsStarted : Bool}
    {peerAddr : UDPAddr} {actions : List Action}
    (ran : Trace.exec step (start statsStarted) actions = some m) :
    ∃ b, Trace.exec (Bridge.step mac) (Bridge.start codec capture statsStarted peerAddr)
        (actions.flatMap Action.coarse) = some b ∧ Abstracts m b :=
  Trace.exec_simulation (fun _ _ _ _ abstracts stepped => step_simulates mac abstracts stepped)
    (abstracts_start codec capture statsStarted peerAddr) ran

theorem exec_simulates_afterShutdown :
    Trace.exec step (start true) afterShutdown = some shutDown ∧
      (Trace.exec (Bridge.step hmacSha256)
          (Bridge.start (newCodec []) (some true) true Bridge.remotePeer)
          (afterShutdown.flatMap Action.coarse)).map Bridge.statsLoop = some .finished ∧
      (Trace.exec (Bridge.step hmacSha256)
          (Bridge.start (newCodec []) (some true) true Bridge.remotePeer)
          (afterShutdown.flatMap Action.coarse)).map Bridge.stdinLoop = some .finished := by
  obtain ⟨b, ran, abstracts⟩ := exec_simulates hmacSha256 exec_afterShutdown
  rw [ran]
  exact ⟨exec_afterShutdown, by simp [abstracts.stats, shutDown, StatsPc.coarse],
    by simp [abstracts.stdin, shutDown, StdinPc.coarse]⟩

end StatsMonitor

end XbsLink
