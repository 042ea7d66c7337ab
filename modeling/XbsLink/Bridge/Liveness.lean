import XbsLink.Bridge.Steps
import XbsLink.Lib.Word

/-!
# The liveness check

`pingLoop` calls `sendPing` on every tick of its ticker, with the time in
nanoseconds, and `recvLoop` hands the timestamp of every PONG to
`handlePong`.  What the two are for is a monitor (`Monitor`): it counts the
ticks since the last accepted PONG, remembers the PING still waiting for its
PONG, and declares the peer unresponsive on the tick that brings the count to
`MaxMissedPongs + 1`.  A PONG is accepted when it echoes that PING, and its
round-trip time is recorded.

The bridge's `pendingPing`, `missedPongs`, `done` and statistics track the
monitor (`Tracks`) for as long as the count of ticks since the last accepted PONG
stays below `2 ^ 31` (`tracks_run`): `missedPongs` is an `int32` that
`atomic.AddInt32` wraps, and past that count it turns negative, the
comparison with `MaxMissedPongs` fails, and `sendPing` sends PINGs again
(`missedPongs_wraps`).  The monitor's count `Fits` below the bound on every
run of fewer than `2 ^ 31` ticks.  The statistics are those `AddRTTSample`
computes from the round-trip times the monitor recorded, in order.
-/

namespace XbsLink

open Protocol

namespace Bridge

/-- What drives the liveness check: a tick of `pingLoop`'s ticker with
`time.Now().UnixNano()`, or a PONG with its timestamp and what `time.Now()`
returns to `handlePong`. -/
inductive PingEvent
  | tick (timestamp : Int64)
  | pong (timestamp now : Int64)
  deriving DecidableEq, Repr

section Mac

variable (mac : Mac hmacSize)

/-- `sendPing` on a tick, `handlePong` on a PONG. -/
def livenessStep (b : Bridge) : PingEvent → Bridge
  | .tick timestamp => sendPing mac b timestamp
  | .pong timestamp now => handlePong b timestamp now

def livenessRun (b : Bridge) (events : List PingEvent) : Bridge :=
  events.foldl (livenessStep mac) b

end Mac

/-! ## What the check is for -/

/-- The liveness monitor. -/
structure Monitor where
  /-- Ticks since the last accepted PONG, or since the start. -/
  ticks : Nat
  /-- The most recent PING, if no PONG has been accepted since. -/
  outstanding : Option Int64
  unresponsive : Bool
  /-- The round-trip times of the accepted PONGs, in order. -/
  rtts : List Int64
  deriving DecidableEq, Repr

namespace Monitor

def init : Monitor := ⟨0, none, false, []⟩

/-- A tick counts; it declares the peer unresponsive once the count reaches
`MaxMissedPongs + 1`, and sends a PING below that.  A PONG echoing the
outstanding PING is accepted, clears the count and records its round-trip
time. -/
def step (m : Monitor) : PingEvent → Monitor
  | .tick timestamp =>
      if maxMissedPongs + 1 ≤ m.ticks + 1 then { m with ticks := m.ticks + 1, unresponsive := true }
      else { m with ticks := m.ticks + 1, outstanding := some timestamp }
  | .pong timestamp now =>
      if m.outstanding = some timestamp then
        { m with ticks := 0, outstanding := none, rtts := m.rtts ++ [now - timestamp] }
      else m

def run (m : Monitor) (events : List PingEvent) : Monitor := events.foldl step m

theorem step_tick (m : Monitor) (timestamp : Int64) :
    m.step (.tick timestamp) =
      if maxMissedPongs + 1 ≤ m.ticks + 1 then { m with ticks := m.ticks + 1, unresponsive := true }
      else { m with ticks := m.ticks + 1, outstanding := some timestamp } := rfl

theorem step_pong (m : Monitor) (timestamp now : Int64) :
    m.step (.pong timestamp now) =
      if m.outstanding = some timestamp then
        { m with ticks := 0, outstanding := none, rtts := m.rtts ++ [now - timestamp] }
      else m := rfl

/-- `step` as a transition system of `Trace`, in which every event is enabled. -/
def next (m : Monitor) (event : PingEvent) : Option Monitor := some (m.step event)

@[simp] theorem run_nil (m : Monitor) : m.run [] = m := rfl

@[simp] theorem run_cons (m : Monitor) (event : PingEvent) (rest : List PingEvent) :
    m.run (event :: rest) = (m.step event).run rest := rfl

theorem exec_next (m : Monitor) (events : List PingEvent) :
    Trace.exec next m events = some (m.run events) := by
  induction events generalizing m with
  | nil => rfl
  | cons event rest ih => exact ih (m.step event)

@[simp] theorem ticks_step_tick (m : Monitor) (timestamp : Int64) :
    (m.step (.tick timestamp)).ticks = m.ticks + 1 := by
  rw [step_tick]
  split_ifs <;> rfl

/-- A step adds at most one tick. -/
theorem ticks_step_le (m : Monitor) (event : PingEvent) : (m.step event).ticks ≤ m.ticks + 1 := by
  cases event with
  | tick timestamp => rw [ticks_step_tick]
  | pong timestamp now =>
      rw [step_pong]
      split_ifs
      · exact Nat.zero_le _
      · exact Nat.le_succ _

/-- The count stays below `2 ^ 31` before each step of the run. -/
def Fits (m : Monitor) (events : List PingEvent) : Prop :=
  Trace.Along next (fun m => m.ticks < 2 ^ 31) m events

/-- A run of fewer than `2 ^ 31` events fits, whatever it holds. -/
theorem fits_of_length_le {m : Monitor} {events : List PingEvent}
    (short : m.ticks + events.length ≤ 2 ^ 31) : m.Fits events :=
  Trace.along_lt_of_le_add_one (fun m event next stepped => by
    cases stepped
    exact ticks_step_le m event) short

/-- A run that fits ends with at most `2 ^ 31` ticks counted. -/
theorem ticks_run_le {m : Monitor} {events : List PingEvent} (start : m.ticks ≤ 2 ^ 31)
    (fits : m.Fits events) : (m.run events).ticks ≤ 2 ^ 31 := by
  induction events generalizing m with
  | nil => exact start
  | cons event rest ih =>
      obtain ⟨small, later⟩ := fits
      have stepped := ticks_step_le m event
      exact ih (by omega) (later _ rfl)

/-- The monitor's own invariant: a PING is outstanding exactly when a tick has
been counted, and the count stays at most `MaxMissedPongs` until the peer is
declared unresponsive. -/
structure Valid (m : Monitor) : Prop where
  outstanding_isSome : m.outstanding.isSome = true ↔ 0 < m.ticks
  ticks_le : m.unresponsive = false → m.ticks ≤ maxMissedPongs

theorem valid_init : init.Valid :=
  ⟨by simp [init], fun _ => Nat.zero_le _⟩

theorem Valid.step {m : Monitor} (valid : m.Valid) (event : PingEvent) : (m.step event).Valid := by
  obtain ⟨outstanding, bounded⟩ := valid
  cases event with
  | tick timestamp =>
      rw [step_tick]
      split_ifs with gaveUp
      · -- The count was positive already, so a PING is still outstanding.
        refine ⟨?_, by simp⟩
        simp only [Nat.lt_add_one_iff, Nat.zero_le, iff_true]
        exact outstanding.mpr (by simp only [maxMissedPongs] at gaveUp; omega)
      · refine ⟨by simp, fun _ => ?_⟩
        simp only [maxMissedPongs] at gaveUp ⊢
        omega
  | pong timestamp now =>
      rw [step_pong]
      split_ifs
      · exact ⟨by simp, fun _ => Nat.zero_le _⟩
      · exact ⟨outstanding, bounded⟩

theorem valid_run {m : Monitor} (valid : m.Valid) (events : List PingEvent) :
    (m.run events).Valid := by
  have invariant : Trace.Invariant next Valid := by
    intro m event next _ valid stepped
    cases stepped
    exact valid.step event
  exact invariant.exec valid (exec_next m events)

end Monitor

/-! ## The bridge tracks the monitor -/

/-- The bridge's ping state as the monitor's: the pending PING is the
outstanding one (0 for none; timestamps are non-zero), `missedPongs` is the
count less the tick that sent the PING, as an `int32`, `done` is closed, by
`doneOnce`, exactly when the peer was declared unresponsive, and the
statistics are those `AddRTTSample` reaches from `start` with the recorded
round-trip times. -/
structure Tracks (start : Stats) (m : Monitor) (b : Bridge) : Prop where
  pendingPing_eq : b.pendingPing = m.outstanding.getD 0
  outstanding_ne_zero : m.outstanding ≠ some 0
  missedPongs_eq : b.missedPongs = Int32.ofNat (m.ticks - 1)
  doneOnceFired_eq : b.doneOnceFired = m.unresponsive
  doneClosed_eq : b.doneClosed = m.unresponsive
  stats_eq : Trace.exec Stats.addRTTSample start m.rtts = some b.stats.stats

theorem tracks_init {b : Bridge} (fresh : b.pendingPing = 0 ∧ b.missedPongs = 0 ∧
    b.doneOnceFired = false ∧ b.doneClosed = false) : Tracks b.stats.stats Monitor.init b :=
  ⟨fresh.1, by simp [Monitor.init], fresh.2.1, fresh.2.2.1, fresh.2.2.2, rfl⟩

section Mac

variable {mac : Mac hmacSize} {start : Stats} {m : Monitor} {b : Bridge}

/-- `sendPing` closes `done` when the count gives up and `doneOnce` has not
fired. -/
theorem doneClosed_sendPing (timestamp : Int64) :
    (sendPing mac b timestamp).doneClosed =
      (b.doneClosed || decide (b.pendingPing ≠ 0) &&
        decide (Int32.ofNat maxMissedPongs ≤ b.missedPongs + 1) && !b.doneOnceFired) := by
  unfold sendPing
  by_cases pending : b.pendingPing ≠ 0
  · by_cases gaveUp : Int32.ofNat maxMissedPongs ≤ b.missedPongs + 1
    · rw [if_pos pending, if_pos gaveUp]
      simp [closeDoneOnce_eq, pending, gaveUp]
    · rw [if_pos pending, if_neg gaveUp]
      simp [gaveUp]
  · rw [if_neg pending]
    simp [pending]

/-- At a state that tracks the monitor, `handlePong` accepts exactly the PONG
that echoes the outstanding PING, and adds its round-trip time. -/
theorem handlePong_of_tracks (tracks : Tracks start m b) (timestamp now : Int64) :
    handlePong b timestamp now =
      if m.outstanding = some timestamp then
        { b with pendingPing := 0, missedPongs := 0, lastRTT := b.stats.stats.rttCurrent,
                 stats := b.stats.addRTTSample (now - timestamp) }
      else b := by
  unfold handlePong
  rw [tracks.pendingPing_eq]
  by_cases echoed : m.outstanding = some timestamp
  · have nonzero : timestamp ≠ 0 := fun zero => tracks.outstanding_ne_zero (zero ▸ echoed)
    simp [echoed, nonzero]
  · rw [if_neg echoed]
    cases outstanding : m.outstanding with
    | none => simp
    | some ping =>
        have differs : timestamp ≠ ping := fun same => echoed (by rw [outstanding, same])
        simp [differs]

theorem Tracks.pong (tracks : Tracks start m b) (timestamp now : Int64) :
    Tracks start (m.step (.pong timestamp now)) (handlePong b timestamp now) := by
  rw [handlePong_of_tracks tracks, Monitor.step_pong]
  by_cases echoed : m.outstanding = some timestamp
  · rw [if_pos echoed, if_pos echoed]
    have sampled : Trace.exec Stats.addRTTSample start (m.rtts ++ [now - timestamp]) =
        some (b.stats.addRTTSample (now - timestamp)).stats := by
      rw [Trace.exec_append_of_exec tracks.stats_eq,
        Trace.exec_cons_of_step (Stats.Kept.addRTTSample_stats _ _), Trace.exec_nil]
    exact ⟨rfl, by simp, rfl, tracks.doneOnceFired_eq, tracks.doneClosed_eq, sampled⟩
  · rw [if_neg echoed, if_neg echoed]
    exact tracks

/-- A PING is pending exactly when a tick has been counted. -/
theorem Tracks.pending_iff (valid : m.Valid) (tracks : Tracks start m b) :
    b.pendingPing ≠ 0 ↔ 0 < m.ticks := by
  rw [← valid.outstanding_isSome, tracks.pendingPing_eq]
  cases outstanding : m.outstanding with
  | none => simp
  | some ping =>
      have nonzero : ping ≠ 0 := fun zero => tracks.outstanding_ne_zero (by rw [outstanding, zero])
      simp [nonzero]

/-- The increment of `sendPing` brings `missedPongs` to the count. -/
theorem Tracks.missedPongs_add_one (tracks : Tracks start m b) (counted : 0 < m.ticks) :
    b.missedPongs + 1 = Int32.ofNat m.ticks := by
  rw [tracks.missedPongs_eq, Int32.ofNat_sub_one_add_one counted]

/-- A tick with a non-zero timestamp keeps the bridge on the monitor while the
count is below `2 ^ 31`. -/
theorem Tracks.tick (valid : m.Valid) (tracks : Tracks start m b) {timestamp : Int64}
    (nonzero : timestamp ≠ 0) (small : m.ticks < 2 ^ 31) :
    Tracks start (m.step (.tick timestamp)) (sendPing mac b timestamp) := by
  have pendingIff := tracks.pending_iff valid
  have addOne := tracks.missedPongs_add_one
  obtain ⟨pendingPing, outstandingNonzero, missedPongs, doneOnceFired, doneClosed, stats⟩ := tracks
  unfold sendPing
  rw [Monitor.step_tick]
  by_cases pending : b.pendingPing ≠ 0
  · have counted := addOne (pendingIff.mp pending)
    -- Below `2 ^ 31` the `int32` comparison is the monitor's.
    have gaveUpIff : Int32.ofNat maxMissedPongs ≤ b.missedPongs + 1 ↔
        maxMissedPongs + 1 ≤ m.ticks + 1 := by
      rw [counted, Int32.ofNat_le_ofNat_iff (by simp [maxMissedPongs]) small]
      omega
    rw [if_pos pending]
    by_cases gaveUp : maxMissedPongs + 1 ≤ m.ticks + 1
    · rw [if_pos (gaveUpIff.mpr gaveUp), if_pos gaveUp]
      refine ⟨?_, outstandingNonzero, ?_, ?_, ?_, ?_⟩ <;>
        simp [closeDoneOnce_eq, pendingPing, counted, doneOnceFired, doneClosed, stats]
    · rw [if_neg (fun gave => gaveUp (gaveUpIff.mp gave)), if_neg gaveUp]
      exact ⟨rfl, by simpa using nonzero, by simp [counted], doneOnceFired, doneClosed, stats⟩
  · have uncounted : m.ticks = 0 := by
      have := mt pendingIff.mpr pending
      omega
    rw [if_neg pending, if_neg (by simp [uncounted, maxMissedPongs])]
    refine ⟨rfl, by simpa using nonzero, ?_, doneOnceFired, doneClosed, stats⟩
    simp [missedPongs, uncounted]

/-- At a state that tracks the monitor, a tick closes `done` exactly when it
brings the count to `MaxMissedPongs + 1` before the peer was declared
unresponsive. -/
theorem closes_of_tracks (valid : m.Valid) (tracks : Tracks start m b) (timestamp : Int64) :
    (sendPing mac b timestamp).doneClosed = true ∧ b.doneClosed = false ↔
      m.ticks + 1 = maxMissedPongs + 1 ∧ m.unresponsive = false := by
  rw [doneClosed_sendPing, tracks.doneClosed_eq, tracks.doneOnceFired_eq]
  cases responsive : m.unresponsive with
  | true => simp
  | false =>
      -- Until then the count is at most `MaxMissedPongs`, far below the wrap.
      have bounded := valid.ticks_le responsive
      simp only [maxMissedPongs] at bounded
      by_cases counted : 0 < m.ticks
      · rw [tracks.missedPongs_add_one counted]
        have compare : Int32.ofNat maxMissedPongs ≤ Int32.ofNat m.ticks ↔ 3 ≤ m.ticks :=
          Int32.ofNat_le_ofNat_iff (by simp [maxMissedPongs]) (by omega)
        simp only [compare]
        simp [(tracks.pending_iff valid).mpr counted, maxMissedPongs]
        omega
      · have idle : b.pendingPing = 0 := by
          by_contra pending
          exact counted ((tracks.pending_iff valid).mp pending)
        simp [idle, maxMissedPongs]
        omega

/-- The run lemma: from a state that tracks a valid monitor, a run of ticks
with non-zero timestamps and PONGs keeps tracking it as long as it fits. -/
theorem tracks_run (valid : m.Valid) (tracks : Tracks start m b) {events : List PingEvent}
    (nonzero : ∀ timestamp, .tick timestamp ∈ events → timestamp ≠ 0) (fits : m.Fits events) :
    Tracks start (m.run events) (livenessRun mac b events) := by
  induction events generalizing m b with
  | nil => exact tracks
  | cons event rest ih =>
      obtain ⟨small, later⟩ := fits
      have stepped : Tracks start (m.step event) (livenessStep mac b event) := by
        cases event with
        | tick timestamp => exact tracks.tick valid (nonzero timestamp List.mem_cons_self) small
        | pong timestamp now => exact tracks.pong timestamp now
      exact ih (valid.step event) stepped
        (fun timestamp member => nonzero timestamp (List.mem_cons_of_mem _ member)) (later _ rfl)

end Mac

/-! ## The liveness check on every run -/

/-- On every run from a bridge with no PING pending, no PONG missed and
`done` open, made of ticks with non-zero timestamps and of PONGs with any
timestamps, as long as fewer than `2 ^ 31` ticks pass without an accepted
PONG: the pending PING is the monitor's outstanding one, `missedPongs` is
`max 0 (n - 1)` for the `n` ticks since the last accepted PONG, the statistics
are those `AddRTTSample` reaches with the round-trip times of the accepted
PONGs, the next `handlePong` accepts exactly the PONG that echoes the
outstanding PING and adds its round-trip time, and the next tick closes `done`
exactly when it is the first to bring `n` to `MaxMissedPongs + 1`. -/
theorem liveness_tracks_monitor (mac : Mac hmacSize) {b : Bridge}
    (fresh : b.pendingPing = 0 ∧ b.missedPongs = 0 ∧ b.doneOnceFired = false ∧
      b.doneClosed = false)
    (events : List PingEvent) (nonzero : ∀ timestamp, .tick timestamp ∈ events → timestamp ≠ 0)
    (fits : Monitor.init.Fits events) :
    let m := Monitor.init.run events
    let b' := livenessRun mac b events
    b'.pendingPing = m.outstanding.getD 0 ∧
      b'.missedPongs.toInt = max 0 ((m.ticks : Int) - 1) ∧
      Trace.exec Stats.addRTTSample b.stats.stats m.rtts = some b'.stats.stats ∧
      (∀ timestamp now, handlePong b' timestamp now =
        if m.outstanding = some timestamp then
          { b' with pendingPing := 0, missedPongs := 0, lastRTT := b'.stats.stats.rttCurrent,
                    stats := b'.stats.addRTTSample (now - timestamp) }
        else b') ∧
      ∀ timestamp, (sendPing mac b' timestamp).doneClosed = true ∧ b'.doneClosed = false ↔
        m.ticks + 1 = maxMissedPongs + 1 ∧ m.unresponsive = false := by
  intro m b'
  have valid : m.Valid := Monitor.valid_run Monitor.valid_init events
  have tracks : Tracks b.stats.stats m b' :=
    tracks_run Monitor.valid_init (tracks_init fresh) nonzero fits
  have counted : m.ticks ≤ 2 ^ 31 := Monitor.ticks_run_le (Nat.zero_le _) fits
  refine ⟨tracks.pendingPing_eq, ?_, tracks.stats_eq, handlePong_of_tracks tracks,
    closes_of_tracks valid tracks⟩
  rw [tracks.missedPongs_eq, Int32.toInt_ofNat_of_lt (by omega)]
  omega

/-- The bridge `Run` starts with no key and no capture. -/
def quietBridge : Bridge := start (newCodec []) none false ⟨[203, 0, 113, 50], 31415⟩

/-- A PONG for the first PING, 5 ms after it, then four ticks with no answer. -/
def fourMissed : List PingEvent :=
  [.tick 1, .pong 1 5000001, .tick 2, .tick 3, .tick 4, .tick 5]

theorem liveness_tracks_monitor_fourMissed :
    let m := Monitor.init.run fourMissed
    let b' := livenessRun hmacSha256 quietBridge fourMissed
    b'.pendingPing = m.outstanding.getD 0 ∧
      b'.missedPongs.toInt = max 0 ((m.ticks : Int) - 1) ∧
      Trace.exec Stats.addRTTSample quietBridge.stats.stats m.rtts = some b'.stats.stats ∧
      (∀ timestamp now, handlePong b' timestamp now =
        if m.outstanding = some timestamp then
          { b' with pendingPing := 0, missedPongs := 0, lastRTT := b'.stats.stats.rttCurrent,
                    stats := b'.stats.addRTTSample (now - timestamp) }
        else b') ∧
      ∀ timestamp, (sendPing hmacSha256 b' timestamp).doneClosed = true ∧ b'.doneClosed = false ↔
        m.ticks + 1 = maxMissedPongs + 1 ∧ m.unresponsive = false :=
  liveness_tracks_monitor hmacSha256 ⟨rfl, rfl, rfl, rfl⟩ fourMissed
    (by
      intro timestamp member
      simp only [fourMissed, List.mem_cons, PingEvent.tick.injEq, reduceCtorEq, List.not_mem_nil,
        or_false, false_or] at member
      rcases member with rfl | rfl | rfl | rfl | rfl <;> decide)
    (Monitor.fits_of_length_le (by decide))

/-! ## Past `2 ^ 31` ticks -/

/-- Ticks with the timestamps `1, …, count`. -/
def silentTicks (count : Nat) : List PingEvent :=
  ((List.range count).map fun i => Int64.ofNat (i + 1)).map .tick

theorem silentTicks_succ (count : Nat) :
    silentTicks (count + 1) = silentTicks count ++ [.tick (Int64.ofNat (count + 1))] := by
  rw [silentTicks, silentTicks, List.range_succ, List.map_append, List.map_append]
  rfl

theorem Monitor.ticks_run_tick (m : Monitor) (timestamps : List Int64) :
    (m.run (timestamps.map .tick)).ticks = m.ticks + timestamps.length := by
  induction timestamps generalizing m with
  | nil => rfl
  | cons timestamp rest ih =>
      rw [List.map_cons, Monitor.run_cons, ih, Monitor.ticks_step_tick, List.length_cons]
      omega

theorem length_silentTicks (count : Nat) : (silentTicks count).length = count := by
  rw [silentTicks, List.length_map, List.length_map, List.length_range]

/-- The monitor counts every tick, none of them answered. -/
theorem ticks_run_silentTicks (count : Nat) : (Monitor.init.run (silentTicks count)).ticks = count := by
  rw [silentTicks, Monitor.ticks_run_tick, List.length_map, List.length_range]
  exact Nat.zero_add count

theorem nonzero_silentTicks {count : Nat} (small : count < 2 ^ 63) :
    ∀ timestamp, .tick timestamp ∈ silentTicks count → timestamp ≠ 0 := by
  intro timestamp member
  simp only [silentTicks, List.map_map, List.mem_map, List.mem_range, Function.comp_apply,
    PingEvent.tick.injEq] at member
  obtain ⟨i, below, rfl⟩ := member
  intro zero
  have value := Int64.toInt_ofNat_of_lt (n := i + 1) (by omega)
  rw [zero] at value
  simp at value
  omega

/-- Up to `2 ^ 31` unanswered ticks fit. -/
theorem fits_silentTicks {count : Nat} (small : count ≤ 2 ^ 31) :
    Monitor.init.Fits (silentTicks count) := by
  apply Monitor.fits_of_length_le
  rw [length_silentTicks]
  exact (Nat.zero_add count).trans_le small

/-- Through up to `2 ^ 31` unanswered ticks the bridge tracks the monitor. -/
theorem tracks_silentTicks {count : Nat} (small : count ≤ 2 ^ 31) :
    Tracks quietBridge.stats.stats (Monitor.init.run (silentTicks count))
      (livenessRun hmacSha256 quietBridge (silentTicks count)) :=
  tracks_run Monitor.valid_init (tracks_init ⟨rfl, rfl, rfl, rfl⟩)
    (nonzero_silentTicks (by omega)) (fits_silentTicks small)

/-- After `2 ^ 31 + 1` ticks with no PONG the monitor has counted them all,
but `missedPongs` has wrapped to `-2 ^ 31`, not `2 ^ 31`, and the last tick
sent a PING instead of giving up. -/
theorem missedPongs_wraps :
    (Monitor.init.run (silentTicks (2 ^ 31 + 1))).ticks = 2 ^ 31 + 1 ∧
      (livenessRun hmacSha256 quietBridge (silentTicks (2 ^ 31 + 1))).missedPongs.toInt =
        -2 ^ 31 ∧
      (livenessRun hmacSha256 quietBridge (silentTicks (2 ^ 31 + 1))).pendingPing =
        Int64.ofNat (2 ^ 31 + 1) := by
  refine ⟨ticks_run_silentTicks _, ?_⟩
  have tracks := @tracks_silentTicks (2 ^ 31) le_rfl
  have valid := Monitor.valid_run Monitor.valid_init (silentTicks (2 ^ 31))
  have counted := ticks_run_silentTicks (2 ^ 31)
  have pending := (tracks.pending_iff valid).mpr (by omega)
  have wrapped := tracks.missedPongs_add_one (by omega)
  rw [counted] at wrapped
  have last : livenessRun hmacSha256 quietBridge (silentTicks (2 ^ 31 + 1)) =
      sendPing hmacSha256 (livenessRun hmacSha256 quietBridge (silentTicks (2 ^ 31)))
        (Int64.ofNat (2 ^ 31 + 1)) := by
    rw [livenessRun, livenessRun, silentTicks_succ, List.foldl_append, List.foldl_cons,
      List.foldl_nil]
    rfl
  have noGiveUp : ¬ Int32.ofNat maxMissedPongs ≤ Int32.ofNat (2 ^ 31) := by decide
  rcases @sendPing_cases hmacSha256 (livenessRun hmacSha256 quietBridge (silentTicks (2 ^ 31)))
      (Int64.ofNat (2 ^ 31 + 1)) with ⟨-, gaveUp, -⟩ | pinged
  · rw [wrapped] at gaveUp
    exact absurd gaveUp noGiveUp
  rw [last, pinged]
  dsimp only
  rw [if_pos pending, wrapped]
  exact ⟨by decide, rfl⟩

end Bridge

end XbsLink
