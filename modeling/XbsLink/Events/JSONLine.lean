import XbsLink.Lib.Trace

/-!
# The JSON-lines event writers

`JSONLineWriter.Emit` stamps an envelope with `time.Now()` and hands it to a
`json.Encoder`, which writes it as one line, or nothing when it cannot encode
it.  A writer is modelled by the envelopes its encoder has been given, in
order, and by whether it has been closed: the bytes it writes are the
encoder's image of those envelopes.

`AsyncJSONLineWriter.Emit` puts the envelope on a channel of capacity 64, and
drops it when the channel is full.  A goroutine takes envelopes off the
channel and passes their `Type` and `Data` to a `JSONLineWriter`, until
`Close` closes `done`; its `select` may then pick `done` while envelopes are
still queued, and a drain loop writes those.  `Close` waits for the goroutine
and closes the writer.  The model is a step function over one caller, which
calls `Emit` and then `Close`, and the goroutine, under every interleaving and
both choices of the `select`; an action that reads the clock carries the time
it reads.

Every run in which `Close` has returned has written the envelopes that were
queued, each once and in the order of the `Emit` calls, with their `Type` and
`Data`, as a `JSONLineWriter` called with them would have; only an `Emit`
that found 64 envelopes pending was dropped (`close_writes_queued`).  `Close`
returns under every schedule, after at most as many steps as the channel holds
twice over, and three more (`close_returns`).  The timestamp is the exception:
the goroutine's `Emit` stamps `time.Now()` again, so a line carries the time
it was written, not the time `Emit` was called (`exec_restamped`).
-/

namespace XbsLink.Events

variable {δ : Type}

/-- `Envelope`.  `Timestamp` is a `time.Time`, here a count of nanoseconds;
`Data` is whatever the caller passes. -/
structure Envelope (δ : Type) where
  type : String
  timestamp : Nat
  data : δ
  deriving DecidableEq, Repr

/-- What the caller of `Emit` chooses: the `Type` and the `Data`. -/
def Envelope.untimed (env : Envelope δ) : String × δ := (env.type, env.data)

/-- `JSONLineWriter`: the envelopes its encoder has been given, and whether
the writer under it has been closed. -/
structure JSONLineWriter (δ : Type) where
  lines : List (Envelope δ)
  closed : Bool
  deriving DecidableEq, Repr

namespace JSONLineWriter

/-- `NewJSONLineWriter`. -/
def new : JSONLineWriter δ := ⟨[], false⟩

/-- `JSONLineWriter.Emit`, with `time.Now()` reading `now`. -/
def emit (j : JSONLineWriter δ) (eventType : String) (data : δ) (now : Nat) : JSONLineWriter δ :=
  { j with lines := j.lines ++ [{ type := eventType, timestamp := now, data }] }

/-- `JSONLineWriter.Close`. -/
def close (j : JSONLineWriter δ) : JSONLineWriter δ := { j with closed := true }

/-- `Emit` called once for each envelope, in order, each with its type, data
and time. -/
def emitAll (j : JSONLineWriter δ) (calls : List (Envelope δ)) : JSONLineWriter δ :=
  calls.foldl (fun j env => j.emit env.type env.data env.timestamp) j

theorem emitAll_eq (j : JSONLineWriter δ) (calls : List (Envelope δ)) :
    j.emitAll calls = { j with lines := j.lines ++ calls } := by
  induction calls generalizing j with
  | nil => simp [emitAll]
  | cons env rest ih =>
    rw [emitAll, List.foldl_cons, ← emitAll, ih]
    simp [emit]

end JSONLineWriter

/-- Where the `writer` goroutine is: in its `select`, in the drain loop, or
returned. -/
inductive WriterPc
  | selecting
  | draining
  | returned
  deriving DecidableEq, Repr

/-- The rank of where the goroutine is: the steps it has left besides writing
what is pending. -/
def WriterPc.rank : WriterPc → Nat
  | .selecting => 2
  | .draining => 1
  | .returned => 0

/-- Where the caller is: calling `Emit`, in `Close` waiting for the goroutine,
or past `Close`. -/
inductive CallerPc
  | emitting
  | waiting
  | returned
  deriving DecidableEq, Repr

/-- `AsyncJSONLineWriter`: the buffer of its `events` channel, oldest first,
whether `done` is closed and the `JSONLineWriter`; with where the goroutine
and the caller are. -/
structure AsyncJSONLineWriter (δ : Type) where
  events : List (Envelope δ)
  done : Bool
  w : JSONLineWriter δ
  writer : WriterPc
  caller : CallerPc
  deriving DecidableEq, Repr

namespace AsyncJSONLineWriter

/-- `NewAsyncJSONLineWriter`: an empty channel, and the goroutine started. -/
def new : AsyncJSONLineWriter δ := ⟨[], false, .new, .selecting, .emitting⟩

/-- The moves of the caller and of the goroutine; `now` is what `time.Now()`
reads. -/
inductive Action (δ : Type)
  /-- The caller's `Emit`. -/
  | emit (eventType : String) (data : δ) (now : Nat)
  /-- `Close` closes `done`. -/
  | close
  /-- `Close`'s `wg.Wait()` returns, and it closes the writer. -/
  | wait
  /-- The goroutine's `select` takes the `events` case. -/
  | receive (now : Nat)
  /-- The goroutine's `select` takes the `done` case. -/
  | selectDone
  /-- One round of the drain loop. -/
  | drain (now : Nat)
  /-- The drain loop finds the channel empty, and the goroutine returns. -/
  | exit

/-- `env := <-a.events`, then `a.w.Emit(env.Type, env.Data)`; the receive
blocks on an empty channel. -/
def writeOne (a : AsyncJSONLineWriter δ) (now : Nat) : Option (AsyncJSONLineWriter δ) :=
  match a.events with
  | [] => none
  | env :: rest => some { a with events := rest, w := a.w.emit env.type env.data now }

/-- One move; `none` where it is not enabled. -/
def step (a : AsyncJSONLineWriter δ) : Action δ → Option (AsyncJSONLineWriter δ)
  | .emit eventType data now =>
      if a.caller = .emitting then
        -- The `select`'s default case drops the envelope when the buffer is full.
        if a.events.length < 64 then
          some { a with events := a.events ++ [{ type := eventType, timestamp := now, data }] }
        else some a
      else none
  | .close => if a.caller = .emitting then some { a with done := true, caller := .waiting } else none
  | .wait =>
      if a.caller = .waiting ∧ a.writer = .returned then
        some { a with w := a.w.close, caller := .returned }
      else none
  | .receive now => if a.writer = .selecting then a.writeOne now else none
  | .selectDone =>
      if a.writer = .selecting ∧ a.done = true then some { a with writer := .draining } else none
  | .drain now => if a.writer = .draining then a.writeOne now else none
  | .exit =>
      if a.writer = .draining ∧ a.events = [] then some { a with writer := .returned } else none

/-- The envelope a move puts on the channel: that of an `Emit` that found
fewer than 64 pending, stamped when it was called. -/
def queued (a : AsyncJSONLineWriter δ) : Action δ → List (Envelope δ)
  | .emit eventType data now =>
      if a.caller = .emitting ∧ a.events.length < 64 then
        [{ type := eventType, timestamp := now, data }]
      else []
  | _ => []

/-! ## What each move does -/

section Moves

variable {a next : AsyncJSONLineWriter δ}

theorem writeOne_eq {now : Nat} (wrote : a.writeOne now = some next) :
    ∃ env rest, a.events = env :: rest ∧
      next = { a with events := rest, w := a.w.emit env.type env.data now } := by
  unfold writeOne at wrote
  split at wrote
  · cases wrote
  · rename_i env rest pending
    exact ⟨env, rest, pending, (Option.some.inj wrote).symm⟩

theorem step_emit {eventType : String} {data : δ} {now : Nat}
    (stepped : a.step (.emit eventType data now) = some next) :
    a.caller = .emitting ∧
      next = { a with events := a.events ++ a.queued (.emit eventType data now) } := by
  rw [step] at stepped
  by_cases calling : a.caller = .emitting
  · refine ⟨calling, ?_⟩
    rw [if_pos calling] at stepped
    by_cases room : a.events.length < 64
    · rw [if_pos room] at stepped
      rw [queued, if_pos ⟨calling, room⟩, ← Option.some.inj stepped]
    · rw [if_neg room] at stepped
      rw [queued, if_neg (fun both => room both.2), List.append_nil, ← Option.some.inj stepped]
  · rw [if_neg calling] at stepped
    cases stepped

theorem step_close (stepped : a.step .close = some next) :
    a.caller = .emitting ∧ next = { a with done := true, caller := .waiting } := by
  rw [step] at stepped
  by_cases calling : a.caller = .emitting
  · rw [if_pos calling] at stepped
    exact ⟨calling, (Option.some.inj stepped).symm⟩
  · rw [if_neg calling] at stepped
    cases stepped

theorem step_wait (stepped : a.step .wait = some next) :
    a.caller = .waiting ∧ a.writer = .returned ∧
      next = { a with w := a.w.close, caller := .returned } := by
  rw [step] at stepped
  by_cases ready : a.caller = .waiting ∧ a.writer = .returned
  · rw [if_pos ready] at stepped
    exact ⟨ready.1, ready.2, (Option.some.inj stepped).symm⟩
  · rw [if_neg ready] at stepped
    cases stepped

theorem step_receive {now : Nat} (stepped : a.step (.receive now) = some next) :
    a.writer = .selecting ∧ a.writeOne now = some next := by
  rw [step] at stepped
  by_cases selecting : a.writer = .selecting
  · rw [if_pos selecting] at stepped
    exact ⟨selecting, stepped⟩
  · rw [if_neg selecting] at stepped
    cases stepped

theorem step_selectDone (stepped : a.step .selectDone = some next) :
    a.writer = .selecting ∧ a.done = true ∧ next = { a with writer := .draining } := by
  rw [step] at stepped
  by_cases ready : a.writer = .selecting ∧ a.done = true
  · rw [if_pos ready] at stepped
    exact ⟨ready.1, ready.2, (Option.some.inj stepped).symm⟩
  · rw [if_neg ready] at stepped
    cases stepped

theorem step_drain {now : Nat} (stepped : a.step (.drain now) = some next) :
    a.writer = .draining ∧ a.writeOne now = some next := by
  rw [step] at stepped
  by_cases draining : a.writer = .draining
  · rw [if_pos draining] at stepped
    exact ⟨draining, stepped⟩
  · rw [if_neg draining] at stepped
    cases stepped

theorem step_exit (stepped : a.step .exit = some next) :
    a.writer = .draining ∧ a.events = [] ∧ next = { a with writer := .returned } := by
  rw [step] at stepped
  by_cases ready : a.writer = .draining ∧ a.events = []
  · rw [if_pos ready] at stepped
    exact ⟨ready.1, ready.2, (Option.some.inj stepped).symm⟩
  · rw [if_neg ready] at stepped
    cases stepped

end Moves

/-! ## What every run keeps -/

/-- What holds of the writer once the envelopes `queuedEvents` have been put on
the channel: written or pending, they are the ones queued, up to their
timestamps; the channel holds at most 64; `done` is closed once `Close` has
begun, and before the goroutine leaves its `select`; the goroutine returns
with the channel empty, and `Close` after it. -/
structure Tracks (queuedEvents : List (Envelope δ)) (a : AsyncJSONLineWriter δ) : Prop where
  untimed_eq : (a.w.lines ++ a.events).map Envelope.untimed = queuedEvents.map Envelope.untimed
  pending_le : a.events.length ≤ 64
  done_iff : a.done = true ↔ a.caller ≠ .emitting
  done_of_writer : a.writer ≠ .selecting → a.done = true
  drained : a.writer = .returned → a.events = []
  writer_of_caller : a.caller = .returned → a.writer = .returned
  closed_iff : a.w.closed = true ↔ a.caller = .returned

theorem tracks_new : Tracks [] (new : AsyncJSONLineWriter δ) where
  untimed_eq := rfl
  pending_le := by simp [new]
  done_iff := by simp [new]
  done_of_writer := by simp [new]
  drained := by simp [new]
  writer_of_caller := by simp [new]
  closed_iff := by simp [new, JSONLineWriter.new]

section Moves

variable {queuedEvents : List (Envelope δ)} {a next : AsyncJSONLineWriter δ}

/-- While the caller is calling `Emit`, the goroutine is in its `select`. -/
theorem Tracks.selecting (tracks : Tracks queuedEvents a) (calling : a.caller = .emitting) :
    a.writer = .selecting := by
  by_contra left
  exact (tracks.done_iff.mp (tracks.done_of_writer left)) calling

/-- Taking an envelope off the channel and writing it, in the `select` or in
the drain loop, moves it from pending to written. -/
theorem Tracks.writeOne (tracks : Tracks queuedEvents a) {now : Nat}
    (wrote : a.writeOne now = some next) : Tracks queuedEvents next := by
  obtain ⟨env, rest, pending, rfl⟩ := writeOne_eq wrote
  have pendingLe := tracks.pending_le
  rw [pending] at pendingLe
  refine ⟨?_, by simp at pendingLe ⊢; omega, tracks.done_iff, tracks.done_of_writer,
    fun returned => ?_, tracks.writer_of_caller, tracks.closed_iff⟩
  · rw [← tracks.untimed_eq, pending]
    simp [JSONLineWriter.emit, Envelope.untimed]
  · rw [tracks.drained returned] at pending
    cases pending

/-- Every move keeps `Tracks`, with what it queued added. -/
theorem Tracks.step (tracks : Tracks queuedEvents a) {act : Action δ}
    (stepped : a.step act = some next) : Tracks (queuedEvents ++ a.queued act) next := by
  cases act with
  | emit eventType data now =>
    obtain ⟨calling, rfl⟩ := step_emit stepped
    have selecting := tracks.selecting calling
    refine ⟨?_, ?_, tracks.done_iff, tracks.done_of_writer, fun returned => ?_,
      tracks.writer_of_caller, tracks.closed_iff⟩
    · dsimp only
      rw [← List.append_assoc, List.map_append, tracks.untimed_eq, List.map_append]
    · have pendingLe := tracks.pending_le
      dsimp only
      rw [queued]
      by_cases room : a.events.length < 64
      · rw [if_pos ⟨calling, room⟩, List.length_append, List.length_singleton]
        omega
      · rw [if_neg (fun both => room both.2), List.append_nil]
        exact pendingLe
    · rw [selecting] at returned
      cases returned
  | close =>
    obtain ⟨calling, rfl⟩ := step_close stepped
    refine ⟨by simpa [queued] using tracks.untimed_eq, tracks.pending_le, by simp,
      fun _ => rfl, tracks.drained, fun returned => absurd returned (by simp), ?_⟩
    have open_ : a.w.closed = false := by
      simpa [calling] using tracks.closed_iff
    simp [open_]
  | wait =>
    obtain ⟨waiting, returned, rfl⟩ := step_wait stepped
    have done : a.done = true := tracks.done_iff.mpr (by simp [waiting])
    refine ⟨by simpa [queued, JSONLineWriter.close] using tracks.untimed_eq, tracks.pending_le,
      by simp [done], fun _ => done, tracks.drained, fun _ => returned,
      by simp [JSONLineWriter.close]⟩
  | receive now =>
    obtain ⟨-, wrote⟩ := step_receive stepped
    simpa [queued] using tracks.writeOne wrote
  | selectDone =>
    obtain ⟨-, done, rfl⟩ := step_selectDone stepped
    refine ⟨by simpa [queued] using tracks.untimed_eq, tracks.pending_le, tracks.done_iff,
      fun _ => done, fun returned => absurd returned (by simp), fun returned => ?_, tracks.closed_iff⟩
    have finished := tracks.writer_of_caller returned
    rw [(step_selectDone stepped).1] at finished
    cases finished
  | drain now =>
    obtain ⟨-, wrote⟩ := step_drain stepped
    simpa [queued] using tracks.writeOne wrote
  | exit =>
    obtain ⟨draining, empty, rfl⟩ := step_exit stepped
    refine ⟨by simpa [queued] using tracks.untimed_eq, tracks.pending_le, tracks.done_iff,
      fun _ => tracks.done_of_writer (by simp [draining]), fun _ => empty,
      fun _ => rfl, tracks.closed_iff⟩

end Moves

/-- Along every run, `Tracks` holds of what the run has queued. -/
theorem tracks_exec {actions : List (Action δ)} {a : AsyncJSONLineWriter δ}
    (ran : Trace.exec step new actions = some a) :
    ∃ queuedEvents, Trace.outputs step queued new actions = some queuedEvents ∧
      Tracks queuedEvents a := by
  obtain ⟨queuedEvents, handed, tracks⟩ :=
    Trace.outputs_induction (P := fun done a => Tracks done a)
      (fun _ _ _ _ tracks stepped => tracks.step stepped) tracks_new ran
  exact ⟨queuedEvents, handed, by simpa using tracks⟩

/-- Every run in which `Close` has returned has written, each once and in the
order of the `Emit` calls, the envelopes that were queued, with their `Type`
and `Data`: the writer is a `JSONLineWriter` that was called with them, one by
one, and closed.  Nothing is left on the channel. -/
theorem close_writes_queued {actions : List (Action δ)} {a : AsyncJSONLineWriter δ}
    (ran : Trace.exec step new actions = some a) (returned : a.caller = .returned) :
    ∃ queuedEvents, Trace.outputs step queued new actions = some queuedEvents ∧ a.events = [] ∧
      ∃ written : List (Envelope δ),
        written.map Envelope.untimed = queuedEvents.map Envelope.untimed ∧
          a.w = (JSONLineWriter.new.emitAll written).close := by
  obtain ⟨queuedEvents, handed, tracks⟩ := tracks_exec ran
  have empty := tracks.drained (tracks.writer_of_caller returned)
  have closed := tracks.closed_iff.mpr returned
  refine ⟨queuedEvents, handed, empty, a.w.lines, ?_, ?_⟩
  · have untimed := tracks.untimed_eq
    rwa [empty, List.append_nil] at untimed
  · rw [JSONLineWriter.emitAll_eq]
    cases written : a.w with
    | mk lines wasClosed =>
      rw [written] at closed
      cases closed
      rfl

/-- One `Emit` at time 1, whose envelope the goroutine writes at time 2, and
`Close`. -/
def restamped (data : δ) : List (Action δ) :=
  [.emit "latency" data 1, .receive 2, .close, .selectDone, .exit, .wait]

theorem close_writes_queued_restamped :
    ∃ a, Trace.exec step new (restamped ()) = some a ∧ a.caller = .returned ∧
      ∃ queuedEvents, Trace.outputs step queued new (restamped ()) = some queuedEvents ∧
        a.events = [] ∧
        ∃ written : List (Envelope Unit),
          written.map Envelope.untimed = queuedEvents.map Envelope.untimed ∧
            a.w = (JSONLineWriter.new.emitAll written).close :=
  ⟨_, rfl, rfl, close_writes_queued rfl rfl⟩

/-- The envelope queued carries the time `Emit` was called, 1; the line
written carries the time the goroutine's `Emit` read, 2. -/
theorem exec_restamped (data : δ) :
    Trace.outputs step queued new (restamped data) = some [⟨"latency", 1, data⟩] ∧
      (Trace.exec step new (restamped data)).map (fun a => a.w) =
        some (JSONLineWriter.new.emit "latency" data 2).close := by
  constructor
  · rfl
  · rfl

/-! ## `Close` returns -/

/-- What is left to do once `Close` has closed `done`: write each pending
envelope, leave the `select` and the drain loop, and return from `wg.Wait()`. -/
def remaining (a : AsyncJSONLineWriter δ) : Nat :=
  a.events.length + a.writer.rank + if a.caller = .returned then 0 else 1

section Moves

variable {queuedEvents : List (Envelope δ)} {a next : AsyncJSONLineWriter δ}

/-- Once `Close` has begun, every move lowers `remaining` by one. -/
theorem remaining_step (closing : a.caller ≠ .emitting) {act : Action δ}
    (stepped : a.step act = some next) :
    next.caller ≠ .emitting ∧ next.remaining + 1 = a.remaining := by
  cases act with
  | emit eventType data now => exact absurd (step_emit stepped).1 closing
  | close => exact absurd (step_close stepped).1 closing
  | wait =>
    obtain ⟨waiting, -, rfl⟩ := step_wait stepped
    simp [remaining, waiting]
  | receive now =>
    obtain ⟨-, wrote⟩ := step_receive stepped
    obtain ⟨env, rest, pending, rfl⟩ := writeOne_eq wrote
    refine ⟨closing, ?_⟩
    simp only [remaining, pending, List.length_cons]
    omega
  | selectDone =>
    obtain ⟨selecting, -, rfl⟩ := step_selectDone stepped
    refine ⟨closing, ?_⟩
    simp only [remaining, selecting, WriterPc.rank]
    omega
  | drain now =>
    obtain ⟨-, wrote⟩ := step_drain stepped
    obtain ⟨env, rest, pending, rfl⟩ := writeOne_eq wrote
    refine ⟨closing, ?_⟩
    simp only [remaining, pending, List.length_cons]
    omega
  | exit =>
    obtain ⟨draining, -, rfl⟩ := step_exit stepped
    refine ⟨closing, ?_⟩
    simp only [remaining, draining, WriterPc.rank]
    omega

/-- Until `Close` has returned, some move is enabled. -/
theorem Tracks.enabled (tracks : Tracks queuedEvents a) (going : a.caller ≠ .returned) :
    ∃ act, a.step act ≠ none := by
  cases calling : a.caller with
  | emitting => exact ⟨.close, by simp [AsyncJSONLineWriter.step, calling]⟩
  | returned => exact absurd calling going
  | waiting =>
    cases writing : a.writer with
    | selecting =>
      have done : a.done = true := tracks.done_iff.mpr (by simp [calling])
      exact ⟨.selectDone, by simp [AsyncJSONLineWriter.step, writing, done]⟩
    | draining =>
      cases pending : a.events with
      | nil => exact ⟨.exit, by simp [AsyncJSONLineWriter.step, writing, pending]⟩
      | cons env rest => exact ⟨.drain 0, by simp [AsyncJSONLineWriter.step, writing, AsyncJSONLineWriter.writeOne, pending]⟩
    | returned => exact ⟨.wait, by simp [AsyncJSONLineWriter.step, calling, writing]⟩

end Moves

/-- `Close` returns under every schedule: from any state a run reaches in which
`Close` has closed `done`, every schedule of the goroutine and of `Close` that
can go no further has `Close` returned, after exactly `remaining` moves. -/
theorem close_returns {actions rest : List (Action δ)} {a b : AsyncJSONLineWriter δ}
    (ran : Trace.exec step new actions = some a) (closing : a.caller = .waiting)
    (goes : Trace.exec step a rest = some b) (stuck : ∀ act, b.step act = none) :
    b.caller = .returned ∧ rest.length = a.remaining := by
  obtain ⟨queuedEvents, -, tracks⟩ := tracks_exec ran
  have lowers : ∀ s act next, (Tracks queuedEvents s ∧ s.caller ≠ .emitting) →
      s.step act = some next →
        (Tracks queuedEvents next ∧ next.caller ≠ .emitting) ∧ next.remaining + 1 = s.remaining := by
    intro s act next ⟨tracksS, closingS⟩ stepped
    obtain ⟨closingNext, lowered⟩ := remaining_step closingS stepped
    have nothingQueued : s.queued act = [] := by
      cases act with
      | emit eventType data now => exact absurd (step_emit stepped).1 closingS
      | _ => rfl
    have tracksNext := tracksS.step stepped
    rw [nothingQueued, List.append_nil] at tracksNext
    exact ⟨⟨tracksNext, closingNext⟩, lowered⟩
  obtain ⟨counted, tracksB, -⟩ :=
    Trace.length_add_of_lowers lowers ⟨tracks, by simp [closing]⟩ goes
  have returned : b.caller = .returned := by
    by_contra going
    obtain ⟨act, enabled⟩ := tracksB.enabled going
    exact enabled (stuck act)
  have finished := tracksB.writer_of_caller returned
  have empty := tracksB.drained finished
  have nothingLeft : b.remaining = 0 := by
    simp [remaining, empty, finished, returned, WriterPc.rank]
  refine ⟨returned, ?_⟩
  omega

/-- One `Emit`, then `Close`. -/
def emitThenClose : List (Action Unit) := [.emit "stats" () 1, .close]

/-- The goroutine writes the envelope, leaves its `select` and its drain loop,
and `Close` returns. -/
def closeMoves : List (Action Unit) := [.receive 2, .selectDone, .exit, .wait]

theorem close_returns_emitThenClose :
    ∃ a b, Trace.exec step new emitThenClose = some a ∧ a.caller = .waiting ∧
      Trace.exec step a closeMoves = some b ∧ (∀ act, b.step act = none) ∧
        b.caller = .returned ∧ closeMoves.length = a.remaining := by
  refine ⟨_, _, rfl, rfl, rfl, ?stuck,
    @close_returns Unit emitThenClose closeMoves _ _ rfl rfl rfl ?stuck⟩
  intro act
  cases act <;> rfl

end AsyncJSONLineWriter

end XbsLink.Events
