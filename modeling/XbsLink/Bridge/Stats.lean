import XbsLink.Lib.Go
import XbsLink.Lib.Recent
import XbsLink.Lib.Trace
import XbsLink.Lib.Word

/-!
# Round-trip-time statistics

`Stats.AddRTTSample` keeps the round-trip times of the last twenty PONGs and
their running sum: it appends each sample and adds it to the sum, and once it
holds twenty-one it subtracts the oldest from the sum and drops it.  The
average is the sum divided by the number of samples kept.

The statistics of a sequence of samples are also computed from it directly:
its last twenty samples, their sum and that sum divided by their number
(`Stats.ofSamples`).  Every sequence of calls started from `&Stats{}` ends in
the statistics of its samples, without a panic: the oldest sample is there to
drop, and the number divided by is never zero (`exec_addRTTSample`).

The sum is an `int64` sum, so it wraps where the integer sum leaves the `int64`
range, but the wrap cancels when the oldest sample is subtracted again: only
the sum of the twenty kept matters.  While that fits, the sum and the average
are the integer sum and its quotient truncated toward zero.

Statistics that keep the sum of at most twenty samples (`Kept`), as every run
from `&Stats{}` does, are never made to panic by `AddRTTSample`; the bridge
holds them in that form.

Not modelled here: `lastRTT`, which the bridge keeps; `CheckRTTSpike`, which
compares in `float64` and only decides a log line and an event; the packet
counters, which only `printStats` reads; the mutex, under which every call
runs whole.
-/

namespace XbsLink.Bridge

/-- `Stats`, its round-trip fields; a `time.Duration` is an `int64` count of
nanoseconds. -/
structure Stats where
  rttCurrent : Int64
  rttAvg : Int64
  rttSamples : List Int64
  rttSum : Int64
  deriving Repr, DecidableEq

namespace Stats

/-- `&Stats{}`. -/
def zero : Stats := ⟨0, 0, [], 0⟩

/-- `Stats.AddRTTSample`. -/
def addRTTSample (s : Stats) (rtt : Int64) : Option Stats := do
  let rttSamples := s.rttSamples ++ [rtt]
  let rttSum := s.rttSum + rtt
  let (rttSamples, rttSum) ← if rttSamples.length > 20 then do
        let oldest ← Go.index? rttSamples 0
        let kept ← Go.slice? rttSamples 1 rttSamples.length
        pure (kept, rttSum - oldest)
      else pure (rttSamples, rttSum)
  let rttAvg ← Go.div? rttSum (Int64.ofNat rttSamples.length)
  pure { rttCurrent := rtt, rttAvg, rttSamples, rttSum }

/-- The statistics shown for the samples `window`, the latest `rtt`: their sum,
and the sum divided by their number. -/
def averaged (rtt : Int64) (window : List Int64) : Stats :=
  { rttCurrent := rtt, rttAvg := window.sum / Int64.ofNat window.length, rttSamples := window,
    rttSum := window.sum }

/-- The statistics of the samples `rtts`, computed from them directly: the last
twenty of them averaged. -/
def ofSamples (rtts : List Int64) : Stats := averaged (rtts.getLastD 0) (rtts.rtake 20)

theorem ofSamples_nil : ofSamples [] = zero := by decide

@[simp] theorem rttSamples_ofSamples (rtts : List Int64) :
    (ofSamples rtts).rttSamples = rtts.rtake 20 := by
  unfold ofSamples averaged
  rfl

theorem ofSamples_concat (rtts : List Int64) (rtt : Int64) :
    ofSamples (rtts ++ [rtt]) = averaged rtt ((rtts ++ [rtt]).rtake 20) := by
  rw [ofSamples, List.getLastD_eq_getLast?, List.getLast?_concat, Option.getD_some]

/-- Dropping the first of the samples takes it off their sum. -/
theorem sum_sub_head (a : Int64) (rest : List Int64) : (a :: rest).sum - a = rest.sum := by
  rw [List.sum_cons, Int64.add_comm, Int64.add_sub_cancel]

/-- What one call computes from statistics that keep the sum of at most twenty
samples: the samples moved on by `rtt`, averaged. -/
theorem addRTTSample_eq {s : Stats} (short : s.rttSamples.length ≤ 20)
    (summed : s.rttSum = s.rttSamples.sum) (rtt : Int64) :
    s.addRTTSample rtt = some (averaged rtt (Recent.push 20 s.rttSamples rtt)) := by
  have added : s.rttSum + rtt = (s.rttSamples ++ [rtt]).sum := by
    rw [summed, List.sum_append, List.sum_singleton]
  have divides : ∀ window : List Int64, 0 < window.length → window.length ≤ 21 →
      Go.div? window.sum (Int64.ofNat window.length) = some (window.sum / Int64.ofNat window.length) :=
    fun window nonempty few => Go.div?_of_ne (Int64.ofNat_ne_zero nonempty (by omega))
  unfold addRTTSample Recent.push
  by_cases full : 20 < (s.rttSamples ++ [rtt]).length
  · obtain ⟨oldest, rest, split⟩ : ∃ oldest rest, s.rttSamples ++ [rtt] = oldest :: rest := by
      cases appended : s.rttSamples ++ [rtt] with
      | nil => simp at appended
      | cons oldest rest => exact ⟨oldest, rest, rfl⟩
    have lengths : s.rttSamples.length = rest.length := by
      simpa using congrArg List.length split
    rw [if_pos full, if_pos full, split, Go.index?_cons_zero, Go.slice?_length (by simp), added, split]
    simp only [Option.pure_def, Option.bind_eq_bind, Option.bind_some]
    rw [sum_sub_head, List.drop_one, List.tail_cons,
      divides rest (by simp at full; omega) (by omega), Option.bind_some]
    rfl
  · rw [if_neg full, if_neg full, added]
    simp only [Option.pure_def, Option.bind_eq_bind, Option.bind_some]
    rw [divides _ (by simp) (by simp at full ⊢; omega), Option.bind_some]
    rfl

/-- One call moves the statistics of `rtts` to those of `rtts` and `rtt`. -/
theorem addRTTSample_ofSamples (rtts : List Int64) (rtt : Int64) :
    (ofSamples rtts).addRTTSample rtt = some (ofSamples (rtts ++ [rtt])) := by
  have short : (rtts.rtake 20).length ≤ 20 := by
    rw [Recent.length_rtake]
    omega
  rw [addRTTSample_eq short rfl, rttSamples_ofSamples, Recent.push_rtake, ofSamples_concat]

/-- The run, by induction on the samples still to come from the statistics of
those already added. -/
theorem exec_ofSamples (rtts rest : List Int64) :
    Trace.exec addRTTSample (ofSamples rtts) rest = some (ofSamples (rtts ++ rest)) := by
  induction rest generalizing rtts with
  | nil => rw [Trace.exec_nil, List.append_nil]
  | cons rtt rest ih =>
    rw [Trace.exec_cons_of_step (addRTTSample_ofSamples rtts rtt), ih, List.append_assoc,
      List.singleton_append]

/-- Every sequence of calls from `&Stats{}` ends, without a panic, in the
statistics of its samples. -/
theorem exec_addRTTSample (rtts : List Int64) :
    Trace.exec addRTTSample zero rtts = some (ofSamples rtts) := by
  rw [← ofSamples_nil, exec_ofSamples, List.nil_append]

/-- While the integer sum of the samples kept fits in an `int64`, the running
sum is that sum and the average is its quotient truncated toward zero. -/
theorem averaged_toInt (rtt : Int64) {window : List Int64} (nonempty : 0 < window.length)
    (few : window.length ≤ 20)
    (fits : (window.map Int64.toInt).sum < 2 ^ 63 ∧ -2 ^ 63 ≤ (window.map Int64.toInt).sum) :
    (averaged rtt window).rttSum.toInt = (window.map Int64.toInt).sum ∧
      (averaged rtt window).rttAvg.toInt = (window.map Int64.toInt).sum.tdiv window.length := by
  have summed := Int64.toInt_sum_of_fits fits
  have count : (Int64.ofNat window.length).toInt = window.length :=
    Int64.toInt_ofNat_of_lt (by omega)
  refine ⟨summed, ?_⟩
  rw [averaged, Int64.toInt_div_of_pos _ (by omega), summed, count]

/-- Statistics as every run of `AddRTTSample` from `&Stats{}` leaves them: at
most twenty samples, with their sum as the running sum. -/
structure Kept where
  stats : Stats
  short : stats.rttSamples.length ≤ 20
  summed : stats.rttSum = stats.rttSamples.sum

namespace Kept

/-- `&Stats{}`. -/
def zero : Kept := ⟨Stats.zero, by decide, rfl⟩

theorem isSome_addRTTSample (s : Kept) (rtt : Int64) : (s.stats.addRTTSample rtt).isSome = true := by
  rw [addRTTSample_eq s.short s.summed]
  rfl

/-- `AddRTTSample` on kept statistics, where it never panics. -/
def addRTTSample (s : Kept) (rtt : Int64) : Kept where
  stats := (s.stats.addRTTSample rtt).get (s.isSome_addRTTSample rtt)
  short := by
    simp only [addRTTSample_eq s.short s.summed, Option.get_some, averaged]
    exact Recent.length_push_le s.short rtt
  summed := by simp only [addRTTSample_eq s.short s.summed, Option.get_some, averaged]

theorem addRTTSample_stats (s : Kept) (rtt : Int64) :
    s.stats.addRTTSample rtt = some (s.addRTTSample rtt).stats := by
  simp [addRTTSample]

end Kept

/-- The statistics after the samples `rtts` and then `rtt`: the last twenty
samples, the `int64` sum of them and that sum divided by their number, with no
panic on the way; and, while the integer sum of the twenty fits, that sum and
its truncated quotient. -/
theorem addRTTSample_window (rtts : List Int64) (rtt : Int64) :
    Trace.exec addRTTSample zero (rtts ++ [rtt]) =
        some
          { rttCurrent := rtt,
            rttAvg := ((rtts ++ [rtt]).rtake 20).sum / Int64.ofNat (min (rtts ++ [rtt]).length 20),
            rttSamples := (rtts ++ [rtt]).rtake 20, rttSum := ((rtts ++ [rtt]).rtake 20).sum } ∧
      ((rtts ++ [rtt]).rtake 20).length = min (rtts ++ [rtt]).length 20 ∧
      ((((rtts ++ [rtt]).rtake 20).map Int64.toInt).sum < 2 ^ 63 ∧
          -2 ^ 63 ≤ (((rtts ++ [rtt]).rtake 20).map Int64.toInt).sum →
        ((rtts ++ [rtt]).rtake 20).sum.toInt = (((rtts ++ [rtt]).rtake 20).map Int64.toInt).sum ∧
          (((rtts ++ [rtt]).rtake 20).sum / Int64.ofNat (min (rtts ++ [rtt]).length 20)).toInt =
            (((rtts ++ [rtt]).rtake 20).map Int64.toInt).sum.tdiv
              (min (rtts ++ [rtt]).length 20 : Nat)) := by
  have kept := Recent.length_rtake (rtts ++ [rtt]) 20
  have nonempty : 0 < ((rtts ++ [rtt]).rtake 20).length := by
    rw [kept, List.length_append, List.length_singleton]
    omega
  refine ⟨?_, kept, fun fits => ?_⟩
  · rw [exec_addRTTSample, ofSamples_concat, averaged, kept]
  · rw [← kept]
    exact averaged_toInt rtt nonempty (by omega) fits

/-- The samples of the sliding-window test: 1 ms to 24 ms, then 25 ms. -/
def slidingSamples : List Int64 := (List.range 24).map fun i => Int64.ofNat ((i + 1) * 1000000)

theorem addRTTSample_window_sliding :
    let samples := slidingSamples ++ [25000000]
    let window := samples.rtake 20
    ((window.map Int64.toInt).sum < 2 ^ 63 ∧ -2 ^ 63 ≤ (window.map Int64.toInt).sum) ∧
      window.sum.toInt = (window.map Int64.toInt).sum ∧
        (window.sum / Int64.ofNat (min samples.length 20)).toInt =
          (window.map Int64.toInt).sum.tdiv (min samples.length 20 : Nat) := by
  intro samples window
  have fits : (window.map Int64.toInt).sum < 2 ^ 63 ∧ -2 ^ 63 ≤ (window.map Int64.toInt).sum := by
    decide
  exact ⟨fits, (addRTTSample_window slidingSamples 25000000).2.2 fits⟩

example : (Trace.exec addRTTSample zero (slidingSamples ++ [25000000])).map rttAvg = some 15500000 := by
  decide

end Stats

end XbsLink.Bridge
