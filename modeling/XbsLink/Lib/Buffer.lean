import Mathlib.Data.List.Basic

/-!
# A reused buffer and the slices that alias it

A read into a buffer copies its data over the buffer's first cells and leaves
the others as they were (`overwrite`).  A slice `buf[lo:hi]` copies nothing:
it shows whatever the buffer holds between its bounds at the time it is read
(`Slice.read`).  A slice within what the last read wrote shows the data of
that read, whatever the buffer held before (`read_overwrite_of_le`): the
slice of one datagram shows the next datagram once that covers it.
-/

namespace Buffer

variable {α : Type}

/-- `buf[lo:hi]`, as its bounds in the buffer. -/
structure Slice where
  lo : Nat
  hi : Nat
  deriving DecidableEq, Repr

/-- What a slice shows of the buffer now. -/
def Slice.read (s : Slice) (buf : List α) : List α := buf.extract s.lo s.hi

/-- A read of `data` into the start of `buf`. -/
def overwrite (buf data : List α) : List α := data ++ buf.drop data.length

theorem length_overwrite (buf data : List α) :
    (overwrite buf data).length = max data.length buf.length := by
  rw [overwrite, List.length_append, List.length_drop]
  omega

/-- A slice within what a read wrote shows the data read, whatever the buffer
held before. -/
theorem read_overwrite_of_le {s : Slice} {data : List α} (within : s.hi ≤ data.length)
    (buf : List α) : s.read (overwrite buf data) = s.read data := by
  rw [Slice.read, Slice.read, List.extract_eq_take_drop, List.extract_eq_take_drop, overwrite]
  by_cases ordered : s.lo ≤ data.length
  · rw [List.drop_append_of_le_length ordered,
      List.take_append_of_le_length (by rw [List.length_drop]; omega)]
  · have empty : s.hi - s.lo = 0 := by omega
    rw [empty, List.take_zero, List.take_zero]

theorem length_read (s : Slice) {buf : List α} (within : s.hi ≤ buf.length) :
    (s.read buf).length = s.hi - s.lo := by
  rw [Slice.read, List.extract_eq_take_drop, List.length_take, List.length_drop]
  omega

end Buffer
