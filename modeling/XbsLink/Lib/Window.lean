import Mathlib.Data.List.Sort

/-!
# A high-water-mark receiver

The abstract receiver of an authenticated, numbered stream: it keeps the
highest number it has accepted, its mark, and accepts an arriving item when the
item is authentic and numbered above the mark.  Items may arrive in any order,
any number of times, or not at all.

What it accepts is authentic and strictly increasing in number
(`pairwise_accepted`).  When every authentic item that arrives belongs to one
stream numbered in strictly increasing order, what it accepts is a sub-stream
of it: in the stream's order, with nothing twice (`accepted_sublist`).  When
the stream itself arrives, above the mark, all of it is accepted
(`accepted_of_increasing`).
-/

namespace Window

variable {α β : Type*} [LinearOrder β]

/-- The items a receiver whose mark starts at `mark` accepts from `arrivals`. -/
def accepted (authentic : α → Prop) [DecidablePred authentic] (seq : α → β) :
    β → List α → List α
  | _, [] => []
  | mark, item :: rest =>
      if authentic item ∧ mark < seq item then item :: accepted authentic seq (seq item) rest
      else accepted authentic seq mark rest

variable {authentic : α → Prop} [DecidablePred authentic] {seq : α → β}

/-- An accepted item arrived, is authentic, and is numbered above the mark. -/
theorem mem_accepted {mark : β} {arrivals : List α} {item : α}
    (member : item ∈ accepted authentic seq mark arrivals) :
    item ∈ arrivals ∧ authentic item ∧ mark < seq item := by
  induction arrivals generalizing mark with
  | nil => cases member
  | cons first rest ih =>
      rw [accepted] at member
      split_ifs at member with taken
      · rcases List.mem_cons.mp member with rfl | later
        · exact ⟨List.mem_cons_self, taken⟩
        · obtain ⟨arrived, authenticItem, above⟩ := ih later
          exact ⟨List.mem_cons_of_mem _ arrived, authenticItem, taken.2.trans above⟩
      · obtain ⟨arrived, authenticItem, above⟩ := ih member
        exact ⟨List.mem_cons_of_mem _ arrived, authenticItem, above⟩

theorem pairwise_accepted (mark : β) (arrivals : List α) :
    (accepted authentic seq mark arrivals).Pairwise (fun x y => seq x < seq y) := by
  induction arrivals generalizing mark with
  | nil => exact List.Pairwise.nil
  | cons first rest ih =>
      rw [accepted]
      split_ifs with taken
      · exact List.Pairwise.cons (fun later member => (mem_accepted member).2.2) (ih _)
      · exact ih mark

/-- Whatever order, loss and duplication the items arrive with, if every
authentic one belongs to `stream`, numbered in strictly increasing order, the
receiver accepts a sub-stream of `stream`. -/
theorem accepted_sublist {stream : List α}
    (sorted : stream.Pairwise (fun x y => seq x < seq y)) (mark : β) {arrivals : List α}
    (within : ∀ item ∈ arrivals, authentic item → item ∈ stream) :
    (accepted authentic seq mark arrivals).Sublist stream := by
  have increasing : (accepted authentic seq mark arrivals).Pairwise (fun x y => seq x < seq y) :=
    pairwise_accepted mark arrivals
  have subset : ∀ item ∈ accepted authentic seq mark arrivals, item ∈ stream := by
    intro item member
    obtain ⟨arrived, authenticItem, -⟩ := mem_accepted member
    exact within item arrived authenticItem
  have nodup : (accepted authentic seq mark arrivals).Nodup :=
    increasing.imp fun below same => (same ▸ below).ne rfl
  have : Std.Antisymm (fun x y : α => seq x < seq y) :=
    ⟨fun _ _ below above => absurd (below.trans above) (lt_irrefl _)⟩
  exact List.sublist_of_subperm_of_pairwise (List.subperm_of_subset nodup subset) increasing sorted

/-- Arriving in order, authentic and above the mark, the stream is accepted
whole. -/
theorem accepted_of_increasing {mark : β} {arrivals : List α}
    (fresh : ∀ item ∈ arrivals, authentic item ∧ mark < seq item)
    (sorted : arrivals.Pairwise (fun x y => seq x < seq y)) :
    accepted authentic seq mark arrivals = arrivals := by
  induction arrivals generalizing mark with
  | nil => rfl
  | cons first rest ih =>
      rw [List.pairwise_cons] at sorted
      rw [accepted, if_pos (fresh first List.mem_cons_self)]
      exact congrArg (first :: ·) (ih (fun item member =>
        ⟨(fresh item (List.mem_cons_of_mem _ member)).1, sorted.1 item member⟩) sorted.2)

end Window
