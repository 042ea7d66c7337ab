import Mathlib.Data.List.Basic

/-!
# Searches in stages

A search that makes several passes over a list, each with its own test, and
returns the first item the first pass finds; a later pass runs only when every
earlier one has found nothing.  It is a loop per pass with an early return.

Searching a list of repacked items is searching the original list with the
tests read through the repacking (`staged_map`).
-/

namespace Search

variable {α β : Type*}

/-- The first item the first stage with a match accepts. -/
def staged : List (α → Bool) → List α → Option α
  | [], _ => none
  | stage :: later, items =>
      match items.find? stage with
      | some item => some item
      | none => staged later items

theorem staged_cons (stage : α → Bool) (later : List (α → Bool)) (items : List α) :
    staged (stage :: later) items = (items.find? stage).or (staged later items) := by
  rw [staged]
  cases items.find? stage <;> rfl

/-- Searching repacked items is searching the items with the tests read
through the repacking. -/
theorem staged_map (f : β → α) (stages : List (α → Bool)) (items : List β) :
    staged stages (items.map f) = (staged (stages.map (· ∘ f)) items).map f := by
  induction stages with
  | nil => rfl
  | cons stage later ih =>
    rw [List.map_cons, staged_cons, staged_cons, ih, List.find?_map]
    cases items.find? (stage ∘ f) <;> rfl

end Search
