import Mathlib.Data.List.Basic
import Mathlib.Algebra.GroupWithZero.Nat

/-!
# Runs of a labelled transition system

A system given by a partial, deterministic step function
`step : σ → α → Option σ`: the label says who moves and carries whatever the
environment supplies, and `none` means the label is not enabled in that
state.  `exec` runs a list of labels, and a state is reachable when some list
of labels leads to it.

A predicate is `Preserved` by the labels a filter admits when every enabled
step with such a label keeps it; `Preserved.exec` carries it along every run
made of admitted labels.  Taking the filter that admits every label gives the
invariants of the system.  A filter that forbids some environment action (a
cancellation, a reset) states what holds for as long as the environment
refrains from it.

A condition on the states a run passes through (a schedule that never lets
two threads overlap, a counter that stays below its bound) is `Along` the
run; `PreservedWhen` states what a step keeps from a state where the
condition holds, and `PreservedWhen.exec` is its induction rule.  A condition
on the steps themselves, on the state and the label together (a step that
never overwrites what another thread still reads), is `AlongSteps` the run,
and `PreservedOn.exec` is the induction rule of what the steps it admits
keep; the two rules above are its cases.  A measure
that grows by at most one a step stays below a bound along every run short
enough to respect it.

What an observer sees of a run is often when some part of the state, a key,
changes: `changes` lists the states right after each step that changes it.
When every change moves the key along a relation, the keys it takes form a
chain of that relation from the key it started with (`changes_isChain`).

What a run hands on is `outputs`: each step's share, read off the state it is
taken in.  A property of a state and of what the run has handed on so far
that every step keeps holds at the end of every run (`outputs_induction`), and
one that the steps a condition admits keep holds at the end of every run along
which the condition holds (`outputs_induction_on`).

A measure that every step lowers by one counts the steps of every run from a
state, and so bounds how long the system can go on (`length_add_of_lowers`).
A measure that a step raises by at most a weight of its label stays within
the weights of a run's labels (`le_add_sum_of_growth`).

A relation between the states of two systems, where each step of the first
is matched by a run of the second from a related state to a related state,
matches every run of the first by the runs of its labels joined
(`exec_simulation`).
-/

namespace Trace

variable {σ α : Type} (step : σ → α → Option σ)

/-- The state after a list of labels, if each is enabled in turn. -/
def exec : σ → List α → Option σ
  | s, [] => some s
  | s, a :: rest => (step s a).bind fun next => exec next rest

/-- A state some run from `init` leads to. -/
def Reachable (init s : σ) : Prop := ∃ actions, exec step init actions = some s

/-- Every enabled step whose label `allowed` admits keeps `P`. -/
def Preserved (allowed : α → Prop) (P : σ → Prop) : Prop :=
  ∀ s a next, allowed a → P s → step s a = some next → P next

/-- Every enabled step keeps `P`. -/
def Invariant (P : σ → Prop) : Prop := Preserved step (fun _ => True) P

/-- `Q` holds at every state of a run from which it takes a step. -/
def Along (Q : σ → Prop) : σ → List α → Prop
  | _, [] => True
  | s, a :: rest => Q s ∧ ∀ next, step s a = some next → Along Q next rest

/-- `Along` for a decidable condition, as a computation. -/
def checkAlong (q : σ → Bool) : σ → List α → Bool
  | _, [] => true
  | s, a :: rest =>
      q s && match step s a with
        | some next => checkAlong q next rest
        | none => true

/-- The states right after each step that changes `key`, along a run. -/
def changes {κ : Type} [DecidableEq κ] (key : σ → κ) : σ → List α → Option (List σ)
  | _, [] => some []
  | s, a :: rest => (step s a).bind fun next =>
      (changes key next rest).map fun later => if key next = key s then later else next :: later

/-- What a run hands on: `out s a` for each step, from the state it is taken in. -/
def outputs {β : Type} (out : σ → α → List β) : σ → List α → Option (List β)
  | _, [] => some []
  | s, a :: rest => (step s a).bind fun next => (outputs out next rest).map (out s a ++ ·)

/-- Every enabled step from a state where `Q` holds keeps `P`. -/
def PreservedWhen (Q P : σ → Prop) : Prop :=
  ∀ s a next, Q s → P s → step s a = some next → P next

/-- `Q` holds of every step a run takes, of its state and its label. -/
def AlongSteps (Q : σ → α → Prop) : σ → List α → Prop
  | _, [] => True
  | s, a :: rest => Q s a ∧ ∀ next, step s a = some next → AlongSteps Q next rest

/-- Every enabled step that `Q` admits keeps `P`. -/
def PreservedOn (Q : σ → α → Prop) (P : σ → Prop) : Prop :=
  ∀ s a next, Q s a → P s → step s a = some next → P next

variable {step}

@[simp] theorem exec_nil (s : σ) : exec step s [] = some s := rfl

theorem exec_cons (s : σ) (a : α) (rest : List α) :
    exec step s (a :: rest) = (step s a).bind fun next => exec step next rest := rfl

theorem exec_cons_of_step {s next : σ} {a : α} (stepped : step s a = some next)
    (rest : List α) : exec step s (a :: rest) = exec step next rest := by
  rw [exec_cons, stepped, Option.bind_some]

theorem exec_append (s : σ) (front back : List α) :
    exec step s (front ++ back) = (exec step s front).bind fun middle => exec step middle back := by
  induction front generalizing s with
  | nil => rfl
  | cons a rest ih =>
      rw [List.cons_append, exec_cons, exec_cons]
      cases step s a with
      | none => rfl
      | some next => exact ih next

theorem exec_append_of_exec {s middle : σ} {front : List α}
    (ran : exec step s front = some middle) (back : List α) :
    exec step s (front ++ back) = exec step middle back := by
  rw [exec_append, ran, Option.bind_some]

theorem AlongSteps.of_forall {Q : σ → α → Prop} {s : σ} {actions : List α}
    (holds : ∀ s, ∀ a ∈ actions, Q s a) : AlongSteps step Q s actions := by
  induction actions generalizing s with
  | nil => trivial
  | cons a rest ih =>
      exact ⟨holds s a List.mem_cons_self,
        fun next _ => ih fun s b member => holds s b (List.mem_cons_of_mem a member)⟩

theorem AlongSteps.and {Q R : σ → α → Prop} {s : σ} {actions : List α}
    (left : AlongSteps step Q s actions) (right : AlongSteps step R s actions) :
    AlongSteps step (fun x a => Q x a ∧ R x a) s actions := by
  induction actions generalizing s with
  | nil => trivial
  | cons a rest ih =>
      obtain ⟨holdsQ, laterQ⟩ := left
      obtain ⟨holdsR, laterR⟩ := right
      exact ⟨⟨holdsQ, holdsR⟩, fun next stepped => ih (laterQ next stepped) (laterR next stepped)⟩

/-- The induction rule of `PreservedOn`: what the admitted steps keep holds
after every run all of whose steps are admitted. -/
theorem PreservedOn.exec {Q : σ → α → Prop} {P : σ → Prop} (preserved : PreservedOn step Q P)
    {s t : σ} {actions : List α} (holds : P s) (along : AlongSteps step Q s actions)
    (ran : Trace.exec step s actions = some t) : P t := by
  induction actions generalizing s with
  | nil =>
      cases ran
      exact holds
  | cons a rest ih =>
      obtain ⟨here, later⟩ := along
      rw [exec_cons] at ran
      cases stepped : step s a with
      | none => rw [stepped] at ran; cases ran
      | some next =>
          rw [stepped, Option.bind_some] at ran
          exact ih (preserved s a next here holds stepped) (later next stepped) ran

/-- The induction rule of a preserved predicate: it holds after every run
made of admitted labels. -/
theorem Preserved.exec {allowed : α → Prop} {P : σ → Prop} (preserved : Preserved step allowed P)
    {s t : σ} {actions : List α} (holds : P s) (admitted : ∀ a ∈ actions, allowed a)
    (ran : Trace.exec step s actions = some t) : P t :=
  PreservedOn.exec (Q := fun _ a => allowed a) preserved holds
    (AlongSteps.of_forall fun _ => admitted) ran

theorem Invariant.exec {P : σ → Prop} (invariant : Invariant step P) {s t : σ}
    {actions : List α} (holds : P s) (ran : Trace.exec step s actions = some t) : P t :=
  Preserved.exec invariant holds (fun _ _ => trivial) ran

theorem Invariant.reachable {P : σ → Prop} (invariant : Invariant step P) {init s : σ}
    (holds : P init) (reachable : Reachable step init s) : P s := by
  obtain ⟨actions, ran⟩ := reachable
  exact invariant.exec holds ran

theorem Along.and {Q R : σ → Prop} {s : σ} {actions : List α} (left : Along step Q s actions)
    (right : Along step R s actions) : Along step (fun x => Q x ∧ R x) s actions := by
  induction actions generalizing s with
  | nil => trivial
  | cons a rest ih =>
      obtain ⟨holdsQ, laterQ⟩ := left
      obtain ⟨holdsR, laterR⟩ := right
      exact ⟨⟨holdsQ, holdsR⟩, fun next stepped => ih (laterQ next stepped) (laterR next stepped)⟩

theorem Along.of_check {q : σ → Bool} {s : σ} {actions : List α}
    (checked : checkAlong step q s actions = true) : Along step (fun x => q x = true) s actions := by
  induction actions generalizing s with
  | nil => trivial
  | cons a rest ih =>
      rw [checkAlong, Bool.and_eq_true] at checked
      refine ⟨checked.1, fun next stepped => ih ?_⟩
      simpa [stepped] using checked.2

theorem Along.alongSteps {Q : σ → Prop} {s : σ} {actions : List α} (along : Along step Q s actions) :
    AlongSteps step (fun x _ => Q x) s actions := by
  induction actions generalizing s with
  | nil => trivial
  | cons a rest ih => exact ⟨along.1, fun next stepped => ih (along.2 next stepped)⟩

/-- The induction rule of `PreservedWhen`. -/
theorem PreservedWhen.exec {Q P : σ → Prop} (preserved : PreservedWhen step Q P) {s t : σ}
    {actions : List α} (holds : P s) (along : Along step Q s actions)
    (ran : Trace.exec step s actions = some t) : P t :=
  PreservedOn.exec (Q := fun x _ => Q x) preserved holds along.alongSteps ran

/-- A measure that a step raises by at most one stays below `bound` at every
state a run of at most `bound - f s` steps takes a step from. -/
theorem along_lt_of_le_add_one {f : σ → Nat} {bound : Nat}
    (growth : ∀ s a next, step s a = some next → f next ≤ f s + 1) {s : σ} {actions : List α}
    (budget : f s + actions.length ≤ bound) : Along step (fun x => f x < bound) s actions := by
  induction actions generalizing s with
  | nil => trivial
  | cons a rest ih =>
      rw [List.length_cons] at budget
      refine ⟨by omega, fun next stepped => ih ?_⟩
      have grown := growth s a next stepped
      omega

/-- Keys that change only along `r` take a chain of `r` from where they start. -/
theorem changes_isChain {κ : Type} [DecidableEq κ] {key : σ → κ} {r : κ → κ → Prop}
    (moves : ∀ s a next, step s a = some next → key next ≠ key s → r (key s) (key next))
    {s : σ} {actions : List α} {later : List σ} (ran : changes step key s actions = some later) :
    List.IsChain r (key s :: later.map key) := by
  induction actions generalizing s later with
  | nil =>
      cases ran
      exact List.IsChain.singleton _
  | cons a rest ih =>
      rw [changes] at ran
      cases stepped : step s a with
      | none => rw [stepped] at ran; cases ran
      | some next =>
          rw [stepped, Option.bind_some] at ran
          obtain ⟨after, ranOn, rfl⟩ := Option.map_eq_some_iff.mp ran
          have chained := ih ranOn
          by_cases same : key next = key s
          · rw [if_pos same]
            rwa [same] at chained
          · rw [if_neg same, List.map_cons]
            exact List.isChain_cons_cons.mpr ⟨moves s a next stepped same, chained⟩

/-- The induction rule of `outputs` along the steps `Q` admits: a property of
what has been handed on and of the state, kept by every admitted step. -/
theorem outputs_induction_on {β : Type} {out : σ → α → List β} {Q : σ → α → Prop}
    {P : List β → σ → Prop}
    (preserved : ∀ done s a next, Q s a → P done s → step s a = some next →
      P (done ++ out s a) next)
    {done : List β} {s t : σ} {actions : List α} (holds : P done s)
    (along : AlongSteps step Q s actions) (ran : exec step s actions = some t) :
    ∃ later, outputs step out s actions = some later ∧ P (done ++ later) t := by
  induction actions generalizing s done with
  | nil =>
      cases ran
      exact ⟨[], rfl, by rwa [List.append_nil]⟩
  | cons a rest ih =>
      obtain ⟨here, along⟩ := along
      rw [exec_cons] at ran
      cases stepped : step s a with
      | none => rw [stepped] at ran; cases ran
      | some next =>
          rw [stepped, Option.bind_some] at ran
          obtain ⟨later, handed, kept⟩ :=
            ih (preserved done s a next here holds stepped) (along next stepped) ran
          refine ⟨out s a ++ later, ?_, ?_⟩
          · rw [outputs, stepped, Option.bind_some, handed, Option.map_some]
          · rwa [← List.append_assoc]

/-- The induction rule of `outputs`: a property of what has been handed on
and of the state, kept by every step. -/
theorem outputs_induction {β : Type} {out : σ → α → List β} {P : List β → σ → Prop}
    (preserved : ∀ done s a next, P done s → step s a = some next → P (done ++ out s a) next)
    {done : List β} {s t : σ} {actions : List α} (holds : P done s)
    (ran : exec step s actions = some t) :
    ∃ later, outputs step out s actions = some later ∧ P (done ++ later) t :=
  outputs_induction_on (Q := fun _ _ => True) (fun done s a next _ => preserved done s a next)
    holds (AlongSteps.of_forall fun _ _ _ => trivial) ran

/-- A measure that every step from a state where `P` holds lowers by one, and
after which `P` still holds, counts the steps of every run. -/
theorem length_add_of_lowers {f : σ → Nat} {P : σ → Prop}
    (lowers : ∀ s a next, P s → step s a = some next → P next ∧ f next + 1 = f s)
    {s t : σ} {actions : List α} (holds : P s) (ran : exec step s actions = some t) :
    actions.length + f t = f s ∧ P t := by
  induction actions generalizing s with
  | nil =>
      cases ran
      exact ⟨Nat.zero_add _, holds⟩
  | cons a rest ih =>
      rw [exec_cons] at ran
      cases stepped : step s a with
      | none => rw [stepped] at ran; cases ran
      | some next =>
          rw [stepped, Option.bind_some] at ran
          obtain ⟨kept, lowered⟩ := lowers s a next holds stepped
          obtain ⟨counted, atEnd⟩ := ih kept ran
          refine ⟨?_, atEnd⟩
          rw [List.length_cons]
          omega

/-- A measure that a step raises by at most the weight of its label grows
along a run by at most the weights of its labels. -/
theorem le_add_sum_of_growth {f : σ → Nat} {w : α → Nat}
    (growth : ∀ s a next, step s a = some next → f next ≤ f s + w a)
    {s t : σ} {actions : List α} (ran : exec step s actions = some t) :
    f t ≤ f s + (actions.map w).sum := by
  induction actions generalizing s with
  | nil =>
      cases ran
      exact Nat.le_add_right _ _
  | cons a rest ih =>
      rw [exec_cons] at ran
      cases stepped : step s a with
      | none => rw [stepped] at ran; cases ran
      | some next =>
          rw [stepped, Option.bind_some] at ran
          have grown := growth s a next stepped
          have later := ih ran
          rw [List.map_cons, List.sum_cons]
          omega

/-- A simulation: when each step of `step` from a state related to `u` is
matched by the run `labels a` of `step'` from `u`, to a related state, every
run is matched by its labels' runs joined. -/
theorem exec_simulation {τ β : Type} {step' : τ → β → Option τ} {R : σ → τ → Prop}
    {labels : α → List β}
    (matched : ∀ s a next u, R s u → step s a = some next →
      ∃ u', exec step' u (labels a) = some u' ∧ R next u')
    {s t : σ} {u : τ} {actions : List α} (related : R s u) (ran : exec step s actions = some t) :
    ∃ u', exec step' u (actions.flatMap labels) = some u' ∧ R t u' := by
  induction actions generalizing s u with
  | nil =>
      cases ran
      exact ⟨u, rfl, related⟩
  | cons a rest ih =>
      rw [exec_cons] at ran
      cases stepped : step s a with
      | none => rw [stepped] at ran; cases ran
      | some next =>
          rw [stepped, Option.bind_some] at ran
          obtain ⟨middle, ranFirst, relatedNext⟩ := matched s a next u related stepped
          obtain ⟨u', ranRest, relatedEnd⟩ := ih relatedNext ran
          refine ⟨u', ?_, relatedEnd⟩
          rw [List.flatMap_cons, exec_append_of_exec ranFirst]
          exact ranRest

end Trace
