/-
This file is about the tasks of `ThreadPool`: what `PostUntil` accepts is executed once, and
nothing else is.

`PostUntil`, `PopTask` and `Stop` decide under the mutex. A call of `PostUntil` that finds
the queue full waits and decides again when it has the mutex back, with its deadline passed
or not. A worker pops a task, executes it, whatever its deadline and however it ends, and
counts it; it leaves its loop only when the pool is stopping and the queue is empty, and no
task comes into the queue of a stopping pool. A task stands here with the number of the call
that brought it.
-/

import Mathlib
import Wimi.Lib.Transition
import Wimi.Lib.Lists

namespace Wimi.Server

open List Transition

/-! ### The pool -/

inductive PostStatus where
  | accepted
  | timedOut
  | stopped
deriving DecidableEq, Repr

inductive PostCall where
  | waiting (taskDeadline : Option Int)
  | returned (status : PostStatus)
deriving DecidableEq, Repr

structure TaskEntry where
  task : Nat
  deadline : Option Int
deriving DecidableEq, Repr

inductive WorkerState where
  | idle
  | popped (entry : TaskEntry)
  | executing (task : Nat)
  | exited
deriving DecidableEq, Repr

namespace WorkerState

def busy : WorkerState → Bool
  | .popped _ | .executing _ => true
  | _ => false

def holds (task : Nat) : WorkerState → Bool
  | .popped entry => entry.task = task
  | _ => false

end WorkerState

open WorkerState

/-- The pool, with the calls of `PostUntil` and the tasks that were called. `joined` says that the
first `Stop` has joined all workers. -/
structure ThreadPool where
  maxQueueSize : Nat
  workers : List WorkerState
  queue : List TaskEntry := []
  stopping : Bool := false
  joined : Bool := false
  submitted : Nat := 0
  completed : Nat := 0
  rejected : Nat := 0
  acquireTimeouts : Nat := 0
  expired : Nat := 0
  calls : List PostCall := []
  executed : List Nat := []
deriving DecidableEq, Repr

namespace ThreadPool

def create (workerCount maxQueueSize : Nat) : ThreadPool :=
  { maxQueueSize, workers := replicate (max 1 workerCount) .idle }

variable (pool : ThreadPool)

def push (call : Nat) (deadline : Option Int) : ThreadPool :=
  { pool with
    queue := pool.queue ++ [⟨call, deadline⟩]
    submitted := pool.submitted + 1 }

def postUntil (task : Bool) (taskDeadline : Option Int) : ThreadPool :=
  if task = false ∨ pool.stopping then
    { pool with calls := pool.calls ++ [.returned .stopped] }
  else if pool.maxQueueSize ≤ pool.queue.length then
    { pool with calls := pool.calls ++ [.waiting taskDeadline] }
  else
    { pool.push pool.calls.length taskDeadline with
      calls := pool.calls ++ [.returned .accepted] }

def wake (call : Nat) (taskDeadline : Option Int) (expired : Bool) : Option ThreadPool :=
  if pool.stopping then some { pool with calls := pool.calls.set call (.returned .stopped) }
  else if pool.queue.length < pool.maxQueueSize then
    some { pool.push call taskDeadline with calls := pool.calls.set call (.returned .accepted) }
  else if expired then
    some { pool with
      calls := pool.calls.set call (.returned .timedOut)
      rejected := pool.rejected + 1
      acquireTimeouts := pool.acquireTimeouts + 1 }
  else none

def popTask (worker : Nat) : Option ThreadPool :=
  match pool.queue with
  | entry :: rest =>
    some { pool with queue := rest, workers := pool.workers.set worker (.popped entry) }
  | [] =>
    if pool.stopping then some { pool with workers := pool.workers.set worker .exited } else none

def execute (worker : Nat) (entry : TaskEntry) (now : Int) : ThreadPool :=
  { pool with
    workers := pool.workers.set worker (.executing entry.task)
    expired := pool.expired + if entry.deadline.any (· ≤ now) then 1 else 0
    executed := pool.executed ++ [entry.task] }

def complete (worker : Nat) : ThreadPool :=
  { pool with workers := pool.workers.set worker .idle, completed := pool.completed + 1 }

inductive Action where
  | postUntil (task : Bool) (taskDeadline : Option Int)
  | wake (call : Nat) (expired : Bool)
  | popTask (worker : Nat)
  | execute (worker : Nat) (now : Int)
  | complete (worker : Nat)
  | stop
  | join
deriving DecidableEq, Repr

def step : Action → Option ThreadPool
  | .postUntil task taskDeadline => some (pool.postUntil task taskDeadline)
  | .wake call expired =>
    match pool.calls[call]? with
    | some (.waiting taskDeadline) => pool.wake call taskDeadline expired
    | _ => none
  | .popTask worker => if pool.workers[worker]? = some .idle then pool.popTask worker else none
  | .execute worker now =>
    match pool.workers[worker]? with
    | some (.popped entry) => some (pool.execute worker entry now)
    | _ => none
  | .complete worker =>
    match pool.workers[worker]? with
    | some (.executing _) => some (pool.complete worker)
    | _ => none
  | .stop => some { pool with stopping := true }
  | .join =>
    if pool.stopping ∧ ∀ worker ∈ pool.workers, worker = .exited then
      some { pool with joined := true }
    else none

/-! ### The invariant -/

variable {pool : ThreadPool} {size worker call : Nat}

structure Sound (size : Nat) (pool : ThreadPool) : Prop where
  limit : pool.maxQueueSize = size
  bounded : pool.queue.length ≤ size
  counted : pool.submitted =
    pool.completed + pool.workers.countP busy + pool.queue.length
  once : ∀ call, pool.executed.count call + pool.workers.countP (holds call) +
    pool.queue.countP (·.task = call) =
      if pool.calls[call]? = some (.returned .accepted) then 1 else 0
  ended : .exited ∈ pool.workers → pool.stopping = true ∧ pool.queue = []
  present : 0 < pool.workers.length
  joins : pool.joined = true → ∀ worker ∈ pool.workers, worker = .exited

theorem sound_create (workerCount : Nat) : Sound size (create workerCount size) where
  limit := rfl
  bounded := Nat.zero_le _
  counted := by simp [create, countP_replicate, busy]
  once call := by simp [create, holds]
  ended member := by simp [create] at member
  present := by simp [create]
  joins := by simp [create]

theorem Sound.answer (sound : Sound size pool) {calls : List PostCall} {answer : PostCall}
    (pending : pool.calls[call]? ≠ some (.returned .accepted))
    (after : ∀ other, calls[other]? = if other = call then some answer else pool.calls[other]?)
    (refuses : answer ≠ .returned .accepted) (rejected acquireTimeouts : Nat) :
    Sound size { pool with
      calls, rejected, acquireTimeouts } where
  limit := sound.limit
  bounded := sound.bounded
  counted := sound.counted
  once other := by
    have once := sound.once other
    grind
  ended := sound.ended
  present := sound.present
  joins := sound.joins

theorem Sound.accept (sound : Sound size pool) {calls : List PostCall} (deadline : Option Int)
    (pending : pool.calls[call]? ≠ some (.returned .accepted))
    (after : ∀ other,
      calls[other]? = if other = call then some (.returned .accepted) else pool.calls[other]?)
    (running : pool.stopping = false) (space : pool.queue.length < pool.maxQueueSize) :
    Sound size { pool.push call deadline with calls } where
  limit := sound.limit
  bounded := by
    have limit := sound.limit
    simp only [push, length_append, length_singleton]
    omega
  counted := by
    have counted := sound.counted
    simp only [push, length_append, length_singleton]
    omega
  once other := by
    have once := sound.once other
    simp only [push]
    grind
  ended member := absurd ((sound.ended member).1.symm.trans running) Bool.noConfusion
  present := sound.present
  joins := sound.joins

/-- A worker goes on; `ahead` is the front of the queue if it takes that. -/
theorem Sound.work (sound : Sound size pool) {before after : WorkerState} {queue : List TaskEntry}
    {completed expired : Nat} {executed : List Nat}
    (found : pool.workers[worker]? = some before)
    (shorter : queue.length ≤ pool.queue.length)
    (counts : completed + (if after.busy then 1 else 0) + queue.length =
      pool.completed + (if before.busy then 1 else 0) + pool.queue.length)
    (moves : ∀ task, executed.count task + (if after.holds task then 1 else 0) +
        queue.countP (·.task = task) =
      pool.executed.count task + (if before.holds task then 1 else 0) +
        pool.queue.countP (·.task = task))
    (exits : after = .exited → pool.stopping = true ∧ pool.queue = []) (runs : before ≠ .exited) :
    Sound size { pool with
      workers := pool.workers.set worker after, queue, completed,
      expired, executed } where
  limit := sound.limit
  bounded := shorter.trans sound.bounded
  counted := by
    have counted := sound.counted
    have busy := Lists.countP_set_add found after busy
    dsimp only
    omega
  once task := by
    have once := sound.once task
    have holds := Lists.countP_set_add found after (holds task)
    have moves := moves task
    dsimp only
    omega
  ended member := by
    have ended : pool.stopping = true ∧ pool.queue = [] := by
      obtain earlier | rfl := mem_or_eq_of_mem_set member
      · exact sound.ended earlier
      · exact exits rfl
    refine ⟨ended.1, length_eq_zero_iff.mp (Nat.le_zero.mp ?_)⟩
    exact shorter.trans (by simp [ended.2])
  present := by simpa using sound.present
  joins joined := absurd (sound.joins joined before (mem_of_getElem? found)) runs

theorem sound_step (pool : ThreadPool) (action : Action) (next : ThreadPool)
    (sound : Sound size pool) (taken : pool.step action = some next) : Sound size next := by
  cases action with simp only [step] at taken
  | postUntil task taskDeadline =>
    cases taken
    have pending : pool.calls[pool.calls.length]? ≠ some (.returned .accepted) := by simp
    have after (answer : PostCall) (other : Nat) : (pool.calls ++ [answer])[other]? =
        if other = pool.calls.length then some answer else pool.calls[other]? := by
      grind
    rw [postUntil]
    split_ifs with refused full
    · exact sound.answer pending (after _) (by simp) _ _
    · exact sound.answer pending (after _) (by simp) _ _
    · exact sound.accept _ pending (after _) (by simp_all) (not_le.mp full)
  | wake call expired =>
    split at taken
    · next taskDeadline found =>
      have pending : pool.calls[call]? ≠ some (.returned .accepted) := by simp [found]
      have after (answer : PostCall) (other : Nat) : (pool.calls.set call answer)[other]? =
          if other = call then some answer else pool.calls[other]? := by
        grind
      simp only [wake] at taken
      split_ifs at taken with stopped space late <;> cases taken
      · exact sound.answer pending (after _) (by simp) _ _
      · exact sound.accept _ pending (after _) (by simp_all) space
      · exact sound.answer pending (after _) (by simp) _ _
    · cases taken
  | popTask worker =>
    split_ifs at taken with found
    simp only [popTask] at taken
    split at taken
    · next entry rest queue =>
      cases taken
      refine sound.work found ?_ ?_ (fun task => ?_) (by simp) (by simp)
      · simp [queue]
      · simp only [queue, busy, length_cons, if_true, Bool.false_eq_true, if_false]
        omega
      · simp [queue, holds, countP_cons, Nat.add_assoc, Nat.add_comm]
    next queue =>
    split_ifs at taken with stopped
    cases taken
    exact sound.work found le_rfl (by simp [busy])
      (by simp [holds]) (fun _ => ⟨stopped, queue⟩) (by simp)
  | execute worker now =>
    split at taken <;> cases taken
    next entry found =>
      refine sound.work found le_rfl (by simp [busy]) (fun task => ?_) (by simp)
        (by simp)
      simp [holds, count_singleton]
  | complete worker =>
    split at taken <;> cases taken
    next task found =>
      exact sound.work found le_rfl (by simp [busy]) (by simp [holds])
        (by simp) (by simp)
  | stop =>
    cases taken
    exact { sound with ended := fun member => ⟨rfl, (sound.ended member).2⟩ }
  | join =>
    split_ifs at taken with ended
    cases taken
    exact { sound with joins := fun _ => ended.2 }

/-! ### Delivery -/

/-- In every run the queue keeps its bound and every submitted task is completed, running or
queued. When the first `Stop` has joined the workers, each accepted task was executed once; a task
whose call was not accepted never is. -/
theorem accepted_tasks_executed_once (workerCount maxQueueSize : Nat) {actions : List Action}
    {pool : ThreadPool}
    (taken : run step (create workerCount maxQueueSize) actions = some pool) :
    pool.queue.length ≤ maxQueueSize ∧
      pool.submitted = pool.completed + pool.workers.countP busy + pool.queue.length ∧
      (pool.joined = true → ∀ call, pool.calls[call]? = some (.returned .accepted) →
        pool.executed.count call = 1) ∧
      (∀ call status, pool.calls[call]? = some (.returned status) → status ≠ .accepted →
        call ∉ pool.executed) := by
  have sound := run_invariant (Sound maxQueueSize) sound_step (sound_create _) taken
  refine ⟨sound.bounded, sound.counted, fun joined call accepted => ?_,
    fun call status returned other => ?_⟩
  · have all := sound.joins joined
    have empty := (sound.ended (length_pos_iff_exists_mem.mp sound.present |>.elim
      fun worker member => all worker member ▸ member)).2
    have none : pool.workers.countP (holds call) = 0 :=
      countP_eq_zero.mpr fun worker member => by simp [all worker member, holds]
    have once := sound.once call
    rw [if_pos accepted, none, empty] at once
    exact once
  · have once := sound.once call
    rw [if_neg (by simp [returned, other])] at once
    exact count_eq_zero.mp (by omega)

/-- Two calls for a queue of one: the second waits until the worker has popped the first task, and
is accepted; a third comes after `Stop`. -/
def twoTasks : List Action :=
  [.postUntil true none, .postUntil true (some 5), .popTask 0, .wake 1 false, .stop,
    .postUntil true none, .execute 0 9, .complete 0, .popTask 0, .execute 0 9, .complete 0,
    .popTask 0, .join]

def poolAfter (actions : List Action) : ThreadPool :=
  (run step (create 1 1) actions).getD (create 1 1)

theorem accepted_tasks_executed_once_two :
    run step (create 1 1) twoTasks = some (poolAfter twoTasks) ∧
      (poolAfter twoTasks).executed.count 1 = 1 ∧ 2 ∉ (poolAfter twoTasks).executed := by
  have taken : run step (create 1 1) twoTasks = some (poolAfter twoTasks) := rfl
  obtain ⟨_, _, once, never⟩ := accepted_tasks_executed_once 1 1 taken
  exact ⟨taken, once rfl 1 rfl, never 2 .stopped rfl (by decide)⟩

end ThreadPool

end Wimi.Server
