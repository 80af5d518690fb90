import Folio.Batch

/-!
# Batches on several workers

With more than one worker several items of a batch are worked on at a time. Each worker does the items that are its own,
one after the other, and takes an item from stage to stage in atomic steps; between two steps of a worker the others may
take any number of theirs. The workers share what may stop them, the first error and the count of finished items.
-/

namespace Folio

/-- What came of an item. -/
inductive ItemOutcome where
  | done
  | failed (error : Diagnostic)
  /-- The item was not begun, or its failure is that of the batch. -/
  | skipped
  deriving DecidableEq, Repr

/-- How far an item has got. -/
inductive ItemStage where
  | waiting
  /-- The batch was not cancelled when the item's turn came. -/
  | admitted
  /-- Nor had it been stopped. -/
  | begun
  /-- The job has failed. -/
  | failed (error : Diagnostic)
  /-- The failure has been told, and ends the batch. -/
  | ending (error : Diagnostic)
  /-- The batch has been stopped. -/
  | stopping (error : Diagnostic)
  | settled (outcome : ItemOutcome)
  /-- The item was counted as the one of that number. -/
  | counted (outcome : ItemOutcome) (count : Nat)
  | closed (outcome : ItemOutcome)
  deriving DecidableEq, Repr

/-- What happens in a batch. -/
inductive BatchEvent where
  /-- The job of an item was done. -/
  | ran (index : Nat)
  | told (call : BatchCall)
  /-- The failure of an item was to be the first error. -/
  | recorded (index : Nat) (error : Diagnostic)
  deriving DecidableEq, Repr

/-- What the workers of a batch share. -/
structure Shared where
  cancelled : Bool := false
  /-- A failure has ended the batch. -/
  stopped : Bool := false
  firstError : Option Diagnostic := none
  /-- How many items are finished. -/
  completed : Nat := 0
  /-- What has happened, in order. -/
  history : List BatchEvent := []
  deriving DecidableEq, Repr

/-- The same with one more event. -/
def Shared.note (shared : Shared) (event : BatchEvent) : Shared :=
  { shared with history := shared.history ++ [event] }

/-- The next step of an item whose job has the given result. -/
def ItemStage.advance (settings : BatchSettings) (result : Except Diagnostic Unit) (index : Nat) (shared : Shared) :
    ItemStage → ItemStage × Shared
  | .waiting => (if shared.cancelled then .closed .skipped else .admitted, shared)
  | .admitted => (if shared.stopped then .closed .skipped else .begun, shared)
  | .begun =>
    match result with
    | .ok () => (.settled .done, shared.note (.ran index))
    | .error e => (.failed e, shared.note (.ran index))
  | .failed e =>
    (if settings.ignoreErrors then .settled (.failed e) else .ending e, shared.note (.told (.failed e)))
  | .ending e => (.stopping e, { shared with stopped := true })
  | .stopping e =>
    (.settled .skipped,
      { shared with firstError := shared.firstError.or (some e) }.note (.recorded index e))
  | .settled outcome =>
    (.counted outcome (shared.completed + 1), { shared with completed := shared.completed + 1 })
  | .counted outcome count => (.closed outcome, shared.note (.told (.finished count)))
  | .closed outcome => (.closed outcome, shared)

/-- Nothing is left to be done for the item. -/
def ItemStage.isOver : ItemStage → Bool
  | .closed _ => true
  | _ => false

/-- An item of a batch. -/
structure BatchTask (α : Type) where
  item : α
  stage : ItemStage := .waiting

/-- A batch that workers are at. -/
structure Pool (α : Type) where
  shared : Shared := {}
  /-- The items, in the order of the batch. -/
  tasks : List (BatchTask α)
  /-- For each worker the places of the items that are left to it; the first is the one it is at. -/
  queues : List (List Nat)

/-- Items are shared out: each goes to one worker, which has an order for them. -/
structure Assignment (count : Nat) where
  queues : List (List Nat)
  all : queues.flatten.Perm (List.range count)

/-- What may happen next: the batch is cancelled, or a worker does something. -/
inductive Move where
  | cancel
  | work (worker : Nat)
  deriving DecidableEq, Repr

namespace Pool

variable {α : Type}

/-- No item has been begun. -/
def start (items : List α) (assignment : Assignment items.length) : Pool α where
  tasks := items.map fun item => { item }
  queues := assignment.queues

/-- Nothing is left to be done for the item at the place. -/
def isOver (pool : Pool α) (index : Nat) : Bool :=
  match pool.tasks[index]? with
  | some task => task.stage.isOver
  | none => true

/-- The next step of the item at the place. -/
def advance (settings : BatchSettings) (job : α → Except Diagnostic Unit) (pool : Pool α) (index : Nat) : Pool α :=
  match pool.tasks[index]? with
  | none => pool
  | some task =>
    let (stage, shared) := task.stage.advance settings (job task.item) index pool.shared
    { pool with shared, tasks := pool.tasks.set index { task with stage } }

/-- The next step of a worker. It leaves an item that is over for the next of its own. -/
def work (settings : BatchSettings) (job : α → Except Diagnostic Unit) (pool : Pool α) (worker : Nat) : Pool α :=
  match pool.queues[worker]? with
  | some (index :: rest) =>
    if pool.isOver index then { pool with queues := pool.queues.set worker rest }
    else pool.advance settings job index
  | _ => pool

def move (settings : BatchSettings) (job : α → Except Diagnostic Unit) (pool : Pool α) : Move → Pool α
  | .cancel => { pool with shared := { pool.shared with cancelled := true } }
  | .work worker => pool.work settings job worker

/-- The pool after moves in a row. -/
def run (settings : BatchSettings) (job : α → Except Diagnostic Unit) (pool : Pool α) (moves : List Move) : Pool α :=
  moves.foldl (move settings job) pool

/-- No worker has an item left. -/
def isDone (pool : Pool α) : Bool := pool.queues.all (·.isEmpty)

/-- What came of the items that are over. -/
def batch (pool : Pool α) : Batch where
  cancelled := pool.shared.cancelled
  succeeded := pool.tasks.countP (·.stage = .closed .done)
  failures := pool.tasks.zipIdx.filterMap fun (task, index) =>
    match task.stage with
    | .closed (.failed error) => some { index, error }
    | _ => none
  skipped := pool.tasks.countP (·.stage = .closed .skipped)
  ended := pool.shared.firstError
  finished := pool.shared.completed
  calls := pool.shared.history.filterMap fun
    | .told call => some call
    | _ => none

/-- What came of the batch. -/
def report (pool : Pool α) : Except Diagnostic BatchReport := pool.batch.report pool.tasks.length

end Pool
end Folio
