import Folio.Diagnostic
import Folio.Media.FilePath

/-!
# Batches

A job is done for each of several items. The failure of one may leave the others to be done, or end
the batch; a batch that is cancelled begins no further item and fails as a whole if an item is left.
-/

namespace Folio

/-- How a batch is run. -/
structure BatchSettings where
  /-- How many items may be worked on at a time; what is done does not depend on it. -/
  parallelism : Nat := 1
  /-- The failure of an item does not end the batch. -/
  ignoreErrors : Bool := true
  deriving DecidableEq, Repr, Inhabited

/-- The settings in words, for a log: whether someone receives the errors and the progress, and
whether the batch has been cancelled. -/
def BatchSettings.describe (settings : BatchSettings) (watchesErrors watchesProgress : Bool)
    (cancelled : Bool) : String :=
  "BatchOptions \x7b parallelism: " ++ settings.parallelism.repr ++ ", ignore_errors: " ++
    ErrorPolicy.flagText settings.ignoreErrors ++ ", on_error: " ++
    ErrorPolicy.flagText watchesErrors ++ ", progress: " ++
    ErrorPolicy.flagText watchesProgress ++ ", cancel: CancelToken(" ++
    ErrorPolicy.flagText cancelled ++ ") \x7d"

/-- What a job did: its result, and whether it cancelled the batch. -/
structure JobOutcome where
  result : Except Diagnostic Unit
  cancels : Bool := false

/-- The failure of an item. -/
structure BatchFailure where
  index : Nat
  error : Diagnostic
  deriving DecidableEq, Repr

/-- What came of the items. -/
structure BatchReport where
  total : Nat
  succeeded : Nat
  failures : List BatchFailure
  deriving DecidableEq, Repr

/-- Every item succeeded. -/
def BatchReport.isSuccess (report : BatchReport) : Bool := report.failures.isEmpty

/-- What whoever watches a batch is told. -/
inductive BatchCall where
  /-- An item has failed. -/
  | failed (error : Diagnostic)
  /-- So many items are finished. -/
  | finished (count : Nat)
  deriving DecidableEq, Repr

/-- A batch that has been run in part. -/
structure Batch where
  cancelled : Bool := false
  succeeded : Nat := 0
  failures : List BatchFailure := []
  /-- The items that were not begun. -/
  skipped : Nat := 0
  /-- The failure that ended the batch. -/
  ended : Option Diagnostic := none
  /-- The items that were finished. -/
  finished : Nat := 0
  /-- What was told, in order. -/
  calls : List BatchCall := []

namespace Batch

/-- A further item may be begun. -/
def isOpen (batch : Batch) : Bool := !batch.cancelled && batch.ended.isNone

/-- The batch after an item that was not begun. -/
def skip (batch : Batch) : Batch := { batch with skipped := batch.skipped + 1 }

/-- The batch with one more item finished, which is told. -/
def finish (batch : Batch) : Batch :=
  let finished := batch.finished + 1
  { batch with finished, calls := batch.calls ++ [.finished finished] }

/-- The batch after the job of an item. A failure is told before the item counts as finished. -/
def record (settings : BatchSettings) (batch : Batch) (index : Nat) (outcome : JobOutcome) : Batch :=
  let batch := { batch with cancelled := outcome.cancels }
  match outcome.result with
  | .ok () => finish { batch with succeeded := batch.succeeded + 1 }
  | .error e =>
    let batch := { batch with calls := batch.calls ++ [BatchCall.failed e] }
    if settings.ignoreErrors then finish { batch with failures := batch.failures ++ [⟨index, e⟩] }
    else finish { batch with ended := some e, skipped := batch.skipped + 1 }

/-- The batch after one more item. -/
def step [Monad m] (settings : BatchSettings) (job : α → m JobOutcome) (batch : Batch)
    (entry : α × Nat) : m Batch := do
  if batch.isOpen then return batch.record settings entry.2 (← job entry.1)
  else return batch.skip

/-- The batch after all items. -/
def runAll [Monad m] (settings : BatchSettings) (job : α → m JobOutcome) (items : List α)
    (batch : Batch) : m Batch :=
  items.zipIdx.foldlM (step settings job) batch

/-- What came of a batch of so many items. -/
def report (batch : Batch) (total : Nat) : Except Diagnostic BatchReport :=
  match batch.ended with
  | some e => .error e
  | none =>
    if batch.skipped > 0 then .error .cancellation
    else .ok ⟨total, batch.succeeded, batch.failures⟩

/-- The errors that were told, in order. -/
def reported (batch : Batch) : List Diagnostic :=
  batch.calls.filterMap fun
    | .failed e => some e
    | .finished _ => none

/-- The progress that was told, in order: how many items of how many were finished. -/
def progress (batch : Batch) (total : Nat) : List (Nat × Nat) :=
  batch.calls.filterMap fun
    | .failed _ => none
    | .finished count => some (count, total)

/-- Does a job for each item, and says what came of it. -/
def run [Monad m] (settings : BatchSettings) (job : α → m JobOutcome) (items : List α)
    (cancelled : Bool) : m (Except Diagnostic BatchReport × Batch) := do
  let batch ← runAll settings job items { cancelled }
  return (batch.report items.length, batch)

end Batch

/-- Where the converted form of a file goes in a directory. -/
def outputPath (input dir : List Char) (extension : List Char) : List Char :=
  FilePath.join dir ((FilePath.stem input).getD "output".toList ++ '.' :: extension)

end Folio
