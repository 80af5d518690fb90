import Mathlib.Algebra.Order.Ring.Nat
import Mathlib.Tactic.Common
import Folio.Proofs.Batch.InOrder
import Folio.Proofs.Batch.Workers

/-!
# Batches on several workers come to the same

When the workers have nothing left, each item has come to an outcome, and what comes of the batch follows from those.

* `Pool.exists_isDone` : any moves can be followed by others that finish the batch;
* `Batch.runJobs_of_ignores` : the batch run in order, to which the others are compared;
* `Valid.exists_outcome`, `Valid.not_skipped` : what came of the items;
* `Valid.report_error`, `Valid.report_ok_iff_forall`, `Valid.report_of_ignores`, `Valid.progress_of_ignores` : what
  comes of the batch and what is told;
* `Pool.interleavings_agree` : all of it.
-/

namespace Folio

/-- What comes of an item whose job has the result, when its failure does not end the batch. -/
def ItemOutcome.ofResult : Except Diagnostic Unit → ItemOutcome
  | .ok () => .done
  | .error e => .failed e

/-! ## The batch run in order -/

/-- What the jobs of items do that do not cancel the batch. -/
def outcomesOf {α : Type} (job : α → Except Diagnostic Unit) (items : List α) : List JobOutcome :=
  items.map fun item => { result := job item }

/-- The batch run in order, of jobs that do not cancel it. -/
def Batch.runJobs {α : Type} (settings : BatchSettings) (job : α → Except Diagnostic Unit) (items : List α) :
    Except Diagnostic BatchReport × Batch :=
  (run settings (fun item => pure { result := job item } : α → StateM Unit JobOutcome) items false ()).1

theorem Batch.runJobs_of_ignores {α : Type} {settings : BatchSettings} (hignore : settings.ignoreErrors = true)
    (job : α → Except Diagnostic Unit) (items : List α) :
    (runJobs settings job items).1 = .ok ⟨items.length, (outcomesOf job items).countP (·.error?.isNone),
      failuresFrom 0 (outcomesOf job items)⟩ := by
  obtain ⟨k, outcomes, s, hk, hmap, hlength, hall, hbegun⟩ := runAll_eq settings
    (fun item => pure { result := job item } : α → StateM Unit JobOutcome) items false ()
  have houtcomes : outcomesOf job (items.take k) = outcomes := by
    rw [List.mapM_pure] at hmap
    exact congrArg Prod.fst hmap
  have habort := JobOutcome.abort?_of_ignores hignore
  have hlengthEq : outcomes.length = items.length := by
    refine Nat.le_antisymm (hlength ▸ hk) (Nat.not_lt.mp fun hlt => ?_)
    obtain hclosed | ⟨last, hlast, hends⟩ := hbegun.stops hlt
    · exact Bool.noConfusion hclosed
    · have hmem := List.mem_of_getLast? hlast
      rw [← houtcomes] at hmem
      obtain ⟨item, -, rfl⟩ := List.mem_map.mp hmem
      exact Bool.noConfusion (JobOutcome.cancels_of_goesOn hends (habort _))
  have htake : items.take k = items := List.take_of_length_le (by omega)
  rw [htake] at houtcomes
  change (runAll settings (_ : α → StateM Unit JobOutcome) items { cancelled := false } ()).1.report items.length = _
  rw [hall]
  dsimp only
  rw [report_of_abort?_eq_none fun outcome _ => habort outcome, hlengthEq, if_neg (Nat.lt_irrefl _), hignore,
    houtcomes]
  rfl

theorem sublist_index_failuresFrom (place : Nat) (outcomes : List JobOutcome) :
    ((failuresFrom place outcomes).map (·.index)).Sublist (List.range' place outcomes.length) := by
  induction outcomes generalizing place with
  | nil => exact .slnil
  | cons outcome outcomes ih =>
      rw [failuresFrom_cons, List.length_cons, List.range'_succ]
      cases outcome.error? with
      | none => exact (ih (place + 1)).cons _
      | some e => exact (ih (place + 1)).cons_cons _

/-- Failures stand in the order of their items. -/
theorem pairwise_index_failuresFrom (place : Nat) (outcomes : List JobOutcome) :
    ((failuresFrom place outcomes).map (·.index)).Pairwise (· < ·) :=
  (List.pairwise_lt_range' 1).sublist (sublist_index_failuresFrom place outcomes)

namespace Pool

variable {α : Type} {settings : BatchSettings} {job : α → Except Diagnostic Unit} {items : List α} {pool : Pool α}

/-! ## Finishing -/

/-- The moves that are left, at most. -/
def left (pool : Pool α) : Nat := (pool.tasks.map (·.stage.left)).sum + (pool.queues.map List.length).sum

theorem sum_map_set_lt {β : Type} (f : β → Nat) {l : List β} {i : Nat} {b b' : β} (hget : l[i]? = some b)
    (hlt : f b' < f b) : ((l.set i b').map f).sum < (l.map f).sum := by
  obtain ⟨hi, rfl⟩ := List.getElem?_eq_some_iff.mp hget
  obtain ⟨before, after, hsplit, -, hset⟩ := @List.exists_of_set _ i b' l hi
  have hsum := congrArg (fun l => (l.map f).sum) hsplit
  simp only [List.map_append, List.map_cons, List.sum_append, List.sum_cons] at hsum
  rw [hset, hsum, List.map_append, List.map_cons, List.sum_append, List.sum_cons]
  omega

/-- A worker that has an item makes a move for which fewer are left. -/
theorem left_work {worker index : Nat} {rest : List Nat} (hqueue : pool.queues[worker]? = some (index :: rest)) :
    (pool.work settings job worker).left < pool.left := by
  unfold work
  rw [hqueue]
  dsimp only
  split
  next => exact Nat.add_lt_add_left (sum_map_set_lt List.length hqueue (Nat.lt_succ_self _)) _
  next hover =>
    cases htask : pool.tasks[index]? with
    | none =>
        unfold isOver at hover
        rw [htask] at hover
        exact absurd rfl hover
    | some task =>
        rw [isOver_eq htask] at hover
        rw [advance_eq htask]
        refine Nat.add_lt_add_right (sum_map_set_lt (fun task => task.stage.left) htask ?_) _
        exact ItemStage.left_advance (Bool.eq_false_iff.mpr hover)

/-- Whatever has happened, the workers can finish the batch. -/
theorem exists_isDone (settings : BatchSettings) (job : α → Except Diagnostic Unit) (pool : Pool α) :
    ∃ more, .cancel ∉ more ∧ (pool.run settings job more).isDone = true := by
  -- On the moves that are left: as long as a worker has an item, it can make one.
  induction hleft : pool.left using Nat.strongRecOn generalizing pool with
  | ind left ih =>
      cases hdone : pool.isDone with
      | true => exact ⟨[], List.not_mem_nil, hdone⟩
      | false =>
          obtain ⟨queue, hqueue, hempty⟩ := List.all_eq_false.mp hdone
          obtain ⟨worker, hworker⟩ := List.mem_iff_getElem?.mp hqueue
          obtain ⟨index, rest, rfl⟩ := List.exists_cons_of_ne_nil fun h => hempty (List.isEmpty_iff.mpr h)
          obtain ⟨more, hmore, hfinal⟩ := ih _ (hleft ▸ left_work hworker) (pool.work settings job worker) rfl
          refine ⟨.work worker :: more, fun hmem => ?_, hfinal⟩
          rcases List.mem_cons.mp hmem with h | h
          · exact Move.noConfusion h
          · exact hmore h

/-! ## What comes of the batch -/

/-- There is a report unless a failure was recorded or an item skipped. -/
theorem report_ok_iff (pool : Pool α) :
    (∃ report, pool.report = .ok report) ↔
      pool.shared.firstError = none ∧ ∀ task ∈ pool.tasks, task.stage ≠ .closed .skipped := by
  unfold report
  cases hfirst : pool.shared.firstError with
  | some e =>
      rw [Batch.report_of_ended hfirst]
      exact iff_of_false (by simp) (by simp)
  | none =>
      have hskipped : 0 < pool.batch.skipped ↔ ∃ task ∈ pool.tasks, task.stage = .closed .skipped := by
        change 0 < pool.tasks.countP _ ↔ _
        simp only [List.countP_pos_iff, decide_eq_true_eq]
      rw [Batch.report_of_not_ended hfirst]
      by_cases hany : ∃ task ∈ pool.tasks, task.stage = .closed .skipped
      · rw [if_pos (hskipped.mpr hany)]
        obtain ⟨task, htask, hstage⟩ := hany
        exact iff_of_false (by simp) fun h => h.2 task htask hstage
      · rw [if_neg (mt hskipped.mp hany)]
        exact iff_of_true ⟨_, rfl⟩ ⟨rfl, fun task htask hstage => hany ⟨task, htask, hstage⟩⟩

theorem progress_batch (pool : Pool α) (total : Nat) :
    pool.batch.progress total = pool.shared.finished.map fun count => (count, total) := by
  unfold Batch.progress batch Shared.finished
  rw [List.filterMap_filterMap, List.map_filterMap]
  refine congrFun (congrArg List.filterMap (funext fun event => ?_)) pool.shared.history
  rcases event with index | ⟨⟨e⟩ | ⟨count⟩⟩ | ⟨index, e⟩ <;> rfl

section

variable (hvalid : Valid settings job items pool)

include hvalid

theorem Valid.exists_task {i : Nat} {item : α} (hitem : items[i]? = some item) :
    ∃ task : BatchTask α, pool.tasks[i]? = some task ∧ task.item = item := by
  rw [← hvalid.tasks, List.getElem?_map] at hitem
  exact Option.map_eq_some_iff.mp hitem

theorem Valid.getElem?_item {i : Nat} {task : BatchTask α} (htask : pool.tasks[i]? = some task) :
    items[i]? = some task.item := by
  rw [← hvalid.tasks, List.getElem?_map, htask]
  rfl

/-- The first error is that of the first item to record one, whose job has failed. -/
theorem Valid.exists_of_firstError {e : Diagnostic} (hfirst : pool.shared.firstError = some e) :
    settings.ignoreErrors = false ∧ ∃ i item, pool.shared.recorded.head? = some (i, e) ∧
      .ran i ∈ pool.shared.history ∧ items[i]? = some item ∧ job item = .error e := by
  obtain ⟨⟨i, e'⟩, hhead, rfl⟩ := Option.map_eq_some_iff.mp (hvalid.first.symm.trans hfirst)
  obtain ⟨hignore, hran, item, hitem, hfails⟩ := hvalid.recorded i e' (List.mem_of_head? hhead)
  exact ⟨hignore, i, item, hhead, hran, hitem, hfails⟩

theorem Valid.firstError_of_ignores (hignore : settings.ignoreErrors = true) : pool.shared.firstError = none := by
  rw [Option.eq_none_iff_forall_not_mem]
  intro e hfirst
  exact Bool.noConfusion (hignore.symm.trans (hvalid.exists_of_firstError hfirst).1)

theorem Valid.recorded_eq_nil (hfirst : pool.shared.firstError = none) : pool.shared.recorded = [] :=
  List.head?_eq_none_iff.mp (Option.map_eq_none_iff.mp (hvalid.first.symm.trans hfirst))

theorem Valid.firstError_eq_none (hall : ∀ item ∈ items, job item = .ok ()) : pool.shared.firstError = none := by
  rw [Option.eq_none_iff_forall_not_mem]
  intro e hfirst
  obtain ⟨-, i, item, -, -, hitem, hfails⟩ := hvalid.exists_of_firstError hfirst
  cases hfails.symm.trans (hall item (List.mem_of_getElem? hitem))

variable (hdone : pool.isDone = true)

include hdone

/-- When the workers have nothing left, each item has come to an outcome. -/
theorem Valid.exists_outcome {i : Nat} {task : BatchTask α} (htask : pool.tasks[i]? = some task) :
    ∃ outcome, task.stage = .closed outcome ∧ outcome.Fits settings (job task.item) i pool.shared := by
  have hfits := hvalid.fits i task htask
  have hlt := (List.getElem?_eq_some_iff.mp (hvalid.getElem?_item htask)).1
  have hover : pool.isOver i = true := by
    rcases hvalid.queued i hlt with ⟨queue, hqueue, hmem⟩ | hover
    · have hempty := List.isEmpty_iff.mp (List.all_eq_true.mp hdone queue hqueue)
      rw [hempty] at hmem
      exact absurd hmem List.not_mem_nil
    · exact hover
  rw [isOver_eq htask] at hover
  cases hstage : task.stage with
  | closed outcome =>
      rw [hstage] at hfits
      exact ⟨outcome, rfl, hfits⟩
  | _ =>
      rw [hstage] at hover
      exact Bool.noConfusion hover

/-- When nothing is left, whoever stopped the batch has recorded a failure. -/
theorem Valid.firstError_of_stopped (hstopped : pool.shared.stopped = true) :
    ∃ e, pool.shared.firstError = some e := by
  rcases (hvalid.stopped hstopped).2 with hfirst | ⟨task, htask, e, hstage⟩
  · exact Option.isSome_iff_exists.mp hfirst
  · obtain ⟨i, hi⟩ := List.mem_iff_getElem?.mp htask
    obtain ⟨outcome, hover, -⟩ := hvalid.exists_outcome hdone hi
    cases hstage.symm.trans hover

/-- No item is skipped of a batch that was neither cancelled nor ended by a failure. -/
theorem Valid.not_skipped (hcancelled : pool.shared.cancelled = false) (hfirst : pool.shared.firstError = none) :
    ∀ task ∈ pool.tasks, task.stage ≠ .closed .skipped := by
  intro task htask hstage
  have hstopped : pool.shared.stopped = false := Bool.eq_false_iff.mpr fun hstopped => by
    obtain ⟨e, he⟩ := hvalid.firstError_of_stopped hdone hstopped
    cases hfirst.symm.trans he
  obtain ⟨i, hi⟩ := List.mem_iff_getElem?.mp htask
  have hfits := hvalid.fits i task hi
  rw [hstage] at hfits
  rcases hfits with ⟨-, h | h⟩ | ⟨-, -, h⟩
  · exact Bool.noConfusion (hcancelled.symm.trans h)
  · exact Bool.noConfusion (hstopped.symm.trans h)
  · exact Bool.noConfusion (hstopped.symm.trans h)

/-- An error is that of the first item to record one, or says that the batch was cancelled. -/
theorem Valid.report_error {e : Diagnostic} (herror : pool.report = .error e) :
    (∃ i item, pool.shared.recorded.head? = some (i, e) ∧ .ran i ∈ pool.shared.history ∧
      items[i]? = some item ∧ job item = .error e) ∨
    (e = .cancellation ∧ pool.shared.cancelled = true ∧ pool.shared.recorded = []) := by
  cases hfirst : pool.shared.firstError with
  | some e' =>
      have hreport : pool.report = .error e' := Batch.report_of_ended hfirst _
      obtain rfl := Except.error.inj (herror.symm.trans hreport)
      exact .inl (hvalid.exists_of_firstError hfirst).2
  | none =>
      have hcancelled : pool.shared.cancelled = true := by
        cases hcancelled : pool.shared.cancelled with
        | true => rfl
        | false =>
            obtain ⟨report, hreport⟩ := pool.report_ok_iff.mpr ⟨hfirst, hvalid.not_skipped hdone hcancelled hfirst⟩
            cases hreport.symm.trans herror
      -- Without a first error only skipped items make the batch fail, and they do so as a cancellation.
      have hreport : pool.report = if 0 < pool.batch.skipped then .error .cancellation else _ :=
        Batch.report_of_not_ended hfirst _
      rw [hreport] at herror
      split at herror
      next => exact .inr ⟨(Except.error.inj herror).symm, hcancelled, hvalid.recorded_eq_nil hfirst⟩
      next => cases herror

/-- When failures are not ignored, there is a report exactly when every job was done and succeeded. -/
theorem Valid.report_ok_iff_forall (hignore : settings.ignoreErrors = false) :
    (∃ report, pool.report = .ok report) ↔
      ∀ i item, items[i]? = some item → .ran i ∈ pool.shared.history ∧ job item = .ok () := by
  rw [Pool.report_ok_iff]
  constructor
  · rintro ⟨-, hskipped⟩ i item hitem
    obtain ⟨task, htask, rfl⟩ := hvalid.exists_task hitem
    obtain ⟨outcome, hover, hfits⟩ := hvalid.exists_outcome hdone htask
    cases outcome with
    | done => exact hfits
    | failed e => exact Bool.noConfusion (hignore.symm.trans hfits.2.2)
    | skipped => exact absurd hover (hskipped task (List.mem_of_getElem? htask))
  · intro hall
    constructor
    · refine hvalid.firstError_eq_none fun item hitem => ?_
      obtain ⟨i, hi⟩ := List.mem_iff_getElem?.mp hitem
      exact (hall i item hi).2
    · intro task htask hstage
      obtain ⟨i, hi⟩ := List.mem_iff_getElem?.mp htask
      obtain ⟨hran, hok⟩ := hall i task.item (hvalid.getElem?_item hi)
      have hfits := hvalid.fits i task hi
      rw [hstage] at hfits
      rcases hfits with ⟨hnot, -⟩ | ⟨-, ⟨e, hfails⟩, -⟩
      · exact hnot hran
      · cases hfails.symm.trans hok

/-- When failures are not ignored and nobody cancels the batch, there is a report exactly when no job fails. -/
theorem Valid.report_ok_iff_of_not_cancelled (hignore : settings.ignoreErrors = false)
    (hcancelled : pool.shared.cancelled = false) :
    (∃ report, pool.report = .ok report) ↔ ∀ item ∈ items, job item = .ok () := by
  constructor
  · intro hreport item hitem
    obtain ⟨i, hi⟩ := List.mem_iff_getElem?.mp hitem
    exact ((hvalid.report_ok_iff_forall hdone hignore).mp hreport i item hi).2
  · intro hall
    have hfirst := hvalid.firstError_eq_none hall
    exact pool.report_ok_iff.mpr ⟨hfirst, hvalid.not_skipped hdone hcancelled hfirst⟩

/-- When failures are ignored and nobody cancels the batch, each item comes to what its job did. -/
theorem Valid.tasks_eq (hignore : settings.ignoreErrors = true) (hcancelled : pool.shared.cancelled = false) :
    pool.tasks = items.map fun item => ⟨item, .closed (.ofResult (job item))⟩ := by
  have hfirst := hvalid.firstError_of_ignores hignore
  have hover : ∀ task ∈ pool.tasks, (⟨task.item, .closed (.ofResult (job task.item))⟩ : BatchTask α) = task := by
    intro task htask
    obtain ⟨i, hi⟩ := List.mem_iff_getElem?.mp htask
    obtain ⟨outcome, hover, hfits⟩ := hvalid.exists_outcome hdone hi
    obtain ⟨item, stage⟩ := task
    obtain rfl : stage = .closed outcome := hover
    cases outcome with
    | done => rw [show job item = _ from hfits.2, ItemOutcome.ofResult]
    | failed e => rw [show job item = _ from hfits.2.1, ItemOutcome.ofResult]
    | skipped => exact absurd rfl (hvalid.not_skipped hdone hcancelled hfirst _ htask)
  rw [← hvalid.tasks, List.map_map]
  exact ((List.map_congr_left hover).trans (List.map_id _)).symm

/-- When failures are ignored and nobody cancels the batch, all items are in the report. -/
theorem Valid.report_of_ignores (hignore : settings.ignoreErrors = true) (hcancelled : pool.shared.cancelled = false) :
    pool.report = .ok ⟨items.length, (outcomesOf job items).countP (·.error?.isNone),
      failuresFrom 0 (outcomesOf job items)⟩ := by
  have hfirst := hvalid.firstError_of_ignores hignore
  have htasks := hvalid.tasks_eq hdone hignore hcancelled
  have hskipped : ¬ 0 < pool.batch.skipped := by
    change ¬ 0 < pool.tasks.countP _
    rw [List.countP_pos_iff]
    rintro ⟨task, htask, hstage⟩
    exact hvalid.not_skipped hdone hcancelled hfirst task htask (of_decide_eq_true hstage)
  have hlength : pool.tasks.length = items.length := by
    rw [htasks, List.length_map]
  have hsucceeded : pool.batch.succeeded = (outcomesOf job items).countP (·.error?.isNone) := by
    change pool.tasks.countP _ = _
    unfold outcomesOf
    rw [htasks, List.countP_map, List.countP_map]
    refine congrFun (congrArg List.countP (funext fun item => ?_)) items
    dsimp only [Function.comp_apply, ItemOutcome.ofResult, JobOutcome.error?]
    cases job item <;> rfl
  have hfailures : pool.batch.failures = failuresFrom 0 (outcomesOf job items) := by
    change pool.tasks.zipIdx.filterMap _ = _
    unfold failuresFrom outcomesOf
    rw [htasks, List.zipIdx_map, List.zipIdx_map, List.filterMap_map, List.filterMap_map]
    refine congrFun (congrArg List.filterMap (funext fun entry => ?_)) (items.zipIdx 0)
    dsimp only [Function.comp_apply, Prod.map, ItemOutcome.ofResult, JobOutcome.error?]
    cases job entry.1 <;> rfl
  unfold report
  rw [Batch.report_of_not_ended hfirst, if_neg hskipped, hlength, hsucceeded, hfailures]

/-- When failures are ignored and nobody cancels the batch, the items are told as finished one by one. -/
theorem Valid.progress_of_ignores (hignore : settings.ignoreErrors = true)
    (hcancelled : pool.shared.cancelled = false) :
    (pool.batch.progress items.length).Perm ((List.range items.length).map fun i => (i + 1, items.length)) := by
  have htasks := hvalid.tasks_eq hdone hignore hcancelled
  have hpending : pool.pending = [] := by
    unfold pending
    rw [htasks, List.flatMap_map]
    exact List.flatMap_eq_nil_iff.mpr fun item _ => rfl
  have hcompleted : pool.shared.completed = items.length := by
    rw [hvalid.completed hignore, htasks, List.countP_map]
    refine List.countP_eq_length.mpr fun item _ => ?_
    dsimp only [Function.comp_apply, ItemOutcome.ofResult]
    cases job item <;> rfl
  have hfinished := hvalid.finished
  rw [hpending, List.append_nil, hcompleted, List.range'_eq_map_range] at hfinished
  rw [progress_batch]
  refine (hfinished.map _).trans (.of_eq ?_)
  rw [List.map_map]
  exact List.map_congr_left fun i _ => congrArg (·, items.length) (Nat.add_comm 1 i)

end

/-- **Workers.** Whatever order the workers take, a batch can be finished. Once it is, with failures ignored and no
cancellation it comes to the report of the batch run in order and each count of finished items is told once; with
failures not ignored it comes to a report exactly when every job was done and succeeded, without cancellation exactly
when no job fails, and an error is that of the first item to record one, or that of a cancellation when none has. An
item whose stop test comes after the batch was stopped is not begun. -/
theorem interleavings_agree (settings : BatchSettings) (job : α → Except Diagnostic Unit) (items : List α)
    (assignment : Assignment items.length) (moves : List Move) :
    ∃ pool, (start items assignment).run settings job moves = pool ∧
      (∃ more, .cancel ∉ more ∧ (pool.run settings job more).isDone = true) ∧
      (pool.isDone = true → settings.ignoreErrors = true → .cancel ∉ moves →
        ∃ report, pool.report = .ok report ∧ (Batch.runJobs settings job items).1 = .ok report ∧
          report.total = items.length ∧ report.failures = failuresFrom 0 (outcomesOf job items) ∧
          (report.failures.map (·.index)).Pairwise (· < ·) ∧
          (pool.batch.progress items.length).Perm ((List.range items.length).map fun i => (i + 1, items.length))) ∧
      (pool.isDone = true → settings.ignoreErrors = false →
        ((∃ report, pool.report = .ok report) ↔
          ∀ i item, items[i]? = some item → .ran i ∈ pool.shared.history ∧ job item = .ok ()) ∧
        (.cancel ∉ moves → ((∃ report, pool.report = .ok report) ↔ ∀ item ∈ items, job item = .ok ())) ∧
        ∀ e, pool.report = .error e →
          (∃ i item, pool.shared.recorded.head? = some (i, e) ∧ .ran i ∈ pool.shared.history ∧
            items[i]? = some item ∧ job item = .error e) ∨
          (e = .cancellation ∧ .cancel ∈ moves ∧ pool.shared.recorded = [])) ∧
      (∀ before after i task, moves = before ++ after →
        ((start items assignment).run settings job before).shared.stopped = true →
        ((start items assignment).run settings job before).tasks[i]? = some task → task.stage.isUntested = true →
        .ran i ∉ pool.shared.history) := by
  have hstart := valid_start settings job items assignment
  have hvalid := hstart.run moves
  have hcancel : ∀ h : ((start items assignment).run settings job moves).shared.cancelled = true, .cancel ∈ moves :=
    fun h => (mem_of_cancelled_run h).resolve_left Bool.false_ne_true
  refine ⟨_, rfl, exists_isDone settings job _, ?_, ?_, ?_⟩
  · intro hdone hignore hmem
    have hcancelled := Bool.eq_false_iff.mpr fun h => hmem (hcancel h)
    exact ⟨_, hvalid.report_of_ignores hdone hignore hcancelled, Batch.runJobs_of_ignores hignore job items, rfl, rfl,
      pairwise_index_failuresFrom 0 _, hvalid.progress_of_ignores hdone hignore hcancelled⟩
  · intro hdone hignore
    refine ⟨hvalid.report_ok_iff_forall hdone hignore, fun hmem => ?_, fun e herror => ?_⟩
    · exact hvalid.report_ok_iff_of_not_cancelled hdone hignore (Bool.eq_false_iff.mpr fun h => hmem (hcancel h))
    · refine (hvalid.report_error hdone herror).imp_right fun h => ?_
      exact ⟨h.1, hcancel h.2.1, h.2.2⟩
  · rintro before after i task rfl hstopped htask huntested
    have hbarred := (hstart.run before).barred hstopped htask huntested
    unfold run
    rw [List.foldl_append]
    exact (hbarred.run after).ran

/-- A batch that is cancelled fails although no job does. -/
theorem cancelled_without_failure :
    ∃ pool, (start [()] ⟨[[0]], .refl _⟩).run { ignoreErrors := false } (fun _ => .ok ())
        [.cancel, .work 0, .work 0] = pool ∧
      pool.isDone = true ∧ (∀ item ∈ [()], (fun _ => .ok () : Unit → Except Diagnostic Unit) item = .ok ()) ∧
      pool.report = .error .cancellation ∧ pool.shared.recorded = [] :=
  ⟨_, rfl, rfl, fun _ _ => rfl, rfl, rfl⟩

end Pool

end Folio
