import Folio.Batch.Workers

/-!
# The workers of a batch

Whichever worker goes next, what is known of an item follows from the stage that it has reached and from what the
workers share, and a step about one item keeps what is known of the others. So what holds before a move holds after it,
in whatever order the workers take their steps.

* `ItemOutcome.Fits`, `ItemStage.Fits` : what is known of an item at a stage;
* `ItemStage.shared_advance` : everything that a step does to what the workers share;
* `Shared.Keeps` : what a step leaves as it was for an item that it is not about;
* `Pool.Step`, `Pool.move_step` : all that one move can do;
* `Pool.Valid`, `Valid.step`, `Valid.run` : what holds after any moves;
* `Pool.mem_of_cancelled_run` : who cancels a batch;
* `Pool.Barred`, `Valid.barred` : an item whose stop test comes too late for it to be begun.
-/

namespace Folio

/-- The failures that were to be the first error, in order. -/
def Shared.recorded (shared : Shared) : List (Nat × Diagnostic) :=
  shared.history.filterMap fun
    | .recorded index error => some (index, error)
    | _ => none

/-- The counts of finished items that were told, in order. -/
def Shared.finished (shared : Shared) : List Nat :=
  shared.history.filterMap fun
    | .told (.finished count) => some count
    | _ => none

/-- What came of the item is so because of its job or of what has stopped the batch. -/
def ItemOutcome.Fits (settings : BatchSettings) (result : Except Diagnostic Unit) (index : Nat) (shared : Shared) :
    ItemOutcome → Prop
  | .done => .ran index ∈ shared.history ∧ result = .ok ()
  | .failed e => .ran index ∈ shared.history ∧ result = .error e ∧ settings.ignoreErrors = true
  | .skipped =>
    (.ran index ∉ shared.history ∧ (shared.cancelled = true ∨ shared.stopped = true)) ∨
      (.ran index ∈ shared.history ∧ (∃ e, result = .error e) ∧ shared.stopped = true)

/-- What is known of an item at a stage. -/
def ItemStage.Fits (settings : BatchSettings) (result : Except Diagnostic Unit) (index : Nat) (shared : Shared) :
    ItemStage → Prop
  | .waiting | .admitted | .begun => .ran index ∉ shared.history
  | .failed e => .ran index ∈ shared.history ∧ result = .error e
  | .ending e => .ran index ∈ shared.history ∧ result = .error e ∧ settings.ignoreErrors = false
  | .stopping e =>
    .ran index ∈ shared.history ∧ result = .error e ∧ settings.ignoreErrors = false ∧ shared.stopped = true
  | .settled outcome | .counted outcome _ =>
    .ran index ∈ shared.history ∧ outcome.Fits settings result index shared
  | .closed outcome => outcome.Fits settings result index shared

/-- What a step leaves as it was for an item that it is not about. -/
structure Shared.Keeps (index : Nat) (before after : Shared) : Prop where
  cancelled : before.cancelled = true → after.cancelled = true
  stopped : before.stopped = true → after.stopped = true
  ran : .ran index ∈ after.history ↔ .ran index ∈ before.history

/-- The count of an item that has been counted and not yet told. -/
def ItemStage.pending : ItemStage → List Nat
  | .counted _ count => [count]
  | _ => []

/-- The item is among the finished ones, and not for having been skipped. -/
def ItemStage.isCounted : ItemStage → Bool
  | .counted _ _ => true
  | .closed outcome => outcome ≠ .skipped
  | _ => false

/-- What the next step of an item adds to what has happened. -/
def ItemStage.events (index : Nat) : ItemStage → List BatchEvent
  | .begun => [.ran index]
  | .failed e => [.told (.failed e)]
  | .stopping e => [.recorded index e]
  | .counted _ count => [.told (.finished count)]
  | _ => []

/-- The failure that the next step of an item records. -/
def ItemStage.recording (index : Nat) : ItemStage → Option (Nat × Diagnostic)
  | .stopping e => some (index, e)
  | _ => none

/-- The next step of an item stops the batch. -/
def ItemStage.stops : ItemStage → Bool
  | .ending _ => true
  | _ => false

/-- The stop test of the item is still to come. -/
def ItemStage.isUntested : ItemStage → Bool
  | .waiting | .admitted => true
  | _ => false

/-- The steps that are left of an item, at most. -/
def ItemStage.left : ItemStage → Nat
  | .waiting => 8
  | .admitted => 7
  | .begun => 6
  | .failed _ => 5
  | .ending _ => 4
  | .stopping _ => 3
  | .settled _ => 2
  | .counted _ _ => 1
  | .closed _ => 0

section

variable {settings : BatchSettings} {result : Except Diagnostic Unit} {index : Nat} {shared before after : Shared}

theorem ItemOutcome.Fits.keeps {outcome : ItemOutcome} (hfits : outcome.Fits settings result index before)
    (hkeeps : Shared.Keeps index before after) : outcome.Fits settings result index after := by
  cases outcome with
  | done => exact ⟨hkeeps.ran.mpr hfits.1, hfits.2⟩
  | failed e => exact ⟨hkeeps.ran.mpr hfits.1, hfits.2⟩
  | skipped =>
      rcases hfits with ⟨hran, hclosed⟩ | ⟨hran, hfails, hstopped⟩
      · exact .inl ⟨fun h => hran (hkeeps.ran.mp h), hclosed.imp hkeeps.cancelled hkeeps.stopped⟩
      · exact .inr ⟨hkeeps.ran.mpr hran, hfails, hkeeps.stopped hstopped⟩

theorem ItemStage.Fits.keeps {stage : ItemStage} (hfits : stage.Fits settings result index before)
    (hkeeps : Shared.Keeps index before after) : stage.Fits settings result index after := by
  cases stage with
  | waiting | admitted | begun => exact fun h => hfits (hkeeps.ran.mp h)
  | failed e | ending e => exact ⟨hkeeps.ran.mpr hfits.1, hfits.2⟩
  | stopping e => exact ⟨hkeeps.ran.mpr hfits.1, hfits.2.1, hfits.2.2.1, hkeeps.stopped hfits.2.2.2⟩
  | settled outcome | counted outcome count =>
      exact ⟨hkeeps.ran.mpr hfits.1, ItemOutcome.Fits.keeps hfits.2 hkeeps⟩
  | closed outcome => exact ItemOutcome.Fits.keeps hfits hkeeps

/-! ## One step of an item -/

/-- Everything that a step does to what the workers share. -/
theorem ItemStage.shared_advance (stage : ItemStage) :
    (stage.advance settings result index shared).2 =
      { cancelled := shared.cancelled
        stopped := shared.stopped || stage.stops
        firstError := shared.firstError.or ((stage.recording index).map (·.2))
        completed := shared.completed + (stage.advance settings result index shared).1.pending.length
        history := shared.history ++ stage.events index } := by
  cases stage with
  | waiting | admitted | failed e =>
      simp only [advance]
      split <;> simp [Shared.note, stops, recording, events, pending]
  | begun => cases result <;> simp [advance, Shared.note, stops, recording, events, pending]
  | ending e | stopping e | settled outcome | counted outcome count | closed outcome =>
      simp [advance, Shared.note, stops, recording, events, pending]

theorem ItemStage.mem_events_of_ran {stage : ItemStage} {other : Nat} (hmem : .ran other ∈ stage.events index) :
    other = index := by
  cases stage <;> simp [events] at hmem
  exact hmem

theorem ItemStage.keeps_advance (stage : ItemStage) {other : Nat} (hne : other ≠ index) :
    Shared.Keeps other shared (stage.advance settings result index shared).2 := by
  rw [shared_advance]
  refine ⟨id, fun hstopped => ?_, ?_⟩
  · rw [hstopped, Bool.true_or]
  · rw [List.mem_append]
    exact ⟨fun h => h.resolve_right fun hran => hne (mem_events_of_ran hran), .inl⟩

/-- What is known of an item follows it from stage to stage. -/
theorem ItemStage.Fits.advance {stage : ItemStage} (hfits : stage.Fits settings result index shared) :
    (stage.advance settings result index shared).1.Fits settings result index
      (stage.advance settings result index shared).2 := by
  cases stage with
  | waiting =>
      simp only [ItemStage.advance]
      split
      next hcancelled => exact .inl ⟨hfits, .inl hcancelled⟩
      next => exact hfits
  | admitted =>
      simp only [ItemStage.advance]
      split
      next hstopped => exact .inl ⟨hfits, .inr hstopped⟩
      next => exact hfits
  | begun =>
      have hran : .ran index ∈ (shared.note (.ran index)).history := List.mem_append_right _ List.mem_cons_self
      cases result with
      | ok u => exact ⟨hran, hran, rfl⟩
      | error e => exact ⟨hran, rfl⟩
  | failed e =>
      have hran := List.mem_append_left [.told (.failed e)] hfits.1
      simp only [ItemStage.advance]
      split
      next hignore => exact ⟨hran, hran, hfits.2, hignore⟩
      next hignore => exact ⟨hran, hfits.2, Bool.eq_false_iff.mpr hignore⟩
  | ending e => exact ⟨hfits.1, hfits.2.1, hfits.2.2, rfl⟩
  | stopping e =>
      have hran := List.mem_append_left [.recorded index e] hfits.1
      exact ⟨hran, .inr ⟨hran, ⟨e, hfits.2.1⟩, hfits.2.2.2⟩⟩
  | settled outcome => exact ⟨hfits.1, hfits.2.keeps ⟨id, id, Iff.rfl⟩⟩
  | counted outcome count =>
      refine hfits.2.keeps ⟨id, id, ?_⟩
      change _ ∈ shared.history ++ [_] ↔ _
      simp
  | closed outcome => exact hfits

/-- A failure is recorded by the step that ends with it. -/
theorem ItemStage.recorded_advance (stage : ItemStage) :
    (stage.advance settings result index shared).2.recorded = shared.recorded ++ (stage.recording index).toList := by
  unfold Shared.recorded
  rw [shared_advance, List.filterMap_append]
  cases stage <;> rfl

theorem ItemStage.recording_eq_some {stage : ItemStage} {other : Nat} {e : Diagnostic}
    (h : stage.recording index = some (other, e)) : other = index ∧ stage = .stopping e := by
  cases stage with
  | stopping e' =>
      cases h
      exact ⟨rfl, rfl⟩
  | _ => cases h

theorem ItemStage.exists_of_stops {stage : ItemStage} (hstops : stage.stops = true) : ∃ e, stage = .ending e := by
  cases stage with
  | ending e => exact ⟨e, rfl⟩
  | _ => cases hstops

/-- After the batch was stopped, an item does not get beyond its stop test. -/
theorem ItemStage.advance_of_stopped {stage : ItemStage} (hstopped : shared.stopped = true)
    (hstage : stage.isUntested = true ∨ stage = .closed .skipped) :
    (stage.advance settings result index shared).2 = shared ∧
      ((stage.advance settings result index shared).1.isUntested = true ∨
        (stage.advance settings result index shared).1 = .closed .skipped) := by
  rcases hstage with huntested | rfl
  · cases stage with
    | waiting =>
        refine ⟨rfl, ?_⟩
        simp only [advance]
        split
        next => exact .inr rfl
        next => exact .inl rfl
    | admitted =>
        refine ⟨rfl, .inr ?_⟩
        simp only [advance]
        rw [if_pos hstopped]
    | _ => exact Bool.noConfusion huntested
  · exact ⟨rfl, .inr rfl⟩

/-- An item that was not skipped is counted once. -/
theorem ItemStage.completed_advance {stage : ItemStage} (hnot : ∀ count, stage ≠ .counted .skipped count) :
    ((stage.advance settings result index shared).2.completed + if stage.isCounted then 1 else 0) =
      shared.completed + if (stage.advance settings result index shared).1.isCounted then 1 else 0 := by
  cases stage with
  | waiting => cases hcancelled : shared.cancelled <;> simp [advance, isCounted, hcancelled]
  | admitted => cases hstopped : shared.stopped <;> simp [advance, isCounted, hstopped]
  | failed e => cases hignore : settings.ignoreErrors <;> simp [advance, isCounted, hignore, Shared.note]
  | begun => cases result <;> rfl
  | ending e | stopping e | settled outcome | closed outcome => rfl
  | counted outcome count =>
      cases outcome with
      | done | failed e => rfl
      | skipped => exact absurd rfl (hnot count)

/-- The number of an item is told by the step behind that which counts it. -/
theorem ItemStage.finished_advance (stage : ItemStage) :
    (stage.advance settings result index shared).2.finished = shared.finished ++ stage.pending := by
  unfold Shared.finished
  rw [shared_advance, List.filterMap_append]
  cases stage <;> rfl

/-- An item is counted with the next number. -/
theorem ItemStage.range'_advance (stage : ItemStage) :
    List.range' 1 (stage.advance settings result index shared).2.completed =
      List.range' 1 shared.completed ++ (stage.advance settings result index shared).1.pending := by
  cases stage with
  | waiting | admitted | failed e =>
      simp only [advance]
      split <;> exact (List.append_nil _).symm
  | begun => cases result <;> exact (List.append_nil _).symm
  | ending e | stopping e | counted outcome count | closed outcome => exact (List.append_nil _).symm
  | settled outcome =>
      change List.range' 1 (shared.completed + 1) = List.range' 1 shared.completed ++ [shared.completed + 1]
      rw [List.range'_concat, Nat.one_mul, Nat.add_comm 1]

theorem ItemStage.isOver_advance {stage : ItemStage} (hover : stage.isOver = true) :
    (stage.advance settings result index shared).1.isOver = true := by
  cases stage with
  | closed outcome => rfl
  | _ => exact Bool.noConfusion hover

/-- A step leaves fewer steps. -/
theorem ItemStage.left_advance {stage : ItemStage} (hover : stage.isOver = false) :
    (stage.advance settings result index shared).1.left < stage.left := by
  cases stage with
  | waiting | admitted | failed e =>
      simp only [advance]
      split <;> simp [left]
  | begun => cases result <;> simp [advance, left]
  | ending e | stopping e | settled outcome | counted outcome count => simp [advance, left]
  | closed outcome => exact Bool.noConfusion hover

end

namespace Pool

variable {α : Type} {settings : BatchSettings} {job : α → Except Diagnostic Unit} {items : List α} {pool pool' : Pool α}

/-! ## One move -/

/-- All that one move can do: nothing, cancel the batch, leave a worker fewer items of which none is lost before it is
over, or take one item a step further. -/
inductive Step (settings : BatchSettings) (job : α → Except Diagnostic Unit) : Move → Pool α → Pool α → Prop
  | idle (worker : Nat) (pool : Pool α) : Step settings job (.work worker) pool pool
  | cancelled (pool : Pool α) :
      Step settings job .cancel pool { pool with shared := { pool.shared with cancelled := true } }
  | passed (worker : Nat) (pool : Pool α) (queues : List (List Nat))
      (kept : ∀ queue ∈ pool.queues, ∀ i ∈ queue, (∃ other ∈ queues, i ∈ other) ∨ pool.isOver i = true) :
      Step settings job (.work worker) pool { pool with queues }
  | advanced (worker : Nat) (shared : Shared) (before after : List (BatchTask α)) (task : BatchTask α)
      (queues : List (List Nat)) :
      Step settings job (.work worker) ⟨shared, before ++ task :: after, queues⟩
        ⟨(task.stage.advance settings (job task.item) before.length shared).2,
          before ++ ⟨task.item, (task.stage.advance settings (job task.item) before.length shared).1⟩ :: after, queues⟩

theorem advance_eq {index : Nat} {task : BatchTask α} (htask : pool.tasks[index]? = some task) :
    pool.advance settings job index =
      ⟨(task.stage.advance settings (job task.item) index pool.shared).2,
        pool.tasks.set index ⟨task.item, (task.stage.advance settings (job task.item) index pool.shared).1⟩,
        pool.queues⟩ := by
  unfold advance
  rw [htask]

theorem isOver_eq {index : Nat} {task : BatchTask α} (htask : pool.tasks[index]? = some task) :
    pool.isOver index = task.stage.isOver := by
  unfold isOver
  rw [htask]

theorem step_advance (pool : Pool α) (worker index : Nat) :
    Step settings job (.work worker) pool (pool.advance settings job index) := by
  cases htask : pool.tasks[index]? with
  | none =>
      unfold advance
      rw [htask]
      exact .idle worker pool
  | some task =>
      rw [advance_eq htask]
      obtain ⟨shared, tasks, queues⟩ := pool
      obtain ⟨hlt, hget⟩ := List.getElem?_eq_some_iff.mp (show tasks[index]? = some task from htask)
      obtain ⟨before, after, hsplit, rfl, hset⟩ := @List.exists_of_set _ index
        ⟨task.item, (task.stage.advance settings (job task.item) index shared).1⟩ tasks hlt
      rw [hget] at hsplit
      change Step settings job _ ⟨shared, tasks, queues⟩ ⟨_, tasks.set before.length _, queues⟩
      rw [hset, hsplit]
      exact .advanced worker shared before after task queues

/-- A worker leaves an item that is over. -/
theorem kept_set {worker index : Nat} {rest : List Nat} (hqueue : pool.queues[worker]? = some (index :: rest))
    (hover : pool.isOver index = true) :
    ∀ queue ∈ pool.queues, ∀ i ∈ queue,
      (∃ other ∈ pool.queues.set worker rest, i ∈ other) ∨ pool.isOver i = true := by
  intro queue hmem i hi
  obtain ⟨place, hplace⟩ := List.mem_iff_getElem?.mp hmem
  have hlt := (List.getElem?_eq_some_iff.mp hqueue).1
  by_cases hne : worker = place
  · subst hne
    obtain rfl := Option.some.inj (hqueue.symm.trans hplace)
    rcases List.mem_cons.mp hi with rfl | hi
    · exact .inr hover
    · exact .inl ⟨rest, List.mem_of_getElem? (List.getElem?_set_self hlt), hi⟩
  · have hother := @List.getElem?_set_ne _ pool.queues _ _ hne rest
    exact .inl ⟨queue, List.mem_of_getElem? (hother.trans hplace), hi⟩

theorem move_step (pool : Pool α) (move : Move) : Step settings job move pool (pool.move settings job move) := by
  cases move with
  | cancel => exact .cancelled pool
  | work worker =>
      change Step settings job (.work worker) pool (pool.work settings job worker)
      unfold work
      split
      next index rest hqueue =>
        split
        next hover => exact .passed worker pool _ (kept_set hqueue hover)
        next => exact step_advance pool worker index
      next => exact .idle worker pool

/-- An item is where it was before the step of another. -/
theorem getElem?_split_ne {before after : List (BatchTask α)} {task task' : BatchTask α} {i : Nat}
    (hne : i ≠ before.length) : (before ++ task' :: after)[i]? = (before ++ task :: after)[i]? := by
  have hset : (before ++ task :: after).set before.length task' = before ++ task' :: after := by
    rw [List.set_append_right _ _ (Nat.le_refl _), Nat.sub_self, List.set_cons_zero]
  rw [← hset, List.getElem?_set_ne hne.symm]

theorem getElem?_split_self {before after : List (BatchTask α)} {task : BatchTask α} :
    (before ++ task :: after)[before.length]? = some task := by
  rw [List.getElem?_append_right (Nat.le_refl _), Nat.sub_self, List.getElem?_cons_zero]

/-! ## What holds after any moves -/

/-- The counts that are not yet told. -/
def pending (pool : Pool α) : List Nat := pool.tasks.flatMap (·.stage.pending)

/-- What holds after any moves of a batch of the items. -/
structure Valid (settings : BatchSettings) (job : α → Except Diagnostic Unit) (items : List α) (pool : Pool α) :
    Prop where
  tasks : pool.tasks.map (·.item) = items
  queued : ∀ i < items.length, (∃ queue ∈ pool.queues, i ∈ queue) ∨ pool.isOver i = true
  fits : ∀ (i : Nat) (task : BatchTask α), pool.tasks[i]? = some task →
    task.stage.Fits settings (job task.item) i pool.shared
  first : pool.shared.firstError = pool.shared.recorded.head?.map (·.2)
  recorded : ∀ i e, (i, e) ∈ pool.shared.recorded →
    settings.ignoreErrors = false ∧ .ran i ∈ pool.shared.history ∧ ∃ item, items[i]? = some item ∧ job item = .error e
  /-- Whoever has stopped the batch has recorded a failure, or will do so next. -/
  stopped : pool.shared.stopped = true → settings.ignoreErrors = false ∧
    (pool.shared.firstError.isSome = true ∨ ∃ task ∈ pool.tasks, ∃ e, task.stage = .stopping e)
  completed : settings.ignoreErrors = true → pool.shared.completed = pool.tasks.countP (·.stage.isCounted)
  finished : (pool.shared.finished ++ pool.pending).Perm (List.range' 1 pool.shared.completed)

theorem valid_start (settings : BatchSettings) (job : α → Except Diagnostic Unit) (items : List α)
    (assignment : Assignment items.length) : Valid settings job items (start items assignment) where
  tasks := by
    change (items.map _).map _ = items
    rw [List.map_map]
    exact List.map_id items
  queued i hi := by
    have hmem := assignment.all.mem_iff.mpr (List.mem_range.mpr hi)
    exact .inl (List.mem_flatten.mp hmem)
  fits i task htask := by
    obtain ⟨item, -, rfl⟩ := Option.map_eq_some_iff.mp ((List.getElem?_map ..).symm.trans htask)
    exact List.not_mem_nil
  first := rfl
  recorded _ _ hmem := absurd hmem List.not_mem_nil
  stopped hstopped := Bool.noConfusion hstopped
  completed _ := by
    refine (List.countP_eq_zero.mpr fun task htask => ?_).symm
    obtain ⟨item, -, rfl⟩ := List.mem_map.mp htask
    exact Bool.false_ne_true
  finished := by
    have hpending : (start items assignment).pending = [] := by
      refine List.flatMap_eq_nil_iff.mpr fun task htask => ?_
      obtain ⟨item, -, rfl⟩ := List.mem_map.mp htask
      rfl
    rw [hpending]
    exact .nil

section

variable {shared : Shared} {before after : List (BatchTask α)} {task : BatchTask α} {queues : List (List Nat)}

theorem isOver_advanced {i : Nat} (hover : isOver ⟨shared, before ++ task :: after, queues⟩ i = true)
    (shared' : Shared) : isOver ⟨shared', before ++ ⟨task.item,
      (task.stage.advance settings (job task.item) before.length shared).1⟩ :: after, queues⟩ i = true := by
  unfold isOver at hover ⊢
  by_cases hne : i = before.length
  · subst hne
    rw [getElem?_split_self] at hover ⊢
    exact ItemStage.isOver_advance hover
  · rw [getElem?_split_ne hne]
    exact hover

section

variable (hvalid : Valid settings job items ⟨shared, before ++ task :: after, queues⟩)
include hvalid

/-- The stage of the item that takes the step fits what has happened. -/
theorem Valid.fits_self : task.stage.Fits settings (job task.item) before.length shared :=
  hvalid.fits _ task getElem?_split_self

theorem Valid.fits_advanced {i : Nat} {other : BatchTask α} (hother : (before ++ ⟨task.item,
      (task.stage.advance settings (job task.item) before.length shared).1⟩ :: after)[i]? = some other) :
    other.stage.Fits settings (job other.item) i
      (task.stage.advance settings (job task.item) before.length shared).2 := by
  by_cases hne : i = before.length
  · subst hne
    obtain rfl := Option.some.inj (getElem?_split_self.symm.trans hother)
    exact hvalid.fits_self.advance
  · have hsame := hvalid.fits i other ((getElem?_split_ne hne).symm.trans hother)
    exact hsame.keeps (task.stage.keeps_advance hne)

theorem Valid.recorded_advanced {i : Nat} {e : Diagnostic}
    (hmem : (i, e) ∈ (task.stage.advance settings (job task.item) before.length shared).2.recorded) :
    settings.ignoreErrors = false ∧
      .ran i ∈ (task.stage.advance settings (job task.item) before.length shared).2.history ∧
      ∃ item, items[i]? = some item ∧ job item = .error e := by
  have hran : ∀ {event}, event ∈ shared.history →
      event ∈ (task.stage.advance settings (job task.item) before.length shared).2.history := fun hevent => by
    rw [ItemStage.shared_advance]
    exact List.mem_append_left _ hevent
  rw [ItemStage.recorded_advance, List.mem_append, Option.mem_toList] at hmem
  rcases hmem with hmem | hmem
  · obtain ⟨hignore, hmemRan, hfails⟩ := hvalid.recorded i e hmem
    exact ⟨hignore, hran hmemRan, hfails⟩
  · obtain ⟨rfl, hstage⟩ := ItemStage.recording_eq_some hmem
    have hfits := hvalid.fits_self
    rw [hstage] at hfits
    refine ⟨hfits.2.2.1, hran hfits.1, task.item, ?_, hfits.2.1⟩
    rw [← hvalid.tasks, List.getElem?_map, getElem?_split_self]
    rfl

theorem Valid.stopped_advanced
    (hstopped : (task.stage.advance settings (job task.item) before.length shared).2.stopped = true) :
    settings.ignoreErrors = false ∧
      ((task.stage.advance settings (job task.item) before.length shared).2.firstError.isSome = true ∨
        ∃ other ∈ before ++ ⟨task.item, (task.stage.advance settings (job task.item) before.length shared).1⟩ :: after,
          ∃ e, other.stage = .stopping e) := by
  rw [ItemStage.shared_advance] at hstopped ⊢
  rcases Bool.or_eq_true_iff.mp hstopped with hstopped | hstops
  · obtain ⟨hignore, hfirst | ⟨other, hother, e, hstopping⟩⟩ := hvalid.stopped hstopped
    · refine ⟨hignore, .inl ?_⟩
      rw [Option.isSome_or, hfirst, Bool.true_or]
    · refine ⟨hignore, ?_⟩
      rcases List.mem_append.mp hother with hother | hother
      · exact .inr ⟨other, List.mem_append_left _ hother, e, hstopping⟩
      · rcases List.mem_cons.mp hother with rfl | hother
        · left
          rw [hstopping, Option.isSome_or]
          exact Bool.or_true _
        · exact .inr ⟨other, List.mem_append_right _ (List.mem_cons_of_mem _ hother), e, hstopping⟩
  · obtain ⟨e, hstage⟩ := ItemStage.exists_of_stops hstops
    have hfits := hvalid.fits_self
    rw [hstage] at hfits ⊢
    exact ⟨hfits.2.2, .inr ⟨_, List.mem_append_right _ List.mem_cons_self, e, rfl⟩⟩

/-- An item that was counted as skipped has stopped the batch, which no item does when failures are ignored. -/
theorem Valid.ne_skipped (hignore : settings.ignoreErrors = true) (count : Nat) :
    task.stage ≠ .counted .skipped count := by
  intro hstage
  have hfits := hvalid.fits_self
  rw [hstage] at hfits
  rcases hfits.2 with ⟨hran, -⟩ | ⟨-, -, hstopped⟩
  · exact hran hfits.1
  · exact Bool.noConfusion (hignore.symm.trans (hvalid.stopped hstopped).1)

theorem Valid.advanced : Valid settings job items
    ⟨(task.stage.advance settings (job task.item) before.length shared).2,
      before ++ ⟨task.item, (task.stage.advance settings (job task.item) before.length shared).1⟩ :: after,
      queues⟩ where
  tasks := by
    have htasks := hvalid.tasks
    rw [List.map_append, List.map_cons] at htasks ⊢
    exact htasks
  queued i hi := (hvalid.queued i hi).imp_right fun hover => isOver_advanced hover _
  fits _ _ := hvalid.fits_advanced
  first := by
    have hfirst : shared.firstError = shared.recorded.head?.map (·.2) := hvalid.first
    rw [ItemStage.recorded_advance, ItemStage.shared_advance, List.head?_append, Option.head?_toList, Option.map_or,
      hfirst]
  recorded _ _ := hvalid.recorded_advanced
  stopped := hvalid.stopped_advanced
  completed hignore := by
    have hcompleted : shared.completed = _ := hvalid.completed hignore
    have hstep := @ItemStage.completed_advance settings (job task.item) before.length shared _
      (hvalid.ne_skipped hignore)
    rw [List.countP_append, List.countP_cons] at hcompleted ⊢
    dsimp only
    omega
  finished := by
    have hfinished : (shared.finished ++ pending ⟨shared, before ++ task :: after, queues⟩).Perm _ := hvalid.finished
    unfold pending at hfinished ⊢
    rw [ItemStage.finished_advance, ItemStage.range'_advance]
    rw [List.flatMap_append, List.flatMap_cons] at hfinished ⊢
    -- What the step tells was pending before it, and the number that it gives is the next one.
    refine .trans ?_ (hfinished.append_right _)
    rw [List.perm_iff_count]
    intro count
    simp only [List.count_append]
    omega

end

end

theorem Valid.step {move : Move} (hvalid : Valid settings job items pool) (hstep : Step settings job move pool pool') :
    Valid settings job items pool' := by
  cases hstep with
  | idle worker => exact hvalid
  | cancelled =>
      refine { hvalid with fits := fun i task htask => ?_ }
      exact (hvalid.fits i task htask).keeps ⟨fun _ => rfl, id, Iff.rfl⟩
  | passed worker _ queues hkept =>
      refine { hvalid with queued := fun i hi => ?_ }
      rcases hvalid.queued i hi with ⟨queue, hqueue, hmem⟩ | hover
      · exact hkept queue hqueue i hmem
      · exact .inr hover
  | advanced worker shared before after task queues => exact hvalid.advanced

theorem Valid.run (hvalid : Valid settings job items pool) (moves : List Move) :
    Valid settings job items (pool.run settings job moves) := by
  induction moves generalizing pool with
  | nil => exact hvalid
  | cons move moves ih => exact ih (hvalid.step (move_step pool move))

/-! ## Cancelling and stopping -/

theorem Step.cancelled_or {move : Move} (hstep : Step settings job move pool pool')
    (hcancelled : pool'.shared.cancelled = true) : pool.shared.cancelled = true ∨ move = .cancel := by
  cases hstep with
  | cancelled => exact .inr rfl
  | advanced worker shared before after task queues =>
      rw [ItemStage.shared_advance] at hcancelled
      exact .inl hcancelled
  | idle | passed => exact .inl hcancelled

/-- Only a move that cancels the batch does so. -/
theorem mem_of_cancelled_run {moves : List Move} (hcancelled : (pool.run settings job moves).shared.cancelled = true) :
    pool.shared.cancelled = true ∨ .cancel ∈ moves := by
  induction moves generalizing pool with
  | nil => exact .inl hcancelled
  | cons move moves ih =>
      rcases ih hcancelled with hcancelled | hmem
      · rcases (move_step pool move).cancelled_or hcancelled with hcancelled | rfl
        · exact .inl hcancelled
        · exact .inr List.mem_cons_self
      · exact .inr (List.mem_cons_of_mem _ hmem)

/-- The batch is stopped, and the item is not beyond its stop test. -/
structure Barred (index : Nat) (pool : Pool α) : Prop where
  stopped : pool.shared.stopped = true
  ran : .ran index ∉ pool.shared.history
  stage : ∀ task : BatchTask α, pool.tasks[index]? = some task →
    task.stage.isUntested = true ∨ task.stage = .closed .skipped

theorem Barred.step {index : Nat} {move : Move} (hbarred : Barred index pool)
    (hstep : Step settings job move pool pool') : Barred index pool' := by
  cases hstep with
  | idle | cancelled | passed => exact ⟨hbarred.stopped, hbarred.ran, hbarred.stage⟩
  | advanced worker shared before after task queues =>
      by_cases hne : index = before.length
      · subst hne
        obtain ⟨hsame, hstage⟩ := @ItemStage.advance_of_stopped settings (job task.item) before.length shared task.stage
          hbarred.stopped (hbarred.stage task getElem?_split_self)
        refine ⟨?_, ?_, fun other hother => ?_⟩
        · rw [hsame]
          exact hbarred.stopped
        · rw [hsame]
          exact hbarred.ran
        · obtain rfl := Option.some.inj (getElem?_split_self.symm.trans hother)
          exact hstage
      · have hkeeps := @ItemStage.keeps_advance settings (job task.item) before.length shared task.stage index hne
        refine ⟨hkeeps.stopped hbarred.stopped, fun h => hbarred.ran (hkeeps.ran.mp h), fun other hother => ?_⟩
        exact hbarred.stage other ((getElem?_split_ne hne).symm.trans hother)

theorem Barred.run {index : Nat} (hbarred : Barred index pool) (moves : List Move) :
    Barred index (pool.run settings job moves) := by
  induction moves generalizing pool with
  | nil => exact hbarred
  | cons move moves ih => exact ih (hbarred.step (move_step pool move))

/-- An item that comes to its stop test after the batch was stopped is barred. -/
theorem Valid.barred {index : Nat} {task : BatchTask α} (hvalid : Valid settings job items pool)
    (hstopped : pool.shared.stopped = true) (htask : pool.tasks[index]? = some task)
    (huntested : task.stage.isUntested = true) : Barred index pool := by
  refine ⟨hstopped, ?_, fun other hother => ?_⟩
  · have hfits := hvalid.fits index task htask
    cases hstage : task.stage with
    | waiting | admitted =>
        rw [hstage] at hfits
        exact hfits
    | _ =>
        rw [hstage] at huntested
        exact Bool.noConfusion huntested
  · obtain rfl := Option.some.inj (htask.symm.trans hother)
    exact .inl huntested

end Pool

end Folio
