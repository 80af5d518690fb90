import Folio.Batch

/-!
# Batches run in order

A batch that works on one item at a time begins a first part of its items, in order and each once. It stops behind the
item that cancels it and, when failures are not ignored, behind the first one that fails; what came of the items begun
decides what is told and what comes of the batch.

* `JobOutcome.goesOn` : a batch goes on behind an outcome;
* `recordAll_eq` : a batch after a row of outcomes, field by field;
* `Begun`, `foldlM_step` : the outcomes of the items begun, and the batch behind them;
* `Begun.cancelledBefore_or` : why a batch leaves items;
* `final_eq` : the batch at the end, field by field;
* `progress_final`, `reported_final`, `report_of_abort?_eq_none` : what is told and what comes of the batch;
* `run_in_order` : all of it.
-/

namespace Folio

/-- The error of a job that failed. -/
def JobOutcome.error? (outcome : JobOutcome) : Option Diagnostic :=
  match outcome.result with
  | .ok () => none
  | .error e => some e

/-- The failure of an item that ends the batch. -/
def JobOutcome.abort? (settings : BatchSettings) (outcome : JobOutcome) : Option Diagnostic :=
  if settings.ignoreErrors then none else outcome.error?

/-- Behind the outcome a further item may be begun. -/
def JobOutcome.goesOn (settings : BatchSettings) (outcome : JobOutcome) : Bool :=
  !outcome.cancels && (outcome.abort? settings).isNone

/-- What is told when the item at the place has come to its outcome. -/
def JobOutcome.calls (outcome : JobOutcome) (place : Nat) : List BatchCall :=
  (outcome.error?.map BatchCall.failed).toList ++ [.finished (place + 1)]

/-- The failures among outcomes, the first of which is that of the item at the place. -/
def failuresFrom (place : Nat) (outcomes : List JobOutcome) : List BatchFailure :=
  (outcomes.zipIdx place).filterMap fun (outcome, index) => outcome.error?.map fun e => ⟨index, e⟩

section

variable {settings : BatchSettings} {outcome : JobOutcome}

theorem JobOutcome.abort?_of_ignores (h : settings.ignoreErrors = true) (outcome : JobOutcome) :
    outcome.abort? settings = none := by
  unfold abort?
  rw [h]
  rfl

theorem JobOutcome.abort?_of_not_ignores (h : settings.ignoreErrors = false) (outcome : JobOutcome) :
    outcome.abort? settings = outcome.error? := by
  unfold abort?
  rw [h]
  rfl

theorem JobOutcome.goesOn_of_cancels (h : outcome.cancels = true) : outcome.goesOn settings = false := by
  unfold goesOn
  rw [h]
  rfl

theorem JobOutcome.goesOn_of_abort? {e : Diagnostic} (h : outcome.abort? settings = some e) :
    outcome.goesOn settings = false := by
  unfold goesOn
  rw [h, Option.isNone_some, Bool.and_false]

/-- An outcome behind which nothing is begun has cancelled the batch or ended it. -/
theorem JobOutcome.cancels_of_goesOn (h : outcome.goesOn settings = false) (habort : outcome.abort? settings = none) :
    outcome.cancels = true := by
  unfold goesOn at h
  rw [habort, Option.isNone_none, Bool.and_true, Bool.not_eq_false'] at h
  exact h

end

theorem failuresFrom_cons (place : Nat) (outcome : JobOutcome) (outcomes : List JobOutcome) :
    failuresFrom place (outcome :: outcomes) =
      (outcome.error?.map fun e => ⟨place, e⟩).toList ++ failuresFrom (place + 1) outcomes := by
  unfold failuresFrom
  rw [List.zipIdx_cons, List.filterMap_cons]
  cases herror : outcome.error? <;> simp [herror]

namespace Batch

variable {α σ : Type} {settings : BatchSettings}

/-- The batch after the outcomes of items, the first of which is that at the place. -/
def recordAll (settings : BatchSettings) (batch : Batch) (place : Nat) : List JobOutcome → Batch
  | [] => batch
  | outcome :: outcomes => recordAll settings (batch.record settings place outcome) (place + 1) outcomes

/-- The batch after items that were not begun. -/
def skipMany (batch : Batch) (count : Nat) : Batch := { batch with skipped := batch.skipped + count }

/-! ## One item -/

/-- A batch that is open before an item stays open exactly when the outcome lets it. -/
theorem isOpen_record {batch : Batch} (h : batch.isOpen = true) (place : Nat) (outcome : JobOutcome) :
    (batch.record settings place outcome).isOpen = outcome.goesOn settings := by
  have hended : batch.ended = none := by
    unfold isOpen at h
    simpa using (Bool.and_eq_true_iff.mp h).2
  unfold record JobOutcome.goesOn JobOutcome.abort? JobOutcome.error?
  cases hresult : outcome.result with
  | ok u => simp [finish, isOpen, hended]
  | error e => cases hignore : settings.ignoreErrors <;> simp [finish, isOpen, hended]

/-- Everything that an outcome does to a batch. -/
theorem record_eq (batch : Batch) (place : Nat) (outcome : JobOutcome) :
    batch.record settings place outcome =
      { cancelled := outcome.cancels
        succeeded := batch.succeeded + if outcome.error?.isNone then 1 else 0
        failures := batch.failures ++
          if settings.ignoreErrors then (outcome.error?.map fun e => ⟨place, e⟩).toList else []
        skipped := batch.skipped + if (outcome.abort? settings).isSome then 1 else 0
        ended := (outcome.abort? settings).or batch.ended
        finished := batch.finished + 1
        calls := batch.calls ++ outcome.calls batch.finished } := by
  unfold record JobOutcome.calls JobOutcome.abort? JobOutcome.error?
  cases hresult : outcome.result with
  | ok u => simp [finish]
  | error e => cases hignore : settings.ignoreErrors <;> simp [finish]

/-! ## A row of outcomes -/

theorem recordAll_eq (outcomes : List JobOutcome) (batch : Batch) (place : Nat) :
    recordAll settings batch place outcomes =
      { cancelled := (outcomes.getLast?.map (·.cancels)).getD batch.cancelled
        succeeded := batch.succeeded + outcomes.countP (·.error?.isNone)
        failures := batch.failures ++ if settings.ignoreErrors then failuresFrom place outcomes else []
        skipped := batch.skipped + outcomes.countP fun outcome => (outcome.abort? settings).isSome
        ended := (outcomes.reverse.findSome? (·.abort? settings)).or batch.ended
        finished := batch.finished + outcomes.length
        calls := batch.calls ++ (outcomes.zipIdx batch.finished).flatMap fun entry => entry.1.calls entry.2 } := by
  induction outcomes generalizing batch place with
  | nil => simp [recordAll, failuresFrom]
  | cons outcome outcomes ih =>
      rw [recordAll, ih, record_eq]
      simp only [Batch.mk.injEq]
      refine ⟨?_, ?_, ?_, ?_, ?_, ?_, ?_⟩
      · rw [List.getLast?_cons]
        cases outcomes.getLast? <;> rfl
      · rw [List.countP_cons]
        omega
      · cases settings.ignoreErrors with
        | false => simp
        | true =>
            simp only [if_true]
            rw [failuresFrom_cons, List.append_assoc]
      · rw [List.countP_cons]
        omega
      · rw [List.reverse_cons, List.findSome?_append, Option.or_assoc]
        congr 1
        cases h : outcome.abort? settings <;> simp [h]
      · rw [List.length_cons]
        omega
      · rw [List.zipIdx_cons, List.flatMap_cons, List.append_assoc]

/-! ## The items that are begun -/

theorem mapM_cons_run (job : α → StateM σ JobOutcome) (item : α) (items : List α) (s : σ) :
    (item :: items).mapM job s =
      ((job item s).1 :: (items.mapM job (job item s).2).1, (items.mapM job (job item s).2).2) := by
  rw [List.mapM_cons]
  rfl

theorem length_mapM (job : α → StateM σ JobOutcome) (items : List α) (s : σ) :
    (items.mapM job s).1.length = items.length := by
  induction items generalizing s with
  | nil => rfl
  | cons item items ih =>
      rw [mapM_cons_run, List.length_cons, List.length_cons, ih]

theorem skipMany_skipMany (batch : Batch) (count count' : Nat) :
    (batch.skipMany count).skipMany count' = batch.skipMany (count + count') := by
  simp [skipMany, Nat.add_assoc]

theorem foldlM_step_closed (job : α → StateM σ JobOutcome) (items : List α) (place : Nat) {batch : Batch}
    (h : batch.isOpen = false) (s : σ) :
    (items.zipIdx place).foldlM (step settings job) batch s = (batch.skipMany items.length, s) := by
  induction items generalizing batch place with
  | nil => rfl
  | cons item items ih =>
      have hstep : step settings job batch (item, place) s = (batch.skip, s) := by
        unfold step
        rw [h]
        rfl
      have hopen : batch.skip.isOpen = false := h
      have hrest := ih (place + 1) hopen
      rw [List.zipIdx_cons, List.foldlM_cons]
      change (items.zipIdx (place + 1)).foldlM (step settings job) (step settings job batch (item, place) s).1
        (step settings job batch (item, place) s).2 = _
      rw [hstep, hrest, List.length_cons, Nat.add_comm items.length 1]
      exact congrArg (·, s) (skipMany_skipMany batch 1 items.length)

/-- The outcomes of the items begun, out of so many: the batch goes on behind each of them but the last, and behind
that too unless an item is left. A batch that was cancelled from the start begins none. -/
structure Begun (settings : BatchSettings) (cancelled : Bool) (count : Nat) (outcomes : List JobOutcome) : Prop where
  closed : cancelled = true → outcomes = []
  goesOn : ∀ outcome ∈ outcomes.dropLast, outcome.goesOn settings = true
  stops : outcomes.length < count →
    cancelled = true ∨ ∃ last, outcomes.getLast? = some last ∧ last.goesOn settings = false

theorem Begun.none (count : Nat) : Begun settings true count [] :=
  ⟨fun _ => rfl, fun _ houtcome => absurd houtcome List.not_mem_nil, fun _ => .inl rfl⟩

theorem Begun.nil : Begun settings false 0 [] :=
  ⟨fun _ => rfl, fun _ houtcome => absurd houtcome List.not_mem_nil, fun hlt => absurd hlt (Nat.not_lt_zero _)⟩

theorem Begun.single {outcome : JobOutcome} (h : outcome.goesOn settings = false) (count : Nat) :
    Begun settings false count [outcome] where
  closed hcancelled := Bool.noConfusion hcancelled
  goesOn _ houtcome := absurd houtcome List.not_mem_nil
  stops _ := .inr ⟨outcome, rfl, h⟩

theorem Begun.cons {outcome : JobOutcome} {outcomes : List JobOutcome} {count : Nat}
    (h : outcome.goesOn settings = true) (hbegun : Begun settings false count outcomes) :
    Begun settings false (count + 1) (outcome :: outcomes) where
  closed hcancelled := Bool.noConfusion hcancelled
  goesOn other hother := by
    cases outcomes with
    | nil => exact absurd hother List.not_mem_nil
    | cons next rest =>
        rw [List.dropLast_cons_cons, List.mem_cons] at hother
        rcases hother with rfl | hother
        · exact h
        · exact hbegun.goesOn other hother
  stops hlt := by
    rcases hbegun.stops (Nat.lt_of_succ_lt_succ hlt) with hcancelled | ⟨last, hlast, hends⟩
    · exact Bool.noConfusion hcancelled
    · refine .inr ⟨last, ?_, hends⟩
      rw [List.getLast?_cons, hlast]
      rfl

/-- A batch that is open begins items up to the first outcome behind which it does not go on, and no further ones. -/
theorem foldlM_step (job : α → StateM σ JobOutcome) (items : List α) (place : Nat) {batch : Batch}
    (h : batch.isOpen = true) (s : σ) :
    ∃ k outcomes s', k ≤ items.length ∧ (items.take k).mapM job s = (outcomes, s') ∧
      (items.zipIdx place).foldlM (step settings job) batch s =
        ((recordAll settings batch place outcomes).skipMany (items.length - k), s') ∧
      Begun settings false items.length outcomes := by
  induction items generalizing batch place s with
  | nil => exact ⟨0, [], s, Nat.le_refl 0, rfl, rfl, Begun.nil⟩
  | cons item items ih =>
      have hstep : step settings job batch (item, place) s =
          (batch.record settings place (job item s).1, (job item s).2) := by
        unfold step
        rw [h]
        rfl
      have hrun : ((item :: items).zipIdx place).foldlM (step settings job) batch s =
          (items.zipIdx (place + 1)).foldlM (step settings job) (batch.record settings place (job item s).1)
            (job item s).2 := by
        rw [List.zipIdx_cons, List.foldlM_cons]
        change (items.zipIdx (place + 1)).foldlM (step settings job) (step settings job batch (item, place) s).1
          (step settings job batch (item, place) s).2 = _
        rw [hstep]
      have hopen : (batch.record settings place (job item s).1).isOpen = (job item s).1.goesOn settings :=
        isOpen_record h place _
      cases hgoes : (job item s).1.goesOn settings with
      | false =>
          rw [hgoes] at hopen
          refine ⟨1, [(job item s).1], (job item s).2, by simp, rfl, ?_, Begun.single hgoes _⟩
          rw [hrun, foldlM_step_closed job items (place + 1) hopen]
          rfl
      | true =>
          rw [hgoes] at hopen
          obtain ⟨k, outcomes, s', hk, hmap, hfold, hbegun⟩ := ih (place + 1) hopen (job item s).2
          refine ⟨k + 1, (job item s).1 :: outcomes, s', Nat.succ_le_succ hk, ?_, ?_, hbegun.cons hgoes⟩
          · rw [List.take_succ_cons, mapM_cons_run, hmap]
          · rw [hrun, hfold, List.length_cons, Nat.add_sub_add_right]
            rfl

/-- The batch at the end, out of so many items. -/
def final (settings : BatchSettings) (cancelled : Bool) (outcomes : List JobOutcome) (count : Nat) : Batch :=
  (recordAll settings { cancelled } 0 outcomes).skipMany (count - outcomes.length)

theorem final_eq (settings : BatchSettings) (cancelled : Bool) (outcomes : List JobOutcome) (count : Nat) :
    final settings cancelled outcomes count =
      { cancelled := (outcomes.getLast?.map (·.cancels)).getD cancelled
        succeeded := outcomes.countP (·.error?.isNone)
        failures := if settings.ignoreErrors then failuresFrom 0 outcomes else []
        skipped := (outcomes.countP fun outcome => (outcome.abort? settings).isSome) + (count - outcomes.length)
        ended := outcomes.reverse.findSome? (·.abort? settings)
        finished := outcomes.length
        calls := outcomes.zipIdx.flatMap fun entry => entry.1.calls entry.2 } := by
  unfold final skipMany
  rw [recordAll_eq, Option.or_none, Nat.zero_add, Nat.zero_add, Nat.zero_add, List.nil_append, List.nil_append]

theorem runAll_eq (settings : BatchSettings) (job : α → StateM σ JobOutcome) (items : List α) (cancelled : Bool)
    (s : σ) :
    ∃ k outcomes s', k ≤ items.length ∧ (items.take k).mapM job s = (outcomes, s') ∧ outcomes.length = k ∧
      runAll settings job items { cancelled } s = (final settings cancelled outcomes items.length, s') ∧
      Begun settings cancelled items.length outcomes := by
  cases cancelled with
  | true =>
      refine ⟨0, [], s, Nat.zero_le _, rfl, rfl, ?_, Begun.none _⟩
      exact foldlM_step_closed job items 0 rfl s
  | false =>
      have hopen : ({ cancelled := false } : Batch).isOpen = true := rfl
      obtain ⟨k, outcomes, s', hk, hmap, hfold, hbegun⟩ := foldlM_step job items 0 hopen s
      have hlength : outcomes.length = k := by
        have h := length_mapM job (items.take k) s
        rw [hmap, List.length_take, Nat.min_eq_left hk] at h
        exact h
      refine ⟨k, outcomes, s', hk, hmap, hlength, ?_, hbegun⟩
      unfold final
      rw [hlength]
      exact hfold

/-! ## Where a batch stops -/

/-- The place before which a batch was cancelled: it was so from the start, or the job of the item before it did so. -/
def CancelledBefore (cancelled : Bool) (outcomes : List JobOutcome) : Nat → Prop
  | 0 => cancelled = true
  | i + 1 => ∃ outcome, outcomes[i]? = some outcome ∧ outcome.cancels = true

section

variable {cancelled : Bool} {outcomes : List JobOutcome} {count : Nat}

/-- Behind an outcome that stops the batch no item is begun. -/
theorem Begun.getLast?_eq (hbegun : Begun settings cancelled count outcomes) {i : Nat} {outcome : JobOutcome}
    (hi : outcomes[i]? = some outcome) (h : outcome.goesOn settings = false) :
    i + 1 = outcomes.length ∧ outcomes.getLast? = some outcome := by
  obtain ⟨hlt, hget⟩ := List.getElem?_eq_some_iff.mp hi
  have hlength : i + 1 = outcomes.length := by
    apply Decidable.byContradiction
    intro hne
    have hdrop : i < outcomes.dropLast.length := by
      rw [List.length_dropLast]
      omega
    have hmem := List.getElem_mem hdrop
    rw [List.getElem_dropLast, hget] at hmem
    rw [hbegun.goesOn outcome hmem] at h
    exact Bool.noConfusion h
  refine ⟨hlength, ?_⟩
  rw [List.getLast?_eq_getElem?, ← hlength, Nat.add_sub_cancel, hi]

theorem Begun.length_of_cancelledBefore (hbegun : Begun settings cancelled count outcomes) {i : Nat}
    (h : CancelledBefore cancelled outcomes i) : outcomes.length = i := by
  cases i with
  | zero =>
      rw [hbegun.closed h]
      rfl
  | succ i =>
      obtain ⟨outcome, hi, hcancels⟩ := h
      exact (hbegun.getLast?_eq hi (JobOutcome.goesOn_of_cancels hcancels)).1.symm

/-- A batch that leaves an item was cancelled, or it was ended by a failure. -/
theorem Begun.cancelledBefore_or (hbegun : Begun settings cancelled count outcomes) (hlt : outcomes.length < count) :
    CancelledBefore cancelled outcomes outcomes.length ∨
      ∃ last e, outcomes.getLast? = some last ∧ last.abort? settings = some e := by
  rcases hbegun.stops hlt with hcancelled | ⟨last, hlast, hends⟩
  · rw [hbegun.closed hcancelled]
    exact .inl hcancelled
  · cases habort : last.abort? settings with
    | some e => exact .inr ⟨last, e, hlast, habort⟩
    | none =>
        obtain ⟨before, rfl⟩ := List.getLast?_eq_some_iff.mp hlast
        rw [List.length_append]
        exact .inl ⟨last, by simp, JobOutcome.cancels_of_goesOn hends habort⟩

end

/-! ## What is told -/

theorem filterMap_calls {β : Type} (f : BatchCall → Option β) (outcome : JobOutcome) (place : Nat) :
    (outcome.calls place).filterMap f =
      (outcome.error?.bind fun e => f (.failed e)).toList ++ (f (.finished (place + 1))).toList := by
  have hsingle : ∀ call, [call].filterMap f = (f call).toList := fun call => by
    cases h : f call <;> simp [h]
  unfold JobOutcome.calls
  rw [List.filterMap_append, hsingle]
  cases outcome.error? with
  | none => rfl
  | some e => exact congrArg (· ++ _) (hsingle (.failed e))

/-- Each outcome is told as one more item finished. -/
theorem progress_final (settings : BatchSettings) (cancelled : Bool) (outcomes : List JobOutcome) (count : Nat) :
    (final settings cancelled outcomes count).progress count =
      (List.range outcomes.length).map fun i => (i + 1, count) := by
  unfold progress
  rw [final_eq]
  simp only [List.filterMap_flatMap, filterMap_calls, Option.bind_fun_none, Option.toList_none,
    Option.toList_some, List.nil_append]
  rw [← List.map_eq_flatMap, List.range_eq_range', ← List.zipIdx_map_snd, List.map_map]
  rfl

theorem flatMap_error? (outcomes : List JobOutcome) (place : Nat) :
    ((outcomes.zipIdx place).flatMap fun entry => entry.1.error?.toList) = outcomes.filterMap (·.error?) := by
  induction outcomes generalizing place with
  | nil => rfl
  | cons outcome outcomes ih =>
      rw [List.zipIdx_cons, List.flatMap_cons, ih, List.filterMap_cons]
      cases outcome.error? <;> rfl

/-- Each failure is told once, in order. -/
theorem reported_final (settings : BatchSettings) (cancelled : Bool) (outcomes : List JobOutcome) (count : Nat) :
    (final settings cancelled outcomes count).reported = outcomes.filterMap (·.error?) := by
  unfold reported
  rw [final_eq]
  simp only [List.filterMap_flatMap, filterMap_calls, Option.bind_fun_some, Option.toList_none,
    List.append_nil]
  exact flatMap_error? outcomes 0

/-! ## What comes of it -/

/-- An outcome counts as a success or as a failure. -/
theorem countP_add_failuresFrom (outcomes : List JobOutcome) (place : Nat) :
    outcomes.countP (·.error?.isNone) + (failuresFrom place outcomes).length = outcomes.length := by
  induction outcomes generalizing place with
  | nil => rfl
  | cons outcome outcomes ih =>
      have hrest := ih (place + 1)
      rw [failuresFrom_cons, List.countP_cons, List.length_append, List.length_cons]
      cases outcome.error? <;> simp <;> omega

theorem report_of_ended {batch : Batch} {e : Diagnostic} (h : batch.ended = some e) (total : Nat) :
    batch.report total = .error e := by
  unfold report
  rw [h]

theorem report_of_not_ended {batch : Batch} (h : batch.ended = none) (total : Nat) :
    batch.report total =
      if 0 < batch.skipped then .error .cancellation else .ok ⟨total, batch.succeeded, batch.failures⟩ := by
  unfold report
  rw [h]

/-- The failure that ended the batch is what comes of it. -/
theorem report_aborted {cancelled : Bool} {outcomes : List JobOutcome} {last : JobOutcome} {e : Diagnostic}
    (hlast : outcomes.getLast? = some last) (habort : last.abort? settings = some e) (count : Nat) :
    (final settings cancelled outcomes count).report count = .error e := by
  obtain ⟨before, rfl⟩ := List.getLast?_eq_some_iff.mp hlast
  have hfirst : ((before ++ [last]).reverse.findSome? (·.abort? settings)) = some e := by
    rw [List.reverse_append, List.reverse_singleton, List.singleton_append, List.findSome?_cons, habort]
  rw [final_eq]
  exact report_of_ended hfirst count

/-- A batch that no failure ended has been cancelled if an item is left. -/
theorem report_of_abort?_eq_none {cancelled : Bool} {outcomes : List JobOutcome}
    (h : ∀ outcome ∈ outcomes, outcome.abort? settings = none) (count : Nat) :
    (final settings cancelled outcomes count).report count =
      if outcomes.length < count then .error .cancellation
      else .ok ⟨count, outcomes.countP (·.error?.isNone),
        if settings.ignoreErrors then failuresFrom 0 outcomes else []⟩ := by
  have hfirst : outcomes.reverse.findSome? (·.abort? settings) = none := by
    rw [List.findSome?_eq_none_iff]
    exact fun outcome houtcome => h outcome (List.mem_reverse.mp houtcome)
  have hcount : (outcomes.countP fun outcome => (outcome.abort? settings).isSome) = 0 := by
    rw [List.countP_eq_zero]
    intro outcome houtcome
    rw [h outcome houtcome]
    exact Bool.false_ne_true
  rw [final_eq, hcount, Nat.zero_add, report_of_not_ended hfirst]
  simp only [Nat.sub_pos_iff_lt]

/-- One at a time, the items are begun in order and each once, up to the one behind which the batch stops: it was
cancelled, or the item failed and failures are not ignored. What they came to decides what is told and what comes of
the batch. -/
theorem run_in_order (settings : BatchSettings) (job : α → StateM σ JobOutcome) (items : List α) (cancelled : Bool)
    (s : σ) :
    ∃ k outcomes s' result batch,
      k ≤ items.length ∧ (items.take k).mapM job s = (outcomes, s') ∧
      run settings job items cancelled s = ((result, batch), s') ∧
      (batch.calls = outcomes.zipIdx.flatMap fun entry => entry.1.calls entry.2) ∧
      (batch.progress items.length = (List.range k).map fun i => (i + 1, items.length)) ∧
      batch.reported = outcomes.filterMap (·.error?) ∧
      (settings.ignoreErrors = true → cancelled = false → (∀ outcome ∈ outcomes, outcome.cancels = false) →
        k = items.length ∧ ∃ report, result = .ok report ∧ report.total = items.length ∧
          report.failures = failuresFrom 0 outcomes ∧ report.succeeded + report.failures.length = report.total) ∧
      (settings.ignoreErrors = false → ∀ i outcome e, outcomes[i]? = some outcome → outcome.error? = some e →
        i + 1 = k ∧ result = .error e) ∧
      (∀ i, CancelledBefore cancelled outcomes i → (∀ outcome ∈ outcomes, outcome.abort? settings = none) →
        k = i ∧ (result = .error .cancellation ↔ i < items.length)) ∧
      (k < items.length → CancelledBefore cancelled outcomes k ∨
        ∃ last e, outcomes.getLast? = some last ∧ last.abort? settings = some e ∧ result = .error e) := by
  obtain ⟨k, outcomes, s', hk, hmap, rfl, hall, hbegun⟩ := runAll_eq settings job items cancelled s
  let batch := final settings cancelled outcomes items.length
  refine ⟨outcomes.length, outcomes, s', batch.report items.length, batch, hk, hmap, ?_,
    congrArg calls (final_eq settings cancelled outcomes _), progress_final settings cancelled outcomes _,
    reported_final settings cancelled outcomes _, ?_, ?_, ?_, ?_⟩
  · change (((runAll settings job items { cancelled } s).1.report items.length,
      (runAll settings job items { cancelled } s).1), (runAll settings job items { cancelled } s).2) = _
    rw [hall]
  · intro hignore hcancelled hcancels
    have habort := JobOutcome.abort?_of_ignores hignore
    have hnlt : ¬ outcomes.length < items.length := by
      intro hlt
      rcases hbegun.stops hlt with hclosed | ⟨last, hlast, hends⟩
      · exact Bool.noConfusion (hcancelled.symm.trans hclosed)
      · have hlastCancels := JobOutcome.cancels_of_goesOn hends (habort last)
        rw [hcancels last (List.mem_of_getLast? hlast)] at hlastCancels
        exact Bool.noConfusion hlastCancels
    have hlength := Nat.le_antisymm hk (Nat.not_lt.mp hnlt)
    refine ⟨hlength, ⟨items.length, outcomes.countP (·.error?.isNone), failuresFrom 0 outcomes⟩, ?_, rfl, rfl, ?_⟩
    · change (final settings cancelled outcomes items.length).report items.length = _
      rw [report_of_abort?_eq_none fun outcome _ => habort outcome, if_neg hnlt, hignore]
      rfl
    · rw [← hlength]
      exact countP_add_failuresFrom outcomes 0
  · intro hignore i outcome e hi herror
    have habort := (JobOutcome.abort?_of_not_ignores hignore outcome).trans herror
    obtain ⟨hlength, hlast⟩ := hbegun.getLast?_eq hi (JobOutcome.goesOn_of_abort? habort)
    exact ⟨hlength, report_aborted hlast habort _⟩
  · intro i hbefore habort
    have hlength := hbegun.length_of_cancelledBefore hbefore
    refine ⟨hlength, ?_⟩
    change (final settings cancelled outcomes items.length).report items.length = _ ↔ _
    rw [report_of_abort?_eq_none habort, hlength]
    by_cases hlt : i < items.length
    · rw [if_pos hlt]
      exact iff_of_true rfl hlt
    · rw [if_neg hlt]
      exact iff_of_false (fun h => by cases h) hlt
  · intro hlt
    rcases hbegun.cancelledBefore_or hlt with hcancelled | ⟨last, e, hlast, habort⟩
    · exact .inl hcancelled
    · exact .inr ⟨last, e, hlast, habort, report_aborted hlast habort _⟩

/-- An item that fails ends the batch, and the one behind it is not begun. -/
example : (run { ignoreErrors := false } (fun n : Nat => do
      modify (n :: ·)
      return { result := if n = 1 then .error .cancellation else .ok () } : Nat → StateM (List Nat) JobOutcome)
    [0, 1, 2] false []).2 = [1, 0] := rfl

end Batch
end Folio
