import Folio.Conversion
import Mathlib.Tactic.Common

/-!
# The copies of an extraction

Images are extracted one after the other. A remote image is passed over, and a local one is copied to the target that
its place in the list of media gives it, or its fault is reported.

* `localImages`, `imageTarget` : the images that are copied, with their numbers, and where to;
* `Extracts` : the copies that an extraction makes, one after the other;
* `extracts_of_copyImages`, `extracts_of_exec` : an extraction makes such copies and gives their targets.
-/

namespace Folio

/-- Where an extraction stores an image with its number. -/
def imageTarget (settings : ExportSettings) (entry : MediaRef × Nat) : String :=
  String.ofList (Media.extractionTarget settings.images.outputDir.toList entry.2 entry.1.source.toList
    settings.images.namingPattern.toList)

/-- The image is local. -/
def isLocal (entry : MediaRef × Nat) : Bool := !Media.isRemote entry.1.source.toList

/-- The local images of a document with their numbers. -/
def localImages (doc : Document) : List (MediaRef × Nat) := (doc.media.zipIdx 1).filter isLocal

variable {σ α β : Type}

/-- One image after the other is passed over, copied, or left out for a fault; what is copied, and what is left. -/
inductive Extracts [FileAccess (StateM σ)] (settings : ExportSettings) :
    σ → List (MediaRef × Nat) → List (MediaRef × Nat) → σ → Prop
  | done (files : σ) : Extracts settings files [] [] files
  | remote {files left : σ} {entry : MediaRef × Nat} {images copied : List (MediaRef × Nat)}
      (away : isLocal entry = false) (more : Extracts settings files images copied left) :
      Extracts settings files (entry :: images) copied left
  | copied {files next left : σ} {entry : MediaRef × Nat} {images copied : List (MediaRef × Nat)}
      (here : isLocal entry = true)
      (copy : (FileAccess.copy entry.1.source (imageTarget settings entry) : StateM σ _).run files = (.ok (), next))
      (more : Extracts settings next images copied left) :
      Extracts settings files (entry :: images) (entry :: copied) left
  | failed {files next left : σ} {entry : MediaRef × Nat} {images copied : List (MediaRef × Nat)} {fault : FileFault}
      (here : isLocal entry = true)
      (copy : (FileAccess.copy entry.1.source (imageTarget settings entry) : StateM σ _).run files =
        (.error fault, next))
      (more : Extracts settings next images copied left) : Extracts settings files (entry :: images) copied left

/-! ## Runs -/

/-- What a conversion gives, and what it leaves, after some diagnostics and where the files are in some state. -/
def Conversion.exec (conversion : Conversion (StateM σ) α) (diagnostics : List Diagnostic) (files : σ) :
    (Except Diagnostic α × List Diagnostic) × σ := (conversion.run.run diagnostics).run files

namespace Conversion

theorem exec_outcome (conversion : Conversion (StateM σ) α) (files : σ) :
    (outcome conversion).run files = exec conversion [] files := rfl

theorem exec_bind (conversion : Conversion (StateM σ) α) (next : α → Conversion (StateM σ) β)
    (diagnostics : List Diagnostic) (files : σ) :
    exec (conversion >>= next) diagnostics files =
      match exec conversion diagnostics files with
      | ((.ok value, after), left) => exec (next value) after left
      | ((.error d, after), left) => ((.error d, after), left) := by
  unfold exec
  rw [ExceptT.run_bind, StateT.run_bind, StateT.run_bind]
  obtain ⟨⟨outcome, after⟩, left⟩ := (conversion.run.run diagnostics).run files
  cases outcome with
  | ok value => rfl
  | error d => rfl

theorem exec_access (action : StateM σ α) (diagnostics : List Diagnostic) (files : σ) :
    exec (access action) diagnostics files = ((.ok (action.run files).1, diagnostics), (action.run files).2) := rfl

theorem exec_onFile (operation path : String) (action : StateM σ (Except FileFault α)) (diagnostics : List Diagnostic)
    (files : σ) :
    exec (onFile operation path action) diagnostics files =
      (((action.run files).1.mapError fun fault => .ofFile operation path fault.message, diagnostics),
        (action.run files).2) := by
  unfold onFile
  rw [exec_bind, exec_access]
  cases (action.run files).1 <;> rfl

/-- What succeeds in two steps succeeds in the first. -/
theorem exec_bind_eq_ok {conversion : Conversion (StateM σ) α} {next : α → Conversion (StateM σ) β}
    {diagnostics after : List Diagnostic} {files left : σ} {result : β}
    (h : exec (conversion >>= next) diagnostics files = ((.ok result, after), left)) :
    ∃ value middle between, exec conversion diagnostics files = ((.ok value, middle), between) ∧
      exec (next value) middle between = ((.ok result, after), left) := by
  rw [exec_bind] at h
  obtain ⟨outcome, middle, between, hfirst⟩ : ∃ outcome middle between,
      exec conversion diagnostics files = ((outcome, middle), between) := ⟨_, _, _, rfl⟩
  rw [hfirst] at h
  cases outcome with
  | ok value => exact ⟨value, middle, between, hfirst, h⟩
  | error d => cases h

theorem exec_ofReported_eq_ok {step : Reported α} {diagnostics after : List Diagnostic} {files left : σ} {value : α}
    (h : exec (ofReported step) diagnostics files = ((.ok value, after), left)) : step.1 = .ok value ∧ left = files := by
  obtain ⟨houtcome, rfl⟩ := Prod.mk.inj h
  exact ⟨(Prod.mk.inj houtcome).1, rfl⟩

theorem exec_onFile_eq_ok {operation path : String} {action : StateM σ (Except FileFault α)}
    {diagnostics after : List Diagnostic} {files left : σ} {value : α}
    (h : exec (onFile operation path action) diagnostics files = ((.ok value, after), left)) :
    action.run files = (.ok value, left) ∧ after = diagnostics := by
  rw [exec_onFile] at h
  obtain ⟨outcome, rest, haction⟩ : ∃ outcome rest, action.run files = (outcome, rest) := ⟨_, _, rfl⟩
  rw [haction] at h ⊢
  cases outcome with
  | ok found =>
      obtain ⟨houtcome, rfl⟩ := Prod.mk.inj h
      obtain ⟨hfound, rfl⟩ := Prod.mk.inj houtcome
      obtain rfl := Except.ok.inj hfound
      exact ⟨rfl, rfl⟩
  | error fault => cases h

theorem exec_report (policy : ErrorPolicy) (d : Diagnostic) (diagnostics : List Diagnostic) (files : σ) :
    exec (report policy d) diagnostics files =
      ((if policy.aborts then .error d else .ok (), diagnostics ++ [d]), files) := by
  unfold report
  cases policy.aborts <;> rfl

end Conversion

open Conversion
variable [FileAccess (StateM σ)] {settings : ExportSettings}

/-- What the extraction of a document's images gives and reports, and what it leaves. -/
def extraction (settings : ExportSettings) (doc : Document) (files : σ) : Reported (List String) × σ :=
  (Conversion.outcome (m := StateM σ) (extractImages doc settings)).run files

/-! ## Copies -/

section Step
variable {entry : MediaRef × Nat} {images : List (MediaRef × Nat)} {diagnostics : List Diagnostic} {files next : σ}

theorem exec_copyImages_remote (away : isLocal entry = false) :
    exec (copyImages settings (entry :: images)) diagnostics files =
      exec (copyImages settings images) diagnostics files := by
  have hremote : Media.isRemote entry.1.source.toList = true := by simpa [isLocal] using away
  obtain ⟨image, number⟩ := entry
  rw [copyImages, if_pos hremote]

theorem exec_copyImages_copied (here : isLocal entry = true)
    (copy : (FileAccess.copy entry.1.source (imageTarget settings entry) : StateM σ _).run files = (.ok (), next)) :
    exec (copyImages settings (entry :: images)) diagnostics files =
      match exec (copyImages settings images) diagnostics next with
      | ((.ok paths, after), left) => ((.ok (imageTarget settings entry :: paths), after), left)
      | ((.error d, after), left) => ((.error d, after), left) := by
  have hlocal : ¬ Media.isRemote entry.1.source.toList = true := by simpa [isLocal] using here
  obtain ⟨image, number⟩ := entry
  unfold imageTarget at copy ⊢
  rw [copyImages, if_neg hlocal, exec_bind, exec_access, copy]
  dsimp only
  rw [exec_bind]
  obtain ⟨⟨outcome, after⟩, left⟩ := exec (copyImages settings images) diagnostics next
  cases outcome <;> rfl

theorem exec_copyImages_failed {fault : FileFault} (here : isLocal entry = true)
    (copy : (FileAccess.copy entry.1.source (imageTarget settings entry) : StateM σ _).run files =
      (.error fault, next)) :
    exec (copyImages settings (entry :: images)) diagnostics files =
      let d := Diagnostic.ofFile "copy image" entry.1.source fault.message
      if settings.errors.aborts then ((.error d, diagnostics ++ [d]), next)
      else exec (copyImages settings images) (diagnostics ++ [d]) next := by
  have hlocal : ¬ Media.isRemote entry.1.source.toList = true := by simpa [isLocal] using here
  obtain ⟨image, number⟩ := entry
  unfold imageTarget at copy
  rw [copyImages, if_neg hlocal, exec_bind, exec_access, copy]
  dsimp only
  rw [exec_bind, exec_report]
  cases settings.errors.aborts <;> rfl

end Step

/-- What an extraction gives are the targets of its copies. It reports each of its faults. -/
theorem extracts_of_copyImages {images : List (MediaRef × Nat)} {diagnostics after : List Diagnostic} {files left : σ}
    {paths : List String}
    (h : exec (copyImages settings images) diagnostics files = ((.ok paths, after), left)) :
    ∃ copied, paths = copied.map (imageTarget settings) ∧ Extracts settings files images copied left ∧
      diagnostics <+: after ∧ (after = diagnostics → copied = images.filter isLocal) := by
  induction images generalizing diagnostics files paths with
  | nil =>
      obtain ⟨houtcome, rfl⟩ := Prod.mk.inj h
      obtain ⟨hpaths, rfl⟩ := Prod.mk.inj houtcome
      obtain rfl := Except.ok.inj hpaths
      exact ⟨[], rfl, .done _, List.prefix_refl _, fun _ => rfl⟩
  | cons entry images ih =>
      cases here : isLocal entry with
      | false =>
          rw [exec_copyImages_remote here] at h
          obtain ⟨copied, rfl, hextracts, hprefix, hall⟩ := ih h
          refine ⟨copied, rfl, .remote here hextracts, hprefix, fun hnone => ?_⟩
          rw [List.filter_cons_of_neg (by rw [here]; exact Bool.false_ne_true), hall hnone]
      | true =>
          obtain ⟨result, next, copy⟩ : ∃ result next,
              (FileAccess.copy entry.1.source (imageTarget settings entry) : StateM σ _).run files = (result, next) :=
            ⟨_, _, rfl⟩
          cases result with
          | ok done =>
              rw [exec_copyImages_copied here copy] at h
              obtain ⟨outcome, ds, s, hrest⟩ : ∃ outcome ds s,
                  exec (copyImages settings images) diagnostics next = ((outcome, ds), s) := ⟨_, _, _, rfl⟩
              rw [hrest] at h
              cases outcome with
              | error d => cases h
              | ok rest =>
                  obtain ⟨houtcome, rfl⟩ := Prod.mk.inj h
                  obtain ⟨hpaths, rfl⟩ := Prod.mk.inj houtcome
                  obtain rfl := Except.ok.inj hpaths
                  obtain ⟨copied, rfl, hextracts, hprefix, hall⟩ := ih hrest
                  refine ⟨entry :: copied, rfl, .copied here copy hextracts, hprefix, fun hnone => ?_⟩
                  rw [List.filter_cons_of_pos here, hall hnone]
          | error fault =>
              rw [exec_copyImages_failed here copy] at h
              dsimp only at h
              split at h
              · cases h
              · obtain ⟨copied, rfl, hextracts, hprefix, -⟩ := ih h
                refine ⟨copied, rfl, .failed here copy hextracts, (List.prefix_append _ _).trans hprefix,
                  fun hnone => ?_⟩
                -- The fault has been reported.
                have hlength := hprefix.length_le
                rw [hnone, List.length_append, List.length_singleton] at hlength
                omega

/-- An extraction makes the directory, when there are images, and then its copies, after whatever diagnostics. -/
theorem extracts_of_exec {doc : Document} {diagnostics after : List Diagnostic} {files left : σ} {paths : List String}
    (h : exec (extractImages doc settings) diagnostics files = ((.ok paths, after), left)) :
    ∃ copied start, paths = copied.map (imageTarget settings) ∧
      Extracts settings start (doc.media.zipIdx 1) copied left ∧ (after = diagnostics → copied = localImages doc) ∧
      (start = files ∨
        (FileAccess.createDirectories settings.images.outputDir : StateM σ _).run files = (.ok (), start)) := by
  unfold extractImages at h
  split at h
  next hempty =>
    have hnone : doc.media = [] := List.isEmpty_iff.mp hempty
    obtain ⟨houtcome, rfl⟩ := Prod.mk.inj h
    obtain ⟨hpaths, rfl⟩ := Prod.mk.inj houtcome
    obtain rfl := Except.ok.inj hpaths
    refine ⟨[], files, rfl, ?_, fun _ => ?_, .inl rfl⟩
    · rw [hnone]
      exact .done files
    · rw [localImages, hnone]
      rfl
  next =>
    obtain ⟨done, middle, start, hfirst, hcopies⟩ := exec_bind_eq_ok h
    obtain ⟨hmade, rfl⟩ := exec_onFile_eq_ok hfirst
    obtain ⟨copied, hpaths, hextracts, -, hall⟩ := extracts_of_copyImages hcopies
    exact ⟨copied, start, hpaths, hextracts, hall, .inr hmade⟩

theorem extracts_of_extractImages {doc : Document} {after : List Diagnostic} {files left : σ} {paths : List String}
    (h : extraction settings doc files = ((.ok paths, after), left)) :
    ∃ copied start, paths = copied.map (imageTarget settings) ∧
      Extracts settings start (doc.media.zipIdx 1) copied left ∧ (after = [] → copied = localImages doc) ∧
      (start = files ∨
        (FileAccess.createDirectories settings.images.outputDir : StateM σ _).run files = (.ok (), start)) := by
  unfold extraction at h
  rw [exec_outcome] at h
  exact extracts_of_exec h

end Folio
