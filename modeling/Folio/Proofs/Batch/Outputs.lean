import Folio.CommandLine.Run
import Folio.Proofs.Batch.InOrder
import Folio.Proofs.Files.ConvertedFiles
import Mathlib.Data.List.Nodup

/-!
# The outputs of a batch

A batch writes all its results into one directory, and of the path of an input only the stem of its file name goes into
the path of its output. Two inputs have one output exactly when they have one stem, whatever directories they lie in and
whatever their extensions are.

* `outputStem`, `outputName` : what an output is named after, and its file name;
* `whereabouts_outputPath_inj`, `outputPath_inj` : outputs are told apart by the stems of their inputs;
* `cutExtension_append` : an extension that has been put behind a name is cut off again;
* `outputStem_of_read` : a file that lies where an output goes has the stem of that output's input;
* `Batch.flawless_of_step`, `Batch.flawless_of_foldlM` : a batch that ends without failures has converted all its items;
* `convertsAll_of_runBatch` : a batch whose exit code is zero has converted all its inputs;
* `batch_outputs` : outputs that are told apart, and what they hold in the end.
-/

namespace Folio
open FilePath (Component cutExtension fileName join stem walk whereabouts)
open Conversion (exec)

/-- What an output is named after: the file name of its input, without the extension. -/
def outputStem (input : List Char) : List Char := (stem input).getD "output".toList

/-- The file name of an output. -/
def outputName (input extension : List Char) : List Char := outputStem input ++ '.' :: extension

/-- An extension that ends a file name and is cut off again. -/
structure IsExtension (extension : List Char) : Prop where
  ne_nil : extension ≠ []
  dot : '.' ∉ extension
  slash : '/' ∉ extension

variable {input other dir extension : List Char}

/-! ## Names -/

/-- An extension that has been put behind a name is cut off again. -/
theorem cutExtension_append {name : List Char} (hname : name ≠ []) (hdot : '.' ∉ extension) :
    cutExtension (name ++ '.' :: extension) = (name, some extension) := by
  have hreverse : (name ++ '.' :: extension).reverse = extension.reverse ++ '.' :: name.reverse := by simp
  have hkept : ∀ c ∈ extension.reverse, (c != '.') = true := by
    intro c hc
    rw [bne_iff_ne]
    rintro rfl
    exact hdot (List.mem_reverse.mp hc)
  obtain ⟨last, before, hlast⟩ := List.exists_cons_of_ne_nil (mt List.reverse_eq_nil_iff.mp hname)
  have hback : (last :: before).reverse = name := by rw [← hlast, List.reverse_reverse]
  unfold cutExtension
  rw [hreverse, List.takeWhile_append_of_pos hkept, List.dropWhile_append_of_pos hkept, hlast]
  simp [← hback]

/-- What is left of a name is a part in front, and there is something left. -/
theorem cutExtension_front {name : List Char} (hname : name ≠ []) :
    (cutExtension name).1 ≠ [] ∧ (cutExtension name).1 <+: name := by
  unfold cutExtension
  dsimp only
  split
  next last before hbefore =>
    have hback : (last :: before) <:+ name.reverse :=
      (List.suffix_cons '.' _).trans (hbefore ▸ List.dropWhile_suffix _)
    exact ⟨by simp, List.reverse_suffix.mp (by simpa using hback)⟩
  next => exact ⟨hname, List.prefix_refl _⟩

theorem isPart_of_fileName {path name : List Char} (h : fileName path = some name) : (Component.name name).IsPart := by
  unfold fileName at h
  split at h
  next last hlast =>
    obtain rfl := Option.some.inj h
    exact FilePath.isPart_of_mem_components (List.mem_of_getLast? hlast)
  next => cases h

theorem outputStem_of_fileName {name : List Char} (h : fileName input = some name) :
    outputStem input = (cutExtension name).1 := by
  unfold outputStem stem
  rw [h]
  rfl

/-- An output is named after something, in which there is no slash. -/
theorem outputStem_spec (input : List Char) : outputStem input ≠ [] ∧ '/' ∉ outputStem input := by
  cases hname : fileName input with
  | none =>
      unfold outputStem stem
      rw [hname]
      decide
  | some name =>
      obtain ⟨hne, -, -, hslash⟩ := isPart_of_fileName hname
      obtain ⟨hleft, hfront⟩ := cutExtension_front hne
      rw [outputStem_of_fileName hname]
      exact ⟨hleft, fun hmem => hslash (hfront.subset hmem)⟩

theorem isPart_outputName (h : IsExtension extension) (input : List Char) :
    (Component.name (outputName input extension)).IsPart := by
  obtain ⟨hstem, hslash⟩ := outputStem_spec input
  have hstem := List.length_pos_iff.mpr hstem
  have hextension := List.length_pos_iff.mpr h.ne_nil
  have hlong : ∀ short : List Char, short.length ≤ 2 → outputName input extension ≠ short := by
    rintro _ hshort rfl
    unfold outputName at hshort
    rw [List.length_append, List.length_cons] at hshort
    omega
  refine ⟨hlong [] (by decide), hlong ['.'] (by decide), hlong ['.', '.'] (by decide), ?_⟩
  unfold outputName
  rw [List.mem_append, List.mem_cons]
  rintro (hmem | hdot | hmem)
  · exact hslash hmem
  · exact absurd hdot (by decide)
  · exact h.slash hmem

/-! ## Paths -/

theorem outputPath_eq (input dir extension : List Char) :
    outputPath input dir extension = join dir (outputName input extension) := rfl

/-- An output lies in the directory, under its name. -/
theorem whereabouts_outputPath (h : IsExtension extension) (input dir : List Char) :
    whereabouts (outputPath input dir extension) =
      (whereabouts dir).step (.name (outputName input extension)) := by
  rw [outputPath_eq, whereabouts, FilePath.walk_join]
  exact congrArg (walk (whereabouts dir)) (FilePath.components_text (isPart_outputName h input))

/-- The name is the last one on the way to the output. -/
theorem getLast?_down_outputPath (h : IsExtension extension) (input dir : List Char) :
    (whereabouts (outputPath input dir extension)).down.getLast? = some (outputName input extension) := by
  rw [whereabouts_outputPath h]
  exact List.getLast?_concat

/-- Nothing but the stem of its input goes into an output. -/
theorem outputPath_of_stem (h : outputStem input = outputStem other) (dir extension : List Char) :
    outputPath input dir extension = outputPath other dir extension := by
  rw [outputPath_eq, outputPath_eq, outputName, outputName, h]

/-- Outputs lie at the same place exactly when their inputs have the same stem. -/
theorem whereabouts_outputPath_inj (h : IsExtension extension) :
    whereabouts (outputPath input dir extension) = whereabouts (outputPath other dir extension) ↔
      outputStem input = outputStem other := by
  refine ⟨fun heq => ?_, fun heq => congrArg whereabouts (outputPath_of_stem heq dir extension)⟩
  have hname := getLast?_down_outputPath h other dir
  rw [← heq, getLast?_down_outputPath h input dir] at hname
  exact List.append_cancel_right (Option.some.inj hname)

theorem outputPath_inj (h : IsExtension extension) :
    outputPath input dir extension = outputPath other dir extension ↔ outputStem input = outputStem other :=
  ⟨fun heq => (whereabouts_outputPath_inj h).mp (congrArg whereabouts heq), fun heq => outputPath_of_stem heq dir _⟩

/-! ## Files where outputs go -/

/-- Steps to a file end in the name that comes last on the way to it. -/
theorem FileTree.getLast?_of_follow {tree : FileTree} {names found : List Name} {steps : List Component}
    {content : Content} (h : tree.follow names steps = .ok (.file found content)) :
    ∃ name, steps.getLast? = some (.name name) ∧ found.getLast? = some name := by
  have hmore : ∀ step rest, (∃ name, List.getLast? rest = some (.name name) ∧ found.getLast? = some name) →
      ∃ name, List.getLast? (step :: rest) = some (Component.name name) ∧ found.getLast? = some name := by
    rintro step rest ⟨name, hname, hfound⟩
    refine ⟨name, ?_, hfound⟩
    rw [List.getLast?_cons, hname]
    rfl
  fun_induction tree.follow names steps with
  | case1 => cases h
  | case2 => cases h
  | case3 names rest ih => exact hmore _ _ (ih h)
  | case4 => cases h
  | case5 names rest hnames ih => exact hmore _ _ (ih h)
  | case6 => cases h
  | case7 names name rest hlength below hfound ih => exact hmore _ _ (ih h)
  | case8 names name rest hlength below held hfound hlast =>
      obtain ⟨rfl, -⟩ := Place.file.inj (Except.ok.inj h)
      rw [List.isEmpty_iff.mp hlast]
      exact ⟨name, rfl, List.getLast?_concat⟩
  | case9 => cases h
  | case10 => cases h
  | case11 => cases h

/-- A file that can be read lies at the end of the way under its name. -/
theorem fileName_of_read {tree : FileTree} {path : List Char} {content : Content} (h : tree.read path = .ok content) :
    ∃ name, fileName path = some name ∧ (whereabouts path).down.getLast? = some name := by
  obtain ⟨found, hlocate, -⟩ := FileTree.read_eq_ok.mp h
  obtain ⟨name, hlast, hfound⟩ := FileTree.getLast?_of_follow (FileTree.locate_eq_ok hlocate).2.2
  refine ⟨name, ?_, ?_⟩
  · unfold fileName
    rw [hlast]
  · rw [FileTree.locate_whereabouts hlocate]
    exact hfound

/-- A file that lies where an output goes has the stem of that output's input. -/
theorem outputStem_of_read (h : IsExtension extension) {tree : FileTree} {content : Content}
    (hread : tree.read input = .ok content)
    (hplace : whereabouts input = whereabouts (outputPath other dir extension)) :
    outputStem input = outputStem other := by
  obtain ⟨name, hname, hlast⟩ := fileName_of_read hread
  rw [hplace, getLast?_down_outputPath h] at hlast
  obtain rfl := Option.some.inj hlast
  rw [outputStem_of_fileName hname, outputName, cutExtension_append (outputStem_spec other).1 h.dot]

/-! ## Runs without failures -/

/-- No item has failed, and none has been left. -/
structure Batch.Flawless (batch : Batch) : Prop where
  failures : batch.failures = []
  skipped : batch.skipped = 0

theorem Batch.Flawless.of_record {settings : BatchSettings} {batch : Batch} {place : Nat} {outcome : JobOutcome}
    (h : (batch.record settings place outcome).Flawless) : batch.Flawless ∧ outcome.result = .ok () := by
  obtain ⟨hfailures, hskipped⟩ := h
  rw [Batch.record_eq] at hfailures hskipped
  obtain ⟨hbefore, hfailures⟩ := List.append_eq_nil_iff.mp hfailures
  obtain ⟨hleft, hskipped⟩ := Nat.add_eq_zero_iff.mp hskipped
  refine ⟨⟨hbefore, hleft⟩, ?_⟩
  unfold JobOutcome.abort? JobOutcome.error? at *
  cases hresult : outcome.result with
  | ok done => rfl
  | error e => cases hignore : settings.ignoreErrors <;> simp [hresult, hignore] at hfailures hskipped

theorem Batch.flawless_of_report {batch : Batch} {total : Nat} {report : BatchReport}
    (h : batch.report total = .ok report) (hsuccess : report.isSuccess = true) : batch.Flawless := by
  unfold Batch.report at h
  split at h
  · cases h
  · split at h
    · cases h
    next hskipped =>
      obtain rfl := Except.ok.inj h
      exact ⟨List.isEmpty_iff.mp hsuccess, Nat.eq_zero_of_not_pos hskipped⟩

/-- The conversion of a pair of files, as an item of a batch. -/
def conversionJob (settings : ConversionSettings) (pair : String × String) :
    StateT (List Diagnostic) (StateM FileTree) JobOutcome := do
  return { result := ← (convertFile pair.1 pair.2 settings).run }

/-- A batch that is without failures after an item was so before, and has converted the item. -/
theorem Batch.flawless_of_step {settings : ConversionSettings} {batchSettings : BatchSettings} {batch next : Batch}
    {pair : String × String} {place : Nat} {diagnostics after : List Diagnostic} {tree left : FileTree}
    (h : Batch.step batchSettings (conversionJob settings) batch (pair, place) diagnostics tree = ((next, after), left))
    (hnext : next.Flawless) :
    batch.Flawless ∧ exec (convertFile pair.1 pair.2 settings) diagnostics tree = ((.ok (), after), left) := by
  unfold Batch.step at h
  split at h
  next =>
    obtain ⟨outcome, middle, between, hconverted⟩ : ∃ outcome middle between,
        exec (convertFile pair.1 pair.2 settings) diagnostics tree = ((outcome, middle), between) := ⟨_, _, _, rfl⟩
    change ((batch.record batchSettings place ⟨(exec (convertFile pair.1 pair.2 settings) diagnostics tree).1.1, false⟩,
      (exec (convertFile pair.1 pair.2 settings) diagnostics tree).1.2),
      (exec (convertFile pair.1 pair.2 settings) diagnostics tree).2) = _ at h
    rw [hconverted] at h ⊢
    obtain ⟨hbatch, rfl⟩ := Prod.mk.inj h
    obtain ⟨rfl, rfl⟩ := Prod.mk.inj hbatch
    obtain ⟨hflawless, hresult⟩ := hnext.of_record
    exact ⟨hflawless, by rw [← hresult]⟩
  next =>
    obtain ⟨hbatch, -⟩ := Prod.mk.inj h
    obtain ⟨rfl, -⟩ := Prod.mk.inj hbatch
    exact absurd hnext.skipped (Nat.succ_ne_zero batch.skipped)

/-- A batch that ends without failures was so from the beginning, and has converted all its items. -/
theorem Batch.flawless_of_foldlM {settings : ConversionSettings} {batchSettings : BatchSettings}
    {pairs : List (String × String)} {place : Nat} {batch last : Batch} {diagnostics after : List Diagnostic}
    {tree left : FileTree}
    (h : (pairs.zipIdx place).foldlM (Batch.step batchSettings (conversionJob settings)) batch diagnostics tree =
      ((last, after), left)) (hlast : last.Flawless) : batch.Flawless ∧ ConvertsAll settings tree pairs left := by
  induction pairs generalizing place batch diagnostics tree with
  | nil =>
      obtain ⟨hbatch, rfl⟩ := Prod.mk.inj h
      obtain ⟨rfl, -⟩ := Prod.mk.inj hbatch
      exact ⟨hlast, .nil tree⟩
  | cons pair pairs ih =>
      obtain ⟨next, middle, between, hstep⟩ : ∃ next middle between,
          Batch.step batchSettings (conversionJob settings) batch (pair, place) diagnostics tree =
            ((next, middle), between) := ⟨_, _, _, rfl⟩
      rw [List.zipIdx_cons, List.foldlM_cons] at h
      change (pairs.zipIdx (place + 1)).foldlM (Batch.step batchSettings (conversionJob settings))
        (Batch.step batchSettings (conversionJob settings) batch (pair, place) diagnostics tree).1.1
        (Batch.step batchSettings (conversionJob settings) batch (pair, place) diagnostics tree).1.2
        (Batch.step batchSettings (conversionJob settings) batch (pair, place) diagnostics tree).2 = _ at h
      rw [hstep] at h
      obtain ⟨hnext, hmore⟩ := ih h
      obtain ⟨hbatch, hconverted⟩ := Batch.flawless_of_step hstep hnext
      exact ⟨hbatch, .cons hconverted hmore⟩

/-! ## The command -/

/-- How a batch converts its files. -/
def batchConversion (target : String) (strict : Bool) (config : Configuration) : ConversionSettings where
  target := some target
  render := { config.render with
    errors := if strict then { strict := true, ignoreErrors := false } else config.render.errors }
  exporting := config.exporting

/-- How many files a batch works on at a time, and whether it goes on behind a failure. -/
def batchSettings (jobs : Option Nat) (strict : Bool) (config : Configuration) : BatchSettings where
  parallelism := (jobs.map (max · 1)).getD config.batch.parallelism
  ignoreErrors := !strict && config.batch.ignoreErrors

/-- The output of an input. -/
def batchOutput (target directory : String) (format : Format) (input : String) : String :=
  String.ofList (outputPath input.toList directory.toList (format.extensions.headD target).toList)

variable {inputs : List String} {target directory : String} {jobs : Option Nat} {strict : Bool} {config : Configuration}
  {format : Format} {reply : CommandLine.Reply} {before after : FileTree}

open CommandLine (runBatch)

/-- The inputs with their outputs. -/
def batchPairs (target directory : String) (format : Format) (inputs : List String) : List (String × String) :=
  inputs.map fun input => (input, batchOutput target directory format input)

/-- The items are converted in order; the reply tells what came of them. -/
theorem run_runBatch (hformat : Registry.standard.get target = .ok format) (inputs : List String) (directory : String)
    (jobs : Option Nat) (strict : Bool) (config : Configuration) (before : FileTree) :
    ∃ last diagnostics after,
      (batchPairs target directory format inputs).zipIdx.foldlM
        (Batch.step (batchSettings jobs strict config) (conversionJob (batchConversion target strict config))) {} []
        before = ((last, diagnostics), after) ∧
      (runBatch inputs target directory jobs strict config : StateM FileTree _).run before =
        ((match last.report (batchPairs target directory format inputs).length with
          | .ok report => CommandLine.batchReply inputs directory report
          | .error e => .ofError e).warned diagnostics, after) := by
  refine ⟨_, _, _, rfl, ?_⟩
  unfold runBatch
  rw [hformat]
  rfl

/-- A batch whose exit code is zero has converted all its inputs. -/
theorem convertsAll_of_runBatch (hformat : Registry.standard.get target = .ok format)
    (h : (runBatch inputs target directory jobs strict config : StateM FileTree _).run before = (reply, after))
    (hexit : reply.exit = 0) :
    ConvertsAll (batchConversion target strict config) before (batchPairs target directory format inputs) after := by
  obtain ⟨last, diagnostics, left, hfold, hrun⟩ := run_runBatch hformat inputs directory jobs strict config before
  obtain ⟨rfl, rfl⟩ := Prod.mk.inj (h.symm.trans hrun)
  refine (Batch.flawless_of_foldlM hfold ?_).2
  cases hreport : last.report (batchPairs target directory format inputs).length with
  | ok report =>
      rw [hreport] at hexit
      refine Batch.flawless_of_report hreport ?_
      by_contra hfails
      change (if report.isSuccess = true then 0 else 1) = 0 at hexit
      rw [if_neg hfails] at hexit
      cases hexit
  | error e =>
      rw [hreport] at hexit
      cases hexit

/-! ## All outputs -/

/-- The extensions of the formats that come with the library are such. -/
theorem isExtension_of_get (h : Registry.standard.get target = .ok format) :
    IsExtension (format.extensions.headD target).toList := by
  have hmem : format ∈ [Format.markdown, Format.json] := by
    unfold Registry.get at h
    split at h
    next found hfound =>
      obtain rfl := Except.ok.inj h
      exact List.mem_of_find?_eq_some hfound
    next => cases h
  rw [List.mem_cons, List.mem_singleton] at hmem
  have hmarkdown : IsExtension "md".toList := ⟨by decide, by decide, by decide⟩
  have hjson : IsExtension "json".toList := ⟨by decide, by decide, by decide⟩
  rcases hmem with rfl | rfl
  · exact hmarkdown
  · exact hjson

/-- Rows that tell the same things apart. -/
theorem nodup_map_iff {α β γ : Type} {f : α → β} {g : α → γ} (h : ∀ a b, f a = f b ↔ g a = g b) (row : List α) :
    (row.map f).Nodup ↔ (row.map g).Nodup := by
  simp only [List.Nodup, List.pairwise_map, ne_eq, h]

theorem whereabouts_batchOutput (hformat : Registry.standard.get target = .ok format) (directory input other : String) :
    whereabouts (batchOutput target directory format input).toList =
        whereabouts (batchOutput target directory format other).toList ↔
      outputStem input.toList = outputStem other.toList := by
  unfold batchOutput
  rw [String.toList_ofList, String.toList_ofList]
  exact whereabouts_outputPath_inj (isExtension_of_get hformat)

theorem batchOutput_inj (hformat : Registry.standard.get target = .ok format) (directory input other : String) :
    batchOutput target directory format input = batchOutput target directory format other ↔
      outputStem input.toList = outputStem other.toList := by
  unfold batchOutput
  rw [String.ofList_inj]
  exact outputPath_inj (isExtension_of_get hformat)

/-- The outputs of a batch are different paths, and lie at different places, exactly when their inputs have different
stems. Then a batch whose exit code is zero leaves each result in the file of its output, unless an image is stored
there; it is the result of what the input held in the beginning, unless an image is stored where an input lies. -/
theorem batch_outputs (hformat : Registry.standard.get target = .ok format) (inputs : List String) (directory : String)
    (jobs : Option Nat) (strict : Bool) (config : Configuration) :
    let output := batchOutput target directory format
    let settings := batchConversion target strict config
    let StemsApart := (inputs.map fun input => outputStem input.toList).Nodup
    ((inputs.map output).Nodup ↔ StemsApart) ∧
    ((inputs.map fun input => whereabouts (output input).toList).Nodup ↔ StemsApart) ∧
    ∀ before reply after,
      (runBatch inputs target directory jobs strict config : StateM FileTree _).run before = (reply, after) →
      reply.exit = 0 → StemsApart →
      (∀ input ∈ inputs, ∀ other ∈ inputs, ImagesApart settings (output input) (output other).toList) →
      ∀ input ∈ inputs, ∃ content text,
        convertedText settings input (output input) content = .ok text ∧
        after.read (output input).toList = .ok (.ofText text) ∧
        ((∀ other ∈ inputs, ImagesApart settings (output other) input.toList) →
          ∀ held, before.read input.toList = .ok held → held = content) := by
  intro output settings StemsApart
  have hplaces := nodup_map_iff (whereabouts_batchOutput hformat directory) inputs
  refine ⟨nodup_map_iff (batchOutput_inj hformat directory) inputs, hplaces, ?_⟩
  intro before reply after hrun hexit hstems himages input hinput
  have hconverts := convertsAll_of_runBatch hformat hrun hexit
  have hpair : (input, output input) ∈ batchPairs target directory format inputs :=
    List.mem_map_of_mem (f := fun input => (input, output input)) hinput
  have hdistinct : (batchPairs target directory format inputs).Pairwise fun p q =>
      whereabouts p.2.toList ≠ whereabouts q.2.toList := by
    have hnodup := hplaces.mpr hstems
    unfold List.Nodup at hnodup
    rw [List.pairwise_map] at hnodup
    exact List.pairwise_map.mpr hnodup
  have hstored : ∀ p ∈ batchPairs target directory format inputs, ∀ q ∈ batchPairs target directory format inputs,
      ImagesApart settings p.2 q.2.toList :=
    List.forall_mem_map.mpr fun input hinput => List.forall_mem_map.mpr (himages input hinput)
  obtain ⟨content, text, htext, hwritten, hsame⟩ := hconverts.results hdistinct hstored hpair
  refine ⟨content, text, htext, hwritten, fun hinputs held hheld =>
    hsame held hheld (List.forall_mem_map.mpr fun other hother hne hplace => ?_) (List.forall_mem_map.mpr hinputs)⟩
  -- The input would have the stem of the other one.
  unfold output batchOutput at hplace
  rw [String.toList_ofList] at hplace
  have hstem := outputStem_of_read (isExtension_of_get hformat) hheld hplace
  exact hne (congrArg (fun input => (input, output input)) (List.inj_on_of_nodup_map hstems hother hinput hstem.symm))

/-- Two files whose names begin in the same way: the stems differ, and each result is in its file. -/
theorem batch_outputs_versions :
    let inputs := ["draft/plan.json", "final/plan.2.json"]
    let output := batchOutput "json" "out" .json
    let settings := batchConversion "json" false {}
    let before := FileTree.ofFiles
      [("draft/plan.json", .ofText ({} : Document).toText),
        ("final/plan.2.json", .ofText ({ defaults := { bold := some true } } : Document).toText)]
    let run := (runBatch inputs "json" "out" none false {} : StateM FileTree _).run before
    (Registry.standard.get "json" = .ok .json ∧ run.1.exit = 0 ∧
        (inputs.map fun input => outputStem input.toList).Nodup ∧
        ∀ input path, ImagesApart settings (output input) path) ∧
      (inputs.map output).Nodup ∧
      ∀ input ∈ inputs, ∃ content text, before.read input.toList = .ok content ∧
        convertedText settings input (output input) content = .ok text ∧
        run.2.read (output input).toList = .ok (.ofText text) := by
  intro inputs output settings before run
  have hformat : Registry.standard.get "json" = .ok .json := rfl
  have hexit : run.1.exit = 0 := by decide +kernel
  have hstems : (inputs.map fun input => outputStem input.toList).Nodup := by decide +kernel
  have himages : ∀ input path, ImagesApart settings (output input) path := fun _ _ _ hextract => nomatch hextract
  have hread : ∀ input ∈ inputs, ∃ held, before.read input.toList = .ok held := by
    have hfound : ∀ input ∈ inputs, (before.read input.toList).isOk = true := by decide +kernel
    intro input hinput
    cases hheld : before.read input.toList with
    | ok held => exact ⟨held, rfl⟩
    | error fault =>
        have hok := hfound input hinput
        rw [hheld] at hok
        cases hok
  obtain ⟨hpaths, -, hresults⟩ := batch_outputs hformat inputs "out" none false {}
  refine ⟨⟨hformat, hexit, hstems, himages⟩, hpaths.mpr hstems, fun input hinput => ?_⟩
  obtain ⟨content, text, htext, hwritten, hsame⟩ :=
    hresults before run.1 run.2 rfl hexit hstems (fun input _ other _ => himages input _) input hinput
  obtain ⟨held, hheld⟩ := hread input hinput
  obtain rfl := hsame (fun other _ => himages other _) held hheld
  exact ⟨held, text, hheld, htext, hwritten⟩

/-- Two files of one name in two directories: both conversions succeed, and the result of the first one is lost. -/
theorem batch_outputs_same_name :
    let inputs := ["draft/plan.json", "final/plan.json"]
    let output := batchOutput "json" "out" .json
    let draft := ({} : Document).toText
    let final := ({ defaults := { bold := some true } } : Document).toText
    let before := FileTree.ofFiles [("draft/plan.json", .ofText draft), ("final/plan.json", .ofText final)]
    let run := (runBatch inputs "json" "out" none false {} : StateM FileTree _).run before
    inputs.Nodup ∧ run.1 = { stderr := "Converted 2 of 2 file(s) into out\n" } ∧
      inputs.map output = ["out/plan.json", "out/plan.json"] ∧
      convertedText (batchConversion "json" false {}) "draft/plan.json" (output "draft/plan.json") (.ofText draft) =
        .ok draft ∧
      run.2.read "out/plan.json".toList = .ok (.ofText final) ∧ draft ≠ final := by
  decide +kernel

end Folio
