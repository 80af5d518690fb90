import Folio.Proofs.Files.ExtractedContents

/-!
# Files that are converted

A conversion that succeeds has read its input, whose content alone decides on the text, and has written the text to its
output. Every other file holds what it held, unless an image that was extracted is stored there.

* `convertedText` : the text that a content is converted to;
* `ImagesApart` : the files that no image is stored in;
* `convertFile_eq_ok` : everything that a conversion does to a tree of files;
* `ConvertsAll` : conversions one after the other;
* `ConvertsAll.read_of_apart` : a file that nothing is stored in stays as it is;
* `ConvertsAll.results` : each result stays in its file when none is stored where another one or its input lies.
-/

namespace Folio
open FilePath (Whereabouts whereabouts)
open FileTree (KeepsFiles Overwrites)
open Conversion (exec exec_bind_eq_ok exec_ofReported_eq_ok exec_onFile_eq_ok onFile ofReported)

/-- The document that a file with the content stands for in a format. -/
def contentDocument (path format : String) (settings : RenderSettings) (content : Content) : Reported Document :=
  if format = Format.markdown.name then Markdown.readBytes (settings.forFile path) content
  else
    match Text.decodeUtf8 content with
    | .ok source => Registry.standard.parse format settings source
    | .error _ => .of (.error { kind := .parse, message := "'" ++ path ++ "' is not valid UTF-8" })

/-- The text that a file with the content is converted to. -/
def convertedText (settings : ConversionSettings) (input output : String) (content : Content) :
    Except Diagnostic String := do
  let source ← Registry.standard.formatOf settings.source input
  let target ← Registry.standard.formatOf settings.target output
  let doc ← (contentDocument input source settings.render content).1
  let extracts := target = Format.markdown.name ∧ settings.exporting.images.extract
  let exporting := if extracts then settings.exporting.forFile output else settings.exporting
  (Registry.standard.serialize target exporting doc).1

/-- No image that the conversion may extract is stored where the path leads. -/
def ImagesApart (settings : ConversionSettings) (output : String) (path : List Char) : Prop :=
  Registry.standard.formatOf settings.target output = .ok Format.markdown.name →
    settings.exporting.images.extract = true →
      ∀ entry, targetPlace (settings.exporting.forFile output) entry ≠ whereabouts path

variable {settings : ConversionSettings} {input output : String} {tree next left : FileTree}
  {diagnostics after : List Diagnostic}

/-! ## One conversion -/

theorem loadDocument_eq {σ : Type} [FileAccess (StateM σ)] (path format : String) (settings : RenderSettings) :
    (loadDocument path format settings : Conversion (StateM σ) Document) =
      onFile "read" path (FileAccess.read path) >>= fun content =>
        ofReported (contentDocument path format settings content) := by
  unfold loadDocument contentDocument
  refine congrArg _ (funext fun content => ?_)
  split
  · rfl
  · cases Text.decodeUtf8 content with
    | ok source => rfl
    | error fault =>
        -- Nothing is added to the diagnostics.
        have hnone : ∀ diagnostics : List Diagnostic, diagnostics ++ [] = diagnostics := List.append_nil
        refine congrArg ExceptT.mk (funext fun diagnostics => ?_)
        exact congrArg (fun after => (pure (_, after) : StateM σ _)) (hnone diagnostics).symm

/-- The document comes from what the input holds, and the tree stays as it is. -/
theorem exec_loadDocument_eq_ok {format : String} {settings : RenderSettings} {doc : Document}
    (h : exec (loadDocument input format settings) diagnostics tree = ((.ok doc, after), next)) :
    ∃ content, tree.read input.toList = .ok content ∧ (contentDocument input format settings content).1 = .ok doc ∧
      next = tree := by
  rw [loadDocument_eq] at h
  obtain ⟨content, middle, between, hread, hload⟩ := exec_bind_eq_ok h
  obtain ⟨hcontent, rfl⟩ := Prod.mk.inj (exec_onFile_eq_ok hread).1
  obtain ⟨hdocument, rfl⟩ := exec_ofReported_eq_ok hload
  exact ⟨content, hcontent, hdocument, rfl⟩

theorem keepsFiles_of_createDirectories {dir : String}
    (h : exec (onFile "create directory" dir (FileAccess.createDirectories dir)) diagnostics tree =
      ((.ok (), after), next)) : KeepsFiles tree next :=
  FileTree.read_of_createDirectories (FileTree.eq_ok_of_update (exec_onFile_eq_ok h).1)

/-- An extraction leaves the files where no image is stored. -/
theorem read_of_extractImages {settings : ExportSettings} {doc : Document} {paths : List String}
    (h : exec (extractImages doc settings) diagnostics tree = ((.ok paths, after), next)) {path : List Char}
    {held : Content} (hread : tree.read path = .ok held)
    (hapart : ∀ entry, targetPlace settings entry ≠ whereabouts path) : next.read path = .ok held := by
  obtain ⟨copied, start, -, hextracts, -, hstart⟩ := extracts_of_exec h
  have hkept : start.read path = .ok held := by
    rcases hstart with rfl | hmade
    · exact hread
    · exact FileTree.read_of_createDirectories (FileTree.eq_ok_of_update hmade) path held hread
  exact hextracts.read_of_apart hkept fun entry _ => hapart entry

/-- What comes behind an extraction that need not be made finds the files where no image is stored. -/
theorem exec_extracting_eq_ok {α : Type} {p : Prop} [Decidable p] {settings : ExportSettings} {doc : Document}
    {behind : Conversion (StateM FileTree) α} {result : α}
    (h : exec (if p then do let _ ← extractImages doc settings; behind else behind) diagnostics tree =
      ((.ok result, after), next)) :
    ∃ middle start, exec behind middle start = ((.ok result, after), next) ∧
      ∀ path held, tree.read path = .ok held → (p → ∀ entry, targetPlace settings entry ≠ whereabouts path) →
        start.read path = .ok held := by
  split at h
  next hp =>
    obtain ⟨paths, middle, start, himages, hbehind⟩ := exec_bind_eq_ok h
    exact ⟨middle, start, hbehind, fun path held hread hapart => read_of_extractImages himages hread (hapart hp)⟩
  next => exact ⟨diagnostics, tree, h, fun path held hread _ => hread⟩

/-- The directory of the output is made, and the output is written. -/
theorem overwrites_of_exec {content : Content}
    (h : exec (match directoryOf output with
      | some dir => do
        onFile "create directory" dir (FileAccess.createDirectories dir)
        onFile "write" output (FileAccess.write output content)
      | none => onFile "write" output (FileAccess.write output content)) diagnostics tree = ((.ok (), after), next)) :
    ∃ start, KeepsFiles tree start ∧ Overwrites start next output.toList content := by
  cases hdir : directoryOf output with
  | none =>
      rw [hdir] at h
      exact ⟨tree, .refl tree, FileTree.overwrites_of_write (FileTree.eq_ok_of_update (exec_onFile_eq_ok h).1)⟩
  | some dir =>
      rw [hdir] at h
      obtain ⟨_, middle, start, hmade, hwrite⟩ := exec_bind_eq_ok h
      exact ⟨start, keepsFiles_of_createDirectories hmade,
        FileTree.overwrites_of_write (FileTree.eq_ok_of_update (exec_onFile_eq_ok hwrite).1)⟩

/-- A conversion that succeeds has written to its output what its input is converted to, and leaves the other files where
no image is stored. -/
theorem convertFile_eq_ok (h : exec (convertFile input output settings) diagnostics tree = ((.ok (), after), next)) :
    ∃ content text, tree.read input.toList = .ok content ∧
      convertedText settings input output content = .ok text ∧ next.read output.toList = .ok (.ofText text) ∧
      ∀ path held, tree.read path = .ok held → whereabouts path ≠ whereabouts output.toList →
        ImagesApart settings output path → next.read path = .ok held := by
  unfold convertFile at h
  obtain ⟨source, d₁, t₁, hfirst, h₁⟩ := exec_bind_eq_ok h
  obtain ⟨target, d₂, t₂, hsecond, h₂⟩ := exec_bind_eq_ok h₁
  obtain ⟨doc, d₃, t₃, hthird, h₃⟩ := exec_bind_eq_ok h₂
  obtain ⟨hsource, rfl⟩ := exec_ofReported_eq_ok hfirst
  obtain ⟨htarget, rfl⟩ := exec_ofReported_eq_ok hsecond
  obtain ⟨content, hread, hdocument, rfl⟩ := exec_loadDocument_eq_ok hthird
  obtain ⟨d₄, t₄, h₄, himages⟩ := exec_extracting_eq_ok h₃
  obtain ⟨text, d₅, t₅, hfourth, h₅⟩ := exec_bind_eq_ok h₄
  obtain ⟨htext, rfl⟩ := exec_ofReported_eq_ok hfourth
  obtain ⟨start, hkept, hover⟩ := overwrites_of_exec h₅
  change Registry.standard.formatOf settings.source input = _ at hsource
  change Registry.standard.formatOf settings.target output = _ at htarget
  refine ⟨content, text, hread, ?_, hover.written, fun path held hpath hne hapart => ?_⟩
  · unfold convertedText
    rw [hsource, htarget]
    change (contentDocument input source settings.render content).1 >>= _ = _
    rw [hdocument]
    exact htext
  · refine hover.apart (hkept path held (himages path held hpath fun hextracts => ?_)) hne
    obtain ⟨rfl, hextract⟩ := hextracts
    rw [if_pos ⟨rfl, hextract⟩]
    exact hapart htarget hextract

/-! ## One conversion after the other -/

/-- The inputs are converted one after the other, and every conversion succeeds. -/
inductive ConvertsAll (settings : ConversionSettings) : FileTree → List (String × String) → FileTree → Prop
  | nil (tree : FileTree) : ConvertsAll settings tree [] tree
  | cons {tree next left : FileTree} {pair : String × String} {pairs : List (String × String)}
      {diagnostics after : List Diagnostic}
      (first : exec (convertFile pair.1 pair.2 settings) diagnostics tree = ((.ok (), after), next))
      (more : ConvertsAll settings next pairs left) : ConvertsAll settings tree (pair :: pairs) left

variable {pairs : List (String × String)}

/-- A file that nothing is stored in stays as it is. -/
theorem ConvertsAll.read_of_apart (h : ConvertsAll settings tree pairs left) {path : List Char} {held : Content}
    (hread : tree.read path = .ok held) (hne : ∀ pair ∈ pairs, whereabouts path ≠ whereabouts pair.2.toList)
    (hapart : ∀ pair ∈ pairs, ImagesApart settings pair.2 path) : left.read path = .ok held := by
  induction h with
  | nil => exact hread
  | cons first more ih =>
      obtain ⟨hpair, hne⟩ := List.forall_mem_cons.mp hne
      obtain ⟨himages, hapart⟩ := List.forall_mem_cons.mp hapart
      obtain ⟨-, -, -, -, -, hkept⟩ := convertFile_eq_ok first
      exact ih (hkept path held hread hpair himages) hne hapart

/-- Each result is in its file in the end, when the outputs are different files and no image is stored in one of them.
It is the result of what the input held in the beginning, when nothing else is stored there either. -/
theorem ConvertsAll.results (h : ConvertsAll settings tree pairs left)
    (hdistinct : pairs.Pairwise fun p q => whereabouts p.2.toList ≠ whereabouts q.2.toList)
    (hapart : ∀ p ∈ pairs, ∀ q ∈ pairs, ImagesApart settings p.2 q.2.toList)
    {pair : String × String} (hpair : pair ∈ pairs) :
    ∃ content text, convertedText settings pair.1 pair.2 content = .ok text ∧
      left.read pair.2.toList = .ok (.ofText text) ∧
      ∀ held, tree.read pair.1.toList = .ok held →
        (∀ other ∈ pairs, other ≠ pair → whereabouts pair.1.toList ≠ whereabouts other.2.toList) →
        (∀ other ∈ pairs, ImagesApart settings other.2 pair.1.toList) → held = content := by
  induction h with
  | nil => cases hpair
  | @cons tree next left first pairs diagnostics after converted more ih =>
      obtain ⟨hfirst, hdistinct⟩ := List.pairwise_cons.mp hdistinct
      obtain ⟨content, text, hread, htext, hwritten, hkept⟩ := convertFile_eq_ok converted
      rcases List.mem_cons.mp hpair with rfl | hrest
      · refine ⟨content, text, htext, more.read_of_apart hwritten hfirst fun other hother => ?_, fun held hheld _ _ => ?_⟩
        · exact hapart other (List.mem_cons_of_mem _ hother) _ List.mem_cons_self
        · exact Except.ok.inj (hheld.symm.trans hread)
      · obtain ⟨content, text, htext, hleft, hsame⟩ := ih hdistinct
          (fun p hp q hq => hapart p (List.mem_cons_of_mem _ hp) q (List.mem_cons_of_mem _ hq)) hrest
        refine ⟨content, text, htext, hleft, fun held hheld hne himages => ?_⟩
        have hother : first ≠ pair := by
          rintro rfl
          exact hfirst first hrest rfl
        exact hsame held (hkept _ held hheld (hne first List.mem_cons_self hother) (himages first List.mem_cons_self))
          (fun other hother => hne other (List.mem_cons_of_mem _ hother))
          fun other hother => himages other (List.mem_cons_of_mem _ hother)

end Folio
