import Folio.Files.Tree
import Folio.Proofs.Files.Extraction
import Folio.Proofs.Files.Whereabouts
import Folio.Proofs.Markdown.RunMarkers

/-!
# Links to extracted images

While images are extracted, a run with an image is written as a link to the place that the image's number gives it.
The image is stored there when it is local; a remote image is linked all the same, and nothing is stored for it. A link
leads to its target from the directory that links are relative to, unless that directory steps up behind what it has in
common with the target, or the target has a backslash or a line feed in it.

* `LeadsTo` : a link, followed from a directory, leads to a file;
* `IsLinkable`, `leadsTo_of_isLinkable` : the targets that links lead to;
* `isLinkable_forFile` : so are the targets of a conversion that names no directories of its own;
* `imageLink_written_iff` : the file that an image is linked to has been written for it exactly when it is local.
-/

namespace Folio
open FilePath (GoesDownFrom isAbsolute join whereabouts)
open Markdown (NoteOrder breakLines breakLines_append breakLines_of_not_mem inlineText mergeAfter mergeRuns runText
  runTexts)

/-- The text of an image and its link. -/
def imageText (alt link : List Char) : List Char := '!' :: '[' :: alt ++ [']', '('] ++ link ++ [')']

/-- The link of an image, as it is written. -/
def linkOf (settings : ExportSettings) (entry : MediaRef × Nat) : List Char :=
  breakLines (Media.linkPath (imageTarget settings entry).toList (settings.images.linkBase.map String.toList))

/-- Followed from the directory, the link leads to where the path leads. -/
def LeadsTo (base : Option String) (link path : List Char) : Prop :=
  whereabouts (join (base.getD "").toList link) = whereabouts path

/-- A path that a link can lead to from a directory. -/
structure IsLinkable (base : Option String) (path : List Char) : Prop where
  slash : '\\' ∉ path
  feed : '\n' ∉ path
  goesDown : ∀ dir ∈ base, GoesDownFrom dir.toList path

theorem breakLines_imageText (alt link : List Char) :
    breakLines (imageText alt link) = imageText (breakLines alt) (breakLines link) := by
  change breakLines (['!', '['] ++ alt ++ [']', '('] ++ link ++ [')']) = _
  rw [breakLines_append, breakLines_append, breakLines_append, breakLines_append]
  rfl

/-! ## Links that lead to their targets -/

theorem forwardSlashes_of_not_mem {path : List Char} (h : '\\' ∉ path) : FilePath.forwardSlashes path = path := by
  have hsame : ∀ c ∈ path, (if c = '\\' then '/' else c) = c := by
    intro c hc
    rw [if_neg]
    rintro rfl
    exact h hc
  unfold FilePath.forwardSlashes
  rw [List.map_congr_left hsame, List.map_id']

/-- The link to a path that can be linked leads to it. -/
theorem leadsTo_of_isLinkable {base : Option String} {path : List Char} (h : IsLinkable base path) :
    LeadsTo base (breakLines (Media.linkPath path (base.map String.toList))) path := by
  have hkept : ∀ seen, (∀ c ∈ seen, c ∈ path ∨ c = '.' ∨ c = '/') →
      breakLines (FilePath.forwardSlashes seen) = seen := by
    intro seen hseen
    have hnot : ∀ c, c ∉ path → c ≠ '.' → c ≠ '/' → c ∉ seen := fun c hpath hdot hslash hmem =>
      (hseen c hmem).elim hpath fun hother => hother.elim hdot hslash
    rw [forwardSlashes_of_not_mem (hnot '\\' h.slash (by decide) (by decide)),
      breakLines_of_not_mem (hnot '\n' h.feed (by decide) (by decide))]
  unfold LeadsTo Media.linkPath
  cases base with
  | none =>
      rw [Option.map_none, hkept path fun c hc => .inl hc]
      change whereabouts (join [] path) = whereabouts path
      unfold FilePath.join
      split <;> rfl
  | some dir =>
      obtain ⟨seen, hrelative, hchars, hleads⟩ := FilePath.whereabouts_relativeTo (h.goesDown dir rfl)
      rw [Option.map_some]
      dsimp only
      rw [hrelative, Option.getD_some, Option.getD_some, hkept seen hchars]
      exact hleads

/-- A conversion that names neither where links begin nor where images go stores them where its links lead. -/
theorem isLinkable_forFile (settings : ExportSettings) (output : String) (entry : MediaRef × Nat)
    (hbase : settings.images.linkBase = none) (hdir : isAbsolute settings.images.outputDir.toList = false)
    (hname : isAbsolute
      (Media.extractedName entry.2 entry.1.source.toList settings.images.namingPattern.toList) = false)
    (hslash : '\\' ∉ (imageTarget (settings.forFile output) entry).toList)
    (hfeed : '\n' ∉ (imageTarget (settings.forFile output) entry).toList) :
    IsLinkable (settings.forFile output).images.linkBase (imageTarget (settings.forFile output) entry).toList where
  slash := hslash
  feed := hfeed
  goesDown dir hdirectory := by
    have hdefault : some (settings.images.linkBase.getD ((directoryOf output).getD "")) = some dir := hdirectory
    rw [hbase, Option.getD_none] at hdefault
    obtain rfl := Option.some.inj hdefault
    unfold imageTarget Media.extractionTarget
    rw [String.toList_ofList]
    refine GoesDownFrom.join ?_ hname
    unfold ExportSettings.forFile
    cases directoryOf output with
    | none => exact FilePath.goesDownFrom_nil _
    | some dir =>
        dsimp only
        rw [Option.getD_some, String.toList_ofList]
        exact (FilePath.goesDownFrom_self dir.toList).join hdir

/-! ## Runs with images -/

theorem mem_mergeAfter {last run : Run} {runs : List Run} (hmedia : run.media.isSome = true) (h : run ∈ last :: runs) :
    run ∈ mergeAfter last runs := by
  induction runs generalizing last with
  | nil => exact h
  | cons next runs ih =>
      unfold mergeAfter
      split
      next hmerge =>
        -- Only runs of text are merged.
        simp only [Markdown.isTextRun, Bool.and_eq_true, Option.isNone_iff_eq_none] at hmerge
        obtain ⟨⟨⟨-, hnext⟩, -, hlast⟩, -⟩ := hmerge
        rcases List.mem_cons.mp h with rfl | hrest
        · rw [hlast] at hmedia
          cases hmedia
        · rcases List.mem_cons.mp hrest with rfl | hrest
          · rw [hnext] at hmedia
            cases hmedia
          · exact ih (List.mem_cons_of_mem _ hrest)
      next =>
        rcases List.mem_cons.mp h with rfl | hrest
        · exact List.mem_cons_self
        · exact List.mem_cons_of_mem _ (ih hrest)

theorem mem_mergeRuns {run : Run} {runs : List Run} (hmedia : run.media.isSome = true) (h : run ∈ runs) :
    run ∈ mergeRuns runs := by
  cases runs with
  | nil => exact h
  | cons last runs => exact mem_mergeAfter hmedia h

variable {settings : ExportSettings} {doc : Document}

/-- A run that is written alike under every order of footnotes is part of the text of the runs. -/
theorem runTexts_mem {run : Run} {text : List Char} (htext : ∀ order, (runText settings doc order run).1 = text)
    {runs : List Run} (h : run ∈ runs) (order : NoteOrder) :
    ∃ front back, (runTexts settings doc order runs).1 = front ++ text ++ back := by
  induction runs generalizing order with
  | nil => cases h
  | cons first runs ih =>
      unfold runTexts
      dsimp only
      rcases List.mem_cons.mp h with rfl | hrest
      · exact ⟨[], _, congrArg (· ++ _) (htext order)⟩
      · obtain ⟨front, back, hruns⟩ := ih hrest (runText settings doc order first).2
        refine ⟨(runText settings doc order first).1 ++ front, back, ?_⟩
        rw [hruns, List.append_assoc, List.append_assoc, List.append_assoc]

/-- While images are extracted, a run with an image is written as a link. -/
theorem runText_image (hextract : settings.images.extract = true) {run : Run} (hfootnote : run.footnote = none)
    {index : Nat} (hmedia : run.media = some index) {image : MediaRef} (himage : doc.media[index]? = some image)
    (order : NoteOrder) :
    runText settings doc order run =
      (imageText image.alt.toList (Media.linkPath (imageTarget settings (image, index + 1)).toList
        (settings.images.linkBase.map String.toList)), order) := by
  have hlink : run.media.bind (Markdown.imageLink settings doc) = some (imageText image.alt.toList
      (Media.linkPath (imageTarget settings (image, index + 1)).toList
        (settings.images.linkBase.map String.toList))) := by
    rw [hmedia, Option.bind_some]
    unfold Markdown.imageLink imageTarget
    rw [String.toList_ofList]
    dsimp only
    rw [hextract, himage]
    rfl
  unfold runText
  rw [hfootnote, hlink]

/-- While images are extracted, the link of an image is part of the text of its runs. -/
theorem inlineText_image (hextract : settings.images.extract = true) (order : NoteOrder) {runs : List Run} {run : Run}
    (hrun : run ∈ runs) (hfootnote : run.footnote = none) {index : Nat} (hmedia : run.media = some index)
    {image : MediaRef} (himage : doc.media[index]? = some image) :
    ∃ front back, (inlineText settings doc order runs).1 =
      front ++ imageText (breakLines image.alt.toList) (linkOf settings (image, index + 1)) ++ back := by
  have hmem : run ∈ mergeRuns runs := mem_mergeRuns (by rw [hmedia]; rfl) hrun
  have htext : ∀ order, (runText settings doc order run).1 = imageText image.alt.toList
      (Media.linkPath (imageTarget settings (image, index + 1)).toList
        (settings.images.linkBase.map String.toList)) := by
    intro order
    rw [runText_image hextract hfootnote hmedia himage order]
  obtain ⟨front, back, htexts⟩ := runTexts_mem htext hmem order
  refine ⟨breakLines front, breakLines back, ?_⟩
  change breakLines (runTexts settings doc order (mergeRuns runs)).1 = _
  rw [htexts, breakLines_append, breakLines_append, breakLines_imageText]
  rfl

/-! ## Images and their files -/

theorem mem_localImages_iff {index : Nat} {image : MediaRef} (himage : doc.media[index]? = some image) :
    (image, index + 1) ∈ localImages doc ↔ Media.isRemote image.source.toList = false := by
  have hmem : (image, index + 1) ∈ doc.media.zipIdx 1 := by
    rw [List.mk_mem_zipIdx_iff_le_and_getElem?_sub]
    exact ⟨by omega, himage⟩
  rw [localImages, List.mem_filter, and_iff_right hmem, isLocal, Bool.not_eq_true']

theorem mem_zip_map {α β : Type} {f : α → β} {items : List α} {item : α} {value : β} :
    (item, value) ∈ items.zip (items.map f) ↔ item ∈ items ∧ value = f item := by
  rw [← List.map_prod_left_eq_zip, List.mem_map]
  constructor
  · rintro ⟨other, hother, hsame⟩
    obtain ⟨rfl, rfl⟩ := Prod.mk.inj hsame
    exact ⟨hother, rfl⟩
  · rintro ⟨hitem, rfl⟩
    exact ⟨item, hitem, rfl⟩

/-- **Links to extracted images.** While images are extracted, every run with an image of the document is written as a
link. Once all copies have been made, one file has been written for each local image, and the link leads to the one for
this image exactly when the image is local and the link leads to where it was to go, which it does when that place can
be linked. -/
theorem imageLink_written_iff {σ : Type} [FileAccess (StateM σ)] (settings : ExportSettings) (doc : Document)
    {files left : σ} {written : List String} (hextract : settings.images.extract = true)
    (hcopied : extraction settings doc files = ((.ok written, []), left)) (order : NoteOrder) {runs : List Run}
    {run : Run} (hrun : run ∈ runs) (hfootnote : run.footnote = none) {index : Nat} (hmedia : run.media = some index)
    {image : MediaRef} (himage : doc.media[index]? = some image) :
    let entry := (image, index + 1)
    let target := (imageTarget settings entry).toList
    let base := settings.images.linkBase
    (∃ front back, (inlineText settings doc order runs).1 =
        front ++ imageText (breakLines image.alt.toList) (linkOf settings entry) ++ back) ∧
      written = (localImages doc).map (imageTarget settings) ∧
      ((∃ path, (entry, path) ∈ (localImages doc).zip written ∧ LeadsTo base (linkOf settings entry) path.toList) ↔
        Media.isRemote image.source.toList = false ∧ LeadsTo base (linkOf settings entry) target) ∧
      (IsLinkable base target → LeadsTo base (linkOf settings entry) target) := by
  intro entry target base
  obtain ⟨copied, start, hwritten, -, hall, -⟩ := extracts_of_extractImages hcopied
  rw [hall rfl] at hwritten
  refine ⟨inlineText_image hextract order hrun hfootnote hmedia himage, hwritten, ?_,
    fun hlinkable => leadsTo_of_isLinkable hlinkable⟩
  rw [hwritten, ← mem_localImages_iff himage]
  constructor
  · rintro ⟨path, hpath, hleads⟩
    obtain ⟨hentry, rfl⟩ := mem_zip_map.mp hpath
    exact ⟨hentry, hleads⟩
  · rintro ⟨hentry, hleads⟩
    exact ⟨_, mem_zip_map.mpr ⟨hentry, rfl⟩, hleads⟩

/-- A run with the image of the given index, and the text that stands for it. -/
def imageRun (index : Nat) (text : String) : Run := { text, media := some index }

/-- A picture next to the text is copied below the directory of the output, and linked from there. -/
theorem imageLink_written_local :
    let image : MediaRef := { source := "pics/cat.png", alt := "cat" }
    let doc : Document := { media := [image] }
    let settings := ({ images := { extract := true } } : ExportSettings).forFile "out/doc.md"
    let files := FileTree.ofFiles [("pics/cat.png", [1])]
    let run := imageRun 0 "[Image: cat]"
    (settings.images.extract = true ∧ (extraction settings doc files).1 = (.ok ["out/images/image1.png"], []) ∧
        run.footnote = none ∧ run.media = some 0 ∧ doc.media[0]? = some image) ∧
      (inlineText settings doc [] [run]).1 = "![cat](images/image1.png)".toList ∧
      ∃ path, ((image, 1), path) ∈ (localImages doc).zip ["out/images/image1.png"] ∧
        LeadsTo (some "out") "images/image1.png".toList path.toList := by
  intro image doc settings files run
  have hwritten : (extraction settings doc files).1 = (.ok ["out/images/image1.png"], []) := by decide +kernel
  have hcopied : extraction settings doc files =
      ((.ok ["out/images/image1.png"], []), (extraction settings doc files).2) := by rw [← hwritten]
  have hlink : linkOf settings (image, 1) = "images/image1.png".toList := by decide +kernel
  have hlinkable : IsLinkable settings.images.linkBase (imageTarget settings (image, 1)).toList :=
    isLinkable_forFile _ "out/doc.md" (image, 1) rfl (by decide) (by decide +kernel) (by decide +kernel)
      (by decide +kernel)
  obtain ⟨-, -, hiff, hleads⟩ := imageLink_written_iff settings doc rfl hcopied [] (List.mem_singleton_self run) rfl rfl
    (show doc.media[0]? = some image from rfl)
  obtain ⟨path, hpath, hleadsTo⟩ := hiff.mpr ⟨by decide +kernel, hleads hlinkable⟩
  rw [hlink] at hleadsTo
  exact ⟨⟨rfl, hwritten, rfl, rfl, rfl⟩, by decide +kernel, path, hpath, hleadsTo⟩

/-- A remote image is linked to a file that is never written. -/
theorem imageLink_written_remote :
    let image : MediaRef := { source := "data:image/png;base64,AA==", alt := "cat" }
    let doc : Document := { media := [image] }
    let settings : ExportSettings := { images := { extract := true } }
    (extraction settings doc ({} : FileTree)).1 = (.ok [], []) ∧
      ((extraction settings doc ({} : FileTree)).2.read "images/image1.png".toList).toOption = none ∧
      (inlineText settings doc [] [imageRun 0 "[Image: cat]"]).1 = "![cat](images/image1.png)".toList := by
  decide +kernel

end Folio
