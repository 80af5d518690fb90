import Folio.Proofs.Files.Extraction
import Folio.Proofs.Files.TreeCopies

/-!
# What extracted images hold

The copies of an extraction are made one after the other, each from what its source holds at that moment. A source that
lies where an earlier image has been stored is read too late, and an image that is stored where it is taken from is
emptied.

* `Extracts.read_of_apart` : a file that is no target stays as it is;
* `Extracts.read_target` : an image is stored as it was when its source is no target;
* `Extracts.contents_iff` : a run of copies stores all images as they were exactly when none comes too late;
* `pairwise_targetPlace` : under the usual names the targets are different files;
* `extracted_contents_iff` : so does an extraction.
-/

namespace Folio
open FilePath (Whereabouts whereabouts)
open FileTree (KeepsFiles Overwrites)

/-- Where the file of an image lies. -/
def sourcePlace (entry : MediaRef × Nat) : Whereabouts := whereabouts entry.1.source.toList

/-- Where an image is stored. -/
def targetPlace (settings : ExportSettings) (entry : MediaRef × Nat) : Whereabouts :=
  whereabouts (imageTarget settings entry).toList

variable {settings : ExportSettings}

/-! ## Copies in a tree -/

section Copies
variable {tree next left : FileTree} {entry : MediaRef × Nat} {images copied : List (MediaRef × Nat)}

theorem overwrites_of_run
    (h : (FileAccess.copy entry.1.source (imageTarget settings entry) : StateM FileTree _).run tree = (.ok (), next)) :
    ∃ held, tree.read entry.1.source.toList = .ok held ∧
      Overwrites tree next (imageTarget settings entry).toList
        (if sourcePlace entry = targetPlace settings entry then [] else held) :=
  FileTree.overwrites_of_copy (FileTree.eq_ok_of_update h)

/-- A copy that fails leaves the tree as it is. -/
theorem eq_of_run {fault : FileFault}
    (h : (FileAccess.copy entry.1.source (imageTarget settings entry) : StateM FileTree _).run tree =
      (.error fault, next)) : next = tree := by
  change (FileTree.update _).run tree = _ at h
  rw [FileTree.run_update] at h
  split at h
  · cases h
  · exact (Prod.mk.inj h).2.symm

theorem Extracts.sublist (h : Extracts settings tree images copied left) : copied.Sublist (images.filter isLocal) := by
  induction h with
  | done => exact .slnil
  | remote away more ih => rwa [List.filter_cons_of_neg (by rw [away]; exact Bool.false_ne_true)]
  | copied here copy more ih =>
      rw [List.filter_cons_of_pos here]
      exact ih.cons_cons _
  | failed here copy more ih =>
      rw [List.filter_cons_of_pos here]
      exact ih.cons _

/-- A file that is no target stays as it is. -/
theorem Extracts.read_of_apart (h : Extracts settings tree images copied left) {path : List Char} {content : Content}
    (hread : tree.read path = .ok content) (hapart : ∀ e ∈ copied, targetPlace settings e ≠ whereabouts path) :
    left.read path = .ok content := by
  induction h with
  | done => exact hread
  | remote away more ih => exact ih hread hapart
  | failed here copy more ih =>
      obtain rfl := eq_of_run copy
      exact ih hread hapart
  | copied here copy more ih =>
      obtain ⟨hentry, hrest⟩ := List.forall_mem_cons.mp hapart
      obtain ⟨held, -, hover⟩ := overwrites_of_run copy
      exact ih (hover.apart hread (Ne.symm hentry)) hrest

/-- An image whose source is no target is stored as it was. -/
theorem Extracts.read_target (h : Extracts settings tree images copied left)
    (hdistinct : copied.Pairwise fun e f => targetPlace settings e ≠ targetPlace settings f)
    (hentry : entry ∈ copied) {content : Content} (hread : tree.read entry.1.source.toList = .ok content)
    (hapart : ∀ e ∈ copied, targetPlace settings e ≠ sourcePlace entry) :
    left.read (imageTarget settings entry).toList = .ok content := by
  induction h with
  | done => cases hentry
  | remote away more ih => exact ih hdistinct hentry hread hapart
  | failed here copy more ih =>
      obtain rfl := eq_of_run copy
      exact ih hdistinct hentry hread hapart
  | copied here copy more ih =>
      obtain ⟨hfirst, hdistinct⟩ := List.pairwise_cons.mp hdistinct
      obtain ⟨hsource, hrest⟩ := List.forall_mem_cons.mp hapart
      obtain ⟨held, hheld, hover⟩ := overwrites_of_run copy
      rcases List.mem_cons.mp hentry with rfl | hentry
      · obtain rfl := Except.ok.inj (hheld.symm.trans hread)
        have hwritten := hover.written
        rw [if_neg (Ne.symm hsource)] at hwritten
        exact more.read_of_apart hwritten fun e he => Ne.symm (hfirst e he)
      · exact ih hdistinct hentry (hover.apart hread (Ne.symm hsource)) hrest

/-- No image is read from where an earlier one with another content has been stored, nor stored where it is taken from
unless it is empty. -/
def InTime (settings : ExportSettings) (content : MediaRef × Nat → Content) (copied : List (MediaRef × Nat)) : Prop :=
  (copied.Pairwise fun e f => targetPlace settings e = sourcePlace f → content e = content f) ∧
    ∀ e ∈ copied, targetPlace settings e = sourcePlace e → content e = []

theorem inTime_cons {content : MediaRef × Nat → Content} : InTime settings content (entry :: copied) ↔
    (∀ f ∈ copied, targetPlace settings entry = sourcePlace f → content entry = content f) ∧
      (targetPlace settings entry = sourcePlace entry → content entry = []) ∧ InTime settings content copied := by
  unfold InTime
  rw [List.pairwise_cons, List.forall_mem_cons]
  exact ⟨fun ⟨⟨hfirst, hpairs⟩, hself, hrest⟩ => ⟨hfirst, hself, hpairs, hrest⟩,
    fun ⟨hfirst, hself, hpairs, hrest⟩ => ⟨⟨hfirst, hpairs⟩, hself, hrest⟩⟩

theorem inTime_congr {content other : MediaRef × Nat → Content} (h : ∀ e ∈ copied, content e = other e) :
    InTime settings content copied ↔ InTime settings other copied := by
  unfold InTime
  refine and_congr (List.Pairwise.iff_of_mem fun {e f} he hf => ?_) (forall₂_congr fun e he => ?_)
  · rw [h e he, h f hf]
  · rw [h e he]

/-- A copy changes none of the images, if what it stores is the content of all that are read from its target. -/
theorem found_eq {content : MediaRef × Nat → Content} {place : Whereabouts} {stored : Content}
    (hbehind : ∀ f ∈ copied, place = sourcePlace f → stored = content f) :
    ∀ f ∈ copied, (if sourcePlace f = place then stored else content f) = content f := by
  intro f hf
  by_cases hplace : sourcePlace f = place
  · exact (if_pos hplace).trans (hbehind f hf hplace.symm)
  · exact if_neg hplace

/-- Copies with different targets store all images as they were exactly when none is copied too late. -/
theorem Extracts.contents_iff (h : Extracts settings tree images copied left) {content : MediaRef × Nat → Content}
    (hsources : ∀ e ∈ copied, tree.read e.1.source.toList = .ok (content e))
    (hdistinct : copied.Pairwise fun e f => targetPlace settings e ≠ targetPlace settings f) :
    (∀ e ∈ copied, left.read (imageTarget settings e).toList = .ok (content e)) ↔ InTime settings content copied := by
  induction h generalizing content with
  | done => simp [InTime]
  | remote away more ih => exact ih hsources hdistinct
  | failed here copy more ih =>
      obtain rfl := eq_of_run copy
      exact ih hsources hdistinct
  | @copied tree next left entry images copied here copy more ih =>
      obtain ⟨hfirst, hdistinct⟩ := List.pairwise_cons.mp hdistinct
      obtain ⟨hsource, hsources⟩ := List.forall_mem_cons.mp hsources
      obtain ⟨held, hheld, hover⟩ := overwrites_of_run copy
      obtain rfl := Except.ok.inj (hheld.symm.trans hsource)
      -- What the first copy has stored is what the later ones find there.
      let stored := if sourcePlace entry = targetPlace settings entry then [] else content entry
      let found := fun f => if sourcePlace f = targetPlace settings entry then stored else content f
      have hfound : ∀ f ∈ copied, next.read f.1.source.toList = .ok (found f) := fun f hf =>
        hover.others _ _ (hsources f hf)
      have hstored : left.read (imageTarget settings entry).toList = .ok stored :=
        more.read_of_apart hover.written fun e he => Ne.symm (hfirst e he)
      have hrest := ih hfound hdistinct
      rw [List.forall_mem_cons, inTime_cons]
      constructor
      · rintro ⟨hentry, hall⟩
        have hsame : stored = content entry := Except.ok.inj (hstored.symm.trans hentry)
        have hbehind : ∀ f ∈ copied, targetPlace settings entry = sourcePlace f → content entry = content f := by
          intro f hf hplace
          have hread : next.read f.1.source.toList = .ok (content entry) := by
            rw [hfound f hf, ← hsame]
            exact congrArg Except.ok (if_pos hplace.symm)
          have hkept := more.read_target hdistinct hf hread fun g hg => hplace ▸ Ne.symm (hfirst g hg)
          exact Except.ok.inj (hkept.symm.trans (hall f hf))
        have hagree : ∀ f ∈ copied, found f = content f :=
          found_eq fun f hf hplace => hsame.trans (hbehind f hf hplace)
        refine ⟨hbehind, fun hself => ?_, (inTime_congr hagree).mp (hrest.mp fun f hf => ?_)⟩
        · rw [← hsame]
          exact if_pos hself.symm
        · rw [hagree f hf]
          exact hall f hf
      · rintro ⟨hbehind, hself, hin⟩
        have hsame : stored = content entry := by
          by_cases hplace : sourcePlace entry = targetPlace settings entry
          · exact (if_pos hplace).trans (hself hplace.symm).symm
          · exact if_neg hplace
        have hagree : ∀ f ∈ copied, found f = content f :=
          found_eq fun f hf hplace => hsame.trans (hbehind f hf hplace)
        refine ⟨hsame ▸ hstored, fun f hf => ?_⟩
        rw [← hagree f hf]
        exact hrest.mpr ((inTime_congr hagree).mpr hin) f hf

end Copies

/-! ## Usual names -/

/-- A mark does not begin within a text that lacks its first character. -/
theorem replace_append {mark new front : List Char} {c : Char} (h : c ∉ front) (back : List Char) :
    Text.replace (c :: mark) new (front ++ back) = front ++ Text.replace (c :: mark) new back := by
  unfold Text.replace
  induction front with
  | nil => rfl
  | cons d front ih =>
      obtain ⟨hne, hfront⟩ := not_or.mp (mt List.mem_cons.mpr h)
      have hother : (c :: mark).isPrefixOf (d :: (front ++ back)) = false := by simp [List.isPrefixOf, hne]
      rw [List.cons_append, Text.replaceFrom, hother, if_neg Bool.false_ne_true, ih hfront, List.cons_append]

/-- The name that an image is stored under, unless another one is asked for. -/
theorem extractedName_usual (number : Nat) (source : List Char) :
    Media.extractedName number source ({} : ExtractSettings).namingPattern.toList =
      "image".toList ++ (number.repr.toList ++ '.' :: Media.sourceExtension source) := by
  have hdigits : '\x7b' ∉ number.repr.toList := fun hmem => absurd (Text.isDigit_of_mem_repr hmem) (by decide)
  have hbehind : ∀ mark new back, Text.replace ('\x7b' :: mark) new ("image".toList ++ (number.repr.toList ++ back)) =
      "image".toList ++ (number.repr.toList ++ Text.replace ('\x7b' :: mark) new back) := fun mark new back => by
    rw [replace_append (by decide), replace_append hdigits]
  calc Media.extractedName number source ({} : ExtractSettings).namingPattern.toList
      = Text.replace "\x7bext\x7d".toList (Media.sourceExtension source)
          (Text.replace "\x7bstem\x7d".toList (Media.sourceStem number source)
            ("image".toList ++ (number.repr.toList ++ ".\x7bext\x7d".toList))) := rfl
    _ = Text.replace "\x7bext\x7d".toList (Media.sourceExtension source)
          ("image".toList ++ (number.repr.toList ++ ".\x7bext\x7d".toList)) := congrArg _ (hbehind _ _ _)
    _ = "image".toList ++ (number.repr.toList ++ '.' :: (Media.sourceExtension source ++ [])) := hbehind _ _ _
    _ = "image".toList ++ (number.repr.toList ++ '.' :: Media.sourceExtension source) := by rw [List.append_nil]

theorem slash_not_mem_sourceExtension (source : List Char) : '/' ∉ Media.sourceExtension source := by
  unfold Media.sourceExtension FilePath.extension
  cases hname : FilePath.fileName (Media.sourceName source) with
  | none => exact (by decide : '/' ∉ "png".toList)
  | some name =>
      have hslash : '/' ∉ name := by
        unfold FilePath.fileName at hname
        split at hname
        next last hlast =>
          obtain rfl := Option.some.inj hname
          exact (FilePath.isPart_of_mem_components (List.mem_of_getLast? hlast)).2.2.2
        next => cases hname
      rw [Option.bind_some]
      unfold FilePath.cutExtension
      dsimp only
      split
      · exact fun hmem => hslash
          (List.mem_reverse.mp ((List.takeWhile_prefix _).subset (List.mem_reverse.mp hmem)))
      · exact (by decide : '/' ∉ "png".toList)

/-- Under the usual names, an image is stored under its own name in the directory. -/
theorem targetPlace_usual (hpattern : settings.images.namingPattern = ({} : ExtractSettings).namingPattern)
    (entry : MediaRef × Nat) :
    targetPlace settings entry = (whereabouts settings.images.outputDir.toList).step (.name
      ("image".toList ++ (entry.2.repr.toList ++ '.' :: Media.sourceExtension entry.1.source.toList))) := by
  have hpart : (FilePath.Component.name
      ("image".toList ++ (entry.2.repr.toList ++ '.' :: Media.sourceExtension entry.1.source.toList))).IsPart := by
    refine ⟨by simp, by simp, by simp, fun hmem => ?_⟩
    rcases List.mem_append.mp hmem with hword | hrest
    · exact absurd hword (by decide)
    rcases List.mem_append.mp hrest with hdigit | hrest
    · exact absurd (Text.isDigit_of_mem_repr hdigit) (by decide)
    rcases List.mem_cons.mp hrest with hdot | hextension
    · exact absurd hdot (by decide)
    · exact slash_not_mem_sourceExtension _ hextension
  unfold targetPlace imageTarget Media.extractionTarget
  rw [String.toList_ofList, hpattern, extractedName_usual, whereabouts, FilePath.walk_join]
  exact congrArg (FilePath.walk _) (FilePath.components_text hpart)

/-- Under the usual names, different images are stored in different files. -/
theorem pairwise_targetPlace (hpattern : settings.images.namingPattern = ({} : ExtractSettings).namingPattern)
    (doc : Document) :
    (localImages doc).Pairwise fun e f => targetPlace settings e ≠ targetPlace settings f := by
  have hnumbers : (doc.media.zipIdx 1).Pairwise fun e f => e.2 ≠ f.2 := by
    have hrow := List.nodup_range' (s := 1) (n := doc.media.length) 1
    rw [← List.zipIdx_map_snd 1 doc.media] at hrow
    exact List.pairwise_map.mp hrow
  refine (hnumbers.filter isLocal).imp fun {e f} hne hsame => hne ?_
  rw [targetPlace_usual hpattern, targetPlace_usual hpattern] at hsame
  have hnames := List.singleton_inj.mp (List.append_cancel_left (congrArg Whereabouts.down hsame))
  -- The number ends at the first full stop.
  have hdigits : ∀ {number : Nat} {extension : List Char},
      (number.repr.toList ++ '.' :: extension).takeWhile (· != '.') = number.repr.toList := by
    intro number extension
    rw [List.takeWhile_append_of_pos]
    · simp
    · rintro c hc
      simp only [bne_iff_ne]
      rintro rfl
      exact absurd (Text.isDigit_of_mem_repr hc) (by decide)
  have hnumber := congrArg (List.takeWhile (· != '.')) (List.append_cancel_left hnames)
  rw [hdigits, hdigits, Nat.toList_repr, Nat.toList_repr] at hnumber
  have hvalue := congrArg (Nat.ofDigitChars 10 · 0) hnumber
  rwa [Nat.ofDigitChars_ten_toDigits, Nat.ofDigitChars_ten_toDigits] at hvalue

/-! ## Extractions -/

/-- The local images whose targets have been written. -/
def writtenImages (settings : ExportSettings) (doc : Document) (written : List String) : List (MediaRef × Nat) :=
  (localImages doc).filter fun e => imageTarget settings e ∈ written

theorem filter_mem_map {α β : Type} [DecidableEq β] {f : α → β} {part whole : List α} (h : part.Sublist whole)
    (hdistinct : whole.Pairwise fun a b => f a ≠ f b) : whole.filter (fun a => f a ∈ part.map f) = part := by
  induction h with
  | slnil => rfl
  | @cons part whole a h ih =>
      obtain ⟨ha, hwhole⟩ := List.pairwise_cons.mp hdistinct
      have hnot : f a ∉ part.map f := by
        intro hmem
        obtain ⟨b, hb, heq⟩ := List.mem_map.mp hmem
        exact ha b (h.subset hb) heq.symm
      rw [List.filter_cons_of_neg (by simpa using hnot), ih hwhole]
  | @cons_cons part whole a h ih =>
      obtain ⟨ha, hwhole⟩ := List.pairwise_cons.mp hdistinct
      rw [List.filter_cons_of_pos (by simp)]
      refine congrArg (a :: ·) ((List.filter_congr fun b hb => ?_).trans (ih hwhole))
      simp [Ne.symm (ha b hb)]

/-- **Contents of extracted images.** Let all local images be there before an extraction, and let their targets be
different files. Then each target that has been written holds what its own source held before, exactly when no image was
taken from where an earlier one with another content had been stored, and none but an empty one was stored where it was
taken from. -/
theorem extracted_contents_iff (settings : ExportSettings) (doc : Document) {tree left : FileTree}
    {written : List String} {diagnostics : List Diagnostic}
    (hextracted : extraction settings doc tree = ((.ok written, diagnostics), left))
    {content : MediaRef × Nat → Content}
    (hsources : ∀ e ∈ localImages doc, tree.read e.1.source.toList = .ok (content e))
    (hdistinct : (localImages doc).Pairwise fun e f => targetPlace settings e ≠ targetPlace settings f) :
    let images := writtenImages settings doc written
    written = images.map (imageTarget settings) ∧
      ((∀ e ∈ images, left.read (imageTarget settings e).toList = .ok (content e)) ↔
        (images.Pairwise fun e f => targetPlace settings e = sourcePlace f → content e = content f) ∧
          ∀ e ∈ images, targetPlace settings e = sourcePlace e → content e = []) := by
  obtain ⟨copied, start, hwritten, hextracts, -, hstart⟩ := extracts_of_extractImages hextracted
  have hsublist : copied.Sublist (localImages doc) := hextracts.sublist
  have hnames : (localImages doc).Pairwise fun e f => imageTarget settings e ≠ imageTarget settings f :=
    hdistinct.imp fun hne hsame => hne (congrArg (fun path : String => whereabouts path.toList) hsame)
  have hcopied : writtenImages settings doc written = copied := by
    rw [hwritten]
    exact filter_mem_map hsublist hnames
  have hkept : KeepsFiles tree start := by
    rcases hstart with rfl | hmade
    · exact .refl start
    · change (FileTree.update _).run tree = _ at hmade
      rw [FileTree.run_update] at hmade
      split at hmade
      next later hdirs =>
        obtain rfl := (Prod.mk.inj hmade).2
        exact FileTree.read_of_createDirectories hdirs
      next => cases hmade
  intro images
  rw [show images = copied from hcopied]
  exact ⟨hwritten, hextracts.contents_iff (fun e he => hkept _ _ (hsources e (hsublist.subset he)))
    (hdistinct.sublist hsublist)⟩

/-- An image is taken from where a later one is stored: it is read before it is overwritten. -/
theorem extracted_contents_before :
    let doc : Document := { media := [⟨"images/image2.png", "chart"⟩, ⟨"pics/cat.png", "cat"⟩] }
    let tree := FileTree.ofFiles [("images/image2.png", [2]), ("pics/cat.png", [1])]
    let content : MediaRef × Nat → Content := fun e => if e.2 = 1 then [2] else [1]
    let left := (extraction {} doc tree).2
    ((extraction {} doc tree).1 = (.ok ["images/image1.png", "images/image2.png"], []) ∧
        (∀ e ∈ localImages doc, tree.read e.1.source.toList = .ok (content e)) ∧
        (localImages doc).Pairwise fun e f => targetPlace {} e ≠ targetPlace {} f) ∧
      ∀ e ∈ writtenImages {} doc ["images/image1.png", "images/image2.png"],
        left.read (imageTarget {} e).toList = .ok (content e) := by
  intro doc tree content left
  have hwritten : (extraction {} doc tree).1 = (.ok ["images/image1.png", "images/image2.png"], []) := by decide +kernel
  have hextracted : extraction {} doc tree =
      ((.ok ["images/image1.png", "images/image2.png"], []), (extraction {} doc tree).2) := by rw [← hwritten]
  have hsources : ∀ e ∈ localImages doc, tree.read e.1.source.toList = .ok (content e) := by decide +kernel
  have hdistinct := @pairwise_targetPlace {} rfl doc
  exact ⟨⟨hwritten, hsources, hdistinct⟩,
    (extracted_contents_iff {} doc hextracted hsources hdistinct).2.mpr ⟨by decide +kernel, by decide +kernel⟩⟩

/-- Two pictures that stand in each other's place: the second one is read after the first has been stored there. -/
theorem extracted_contents_swapped :
    let doc : Document := { media := [⟨"images/image2.png", "cat"⟩, ⟨"images/image1.png", "chart"⟩] }
    let tree := FileTree.ofFiles [("images/image1.png", [1]), ("images/image2.png", [2])]
    let left := (extraction {} doc tree).2
    (extraction {} doc tree).1 = (.ok ["images/image1.png", "images/image2.png"], []) ∧
      ((localImages doc).Pairwise fun e f => targetPlace {} e ≠ targetPlace {} f) ∧
      tree.read "images/image1.png".toList = .ok [1] ∧ tree.read "images/image2.png".toList = .ok [2] ∧
      left.read "images/image1.png".toList = .ok [2] ∧ left.read "images/image2.png".toList = .ok [2] ∧
      ¬ ∀ e ∈ localImages doc, left.read (imageTarget {} e).toList = tree.read e.1.source.toList := by
  decide +kernel

end Folio
