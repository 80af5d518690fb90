import Folio.Files.Tree
import Folio.Proofs.Files.Whereabouts

/-!
# Copies in a tree of files

Steps that can be followed in a tree lead where they lead by name alone, so that two paths to files lead to one file
exactly when they lead to the same place. Directories stay directories, and so a file that can be read can be read after
every change; only what has been put in its place is then read instead.

* `locate_whereabouts` : a path that can be followed leads to the place that it names;
* `follow_of_directories` : steps to a file can still be followed while directories stay what they are;
* `Overwrites`, `overwrites_of_write` : what can be read after a file has been written;
* `overwrites_of_copy` : a copy puts what its source holds at the target, or nothing where the two are one file;
* `read_of_createDirectories` : all files can be read as before after directories have been made.
-/

namespace Folio.FileTree
open FilePath (Component Whereabouts endsInSlash walk whereabouts)

/-- The names that lead to a place. -/
def Place.names : Place → List Name
  | .file names _ | .directory names | .vacant names => names

/-- What is found at a place. -/
def Place.found? : Place → Option TreeEntry
  | .file _ content => some (.file content)
  | .directory _ => some .directory
  | .vacant _ => none

variable {tree later : FileTree} {names : List Name} {place : Place} {content : Content}

/-- What succeeds in two steps succeeds in the first. -/
theorem bind_eq_ok {α β : Type} {first : Except FileFault α} {next : α → Except FileFault β} {result : β}
    (h : first >>= next = .ok result) : ∃ value, first = .ok value ∧ next value = .ok result := by
  cases first with
  | error fault => cases h
  | ok value => exact ⟨value, rfl, h⟩

/-! ## Following steps -/

theorem follow_walk {steps : List Component} (h : tree.follow names steps = .ok place) :
    walk { down := names } steps = { down := place.names } := by
  fun_induction tree.follow names steps with
  | case1 names =>
      obtain rfl := Except.ok.inj h
      rfl
  | case2 => cases h
  | case3 names rest ih => exact ih h
  | case4 => cases h
  | case5 names rest hnames ih =>
      rw [← ih h]
      change walk (Whereabouts.step _ _) rest = _
      rw [Whereabouts.step, if_pos hnames]
  | case6 => cases h
  | case7 names name rest hlength below hfound ih => exact ih h
  | case8 names name rest hlength below content hfound hlast =>
      obtain rfl := Except.ok.inj h
      rw [List.isEmpty_iff.mp hlast]
      rfl
  | case9 => cases h
  | case10 names name rest hlength below hfound hlast =>
      obtain rfl := Except.ok.inj h
      rw [List.isEmpty_iff.mp hlast]
      rfl
  | case11 => cases h

/-- What is found where steps lead, unless that is a directory. -/
theorem find?_of_follow {steps : List Component} (h : tree.follow names steps = .ok place)
    (hplace : place.found? ≠ some .directory) : tree.find? place.names = place.found? := by
  fun_induction tree.follow names steps with
  | case1 names =>
      obtain rfl := Except.ok.inj h
      exact absurd rfl hplace
  | case2 => cases h
  | case3 names rest ih => exact ih h
  | case4 => cases h
  | case5 names rest hnames ih => exact ih h
  | case6 => cases h
  | case7 names name rest hlength below hfound ih => exact ih h
  | case8 names name rest hlength below content hfound hlast =>
      obtain rfl := Except.ok.inj h
      exact hfound
  | case9 => cases h
  | case10 names name rest hlength below hfound hlast =>
      obtain rfl := Except.ok.inj h
      exact hfound
  | case11 => cases h

/-- All directories are still there. -/
def KeepsDirectories (tree later : FileTree) : Prop :=
  ∀ names, tree.find? names = some .directory → later.find? names = some .directory

/-- Where all directories are still there, the steps to a file lead to what is now in its place. -/
theorem follow_of_directories (hkept : KeepsDirectories tree later)
    {steps : List Component} (h : tree.follow names steps = .ok place) (hplace : place.found? ≠ some .directory)
    (hfile : later.find? place.names = some (.file content)) :
    later.follow names steps = .ok (.file place.names content) := by
  fun_induction tree.follow names steps with
  | case1 names =>
      obtain rfl := Except.ok.inj h
      exact absurd rfl hplace
  | case2 => cases h
  | case3 names rest ih =>
      rw [follow]
      exact ih h
  | case4 => cases h
  | case5 names rest hnames ih =>
      rw [follow, if_neg hnames]
      exact ih h
  | case6 => cases h
  | case7 names name rest hlength below hfound ih =>
      rw [follow, if_neg hlength]
      dsimp only
      rw [hkept _ hfound]
      exact ih h
  | case8 names name rest hlength below old hfound hlast =>
      obtain rfl := Except.ok.inj h
      change later.find? (names ++ [name]) = _ at hfile
      rw [follow, if_neg hlength]
      dsimp only
      rw [hfile]
      exact if_pos hlast
  | case9 => cases h
  | case10 names name rest hlength below hfound hlast =>
      obtain rfl := Except.ok.inj h
      change later.find? (names ++ [name]) = _ at hfile
      rw [follow, if_neg hlength]
      dsimp only
      rw [hfile]
      exact if_pos hlast
  | case11 => cases h

/-! ## Paths -/

section Paths
variable {path : List Char}

theorem locate_eq_ok (h : tree.locate path = .ok place) :
    path ≠ [] ∧ path.contains '\x00' = false ∧ tree.follow [] (FilePath.components path) = .ok place := by
  unfold locate at h
  split at h
  · cases h
  next hne =>
    split at h
    · cases h
    next hend => exact ⟨hne, Bool.eq_false_iff.mpr hend, h⟩

/-- A path that can be followed leads to the place that it names. -/
theorem locate_whereabouts (h : tree.locate path = .ok place) : whereabouts path = { down := place.names } :=
  follow_walk (locate_eq_ok h).2.2

theorem find?_of_locate (h : tree.locate path = .ok place) (hplace : place.found? ≠ some .directory) :
    tree.find? place.names = place.found? := find?_of_follow (locate_eq_ok h).2.2 hplace

theorem locate_of_directories (hkept : KeepsDirectories tree later)
    (h : tree.locate path = .ok place) (hplace : place.found? ≠ some .directory)
    (hfile : later.find? place.names = some (.file content)) : later.locate path = .ok (.file place.names content) := by
  obtain ⟨hne, hend, hfollow⟩ := locate_eq_ok h
  unfold locate
  rw [if_neg hne, hend, if_neg Bool.false_ne_true]
  exact follow_of_directories hkept hfollow hplace hfile

theorem read_eq_ok : tree.read path = .ok content ↔
    ∃ names, tree.locate path = .ok (.file names content) ∧ endsInSlash path = false := by
  constructor
  · intro h
    obtain ⟨place, hlocate, h⟩ := bind_eq_ok h
    cases place with
    | directory names => cases h
    | vacant names => cases h
    | file names held =>
        dsimp only at h
        split at h
        · cases h
        next hslash =>
          obtain rfl := Except.ok.inj h
          exact ⟨names, hlocate, Bool.eq_false_iff.mpr hslash⟩
  · rintro ⟨names, hlocate, hslash⟩
    unfold read
    rw [hlocate]
    change (if endsInSlash path = true then _ else _) = _
    rw [hslash, if_neg Bool.false_ne_true]

/-- What has been read can be read again where the directories are still there and the file has not changed. -/
theorem read_of_directories (hkept : KeepsDirectories tree later)
    {old : Content} (h : tree.read path = .ok old)
    (hfile : ∀ names, whereabouts path = { down := names } → tree.find? names = some (.file old) →
      later.find? names = some (.file content)) : later.read path = .ok content := by
  obtain ⟨names, hlocate, hslash⟩ := read_eq_ok.mp h
  have hplace : (Place.file names old).found? ≠ some .directory := by simp [Place.found?]
  exact read_eq_ok.mpr ⟨names, locate_of_directories hkept hlocate hplace
    (hfile names (locate_whereabouts hlocate) (find?_of_locate hlocate hplace)), hslash⟩

end Paths

/-! ## Writing -/

/-- The target has another content, and every other file is still there. -/
structure Overwrites (tree later : FileTree) (target : List Char) (content : Content) : Prop where
  written : later.read target = .ok content
  others : ∀ path old, tree.read path = .ok old →
    later.read path = .ok (if whereabouts path = whereabouts target then content else old)

theorem Overwrites.apart {target path : List Char} (h : Overwrites tree later target content) {old : Content}
    (hread : tree.read path = .ok old) (hne : whereabouts path ≠ whereabouts target) : later.read path = .ok old := by
  rw [h.others path old hread, if_neg hne]

theorem write_eq_ok {target : List Char} (h : tree.write target content = .ok later) :
    ∃ place, tree.locate target = .ok place ∧ place.found? ≠ some .directory ∧ endsInSlash target = false ∧
      later = tree.put place.names (.file content) := by
  obtain ⟨place, hlocate, h⟩ := bind_eq_ok h
  refine ⟨place, hlocate, ?_⟩
  cases place with
  | directory names => cases h
  | file names old =>
      dsimp only at h
      split at h
      · cases h
      next hslash => exact ⟨by simp [Place.found?], Bool.eq_false_iff.mpr hslash, (Except.ok.inj h).symm⟩
  | vacant names =>
      dsimp only at h
      split at h
      · cases h
      next hslash => exact ⟨by simp [Place.found?], Bool.eq_false_iff.mpr hslash, (Except.ok.inj h).symm⟩

theorem names_ne_nil (h : tree.find? names ≠ some .directory) : names ≠ [] := by
  rintro rfl
  exact h (if_pos rfl)

/-- Where there is no directory, another entry leaves all directories. -/
theorem keepsDirectories_put (entry : TreeEntry) (h : tree.find? names ≠ some .directory) :
    KeepsDirectories tree (tree.put names entry) := by
  intro other hother
  rw [find?_put_of_ne, hother]
  rintro rfl
  exact h hother

theorem overwrites_of_write {target : List Char} (h : tree.write target content = .ok later) :
    Overwrites tree later target content := by
  obtain ⟨place, hlocate, hplace, hslash, rfl⟩ := write_eq_ok h
  have hfound : tree.find? place.names ≠ some .directory := by rwa [find?_of_locate hlocate hplace]
  have hkept := keepsDirectories_put (.file content) hfound
  have hput : (tree.put place.names (.file content)).find? place.names = some (.file content) :=
    find?_put _ _ (names_ne_nil hfound)
  refine ⟨read_eq_ok.mpr ⟨_, locate_of_directories hkept hlocate hplace hput, hslash⟩, fun path old hread => ?_⟩
  refine read_of_directories hkept hread fun names hwhere hold => ?_
  rw [hwhere, locate_whereabouts hlocate]
  by_cases hsame : names = place.names
  · rw [hsame, if_pos rfl]
    exact hput
  · rw [find?_put_of_ne _ _ hsame, hold, if_neg]
    exact fun heq => hsame (congrArg Whereabouts.down heq)

/-- A copy puts what its source holds at the target. A file that is copied onto itself has been emptied before it is
read. -/
theorem overwrites_of_copy {source target : List Char} (h : tree.copy source target = .ok later) :
    ∃ held, tree.read source = .ok held ∧
      Overwrites tree later target (if whereabouts source = whereabouts target then [] else held) := by
  obtain ⟨place, -, h⟩ := bind_eq_ok h
  cases place with
  | directory names => cases h
  | vacant names => cases h
  | file names content =>
      obtain ⟨held, hread, h⟩ := bind_eq_ok h
      obtain ⟨emptied, hempty, h⟩ := bind_eq_ok h
      obtain ⟨moved, hmoved, hwrite⟩ := bind_eq_ok h
      have hemptied := overwrites_of_write hempty
      have hfilled := overwrites_of_write hwrite
      have hcontent : moved = if whereabouts source = whereabouts target then [] else held :=
        Except.ok.inj (hmoved.symm.trans (hemptied.others source held hread))
      refine ⟨held, hread, ?_⟩
      rw [← hcontent]
      refine ⟨hfilled.written, fun path old hold => ?_⟩
      rw [hfilled.others path _ (hemptied.others path old hold)]
      split <;> rfl

/-! ## Making directories -/

/-- All files can be read as before. -/
def KeepsFiles (tree later : FileTree) : Prop :=
  ∀ path content, tree.read path = .ok content → later.read path = .ok content

theorem KeepsFiles.refl (tree : FileTree) : KeepsFiles tree tree := fun _ _ h => h

theorem KeepsFiles.trans {middle : FileTree} (h : KeepsFiles tree middle) (hlater : KeepsFiles middle later) :
    KeepsFiles tree later := fun path content hread => hlater path content (h path content hread)

theorem keepsFiles_makeDirectory {steps : List Component} (h : tree.makeDirectory steps = .ok later) :
    KeepsFiles tree later := by
  obtain ⟨place, hfollow, h⟩ := bind_eq_ok h
  cases place with
  | file names old => cases h
  | directory names =>
      obtain rfl := Except.ok.inj h
      exact .refl tree
  | vacant names =>
      obtain rfl := Except.ok.inj h
      have hvacant : tree.find? names = none := find?_of_follow hfollow (by simp [Place.found?])
      intro path content hread
      refine read_of_directories (keepsDirectories_put .directory (by simp [hvacant])) hread fun other _ hold => ?_
      rw [find?_put_of_ne, hold]
      rintro rfl
      rw [hvacant] at hold
      cases hold

theorem keepsFiles_makeDirectories {steps : List Component} (h : tree.makeDirectories steps = .ok later) :
    KeepsFiles tree later := by
  induction steps generalizing later with
  | nil =>
      obtain rfl := Except.ok.inj h
      exact .refl tree
  | cons step above ih =>
      unfold makeDirectories at h
      split at h
      · obtain ⟨middle, hmiddle, hmade⟩ := bind_eq_ok h
        exact (ih hmiddle).trans (keepsFiles_makeDirectory hmade)
      · exact keepsFiles_makeDirectory h

/-- All files can be read as before after directories have been made. -/
theorem read_of_createDirectories {dir : List Char} (h : tree.createDirectories dir = .ok later) :
    KeepsFiles tree later := by
  unfold createDirectories at h
  split at h
  · cases h
  · exact keepsFiles_makeDirectories h

/-- A change that fails changes nothing. -/
theorem run_update (change : FileTree → Except FileFault FileTree) (tree : FileTree) :
    (update change).run tree =
      match change tree with
      | .ok later => (.ok (), later)
      | .error fault => (.error fault, tree) := by
  unfold update
  rw [StateT.run_bind]
  change StateT.run (match change tree with | .ok tree => _ | .error fault => _) tree = _
  cases change tree <;> rfl

/-- A change that succeeds is made. -/
theorem eq_ok_of_update {change : FileTree → Except FileFault FileTree} (h : (update change).run tree = (.ok (), later)) :
    change tree = .ok later := by
  rw [run_update] at h
  split at h
  next made hchange =>
    obtain ⟨-, rfl⟩ := Prod.mk.inj h
    exact hchange
  next => cases h

end Folio.FileTree
