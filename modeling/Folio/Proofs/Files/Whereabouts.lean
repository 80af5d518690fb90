import Folio.Media.FilePath
import Mathlib.Data.List.Induction
import Mathlib.Tactic.Common

/-!
# Where a path leads

A path leads up and down from where it begins. Its dots are followed by name alone, so that where it leads does not
depend on what there is. Paths that are joined lead on from one another, and the path of a target as seen from a
directory leads from there to the target, unless the directory's own path steps up behind what the two have in common.

* `Whereabouts`, `whereabouts` : where a path leads;
* `walk_join` : a joined path leads on from its base;
* `walk_ofComponents` : the path of a row of components leads where they do;
* `relativeSteps_below` : the steps from one path to another;
* `whereabouts_relativeTo` : a relative path leads from its base to the target.
-/

namespace Folio.FilePath
open Text (splitOn)

/-- Where a path leads: how far up from its beginning, and by which names down from there. -/
structure Whereabouts where
  /-- The path begins at the root. -/
  absolute : Bool := false
  up : Nat := 0
  down : List (List Char) := []
  deriving DecidableEq, Repr

/-- One step further; above the root there is nothing. -/
def Whereabouts.step (place : Whereabouts) : Component → Whereabouts
  | .root => { absolute := true }
  | .current => place
  | .parent =>
    if place.down ≠ [] then { place with down := place.down.dropLast }
    else if place.absolute then place
    else { place with up := place.up + 1 }
  | .name part => { place with down := place.down ++ [part] }

/-- Where steps lead from a place. -/
def walk (place : Whereabouts) (steps : List Component) : Whereabouts := steps.foldl Whereabouts.step place

/-- Where a path leads. -/
def whereabouts (path : List Char) : Whereabouts := walk {} (components path)

/-- A component that a path can have. -/
def Component.IsPart : Component → Prop
  | .name part => part ≠ [] ∧ part ≠ ['.'] ∧ part ≠ ['.', '.'] ∧ '/' ∉ part
  | .root | .current | .parent => True

/-- The component is a name. -/
def Component.isName : Component → Bool
  | .name _ => true
  | .root | .current | .parent => false

/-- What a path begins with, apart from its parts. -/
def lead (path : List Char) : List Component :=
  if isAbsolute path then [.root] else if (splitOn '/' path).head? = some ['.'] then [.current] else []

variable {place : Whereabouts}

/-! ## Walks -/

theorem walk_append (place : Whereabouts) (steps more : List Component) :
    walk place (steps ++ more) = walk (walk place steps) more := List.foldl_append

theorem step_parent_name (place : Whereabouts) (name : List Char) :
    (place.step (.name name)).step .parent = place := by
  simp [Whereabouts.step]

/-- As many steps up lead back from a row of names. -/
theorem walk_names_parents (place : Whereabouts) {names : List Component} (h : ∀ c ∈ names, c.isName = true) :
    walk (walk place names) (List.replicate names.length .parent) = place := by
  induction names generalizing place with
  | nil => rfl
  | cons c names ih =>
      obtain ⟨hc, hnames⟩ := List.forall_mem_cons.mp h
      cases c with
      | name name =>
          rw [List.length_cons, List.replicate_succ', walk_append]
          have hback := ih (place.step (.name name)) hnames
          change (walk (walk _ names) (List.replicate names.length .parent)).step .parent = place
          rw [hback, step_parent_name]
      | root => cases hc
      | current => cases hc
      | parent => cases hc

/-! ## Components -/

theorem components_eq (path : List Char) : components path = lead path ++ componentsOfParts (splitOn '/' path) := by
  unfold components lead
  dsimp only
  split
  · rfl
  · split <;> rfl

theorem walk_lead {path : List Char} (h : isAbsolute path = false) (place : Whereabouts) :
    walk place (lead path) = place := by
  unfold lead
  rw [h, if_neg Bool.false_ne_true]
  split <;> rfl

theorem componentsOfParts_append (parts more : List (List Char)) :
    componentsOfParts (parts ++ more) = componentsOfParts parts ++ componentsOfParts more := List.filterMap_append

theorem splitOn_slash (front back : List Char) :
    splitOn '/' (front ++ '/' :: back) = splitOn '/' front ++ splitOn '/' back :=
  @Text.splitWhen_append_cons (· == '/') '/' BEq.rfl front back

theorem head?_splitOn_slash (front back : List Char) :
    (splitOn '/' (front ++ '/' :: back)).head? = (splitOn '/' front).head? := by
  obtain ⟨part, parts, hfront⟩ := List.exists_cons_of_ne_nil (Text.splitWhen_ne_nil (· == '/') front)
  rw [splitOn_slash]
  unfold splitOn
  rw [hfront]
  rfl

/-- A path behind a slash adds its parts. -/
theorem components_slash (front back : List Char) :
    components (front ++ '/' :: back) = components (front ++ ['/']) ++ componentsOfParts (splitOn '/' back) := by
  have hlead : lead (front ++ '/' :: back) = lead (front ++ ['/']) := by
    unfold lead
    rw [head?_splitOn_slash, head?_splitOn_slash]
    cases front with
    | nil => rfl
    | cons c front => rfl
  have hend : componentsOfParts (splitOn '/' (front ++ ['/'])) = componentsOfParts (splitOn '/' front) := by
    have hempty : componentsOfParts (splitOn '/' []) = [] := by decide
    rw [splitOn_slash, componentsOfParts_append, hempty, List.append_nil]
  rw [components_eq, components_eq, hlead, hend, splitOn_slash, componentsOfParts_append, List.append_assoc]

theorem components_slash_end {front : List Char} (h : front ≠ []) (hend : front.getLast? ≠ some '/') :
    components (front ++ ['/']) = components front := by
  have hempty : componentsOfParts (splitOn '/' []) = [] := by decide
  have hlead : lead (front ++ ['/']) = lead front := by
    unfold lead
    rw [head?_splitOn_slash]
    cases front with
    | nil => exact absurd rfl h
    | cons c front => rfl
  rw [components_eq, components_eq, hlead, splitOn_slash, componentsOfParts_append, hempty, List.append_nil]

/-- A relative path adds its parts to its base. -/
theorem components_join {base path : List Char} (hbase : base ≠ []) (hpath : isAbsolute path = false) :
    components (join base path) = components base ++ componentsOfParts (splitOn '/' path) := by
  unfold join
  rw [hpath, if_neg Bool.false_ne_true]
  split
  next hend => exact absurd (List.getLast?_eq_none_iff.mp hend) hbase
  next hend =>
    obtain ⟨front, rfl⟩ := List.getLast?_eq_some_iff.mp hend
    have hslash := components_slash front path
    rwa [← List.singleton_append, ← List.append_assoc] at hslash
  next c hother hend =>
    have hlast : base.getLast? ≠ some '/' := by
      rw [hend]
      exact fun h => hother (Option.some.inj h)
    rw [components_slash, components_slash_end hbase hlast]

/-- A joined path leads on from its base. -/
theorem walk_join (place : Whereabouts) (base path : List Char) :
    walk place (components (join base path)) = walk (walk place (components base)) (components path) := by
  cases habsolute : isAbsolute path with
  | true =>
      -- From wherever it is walked, the path begins at the root.
      have hroot : ∀ place, walk place (components path) =
          walk { absolute := true } (componentsOfParts (splitOn '/' path)) := by
        intro place
        have hlead : lead path = [.root] := if_pos habsolute
        rw [components_eq, hlead]
        rfl
      rw [join_of_absolute habsolute, hroot, hroot]
  | false =>
      by_cases hbase : base = []
      · subst hbase
        unfold join
        rw [habsolute]
        rfl
      · rw [components_join hbase habsolute, walk_append, components_eq path, walk_append, walk_lead habsolute]

/-! ## Paths of components -/

theorem isPart_of_mem_components {path : List Char} {c : Component} (h : c ∈ components path) : c.IsPart := by
  have hparts : ∀ {parts}, (∀ part ∈ parts, '/' ∉ part) → ∀ c ∈ componentsOfParts parts, c.IsPart := by
    intro parts hslash c hc
    obtain ⟨part, hpart, hsome⟩ := List.mem_filterMap.mp hc
    split at hsome
    next => cases hsome
    next hnamed =>
      obtain ⟨hne, hdot⟩ := not_or.mp hnamed
      split at hsome
      next =>
        obtain rfl := Option.some.inj hsome
        trivial
      next hdots =>
        obtain rfl := Option.some.inj hsome
        exact ⟨hne, hdot, hdots, hslash part hpart⟩
  rw [components_eq, List.mem_append] at h
  rcases h with hlead | hpart
  · unfold lead at hlead
    split at hlead
    · rw [List.mem_singleton.mp hlead]
      trivial
    · split at hlead
      · rw [List.mem_singleton.mp hlead]
        trivial
      · cases hlead
  · exact hparts (fun part hpart => Text.not_mem_of_mem_splitOn hpart) c hpart

theorem components_text {c : Component} (h : c.IsPart) : components c.text = [c] := by
  cases c with
  | root => decide
  | current => decide
  | parent => decide
  | name part =>
      obtain ⟨hne, hdot, hdots, hslash⟩ := h
      have hparts : splitOn '/' part = [part] := Text.splitWhen_of_forall (Text.beq_eq_false_of_not_mem hslash)
      have hrelative : isAbsolute part = false := by
        cases part with
        | nil => rfl
        | cons d part => simpa [isAbsolute] using fun hd : d = '/' => hslash (hd ▸ List.mem_cons_self)
      have hlead : lead part = [] := by
        unfold lead
        rw [hrelative, hparts]
        simp [hdot]
      rw [Component.text, components_eq, hlead, hparts]
      simp [componentsOfParts, hne, hdot, hdots]

theorem ofComponents_concat (cs : List Component) (c : Component) :
    ofComponents (cs ++ [c]) = join (ofComponents cs) c.text := by
  unfold ofComponents
  rw [List.foldl_append]
  rfl

/-- The path of a row of components leads where they do. -/
theorem walk_ofComponents (place : Whereabouts) {cs : List Component} (h : ∀ c ∈ cs, c.IsPart) :
    walk place (components (ofComponents cs)) = walk place cs := by
  induction cs using List.reverseRecOn with
  | nil => rfl
  | append_singleton cs c ih =>
      obtain ⟨hcs, hc⟩ := List.forall_mem_append.mp h
      rw [List.forall_mem_singleton] at hc
      rw [ofComponents_concat, walk_join, ih hcs, components_text hc, walk_append]

/-! ## Paths seen from directories -/

/-- From a base that goes on where the path ends, the steps to the path lead up. -/
theorem relativeSteps_nil (started : Bool) (base : List Component) :
    relativeSteps started [] base = some (List.replicate base.length .parent) := by
  have hparents : ∀ base : List Component, relativeSteps true [] base = some (List.replicate base.length .parent) := by
    intro base
    induction base with
    | nil => rfl
    | cons c base ih =>
        rw [relativeSteps, ih]
        rfl
  cases base with
  | nil => rfl
  | cons c base =>
      rw [relativeSteps, hparents]
      rfl

/-- Past a beginning that they share, the steps to a target undo the names of the base and go on with those of the
target. -/
theorem relativeSteps_below {rest names : List Component} (h : ∀ c ∈ names, c.isName = true) :
    ∃ steps, relativeSteps false rest names = some steps ∧ (∀ c ∈ steps, c = .parent ∨ c ∈ rest) ∧
      ∀ place, walk (walk place names) steps = walk place rest := by
  induction rest generalizing names with
  | nil =>
      exact ⟨_, relativeSteps_nil false names, fun c hc => .inl (List.eq_of_mem_replicate hc),
        fun place => walk_names_parents place h⟩
  | cons a rest ih =>
      cases names with
      | nil => exact ⟨a :: rest, rfl, fun c hc => .inr hc, fun place => rfl⟩
      | cons b names =>
          obtain ⟨hb, hnames⟩ := List.forall_mem_cons.mp h
          by_cases heq : a = b
          · subst heq
            obtain ⟨steps, hsteps, hmem, hwalk⟩ := ih hnames
            refine ⟨steps, ?_, fun c hc => (hmem c hc).imp_right (List.mem_cons_of_mem _),
              fun place => hwalk (place.step a)⟩
            rw [relativeSteps, ← hsteps]
            simp
          · have hcurrent : b ≠ .current := by
              rintro rfl
              cases hb
            have hparent : b ≠ .parent := by
              rintro rfl
              cases hb
            have hup : Component.parent :: names.map (fun _ => Component.parent) =
                List.replicate (b :: names).length .parent := by
              rw [List.map_const', List.length_cons, List.replicate_succ]
            refine ⟨List.replicate (b :: names).length .parent ++ a :: rest, ?_, ?_, fun place => ?_⟩
            · rw [relativeSteps, ← hup]
              simp [heq, hcurrent, hparent]
            · intro c hc
              exact (List.mem_append.mp hc).imp_left List.eq_of_mem_replicate
            · rw [walk_append, walk_names_parents place h]

theorem relativeSteps_append (common rest base : List Component) :
    relativeSteps false (common ++ rest) (common ++ base) = relativeSteps false rest base := by
  induction common with
  | nil => rfl
  | cons c common ih =>
      rw [List.cons_append, List.cons_append, relativeSteps, ← ih]
      simp

/-- Behind what it has in common with the path, the base goes down by names alone. -/
def GoesDownFrom (base path : List Char) : Prop :=
  ∃ common rest names, components path = common ++ rest ∧ components base = common ++ names ∧
    ∀ c ∈ names, c.isName = true

theorem goesDownFrom_self (path : List Char) : GoesDownFrom path path :=
  ⟨components path, [], [], (List.append_nil _).symm, (List.append_nil _).symm, by simp⟩

/-- The empty path has nothing to step up from. -/
theorem goesDownFrom_nil (path : List Char) : GoesDownFrom [] path :=
  ⟨[], components path, [], rfl, by decide, by simp⟩

theorem GoesDownFrom.join {base path : List Char} (h : GoesDownFrom base path) {more : List Char}
    (hmore : isAbsolute more = false) : GoesDownFrom base (FilePath.join path more) := by
  obtain ⟨common, rest, names, hpath, hbase, hnames⟩ := h
  by_cases hnil : path = []
  · subst hnil
    have hnone : common = [] := (List.append_eq_nil_iff.mp hpath.symm).1
    subst hnone
    exact ⟨[], components (FilePath.join [] more), names, rfl, hbase, hnames⟩
  · refine ⟨common, rest ++ componentsOfParts (splitOn '/' more), names, ?_, hbase, hnames⟩
    rw [components_join hnil hmore, hpath, List.append_assoc]

theorem isAbsolute_iff (path : List Char) : isAbsolute path = true ↔ ∃ rest, components path = .root :: rest := by
  rw [components_eq]
  unfold lead
  cases isAbsolute path with
  | true => exact iff_of_true rfl ⟨_, rfl⟩
  | false =>
      refine iff_of_false Bool.false_ne_true ?_
      rintro ⟨rest, hrest⟩
      have hroot : ∀ {parts}, Component.root ∉ componentsOfParts parts := by
        intro parts hmem
        obtain ⟨part, -, hsome⟩ := List.mem_filterMap.mp hmem
        split at hsome
        · cases hsome
        · split at hsome <;> cases hsome
      rw [if_neg Bool.false_ne_true] at hrest
      split at hrest
      · cases hrest
      · rw [List.nil_append] at hrest
        exact hroot (hrest ▸ List.mem_cons_self)

theorem mem_of_mem_join {c : Char} {base path : List Char} (h : c ∈ join base path) :
    c ∈ base ∨ c ∈ path ∨ c = '/' := by
  unfold join at h
  split at h
  · exact .inr (.inl h)
  · split at h
    · exact .inr (.inl h)
    · exact (List.mem_append.mp h).imp_right .inl
    · rw [List.mem_append, List.mem_cons] at h
      exact h.imp_right Or.symm

theorem mem_of_mem_ofComponents {c : Char} {cs : List Component} (h : c ∈ ofComponents cs) :
    c = '/' ∨ ∃ component ∈ cs, c ∈ component.text := by
  induction cs using List.reverseRecOn with
  | nil => cases h
  | append_singleton cs component ih =>
      rw [ofComponents_concat] at h
      rcases mem_of_mem_join h with hbefore | htext | hslash
      · refine (ih hbefore).imp_right ?_
        rintro ⟨other, hother, hc⟩
        exact ⟨other, List.mem_append_left _ hother, hc⟩
      · exact .inr ⟨component, List.mem_append_right _ (List.mem_singleton_self _), htext⟩
      · exact .inl hslash

/-- The text of a component has the path's characters, or it is a dot, two dots or a slash. -/
theorem mem_of_mem_text {c : Char} {component : Component} {path : List Char} (hc : c ∈ component.text)
    (h : component ∈ components path) : c ∈ path ∨ c = '.' ∨ c = '/' := by
  cases component with
  | root => exact .inr (.inr (List.mem_singleton.mp hc))
  | current => exact .inr (.inl (List.mem_singleton.mp hc))
  | parent => exact .inr (.inl (by simpa [Component.text] using hc))
  | name part =>
      rw [components_eq, List.mem_append] at h
      rcases h with hlead | hpart
      · unfold lead at hlead
        split at hlead
        · cases List.mem_singleton.mp hlead
        · split at hlead
          · cases List.mem_singleton.mp hlead
          · cases hlead
      · obtain ⟨other, hother, hsome⟩ := List.mem_filterMap.mp hpart
        have hsame : other = part := by
          split at hsome
          · cases hsome
          · split at hsome
            · cases hsome
            · exact Component.name.inj (Option.some.inj hsome)
        subst hsame
        exact .inl (Text.mem_of_mem_piece hc hother)

/-- Seen from a base that goes down by names, a path leads from there to where it leads. -/
theorem whereabouts_relativeTo {path base : List Char} (h : GoesDownFrom base path) :
    ∃ seen, relativeTo path base = some seen ∧ (∀ c ∈ seen, c ∈ path ∨ c = '.' ∨ c = '/') ∧
      whereabouts (join base seen) = whereabouts path := by
  obtain ⟨common, rest, names, hpath, hbase, hnames⟩ := h
  unfold relativeTo
  by_cases habsolute : isAbsolute path = isAbsolute base
  · obtain ⟨steps, hsteps, hmem, hwalk⟩ := @relativeSteps_below rest names hnames
    have hin : ∀ c ∈ steps, c = .parent ∨ c ∈ components path := fun c hc =>
      (hmem c hc).imp_right fun hrest => hpath ▸ List.mem_append_right common hrest
    have hparts : ∀ c ∈ steps, c.IsPart := fun c hc => by
      rcases hin c hc with rfl | hpart
      · trivial
      · exact isPart_of_mem_components hpart
    refine ⟨ofComponents steps, ?_, fun c hc => ?_, ?_⟩
    · rw [habsolute, bne_self_eq_false, if_neg Bool.false_ne_true, hpath, hbase, relativeSteps_append, hsteps,
        Option.map_some]
    · rcases mem_of_mem_ofComponents hc with hslash | ⟨component, hcomponent, htext⟩
      · exact .inr (.inr hslash)
      · rcases hin component hcomponent with rfl | hpart
        · exact .inr (.inl (by simpa [Component.text] using htext))
        · exact mem_of_mem_text htext hpart
    · calc whereabouts (join base (ofComponents steps))
          = walk (walk {} (components base)) steps := by
            rw [whereabouts, walk_join, walk_ofComponents _ hparts]
        _ = walk (walk (walk {} common) names) steps := by rw [hbase, walk_append]
        _ = walk (walk {} common) rest := hwalk _
        _ = whereabouts path := by rw [← walk_append, ← hpath, whereabouts]
  · -- Without a common beginning the base is relative, and the path stays as it is.
    have hcommon : common = [] := by
      cases common with
      | nil => rfl
      | cons c common =>
          refine absurd ?_ habsolute
          rw [Bool.eq_iff_iff, isAbsolute_iff, isAbsolute_iff, hpath, hbase]
          simp
    have hrelative : isAbsolute base = false := by
      rw [Bool.eq_false_iff]
      intro hroot
      obtain ⟨more, hmore⟩ := (isAbsolute_iff base).mp hroot
      rw [hbase, hcommon, List.nil_append] at hmore
      have hname : Component.root.isName = true := hnames _ (hmore ▸ List.mem_cons_self)
      cases hname
    have hroot : isAbsolute path = true := by
      rw [hrelative] at habsolute
      exact eq_true_of_ne_false habsolute
    refine ⟨path, ?_, fun c hc => .inl hc, ?_⟩
    · rw [hroot, hrelative]
      rfl
    · rw [join_of_absolute hroot]

end Folio.FilePath
