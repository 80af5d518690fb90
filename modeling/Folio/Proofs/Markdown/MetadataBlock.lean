import Folio.Markdown.Writing
import Folio.Proofs.Markdown.ErrorPolicy
import Mathlib.Data.List.DropRight

/-!
# Metadata written and stored again

The metadata of a document is written as lines of a key and a value, and such a block gives a document its metadata. The
keys come through unharmed and in order. A value does unless it is blank at an end or stands in quotes: on a line the
blanks and the quotes belong to the notation.

* `storedMetadata` : what a metadata block gives a document;
* `IsKey` : what keys on a line are like;
* `Storable` : what stored metadata is like;
* `entries_frontMatterText` : the entries of a written block;
* `unquote_trim_eq_self_iff` : the values that are read as they are written;
* `storedMetadata_written_iff` : stored metadata is written and stored again unchanged exactly when its values are such.
-/

namespace Folio
namespace Markdown
open FrontMatter RenderM
open Text (trim trimStart trimEnd dropWhileEnd lines Edges)
open Unicode (isBlank)

/-! ## Trimmed texts -/

/-- The text neither begins nor ends blank. -/
structure Trimmed (cs : List Char) : Prop where
  head : ∀ c, cs.head? = some c → isBlank c = false
  last : ∀ c, cs.getLast? = some c → isBlank c = false

theorem trim_append {lead core trail : List Char} (hlead : ∀ c ∈ lead, isBlank c = true) (hcore : Trimmed core)
    (htrail : ∀ c ∈ trail, isBlank c = true) : trim (lead ++ core ++ trail) = core := by
  have hstart : trimStart (lead ++ core ++ trail) = trimStart (core ++ trail) := by
    unfold trimStart
    rw [List.append_assoc, List.dropWhile_append_of_pos hlead]
  unfold trim
  rw [hstart]
  cases core with
  | nil =>
      have hnone : trimStart trail = [] := List.dropWhile_eq_nil_iff.mpr htrail
      rw [List.nil_append, hnone]
      rfl
  | cons c rest =>
      have hkeep : trimStart (c :: rest ++ trail) = c :: rest ++ trail :=
        List.dropWhile_cons_of_neg (by rw [hcore.head c rfl]; exact Bool.false_ne_true)
      rw [hkeep]
      unfold trimEnd
      rw [Text.dropWhileEnd_append_of_all htrail]
      refine List.rdropWhile_eq_self_iff.mpr fun hne => ?_
      have hlast := hcore.last _ (List.getLast?_eq_some_getLast hne)
      rw [hlast]
      exact Bool.false_ne_true

theorem Trimmed.trim_eq {cs : List Char} (h : Trimmed cs) : trim cs = cs := by
  have happend := @trim_append [] cs [] (by simp) h (by simp)
  rwa [List.nil_append, List.append_nil] at happend

theorem trimmed_trim (cs : List Char) : Trimmed (trim cs) := by
  refine ⟨fun c hc => ?_, fun c hc => Text.getLast?_dropWhileEnd hc⟩
  obtain ⟨last, hlast⟩ := Text.dropWhileEnd_isPrefixOf isBlank (trimStart cs)
  have hhead := List.head?_dropWhile_not isBlank cs
  have hstart : (trimStart cs).head? = some c := by
    rw [← hlast, List.head?_append]
    change (dropWhileEnd isBlank (trimStart cs)).head? = some c at hc
    rw [hc, Option.some_or]
  unfold trimStart at hstart
  rw [hstart] at hhead
  exact hhead

/-- Blanks around a text come off with its own. -/
theorem trim_blank_append {lead trail : List Char} (hlead : ∀ c ∈ lead, isBlank c = true)
    (htrail : ∀ c ∈ trail, isBlank c = true) (cs : List Char) : trim (lead ++ cs ++ trail) = trim cs := by
  have hcs := Edges.ofText_append cs
  change (Edges.ofText cs).lead ++ trim cs ++ (Edges.ofText cs).trail = cs at hcs
  have hblank := @Edges.blank_lead cs
  have hblank' := @Edges.blank_trail cs
  generalize (Edges.ofText cs).lead = first, (Edges.ofText cs).trail = last at hcs hblank hblank'
  have hsplit : lead ++ cs ++ trail = (lead ++ first) ++ trim cs ++ (last ++ trail) := by
    conv_lhs => rw [← hcs]
    simp only [List.append_assoc]
  rw [hsplit]
  refine trim_append ?_ (trimmed_trim cs) ?_
  · intro c hc
    exact (List.mem_append.mp hc).elim (hlead c) (hblank c)
  · intro c hc
    exact (List.mem_append.mp hc).elim (hblank' c) (htrail c)

/-! ## Values -/

/-- The text stands between two quotes of the same kind. -/
def IsQuoted (value : List Char) : Prop :=
  ∃ quote ∈ ['"', '\''], ∃ inner, value = quote :: inner ++ [quote]

theorem unquoted_eq_some_iff {quote : Char} {value inner : List Char} :
    unquoted quote value = some inner ↔ value = quote :: inner ++ [quote] := by
  unfold unquoted
  constructor
  · intro h
    split at h
    · rename_i c rest
      split at h
      · rename_i hquote
        obtain ⟨rfl, hlast⟩ := hquote
        obtain ⟨front, rfl⟩ := List.getLast?_eq_some_iff.mp hlast
        cases h
        rw [List.dropLast_concat]
        rfl
      · cases h
    · cases h
  · rintro rfl
    simp

theorem length_lt_of_isQuoted {value : List Char} (h : IsQuoted value) : (unquote value).length < value.length := by
  obtain ⟨quote, hquote, inner, rfl⟩ := h
  have hinner : unquoted quote (quote :: inner ++ [quote]) = some inner := unquoted_eq_some_iff.mpr rfl
  have hlength : inner.length < (quote :: inner ++ [quote]).length := by
    simp only [List.length_append, List.length_cons]
    omega
  unfold unquote
  rcases List.mem_cons.mp hquote with rfl | hsingle
  · rw [hinner]
    exact hlength
  · obtain rfl := List.mem_singleton.mp hsingle
    have hdouble : unquoted '"' ('\'' :: inner ++ ['\'']) = none := by simp [unquoted]
    rw [hdouble, hinner]
    exact hlength

theorem unquote_of_not_isQuoted {value : List Char} (h : ¬IsQuoted value) : unquote value = value := by
  have hnone (quote : Char) (hquote : quote ∈ ['"', '\'']) : unquoted quote value = none := by
    refine Option.eq_none_iff_forall_ne_some.mpr fun inner hinner => ?_
    exact h ⟨quote, hquote, inner, unquoted_eq_some_iff.mp hinner⟩
  unfold unquote
  rw [hnone '"' (by simp), hnone '\'' (by simp)]
  rfl

theorem mem_of_mem_unquote {c : Char} {value : List Char} (h : c ∈ unquote value) : c ∈ value := by
  by_cases hquoted : IsQuoted value
  · obtain ⟨quote, hquote, inner, rfl⟩ := hquoted
    have hinner : c ∈ inner → c ∈ quote :: inner ++ [quote] := fun hc => by simp [hc]
    simp only [List.mem_cons, List.not_mem_nil, or_false] at hquote
    rcases hquote with rfl | rfl <;> simp_all [unquote, unquoted]
  · rwa [unquote_of_not_isQuoted hquoted] at h

theorem mem_of_mem_trim {c : Char} {cs : List Char} (h : c ∈ trim cs) : c ∈ cs :=
  (List.dropWhile_suffix _).subset ((Text.dropWhileEnd_isPrefixOf _ _).subset h)

theorem length_trim_le (cs : List Char) : (trim cs).length ≤ cs.length := by
  have hend := (Text.dropWhileEnd_isPrefixOf isBlank (trimStart cs)).length_le
  have hstart := (List.dropWhile_suffix isBlank (l := cs)).length_le
  exact hend.trans hstart

/-- A value is read as it is written when it is blank at no end and not in quotes. -/
theorem unquote_trim_eq_self_iff (value : List Char) :
    unquote (trim value) = value ↔ Trimmed value ∧ ¬IsQuoted value := by
  constructor
  · intro h
    by_cases hquoted : IsQuoted (trim value)
    · have hshort := length_lt_of_isQuoted hquoted
      have htrim := length_trim_le value
      rw [h] at hshort
      omega
    · rw [unquote_of_not_isQuoted hquoted] at h
      rw [h] at hquoted
      refine ⟨?_, hquoted⟩
      rw [← h]
      exact trimmed_trim value
  · rintro ⟨htrimmed, hquoted⟩
    rw [htrimmed.trim_eq, unquote_of_not_isQuoted hquoted]

/-! ## Lines of a key and a value -/

/-- What stands before the colon on a line. -/
structure IsKey (key : List Char) : Prop where
  trimmed : Trimmed key
  ne_nil : key ≠ []
  head_ne : key.head? ≠ some '#'
  colon : ':' ∉ key
  newline : '\n' ∉ key

/-- The line of a key and a value. -/
def entryLine (key value : List Char) : List Char := key ++ ':' :: ' ' :: value

/-- The blanks at the end of a line come off the value. -/
theorem trim_entryLine {key : List Char} (hkey : IsKey key) (value : List Char) :
    ∃ rest, trim (entryLine key value) = key ++ ':' :: rest ∧ trim rest = trim value := by
  obtain ⟨last, hlast, hblank⟩ := Text.eq_dropWhileEnd_append isBlank (' ' :: value)
  generalize hrest : dropWhileEnd isBlank (' ' :: value) = rest at hlast
  refine ⟨rest, ?_, ?_⟩
  · have hsplit : entryLine key value = [] ++ (key ++ ':' :: rest) ++ last := by
      rw [entryLine, hlast]
      simp
    have hkept : Trimmed (key ++ ':' :: rest) := by
      refine ⟨fun c hc => ?_, fun c hc => ?_⟩
      · obtain ⟨first, cs, hcs⟩ := List.exists_cons_of_ne_nil hkey.ne_nil
        have hhead := hkey.trimmed.head
        rw [hcs] at hhead hc
        exact hhead c hc
      · rw [List.getLast?_append, List.getLast?_cons, Option.some_or] at hc
        cases hend : rest.getLast? with
        | none =>
            rw [hend] at hc
            obtain rfl : ':' = c := Option.some.inj hc
            decide +kernel
        | some d =>
            rw [hend] at hc
            obtain rfl : d = c := Option.some.inj hc
            rw [← hrest] at hend
            exact Text.getLast?_dropWhileEnd hend
    rw [hsplit]
    exact trim_append (by simp) hkept hblank
  · have hspace : ∀ c ∈ [' '], isBlank c = true := List.forall_mem_singleton.mpr rfl
    have hvalue := @trim_blank_append [' '] [] hspace (by simp) value
    have hline := @trim_blank_append [] last (by simp) hblank rest
    rw [List.nil_append, ← hlast] at hline
    rw [List.append_nil] at hvalue
    exact hline.symm.trans hvalue

theorem entry?_entryLine {key : List Char} (hkey : IsKey key) (value : List Char) :
    entry? (entryLine key value) = some (key, unquote (trim value)) := by
  obtain ⟨rest, hline, hrest⟩ := trim_entryLine hkey value
  have hne : ∀ c ∈ key, (c != ':') = true := by
    intro c hc
    exact bne_iff_ne.mpr fun h => hkey.colon (h ▸ hc)
  have htake : (key ++ ':' :: rest).takeWhile (· != ':') = key := by
    rw [List.takeWhile_append_of_pos hne, List.takeWhile_cons_of_neg (by simp), List.append_nil]
  have hdrop : (key ++ ':' :: rest).dropWhile (· != ':') = ':' :: rest := by
    rw [List.dropWhile_append_of_pos hne, List.dropWhile_cons_of_neg (by simp)]
  have hkept : ((key ++ ':' :: rest).isEmpty || key ++ ':' :: rest == delimiter ||
      (key ++ ':' :: rest).head? == some '#') = false := by
    have hmem : ':' ∈ key ++ ':' :: rest := by simp
    have hdelimiter : key ++ ':' :: rest ≠ delimiter := by
      intro h
      rw [h] at hmem
      exact absurd hmem (by decide)
    have hhead : (key ++ ':' :: rest).head? ≠ some '#' := by
      obtain ⟨c, cs, hcs⟩ := List.exists_cons_of_ne_nil hkey.ne_nil
      have h := hkey.head_ne
      rw [hcs] at h ⊢
      exact h
    rw [Bool.or_eq_false_iff, Bool.or_eq_false_iff]
    exact ⟨⟨by simp, beq_eq_false_iff_ne.mpr hdelimiter⟩, beq_eq_false_iff_ne.mpr hhead⟩
  unfold entry?
  dsimp only
  rw [hline, hkept, hdrop, htake]
  simp [hkey.trimmed.trim_eq, hrest, hkey.ne_nil]

/-- A line with an entry is a key and a value around its first colon, and no comment. -/
theorem entry?_eq_some {line key value : List Char} (h : entry? line = some (key, value)) :
    (trim line).head? ≠ some '#' ∧ ∃ front behind, trim line = front ++ ':' :: behind ∧ ':' ∉ front ∧
      key = trim front ∧ key ≠ [] ∧ value = unquote (trim behind) := by
  unfold entry? at h
  dsimp only at h
  split at h
  · cases h
  next hkept =>
    split at h
    next behind hdrop =>
      split at h
      · cases h
      next hkey =>
        cases h
        refine ⟨by simp_all, _, behind, ?_, ?_, rfl, by simpa using hkey, rfl⟩
        · rw [← hdrop, List.takeWhile_append_dropWhile]
        · exact fun hcolon => by simpa using List.mem_takeWhile_imp hcolon
    · cases h

/-- A trimmed text begins as the text does when that begins with no blank. -/
theorem trim_prefix {text : List Char} (h : ∀ c ∈ text.head?, isBlank c = false) : trim text <+: text := by
  have hstart : trimStart text = text := by
    cases text with
    | nil => rfl
    | cons c cs => exact List.dropWhile_cons_of_neg (by rw [h c rfl]; exact Bool.false_ne_true)
  have hprefix := Text.dropWhileEnd_isPrefixOf isBlank (trimStart text)
  rw [hstart] at hprefix
  rwa [trim, hstart]

theorem isKey_of_entry? {line key value : List Char} (hline : '\n' ∉ line) (h : entry? line = some (key, value)) :
    IsKey key ∧ '\n' ∉ value := by
  obtain ⟨hcomment, front, behind, hsplit, hcolon, rfl, hne, rfl⟩ := entry?_eq_some h
  have hnewline : '\n' ∉ front ++ ':' :: behind := fun hmem => hline (mem_of_mem_trim (hsplit ▸ hmem))
  rw [List.mem_append, List.mem_cons, not_or, not_or] at hnewline
  obtain ⟨hfront, -, hbehind⟩ := hnewline
  refine ⟨⟨trimmed_trim front, hne, fun hhead => hcomment ?_, mt mem_of_mem_trim hcolon, mt mem_of_mem_trim hfront⟩,
    mt (mem_of_mem_trim ∘ mem_of_mem_unquote) hbehind⟩
  -- nothing blank comes first, so the key begins as the line does
  have hblank : ∀ c ∈ front.head?, isBlank c = false := by
    intro c hc
    refine (trimmed_trim line).head c ?_
    rw [hsplit, List.head?_append, Option.mem_def.mp hc]
    rfl
  obtain ⟨last, hlast⟩ := trim_prefix hblank
  rw [hsplit, ← hlast, List.append_assoc, List.head?_append, hhead]
  rfl

/-! ## Blocks of lines -/

theorem entries_append {line : List Char} (h : '\n' ∉ line) (rest : List Char) :
    entries (line ++ '\n' :: rest) = Option.toList ( entry? line) ++ entries rest := by
  unfold entries
  rw [Text.lines_append h]
  cases hentry : entry? line with
  | none => rw [List.filterMap_cons_none hentry]; rfl
  | some entry => rw [List.filterMap_cons_some hentry]; rfl

/-- The metadata has keys that a line can hold, each once, and values on one line. -/
structure Storable (metadata : Metadata) : Prop where
  keys : ∀ entry ∈ metadata.entries, IsKey entry.1.toList
  values : ∀ entry ∈ metadata.entries, '\n' ∉ entry.2.toList
  nodup : (metadata.entries.map Prod.fst).Nodup

/-! ## Setting entries -/

theorem Storable.set {metadata : Metadata} (h : Storable metadata) {key value : List Char} (hkey : IsKey key)
    (hvalue : '\n' ∉ value) : Storable (metadata.set (String.ofList key) (String.ofList value)) where
  keys := by
    intro entry hentry
    rcases Metadata.mem_set_go hentry with rfl | hentry
    · rwa [String.toList_ofList]
    · exact h.keys entry hentry
  values := by
    intro entry hentry
    rcases Metadata.mem_set_go hentry with rfl | hentry
    · rwa [String.toList_ofList]
    · exact h.values entry hentry
  nodup := Metadata.nodup_keys_set_go h.nodup

/-- The metadata with all the entries set. -/
def setAll (metadata : Metadata) (entries : List (List Char × List Char)) : Metadata :=
  entries.foldl (fun metadata entry => metadata.set (String.ofList entry.1) (String.ofList entry.2)) metadata

theorem Storable.setAll {entries : List (List Char × List Char)} {metadata : Metadata} (h : Storable metadata)
    (hentries : ∀ entry ∈ entries, IsKey entry.1 ∧ '\n' ∉ entry.2) : Storable (setAll metadata entries) := by
  induction entries generalizing metadata with
  | nil => exact h
  | cons entry entries ih =>
      obtain ⟨hentry, hrest⟩ := List.forall_mem_cons.mp hentries
      exact ih (h.set hentry.1 hentry.2) hrest

/-- Entries with keys of their own are set as they stand. -/
theorem setAll_of_nodup {entries : List (List Char × List Char)} {metadata : Metadata}
    (h : (metadata.entries.map Prod.fst ++ entries.map fun entry => String.ofList entry.1).Nodup) :
    (setAll metadata entries).entries =
      metadata.entries ++ entries.map fun entry => (String.ofList entry.1, String.ofList entry.2) := by
  induction entries generalizing metadata with
  | nil => exact (List.append_nil _).symm
  | cons entry entries ih =>
      have hnew : String.ofList entry.1 ∉ metadata.entries.map Prod.fst := by
        intro hmem
        exact (List.nodup_append.mp h).2.2 _ hmem _ (List.mem_map_of_mem List.mem_cons_self) rfl
      have hset : (metadata.set (String.ofList entry.1) (String.ofList entry.2)).entries =
          metadata.entries ++ [(String.ofList entry.1, String.ofList entry.2)] := Metadata.set_go_of_not_mem _ hnew
      have hstep := @ih (metadata.set (String.ofList entry.1) (String.ofList entry.2)) (by
        rw [hset, List.map_append, List.append_assoc]
        exact h)
      rw [setAll, List.foldl_cons]
      rw [setAll] at hstep
      rw [hstep, hset, List.append_assoc]
      rfl

/-! ## What a block gives a document -/

/-- The metadata of a document that is made from a metadata block. -/
def storedMetadata (context : RenderContext) (raw : String) : Metadata :=
  (renderInto context { kind := .document, children := [{ kind := .frontMatter raw }] }).2.doc.metadata

theorem run_setEntries (context : RenderContext) (entries : List (List Char × List Char)) (s : Rendering) :
    (entries.forM fun (key, value) => modifyDoc (·.setMetadata (String.ofList key) (String.ofList value))) context s =
      (.ok (), { s with doc := { s.doc with metadata := setAll s.doc.metadata entries } }) := by
  induction entries generalizing s with
  | nil => rfl
  | cons entry entries ih =>
      let set (entry : List Char × List Char) : RenderM PUnit :=
        modifyDoc (·.setMetadata (String.ofList entry.1) (String.ofList entry.2))
      change (set entry >>= fun _ => entries.forM set) context s = _
      rw [run_bind]
      exact ih { s with doc := s.doc.setMetadata (String.ofList entry.1) (String.ofList entry.2) }

theorem storedMetadata_eq (context : RenderContext) (raw : String) :
    storedMetadata context raw = setAll {} (entries raw.toList) := by
  unfold storedMetadata renderInto
  rw [renderBlock]
  dsimp only
  rw [renderBlocks, renderBlocks, renderBlock]
  dsimp only
  let start : Rendering := .start context.settings
  let stored : RenderM Unit := (entries raw.toList).forM fun (key, value) =>
    modifyDoc (·.setMetadata (String.ofList key) (String.ofList value))
  change ((stored >>= fun _ => pure ()) context start).2.doc.metadata = _
  have hrun : stored context start = _ := run_setEntries context (entries raw.toList) start
  rw [run_bind, hrun]
  rfl

theorem storable_storedMetadata (context : RenderContext) (raw : String) : Storable (storedMetadata context raw) := by
  rw [storedMetadata_eq]
  refine Storable.setAll ⟨by simp, by simp, by simp⟩ fun entry hentry => ?_
  obtain ⟨line, hline, hentry⟩ := List.mem_filterMap.mp hentry
  exact isKey_of_entry? (Text.not_mem_of_mem_splitOn hline) hentry

/-- The lines of a written block. -/
theorem entries_entryLines {items : List (String × String)} (hkeys : ∀ item ∈ items, IsKey item.1.toList)
    (hvalues : ∀ item ∈ items, '\n' ∉ item.2.toList) (rest : List Char) :
    entries ((items.flatMap fun (k, v) => k.toList ++ ':' :: ' ' :: v.toList ++ ['\n']) ++ rest) =
      (items.map fun item => (item.1.toList, unquote (trim item.2.toList))) ++ entries rest := by
  induction items with
  | nil => rfl
  | cons item items ih =>
      obtain ⟨key, value⟩ := item
      obtain ⟨hkey, hkeys⟩ := List.forall_mem_cons.mp hkeys
      obtain ⟨hvalue, hvalues⟩ := List.forall_mem_cons.mp hvalues
      have hline : '\n' ∉ entryLine key.toList value.toList := by
        unfold entryLine
        simp only [List.mem_append, List.mem_cons, not_or]
        exact ⟨hkey.newline, by decide, by decide, hvalue⟩
      have hfirst := entries_append hline
        ((items.flatMap fun (k, v) => k.toList ++ ':' :: ' ' :: v.toList ++ ['\n']) ++ rest)
      rw [entry?_entryLine hkey, ih hkeys hvalues] at hfirst
      rw [List.flatMap_cons, List.append_assoc]
      simpa [entryLine] using hfirst

theorem entries_frontMatterText {settings : ExportSettings} (hinclude : settings.includeMetadata = true)
    {metadata : Metadata} (h : Storable metadata) :
    entries (frontMatterText settings metadata) =
      metadata.entries.map fun entry => (entry.1.toList, unquote (trim entry.2.toList)) := by
  unfold frontMatterText
  rw [hinclude, Bool.not_true, Bool.false_or]
  split
  · rename_i hempty
    rw [List.isEmpty_iff.mp hempty]
    decide +kernel
  · have hopen := @entries_append delimiter (by decide)
      ((metadata.entries.flatMap fun (k, v) => k.toList ++ ':' :: ' ' :: v.toList ++ ['\n']) ++ "---\n\n".toList)
    have hdelimiter : entry? delimiter = none := by decide +kernel
    have hclose : entries "---\n\n".toList = [] := by decide +kernel
    rw [hdelimiter, entries_entryLines h.keys h.values, hclose, List.append_nil] at hopen
    exact hopen

/-- What is stored from a written block: the keys as they were, and the values as they are read. -/
theorem entries_stored_written (context : RenderContext) {settings : ExportSettings}
    (hinclude : settings.includeMetadata = true) {metadata : Metadata} (h : Storable metadata) :
    (storedMetadata context (String.ofList (frontMatterText settings metadata))).entries =
      metadata.entries.map fun entry => (entry.1, String.ofList (unquote (trim entry.2.toList))) := by
  have hkeys : (metadata.entries.map fun entry => (entry.1.toList, unquote (trim entry.2.toList))).map
      (fun entry => String.ofList entry.1) = metadata.entries.map Prod.fst := by
    rw [List.map_map]
    exact List.map_congr_left fun entry _ => String.ofList_toList
  rw [storedMetadata_eq, String.toList_ofList, entries_frontMatterText hinclude h, setAll_of_nodup]
  · rw [List.nil_append, List.map_map]
    refine List.map_congr_left fun entry _ => ?_
    rw [Function.comp_apply, String.ofList_toList]
  · rw [hkeys]
    exact h.nodup

theorem frontMatterText_prefix {settings : ExportSettings} {doc : Document} {text : String}
    (h : (write settings doc).1 = .ok text) : frontMatterText settings doc.metadata <+: text.toList := by
  unfold write at h
  generalize elementsText settings doc {} (writtenElements settings doc) = written at h
  obtain ⟨d | ⟨texts, w⟩, ds⟩ := written
  · cases h
  · obtain rfl := Except.ok.inj h
    rw [String.toList_ofList, List.append_assoc, List.append_assoc]
    exact List.prefix_append ..

/-- **Metadata written and stored again.** The metadata that a block gives a document is put in front of the text of
every document that has it. Stored again from there, it is the same, entry by entry and in order, exactly when no value
begins or ends blank or stands in quotes. -/
theorem storedMetadata_written_iff (context : RenderContext) (settings : ExportSettings)
    (hinclude : settings.includeMetadata = true) (raw : String) :
    let metadata := storedMetadata context raw
    let block := frontMatterText settings metadata
    (∀ doc text, doc.metadata = metadata → (write settings doc).1 = .ok text → block <+: text.toList) ∧
      (storedMetadata context (String.ofList block) = metadata ↔
        ∀ entry ∈ metadata.entries, Trimmed entry.2.toList ∧ ¬IsQuoted entry.2.toList) := by
  intro metadata block
  have hstored := entries_stored_written context hinclude (storable_storedMetadata context raw)
  refine ⟨fun doc text hdoc htext => ?_, ?_⟩
  · have hprefix := frontMatterText_prefix htext
    rwa [hdoc] at hprefix
  have hentries : storedMetadata context (String.ofList block) = metadata ↔
      (storedMetadata context (String.ofList block)).entries = metadata.entries :=
    ⟨congrArg Metadata.entries, fun h => congrArg Metadata.mk h⟩
  have hvalue (entry : String × String) :
      (entry.1, String.ofList (unquote (trim entry.2.toList))) = entry ↔
        Trimmed entry.2.toList ∧ ¬IsQuoted entry.2.toList := by
    rw [← unquote_trim_eq_self_iff, Prod.ext_iff, and_iff_right rfl, ← String.toList_inj, String.toList_ofList]
  rw [hentries, hstored]
  conv_lhs => rhs; rw [← List.map_id metadata.entries]
  rw [List.map_inj_left]
  exact forall₂_congr fun entry _ => hvalue entry

/-- A colon and a lone quote in a value, a comment and a key that is set twice. -/
theorem storedMetadata_written_plain :
    let settings : ExportSettings := {}
    let metadata := storedMetadata {} "---\ntitle: \"A: b\"\n# draft\nby: 'Sam\ntitle: A: c\n---\n"
    settings.includeMetadata = true ∧ metadata.entries = [("title", "A: c"), ("by", "'Sam")] ∧
      storedMetadata {} (String.ofList (frontMatterText settings metadata)) = metadata := by
  intro settings metadata
  have hentries : metadata.entries = [("title", "A: c"), ("by", "'Sam")] := by decide +kernel
  have hvalues : ∀ entry ∈ metadata.entries, unquote (trim entry.2.toList) = entry.2.toList := by
    rw [hentries]
    decide +kernel
  have hagain := (storedMetadata_written_iff {} settings rfl _).2.mpr fun entry hentry =>
    (unquote_trim_eq_self_iff _).mp (hvalues entry hentry)
  exact ⟨rfl, hentries, hagain⟩

/-- Quotes in quotes: a layer comes off each time. -/
theorem storedMetadata_written_quoted :
    let metadata := storedMetadata {} "---\na: \"'x'\"\n---\n"
    metadata.entries = [("a", "'x'")] ∧
      (storedMetadata {} (String.ofList (frontMatterText {} metadata))).entries = [("a", "x")] := by
  decide +kernel

end Markdown
end Folio
