import Folio.Proofs.Json.Written

/-!
# Reading what is written by a shape

The reader of a shape goes over the text once, field by field; a tagged union is read as it is first, because its tag
may come last, and then fitted.

* `fieldMembers_reads` : the fields of a record are found among the members of an object;
* `tagged_reads` : a union is read to its tag and the members behind it;
* `readShape_written` : the printed text of a value is read to its normal form;
* `readText_written` : and so is a text that holds nothing else.
-/

namespace Folio.Json
variable {ρ : Type}

namespace Reader

/-! ## The fields of a record -/

theorem head_ne_of_ne_null {json : Json} (h : Whole json) (hv : json ≠ .null) (depth : Nat) :
    (printChars depth json).head? ≠ some 'n' := by
  cases json with
  | null => exact absurd rfl hv
  | bool b => cases b <;> exact fun h => by cases h
  | nat n =>
      intro hn
      have digit : Char.isDigit 'n' = true :=
        Nat.isDigit_of_mem_toDigits (n := n) (by decide) (Nat.le_refl 10) (List.mem_of_mem_head? hn)
      exact absurd digit (by decide)
  | neg n => exact absurd h id
  | real shown => exact absurd h id
  | str s => exact fun h => by cases h
  | arr items => cases items <;> exact fun h => by cases h
  | obj members => rcases members with _ | ⟨⟨name, value⟩, members⟩ <;> exact fun h => by cases h

section Field
variable {readValue : Shape ρ → Reader Json} {field : Member ρ} {depth : Nat}

theorem fieldWith_reads {value normal : Json} (hw : Whole value) (hv : value ≠ .null)
    (h : ReadsValue (readValue field.shape) depth value normal) :
    ReadsValue (readShape.fieldWith readValue field) depth value normal := by
  intro blanks rest hb hr
  unfold readShape.fieldWith
  split_ifs with hn
  · refine (peekValue hw hb rest).bind ?_
    split
    · rename_i heq
      exact absurd heq (head_ne_of_ne_null hw hv depth)
    · exact h [] rest (List.forall_mem_nil _) hr
  · exact h blanks rest hb hr

theorem fieldWith_reads_null (hn : field.nullable = true) :
    ReadsValue (readShape.fieldWith readValue field) depth .null .null := by
  intro blanks rest hb hr
  unfold readShape.fieldWith
  rw [if_pos hn]
  refine (peekValue (show Whole .null from trivial) hb rest).bind ?_
  exact (Reads.skip _ _).bind ((word_reads _ rest).bind (.pure _ rest))

/-- One member of an object that is a field: its name, the colon and its value, and then the other members. -/
theorem fieldMembers_cons {readField : Member ρ → Reader Json} {all : List (Member ρ)} {first : Bool} {fuel : Nat}
    {seen : List String} {value normal : Json} {found : List (String × Json)} {source tail rest : List Char}
    (hmore : Reads (moreKeys first) source true
      (Json.stringChars field.name ++ (':' :: ' ' :: (printChars depth value ++ tail))))
    (hfind : all.find? (·.name == field.name) = some field) (hseen : seen.contains field.name = false)
    (hvalue : ReadsValue (readField field) depth value normal) (ht : Ends tail)
    (hrest : Reads (fieldMembers readField all fuel false (field.name :: seen)) tail found rest) :
    Reads (fieldMembers readField all (fuel + 1) first seen) source ((field.name, normal) :: found) rest := by
  refine hmore.bind ((key_reads _ field.name).bind ?_)
  rw [hfind]
  simp only [hseen, Bool.false_eq_true, if_false]
  exact (colon_reads _).bind ((hvalue.afterColon ht).bind (hrest.bind (.pure _ rest)))

end Field

section Object
variable {readValue : Shape ρ → Reader Json} {all fields : List (Member ρ)} {members found : List (String × Json)}
  {normals : List Json} {depth : Nat} (hall : (all.map Member.name).Nodup)
include hall

/-- The fields among the members of an object after the first, up to the closing bracket. -/
theorem fieldMembers_rest
    (h : Fields (fun shape json normal => ReadsValue (readValue shape) depth json normal) fields members found normals)
    (hw : ∀ m ∈ members, Whole m.2) (hsub : ∀ field ∈ fields, field ∈ all)
    (hn : (fields.map Member.name).Nodup) {seen : List String} (hseen : Unseen seen fields) (outer : Nat)
    (rest : List Char) {fuel : Nat} (hf : members.length < fuel) :
    Reads (fieldMembers (readShape.fieldWith readValue) all fuel false seen)
      (printMembers depth members ++ (newline outer ++ '\x7d' :: rest)) found ('\x7d' :: rest) := by
  induction h generalizing seen fuel with
  | nil =>
      obtain ⟨fuel, rfl⟩ := Nat.exists_eq_add_one.mpr (Nat.zero_lt_of_lt hf)
      exact (moreKeys_end outer rest false).bind (.pure [] _)
  | @present field fields value normal members found normals hv hr _ ih =>
      obtain ⟨fuel, rfl⟩ := Nat.exists_eq_add_one.mpr (Nat.zero_lt_of_lt hf)
      obtain ⟨hname, hn⟩ := List.nodup_cons.mp hn
      obtain ⟨hin, hsub⟩ := List.forall_mem_cons.mp hsub
      obtain ⟨hvalue, hw⟩ := List.forall_mem_cons.mp hw
      have more := ih hw hsub hn (hseen.see hname) (Nat.lt_of_succ_lt_succ hf)
      simp only [printMembers, List.cons_append, List.append_assoc, List.nil_append]
      exact fieldMembers_cons (moreKeys_next depth _ field.name) (find?_field hall hin) hseen.head
        (fieldWith_reads hvalue hv hr) (ends_printMembers depth outer members _) more
  | @null field fields members found normals hnull _ ih =>
      obtain ⟨fuel, rfl⟩ := Nat.exists_eq_add_one.mpr (Nat.zero_lt_of_lt hf)
      obtain ⟨hname, hn⟩ := List.nodup_cons.mp hn
      obtain ⟨hin, hsub⟩ := List.forall_mem_cons.mp hsub
      have more := ih (List.forall_mem_cons.mp hw).2 hsub hn (hseen.see hname) (Nat.lt_of_succ_lt_succ hf)
      simp only [printMembers, List.cons_append, List.append_assoc, List.nil_append]
      exact fieldMembers_cons (moreKeys_next depth _ field.name) (find?_field hall hin) hseen.head
        (fieldWith_reads_null hnull) (ends_printMembers depth outer members _) more
  | absent ha _ ih => exact ih hw (List.forall_mem_cons.mp hsub).2 (List.nodup_cons.mp hn).2 hseen.tail hf

/-- The fields among the members of an object, up to the closing bracket. -/
theorem fieldMembers_reads
    (h : Fields (fun shape json normal => ReadsValue (readValue shape) (depth + 1) json normal) fields members found
      normals) (hw : ∀ m ∈ members, Whole m.2) (hsub : ∀ field ∈ fields, field ∈ all)
    (hn : (fields.map Member.name).Nodup) (rest : List Char) {fuel : Nat} (hf : members.length < fuel) :
    Reads (fieldMembers (readShape.fieldWith readValue) all fuel true [])
      (objectBody depth members ++ '\x7d' :: rest) found ('\x7d' :: rest) := by
  obtain ⟨fuel, rfl⟩ := Nat.exists_eq_add_one.mpr (Nat.zero_lt_of_lt hf)
  induction h with
  | nil => exact (moreKeys_none rest).bind (.pure [] _)
  | @present field fields value normal members found normals hv hr others ih =>
      obtain ⟨hname, hn⟩ := List.nodup_cons.mp hn
      obtain ⟨hin, hsub⟩ := List.forall_mem_cons.mp hsub
      obtain ⟨hvalue, hw⟩ := List.forall_mem_cons.mp hw
      have seen : Unseen [field.name] fields := List.forall_mem_singleton.mpr hname
      have more := fieldMembers_rest hall others hw hsub hn seen depth rest (Nat.lt_of_succ_lt_succ hf)
      simp only [objectBody, List.append_assoc, List.cons_append]
      exact fieldMembers_cons (moreKeys_first (depth + 1) _ field.name) (find?_field hall hin) rfl
        (fieldWith_reads hvalue hv hr) (ends_printMembers (depth + 1) depth members _) more
  | @null field fields members found normals hnull others ih =>
      obtain ⟨hname, hn⟩ := List.nodup_cons.mp hn
      obtain ⟨hin, hsub⟩ := List.forall_mem_cons.mp hsub
      have seen : Unseen [field.name] fields := List.forall_mem_singleton.mpr hname
      have more := fieldMembers_rest hall others (List.forall_mem_cons.mp hw).2 hsub hn seen depth rest
        (Nat.lt_of_succ_lt_succ hf)
      simp only [objectBody, List.append_assoc, List.cons_append]
      exact fieldMembers_cons (moreKeys_first (depth + 1) _ field.name) (find?_field hall hin) rfl
        (fieldWith_reads_null hnull) (ends_printMembers (depth + 1) depth members _) more
  | absent ha _ ih => exact ih hw (List.forall_mem_cons.mp hsub).2 (List.nodup_cons.mp hn).2 hf

end Object

/-! ## Tagged unions -/

theorem name_reads {names : List String} {chosen : String} (h : chosen ∈ names) (depth : Nat) :
    ReadsValue (name names) depth (.str chosen) (.str chosen) := by
  intro blanks rest hb hr
  have read := stringBody_reads chosen rest
  unfold name
  refine Reads.located ((peekValue (show Whole (.str chosen) from trivial) hb rest).bind ?_)
  simp only [printChars, Json.stringChars, List.cons_append, List.append_assoc]
  refine (Reads.skip _ _).bind (read.bind ?_)
  rw [checkName_of_mem h]
  exact .pure _ rest

section Tagged
variable {levels depth : Nat} {tag : String} {variants : List String} {members : List (String × Json)}

/-- The members behind the tag, up to the closing bracket. -/
theorem taggedMembers_rest (h : ∀ m ∈ members, ReadsValue (value levels) depth m.2 m.2)
    (ht : ∀ m ∈ members, m.1 ≠ tag) (variant : Json) (outer : Nat) (rest : List Char) {fuel : Nat}
    (hf : members.length < fuel) :
    Reads (taggedMembers levels tag variants fuel false (some variant))
      (printMembers depth members ++ (newline outer ++ '\x7d' :: rest)) (variant, members) ('\x7d' :: rest) := by
  induction members generalizing fuel with
  | nil =>
      obtain ⟨fuel, rfl⟩ := Nat.exists_eq_add_one.mpr (Nat.zero_lt_of_lt hf)
      exact (moreKeys_end outer rest false).bind (.pure _ _)
  | cons m members ih =>
      obtain ⟨fuel, rfl⟩ := Nat.exists_eq_add_one.mpr (Nat.zero_lt_of_lt hf)
      obtain ⟨hm, h⟩ := List.forall_mem_cons.mp h
      obtain ⟨hname, ht⟩ := List.forall_mem_cons.mp ht
      have value := hm.afterColon (ends_printMembers depth outer members ('\x7d' :: rest))
      have more := ih h ht (Nat.lt_of_succ_lt_succ hf)
      simp only [printMembers, List.cons_append, List.append_assoc, List.nil_append]
      refine (moreKeys_next depth _ m.1).bind ((key_reads _ m.1).bind ?_)
      rw [if_neg hname]
      exact (colon_reads _).bind (value.bind (more.bind (.pure _ _)))

/-- The tag and the members behind it, up to the closing bracket. -/
theorem taggedMembers_reads (h : ∀ m ∈ members, ReadsValue (value levels) (depth + 1) m.2 m.2)
    (ht : ∀ m ∈ members, m.1 ≠ tag) {variant : String} (hv : variant ∈ variants) (rest : List Char) {fuel : Nat}
    (hf : members.length + 1 < fuel) :
    Reads (taggedMembers levels tag variants fuel true none)
      (objectBody depth ((tag, .str variant) :: members) ++ '\x7d' :: rest) (.str variant, members)
      ('\x7d' :: rest) := by
  obtain ⟨fuel, rfl⟩ := Nat.exists_eq_add_one.mpr (Nat.zero_lt_of_lt hf)
  have value := (name_reads hv (depth + 1)).afterColon (ends_printMembers (depth + 1) depth members ('\x7d' :: rest))
  have more := @taggedMembers_rest _ _ _ variants _ h ht (.str variant) depth rest fuel (Nat.lt_of_succ_lt_succ hf)
  simp only [objectBody, List.append_assoc, List.cons_append]
  refine (moreKeys_first (depth + 1) _ tag).bind ((key_reads _ tag).bind ?_)
  rw [if_pos rfl]
  simp only [Option.isSome_none, Bool.false_eq_true, if_false]
  exact (colon_reads _).bind (value.bind more)

end Tagged

/-- A union is read to its tag and the members behind it. -/
theorem tagged_reads {schema : Schema ρ} {r : ρ} {members found : List (String × Json)} {normals : List Json}
    (h : Fields (Written schema) (schema.fields r) members found normals) {tag : String}
    (ht : tag ∉ (schema.fields r).map Member.name) {variant unionName : String} {variants : List String}
    (hv : variant ∈ variants) {levels : Nat} (hl : depthMembers members ≤ levels) (depth : Nat) :
    ReadsValue (tagged (levels + 1) unionName tag variants) depth (.obj ((tag, .str variant) :: members))
      (.str variant, .obj members) := by
  intro blanks rest hb hr
  have hw : WholeMembers members := h.whole fun _ _ _ _ hm => hm.whole
  have read : ∀ m ∈ members, ReadsValue (value levels) (depth + 1) m.2 m.2 := fun m hm =>
    value_reads (wholeMembers_iff.mp hw m hm) (Nat.le_trans (depth_le_of_mem_members hm) hl) _
  have apart : ∀ m ∈ members, m.1 ≠ tag := fun m hm heq =>
    ht (heq ▸ h.names_members.subset (List.mem_map_of_mem hm))
  unfold tagged
  have whole : Whole (.obj ((tag, .str variant) :: members)) := ⟨trivial, hw⟩
  refine Reads.located ((peekValue whole hb rest).bind ?_)
  rw [printChars_obj, List.cons_append, List.append_assoc]
  refine (Reads.skip _ _).bind (Reads.thenEnd ?_ (endObject_reads rest))
  refine (Reads.remaining _).bind ((taggedMembers_reads read apart hv rest ?_).bind (.pure _ _))
  have := length_objectBody depth ((tag, .str variant) :: members)
  rw [List.length_cons] at this
  rw [List.length_append]
  omega

theorem mem_of_lookup {variants : List (String × ρ)} {variant : String} {r : ρ} (h : variants.lookup variant = some r) :
    variant ∈ variants.map (·.1) := by
  obtain ⟨front, back, rfl, -⟩ := List.lookup_eq_some_iff.mp h
  simp

/-! ## Values of any shape -/

section Shapes
variable {schema : Schema ρ} {levels depth : Nat}

theorem text_reads (s : String) : ReadsValue (readShape schema levels .text) depth (.str s) (.str s) := by
  intro blanks rest hb hr
  have read := stringBody_reads s rest
  unfold readShape
  refine Reads.bind (Reads.located ((peekValue (show Whole (.str s) from trivial) hb rest).bind ?_)) (.pure _ rest)
  simp only [printChars, Json.stringChars, List.cons_append, List.append_assoc]
  exact (Reads.skip _ _).bind read

theorem flag_reads (b : Bool) : ReadsValue (readShape schema levels .flag) depth (.bool b) (.bool b) := by
  intro blanks rest hb hr
  unfold readShape
  refine Reads.located ((peekValue (show Whole (.bool b) from trivial) hb rest).bind ?_)
  cases b with
  | false => exact (Reads.skip _ _).bind ((word_reads _ rest).bind (.pure _ rest))
  | true => exact (Reads.skip _ _).bind ((word_reads _ rest).bind (.pure _ rest))

theorem sizedNumber_reads {width : Width} {n : Nat} (h : n ≤ width.max) (hw : Whole (.nat n)) :
    ReadsValue (readShape schema levels (.number width)) depth (.nat n) (.nat n) := by
  intro blanks rest hb hr
  unfold readShape
  refine Reads.located ((peekValue hw hb rest).bind ?_)
  obtain ⟨d, ds, hds, digits⟩ := toDigits_eq_cons n
  have digit := digits d List.mem_cons_self
  have read : Reads (number false) (printChars depth (.nat n) ++ rest) (.nat n) rest := number_reads hw hr
  simp only [printChars, hds, List.head?_cons] at read ⊢
  split
  next heq => cases heq
  next heq => exact absurd digit (by rw [Option.some.inj heq]; decide)
  next heq =>
    rw [← Option.some.inj heq, if_pos digit]
    refine read.bind ?_
    rw [checkNumber, if_pos h]
    exact .pure _ rest

theorem listOf_reads {item : Shape ρ} {items values : List Json} (hw : Whole (.arr items))
    (h : List.Forall₂ (ReadsValue (readShape schema levels item) (depth + 1)) items values) :
    ReadsValue (readShape schema (levels + 1) (.list item)) depth (.arr items) (.arr values) := by
  intro blanks rest hb hr
  unfold readShape
  refine Reads.located ((peekValue hw hb rest).bind ?_)
  rw [printChars_arr, List.cons_append, List.append_assoc]
  exact (Reads.skip _ _).bind (list_reads h (wholeItems_iff.mp hw) .arr rest)

theorem pair_reads {first second : Shape ρ} {a b m n : Json} (hw : Whole (.arr [a, b]))
    (ha : ReadsValue (readShape schema levels first) (depth + 1) a m)
    (hb : ReadsValue (readShape schema levels second) (depth + 1) b n) :
    ReadsValue (readShape schema (levels + 1) (.pair first second)) depth (.arr [a, b]) (.arr [m, n]) := by
  intro blanks rest hblank hr
  obtain ⟨c, cs, hc, ho⟩ := printChars_head (wholeItems_iff.mp hw a (by simp)) (depth + 1)
  obtain ⟨c', cs', hc', ho'⟩ := printChars_head (wholeItems_iff.mp hw b (by simp)) (depth + 1)
  have readA := ha [] (printItems (depth + 1) [b] ++ (newline depth ++ ']' :: rest)) (List.forall_mem_nil _)
    (ends_printItems (depth + 1) depth [b] _)
  have readB := hb [] (newline depth ++ ']' :: rest) (List.forall_mem_nil _) (ends_newline depth _)
  unfold readShape
  refine Reads.located ((peekValue hw hblank rest).bind ?_)
  rw [printChars_arr, List.cons_append, List.append_assoc]
  refine (Reads.skip _ _).bind (Reads.thenEnd ?_ (endList_newline depth rest))
  simp only [listBody, printItems, hc, hc', List.cons_append, List.append_assoc, List.nil_append] at readA readB ⊢
  refine (moreItems_first (depth + 1) _ ho).bind (readA.bind ?_)
  exact (moreItems_next (depth + 1) _ ho').bind (readB.bind (.pure _ _))

theorem record_reads (hs : schema.Apart) {r : ρ} {members found : List (String × Json)} {normals : List Json}
    (hw : Whole (.obj members))
    (h : Fields (fun shape json normal => ReadsValue (readShape schema levels shape) (depth + 1) json normal)
      (schema.fields r) members found normals) :
    ReadsValue (readShape schema (levels + 1) (.record r)) depth (.obj members) (.arr normals) := by
  intro blanks rest hb hr
  unfold readShape
  refine Reads.located ((peekValue hw hb rest).bind ?_)
  rw [printChars_obj, List.cons_append, List.append_assoc]
  refine (Reads.skip _ _).bind (Reads.thenEnd ?_ (endObject_reads rest))
  refine (Reads.remaining _).bind
    ((fieldMembers_reads (hs r) h (wholeMembers_iff.mp hw) (fun _ hf => hf) (hs r) rest ?_).bind ?_)
  · have := length_objectBody depth members
    rw [List.length_append]
    omega
  · rw [h.fill (hs r)]
    exact .pure _ _

/-- The printed text of a value is read to its normal form. -/
theorem readShape_written (hs : schema.Apart) {shape : Shape ρ} {json normal : Json}
    (h : Written schema shape json normal) (hl : json.depth ≤ levels) (depth : Nat) :
    ReadsValue (readShape schema levels shape) depth json normal := by
  -- induction on the depth: what a list or an object holds is less deep
  induction hd : json.depth using Nat.strongRecOn generalizing shape json normal levels depth with
  | ind n ih =>
  have hw := h.whole
  cases h with
  | text s => exact text_reads s
  | flag b => exact flag_reads b
  | number h => exact sizedNumber_reads h hw
  | choice h =>
      intro blanks rest hb hr
      unfold readShape
      exact (peekValue hw hb rest).bind (name_reads h depth [] rest (List.forall_mem_nil _) hr)
  | list hl' h =>
      obtain ⟨levels, rfl⟩ := Nat.exists_eq_add_one.mpr (Nat.zero_lt_of_lt hl)
      refine listOf_reads hw (List.forall₂_iff_zip.mpr ⟨hl', fun hp => ?_⟩)
      have deep := depth_le_of_mem_items (List.of_mem_zip hp).1
      exact ih _ (hd ▸ Nat.lt_succ_of_le deep) (h hp) (Nat.le_trans deep (Nat.le_of_succ_le_succ hl)) _ rfl
  | @pair first second a b m n ha hb =>
      obtain ⟨levels, rfl⟩ := Nat.exists_eq_add_one.mpr (Nat.zero_lt_of_lt hl)
      have items : ∀ {shape x v}, x ∈ [a, b] → Written schema shape x v →
          ReadsValue (readShape schema levels shape) (depth + 1) x v := fun hx h =>
        have deep := depth_le_of_mem_items hx
        ih _ (hd ▸ Nat.lt_succ_of_le deep) h (Nat.le_trans deep (Nat.le_of_succ_le_succ hl)) _ rfl
      exact pair_reads hw (items (by simp) ha) (items (by simp) hb)
  | record h =>
      obtain ⟨levels, rfl⟩ := Nat.exists_eq_add_one.mpr (Nat.zero_lt_of_lt hl)
      refine record_reads hs hw (h.imp fun m hm shape normal hr => ?_)
      have deep := depth_le_of_mem_members hm
      exact ih _ (hd ▸ Nat.lt_succ_of_le deep) hr (Nat.le_trans deep (Nat.le_of_succ_le_succ hl)) _ rfl
  | @tagged name tag variants variant r ms found normals hv ht h =>
      obtain ⟨levels, rfl⟩ := Nat.exists_eq_add_one.mpr (Nat.zero_lt_of_lt hl)
      intro blanks rest hb hr
      have deep : depthMembers ms ≤ levels := by
        rw [Json.depth, depthMembers] at hl
        exact Nat.le_trans (Nat.le_max_right ..) (Nat.le_of_succ_le_succ hl)
      have fitted : fit schema (levels + 1) (.record r) (.obj ms) = .ok (.arr normals) :=
        fit_written hs (.record h) (Nat.succ_le_succ deep)
      unfold readShape
      refine (tagged_reads h ht (mem_of_lookup hv) deep depth blanks rest hb hr).bind ?_
      simp only [hv, fitted]
      exact .pure _ rest

end Shapes

end Reader

/-- A printed value that nests no deeper than the reader allows fills its text, up to the line feed behind it. -/
theorem readText_written {schema : Schema ρ} (hs : schema.Apart) {shape : Shape ρ} {json normal : Json}
    (h : Written schema shape json normal) (hl : json.depth ≤ maxNesting) :
    readText schema shape (json.pretty ++ "\n") = .ok normal := by
  have read := Reader.readShape_written hs h hl 0 [] ['\n'] (List.forall_mem_nil _) (Reader.ends_newline 0 [])
  have blank : Reader.Reads Reader.peekToken (newline 0 ++ []) none [] :=
    Reader.peekToken_reads (fun _ => Reader.isSpace_of_mem_newline) (fun c hc => by cases hc)
  have source : (json.pretty ++ "\n").toList = [] ++ (printChars 0 json ++ ['\n']) := by
    rw [String.toList_append, pretty, String.toList_ofList]
    rfl
  unfold readText
  rw [source]
  refine @Reader.Reads.fromStart _ _ [] _ _ ?_
  exact read.bind (blank.bind (.pure normal []))

end Folio.Json
