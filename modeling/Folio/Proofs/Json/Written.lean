import Folio.Json.Shape
import Folio.Proofs.Json.Values

/-!
# Values written by a shape

A record is written as an object of its fields in order, where a field that has a value when absent may be left out.
What is written so is read back to its normal form.

* `Written schema shape json normal` : `json` is written by the shape, and `normal` is its normal form;
* `fit_written` : a value that has been read before is fitted to its normal form.
-/

namespace Folio.Json
variable {ρ : Type}

/-! ## What is written by a shape -/

/-- The fields of a record with the members they are written as, what is found of them, and their values in order. A
value of a field is related to its normal form by `R`. -/
inductive Fields (R : Shape ρ → Json → Json → Prop) :
    List (Member ρ) → List (String × Json) → List (String × Json) → List Json → Prop
  | nil : Fields R [] [] [] []
  /-- A field that is written. -/
  | present {field fields value normal members found normals} (hv : value ≠ .null) (h : R field.shape value normal)
      (rest : Fields R fields members found normals) :
      Fields R (field :: fields) ((field.name, value) :: members) ((field.name, normal) :: found) (normal :: normals)
  /-- A field that is written as null. -/
  | null {field fields members found normals} (hn : field.nullable = true)
      (rest : Fields R fields members found normals) :
      Fields R (field :: fields) ((field.name, .null) :: members) ((field.name, .null) :: found) (.null :: normals)
  /-- A field that is left out. -/
  | absent {field fields normal members found normals} (ha : field.absent = some normal)
      (rest : Fields R fields members found normals) : Fields R (field :: fields) members found (normal :: normals)

/-- `json` is written by the shape, and `normal` is its normal form. -/
inductive Written (schema : Schema ρ) : Shape ρ → Json → Json → Prop
  | text (s : String) : Written schema .text (.str s) (.str s)
  | flag (b : Bool) : Written schema .flag (.bool b) (.bool b)
  | number {width n} (h : n ≤ Width.max width) : Written schema (.number width) (.nat n) (.nat n)
  | choice {names name} (h : name ∈ names) : Written schema (.choice names) (.str name) (.str name)
  | list {shape items normals} (hl : items.length = normals.length)
      (h : ∀ {item normal}, (item, normal) ∈ items.zip normals → Written schema shape item normal) :
      Written schema (.list shape) (.arr items) (.arr normals)
  | pair {first second a b m n} (ha : Written schema first a m) (hb : Written schema second b n) :
      Written schema (.pair first second) (.arr [a, b]) (.arr [m, n])
  | record {r members found normals} (h : Fields (Written schema) (schema.fields r) members found normals) :
      Written schema (.record r) (.obj members) (.arr normals)
  | tagged {name tag variants variant r members found normals} (hv : variants.lookup variant = some r)
      (ht : tag ∉ (schema.fields r).map Member.name)
      (h : Fields (Written schema) (schema.fields r) members found normals) :
      Written schema (.tagged name tag variants) (.obj ((tag, .str variant) :: members))
        (.obj [(variant, .arr normals)])

/-- No two fields of a record have the same name. -/
def Schema.Apart (schema : Schema ρ) : Prop := ∀ r, ((schema.fields r).map Member.name).Nodup

namespace Fields
variable {R S : Shape ρ → Json → Json → Prop} {fields : List (Member ρ)} {members found : List (String × Json)}
  {normals : List Json}

theorem imp (h : Fields R fields members found normals)
    (hRS : ∀ m ∈ members, ∀ shape normal, R shape m.2 normal → S shape m.2 normal) :
    Fields S fields members found normals := by
  induction h with
  | nil => exact .nil
  | present hv hr _ ih =>
      obtain ⟨first, others⟩ := List.forall_mem_cons.mp hRS
      exact .present hv (first _ _ hr) (ih others)
  | null hn _ ih => exact .null hn (ih (List.forall_mem_cons.mp hRS).2)
  | absent ha _ ih => exact .absent ha (ih hRS)

/-- What holds of the written values and of null holds of every member. -/
theorem forall_mem (h : Fields R fields members found normals) {P : Json → Prop} (hnull : P .null)
    (hR : ∀ m ∈ members, ∀ shape normal, R shape m.2 normal → P m.2) : ∀ m ∈ members, P m.2 := by
  induction h with
  | nil => exact List.forall_mem_nil _
  | present hv hr _ ih =>
      obtain ⟨first, others⟩ := List.forall_mem_cons.mp hR
      exact List.forall_mem_cons.mpr ⟨first _ _ hr, ih others⟩
  | null hn _ ih => exact List.forall_mem_cons.mpr ⟨hnull, ih (List.forall_mem_cons.mp hR).2⟩
  | absent ha _ ih => exact ih hR

/-- The members are named for fields, in their order. -/
theorem names_members (h : Fields R fields members found normals) :
    (members.map Prod.fst).Sublist (fields.map Member.name) := by
  induction h with
  | nil => exact .slnil
  | present _ _ _ ih => exact ih.cons_cons _
  | null _ _ ih => exact ih.cons_cons _
  | absent _ _ ih => exact ih.cons _

theorem names_found (h : Fields R fields members found normals) : found.map Prod.fst = members.map Prod.fst := by
  induction h with
  | nil => rfl
  | present _ _ _ ih => rw [List.map_cons, List.map_cons, ih]
  | null _ _ ih => rw [List.map_cons, List.map_cons, ih]
  | absent _ _ ih => exact ih

end Fields

/-! ## The values of the fields -/

theorem fillFields_cons {name : String} {value : Json} {members : List (String × Json)} {fields : List (Member ρ)}
    (h : name ∉ fields.map Member.name) : fillFields ((name, value) :: members) fields = fillFields members fields := by
  induction fields with
  | nil => rfl
  | cons field fields ih =>
      rw [List.map_cons, List.mem_cons, not_or] at h
      rw [fillFields, fillFields, ih h.2, List.lookup_cons, beq_false_of_ne (Ne.symm h.1)]

/-- The values of the fields are filled in from what is found of them. -/
theorem Fields.fill {R : Shape ρ → Json → Json → Prop} {fields : List (Member ρ)} {members found : List (String × Json)}
    {normals : List Json} (h : Fields R fields members found normals) (hn : (fields.map Member.name).Nodup) :
    fillFields found fields = .ok normals := by
  induction h with
  | nil => rfl
  | present _ _ _ ih =>
      obtain ⟨hf, hn⟩ := List.nodup_cons.mp hn
      rw [fillFields, fillFields_cons hf, ih hn]
      simp [Except.map]
  | null _ _ ih =>
      obtain ⟨hf, hn⟩ := List.nodup_cons.mp hn
      rw [fillFields, fillFields_cons hf, ih hn]
      simp [Except.map]
  | @absent field fields normal members found normals ha rest ih =>
      obtain ⟨hf, hn⟩ := List.nodup_cons.mp hn
      have none : found.lookup field.name = none := by
        rw [List.lookup_eq_none_iff]
        intro m hm
        have : m.1 ∈ fields.map Member.name :=
          rest.names_members.subset (rest.names_found ▸ List.mem_map_of_mem hm)
        exact bne_iff_ne.mpr fun heq => hf (heq ▸ this)
      rw [fillFields, ih hn, ha, none]
      rfl

/-! ## The numbers of what is written -/

theorem Written.ne_null {schema : Schema ρ} {shape : Shape ρ} {json normal : Json}
    (h : Written schema shape json normal) : json ≠ .null := by
  cases h <;> exact Json.noConfusion

theorem Written.normal_ne_null {schema : Schema ρ} {shape : Shape ρ} {json normal : Json}
    (h : Written schema shape json normal) : normal ≠ .null := by
  cases h <;> exact Json.noConfusion

theorem Width.max_le (width : Width) : width.max ≤ Reader.maxInteger := by
  cases width <;> decide

theorem Fields.whole {schema : Schema ρ} {fields : List (Member ρ)} {members found : List (String × Json)}
    {normals : List Json} (h : Fields (Written schema) fields members found normals)
    (hw : ∀ m ∈ members, ∀ shape normal, Written schema shape m.2 normal → Whole m.2) : WholeMembers members :=
  wholeMembers_iff.mpr (h.forall_mem trivial hw)

/-- What is written by a shape has whole numbers only. -/
theorem Written.whole {schema : Schema ρ} {shape : Shape ρ} {json normal : Json}
    (h : Written schema shape json normal) : Whole json := by
  -- induction on the depth: what a list or an object holds is less deep
  induction hd : json.depth using Nat.strongRecOn generalizing shape json normal with
  | ind n ih =>
  have items : ∀ {xs : List Json}, depthItems xs < n →
      ∀ x ∈ xs, ∀ shape normal, Written schema shape x normal → Whole x :=
    fun hn x hx _ _ hw => ih _ (Nat.lt_of_le_of_lt (depth_le_of_mem_items hx) hn) hw rfl
  have members : ∀ {ms : List (String × Json)}, depthMembers ms < n →
      ∀ m ∈ ms, ∀ shape normal, Written schema shape m.2 normal → Whole m.2 :=
    fun hn m hm _ _ hw => ih _ (Nat.lt_of_le_of_lt (depth_le_of_mem_members hm) hn) hw rfl
  cases h with
  | text s => trivial
  | flag b => trivial
  | @number width n h => exact Nat.le_trans h (Width.max_le width)
  | choice h => trivial
  | list hl h =>
      refine wholeItems_iff.mpr fun x hx => ?_
      rw [← List.map_fst_zip (Nat.le_of_eq hl), List.mem_map] at hx
      obtain ⟨⟨x, normal⟩, hp, rfl⟩ := hx
      exact items (hd ▸ Nat.lt_succ_self _) x (List.of_mem_zip hp).1 _ normal (h hp)
  | @pair first second a b m n' ha hb =>
      have hall := @items [a, b] (hd ▸ Nat.lt_succ_self _)
      exact ⟨hall a (by simp) _ _ ha, hall b (by simp) _ _ hb, trivial⟩
  | record h => exact h.whole (members (by rw [← hd]; exact Nat.lt_succ_self _))
  | tagged hv ht h =>
      refine ⟨trivial, h.whole (members ?_)⟩
      rw [← hd, depth, depthMembers]
      exact Nat.lt_succ_of_le (Nat.le_max_right ..)

/-! ## Values read before -/

theorem find?_field {fields : List (Member ρ)} (hn : (fields.map Member.name).Nodup) {field : Member ρ}
    (h : field ∈ fields) : fields.find? (·.name == field.name) = some field := by
  induction fields with
  | nil => cases h
  | cons first fields ih =>
      obtain ⟨hf, hn⟩ := List.nodup_cons.mp hn
      rw [List.find?_cons]
      rcases List.mem_cons.mp h with rfl | h
      · rw [beq_self_eq_true]
      · rw [beq_false_of_ne fun heq : first.name = field.name => hf (heq ▸ List.mem_map_of_mem h)]
        exact ih hn h

/-- How the value of a field is fitted: a null that the field allows stays as it is. -/
def fitField (fitValue : Shape ρ → Json → Except Reason Json) (field : Member ρ) (value : Json) : Except Reason Json :=
  match field.nullable, value with
  | true, .null => .ok .null
  | _, value => fitValue field.shape value

theorem fitField_of_ne_null {fitValue : Shape ρ → Json → Except Reason Json} {value : Json} (h : value ≠ .null)
    (field : Member ρ) : fitField fitValue field value = fitValue field.shape value := by
  unfold fitField
  split
  · exact absurd rfl h
  · rfl

/-- None of the names that have been seen is the name of a field that may follow. -/
def Unseen (seen : List String) (fields : List (Member ρ)) : Prop := ∀ name ∈ seen, name ∉ fields.map Member.name

section Unseen
variable {seen : List String} {field : Member ρ} {fields : List (Member ρ)}

theorem Unseen.head (h : Unseen seen (field :: fields)) : seen.contains field.name = false := by
  rw [Bool.eq_false_iff, ne_eq, List.contains_iff_mem]
  exact fun hm => h _ hm List.mem_cons_self

theorem Unseen.tail (h : Unseen seen (field :: fields)) : Unseen seen fields :=
  fun name hm hf => h name hm (List.mem_cons_of_mem _ hf)

theorem Unseen.see (h : Unseen seen (field :: fields)) (hf : field.name ∉ fields.map Member.name) :
    Unseen (field.name :: seen) fields := List.forall_mem_cons.mpr ⟨hf, h.tail⟩

end Unseen

/-- The members of an object are found in order when each of them is fitted. -/
theorem Fields.fitMembers {fitValue : Shape ρ → Json → Except Reason Json} {all fields : List (Member ρ)}
    {members found : List (String × Json)} {normals : List Json}
    (h : Fields (fun shape json normal => fitValue shape json = .ok normal) fields members found normals)
    (hall : (all.map Member.name).Nodup) (hsub : ∀ field ∈ fields, field ∈ all) (hn : (fields.map Member.name).Nodup)
    {seen : List String} (hseen : Unseen seen fields) :
    fitMembers (fitField fitValue) all seen members = .ok found := by
  induction h generalizing seen with
  | nil => rfl
  | @present field fields value normal members found normals hv hr _ ih =>
      obtain ⟨hf, hn⟩ := List.nodup_cons.mp hn
      obtain ⟨hin, hsub⟩ := List.forall_mem_cons.mp hsub
      rw [Json.fitMembers, find?_field hall hin]
      simp only [hseen.head, fitField_of_ne_null hv, hr, ih hsub hn (hseen.see hf)]
      rfl
  | @null field fields members found normals hnull _ ih =>
      obtain ⟨hf, hn⟩ := List.nodup_cons.mp hn
      obtain ⟨hin, hsub⟩ := List.forall_mem_cons.mp hsub
      have here : fitField fitValue field .null = .ok .null := by
        simp only [fitField, hnull]
      rw [Json.fitMembers, find?_field hall hin]
      simp only [hseen.head, here, ih hsub hn (hseen.see hf)]
      rfl
  | absent ha _ ih =>
      exact ih (List.forall_mem_cons.mp hsub).2 (List.nodup_cons.mp hn).2 hseen.tail

theorem fitRecord_written {schema : Schema ρ} (hs : schema.Apart) {fitValue : Shape ρ → Json → Except Reason Json}
    {r : ρ} {members found : List (String × Json)} {normals : List Json}
    (h : Fields (fun shape json normal => fitValue shape json = .ok normal) (schema.fields r) members found normals) :
    fit.fitRecord schema fitValue r (.obj members) = .ok (.arr normals) := by
  have hm := h.fitMembers (hs r) (fun _ hf => hf) (hs r) (List.forall_mem_nil _)
  show (do
    let members ← Json.fitMembers (fitField fitValue) (schema.fields r) [] members
    return Json.arr (← fillFields members (schema.fields r))) = _
  rw [hm]
  show (do return Json.arr (← fillFields found (schema.fields r))) = _
  rw [h.fill (hs r)]
  rfl

theorem mapM_fit {schema : Schema ρ} {levels : Nat} {shape : Shape ρ} {items normals : List Json}
    (h : List.Forall₂ (fun item normal => fit schema levels shape item = .ok normal) items normals) :
    items.mapM (fit schema levels shape) = .ok normals := by
  induction h with
  | nil => rfl
  | cons hx _ ih =>
      rw [List.mapM_cons, hx, ih]
      rfl

theorem checkName_of_mem {names : List String} {name : String} (h : name ∈ names) :
    checkName names name = .ok (.str name) :=
  if_pos (List.contains_iff_mem.mpr h)

/-- The tag of a union comes first and no other member has its name. -/
theorem Fields.filter_tag {R : Shape ρ → Json → Json → Prop} {fields : List (Member ρ)}
    {members found : List (String × Json)} {normals : List Json} (h : Fields R fields members found normals)
    {tag : String} (ht : tag ∉ fields.map Member.name) (variant : Json) :
    ((tag, variant) :: members).filter (·.1 != tag) = members := by
  rw [List.filter_cons_of_neg (by simp), List.filter_eq_self]
  intro m hm
  exact bne_iff_ne.mpr fun heq => ht (heq ▸ h.names_members.subset (List.mem_map_of_mem hm))

/-- A value that has been read before is fitted to its normal form. -/
theorem fit_written {schema : Schema ρ} (hs : schema.Apart) {shape : Shape ρ} {json normal : Json}
    (h : Written schema shape json normal) {levels : Nat} (hl : json.depth ≤ levels) :
    fit schema levels shape json = .ok normal := by
  induction levels generalizing shape json normal with
  | zero =>
      cases h with
      | text s => rfl
      | flag b => rfl
      | number h => exact if_pos h
      | choice h => rw [fit, checkName_of_mem h]
      | list hl' h => exact absurd hl (Nat.not_succ_le_zero _)
      | pair ha hb => exact absurd hl (Nat.not_succ_le_zero _)
      | record h => exact absurd hl (Nat.not_succ_le_zero _)
      | tagged hv ht h => exact absurd hl (Nat.not_succ_le_zero _)
  | succ levels ih =>
      have items : ∀ {xs : List Json}, depthItems xs ≤ levels → ∀ x ∈ xs, ∀ {shape normal},
          Written schema shape x normal → fit schema levels shape x = .ok normal :=
        fun hn x hx _ _ hw => ih hw (Nat.le_trans (depth_le_of_mem_items hx) hn)
      have members : ∀ {ms : List (String × Json)}, depthMembers ms ≤ levels → ∀ m ∈ ms, ∀ shape normal,
          Written schema shape m.2 normal → fit schema levels shape m.2 = .ok normal :=
        fun hn m hm _ _ hw => ih hw (Nat.le_trans (depth_le_of_mem_members hm) hn)
      cases h with
      | text s => rfl
      | flag b => rfl
      | number h => exact if_pos h
      | choice h => rw [fit, checkName_of_mem h]
      | list hl' h =>
          have read := mapM_fit (List.forall₂_iff_zip.mpr ⟨hl', fun hp =>
            items (Nat.le_of_succ_le_succ hl) _ (List.of_mem_zip hp).1 (h hp)⟩)
          rw [fit, read]
          rfl
      | @pair first second a b m n ha hb =>
          have read := @items [a, b] (Nat.le_of_succ_le_succ hl)
          rw [fit, read a (by simp) ha, read b (by simp) hb]
          rfl
      | record h =>
          rw [fit]
          exact fitRecord_written hs (h.imp (members (Nat.le_of_succ_le_succ hl)))
      | @tagged name tag variants variant r ms found normals hv ht h =>
          have deep : depthMembers ms ≤ levels := by
            rw [depth, depthMembers] at hl
            exact Nat.le_trans (Nat.le_max_right ..) (Nat.le_of_succ_le_succ hl)
          rw [fit]
          simp only [List.lookup_cons_self, hv, h.filter_tag ht, fitRecord_written hs (h.imp (members deep))]
          rfl

end Folio.Json
