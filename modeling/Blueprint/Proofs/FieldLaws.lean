import Blueprint.Fields
import Mathlib.Data.List.Induction
import Mathlib.Data.List.Nodup

/-!
Setting fields. A name that is not there is added at the end; and fields that are built from entries
have the names of the entries, each once, with the content that was set for it last.
-/
set_option autoImplicit false

namespace Blueprint.Fields

variable {α : Type} {entries : List (String × α)}

/-! ## Names that are not there -/

theorem insert_fresh {fields : Fields α} {name : String} (fresh : name ∉ fields.names)
    (content : α) : insert name content fields = fields ++ [(name, content)] := by
  induction fields with
  | nil => rfl
  | cons first fields ih =>
    obtain ⟨key, old⟩ := first
    simp only [Fields.names, List.map_cons, List.mem_cons, not_or] at fresh
    rw [insert, if_neg (by simpa using Ne.symm fresh.1), ih fresh.2, List.cons_append]

theorem get?_fresh {fields : Fields α} {name : String} (fresh : name ∉ fields.names) :
    fields.get? name = none := by
  induction fields with
  | nil => rfl
  | cons first fields ih =>
    obtain ⟨key, content⟩ := first
    simp only [Fields.names, List.map_cons, List.mem_cons, not_or] at fresh
    rw [get?, if_neg (by simpa using Ne.symm fresh.1)]
    exact ih fresh.2

theorem erase_fresh {fields : Fields α} {name : String} (fresh : name ∉ fields.names) :
    fields.erase name = fields := by
  refine List.filter_eq_self.mpr fun field member => ?_
  rw [bne_iff_ne]
  exact fun same => fresh (List.mem_map.mpr ⟨field, member, same⟩)

/-! ## Setting a name -/

theorem names_insert (name : String) (content : α) (fields : Fields α) :
    (insert name content fields).names =
      if name ∈ fields.names then fields.names else fields.names ++ [name] := by
  induction fields with
  | nil => rfl
  | cons field fields ih =>
    obtain ⟨key, old⟩ := field
    simp only [names] at ih
    by_cases same : key = name
    · simp [insert, names, same]
    · by_cases later : name ∈ fields.map Prod.fst
      · simp [insert, names, same, ih, later]
      · simp [insert, names, same, Ne.symm same, ih, later]

theorem get?_insert (key name : String) (content : α) (fields : Fields α) :
    (insert name content fields).get? key = if name = key then some content else fields.get? key := by
  induction fields with
  | nil => simp [insert, get?]
  | cons field fields ih =>
    obtain ⟨other, old⟩ := field
    by_cases same : other = name
    · subst same
      by_cases asked : other = key <;> simp [insert, get?, asked]
    · by_cases asked : other = key
      · subst asked
        simp [insert, get?, same, Ne.symm same]
      · simp [insert, get?, same, asked, ih]

/-! ## Setting one name after another -/

theorem ofList_concat (entries : List (String × α)) (entry : String × α) :
    ofList (entries ++ [entry]) = insert entry.1 entry.2 (ofList entries) := by
  rw [ofList, List.foldl_append]
  rfl

theorem mem_names_ofList {name : String} :
    name ∈ (ofList entries).names ↔ name ∈ entries.map Prod.fst := by
  induction entries using List.reverseRecOn with
  | nil => simp [ofList, names]
  | append_singleton entries entry ih =>
    rw [ofList_concat, names_insert, List.map_append, List.mem_append, ← ih]
    split
    · next known =>
      refine ⟨.inl, ?_⟩
      rintro (member | member)
      · exact member
      · exact List.mem_singleton.mp member ▸ known
    · rw [List.mem_append]
      rfl

theorem nodup_names_ofList (entries : List (String × α)) : (ofList entries).names.Nodup := by
  induction entries using List.reverseRecOn with
  | nil => exact List.nodup_nil
  | append_singleton entries entry ih =>
    rw [ofList_concat, names_insert]
    split
    · exact ih
    · next fresh =>
      rw [← List.concat_eq_append]
      exact ih.concat fresh

theorem ofList_distinct (distinct : (entries.map Prod.fst).Nodup) : ofList entries = entries := by
  induction entries using List.reverseRecOn with
  | nil => rfl
  | append_singleton entries entry ih =>
    rw [List.map_append, List.nodup_append] at distinct
    have fresh : entry.1 ∉ names entries := fun member =>
      distinct.2.2 entry.1 member entry.1 (by simp) rfl
    rw [ofList_concat, ih distinct.1, insert_fresh fresh]

/-- There are as many fields as distinct names. -/
theorem length_ofList {distinct : List String} (nodup : distinct.Nodup)
    (same : ∀ name, name ∈ entries.map Prod.fst ↔ name ∈ distinct) :
    (ofList entries).length = distinct.length := by
  have permuted := (List.perm_ext_iff_of_nodup (nodup_names_ofList entries) nodup).mpr
    fun name => mem_names_ofList.trans (same name)
  rw [← permuted.length_eq, names, List.length_map]

/-- A name for which one content only is set has it. -/
theorem get?_ofList {name : String} {content : α} (member : (name, content) ∈ entries)
    (only : ∀ entry ∈ entries, entry.1 = name → entry.2 = content) :
    (ofList entries).get? name = some content := by
  induction entries using List.reverseRecOn with
  | nil => contradiction
  | append_singleton entries entry ih =>
    rw [ofList_concat, get?_insert]
    split
    · next same => rw [only entry (by simp) same]
    · next differs =>
      refine ih ?_ fun other earlier => only other (List.mem_append_left _ earlier)
      rcases List.mem_append.mp member with earlier | last
      · exact earlier
      · exact absurd (congrArg Prod.fst (List.mem_singleton.mp last)).symm differs

/-- The content that is set last stays. -/
theorem get?_ofList_last {before after : List (String × α)} {name : String} {content : α}
    (last : name ∉ after.map Prod.fst) :
    (ofList (before ++ (name, content) :: after)).get? name = some content := by
  induction after using List.reverseRecOn with
  | nil => rw [ofList_concat, get?_insert, if_pos rfl]
  | append_singleton after entry ih =>
    rw [List.map_append, List.mem_append, not_or] at last
    have differs : entry.1 ≠ name := fun same => last.2 (by simp [same])
    rw [← List.cons_append, ← List.append_assoc, ofList_concat, get?_insert, if_neg differs]
    exact ih last.1

end Blueprint.Fields
