import GuestSandbox.Json.Record

namespace GuestSandbox.Json

variable {α : Type}

theorem lookup_field (name other : String) (value : α) (rest : List (String × α)) :
    ((name, value) :: rest).lookup other = if other = name then some value else rest.lookup other := by
  by_cases same : other = name
  · simp [same]
  · rw [List.lookup_cons, beq_eq_false_iff_ne.mpr same, if_neg same]

theorem lookup_insertField (name : String) (value : α) (fields : List (String × α)) (other : String) :
    (insertField name value fields).lookup other = if other = name then some value else fields.lookup other := by
  induction fields with
  | nil => exact lookup_field name other value []
  | cons field rest ih =>
    obtain ⟨first, old⟩ := field
    unfold insertField
    split
    · exact lookup_field name other value _
    · split
      · rename_i here
        subst here
        simp only [lookup_field]
        split <;> rfl
      · rename_i distinct
        simp only [lookup_field, ih]
        by_cases same : other = name
        · simp [same, distinct]
        · simp [same]

theorem lookup_foldl_insertField (fields done : List (String × α)) (name : String) :
    (fields.foldl (fun done field => insertField field.1 field.2 done) done).lookup name =
      (fields.reverse ++ done).lookup name := by
  induction fields generalizing done with
  | nil => rfl
  | cons field rest ih =>
    obtain ⟨first, value⟩ := field
    rw [List.foldl_cons, ih, List.reverse_cons, List.append_assoc, List.lookup_append, List.lookup_append,
      lookup_insertField, List.singleton_append, lookup_field]

theorem lookup_sortFields (fields : List (String × α)) (name : String) :
    (sortFields fields).lookup name = fields.reverse.lookup name := by
  rw [sortFields, lookup_foldl_insertField, List.append_nil]

-- Where names do not occur twice, each field is found under its name, in whatever order the fields are.
theorem lookup_of_mem {fields : List (String × α)} {name : String} {value : α}
    (distinct : (fields.map Prod.fst).Nodup) (member : (name, value) ∈ fields) : fields.lookup name = some value := by
  induction fields with
  | nil => cases member
  | cons field rest ih =>
    obtain ⟨first, old⟩ := field
    obtain ⟨absent, distinct⟩ := List.nodup_cons.mp distinct
    rw [lookup_field]
    rcases List.mem_cons.mp member with same | later
    · cases same
      exact if_pos rfl
    · have other : name ≠ first := fun same => absent (List.mem_map.mpr ⟨(name, value), later, same⟩)
      rw [if_neg other]
      exact ih distinct later

theorem lookup_sortFields_of_mem {fields : List (String × α)} {name : String} {value : α}
    (distinct : (fields.map Prod.fst).Nodup) (member : (name, value) ∈ fields) :
    (sortFields fields).lookup name = some value := by
  rw [lookup_sortFields]
  refine lookup_of_mem ?_ (List.mem_reverse.mpr member)
  rwa [List.map_reverse, (List.reverse_perm _).nodup_iff]

theorem insertField_perm {name : String} (value : α) {fields : List (String × α)} (absent : name ∉ fields.map Prod.fst) :
    (insertField name value fields).Perm ((name, value) :: fields) := by
  induction fields with
  | nil => exact .refl _
  | cons field rest ih =>
    obtain ⟨first, old⟩ := field
    have other : name ≠ first := fun same => absent (by simp [same])
    have later : name ∉ rest.map Prod.fst := fun here => absent (List.mem_cons_of_mem _ here)
    unfold insertField
    rw [if_neg other]
    split
    · exact .refl _
    · exact ((ih later).cons _).trans (.swap _ _ _)

-- Fields with different names are all kept when they are put in order.
theorem sortFields_perm {fields : List (String × α)} (distinct : (fields.map Prod.fst).Nodup) :
    (sortFields fields).Perm fields := by
  have keeps : ∀ done : List (String × α), ((fields ++ done).map Prod.fst).Nodup →
      (fields.foldl (fun done field => insertField field.1 field.2 done) done).Perm (fields ++ done) := by
    induction fields with
    | nil => exact fun done _ => .refl done
    | cons field rest ih =>
      intro done apart
      obtain ⟨absent, apart⟩ := List.nodup_cons.mp apart
      have new : field.1 ∉ done.map Prod.fst := fun here => absent (by simp [here])
      have inserted : (rest ++ insertField field.1 field.2 done).Perm (field :: (rest ++ done)) :=
        ((insertField_perm field.2 new).append_left rest).trans List.perm_middle
      refine (ih (List.nodup_cons.mp distinct).2 _ ?_).trans inserted
      rw [(inserted.map Prod.fst).nodup_iff]
      exact List.nodup_cons.mpr ⟨absent, apart⟩
  have kept := keeps [] (by rwa [List.append_nil])
  rwa [List.append_nil] at kept

theorem Ordered.nodup {fields : List (String × α)} (ordered : Ordered fields) : fields.Nodup :=
  List.Pairwise.imp (fun less same => String.ne_of_lt less (congrArg Prod.fst same)) ordered

theorem Ordered.names_nodup {fields : List (String × α)} (ordered : Ordered fields) : (fields.map Prod.fst).Nodup :=
  List.pairwise_map.mpr (ordered.imp fun less => String.ne_of_lt less)

-- Fields in order are the ones that are found.
theorem Ordered.mem_iff {fields : List (String × α)} (ordered : Ordered fields) {name : String} {value : α} :
    (name, value) ∈ fields ↔ fields.lookup name = some value := by
  constructor
  · exact lookup_of_mem ordered.names_nodup
  · intro found
    obtain ⟨front, back, split, _⟩ := List.lookup_eq_some_iff.mp found
    simp [split]

theorem Ordered.ext {one other : List (String × α)} (ordered : Ordered one) (orderedToo : Ordered other)
    (same : ∀ name, one.lookup name = other.lookup name) : one = other := by
  have members (field : String × α) : field ∈ one ↔ field ∈ other := by
    rw [ordered.mem_iff, orderedToo.mem_iff, same]
  have perm := (List.perm_ext_iff_of_nodup ordered.nodup orderedToo.nodup).mpr members
  exact perm.eq_of_pairwise (fun _ _ _ _ less more => absurd more (String.lt_asymm less)) ordered orderedToo

end GuestSandbox.Json
