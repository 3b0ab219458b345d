import GuestSandbox.Package.Record

-- Finding a spec among sorted records by halving. The same search says where a record of a new spec belongs.

namespace GuestSandbox

inductive Place where
  | taken (index : Nat)
  | free (index : Nat)
deriving Repr, DecidableEq

namespace Place

-- Halves `size` records from `base` on until one is left: the last whose spec is not greater, or the first of all.
def narrow (records : List PackageRecord) (spec : String) (base size : Nat) : Nat :=
  if 1 < size then
    let middle := base + size / 2
    narrow records spec (if records[middle]?.any (spec < ·.spec) then base else middle) (size - size / 2)
  else base
  termination_by size

def find (records : List PackageRecord) (spec : String) : Place :=
  let base := narrow records spec 0 records.length
  match records[base]? with
  | none => .free 0
  | some record =>
    if record.spec = spec then .taken base
    else if record.spec < spec then .free (base + 1)
    else .free base

inductive Marks (records : List PackageRecord) (spec : String) : Place → Prop where
  | taken {front back : List PackageRecord} {record : PackageRecord} (split : records = front ++ record :: back)
      (same : record.spec = spec) : Marks records spec (.taken front.length)
  | free {front back : List PackageRecord} (split : records = front ++ back)
      (less : ∀ record ∈ front, record.spec < spec) (greater : ∀ record ∈ back, spec < record.spec) :
      Marks records spec (.free front.length)

variable {records : List PackageRecord} {spec : String} {record : PackageRecord} {index : Nat}

theorem split_of_getElem? (there : records[index]? = some record) :
    records = records.take index ++ record :: records.drop (index + 1) := by
  obtain ⟨inside, rfl⟩ := List.getElem?_eq_some_iff.mp there
  rw [← List.drop_eq_getElem_cons inside, List.take_append_drop]

theorem greater_from (sorted : SortedBySpec records) (there : records[index]? = some record)
    (greater : spec < record.spec) : ∀ other ∈ records.drop index, spec < other.spec := by
  obtain ⟨inside, rfl⟩ := List.getElem?_eq_some_iff.mp there
  have behind := List.Pairwise.drop (i := index) sorted
  rw [List.drop_eq_getElem_cons inside] at behind ⊢
  intro other member
  rcases List.mem_cons.mp member with rfl | later
  · exact greater
  · exact String.lt_trans greater ((List.pairwise_cons.mp behind).1 other later)

theorem less_before (sorted : SortedBySpec records) (there : records[index]? = some record) :
    ∀ other ∈ records.take index, other.spec < record.spec := by
  rw [SortedBySpec, split_of_getElem? there, List.pairwise_append] at sorted
  exact fun other member => sorted.2.2 other member record List.mem_cons_self

-- What halving keeps: behind the window every spec is greater, and at its beginning none, unless all records are ahead.
structure Window (records : List PackageRecord) (spec : String) (base size : Nat) : Prop where
  inside : base + size ≤ records.length
  filled : 0 < size
  begins : base = 0 ∨ ∃ record, records[base]? = some record ∧ ¬spec < record.spec
  behind : ∀ record ∈ records.drop (base + size), spec < record.spec

theorem Window.halve {base size : Nat} (sorted : SortedBySpec records) (window : Window records spec base size)
    (more : 1 < size) : Window records spec
      (if records[base + size / 2]?.any (spec < ·.spec) then base else base + size / 2) (size - size / 2) := by
  obtain ⟨inside, filled, begins, behind⟩ := window
  have there : records[base + size / 2]? = some records[base + size / 2] := List.getElem?_eq_getElem (by omega)
  rw [there, Option.any_some]
  by_cases greater : spec < records[base + size / 2].spec
  · simp only [greater, decide_true, if_true]
    refine ⟨by omega, by omega, begins, fun record member => ?_⟩
    exact greater_from sorted there greater record (List.drop_subset_drop_left _ (by omega) member)
  · simp only [greater, decide_false, Bool.false_eq_true, if_false]
    refine ⟨by omega, by omega, .inr ⟨_, there, greater⟩, ?_⟩
    rwa [show base + size / 2 + (size - size / 2) = base + size by omega]

theorem narrow_window {base size : Nat} (sorted : SortedBySpec records) (window : Window records spec base size) :
    Window records spec (narrow records spec base size) 1 := by
  fun_induction narrow records spec base size with
  | case1 base size more middle ih => exact ih (window.halve sorted more)
  | case2 base size last =>
    obtain rfl : size = 1 := by
      have filled := window.filled
      omega
    exact window

theorem Marks.free_at (inside : index ≤ records.length) (less : ∀ record ∈ records.take index, record.spec < spec)
    (greater : ∀ record ∈ records.drop index, spec < record.spec) : Marks records spec (.free index) := by
  have marks : Marks records spec (.free (records.take index).length) :=
    .free (List.take_append_drop index records).symm less greater
  rwa [List.length_take_of_le inside] at marks

theorem Marks.taken_at (there : records[index]? = some record) (same : record.spec = spec) :
    Marks records spec (.taken index) := by
  obtain ⟨inside, _⟩ := List.getElem?_eq_some_iff.mp there
  have marks : Marks records spec (.taken (records.take index).length) := .taken (split_of_getElem? there) same
  rwa [List.length_take_of_le (by omega)] at marks

theorem find_marks (sorted : SortedBySpec records) (spec : String) : Marks records spec (find records spec) := by
  unfold find
  by_cases empty : records = []
  · subst empty
    exact .free_at (Nat.zero_le 0) nofun nofun
  have filled : 0 < records.length := List.length_pos_iff.mpr empty
  have whole : Window records spec 0 records.length := ⟨Nat.le_of_eq (Nat.zero_add _), filled, .inl rfl, by simp⟩
  obtain ⟨inside, _, begins, behind⟩ := narrow_window sorted whole
  generalize narrow records spec 0 records.length = base at *
  have there : records[base]? = some records[base] := List.getElem?_eq_getElem inside
  simp only [there]
  split
  · rename_i same
    exact .taken_at there same
  · rename_i distinct
    split
    · rename_i less
      refine .free_at inside (fun record member => ?_) behind
      rw [List.take_succ_eq_append_getElem inside, List.mem_append, List.mem_singleton] at member
      rcases member with earlier | rfl
      · exact String.lt_trans (less_before sorted there record earlier) less
      · exact less
    · rename_i notLess
      have greater : spec < records[base].spec := by
        rcases Std.lt_trichotomy records[base].spec spec with less | same | more
        · exact absurd less notLess
        · exact absurd same distinct
        · exact more
      rcases begins with rfl | ⟨record, found, notGreater⟩
      · exact .free_at (Nat.zero_le _) nofun (greater_from sorted there greater)
      · -- The window begins with the record that is left, and its spec is not greater.
        rw [there] at found
        cases found
        exact absurd greater notGreater

theorem insertIdx_length_append (front back : List PackageRecord) (record : PackageRecord) :
    (front ++ back).insertIdx front.length record = front ++ record :: back := by
  induction front with
  | nil => rfl
  | cons first front ih => simp [ih]

theorem Marks.insertIdx_sorted (sorted : SortedBySpec records) (marks : Marks records record.spec (.free index)) :
    SortedBySpec (records.insertIdx index record) := by
  cases marks with
  | @free front back split less greater =>
    subst split
    obtain ⟨before, behind, across⟩ := List.pairwise_append.mp sorted
    rw [insertIdx_length_append]
    refine List.pairwise_append.mpr ⟨before, List.pairwise_cons.mpr ⟨greater, behind⟩, ?_⟩
    intro one member other later
    rcases List.mem_cons.mp later with rfl | later
    · exact less one member
    · exact across one member other later

end Place

end GuestSandbox
