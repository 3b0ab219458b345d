import GuestSandbox.Module.Loading
import Mathlib.Algebra.GroupWithZero.Nat
import Mathlib.Logic.Relation

namespace GuestSandbox.Library

open Relation

-- Modules in the order in which they were stored. The last one stored is found first, as after insertions.
def extended (library : Library) (stored : List (String × String)) : Library :=
  { library with
    sources := stored.reverse ++ library.sources
    totalBytes := library.totalBytes + (stored.map fun pair => pair.2.utf8ByteSize).sum }

def names (stored : List (String × String)) : List String := stored.map Prod.fst

-- A stored module imports a URL. Whether there is a module under that URL is another matter.
def Links (library : Library) (name : String) (url : Url) : Prop :=
  ∃ source specifier, library.source? name = some source ∧ specifier ∈ Imports.specifiers source ∧
    Specifier.target library.host (some name) specifier = .ok (.hosted url)

def Leads (library : Library) (name next : String) : Prop :=
  ∃ url, library.Links name url ∧ url.text = next ∧ library.contains next = true

def Discovers (before after : Library) (name next : String) : Prop :=
  ∃ url, after.Links name url ∧ url.text = next ∧ before.contains next = false

@[simp] theorem extended_nil (library : Library) : library.extended [] = library := by
  simp [extended]

@[simp] theorem extended_cons (library : Library) (first : String × String) (stored : List (String × String)) :
    (library.extended [first]).extended stored = library.extended (first :: stored) := by
  simp [extended, Nat.add_assoc]

theorem contains_iff {library : Library} {name : String} :
    library.contains name = true ↔ name ∈ names library.sources := by
  simp only [contains, source?, names, List.lookup_isSome_iff, beq_iff_eq, List.mem_map]
  constructor
  · rintro ⟨pair, there, same⟩
    exact ⟨pair, there, same.symm⟩
  · rintro ⟨pair, there, same⟩
    exact ⟨pair, there, same.symm⟩

@[simp] theorem contains_extended {library : Library} {stored : List (String × String)} {name : String} :
    (library.extended stored).contains name = true ↔ name ∈ names stored ∨ library.contains name = true := by
  simp [contains_iff, extended, names]

theorem source?_of_contains {library : Library} {name : String} (there : library.contains name = true) :
    ∃ source, library.source? name = some source := Option.isSome_iff_exists.mp there

theorem contains_of_source? {library : Library} {name source : String} (found : library.source? name = some source) :
    library.contains name = true := by
  simp [contains, found]

theorem insert_eq_extended {library larger : Library} {name source : String} {policy : Policy}
    (absent : library.contains name = false) (inserted : insert name source policy library = .ok () larger) :
    larger = library.extended [(name, source)] := by
  have step := insert_cases name source policy library
  rw [inserted] at step
  cases step with
  | present there => simp [there] at absent
  | added => simp [extended]

structure Gains (before after : Library) (stored : List (String × String)) : Prop where
  whole : after = before.extended stored
  fresh : ∀ name ∈ names stored, before.contains name = false
  distinct : (names stored).Nodup

namespace Gains

variable {before after : Library} {stored : List (String × String)} {name source : String}

theorem refl (library : Library) : Gains library library [] :=
  ⟨library.extended_nil.symm, nofun, List.nodup_nil⟩

theorem cons (absent : before.contains name = false) (gains : Gains (before.extended [(name, source)]) after stored) :
    Gains before after ((name, source) :: stored) := by
  have unlisted : ∀ other ∈ names stored, ¬(other = name ∨ before.contains other = true) := by
    intro other member there
    have fresh := gains.fresh other member
    rw [Bool.eq_false_iff] at fresh
    exact fresh (contains_extended.mpr (by simpa [names] using there))
  refine ⟨?_, ?_, ?_⟩
  · rw [gains.whole, extended_cons]
  · intro other member
    rcases List.mem_cons.mp member with rfl | later
    · exact absent
    · exact Bool.eq_false_iff.mpr fun there => unlisted other later (.inr there)
  · exact List.nodup_cons.mpr ⟨fun member => unlisted name member (.inl rfl), gains.distinct⟩

theorem host (gains : Gains before after stored) : after.host = before.host := by
  rw [gains.whole]
  rfl

theorem contains (gains : Gains before after stored) :
    after.contains name = true ↔ name ∈ names stored ∨ before.contains name = true := by
  rw [gains.whole]
  exact contains_extended

theorem contains_mono (gains : Gains before after stored) (there : before.contains name = true) :
    after.contains name = true := gains.contains.mpr (.inr there)

theorem source?_kept (gains : Gains before after stored) (there : before.contains name = true) :
    after.source? name = before.source? name := by
  have unlisted : stored.reverse.lookup name = none := by
    rw [List.lookup_eq_none_iff]
    intro pair member
    have fresh := gains.fresh pair.1 (List.mem_map_of_mem (List.mem_reverse.mp member))
    rw [bne_iff_ne]
    rintro rfl
    rw [there] at fresh
    cases fresh
  rw [gains.whole, source?, extended, List.lookup_append, unlisted, Option.none_or]
  rfl

theorem source?_new (gains : Gains before after stored) (member : (name, source) ∈ stored) :
    after.source? name = some source := by
  obtain ⟨earlier, later, rfl⟩ := List.append_of_mem member
  have distinct := gains.distinct
  have unlisted : later.reverse.lookup name = none := by
    rw [List.lookup_eq_none_iff]
    intro pair behind
    rw [bne_iff_ne]
    rintro rfl
    simp only [names, List.map_append, List.map_cons, List.nodup_append, List.nodup_cons] at distinct
    exact distinct.2.1.1 (List.mem_map_of_mem (List.mem_reverse.mp behind))
  rw [gains.whole, source?, extended]
  simp [List.lookup_append, unlisted]

theorem links_kept (gains : Gains before after stored) (there : before.contains name = true) {url : Url} :
    after.Links name url ↔ before.Links name url := by
  unfold Links
  rw [gains.source?_kept there, gains.host]

end Gains

end GuestSandbox.Library
