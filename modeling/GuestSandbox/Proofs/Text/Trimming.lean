import GuestSandbox.Text.Blank
import Mathlib.Data.List.DropRight

namespace GuestSandbox.Text

theorem dropBlankEnd_eq_rdropWhile (cs : List Char) : dropBlankEnd cs = cs.rdropWhile isBlank := rfl

theorem infix_trimChars (cs : List Char) : trimChars cs <:+: cs :=
  (List.rdropWhile_prefix isBlank _).isInfix.trans (List.dropWhile_suffix isBlank).isInfix

-- What stands before a character that is not blank has nothing to do with the blanks at the end.
theorem dropBlankEnd_append {c : Char} (solid : isBlank c = false) (before rest : List Char) :
    dropBlankEnd (before ++ c :: rest) = before ++ c :: dropBlankEnd rest := by
  unfold dropBlankEnd
  rw [List.reverse_append, List.reverse_cons, List.append_assoc, List.dropWhile_append]
  split
  · rename_i blank
    simp [solid, List.isEmpty_iff.mp blank]
  · simp

theorem dropBlankEnd_cons_of_solid {c : Char} (solid : isBlank c = false) (rest : List Char) :
    dropBlankEnd (c :: rest) = c :: dropBlankEnd rest := dropBlankEnd_append solid [] rest

theorem dropBlankEnd_cons_of_blank {c : Char} (blank : isBlank c = true) (rest : List Char) :
    dropBlankEnd (c :: rest) = [] ∧ dropBlankEnd rest = [] ∨ dropBlankEnd (c :: rest) = c :: dropBlankEnd rest := by
  unfold dropBlankEnd
  rw [List.reverse_cons, List.dropWhile_append]
  split
  · rename_i none
    exact .inl (by simp [blank, List.isEmpty_iff.mp none])
  · exact .inr (by simp)

theorem trimChars_cons_of_blank {c : Char} (blank : isBlank c = true) (rest : List Char) :
    trimChars (c :: rest) = trimChars rest := by
  rw [trimChars, List.dropWhile_cons_of_pos blank, trimChars]

theorem trimChars_cons_of_solid {c : Char} (solid : isBlank c = false) (rest : List Char) :
    trimChars (c :: rest) = dropBlankEnd (c :: rest) := by
  rw [trimChars, List.dropWhile_cons_of_neg (by simp [solid])]

theorem trimChars_of_solid {cs : List Char} (first : ∀ c ∈ cs.head?, isBlank c = false)
    (last : ∀ c ∈ cs.getLast?, isBlank c = false) : trimChars cs = cs := by
  have ends : dropBlankEnd cs = cs := by
    rw [dropBlankEnd_eq_rdropWhile, List.rdropWhile_eq_self_iff]
    intro filled
    rw [last _ (List.getLast?_eq_some_getLast filled)]
    exact Bool.false_ne_true
  cases cs with
  | nil => rfl
  | cons c rest => rw [trimChars_cons_of_solid (first c rfl), ends]

theorem trimChars_dropBlankEnd (cs : List Char) : trimChars (dropBlankEnd cs) = trimChars cs := by
  induction cs with
  | nil => rfl
  | cons c rest ih =>
    cases blank : isBlank c with
    | true =>
      rw [trimChars_cons_of_blank blank, ← ih]
      rcases dropBlankEnd_cons_of_blank blank rest with ⟨none, empty⟩ | kept
      · rw [none, empty]
      · rw [kept, trimChars_cons_of_blank blank]
    | false =>
      rw [trimChars_cons_of_solid blank, dropBlankEnd_cons_of_solid blank, trimChars_cons_of_solid blank,
        dropBlankEnd_cons_of_solid blank, dropBlankEnd_eq_rdropWhile, dropBlankEnd_eq_rdropWhile,
        List.rdropWhile_idempotent]

theorem trimChars_trimChars (cs : List Char) : trimChars (trimChars cs) = trimChars cs :=
  calc trimChars (trimChars cs)
    _ = trimChars (cs.dropWhile isBlank) := trimChars_dropBlankEnd _
    _ = trimChars cs := congrArg dropBlankEnd (List.dropWhile_idempotent isBlank cs)

-- What changes no character into a blank or back may come before or after the trimming.
theorem trimChars_map {f : Char → Char} (kept : ∀ c, isBlank (f c) = isBlank c) (cs : List Char) :
    trimChars (cs.map f) = (trimChars cs).map f := by
  have same : isBlank ∘ f = isBlank := funext kept
  unfold trimChars dropBlankEnd
  rw [List.dropWhile_map, ← List.map_reverse, List.dropWhile_map, ← List.map_reverse, same]

theorem trimChars_head_solid (cs : List Char) : ∀ c ∈ (trimChars cs).head?, isBlank c = false := by
  unfold trimChars
  cases dropped : cs.dropWhile isBlank with
  | nil => nofun
  | cons d rest =>
    have solid := List.head?_dropWhile_not isBlank cs
    rw [dropped] at solid
    rw [dropBlankEnd_cons_of_solid solid]
    rintro c ⟨⟩
    exact solid

theorem trimChars_last_solid (cs : List Char) : ∀ c ∈ (trimChars cs).getLast?, isBlank c = false := by
  intro c last
  rw [trimChars, dropBlankEnd_eq_rdropWhile] at last
  obtain ⟨filled, rfl⟩ := List.mem_getLast?_eq_getLast last
  simpa using List.rdropWhile_last_not isBlank _ filled

theorem infix_dropWhile {part text : List Char} (within : part <:+: text) (first : ∀ c ∈ part.head?, isBlank c = false) :
    part <:+: text.dropWhile isBlank := by
  cases part with
  | nil => exact List.nil_infix
  | cons c rest =>
    obtain ⟨front, back, rfl⟩ := within
    have solid := first c rfl
    rw [List.append_assoc, List.dropWhile_append]
    split
    · rw [List.cons_append, List.dropWhile_cons_of_neg (by simp [solid])]
      exact List.infix_append [] (c :: rest) back
    · exact List.infix_append' _ _ _

-- A part that neither begins nor ends with a blank is never cut when a text around it is trimmed.
theorem infix_trimChars_of_solid {part text : List Char} (within : part <:+: text)
    (first : ∀ c ∈ part.head?, isBlank c = false) (last : ∀ c ∈ part.getLast?, isBlank c = false) :
    part <:+: trimChars text := by
  have dropped : part.reverse <:+: (text.dropWhile isBlank).reverse := List.reverse_infix.mpr (infix_dropWhile within first)
  have firstToo : ∀ c ∈ part.reverse.head?, isBlank c = false := by rwa [List.head?_reverse]
  rw [trimChars, dropBlankEnd, ← List.reverse_infix, List.reverse_reverse]
  exact infix_dropWhile dropped firstToo

end GuestSandbox.Text
