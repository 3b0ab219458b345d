import GuestSandbox.Url.Address

namespace GuestSandbox.Url

variable {isMark : Char → Bool} {c mark : Char} {cs part : List Char}

theorem partsBetween_cons_of_mark (marked : isMark c = true) (rest : List Char) :
    Text.partsBetween isMark (c :: rest) = [] :: Text.partsBetween isMark rest := by
  rw [Text.partsBetween, if_pos marked]

theorem partsBetween_cons_of_unmarked (unmarked : isMark c = false) (rest : List Char) :
    ∃ first others, Text.partsBetween isMark rest = first :: others ∧
      Text.partsBetween isMark (c :: rest) = (c :: first) :: others := by
  have filled : Text.partsBetween isMark rest ≠ [] := by
    cases rest with
    | nil => exact List.cons_ne_nil _ _
    | cons d rest =>
      unfold Text.partsBetween
      split
      · exact List.cons_ne_nil _ _
      · split <;> exact List.cons_ne_nil _ _
  obtain ⟨first, others, same⟩ := List.exists_cons_of_ne_nil filled
  refine ⟨first, others, same, ?_⟩
  rw [Text.partsBetween, if_neg (by simp [unmarked]), same]

theorem partsBetween_free (listed : part ∈ Text.partsBetween isMark cs) : ∀ c ∈ part, c ∈ cs ∧ isMark c = false := by
  induction cs generalizing part with
  | nil =>
    obtain rfl := List.mem_singleton.mp listed
    exact nofun
  | cons first rest ih =>
    cases marked : isMark first with
    | true =>
      rw [partsBetween_cons_of_mark marked] at listed
      rcases List.mem_cons.mp listed with rfl | later
      · exact nofun
      · exact fun c member => ⟨List.mem_cons_of_mem _ (ih later c member).1, (ih later c member).2⟩
    | false =>
      obtain ⟨front, others, split, whole⟩ := partsBetween_cons_of_unmarked marked rest
      rw [whole] at listed
      rw [split] at ih
      have behind {part : List Char} (listed : part ∈ front :: others) :
          ∀ c ∈ part, c ∈ first :: rest ∧ isMark c = false :=
        fun c member => ⟨List.mem_cons_of_mem _ (ih listed c member).1, (ih listed c member).2⟩
      rcases List.mem_cons.mp listed with rfl | later
      · exact List.forall_mem_cons.mpr ⟨⟨List.mem_cons_self, marked⟩, behind List.mem_cons_self⟩
      · exact behind (List.mem_cons_of_mem _ later)

theorem partsBetween_of_free (free : ∀ c ∈ cs, isMark c = false) : Text.partsBetween isMark cs = [cs] := by
  induction cs with
  | nil => rfl
  | cons c rest ih =>
    obtain ⟨first, others⟩ := List.forall_mem_cons.mp free
    obtain ⟨front, back, split, whole⟩ := partsBetween_cons_of_unmarked first rest
    rw [ih others] at split
    cases split
    exact whole

theorem partsBetween_append_mark (free : ∀ c ∈ cs, isMark c = false) (marked : isMark mark = true) (rest : List Char) :
    Text.partsBetween isMark (cs ++ mark :: rest) = cs :: Text.partsBetween isMark rest := by
  induction cs with
  | nil => exact partsBetween_cons_of_mark marked rest
  | cons c cs ih =>
    obtain ⟨first, others⟩ := List.forall_mem_cons.mp free
    obtain ⟨front, back, split, whole⟩ := partsBetween_cons_of_unmarked first (cs ++ mark :: rest)
    rw [ih others] at split
    cases split
    exact whole

-- Parts without the mark come back from the text in which it stands between them.
theorem partsBetween_joinWith (marked : isMark mark = true) {parts : List (List Char)} (filled : parts ≠ [])
    (free : ∀ part ∈ parts, ∀ c ∈ part, isMark c = false) : Text.partsBetween isMark (joinWith mark parts) = parts := by
  fun_induction joinWith mark parts with
  | case1 => exact absurd rfl filled
  | case2 part => exact partsBetween_of_free (free part (List.mem_singleton_self _))
  | case3 part rest more ih =>
    obtain ⟨first, others⟩ := List.forall_mem_cons.mp free
    rw [partsBetween_append_mark first marked, ih (fun empty => more empty) others]

theorem mem_joinWith {parts : List (List Char)} (member : c ∈ joinWith mark parts) :
    c = mark ∨ ∃ part ∈ parts, c ∈ part := by
  fun_induction joinWith mark parts with
  | case1 => cases member
  | case2 part => exact .inr ⟨part, List.mem_singleton_self _, member⟩
  | case3 part rest _ ih =>
    rcases List.mem_append.mp member with here | behind
    · exact .inr ⟨part, List.mem_cons_self, here⟩
    · rcases List.mem_cons.mp behind with rfl | later
      · exact .inl rfl
      · rcases ih later with rfl | ⟨other, listed, inside⟩
        · exact .inl rfl
        · exact .inr ⟨other, List.mem_cons_of_mem _ listed, inside⟩

end GuestSandbox.Url
