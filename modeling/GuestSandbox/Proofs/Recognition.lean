import GuestSandbox.Proofs.Wording

-- A failure with a code of its own has the token of that code in its message, and no other. So it is recognized in any
-- text of a guest that carries the message, as long as the text around it brings in no token of its own.

namespace GuestSandbox

-- What stands around a text adds nothing to what is found in it where nothing can be found around it or at a seam.
theorem Text.infix_between_iff {needle front middle back : List Char} (filled : needle ≠ [])
    (opens : ∀ c ∈ front.getLast?, c ∉ needle) (closes : ∀ c ∈ back.head?, c ∉ needle) :
    needle <:+: front ++ (middle ++ back) ↔ needle <:+: front ∨ needle <:+: middle ∨ needle <:+: back := by
  have behind : needle <:+: middle ++ back ↔ needle <:+: middle ∨ needle <:+: back := by
    cases back with
    | nil => simp [filled]
    | cons c rest => exact infix_append_iff_of_seam (.inr ⟨c, rfl, closes c rfl⟩)
  rcases List.eq_nil_or_concat front with rfl | ⟨before, c, rfl⟩
  · simp [filled, behind]
  · have last : c ∈ (before.concat c).getLast? := by simp
    rw [infix_append_iff_of_seam (.inl ⟨c, last, opens c last⟩), behind]

namespace FailureCode

def Foreign (c : Char) : Prop := ∀ token ∈ tokens, c ∉ token.1.toList

instance (c : Char) : Decidable (Foreign c) := List.decidableBAll _ _

-- The token of a code is in a text, and it is the only one there.
def Only (code : FailureCode) (cs : List Char) : Prop := ∀ token ∈ tokens, token.1.toList <:+: cs ↔ token.1 = code.name

instance (code : FailureCode) (cs : List Char) : Decidable (code.Only cs) :=
  decidable_of_iff (∀ token ∈ tokens, Text.occursIn token.1.toList cs = true ↔ token.1 = code.name)
    (by simp only [Only, Text.occursIn_iff])

theorem Only.ofText {code : FailureCode} {text : String} (only : code.Only text.toList) : ofText text = code := by
  have found : tokens.find? (fun token => Text.occursIn token.1.toList text.toList) = tokens.find? (·.1 == code.name) :=
    List.find?_congr fun token member => by
      rw [Bool.eq_iff_iff, Text.occursIn_iff, only token member, beq_iff_eq]
  rw [FailureCode.ofText, found]
  cases code <;> rfl

theorem Only.carried {code : FailureCode} {front middle back : List Char} (only : code.Only middle)
    (before : Tokenless front) (behind : Tokenless back) (opens : ∀ c ∈ front.getLast?, Foreign c)
    (closes : ∀ c ∈ back.head?, Foreign c) : code.Only (front ++ (middle ++ back)) := by
  intro token member
  rw [Text.infix_between_iff (token_chars member).1 (fun c last => opens c last token member)
    (fun c first => closes c first token member), or_iff_right (before token member),
    or_iff_left (behind token member), only token member]

end FailureCode

theorem Piece.tokenless_number (n : Nat) : FailureCode.Tokenless (Piece.number n).chars := by
  intro token member occurs
  have plain : (Piece.number n).Plain := trivial
  obtain ⟨text, outside, _⟩ := (infix_chars_iff plain member).mp occurs
  cases outside

namespace Failure

-- The failures with a code of their own. The text in one of them holds no token itself.
inductive Coded : Failure → Prop where
  | codeExecDisabled : Coded .codeExecDisabled
  | invalidInput {text : String} (tokenless : FailureCode.Tokenless text.toList) : Coded (.invalidInput text)
  | timeout (ms : Nat) : Coded (.timeout ms)
  | pkgInstallDisabled : Coded .pkgInstallDisabled
  | netFetchDisabled : Coded .netFetchDisabled
  | pendingJobs (rounds : Nat) : Coded (.pendingJobs rounds)

variable {failure : Failure}

theorem only_of_pieces (code : FailureCode) {words : String} {rest : List Piece}
    (begins : failure.pieces = .words words :: rest) (only : code.Only words.toList)
    (others : ∀ piece ∈ rest, FailureCode.Tokenless piece.chars) : code.Only failure.message.toList := by
  intro token member
  rw [infix_message_iff failure member, begins, List.exists_mem_cons_iff, Piece.chars, only token member]
  refine or_iff_left ?_
  rintro ⟨piece, listed, occurs⟩
  exact others piece listed token member occurs

-- The token is in the words that a message begins with; a number and the words behind it hold none.
theorem Coded.only (coded : failure.Coded) : failure.code.Only failure.message.toList := by
  cases coded with
  | codeExecDisabled => exact only_of_pieces .codeExecDisabled rfl (by decide +kernel) nofun
  | invalidInput tokenless =>
    exact only_of_pieces .invalidInput rfl (by decide +kernel) (List.forall_mem_singleton.mpr tokenless)
  | timeout ms =>
    have unit : FailureCode.Tokenless (Piece.words "ms").chars := by decide +kernel
    exact only_of_pieces .timeout rfl (by decide +kernel)
      (List.forall_mem_cons.mpr ⟨Piece.tokenless_number ms, List.forall_mem_singleton.mpr unit⟩)
  | pkgInstallDisabled => exact only_of_pieces .pkgInstallDisabled rfl (by decide +kernel) nofun
  | netFetchDisabled => exact only_of_pieces .netFetchDisabled rfl (by decide +kernel) nofun
  | pendingJobs rounds =>
    have unit : FailureCode.Tokenless (Piece.words " drain rounds").chars := by decide +kernel
    exact only_of_pieces .maxPendingJobs rfl (by decide +kernel)
      (List.forall_mem_cons.mpr ⟨Piece.tokenless_number rounds, List.forall_mem_singleton.mpr unit⟩)

-- Whatever numbers and input are told in the message, a guest's text that carries it is classified as the failure, and
-- so is the failure that a guest makes of such a text.
theorem ofText_carried (coded : failure.Coded) {front back : String} (before : FailureCode.Tokenless front.toList)
    (behind : FailureCode.Tokenless back.toList) (opens : ∀ c ∈ front.toList.getLast?, FailureCode.Foreign c)
    (closes : ∀ c ∈ back.toList.head?, FailureCode.Foreign c) :
    FailureCode.ofText (front ++ failure.message ++ back) = failure.code ∧
      (Failure.guest (front ++ failure.message ++ back)).code = failure.code := by
  have only : failure.code.Only (front ++ failure.message ++ back).toList := by
    rw [String.toList_append, String.toList_append, List.append_assoc]
    exact coded.only.carried before behind opens closes
  exact ⟨only.ofText, only.ofText⟩

-- The input of the guest lacks one letter of a token that is looked for earlier, and stack frames follow.
theorem ofText_carried_frames :
    let failure : Failure := .invalidInput "option CODE_EXEC_DISABLE is not known"
    let front := "uncaught Error: "
    let back := "\n    at settle (native)"
    failure.Coded ∧ FailureCode.Tokenless front.toList ∧ FailureCode.Tokenless back.toList ∧
      (∀ c ∈ front.toList.getLast?, FailureCode.Foreign c) ∧ (∀ c ∈ back.toList.head?, FailureCode.Foreign c) ∧
      FailureCode.ofText (front ++ failure.message ++ back) = .invalidInput ∧
      (Failure.guest (front ++ failure.message ++ back)).code = .invalidInput := by
  intro failure front back
  have coded : failure.Coded := .invalidInput (by decide +kernel)
  have before : FailureCode.Tokenless front.toList := by decide +kernel
  have behind : FailureCode.Tokenless back.toList := by decide +kernel
  have last : front.toList.getLast? = some ' ' := by decide
  have first : back.toList.head? = some '\n' := by decide
  have opens : ∀ c ∈ front.toList.getLast?, FailureCode.Foreign c := by
    rw [last]
    rintro c ⟨⟩
    decide +kernel
  have closes : ∀ c ∈ back.toList.head?, FailureCode.Foreign c := by
    rw [first]
    rintro c ⟨⟩
    decide +kernel
  exact ⟨coded, before, behind, opens, closes, ofText_carried coded before behind opens closes⟩

end Failure

end GuestSandbox
