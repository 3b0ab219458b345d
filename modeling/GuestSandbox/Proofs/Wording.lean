import GuestSandbox.Proofs.Delivery
import Mathlib.Data.List.Find
import Mathlib.Data.List.Infix

-- Which token a failure's text holds. Behind the token of a failure with a code of its own the wording has none, so one
-- that is found there has come in with a text from outside.

namespace GuestSandbox

-- Where one side has at the seam what a text does not hold, the text is on one side or on the other.
theorem Text.infix_append_iff_of_seam {needle left right : List Char}
    (seam : (∃ c ∈ left.getLast?, c ∉ needle) ∨ ∃ c ∈ right.head?, c ∉ needle) :
    needle <:+: left ++ right ↔ needle <:+: left ∨ needle <:+: right := by
  rw [List.infix_append_iff]
  constructor
  · rintro (before | behind | ⟨one, two, rfl, ends, starts⟩)
    · exact .inl before
    · exact .inr behind
    · rcases seam with ⟨c, last, apart⟩ | ⟨c, first, apart⟩
      · rcases List.eq_nil_or_concat one with rfl | ⟨front, d, rfl⟩
        · exact .inr starts.isInfix
        · obtain ⟨more, rfl⟩ := ends
          obtain rfl : d = c := by simpa using last
          exact absurd (by simp) apart
      · cases two with
        | nil =>
          rw [List.append_nil]
          exact .inl ends.isInfix
        | cons d rest =>
          obtain ⟨more, rfl⟩ := starts
          cases first
          exact absurd (by simp) apart
  · rintro (before | behind)
    · exact .inl before
    · exact .inr (.inl behind)

namespace FailureCode

def Tokenless (cs : List Char) : Prop := ∀ token ∈ tokens, ¬token.1.toList <:+: cs

instance (cs : List Char) : Decidable (Tokenless cs) :=
  decidable_of_iff (tokens.all (fun token => !Text.occursIn token.1.toList cs) = true)
    (by simp [Tokenless, ← Text.occursIn_iff])

def ofTexts (texts : List String) : FailureCode :=
  match tokens.find? (fun token => texts.any fun text => Text.occursIn token.1.toList text.toList) with
  | some token => token.2
  | none => .executionError

theorem ofTexts_eq_executionError_iff {texts : List String} :
    ofTexts texts = .executionError ↔ ∀ text ∈ texts, Tokenless text.toList := by
  have coded : ∀ token ∈ tokens, token.2 ≠ .executionError := by decide
  unfold ofTexts
  split
  · rename_i token found
    have held := List.find?_some found
    obtain ⟨text, member, occurs⟩ := List.any_eq_true.mp held
    refine ⟨fun same => absurd same (coded token (List.mem_of_find?_eq_some found)), fun without => ?_⟩
    exact absurd ((Text.occursIn_iff _ _).mp occurs) (without text member token (List.mem_of_find?_eq_some found))
  · rename_i none
    refine ⟨fun _ text member token listed occurs => ?_, fun _ => rfl⟩
    refine List.find?_eq_none.mp none token listed (List.any_eq_true.mpr ⟨text, member, ?_⟩)
    exact (Text.occursIn_iff _ _).mpr occurs

-- What stands between the host's words and what they tell of. Tokens have none of it.
def isApart (c : Char) : Bool := c.isDigit || c == ' ' || c == '('

theorem token_chars {token : String × FailureCode} (member : token ∈ tokens) :
    token.1.toList ≠ [] ∧ ∀ c ∈ token.1.toList, isApart c = false := by
  have all : ∀ token ∈ tokens, token.1.toList ≠ [] ∧ token.1.toList.all (!isApart ·) = true := by decide
  obtain ⟨filled, letters⟩ := all token member
  exact ⟨filled, by simpa using letters⟩

theorem notMem_token {token : String × FailureCode} (member : token ∈ tokens) {c : Char} (apart : isApart c = true) :
    c ∉ token.1.toList := by
  intro here
  rw [(token_chars member).2 c here] at apart
  cases apart

end FailureCode

inductive Piece where
  | words (text : String)
  | number (n : Nat)
  | outside (text : String)

namespace Piece

open FailureCode (isApart)

def chars : Piece → List Char
  | .words text => text.toList
  | .number n => Number.digits n
  | .outside text => text.toList

def outside? : Piece → Option String
  | .outside text => some text
  | _ => none

-- No token begins in what is ahead of a piece and ends in the piece.
def Begins : Piece → Prop
  | .words text => text.toList.head?.any isApart = true
  | .number _ => True
  | .outside _ => False

def Ends : Piece → Prop
  | .words text => text.toList.getLast?.any isApart = true
  | .number _ => True
  | .outside _ => False

def Plain : Piece → Prop
  | .words text => FailureCode.Tokenless text.toList
  | _ => True

variable {token : String × FailureCode} {piece : Piece}

theorem digit_notMem (member : token ∈ FailureCode.tokens) {n : Nat} {c : Char} (digit : c ∈ Number.digits n) :
    c ∉ token.1.toList := by
  refine FailureCode.notMem_token member ?_
  rw [isApart, Number.isDigit_of_mem_digits digit, Bool.true_or, Bool.true_or]

theorem Begins.seam (member : token ∈ FailureCode.tokens) (begins : piece.Begins) :
    ∃ c ∈ piece.chars.head?, c ∉ token.1.toList := by
  cases piece with
  | outside text => cases begins
  | words text =>
    obtain ⟨c, first, apart⟩ := (Option.any_eq_true _ _).mp begins
    exact ⟨c, first, FailureCode.notMem_token member apart⟩
  | number n =>
    obtain ⟨c, rest, same⟩ := List.exists_cons_of_ne_nil (Number.digits_ne_nil n)
    exact ⟨c, by simp [chars, same], digit_notMem member (show c ∈ Number.digits n by simp [same])⟩

theorem Ends.seam (member : token ∈ FailureCode.tokens) (ends : piece.Ends) :
    ∃ c ∈ piece.chars.getLast?, c ∉ token.1.toList := by
  cases piece with
  | outside text => cases ends
  | words text =>
    obtain ⟨c, last, apart⟩ := (Option.any_eq_true _ _).mp ends
    exact ⟨c, last, FailureCode.notMem_token member apart⟩
  | number n =>
    have filled := Number.digits_ne_nil n
    exact ⟨_, List.getLast?_eq_some_getLast filled, digit_notMem member (List.getLast_mem filled)⟩

theorem infix_chars_iff (plain : piece.Plain) (member : token ∈ FailureCode.tokens) :
    token.1.toList <:+: piece.chars ↔ ∃ text, piece.outside? = some text ∧ token.1.toList <:+: text.toList := by
  cases piece with
  | words text => simpa [chars, outside?] using plain token member
  | outside text => simp [chars, outside?]
  | number n =>
    refine ⟨fun occurs => ?_, nofun⟩
    obtain ⟨c, rest, same⟩ := List.exists_cons_of_ne_nil (FailureCode.token_chars member).1
    have here : c ∈ token.1.toList := by simp [same]
    exact absurd here (digit_notMem member (occurs.subset here))

-- Where no seam can be inside a token, a token is in one of the pieces.
theorem infix_flatMap_iff (member : token ∈ FailureCode.tokens) {pieces : List Piece}
    (chain : pieces.IsChain fun left right => left.Ends ∨ right.Begins) :
    token.1.toList <:+: pieces.flatMap chars ↔ ∃ piece ∈ pieces, token.1.toList <:+: piece.chars := by
  induction pieces with
  | nil => simp [(FailureCode.token_chars member).1]
  | cons piece rest ih =>
    cases rest with
    | nil => simp
    | cons next rest =>
      obtain ⟨parted, chain⟩ := List.isChain_cons_cons.mp chain
      have seam : (∃ c ∈ piece.chars.getLast?, c ∉ token.1.toList) ∨
          ∃ c ∈ ((next :: rest).flatMap chars).head?, c ∉ token.1.toList := by
        rcases parted with ends | begins
        · exact .inl (ends.seam member)
        · obtain ⟨c, first, apart⟩ := begins.seam member
          refine .inr ⟨c, ?_, apart⟩
          rw [List.flatMap_cons, List.head?_append, Option.mem_def.mp first]
          rfl
      rw [List.flatMap_cons, Text.infix_append_iff_of_seam seam, ih chain]
      simp

end Piece

namespace Failure

def pieces : Failure → List Piece
  | .codeExecDisabled => [.words "CODE_EXEC_DISABLED: code execution is disabled"]
  | .invalidInput text => [.words "INVALID_INPUT: ", .outside text]
  | .timeout ms => [.words "TIMEOUT: execution exceeded ", .number ms, .words "ms"]
  | .pkgInstallDisabled => [.words "PKG_INSTALL_DISABLED: package installation is disabled"]
  | .netFetchDisabled => [.words "NET_FETCH_DISABLED: network fetch is disabled"]
  | .pendingJobs rounds =>
    [.words "MAX_PENDING_JOBS: pending work still queued after ", .number rounds, .words " drain rounds"]
  | .hostCallLimit calls => [.words "host call budget exhausted (", .number calls, .words " calls per run)"]
  | .requestLimit requests => [.words "fetch request limit reached (", .number requests, .words " per run)"]
  | .responseTooLarge size limit =>
    [.words "response of ", .number size, .words " bytes exceeds the ", .number limit, .words " byte limit"]
  | .downloadBudget bytes => [.words "download budget of ", .number bytes, .words " bytes per run exceeded"]
  | .requestTimeout url ms => [.words "request to ", .outside url, .words " timed out after ", .number ms, .words "ms"]
  | .network text => [.words "network error: ", .outside text]
  | .invalidSpec text => [.words "invalid package spec: ", .outside text]
  | .installLimit installs => [.words "package install limit reached (", .number installs, .words " per run)"]
  | .unresolved spec reason =>
    [.words "package ", .outside spec, .words " could not be resolved: ", .outside reason]
  | .moduleTooLarge url size limit =>
    [.words "module ", .outside url, .words " is ", .number size, .words " bytes, above the ", .number limit,
      .words " byte limit"]
  | .moduleMissing text => [.words "module ", .outside text, .words " is not available"]
  | .guest text => [.outside text]
  | .engine text => [.words "interpreter error: ", .outside text]

def outside (failure : Failure) : List String := failure.pieces.filterMap Piece.outside?

theorem message_eq_pieces (failure : Failure) : failure.message.toList = failure.pieces.flatMap Piece.chars := by
  unfold message pieces
  cases failure <;>
    simp only [List.flatMap_cons, List.flatMap_nil, Piece.chars, Number.digits, String.toList_append, List.append_assoc,
      List.append_nil]

theorem pieces_chain (failure : Failure) : failure.pieces.IsChain fun left right => left.Ends ∨ right.Begins := by
  unfold pieces
  cases failure <;>
    simp only [List.isChain_cons_cons, List.IsChain.singleton, Piece.Ends, Piece.Begins, or_true, true_or, and_true,
      or_false, false_or] <;>
    decide +kernel

theorem infix_message_iff (failure : Failure) {token : String × FailureCode} (member : token ∈ FailureCode.tokens) :
    token.1.toList <:+: failure.message.toList ↔ ∃ piece ∈ failure.pieces, token.1.toList <:+: piece.chars := by
  rw [message_eq_pieces, Piece.infix_flatMap_iff member failure.pieces_chain]

theorem pieces_plain {failure : Failure} (general : failure.code = .executionError) :
    ∀ piece ∈ failure.pieces, piece.Plain := by
  unfold code at general
  unfold pieces
  cases failure <;> simp only [reduceCtorEq] at general <;>
    simp only [List.forall_mem_cons, List.not_mem_nil, false_imp_iff, implies_true, Piece.Plain, and_true,
      true_and] <;>
    decide +kernel

theorem infix_general_iff {failure : Failure} (general : failure.code = .executionError) {token : String × FailureCode}
    (member : token ∈ FailureCode.tokens) :
    token.1.toList <:+: failure.message.toList ↔ ∃ text ∈ failure.outside, token.1.toList <:+: text.toList := by
  have plain := pieces_plain general
  rw [infix_message_iff failure member]
  simp only [outside, List.mem_filterMap]
  constructor
  · rintro ⟨piece, listed, occurs⟩
    obtain ⟨text, foreign, within⟩ := (Piece.infix_chars_iff (plain piece listed) member).mp occurs
    exact ⟨text, ⟨piece, listed, foreign⟩, within⟩
  · rintro ⟨text, ⟨piece, listed, foreign⟩, within⟩
    exact ⟨piece, listed, (Piece.infix_chars_iff (plain piece listed) member).mpr ⟨text, foreign, within⟩⟩

-- What an exception puts in front of a message adds no token.
theorem infix_thrown_iff (failure : Failure) {token : String × FailureCode} (member : token ∈ FailureCode.tokens) :
    token.1.toList <:+: ("Error: " ++ failure.message).toList ↔ token.1.toList <:+: failure.message.toList := by
  have blank : ' ' ∉ token.1.toList := FailureCode.notMem_token member rfl
  have tokenless : FailureCode.Tokenless "Error: ".toList := by decide +kernel
  rw [String.toList_append, Text.infix_append_iff_of_seam (.inl ⟨' ', rfl, blank⟩), or_iff_right (tokenless token member)]

-- Only a text from outside gives an exception another code than that of the failure it tells of.
theorem ofText_thrown {failure : Failure} (general : failure.code = .executionError) :
    FailureCode.ofText ("Error: " ++ failure.message) = FailureCode.ofTexts failure.outside := by
  have found : FailureCode.tokens.find? (fun token => Text.occursIn token.1.toList ("Error: " ++ failure.message).toList) =
      FailureCode.tokens.find? fun token => failure.outside.any fun text => Text.occursIn token.1.toList text.toList := by
    refine List.find?_congr fun token member => ?_
    rw [Bool.eq_iff_iff, Text.occursIn_iff, infix_thrown_iff failure member, infix_general_iff general member]
    simp [Text.occursIn_iff]
  rw [FailureCode.ofText, found]
  rfl

end Failure

end GuestSandbox
