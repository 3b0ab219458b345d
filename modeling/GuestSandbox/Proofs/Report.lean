import GuestSandbox.Proofs.Number.Digits
import GuestSandbox.Proofs.Text.Trimming
import GuestSandbox.Report
import GuestSandbox.Settings
import Mathlib.Data.List.Infix

namespace GuestSandbox

namespace Report

def frame : List Char := "\n    at ".toList

variable {mark cs front : List Char}

theorem before?_eq_some (found : before? mark cs = some front) :
    front ++ mark <+: cs ∧ (mark ≠ [] → ¬mark <:+: front) := by
  induction cs generalizing front with
  | nil =>
    rw [before?] at found
    split at found
    · rename_i empty
      cases found
      exact ⟨by simp [List.isEmpty_iff.mp empty], fun filled => absurd (List.isEmpty_iff.mp empty) filled⟩
    · cases found
  | cons c rest ih =>
    rw [before?] at found
    split at found
    · rename_i here
      cases found
      exact ⟨List.isPrefixOf_iff_prefix.mp here, fun filled inside => filled (List.infix_nil.mp inside)⟩
    · rename_i elsewhere
      obtain ⟨more, later, rfl⟩ := Option.map_eq_some_iff.mp found
      obtain ⟨beginning, free⟩ := ih later
      refine ⟨(List.cons_prefix_cons).mpr ⟨rfl, beginning⟩, fun filled inside => ?_⟩
      rcases List.infix_cons_iff.mp inside with first | behind
      · have early : mark <+: c :: rest :=
          first.trans ((List.cons_prefix_cons).mpr ⟨rfl, (List.prefix_append more mark).trans beginning⟩)
        exact elsewhere (List.isPrefixOf_iff_prefix.mpr early)
      · exact free filled behind

theorem before?_eq_none_iff : before? mark cs = none ↔ ¬mark <:+: cs := by
  induction cs with
  | nil => simp [before?]
  | cons c rest ih =>
    rw [before?, List.infix_cons_iff, not_or, ← ih]
    split
    · rename_i here
      simp [List.isPrefixOf_iff_prefix.mp here]
    · rename_i elsewhere
      simp [← List.isPrefixOf_iff_prefix, elsewhere]

theorem withoutFrames_prefix (cs : List Char) : withoutFrames cs <+: cs := by
  have begins {mark front : List Char} (found : before? mark cs = some front) : front <+: cs :=
    (List.prefix_append front mark).trans (before?_eq_some found).1
  unfold withoutFrames
  split
  · exact begins (by assumption)
  · cases found : before? "\n    at".toList cs with
    | none => exact List.prefix_rfl
    | some front => exact begins found

theorem withoutFrames_frameless (cs : List Char) : ¬frame <:+: withoutFrames cs := by
  have beginning := withoutFrames_prefix cs
  unfold withoutFrames at beginning ⊢
  split at beginning
  · rename_i found
    exact (before?_eq_some found).2 (by decide)
  · rename_i missing
    exact fun inside => before?_eq_none_iff.mp missing (inside.trans beginning.isInfix)

theorem withoutFrames_of_line (line : '\n' ∉ cs) : withoutFrames cs = cs := by
  have missing {mark : List Char} (breaks : '\n' ∈ mark) : before? mark cs = none :=
    before?_eq_none_iff.mpr fun inside => line (inside.mem breaks)
  rw [withoutFrames, missing (by decide), missing (by decide)]
  rfl

theorem infix_tidy (text : String) : (tidy text).toList <:+: withoutFrames text.toList := by
  rw [tidy, String.toList_ofList]
  exact (List.take_prefix _ _).isInfix.trans (Text.infix_trimChars _)

theorem tidy_frameless (text : String) : ¬frame <:+: (tidy text).toList :=
  fun inside => withoutFrames_frameless text.toList (inside.trans (infix_tidy text))

theorem length_tidy_le (text : String) : (tidy text).length ≤ messageLength := by
  rw [tidy, String.length_ofList]
  exact List.length_take_le _ _

-- A short text of one line that neither begins nor ends with a blank is reported as it is.
theorem tidy_of_line {text : String} (line : '\n' ∉ text.toList) (first : ∀ c ∈ text.toList.head?, Text.isBlank c = false)
    (last : ∀ c ∈ text.toList.getLast?, Text.isBlank c = false) (short : text.length ≤ messageLength) :
    tidy text = text := by
  rw [tidy, withoutFrames_of_line line, Text.trimChars_of_solid first last, List.take_of_length_le short,
    String.ofList_toList]

theorem fit_of_long {value : Json} {text : String} {maxBytes : Nat} (long : maxBytes < text.utf8ByteSize) :
    fit value text maxBytes =
      .obj [("output", .str (firstChars text (min maxBytes previewLength))), ("truncated", .bool true)] := by
  have order : "output" < "truncated" := by decide
  rw [fit, if_neg (Nat.not_le.mpr long)]
  simp only [Json.ofFields, Json.sortFields, List.foldl, Json.insertField, order, if_true]

end Report

-- The milliseconds of a time limit are a word, so a report has room for their digits.
theorem Failure.tidy_timeout {ms : Nat} (word : ms ≤ greatestWord) :
    Report.tidy (Failure.timeout ms).message = (Failure.timeout ms).message := by
  have message : (Failure.timeout ms).message.toList =
      "TIMEOUT: execution exceeded ".toList ++ Number.digits ms ++ "ms".toList := by
    rw [show (Failure.timeout ms).message = "TIMEOUT: execution exceeded " ++ toString ms ++ "ms" from rfl,
      String.toList_append, String.toList_append, Number.digits]
  have digits : (Number.digits ms).length ≤ 20 :=
    Number.length_digits_le (by decide) (Nat.lt_of_le_of_lt word (by decide))
  refine Report.tidy_of_line ?_ (fun c first => ?_) (fun c last => ?_) ?_
  · rw [message, List.mem_append, List.mem_append]
    rintro ((ahead | number) | behind)
    · exact absurd ahead (by decide)
    · exact absurd (Number.isDigit_of_mem_digits number) (by decide)
    · exact absurd behind (by decide)
  · obtain rfl : 'T' = c := by simpa [message] using first
    decide
  · rw [message, List.getLast?_append] at last
    obtain rfl : 's' = c := by simpa using last
    decide
  · have room : "TIMEOUT: execution exceeded ".length + 20 + "ms".length ≤ Report.messageLength := by decide
    rw [← String.length_toList, message, List.length_append, List.length_append, String.length_toList,
      String.length_toList]
    omega

end GuestSandbox
