import GuestSandbox.Proofs.Number.Rounding
import GuestSandbox.Proofs.Text.LetterCase
import Mathlib.Data.List.TakeWhile

-- How numbers are written: digits with an optional point and an optional power of ten, or a word, after an optional
-- sign. What is read is the nearest number to what is written, and nothing else is read.

namespace GuestSandbox.Number

inductive Sign where
  | unwritten
  | plus
  | minus
deriving Repr, DecidableEq

def Sign.chars : Sign → List Char
  | .unwritten => []
  | .plus => ['+']
  | .minus => ['-']

def Sign.negative (sign : Sign) : Bool := sign == .minus

structure Power where
  mark : Char
  sign : Sign
  digits : List Char
  marked : mark = 'e' ∨ mark = 'E'
  plain : ∀ c ∈ digits, c.isDigit = true
  filled : digits ≠ []

def Power.chars (power : Power) : List Char := power.mark :: (power.sign.chars ++ power.digits)

def Power.value (power : Power) : ℤ :=
  if power.sign.negative then -(digitsValue power.digits : ℤ) else digitsValue power.digits

-- On one side of the point there may be no digit, but not on both.
structure Numeral where
  whole : List Char
  fraction : Option (List Char)
  power : Option Power
  plain : ∀ c ∈ whole ++ fraction.getD [], c.isDigit = true
  filled : whole ++ fraction.getD [] ≠ []

namespace Numeral

def digits (n : Numeral) : List Char := n.whole ++ n.fraction.getD []

def places (n : Numeral) : ℤ := n.power.elim 0 Power.value - (n.fraction.getD []).length

def value (n : Numeral) : ℚ := digitsValue n.digits * 10 ^ n.places

def chars (n : Numeral) : List Char :=
  n.whole ++ (n.fraction.elim [] ('.' :: ·) ++ n.power.elim [] Power.chars)

end Numeral

inductive Reads : List Char → Figure → Prop
  | numeral (sign : Sign) (n : Numeral) (figure : Figure) (nearest : figure.Nearest sign.negative n.value) :
      Reads (sign.chars ++ n.chars) figure
  | infinite (sign : Sign) (word : List Char)
      (named : Text.SameLetters word "inf".toList ∨ Text.SameLetters word "infinity".toList) :
      Reads (sign.chars ++ word) (.infinite sign.negative)
  | notANumber (sign : Sign) (word : List Char) (named : Text.SameLetters word "nan".toList) :
      Reads (sign.chars ++ word) .notANumber

variable {cs word digits rest : List Char} {negative : Bool} {figure : Figure}

theorem splitSign_chars (sign : Sign) {cs : List Char} (unsigned : ∀ c ∈ cs.head?, c ≠ '+' ∧ c ≠ '-') :
    splitSign (sign.chars ++ cs) = (sign.negative, cs) := by
  cases sign with
  | plus => rfl
  | minus => rfl
  | unwritten =>
    change splitSign cs = (false, cs)
    unfold splitSign
    split
    · exact absurd rfl (unsigned '-' rfl).2
    · exact absurd rfl (unsigned '+' rfl).1
    · rfl

theorem splitSign_spec (cs : List Char) :
    ∃ sign : Sign, sign.chars ++ (splitSign cs).2 = cs ∧ sign.negative = (splitSign cs).1 := by
  unfold splitSign
  split
  · exact ⟨.minus, rfl, rfl⟩
  · exact ⟨.plus, rfl, rfl⟩
  · exact ⟨.unwritten, rfl, rfl⟩

theorem unsigned_of_isDigit (plain : ∀ c ∈ cs, c.isDigit = true) : ∀ c ∈ cs.head?, c ≠ '+' ∧ c ≠ '-' := by
  intro c first
  have digit := plain c (List.mem_of_mem_head? first)
  constructor <;> rintro rfl <;> exact absurd digit (by decide)

theorem takeWhile_digits_append (plain : ∀ c ∈ digits, c.isDigit = true) (stop : ∀ c ∈ rest.head?, c.isDigit = false) :
    (digits ++ rest).takeWhile Char.isDigit = digits ∧ (digits ++ rest).dropWhile Char.isDigit = rest := by
  rw [List.takeWhile_append_of_pos plain, List.dropWhile_append_of_pos plain]
  cases rest with
  | nil => simp
  | cons c rest =>
    have other := stop c rfl
    simp [other]

theorem readPower_chars (power : Option Power) :
    readPower (power.elim [] Power.chars) = some (power.elim 0 Power.value) := by
  cases power with
  | none => rfl
  | some power =>
    have mark : (power.mark == 'e' || power.mark == 'E') = true := by simpa using power.marked
    have all : power.digits.all Char.isDigit = true := List.all_eq_true.mpr power.plain
    change readPower (power.mark :: (power.sign.chars ++ power.digits)) = some power.value
    unfold readPower
    dsimp only
    rw [if_pos mark, splitSign_chars _ (unsigned_of_isDigit power.plain)]
    simp [power.filled, all, Power.value]

theorem exists_power {value : ℤ} (read : readPower cs = some value) : ∃ power : Option Power, power.elim [] Power.chars = cs := by
  unfold readPower at read
  split at read
  · exact ⟨none, rfl⟩
  · rename_i mark rest
    split at read
    · rename_i marked
      obtain ⟨sign, split, -⟩ := splitSign_spec rest
      dsimp only at read
      split at read
      · cases read
      · rename_i plain
        simp only [Bool.or_eq_true, Bool.not_eq_true', not_or, Bool.not_eq_false, List.isEmpty_iff, List.all_eq_true] at plain
        refine ⟨some ⟨mark, sign, (splitSign rest).2, by simpa using marked, plain.2, plain.1⟩, ?_⟩
        exact congrArg (mark :: ·) split
    · cases read

theorem power_stop (power : Option Power) : ∀ c ∈ (power.elim [] Power.chars).head?, c.isDigit = false ∧ c ≠ '.' := by
  cases power with
  | none => nofun
  | some power =>
    rintro c ⟨⟩
    rcases power.marked with mark | mark <;> rw [mark] <;> decide

theorem Numeral.readDigits_chars (negative : Bool) (n : Numeral) :
    readDigits negative n.chars = some (.ofDecimal negative (digitsValue n.digits) n.places) := by
  obtain ⟨whole, fraction, power, plain, filled⟩ := n
  have wholePlain : ∀ c ∈ whole, c.isDigit = true := fun c member => plain c (List.mem_append_left _ member)
  have powerStop := power_stop power
  unfold readDigits chars digits places
  dsimp only
  cases fraction with
  | none =>
    obtain ⟨taken, dropped⟩ := takeWhile_digits_append wholePlain fun c first => (powerStop c first).1
    simp only [Option.elim_none, List.nil_append, taken, dropped]
    split
    · rename_i point
      exact absurd rfl (powerStop '.' (by rw [point]; rfl)).2
    · have some : whole ≠ [] := by simpa using filled
      simp [some, readPower_chars]
  | some fraction =>
    have fractionPlain : ∀ c ∈ fraction, c.isDigit = true := fun c member => plain c (List.mem_append_right _ member)
    have pointStop : ∀ c ∈ ('.' :: (fraction ++ power.elim [] Power.chars)).head?, c.isDigit = false := by
      rintro c ⟨⟩
      rfl
    obtain ⟨taken, dropped⟩ := takeWhile_digits_append wholePlain pointStop
    obtain ⟨fractionTaken, fractionDropped⟩ := takeWhile_digits_append fractionPlain fun c first => (powerStop c first).1
    have some : (whole.isEmpty && fraction.isEmpty) = false := by simpa using filled
    simp [taken, dropped, fractionTaken, fractionDropped, readPower_chars, some]

theorem exists_numeral (read : readDigits negative cs = some figure) : ∃ n : Numeral, n.chars = cs := by
  have parts : cs.takeWhile Char.isDigit ++ cs.dropWhile Char.isDigit = cs := List.takeWhile_append_dropWhile
  have wholePlain : ∀ c ∈ cs.takeWhile Char.isDigit, c.isDigit = true := fun c => List.mem_takeWhile_imp
  unfold readDigits at read
  generalize cs.takeWhile Char.isDigit = whole at parts wholePlain read
  generalize cs.dropWhile Char.isDigit = tail at parts read
  dsimp only at read
  split at read
  · rename_i rest
    split at read
    · cases read
    · rename_i some
      obtain ⟨value, powerRead, -⟩ := Option.map_eq_some_iff.mp read
      obtain ⟨power, written⟩ := exists_power powerRead
      have plain : ∀ c ∈ whole ++ rest.takeWhile Char.isDigit, c.isDigit = true :=
        List.forall_mem_append.mpr ⟨wholePlain, fun c => List.mem_takeWhile_imp⟩
      refine ⟨⟨whole, rest.takeWhile Char.isDigit, power, plain, by simpa using some⟩, ?_⟩
      rw [Numeral.chars, written, ← parts, Option.elim_some, List.cons_append, List.takeWhile_append_dropWhile]
  · split at read
    · cases read
    · rename_i some
      obtain ⟨value, powerRead, -⟩ := Option.map_eq_some_iff.mp read
      obtain ⟨power, written⟩ := exists_power powerRead
      refine ⟨⟨whole, none, power, by simpa using wholePlain, by simpa using some⟩, ?_⟩
      rw [Numeral.chars, written, ← parts, Option.elim_none, List.nil_append]

theorem Numeral.unsigned (n : Numeral) : ∀ c ∈ n.chars.head?, c ≠ '+' ∧ c ≠ '-' := by
  obtain ⟨whole, fraction, power, plain, filled⟩ := n
  cases whole with
  | cons digit rest =>
    rintro c ⟨⟩
    exact unsigned_of_isDigit plain digit rfl
  | nil =>
    cases fraction with
    | none => exact absurd rfl filled
    | some fraction =>
      rintro c ⟨⟩
      decide

-- What has a small letter as its lower-case form is a letter, and so neither digit, point nor sign.
theorem letter_of_toLower {c : Char} (small : 97 ≤ c.toLower.toNat) :
    (c ≠ '+' ∧ c ≠ '-') ∧ c.isDigit = false ∧ c ≠ '.' := by
  have letter : 65 ≤ c.toNat := by
    rw [Text.toNat_toLower] at small
    split at small <;> omega
  refine ⟨⟨?_, ?_⟩, ?_, ?_⟩
  · rintro rfl; exact absurd letter (by decide)
  · rintro rfl; exact absurd letter (by decide)
  · rw [Bool.eq_false_iff, Ne, Char.isDigit_iff_toNat]
    exact fun digit => absurd (letter.trans digit.2) (by decide)
  · rintro rfl; exact absurd letter (by decide)

theorem readDigits_of_letter {c : Char} (small : 97 ≤ c.toLower.toNat) (rest : List Char) :
    readDigits negative (c :: rest) = none := by
  obtain ⟨-, other, point⟩ := letter_of_toLower small
  unfold readDigits
  simp [other, point]

theorem ofList_toLower_iff (cs : List Char) {text : String} (small : text.toList.map Char.toLower = text.toList) :
    (String.ofList (cs.map Char.toLower) == text) = true ↔ Text.SameLetters cs text.toList := by
  rw [beq_iff_eq, ← String.toList_inj, String.toList_ofList, Text.SameLetters, small]

theorem readWord_iff : readWord negative cs = some figure ↔
    (Text.SameLetters cs "inf".toList ∨ Text.SameLetters cs "infinity".toList) ∧ figure = .infinite negative ∨
      Text.SameLetters cs "nan".toList ∧ figure = .notANumber := by
  have inf := ofList_toLower_iff cs (show "inf".toList.map Char.toLower = _ by decide)
  have infinity := ofList_toLower_iff cs (show "infinity".toList.map Char.toLower = _ by decide)
  have nan := ofList_toLower_iff cs (show "nan".toList.map Char.toLower = _ by decide)
  have apart (named : Text.SameLetters cs "nan".toList) :
      ¬ (Text.SameLetters cs "inf".toList ∨ Text.SameLetters cs "infinity".toList) := by
    rintro (other | other) <;> exact absurd (named.symm.trans other) (by decide)
  unfold readWord
  simp only [Bool.or_eq_true, inf, infinity, nan]
  split_ifs <;> grind

theorem read?_of_word (sign : Sign) (read : readWord sign.negative word = some figure) :
    Figure.read? (sign.chars ++ word) = some figure := by
  have first : ∃ c rest, word = c :: rest ∧ 97 ≤ c.toLower.toNat := by
    cases word with
    | nil =>
      cases sign <;> cases read
    | cons c rest =>
      refine ⟨c, rest, rfl, ?_⟩
      rcases readWord_iff.mp read with ⟨named | named, -⟩ | ⟨named, -⟩ <;>
      · rw [(List.cons.inj named).1]
        decide
  obtain ⟨c, rest, rfl, small⟩ := first
  unfold Figure.read?
  rw [splitSign_chars sign (by rintro d ⟨⟩; exact (letter_of_toLower small).1)]
  dsimp only
  rw [readDigits_of_letter small]
  exact read

theorem read?_iff : Figure.read? cs = some figure ↔ Reads cs figure := by
  constructor
  · intro read
    obtain ⟨sign, parts, negative⟩ := splitSign_spec cs
    unfold Figure.read? at read
    dsimp only at read
    rw [← negative] at read
    rw [← parts]
    generalize (splitSign cs).2 = body at read
    split at read
    · rename_i read?
      cases read
      obtain ⟨n, rfl⟩ := exists_numeral read?
      rw [n.readDigits_chars] at read?
      cases read?
      exact .numeral sign n _ (Figure.nearest_ofDecimal _ _ _)
    · obtain ⟨named, rfl⟩ | ⟨named, rfl⟩ := readWord_iff.mp read
      · exact .infinite sign _ named
      · exact .notANumber sign _ named
  · intro reads
    cases reads with
    | numeral sign n figure nearest =>
      unfold Figure.read?
      rw [splitSign_chars sign n.unsigned]
      dsimp only
      rw [n.readDigits_chars]
      exact congrArg some (Figure.Nearest.unique (Figure.nearest_ofDecimal _ _ _) nearest)
    | infinite sign word named => exact read?_of_word sign (readWord_iff.mpr (.inl ⟨named, rfl⟩))
    | notANumber sign word named => exact read?_of_word sign (readWord_iff.mpr (.inr ⟨named, rfl⟩))

end GuestSandbox.Number
