import GuestSandbox.Json.Parser
import GuestSandbox.Proofs.Json.Fields
import GuestSandbox.Proofs.Number.Digits

-- The text of a value reads back as the value.

namespace GuestSandbox.Json

theorem hexDigit?_lowerHexDigit : ∀ k < 16, Text.hexDigit? (lowerHexDigit k) = some k := by decide

theorem unit?_control {n : Nat} (control : n < 0x20) :
    unit? '0' '0' (lowerHexDigit (n / 16)) (lowerHexDigit (n % 16)) = some n := by
  have high := hexDigit?_lowerHexDigit (n / 16) (by omega)
  have low := hexDigit?_lowerHexDigit (n % 16) (by omega)
  have zero : Text.hexDigit? '0' = some 0 := by decide
  simp only [unit?, high, low, zero, Option.some.injEq]
  omega

theorem readString_plain {c : Char} (quote : c ≠ '"') (backslash : c ≠ '\\') (printed : ¬c.toNat < 0x20)
    (left done : List Char) : readString (c :: left) done = readString left (c :: done) := by
  rw [readString.eq_def]
  split
  · simp_all
  · simp_all
  · simp_all
  · rename_i d rest _ _ _ same
    obtain ⟨rfl, rfl⟩ := List.cons.inj same
    rw [if_neg printed]

theorem readString_escaped (c : Char) (left done : List Char) :
    readString (escaped c ++ left) done = readString left (c :: done) := by
  unfold escaped
  split
  · rename_i special
    rcases (by simpa using special : c = '"' ∨ c = '\\') with rfl | rfl <;> simp [readString, simpleEscape?]
  rename_i ordinary
  have apart : c ≠ '"' ∧ c ≠ '\\' := by simpa using ordinary
  split
  · simp_all [readString, simpleEscape?]
  split
  · simp_all [readString, simpleEscape?]
  split
  · simp_all [readString, simpleEscape?]
  split
  · rename_i backspace
    have same : c = '\x08' := Char.toNat_inj.mp (by simpa using backspace)
    simp [same, readString, simpleEscape?]
  split
  · rename_i feed
    have same : c = '\x0c' := Char.toNat_inj.mp (by simpa using feed)
    simp [same, readString, simpleEscape?]
  split
  · rename_i control
    have high : isHighUnit c.toNat = false := by simp [isHighUnit]; omega
    have low : isLowUnit c.toNat = false := by simp [isLowUnit]; omega
    simp [readString, unit?_control control, high, low, Char.ofNat_toNat]
  · rename_i printed
    exact readString_plain apart.1 apart.2 printed left done

theorem readString_text (cs left done : List Char) :
    readString (cs.flatMap escaped ++ '"' :: left) done = .ok (done.reverse ++ cs, left) := by
  induction cs generalizing done with
  | nil => simp [readString]
  | cons c cs ih => rw [List.flatMap_cons, List.append_assoc, readString_escaped, ih]; simp

-- What may stand behind a number: nothing that could be a part of it.
def Breaks (left : List Char) : Prop := ∀ c ∈ left.head?, c.isDigit = false ∧ c ≠ '.' ∧ isPowerMark c = false

theorem startsWithDigit_of_breaks {left : List Char} (breaks : Breaks left) : startsWithDigit left = false := by
  cases left with
  | nil => rfl
  | cons c rest => exact (breaks c rfl).1

theorem le_foldl_digits (ds : List Char) (value : Nat) :
    value ≤ ds.foldl (fun value c => 10 * value + digitOf c) value := by
  induction ds generalizing value with
  | nil => exact Nat.le_refl _
  | cons d ds ih =>
    have more : value ≤ 10 * value + digitOf d := by omega
    exact Nat.le_trans more (ih _)

theorem takeDigits_all {ds left : List Char} (breaks : Breaks left) (digits : ∀ d ∈ ds, d.isDigit = true)
    (value taken : Nat) (fits : ds.foldl (fun value c => 10 * value + digitOf c) value ≤ greatestWord) :
    takeDigits value taken (ds ++ left) =
      (ds.foldl (fun value c => 10 * value + digitOf c) value, taken + ds.length, left) := by
  induction ds generalizing value taken with
  | nil =>
    cases left with
    | nil => rfl
    | cons c rest => simp [takeDigits, (breaks c rfl).1]
  | cons d ds ih =>
    obtain ⟨digit, digits⟩ := List.forall_mem_cons.mp digits
    have small : 10 * value + digitOf d ≤ greatestWord := Nat.le_trans (le_foldl_digits ds _) fits
    simp only [List.cons_append, takeDigits, digit, small, decide_true, Bool.and_self, if_true]
    rw [ih digits _ _ fits, List.length_cons, List.foldl_cons, Nat.add_assoc, Nat.add_comm 1]

open Number (digits digits_ne_nil isDigit_of_mem_digits digitsValue_digits)

theorem digitChar_ne_zero : ∀ n < 10, n ≠ 0 → n.digitChar ≠ '0' := by decide

theorem head_digits (n : Nat) {rest : List Char} (head : digits n = '0' :: rest) : n = 0 := by
  rw [digits, Nat.toString_eq_repr, Nat.toList_repr] at head
  induction n using Nat.strongRecOn generalizing rest with
  | ind n ih =>
    rcases Nat.lt_or_ge n 10 with small | large
    · rw [Nat.toDigits_of_lt_base small] at head
      exact Decidable.byContradiction fun nonzero => digitChar_ne_zero n small nonzero (List.cons.inj head).1
    · rw [Nat.toDigits_of_base_le (by decide) large] at head
      cases first : Nat.toDigits 10 (n / 10) with
      | nil => exact absurd first Nat.toDigits_ne_nil
      | cons d ds =>
        rw [first, List.cons_append] at head
        obtain ⟨rfl, _⟩ := List.cons.inj head
        have := ih (n / 10) (by omega) first
        omega

theorem readNumber_digits (positive : Bool) {n : Nat} {left : List Char} (word : n ≤ greatestWord)
    (breaks : Breaks left) : readNumber positive (digits n ++ left) = finishNumber positive n left := by
  have value : (digits n).foldl (fun value c => 10 * value + digitOf c) 0 = n := digitsValue_digits n
  have plain : ∀ d ∈ digits n, d.isDigit = true := fun _ => isDigit_of_mem_digits
  cases written : digits n with
  | nil => exact absurd written (digits_ne_nil n)
  | cons d ds =>
    rw [written] at value plain
    obtain ⟨digit, others⟩ := List.forall_mem_cons.mp plain
    by_cases zero : d = '0'
    · rw [zero] at written
      have none : n = 0 := head_digits n written
      rw [none, show digits 0 = ['0'] from rfl] at written
      obtain ⟨_, rfl⟩ := List.cons.inj written
      simp [readNumber, zero, none, startsWithDigit_of_breaks breaks]
    · have fits : ds.foldl (fun value c => 10 * value + digitOf c) (digitOf d) ≤ greatestWord := by
        simpa [← value] using word
      have taken := takeDigits_all breaks others (digitOf d) 1 fits
      have same : ds.foldl (fun value c => 10 * value + digitOf c) (digitOf d) = n := by simpa using value
      rw [same] at taken
      rw [List.cons_append, readNumber.eq_def]
      split
      · simp_all
      · simp_all
      · rename_i c rest _ here
        obtain ⟨rfl, rfl⟩ := List.cons.inj here
        simp [digit, taken, startsWithDigit_of_breaks breaks]

theorem finishNumber_breaks (positive : Bool) (n : Nat) {left : List Char} (breaks : Breaks left) :
    finishNumber positive n left = if positive then .ok (.nat n, left)
      else if 0 < n && n ≤ 0x8000000000000000 then .ok (.negative n, left)
      else finishReal false n 0 left := by
  cases left with
  | nil => rfl
  | cons c rest =>
    obtain ⟨_, point, power⟩ := breaks c rfl
    simp [finishNumber, power]

-- Whole numbers that fit a word are read as they are written. Other numbers are read with a rounding of their own.
def Num.IsWord : Num → Prop
  | .nat n => n ≤ greatestWord
  | .negative n => 0 < n ∧ n ≤ 0x8000000000000000
  | .real _ => False

-- A value of whole numbers that is not nested more deeply than this.
def Readable : Nat → Json → Prop
  | _, .null => True
  | _, .bool _ => True
  | _, .num n => n.IsWord
  | _, .str _ => True
  | 0, .arr _ => False
  | 0, .obj _ => False
  | depth + 1, .arr items => ∀ item ∈ items, Readable depth item
  | depth + 1, .obj fields => Ordered fields ∧ ∀ field ∈ fields, Readable depth field.2

theorem sortFields_of_ordered {fields : List (String × Json)} (ordered : Ordered fields) : sortFields fields = fields :=
  (sortFields_perm ordered.names_nodup).eq_of_pairwise (fun _ _ _ _ less more => absurd more (String.lt_asymm less))
    (sortFields_ordered fields) ordered

theorem breaks_cons {c : Char} (other : c = ',' ∨ c = ']' ∨ c = '\x7d') (left : List Char) : Breaks (c :: left) := by
  intro d first
  obtain rfl := Option.some.inj first
  rcases other with rfl | rfl | rfl <;> decide

-- How a value begins: with no blank and with no end of a list.
def Begins (text : List Char) : Prop :=
  ∃ c rest, text = c :: rest ∧ c ≠ ' ' ∧ c ≠ '\n' ∧ c ≠ '\t' ∧ c ≠ '\r' ∧ c ≠ ']'

theorem begins_of_isDigit {c : Char} (digit : c.isDigit = true) (rest : List Char) : Begins (c :: rest) := by
  refine ⟨c, rest, rfl, ?_, ?_, ?_, ?_, ?_⟩ <;> (rintro rfl; revert digit; decide)

theorem begins_digits (n : Nat) : Begins (digits n) := by
  cases written : digits n with
  | nil => exact absurd written (digits_ne_nil n)
  | cons d ds => exact begins_of_isDigit (isDigit_of_mem_digits (n := n) (by simp [written])) ds

theorem text_begins {depth : Nat} {value : Json} (readable : value.Readable depth) : Begins value.text.toList := by
  cases value with
  | null => exact ⟨'n', _, rfl, by decide⟩
  | bool b => cases b with
    | false => exact ⟨'f', _, rfl, by decide⟩
    | true => exact ⟨'t', _, rfl, by decide⟩
  | num n => cases n with
    | nat n => exact begins_digits n
    | negative n => exact ⟨'-', digits n, by simp [text, Num.text, digits], by decide⟩
    | real x => cases depth <;> exact readable.elim
  | str s => exact ⟨'"', s.toList.flatMap escaped ++ ['"'], by simp [text, quote], by decide⟩
  | arr items => exact ⟨'[', (itemsText items).toList ++ [']'], by simp [text], by decide⟩
  | obj fields => exact ⟨'\x7b', (fieldsText fields).toList ++ ['\x7d'], by simp [text], by decide⟩

theorem dropBlank_begins {text : List Char} (begins : Begins text) (left : List Char) :
    dropBlank (text ++ left) = text ++ left := by
  obtain ⟨c, rest, rfl, space, feed, tab, back, _⟩ := begins
  simp [dropBlank, space, feed, tab, back]

theorem nextItem_begins {text : List Char} (begins : Begins text) (left : List Char) :
    nextItem true (text ++ left) = .ok (.more (text ++ left)) ∧
      nextItem false (',' :: (text ++ left)) = .ok (.more (text ++ left)) := by
  have kept := dropBlank_begins begins left
  obtain ⟨c, rest, rfl, _, _, _, _, inside⟩ := begins
  rw [List.cons_append] at kept
  have comma : dropBlank (',' :: (c :: (rest ++ left))) = ',' :: (c :: (rest ++ left)) := by simp [dropBlank]
  constructor
  · simp only [nextItem, List.cons_append, kept]
    simp
  · simp only [nextItem, List.cons_append, comma]
    simp [kept]
    split <;> simp_all

-- However many calls are left beyond the length of its text.
def ReadsBack (depth : Nat) (value : Json) : Prop :=
  ∀ fuel left, value.text.toList.length ≤ fuel → Breaks left →
    readValue fuel depth (value.text.toList ++ left) = .ok (value, left)

def behind : List Json → List Char
  | [] => []
  | item :: rest => ',' :: (item.text.toList ++ behind rest)

@[simp] theorem itemsText_cons (item : Json) (rest : List Json) :
    (itemsText (item :: rest)).toList = item.text.toList ++ behind rest := by
  induction rest generalizing item with
  | nil => simp [itemsText, behind]
  | cons next rest ih => simp [itemsText, behind, ih next]

theorem breaks_behind (rest : List Json) (left : List Char) : Breaks (behind rest ++ ']' :: left) := by
  cases rest with
  | nil => exact breaks_cons (.inr (.inl rfl)) left
  | cons item rest => exact breaks_cons (.inl rfl) _

theorem readItems_behind {depth : Nat} {rest : List Json} (begins : ∀ item ∈ rest, Begins item.text.toList)
    (back : ∀ item ∈ rest, ReadsBack depth item) (fuel : Nat) (done : List Json) (left : List Char)
    (enough : (behind rest).length < fuel) :
    readItems fuel depth false done (behind rest ++ ']' :: left) = .ok (done.reverse ++ rest, left) := by
  induction rest generalizing fuel done with
  | nil =>
    obtain ⟨fuel, rfl⟩ := Nat.exists_eq_add_one.mpr (Nat.zero_lt_of_lt enough)
    simp [behind, readItems, nextItem, dropBlank]
  | cons item rest ih =>
    obtain ⟨fuel, rfl⟩ := Nat.exists_eq_add_one.mpr (Nat.zero_lt_of_lt enough)
    obtain ⟨begun, begins⟩ := List.forall_mem_cons.mp begins
    obtain ⟨here, back⟩ := List.forall_mem_cons.mp back
    simp only [behind, List.length_cons, List.length_append] at enough
    have read := here fuel (behind rest ++ ']' :: left) (by omega) (breaks_behind rest left)
    have others := ih begins back fuel (item :: done) (by omega)
    simp only [behind, List.cons_append, List.append_assoc, readItems, (nextItem_begins begun _).2, read, others]
    simp

theorem readItems_text {depth : Nat} {items : List Json} (begins : ∀ item ∈ items, Begins item.text.toList)
    (back : ∀ item ∈ items, ReadsBack depth item) (fuel : Nat) (left : List Char)
    (enough : (itemsText items).toList.length < fuel) :
    readItems fuel depth true [] ((itemsText items).toList ++ ']' :: left) = .ok (items, left) := by
  obtain ⟨fuel, rfl⟩ := Nat.exists_eq_add_one.mpr (Nat.zero_lt_of_lt enough)
  cases items with
  | nil => simp [itemsText, readItems, nextItem, dropBlank]
  | cons item rest =>
    obtain ⟨begun, begins⟩ := List.forall_mem_cons.mp begins
    obtain ⟨here, back⟩ := List.forall_mem_cons.mp back
    have some : 0 < item.text.toList.length := by
      obtain ⟨c, cs, same, _⟩ := begun
      simp [same]
    rw [itemsText_cons] at enough ⊢
    rw [List.length_append] at enough
    have read := here fuel (behind rest ++ ']' :: left) (by omega) (breaks_behind rest left)
    have others := readItems_behind begins back fuel [item] left (by omega)
    simp only [List.append_assoc, readItems, (nextItem_begins begun _).1, read, others]
    simp

-- The text of one field, and of fields behind a first one. A name is read without its opening quote.
def fieldText (field : String × Json) : List Char :=
  field.1.toList.flatMap escaped ++ '"' :: ':' :: field.2.text.toList

def behindFields : List (String × Json) → List Char
  | [] => []
  | field :: rest => ',' :: '"' :: (fieldText field ++ behindFields rest)

@[simp] theorem fieldsText_cons (field : String × Json) (rest : List (String × Json)) :
    (fieldsText (field :: rest)).toList = '"' :: (fieldText field ++ behindFields rest) := by
  induction rest generalizing field with
  | nil => simp [fieldsText, behindFields, fieldText, quote]
  | cons next rest ih => simp [fieldsText, behindFields, fieldText, quote, ih next]

theorem breaks_behindFields (rest : List (String × Json)) (left : List Char) :
    Breaks (behindFields rest ++ '\x7d' :: left) := by
  cases rest with
  | nil => exact breaks_cons (.inr (.inr rfl)) left
  | cons field rest => exact breaks_cons (.inl rfl) _

theorem nextField_quote (left : List Char) :
    nextField true ('"' :: left) = .ok (.more left) ∧ nextField false (',' :: '"' :: left) = .ok (.more left) := by
  simp [nextField, dropBlank]

@[simp] theorem readColon_cons (left : List Char) : readColon (':' :: left) = .ok left := by
  simp [readColon, dropBlank]

theorem readFields_behind {depth : Nat} {rest : List (String × Json)} (back : ∀ field ∈ rest, ReadsBack depth field.2)
    (fuel : Nat) (done : List (String × Json)) (left : List Char) (enough : (behindFields rest).length < fuel) :
    readFields fuel depth false done (behindFields rest ++ '\x7d' :: left) = .ok (done.reverse ++ rest, left) := by
  induction rest generalizing fuel done with
  | nil =>
    obtain ⟨fuel, rfl⟩ := Nat.exists_eq_add_one.mpr (Nat.zero_lt_of_lt enough)
    simp [behindFields, readFields, nextField, dropBlank]
  | cons field rest ih =>
    obtain ⟨fuel, rfl⟩ := Nat.exists_eq_add_one.mpr (Nat.zero_lt_of_lt enough)
    obtain ⟨here, back⟩ := List.forall_mem_cons.mp back
    simp only [behindFields, fieldText, List.length_cons, List.length_append] at enough
    have read := here fuel (behindFields rest ++ '\x7d' :: left) (by omega) (breaks_behindFields rest left)
    have others := ih back fuel (field :: done) (by omega)
    simp only [behindFields, fieldText, List.cons_append, List.append_assoc, readFields, (nextField_quote _).2,
      readString_text, List.reverse_nil, List.nil_append, readColon_cons, read, String.ofList_toList, others]
    simp

theorem readFields_text {depth : Nat} {fields : List (String × Json)}
    (back : ∀ field ∈ fields, ReadsBack depth field.2) (fuel : Nat) (left : List Char)
    (enough : (fieldsText fields).toList.length < fuel) :
    readFields fuel depth true [] ((fieldsText fields).toList ++ '\x7d' :: left) = .ok (fields, left) := by
  obtain ⟨fuel, rfl⟩ := Nat.exists_eq_add_one.mpr (Nat.zero_lt_of_lt enough)
  cases fields with
  | nil => simp [fieldsText, readFields, nextField, dropBlank]
  | cons field rest =>
    obtain ⟨here, back⟩ := List.forall_mem_cons.mp back
    rw [fieldsText_cons] at enough ⊢
    simp only [fieldText, List.length_cons, List.length_append] at enough
    have read := here fuel (behindFields rest ++ '\x7d' :: left) (by omega) (breaks_behindFields rest left)
    have others := readFields_behind back fuel [field] left (by omega)
    simp only [fieldText, List.cons_append, List.append_assoc, readFields, (nextField_quote _).1,
      readString_text, List.reverse_nil, List.nil_append, readColon_cons, read, String.ofList_toList, others]
    simp

theorem readValue_digit {c : Char} (digit : c.isDigit = true) (fuel depth : Nat) (rest : List Char) :
    readValue (fuel + 1) depth (c :: rest) = (readNumber true (c :: rest)).map fun (n, left) => (.num n, left) := by
  have kept : dropBlank (c :: rest) = c :: rest := by
    simpa using dropBlank_begins (begins_of_isDigit digit rest) []
  rw [readValue.eq_def]
  simp only [kept]
  split <;> simp_all

theorem readsBack_num {n : Num} (word : n.IsWord) (depth : Nat) : ReadsBack depth (.num n) := by
  intro fuel left enough breaks
  cases n with
  | nat n =>
    have read := readNumber_digits true word breaks
    change (digits n).length ≤ fuel at enough
    change readValue fuel depth (digits n ++ left) = _
    cases written : digits n with
    | nil => exact absurd written (digits_ne_nil n)
    | cons d ds =>
      rw [written] at enough read
      obtain ⟨fuel, rfl⟩ := Nat.exists_eq_add_one.mpr (Nat.zero_lt_of_lt enough)
      have digit : d.isDigit = true := isDigit_of_mem_digits (n := n) (by simp [written])
      rw [List.cons_append] at read ⊢
      rw [readValue_digit digit, read, finishNumber_breaks true n breaks]
      rfl
  | negative n =>
    have fits : n ≤ greatestWord := Nat.le_trans word.2 (by decide)
    have whole : (0 < n && n ≤ 0x8000000000000000) = true := by simpa [Num.IsWord] using word
    have same : (text (.num (.negative n))).toList = '-' :: digits n := by simp [text, Num.text, digits]
    rw [same] at enough ⊢
    obtain ⟨fuel, rfl⟩ := Nat.exists_eq_add_one.mpr (Nat.zero_lt_of_lt enough)
    simp [readValue, dropBlank, readNumber_digits false fits breaks, finishNumber_breaks false n breaks, whole,
      Except.map]
  | real x => exact word.elim

-- By the depth: the items of a list and the values of an object are nested less deeply.
theorem text_readsBack {depth : Nat} {value : Json} (readable : value.Readable depth) : ReadsBack depth value := by
  induction depth using Nat.strongRecOn generalizing value with
  | ind depth ih =>
    intro fuel left enough breaks
    obtain ⟨c, rest, begun, _⟩ := text_begins readable
    obtain ⟨fuel, rfl⟩ : ∃ less, fuel = less + 1 :=
      Nat.exists_eq_succ_of_ne_zero (by rw [begun, List.length_cons] at enough; omega)
    cases value with
    | null => simp [text, readValue, dropBlank, readWord, Except.map]
    | bool b => cases b <;> simp [text, readValue, dropBlank, readWord, Except.map]
    | num n => exact readsBack_num (by cases depth <;> exact readable) depth (fuel + 1) left enough breaks
    | str s => simp [text, quote, readValue, dropBlank, readString_text, Except.map]
    | arr items => cases depth with
      | zero => exact readable.elim
      | succ depth =>
        have same : (text (.arr items)).toList = '[' :: ((itemsText items).toList ++ [']']) := by simp [text]
        rw [same, List.length_cons, List.length_append, List.length_singleton] at enough
        have read := readItems_text (fun item member => text_begins (readable item member))
          (fun item member => ih depth (Nat.lt_succ_self depth) (readable item member)) fuel left (by omega)
        simp [same, readValue, dropBlank, read, Except.map]
    | obj fields => cases depth with
      | zero => exact readable.elim
      | succ depth =>
        obtain ⟨ordered, nested⟩ := readable
        have same : (text (.obj fields)).toList = '\x7b' :: ((fieldsText fields).toList ++ ['\x7d']) := by simp [text]
        rw [same, List.length_cons, List.length_append, List.length_singleton] at enough
        have read := readFields_text (fun field member => ih depth (Nat.lt_succ_self depth) (nested field member))
          fuel left (by omega)
        simp [same, readValue, dropBlank, read, Except.map, ofFields, sortFields_of_ordered ordered]

theorem parse_text {value : Json} (readable : value.Readable greatestDepth) : parse value.text = .ok value := by
  have read := text_readsBack readable (callsFor value.text.toList) [] (by rw [callsFor]; omega) nofun
  rw [List.append_nil] at read
  simp [parse, parseChars, read, finish, dropBlank]

structure Tells (text : String) (value : Json) : Prop where
  parsed : parse text = .ok value
  written : ∀ other : Json, other.Readable greatestDepth → other.text = text → other = value

theorem tells_of_parse {text : String} {value : Json} (parsed : parse text = .ok value) : Tells text value := by
  refine ⟨parsed, fun other readable same => ?_⟩
  rw [← same, parse_text readable] at parsed
  exact Except.ok.inj parsed

end GuestSandbox.Json
