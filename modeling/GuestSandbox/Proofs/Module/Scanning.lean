import GuestSandbox.Module.Imports
import Mathlib.Data.List.Infix
import Mathlib.Data.List.TakeWhile

namespace GuestSandbox.Imports

structure Quotation where
  mark : Char
  text : String
  quotes : isQuote mark = true
  filled : text.toList ≠ []
  plain : ∀ c ∈ text.toList, isQuote c = false

def isNameChar (c : Char) : Bool := c.isAlphanum || [' ', '_', '$', '*', '\x7b', '\x7d', ','].contains c

-- The names that an import takes or hands on. Nothing keeps them from holding the words `import`, `export` and `from`.
structure Clause where
  text : String
  filled : text.toList ≠ []
  plain : ∀ c ∈ text.toList, isNameChar c = true

inductive Statement where
  | bare (source : Quotation)
  | taken (names : Clause) (source : Quotation)
  | handedOn (names : Clause) (source : Quotation)
  | called (source : Quotation)

def Quotation.written (source : Quotation) : List Char := source.mark :: source.text.toList ++ [source.mark]

def Statement.source : Statement → Quotation
  | .bare source => source
  | .taken _ source => source
  | .handedOn _ source => source
  | .called source => source

def Statement.specifier (statement : Statement) : String := statement.source.text

def Clause.written (names : Clause) : List Char := ' ' :: names.text.toList ++ " from ".toList

def Statement.written : Statement → List Char
  | .bare source => "import ".toList ++ source.written
  | .taken names source => "import".toList ++ names.written ++ source.written
  | .handedOn names source => "export".toList ++ names.written ++ source.written
  | .called source => "import(".toList ++ source.written ++ [')']

def moduleText (statements : List Statement) : String :=
  ";\n".intercalate (statements.map fun statement => String.ofList statement.written)

theorem isBlank_of_isQuote {c : Char} (quote : isQuote c = true) : Text.isBlank c = false := by
  rcases Bool.or_eq_true_iff.mp quote with double | single
  · rw [beq_iff_eq.mp double]
    decide
  · rw [beq_iff_eq.mp single]
    decide

theorem isClauseChar_of_isQuote {c : Char} (quote : isQuote c = true) : isClauseChar c = false := by
  rcases Bool.or_eq_true_iff.mp quote with double | single
  · rw [beq_iff_eq.mp double]
    decide
  · rw [beq_iff_eq.mp single]
    decide

theorem isClauseChar_of_isNameChar {c : Char} (name : isNameChar c = true) : isClauseChar c = true := by
  rcases Bool.or_eq_true_iff.mp name with plain | listed
  · simp [isClauseChar, Text.isWord_of_isAlphanum c plain]
  · have marks : [' ', '_', '$', '*', '\x7b', '\x7d', ','].all isClauseChar = true := by decide
    exact List.all_eq_true.mp marks c (List.contains_iff_mem.mp listed)

theorem dropBlanks_of_solid {c : Char} (solid : Text.isBlank c = false) (rest : List Char) :
    dropBlanks (c :: rest) = c :: rest := by
  rw [dropBlanks, List.dropWhile_cons_of_neg (by simp [solid])]

theorem dropBlanks_space (rest : List Char) : dropBlanks (' ' :: rest) = dropBlanks rest :=
  List.dropWhile_cons_of_pos (by decide)

theorem dropBlanks_written (source : Quotation) (rest : List Char) :
    dropBlanks (source.written ++ rest) = source.written ++ rest :=
  dropBlanks_of_solid (isBlank_of_isQuote source.quotes) _

theorem quotedStart?_written (source : Quotation) (rest : List Char) :
    quotedStart? (source.written ++ rest) = some (source.text.toList, rest) := by
  obtain ⟨mark, text, quotes, filled, plain⟩ := source
  have open_ : ∀ c ∈ text.toList, (!isQuote c) = true := fun c member => by simp [plain c member]
  have taken : (text.toList ++ mark :: rest).takeWhile (!isQuote ·) = text.toList := by
    rw [List.takeWhile_append_of_pos open_]
    simp [quotes]
  have left : (text.toList ++ mark :: rest).dropWhile (!isQuote ·) = mark :: rest := by
    rw [List.dropWhile_append_of_pos open_]
    simp [quotes]
  obtain ⟨c, more, start⟩ := List.exists_cons_of_ne_nil filled
  rw [start] at taken left
  simp only [Quotation.written, start, List.cons_append, List.append_assoc, List.nil_append] at taken left ⊢
  simp [quotedStart?, quotes, taken, left]

-- A clause is taken whole: its quotation is the first character that can stand in no clause.
theorem withClause?_written (names : Clause) (source : Quotation) (rest : List Char) :
    withClause? (names.written ++ (source.written ++ rest)) = some (source.text.toList, rest) := by
  have clause : ∀ c ∈ names.written, isClauseChar c = true := by
    intro c member
    rw [Clause.written, List.cons_append, List.mem_cons, List.mem_append] at member
    rcases member with rfl | name | word
    · decide
    · exact isClauseChar_of_isNameChar (names.plain c name)
    · have letters : " from ".toList.all isClauseChar = true := by decide
      exact List.all_eq_true.mp letters c word
  have ends : endsInFrom names.written = true := by
    have backwards : names.written.reverse =
        ' ' :: ['m', 'o', 'r', 'f'] ++ (' ' :: (' ' :: names.text.toList).reverse) := by
      simp [Clause.written]
    rw [endsInFrom, backwards, List.cons_append, dropBlanks_space, List.cons_append, dropBlanks_of_solid (by decide),
      ← List.cons_append, Text.afterStart?_iff.mpr rfl]
  have stop : isClauseChar source.mark = false := isClauseChar_of_isQuote source.quotes
  have front : (names.written ++ (source.written ++ rest)).takeWhile isClauseChar = names.written := by
    rw [List.takeWhile_append_of_pos clause]
    simp [Quotation.written, stop]
  have behind : (names.written ++ (source.written ++ rest)).dropWhile isClauseChar = source.written ++ rest := by
    rw [List.dropWhile_append_of_pos clause]
    simp [Quotation.written, stop]
  rw [withClause?, front, ends, if_pos rfl, behind, quotedStart?_written]

theorem withClause?_bare (source : Quotation) (rest : List Char) :
    withClause? (' ' :: (source.written ++ rest)) = none := by
  have stop : isClauseChar source.mark = false := isClauseChar_of_isQuote source.quotes
  have front : (' ' :: (source.written ++ rest)).takeWhile isClauseChar = [' '] := by
    rw [List.takeWhile_cons_of_pos (by decide)]
    simp [Quotation.written, stop]
  rw [withClause?, front, if_neg (by decide)]

theorem withClause?_called (rest : List Char) : withClause? ('(' :: rest) = none := by
  rw [withClause?, List.takeWhile_cons_of_neg (by decide), if_neg (by decide)]

theorem importStart?_import (rest : List Char) :
    importStart? ("import".toList ++ rest) = (withClause? rest).or ((bare? rest).or (called? rest)) := by
  rw [importStart?, Text.afterStart?_iff.mpr rfl]

theorem importStart?_export (rest : List Char) : importStart? ("export".toList ++ rest) = withClause? rest := by
  have other : Text.afterStart? "import".toList ("export".toList ++ rest) = none := rfl
  rw [importStart?, other, Text.afterStart?_iff.mpr rfl]
  rfl

theorem importStart?_written (statement : Statement) (rest : List Char) :
    importStart? (statement.written ++ rest) = some (statement.specifier.toList, rest) := by
  cases statement with
  | bare source =>
    have start : (Statement.bare source).written ++ rest = "import".toList ++ ' ' :: (source.written ++ rest) := rfl
    have found : bare? (' ' :: (source.written ++ rest)) = some (source.text.toList, rest) := by
      rw [bare?, dropBlanks_space, dropBlanks_written, quotedStart?_written]
    rw [start, importStart?_import, withClause?_bare, found]
    rfl
  | taken names source =>
    change importStart? ("import".toList ++ names.written ++ source.written ++ rest) = some (source.text.toList, rest)
    rw [List.append_assoc, List.append_assoc, importStart?_import, withClause?_written, Option.some_or]
  | handedOn names source =>
    change importStart? ("export".toList ++ names.written ++ source.written ++ rest) = some (source.text.toList, rest)
    rw [List.append_assoc, List.append_assoc, importStart?_export, withClause?_written]
  | called source =>
    have start : (Statement.called source).written ++ rest =
        "import".toList ++ '(' :: (source.written ++ ')' :: rest) := by
      change "import(".toList ++ source.written ++ [')'] ++ rest = _
      rw [List.append_assoc, List.append_assoc]
      rfl
    have noQuotation : bare? ('(' :: (source.written ++ ')' :: rest)) = none := by
      rw [bare?, dropBlanks_of_solid (by decide)]
      rfl
    have found : called? ('(' :: (source.written ++ ')' :: rest)) = some (source.text.toList, rest) := by
      unfold called?
      rw [dropBlanks_of_solid (by decide)]
      simp only [dropBlanks_written, quotedStart?_written]
      rw [dropBlanks_of_solid (by decide)]
      rfl
    rw [start, importStart?_import, withClause?_called, noQuotation, found]
    rfl

theorem specifiersFrom_of_found {c : Char} {rest text after : List Char}
    (found : importStart? (c :: rest) = some (text, after)) :
    specifiersFrom true (c :: rest) = text :: specifiersFrom false after := by
  rw [specifiersFrom]
  split
  · rename_i again
    rw [if_pos rfl, found] at again
    cases again
    rfl
  · rename_i none
    rw [if_pos rfl, found] at none
    cases none

theorem specifiersFrom_of_missing {fresh : Bool} {c : Char} {rest : List Char}
    (missing : (if fresh then importStart? (c :: rest) else none) = none) :
    specifiersFrom fresh (c :: rest) = specifiersFrom (isBoundary c) rest := by
  rw [specifiersFrom]
  split
  · rename_i found
    rw [missing] at found
    cases found
  · rfl

-- An import ends before the mark between two statements, and the line end behind that is the boundary of the next.
theorem specifiersFrom_between (rest : List Char) :
    specifiersFrom false (";\n".toList ++ rest) = specifiersFrom true rest := by
  have line : importStart? ('\n' :: rest) = none := rfl
  calc specifiersFrom false (';' :: '\n' :: rest)
    _ = specifiersFrom true ('\n' :: rest) := specifiersFrom_of_missing rfl
    _ = specifiersFrom true rest := specifiersFrom_of_missing line

theorem specifiersFrom_written (statement : Statement) (rest : List Char) :
    specifiersFrom true (statement.written ++ rest) = statement.specifier.toList :: specifiersFrom false rest := by
  have found := importStart?_written statement rest
  obtain ⟨c, more, start⟩ : ∃ c more, statement.written = c :: more := by
    cases statement <;> exact ⟨_, _, rfl⟩
  rw [start, List.cons_append] at found ⊢
  exact specifiersFrom_of_found found

theorem specifiersFrom_nil (fresh : Bool) : specifiersFrom fresh [] = [] := by rw [specifiersFrom]

theorem moduleText_cons (statement next : Statement) (others : List Statement) :
    (moduleText (statement :: next :: others)).toList =
      statement.written ++ (";\n".toList ++ (moduleText (next :: others)).toList) := by
  simp [moduleText, String.intercalate_cons_cons]

theorem specifiersFrom_moduleText (statements : List Statement) :
    specifiersFrom true (moduleText statements).toList = statements.map fun statement => statement.specifier.toList := by
  induction statements with
  | nil => exact specifiersFrom_nil true
  | cons statement others ih =>
    cases others with
    | nil =>
      have alone := specifiersFrom_written statement []
      rw [List.append_nil, specifiersFrom_nil] at alone
      simpa [moduleText] using alone
    | cons next others =>
      rw [moduleText_cons, specifiersFrom_written, specifiersFrom_between, ih]
      rfl

structure Piece (cs text after : List Char) : Prop where
  filled : text ≠ []
  plain : ∀ c ∈ text, isQuote c = false
  inside : ∃ before between, cs = before ++ text ++ between ++ after

theorem Piece.extend {front cs text after : List Char} (piece : Piece cs text after) :
    Piece (front ++ cs) text after := by
  obtain ⟨filled, plain, before, between, rfl⟩ := piece
  exact ⟨filled, plain, front ++ before, between, by simp⟩

theorem Piece.ofSuffix {cs rest text after : List Char} (piece : Piece rest text after) (suffix : rest <:+ cs) :
    Piece cs text after := by
  obtain ⟨front, rfl⟩ := suffix
  exact piece.extend

theorem quotedStart?_piece {cs text after : List Char} (found : quotedStart? cs = some (text, after)) :
    Piece cs text after := by
  cases cs with
  | nil => cases found
  | cons first rest =>
    simp only [quotedStart?] at found
    split at found
    · cases found
    · split at found
      · rename_i c more mark behind taken left
        cases found
        refine ⟨List.cons_ne_nil _ _, fun d member => ?_, [first], [mark], ?_⟩
        · rw [← taken] at member
          simpa using List.mem_takeWhile_imp member
        · have whole := List.takeWhile_append_dropWhile (p := fun c => !isQuote c) (l := rest)
          rw [taken, left] at whole
          simp [← whole]
      · cases found

theorem withClause?_piece {cs text after : List Char} (found : withClause? cs = some (text, after)) :
    Piece cs text after := by
  unfold withClause? at found
  split at found
  · exact (quotedStart?_piece found).ofSuffix (List.dropWhile_suffix _)
  · cases found

theorem bare?_piece {cs text after : List Char} (found : bare? cs = some (text, after)) : Piece cs text after :=
  (quotedStart?_piece found).ofSuffix (List.dropWhile_suffix _)

theorem called?_piece {cs text after : List Char} (found : called? cs = some (text, after)) : Piece cs text after := by
  unfold called? at found
  split at found
  · rename_i rest opened
    split at found
    · rename_i quotation behind quoted
      split at found
      · rename_i last closed
        cases found
        have start : '(' :: rest <:+ cs := opened ▸ List.dropWhile_suffix _
        obtain ⟨filled, plain, before, between, inside⟩ :=
          (quotedStart?_piece quoted).ofSuffix ((List.dropWhile_suffix _).trans ((List.suffix_cons _ _).trans start))
        obtain ⟨blanks, split⟩ : ')' :: after <:+ behind := closed ▸ List.dropWhile_suffix _
        exact ⟨filled, plain, before, between ++ blanks ++ [')'], by simp [inside, ← split]⟩
      · cases found
    · cases found
  · cases found

theorem importStart?_piece {cs text after : List Char} (found : importStart? cs = some (text, after)) :
    Piece cs text after := by
  have behind {start rest : List Char} (split : Text.afterStart? start cs = some rest) : rest <:+ cs :=
    ⟨start, (Text.afterStart?_iff.mp split).symm⟩
  unfold importStart? at found
  split at found
  · rename_i rest split
    rcases Option.or_eq_some_iff.mp found with clause | ⟨_, other⟩
    · exact (withClause?_piece clause).ofSuffix (behind split)
    · rcases Option.or_eq_some_iff.mp other with alone | ⟨_, call⟩
      · exact (bare?_piece alone).ofSuffix (behind split)
      · exact (called?_piece call).ofSuffix (behind split)
  · obtain ⟨rest, split, clause⟩ := Option.bind_eq_some_iff.mp found
    exact (withClause?_piece clause).ofSuffix (behind split)

theorem specifiersFrom_pieces {fresh : Bool} {cs text : List Char} (member : text ∈ specifiersFrom fresh cs) :
    text ≠ [] ∧ (∀ c ∈ text, isQuote c = false) ∧ text <:+: cs := by
  fun_induction specifiersFrom fresh cs with
  | case1 => cases member
  | case2 fresh c rest first after found ih =>
    have piece : Piece (c :: rest) first after := by
      cases fresh with
      | true => exact importStart?_piece found
      | false => cases found
    obtain ⟨filled, plain, before, between, whole⟩ := piece
    rcases List.mem_cons.mp member with rfl | later
    · refine ⟨filled, plain, before, between ++ after, ?_⟩
      rw [whole, List.append_assoc, List.append_assoc, List.append_assoc]
    · obtain ⟨filled, plain, inside⟩ := ih later
      exact ⟨filled, plain, whole ▸ inside.trans (List.suffix_append _ _).isInfix⟩
  | case3 fresh c rest none ih =>
    obtain ⟨filled, plain, inside⟩ := ih member
    exact ⟨filled, plain, inside.trans (List.suffix_cons c rest).isInfix⟩

theorem nodup_eraseDups (texts : List String) : texts.eraseDups.Nodup := by
  match texts with
  | [] => exact List.nodup_nil
  | text :: rest =>
    have later := nodup_eraseDups (rest.filter fun other => !other == text)
    rw [List.eraseDups_cons, List.nodup_cons]
    refine ⟨fun again => ?_, later⟩
    have kept := (List.mem_filter.mp (List.mem_eraseDups.mp again)).2
    simp at kept
  termination_by texts.length
  decreasing_by
    have fewer : (rest.filter fun other => !other == text).length ≤ rest.length := List.length_filter_le _ _
    rw [List.length_cons]
    omega

-- A module that consists of imports in their basic forms gives exactly their specifiers, each at its first place, and no
-- text gives one twice or one that does not stand in it.
theorem specifiers_exact :
    (∀ statements : List Statement,
      specifiers (moduleText statements) = (statements.map Statement.specifier).eraseDups) ∧
    ∀ source : String, (specifiers source).Nodup ∧ ∀ specifier ∈ specifiers source,
      specifier.toList ≠ [] ∧ specifier.toList <:+: source.toList ∧ ∀ c ∈ specifier.toList, isQuote c = false := by
  constructor
  · intro statements
    rw [specifiers, specifiersFrom_moduleText, List.map_map]
    congr 2
    funext statement
    exact String.ofList_toList
  · intro source
    refine ⟨nodup_eraseDups _, fun specifier member => ?_⟩
    obtain ⟨text, found, rfl⟩ := List.mem_map.mp (List.mem_eraseDups.mp member)
    obtain ⟨filled, plain, inside⟩ := specifiersFrom_pieces found
    rw [String.toList_ofList]
    exact ⟨filled, inside, plain⟩

end GuestSandbox.Imports
