import GuestSandbox.Text.Composition
import GuestSandbox.Text.Utf8
import GuestSandbox.Url.LabelTable
import GuestSandbox.Url.NameTable
import GuestSandbox.Url.Punycode

-- Domain names as ASCII. Characters are replaced by their canonical lower-case forms, labels with other than ASCII
-- characters are written in Punycode, and every label is checked, also one that comes in Punycode already.

namespace GuestSandbox.Url

def isForbidden (c : Char) : Bool :=
  c.toNat ≤ 0x20 || c.toNat == 0x7F || ['%', '#', '/', ':', '<', '>', '?', '@', '[', '\\', ']', '^', '|'].contains c

def replaceChar (c : Char) : Option (List Char) :=
  if c.toNat < 128 then some [c.toLower]
  else if refusedRanges.contains c then none
  else if droppedRanges.contains c then some []
  else match replacedRows.findSome? (·.replace? c.toNat) with
    | some codes => some (codes.map Char.ofNat)
    | none => some [c]

def isAscii (cs : List Char) : Bool := cs.all (·.toNat < 128)

def normalized (cs : List Char) : List Char :=
  if isAscii cs then cs else (Text.composed (cs.map Char.toNat)).map Char.ofNat

def mapName (cs : List Char) : Option (List Char) := (cs.mapM replaceChar).map fun parts => normalized parts.flatten

def direction (c : Char) : Direction :=
  match directionRows.find? (·.range.contains c.toNat) with
  | some row => row.value
  | none => .left

def joining (c : Char) : Joining :=
  match joiningRows.find? (·.range.contains c.toNat) with
  | some row => row.value
  | none => .nothing

def isVirama (c : Char) : Bool := Text.combiningClass c.toNat == 9

-- A joiner stands after a virama; the one that separates may also stand between letters that would join.
def joinerFits (before : List Char) (c : Char) (after : List Char) : Bool :=
  let afterVirama := match before with
    | b :: _ => isVirama b
    | [] => false
  let joins (sides : List Joining) (cs : List Char) : Bool :=
    match (cs.map joining).dropWhile (· == .transparent) with
    | side :: _ => sides.contains side
    | [] => false
  if c == '\u200D' then afterVirama
  else afterVirama || (joins [.leftSide, .bothSides] before && joins [.rightSide, .bothSides] after)

def joinersFit (before : List Char) : List Char → Bool
  | [] => true
  | c :: rest => ((c != '\u200C' && c != '\u200D') || joinerFits before c rest) && joinersFit (c :: before) rest

-- Writing directions of one label agree, once some label of the name is written from right to left.
def directionsFit (label : List Char) : Bool :=
  let directions := label.map direction
  let ends := match directions.reverse.dropWhile (· == .mark) with
    | last :: _ => some last
    | [] => none
  let common : List Direction := [.european, .separator, .commonSeparator, .terminator, .neutral, .boundary, .mark]
  match directions.head? with
  | none => true
  | some .left =>
    directions.all ((Direction.left :: common).contains ·) && (ends == some .left || ends == some .european)
  | some first =>
    (first == .right || first == .arabicLetter)
      && directions.all ((Direction.right :: .arabicLetter :: .arabicNumber :: common).contains ·)
      && [some Direction.right, some .arabicLetter, some .european, some .arabicNumber].contains ends
      && !(directions.contains .european && directions.contains .arabicNumber)

def isRightToLeft (c : Char) : Bool := [Direction.right, .arabicLetter, .arabicNumber].contains (direction c)

def labelFits (label : List Char) : Bool :=
  mapName label == some label && !label.contains '.' && !(label.head?.any markRanges.contains) && joinersFit [] label

def punycodeMark : List Char := ['x', 'n', '-', '-']

structure Label where
  readable : List Char
  ascii : List Char

def Label.of? (label : List Char) : Option Label :=
  if punycodeMark.isPrefixOf label then
    if !isAscii label then none
    else match Punycode.decode (label.drop 4) with
      | none => none
      | some codes =>
        let readable := codes.map Char.ofNat
        if isAscii readable || !labelFits readable then none else some ⟨readable, label⟩
  else if isAscii label then some ⟨label, label⟩
  else if labelFits label then some ⟨label, punycodeMark ++ Punycode.encode (label.map Char.toNat)⟩
  else none

def joinLabels (labels : List (List Char)) : List Char :=
  match labels with
  | [] => []
  | [label] => label
  | label :: rest => label ++ '.' :: joinLabels rest

def domainToAscii (bytes : Text.Bytes) : Option (List Char) := do
  let mapped ← mapName (Text.decodeFrom .ready bytes)
  let labels ← (Text.partsBetween (· == '.') mapped).mapM Label.of?
  if labels.any (·.readable.any fun c => c.toNat < 128 && isForbidden c) then none
  let readable := labels.map (·.readable)
  if readable.any (fun label => !isAscii label && label.any isRightToLeft) && !readable.all directionsFit then none
  some (joinLabels (labels.map (·.ascii)))

end GuestSandbox.Url
