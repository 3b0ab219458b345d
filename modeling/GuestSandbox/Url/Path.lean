import GuestSandbox.Url.Address
import GuestSandbox.Url.Percent

-- Hierarchical paths. A path is read segment by segment; dot segments stay out of it and go back in it.

namespace GuestSandbox.Url

structure PathRules where
  isFile : Bool
  backslash : Bool

def PathRules.isSlash (rules : PathRules) (c : Char) : Bool := c == '/' || (rules.backslash && c == '\\')

def isLetter (c : Char) : Bool := c.isAlpha

def isDriveLetter (cs : List Char) : Bool :=
  match cs with
  | [letter, mark] => isLetter letter && (mark == ':' || mark == '|')
  | _ => false

def isPlainDriveLetter (cs : List Char) : Bool :=
  match cs with
  | [letter, mark] => isLetter letter && mark == ':'
  | _ => false

-- A segment that looks like a drive letter is never removed, whatever the scheme.
def isFixed (segment : List Char) : Bool :=
  match segment with
  | letter :: mark :: rest =>
    isLetter letter && (mark == ':' || mark == '|') && (rest.isEmpty || rest.head? == some '\\')
  | _ => false

def isSingleDot (segment : List Char) : Bool :=
  let plain := segment.map Char.toLower
  plain == ['.'] || plain == ['%', '2', 'e']

def isDoubleDot (segment : List Char) : Bool :=
  let plain := segment.map Char.toLower
  plain == ['.', '.'] || plain == ['.', '%', '2', 'e'] || plain == ['%', '2', 'e', '.']
    || plain == ['%', '2', 'e', '%', '2', 'e']

def goUp : List (List Char) → List (List Char)
  | [] => []
  | segment :: rest => if isFixed segment then segment :: rest else rest

structure PathResult where
  closed : List (List Char)
  final : List Char
  hasDrive : Bool
deriving Repr, DecidableEq

-- The first segment of a file path may be a drive letter; it is written with a colon.
def driveSegment (rules : PathRules) (closed : List (List Char)) (segment : List Char) : Option (List Char) :=
  if rules.isFile && closed.isEmpty && isDriveLetter segment then some (segment.take 1 ++ [':']) else none

def readSegments (rules : PathRules) (closed : List (List Char)) (hasDrive : Bool) : List (List Char) → PathResult
  | [] => ⟨closed, [], hasDrive⟩
  | segment :: rest =>
    if isDoubleDot segment then
      match rest with
      | [] => ⟨goUp closed, [], hasDrive⟩
      | next :: more => readSegments rules (goUp closed) hasDrive (next :: more)
    else if isSingleDot segment then
      match rest with
      | [] => ⟨closed, [], hasDrive⟩
      | next :: more => readSegments rules closed hasDrive (next :: more)
    else
      let course := driveSegment rules closed segment
      let segment := course.getD segment
      let hasDrive := hasDrive || course.isSome
      match rest with
      | [] => ⟨closed, segment, hasDrive⟩
      | next :: more => readSegments rules (segment :: closed) hasDrive (next :: more)

def PathResult.text (rules : PathRules) (result : PathResult) : List Char :=
  let body := joinWith '/' (result.closed.reverse ++ [result.final])
  if rules.isFile then '/' :: body.dropWhile (· == '/') else '/' :: body

def endsPath (c : Char) : Bool := c == '?' || c == '#'

def readPath (rules : PathRules) (closed : List (List Char)) (cs : List Char) : PathResult × List Char :=
  let segments := Text.partsBetween rules.isSlash (cs.takeWhile (!endsPath ·))
  (readSegments rules closed false (segments.map (encode inPathSet)), cs.dropWhile (!endsPath ·))

def openPath (path : List Char) : List (List Char) × List Char :=
  match (Text.partsBetween (· == '/') (path.drop 1)).reverse with
  | last :: closed => (closed, last)
  | [] => ([], [])

end GuestSandbox.Url
