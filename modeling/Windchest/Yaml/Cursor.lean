/-
# Windchest.Yaml.Cursor -- a place in a text, and the white space around it

Line breaks of all kinds count as one character.  `skip` goes on to the next thing
that is neither white space nor a comment; `closeToken` looks at what follows a token
on its line, where a comment needs a blank in front.
-/

namespace Windchest.Yaml

set_option autoImplicit false

/-- A place in a text. -/
structure Place where
  line : Nat := 0
  column : Nat := 0
  /-- The number of characters in front. -/
  offset : Nat := 0
deriving DecidableEq, Repr

/-- The place behind a character. -/
def Place.after (p : Place) (c : Char) : Place :=
  if c = '\n' then ⟨p.line + 1, 0, p.offset + 1⟩ else ⟨p.line, p.column + 1, p.offset + 1⟩

/-- A text from some place on. -/
structure Cursor where
  rest : List Char
  place : Place := {}
deriving DecidableEq, Repr

/-- Whether a character is a blank. -/
def isBlank (c : Char) : Bool := c == ' ' || c == '\t'

/-- Whether a text goes on with white space, or not at all. -/
def isGap : List Char → Bool
  | [] => true
  | c :: _ => isBlank c || c == '\n'

/-- Whether a text goes on with a line break, or not at all. -/
def atLineEnd : List Char → Bool
  | [] => true
  | c :: _ => c == '\n'

/-- Whether a character belongs to the brackets of flow collections. -/
def isFlow (c : Char) : Bool := [',', '[', ']', '\x7b', '\x7d'].contains c

/-- All line breaks as one character; the text ends at the first character NUL. -/
def normalizeBreaks : List Char → List Char
  | [] => []
  | '\r' :: '\n' :: rest => '\n' :: normalizeBreaks rest
  | c :: rest =>
    if c = '\x00' then [] else (if c = '\r' then '\n' else c) :: normalizeBreaks rest

namespace Cursor

/-- The cursor at the start of a text. -/
def ofText (text : String) : Cursor := ⟨normalizeBreaks text.toList, {}⟩

/-- The cursor behind the next `n` characters. -/
def advance (c : Cursor) : Nat → Cursor
  | 0 => c
  | n + 1 =>
    match c.rest with
    | [] => c
    | a :: rest => advance ⟨rest, c.place.after a⟩ n

/-- The column, as a number that may be compared with the column before the first. -/
def column (c : Cursor) : Int := c.place.column

/-- Whether three equal signs and a gap stand at the start of this line. -/
def atSign (c : Cursor) (sign : Char) : Bool :=
  c.place.column == 0 && c.rest.take 3 == [sign, sign, sign] && isGap (c.rest.drop 3)

/-- Whether the mark of a document's start or end stands here. -/
def atDocumentMark (c : Cursor) : Bool := c.atSign '-' || c.atSign '.'

/-- Whether a character stands here with a gap behind it. -/
def atIndicator (c : Cursor) (indicator : Char) : Bool :=
  match c.rest with
  | a :: rest => a == indicator && isGap rest
  | [] => false

/-- What `skip` has seen of the line. -/
inductive LineState where
  /-- Only blanks. -/
  | leading
  /-- A tab where indentation should be. -/
  | tabbed
  | comment
  | other
deriving DecidableEq

/-- Goes over white space and comments.  In lines that have to reach the column `floor`, tabs do
not count as indentation. -/
def skipFrom (floor : Int) : LineState → List Char → Place → Option Cursor
  | _, [], p => some ⟨[], p⟩
  | state, a :: rest, p =>
    if a = '\n' then skipFrom floor .leading rest (p.after a)
    else if state = .comment then skipFrom floor .comment rest (p.after a)
    else if a = ' ' then skipFrom floor state rest (p.after a)
    else if a = '\t' then
      let next := if state = .leading && (p.column : Int) < floor then .tabbed else state
      skipFrom floor next rest (p.after a)
    else if a = '#' then skipFrom floor .comment rest (p.after a)
    else if state = .tabbed then none
    else some ⟨a :: rest, p⟩

/-- Goes on to the next token. -/
def skip (c : Cursor) (floor : Int) : Option Cursor :=
  skipFrom floor (if c.place.column = 0 then .leading else .other) c.rest c.place

/-- Goes over the blanks behind a token, and over a comment that they set off. -/
def closeToken (c : Cursor) : Option Cursor :=
  let blanks := (c.rest.takeWhile isBlank).length
  let c' := c.advance blanks
  match c'.rest with
  | '#' :: _ =>
    if blanks = 0 then none else some (c'.advance (c'.rest.takeWhile (· != '\n')).length)
  | _ => some c'

end Cursor

end Windchest.Yaml
