/-
# Windchest.Yaml.Scalar -- scalars without quotes and between quotes

Both kinds may go on over several lines.  A single line break within them becomes a
blank, of several breaks the first is dropped, and blanks around them say nothing.
Between double quotes a backslash starts an escape; a break behind it vanishes.
-/
import Windchest.Yaml.Cursor
import Windchest.Yaml.Node

namespace Windchest.Yaml

set_option autoImplicit false

/-- White space between two characters of a scalar. -/
inductive Gap where
  /-- Blanks within a line, or nothing at all. -/
  | blanks (text : List Char)
  /-- A line break, so many more breaks, and the blanks around them. -/
  | breaks (more : Nat)
  /-- As `breaks`, but the first break is escaped. -/
  | joined (more : Nat)
deriving DecidableEq, Repr

namespace Gap

/-- No white space. -/
def empty : Gap := .blanks []

/-- Whether a line break is part of the gap. -/
def hasBreak : Gap → Bool
  | blanks _ => false
  | _ => true

/-- The gap and one blank more. -/
def blank (c : Char) : Gap → Gap
  | blanks text => blanks (text ++ [c])
  | gap => gap

/-- The gap and one line break more. -/
def newline : Gap → Gap
  | blanks _ => breaks 0
  | breaks n => breaks (n + 1)
  | joined n => joined (n + 1)

/-- What the gap adds to the scalar. -/
def text : Gap → List Char
  | blanks text => text
  | breaks 0 => [' ']
  | breaks n => List.replicate n '\n'
  | joined n => List.replicate n '\n'

end Gap

/-- Whether a colon here marks a value: a gap follows, or in a flow collection a bracket or comma. -/
def endsKey (inFlow : Bool) (behind : List Char) : Bool :=
  isGap behind || (inFlow && (behind.head?.map isFlow).getD false)

/-- Whether a scalar without quotes ends in front of what comes next. -/
def endsPlain (inFlow : Bool) (gap : Gap) : List Char → Bool
  | [] => true
  | a :: behind =>
    (a == '#' && gap != .empty) || (a == ':' && endsKey inFlow behind) || (inFlow && isFlow a)

/-- Reads on in a scalar without quotes.  Outside of flow collections its lines have to reach the
column `indent`. -/
def plainFrom (inFlow : Bool) (indent : Int) :
    Cursor.LineState → Gap → List Char → List Char → Place → Option (List Char × Cursor)
  | _, _, done, [], p => some (done.reverse, ⟨[], p⟩)
  | state, gap, done, a :: rest, p =>
    if a = '\n' then plainFrom inFlow indent .other gap.newline done rest (p.after a)
    else if state = .comment then plainFrom inFlow indent .comment gap done rest (p.after a)
    else if isBlank a then
      let state := if a = '\t' ∧ gap.hasBreak ∧ p.column < indent then .tabbed else state
      plainFrom inFlow indent state (gap.blank a) done rest (p.after a)
    else if state = .tabbed then
      if a = '#' then plainFrom inFlow indent .comment gap done rest (p.after a) else none
    else
      let here : Cursor := ⟨a :: rest, p⟩
      let outside := gap.hasBreak && ((! inFlow && p.column < indent) || here.atDocumentMark)
      let first := done.isEmpty || gap != .empty
      if outside then some (done.reverse, here)
      else if inFlow && first && a == '-' && (rest.head?.map isFlow).getD false then none
      else if endsPlain inFlow gap (a :: rest) then some (done.reverse, here)
      else
        plainFrom inFlow indent state .empty (a :: (gap.text.reverse ++ done)) rest (p.after a)

/-- The characters that stand for one other character behind a backslash. -/
def simpleEscapes : List (Char × Char) :=
  [('0', '\x00'), ('a', '\x07'), ('b', '\x08'), ('t', '\t'), ('\t', '\t'), ('n', '\n'),
    ('v', '\x0b'), ('f', '\x0c'), ('r', '\r'), ('e', '\x1b'), (' ', ' '), ('"', '"'),
    ('/', '/'), ('\\', '\\'), ('N', '\u0085'), ('_', '\u00a0'), ('L', '\u2028'),
    ('P', '\u2029')]

/-- The marks of escapes by code point, and their numbers of digits. -/
def codeEscapes : List (Char × Nat) := [('x', 2), ('u', 4), ('U', 8)]

/-- What the next character between quotes is. -/
inductive QuoteState where
  | text
  /-- The second of two quotes, which stand for one. -/
  | doubled
  | escape
  /-- One of so many digits of a code point, behind those that make `value`. -/
  | code (missing value : Nat)
deriving DecidableEq

/-- The character with a code point. -/
def charOf? (n : Nat) : Option Char := if n.isValidChar then some (Char.ofNat n) else none

/-- Reads on between quotes, up to the closing one.  All lines have to reach the column `floor`. -/
def quotedFrom (quote : Char) (floor : Int) :
    QuoteState → Gap → List Char → List Char → Place → Option (List Char × Cursor)
  | _, _, _, [], _ => none
  | .doubled, _, done, a :: rest, p =>
    quotedFrom quote floor .text .empty (a :: done) rest (p.after a)
  | .escape, _, done, a :: rest, p =>
    if a = '\n' then quotedFrom quote floor .text (.joined 0) done rest (p.after a)
    else
      match simpleEscapes.lookup a, codeEscapes.lookup a with
      | some c, _ => quotedFrom quote floor .text .empty (c :: done) rest (p.after a)
      | none, some n => quotedFrom quote floor (.code n 0) .empty done rest (p.after a)
      | none, none => none
  | .code missing value, _, done, a :: rest, p =>
    match digitValue? 16 a with
    | none => none
    | some d =>
      let value := 16 * value + d
      if 1 < missing then
        quotedFrom quote floor (.code (missing - 1) value) .empty done rest (p.after a)
      else
        match charOf? value with
        | some c => quotedFrom quote floor .text .empty (c :: done) rest (p.after a)
        | none => none
  | .text, gap, done, a :: rest, p =>
    if a = '\n' then quotedFrom quote floor .text gap.newline done rest (p.after a)
    else if isBlank a then
      if a = '\t' ∧ gap.hasBreak ∧ p.column < floor then none
      else quotedFrom quote floor .text (gap.blank a) done rest (p.after a)
    else
      let here : Cursor := ⟨a :: rest, p⟩
      let done := gap.text.reverse ++ done
      if gap.hasBreak && (p.column < floor || here.atDocumentMark) then none
      else if a = quote then
        if quote = '\'' ∧ rest.head? = some quote then
          quotedFrom quote floor .doubled .empty done rest (p.after a)
        else some (done.reverse, ⟨rest, p.after a⟩)
      else if a = '\\' ∧ quote = '"' then
        quotedFrom quote floor .escape .empty done rest (p.after a)
      else quotedFrom quote floor .text .empty (a :: done) rest (p.after a)

namespace Cursor

/-- The scalar without quotes that starts here. -/
def plain (c : Cursor) (inFlow : Bool) (indent : Int) : Option (String × Cursor) :=
  (plainFrom inFlow indent .other .empty [] c.rest c.place).map fun (text, c) =>
    (String.ofList text, c)

/-- The text between the quotes that start here. -/
def quoted (c : Cursor) (floor : Int) : Option (String × Cursor) :=
  match c.rest with
  | quote :: rest =>
    (quotedFrom quote floor .text .empty [] rest (c.place.after quote)).map fun (text, c) =>
      (String.ofList text, c)
  | [] => none

end Cursor

end Windchest.Yaml
