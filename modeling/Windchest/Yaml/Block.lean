/-
# Windchest.Yaml.Block -- scalars in lines of their own

A block scalar has a header and then lines that are indented.  A literal one keeps its
line breaks; in a folded one a single break between two lines that start with text
becomes a blank.  The header says what happens to the breaks at the end, and may fix
the indentation, which otherwise that of the first line with text decides.
-/
import Windchest.Yaml.Cursor

namespace Windchest.Yaml

set_option autoImplicit false

/-- What happens to line breaks at the end of a block scalar. -/
inductive Chomping where
  /-- One is kept. -/
  | clip
  | strip
  | keep
deriving DecidableEq, Repr

/-- The header of a block scalar. -/
structure BlockHeader where
  folded : Bool
  chomping : Chomping := .clip
  /-- How much further the lines are indented than their surroundings, if it is said. -/
  increment : Option Nat := none
deriving DecidableEq, Repr

/-- The chomping that a character stands for. -/
def Chomping.ofChar? : Char → Option Chomping
  | '+' => some .keep
  | '-' => some .strip
  | _ => none

/-- The increment that a character stands for. -/
def increment? (c : Char) : Option Nat :=
  if c.isDigit && c != '0' then some (c.toNat - 48) else none

/-- The header behind its first character, in either order, and the number of characters. -/
def BlockHeader.read (folded : Bool) : List Char → BlockHeader × Nat
  | a :: b :: _ =>
    match Chomping.ofChar? a, increment? b, increment? a, Chomping.ofChar? b with
    | some chomping, some n, _, _ => (⟨folded, chomping, some n⟩, 2)
    | some chomping, none, _, _ => (⟨folded, chomping, none⟩, 1)
    | none, _, some n, some chomping => (⟨folded, chomping, some n⟩, 2)
    | none, _, some n, none => (⟨folded, .clip, some n⟩, 1)
    | none, _, none, _ => (⟨folded, .clip, none⟩, 0)
  | [a] =>
    match Chomping.ofChar? a, increment? a with
    | some chomping, _ => (⟨folded, chomping, none⟩, 1)
    | none, n => (⟨folded, .clip, n⟩, if n.isSome then 1 else 0)
  | [] => (⟨folded, .clip, none⟩, 0)

/-- The lines of a text.  The last one has no line break. -/
def lines : List Char → List (List Char)
  | [] => [[]]
  | '\n' :: rest => [] :: lines rest
  | c :: rest =>
    match lines rest with
    | first :: more => (c :: first) :: more
    | [] => [[c]]

/-- The number of spaces at the start of a line. -/
def indentation (line : List Char) : Nat := (line.takeWhile (· == ' ')).length

/-- The indentation that the lines have by themselves: that of the first with text, or of an empty
line before it that is longer. -/
def ownIndentation : List (List Char) → Nat
  | [] => 0
  | [last] => indentation last
  | line :: rest =>
    if indentation line = line.length then max line.length (ownIndentation rest)
    else indentation line

/-- A line of a block scalar. -/
inductive BlockLine where
  | empty
  /-- The text behind the indentation. -/
  | text (content : List Char)
deriving DecidableEq, Repr

/-- The lines of a block scalar with an indentation, and the lines that follow it; the last line
of the text is the first of these unless it has text. -/
def takeBlock (indent : Nat) : List (List Char) → List BlockLine × List (List Char)
  | [] => ([], [])
  | line :: rest =>
    let spaces := min indent (indentation line)
    let content := line.drop spaces
    if content.isEmpty then
      if rest.isEmpty then ([], [line])
      else
        let (more, after) := takeBlock indent rest
        (.empty :: more, after)
    else if spaces < indent || (indent = 0 && line.take 3 == ['.', '.', '.']
        && isGap (line.drop 3)) then ([], line :: rest)
    else
      let (more, after) := takeBlock indent rest
      (.text content :: more, after)

/-- What has been read of a block scalar. -/
structure BlockText where
  done : List Char := []
  /-- Whether there is a line with text. -/
  broken : Bool := false
  /-- Whether that line starts with a blank. -/
  blank : Bool := false
  /-- The empty lines since then. -/
  empty : Nat := 0

/-- The block scalar and one line more. -/
def BlockText.add (folded : Bool) (b : BlockText) : BlockLine → BlockText
  | .empty => { b with empty := b.empty + 1 }
  | .text content =>
    let blank := (content.head?.map isBlank).getD false
    let between :=
      if ! b.broken then []
      else if folded && ! b.blank && ! blank then if b.empty = 0 then [' '] else []
      else ['\n']
    { done := b.done ++ between ++ List.replicate b.empty '\n' ++ content
      broken := true
      blank := blank }

/-- The text of a block scalar.  `padded` says that the text as a whole ends in a line that is just
indented. -/
def BlockText.close (b : BlockText) (chomping : Chomping) (padded : Bool) : List Char :=
  let last := if chomping ≠ .strip ∧ b.broken then ['\n'] else []
  let padding := if chomping ≠ .strip ∧ padded then ['\n'] else []
  let more := if chomping = .keep then List.replicate b.empty '\n' else []
  b.done ++ last ++ padding ++ more

/-- The text of a block scalar without lines that have text, if the whole text ends in it. -/
def emptyBlock (chomping : Chomping) (empty : Nat) : List Char :=
  match chomping with
  | .strip => []
  | .clip => ['\n']
  | .keep => List.replicate (max empty 1) '\n'

/-- The block scalar whose header starts here, within surroundings that start in the column
`parent`. -/
def Cursor.block (c : Cursor) (parent : Int) : Option (String × Cursor) := do
  let (header, length) := BlockHeader.read (c.rest.head? == some '>') (c.rest.drop 1)
  let c ← (c.advance (length + 1)).closeToken
  match c.rest with
  | [] => return ("", c)
  | a :: rest =>
    if a ≠ '\n' ∨ rest.head? = some '\t' then none
    let c := c.advance 1
    let all := lines rest
    let indent :=
      match header.increment with
      | some n => (max parent 0).toNat + n
      | none => max (ownIndentation all) (parent + 1).toNat
    let (block, after) := takeBlock indent all
    let stop := after.headD []
    let spaces := min indent (indentation stop)
    let ended := after.length ≤ 1 && stop.length = spaces
    let left := after.flatten.length + (after.length - 1)
    let next := c.advance (rest.length - left + spaces)
    let text := block.foldl (BlockText.add header.folded) {}
    if text.broken then
      let padded := after.length = 1 && ended && spaces = indent && 0 < indent
      return (String.ofList (text.close header.chomping padded), next)
    else if ended then
      return (String.ofList (emptyBlock header.chomping block.length), next)
    else
      if spaces < indent ∧ parent < spaces then none
      return (String.ofList (text.close header.chomping false), next)

end Windchest.Yaml
