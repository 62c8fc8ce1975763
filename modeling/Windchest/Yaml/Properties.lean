/-
# Windchest.Yaml.Properties -- reading with anchors and tags

While a text is read, the place in it is known, the column that lines have to reach,
the anchors met so far, and the prefixes of tags.  A node may have an anchor and a tag
in front, in either order.  An alias stands for what its anchor was put on; within
that node itself it says nothing.
-/
import Windchest.Yaml.Scalar

namespace Windchest.Yaml

set_option autoImplicit false

/-- How far a text has been read. -/
structure State where
  cursor : Cursor
  /-- The column that further lines of the current value have to reach. -/
  floor : Int := -1
  /-- The offset at which a colon marks a value whatever follows it. -/
  adjacent : Option Nat := none
  /-- The anchors, in the order of the text. -/
  anchors : List (String × Node) := []
  /-- The prefixes that tag handles stand for. -/
  handles : List (String × String) := []

/-- Reads a part of a text, if it is well formed. -/
abbrev Reading := StateT State Option

namespace Reading

/-- The cursor. -/
def here : Reading Cursor := State.cursor <$> get

/-- Moves the cursor. -/
def goTo (cursor : Cursor) : Reading Unit := modify fun s => { s with cursor }

/-- Moves the cursor over `n` characters. -/
def advance (n : Nat) : Reading Unit := do goTo ((← here).advance n)

/-- Goes on to the next token. -/
def skip : Reading Unit := do
  let s ← get
  goTo (← s.cursor.skip s.floor)

/-- Goes over blanks and a comment behind a token. -/
def closeToken : Reading Unit := do goTo (← (← here).closeToken)

/-- Sets the column that lines have to reach. -/
def setFloor (floor : Int) : Reading Unit := modify fun s => { s with floor }

/-- Fails unless a condition holds. -/
def require (condition : Bool) : Reading Unit := if condition then pure () else failure

end Reading

/-- What stands in front of a node. -/
structure Properties where
  /-- The position of the anchor among all anchors. -/
  anchor : Option Nat := none
  tag : Option Tag := none
deriving DecidableEq, Repr

namespace Properties

/-- No properties. -/
def none : Properties := {}

/-- All properties of two lists, which must not hold two of a kind. -/
def join (a b : Properties) : Reading Properties := do
  Reading.require (! (a.anchor.isSome && b.anchor.isSome) && ! (a.tag.isSome && b.tag.isSome))
  return ⟨a.anchor <|> b.anchor, a.tag <|> b.tag⟩

end Properties

/-- The prefix of the tags of the basic kinds. -/
def basicPrefix : String := "tag:yaml.org,2002:"

/-- Whether a character may stand in a tag. -/
def isTagChar (c : Char) : Bool :=
  c.isAlphanum || "#;/?:@&=+$_.~*'()%-".toList.contains c

/-- Whether a character may stand in the name of a tag handle. -/
def isHandleChar (c : Char) : Bool := c.isAlphanum || c == '-' || c == '_'

/-- The tag that a prefix and the rest of its name make. -/
def Tag.ofParts (start name : String) : Tag := if start = basicPrefix then .basic name else .other

/-- Reads the tag that starts here. -/
def readTag (inFlow : Bool) : Reading Tag := do
  let text := (← Reading.here).rest.drop 1
  let s ← get
  let (tag, length) ←
    match text with
    | '<' :: rest =>
      let inner := rest.takeWhile fun c => isTagChar c || isFlow c || c == '!'
      Reading.require ((rest.drop inner.length).head? == some '>' && ! inner.isEmpty)
      pure (Tag.other, inner.length + 2)
    | _ =>
      let word := text.takeWhile isHandleChar
      match text.drop word.length with
      | '!' :: rest =>
        let handle := String.ofList ('!' :: word ++ ['!'])
        let name := rest.takeWhile isTagChar
        Reading.require (! name.isEmpty)
        let known := (s.handles.lookup handle) <|> (if word.isEmpty then some basicPrefix else none)
        pure (Tag.ofParts (← known) (String.ofList name), word.length + 1 + name.length)
      | _ =>
        let name := text.takeWhile isTagChar
        let start := (s.handles.lookup "!").getD "!"
        pure (if name.isEmpty then .other else Tag.ofParts start (String.ofList name), name.length)
  Reading.advance (length + 1)
  let rest := (← Reading.here).rest
  Reading.require (isGap rest || (inFlow && (rest.head?.map isFlow).getD false))
  return tag

/-- Reads the name of the anchor or alias that starts here. -/
def readName : Reading String := do
  let text := (← Reading.here).rest.drop 1
  let name := text.takeWhile fun c => ! isBlank c && c != '\n' && ! isFlow c
  Reading.require (! name.isEmpty)
  Reading.advance (name.length + 1)
  return String.ofList name

/-- Reads the alias that starts here. -/
def readAlias : Reading Node := do
  let name ← readName
  (← get).anchors.reverse.lookup name

/-- Reads the anchor that starts here. -/
def readAnchor : Reading Nat := do
  let name ← readName
  modifyGet fun s => (s.anchors.length, { s with anchors := s.anchors ++ [(name, .null)] })

/-- Reads at most one property, and what separates it from what follows on its line. -/
def readProperty (inFlow : Bool) : Reading Properties := do
  let properties ←
    match (← Reading.here).rest with
    | '&' :: _ => pure { anchor := some (← readAnchor) }
    | '!' :: _ => pure { tag := some (← readTag inFlow) }
    | _ => return .none
  if isGap (← Reading.here).rest then Reading.closeToken
  return properties

/-- Reads the properties that start here. -/
def readProperties (inFlow : Bool) : Reading Properties := do
  let first ← readProperty inFlow
  if first = .none then return first
  if inFlow then Reading.skip
  let second ← readProperty inFlow
  if inFlow then Reading.skip
  first.join second

/-- What a node is written as: a text without quotes, whose kind is open, or a node. -/
inductive Written where
  | plain (text : String)
  | node (value : Node)

/-- The node that is written under a tag. -/
def Written.toNode (tag : Option Tag) : Written → Node
  | .node value => value
  | .plain text => .scalar ((tag.map fun t => .ofTagged t text).getD (.ofPlain text))

/-- The node with properties, whose anchor from now on stands for it. -/
def finish (properties : Properties) (written : Written) : Reading Node := do
  let node := written.toNode properties.tag
  match properties.anchor with
  | some i =>
    modify fun s => { s with anchors := s.anchors.modify i fun entry => (entry.1, node) }
  | none => pure ()
  return node

end Windchest.Yaml
