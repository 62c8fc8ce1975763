/-
# Windchest.Yaml.Document -- reading a YAML document

Collections are either indented or in brackets.  An indented collection is known by
the column of its first item: what starts further left lies behind it, and nothing may
start further right except within an item.  A scalar, alias or bracketed collection
that fits on a line, with a colon behind it, is a key and opens a mapping.

Every part of a document is read with a number of steps that the length of the text
bounds, since at most four steps pass between two characters.
-/
import Windchest.Yaml.Block
import Windchest.Yaml.Properties

namespace Windchest.Yaml

set_option autoImplicit false

open Reading

/-- The most collections in brackets that may be nested. -/
def maxDepth : Nat := 255

/-- The most characters in front of the colon of a key. -/
def maxKeyLength : Nat := 1024

/-- What stands here, as far as values and keys are concerned. -/
def Cursor.atEnd (c : Cursor) : Bool := c.rest.isEmpty || c.atDocumentMark

/-- Whether a character may follow a tab behind a colon. -/
def mayFollowTab (c : Char) : Bool := ! (c.isAlphanum || c == '-' || c == '_')

/-- Goes over the colon of a value. -/
def passColon : Reading Unit := do
  advance 1
  let rest := (← here).rest
  let blanks := rest.takeWhile isBlank
  if blanks.head? = some '\t' ∧ ! blanks.contains ' ' then
    require (((rest.drop blanks.length).head?.map mayFollowTab).getD true)

/-- Goes over the dash of an item in the given column. -/
def passDash (column : Int) : Reading Unit := do
  advance 1
  let tabbed := ((← here).rest.takeWhile isBlank).contains '\t'
  closeToken
  let c ← here
  require (! (tabbed && c.atIndicator '-'))
  let opens := (c.rest.head?.map fun a => a == '\n' || isFlow a).getD false
  setFloor (if opens then column + 1 else column)

/-- Goes on to the next token in a collection in brackets, which must not end here. -/
def skipInFlow : Reading Unit := do
  skip
  let s ← get
  require (! s.cursor.atEnd && s.floor ≤ s.cursor.column)

/-- Whether the colon of a value stands here, in a collection in brackets. -/
def atFlowColon : Reading Bool := do
  let s ← get
  match s.cursor.rest with
  | ':' :: behind => return endsKey true behind || s.adjacent = some s.cursor.place.offset
  | _ => return false

/-- Marks this place as one where a colon marks a value. -/
def markAdjacent : Reading Unit :=
  modify fun s => { s with adjacent := some s.cursor.place.offset }

/-- The key that a node makes; only scalars make one. -/
def key : Node → Reading Scalar
  | .scalar s => pure s
  | _ => failure

/-- Adds an entry to a mapping that has no such key yet. -/
def addEntry (entries : List (Scalar × Node)) (k : Scalar) (v : Node) :
    Reading (List (Scalar × Node)) := do
  require ((entries.lookup k).isNone)
  return entries ++ [(k, v)]

/-- Nothing, with properties. -/
def nothing (properties : Properties) : Reading Node := finish properties (.plain "")

/-- Reads a text between quotes and looks at what follows it. -/
def readQuoted (inFlow : Bool) : Reading Written := do
  let s ← get
  let (text, c) ← s.cursor.quoted s.floor
  goTo c
  closeToken
  markAdjacent
  let c ← here
  match c.rest with
  | ':' :: _ => require (inFlow || c.place.line = s.cursor.place.line)
  | rest => require (atLineEnd rest || (inFlow && [some ',', some ']', some '\x7d'].contains rest.head?))
  return .node (.scalar (.text text))

/-- Reads a scalar without quotes. -/
def readPlain (inFlow : Bool) (parent : Int) : Reading Written := do
  let c ← here
  require (! inFlow || parent < c.column)
  let (text, c) ← c.plain inFlow (parent + 1)
  goTo c
  setFloor parent
  return .plain text

/-- Reads a block scalar. -/
def readBlock (parent : Int) : Reading Written := do
  let (text, c) ← (← here).block parent
  goTo c
  setFloor parent
  return .node (.scalar (.text text))

mutual

/-- Reads what stands here on its own: neither an indented collection nor properties.  `depth`
counts the brackets around it; after properties it may be nothing. -/
def readWritten : Nat → (parent : Int) → (depth : Nat) → (described : Bool) → Reading Written
  | 0, _, _, _ => failure
  | fuel + 1, parent, depth, described => do
    let inFlow := 0 < depth
    let c ← here
    let absent : Reading Written := do
      require described
      return .plain ""
    match c.rest with
    | [] => absent
    | a :: behind =>
      if a = '*' then
        require (! described)
        return .node (← readAlias)
      else if a = '"' ∨ a = '\'' then readQuoted inFlow
      else if a = '[' ∨ a = '\x7b' then
        require (depth < maxDepth)
        let s ← get
        if ! inFlow ∧ 0 ≤ parent ∧ s.floor = parent then setFloor (parent + 1)
        advance 1
        closeToken
        let node ←
          if a = '[' then Node.sequence <$> readItems fuel parent (depth + 1) []
          else Node.mapping <$> readPairs fuel parent (depth + 1) []
        advance 1
        closeToken
        if inFlow then markAdjacent
        return .node node
      else if isFlow a then
        require inFlow
        absent
      else if ! inFlow ∧ (a = '|' ∨ a = '>') then readBlock parent
      else if a = '\n' ∨ a = '#' then absent
      else if a = ':' ∧ (isGap behind || (inFlow && (← atFlowColon))) then absent
      else if (a = '-' ∨ a = '?') ∧ isGap behind then failure
      else if a = '%' ∨ a = '@' ∨ a.toNat = 0x60 then failure
      else readPlain inFlow parent

/-- Reads a node in brackets. -/
def readFlowNode : Nat → (parent : Int) → (depth : Nat) → Reading Node
  | 0, _, _ => failure
  | fuel + 1, parent, depth => do
    let properties ← readProperties true
    finish properties (← readWritten fuel parent depth (properties != .none))

/-- Reads what stands behind a key in brackets: a colon and a value, or nothing. -/
def readFlowValue : Nat → (parent : Int) → (depth : Nat) → Reading Node
  | 0, _, _ => failure
  | fuel + 1, parent, depth => do
    skipInFlow
    if ← atFlowColon then
      passColon
      skipInFlow
      match (← here).rest.head? with
      | some ',' | some ']' | some '\x7d' => return .null
      | _ => readFlowNode fuel parent depth
    else return .null

/-- Reads the items of a sequence in brackets up to the closing one. -/
def readItems : Nat → (parent : Int) → (depth : Nat) → List Node → Reading (List Node)
  | 0, _, _, _ => failure
  | fuel + 1, parent, depth, items => do
    skipInFlow
    if ! items.isEmpty ∧ (← here).rest.head? ≠ some ']' then
      require ((← here).rest.head? == some ',')
      advance 1
      closeToken
      skipInFlow
    let c ← here
    if c.rest.head? = some ']' then return items
    else if c.atIndicator '?' then
      advance 1
      skipInFlow
      let k ← key (← readFlowNode fuel parent depth)
      let v ← readFlowValue fuel parent depth
      readItems fuel parent depth (items ++ [.mapping [(k, v)]])
    else
      require (! (← atFlowColon))
      let item ← readFlowNode fuel parent depth
      skipInFlow
      if ← atFlowColon then
        require ((← here).place.line = c.place.line)
        let k ← key item
        let v ← readFlowValue fuel parent depth
        readItems fuel parent depth (items ++ [.mapping [(k, v)]])
      else readItems fuel parent depth (items ++ [item])

/-- Reads the entries of a mapping in brackets up to the closing one. -/
def readPairs : Nat → (parent : Int) → (depth : Nat) → List (Scalar × Node) →
    Reading (List (Scalar × Node))
  | 0, _, _, _ => failure
  | fuel + 1, parent, depth, entries => do
    skipInFlow
    if ! entries.isEmpty ∧ (← here).rest.head? ≠ some '\x7d' then
      require ((← here).rest.head? == some ',')
      advance 1
      closeToken
      skipInFlow
    let c ← here
    if c.rest.head? = some '\x7d' then return entries
    else
      if c.atIndicator '?' then
        advance 1
        skipInFlow
      let k ← if ← atFlowColon then pure .null else readFlowNode fuel parent depth
      let v ← readFlowValue fuel parent depth
      readPairs fuel parent depth (← addEntry entries (← key k) v)

/-- Reads a value within surroundings that start in the column `parent`.  A collection may start
on this line if the value is `compact`, and a sequence in the column of its surroundings if it is
`level` with them. -/
def readValue : Nat → (parent : Int) → (compact level : Bool) → Properties → Reading Node
  | 0, _, _, _, _ => failure
  | fuel + 1, parent, compact, level, properties => do
    let line := (← here).place.line
    skip
    let c ← here
    if c.atEnd then nothing properties
    else if c.column ≤ parent then
      if level ∧ c.column = parent ∧ c.atIndicator '-' then
        let items ← readSequence fuel parent true []
        finish properties (.node (.sequence items))
      else nothing properties
    else readNode fuel parent (compact || c.place.line != line) level properties

/-- Reads the node that starts here.  A collection may start here if the place is `fresh`. -/
def readNode : Nat → (parent : Int) → (fresh level : Bool) → Properties → Reading Node
  | 0, _, _, _, _ => failure
  | fuel + 1, parent, fresh, level, properties => do
    let start ← here
    if start.atIndicator '-' then
      require fresh
      finish properties (.node (.sequence (← readSequence fuel start.column false [])))
    else if start.atIndicator '?' then
      require fresh
      finish properties (.node (.mapping (← readMapping fuel start.column [])))
    else
      let own ← readProperties false
      if own ≠ .none ∧ atLineEnd (← here).rest then
        readValue fuel parent false level (← properties.join own)
      else
        let written ← readWritten fuel parent 0 (own != .none)
        skip
        let c ← here
        let isKey := c.atIndicator ':' && c.place.line = start.place.line
          && c.place.offset ≤ start.place.offset + maxKeyLength
        if isKey then
          require fresh
          let k ← key (← finish own written)
          let v ← readEntry fuel start.column
          finish properties (.node (.mapping (← readMore fuel start.column [(k, v)])))
        else finish (← properties.join own) written

/-- Reads the items of a sequence in a column. -/
def readSequence : Nat → (column : Int) → (level : Bool) → List Node → Reading (List Node)
  | 0, _, _, _ => failure
  | fuel + 1, column, level, items => do
    passDash column
    let items := items ++ [← readValue fuel column true false .none]
    skip
    let c ← here
    if c.atEnd ∨ c.column < column then return items
    else
      require (c.column = column)
      if c.atIndicator '-' then readSequence fuel column level items
      else
        require level
        return items

/-- Reads the colon behind a key, and the value. -/
def readEntry : Nat → (column : Int) → Reading Node
  | 0, _ => failure
  | fuel + 1, column => do
    passColon
    setFloor (column + 1)
    readValue fuel column false true .none

/-- Reads the next entry of a mapping in a column, and those behind it. -/
def readMapping : Nat → (column : Int) → List (Scalar × Node) → Reading (List (Scalar × Node))
  | 0, _, _ => failure
  | fuel + 1, column, entries => do
    let start ← here
    setFloor column
    if start.atIndicator '?' then
      advance 1
      let k ← key (← readValue fuel column true true .none)
      skip
      let c ← here
      let v ←
        if c.atIndicator ':' ∧ c.column = column then do
          passColon
          setFloor (column + 1)
          readValue fuel column true true .none
        else pure .null
      readMore fuel column (← addEntry entries k v)
    else
      require (! start.atIndicator '-')
      let own ← readProperties false
      let written ← readWritten fuel column 0 (own != .none)
      skip
      let c ← here
      require (c.atIndicator ':' && c.place.line = start.place.line
        && c.place.offset ≤ start.place.offset + maxKeyLength)
      let k ← key (← finish own written)
      let v ← readEntry fuel column
      readMore fuel column (← addEntry entries k v)

/-- Reads the entries of a mapping in a column behind those that are known. -/
def readMore : Nat → (column : Int) → List (Scalar × Node) → Reading (List (Scalar × Node))
  | 0, _, _ => failure
  | fuel + 1, column, entries => do
    skip
    let c ← here
    if c.atEnd ∨ c.column < column then return entries
    else
      require (c.column = column)
      readMapping fuel column entries

end

/-- The words of a line, up to a comment. -/
def lineWords (line : List Char) : List (List Char) :=
  (((String.ofList line).split isBlank).toList.map fun w => w.copy.toList).filter (! ·.isEmpty)
    |>.takeWhile fun w => w.head? != some '#'

/-- Whether a word is a version: two numbers with a point between them. -/
def isVersion (word : List Char) : Bool :=
  let major := word.takeWhile Char.isDigit
  let rest := word.drop major.length
  ! major.isEmpty && rest.head? == some '.' && 1 < rest.length && (rest.drop 1).all Char.isDigit

/-- Reads the directives in front of a document; they need its mark.  `versioned` says that the
version is known. -/
def readDirectives : Nat → (versioned : Bool) → Reading Unit
  | 0, _ => failure
  | fuel + 1, versioned => do
    skip
    let c ← here
    if c.place.column = 0 ∧ c.rest.head? = some '%' then
      let line := c.rest.takeWhile (· != '\n')
      advance line.length
      match (lineWords (line.drop 1)).map String.ofList with
      | ["YAML", version] =>
        require (! versioned && isVersion version.toList)
        readDirectives fuel true
      | "YAML" :: _ => failure
      | ["TAG", handle, start] =>
        require (((← get).handles.lookup handle).isNone)
        modify fun s => { s with handles := s.handles ++ [(handle, start)] }
        readDirectives fuel versioned
      | "TAG" :: _ => failure
      | _ => readDirectives fuel versioned
    else require (c.atSign '-')

/-- Goes over marks of the ends of documents. -/
def passEnds : Nat → Reading Unit
  | 0 => failure
  | fuel + 1 => do
    skip
    if (← here).atSign '.' then
      advance 3
      closeToken
      require (atLineEnd (← here).rest)
      passEnds fuel

/-- Reads the only document of a text, if there is one. -/
def readDocument (fuel : Nat) : Reading (Option Node) := do
  passEnds fuel
  let c ← here
  if c.rest.isEmpty then return none
  if c.place.column = 0 ∧ c.rest.head? = some '%' then readDirectives fuel false
  let marked := (← here).atSign '-'
  if marked then advance 3
  let node ← readValue fuel (-1) (! marked) false .none
  passEnds fuel
  require (← here).rest.isEmpty
  return some node

/-- What a text says that holds at most one document; nothing if it is malformed. -/
def parse? (text : String) : Option (Option Node) :=
  let cursor := Cursor.ofText text
  (·.1) <$> (readDocument (4 * cursor.rest.length + 8)).run { cursor }

end Windchest.Yaml
