import Bibliography.Yaml.Token

/-!
# Nodes of YAML

The structure of a YAML document: scalars, sequences and mappings, each with its tag. An alias is
the node that was given its name before; where that node has not ended yet, it is a cycle. A text
holds one document, or none.
-/

namespace Bibliography.Yaml

/-- A node. A scalar without a tag is resolved by its text only if it is plain. -/
inductive Node where
  | scalar (tag : Option String) (plain : Bool) (text : String)
  | sequence (tag : Option String) (items : List Node)
  | mapping (tag : Option String) (pairs : List (Node × Node))
  /-- A mapping or a sequence that the node itself is a part of. -/
  | cycle (ofMapping : Bool) (tag : Option String)
  deriving Inhabited

/-- The tag of a node. -/
def Node.tag : Node → Option String
  | scalar tag _ _ => tag
  | sequence tag _ => tag
  | mapping tag _ => tag
  | cycle _ tag => tag

/-- What the tags of the schema begin with. -/
def schemaPrefix : String := "tag:yaml.org,2002:"

/-- The handles of tags that are known without a directive. -/
def defaultHandles : List (String × String) := [("!", "!"), ("!!", schemaPrefix)]

/-- The state of the parser: the tokens that are left, and the nodes that have names. A node whose
end has not been met yet is a cycle. -/
structure Parser where
  tokens : List Token
  anchors : List (String × Node)

/-- A step of the parser. -/
abbrev Parse := StateT Parser (Except Fault)

/-! ## §1 Tokens -/

/-- The next token. -/
def next? : Parse (Option Token) := do
  match (← get).tokens.head? with
  | some (.invalid fault) => throw fault
  | next => return next

/-- Passes over the next token. -/
def skip : Parse Unit := modify fun s => { s with tokens := s.tokens.tail }

/-- Whether the next token is among given ones. -/
def nextIn (ts : List Token) : Parse Bool := do
  match ← next? with
  | none => return false
  | some t => return ts.contains t

/-- Passes over the next token if it is a given one. -/
def accept (t : Token) : Parse Bool := do
  if ← nextIn [t] then
    skip
    return true
  else return false

/-- Passes over a token that must be there. -/
def require (t : Token) : Parse Unit := do
  if !(← accept t) then throw .unexpectedToken

/-- The node of an entry that is left out. -/
def emptyNode : Node := .scalar none true ""

/-- The name that a node is given, if the next token gives one. -/
def anchor? : Parse (Option String) := do
  match ← next? with
  | some (.anchor name) => skip; return some name
  | _ => return none

/-- The tag that the next token is, if it is one, with its handle. -/
def tag? : Parse (Option (Option String × String)) := do
  match ← next? with
  | some (.tag handle suffix) => skip; return some (handle, suffix)
  | _ => return none

/-- The properties of a node: the name it is given and its tag, in either order. -/
def properties (handles : List (String × String)) : Parse (Option String × Option String) := do
  let (anchor, tag) ← (do
    match ← anchor? with
    | some name => return (some name, ← tag?)
    | none =>
      match ← tag? with
      | none => return (none, none)
      | some tag => return (← anchor?, some tag) :
    Parse (Option String × Option (Option String × String)))
  match tag with
  | none => return (anchor, none)
  | some (none, suffix) => return (anchor, some suffix)
  | some (some handle, suffix) =>
    match handles.lookup handle with
    | some tagPrefix => return (anchor, some (tagPrefix ++ suffix))
    | none => throw .badTag

/-- Gives a node that begins a name. -/
def openAnchor (anchor tag : Option String) : Parse Unit := do
  let next ← next?
  if let some name := anchor then
    if (← get).anchors.any (·.1 == name) then throw (.duplicateAnchor name)
    let ofMapping := next == some .flowMappingStart || next == some .mappingStart
    modify fun s => { s with anchors := (name, .cycle ofMapping tag) :: s.anchors }

/-- Keeps a node under its name. -/
def closeAnchor (anchor : Option String) (node : Node) : Parse Node := do
  if let some name := anchor then
    modify fun s => { s with
      anchors := s.anchors.map fun p => if p.1 == name then (name, node) else p }
  return node

/-! ## §2 Nodes -/

/-- Where a node stands: in a flow collection, in a block collection, or as a value of a block
mapping, where a sequence needs no indentation. -/
inductive Context where
  | flow
  | block
  | blockValue
  deriving DecidableEq, Repr

mutual

/-- Reads a node. -/
def parseNode (handles : List (String × String)) (context : Context) : Nat → Parse Node
  | 0 => throw .tooLong
  | fuel + 1 => do
    -- an alias stands for a node that has been read, and has no properties
    if let some (.alias name) ← next? then
      skip
      match (← get).anchors.lookup name with
      | some node => return node
      | none => throw (.undefinedAlias name)
    let (anchor, tag) ← properties handles
    openAnchor anchor tag
    let ofBlock := context != .flow
    let node ← (do
      match ← next? with
      | some (.scalar text plain) =>
        skip
        -- a plain text is given a kind by its form unless it has a tag
        pure (.scalar (tag.filter (· ≠ "!")) ((plain && tag.isNone) || tag == some "!") text)
      | some .flowSequenceStart => skip; pure (.sequence tag (← flowItems handles true fuel))
      | some .flowMappingStart => skip; pure (.mapping tag (← flowPairs handles true fuel))
      | some .blockEntry =>
        if context = .blockValue then pure (.sequence tag (← looseItems handles fuel))
        else leftOut anchor tag
      -- a block collection begins where blocks are allowed, or else the node is left out
      | some .sequenceStart =>
        if ofBlock then skip; pure (.sequence tag (← blockItems handles fuel))
        else leftOut anchor tag
      | some .mappingStart =>
        if ofBlock then skip; pure (.mapping tag (← blockPairs handles fuel))
        else leftOut anchor tag
      | _ => leftOut anchor tag : Parse Node)
    closeAnchor anchor node
where
  /-- A node that consists of its properties only. -/
  leftOut (anchor tag : Option String) : Parse Node := do
    if anchor.isNone && tag.isNone then throw .unexpectedToken
    return .scalar (tag.filter (· ≠ "!")) (tag.isNone || tag == some "!") ""

/-- Reads the entries of a block sequence. -/
def blockItems (handles : List (String × String)) : Nat → Parse (List Node)
  | 0 => throw .tooLong
  | fuel + 1 => do
    if ← accept .blockEntry then
      let item ← if ← nextIn [.blockEntry, .blockEnd] then pure emptyNode
        else parseNode handles .block fuel
      return item :: (← blockItems handles fuel)
    else
      require .blockEnd
      return []

/-- Reads the entries of a sequence that needs no indentation. -/
def looseItems (handles : List (String × String)) : Nat → Parse (List Node)
  | 0 => throw .tooLong
  | fuel + 1 => do
    if ← accept .blockEntry then
      let item ← if ← nextIn [.blockEntry, .key, .value, .blockEnd] then pure emptyNode
        else parseNode handles .block fuel
      return item :: (← looseItems handles fuel)
    else return []

/-- Reads the entries of a block mapping. -/
def blockPairs (handles : List (String × String)) : Nat → Parse (List (Node × Node))
  | 0 => throw .tooLong
  | fuel + 1 => do
    let part : Parse Node := do
      if ← nextIn [.key, .value, .blockEnd] then return emptyNode
      else parseNode handles .blockValue fuel
    if ← accept .key then
      let key ← part
      let value ← if ← accept .value then part else pure emptyNode
      return (key, value) :: (← blockPairs handles fuel)
    -- the end of the block has been put in by the scanner
    else
      require .blockEnd
      return []

/-- Reads the entries of a flow sequence; a key with a mark begins a mapping of one pair. -/
def flowItems (handles : List (String × String)) (first : Bool) : Nat → Parse (List Node)
  | 0 => throw .tooLong
  | fuel + 1 => do
    if ← accept .flowSequenceEnd then return []
    -- all items but the first come behind a comma
    if !first then require .flowEntry
    if ← accept .key then
      let key ← if ← nextIn [.value, .flowEntry, .flowSequenceEnd] then pure emptyNode
        else parseNode handles .flow fuel
      let value ← if ← accept .value then
          if ← nextIn [.flowEntry, .flowSequenceEnd] then pure emptyNode
          else parseNode handles .flow fuel
        else pure emptyNode
      return .mapping none [(key, value)] :: (← flowItems handles false fuel)
    else if ← accept .flowSequenceEnd then return []
    else
      let item ← parseNode handles .flow fuel
      return item :: (← flowItems handles false fuel)

/-- Reads the entries of a flow mapping; a value without a key mark is a key with nothing. -/
def flowPairs (handles : List (String × String)) (first : Bool) : Nat → Parse (List (Node × Node))
  | 0 => throw .tooLong
  | fuel + 1 => do
    if ← accept .flowMappingEnd then return []
    if !first then require .flowEntry
    if ← accept .key then
      let key ← if ← nextIn [.value, .flowEntry, .flowMappingEnd] then pure emptyNode
        else parseNode handles .flow fuel
      let value ← if ← accept .value then
          if ← nextIn [.flowEntry, .flowMappingEnd] then pure emptyNode
          else parseNode handles .flow fuel
        else pure emptyNode
      return (key, value) :: (← flowPairs handles false fuel)
    else if ← accept .flowMappingEnd then return []
    else
      -- without a mark the node is the key
      let key ← parseNode handles .flow fuel
      return (key, emptyNode) :: (← flowPairs handles false fuel)

end

/-! ## §3 Documents -/

/-- Reads the directives before a document. -/
def directives : List (String × String) → Bool → List Token →
    Except Fault (List (String × String) × List Token)
  | handles, versioned, .directive name arguments :: rest =>
    match name, arguments with
    | "YAML", [major, _] =>
      if versioned ∨ major.toList.dropWhile (· == '0') ≠ ['1'] then .error .badDirective
      else directives handles true rest
    | "TAG", [handle, tagPrefix] =>
      if handles.any (·.1 == handle) then .error .badDirective
      else directives ((handle, tagPrefix) :: handles) versioned rest
    | _, _ => directives handles versioned rest
  | handles, _, rest => .ok (handles ++ defaultHandles, rest)

/-- Reads the node of a document and what ends the text. -/
def parseDocument (handles : List (String × String)) (explicit : Bool) (ts : List Token) :
    Except Fault Node := do
  -- every round takes a token or goes one level down, so this is enough
  let fuel := 4 * ts.length + 8
  let isEmpty := match ts with
    | [] => true
    | .directive _ _ :: _ => true
    | .documentStart :: _ => true
    | .documentEnd :: _ => true
    | _ => false
  let (node, final) ←
    if explicit && isEmpty then .ok (emptyNode, ⟨ts, []⟩)
    else (parseNode handles .block fuel).run ⟨ts, []⟩
  -- behind the document there may be nothing but a further one, which is refused
  match final.tokens.dropWhile (· == .documentEnd) with
  | [] => return node
  | rest =>
    match ← directives [] false rest with
    | (_, .invalid fault :: _) => throw fault
    | (_, .documentStart :: _) => throw .severalDocuments
    | _ => throw .unexpectedToken

/-- The document of a text, if there is one. -/
def Node.ofTokens? (ts : List Token) : Except Fault (Option Node) := do
  let isStart := match ts with
    | .directive _ _ :: _ => true
    | .documentStart :: _ => true
    | _ => false
  if ts.isEmpty then return none
  else if isStart then
    let (handles, rest) ← directives [] false ts
    match rest with
    | .documentStart :: rest => return some (← parseDocument handles true rest)
    | .invalid fault :: _ => throw fault
    | _ => throw .unexpectedToken
  else return some (← parseDocument defaultHandles false ts)

end Bibliography.Yaml
