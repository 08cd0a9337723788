import Bibliography.Text.Blank

/-!
# Tokens of YAML

What a YAML text is made of before its structure is known: markers of collections, keys and values,
and scalars with their text decoded. The indentation of a line opens and closes block collections,
and a key without a mark is recognised when the colon after it is met, so its tokens are put in
front of it then.

A text that cannot be read to its end has the tokens that are known by then, and one that holds the
fault: whoever reads the tokens may meet another fault before.
-/

namespace Bibliography.Yaml

open Text

/-! ## §1 Types -/

/-- Why a text is not YAML that can be used. -/
inductive Fault where
  | unprintable (c : Char)
  | unexpectedChar (c : Char)
  | keyWithoutColon
  | misplaced (what : String)
  | badDirective
  | badAnchor
  | badTag
  | badBlockHeader
  | badEscape
  | noCharacter (number : Nat)
  | openQuote
  | tooLong
  | unexpectedToken
  | undefinedAlias (name : String)
  | duplicateAnchor (name : String)
  | severalDocuments
  | unknownTag (tag : String)
  | wrongKind (tag : String)
  | badMerge
  | unhashableKey
  deriving DecidableEq, Repr

/-- The message of a fault. -/
def Fault.message : Fault → String
  | .unprintable _ => "special characters are not allowed"
  | .unexpectedChar _ => "found a character that cannot start any token"
  | .keyWithoutColon => "could not find expected ':'"
  | .misplaced what => what ++ " are not allowed here"
  | .badDirective => "found an invalid directive"
  | .badAnchor => "found an invalid anchor"
  | .badTag => "found an invalid tag"
  | .badBlockHeader => "found an invalid header of a block scalar"
  | .badEscape => "found an unknown escape character"
  | .noCharacter _ => "chr() arg not in range(0x110000)"
  | .openQuote => "found unexpected end of stream"
  | .tooLong => "found no end of the text"
  | .unexpectedToken => "expected the node content"
  | .undefinedAlias name => "found undefined alias " ++ name
  | .duplicateAnchor name => "found duplicate anchor " ++ name
  | .severalDocuments => "expected a single document in the stream"
  | .unknownTag tag => "could not determine a constructor for the tag " ++ tag
  | .wrongKind tag => "expected another node for the tag " ++ tag
  | .badMerge => "expected a mapping for merging"
  | .unhashableKey => "found unhashable key"

/-- A token. -/
inductive Token where
  | directive (name : String) (arguments : List String)
  | documentStart
  | documentEnd
  | sequenceStart
  | mappingStart
  | blockEnd
  | flowSequenceStart
  | flowSequenceEnd
  | flowMappingStart
  | flowMappingEnd
  | blockEntry
  | flowEntry
  | key
  | value
  | alias (name : String)
  | anchor (name : String)
  /-- A tag, with its handle unless it is written out. -/
  | tag (handle : Option String) (suffix : String)
  | scalar (text : String) (plain : Bool)
  /-- The place from where on there are no tokens. -/
  | invalid (fault : Fault)
  deriving DecidableEq, Repr, Inhabited

/-- A place where a key without a mark may have begun. -/
structure PossibleKey where
  /-- The number of tokens before it. -/
  token : Nat
  required : Bool
  index : Nat
  line : Nat
  column : Nat
  deriving DecidableEq, Repr

/-- The state of the scanner. -/
structure Scanner where
  rest : List Char
  index : Nat
  line : Nat
  column : Nat
  tokens : Array Token
  /-- How many flow collections are open. -/
  flow : Nat
  /-- The columns of the open block collections, the innermost first. -/
  indents : List Int
  allowKey : Bool
  /-- The places where keys may have begun, by the number of open flow collections. -/
  keys : List (Nat × PossibleKey)

/-- A step of the scanner. -/
abbrev Scan := StateT Scanner (Except Fault)

/-! ## §2 Characters -/

/-- The character after the last one. -/
def endMark : Char := Char.ofNat 0

/-- Whether a character breaks a line. -/
def isBreak (c : Char) : Bool :=
  c == '\n' || c == '\r' || c.toNat == 0x85 || c.toNat == 0x2028 || c.toNat == 0x2029

/-- Whether a character breaks a line or is the end. -/
def isBreakOrEnd (c : Char) : Bool := c == endMark || isBreak c

/-- Whether a character is a blank, breaks a line or is the end. -/
def isSpaceOrEnd (c : Char) : Bool := c == ' ' || c == '\t' || isBreakOrEnd c

/-- Whether a character may stand in a YAML text. -/
def isPrintable (c : Char) : Bool :=
  let n := c.toNat
  n == 0x09 || n == 0x0A || n == 0x0D || (0x20 ≤ n && n ≤ 0x7E) || n == 0x85
    || (0xA0 ≤ n && n ≤ 0xD7FF) || (0xE000 ≤ n && n ≤ 0xFFFD) || 0x10000 ≤ n

/-- Whether a character may stand in the name of an anchor or of a handle. -/
def isNameChar (c : Char) : Bool := c.isAlphanum || c == '-' || c == '_'

/-- Whether a character may stand in a tag. -/
def isTagChar (c : Char) : Bool := c.isAlphanum || "-;/?:@&=+$,_.!~*'()[]%".toList.contains c

/-- The character that is `k` characters ahead. -/
def peek (k : Nat) : Scan Char := do
  return ((← get).rest.drop k).headD endMark

/-- The column of the innermost block collection. -/
def indent : Scan Int := do
  return (← get).indents.headD (-1)

/-- Passes over one character. -/
def Scanner.forward1 (s : Scanner) : Scanner :=
  match s.rest with
  | [] => s
  | c :: rest =>
    let s := { s with rest := rest, index := s.index + 1 }
    if c = '\n' ∨ c.toNat = 0x85 ∨ c.toNat = 0x2028 ∨ c.toNat = 0x2029
        ∨ (c = '\r' ∧ rest.head? ≠ some '\n') then
      { s with line := s.line + 1, column := 0 }
    else if c.toNat = 0xFEFF then s
    else { s with column := s.column + 1 }

/-- Passes over a number of characters. -/
def forward (n : Nat) : Scan Unit := modify fun s => n.repeat Scanner.forward1 s

/-- Takes the longest run of characters of a class. -/
def takeRun (p : Char → Bool) : Scan (List Char) := do
  let run := (← get).rest.takeWhile p
  forward run.length
  return run

/-- Takes a line break, which becomes a line feed unless it is a separator of its own. -/
def takeBreak : Scan (List Char) := do
  let c ← peek 0
  -- a carriage return and the line feed behind it are one break
  if c = '\r' ∧ (← peek 1) = '\n' then
    forward 2
    return ['\n']
  -- the separators for lines and paragraphs stay as they are
  else if c.toNat = 0x2028 ∨ c.toNat = 0x2029 then
    forward 1
    return [c]
  else if isBreak c then
    forward 1
    return ['\n']
  else return []

/-- Whether a document marker made of three times a character stands here, before a blank. -/
def atMarker (c : Char) : Scan Bool := do
  return (← peek 0) == c && (← peek 1) == c && (← peek 2) == c && isSpaceOrEnd (← peek 3)

/-- Whether a marker of a document stands here. -/
def atDocumentMarker : Scan Bool := do
  return (← atMarker '-') || (← atMarker '.')

/-- Adds a token. -/
def emit (t : Token) : Scan Unit := modify fun s => { s with tokens := s.tokens.push t }

/-! ## §3 Indentation and keys -/

/-- Closes the block collections that are further in than a column. -/
def unwind (column : Int) : Scan Unit := modify fun s =>
  if s.flow ≠ 0 then s
  else
    let closed := s.indents.takeWhile (column < ·)
    { s with
      indents := s.indents.drop closed.length
      tokens := s.tokens ++ (closed.map fun _ => Token.blockEnd).toArray }

/-- Opens a block collection at a column, unless one is open there. -/
def addIndent (column : Int) : Scan Bool := do
  if (← indent) < column then
    modify fun s => { s with indents := column :: s.indents }
    return true
  else return false

/-- Gives up the possible key at the current level. -/
def removeKey : Scan Unit := do
  let s ← get
  match s.keys.lookup s.flow with
  | none => return
  | some key =>
    if key.required then throw .keyWithoutColon
    set { s with keys := s.keys.filter (·.1 != s.flow) }

/-- Remembers that a key may begin here. -/
def saveKey : Scan Unit := do
  let s ← get
  let required := s.flow == 0 && (← indent) == (s.column : Int)
  if s.allowKey then
    removeKey
    modify fun s => { s with
      keys := (s.flow, ⟨s.tokens.size, required, s.index, s.line, s.column⟩) :: s.keys }

/-- Whether a possible key began on an earlier line or too far back. -/
def Scanner.isStale (s : Scanner) (key : PossibleKey) : Bool :=
  key.line != s.line || 1024 < s.index - key.index

/-- Gives up the possible keys that are too old. -/
def staleKeys : Scan Unit := do
  let s ← get
  if s.keys.any fun p => s.isStale p.2 && p.2.required then throw .keyWithoutColon
  set { s with keys := s.keys.filter fun p => !s.isStale p.2 }

/-- The tokens that are known for sure; one that may still begin a key is not, nor are those after
it. -/
def Scanner.settled (s : Scanner) : List Token :=
  let starts := (s.keys.filter fun p => !s.isStale p.2).map fun p => p.2.token
  s.tokens.toList.take (starts.foldl min s.tokens.size)

/-- Says whether a key without a mark may begin next. -/
def allowKey (b : Bool) : Scan Unit := modify fun s => { s with allowKey := b }

/-- Passes over blanks, comments and line breaks before the next token. -/
def skipToToken : Nat → Scan Unit
  | 0 => throw .tooLong
  | fuel + 1 => do
    if (← get).index = 0 ∧ (← peek 0).toNat = 0xFEFF then forward 1
    discard (takeRun (· == ' '))
    if (← peek 0) = '#' then discard (takeRun fun c => !isBreakOrEnd c)
    if (← takeBreak).isEmpty then return
    if (← get).flow = 0 then allowKey true
    skipToToken fuel

/-! ## §4 Directives, anchors and tags -/

/-- Passes over the rest of a line, which may hold a comment. -/
def skipLineEnd (fault : Fault) : Scan Unit := do
  discard (takeRun (· == ' '))
  if (← peek 0) = '#' then discard (takeRun fun c => !isBreakOrEnd c)
  if !isBreakOrEnd (← peek 0) then throw fault
  discard takeBreak

/-- Reads the characters of a tag, with its escapes. -/
def scanTagText : Scan String := do
  let run ← takeRun isTagChar
  if run.isEmpty then throw .badTag
  -- the bytes are put together before they are decoded, since a character may take several of them
  let rec unescape : List Char → Except Fault (List UInt8)
    | [] => .ok []
    | '%' :: a :: b :: rest => do
      if isHex a && isHex b then return (hex a * 16 + hex b).toUInt8 :: (← unescape rest)
      else throw .badTag
    | c :: rest => do
      if c = '%' then throw .badTag
      return c.toNat.toUInt8 :: (← unescape rest)
  match String.fromUTF8? ⟨(← unescape run).toArray⟩ with
  | some s => return s
  | none => throw .badTag
where
  /-- Whether a character is a digit in base sixteen. -/
  isHex (c : Char) : Bool :=
    c.isDigit || ('a' ≤ c && c ≤ 'f') || ('A' ≤ c && c ≤ 'F')
  /-- The value of a digit in base sixteen. -/
  hex (c : Char) : Nat := if c.isDigit then c.toNat - 48 else c.toLower.toNat - 87

/-- Reads the handle of a tag: a mark, or a name between two marks. -/
def scanHandle (fault : Fault) : Scan String := do
  if (← peek 0) ≠ '!' then throw fault
  forward 1
  if (← peek 0) = ' ' then return "!"
  let name ← takeRun isNameChar
  if (← peek 0) = '!' then
    forward 1
    return String.ofList ('!' :: name ++ ['!'])
  else throw fault

/-- Reads a directive. -/
def scanDirective : Scan Unit := do
  forward 1
  let name ← takeRun isNameChar
  if name.isEmpty then throw .badDirective
  if !((← peek 0) = ' ' || isBreakOrEnd (← peek 0)) then throw .badDirective
  let arguments ← match String.ofList name with
    | "YAML" => do
      discard (takeRun (· == ' '))
      let major ← takeRun Char.isDigit
      if major.isEmpty || (← peek 0) ≠ '.' then throw .badDirective
      forward 1
      let minor ← takeRun Char.isDigit
      if minor.isEmpty || !((← peek 0) = ' ' || isBreakOrEnd (← peek 0)) then throw .badDirective
      pure [String.ofList major, String.ofList minor]
    | "TAG" => do
      discard (takeRun (· == ' '))
      let handle ← scanHandle .badDirective
      if (← peek 0) ≠ ' ' then throw .badDirective
      discard (takeRun (· == ' '))
      let tagPrefix ← scanTagText
      if !((← peek 0) = ' ' || isBreakOrEnd (← peek 0)) then throw .badDirective
      pure [handle, tagPrefix]
    | _ => do
      discard (takeRun fun c => !isBreakOrEnd c)
      pure []
  skipLineEnd .badDirective
  emit (.directive (String.ofList name) arguments)

/-- Reads the name of an anchor or of an alias. -/
def scanAnchor : Scan String := do
  forward 1
  let name ← takeRun isNameChar
  if name.isEmpty then throw .badAnchor
  let c ← peek 0
  if !(isSpaceOrEnd c || "?:,]\x7d%@".toList.contains c || c.toNat == 0x60) then throw .badAnchor
  return String.ofList name

/-- Reads a tag. -/
def scanTag : Scan Unit := do
  let c ← peek 1
  let (handle, suffix) ← (do
    -- between angle brackets the tag is written out; a mark alone has no name behind it
    if c = '<' then
      forward 2
      let suffix ← scanTagText
      if (← peek 0) ≠ '>' then throw .badTag
      forward 1
      pure (none, suffix)
    else if isSpaceOrEnd c then
      forward 1
      pure (none, "!")
    else
      -- whether a handle stands here is told by a second mark before the next blank
      let ahead := ((← get).rest.drop 1).takeWhile fun c => !(c == ' ' || isBreakOrEnd c)
      if ahead.contains '!' then
        let handle ← scanHandle .badTag
        pure (some handle, ← scanTagText)
      else
        forward 1
        pure (some "!", ← scanTagText) : Scan (Option String × String))
  let c ← peek 0
  if !(c = ' ' || isBreakOrEnd c) then throw .badTag
  emit (.tag handle suffix)

/-! ## §5 Block scalars -/

/-- What happens to the line breaks at the end of a block scalar. -/
inductive Chomping where
  | strip
  | clip
  | keep
  deriving DecidableEq, Repr

/-- Reads the mark for the line breaks at the end, if it is there. -/
def scanChomping : Scan Chomping := do
  let c ← peek 0
  if c = '+' then
    forward 1
    return .keep
  else if c = '-' then
    forward 1
    return .strip
  else return .clip

/-- Reads the digit for the indentation, if it is there. -/
def scanIncrement : Scan (Option Nat) := do
  let c ← peek 0
  if c = '0' then throw .badBlockHeader
  else if c.isDigit then
    forward 1
    return some (c.toNat - 48)
  else return none

/-- Reads the header of a block scalar, with its two marks in either order. -/
def scanBlockHeader : Scan (Chomping × Option Nat) := do
  let chomping ← scanChomping
  let increment ← scanIncrement
  let chomping ← if chomping = .clip ∧ increment.isSome then scanChomping else pure chomping
  if !((← peek 0) = ' ' || isBreakOrEnd (← peek 0)) then throw .badBlockHeader
  skipLineEnd .badBlockHeader
  return (chomping, increment)

/-- Reads the empty lines before a block scalar, and the furthest column that blanks reach. -/
def scanIndentation : Nat → List Char → Nat → Scan (List Char × Nat)
  | 0, _, _ => throw .tooLong
  | fuel + 1, breaks, furthest => do
    let c ← peek 0
    if c = ' ' then
      forward 1
      scanIndentation fuel breaks (max furthest (← get).column)
    else if isBreak c then scanIndentation fuel (breaks ++ (← takeBreak)) furthest
    else return (breaks, furthest)

/-- Passes over blanks up to a column. -/
def skipIndent (column : Nat) : Scan Unit := do
  let s ← get
  let blanks := s.rest.takeWhile (· == ' ')
  forward (min blanks.length (column - s.column))

/-- Reads empty lines, and the blanks up to a column of the line after them. -/
def scanEmptyLines (column : Nat) : Nat → List Char → Scan (List Char)
  | 0, _ => throw .tooLong
  | fuel + 1, breaks => do
    skipIndent column
    if isBreak (← peek 0) then scanEmptyLines column fuel (breaks ++ (← takeBreak))
    else return breaks

/-- Reads the lines of a block scalar, `breaks` being the empty lines before the next one. -/
def scanBlockLines (folded : Bool) (column : Nat) :
    Nat → List Char → List Char → List Char → Scan (List Char × List Char × List Char)
  | 0, _, _, _ => throw .tooLong
  | fuel + 1, text, lineBreak, breaks => do
    if (← get).column = column ∧ (← peek 0) ≠ endMark then
      let text := text ++ breaks
      -- lines that begin with a blank keep their breaks, and so does the line before them
      let leading := (← peek 0) ≠ ' ' ∧ (← peek 0) ≠ '\t'
      let line ← takeRun fun c => !isBreakOrEnd c
      let text := text ++ line
      let lineBreak ← takeBreak
      let breaks ← scanEmptyLines column fuel []
      if (← get).column = column ∧ (← peek 0) ≠ endMark then
        let joins := folded ∧ lineBreak = ['\n'] ∧ leading ∧ (← peek 0) ≠ ' ' ∧ (← peek 0) ≠ '\t'
        let joint := if joins then (if breaks.isEmpty then [' '] else []) else lineBreak
        scanBlockLines folded column fuel (text ++ joint) lineBreak breaks
      else return (text, lineBreak, breaks)
    else return (text, lineBreak, breaks)

/-- Reads a block scalar. -/
def scanBlockScalar (folded : Bool) (fuel : Nat) : Scan Unit := do
  forward 1
  let (chomping, increment) ← scanBlockHeader
  -- the text stands deeper than what it belongs to
  let least := max 1 ((← indent) + 1).toNat
  let (column, breaks) ← (match increment with
    | none => do
      let (breaks, furthest) ← scanIndentation fuel [] 0
      pure (max least furthest, breaks)
    | some n => do
      let column := least + n - 1
      pure (column, ← scanEmptyLines column fuel []) : Scan (Nat × List Char))
  let (text, lineBreak, breaks) ← scanBlockLines folded column fuel [] [] breaks
  let text := match chomping with
    | .strip => text
    | .clip => text ++ lineBreak
    | .keep => text ++ lineBreak ++ breaks
  emit (.scalar (String.ofList text) false)

/-! ## §6 Quoted scalars -/

/-- The character that a letter stands for after a backslash. -/
def escapeChar? (c : Char) : Option Char :=
  match c with
  | '0' => some (Char.ofNat 0)
  | 'a' => some (Char.ofNat 7)
  | 'b' => some (Char.ofNat 8)
  | 't' => some '\t'
  | '\t' => some '\t'
  | 'n' => some '\n'
  | 'v' => some (Char.ofNat 11)
  | 'f' => some (Char.ofNat 12)
  | 'r' => some '\r'
  | 'e' => some (Char.ofNat 27)
  | ' ' => some ' '
  | '"' => some '"'
  | '\\' => some '\\'
  | '/' => some '/'
  | 'N' => some (Char.ofNat 0x85)
  | '_' => some (Char.ofNat 0xA0)
  | 'L' => some (Char.ofNat 0x2028)
  | 'P' => some (Char.ofNat 0x2029)
  | _ => none

/-- The number of digits after a letter that announces a code point. -/
def escapeWidth? (c : Char) : Option Nat :=
  match c with
  | 'x' => some 2
  | 'u' => some 4
  | 'U' => some 8
  | _ => none

/-- Reads the empty lines inside quotation marks. -/
def scanQuotedBreaks : Nat → List Char → Scan (List Char)
  | 0, _ => throw .tooLong
  | fuel + 1, breaks => do
    if ← atDocumentMarker then throw .openQuote
    discard (takeRun fun c => c == ' ' || c == '\t')
    if isBreak (← peek 0) then scanQuotedBreaks fuel (breaks ++ (← takeBreak))
    else return breaks

/-- The number that digits in base sixteen at the beginning of a text denote, if there are enough. -/
def hexNumber? (width : Nat) (s : List Char) : Option Nat :=
  let digits := s.take width
  if digits.length = width ∧ digits.all scanTagText.isHex then
    some (digits.foldl (fun n d => 16 * n + scanTagText.hex d) 0)
  else none

/-- The second half of a pair of surrogates, if an escape for one comes next. -/
def lowSurrogate? : List Char → Option Nat
  | '\\' :: 'u' :: s => (hexNumber? 4 s).filter fun n => 0xDC00 ≤ n && n ≤ 0xDFFF
  | _ => none

/-- The character that stands for what is no character. -/
def replacement : Char := Char.ofNat 0xFFFD

/-- Reads the digits of an escape that gives a code point. The escapes of a pair of surrogates are one
character. -/
def scanCodePoint (width : Nat) : Scan (List Char) := do
  match hexNumber? width (← get).rest with
  | none => throw .badEscape
  | some number =>
    if 0x10FFFF < number then throw (.noCharacter number)
    forward width
    -- a high and a low surrogate give one character, either of them alone gives none
    if 0xD800 ≤ number ∧ number ≤ 0xDFFF then
      match (lowSurrogate? (← get).rest).filter fun _ => number ≤ 0xDBFF with
      | some low =>
        forward 6
        return [Char.ofNat (0x10000 + (number - 0xD800) * 0x400 + (low - 0xDC00))]
      | none => return [replacement]
    else return [Char.ofNat number]

/-- Reads an escape after its backslash. -/
def scanEscape (fuel : Nat) : Scan (List Char) := do
  let c ← peek 0
  match escapeChar? c, escapeWidth? c with
  | some d, _ =>
    forward 1
    return [d]
  | none, some width =>
    forward 1
    scanCodePoint width
  | none, none =>
    if isBreak c then
      discard takeBreak
      scanQuotedBreaks fuel []
    else throw .badEscape

/-- Reads blanks and line breaks inside quotation marks; a single break becomes a blank. -/
def scanQuotedSpace (fuel : Nat) : Scan (List Char) := do
  let blanks ← takeRun fun c => c == ' ' || c == '\t'
  let c ← peek 0
  if c = endMark then throw .openQuote
  if isBreak c then
    let lineBreak ← takeBreak
    let breaks ← scanQuotedBreaks fuel []
    if lineBreak ≠ ['\n'] then return lineBreak ++ breaks
    else if breaks.isEmpty then return [' ']
    else return breaks
  else return blanks

/-- Reads a text in quotation marks up to its closing mark. -/
def scanQuoted (double : Bool) : Nat → List Char → Scan (List Char)
  | 0, _ => throw .tooLong
  | fuel + 1, text => do
    let run ← takeRun fun c => !(c == '\'' || c == '"' || c == '\\' || isSpaceOrEnd c)
    let text := text ++ run
    let c ← peek 0
    -- two single marks are one that belongs to the text
    if c = '\'' ∧ !double then
      if (← peek 1) = '\'' then
        forward 2
        scanQuoted double fuel (text ++ ['\''])
      else
        forward 1
        return text
    else if c = '"' ∧ double then
      forward 1
      return text
    else if c = '\\' ∧ double then
      forward 1
      scanQuoted double fuel (text ++ (← scanEscape fuel))
    else if c = '\'' ∨ c = '"' ∨ c = '\\' then
      forward 1
      scanQuoted double fuel (text ++ [c])
    else scanQuoted double fuel (text ++ (← scanQuotedSpace fuel))

/-! ## §7 Plain scalars -/

/-- The length of the run of a plain scalar that begins with given characters. -/
def plainLength (inFlow : Bool) : List Char → Nat
  | [] => 0
  | c :: rest =>
    let next := rest.headD endMark
    let flowMark (c : Char) : Bool := c == ',' || c == '[' || c == ']' || c == '{' || c == '}'
    if isSpaceOrEnd c || (c == ':' && (isSpaceOrEnd next || (inFlow && flowMark next)))
        || (inFlow && (flowMark c || c == '?')) then 0
    else plainLength inFlow rest + 1

/-- Reads line breaks inside a plain scalar; none if a marker of a document follows. -/
def scanPlainBreaks : Nat → List Char → Scan (Option (List Char))
  | 0, _ => throw .tooLong
  | fuel + 1, breaks => do
    if (← peek 0) = ' ' then
      forward 1
      scanPlainBreaks fuel breaks
    else if isBreak (← peek 0) then
      let b ← takeBreak
      if ← atDocumentMarker then return none
      scanPlainBreaks fuel (breaks ++ b)
    else return some breaks

/-- Reads the space between two runs of a plain scalar. -/
def scanPlainSpace (fuel : Nat) : Scan (List Char) := do
  let blanks ← takeRun (· == ' ')
  if isBreak (← peek 0) then
    let lineBreak ← takeBreak
    allowKey true
    if ← atDocumentMarker then return []
    match ← scanPlainBreaks fuel [] with
    | none => return []
    | some breaks =>
      if lineBreak ≠ ['\n'] then return lineBreak ++ breaks
      else if breaks.isEmpty then return [' ']
      else return breaks
  else return blanks

/-- Reads a plain scalar, `space` being what stands before its next run. -/
def scanPlain (least : Int) : Nat → List Char → List Char → Scan (List Char)
  | 0, _, _ => throw .tooLong
  | fuel + 1, text, space => do
    let s ← get
    let length := plainLength (s.flow != 0) s.rest
    -- a comment or a character that no plain scalar has ends it, without the space before it
    if (← peek 0) = '#' ∨ length = 0 then return text
    allowKey false
    let text := text ++ space ++ s.rest.take length
    forward length
    let space ← scanPlainSpace fuel
    let s ← get
    if space.isEmpty ∨ (← peek 0) = '#' ∨ (s.flow = 0 ∧ (s.column : Int) < least) then return text
    scanPlain least fuel text space

/-! ## §8 The next token -/

/-- Puts tokens in front of the key that began at a place. -/
def insertAt (i : Nat) (ts : List Token) : Scan Unit := modify fun s =>
  { s with tokens := (s.tokens.take i) ++ ts.toArray ++ (s.tokens.drop i) }

/-- The mark before an entry of a block sequence. -/
def fetchBlockEntry : Scan Unit := do
  let s ← get
  if s.flow = 0 then
    if !s.allowKey then throw (.misplaced "sequence entries")
    if ← addIndent s.column then emit .sequenceStart
  allowKey true
  removeKey
  forward 1
  emit .blockEntry

/-- The mark before a key. -/
def fetchKey : Scan Unit := do
  let s ← get
  if s.flow = 0 then
    if !s.allowKey then throw (.misplaced "mapping keys")
    if ← addIndent s.column then emit .mappingStart
  allowKey (s.flow = 0)
  removeKey
  forward 1
  emit .key

/-- The mark before a value, which tells that a possible key has been one. -/
def fetchValue : Scan Unit := do
  let s ← get
  match s.keys.lookup s.flow with
  | some key =>
    -- the place before the key is known, so its tokens are put in there
    set { s with keys := s.keys.filter (·.1 != s.flow) }
    let opens ← if s.flow = 0 then addIndent key.column else pure false
    insertAt key.token (if opens then [.mappingStart, .key] else [.key])
    allowKey false
  | none =>
    if s.flow = 0 then
      if !s.allowKey then throw (.misplaced "mapping values")
      if ← addIndent s.column then emit .mappingStart
    allowKey (s.flow = 0)
    removeKey
  forward 1
  emit .value

/-- The beginning of a flow collection. -/
def fetchFlowStart (t : Token) : Scan Unit := do
  saveKey
  modify fun s => { s with flow := s.flow + 1, allowKey := true }
  forward 1
  emit t

/-- The end of a flow collection. -/
def fetchFlowEnd (t : Token) : Scan Unit := do
  removeKey
  if (← get).flow = 0 then throw .unexpectedToken
  modify fun s => { s with flow := s.flow - 1, allowKey := false }
  forward 1
  emit t

/-- A token that stands at the beginning of a line and outside all collections. -/
def fetchTopLevel (scan : Scan Unit) : Scan Unit := do
  unwind (-1)
  removeKey
  allowKey false
  scan

/-- A token with which a key may begin. -/
def fetchContent (scan : Scan Unit) : Scan Unit := do
  saveKey
  allowKey false
  scan

/-- Whether a plain scalar can begin with a character, the next one being given. -/
def startsPlain (inFlow : Bool) (c next : Char) : Bool :=
  let indicators := "-?:,[]\x7b\x7d#&*!|>'\"%@".toList
  !(isSpaceOrEnd c || indicators.contains c || c.toNat == 0x60)
    || (!isSpaceOrEnd next && (c == '-' || (!inFlow && (c == '?' || c == ':'))))

/-- Reads the next token; says whether there was one. -/
def fetch (fuel : Nat) : Scan Bool := do
  skipToToken fuel
  staleKeys
  let s ← get
  unwind s.column
  let c ← peek 0
  let next ← peek 1
  let inFlow := s.flow != 0
  if c = endMark then
    unwind (-1)
    removeKey
    return false
  if c = '%' ∧ s.column = 0 then fetchTopLevel scanDirective
  else if s.column = 0 ∧ (← atMarker '-') then
    fetchTopLevel (do forward 3; emit .documentStart)
  else if s.column = 0 ∧ (← atMarker '.') then
    fetchTopLevel (do forward 3; emit .documentEnd)
  else if c = '[' then fetchFlowStart .flowSequenceStart
  else if c = '{' then fetchFlowStart .flowMappingStart
  else if c = ']' then fetchFlowEnd .flowSequenceEnd
  else if c = '}' then fetchFlowEnd .flowMappingEnd
  else if c = ',' then
    allowKey true
    removeKey
    forward 1
    emit .flowEntry
  else if c = '-' ∧ isSpaceOrEnd next then fetchBlockEntry
  else if c = '?' ∧ (inFlow || isSpaceOrEnd next) then fetchKey
  else if c = ':' ∧ (inFlow || isSpaceOrEnd next) then fetchValue
  else if c = '*' then fetchContent (do emit (.alias (← scanAnchor)))
  else if c = '&' then fetchContent (do emit (.anchor (← scanAnchor)))
  else if c = '!' then fetchContent scanTag
  else if (c = '|' ∨ c = '>') ∧ !inFlow then
    allowKey true
    removeKey
    scanBlockScalar (c = '>') fuel
  else if c = '\'' ∨ c = '"' then
    fetchContent (do
      forward 1
      emit (.scalar (String.ofList (← scanQuoted (c = '"') fuel [])) false))
  else if startsPlain inFlow c next then
    fetchContent (do
      emit (.scalar (String.ofList (← scanPlain ((← indent) + 1) fuel [] [])) true))
  else throw (.unexpectedChar c)
  return true

/-- The tokens of a text from a state of the scanner on. -/
def tokensFrom (size : Nat) : Nat → Scanner → List Token
  | 0, s => s.settled ++ [.invalid .tooLong]
  | fuel + 1, s =>
    match (fetch size).run s with
    | .error fault => s.settled ++ [.invalid fault]
    | .ok (true, next) => tokensFrom size fuel next
    | .ok (false, final) => final.tokens.toList

/-- The tokens of a text. -/
def tokens (s : List Char) : List Token :=
  match s.find? fun c => !isPrintable c with
  | some c => [.invalid (.unprintable c)]
  | none => tokensFrom (s.length + 2) (s.length + 2) ⟨s, 0, 0, 0, #[], 0, [], true, []⟩

end Bibliography.Yaml
