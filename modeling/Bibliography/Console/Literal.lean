import Bibliography.Text.Quoted
import Bibliography.Text.WordTable

/-!
# Literal values

A tag can hand values over, which are written out: numbers, texts and bytes in quotation marks,
`None`, `True`, `False`, `...`, and tuples, sets and mappings of such values. Here a text is only
checked: it is cut into lexemes, and these must make up values between commas. What is wrong with a
lexeme is found before what is wrong with their order, except at the end of the lexemes.
-/

namespace Bibliography.Console

open Text

/-! ## §1 Faults -/

/-- Why a text is no list of literal values. -/
inductive LiteralFault where
  | nullCharacter
  | unterminated (triple : Bool) (line : Nat)
  | badNumber (kind : String)
  | badDigit (digit : Char) (kind : String)
  | leadingZeros
  | unmatched (closer : Char)
  /-- The line of the opener is told where it is another one. -/
  | mismatched (closer opener : Char) (line : Option Nat)
  | neverClosed (opener : Char)
  | tooDeep
  | afterContinuation
  | invalidCharacter (c : Char)
  | mixedBytes
  | bytesNotAscii
  | forgottenComma
  | missingValue
  | missingColon
  | illFormed
  /-- The values are well formed, but the members of a set or the keys of a mapping must not be of
  this kind. -/
  | unhashable (kind : String)
  /-- There is something else than literal values. -/
  | malformed
  deriving DecidableEq, Repr

/-- The number of a character, in base sixteen with at least four digits. -/
def codePointText (c : Char) : String :=
  let digits := (Nat.toDigits 16 c.toNat).map Char.toUpper
  "U+" ++ String.ofList (List.replicate (4 - digits.length) '0' ++ digits)

/-- The message of a fault. -/
def LiteralFault.message : LiteralFault → String
  | nullCharacter => "source code string cannot contain null bytes"
  | unterminated triple line =>
    "unterminated " ++ (if triple then "triple-quoted " else "")
      ++ "string literal (detected at line " ++ toString line ++ ")"
  | badNumber kind => "invalid " ++ kind ++ " literal"
  | badDigit digit kind =>
    "invalid digit '" ++ String.ofList [digit] ++ "' in " ++ kind ++ " literal"
  | leadingZeros =>
    "leading zeros in decimal integer literals are not permitted; "
      ++ "use an 0o prefix for octal integers"
  | unmatched closer => "unmatched '" ++ String.ofList [closer] ++ "'"
  | mismatched closer opener line =>
    "closing parenthesis '" ++ String.ofList [closer] ++ "' does not match opening parenthesis '"
      ++ String.ofList [opener] ++ "'" ++ (line.map (" on line " ++ toString ·)).getD ""
  | neverClosed opener => "'" ++ String.ofList [opener] ++ "' was never closed"
  | tooDeep => "too many nested parentheses"
  | afterContinuation => "unexpected character after line continuation character"
  | invalidCharacter c =>
    if isHidden c then "invalid non-printable character " ++ codePointText c
    else "invalid character '" ++ String.ofList [c] ++ "' (" ++ codePointText c ++ ")"
  | mixedBytes => "cannot mix bytes and nonbytes literals"
  | bytesNotAscii => "bytes can only contain ASCII literal characters"
  | forgottenComma => "invalid syntax. Perhaps you forgot a comma?"
  | missingValue => "expression expected after dictionary key and ':'"
  | missingColon => "':' expected after dictionary key"
  | illFormed => "invalid syntax"
  | unhashable kind => "unhashable type: '" ++ kind ++ "'"
  | malformed => "malformed node or string"

/-- Whether a fault concerns how the text is written, and not what it stands for. -/
def LiteralFault.concernsForm : LiteralFault → Bool
  | unhashable _ => false
  | malformed => false
  | _ => true

/-! ## §2 Numbers -/

/-- What follows a run of digits, which may have single low lines between them; nothing if a low
line has no digit behind it. -/
def afterDigitRun? (isDigit : Char → Bool) : List Char → Option (List Char)
  | [] => some []
  | ['_'] => none
  | '_' :: d :: s => if isDigit d then afterDigitRun? isDigit s else none
  | c :: s => if isDigit c then afterDigitRun? isDigit s else some (c :: s)

/-- The words that may follow a number without a blank. -/
def numberFollowers : List (List Char) :=
  ["and", "else", "for", "if", "in", "is", "or"].map String.toList

/-- Whether a character can stand in a name. -/
def isNamePart (c : Char) : Bool := c.isAlphanum || c == '_' || 128 ≤ c.toNat

/-- Checks that no name begins right behind a number. -/
def endNumber (kind : String) (s : List Char) : Except LiteralFault (List Char) :=
  match s with
  | [] => .ok []
  | c :: rest =>
    if isNamePart c ∧ c.toNat < 128 ∧ !numberFollowers.any fun w => w.isPrefixOf (c :: rest) then
      .error (.badNumber kind)
    else .ok (c :: rest)

/-- What follows digits of a decimal number. -/
def afterDecimal (s : List Char) : Except LiteralFault (List Char) :=
  match afterDigitRun? Char.isDigit s with
  | none => .error (.badNumber "decimal")
  | some rest => .ok rest

/-- What follows a number in the base of its prefix. -/
def afterRadix (kind : String) (isDigit : Char → Bool) (s : List Char) :
    Except LiteralFault (List Char) :=
  let s := match s with
    | '_' :: rest => rest
    | s => s
  let refuse (s : List Char) : Except LiteralFault (List Char) :=
    match s with
    | c :: _ => if c.isDigit then .error (.badDigit c kind) else .error (.badNumber kind)
    | [] => .error (.badNumber kind)
  match s with
  | [] => refuse []
  | c :: rest =>
    if isDigit c then
      match afterDigitRun? isDigit rest with
      | none => .error (.badNumber kind)
      | some (d :: rest) => if d.isDigit then refuse (d :: rest) else endNumber kind (d :: rest)
      | some [] => .ok []
    else refuse (c :: rest)

/-- What follows the exponent of a number, if there is one; an `e` without digits is none. -/
def afterExponent (s : List Char) : Except LiteralFault (List Char) :=
  match s with
  | e :: rest =>
    if e = 'e' ∨ e = 'E' then
      match rest with
      | c :: d :: more =>
        if c.isDigit then afterDecimal rest
        else if c = '+' ∨ c = '-' then
          if d.isDigit then afterDecimal (d :: more) else .error (.badNumber "decimal")
        else .ok s
      | [c] =>
        if c.isDigit then .ok []
        else if c = '+' ∨ c = '-' then .error (.badNumber "decimal")
        else .ok s
      | [] => .ok s
    else .ok s
  | [] => .ok []

/-- What follows the digits of a decimal number, and whether the number is imaginary. -/
def endDecimal (s : List Char) : Except LiteralFault (Bool × List Char) := do
  let s ← match s with
    | '.' :: c :: rest => if c.isDigit then afterDecimal (c :: rest) else .ok (c :: rest)
    | ['.'] => .ok []
    | s => .ok s
  match ← afterExponent s with
  | c :: rest =>
    if c = 'j' ∨ c = 'J' then return (true, ← endNumber "imaginary" rest)
    else return (false, ← endNumber "decimal" (c :: rest))
  | [] => return (false, [])

/-- What follows a number, and whether it is imaginary. -/
def readNumber (s : List Char) : Except LiteralFault (Bool × List Char) :=
  match s with
  | '0' :: x :: rest =>
    let inBase (kind : String) (isDigit : Char → Bool) : Except LiteralFault (Bool × List Char) :=
      (afterRadix kind isDigit rest).map (false, ·)
    if x = 'x' ∨ x = 'X' then
      inBase "hexadecimal" fun c => c.isDigit || ('a' ≤ c.toLower && c.toLower ≤ 'f')
    else if x = 'o' ∨ x = 'O' then inBase "octal" fun c => '0' ≤ c && c ≤ '7'
    else if x = 'b' ∨ x = 'B' then inBase "binary" fun c => c == '0' || c == '1'
    else do
      let rest ← afterDecimal (x :: rest)
      let digits := s.take (s.length - rest.length)
      let whole := match rest with
        | c :: _ => !(['.', 'e', 'E', 'j', 'J'].contains c)
        | [] => true
      if whole && digits.any (fun c => c != '0' && c != '_') then throw .leadingZeros
      endDecimal rest
  | '.' :: _ => endDecimal s
  | s => do endDecimal (← afterDecimal s)

/-! ## §3 Lexemes -/

/-- A lexeme. -/
inductive Lexeme where
  | number (imaginary : Bool)
  | text (bytes ascii : Bool)
  | name (word : String)
  | ellipsis
  | mark (c : Char)
  /-- The end of the lexemes, before the end of the text or with brackets open. -/
  | broken (fault : LiteralFault)
  deriving DecidableEq, Repr

/-- What follows a text in quotation marks, with the line on which it ends and the characters in it,
in reverse. -/
def afterText (quoteMark : Char) (triple : Bool) (line : Nat) (inside : List Char) :
    List Char → Except LiteralFault (List Char × Nat × List Char)
  | [] => .error (.unterminated triple line)
  | '\\' :: d :: s =>
    afterText quoteMark triple (if d = '\n' then line + 1 else line) (d :: inside) s
  | c :: s =>
    if c = quoteMark ∧ (!triple ∨ [c, c].isPrefixOf s) then
      .ok (if triple then s.drop 2 else s, line, inside)
    else if c = '\n' ∧ !triple then .error (.unterminated false line)
    else afterText quoteMark triple (if c = '\n' then line + 1 else line) (c :: inside) s

/-- The letters that may stand before a text, in lower case. -/
def textPrefixes : List String := ["r", "u", "b", "br", "rb", "f", "fr", "rf"]

/-- The lexeme of a text behind some letters; a formatted text is no literal value. -/
def textLexeme (letters : String) (inside : List Char) : Lexeme :=
  if letters.contains 'f' then .name letters
  else .text (letters.contains 'b') (inside.all (·.toNat < 128))

/-- The mark that closes what a mark opens. -/
def closerOfMark (opener : Char) : Char :=
  if opener = '(' then ')' else if opener = '{' then '}' else ']'

/-- The most brackets that can be open. -/
def maxOpen : Nat := 200

/-- The brackets that are open after a closing one, on a line. -/
def closeMark (line : Nat) (closer : Char) :
    List (Char × Nat) → Except LiteralFault (List (Char × Nat))
  | [] => .error (.unmatched closer)
  | (opener, start) :: rest =>
    if closer = closerOfMark opener then .ok rest
    else .error (.mismatched closer opener (if start = line then none else some start))

/-- One lexeme, if there is one, with the line and the text that are left. A line feed between
brackets is blank. -/
def readLexeme (line : Nat) (nested : Bool) (c : Char) (s : List Char) :
    Except LiteralFault (Option Lexeme × Nat × List Char) :=
  let text (letters : String) (q : Char) (s : List Char) :
      Except LiteralFault (Option Lexeme × Nat × List Char) := do
    let triple := [q, q].isPrefixOf s
    let (rest, line, inside) ← afterText q triple line [] (if triple then s.drop 2 else s)
    return (some (textLexeme letters inside), line, rest)
  if c = ' ' ∨ c = '\t' then .ok (none, line, s)
  else if c = '\n' then .ok (if nested then none else some (.mark c), line + 1, s)
  else if c = '#' then .ok (none, line, s.dropWhile (· != '\n'))
  else if c = '\\' then
    match s with
    | '\n' :: rest => .ok (none, line + 1, rest)
    | _ => .ok (some (.broken .afterContinuation), line, [])
  else if c.isDigit ∨ (c = '.' ∧ s.head?.any Char.isDigit) then
    (readNumber (c :: s)).map fun (imaginary, rest) => (some (.number imaginary), line, rest)
  else if c = '.' ∧ ['.', '.'].isPrefixOf s then .ok (some .ellipsis, line, s.drop 2)
  else if c = '"' ∨ c = '\'' then text "" c s
  else if isNamePart c then
    let word := c :: s.takeWhile isNamePart
    let rest := s.dropWhile isNamePart
    let letters := String.ofList (word.map Char.toLower)
    match rest.head?.filter fun q => (q == '"' || q == '\'') && textPrefixes.contains letters with
    | some q => text letters q (rest.drop 1)
    | none =>
      match word.find? fun c => !isWord c with
      | some c => .error (.invalidCharacter c)
      | none => .ok (some (.name (String.ofList word)), line, rest)
  else if isHidden c then .error (.invalidCharacter c)
  else .ok (some (.mark c), line, s)

/-- The lexemes of a text on a line, inside brackets that are open. Each step takes a character
away, so the length of the text bounds the steps. -/
def lexemes (line : Nat) (opened : List (Char × Nat)) : Nat → List Char →
    Except LiteralFault (List Lexeme)
  | _, [] =>
    match opened with
    | [] => .ok []
    | (opener, _) :: _ => .ok [.broken (.neverClosed opener)]
  | 0, _ => .ok []
  | steps + 1, c :: s =>
    match readLexeme line (!opened.isEmpty) c s with
    | .error fault => .error fault
    | .ok (none, line, rest) => lexemes line opened steps rest
    | .ok (some (.broken fault), _, _) => .ok [.broken fault]
    | .ok (some (.mark m), after, rest) =>
      if m = '(' ∨ m = '{' ∨ m = '[' then
        if maxOpen ≤ opened.length then .error .tooDeep
        else (lexemes after ((m, line) :: opened) steps rest).map (.mark m :: ·)
      else if m = ')' ∨ m = '}' ∨ m = ']' then
        match closeMark line m opened with
        | .error fault => .error fault
        | .ok opened => (lexemes after opened steps rest).map (.mark m :: ·)
      else (lexemes after opened steps rest).map (.mark m :: ·)
    | .ok (some l, line, rest) => (lexemes line opened steps rest).map (l :: ·)

/-! ## §4 Values -/

/-- What is known of a well-formed value: what else is wrong with it, if anything, and its kind if it
cannot be a member of a set. -/
structure Checked where
  problem : Option LiteralFault
  unhashable : Option String
  deriving Repr

/-- A value with which nothing is wrong. -/
def Checked.fine : Checked := ⟨none, none⟩

/-- What is no literal value. -/
def Checked.other : Checked := ⟨some .malformed, none⟩

/-- What is wrong with a value as a member of a set. -/
def Checked.asMember (v : Checked) : Option LiteralFault :=
  v.problem <|> v.unhashable.map .unhashable

/-- A tuple of values. -/
def Checked.tuple (vs : List Checked) : Checked :=
  ⟨vs.findSome? (·.problem), vs.findSome? (·.unhashable)⟩

/-- A set of values. -/
def Checked.set (vs : List Checked) : Checked := ⟨vs.findSome? (·.asMember), some "set"⟩

/-- A mapping. -/
def Checked.mapping (pairs : List (Checked × Checked)) : Checked :=
  ⟨pairs.findSome? fun p => p.1.problem <|> p.2.problem <|> p.1.asMember, some "dict"⟩

/-- Words that are neither values nor names. -/
def reservedWords : List String :=
  ["and", "as", "assert", "async", "await", "break", "class", "continue", "def", "del", "elif",
    "else", "except", "finally", "for", "from", "global", "if", "import", "in", "is", "lambda",
    "nonlocal", "not", "or", "pass", "raise", "return", "try", "while", "with", "yield"]

/-- Whether a value can begin with a lexeme. -/
def Lexeme.startsValue : Lexeme → Bool
  | .number _ => true
  | .text .. => true
  | .name word => !reservedWords.contains word
  | .ellipsis => true
  | .mark c => c == '{'
  | .broken _ => false

/-- The fault where a lexeme is not the one that is due. -/
def faultAt : List Lexeme → LiteralFault
  | .broken fault :: _ => fault
  | _ => .illFormed

/-- Reads the texts that stand side by side. -/
def readTexts (bytes : Bool) : List Lexeme → Except LiteralFault (List Lexeme)
  | .text bytes' ascii :: rest =>
    if bytes != bytes' then .error .mixedBytes
    else if bytes && !ascii then .error .bytesNotAscii
    else readTexts bytes rest
  | rest => .ok rest

/-- A number with the imaginary one that is added to it, if there is one. -/
def readSum (imaginary : Bool) : List Lexeme → List Lexeme
  | .mark sign :: .number true :: rest =>
    if !imaginary && (sign == '+' || sign == '-') then rest else .mark sign :: .number true :: rest
  | rest => rest

/-- Whether lexemes begin with a text. -/
def startsText : List Lexeme → Bool
  | .text .. :: _ => true
  | _ => false

/-- What follows an operator between two values, if lexemes begin with one. -/
def afterOperator? : List Lexeme → Option (List Lexeme)
  | .mark c :: .mark d :: rest =>
    if (d = '=' ∧ ['=', '!', '<', '>'].contains c) ∨ (d = c ∧ ['*', '/', '<', '>'].contains c) then
      some rest
    else if operatorMarks.contains c then some (.mark d :: rest)
    else none
  | .mark c :: rest => if operatorMarks.contains c then some rest else none
  | .name "not" :: .name "in" :: rest => some rest
  | .name "is" :: .name "not" :: rest => some rest
  | .name word :: rest => if ["and", "or", "in", "is"].contains word then some rest else none
  | _ => none
where
  /-- The marks that are operators on their own. -/
  operatorMarks : List Char := ['+', '-', '*', '/', '%', '@', '&', '|', '^', '<', '>']

/-- Whether lexemes begin with a name other than a value. -/
def startsName : List Lexeme → Bool
  | .name word :: _ => !(["None", "True", "False"].contains word)
  | _ => false

mutual

/-- Reads a value, or an expression, which is none. -/
def readLiteral : Nat → List Lexeme → Except LiteralFault (Checked × List Lexeme)
  | 0, _ => .error .illFormed
  | steps + 1, ls =>
    match readPrimary steps ls with
    | .error fault => .error fault
    | .ok (v, rest) => readRest steps v rest

/-- Reads what goes on with a value: a call, a member or an operator and another value. -/
def readRest : Nat → Checked → List Lexeme → Except LiteralFault (Checked × List Lexeme)
  | 0, _, _ => .error .illFormed
  | steps + 1, v, ls =>
    match ls with
    | .mark '(' :: .mark ')' :: rest => readRest steps .other rest
    | .mark '(' :: rest =>
      match readItems steps ')' rest with
      | .error fault => .error fault
      | .ok (_, _, rest) => readRest steps .other rest
    | .mark '.' :: .name _ :: rest => readRest steps .other rest
    | ls =>
      match afterOperator? ls with
      | some rest => (readLiteral steps rest).map fun p => (.other, p.2)
      | none => .ok (v, ls)

/-- Reads the beginning of a value. -/
def readPrimary : Nat → List Lexeme → Except LiteralFault (Checked × List Lexeme)
  | 0, _ => .error .illFormed
  | steps + 1, ls =>
    match ls with
    | .number imaginary :: rest => .ok (.fine, readSum imaginary rest)
    | .text bytes ascii :: rest =>
      (readTexts bytes (.text bytes ascii :: rest)).map fun rest => (.fine, rest)
    | .ellipsis :: rest => .ok (.fine, rest)
    | .name "set" :: .mark '(' :: .mark ')' :: rest => .ok (.set [], rest)
    | .name word :: rest =>
      if word = "not" then (readLiteral steps rest).map fun p => (.other, p.2)
      else if reservedWords.contains word then .error .illFormed
      else .ok (if startsName ls then .other else .fine, rest)
    | .mark '(' :: .mark ')' :: rest => .ok (.fine, rest)
    | .mark '(' :: rest =>
      match readItems steps ')' rest with
      | .ok ([v], false, rest) => .ok (v, rest)
      | .ok (vs, _, rest) => .ok (.tuple vs, rest)
      | .error fault => .error fault
    | .mark '{' :: .mark '}' :: rest => .ok (.mapping [], rest)
    | .mark '{' :: rest =>
      match readLiteral steps rest with
      | .error fault => .error fault
      | .ok (_, .mark ':' :: _) =>
        (readPairs steps rest).map fun (pairs, rest) => (.mapping pairs, rest)
      | .ok _ => (readItems steps '}' rest).map fun (vs, _, rest) => (.set vs, rest)
    | .mark sign :: rest =>
      if sign = '+' ∨ sign = '-' then
        match rest with
        | .number imaginary :: rest => .ok (.fine, readSum imaginary rest)
        | _ => (readLiteral steps rest).map fun p => (.other, p.2)
      else if sign = '~' then (readLiteral steps rest).map fun p => (.other, p.2)
      else .error .illFormed
    | ls => .error (faultAt ls)

/-- The fault of what follows a value where something else is due. Between brackets a comma may have
been forgotten, but not between a name and a text. -/
def faultBehind : Nat → Bool → Bool → List Lexeme → LiteralFault
  | 0, _, _, _ => .illFormed
  | steps + 1, nested, afterName, ls =>
    if !ls.head?.any Lexeme.startsValue then faultAt ls
    else match readLiteral steps ls with
      | .error fault => fault
      | .ok (_, .broken fault :: _) => fault
      | .ok _ =>
        if nested && !(afterName && startsText ls) then .forgottenComma else .illFormed

/-- Reads values up to a closing bracket, and whether a comma stands before it. -/
def readItems : Nat → Char → List Lexeme →
    Except LiteralFault (List Checked × Bool × List Lexeme)
  | 0, _, _ => .error .illFormed
  | steps + 1, closer, ls =>
    match readLiteral steps ls with
    | .error fault => .error fault
    | .ok (v, .mark ',' :: rest) =>
      if rest.head? = some (.mark closer) then .ok ([v], true, rest.drop 1)
      else (readItems steps closer rest).map fun (vs, _, rest) => (v :: vs, true, rest)
    | .ok (v, rest) =>
      if rest.head? = some (.mark closer) then .ok ([v], false, rest.drop 1)
      else .error (faultBehind steps true (startsName ls) rest)

/-- Reads the pairs of a mapping up to its closing brace. -/
def readPairs : Nat → List Lexeme →
    Except LiteralFault (List (Checked × Checked) × List Lexeme)
  | 0, _ => .error .illFormed
  | steps + 1, ls =>
    match readLiteral steps ls with
    | .error fault => .error fault
    | .ok (key, .mark ':' :: rest) =>
      if rest.head? = some (.mark '}') ∨ rest.head? = some (.mark ',') then .error .missingValue
      else match readLiteral steps rest with
        | .error fault => .error fault
        | .ok (value, .mark ',' :: more) =>
          if more.head? = some (.mark '}') then .ok ([(key, value)], more.drop 1)
          else (readPairs steps more).map fun (pairs, rest) => ((key, value) :: pairs, rest)
        | .ok (value, .mark '}' :: more) => .ok ([(key, value)], more)
        | .ok (_, more) => .error (faultBehind steps true (startsName rest) more)
    | .ok (_, rest) =>
      .error (if rest.head? = some (.mark '}') ∨ rest.head? = some (.mark ',') then .missingColon
        else faultBehind steps true (startsName ls) rest)

end

/-- Reads values with commas between them up to the end. -/
def readValues : Nat → List Lexeme → Except LiteralFault (List Checked)
  | 0, _ => .error .illFormed
  | steps + 1, ls =>
    let steps' := 3 * ls.length + 3
    match readLiteral steps' ls with
    | .error fault => .error fault
    | .ok (v, []) => .ok [v]
    | .ok (v, [.mark ',']) => .ok [v]
    | .ok (v, .mark ',' :: rest) => (readValues steps rest).map (v :: ·)
    | .ok (_, rest) => .error (faultBehind steps' false (startsName ls) rest)

/-- Checks that a text lists literal values. -/
def checkLiteral (s : List Char) : Except LiteralFault Unit :=
  if s.contains '\x00' then .error .nullCharacter
  else
    match lexemes 1 [] s.length s with
    | .error fault => .error fault
    | .ok ls =>
      match readValues (ls.length + 1) (ls.dropWhile (· == .mark '\n')) with
      | .error fault => .error fault
      | .ok vs =>
        match (Checked.tuple vs).problem with
        | none => .ok ()
        | some fault => .error fault

end Bibliography.Console
