import Bibliography.Console.Appearance
import Bibliography.Console.Emoji
import Bibliography.Console.Literal
import Bibliography.Failure

/-!
# Markup

Short messages and titles can hold tags between square brackets, which say how a console shows what
stands between them: `[bold]` opens an appearance, `[/bold]` closes it, and `[/]` closes the one that
was opened last. A tag begins with a small letter or one of `#`, `/` and `@`; a backslash in front of
it makes it ordinary text. Behind an equals sign a tag can have a parameter. The tags that begin with
an at sign name handlers; their parameter is read when they are closed.

Here only the text is kept, with its emoji, and the tags are checked: what is closed must have been
opened, and parameters of handlers must be literal values.
-/

namespace Bibliography.Console

open Text

/-- Why a text with markup is refused. -/
inductive MarkupFault where
  /-- What a tag closes is not open; its name is in normal form. -/
  | neverOpened (tag name : List Char) (position : Nat)
  | nothingToClose (position : Nat)
  /-- A color has a part that is no number. -/
  | numeral (fault : NumeralFault)
  /-- The parameter of a handler is none; what is read of it is `call`. -/
  | badParameter (parameter call : List Char) (fault : LiteralFault)
  deriving DecidableEq, Repr

namespace MarkupFault

/-- The message of a fault. -/
def message : MarkupFault → String
  | neverOpened tag _ position =>
    "closing tag '[" ++ String.ofList tag ++ "]' at position " ++ toString position
      ++ " doesn't match any open tag"
  | nothingToClose position =>
    "closing tag '[/]' at position " ++ toString position ++ " has nothing to close"
  | numeral fault => fault.message
  | badParameter parameter call fault =>
    "error parsing " ++ (if fault.concernsForm then String.ofList (quote call) ++ " in " else "")
      ++ String.ofList (quote parameter) ++ "; " ++ fault.message

/-- A fault with what led to it. -/
def failures (f : MarkupFault) : List Failure :=
  match f with
  | neverOpened _ name _ =>
    Failure.during "MarkupError" f.message (.single "KeyError" (String.ofList (quote name)))
  | nothingToClose _ =>
    Failure.during "MarkupError" f.message (.single "IndexError" "pop from empty list")
  | numeral _ => [.single "ValueError" f.message]
  | badParameter _ _ fault =>
    Failure.during "MarkupError" f.message <|
      -- a text that is no expression is refused when it is parsed, others when they are evaluated
      if fault.concernsForm then .single "SyntaxError" (fault.message ++ " (<unknown>, line 1)")
      else match fault with
        | .unhashable _ => .single "TypeError" fault.message
        | _ => .single "ValueError" fault.message

end MarkupFault

/-! ## §1 Pieces -/

/-- A piece of a text with markup. -/
inductive MarkupPiece where
  | text (s : List Char)
  | tag (position : Nat) (content : List Char)
  deriving DecidableEq, Repr

/-- Whether a tag can begin with a character. -/
def startsTag (c : Char) : Bool := ('a' ≤ c && c ≤ 'z') || c == '#' || c == '/' || c == '@'

/-- Whether a character is neither of the square brackets. -/
def isTagChar (c : Char) : Bool := c != '[' && c != ']'

/-- The content of the tag that a text continues after its opening bracket, and what follows it. -/
def readTag? : List Char → Option (List Char × List Char)
  | [] => none
  | c :: s =>
    if startsTag c then
      match s.dropWhile isTagChar with
      | ']' :: rest => some (c :: s.takeWhile isTagChar, rest)
      | _ => none
    else none

theorem length_lt_of_readTag? {s content rest : List Char} (h : readTag? s = some (content, rest)) :
    rest.length < s.length := by
  cases s with
  | nil => simp [readTag?] at h
  | cons c s =>
    simp only [readTag?] at h
    split at h
    · split at h
      · rename_i r hr
        simp only [Option.some.injEq, Prod.mk.injEq] at h
        -- behind the characters of the tag stands its bracket, so less is left
        have hl : (s.dropWhile isTagChar).length ≤ s.length :=
          (List.dropWhile_sublist isTagChar).length_le
        rw [hr, h.2] at hl
        simp only [List.length_cons] at hl ⊢
        omega
      · simp at h
    · simp at h

/-- Ordinary text, in which a backslash may stand before a bracket. -/
def unescape : List Char → List Char
  | '\\' :: '[' :: s => '[' :: unescape s
  | c :: s => c :: unescape s
  | [] => []

/-- The pieces of the text that begins at a position; `plain` is the ordinary text before it, reversed,
and `slashes` counts the backslashes after that. -/
def markupPieces (position : Nat) (plain : List Char) (slashes : Nat) (s : List Char) :
    List MarkupPiece :=
  match s with
  -- the text ends, and the backslashes at its end are its own
  | [] => [.text (unescape (plain.reverse ++ List.replicate slashes '\\'))]
  | '\\' :: s => markupPieces (position + 1) plain (slashes + 1) s
  | c :: s =>
    match _h : if c = '[' then readTag? s else none with
    -- no tag begins here, so the character is ordinary, with the backslashes before it
    | none =>
      markupPieces (position + 1) (c :: (List.replicate slashes '\\' ++ plain)) 0 s
    | some (content, rest) =>
      let after := markupPieces (position + content.length + 2) [] 0 rest
      -- an odd backslash takes the tag its meaning
      let found := if slashes % 2 = 1 then .text ('[' :: content ++ [']'])
        else .tag (position - slashes % 2) content
      .text (unescape plain.reverse) :: .text (List.replicate (slashes / 2) '\\') :: found :: after
  termination_by s.length
  decreasing_by
    · simp
    · simp
    · have hr : readTag? s = some (content, rest) := by
        by_cases hc : c = '['
        · simpa [hc] using _h
        · simp [hc] at _h
      have := length_lt_of_readTag? hr
      simp only [List.length_cons]
      omega

/-! ## §2 Tags -/

/-- A tag that is open: the normal form of its name, and its parameter. -/
structure Tag where
  name : List Char
  parameter : Option (List Char)
  deriving DecidableEq, Repr

/-- What stands in a tag, its name and its parameter apart. -/
def Tag.ofContent (content : List Char) : Tag :=
  match content.dropWhile (· != '=') with
  | [] => ⟨content, none⟩
  | _ :: parameter => ⟨content.takeWhile (· != '='), some parameter⟩

/-- Whether a tag names a handler. -/
def Tag.isHandler (t : Tag) : Bool := t.name.head? = some '@'

/-- Whether a character can stand in the name of a handler's action. -/
def isActionChar (c : Char) : Bool := isWord c || c == '.'

/-- What is read of a parameter: the arguments in parentheses behind the name of an action, or all of
it where there is no such name. An action without parentheses has no arguments. -/
def callOf (parameter : List Char) : List Char :=
  match parameter.dropWhile isActionChar with
  | [] => "()".toList
  | '(' :: rest =>
    if rest.getLast? = some ')' ∧ '\n' ∉ rest then '(' :: rest else parameter
  | _ => parameter

/-- Checks the parameter of a handler. -/
def checkHandler (t : Tag) : Except MarkupFault Unit :=
  match t.parameter with
  | none => .ok ()
  | some [] => .ok ()
  | some parameter =>
    let call := callOf (trim parameter)
    (checkLiteral (call.dropWhile fun c => c == ' ' || c == '\t')).mapError
      (.badParameter parameter call)

/-- Checks what a tag and its parameter describe together. Only a number in it can be wrong: a tag
that describes nothing is passed over. -/
def checkDescription (t : Tag) : Except MarkupFault Unit :=
  match t.parameter with
  | none => .ok ()
  | some parameter =>
    match Appearance.read (t.name ++ ' ' :: parameter) with
    | .error (.numeral fault) => .error (.numeral fault)
    | _ => .ok ()

/-- The normal form of a name. -/
def tagName (name : List Char) : Except MarkupFault (List Char) :=
  (normalAppearance name).mapError .numeral

/-! ## §3 Texts -/

/-- A text with markup while it is read: the tags that are open, the last one first, and those that
describe how the text is shown. -/
structure Reader where
  opened : List Tag
  described : List Tag
  deriving Repr

namespace Reader

/-- Closes an open tag, where `rest` stays open. -/
def close (tag : Tag) (rest : List Tag) (r : Reader) : Except MarkupFault Reader :=
  if tag.isHandler then (checkHandler tag).map fun _ => { r with opened := rest }
  else .ok ⟨rest, r.described ++ [tag]⟩

/-- What a tag changes. -/
def apply (position : Nat) (content : List Char) (r : Reader) : Except MarkupFault Reader :=
  let tag := Tag.ofContent content
  match tag.name with
  | '/' :: name =>
    if (trim name).isEmpty then
      -- without a name the last tag is closed
      match r.opened with
      | [] => .error (.nothingToClose position)
      | last :: rest => r.close last rest
    else do
      let name ← tagName (trim name)
      -- otherwise the last one of this name, and those opened behind it stay open
      match r.opened.find? (·.name == name) with
      | none => throw (.neverOpened content name position)
      | some tag => r.close tag (r.opened.eraseP (·.name == name))
  | name => do
    let name ← tagName name
    return { r with opened := { tag with name := name } :: r.opened }

/-- The text of pieces. -/
def text (r : Reader) : List MarkupPiece → Except MarkupFault (List Char)
  | [] => do
    for tag in r.described ++ r.opened do checkDescription tag
    return []
  | .text s :: rest => (r.text rest).map (replaceEmoji s ++ ·)
  | .tag position content :: rest => do (← r.apply position content).text rest

end Reader

/-- The text of a text with markup. -/
def plainText (s : List Char) : Except MarkupFault (List Char) :=
  if '[' ∈ s then Reader.text ⟨[], []⟩ (markupPieces 0 [] 0 s) else .ok (replaceEmoji s)

end Bibliography.Console
