import Bibliography.Yaml.Scalar

/-!
# Reading YAML

The value that a YAML text stands for. A node with a tag is read as the tag says, any other node as
its form says. A mapping takes over the pairs of the mappings that are merged into it, before its
own; of several values for one key the last one counts, at the place of the first.

A text with several faults is refused for the one that is met first when the collections are
looked through level by level: scalars and unknown tags are met in the collection they stand in, and
what is inside a collection is met only after all that stands beside it.

Main statement: which fault comes first has no influence on values (`Node.load_eq_ok_iff`).
-/

namespace Bibliography.Yaml

/-- Why a text has no value: it is not YAML, or a scalar in it has no value. -/
inductive LoadFault where
  | yaml (fault : Fault)
  | scalar (fault : ScalarFault)
  deriving DecidableEq, Repr

/-- The smallest number that is too large for a number of 32 bits with a sign. -/
def int32Bound : Nat := 0x80000000

/-- A fault of the structure; an escape by a number that no character has is a scalar without a
value. -/
def LoadFault.ofFault : Fault → LoadFault
  | .noCharacter number =>
    if number < int32Bound then .scalar ⟨"ValueError", (Fault.noCharacter number).message⟩
    else .scalar ⟨"OverflowError", "Python int too large to convert to C int"⟩
  | fault => .yaml fault

/-- The refusal of a text because of its structure. -/
def refuse {α : Type} (fault : Fault) : Except LoadFault α := .error (.yaml fault)

/-! ## §1 Keys -/

/-- The whole number that a value is equal to as a key. -/
def wholeKey? : Datum → Option Int
  | .bool b => some (if b then 1 else 0)
  | .int n => some n
  | .float x => (Decimal.Parts.ofFloat x).whole?
  | _ => none

/-- Whether two values are the same key; numbers are compared by their value, and times in zones by
the instant that they are. -/
def sameKey (a b : Datum) : Bool :=
  match wholeKey? a, wholeKey? b with
  | some m, some n => m == n
  | none, none =>
    match a, b with
    | .null, .null => true
    | .float x, .float y => x == y || (x.isNaN && y.isNaN)
    | .text s, .text t => s == t
    | .bytes s, .bytes t => s == t
    | .date y m d, .date y' m' d' => y == y' && m == m' && d == d'
    | .moment s, .moment t => s == t || ((instant? s).isSome && instant? s == instant? t)
    | _, _ => false
  | _, _ => false

/-- Puts a pair into a mapping. -/
def putPair (pairs : List (Datum × Datum)) (key value : Datum) : List (Datum × Datum) :=
  if pairs.any fun p => sameKey p.1 key then
    pairs.map fun p => if sameKey p.1 key then (p.1, value) else p
  else pairs ++ [(key, value)]

/-- The mapping that a list of pairs describes. -/
def mappingOf (pairs : List (Datum × Datum)) : List (Datum × Datum) :=
  pairs.foldl (fun m p => putPair m p.1 p.2) []

/-! ## §2 Forms -/

/-- What a tag asks for. -/
inductive Form where
  | scalar (kind : ScalarKind)
  | sequence
  /-- A sequence of mappings with one pair each. -/
  | pairs
  | mapping
  | set
  deriving DecidableEq, Repr

/-- The forms that a schema knows, by the names of their tags. -/
def Form.names : List (String × Form) :=
  [("null", .scalar .null), ("bool", .scalar .bool), ("int", .scalar .int),
    ("float", .scalar .float), ("timestamp", .scalar .timestamp), ("binary", .scalar .bytes),
    ("str", .scalar .text), ("seq", .sequence), ("omap", .pairs), ("pairs", .pairs),
    ("map", .mapping), ("set", .set)]

/-- A tag of the schema. -/
def schemaTag (name : String) : String := schemaPrefix ++ name

/-- The form that a tag asks for. -/
def Form.ofTag? (tag : String) : Option Form :=
  (names.find? fun p => tag == schemaTag p.1).map (·.2)

/-- The name of the tag that a scalar has without a tag. -/
def ScalarKind.tagName : ScalarKind → String
  | null => "null"
  | bool => "bool"
  | int => "int"
  | float => "float"
  | merge => "merge"
  | value => "value"
  | timestamp => "timestamp"
  | bytes => "binary"
  | text => "str"

namespace Node

/-- The tag of a collection, where `!` stands for the usual one. -/
def collectionTag (usual : String) : Option String → String
  | none => schemaTag usual
  | some tag => if tag = "!" then schemaTag usual else tag

/-- The tag that a node has, or that it gets by its text or its kind. -/
def fullTag : Node → String
  | scalar (some tag) _ _ => tag
  | scalar none plain text =>
    schemaTag (if plain then ScalarKind.ofText text else ScalarKind.text).tagName
  | sequence tag _ => collectionTag "seq" tag
  | mapping tag _ => collectionTag "map" tag
  | cycle ofMapping tag => collectionTag (if ofMapping then "map" else "seq") tag

/-- The form of a node. -/
def form? (n : Node) : Option Form := Form.ofTag? n.fullTag

/-- Whether a key asks for its value to be merged. -/
def isMerge (n : Node) : Bool := n.fullTag == schemaTag "merge"

/-- Whether a key stands for the value of the whole mapping. -/
def isValue (n : Node) : Bool := n.fullTag == schemaTag "value"

/-- The node with the tag of a text. -/
def asText : Node → Node
  | scalar _ plain text => scalar (some (schemaTag "str")) plain text
  | sequence _ items => sequence (some (schemaTag "str")) items
  | mapping _ pairs => mapping (some (schemaTag "str")) pairs
  | cycle ofMapping _ => cycle ofMapping (some (schemaTag "str"))

/-! ## §3 Scalars -/

mutual

/-- The text of a node that is read as a scalar; a mapping has the one of its key `=`. -/
def text? : Node → Option String
  | scalar _ _ text => some text
  | mapping _ pairs => textOf? pairs
  | _ => none

/-- The text under the key `=`. -/
def textOf? : List (Node × Node) → Option String
  | [] => none
  | (key, value) :: pairs => if key.isValue then value.text? else textOf? pairs

end

/-- The value of a node as a scalar of a kind. -/
def readScalar (n : Node) (kind : ScalarKind) : Except LoadFault Datum :=
  let lift (r : Except ScalarFault Datum) : Except LoadFault Datum := r.mapError .scalar
  match n.text?, kind with
  | none, _ => refuse (.wrongKind n.fullTag)
  | some _, .null => .ok .null
  | some text, .bool => lift (readBool text)
  | some text, .int => lift ((readInt text.toList).map .int)
  | some text, .float => lift ((readFloat text.toList).map .float)
  | some text, .timestamp =>
    -- a mapping can hand over its text, but for a time this is not looked at
    match n with
    | mapping _ _ => lift (.error ⟨"TypeError", "expected string or bytes-like object, got 'list'"⟩)
    | _ => lift (readTime text.toList)
  | some text, .bytes =>
    match readBytes? text.toList with
    | some bytes => .ok (.bytes bytes)
    | none => refuse (.wrongKind n.fullTag)
  | some text, .text => .ok (.text text)
  | some _, _ => refuse (.unknownTag n.fullTag)

/-! ## §4 Collections -/

mutual

/-- The pairs that a node gives to a mapping it is merged into. A node gives nothing to its own
parts. -/
def given : Node → Except LoadFault (List (Node × Node))
  | mapping _ pairs => do
    let (merged, own) ← split pairs
    return merged ++ own
  | sequence _ items => givenBy items
  | cycle _ _ => .ok []
  | scalar _ _ _ => refuse .badMerge

/-- The pairs that several mappings give, those of the last one first. -/
def givenBy : List Node → Except LoadFault (List (Node × Node))
  | [] => .ok []
  | mapping _ pairs :: items => do
    let (merged, own) ← split pairs
    let rest ← givenBy items
    return rest ++ (merged ++ own)
  | cycle true _ :: items => givenBy items
  | _ => refuse .badMerge

/-- The pairs of a mapping: those that are merged into it, and its own. -/
def split : List (Node × Node) → Except LoadFault (List (Node × Node) × List (Node × Node))
  | [] => .ok ([], [])
  | (key, value) :: pairs =>
    if key.isMerge then do
      let found ← value.given
      let (merged, own) ← split pairs
      return (found ++ merged, own)
    else do
      let (merged, own) ← split pairs
      return (merged, (if key.isValue then key.asText else key, value) :: own)

end

/-- The items of a sequence. -/
def items (n : Node) : Except LoadFault (List Node) :=
  match n with
  | sequence _ items => .ok items
  | _ => refuse (.wrongKind n.fullTag)

/-- The pairs of a mapping, with those that are merged into it. -/
def allPairs (n : Node) : Except LoadFault (List (Node × Node)) :=
  match n with
  | mapping _ pairs => do
    let (merged, own) ← split pairs
    return merged ++ own
  | _ => refuse (.wrongKind n.fullTag)

/-- The pair of a mapping that has only one. -/
def single : Node → Except LoadFault (Node × Node)
  | mapping _ [pair] => .ok pair
  | n => refuse (.wrongKind n.fullTag)

/-- Whether a node can be a key: no collection can. -/
def isKey (n : Node) : Bool :=
  match n.form? with
  | some (.scalar _) => true
  | _ => false

/-! ## §5 Values -/

/-- The value of a node, whose collections are nested less deep than a bound. -/
def read : Nat → Node → Except LoadFault Datum
  | 0, _ => refuse .tooLong
  | fuel + 1, n => do
    let readPair (p : Node × Node) : Except LoadFault (Datum × Datum) := do
      return (← read fuel p.1, ← read fuel p.2)
    let readEntry (p : Node × Node) : Except LoadFault (Datum × Datum) := do
      -- the pair is refused before its key is read
      if p.1.isKey then readPair p else refuse .unhashableKey
    match n, n.form? with
    | _, none => refuse (.unknownTag n.fullTag)
    | _, some (.scalar kind) => n.readScalar kind
    | cycle ofMapping _, _ => return .cycle ofMapping
    | _, some .sequence => return .list (← (← n.items).mapM (read fuel))
    | _, some .pairs =>
      let pairs ← (← n.items).mapM fun item => do readPair (← item.single)
      return .list (pairs.map fun p => .tuple [p.1, p.2])
    | _, some .mapping => return .map (mappingOf (← (← n.allPairs).mapM readEntry))
    | _, some .set => return .set ((mappingOf (← (← n.allPairs).mapM readEntry)).map (·.1))

/-! ## §6 The first fault -/

/-- What is left of a node to be looked through when it is met: nothing of a scalar, which must have
a value, and all of a collection. -/
def meet (n : Node) : Except LoadFault (List Node) :=
  match n, n.form? with
  | _, none => refuse (.unknownTag n.fullTag)
  | _, some (.scalar kind) => (n.readScalar kind).map fun _ => []
  | cycle _ _, _ => .ok []
  | _, _ => .ok [n]

/-- Meets a key with its value, where any node may be a key. -/
def meetPair (p : Node × Node) : Except LoadFault (List Node) := do
  return (← p.1.meet) ++ (← p.2.meet)

/-- Meets a key with its value. -/
def meetEntry (p : Node × Node) : Except LoadFault (List Node) := do
  let inKey ← p.1.meet
  if !p.1.isKey then refuse .unhashableKey
  return inKey ++ (← p.2.meet)

/-- Looks through a collection; gives the collections in it that are still to be looked through. -/
def lookThrough (n : Node) : Except LoadFault (List Node) := do
  match n.form? with
  | some .sequence => return (← (← n.items).mapM meet).flatten
  | some .pairs => return (← (← n.items).mapM fun item => do meetPair (← item.single)).flatten
  | _ => return (← (← n.allPairs).mapM meetEntry).flatten

/-- The first fault in collections on one level and on those below, as many as are asked for. -/
def firstFault? : Nat → List Node → Option LoadFault
  | 0, _ => none
  | fuel + 1, level =>
    match level.mapM lookThrough with
    | .error fault => some fault
    | .ok next => if next.flatten.isEmpty then none else firstFault? fuel next.flatten

/-- The value of a document that is nested less deep than a bound. -/
def load (depth : Nat) (n : Node) : Except LoadFault Datum :=
  match n.read depth, n.meet with
  | .ok d, _ => .ok d
  | .error _, .error fault => .error fault
  | .error fault, .ok level => .error ((firstFault? depth level).getD fault)

theorem load_eq_ok_iff {depth : Nat} {n : Node} {d : Datum} :
    n.load depth = .ok d ↔ n.read depth = .ok d := by
  unfold load
  cases n.read depth with
  | ok value => simp
  | error fault => cases n.meet <;> simp

end Node

/-- The value of a text; an empty one stands for nothing. -/
def load (s : List Char) : Except LoadFault Datum :=
  match Node.ofTokens? (tokens s) with
  | .error fault => .error (.ofFault fault)
  | .ok none => .ok .null
  | .ok (some node) => node.load (s.length + 1)

end Bibliography.Yaml
