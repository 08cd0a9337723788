import Bibliography.Text.Blank

/-!
# Tables over the code points

A property of characters is a list of intervals of code points, and a mapping of characters is a
list of intervals with an image. Both are written as lines of words in hexadecimal:

* `41-5A` or `5F` is an interval of a property;
* `C0-C5=41` maps every character of the interval to the same text, whose code points are joined
  by dots and may be absent (`300-34E=`);
* `FF21-FF3A+41` maps the first character to the code point given and the others to its
  successors; `101-12F/2+100` does so for every second character, the images advancing by two.

Tables are kept as arrays sorted by code point and searched by bisection.
-/

namespace Bibliography.Text

/-! ## §1 Bisection -/

/-- The last pair between the positions `lo` and `hi` whose first component is at most `n`. -/
def lastAtMost {α : Type} (a : Array (Nat × α)) (n lo hi : Nat) : Option (Nat × α) :=
  if lo < hi then
    let mid := (lo + hi) / 2
    match a[mid]? with
    | none => none
    | some entry =>
      if n < entry.1 then lastAtMost a n lo mid
      else (lastAtMost a n (mid + 1) hi).orElse fun _ => some entry
  else none
termination_by hi - lo

/-! ## §2 Reading the notation -/

/-- The words of a text, that is its longest runs of characters other than blanks. -/
def words : List Char → List (List Char)
  | [] => []
  | c :: s =>
    if isBlank c then words s
    else match s, words s with
      | d :: _, w :: ws => if isBlank d then [c] :: w :: ws else (c :: w) :: ws
      | _, ws => [c] :: ws

/-- The value of a digit in base sixteen; letters are upper case. -/
def hexDigit (c : Char) : Nat :=
  if c.toNat < 58 then c.toNat - 48 else c.toNat - 55

/-- The number that a numeral in base sixteen denotes. -/
def hexNumber (s : List Char) : Nat := s.foldl (fun n c => 16 * n + hexDigit c) 0

/-- The parts of a text before and after the first occurrence of a character. -/
def cutAt (c : Char) (s : List Char) : List Char × List Char :=
  (s.takeWhile (· != c), (s.dropWhile (· != c)).drop 1)

/-- Reads `41-5A` or `5F`. -/
def readInterval (w : List Char) : Nat × Nat :=
  let (first, last) := cutAt '-' w
  (hexNumber first, if last.isEmpty then hexNumber first else hexNumber last)

/-- Reads the images `41.301`. -/
def readImage (w : List Char) : List Char :=
  if w.isEmpty then []
  else (words (w.map fun c => if c = '.' then ' ' else c)).map fun n => Char.ofNat (hexNumber n)

/-! ## §3 Properties and mappings -/

/-- A set of characters, as the intervals `(first, last)` it consists of, in order. -/
structure CharSet where
  intervals : Array (Nat × Nat)

/-- The set that a text of intervals denotes. -/
def CharSet.ofText (s : String) : CharSet :=
  ⟨((words s.toList).map readInterval).toArray⟩

/-- Membership in a set of characters. -/
def CharSet.contains (t : CharSet) (c : Char) : Bool :=
  match lastAtMost t.intervals c.toNat 0 t.intervals.size with
  | none => false
  | some (_, last) => c.toNat ≤ last

/-- A mapping from single characters to texts, in the order of the characters. -/
structure CharMap where
  entries : Array (Nat × List Char)

/-- The pairs that one word of a mapping stands for. -/
def CharMap.readRule (w : List Char) : List (Nat × List Char) :=
  let shifts := w.any (· == '+')
  let (source, image) := cutAt (if shifts then '+' else '=') w
  let (interval, stride) := cutAt '/' source
  let (first, last) := readInterval interval
  let step := if stride.isEmpty then 1 else hexNumber stride
  (List.range ((last - first) / step + 1)).map fun i =>
    (first + i * step,
      if shifts then [Char.ofNat (hexNumber image + i * step)] else readImage image)

/-- The mapping that a text of rules denotes. -/
def CharMap.ofText (s : String) : CharMap :=
  ⟨(((words s.toList).flatMap CharMap.readRule).mergeSort fun a b => a.1 ≤ b.1).toArray⟩

/-- The image of a character, if the mapping changes it. -/
def CharMap.find? (t : CharMap) (c : Char) : Option (List Char) :=
  match lastAtMost t.entries c.toNat 0 t.entries.size with
  | none => none
  | some (n, image) => if n = c.toNat then some image else none

/-- The image of a character, which stays itself where the mapping does not name it. -/
def CharMap.apply (t : CharMap) (c : Char) : List Char := (t.find? c).getD [c]

end Bibliography.Text
