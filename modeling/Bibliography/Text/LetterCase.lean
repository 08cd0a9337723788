import Bibliography.Text.CaseTable

/-!
# Letter case

Full case mappings of texts. Upper case and case folding map each character on its own; lower case
and the exchange of cases look at the neighbours of a capital sigma, which becomes `ς` at the end
of a word and `σ` elsewhere.

Main statements: on ASCII characters the mappings are those of the Latin alphabet
(`upperChar_of_lt`), so upper-casing an ASCII text twice is upper-casing it once
(`upper_upper_of_ascii`).
-/

namespace Bibliography.Text

/-! ## §1 Single characters -/

/-- The upper-case form of a character. -/
def upperChar (c : Char) : List Char :=
  if c.toNat < 128 then [c.toUpper] else upperTable.apply c

/-- The lower-case form of a character that has no context. -/
def lowerChar (c : Char) : List Char :=
  if c.toNat < 128 then [c.toLower] else lowerTable.apply c

/-- The case-folded form of a character. -/
def foldChar (c : Char) : List Char :=
  if c.toNat < 128 then [c.toLower] else foldTable.apply c

/-- Whether a character is upper case. -/
def isUppercase (c : Char) : Bool :=
  if c.toNat < 128 then c.isUpper else uppercaseTable.contains c

/-- Whether a character is lower case. -/
def isLowercase (c : Char) : Bool :=
  if c.toNat < 128 then c.isLower else lowercaseTable.contains c

/-- Whether the search for a cased neighbour passes over a character. -/
def isCaseIgnorable (c : Char) : Bool :=
  if c.toNat < 128 then c == '\'' || c == '.' || c == ':' || c == '^' || c.toNat == 0x60
  else ignorableTable.contains c

/-- Whether a character that is not passed over has a case. -/
def isCased (c : Char) : Bool :=
  if c.toNat < 128 then c.isAlpha else casedTable.contains c

/-! ## §2 Texts -/

/-- The upper-case form of a text. -/
def upper (s : List Char) : List Char := s.flatMap upperChar

/-- The case-folded form of a text. -/
def caseFold (s : List Char) : List Char := s.flatMap foldChar

/-- Whether the first character that is not passed over has a case. -/
def startsCased (s : List Char) : Bool :=
  match s.dropWhile isCaseIgnorable with
  | [] => false
  | c :: _ => isCased c

/-- The lower-case form of a character between the text before it, in reverse, and the text after
it. A capital sigma is final after a cased character and before none. -/
def lowerBetween (before : List Char) (c : Char) (after : List Char) : List Char :=
  if c.toNat = 0x3A3 then
    if startsCased before && !startsCased after then ['ς'] else ['σ']
  else lowerChar c

/-- Maps every character of a text, given what stands before it, in reverse, and after it. -/
def mapBetween (f : List Char → Char → List Char → List Char) (before : List Char) :
    List Char → List Char
  | [] => []
  | c :: s => f before c s ++ mapBetween f (c :: before) s

/-- The lower-case form of a text. -/
def lower (s : List Char) : List Char := mapBetween lowerBetween [] s

/-- The text with upper case and lower case exchanged. -/
def swapCase (s : List Char) : List Char :=
  mapBetween (fun before c after =>
    if isUppercase c then lowerBetween before c after
    else if isLowercase c then upperChar c
    else [c]) [] s

/-! ## §3 ASCII -/

theorem upperChar_of_lt {c : Char} (h : c.toNat < 128) : upperChar c = [c.toUpper] := by
  simp [upperChar, h]

/-- Helper: upper-casing keeps a character within ASCII. -/
private theorem toNat_toUpper_lt {c : Char} (h : c.toNat < 128) : c.toUpper.toNat < 128 := by
  have key : ∀ n : Fin 128, (Char.ofNat n).toUpper.toNat < 128 := by decide
  have hc := key ⟨c.toNat, h⟩
  rwa [Char.ofNat_toNat] at hc

/-- Helper: a character of ASCII is upper-cased once and for all. -/
private theorem toUpper_toUpper {c : Char} (h : c.toNat < 128) : c.toUpper.toUpper = c.toUpper := by
  have key : ∀ n : Fin 128, (Char.ofNat n).toUpper.toUpper = (Char.ofNat n).toUpper := by decide
  have hc := key ⟨c.toNat, h⟩
  rwa [Char.ofNat_toNat] at hc

theorem upper_of_ascii {s : List Char} (h : ∀ c ∈ s, c.toNat < 128) :
    upper s = s.map Char.toUpper := by
  induction s with
  | nil => rfl
  | cons c s ih =>
    have hs := ih fun d hd => h d (List.mem_cons_of_mem _ hd)
    simpa [upper, List.flatMap_cons, upperChar_of_lt (h c List.mem_cons_self)] using hs

theorem upper_upper_of_ascii {s : List Char} (h : ∀ c ∈ s, c.toNat < 128) :
    upper (upper s) = upper s := by
  have hup : ∀ c ∈ s.map Char.toUpper, c.toNat < 128 := by
    intro c hc
    obtain ⟨d, hd, rfl⟩ := List.mem_map.1 hc
    exact toNat_toUpper_lt (h d hd)
  rw [upper_of_ascii h, upper_of_ascii hup, List.map_map]
  exact List.map_congr_left fun c hc => toUpper_toUpper (h c hc)

end Bibliography.Text
