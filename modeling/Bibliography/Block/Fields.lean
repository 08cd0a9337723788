import Bibliography.Delimiter
import Bibliography.Entry
import Bibliography.Text.DigitTable
import Bibliography.Text.Quoted

/-!
# Fields of a block

Reading the list `name = value, ...` in the body of a block. A token is a run of characters other
than blanks and the marks of the notation. A value is a list of parts joined by number signs, and a
part is a text between braces or quotation marks, or a token: a number when all its characters stand
for digits, and otherwise the name of an abbreviation. Texts are kept as they are written.
-/

namespace Bibliography

open Text

/-- Why a list of fields cannot be read. -/
inductive FieldFault where
  | endOfBody
  | unterminated (opener : Char)
  | unexpected (c : Char)
  | nameExpected (found : Char)
  | equalsExpected (name : List Char)
  | commaExpected (name : List Char)
  deriving DecidableEq, Repr

/-- The message of a fault. -/
def FieldFault.message : FieldFault → String
  | .endOfBody => "field value expected at end of entry"
  | .unterminated opener => "unterminated value starting with " ++ quotedChar opener
  | .unexpected c => "unexpected character " ++ quotedChar c ++ " in field value"
  | .nameExpected found => "field name expected, got " ++ quotedChar found
  | .equalsExpected name => "'=' expected after field " ++ String.ofList (quote name)
  | .commaExpected name => "',' expected after field " ++ String.ofList (quote name)

/-! ## §1 Tokens -/

/-- The marks that end a token. -/
def tokenMarks : List Char := ['"', '#', '%', '\'', '(', ')', ',', '=', '{', '}']

/-- Whether a character can stand in a token. -/
def isTokenChar (c : Char) : Bool := !(isBlank c || tokenMarks.contains c)

/-- What a token stands for as a part of a value. -/
def Value.ofToken (token : List Char) : Value :=
  if token.all isDigit then .number (String.ofList token) else .abbreviation (String.ofList token)

/-! ## §2 Values -/

/-- Reads one part of a value. -/
def readPart : List Char → Except FieldFault (Value × List Char)
  | [] => .error .endOfBody
  | c :: s =>
    -- a delimited text runs to where its delimiter balances
    if c = '{' ∨ c = '"' then
      match splitAtClose (if c = '{' then '}' else '"') 0 s with
      | some (content, rest) => .ok (.text (String.ofList content), rest)
      | none => .error (.unterminated c)
    -- anything else is a run of characters that end no token
    else if isTokenChar c then
      .ok (Value.ofToken (c :: s.takeWhile isTokenChar), s.dropWhile isTokenChar)
    else .error (.unexpected c)

theorem length_dropWhile_le (p : Char → Bool) (s : List Char) :
    (s.dropWhile p).length ≤ s.length :=
  (List.dropWhile_sublist p).length_le

theorem readPart_length {s rest : List Char} {v : Value} (h : readPart s = .ok (v, rest)) :
    rest.length < s.length := by
  cases s with
  | nil => simp [readPart] at h
  | cons c s =>
    simp only [readPart] at h
    split at h
    · split at h
      · next hs =>
        obtain ⟨-, rfl⟩ := by simpa using h
        have := splitAtClose_length hs
        -- the closing delimiter and all in front of it are gone
        simp; omega
      · simp at h
    · split at h
      · -- so is the run, which is not empty
        obtain ⟨-, rfl⟩ := by simpa using h
        have := length_dropWhile_le isTokenChar s
        simp; omega
      · simp at h

/-- Reads the parts of a value, blanks around each of them. -/
def readParts (s : List Char) : Except FieldFault (List Value × List Char) :=
  match _h : readPart (trimLeft s) with
  | .error e => .error e
  | .ok (v, rest) =>
    -- another part follows a number sign only; what else stands there is left for the caller
    match _hr : trimLeft rest with
    | [] => .ok ([v], [])
    | c :: rest' =>
      if c = '#' then
        match readParts rest' with
        | .error e => .error e
        | .ok (vs, rest) => .ok (v :: vs, rest)
      else .ok ([v], c :: rest')
  termination_by s.length
  decreasing_by
    -- the part is gone, and trimming removes no less than nothing
    have h1 := readPart_length _h
    have h2 := length_trimLeft_le s
    have h3 := length_trimLeft_le rest
    rw [_hr] at h3
    simp at h3
    omega

/-- The value that a list of parts makes up. -/
def Value.ofParts : List Value → Value
  | [v] => v
  | vs => .concat vs

/-- Reads a value. -/
def readValue (s : List Char) : Except FieldFault (Value × List Char) :=
  match readParts s with
  | .error e => .error e
  | .ok (vs, rest) => .ok (.ofParts vs, rest)

/-- A value is made up of the parts that are read. -/
theorem exists_of_readValue {s rest : List Char} {v : Value} (h : readValue s = .ok (v, rest)) :
    ∃ vs, readParts s = .ok (vs, rest) ∧ v = .ofParts vs := by
  simp only [readValue] at h
  split at h
  · cases h
  · next vs r hparts =>
    cases h
    exact ⟨vs, hparts, rfl⟩

theorem readParts_length {s rest : List Char} {vs : List Value}
    (h : readParts s = .ok (vs, rest)) : rest.length < s.length := by
  fun_induction readParts s generalizing vs rest with
  | case1 => simp at h
  | case2 s v r h1 h2 =>
    obtain ⟨-, rfl⟩ := by simpa using h
    have := readPart_length h1
    have := length_trimLeft_le s
    simp; omega
  | case3 => simp at h
  | case4 s v r h1 rest' ws rest'' h3 h2 ih =>
    obtain ⟨-, rfl⟩ := by simpa using h
    have a := readPart_length h1
    have b := length_trimLeft_le s
    have c := length_trimLeft_le r
    have d := ih h3
    rw [h2] at c
    simp at c
    omega
  | case5 s v r h1 c rest' h2 hc =>
    obtain ⟨-, rfl⟩ := by simpa using h
    have a := readPart_length h1
    have b := length_trimLeft_le s
    have d := length_trimLeft_le r
    rw [h2] at d
    omega

theorem readValue_length {s rest : List Char} {v : Value} (h : readValue s = .ok (v, rest)) :
    rest.length < s.length := by
  obtain ⟨vs, hparts, -⟩ := exists_of_readValue h
  exact readParts_length hparts

/-! ## §3 Fields -/

/-- Reads a field: a name, an equals sign and a value. The blanks before it are gone. -/
def readField (s : List Char) : Except FieldFault (Field × List Char) :=
  match s with
  | [] => .error .endOfBody
  | c :: t =>
    if isTokenChar c then
      let name := c :: t.takeWhile isTokenChar
      match trimLeft (t.dropWhile isTokenChar) with
      | [] => .error (.equalsExpected name)
      | d :: rest =>
        if d = '=' then
          match readValue rest with
          | .error e => .error e
          | .ok (v, rest) => .ok (⟨String.ofList name, v⟩, rest)
        else .error (.equalsExpected name)
    else .error (.nameExpected c)

/-- A field is read off as a name, blanks, an equals sign and a value. -/
theorem exists_of_readField {s rest : List Char} {f : Field} (h : readField s = .ok (f, rest)) :
    ∃ c t r v, s = c :: t ∧ isTokenChar c = true ∧ trimLeft (t.dropWhile isTokenChar) = '=' :: r ∧
      readValue r = .ok (v, rest) ∧ f = ⟨String.ofList (c :: t.takeWhile isTokenChar), v⟩ := by
  cases s with
  | nil => cases h
  -- only the way through all the tests gives a field
  | cons c t =>
    simp only [readField] at h
    split at h
    · next hc =>
      split at h
      · cases h
      · next d r hr =>
        split at h
        · next hd =>
          split at h
          · cases h
          · next v r' hv =>
            cases h
            exact ⟨c, t, r, v, rfl, hc, hd ▸ hr, hv, rfl⟩
        · cases h
    · cases h

theorem readField_length {s rest : List Char} {f : Field} (h : readField s = .ok (f, rest)) :
    rest.length < s.length := by
  obtain ⟨c, t, r, v, rfl, -, hr, hv, -⟩ := exists_of_readField h
  have hvalue := readValue_length hv
  have hblanks := length_trimLeft_le (t.dropWhile isTokenChar)
  have hname := length_dropWhile_le isTokenChar t
  rw [hr, List.length_cons] at hblanks
  rw [List.length_cons]
  omega

/-- Reads a list of fields with a comma after each but the last, where it is optional. -/
def readFields (s : List Char) : Except FieldFault (List Field) :=
  match _h : trimLeft s with
  | [] => .ok []
  | c :: t =>
    match _hf : readField (c :: t) with
    | .error e => .error e
    | .ok (f, []) => .ok [f]
    | .ok (f, d :: rest) =>
      -- behind a comma there may be no further field
      if d = ',' then
        match readFields rest with
        | .error e => .error e
        | .ok fs => .ok (f :: fs)
      else .error (.commaExpected f.name.toList)
  termination_by s.length
  decreasing_by
    have a := readField_length _hf
    have b := length_trimLeft_le s
    rw [_h] at b
    simp at a b
    omega

end Bibliography
