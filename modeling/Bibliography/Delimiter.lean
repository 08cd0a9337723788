/-!
# Delimiters

Where a delimited text ends. Braces nest, and a closing delimiter counts only where as many braces
have been opened as closed. One scanner serves the three closing delimiters: for `}` the text inside
is balanced and never closes more than it opened, whereas before `)` and `"` it may do so for a
while.

Main statements: the scanner splits its input without loss (`splitAtClose_eq_some`), finds the first
admissible position (`splitAtClose_first`) and does not look beyond it (`splitAtClose_append`).
-/

namespace Bibliography

/-- One for an opening brace, minus one for a closing brace. -/
def braceWeight (c : Char) : Int := if c = '{' then 1 else if c = '}' then -1 else 0

/-- The number of opening braces in a text, less the closing ones. -/
def braceDepth : List Char → Int
  | [] => 0
  | c :: s => braceWeight c + braceDepth s

/-- The text up to the closing delimiter `closer` that stands outside the braces of the text, and
what follows that delimiter; `depth` braces are open at the start. -/
def splitAtClose (closer : Char) (depth : Int) : List Char → Option (List Char × List Char)
  | [] => none
  | c :: s =>
    if c = closer ∧ depth = 0 then some ([], s)
    else (splitAtClose closer (depth + braceWeight c) s).map fun p => (c :: p.1, p.2)

/-- The delimiter that closes a block. -/
def closerOf (opener : Char) : Char := if opener = '{' then '}' else ')'

/-! ## Laws -/

theorem splitAtClose_eq_some {closer : Char} {depth : Int} {s inside rest : List Char}
    (h : splitAtClose closer depth s = some (inside, rest)) :
    s = inside ++ closer :: rest ∧ depth + braceDepth inside = 0 := by
  induction s generalizing depth inside with
  | nil => simp [splitAtClose] at h
  | cons c s ih =>
    simp only [splitAtClose] at h
    -- the closer is reached, or the depth changes with the character
    split at h
    · next hc =>
      obtain ⟨rfl, rfl⟩ := by simpa using h
      simp [hc, braceDepth]
    · obtain ⟨⟨i, r⟩, hs, hp⟩ := Option.map_eq_some_iff.1 h
      obtain ⟨rfl, rfl⟩ := by simpa using hp
      obtain ⟨rfl, hd⟩ := ih hs
      refine ⟨rfl, ?_⟩
      simp only [braceDepth] at hd ⊢
      omega

theorem splitAtClose_length {closer : Char} {depth : Int} {s inside rest : List Char}
    (h : splitAtClose closer depth s = some (inside, rest)) : rest.length < s.length := by
  obtain ⟨rfl, -⟩ := splitAtClose_eq_some h
  simp; omega

theorem splitAtClose_append {closer : Char} {depth : Int} {s inside rest : List Char}
    (h : splitAtClose closer depth s = some (inside, rest)) (t : List Char) :
    splitAtClose closer depth (s ++ t) = some (inside, rest ++ t) := by
  induction s generalizing depth inside with
  | nil => simp [splitAtClose] at h
  | cons c s ih =>
    simp only [splitAtClose, List.cons_append] at h ⊢
    split at h
    · next hc =>
      obtain ⟨rfl, rfl⟩ := by simpa using h
      simp [hc]
    · next hc =>
      obtain ⟨⟨i, r⟩, hs, hp⟩ := Option.map_eq_some_iff.1 h
      obtain ⟨rfl, rfl⟩ := by simpa using hp
      simp [hc, ih hs]

/-- No earlier delimiter stands outside the braces. -/
theorem splitAtClose_first {closer : Char} {depth : Int} {s inside rest : List Char}
    (h : splitAtClose closer depth s = some (inside, rest)) {p q : List Char}
    (hp : inside = p ++ closer :: q) : depth + braceDepth p ≠ 0 := by
  induction s generalizing depth inside p with
  | nil => simp [splitAtClose] at h
  | cons c s ih =>
    simp only [splitAtClose] at h
    split at h
    · obtain ⟨rfl, rfl⟩ := by simpa using h
      simp at hp
    · next hc =>
      obtain ⟨⟨i, r⟩, hs, hi⟩ := Option.map_eq_some_iff.1 h
      obtain ⟨rfl, rfl⟩ := by simpa using hi
      cases p with
      | nil =>
        -- the split would have been at the first character
        intro hz
        obtain ⟨rfl, -⟩ := by simpa using hp
        exact hc ⟨rfl, by simpa [braceDepth] using hz⟩
      | cons d p =>
        obtain ⟨rfl, hrest⟩ := by simpa using hp
        have := ih hs hrest
        simp only [braceDepth] at this ⊢
        omega

end Bibliography
