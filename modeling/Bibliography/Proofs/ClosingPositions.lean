import Bibliography.Block.Fields
import Bibliography.Proofs.SourceCoverage
import Mathlib.Order.Bounds.Basic

/-!
# Closing positions

Where a delimited text ends, told by counting. From a start on, a text closes at a position if what
stands up to there ends in the closing delimiter and as many braces are closed in it as are opened,
and one more if the delimiter is a brace itself. The scanner finds the first such position, and it
fails only if there is none. An end that has been found stays where it is, whatever is appended,
whereas a text without an end may still get one, but only behind what was there.

What a brace closes is balanced. Before a parenthesis or a quotation mark more braces may be closed
for a while than have been opened.

Main statements: `findsFirstClose_delimiters` on the scanner, and `stop_of_mem_locateBlocks` and
`readPart_of_delimiter` on the blocks and values that end where it stops.
-/

namespace Bibliography

variable {closer : Char} {extra : Nat} {s : List Char} {start stop : Nat}

/-! ## §1 Where a text closes -/

/-- The depth of a text is known from the numbers of its braces. -/
theorem braceDepth_eq_count (t : List Char) : braceDepth t = t.count '{' - t.count '}' := by
  induction t with
  | nil => rfl
  | cons c t ih =>
    simp only [braceDepth_cons, ih, braceWeight, List.count_cons, beq_iff_eq]
    split
    · next hopen =>
      -- an opening brace is no closing one
      subst hopen
      simp
      omega
    · split <;> omega

/-- The text from `start` up to `stop` ends in a closing delimiter, and `extra` more braces are closed
in it than opened. -/
structure ClosesAt (closer : Char) (extra : Nat) (s : List Char) (start stop : Nat) : Prop where
  ends : (s.extract start stop).getLast? = some closer
  count : (s.extract start stop).count '}' = (s.extract start stop).count '{' + extra

/-- Helper: a text is cut before and behind a delimiter. -/
private theorem extract_of_drop_eq {p rest : List Char} (hs : s.drop start = p ++ closer :: rest) :
    s.extract start (start + p.length) = p ∧
      s.extract start (start + p.length + 1) = p ++ [closer] ∧
      s.drop (start + p.length + 1) = rest := by
  -- the closer may be counted to the part in front of it
  have hbehind : s.drop start = (p ++ [closer]) ++ rest := by
    rw [hs, List.append_assoc, List.singleton_append]
  have hlength : (p ++ [closer]).length = p.length + 1 := List.length_append
  refine ⟨?_, ?_, ?_⟩
  · rw [List.extract_eq_take_drop, hs]
    exact List.take_left' (by omega)
  · rw [List.extract_eq_take_drop, hbehind]
    exact List.take_left' (by omega)
  · rw [Nat.add_assoc, ← List.drop_drop, hbehind]
    exact List.drop_left' hlength

section

variable (hextra : braceWeight closer = -(extra : Int))
include hextra

/-- Helper: the delimiter accounts for what is closed in excess, the text before it for the rest. -/
private theorem count_append_closer_iff (p : List Char) :
    (p ++ [closer]).count '}' = (p ++ [closer]).count '{' + extra ↔ braceDepth p = 0 := by
  have hdepth := braceDepth_eq_count (p ++ [closer])
  simp only [braceDepth_append, braceDepth_cons, braceDepth_nil, hextra] at hdepth
  omega

/-- A text closes behind every delimiter that stands outside its braces. -/
theorem closesAt_of_eq {p rest : List Char} (hs : s.drop start = p ++ closer :: rest)
    (hp : braceDepth p = 0) : ClosesAt closer extra s start (start + p.length + 1) := by
  obtain ⟨-, hextract, -⟩ := extract_of_drop_eq hs
  constructor
  · rw [hextract, List.getLast?_concat]
  · rw [hextract]
    exact (count_append_closer_iff hextra p).2 hp

/-- A text closes only behind a delimiter that stands outside its braces. -/
theorem ClosesAt.exists_eq (h : ClosesAt closer extra s start stop) :
    ∃ p rest, s.drop start = p ++ closer :: rest ∧ braceDepth p = 0 ∧
      start + p.length + 1 ≤ stop := by
  obtain ⟨p, hp⟩ := List.getLast?_eq_some_iff.1 h.ends
  have hcount := h.count
  rw [hp, count_append_closer_iff hextra] at hcount
  rw [List.extract_eq_take_drop] at hp
  refine ⟨p, (s.drop start).drop (stop - start), ?_, hcount, ?_⟩
  · rw [List.append_cons, ← hp, List.take_append_drop]
  · -- not an equation, because `stop` may lie behind the end of the text
    have hlength := congrArg List.length hp
    rw [List.length_take, List.length_append, List.length_singleton] at hlength
    omega

end

/-! ## §2 The position that is found -/

/-- The position behind the delimiter that closes a text from `start` on. -/
def findClose? (closer : Char) (s : List Char) (start : Nat) : Option Nat :=
  (splitAtClose closer 0 (s.drop start)).map fun p => start + p.1.length + 1

/-- The delimiter that is found is the first one with no brace open before it. -/
theorem findClose?_eq_some_iff : findClose? closer s start = some stop ↔
    ∃ inside rest, s.drop start = inside ++ closer :: rest ∧ NeverCloses closer 0 inside ∧
      braceDepth inside = 0 ∧ start + inside.length + 1 = stop := by
  simp only [findClose?, Option.map_eq_some_iff, Prod.exists, splitAtClose_eq_some_iff,
    Int.zero_add, and_assoc]

theorem findClose?_eq_none_iff :
    findClose? closer s start = none ↔ NeverCloses closer 0 (s.drop start) := by
  rw [findClose?, Option.map_eq_none_iff, splitAtClose_eq_none_iff]

/-- The scanner cuts a text at the position. -/
theorem splitAtClose_drop (closer : Char) (s : List Char) (start : Nat) :
    splitAtClose closer 0 (s.drop start) =
      (findClose? closer s start).map fun stop => (s.extract start (stop - 1), s.drop stop) := by
  cases h : splitAtClose closer 0 (s.drop start) with
  | none => rw [findClose?, h]; rfl
  | some p =>
    obtain ⟨inside, rest⟩ := p
    obtain ⟨hs, -, -⟩ := splitAtClose_eq_some_iff.1 h
    obtain ⟨hinside, -, hrest⟩ := extract_of_drop_eq hs
    rw [findClose?, h, Option.map_some, Option.map_some, Nat.add_sub_cancel, hinside, hrest]

theorem lt_and_le_of_findClose? (h : findClose? closer s start = some stop) :
    start < stop ∧ stop ≤ s.length := by
  obtain ⟨inside, rest, hs, -, -, rfl⟩ := findClose?_eq_some_iff.1 h
  have hlength := congrArg List.length hs
  rw [List.length_drop, List.length_append, List.length_cons] at hlength
  omega

/-- Only the text up to the position is looked at. -/
theorem findClose?_extract {n : Nat} : findClose? closer s start = some (start + n) ↔
    findClose? closer (s.extract start (start + n)) 0 = some n := by
  rw [findClose?_eq_some_iff, findClose?_eq_some_iff, List.drop_zero]
  constructor
  · rintro ⟨inside, rest, hs, hnever, hdepth, hstop⟩
    -- the text that is cut out ends in the delimiter
    refine ⟨inside, [], ?_, hnever, hdepth, by omega⟩
    rw [← hstop]
    exact (extract_of_drop_eq hs).2.1
  · rintro ⟨inside, rest, hs, hnever, hdepth, hstop⟩
    -- what was cut off comes behind the delimiter
    refine ⟨inside, rest ++ (s.drop start).drop n, ?_, hnever, hdepth, by omega⟩
    rw [List.extract_eq_take_drop, Nat.add_sub_cancel_left] at hs
    rw [← List.cons_append, ← List.append_assoc, ← hs, List.take_append_drop]

/-- In a text that goes on behind its end, the same positions of the text itself are found. -/
theorem findClose?_append {t : List Char} : findClose? closer s start = some stop ↔
    findClose? closer (s ++ t) start = some stop ∧ stop ≤ s.length := by
  have hsame (hlt : start < stop) (hle : stop ≤ s.length) :
      findClose? closer s start = some stop ↔ findClose? closer (s ++ t) start = some stop := by
    -- both texts are the same up to `stop`
    obtain ⟨n, rfl⟩ := Nat.exists_eq_add_of_le (Nat.le_of_lt hlt)
    have hextract : (s ++ t).extract start (start + n) = s.extract start (start + n) := by
      rw [List.extract_eq_take_drop, List.extract_eq_take_drop,
        List.drop_append_of_le_length (by omega),
        List.take_append_of_le_length (by rw [List.length_drop]; omega)]
    rw [findClose?_extract, findClose?_extract, hextract]
  constructor
  · intro h
    obtain ⟨hlt, hle⟩ := lt_and_le_of_findClose? h
    exact ⟨(hsame hlt hle).1 h, hle⟩
  · rintro ⟨h, hle⟩
    exact (hsame (lt_and_le_of_findClose? h).1 hle).2 h

/-- A closing brace is found where a balanced text ends. -/
theorem findClose?_brace_iff : findClose? '}' s start = some stop ↔
    start < stop ∧ s[stop - 1]? = some '}' ∧ Balanced (s.extract start (stop - 1)) := by
  rw [findClose?_eq_some_iff]
  constructor
  · rintro ⟨inside, rest, hs, hnever, hdepth, rfl⟩
    have hbrace : (s.drop start)[inside.length]? = some '}' := by rw [hs]; simp
    rw [List.getElem?_drop] at hbrace
    rw [Nat.add_sub_cancel, (extract_of_drop_eq hs).1]
    exact ⟨by omega, hbrace, balanced_iff.2 ⟨hnever, hdepth⟩⟩
  · rintro ⟨hlt, hbrace, hbalanced⟩
    obtain ⟨hbound, hget⟩ := List.getElem?_eq_some_iff.1 hbrace
    -- cut before the brace, the text is what is balanced and what begins with the brace
    have hcut := List.take_append_drop (stop - 1 - start) (s.drop start)
    have hsum : start + (stop - 1 - start) = stop - 1 := by omega
    rw [List.drop_drop, hsum, List.drop_eq_getElem_cons hbound, hget] at hcut
    refine ⟨_, _, hcut.symm, hbalanced.neverCloses, hbalanced.depth, ?_⟩
    rw [List.length_take, List.length_drop]
    omega

/-! ## §3 The first position -/

/-- Helper: a text that never closes reaches no further than to the first closing delimiter. -/
private theorem length_le_of_neverCloses {inside rest p rest' : List Char}
    (h : NeverCloses closer 0 inside) (hp : braceDepth p = 0)
    (heq : inside ++ closer :: rest = p ++ closer :: rest') : inside.length ≤ p.length := by
  rcases List.append_eq_append_iff.1 heq with ⟨u, hu, -⟩ | ⟨u, hu, hrest⟩
  · rw [hu, List.length_append]
    exact Nat.le_add_right _ _
  · cases u with
    | nil => rw [hu, List.append_nil]
    | cons d u =>
      -- the delimiter behind `p` would stand in `inside`, outside its braces
      obtain ⟨rfl, -⟩ := List.cons.inj hrest
      exact absurd (by rw [hp, Int.zero_add]) (neverCloses_iff_forall.1 h p u hu)

section

variable (hextra : braceWeight closer = -(extra : Int))
include hextra

theorem findClose?_eq_none_iff_forall :
    findClose? closer s start = none ↔ ∀ e, ¬ClosesAt closer extra s start e := by
  rw [findClose?_eq_none_iff, neverCloses_iff_forall]
  constructor
  · intro h e he
    obtain ⟨p, rest, hs, hp, -⟩ := he.exists_eq hextra
    exact h p rest hs (by rw [hp, Int.zero_add])
  · intro h p rest hs hp
    rw [Int.zero_add] at hp
    exact h _ (closesAt_of_eq hextra hs hp)

theorem isLeast_of_findClose? (h : findClose? closer s start = some stop) :
    IsLeast {e | ClosesAt closer extra s start e} stop := by
  obtain ⟨inside, rest, hs, hnever, hdepth, rfl⟩ := findClose?_eq_some_iff.1 h
  refine ⟨closesAt_of_eq hextra hs hdepth, fun e he => ?_⟩
  obtain ⟨p, rest', hs', hp, hle⟩ := ClosesAt.exists_eq hextra he
  have hlength := length_le_of_neverCloses hnever hp (hs.symm.trans hs')
  omega

theorem findClose?_eq_some_iff_isLeast :
    findClose? closer s start = some stop ↔ IsLeast {e | ClosesAt closer extra s start e} stop := by
  constructor
  · exact isLeast_of_findClose? hextra
  · intro h
    cases hfind : findClose? closer s start with
    | none => exact absurd h.1 ((findClose?_eq_none_iff_forall hextra).1 hfind stop)
    | some found => rw [(isLeast_of_findClose? hextra hfind).unique h]

end

/-- What is found from a start on is the first position at which a text closes. -/
structure FindsFirstClose (closer : Char) (extra : Nat) (s : List Char) (start : Nat) : Prop where
  /-- It is the least position at which the text closes. -/
  eq_some_iff : ∀ stop, findClose? closer s start = some stop ↔
    IsLeast {e | ClosesAt closer extra s start e} stop
  /-- None is found exactly if the text closes nowhere. -/
  eq_none_iff : findClose? closer s start = none ↔ ∀ e, ¬ClosesAt closer extra s start e
  /-- The scanner cuts the text there. -/
  splitAtClose_eq : splitAtClose closer 0 (s.drop start) =
    (findClose? closer s start).map fun stop => (s.extract start (stop - 1), s.drop stop)
  /-- It can be told from the text up to there. -/
  extract_iff : ∀ n, findClose? closer s start = some (start + n) ↔
    findClose? closer (s.extract start (start + n)) 0 = some n
  /-- What is appended does not move it, and brings in no other one before the end of the text. -/
  append_iff : ∀ t stop, findClose? closer s start = some stop ↔
    findClose? closer (s ++ t) start = some stop ∧ stop ≤ s.length

theorem findsFirstClose (hextra : braceWeight closer = -(extra : Int)) (s : List Char)
    (start : Nat) : FindsFirstClose closer extra s start where
  eq_some_iff _ := findClose?_eq_some_iff_isLeast hextra
  eq_none_iff := findClose?_eq_none_iff_forall hextra
  splitAtClose_eq := splitAtClose_drop closer s start
  extract_iff _ := findClose?_extract
  append_iff _ _ := findClose?_append

/-- Braces, parentheses and quotation marks are closed at the first position that can close them, and
what a brace closes is balanced. -/
theorem findsFirstClose_delimiters (s : List Char) (start : Nat) :
    FindsFirstClose (closerOf '{') 1 s start ∧ FindsFirstClose (closerOf '(') 0 s start ∧
      FindsFirstClose '"' 0 s start ∧
      ∀ stop, findClose? (closerOf '{') s start = some stop ↔
        start < stop ∧ s[stop - 1]? = some '}' ∧ Balanced (s.extract start (stop - 1)) := by
  -- the closing brace takes back the one that is open; the other two weigh nothing
  have hbrace : braceWeight (closerOf '{') = -((1 : Nat) : Int) := by decide
  have hparenthesis : braceWeight (closerOf '(') = -((0 : Nat) : Int) := by decide
  have hmark : braceWeight '"' = -((0 : Nat) : Int) := by decide
  refine ⟨?_, ?_, ?_, fun stop => ?_⟩
  · exact findsFirstClose hbrace s start
  · exact findsFirstClose hparenthesis s start
  · exact findsFirstClose hmark s start
  · exact findClose?_brace_iff

/-- A brace that is closed too early can be made up for before a parenthesis. -/
example : findClose? (closerOf '(') "\x7d)\x7b)".toList 0 = some 4 := by decide

/-! ## §4 Blocks and values -/

/-- A block is completed up to the position that is found behind its head. -/
theorem complete_drop (head : Head) (s : List Char) (start : Nat) :
    Block.complete head (s.drop start) =
      match findClose? (closerOf head.opener) s start with
      | some stop => (⟨head, s.extract start (stop - 1), true⟩, s.drop stop)
      | none => (⟨head, s.drop start, false⟩, []) := by
  rw [Block.complete, splitAtClose_drop]
  cases findClose? (closerOf head.opener) s start <;> rfl

/-- A block ends where the delimiter that closes it is found, and at the end of the text if there is
none. -/
theorem stop_of_mem_locateBlocks {t : List Char} {x : Located} (hx : x ∈ locateBlocks t) :
    findClose? (closerOf x.block.head.opener) t (x.start + x.block.head.text.length) =
        (if x.block.closed then some x.stop else none) ∧
      (x.block.closed = false → x.stop = t.length) := by
  obtain ⟨gap, after, h⟩ := stands_of_mem_locateBehind (show x ∈ locateBehind [] t from hx)
  rw [List.nil_append] at h
  obtain ⟨rest, hread, hcomplete⟩ := h.extent
  have hrest : rest = t.drop (x.start + x.block.head.text.length) := by
    rw [← List.drop_drop, Head.read?_eq_some hread, List.drop_left]
  have hle := h.stop_le
  rw [hrest, complete_drop] at hcomplete
  cases hfind : findClose? (closerOf x.block.head.opener) t
      (x.start + x.block.head.text.length) with
  | some stop =>
    simp only [hfind] at hcomplete
    obtain ⟨hblock, hdrop⟩ := Prod.mk.inj hcomplete
    have hclosed : x.block.closed = true := by rw [← hblock]
    -- both positions lie in the text, and the same text stands behind them
    have hlength := congrArg List.length hdrop
    rw [List.length_drop, List.length_drop] at hlength
    have hstop := (lt_and_le_of_findClose? hfind).2
    have heq : stop = x.stop := by omega
    rw [hclosed, if_pos rfl, heq]
    exact ⟨rfl, fun hopen => by cases hopen⟩
  | none =>
    simp only [hfind] at hcomplete
    obtain ⟨hblock, hdrop⟩ := Prod.mk.inj hcomplete
    have hopen : x.block.closed = false := by rw [← hblock]
    have hend := List.drop_eq_nil_iff.1 hdrop.symm
    rw [hopen]
    exact ⟨rfl, fun _ => by omega⟩

/-- A value between delimiters ends where the closing one is found. -/
theorem readPart_of_delimiter {position : Nat} {c : Char} (hc : c = '{' ∨ c = '"')
    (hs : s[position]? = some c) :
    readPart (s.drop position) =
      match findClose? (if c = '{' then '}' else '"') s (position + 1) with
      | some stop => .ok (.text (String.ofList (s.extract (position + 1) (stop - 1))), s.drop stop)
      | none => .error (.unterminated c) := by
  obtain ⟨hlt, rfl⟩ := List.getElem?_eq_some_iff.1 hs
  rw [List.drop_eq_getElem_cons hlt, readPart, if_pos hc, splitAtClose_drop]
  cases findClose? (if s[position] = '{' then '}' else '"') s (position + 1) <;> rfl

end Bibliography
