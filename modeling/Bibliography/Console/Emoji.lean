import Bibliography.Console.EmojiTable
import Bibliography.Text.LetterCase

/-!
# Emoji in texts

A text for a console can ask for an emoji by its short name between colons, such as `:heart:`, in any
case. `:heart-text:` and `:heart-emoji:` also say how the emoji is to be presented. What is no short name
stays as it is, its closing colon included, so this colon opens no other name.

Main statement: a text without colons stays as it is (`replaceEmoji_of_no_colon`).
-/

namespace Bibliography.Console

open Text

/-! ## §1 Short names -/

/-- The presentation that a name asks for at its end, with the selector for it. -/
def presentations : List (List Char × Char) :=
  [("-emoji".toList, '\uFE0F'), ("-text".toList, '\uFE0E')]

/-- A name without what it says about the presentation, and the selector that it asks for. -/
def splitPresentation (name : List Char) : List Char × List Char :=
  match presentations.find? fun p => p.1.isSuffixOf name with
  | none => (name, [])
  | some (ending, selector) => (name.take (name.length - ending.length), [selector])

/-- The emoji with a short name. -/
def emoji? (name : List Char) : Option (List Char) :=
  let (base, selector) := splitPresentation name
  (emojiTable.lookup (lower base)).map (· ++ selector)

/-! ## §2 Texts -/

/-- Whether a character can stand between the colons of a short name. -/
def isNameChar (c : Char) : Bool := c != ':' && !isBlank c

/-- The short name that a text continues after its opening colon, and what follows it. -/
def readName? (s : List Char) : Option (List Char × List Char) :=
  match s.dropWhile isNameChar with
  | ':' :: rest => some (s.takeWhile isNameChar, rest)
  | _ => none

theorem length_lt_of_readName? {s name rest : List Char} (h : readName? s = some (name, rest)) :
    rest.length < s.length := by
  simp only [readName?] at h
  split at h
  · rename_i r hr
    obtain ⟨-, rfl⟩ := by simpa using h
    have hl : (s.dropWhile isNameChar).length ≤ s.length :=
      (List.dropWhile_sublist isNameChar).length_le
    rw [hr, List.length_cons] at hl
    omega
  · simp at h

/-- A text with emoji in the place of their short names. -/
def replaceEmoji (s : List Char) : List Char :=
  match s with
  | [] => []
  | c :: s =>
    match _h : if c = ':' then readName? s else none with
    | none => c :: replaceEmoji s
    | some (name, rest) => (emoji? name).getD (':' :: name ++ [':']) ++ replaceEmoji rest
  termination_by s.length
  decreasing_by
    · simp
    · have hr : readName? s = some (name, rest) := by
        by_cases hc : c = ':'
        · simpa [hc] using _h
        · simp [hc] at _h
      have := length_lt_of_readName? hr
      simp only [List.length_cons]
      omega

theorem replaceEmoji_of_no_colon {s : List Char} (h : ':' ∉ s) : replaceEmoji s = s := by
  induction s with
  | nil => rw [replaceEmoji.eq_def]
  | cons c s ih =>
    have hc : c ≠ ':' := fun e => h (e ▸ List.mem_cons_self)
    rw [replaceEmoji.eq_def]
    split
    · contradiction
    · next heq =>
      obtain ⟨rfl, rfl⟩ := List.cons.inj heq
      split
      · rw [ih fun e => h (List.mem_cons_of_mem _ e)]
      -- only a colon opens a name
      · next hr => simp [hc] at hr

end Bibliography.Console
