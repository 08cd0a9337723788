import Bibliography.Text.Lines

/-!
# Failures

Something that went wrong, with what went wrong before it. Failures stand in a list and name the
failures behind them by their places, so that several can share what is behind them, and a chain can
come back to a failure that was already on it. A chain is followed up to there.

Main statements: a chain has no place twice (`nodup_path`), and only places of the list
(`lt_length_of_mem_path`).
-/

namespace Bibliography

open Text

/-- Something that went wrong. -/
structure Failure where
  /-- The name of the kind of failure. -/
  kind : String
  text : String
  /-- The place of the failure that led to this one. -/
  cause : Option Nat
  /-- The place of the failure that was being handled when this one came up. -/
  context : Option Nat
  deriving DecidableEq, Repr

namespace Failure

/-! ## §1 Single failures -/

/-- A failure with nothing behind it. -/
def single (kind text : String) : Failure := ⟨kind, text, none, none⟩

/-- A failure that another one led to, as a list that begins with it. -/
def causedBy (kind text : String) (cause : Failure) : List Failure :=
  [⟨kind, text, some 1, none⟩, cause]

/-- A failure that came up while another one was handled, as a list that begins with it. -/
def during (kind text : String) (context : Failure) : List Failure :=
  [⟨kind, text, none, some 1⟩, context]

/-- The place of the failure behind a failure: its cause if there is one, else its context. -/
def next? (f : Failure) : Option Nat := f.cause <|> f.context

/-- The first line of the text that is not blank, without the blanks around it. -/
def headline? (f : Failure) : Option String :=
  let line := trim (firstLine (trim f.text.toList))
  if line.isEmpty then none else some (String.ofList line)

/-- A failure in one line: its kind and its text. -/
def summary (f : Failure) : String := f.kind ++ ": " ++ f.text

/-! ## §2 Chains -/

/-- The places on a chain that begins at `place?`, up to the first one that was visited before. As
many steps are taken as there are failures. -/
def pathFrom (failures : List Failure) : Nat → List Nat → Option Nat → List Nat
  | 0, _, _ => []
  | _, _, none => []
  | steps + 1, visited, some place =>
    if place ∈ visited then []
    else match failures[place]? with
      | none => []
      | some f => place :: pathFrom failures steps (place :: visited) f.next?

/-- The places on the chain that begins at a place. -/
def path (failures : List Failure) (start : Option Nat) : List Nat :=
  pathFrom failures failures.length [] start

/-- The headlines of the failures on a chain. -/
def messages (failures : List Failure) (start : Nat) : List String :=
  (path failures (some start)).filterMap fun place => failures[place]?.bind headline?

/-- The headline that says most: the last one. -/
def hint? (failures : List Failure) (start : Nat) : Option String :=
  (messages failures start).getLast?

/-- The summaries of the failures behind a failure; the failure itself is among them if the chain
comes back to it. -/
def causes (failures : List Failure) (start : Nat) : List String :=
  (path failures (failures[start]?.bind next?)).filterMap fun place => failures[place]?.map summary

/-! ## §3 Laws -/

theorem lt_length_of_mem_pathFrom {failures : List Failure} {steps : Nat} {visited : List Nat}
    {start : Option Nat} {place : Nat} (h : place ∈ pathFrom failures steps visited start) :
    place < failures.length := by
  fun_induction pathFrom failures steps visited start with
  | case1 => simp at h
  | case2 => simp at h
  | case3 => simp at h
  | case4 => simp at h
  | case5 steps visited p _ f hf ih =>
    rcases List.mem_cons.1 h with rfl | h
    · exact (List.getElem?_eq_some_iff.1 hf).1
    · exact ih h

theorem not_mem_visited_of_mem_pathFrom {failures : List Failure} {steps : Nat}
    {visited : List Nat} {start : Option Nat} {place : Nat}
    (h : place ∈ pathFrom failures steps visited start) : place ∉ visited := by
  fun_induction pathFrom failures steps visited start with
  | case1 => simp at h
  | case2 => simp at h
  | case3 => simp at h
  | case4 => simp at h
  -- a place of the path is its first one or comes behind it
  | case5 steps visited p hp f _ ih =>
    rcases List.mem_cons.1 h with rfl | h
    · exact hp
    · exact fun hv => ih h (List.mem_cons_of_mem _ hv)

theorem nodup_pathFrom (failures : List Failure) (steps : Nat) (visited : List Nat)
    (start : Option Nat) : (pathFrom failures steps visited start).Nodup := by
  fun_induction pathFrom failures steps visited start with
  | case1 => exact List.nodup_nil
  | case2 => exact List.nodup_nil
  | case3 => exact List.nodup_nil
  | case4 => exact List.nodup_nil
  | case5 steps visited p _ f _ ih =>
    exact List.nodup_cons.2 ⟨fun h => not_mem_visited_of_mem_pathFrom h List.mem_cons_self, ih⟩

/-- A chain only has places of the list. -/
theorem lt_length_of_mem_path {failures : List Failure} {start : Option Nat} {place : Nat}
    (h : place ∈ path failures start) : place < failures.length :=
  lt_length_of_mem_pathFrom h

/-- A chain has no place twice. -/
theorem nodup_path (failures : List Failure) (start : Option Nat) :
    (path failures start).Nodup :=
  nodup_pathFrom _ _ _ _

end Failure

end Bibliography
