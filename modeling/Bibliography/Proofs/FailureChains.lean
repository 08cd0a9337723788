import Bibliography.Failure
import Bibliography.Proofs.Blanks
import Mathlib.Data.List.Chain
import Mathlib.Data.List.Nodup
import Mathlib.Data.List.Perm.Subperm

/-!
# Chains of failures

The failures behind a failure are told on a walk that goes from each to the one behind it. A chain may
come back to any of its failures, so a walk remembers the places that it has been to, and ends where
it would come to one of them again. Every round takes it to another place of the list, so it makes no
more rounds than there are failures (`Walk.exists_ends`). The places that it has been to in the end
are the one list of places that follows the chain and stops before the first place it has already
(`IsPath.eq`), and these are all the places that can be reached (`IsPath.mem_iff`).

The failure from which a walk starts is itself told among those behind it exactly if the chain comes
back to it.

Main statement: `Failure.tellsChain`.
-/

namespace Bibliography

open Text

/-! ## §1 The first line of a text -/

namespace Text

theorem isBlank_of_isLineBoundary {c : Char} (h : isLineBoundary c = true) : isBlank c = true := by
  simp only [isLineBoundary, isBlank, Bool.or_eq_true, Bool.and_eq_true, decide_eq_true_eq,
    beq_iff_eq] at h ⊢
  omega

/-- A text that is not blank has a first line, which begins with no blank. -/
theorem exists_firstLine_trim {s : List Char} (h : ¬AllBlank s) :
    ∃ c rest, isBlank c = false ∧ firstLine (trim s) = c :: rest := by
  obtain ⟨c, rest, hs⟩ := List.exists_cons_of_ne_nil (mt trim_eq_nil_iff.1 h)
  obtain ⟨w, hw⟩ := trimRight_isPrefix (trimLeft s)
  have hc : isBlank c = false := by
    refine head?_dropWhile_eq_false isBlank s c ?_
    change c ∈ (trimLeft s).head?
    rw [← hw, ← trim, hs]
    rfl
  -- what is not blank ends no line either
  have hboundary : isLineBoundary c = false := by
    rw [Bool.eq_false_iff]
    intro hc'
    rw [isBlank_of_isLineBoundary hc'] at hc
    cases hc
  refine ⟨c, rest.takeWhile fun c => !isLineBoundary c, hc, ?_⟩
  rw [hs, firstLine, List.takeWhile_cons_of_pos (by rw [hboundary]; rfl)]

end Text

namespace Failure

/-! ## §2 The failure behind a failure -/

/-- The place of the failure behind the one at a place. -/
def behind? (failures : List Failure) (place : Nat) : Option Nat := failures[place]?.bind next?

/-- That a failure leads back to the one behind it: to its cause, or without a cause to its context. -/
inductive Leads (failures : List Failure) : Nat → Nat → Prop
  | cause {place next : Nat} {f : Failure} :
      failures[place]? = some f → f.cause = some next → Leads failures place next
  | context {place next : Nat} {f : Failure} :
      failures[place]? = some f → f.cause = none → f.context = some next →
      Leads failures place next

/-- All failures that are named are there. -/
def Linked (failures : List Failure) : Prop :=
  ∀ f ∈ failures, (∀ place ∈ f.cause, place < failures.length) ∧
    ∀ place ∈ f.context, place < failures.length

instance (failures : List Failure) : Decidable (Linked failures) :=
  inferInstanceAs (Decidable (∀ f ∈ failures, (∀ place ∈ f.cause, place < failures.length) ∧
    ∀ place ∈ f.context, place < failures.length))

variable {failures : List Failure} {place next : Nat} {start : Option Nat}

theorem leads_iff : Leads failures place next ↔ behind? failures place = some next := by
  constructor
  · intro h
    cases h with
    | cause hf hcause => simp [behind?, hf, next?, hcause]
    | context hf hcause hcontext => simp [behind?, hf, next?, hcause, hcontext]
  · intro h
    obtain ⟨f, hf, hnext⟩ := Option.bind_eq_some_iff.1 h
    cases hcause : f.cause with
    -- a failure without a cause leads to its context, one with a cause to this alone
    | none =>
      refine .context hf hcause ?_
      simpa [next?, hcause] using hnext
    | some cause =>
      refine .cause hf ?_
      simpa [next?, hcause] using hnext

/-- There is no more than one failure behind a failure. -/
theorem Leads.eq {other : Nat} (h : Leads failures place next) (h' : Leads failures place other) :
    next = other := by
  rw [leads_iff] at h h'
  exact Option.some.inj (h.symm.trans h')

theorem Linked.lt_length (h : Linked failures) (hleads : Leads failures place next) :
    next < failures.length := by
  cases hleads with
  | cause hf hcause => exact (h _ (List.mem_of_getElem? hf)).1 next hcause
  | context hf _ hcontext => exact (h _ (List.mem_of_getElem? hf)).2 next hcontext

/-! ## §3 The places on a chain -/

/-- The places on the chain that begins at a place: every place is followed by the one behind it, none
comes twice, and the place behind the last one, if there is any, is among them already. -/
structure IsPath (failures : List Failure) (start : Option Nat) (places : List Nat) : Prop where
  head : places.head? = start
  chain : places.IsChain (Leads failures)
  nodup : places.Nodup
  stops : ∀ last ∈ places.getLast?, ∀ next, Leads failures last next → next ∈ places

/-- Of two lists of places that follow the same chain, one goes on where the other stops. -/
theorem isPrefix_or_isPrefix {places others : List Nat} (h : places.IsChain (Leads failures))
    (h' : others.IsChain (Leads failures)) (hhead : places.head? = others.head?) :
    places <+: others ∨ others <+: places := by
  induction places generalizing others with
  | nil => exact .inl List.nil_prefix
  | cons place places ih =>
    match others with
    | [] => exact .inr List.nil_prefix
    | other :: others =>
      obtain rfl : place = other := Option.some.inj hhead
      rw [List.prefix_cons_inj, List.prefix_cons_inj]
      match places, others with
      | [], _ => exact .inl List.nil_prefix
      | _, [] => exact .inr List.nil_prefix
      -- both lists go on, and what a failure leads to is determined
      | next :: _, other :: _ =>
        have hnext : next = other := (List.isChain_cons_cons.1 h).1.eq (List.isChain_cons_cons.1 h').1
        exact ih h.tail h'.tail (by rw [List.head?_cons, List.head?_cons, hnext])

namespace IsPath

variable {places others : List Nat}

/-- Helper: a chain that has stopped does not go on. -/
private theorem eq_of_isPrefix (h : IsPath failures start places) (h' : IsPath failures start others)
    (hgoes : places <+: others) : places = others := by
  obtain ⟨rest, rfl⟩ := hgoes
  match rest with
  | [] => rw [List.append_nil]
  | next :: rest =>
    cases hlast : places.getLast? with
    | none =>
      -- the chain would have no place, but another one begins
      obtain rfl := List.getLast?_eq_none_iff.1 hlast
      have hhead := h.head.trans h'.head.symm
      cases hhead
    | some last =>
      -- the place behind the last one would come twice
      have hleads := (List.isChain_append.1 h'.chain).2.2 last hlast next rfl
      have hmem := h.stops last hlast next hleads
      have hdisjoint := (List.nodup_append.1 h'.nodup).2.2
      exact absurd rfl (hdisjoint next hmem next List.mem_cons_self)

/-- There is only one chain that begins at a place. -/
theorem eq (h : IsPath failures start places) (h' : IsPath failures start others) :
    places = others := by
  rcases isPrefix_or_isPrefix h.chain h'.chain (h.head.trans h'.head.symm) with hgoes | hgoes
  · exact h.eq_of_isPrefix h' hgoes
  · exact (h'.eq_of_isPrefix h hgoes).symm

/-- Helper: a place that is not the last one leads to another one of them. -/
private theorem getLast?_or_exists (h : places.IsChain (Leads failures)) (hplace : place ∈ places) :
    places.getLast? = some place ∨ ∃ next ∈ places, Leads failures place next := by
  obtain ⟨before, after, rfl⟩ := List.append_of_mem hplace
  match after with
  | [] => exact .inl List.getLast?_concat
  | next :: after =>
    refine .inr ⟨next, by simp, ?_⟩
    exact (List.isChain_append_cons_cons.1 h).2.1

/-- The place behind a place on a chain is on the chain, too. -/
theorem mem_of_leads (h : IsPath failures start places) (hplace : place ∈ places)
    (hleads : Leads failures place next) : next ∈ places := by
  rcases getLast?_or_exists h.chain hplace with hlast | ⟨other, hother, hleads'⟩
  · exact h.stops place hlast next hleads
  · rwa [hleads.eq hleads']

/-- On a chain are the places that can be reached from where it begins. -/
theorem mem_iff {first : Nat} (h : IsPath failures (some first) places) :
    place ∈ places ↔ Relation.ReflTransGen (Leads failures) first place := by
  constructor
  · -- forwards every place of the path is reached link by link; backwards a path is not left by a
    -- link
    refine h.chain.induction (Relation.ReflTransGen (Leads failures) first) places
      (fun _ _ hleads hreach => hreach.tail hleads) (fun hne => ?_) place
    have hhead : places.head hne = first :=
      Option.some.inj ((List.head?_eq_some_head hne).symm.trans h.head)
    rw [hhead]
  · intro hreach
    induction hreach with
    | refl => exact List.mem_of_mem_head? h.head
    | tail _ hleads ih => exact h.mem_of_leads ih hleads

end IsPath

/-! ## §4 Walks -/

/-- The failures at some places. -/
def along (failures : List Failure) (places : List Nat) : List Failure :=
  places.filterMap (failures[·]?)

theorem length_along {places : List Nat} (h : ∀ place ∈ places, place < failures.length) :
    (along failures places).length = places.length := by
  induction places with
  | nil => rfl
  | cons place places ih =>
    have hplace := List.getElem?_eq_getElem (h place List.mem_cons_self)
    have hrest := ih fun other hother => h other (List.mem_cons_of_mem _ hother)
    rw [along, List.filterMap_cons_some hplace, List.length_cons, List.length_cons, ← hrest, along]

/-- Where a walk along a chain has come to. -/
structure Walk where
  /-- The places it has been to, the last one first. -/
  visited : List Nat
  /-- The place that is next, if there is any. -/
  current : Option Nat
  /-- What it has told. -/
  told : List String

namespace Walk

/-- A walk that is about to begin. -/
def begin (start : Option Nat) : Walk := ⟨[], start, []⟩

/-- One round of a walk, unless it has ended: the failure at the next place is told of. -/
def round? (failures : List Failure) (tell : Failure → Option String) (w : Walk) : Option Walk :=
  match w.current with
  | none => none
  | some place =>
    if place ∈ w.visited then none
    else match failures[place]? with
      | none => none
      | some f => some ⟨place :: w.visited, f.next?, w.told ++ (tell f).toList⟩

/-- That a walk ends as another one, round after round. -/
def Ends (failures : List Failure) (tell : Failure → Option String) (w w' : Walk) : Prop :=
  Relation.ReflTransGen (fun w w' => w.round? failures tell = some w') w w' ∧
    w'.round? failures tell = none

variable {tell : Failure → Option String} {w w' : Walk}

theorem round?_eq_some_iff : w.round? failures tell = some w' ↔
    ∃ place f, w.current = some place ∧ place ∉ w.visited ∧ failures[place]? = some f ∧
      w' = ⟨place :: w.visited, f.next?, w.told ++ (tell f).toList⟩ := by
  unfold round?
  constructor
  · intro h
    -- each of the three tests that end a round has to fail
    split at h
    · cases h
    · next place hcurrent =>
      split at h
      · cases h
      · next hvisited =>
        split at h
        · cases h
        · next f hf =>
          cases h
          exact ⟨place, f, hcurrent, hvisited, hf, rfl⟩
  · rintro ⟨place, f, hcurrent, hvisited, hf, rfl⟩
    simp [hcurrent, hvisited, hf]

/-- A walk ends where there is no place to go to, or only one where it has been. -/
theorem mem_visited_of_round?_eq_none (h : w.round? failures tell = none)
    (hcurrent : w.current = some place) (hplace : place < failures.length) :
    place ∈ w.visited := by
  by_contra hvisited
  simp [round?, hcurrent, hvisited, hplace] at h

/-- What holds in every round of a walk: it has followed the chain from its start without being
anywhere twice, and has told of every failure there. -/
structure IsOn (failures : List Failure) (tell : Failure → Option String) (start : Option Nat)
    (w : Walk) : Prop where
  head : ∀ first ∈ w.visited.getLast?, start = some first
  chain : w.visited.reverse.IsChain (Leads failures)
  current : w.current = w.visited.head?.elim start (behind? failures)
  nodup : w.visited.Nodup
  bounded : ∀ place ∈ w.visited, place < failures.length
  told : w.told = (along failures w.visited.reverse).filterMap tell

theorem isOn_begin (failures : List Failure) (tell : Failure → Option String) (start : Option Nat) :
    (begin start).IsOn failures tell start where
  head := fun _ h => by cases h
  chain := List.isChain_nil
  current := rfl
  nodup := List.nodup_nil
  bounded := fun _ h => by cases h
  told := rfl

/-- A round of a walk goes on along the chain. -/
theorem IsOn.round (h : w.IsOn failures tell start) (hround : w.round? failures tell = some w') :
    w'.IsOn failures tell start := by
  obtain ⟨place, f, hcurrent, hvisited, hf, rfl⟩ := round?_eq_some_iff.1 hround
  have hstands := h.current.symm.trans hcurrent
  refine ⟨?_, ?_, ?_, List.nodup_cons.2 ⟨hvisited, h.nodup⟩, ?_, ?_⟩
  · intro first hfirst
    cases hrest : w.visited with
    | nil =>
      -- the walk has just begun
      rw [hrest] at hstands hfirst
      exact hstands.trans hfirst
    | cons last rest =>
      refine h.head first ?_
      dsimp only at hfirst
      rwa [hrest, List.getLast?_cons_cons, ← hrest] at hfirst
  · dsimp only
    rw [List.reverse_cons]
    refine h.chain.append (List.isChain_singleton place) fun last hlast next hnext => ?_
    rw [List.getLast?_reverse] at hlast
    rw [Option.mem_def.1 hlast] at hstands
    rw [← Option.some.inj hnext]
    exact leads_iff.2 hstands
  · dsimp only
    rw [List.head?_cons, Option.elim_some, behind?, hf, Option.bind_some]
  · intro other hother
    rcases List.mem_cons.1 hother with rfl | hother
    · exact (List.getElem?_eq_some_iff.1 hf).1
    · exact h.bounded other hother
  · dsimp only
    rw [h.told, List.reverse_cons, along, along, List.filterMap_append, List.filterMap_append]
    congr 1
    cases htell : tell f <;> simp [hf, htell]

/-- A walk follows the chain from beginning to end. -/
theorem IsOn.run (h : w.IsOn failures tell start)
    (hrun : Relation.ReflTransGen (fun w w' => w.round? failures tell = some w') w w') :
    w'.IsOn failures tell start := by
  induction hrun with
  | refl => exact h
  | tail _ hround ih => exact ih.round hround

/-- A place that is next is there if all failures that are named are. -/
theorem IsOn.lt_length (h : w.IsOn failures tell start) (hlinked : Linked failures)
    (hstart : ∀ place ∈ start, place < failures.length) (hcurrent : w.current = some place) :
    place < failures.length := by
  have hstands := h.current.symm.trans hcurrent
  cases hlast : w.visited.head? with
  | none =>
    rw [hlast] at hstands
    exact hstart place hstands
  | some last =>
    rw [hlast] at hstands
    exact hlinked.lt_length (leads_iff.2 hstands)

/-- The places that a walk has been to when it ends are those on the chain. -/
theorem IsOn.isPath (h : w.IsOn failures tell start) (hlinked : Linked failures)
    (hstart : ∀ place ∈ start, place < failures.length) (hend : w.round? failures tell = none) :
    IsPath failures start w.visited.reverse := by
  -- a walk that has ended stands at a place where it was before, or at none
  have hback : ∀ place, w.current = some place → place ∈ w.visited := fun place hcurrent =>
    mem_visited_of_round?_eq_none hend hcurrent (h.lt_length hlinked hstart hcurrent)
  refine ⟨?_, h.chain, List.nodup_reverse.2 h.nodup, fun last hlast next hleads => ?_⟩
  · -- where the walk began
    rw [List.head?_reverse]
    cases hfirst : w.visited.getLast? with
    | some first => exact (h.head first hfirst).symm
    | none =>
      have hcurrent := h.current
      rw [List.getLast?_eq_none_iff.1 hfirst] at hcurrent hback
      cases start with
      | none => rfl
      | some place => cases hback place hcurrent
  · -- where it ended: the next place has been visited
    rw [List.getLast?_reverse] at hlast
    have hcurrent := h.current
    rw [Option.mem_def.1 hlast, Option.elim_some, leads_iff.1 hleads] at hcurrent
    exact List.mem_reverse.2 (hback next hcurrent)

/-! ## §5 The end of a walk -/

/-- Helper: there are no more different places than failures. -/
private theorem length_le_of_nodup {places : List Nat} {n : Nat} (h : places.Nodup)
    (hbounded : ∀ place ∈ places, place < n) : places.length ≤ n := by
  have hsub : places ⊆ List.range n := fun place hplace => List.mem_range.2 (hbounded place hplace)
  have hlength := (List.subperm_of_subset h hsub).length_le
  rwa [List.length_range] at hlength

/-- A walk that has been everywhere has ended. -/
theorem IsOn.round?_eq_none (h : w.IsOn failures tell start)
    (hlength : failures.length ≤ w.visited.length) : w.round? failures tell = none := by
  cases hround : w.round? failures tell with
  | none => rfl
  | some w' =>
    -- it would have been at one place too many
    have hon := h.round hround
    obtain ⟨place, f, -, -, -, rfl⟩ := round?_eq_some_iff.1 hround
    have hle := length_le_of_nodup hon.nodup hon.bounded
    exact absurd hle (Nat.not_le.2 (Nat.lt_succ_of_le hlength))

theorem pathFrom_of_round?_eq_none (h : w.round? failures tell = none) (steps : Nat) :
    pathFrom failures steps w.visited w.current = [] := by
  cases steps with
  | zero => rfl
  | succ steps =>
    cases hcurrent : w.current with
    | none => rfl
    | some place =>
      rw [pathFrom]
      -- without a next round, the place has been visited or holds no failure
      by_cases hvisited : place ∈ w.visited
      · rw [if_pos hvisited]
      · rw [if_neg hvisited]
        cases hf : failures[place]? with
        | none => rfl
        | some f => simp [round?, hcurrent, hvisited, hf] at h

theorem pathFrom_of_round? (h : w.round? failures tell = some w') (steps : Nat) :
    w'.visited.reverse ++ pathFrom failures steps w'.visited w'.current =
      w.visited.reverse ++ pathFrom failures (steps + 1) w.visited w.current := by
  obtain ⟨place, f, hcurrent, hvisited, hf, rfl⟩ := round?_eq_some_iff.1 h
  rw [hcurrent, pathFrom, if_neg hvisited, hf, List.reverse_cons, List.append_assoc]
  rfl

/-- A walk ends once it has been everywhere at the latest, and where it has been then are the places
that are computed with as many steps. -/
theorem IsOn.exists_ends (h : w.IsOn failures tell start) (steps : Nat)
    (hsteps : failures.length ≤ steps + w.visited.length) :
    ∃ w', Ends failures tell w w' ∧ w'.visited.reverse =
      w.visited.reverse ++ pathFrom failures steps w.visited w.current := by
  -- on the steps that are left; each round visits one more place, so that they suffice
  induction steps generalizing w with
  | zero =>
    rw [Nat.zero_add] at hsteps
    refine ⟨w, ⟨.refl, h.round?_eq_none hsteps⟩, ?_⟩
    rw [pathFrom, List.append_nil]
  | succ steps ih =>
    cases hround : w.round? failures tell with
    | none =>
      refine ⟨w, ⟨.refl, hround⟩, ?_⟩
      rw [pathFrom_of_round?_eq_none hround, List.append_nil]
    | some next =>
      have hlength : next.visited.length = w.visited.length + 1 := by
        obtain ⟨place, f, -, -, -, rfl⟩ := round?_eq_some_iff.1 hround
        rfl
      obtain ⟨w', ⟨hrun, hend⟩, hvisited⟩ := ih (h.round hround) (by omega)
      refine ⟨w', ⟨hrun.head hround, hend⟩, ?_⟩
      rw [hvisited, pathFrom_of_round? hround]

/-- A walk ends, and has then told of the failures on the chain. -/
theorem exists_ends (hlinked : Linked failures) (hstart : ∀ place ∈ start, place < failures.length)
    (tell : Failure → Option String) :
    IsPath failures start (path failures start) ∧ ∃ w, Ends failures tell (begin start) w ∧
      w.told = (along failures (path failures start)).filterMap tell := by
  have hbegin := isOn_begin failures tell start
  obtain ⟨w, hends, hvisited⟩ := hbegin.exists_ends failures.length (Nat.le_add_right _ _)
  have hpath : w.visited.reverse = path failures start := hvisited
  have hon := hbegin.run hends.1
  refine ⟨hpath ▸ hon.isPath hlinked hstart hends.2, w, hends, ?_⟩
  rw [hon.told, hpath]

end Walk

/-! ## §6 What is told of a chain -/

/-- The headline of a failure is the first line of its text, without the blanks around the text and
those that the line ends with. -/
theorem headline?_eq (f : Failure) : f.headline? = if AllBlank f.text.toList then none
    else some (String.ofList (trimRight (firstLine (trim f.text.toList)))) := by
  unfold headline?
  dsimp only
  by_cases hblank : AllBlank f.text.toList
  · rw [if_pos hblank, trim_eq_nil_iff.2 hblank]
    rfl
  · obtain ⟨c, rest, hc, hline⟩ := exists_firstLine_trim hblank
    -- the first line begins with a character that is not blank, so trimming leaves something
    have hne : trimRight (c :: rest) ≠ [] := by
      intro hnil
      exact AllBlank.not_mem (trimRight_eq_nil_iff.1 hnil) hc List.mem_cons_self
    rw [if_neg hblank, hline, trim, trimLeft_of_head hc, if_neg (by simpa using hne)]

theorem filterMap_headline? (fs : List Failure) : fs.filterMap headline? =
    (fs.filter fun f => ¬AllBlank f.text.toList).map fun f =>
      String.ofList (trimRight (firstLine (trim f.text.toList))) := by
  induction fs with
  | nil => rfl
  | cons f fs ih =>
    by_cases hblank : AllBlank f.text.toList
    · rw [List.filterMap_cons_none (by rw [headline?_eq, if_pos hblank]), ih,
        List.filter_cons_of_neg (by simpa using hblank)]
    · rw [List.filterMap_cons_some (by rw [headline?_eq, if_neg hblank]), ih,
        List.filter_cons_of_pos (by simpa using hblank), List.map_cons]

theorem messages_eq_filterMap (failures : List Failure) (start : Nat) :
    messages failures start = (along failures (path failures (some start))).filterMap headline? := by
  rw [messages, along, List.filterMap_filterMap]

theorem causes_eq_map (failures : List Failure) (start : Nat) :
    causes failures start = (along failures (path failures (behind? failures start))).map summary := by
  rw [causes, along, List.map_filterMap, behind?]

/-- What is owed where the failures on a chain are told of. Of a text that is not blank, a message
shows its `line`. -/
structure TellsChain (line : List Char → List Char) (failures : List Failure) (start : Nat) :
    Prop where
  /-- There is one chain from the failure, and one from the failure behind it. -/
  isPath_iff : ∀ places,
    IsPath failures (some start) places ↔ places = path failures (some start)
  isPath_behind_iff : ∀ places, IsPath failures (behind? failures start) places ↔
    places = path failures (behind? failures start)
  /-- There is one message for each failure on the chain whose text is not blank. -/
  messages_eq : messages failures start =
    ((along failures (path failures (some start))).filter fun f => ¬AllBlank f.text.toList).map
      fun f => String.ofList (line f.text.toList)
  messages_ends : ∃ w, Walk.Ends failures headline? (.begin (some start)) w ∧
    w.told = messages failures start
  /-- The hint is the last message, which is about the last failure whose text is not blank. -/
  hint_eq : hint? failures start = (messages failures start).getLast? ∧ hint? failures start =
    (((along failures (path failures (some start))).filter fun f =>
      ¬AllBlank f.text.toList).getLast?).map fun f => String.ofList (line f.text.toList)
  /-- There is one summary for each failure on the chain from the failure behind. -/
  causes_eq : causes failures start =
    (along failures (path failures (behind? failures start))).map summary
  length_causes : (causes failures start).length =
    (path failures (behind? failures start)).length
  causes_ends : ∃ w,
    Walk.Ends failures (fun f => some f.summary) (.begin (behind? failures start)) w ∧
      w.told = causes failures start
  /-- The failure itself is on that chain exactly if it is on a cycle. -/
  mem_behind_iff : start ∈ path failures (behind? failures start) ↔
    Relation.TransGen (Leads failures) start start

/-- Helper: the chain behind a failure comes back to it if it is on a cycle. -/
private theorem mem_behind_iff {start : Nat}
    (h : IsPath failures (behind? failures start) (path failures (behind? failures start))) :
    start ∈ path failures (behind? failures start) ↔
      Relation.TransGen (Leads failures) start start := by
  -- a way back to the start goes through the place behind it
  rw [Relation.TransGen.head'_iff]
  cases hbehind : behind? failures start with
  | none =>
    rw [hbehind] at h
    constructor
    · intro hmem
      rw [List.head?_eq_none_iff.1 h.head] at hmem
      cases hmem
    · rintro ⟨next, hleads, -⟩
      rw [leads_iff, hbehind] at hleads
      cases hleads
  | some first =>
    rw [hbehind] at h
    rw [h.mem_iff]
    constructor
    · intro hreach
      exact ⟨first, leads_iff.2 hbehind, hreach⟩
    · rintro ⟨next, hleads, hreach⟩
      rwa [(leads_iff.2 hbehind).eq hleads]

/-- A chain of failures is told to its end, and no failure on it twice, even if it comes back to any
of them. -/
theorem tellsChain {start : Nat} (hlinked : Linked failures) (hstart : start < failures.length) :
    TellsChain (fun s => trimRight (firstLine (trim s))) failures start := by
  have hfirst : ∀ place ∈ some start, place < failures.length := by
    intro place hplace
    rwa [← Option.some.inj hplace]
  have hbehind : ∀ place ∈ behind? failures start, place < failures.length :=
    fun place hplace => hlinked.lt_length (leads_iff.2 hplace)
  -- the walk for the messages begins here, that for the causes one place behind
  obtain ⟨hpath, w, hends, htold⟩ := Walk.exists_ends hlinked hfirst headline?
  obtain ⟨hpath', w', hends', htold'⟩ :=
    Walk.exists_ends hlinked hbehind fun f => some f.summary
  rw [List.filterMap_eq_map', ← causes_eq_map] at htold'
  rw [← messages_eq_filterMap] at htold
  refine ⟨fun places => ⟨fun h => h.eq hpath, fun h => h ▸ hpath⟩,
    fun places => ⟨fun h => h.eq hpath', fun h => h ▸ hpath'⟩, ?_, ⟨w, hends, htold⟩, ⟨rfl, ?_⟩,
    causes_eq_map failures start, ?_, ⟨w', hends', htold'⟩, mem_behind_iff hpath'⟩
  · rw [messages_eq_filterMap, filterMap_headline?]
  · rw [hint?, messages_eq_filterMap, filterMap_headline?, List.getLast?_map]
  · rw [causes_eq_map, List.length_map, length_along fun place => lt_length_of_mem_path]

/-- Two failures that lead back to each other, behind one in front. -/
def ring : List Failure :=
  [⟨"OSError", "closed", some 1, none⟩, ⟨"ValueError", " \n", none, some 2⟩,
    ⟨"ParseError", "broken\r\nhere", some 1, some 0⟩]

theorem tellsChain_ring : Linked ring ∧ 1 < ring.length ∧
    TellsChain (fun s => trimRight (firstLine (trim s))) ring 1 :=
  have hlinked : Linked ring := by decide
  have hstart : 1 < ring.length := by decide
  ⟨hlinked, hstart, tellsChain hlinked hstart⟩

/-- A message does not show the blanks that its line ends with. -/
theorem not_tellsChain_firstLine : Linked [single "ValueError" "a \nb"] ∧
    ¬TellsChain (fun s => firstLine (trim s)) [single "ValueError" "a \nb"] 0 := by
  refine ⟨by decide, fun h => ?_⟩
  exact absurd h.messages_eq (by decide)

end Failure

end Bibliography
