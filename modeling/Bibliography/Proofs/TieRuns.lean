import Bibliography.Proofs.ItemOrder

/-!
# Runs of ties

Any list, sorted or not, can be cut in one way into runs such that all members of a run tie and the
neighbours at a cut do not. It is enough to compare neighbours: ties are transitive, so a run whose
neighbours tie is one in which every two members do. The groups that are found in a list are the
runs of two members at least in what is left of it without the blocks that are kept.

They can be found in one pass that holds nothing but the run that has not ended yet and compares
each entry with the last one of this run. After every step, the runs that have ended and those that
the current run begins together with the rest of the list are the runs of the whole list
(`total_next`), so that none is lost at the end and none is broken by a block that is kept.

Main statement: `findsRuns_tieRuns`.
-/

namespace Bibliography

/-! ## §1 Cutting a list at its ties -/

section Runs

variable {α : Type} (cmp : α → α → Ordering)

/-- A list is cut into runs of ties. -/
structure IsRuns (l : List α) (runs : List (List α)) : Prop where
  /-- The runs are the list, cut into pieces. -/
  flatten : runs.flatten = l
  nonempty : [] ∉ runs
  /-- All members of a run tie, not only neighbours. -/
  ties : ∀ g ∈ runs, ∀ x ∈ g, ∀ y ∈ g, cmp x y = .eq
  /-- The last member of a run and the first one of the next do not tie. -/
  ends : runs.IsChain fun g h => ∀ x ∈ g.getLast?, ∀ y ∈ h.head?, cmp x y ≠ .eq

/-- Cutting a list wherever two neighbours do not tie gives its runs. -/
theorem IsRuns.splitBy_eq {l : List α} {runs : List (List α)} (h : IsRuns cmp l runs) :
    l.splitBy (tied cmp) = runs := by
  have hne {g : List α} (hg : g ∈ runs) : g ≠ [] := fun hnil => h.nonempty (hnil ▸ hg)
  rw [List.splitBy_eq_iff]
  refine ⟨h.flatten.symm, h.nonempty, fun g hg => ?_, ?_⟩
  · refine (List.pairwise_of_forall_mem_list fun x hx y hy => ?_).isChain
    exact (tied_iff cmp).2 (h.ties g hg x hx y hy)
  · refine h.ends.imp_of_mem_imp fun g g' hg hg' hends => ⟨hne hg, hne hg', ?_⟩
    rw [← Bool.not_eq_true, tied_iff]
    exact hends _ (List.getLast_mem_getLast? _) _ (List.head_mem_head? _)

/-- What ties with its neighbours ties with all members of a run. -/
theorem eq_of_isChain_tied [Std.TransCmp cmp] {g : List α}
    (h : g.IsChain fun x y => tied cmp x y = true) : ∀ x ∈ g, ∀ y ∈ g, cmp x y = .eq := by
  have htrans : Trans (fun x y => tied cmp x y = true) (fun x y => tied cmp x y = true)
      fun x y => tied cmp x y = true :=
    ⟨fun {x y z} hxy hyz => by rwa [tied_congr cmp hxy]⟩
  have hsymm : Std.Symm fun x y => tied cmp x y = true :=
    ⟨fun x y hxy => by rwa [tied_comm]⟩
  have hall := (List.isChain_iff_pairwise.1 h).forall_of_forall fun x _ => tied_self cmp x
  exact fun x hx y hy => (tied_iff cmp).1 (hall hx hy)

theorem isRuns_splitBy [Std.TransCmp cmp] (l : List α) :
    IsRuns cmp l (l.splitBy (tied cmp)) where
  flatten := List.flatten_splitBy _ l
  nonempty := List.nil_notMem_splitBy _ l
  ties _ hg := eq_of_isChain_tied cmp (List.isChain_of_mem_splitBy hg)
  ends := by
    refine (List.isChain_getLast_head_splitBy (tied cmp) l).imp fun g g' h x hx y hy => ?_
    obtain ⟨hg, hg', hnot⟩ := h
    rw [← List.getLast_of_mem_getLast? hx, ← List.head_of_mem_head? hy]
    -- a tie between the last of a run and the first of the next would not have ended the run
    intro htie
    rw [(tied_iff cmp).2 htie] at hnot
    cases hnot

/-- A stretch of a list in which all members tie lies within one run. -/
theorem IsRuns.exists_run_of_ties {l s : List α} {runs : List (List α)} (h : IsRuns cmp l runs)
    (hne : s ≠ []) (hs : s <:+: l) (hties : ∀ x ∈ s, ∀ y ∈ s, cmp x y = .eq) :
    ∃ g ∈ runs, s <:+: g := by
  induction runs generalizing l with
  | nil =>
    obtain rfl := h.flatten
    exact absurd (List.infix_nil.1 hs) hne
  | cons g runs ih =>
    obtain rfl := h.flatten
    obtain ⟨hends, hchain⟩ := List.isChain_cons.1 h.ends
    have hrest : IsRuns cmp runs.flatten runs :=
      ⟨rfl, fun hnil => h.nonempty (List.mem_cons_of_mem _ hnil),
        fun g hg => h.ties g (List.mem_cons_of_mem _ hg), hchain⟩
    have hlater (hs : s <:+: runs.flatten) : ∃ g' ∈ g :: runs, s <:+: g' := by
      obtain ⟨g', hg', hs⟩ := ih hrest hs
      exact ⟨g', List.mem_cons_of_mem _ hg', hs⟩
    rw [List.flatten_cons] at hs
    rcases List.infix_append_iff.1 hs with hs | hs | ⟨s₁, s₂, rfl, ⟨g₁, rfl⟩, hs₂⟩
    · exact ⟨g, List.mem_cons_self, hs⟩
    · exact hlater hs
    · -- a stretch across the cut would make the neighbours at the cut tie
      rcases List.eq_nil_or_concat s₁ with rfl | ⟨t₁, x, rfl⟩
      · exact hlater hs₂.isInfix
      cases s₂ with
      | nil => exact ⟨_, List.mem_cons_self, by simpa using (List.suffix_append g₁ _).isInfix⟩
      | cons y t₂ =>
        exfalso
        cases runs with
        | nil => simp at hs₂
        | cons g' runs =>
          obtain ⟨z, u, rfl⟩ := List.exists_cons_of_ne_nil
            (fun hnil : g' = [] => h.nonempty (by simp [hnil]))
          obtain ⟨rfl, -⟩ := List.cons_prefix_cons.1 hs₂
          exact hends _ rfl x (by simp) y rfl (hties x (by simp) y (by simp))

end Runs

/-! ## §2 One pass -/

/-- What a pass over a list has found: the runs of two or more entries that have ended, and the run
that has not. -/
structure RunPass where
  ended : List (List Occurrence)
  current : List Occurrence

namespace RunPass

/-- The pass before anything has been read. -/
def start : RunPass := ⟨[], []⟩

/-- The runs of two or more entries if nothing follows. -/
def close (p : RunPass) : List (List Occurrence) :=
  if 1 < p.current.length then p.ended ++ [p.current] else p.ended

variable (o : Arrangement) (d : Delimiters)

/-- Reads one more occurrence. A block that is kept is passed over; an entry that ties with the last
one of the current run is added to it, and any other entry begins a run. -/
def next (p : RunPass) (x : Occurrence) : RunPass :=
  if x.item.entry?.isSome then
    if p.current.getLast?.any fun y => o.ties d y.item x.item then
      { p with current := p.current ++ [x] }
    else ⟨p.close, [x]⟩
  else p

/-- The runs of two or more entries that a pass leads to: those that have ended, and those of the
current run together with what is still to be read. -/
def total (p : RunPass) (rest : List Occurrence) : List (List Occurrence) :=
  p.ended ++ ((p.current ++ entriesOf rest).splitBy fun x y => o.ties d x.item y.item).filter
    fun g => 1 < g.length

/-- Whether the neighbours in the current run of a pass tie. -/
def HoldsRun (p : RunPass) : Prop := p.current.IsChain fun x y => o.ties d x.item y.item = true

variable {o d}

theorem total_nil {p : RunPass} (hp : p.HoldsRun o d) : p.total o d [] = p.close := by
  unfold total close
  rw [entriesOf, List.filter_nil, List.append_nil]
  cases hc : p.current with
  | nil => simp
  | cons x xs =>
    rw [List.splitBy_of_isChain (by simp) (hc ▸ hp)]
    split
    · next h => simpa using h
    · next h => simpa using h

theorem holdsRun_next {p : RunPass} (hp : p.HoldsRun o d) (x : Occurrence) :
    (p.next o d x).HoldsRun o d := by
  unfold next
  split
  · split
    · next htie =>
      -- the item is tied with the last one of the run that is open
      obtain ⟨y, hy, htie⟩ := (Option.any_eq_true _ _).1 htie
      refine List.isChain_append.2 ⟨hp, .singleton x, ?_⟩
      intro z hz w hw
      obtain rfl : y = z := Option.some.inj (hy.symm.trans hz)
      obtain rfl : x = w := Option.some.inj hw
      exact htie
    · -- otherwise it opens a run of its own
      exact .singleton x
  · -- what is no entry leaves the open run as it is
    exact hp

/-- A step does not change what a pass leads to. -/
theorem total_next {p : RunPass} (hp : p.HoldsRun o d) (x : Occurrence) (rest : List Occurrence) :
    (p.next o d x).total o d rest = p.total o d (x :: rest) := by
  unfold next
  split
  · next hentry =>
    have hentries : entriesOf (x :: rest) = x :: entriesOf rest := List.filter_cons_of_pos hentry
    split
    · rw [total, total, hentries, List.append_assoc, List.singleton_append]
    · next hends =>
      -- the current run has ended, so the list is cut behind it
      have hcut : ∀ y ∈ p.current.getLast?, o.ties d y.item x.item = false := by
        intro y hy
        rwa [hy, Option.any_some, Bool.not_eq_true] at hends
      have hclose := total_nil hp
      rw [total, entriesOf, List.filter_nil, List.append_nil] at hclose
      rw [total, total, hentries, List.splitBy_append_cons _ hcut, List.filter_append,
        ← List.append_assoc, hclose, List.singleton_append]
  · next hkept =>
    have hentries : entriesOf (x :: rest) = entriesOf rest := List.filter_cons_of_neg hkept
    rw [total, total, hentries]

/-- After a whole list has been read, closing the pass gives what it led to. -/
theorem close_foldl_next (rest : List Occurrence) {p : RunPass} (hp : p.HoldsRun o d) :
    (rest.foldl (next o d) p).close = p.total o d rest := by
  induction rest generalizing p with
  | nil => exact (total_nil hp).symm
  | cons x rest ih => rw [List.foldl_cons, ih (holdsRun_next hp x), total_next hp]

end RunPass

/-! ## §3 The groups of a list -/

/-- The entries of a list are cut into runs of ties, the blocks that are kept left aside. -/
def Arrangement.CutsEntries (o : Arrangement) (d : Delimiters) (items : List Occurrence)
    (runs : List (List Occurrence)) : Prop :=
  IsRuns (fun x y : Occurrence => o.compare d x.item y.item) (entriesOf items) runs

/-- What the groups have to be that are found in a list. -/
structure Arrangement.FindsRuns (o : Arrangement) (d : Delimiters) (items : List Occurrence)
    (found : List (List Occurrence)) : Prop where
  /-- The entries can be cut into runs of ties, and in one way only. -/
  unique : ∃! runs, o.CutsEntries d items runs
  /-- No run can be made longer: entries that stand side by side and all tie are in one run. -/
  maximal : ∀ runs, o.CutsEntries d items runs → ∀ s, s ≠ [] → s <:+: entriesOf items →
    (∀ x ∈ s, ∀ y ∈ s, o.compare d x.item y.item = .eq) → ∃ g ∈ runs, s <:+: g
  /-- The groups are the runs of two members at least. -/
  groups : ∀ runs, o.CutsEntries d items runs → found = runs.filter fun g => 2 ≤ g.length
  /-- They are what one pass over the list finds. -/
  pass : (items.foldl (RunPass.next o d) .start).close = found

/-- The groups that are found in a list, sorted or not, are its runs of ties of two members at
least, with the blocks that are kept left aside. -/
theorem findsRuns_tieRuns (o : Arrangement) (d : Delimiters) (items : List Occurrence) :
    o.FindsRuns d items (o.tieRuns d items) where
  unique := by
    -- splitting gives runs, and runs are what splitting gives
    refine ⟨_, isRuns_splitBy _ (entriesOf items), fun runs h => ?_⟩
    exact h.splitBy_eq.symm
  maximal _ h _ hne hs hties := h.exists_run_of_ties _ hne hs hties
  groups runs h := by
    rw [← h.splitBy_eq]
    rfl
  pass := by
    -- nothing is open before the first item
    have hstart : RunPass.start.HoldsRun o d := .nil
    rw [RunPass.close_foldl_next items hstart]
    rfl

/-- In a list that is not sorted, entries that tie are in one group only if nothing but kept blocks
stands between them. -/
example : ((⟨["type"], []⟩ : Arrangement).tieRuns .braces
    [⟨0, .entry ⟨"book", some "a", []⟩⟩, ⟨1, .verbatim ⟨"string", "@string{}"⟩⟩,
      ⟨2, .entry ⟨"book", some "b", []⟩⟩, ⟨3, .entry ⟨"misc", some "c", []⟩⟩,
      ⟨4, .entry ⟨"book", some "d", []⟩⟩]).map (·.map (·.id)) = [[0, 2]] := by
  decide +kernel

end Bibliography
