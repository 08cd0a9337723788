import Bibliography.Proofs.Sorting
import Mathlib.Data.List.SplitBy
import Mathlib.Data.List.Forall2

/-!
# Classes of ties

The elements of a list fall into classes of elements that tie. In a sorted list such a class is a
run of neighbours, so cutting the list wherever two neighbours do not tie gives exactly the classes,
each of them whole, from the least to the greatest.

Main statements: a list in order is determined by its ties (`eq_of_tiesOf_eq`), the runs of a
sorted list are its classes (`splitBy_eq_tieClasses`), what a class consists of
(`eq_tiesOf_of_mem`), that none is missing (`tiesOf_mem_tieClasses`), their order
(`pairwise_tieClasses`), that they do not depend on the order of the elements
(`forall₂_tieClasses`), and what is not the first of its class (`mem_laterTies_iff`).
-/

namespace Bibliography

section Ties

variable {α : Type} (cmp : α → α → Ordering)

/-! ## §1 Ties -/

/-- Whether two elements tie. -/
def tied (a b : α) : Bool := cmp a b == .eq

/-- The elements of a list that tie with `x`. -/
def tiesOf (x : α) (l : List α) : List α := l.filter (tied cmp x)

/-- The elements of a list that do not tie with `x`. -/
def othersThan (x : α) (l : List α) : List α := l.filter fun y => !tied cmp x y

theorem length_othersThan_le (x : α) (l : List α) : (othersThan cmp x l).length ≤ l.length :=
  List.length_filter_le _ _

/-- The classes of elements that tie, in the order in which their first elements occur. -/
def tieClasses : List α → List (List α)
  | [] => []
  | x :: xs => (x :: tiesOf cmp x xs) :: tieClasses (othersThan cmp x xs)
  termination_by l => l.length
  decreasing_by exact Nat.lt_succ_of_le (length_othersThan_le cmp x xs)

theorem tied_iff {a b : α} : tied cmp a b = true ↔ cmp a b = .eq := beq_iff_eq

/-- Of two elements in order, either the first is less or they tie. -/
theorem lt_of_isLE_of_not_tied {a b : α} (h : (cmp a b).isLE = true) (hab : tied cmp a b = false) :
    cmp a b = .lt := by
  unfold tied at hab
  cases hc : cmp a b with
  | lt => rfl
  | eq =>
    rw [hc] at hab
    cases hab
  | gt =>
    rw [hc] at h
    cases h

variable [Std.TransCmp cmp]

theorem tied_self (a : α) : tied cmp a a = true :=
  (tied_iff cmp).2 Std.ReflCmp.compare_self

theorem tied_comm (a b : α) : tied cmp a b = tied cmp b a := by
  unfold tied
  rw [@Std.OrientedCmp.eq_swap _ cmp _ a b]
  cases cmp b a <;> rfl

/-- Elements that are both at most the other tie. -/
theorem tied_of_isLE_of_isLE {a b : α} (hab : (cmp a b).isLE = true) (hba : (cmp b a).isLE = true) :
    tied cmp a b = true := by
  cases h : tied cmp a b with
  | true => rfl
  | false =>
    rw [@Std.OrientedCmp.eq_swap _ cmp _ b a, lt_of_isLE_of_not_tied cmp hab h] at hba
    cases hba

/-- Elements that tie are compared alike with any other. -/
theorem tied_congr {a b : α} (h : tied cmp a b = true) (c : α) : tied cmp a c = tied cmp b c := by
  have hab := (tied_iff cmp).1 h
  unfold tied
  rw [Std.TransCmp.congr_left hab]

theorem tiesOf_congr {a b : α} (h : tied cmp a b = true) (l : List α) :
    tiesOf cmp a l = tiesOf cmp b l := by
  unfold tiesOf
  rw [show tied cmp a = tied cmp b from funext (tied_congr cmp h)]

theorem othersThan_congr {a b : α} (h : tied cmp a b = true) (l : List α) :
    othersThan cmp a l = othersThan cmp b l := by
  unfold othersThan
  rw [show tied cmp a = tied cmp b from funext (tied_congr cmp h)]

theorem tiesOf_cons_self (x : α) (l : List α) : tiesOf cmp x (x :: l) = x :: tiesOf cmp x l :=
  List.filter_cons_of_pos (tied_self cmp x)

theorem othersThan_cons_self (x : α) (l : List α) :
    othersThan cmp x (x :: l) = othersThan cmp x l :=
  List.filter_cons_of_neg (by rw [tied_self cmp x]; decide)

/-- An element that does not tie with `x` ties with the same elements when those that tie with `x`
are left out. -/
theorem tiesOf_othersThan {x y : α} (h : tied cmp x y = false) (l : List α) :
    tiesOf cmp y (othersThan cmp x l) = tiesOf cmp y l := by
  unfold tiesOf othersThan
  rw [List.filter_filter]
  refine List.filter_congr fun z _ => ?_
  cases hyz : tied cmp y z with
  | false => rfl
  -- what is tied with y is not tied with x, or else x and y would be
  | true =>
    have hxz : tied cmp x z = false := by
      rw [tied_comm, ← tied_congr cmp hyz, tied_comm]
      exact h
    rw [hxz]
    rfl

/-! ## §2 Sorted lists -/

/-- What ties with a least element stands in front. -/
theorem tiesOf_append_othersThan {x : α} {l : List α} (hx : ∀ y ∈ l, (cmp x y).isLE = true)
    (hl : l.Pairwise fun a b => (cmp a b).isLE = true) :
    tiesOf cmp x l ++ othersThan cmp x l = l := by
  induction l with
  | nil => rfl
  | cons y l ih =>
    obtain ⟨hy, hl⟩ := List.pairwise_cons.1 hl
    have ih := ih (fun z hz => hx z (List.mem_cons_of_mem _ hz)) hl
    unfold tiesOf othersThan at ih ⊢
    cases hxy : tied cmp x y with
    | true =>
      rw [List.filter_cons_of_pos hxy, List.filter_cons_of_neg (by rw [hxy]; decide),
        List.cons_append, ih]
    | false =>
      -- from the first element on that is greater, all are
      have hlt := lt_of_isLE_of_not_tied cmp (hx y List.mem_cons_self) hxy
      have hgreater : ∀ z ∈ y :: l, tied cmp x z = false := by
        intro z hz
        rcases List.mem_cons.1 hz with rfl | hz
        · exact hxy
        · unfold tied
          rw [Std.TransCmp.lt_of_lt_of_isLE hlt (hy z hz)]
          rfl
      rw [List.filter_eq_nil_iff.2 fun z hz => by rw [hgreater z hz]; decide,
        List.filter_eq_self.2 fun z hz => by rw [hgreater z hz]; rfl, List.nil_append]

/-- The runs of ties in a sorted list are its classes of ties. -/
theorem splitBy_eq_tieClasses {l : List α} (hl : l.Pairwise fun a b => (cmp a b).isLE = true) :
    l.splitBy (tied cmp) = tieClasses cmp l := by
  -- the first class is the first run, and what is left is a sorted list again
  fun_induction tieClasses cmp l with
  | case1 => rfl
  | case2 x l ih =>
    obtain ⟨hx, hl⟩ := List.pairwise_cons.1 hl
    have hsplit : x :: l = (x :: tiesOf cmp x l) ++ othersThan cmp x l := by
      rw [List.cons_append, tiesOf_append_othersThan cmp hx hl]
    have hclass : ∀ y ∈ x :: tiesOf cmp x l, tied cmp x y = true := by
      intro y hy
      rcases List.mem_cons.1 hy with rfl | hy
      · exact tied_self cmp y
      · exact (List.mem_filter.1 hy).2
    have hpairwise : (x :: tiesOf cmp x l).Pairwise fun a b => tied cmp a b = true := by
      refine List.pairwise_of_forall_mem_list fun a ha b hb => ?_
      rw [← tied_congr cmp (hclass a ha)]
      exact hclass b hb
    -- the class ends where it does because what follows does not tie with it
    have hends : ∀ a ∈ (x :: tiesOf cmp x l).getLast?, ∀ b ∈ (othersThan cmp x l).head?,
        tied cmp a b = false := by
      intro a ha b hb
      have hxb := (List.mem_filter.1 (List.mem_of_mem_head? hb)).2
      rw [← tied_congr cmp (hclass a (List.mem_of_mem_getLast? ha))]
      simpa using hxb
    rw [hsplit, List.splitBy_append hends, List.splitBy_of_isChain (by simp) hpairwise.isChain,
      List.singleton_append, ih (hl.filter _)]

theorem mem_tiesOf_self_iff {x : α} {l : List α} : x ∈ tiesOf cmp x l ↔ x ∈ l := by
  rw [tiesOf, List.mem_filter, and_iff_left (tied_self cmp x)]

theorem mem_iff_of_tiesOf_eq {l l' : List α} (hties : ∀ x, tiesOf cmp x l = tiesOf cmp x l')
    (x : α) : x ∈ l ↔ x ∈ l' := by
  rw [← mem_tiesOf_self_iff cmp, hties x, mem_tiesOf_self_iff]

/-- Lists in order are equal if the same elements tie in them, in the same order. -/
theorem eq_of_tiesOf_eq {l l' : List α} (hl : l.Pairwise fun a b => (cmp a b).isLE = true)
    (hl' : l'.Pairwise fun a b => (cmp a b).isLE = true)
    (hties : ∀ x, tiesOf cmp x l = tiesOf cmp x l') : l = l' := by
  have hmem := mem_iff_of_tiesOf_eq cmp hties
  induction l generalizing l' with
  | nil =>
    have hnil : ∀ x, x ∉ l' := fun x hx => List.not_mem_nil ((hmem x).2 hx)
    exact (List.eq_nil_iff_forall_not_mem.2 hnil).symm
  | cons x l ih =>
    cases l' with
    | nil => exact absurd ((hmem x).1 List.mem_cons_self) List.not_mem_nil
    | cons y l' =>
      -- either first element is at most the other, so they tie, and are the first of their ties
      have hxy : tied cmp x y = true := by
        rcases List.mem_cons.1 ((hmem y).2 List.mem_cons_self) with rfl | hyl
        · exact tied_self cmp y
        rcases List.mem_cons.1 ((hmem x).1 List.mem_cons_self) with rfl | hxl
        · exact tied_self cmp x
        exact tied_of_isLE_of_isLE cmp ((List.pairwise_cons.1 hl).1 y hyl)
          ((List.pairwise_cons.1 hl').1 x hxl)
      have hfirst := hties x
      rw [tiesOf_cons_self, tiesOf, tiesOf, List.filter_cons_of_pos hxy] at hfirst
      obtain rfl : x = y := (List.cons.inj hfirst).1
      -- what is left has the same ties again
      have hrest (z : α) : tiesOf cmp z l = tiesOf cmp z l' := by
        have hz := hties z
        unfold tiesOf at hz ⊢
        cases hzx : tied cmp z x with
        | true =>
          rw [List.filter_cons_of_pos hzx, List.filter_cons_of_pos hzx] at hz
          exact (List.cons.inj hz).2
        | false =>
          have hnot : ¬tied cmp z x = true := by
            rw [hzx]
            decide
          rwa [List.filter_cons_of_neg hnot, List.filter_cons_of_neg hnot] at hz
      rw [ih hl.of_cons hl'.of_cons hrest (mem_iff_of_tiesOf_eq cmp hrest)]

/-- What holds of the elements of a sorted list in their order, and of ties, holds of all elements
that are in order. -/
theorem forall_of_pairwise_isLE {R : α → α → Prop} {l : List α}
    (hl : l.Pairwise fun a b => (cmp a b).isLE = true) (hR : l.Pairwise R)
    (hties : ∀ a b, cmp a b = .eq → R a b) :
    ∀ a ∈ l, ∀ b ∈ l, (cmp a b).isLE = true → R a b := by
  induction l with
  | nil => exact fun a ha => by cases ha
  | cons x l ih =>
    obtain ⟨hx, hl⟩ := List.pairwise_cons.1 hl
    obtain ⟨hRx, hR⟩ := List.pairwise_cons.1 hR
    intro a ha b hb hab
    rcases List.mem_cons.1 ha with hax | ha' <;> rcases List.mem_cons.1 hb with hbx | hb'
    · rw [hax, hbx]
      exact hties x x Std.ReflCmp.compare_self
    · rw [hax]
      exact hRx b hb'
    · -- an element behind the first that is at most the first ties with it
      rw [hbx] at hab ⊢
      exact hties a x ((tied_iff cmp).1 (tied_of_isLE_of_isLE cmp hab (hx a ha')))
    · exact ih hl hR a ha' b hb' hab

/-! ## §3 Classes -/

/-- A class is made of everything that ties with any of its elements. -/
theorem eq_tiesOf_of_mem {l g : List α} (hg : g ∈ tieClasses cmp l) {y : α} (hy : y ∈ g) :
    y ∈ l ∧ g = tiesOf cmp y l := by
  fun_induction tieClasses cmp l with
  | case1 => cases hg
  | case2 x l ih =>
    rcases List.mem_cons.1 hg with rfl | hg
    · have hxy : tied cmp x y = true := by
        rcases List.mem_cons.1 hy with rfl | hy
        · exact tied_self cmp y
        · exact (List.mem_filter.1 hy).2
      refine ⟨?_, ?_⟩
      · rcases List.mem_cons.1 hy with rfl | hy
        · exact List.mem_cons_self
        · exact List.mem_cons_of_mem _ (List.mem_filter.1 hy).1
      · rw [← tiesOf_congr cmp hxy, tiesOf_cons_self]
    · -- a later class is one of what does not tie with `x`, and is whole in `x :: l` too
      obtain ⟨hmem, heq⟩ := ih hg
      obtain ⟨hmem, hnot⟩ := List.mem_filter.1 hmem
      have hxy : tied cmp x y = false := by simpa using hnot
      refine ⟨List.mem_cons_of_mem _ hmem, ?_⟩
      rw [heq, ← tiesOf_othersThan cmp hxy (x :: l), othersThan_cons_self]

/-- No class is missing. -/
theorem tiesOf_mem_tieClasses {l : List α} {y : α} (hy : y ∈ l) :
    tiesOf cmp y l ∈ tieClasses cmp l := by
  fun_induction tieClasses cmp l with
  | case1 => cases hy
  | case2 x l ih =>
    cases hxy : tied cmp x y with
    | true =>
      -- the class of the first element is the one that comes first
      rw [← tiesOf_congr cmp hxy, tiesOf_cons_self]
      exact List.mem_cons_self
    | false =>
      -- an element not tied with the first one is classified among the others
      have hmem : y ∈ othersThan cmp x l := by
        rcases List.mem_cons.1 hy with rfl | hy
        · rw [tied_self] at hxy
          cases hxy
        · exact List.mem_filter.2 ⟨hy, by rw [hxy]; rfl⟩
      rw [← tiesOf_othersThan cmp hxy, othersThan_cons_self]
      exact List.mem_cons_of_mem _ (ih hmem)

/-- No class has two members exactly when no two elements tie. -/
theorem filter_tieClasses_eq_nil_iff {l : List α} :
    ((tieClasses cmp l).filter fun g => 1 < g.length) = [] ↔
      l.Pairwise fun a b => tied cmp a b = false := by
  constructor
  · intro hnil
    rw [List.pairwise_iff_forall_sublist]
    intro a b hab
    cases htied : tied cmp a b with
    | false => rfl
    | true =>
      -- both of them are in the class of the first
      have hclass := hab.filter (tied cmp a)
      rw [List.filter_cons_of_pos (tied_self cmp a), List.filter_cons_of_pos htied,
        List.filter_nil] at hclass
      have hmem := tiesOf_mem_tieClasses cmp (hab.subset List.mem_cons_self)
      have hlen : 1 < (tiesOf cmp a l).length := hclass.length_le
      exact absurd hlen (by simpa using List.filter_eq_nil_iff.1 hnil _ hmem)
  · intro hpairwise
    rw [List.filter_eq_nil_iff]
    intro g hg hlen
    match g, hg, hlen with
    | a :: b :: g, hg, _ =>
      have hclass := (eq_tiesOf_of_mem cmp hg List.mem_cons_self).2
      have hsub : List.Sublist [a, b] l := by
        refine List.Sublist.trans ?_ (List.filter_sublist (p := tied cmp a))
        rw [show l.filter (tied cmp a) = a :: b :: g from hclass.symm]
        exact ((List.nil_sublist g).cons_cons b).cons_cons a
      have hb : b ∈ tiesOf cmp a l := by
        rw [← hclass]
        exact List.mem_cons_of_mem _ List.mem_cons_self
      have hnot := List.pairwise_iff_forall_sublist.1 hpairwise hsub
      rw [(List.mem_filter.1 hb).2] at hnot
      cases hnot

/-- The classes of a sorted list come from the least to the greatest. -/
theorem pairwise_tieClasses {l : List α} (hl : l.Pairwise fun a b => (cmp a b).isLE = true) :
    (tieClasses cmp l).Pairwise fun g h => ∀ a ∈ g, ∀ b ∈ h, cmp a b = .lt := by
  fun_induction tieClasses cmp l with
  | case1 => exact .nil
  | case2 x l ih =>
    obtain ⟨hx, hl⟩ := List.pairwise_cons.1 hl
    refine List.pairwise_cons.2 ⟨fun h hh a ha b hb => ?_, ih (hl.filter _)⟩
    -- `b` does not tie with the least element `x`, with which `a` does
    obtain ⟨hmem, hnot⟩ := List.mem_filter.1 (eq_tiesOf_of_mem cmp hh hb).1
    have hlt : cmp x b = .lt := lt_of_isLE_of_not_tied cmp (hx b hmem) (by simpa using hnot)
    rcases List.mem_cons.1 ha with rfl | ha
    · exact hlt
    · have hxa := (tied_iff cmp).1 (List.mem_filter.1 ha).2
      rw [← Std.TransCmp.congr_left hxa]
      exact hlt

/-- Two sorted lists with the same elements have the same classes, apart from the order of what
ties. -/
theorem forall₂_tieClasses {l l' : List α} (hperm : l.Perm l')
    (hl : l.Pairwise fun a b => (cmp a b).isLE = true)
    (hl' : l'.Pairwise fun a b => (cmp a b).isLE = true) :
    List.Forall₂ List.Perm (tieClasses cmp l) (tieClasses cmp l') := by
  fun_induction tieClasses cmp l generalizing l' with
  | case1 =>
    obtain rfl := List.nil_perm.1 hperm
    rw [tieClasses]
    exact .nil
  | case2 x l ih =>
    cases l' with
    | nil => exact absurd hperm.eq_nil (by simp)
    | cons y l' =>
      have hx := (List.pairwise_cons.1 hl).1
      have hy := (List.pairwise_cons.1 hl').1
      -- the first elements of both lists are least, so they tie
      have hxy : tied cmp x y = true := by
        rcases List.mem_cons.1 (hperm.mem_iff.2 List.mem_cons_self) with rfl | hmem
        · exact tied_self cmp y
        rcases List.mem_cons.1 (hperm.mem_iff.1 List.mem_cons_self) with rfl | hmem'
        · exact tied_self cmp x
        exact tied_of_isLE_of_isLE cmp (hx y hmem) (hy x hmem')
      have hclass : (tiesOf cmp x (x :: l)).Perm (tiesOf cmp x (y :: l')) := hperm.filter _
      have hothers : (othersThan cmp x (x :: l)).Perm (othersThan cmp x (y :: l')) :=
        hperm.filter _
      rw [tiesOf_congr cmp hxy (y :: l'), tiesOf_cons_self, tiesOf_cons_self] at hclass
      rw [othersThan_congr cmp hxy (y :: l'), othersThan_cons_self, othersThan_cons_self] at hothers
      rw [tieClasses]
      exact .cons hclass (ih hothers (hl.of_cons.filter _) (hl'.of_cons.filter _))

/-! ## §4 Later members -/

/-- The members of the classes that are not the first of their class. -/
def laterTies (l : List α) : List α := (tieClasses cmp l).flatMap List.tail

/-- In a sorted list the classes follow one another, so what is not first in them is in the order of
the list. -/
theorem laterTies_sublist {l : List α} (hl : l.Pairwise fun a b => (cmp a b).isLE = true) :
    (laterTies cmp l).Sublist l := by
  have hflatten : (tieClasses cmp l).flatten = l := by
    rw [← splitBy_eq_tieClasses cmp hl, List.flatten_splitBy]
  -- each class loses its first member only
  have htails (gs : List (List α)) : (gs.flatMap List.tail).Sublist gs.flatten := by
    induction gs with
    | nil => exact .slnil
    | cons g gs ih =>
      rw [List.flatMap_cons, List.flatten_cons]
      exact (List.tail_sublist g).append ih
  calc (laterTies cmp l).Sublist (tieClasses cmp l).flatten := htails _
    _ = l := hflatten

/-- An element is not the first of its class exactly when an earlier one ties with it. -/
theorem mem_laterTies_iff {pre post : List α} {x : α} (hnodup : (pre ++ x :: post).Nodup) :
    x ∈ laterTies cmp (pre ++ x :: post) ↔ ∃ y ∈ pre, tied cmp y x = true := by
  have hx : x ∈ pre ++ x :: post := List.mem_append_right _ List.mem_cons_self
  -- the one class that `x` is in has the ties before `x`, then `x`, then the ties behind `x`
  have hclass : tiesOf cmp x (pre ++ x :: post) =
      tiesOf cmp x pre ++ x :: tiesOf cmp x post := by
    unfold tiesOf
    rw [List.filter_append, List.filter_cons_of_pos (tied_self cmp x)]
  have hpost : x ∉ tiesOf cmp x post := fun h =>
    (List.nodup_cons.1 (List.nodup_append.1 hnodup).2.1).1 (List.mem_filter.1 h).1
  have htail : x ∈ (tiesOf cmp x (pre ++ x :: post)).tail ↔ tiesOf cmp x pre ≠ [] := by
    rw [hclass]
    cases tiesOf cmp x pre with
    | nil => simpa using hpost
    | cons y ys => simp
  calc x ∈ laterTies cmp (pre ++ x :: post)
      ↔ x ∈ (tiesOf cmp x (pre ++ x :: post)).tail := by
        rw [laterTies, List.mem_flatMap]
        constructor
        · rintro ⟨g, hg, hmem⟩
          rwa [← (eq_tiesOf_of_mem cmp hg (List.mem_of_mem_tail hmem)).2]
        · exact fun h => ⟨_, tiesOf_mem_tieClasses cmp hx, h⟩
    _ ↔ tiesOf cmp x pre ≠ [] := htail
    _ ↔ ∃ y ∈ pre, tied cmp y x = true := by
        rw [tiesOf, ne_eq, List.filter_eq_nil_iff]
        simp only [not_forall, not_not, exists_prop, tied_comm cmp x]

end Ties

end Bibliography
