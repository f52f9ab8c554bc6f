import Mathlib.Data.List.Sort

/-!
# EventPipeline.Concurrency.Keyset

Reading a growing table page by page, newest first, by a key.

A page is the first rows below a bound in decreasing order of the key, and the next
bound is the key of the last row. If every row that is added has a larger key than
all rows before it, a scan to the end returns exactly the rows there were when it
began, in decreasing order, however the table grows meanwhile.
-/

namespace EventPipeline.Concurrency.Keyset

variable {α : Type} (key : α → Nat)

/-- The rows below the bound. -/
def below (before : Option Nat) (rows : List α) : List α :=
  match before with
  | some bound => rows.filter fun a => key a < bound
  | none => rows

/-- `ORDER BY key DESC LIMIT limit`, of the rows below the bound. -/
def page (before : Option Nat) (limit : Nat) (rows : List α) : List α :=
  ((below key before rows).mergeSort fun a b => key b ≤ key a).take limit

/-- The rows are in increasing order of the key. -/
def Increasing (rows : List α) : Prop := rows.Pairwise fun a b => key a < key b

/-- The table has only grown at its end, by rows with larger keys. -/
def Extends (rows rows' : List α) : Prop := ∃ new, rows' = rows ++ new ∧ Increasing key rows'

/-- A scan: pages at successive states of the table, up to an empty one. -/
inductive Scan : List α → Option Nat → List α → Prop
  | done {rows before limit} : 0 < limit → page key before limit rows = [] → Scan rows before []
  | more {rows rows' before limit last rest} :
      (page key before limit rows).getLast? = some last → Extends key rows rows' →
      Scan rows' (some (key last)) rest → Scan rows before (page key before limit rows ++ rest)

variable {key}

theorem Increasing.below {rows : List α} (h : Increasing key rows) (before : Option Nat) :
    Increasing key (below key before rows) := by
  cases before with
  | none => exact h
  | some bound => exact h.filter _

/-- Sorting increasing rows in decreasing order reverses them: both lists are sorted permutations
of the rows, and distinct keys leave only one such list. -/
theorem mergeSort_eq_reverse {rows : List α} (h : Increasing key rows) :
    (rows.mergeSort fun a b => key b ≤ key a) = rows.reverse := by
  have hsorted : (rows.mergeSort fun a b => key b ≤ key a).Pairwise fun a b => key b ≤ key a := by
    have htrans : ∀ a b c : α, decide (key b ≤ key a) = true → decide (key c ≤ key b) = true →
        decide (key c ≤ key a) = true := by
      simp only [decide_eq_true_eq]
      omega
    have htotal : ∀ a b : α, (decide (key b ≤ key a) || decide (key a ≤ key b)) = true := by
      simp only [Bool.or_eq_true, decide_eq_true_eq]
      omega
    simpa using List.pairwise_mergeSort htrans htotal rows
  have hreverse : rows.reverse.Pairwise fun a b => key b ≤ key a :=
    List.pairwise_reverse.mpr (h.imp fun hlt => hlt.le)
  have hperm : (rows.mergeSort fun a b => key b ≤ key a).Perm rows.reverse :=
    (List.mergeSort_perm rows _).trans (List.reverse_perm rows).symm
  refine hperm.eq_of_pairwise ?_ hsorted hreverse
  intro a b ha hb hba hab
  have hinj : ∀ a ∈ rows, ∀ b ∈ rows, key a = key b → a = b := by
    have hnodup : (rows.map key).Nodup :=
      List.pairwise_map.mpr (h.imp fun hlt => hlt.ne)
    exact fun a ha b hb heq => List.inj_on_of_nodup_map hnodup ha hb heq
  exact hinj a ((List.mergeSort_perm rows _).mem_iff.mp ha) b (List.mem_reverse.mp hb)
    (le_antisymm hab hba)

theorem page_eq {rows : List α} (h : Increasing key rows) (before : Option Nat) (limit : Nat) :
    page key before limit rows = (below key before rows).reverse.take limit := by
  rw [page, mergeSort_eq_reverse (h.below before)]

/-- What remains after a page are the rows below its last one. -/
theorem below_last {rows : List α} (h : Increasing key rows) {before : Option Nat} {limit : Nat}
    {last : α} (hlast : (page key before limit rows).getLast? = some last) :
    page key before limit rows ++ (below key (some (key last)) rows).reverse
      = (below key before rows).reverse ∧ last ∈ rows := by
  rw [page_eq h] at hlast ⊢
  have hdesc : (below key before rows).reverse.Pairwise fun a b => key b < key a :=
    List.pairwise_reverse.mpr (h.below before)
  -- the page is `init` and then `last`, and `tail` is what lies below them
  obtain ⟨init, hinit⟩ := List.getLast?_eq_some_iff.mp hlast
  have hsplit := List.take_append_drop limit (below key before rows).reverse
  set tail := (below key before rows).reverse.drop limit with htail
  rw [hinit] at hsplit ⊢
  rw [← hsplit] at hdesc
  obtain ⟨hfront, -, hcross⟩ := List.pairwise_append.mp hdesc
  have hmem : last ∈ below key before rows := by
    rw [← List.mem_reverse, ← hsplit]
    simp
  have hsub : ∀ a ∈ below key before rows, a ∈ rows := by
    cases before with
    | none => exact fun a ha => ha
    | some bound => exact fun a ha => (List.mem_filter.mp ha).1
  -- `last` is below the bound already, so a filter by its key is all that is left
  have hbelow : below key (some (key last)) rows
      = (below key before rows).filter fun a => key a < key last := by
    cases before with
    | none => rfl
    | some bound =>
        have hlt : key last < bound := by simpa [below] using (List.mem_filter.mp hmem).2
        simp only [below, List.filter_filter]
        refine List.filter_congr fun a _ => ?_
        rw [Bool.eq_iff_iff]
        simp only [decide_eq_true_eq, Bool.and_eq_true]
        omega
  refine ⟨?_, hsub last hmem⟩
  rw [hbelow, ← List.filter_reverse, ← hsplit, List.filter_append]
  -- nothing of the page is below its last row, and all of the tail is
  have hnone : (init ++ [last]).filter (fun a => decide (key a < key last)) = [] := by
    rw [List.filter_eq_nil_iff]
    intro a ha
    rcases List.mem_append.mp ha with ha | ha
    · have := (List.pairwise_append.mp hfront).2.2 a ha last (by simp)
      simpa using this.le
    · obtain rfl := List.mem_singleton.mp ha
      simp
  have hall : tail.filter (fun a => decide (key a < key last)) = tail := by
    rw [List.filter_eq_self]
    exact fun a ha => decide_eq_true (hcross last (by simp) a ha)
  rw [hnone, hall, List.nil_append]

/-- Rows that were added are above every bound that an old row gave. -/
theorem below_extends {rows rows' : List α} (h : Extends key rows rows') {last : α}
    (hlast : last ∈ rows) :
    below key (some (key last)) rows' = below key (some (key last)) rows := by
  obtain ⟨new, rfl, hinc⟩ := h
  rw [below, below, List.filter_append]
  have hnone : new.filter (fun a => decide (key a < key last)) = [] := by
    rw [List.filter_eq_nil_iff]
    intro a ha
    have := (List.pairwise_append.mp hinc).2.2 last hlast a ha
    simpa using this.le
  rw [hnone, List.append_nil]

/-- **A scan is complete and stable.** By induction on the scan: a page with what is below its
last row is everything below the bound, and rows that are added in between are not below it. -/
theorem Scan.complete {rows out : List α} {before : Option Nat} (h : Scan key rows before out)
    (hinc : Increasing key rows) : out = (Keyset.below key before rows).reverse := by
  induction h with
  | @done rows before limit hlimit hnil =>
      rw [page_eq hinc] at hnil
      rcases List.take_eq_nil_iff.mp hnil with hzero | hnil
      · exact absurd hzero hlimit.ne'
      · exact hnil.symm
  | @more rows rows' before limit last rest hlast hext _ ih =>
      obtain ⟨hpage, hmem⟩ := below_last hinc hlast
      have hinc' : Increasing key rows' := by
        obtain ⟨new, -, hinc'⟩ := hext
        exact hinc'
      rw [ih hinc', below_extends hext hmem, hpage]

end EventPipeline.Concurrency.Keyset
