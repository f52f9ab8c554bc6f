import EventPipeline.Portfolio.ObjectGraph
import Mathlib.Data.Finset.Dedup

/-!
# EventPipeline.Guarantees.JsonStructure

What `validate_json_structure` decides, on any graph of objects.

`Accepts` is the check of one object by recursion on the levels that are left; the loop
follows it (`ends_visit`), entry by entry of its stack, and so it ends even on a cycle. On
the other side `Accepts` is well-formedness of the graph below the object
(`accepts_of_wellFormed`, `wellFormed_of_accepts`). The set of active containers is the
subject of `Shaped`: the exit markers of the stack are a path from the root to the entry on
top of it.
-/

namespace EventPipeline.Guarantees

open EventPipeline.Python EventPipeline.Portfolio EventPipeline.Graph Relation

namespace JsonStructure

variable {n : Nat} {heap : Heap n} {max_depth : Nat}

/-! ### Well-formed objects -/

/-- A string without NUL and surrogates, as a key. -/
def CleanKey (key : DictKey) : Prop := ∃ s, key = .str s ∧ s.Clean

/-- What the check asks of everything that can be reached from an object: no cycle, no path to a
leaf through more than `max_depth` containers, and keys, texts and numbers that JSON can carry. -/
structure WellFormed (heap : Heap n) (max_depth : Nat) (value : PyObject n) : Prop where
  acyclic : ∀ id, Reaches heap.next value (.container id) → ¬ OnCycle heap.next (.container id)
  shallow : ∀ path, LeafPath heap.next value path → path.countP PyObject.isContainer ≤ max_depth
  keys : ∀ id, Reaches heap.next value (.container id) → ∀ key ∈ (heap id).keys, CleanKey key
  strings : ∀ s, Reaches heap.next value (.str s) → s.Clean
  floats : ∀ f, Reaches heap.next value (.float f) → f.isFinite = true

/-- The check of one object below the containers `above`, with `levels` levels left. -/
def Accepts (heap : Heap n) : Nat → Finset (Fin n) → PyObject n → Prop
  | _, _, .str s => s.Clean
  | _, _, .float f => f.isFinite = true
  | _, _, .other => True
  | 0, _, .container _ => False
  | levels + 1, above, .container id =>
      id ∉ above ∧ (∀ key ∈ (heap id).keys, CleanKey key) ∧
        ∀ item ∈ (heap id).values, Accepts heap levels (insert id above) item

/-! ### The loop

The loop has no bound of its own, so that its meaning is by fuel: it ends with an outcome if some
fuel gives that outcome, and more fuel gives the same. -/

/-- The loop ends with an outcome. -/
def Ends (heap : Heap n) (max_depth : Nat) (state : TraversalState n)
    (outcome : Except Raised Unit) : Prop :=
  ∃ fuel, runTraversal heap max_depth fuel state = some outcome

theorem runTraversal_succ {fuel : Nat} {state : TraversalState n} {outcome : Except Raised Unit}
    (h : runTraversal heap max_depth fuel state = some outcome) :
    runTraversal heap max_depth (fuel + 1) state = some outcome := by
  induction fuel generalizing state with
  | zero => simp [runTraversal] at h
  | succ fuel ih =>
      obtain ⟨stack, active⟩ := state
      cases stack with
      | nil => exact h
      | cons entry stack =>
          rw [runTraversal] at h ⊢
          cases hvisit : visitEntry heap max_depth ⟨stack, active⟩ entry with
          | error e =>
              rw [hvisit] at h
              exact h
          | ok state =>
              rw [hvisit] at h
              exact ih h

theorem runTraversal_mono {fuel more : Nat} {state : TraversalState n} {outcome : Except Raised Unit}
    (h : runTraversal heap max_depth fuel state = some outcome) (hle : fuel ≤ more) :
    runTraversal heap max_depth more state = some outcome := by
  induction hle with
  | refl => exact h
  | step _ ih => exact runTraversal_succ ih

/-- The loop has one outcome: two amounts of fuel that suffice agree with the larger of them. -/
theorem Ends.unique {state : TraversalState n} {outcome outcome' : Except Raised Unit}
    (h : Ends heap max_depth state outcome) (h' : Ends heap max_depth state outcome') :
    outcome = outcome' := by
  obtain ⟨fuel, hfuel⟩ := h
  obtain ⟨fuel', hfuel'⟩ := h'
  have h₁ := runTraversal_mono hfuel (Nat.le_max_left fuel fuel')
  have h₂ := runTraversal_mono hfuel' (Nat.le_max_right fuel fuel')
  exact Option.some.inj (h₁.symm.trans h₂)

theorem ends_nil (active : Finset (Fin n)) : Ends heap max_depth ⟨[], active⟩ (.ok ()) :=
  ⟨1, rfl⟩

theorem ends_error {entry : StackEntry n} {stack : List (StackEntry n)} {active : Finset (Fin n)}
    {e : Raised} (h : visitEntry heap max_depth ⟨stack, active⟩ entry = .error e) :
    Ends heap max_depth ⟨entry :: stack, active⟩ (.error e) :=
  ⟨1, by rw [runTraversal, h]⟩

theorem ends_step {entry : StackEntry n} {stack : List (StackEntry n)} {active : Finset (Fin n)}
    {state : TraversalState n} {outcome : Except Raised Unit}
    (h : visitEntry heap max_depth ⟨stack, active⟩ entry = .ok state)
    (hstate : Ends heap max_depth state outcome) :
    Ends heap max_depth ⟨entry :: stack, active⟩ outcome := by
  obtain ⟨fuel, hfuel⟩ := hstate
  exact ⟨fuel + 1, by rw [runTraversal, h]; exact hfuel⟩

/-! ### What one pass does -/

/-- The entries of the items of a container, as they lie on the stack. -/
def pending (depth : Nat) (items : List (PyObject n)) : List (StackEntry n) :=
  (items.map fun item => (item, depth, false)).reverse

theorem pushItems_eq (depth : Nat) (items : List (PyObject n)) (stack : List (StackEntry n)) :
    pushItems depth items stack = pending depth items ++ stack := by
  unfold pushItems pending
  induction items generalizing stack with
  | nil => rfl
  | cons item items ih => simp [ih]

theorem checkDictKey_cases (key : DictKey) :
    CleanKey key ∧ raising (checkDictKey key) = .ok () ∨
      ¬ CleanKey key ∧ ∃ e, raising (checkDictKey key) = .error (.error e) := by
  cases key with
  | other => exact .inr ⟨by simp [CleanKey], _, rfl⟩
  | str s =>
      by_cases hclean : s.Clean
      · exact .inl ⟨⟨s, rfl, hclean⟩, by simp [raising, checkDictKey, checkText_ok.mpr hclean]⟩
      · refine .inr ⟨by simpa [CleanKey] using hclean, ?_⟩
        cases hcheck : checkText s with
        | ok _ => exact absurd (checkText_ok.mp hcheck) hclean
        | error e => exact ⟨e, by simp [raising, checkDictKey, hcheck]⟩

theorem pushEntries_cases (depth : Nat) (items : List (DictKey × PyObject n))
    (stack : List (StackEntry n)) :
    (∀ key ∈ items.map (·.1), CleanKey key) ∧
        pushEntries depth items stack = .ok (pending depth (items.map (·.2)) ++ stack) ∨
      ¬ (∀ key ∈ items.map (·.1), CleanKey key) ∧
        ∃ e, pushEntries depth items stack = .error (.error e) := by
  induction items generalizing stack with
  | nil => exact .inl ⟨by simp, rfl⟩
  | cons entry items ih =>
      obtain ⟨key, item⟩ := entry
      rcases checkDictKey_cases key with ⟨hclean, hkey⟩ | ⟨hbad, e, hkey⟩
      · rcases ih ((item, depth, false) :: stack) with ⟨hall, hpush⟩ | ⟨hsome, e, hpush⟩
        · refine .inl ⟨List.forall_mem_cons.mpr ⟨hclean, hall⟩, ?_⟩
          simp [pushEntries, hkey, hpush, bind, Except.bind, pending]
        · refine .inr ⟨fun hall => hsome (List.forall_mem_cons.mp hall).2, e, ?_⟩
          simp [pushEntries, hkey, hpush, bind, Except.bind]
      · refine .inr ⟨fun hall => hbad (List.forall_mem_cons.mp hall).1, e, ?_⟩
        simp [pushEntries, hkey, bind, Except.bind]

/-- Entering a container pushes its items, or finds a key that is not allowed. -/
theorem pushContainer_cases (depth : Nat) (stack : List (StackEntry n)) (c : Container n) :
    (∀ key ∈ c.keys, CleanKey key) ∧
        pushContainer depth stack c = .ok (pending depth c.values ++ stack) ∨
      ¬ (∀ key ∈ c.keys, CleanKey key) ∧ ∃ e, pushContainer depth stack c = .error (.error e) := by
  cases c with
  | dict items => exact pushEntries_cases depth items stack
  | list items =>
      exact .inl ⟨by simp [Container.keys], by simp [pushContainer, pushItems_eq, Container.values]⟩
  | tuple items =>
      exact .inl ⟨by simp [Container.keys], by simp [pushContainer, pushItems_eq, Container.values]⟩

/-- The pass that leaves a container. -/
theorem visitEntry_exit {id : Fin n} {depth : Nat} {stack : List (StackEntry n)}
    {active : Finset (Fin n)} (h : id ∈ active) :
    visitEntry heap max_depth ⟨stack, active⟩ (.container id, depth, true)
      = .ok ⟨stack, active.erase id⟩ := by
  rw [visitEntry, if_pos h]
  rfl

/-- The pass that enters a container: it pushes the items below an exit marker, or one of
the checks fails. -/
theorem visitEntry_enter (id : Fin n) (depth : Nat) (stack : List (StackEntry n))
    (active : Finset (Fin n)) :
    (depth < max_depth ∧ id ∉ active ∧ (∀ key ∈ (heap id).keys, CleanKey key)) ∧
        visitEntry heap max_depth ⟨stack, active⟩ (.container id, depth, false) =
          .ok ⟨pending (depth + 1) (heap id).values ++ (.container id, depth, true) :: stack,
            insert id active⟩ ∨
      ¬ (depth < max_depth ∧ id ∉ active ∧ (∀ key ∈ (heap id).keys, CleanKey key)) ∧
        ∃ e, visitEntry heap max_depth ⟨stack, active⟩ (.container id, depth, false)
          = .error (.error e) := by
  by_cases hdepth : depth < max_depth
  swap
  · refine .inr ⟨fun h => hdepth h.1, ?_⟩
    have hdeep : max_depth < depth + 1 := by omega
    simp [visitEntry, checkDepth, hdeep, raising, bind, Except.bind]
  have hshallow : ¬ max_depth < depth + 1 := by omega
  by_cases hactive : id ∈ active
  · refine .inr ⟨fun h => h.2.1 hactive, ?_⟩
    simp [visitEntry, checkDepth, hshallow, hactive, raising, bind, Except.bind]
  rcases pushContainer_cases (depth + 1) ((.container id, depth, true) :: stack) (heap id) with
    ⟨hkeys, hpush⟩ | ⟨hkeys, e, hpush⟩
  · refine .inl ⟨⟨hdepth, hactive, hkeys⟩, ?_⟩
    simp [visitEntry, checkDepth, hshallow, hactive, raising, hpush, bind, Except.bind, pure,
      Except.pure]
  · refine .inr ⟨fun h => hkeys h.2.2, e, ?_⟩
    simp [visitEntry, checkDepth, hshallow, hactive, raising, hpush, bind, Except.bind]

/-- The pass over a string, a float or any other object that is no container. -/
theorem visitEntry_scalar {item : PyObject n} (hitem : item.isContainer = false) (levels : Nat)
    (above : Finset (Fin n)) (depth : Nat) (exiting : Bool) (state : TraversalState n) :
    Accepts heap levels above item ∧
        visitEntry heap max_depth state (item, depth, exiting) = .ok state ∨
      ¬ Accepts heap levels above item ∧
        ∃ e, visitEntry heap max_depth state (item, depth, exiting) = .error (.error e) := by
  cases item with
  | container id => simp [PyObject.isContainer] at hitem
  | other => exact .inl ⟨by simp [Accepts], rfl⟩
  | float f =>
      cases hfinite : f.isFinite with
      | true =>
          refine .inl ⟨by simp [Accepts, hfinite], ?_⟩
          simp [visitEntry, hfinite, raising, bind, Except.bind, pure, Except.pure]
      | false =>
          refine .inr ⟨by simp [Accepts, hfinite], ValueError "JSON numbers must be finite", ?_⟩
          simp [visitEntry, hfinite, raising, bind, Except.bind]
  | str s =>
      by_cases hclean : s.Clean
      · refine .inl ⟨by simpa [Accepts] using hclean, ?_⟩
        simp [visitEntry, checkText_ok.mpr hclean, raising, bind, Except.bind, pure, Except.pure]
      · refine .inr ⟨by simpa [Accepts] using hclean, ?_⟩
        cases hcheck : checkText s with
        | ok _ => exact absurd (checkText_ok.mp hcheck) hclean
        | error e => exact ⟨e, by simp [visitEntry, hcheck, raising, bind, Except.bind]⟩

/-! ### The loop follows the recursion

An entry on top of the stack is settled: the loop comes to the entry below it with the same active
containers, or it stops there. The induction is on the levels that are left, and inside it on the
items of a container. -/

/-- The entry on top of the stack is either accepted, and the loop goes on with the rest and
the same active containers, or it ends the loop. -/
def Settles (heap : Heap n) (max_depth levels depth : Nat) (active : Finset (Fin n))
    (item : PyObject n) : Prop :=
  ∀ rest, (Accepts heap levels active item → ∀ outcome, Ends heap max_depth ⟨rest, active⟩ outcome →
      Ends heap max_depth ⟨(item, depth, false) :: rest, active⟩ outcome) ∧
    (¬ Accepts heap levels active item →
      ∃ e, Ends heap max_depth ⟨(item, depth, false) :: rest, active⟩ (.error (.error e)))

/-- The same for the items of a container. -/
theorem settles_pending {levels depth : Nat} {active : Finset (Fin n)}
    {items : List (PyObject n)} (h : ∀ item ∈ items, Settles heap max_depth levels depth active item)
    (rest : List (StackEntry n)) :
    ((∀ item ∈ items, Accepts heap levels active item) → ∀ outcome,
        Ends heap max_depth ⟨rest, active⟩ outcome →
        Ends heap max_depth ⟨pending depth items ++ rest, active⟩ outcome) ∧
      (¬ (∀ item ∈ items, Accepts heap levels active item) →
        ∃ e, Ends heap max_depth ⟨pending depth items ++ rest, active⟩ (.error (.error e))) := by
  induction items using List.reverseRecOn generalizing rest with
  | nil => exact ⟨fun _ outcome houtcome => houtcome, fun hall => absurd (by simp) hall⟩
  | append_singleton items item ih =>
      -- the last item lies on top of the stack
      have htop : pending depth (items ++ [item]) ++ rest
          = (item, depth, false) :: (pending depth items ++ rest) := by
        simp [pending]
      have hitem := h item (by simp) (pending depth items ++ rest)
      obtain ⟨haccept, hreject⟩ := ih (fun item hmem => h item (by simp [hmem])) rest
      rw [htop]
      refine ⟨fun hall outcome houtcome => ?_, fun hsome => ?_⟩
      · exact hitem.1 (hall item (by simp)) outcome
          (haccept (fun item hmem => hall item (by simp [hmem])) outcome houtcome)
      · by_cases hlast : Accepts heap levels active item
        · obtain ⟨e, he⟩ := hreject fun hall => hsome fun item' hmem => by
            rcases List.mem_append.mp hmem with hmem | hmem
            · exact hall item' hmem
            · rwa [List.mem_singleton.mp hmem]
          exact ⟨e, hitem.1 hlast _ he⟩
        · exact hitem.2 hlast

theorem settles_scalar {levels depth : Nat} {active : Finset (Fin n)} {item : PyObject n}
    (hitem : item.isContainer = false) : Settles heap max_depth levels depth active item := by
  intro rest
  rcases @visitEntry_scalar n heap max_depth item hitem levels active depth false ⟨rest, active⟩
    with ⟨haccept, hvisit⟩ | ⟨hreject, e, hvisit⟩
  · exact ⟨fun _ outcome houtcome => ends_step hvisit houtcome, fun h => absurd haccept h⟩
  · exact ⟨fun h => absurd h hreject, fun _ => ⟨e, ends_error hvisit⟩⟩

/-- The loop follows `Accepts`, by induction on the levels that are left. -/
theorem settles {levels depth : Nat} (hlevels : depth + levels = max_depth)
    (active : Finset (Fin n)) (item : PyObject n) :
    Settles heap max_depth levels depth active item := by
  induction levels generalizing depth active item with
  | zero =>
      cases item with
      | container id =>
          intro rest
          refine ⟨fun haccept => absurd haccept (by simp [Accepts]), fun _ => ?_⟩
          rcases @visitEntry_enter n heap max_depth id depth rest active with
            ⟨⟨hdepth, -⟩, -⟩ | ⟨-, e, hvisit⟩
          · omega
          · exact ⟨e, ends_error hvisit⟩
      | str s => exact settles_scalar rfl
      | float f => exact settles_scalar rfl
      | other => exact settles_scalar rfl
  | succ levels ih =>
      cases item with
      | container id =>
          intro rest
          -- by induction the items settle one level below, with the container among the active ones
          have hitems := @settles_pending n heap max_depth levels (depth + 1) (insert id active)
            (heap id).values (fun item _ => ih (by omega) (insert id active) item)
            ((.container id, depth, true) :: rest)
          rcases @visitEntry_enter n heap max_depth id depth rest active with
            ⟨⟨hdepth, hactive, hkeys⟩, hvisit⟩ | ⟨hbad, e, hvisit⟩
          · -- the items, and then the exit marker
            refine ⟨fun haccept outcome houtcome => ?_, fun hreject => ?_⟩
            · refine ends_step hvisit (hitems.1 haccept.2.2 outcome ?_)
              refine ends_step (visitEntry_exit (Finset.mem_insert_self id active)) ?_
              rwa [Finset.erase_insert hactive]
            · have hsome : ¬ ∀ item ∈ (heap id).values, Accepts heap levels (insert id active) item :=
                fun hall => hreject ⟨hactive, hkeys, hall⟩
              obtain ⟨e, he⟩ := hitems.2 hsome
              exact ⟨e, ends_step hvisit he⟩
          · refine ⟨fun haccept => absurd ⟨by omega, haccept.1, haccept.2.1⟩ hbad, fun _ => ?_⟩
            exact ⟨e, ends_error hvisit⟩
      | str s => exact settles_scalar rfl
      | float f => exact settles_scalar rfl
      | other => exact settles_scalar rfl

/-- The whole call: it ends, with a `ValueError` where the object is not accepted. -/
theorem decides_cases (heap : Heap n) (max_depth : Nat) (value : PyObject n) :
    Accepts heap max_depth ∅ value ∧ Decides heap max_depth value (.ok ()) ∨
      ¬ Accepts heap max_depth ∅ value ∧ ∃ e, Decides heap max_depth value (.error (.error e)) := by
  have h := @settles n heap max_depth max_depth 0 (Nat.zero_add _) ∅ value []
  by_cases haccept : Accepts heap max_depth ∅ value
  · exact .inl ⟨haccept, h.1 haccept (.ok ()) (ends_nil ∅)⟩
  · exact .inr ⟨haccept, h.2 haccept⟩

/-! ### The recursion decides well-formedness -/

/-- The objects that have successors are containers. -/
theorem next_ne_nil_finite (heap : Heap n) : {v | heap.next v ≠ []}.Finite := by
  refine (Set.finite_range (fun id : Fin n => PyObject.container id)).subset ?_
  intro v hv
  cases v with
  | container id => exact ⟨id, rfl⟩
  | str s => exact absurd rfl hv
  | float f => exact absurd rfl hv
  | other => exact absurd rfl hv

/-- What a scalar reaches is itself. -/
theorem reaches_scalar {item w : PyObject n} (hitem : item.isContainer = false)
    (h : Reaches heap.next item w) : w = item := by
  rcases ReflTransGen.cases_head h with rfl | ⟨u, hu, -⟩
  · rfl
  · cases item with
    | container id => simp [PyObject.isContainer] at hitem
    | str s => simp [Edge, Heap.next] at hu
    | float f => simp [Edge, Heap.next] at hu
    | other => simp [Edge, Heap.next] at hu

/-- No scalar is on a cycle, so that of a well-formed object nothing that is reached is. -/
theorem WellFormed.acyclic_all {item w : PyObject n} (h : WellFormed heap max_depth item)
    (hw : Reaches heap.next item w) : ¬ OnCycle heap.next w := by
  intro hcycle
  obtain ⟨u, hu, -⟩ := TransGen.head'_iff.mp hcycle
  cases w with
  | container id => exact h.acyclic id hw hcycle
  | str s => simp [Edge, Heap.next] at hu
  | float f => simp [Edge, Heap.next] at hu
  | other => simp [Edge, Heap.next] at hu

/-- A scalar is well-formed at every depth where it is accepted. -/
theorem wellFormed_scalar {levels : Nat} {above : Finset (Fin n)} {item : PyObject n}
    (hitem : item.isContainer = false) :
    WellFormed heap levels item ↔ Accepts heap levels above item := by
  constructor
  · intro h
    cases item with
    | container id => simp [PyObject.isContainer] at hitem
    | str s => simpa [Accepts] using h.strings s .refl
    | float f => simpa [Accepts] using h.floats f .refl
    | other => simp [Accepts]
  · intro h
    have hself : ∀ w, Reaches heap.next item w → w = item := fun w => reaches_scalar hitem
    refine ⟨?_, ?_, ?_, ?_, ?_⟩
    · intro id hid
      rw [← hself _ hid] at hitem
      simp [PyObject.isContainer] at hitem
    · intro path hpath
      cases hpath with
      | leaf => simp [hitem]
      | step hw _ => cases item <;> simp [Heap.next, PyObject.isContainer] at hw hitem
    · intro id hid
      rw [← hself _ hid] at hitem
      simp [PyObject.isContainer] at hitem
    · intro s hs
      obtain rfl := hself _ hs
      simpa [Accepts] using h
    · intro f hf
      obtain rfl := hself _ hf
      simpa [Accepts] using h

/-- What is reached from a container is the container, or is reached from one of its
items. -/
theorem reaches_container {id : Fin n} {w : PyObject n}
    (h : Reaches heap.next (.container id) w) :
    w = .container id ∨ ∃ item ∈ (heap id).values, Reaches heap.next item w := by
  rcases ReflTransGen.cases_head h with heq | ⟨item, hitem, hw⟩
  · exact .inl heq.symm
  · exact .inr ⟨item, hitem, hw⟩

/-- An accepted object is well-formed as deep as there are levels. -/
theorem wellFormed_of_accepts {levels : Nat} {above : Finset (Fin n)} {item : PyObject n}
    (h : Accepts heap levels above item) : WellFormed heap levels item := by
  cases hcontainer : item.isContainer with
  | false => exact (wellFormed_scalar hcontainer).mpr h
  | true =>
      induction levels generalizing above item with
      | zero => cases item <;> simp_all [Accepts, PyObject.isContainer]
      | succ levels ih =>
          cases item with
          | str s => simp [PyObject.isContainer] at hcontainer
          | float f => simp [PyObject.isContainer] at hcontainer
          | other => simp [PyObject.isContainer] at hcontainer
          | container id =>
              obtain ⟨-, hkeys, hitems⟩ := h
              have hchild : ∀ item ∈ (heap id).values, WellFormed heap levels item := by
                intro item hitem
                cases hinner : item.isContainer with
                | false => exact (wellFormed_scalar hinner).mpr (hitems item hitem)
                | true => exact ih (hitems item hitem) hinner
              -- cycles, depth, keys, strings and floats: of the container itself, or of one of its
              -- items
              refine ⟨?_, ?_, ?_, ?_, ?_⟩
              · intro id' hid' hcycle
                rcases reaches_container hid' with heq | ⟨item, hitem, hreach⟩
                · -- a cycle through the container itself passes one of its items
                  cases heq
                  obtain ⟨item, hitem, hback⟩ := TransGen.head'_iff.mp hcycle
                  exact (hchild item hitem).acyclic id hback hcycle
                · exact (hchild item hitem).acyclic id' hreach hcycle
              · intro path hpath
                cases hpath with
                | leaf => simp [List.countP_cons, PyObject.isContainer]
                | step hitem hpath =>
                    have := (hchild _ hitem).shallow _ hpath
                    simp [List.countP_cons, PyObject.isContainer]
                    omega
              · intro id' hid'
                rcases reaches_container hid' with heq | ⟨item, hitem, hreach⟩
                · cases heq
                  exact hkeys
                · exact (hchild item hitem).keys id' hreach
              · intro s hs
                rcases reaches_container hs with heq | ⟨item, hitem, hreach⟩
                · cases heq
                · exact (hchild item hitem).strings s hreach
              · intro f hf
                rcases reaches_container hf with heq | ⟨item, hitem, hreach⟩
                · cases heq
                · exact (hchild item hitem).floats f hreach

/-- The items of a well-formed container are well-formed, one level less deep. -/
theorem WellFormed.item {levels : Nat} {id : Fin n}
    (h : WellFormed heap (levels + 1) (.container id)) {item : PyObject n}
    (hitem : item ∈ (heap id).values) : WellFormed heap levels item where
  acyclic id' hid' := h.acyclic id' (.head hitem hid')
  shallow path hpath := by
    have := h.shallow _ (.step hitem hpath)
    simp [List.countP_cons, PyObject.isContainer] at this
    exact this
  keys id' hid' := h.keys id' (.head hitem hid')
  strings s hs := h.strings s (.head hitem hs)
  floats f hf := h.floats f (.head hitem hf)

/-- A well-formed object is accepted below its ancestors. By induction on the levels: an item of a
container is well formed with one level less, and the container joins the ancestors. -/
theorem accepts_of_wellFormed {levels : Nat} {above : Finset (Fin n)} {item : PyObject n}
    (h : WellFormed heap levels item)
    (habove : ∀ id ∈ above, TransGen (Edge heap.next) (.container id) item) :
    Accepts heap levels above item := by
  induction levels generalizing above item with
  | zero =>
      cases item with
      | container id =>
          -- a path down to a leaf begins with the container itself
          obtain ⟨path, hpath⟩ := exists_leafPath (next_ne_nil_finite heap)
            fun w hw => h.acyclic_all hw
          have hnone := h.shallow path hpath
          cases hpath <;> simp [List.countP_cons, PyObject.isContainer] at hnone
      | str s => exact (wellFormed_scalar rfl).mp h
      | float f => exact (wellFormed_scalar rfl).mp h
      | other => exact (wellFormed_scalar rfl).mp h
  | succ levels ih =>
      cases item with
      | container id =>
          refine ⟨fun hid => h.acyclic id .refl (habove id hid), h.keys id .refl, ?_⟩
          intro item hitem
          refine ih (h.item hitem) fun id' hid' => ?_
          rcases Finset.mem_insert.mp hid' with rfl | hid'
          · exact .single hitem
          · exact (habove id' hid').tail hitem
      | str s => exact (wellFormed_scalar rfl).mp h
      | float f => exact (wellFormed_scalar rfl).mp h
      | other => exact (wellFormed_scalar rfl).mp h

/-! ### The active containers

While a container is open its exit marker lies on the stack, under its items. The markers from
bottom to top are the path to the entry on top, and the active set is the set of its containers.
-/

/-- The container an exit marker leaves. -/
def exitMarker : StackEntry n → Option (Fin n)
  | (.container id, _, true) => some id
  | _ => none

/-- `path` leads from `value` down to an object, its last container first. -/
inductive Descent (heap : Heap n) (value : PyObject n) : List (Fin n) → PyObject n → Prop
  | root : Descent heap value [] value
  | into {path : List (Fin n)} {id : Fin n} {item : PyObject n} :
      Descent heap value path (.container id) → item ∈ (heap id).values →
      Descent heap value (id :: path) item

/-- A stack whose exit markers are the path `path` from the root, each entry above the
markers of its ancestors. -/
inductive Shaped (heap : Heap n) (value : PyObject n) :
    List (Fin n) → List (StackEntry n) → Prop
  | nil : Shaped heap value [] []
  | visit {path : List (Fin n)} {item : PyObject n} {stack : List (StackEntry n)} :
      Descent heap value path item → Shaped heap value path stack →
      Shaped heap value path ((item, path.length, false) :: stack)
  | marker {path : List (Fin n)} {id : Fin n} {stack : List (StackEntry n)} :
      Descent heap value path (.container id) → id ∉ path → Shaped heap value path stack →
      Shaped heap value (id :: path) ((.container id, path.length, true) :: stack)

/-- One pass of the loop that goes on. -/
def Passes (heap : Heap n) (max_depth : Nat) (state state' : TraversalState n) : Prop :=
  ∃ entry stack, state.stack = entry :: stack ∧
    visitEntry heap max_depth ⟨stack, state.active_containers⟩ entry = .ok state'

/-- A state the call passes through. -/
def Visited (heap : Heap n) (max_depth : Nat) (value : PyObject n) (state : TraversalState n) :
    Prop :=
  ReflTransGen (Passes heap max_depth) (.start value) state

/-- The invariant of the loop: the active containers are the containers of the exit
markers. -/
def ActiveInvariant (heap : Heap n) (value : PyObject n) (state : TraversalState n) : Prop :=
  ∃ path, Shaped heap value path state.stack ∧ path.Nodup ∧
    state.active_containers = path.toFinset

theorem Shaped.path_eq {value : PyObject n} {path : List (Fin n)} {stack : List (StackEntry n)}
    (h : Shaped heap value path stack) : stack.filterMap exitMarker = path := by
  induction h with
  | nil => rfl
  | @visit path item stack _ _ ih =>
      have hnone : exitMarker (item, path.length, false) = none := by cases item <;> rfl
      rw [List.filterMap_cons_none hnone, ih]
  | marker _ _ _ ih => simp [exitMarker, ih]

/-- Pushing the items of a container keeps the shape. -/
theorem Shaped.pending {value : PyObject n} {path : List (Fin n)} {stack : List (StackEntry n)}
    (h : Shaped heap value path stack) {items : List (PyObject n)}
    (hitems : ∀ item ∈ items, Descent heap value path item) :
    Shaped heap value path (pending path.length items ++ stack) := by
  induction items using List.reverseRecOn with
  | nil => exact h
  | append_singleton items item ih =>
      have htop : JsonStructure.pending path.length (items ++ [item]) ++ stack
          = (item, path.length, false) :: (JsonStructure.pending path.length items ++ stack) := by
        simp [JsonStructure.pending]
      rw [htop]
      exact .visit (hitems item (by simp)) (ih fun item hmem => hitems item (by simp [hmem]))

/-- One pass keeps the invariant. The path grows when a container is entered and shrinks at its
marker; a scalar leaves it as it is. -/
theorem Passes.invariant {value : PyObject n} {state state' : TraversalState n}
    (h : ActiveInvariant heap value state) (hpass : Passes heap max_depth state state') :
    ActiveInvariant heap value state' := by
  obtain ⟨path, hshaped, hnodup, hactive⟩ := h
  obtain ⟨entry, rest, hstack, hvisit⟩ := hpass
  rw [hstack] at hshaped
  rw [hactive] at hvisit
  cases hshaped with
  | @visit path item stack hitem hrest =>
      cases hcontainer : item.isContainer with
      | false =>
          -- a scalar leaves the path as it is
          rcases @visitEntry_scalar n heap max_depth item hcontainer 0 ∅ path.length false
            ⟨rest, path.toFinset⟩ with ⟨-, hsame⟩ | ⟨-, e, herror⟩
          · obtain rfl := Except.ok.inj (hsame.symm.trans hvisit)
            exact ⟨path, hrest, hnodup, rfl⟩
          · cases herror.symm.trans hvisit
      | true =>
          cases item with
          | str s => simp [PyObject.isContainer] at hcontainer
          | float f => simp [PyObject.isContainer] at hcontainer
          | other => simp [PyObject.isContainer] at hcontainer
          | container id =>
              rcases @visitEntry_enter n heap max_depth id path.length rest path.toFinset with
                ⟨⟨-, hfresh, -⟩, hsame⟩ | ⟨-, e, herror⟩
              · obtain rfl := Except.ok.inj (hsame.symm.trans hvisit)
                -- a container is entered: it goes on the path, and its items and its marker on the
                -- stack
                have hnew : id ∉ path := by simpa using hfresh
                refine ⟨id :: path, ?_, List.nodup_cons.mpr ⟨hnew, hnodup⟩,
                  by rw [List.toFinset_cons]⟩
                exact (Shaped.marker hitem hnew hrest).pending fun item hmem => .into hitem hmem
              · cases herror.symm.trans hvisit
  | @marker path id stack hitem hnew hrest =>
      -- at its marker it is left again
      have hmem : id ∈ (id :: path).toFinset := by simp
      obtain rfl := Except.ok.inj ((visitEntry_exit hmem).symm.trans hvisit)
      refine ⟨path, hrest, (List.nodup_cons.mp hnodup).2, ?_⟩
      rw [List.toFinset_cons, Finset.erase_insert (by simpa using hnew)]

/-- The invariant holds in every state of the call. -/
theorem Visited.invariant {value : PyObject n} {state : TraversalState n}
    (h : Visited heap max_depth value state) : ActiveInvariant heap value state := by
  induction h with
  | refl => exact ⟨[], .visit .root .nil, List.nodup_nil, rfl⟩
  | tail _ hpass ih => exact hpass.invariant ih

/-- The containers of a descent are the ancestors of the object it leads to. -/
theorem Descent.ancestors {value item : PyObject n} {path : List (Fin n)}
    (h : Descent heap value path item) :
    ∀ id ∈ path, TransGen (Edge heap.next) (.container id) item := by
  induction h with
  | root => simp
  | @into path id item _ hitem ih =>
      intro id' hid'
      rcases List.mem_cons.mp hid' with rfl | hid'
      · exact .single hitem
      · exact (ih id' hid').tail hitem

/-- A container that two others share, and no cycle: three cells. -/
def sharedHeap : Heap 3
  | 0 => .list [.container 1, .container 2, .container 1]
  | 1 => .dict [(.str "shared", .container 2)]
  | 2 => .tuple [.str "leaf", .other]

example : Decides sharedHeap 3 (.container 0) (.ok ()) := ⟨20, by decide⟩

end JsonStructure

open JsonStructure in
/-- **`validate_json_structure`.** On every finite heap the call ends, with one outcome: it
returns exactly where the object is well-formed, and otherwise raises a `ValueError`. In every
state it passes through, the active containers are those on the path that leads from the root to
the entry on top of the stack: its ancestors, each entered once and not yet left.

That the call ends, and how, is one induction on the levels that are left (`decides_cases`): a
value is accepted, or the walk raises at the first place that is wrong. What the stack says about
the path is an invariant of its steps (`Visited.invariant`). -/
theorem validate_json_structure_decides {n : Nat} (heap : Heap n) (max_depth : Nat)
    (value : PyObject n) :
    (∃! outcome, Decides heap max_depth value outcome) ∧
      (Decides heap max_depth value (.ok ()) ↔ WellFormed heap max_depth value) ∧
      (∀ raised, Decides heap max_depth value (.error raised) → ∃ e, raised = .error e) ∧
      ∀ state, Visited heap max_depth value state →
        ∀ item depth rest, state.stack = (item, depth, false) :: rest →
          ∃ path, Descent heap value path item ∧ path = rest.filterMap exitMarker ∧
            path.Nodup ∧ path.length = depth ∧ state.active_containers = path.toFinset ∧
            ∀ id ∈ path, TransGen (Edge heap.next) (.container id) item := by
  -- the recursion with a set of ancestors, started with none, is well-formedness
  have hwell : Accepts heap max_depth ∅ value ↔ WellFormed heap max_depth value :=
    ⟨wellFormed_of_accepts, fun h => accepts_of_wellFormed h (by simp)⟩
  refine ⟨?_, ?_, ?_, ?_⟩
  · rcases decides_cases heap max_depth value with ⟨-, hok⟩ | ⟨-, e, herror⟩
    · exact ⟨_, hok, fun other hother => Ends.unique hother hok⟩
    · exact ⟨_, herror, fun other hother => Ends.unique hother herror⟩
  · rw [← hwell]
    rcases decides_cases heap max_depth value with ⟨haccept, hok⟩ | ⟨hreject, e, herror⟩
    · exact ⟨fun _ => haccept, fun _ => hok⟩
    · exact ⟨fun hok => absurd (Ends.unique hok herror) (by simp),
        fun haccept => absurd haccept hreject⟩
  · intro raised hraised
    rcases decides_cases heap max_depth value with ⟨-, hok⟩ | ⟨-, e, herror⟩
    · cases Ends.unique hraised hok
    · exact ⟨e, by cases Ends.unique hraised herror; rfl⟩
  · intro state hvisited item depth rest hstack
    -- what the invariant of the steps says where the stack has an entry on top
    obtain ⟨path, hshaped, hnodup, hactive⟩ := hvisited.invariant
    rw [hstack] at hshaped
    cases hshaped with
    | visit hitem hrest =>
        exact ⟨path, hitem, hrest.path_eq.symm, hnodup, rfl, hactive, hitem.ancestors⟩

namespace JsonStructure

/-! ### Decoded values

A value that `json.loads` has built shares nothing and has no cycle. On it the check of the graph
is the check of the tree, which the model of the worker uses. -/

variable {n : Nat} {heap : Heap n}

mutual
/-- The object is the decoded value, laid out in a heap. -/
def Represents (heap : Heap n) (value : PyObject n) : Json → Prop
  | .null | .bool _ | .int _ => value = .other
  | .float f => value = .float f
  | .str s => value = .str s
  | .arr xs => ∃ id items, value = .container id ∧
      (heap id = .list items ∨ heap id = .tuple items) ∧ RepresentsItems heap items xs
  | .obj kvs => ∃ id items, value = .container id ∧ heap id = .dict items ∧
      RepresentsEntries heap items kvs
def RepresentsItems (heap : Heap n) (items : List (PyObject n)) : List Json → Prop
  | [] => items = []
  | x :: xs => ∃ item rest, items = item :: rest ∧ Represents heap item x ∧
      RepresentsItems heap rest xs
def RepresentsEntries (heap : Heap n) (items : List (DictKey × PyObject n)) :
    List (PyStr × Json) → Prop
  | [] => items = []
  | (k, v) :: kvs => ∃ item rest, items = (.str k, item) :: rest ∧ Represents heap item v ∧
      RepresentsEntries heap rest kvs
end

theorem RepresentsItems.mem {items : List (PyObject n)} {xs : List Json}
    (h : RepresentsItems heap items xs) {item : PyObject n} (hitem : item ∈ items) :
    ∃ x ∈ xs, Represents heap item x := by
  induction xs generalizing items with
  | nil =>
      rw [RepresentsItems] at h
      simp [h] at hitem
  | cons x xs ih =>
      rw [RepresentsItems] at h
      obtain ⟨first, rest, rfl, hfirst, hrest⟩ := h
      rcases List.mem_cons.mp hitem with rfl | hitem
      · exact ⟨x, by simp, hfirst⟩
      · obtain ⟨y, hy, hrep⟩ := ih hrest hitem
        exact ⟨y, by simp [hy], hrep⟩

theorem RepresentsEntries.mem {items : List (DictKey × PyObject n)} {kvs : List (PyStr × Json)}
    (h : RepresentsEntries heap items kvs) {entry : DictKey × PyObject n} (hentry : entry ∈ items) :
    ∃ p ∈ kvs, Represents heap entry.2 p.2 := by
  induction kvs generalizing items with
  | nil =>
      rw [RepresentsEntries] at h
      simp [h] at hentry
  | cons p kvs ih =>
      obtain ⟨k, v⟩ := p
      rw [RepresentsEntries] at h
      obtain ⟨first, rest, rfl, hfirst, hrest⟩ := h
      rcases List.mem_cons.mp hentry with rfl | hentry
      · exact ⟨(k, v), by simp, hfirst⟩
      · obtain ⟨q, hq, hrep⟩ := ih hrest hentry
        exact ⟨q, by simp [hq], hrep⟩

/-- What a container refers to represents a smaller value. -/
theorem Represents.next {value item : PyObject n} {v : Json} (h : Represents heap value v)
    (hitem : item ∈ heap.next value) : ∃ w, Represents heap item w ∧ sizeOf w < sizeOf v := by
  cases v with
  | null | bool | int | float | str =>
      rw [Represents] at h
      rw [h] at hitem
      simp [Heap.next] at hitem
  | arr xs =>
      rw [Represents] at h
      obtain ⟨id, items, rfl, hcell, hitems⟩ := h
      have hmem : item ∈ items := by
        rcases hcell with hcell | hcell <;> simpa [Heap.next, hcell, Container.values] using hitem
      obtain ⟨x, hx, hrep⟩ := hitems.mem hmem
      have := List.sizeOf_lt_of_mem hx
      exact ⟨x, hrep, by simp; omega⟩
  | obj kvs =>
      rw [Represents] at h
      obtain ⟨id, items, rfl, hcell, hitems⟩ := h
      simp only [Heap.next, hcell, Container.values, List.mem_map] at hitem
      obtain ⟨entry, hentry, rfl⟩ := hitem
      obtain ⟨p, hp, hrep⟩ := hitems.mem hentry
      have := List.sizeOf_lt_of_mem hp
      obtain ⟨k, v⟩ := p
      refine ⟨v, hrep, ?_⟩
      simp at this ⊢
      omega

theorem Represents.below {value item : PyObject n} {v : Json} (h : Represents heap value v)
    (hitem : TransGen (Edge heap.next) value item) :
    ∃ w, Represents heap item w ∧ sizeOf w < sizeOf v := by
  induction hitem with
  | single hnext => exact h.next hnext
  | tail _ hnext ih =>
      obtain ⟨w, hw, hlt⟩ := ih
      obtain ⟨u, hu, hlt'⟩ := hw.next hnext
      exact ⟨u, hu, hlt'.trans hlt⟩

/-- A decoded value has no cycle. -/
theorem Represents.acyclic {value : PyObject n} {v : Json} (h : Represents heap value v) :
    ¬ OnCycle heap.next value := by
  intro hcycle
  induction hsize : sizeOf v using Nat.strong_induction_on generalizing v with
  | _ size ih =>
      obtain ⟨w, hw, hlt⟩ := h.below hcycle
      exact ih (sizeOf w) (hsize ▸ hlt) hw rfl

mutual
/-- On a decoded value the recursion is the check of a tree. -/
theorem Represents.accepts_iff {levels : Nat} {above : Finset (Fin n)} {value : PyObject n}
    (habove : ∀ id ∈ above, TransGen (Edge heap.next) (.container id) value) :
    ∀ {v : Json}, Represents heap value v →
      (Accepts heap levels above value ↔ Json.Sound v ∧ Json.depth v ≤ levels)
  | .null, h | .bool _, h | .int _, h => by
      rw [Represents] at h
      simp [h, Accepts, Json.Sound, Json.depth]
  | .float f, h => by
      rw [Represents] at h
      simp [h, Accepts, Json.Sound, Json.depth]
  | .str s, h => by
      rw [Represents] at h
      simp [h, Accepts, Json.Sound, Json.depth]
  -- a list: its items have one level less, and the list itself among their ancestors
  | .arr xs, h => by
      have hacyclic := h.acyclic
      rw [Represents] at h
      obtain ⟨id, items, rfl, hcell, hitems⟩ := h
      have hkeys : (heap id).keys = [] := by rcases hcell with hcell | hcell <;> rw [hcell] <;> rfl
      have hvalues : (heap id).values = items := by
        rcases hcell with hcell | hcell <;> rw [hcell] <;> rfl
      cases levels with
      | zero =>
          simp only [Accepts, Json.depth, false_iff, not_and]
          omega
      | succ levels =>
          have hinner : (∀ item ∈ items, Accepts heap levels (insert id above) item) ↔
              Json.SoundItems xs ∧ Json.depthItems xs ≤ levels :=
            RepresentsItems.accepts_iff (fun item hitem id' hid' => by
              have hedge : Edge heap.next (.container id) item := by
                simpa [Edge, Heap.next, hvalues] using hitem
              rcases Finset.mem_insert.mp hid' with rfl | hid'
              · exact .single hedge
              · exact (habove id' hid').tail hedge) hitems
          -- a decoded value has no cycle, so that the container is not above itself
          have hfresh : id ∉ above := fun hid => hacyclic (habove id hid)
          simp only [Accepts, hkeys, hvalues, hinner, Json.Sound, Json.depth, hfresh,
            not_false_eq_true, true_and, List.not_mem_nil, false_implies, implies_true]
          rw [Nat.add_comm 1, Nat.add_le_add_iff_right]
  -- a dict: the same for its values, and its keys are checked as well
  | .obj kvs, h => by
      have hacyclic := h.acyclic
      rw [Represents] at h
      obtain ⟨id, items, rfl, hcell, hitems⟩ := h
      have hkeys : (heap id).keys = items.map (·.1) := by rw [hcell]; rfl
      have hvalues : (heap id).values = items.map (·.2) := by rw [hcell]; rfl
      cases levels with
      | zero =>
          simp only [Accepts, Json.depth, false_iff, not_and]
          omega
      | succ levels =>
          have hinner : (∀ key ∈ items.map (·.1), CleanKey key) ∧
                (∀ item ∈ items.map (·.2), Accepts heap levels (insert id above) item) ↔
              Json.SoundPairs kvs ∧ Json.depthValues kvs ≤ levels :=
            RepresentsEntries.accepts_iff (fun entry hentry id' hid' => by
              have hedge : Edge heap.next (.container id) entry.2 := by
                simp only [Edge, Heap.next, hvalues, List.mem_map]
                exact ⟨entry, hentry, rfl⟩
              rcases Finset.mem_insert.mp hid' with rfl | hid'
              · exact .single hedge
              · exact (habove id' hid').tail hedge) hitems
          have hfresh : id ∉ above := fun hid => hacyclic (habove id hid)
          simp only [Accepts, hkeys, hvalues, hinner, Json.Sound, Json.depth, hfresh,
            not_false_eq_true, true_and]
          rw [Nat.add_comm 1, Nat.add_le_add_iff_right]
theorem RepresentsItems.accepts_iff {levels : Nat} {above : Finset (Fin n)}
    {items : List (PyObject n)}
    (habove : ∀ item ∈ items, ∀ id ∈ above, TransGen (Edge heap.next) (.container id) item) :
    ∀ {xs : List Json}, RepresentsItems heap items xs →
      ((∀ item ∈ items, Accepts heap levels above item) ↔
        Json.SoundItems xs ∧ Json.depthItems xs ≤ levels)
  | [], h => by
      rw [RepresentsItems] at h
      simp [h, Json.SoundItems, Json.depthItems]
  | x :: xs, h => by
      rw [RepresentsItems] at h
      obtain ⟨item, rest, rfl, hitem, hrest⟩ := h
      rw [List.forall_mem_cons, Represents.accepts_iff (habove item (by simp)) hitem,
        RepresentsItems.accepts_iff (fun item hmem => habove item (by simp [hmem])) hrest]
      simp only [Json.SoundItems, Json.depthItems, max_le_iff]
      tauto
theorem RepresentsEntries.accepts_iff {levels : Nat} {above : Finset (Fin n)}
    {items : List (DictKey × PyObject n)}
    (habove : ∀ entry ∈ items, ∀ id ∈ above, TransGen (Edge heap.next) (.container id) entry.2) :
    ∀ {kvs : List (PyStr × Json)}, RepresentsEntries heap items kvs →
      ((∀ key ∈ items.map (·.1), CleanKey key) ∧
          (∀ item ∈ items.map (·.2), Accepts heap levels above item) ↔
        Json.SoundPairs kvs ∧ Json.depthValues kvs ≤ levels)
  | [], h => by
      rw [RepresentsEntries] at h
      simp [h, Json.SoundPairs, Json.depthValues]
  | (k, v) :: kvs, h => by
      rw [RepresentsEntries] at h
      obtain ⟨item, rest, rfl, hitem, hrest⟩ := h
      have hkey : CleanKey (.str k) ↔ k.Clean := by simp [CleanKey]
      have hinner : (∀ key ∈ rest.map (·.1), CleanKey key) ∧
            (∀ item ∈ rest.map (·.2), Accepts heap levels above item) ↔
          Json.SoundPairs kvs ∧ Json.depthValues kvs ≤ levels :=
        RepresentsEntries.accepts_iff (fun entry hmem => habove entry (by simp [hmem])) hrest
      rw [List.map_cons, List.map_cons, List.forall_mem_cons, List.forall_mem_cons, hkey,
        Represents.accepts_iff (habove (.str k, item) (by simp)) hitem]
      simp only [Json.SoundPairs, Json.depthValues, max_le_iff]
      tauto
end

/-- The check of a decoded value is the check of its tree. -/
theorem decides_tree {value : PyObject n} {v : Json} (h : Represents heap value v)
    (max_depth : Nat) :
    Decides heap max_depth value (.ok ()) ↔ validateJsonStructure v max_depth = .ok () := by
  have haccept : Accepts heap max_depth ∅ value ↔ Json.Sound v ∧ Json.depth v ≤ max_depth :=
    h.accepts_iff (by simp)
  rw [validateJsonStructure_ok, ← haccept]
  rcases decides_cases heap max_depth value with ⟨haccept, hok⟩ | ⟨hreject, e, herror⟩
  · exact ⟨fun _ => haccept, fun _ => hok⟩
  · exact ⟨fun hok => absurd (Ends.unique hok herror) (by simp),
      fun haccept => absurd haccept hreject⟩

end JsonStructure

end EventPipeline.Guarantees
