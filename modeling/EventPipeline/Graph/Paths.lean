import Mathlib.Data.Set.Finite.Basic
import Mathlib.Logic.Relation
import Mathlib.Order.WellFounded
import Mathlib.Data.Fintype.Order

/-!
# EventPipeline.Graph.Paths

Directed graphs given by the successors of each node: reachability, cycles and the paths
that end in a leaf. A graph may share nodes and have cycles. Where finitely many nodes have
successors and no cycle is reachable, every node is the start of a path to a leaf
(`exists_leafPath`).
-/

namespace EventPipeline.Graph

open Relation

variable {α : Type} (next : α → List α)

/-- `w` is a successor of `v`. -/
def Edge (v w : α) : Prop := w ∈ next v

/-- `w` can be reached from `v`. -/
abbrev Reaches (v w : α) : Prop := ReflTransGen (Edge next) v w

/-- `v` is its own ancestor. -/
abbrev OnCycle (v : α) : Prop := TransGen (Edge next) v v

/-- A path from a node down to a leaf. -/
inductive LeafPath : α → List α → Prop
  | leaf {v : α} : next v = [] → LeafPath v [v]
  | step {v w : α} {path : List α} : w ∈ next v → LeafPath w path → LeafPath v (v :: path)

variable {next}

theorem Reaches.step {v w u : α} (h : Reaches next v w) (hu : u ∈ next w) : Reaches next v u :=
  h.tail hu

/-- From a node that reaches no cycle there is a path to a leaf. -/
theorem exists_leafPath (hfinite : {w | next w ≠ []}.Finite) {v : α}
    (hacyclic : ∀ w, Reaches next v w → ¬ OnCycle next w) : ∃ path, LeafPath next v path := by
  let Inner := {w // next w ≠ [] ∧ Reaches next v w}
  have : Finite Inner := (hfinite.subset fun w hw => hw.1 : {w | next w ≠ [] ∧
    Reaches next v w}.Finite)
  let below : Inner → Inner → Prop := fun a b => TransGen (Edge next) b.1 a.1
  have : IsTrans Inner below := ⟨fun a b c hab hbc => hbc.trans hab⟩
  have : Std.Irrefl below := ⟨fun a ha => hacyclic a.1 a.2.2 ha⟩
  have hwf : WellFounded below := Finite.wellFounded_of_trans_of_irrefl below
  -- from an inner node go to its first successor
  have hinner : ∀ w : Inner, ∃ path, LeafPath next w.1 path := by
    intro w
    induction w using hwf.induction with
    | _ w ih =>
        obtain ⟨u, rest, hnext⟩ := List.exists_cons_of_ne_nil w.2.1
        have hu : u ∈ next w.1 := by simp [hnext]
        by_cases hleaf : next u = []
        · exact ⟨[w.1, u], .step hu (.leaf hleaf)⟩
        · obtain ⟨path, hpath⟩ := ih ⟨u, hleaf, Reaches.step w.2.2 hu⟩ (.single hu)
          exact ⟨w.1 :: path, .step hu hpath⟩
  by_cases hleaf : next v = []
  · exact ⟨[v], .leaf hleaf⟩
  · exact hinner ⟨v, hleaf, .refl⟩

end EventPipeline.Graph
