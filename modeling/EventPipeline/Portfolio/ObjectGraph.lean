import EventPipeline.Graph.Paths
import EventPipeline.Portfolio.EventEnvelope
import Mathlib.Data.Finset.Insert

/-!
# EventPipeline.Portfolio.ObjectGraph

`validate_json_structure` of `portfolio/event_envelope.py` on Python objects.

A decoded JSON text is a tree, and `EventEnvelope.validateJsonStructure` is the check of a
tree. The function itself takes any object: dicts, lists and tuples refer to one another by
identity, so they may be shared and may contain themselves. Here the containers are the
cells of a finite `Heap`, `id()` is the index of a cell, and the check is the loop of the
source, with its stack of entries and its set of active containers.
-/

namespace EventPipeline.Portfolio

open EventPipeline.Python

/-! ### Objects

Containers have an identity and may be shared or refer to themselves. A heap says what each of
them holds; strings, floats and other objects have no identity that matters. -/

/-- An object: `other` is one that is no string, no float and no container. -/
inductive PyObject (n : Nat)
  | str (s : PyStr)
  | float (f : PyFloat)
  | container (id : Fin n)
  | other
  deriving DecidableEq

/-- A key of a dict. -/
inductive DictKey
  | str (s : PyStr)
  | other

/-- What a container holds, in the order of its iteration. -/
inductive Container (n : Nat)
  | dict (items : List (DictKey × PyObject n))
  | list (items : List (PyObject n))
  | tuple (items : List (PyObject n))

/-- The containers of a program, by identity. -/
abbrev Heap (n : Nat) := Fin n → Container n

/-- The objects a container refers to. -/
def Container.values {n : Nat} : Container n → List (PyObject n)
  | .dict items => items.map (·.2)
  | .list items => items
  | .tuple items => items

/-- The keys of a dict. -/
def Container.keys {n : Nat} : Container n → List DictKey
  | .dict items => items.map (·.1)
  | _ => []

/-- The objects an object refers to. -/
def Heap.next {n : Nat} (heap : Heap n) : PyObject n → List (PyObject n)
  | .container id => (heap id).values
  | _ => []

/-- `isinstance(current, (dict, list, tuple))`. -/
def PyObject.isContainer {n : Nat} : PyObject n → Bool
  | .container _ => true
  | _ => false

/-! ### The loop -/

/-- What the loop can raise: a `ValueError`, or the `KeyError` of `set.remove`. -/
inductive Raised
  | error (e : PyExc)
  | keyError
  deriving DecidableEq

/-- An entry of the stack: `current`, `parent_depth` and `exiting`. -/
abbrev StackEntry (n : Nat) := PyObject n × Nat × Bool

/-- `stack`, its last element first, and `active_containers`. -/
structure TraversalState (n : Nat) where
  stack : List (StackEntry n)
  active_containers : Finset (Fin n)

section Loop

variable {n : Nat}

/-- A check that raises a `ValueError`. -/
def raising : Except PyExc Unit → Except Raised Unit
  | .ok u => .ok u
  | .error e => .error (.error e)

/-- The checks of one key. -/
def checkDictKey : DictKey → Except PyExc Unit
  | .str key => checkText key
  | .other => .error (ValueError "JSON object keys must be strings")

/-- The loop over `current.items()`. -/
def pushEntries (depth : Nat) :
    List (DictKey × PyObject n) → List (StackEntry n) → Except Raised (List (StackEntry n))
  | [], stack => .ok stack
  | (key, item) :: rest, stack => do
      raising (checkDictKey key)
      pushEntries depth rest ((item, depth, false) :: stack)

/-- The loop over a list or a tuple. -/
def pushItems (depth : Nat) (items : List (PyObject n)) (stack : List (StackEntry n)) :
    List (StackEntry n) :=
  items.foldl (fun stack item => (item, depth, false) :: stack) stack

/-- What entering a container pushes. -/
def pushContainer (depth : Nat) (stack : List (StackEntry n)) :
    Container n → Except Raised (List (StackEntry n))
  | .dict items => pushEntries depth items stack
  | .list items => .ok (pushItems depth items stack)
  | .tuple items => .ok (pushItems depth items stack)

/-- One pass of the loop, after the pop of an entry. -/
def visitEntry (heap : Heap n) (max_depth : Nat) (state : TraversalState n) :
    StackEntry n → Except Raised (TraversalState n)
  | (.str s, _, _) => do
      raising (checkText s)
      return state
  | (.float f, _, _) => do
      raising (if f.isFinite then .ok () else .error (ValueError "JSON numbers must be finite"))
      return state
  | (.other, _, _) => return state
  | (.container id, _, true) =>
      if id ∈ state.active_containers then
        return { state with active_containers := state.active_containers.erase id }
      else .error .keyError
  | (.container id, parent_depth, false) => do
      let depth := parent_depth + 1
      raising (checkDepth max_depth depth)
      raising (if id ∈ state.active_containers then
          .error (ValueError "JSON values must not contain circular references")
        else .ok ())
      let stack ← pushContainer depth ((.container id, parent_depth, true) :: state.stack) (heap id)
      return ⟨stack, insert id state.active_containers⟩

/-- The loop, for a number of passes; `none` where they do not suffice. -/
def runTraversal (heap : Heap n) (max_depth : Nat) :
    Nat → TraversalState n → Option (Except Raised Unit)
  | 0, _ => none
  | _ + 1, ⟨[], _⟩ => some (.ok ())
  | fuel + 1, ⟨entry :: stack, active_containers⟩ =>
      match visitEntry heap max_depth ⟨stack, active_containers⟩ entry with
      | .error e => some (.error e)
      | .ok state => runTraversal heap max_depth fuel state

/-- The state before the first pass. -/
def TraversalState.start (value : PyObject n) : TraversalState n := ⟨[(value, 0, false)], ∅⟩

/-- `validate_json_structure(value, max_depth=max_depth)` ends with an outcome. -/
def Decides (heap : Heap n) (max_depth : Nat) (value : PyObject n) (outcome : Except Raised Unit) :
    Prop :=
  ∃ fuel, runTraversal heap max_depth fuel (.start value) = some outcome

end Loop

end EventPipeline.Portfolio
