import VariantChess.Scatter
import VariantChess.Yaml.Merge

/-!
# Values of nodes

The nodes of a document are given their values in turns. A scalar has its value as soon as it is met; a
list or mapping waits, and what it holds is met when its turn comes, in the order in which the waiting
were met. So of several faults that of the outermost node counts, and every node has one value, however
often it is referred to. `Valuation.ofGraph` values a whole document.
-/

namespace VariantChess.Yaml

/-- The value of a node; what collections hold is given by the numbers of nodes. -/
inductive Value where
  | scalar (d : Datum)
  | list (items : List Nat)
  | mapping (entries : List (Datum × Nat))
  | set (members : List Datum)
  | pairs (items : List (Nat × Nat))
deriving Repr

/-- What is known while values are given. -/
structure Valuation where
  graph : Graph
  values : Array (Option Value)
  /-- The collections whose turn has not come. -/
  waiting : List Nat := []

/-- A step in the valuation of a document. -/
abbrev Valuing := StateT Valuation (Except Fault)

/-- A key of a mapping: its value, and the node that it is. -/
structure Key where
  node : Nat
  datum : Datum

namespace Valuing

/-- The text that stands for a node where a scalar is needed; for a mapping that of its own key. The
first argument bounds the depth. -/
def ownText? (g : Graph) : Nat → Nat → Option (List Char)
  | 0, _ => none
  | depth + 1, id =>
    match g.node id with
    | .scalar _ text => some text
    | .list .. => none
    | .mapping _ entries =>
      match entries.find? fun e => (g.node e.1).kind == .ownKey with
      | some e => ownText? g depth e.2
      | none => none

/-- Whether a node is no scalar. -/
def isCollection : Node → Bool
  | .scalar .. => false
  | _ => true

/-- The value of a node of a scalar's kind. -/
def scalarValue (g : Graph) (id : Nat) : Except Fault Datum :=
  let kind := (g.node id).kind
  match ownText? g (g.size + 1) id with
  | none => .error .malformed
  | some text =>
    if kind == .time && isCollection (g.node id) then .error .timeOfMapping else kind.read text

def setValue (id : Nat) (value : Value) : Valuing Unit := fun s =>
  .ok ((), { s with values := s.values.setIfInBounds id (some value) })

def enqueue (id : Nat) : Valuing Unit := fun s => .ok ((), { s with waiting := s.waiting ++ [id] })

/-- The collection without content that a node of the kind is at first. -/
def emptyOf? : Kind → Option Value
  | .list => some (.list [])
  | .mapping => some (.mapping [])
  | .set => some (.set [])
  | .pairs => some (.pairs [])
  | _ => none

/-- Gives a node its value, or an empty one that waits, unless it has been met before. -/
def meet (id : Nat) : Valuing Unit := do
  let s ← get
  match s.values.getD id none with
  | some _ => return
  | none =>
    match emptyOf? (s.graph.node id).kind with
    | some value =>
      setValue id value
      enqueue id
    | none => setValue id (.scalar (← scalarValue s.graph id))

/-- Meets a node as a key, which must be a scalar. -/
def meetKey (id : Nat) : Valuing Key := do
  meet id
  match (← get).values.getD id none with
  | some (.scalar d) => return ⟨id, d⟩
  | _ => throw .malformed

/-- Meets the entries of a mapping in their order. -/
def meetEntries : List (Nat × Nat) → Valuing (List (Key × Nat))
  | [] => return []
  | (key, value) :: entries => do
    let key ← meetKey key
    meet value
    return (key, value) :: (← meetEntries entries)

/-- Meets the pairs of a list, each of which is a mapping of one entry. -/
def meetPairs : List Nat → Valuing (List (Nat × Nat))
  | [] => return []
  | id :: ids => do
    match (← get).graph.entries id with
    | [(key, value)] =>
      meet key
      meet value
      return (key, value) :: (← meetPairs ids)
    | _ => throw .malformed

/-- Whether two keys are the same. -/
def isSame (a b : Key) : Bool := a.node == b.node || Datum.sameKey a.datum b.datum

/-- The entries with `value` under `key`: in the place of an entry with the same key, else at the end. -/
def putEntry (key : Key) (value : Nat) : List (Key × Nat) → List (Key × Nat)
  | [] => [(key, value)]
  | e :: rest => if isSame e.1 key then (e.1, value) :: rest else e :: putEntry key value rest

/-- The entries of a mapping, each under a key of its own. -/
def entriesOf (id : Nat) : Valuing (List (Key × Nat)) := do
  let s ← get
  match s.graph.node id with
  | .mapping .. =>
    set { s with graph := ← s.graph.merged id }
    let entries ← meetEntries ((← get).graph.entries id)
    return entries.foldl (fun entries e => putEntry e.1 e.2 entries) []
  | _ => throw .malformed

/-- Gives a collection its content. -/
def complete (id : Nat) : Valuing Unit := do
  let s ← get
  match s.values.getD id none, s.graph.node id with
  | some (.list _), .list _ items =>
    for item in items do meet item
    setValue id (.list items)
  | some (.mapping _), _ =>
    setValue id (.mapping ((← entriesOf id).map fun e => (e.1.datum, e.2)))
  | some (.set _), _ => setValue id (.set (scattered ((← entriesOf id).map fun e => e.1.datum)))
  | some (.pairs _), .list _ items => setValue id (.pairs (← meetPairs items))
  | _, _ => throw .malformed

/-- Completes the collections that wait, at most so many. -/
def completeAll : Nat → Valuing Unit
  | 0 => return
  | turns + 1 => do
    let s ← get
    match s.waiting with
    | [] => return
    | id :: waiting =>
      set { s with waiting }
      complete id
      completeAll turns

end Valuing

/-- The values of the nodes that the outermost one leads to. -/
def Graph.values (g : Graph) (root : Nat) : Except Fault (Array (Option Value)) :=
  ((do
    Valuing.meet root
    Valuing.completeAll g.size : Valuing Unit).run
      { graph := g, values := .replicate g.size none }).map fun (_, s) => s.values

end VariantChess.Yaml
