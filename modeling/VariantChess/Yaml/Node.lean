import VariantChess.Yaml.Token

/-!
# Nodes

The nodes that tokens spell: scalars, lists and mappings, each with its kind. They are numbered in the
order in which they begin, and refer to one another by number, so that a reference to an anchor is the
node of the anchor itself, even inside that node. `Graph.ofText` gives the nodes of the one document that
a text may hold.
-/

namespace VariantChess.Yaml

inductive Node where
  | scalar (kind : Kind) (text : List Char)
  | list (kind : Kind) (items : List Nat)
  | mapping (kind : Kind) (entries : List (Nat × Nat))
deriving Repr

namespace Node

/-- The node that stands where nothing is written. -/
def empty : Node := .scalar .null []

def kind : Node → Kind
  | scalar kind _ => kind
  | list kind _ => kind
  | mapping kind _ => kind

/-- The entries of a mapping; other nodes have none. -/
def entries : Node → List (Nat × Nat)
  | mapping _ entries => entries
  | _ => []

end Node

/-- The nodes of a document by number. -/
abbrev Graph := Array Node

/-- The node of a number. -/
def Graph.node (g : Graph) (id : Nat) : Node := g.getD id .empty

/-- The scan of the text that is left, with the nodes, handles and anchors of the document so far. -/
structure Supply where
  scan : Scan
  graph : Graph := #[]
  handles : List (String × String) := []
  anchors : List (String × Nat) := []

/-- A step that takes tokens from the supply. -/
abbrev Assembly := StateT Supply (Except Fault)

namespace Assembly

/-- The handles that need no directive. -/
def standardHandles : List (String × String) := [("!", "!"), ("!!", Kind.family)]

def refuse {α : Type} : Assembly α := fun _ => .error .malformed

/-- The next token; nothing at the end of the text. -/
def peek : Assembly (Option Token) := fun s =>
  s.scan.fill.map fun scan => (scan.pending.head?, { s with scan })

/-- Takes the next token. -/
def drop : Assembly Unit := fun s => .ok ((), { s with scan := s.scan.take })

/-- Whether the next token passes a test. -/
def nextIs (p : Token → Bool) : Assembly Bool := do return (← peek).any p

/-- Adds a node, and gives its number. -/
def add (n : Node) : Assembly Nat := fun s => .ok (s.graph.size, { s with graph := s.graph.push n })

/-- Puts a node in the place of another one. -/
def replace (id : Nat) (n : Node) : Assembly Unit := fun s =>
  .ok ((), { s with graph := s.graph.setIfInBounds id n })

/-! ### Anchors and tags -/

/-- Says which node an anchor names, if there is one. -/
def assign (anchor : Option String) (id : Nat) : Assembly Unit := fun s =>
  .ok ((), { s with anchors := (anchor.map fun name => (name, id)).toList ++ s.anchors })

/-- The node that an anchor names. -/
def named (name : String) : Assembly Nat := fun s =>
  match s.anchors.lookup name with
  | some id => .ok (id, s)
  | none => .error .malformed

/-- The anchor at the front of the tokens. -/
def takeAnchor : Assembly (Option String) := do
  match ← peek with
  | some (.anchor name) =>
    drop
    return some name
  | _ => return none

/-- The tag at the front of the tokens. -/
def takeTag : Assembly (Option WrittenTag) := do
  match ← peek with
  | some (.tag t) =>
    drop
    return some t
  | _ => return none

/-- The whole of a tag, its handle replaced by what it stands for. -/
def wholeTag (t : WrittenTag) : Assembly String := do
  match t.handle with
  | none => return t.suffix
  | some handle =>
    match (← get).handles.lookup handle with
    | some start => return start ++ t.suffix
    | none => refuse

/-- The anchor and the tag of a node, which stand before it in either order. -/
def properties : Assembly (Option String × Option String) := do
  let (anchor, tag) ← match ← takeAnchor with
    | some name => pure (some name, ← takeTag)
    | none =>
      match ← takeTag with
      | some tag => pure (← takeAnchor, some tag)
      | none => pure (none, none)
  match tag with
  | none => return (anchor, none)
  | some tag => return (anchor, some (← wholeTag tag))

/-- Refuses an anchor whose name is taken. -/
def checkAnchor (anchor : Option String) : Assembly Unit := do
  let s ← get
  if anchor.any fun name => (s.anchors.lookup name).isSome then refuse else return

/-- The kind of a collection: the lone exclamation mark leaves it as it is. -/
def kindOf (usual : Kind) : Option String → Kind
  | none => usual
  | some tag => if tag = "!" then usual else .ofTag tag

/-- The kind of a scalar; one with the lone exclamation mark is read like a plain one. -/
def scalarKind (plain : Bool) (text : List Char) : Option String → Kind
  | none => if plain then .ofPlain text else .text
  | some tag => if tag = "!" then .ofPlain text else .ofTag tag

/-! ### Tests -/

def endsBlock : Token → Bool
  | .blockEnd => true
  | _ => false

def isItem : Token → Bool
  | .item => true
  | _ => false

/-- Whether the token begins an entry of a mapping, or its value. -/
def isEntry : Token → Bool
  | .key | .value => true
  | _ => false

def isValue : Token → Bool
  | .value => true
  | _ => false

def isComma : Token → Bool
  | .comma => true
  | _ => false

def isKey : Token → Bool
  | .key => true
  | _ => false

def closesBracket : Token → Bool
  | .closeBracket => true
  | _ => false

def closesBrace : Token → Bool
  | .closeBrace => true
  | _ => false

def startsDocument : Token → Bool
  | .documentStart => true
  | _ => false

/-- Whether the token stands before a document or behind one. -/
def isOutside : Token → Bool
  | .directive _ | .documentStart | .documentEnd => true
  | _ => false

/-! ### Nodes -/

/-- Adds a node that is no collection. -/
def addScalar (anchor : Option String) (kind : Kind) (text : List Char) : Assembly Nat := do
  checkAnchor anchor
  let id ← add (.scalar kind text)
  assign anchor id
  return id

/-- Adds a list, whose anchor may be used in its items already. -/
def addList (anchor : Option String) (kind : Kind) (items : Assembly (List Nat)) : Assembly Nat := do
  checkAnchor anchor
  let id ← add (.list kind [])
  assign anchor id
  replace id (.list kind (← items))
  return id

/-- Adds a mapping, whose anchor may be used in its entries already. -/
def addMapping (anchor : Option String) (kind : Kind) (entries : Assembly (List (Nat × Nat))) :
    Assembly Nat := do
  checkAnchor anchor
  let id ← add (.mapping kind [])
  assign anchor id
  replace id (.mapping kind (← entries))
  return id

/-- Adds the node that stands where nothing is written. -/
def addEmpty : Assembly Nat := add .empty

mutual

/-- The node at the front of the tokens. `block` says whether it may be a block, and `loose` whether it
may be a sequence whose items stand in the column of the surrounding mapping. The first argument bounds
the depth, here and below. -/
def node : Nat → Bool → Bool → Assembly Nat
  | 0, _, _ => refuse
  | depth + 1, block, loose => do
    match ← peek with
    | some (.reference name) =>
      drop
      named name
    | _ =>
      let (anchor, tag) ← properties
      let list := addList anchor (kindOf .list tag)
      let mapping := addMapping anchor (kindOf .mapping tag)
      match ← peek, block, loose with
      | some (.scalar plain text), _, _ =>
        drop
        addScalar anchor (scalarKind plain text tag) text
      | some .openBracket, _, _ =>
        list do
          drop
          flowItems depth true
      | some .openBrace, _, _ =>
        mapping do
          drop
          flowEntries depth true
      | some .item, _, true => list (looseItems depth)
      | some .sequenceStart, true, _ =>
        list do
          drop
          blockItems depth
      | some .mappingStart, true, _ =>
        mapping do
          drop
          blockEntries depth
      | _, _, _ =>
        if anchor.isSome || tag.isSome then addScalar anchor (scalarKind true [] tag) []
        else refuse

/-- The node at the front of the tokens, unless a token that ends it at once is there. -/
def nodeUnless : Nat → (Token → Bool) → Bool → Bool → Assembly Nat
  | 0, _, _, _ => refuse
  | depth + 1, ends, block, loose => do
    if ← nextIs ends then addEmpty else node depth block loose

/-- The value behind a key, if there is one. -/
def valueUnless : Nat → (Token → Bool) → Bool → Assembly Nat
  | 0, _, _ => refuse
  | depth + 1, ends, block => do
    if ← nextIs isValue then
      drop
      nodeUnless depth ends block block
    else addEmpty

/-- The items of a block up to its end. -/
def blockItems : Nat → Assembly (List Nat)
  | 0 => refuse
  | depth + 1 => do
    match ← peek with
    | some .item =>
      drop
      let item ← nodeUnless depth (fun t => isItem t || endsBlock t) true false
      return item :: (← blockItems depth)
    | some .blockEnd =>
      drop
      return []
    | _ => refuse

/-- The items that stand in the column of a mapping. -/
def looseItems : Nat → Assembly (List Nat)
  | 0 => refuse
  | depth + 1 => do
    if ← nextIs isItem then
      drop
      let item ← nodeUnless depth (fun t => isItem t || isEntry t || endsBlock t) true false
      return item :: (← looseItems depth)
    else return []

/-- The entries of a block up to its end. -/
def blockEntries : Nat → Assembly (List (Nat × Nat))
  | 0 => refuse
  | depth + 1 => do
    match ← peek with
    | some .key =>
      drop
      let ends (t : Token) : Bool := isEntry t || endsBlock t
      let key ← nodeUnless depth ends true true
      let value ← valueUnless depth ends true
      return (key, value) :: (← blockEntries depth)
    | some .blockEnd =>
      drop
      return []
    | _ => refuse

/-- The items between brackets; one with a key is a mapping of this entry. -/
def flowItems : Nat → Bool → Assembly (List Nat)
  | 0, _ => refuse
  | depth + 1, first => do
    if ← nextIs closesBracket then
      drop
      return []
    else
      if !first then if ← nextIs isComma then drop else refuse
      if ← nextIs isKey then
        drop
        let ends (t : Token) : Bool := isComma t || closesBracket t
        let key ← nodeUnless depth (fun t => isValue t || ends t) false false
        let value ← valueUnless depth ends false
        let item ← add (.mapping .mapping [(key, value)])
        return item :: (← flowItems depth false)
      else if ← nextIs closesBracket then
        drop
        return []
      else
        let item ← node depth false false
        return item :: (← flowItems depth false)

/-- The entries between braces; one without a colon has no value. -/
def flowEntries : Nat → Bool → Assembly (List (Nat × Nat))
  | 0, _ => refuse
  | depth + 1, first => do
    if ← nextIs closesBrace then
      drop
      return []
    else
      if !first then if ← nextIs isComma then drop else refuse
      if ← nextIs isKey then
        drop
        let ends (t : Token) : Bool := isComma t || closesBrace t
        let key ← nodeUnless depth (fun t => isValue t || ends t) false false
        let value ← valueUnless depth ends false
        return (key, value) :: (← flowEntries depth false)
      else if ← nextIs closesBrace then
        drop
        return []
      else
        let key ← node depth false false
        return (key, ← addEmpty) :: (← flowEntries depth false)

end

/-! ### Documents -/

/-- Takes the directives before a document. `versioned` says whether one was about the version. -/
def directives : Nat → Bool → Assembly Unit
  | 0, _ => refuse
  | n + 1, versioned => do
    match ← peek with
    | some (.directive d) =>
      drop
      match d with
      | .version major => if versioned || major ≠ 1 then refuse else directives n true
      | .handle handle start =>
        let s ← get
        if (s.handles.lookup handle).isSome then refuse
        else
          set { s with handles := s.handles ++ [(handle, start)] }
          directives n versioned
      | .other => directives n versioned
    | _ => return

/-- Takes the handles and the mark in front of a document that is set apart. -/
def heading (bound : Nat) : Assembly Unit := do
  directives bound false
  if ← nextIs startsDocument then drop else refuse

/-- Takes the marks behind a document, behind which nothing may follow. -/
def finish (bound : Nat) : Nat → Assembly Unit
  | 0 => refuse
  | n + 1 => do
    match ← peek with
    | some .documentEnd =>
      drop
      finish bound n
    | some _ =>
      modify fun s => { s with handles := [] }
      heading bound
      refuse
    | none => return

/-- The content of the one document, which is nothing in an empty text. -/
def document (bound : Nat) : Assembly (Option Nat) := do
  match ← peek with
  | none => return none
  | some (.directive _) | some .documentStart =>
    heading bound
    modify fun s => { s with handles := s.handles ++ standardHandles }
    let n ← if (← peek).all isOutside then addEmpty else node bound true false
    finish bound bound
    return some n
  | some _ =>
    modify fun s => { s with handles := standardHandles }
    let n ← node bound true false
    finish bound bound
    return some n

end Assembly

/-- The nodes that a text spells, and the number of the outermost one; nothing if there is none. -/
def Graph.ofText (text : List Char) : Except Fault (Option (Graph × Nat)) :=
  ((Assembly.document (32 * text.length + 32)).run { scan := .start text }).map fun (root, s) =>
    root.map fun root => (s.graph, root)

end VariantChess.Yaml
