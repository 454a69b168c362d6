import VariantChess.Yaml.Value

/-!
# Documents

The value of the document that a text holds, with the values that its nodes refer to in their places.
A list or mapping that holds itself is shown with dots where it comes again, and unfolded a few times.
`Yaml.read` reads a text; an empty one is null. A text is looked through for characters that no document
may hold part by part, so a fault before the part of such a character counts first.
-/

namespace VariantChess.Yaml

/-- The values of the nodes of a document. -/
abbrev Values := Array (Option Value)

namespace Values

variable (values : Values)

/-- The value of a node. -/
def value (id : Nat) : Value := (values.getD id none).getD (.scalar .null)

/-- The nodes that a value holds. -/
def parts : Value → List Nat
  | .scalar _ | .set _ => []
  | .list items => items
  | .mapping entries => entries.map (·.2)
  | .pairs items => items.flatMap fun p => [p.1, p.2]

/-- Whether a node is among those that can be reached, of which `seen` have been looked at already. The
first argument bounds the number of steps. -/
def reaches (target : Nat) : Nat → Array Bool → List Nat → Bool
  | 0, _, _ => false
  | _ + 1, _, [] => false
  | steps + 1, seen, id :: ids =>
    if id = target then true
    else if seen.getD id true then reaches target steps seen ids
    else reaches target steps (seen.setIfInBounds id true) (parts (values.value id) ++ ids)

/-- The number of places in which nodes are held. -/
def partCount : Nat :=
  (values.toList.map fun v => (v.map fun v => (parts v).length).getD 0).foldl (· + ·) 0

/-- Whether a list or mapping holds itself. -/
def holdsItself (id : Nat) : Bool :=
  values.reaches id (values.partCount + 1) (.replicate values.size false) (parts (values.value id))

/-- The text of a value inside lists and mappings, which are shown with dots if they come again. The
first argument bounds the depth. -/
def shownIn : Nat → List Nat → Nat → String
  | 0, _, _ => ""
  | depth + 1, outer, id =>
    let inside := shownIn depth (id :: outer)
    let again := outer.contains id
    match values.value id with
    | .scalar d => d.shown
    | .set members => (Datum.set members).shown
    | .list items => if again then "[...]" else "[" ++ ", ".intercalate (items.map inside) ++ "]"
    | .pairs items =>
      let pair (p : Nat × Nat) : String := "(" ++ inside p.1 ++ ", " ++ inside p.2 ++ ")"
      if again then "[...]" else "[" ++ ", ".intercalate (items.map pair) ++ "]"
    | .mapping entries =>
      let entry (e : Datum × Nat) : String := e.1.shown ++ ": " ++ inside e.2
      if again then "\x7b...\x7d" else "\x7b" ++ ", ".intercalate (entries.map entry) ++ "\x7d"

/-- What the value of a node is when `inside` gives the values that it holds. -/
def content (inside : Nat → Datum) : Value → Datum
  | .scalar d => d
  | .set members => .set members
  | .list items => .list (items.map inside)
  | .pairs items => .list (items.map fun p => .pair (inside p.1) (inside p.2))
  | .mapping entries => .mapping (entries.map fun e => (e.1, inside e.2))

/-- The value of a node with those that it holds. Lists and mappings that hold themselves are unfolded at
most `turns` times. The first argument bounds the depth. -/
def unfold : Nat → Nat → Nat → Datum
  | 0, _, _ => .null
  | depth + 1, turns, id =>
    if values.holdsItself id then
      let shown := values.shownIn (values.size + 2) [] id
      match turns with
      | 0 => .knot shown .null
      | turns + 1 => .knot shown (content (unfold depth turns) (values.value id))
    else content (unfold depth turns) (values.value id)

/-- How often lists and mappings that hold themselves are unfolded; no reader looks deeper. -/
def unfoldings : Nat := 4

end Values

/-- The value of the document that a text holds. -/
def document (text : List Char) : Except Fault Datum :=
  match Graph.ofText text with
  | .error fault => .error fault
  | .ok none => .ok .null
  | .ok (some (g, root)) =>
    (g.values root).map fun values =>
      Values.unfold values ((values.size + 1) * (Values.unfoldings + 1)) Values.unfoldings root

/-! ### Texts -/

/-- Whether the character may stand in a document at all. -/
def isAllowed (c : Char) : Bool :=
  let n := c.toNat
  n = 9 || n = 10 || (32 ≤ n && n ≤ 126) || n = 0x85 || (0xA0 ≤ n && n ≠ 0xFFFE && n ≠ 0xFFFF)

/-- The text with one line feed for every line break that is one. -/
def normalised : List Char → List Char
  | [] => []
  | '\r' :: '\n' :: cs => '\n' :: normalised cs
  | c :: cs => (if c = '\r' || c = '\x85' then '\n' else c) :: normalised cs

/-- The number of characters of a part of a text; the first one is twice as long. -/
def partLength : Nat := 4096

/-- The number of characters in the parts before that of the character of a number. -/
def partStart (index : Nat) : Nat :=
  if index < 2 * partLength then 0 else index / partLength * partLength

/-- The value of the document that a text holds; nothing but a number that belongs to no character is
found in the parts before one that holds a character which is not allowed. -/
def read (text : List Char) : Except Fault Datum :=
  let text := normalised text
  match text.findIdx? fun c => !isAllowed c with
  | none => document text
  | some index =>
    match document (text.take (partStart index)) with
    | .error (.noCharacter code) => .error (.noCharacter code)
    | _ => .error .malformed

end VariantChess.Yaml
