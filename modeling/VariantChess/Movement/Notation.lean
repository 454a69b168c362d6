import VariantChess.Movement.Rule
import VariantChess.Text.Digit
import VariantChess.Text.Quoted

/-!
# Movement notation

A piece is a list of rules separated by commas. A rule is modifiers, a distance, headings, groups in
parentheses and, behind a point, the rule that goes on:

    piece    = rule { "," rule }
    rule     = { modifier } distance { heading } { [ "," ] "(" rule ")" } [ "." rule ]
    modifier = "i" | "c" | "o" | "&" | "~" | "^"
    distance = "n" | number | number "-" number | number "/" number
    heading  = "X>" | "X<" | "X" | "*" | "+" | ">" | "<" | "="

A comma in front of a parenthesis goes with the group. `readRule` and `readRules` return what they
leave unread; `compileRule` and `compilePiece` accept a text that is read to its end.
-/

namespace VariantChess.Movement

/-- Why a text is no movement notation. -/
inductive Fault where
  | empty
  | headingAfterLeap
  | unclosedGroup
  | noDirection
  | contradiction
  | noDistance
  | noSecondNumber (separator : Char)
  | emptyLeap
  | emptyRange
  | zeroDistance
  | unexpected (c : Char)
deriving DecidableEq, Repr

def Fault.message : Fault → String
  | empty => "Empty movement notation"
  | headingAfterLeap => "Hippogonal distance takes no direction tokens"
  | unclosedGroup => "Unbalanced group, expected ')'"
  | noDirection => "Missing direction"
  | contradiction => "Capture-only and no-capture are contradictory"
  | noDistance => "Expected distance"
  | noSecondNumber separator => s!"Expected number after {Text.quote separator.toString}"
  | emptyLeap => "Hippogonal legs must be positive"
  | emptyRange => "Invalid distance range"
  | zeroDistance => "Distance must be positive"
  | unexpected c => s!"Unexpected character {Text.quote c.toString}"

/-- What a reader gives: mostly a value and the characters behind it, or else a refusal. -/
abbrev Reading := Except (Refusal Fault)

/-! ### Distances and headings -/

/-- The number at the front of the text, if there is a digit. -/
def readNumber? (cs : List Char) : Reading (Option (Nat × List Char)) :=
  match cs.takeWhile Text.isDigit with
  | [] => .ok none
  | digits =>
    match Text.number digits with
    | .ok n => .ok (some (n, cs.dropWhile Text.isDigit))
    | .error fault => .error (.number fault)

/-- The distance whose first number is `first`; `cs` is the text from that number on and `rest` the
text behind it. -/
def readDistanceFrom (cs : List Char) (first : Nat) (rest : List Char) : Reading (Distance × List Char) :=
  match rest with
  | '-' :: rest => do
    match ← readNumber? rest with
    | none => .error (.fault (.noSecondNumber '-') rest.length)
    | some (second, rest) =>
      if first < 1 || second < first then .error (.fault .emptyRange cs.length)
      else .ok (.range first second, rest)
  | '/' :: rest => do
    match ← readNumber? rest with
    | none => .error (.fault (.noSecondNumber '/') rest.length)
    | some (second, rest) =>
      if first < 1 || second < 1 then .error (.fault .emptyLeap cs.length)
      else .ok (.hippogonal first second, rest)
  | rest =>
    if first < 1 then .error (.fault .zeroDistance cs.length) else .ok (.exact first, rest)

def readDistance : List Char → Reading (Distance × List Char)
  | 'n' :: rest => .ok (.any, rest)
  | cs => do
    match ← readNumber? cs with
    | none => .error (.fault .noDistance cs.length)
    | some (first, rest) => readDistanceFrom cs first rest

/-- The headings at the front of the text; a diagonal takes the sign behind it. -/
def readHeadings : List Char → List Heading × List Char
  | 'X' :: '>' :: rest => let (hs, rest) := readHeadings rest; (.diagonalForward :: hs, rest)
  | 'X' :: '<' :: rest => let (hs, rest) := readHeadings rest; (.diagonalBackward :: hs, rest)
  | 'X' :: rest => let (hs, rest) := readHeadings rest; (.diagonal :: hs, rest)
  | '*' :: rest => let (hs, rest) := readHeadings rest; (.all :: hs, rest)
  | '+' :: rest => let (hs, rest) := readHeadings rest; (.orthogonal :: hs, rest)
  | '>' :: rest => let (hs, rest) := readHeadings rest; (.forward :: hs, rest)
  | '<' :: rest => let (hs, rest) := readHeadings rest; (.backward :: hs, rest)
  | '=' :: rest => let (hs, rest) := readHeadings rest; (.sideways :: hs, rest)
  | cs => ([], cs)

/-! ### Rules -/

def isModifier (c : Char) : Bool := ['i', 'c', 'o', '&', '~', '^'].contains c

/-- The leg that the modifiers and the distance of a rule describe. -/
def Leg.ofModifiers (modifiers : List Char) (distance : Distance) : Leg where
  distance := distance
  ride := if modifiers.contains '&' then some .any else none
  initial := modifiers.contains 'i'
  captureOnly := modifiers.contains 'c'
  noCapture := modifiers.contains 'o'
  leaper := modifiers.contains '~'
  locust := modifiers.contains '^'

/-- The headings of a rule: a leap has its own and takes no others. -/
def headingsFor (distance : Distance) (headings : List Heading) : Option (List Heading) :=
  match distance with
  | .hippogonal _ _ => if headings.isEmpty then some [.hippogonal] else none
  | _ => some headings

/-- The text behind the parenthesis that opens a group, if one is next. -/
def openGroup? : List Char → Option (List Char)
  | '(' :: rest => some rest
  | ',' :: '(' :: rest => some rest
  | _ => none

mutual

/-- Reads one rule. The first argument bounds the depth; more than the length of the text is enough,
since every rule takes a distance and every group a parenthesis. -/
def readRule : Nat → List Char → Reading (Rule × List Char)
  | 0, cs => .error (.fault .noDistance cs.length)
  | depth + 1, cs => do
    let modifiers := cs.takeWhile isModifier
    let (distance, rest) ← readDistance (cs.dropWhile isModifier)
    let (headings, rest) := readHeadings rest
    match headingsFor distance headings with
    | none => .error (.fault .headingAfterLeap rest.length)
    | some headings =>
      let (groups, rest) ← readGroups depth rest
      if headings.isEmpty && groups.isEmpty then .error (.fault .noDirection rest.length)
      else if modifiers.contains 'c' && modifiers.contains 'o' then
        .error (.fault .contradiction cs.length)
      else
        let leg := Leg.ofModifiers modifiers distance
        let directions := headings.map .heading ++ groups.map .group
        match rest with
        | '.' :: rest => do
          let (next, rest) ← readRule depth rest
          .ok (.mk leg directions (some next), rest)
        | rest => .ok (.mk leg directions none, rest)

/-- Reads the groups at the front of the text. -/
def readGroups : Nat → List Char → Reading (List Rule × List Char)
  | 0, cs => .ok ([], cs)
  | depth + 1, cs =>
    match openGroup? cs with
    | none => .ok ([], cs)
    | some rest => do
      let (rule, rest) ← readRule depth rest
      match rest with
      | ')' :: rest => do
        let (rules, rest) ← readGroups depth rest
        .ok (rule :: rules, rest)
      | rest => .error (.fault .unclosedGroup rest.length)

end

/-- Reads rules as long as a comma goes on. -/
def readRules : Nat → List Char → Reading (List Rule × List Char)
  | 0, cs => .error (.fault .noDistance cs.length)
  | depth + 1, cs => do
    let (rule, rest) ← readRule (depth + 1) cs
    match rest with
    | ',' :: rest => do
      let (rules, rest) ← readRules depth rest
      .ok (rule :: rules, rest)
    | rest => .ok ([rule], rest)

/-! ### Whole texts -/

/-- Accepts what was read if nothing is left. -/
def toEnd {α : Type} : α × List Char → Reading α
  | (a, []) => .ok a
  | (_, c :: rest) => .error (.fault (.unexpected c) (rest.length + 1))

/-- Reads a whole text, which must not be empty. -/
def compileWith {α : Type} (read : Nat → List Char → Reading (α × List Char)) (text : String) :
    Except (NotationError Fault) α :=
  match text.toList with
  | [] => .error (.malformed .empty "" none)
  | cs => ((read (cs.length + 1) cs).bind toEnd).mapError (Refusal.within cs)

/-- The rule that a text describes. -/
def compileRule (text : String) : Except (NotationError Fault) Rule := compileWith readRule text

/-- The rules of the piece that a text describes. -/
def compilePiece (text : String) : Except (NotationError Fault) (List Rule) :=
  compileWith readRules text

end VariantChess.Movement
