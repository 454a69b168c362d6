import VariantChess.Layout.Literal.Grammar

/-!
# Values of literals

A literal is an expression whose value can be told without working anything out: numbers, which may have a
sign and an imaginary part, texts, constants, and tuples, sets and mappings of these. Keys of mappings and
members of sets must be neither mappings nor sets nor hold any.
-/

namespace VariantChess.Layout.Literal

/-- What of a value decides whether it can be a key. -/
inductive Value where
  | key
  | other (kind : String)
deriving DecidableEq, Repr

/-- Looks whether a value can be a key. -/
def Value.check : Value → Except ValueFault Unit
  | key => .ok ()
  | other kind => .error (.unhashable kind)

/-- The value of a tuple of these. -/
def Value.tuple (values : List Value) : Value :=
  (values.find? fun v => v != .key).getD .key

namespace Expression

/-- Whether the expression is a number, with a sign if `signs` allows one. -/
def isNumber (signs : Bool) (imaginary : Option Bool) : Expression → Bool
  | number i => imaginary.all (· == i)
  | signed e => signs && isNumber false imaginary e
  | _ => false

mutual

/-- The value of an expression. -/
def value : Expression → Except ValueFault Value
  | number _ | text | constant _ | dots => .ok .key
  | tuple items => (values items).map Value.tuple
  | set items => (members items).map fun _ => .other "set"
  | mapping entries => (entryValues entries).map fun _ => .other "dict"
  | call (.name "set") true => .ok (.other "set")
  | signed e => if e.isNumber false none then .ok .key else .error .malformed
  | sum left right =>
    if left.isNumber true (some false) && right.isNumber false (some true) then .ok .key
    else .error .malformed
  | _ => .error .malformed

/-- The values of expressions. -/
def values : List Expression → Except ValueFault (List Value)
  | [] => .ok []
  | e :: es => do
    let v ← value e
    return v :: (← values es)

/-- Gives the members of a set their values, each of which must do as a key. -/
def members : List Expression → Except ValueFault Unit
  | [] => .ok ()
  | e :: es => do
    let v ← value e
    v.check
    members es

/-- Gives the entries of a mapping their values; each key must do as one. -/
def entryValues : List (Option Expression × Expression) → Except ValueFault Unit
  | [] => .ok ()
  | (none, _) :: _ => .error .noKey
  | (some key, e) :: es => do
    let k ← value key
    let _ ← value e
    k.check
    entryValues es

end

end Expression

end VariantChess.Layout.Literal
