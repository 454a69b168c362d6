/-!
# Expressions

What a text that should be a literal is found to be. As much of an expression is kept as its value, or a
message about it, hangs on.
-/

namespace VariantChess.Layout.Literal

inductive Expression where
  | number (imaginary : Bool)
  | text
  /-- A text with expressions in it. -/
  | template
  /-- A constant that has a name. -/
  | constant (name : String)
  | dots
  | name (s : String)
  | tuple (items : List Expression)
  /-- A mapping; a value without a key is another mapping, whose entries it takes over. -/
  | mapping (entries : List (Option Expression × Expression))
  | set (items : List Expression)
  /-- A value behind a plus or minus sign. -/
  | signed (operand : Expression)
  /-- Two values with a plus or minus sign between them. -/
  | sum (left right : Expression)
  | operation
  /-- A comparison; `isIn` says whether its first operator asks for a member. -/
  | comparison (left : Expression) (isIn : Bool)
  | choice
  | call (callee : Expression) (isEmpty : Bool)
  | field
  | starred (e : Expression)
  | named
  | lambda
  | awaited
  | yielded
  /-- What is made from the members of something else, in brackets of a kind. -/
  | comprehension (kind : String)
  /-- An entry of a mapping. -/
  | entry (key : Option Expression) (value : Expression)
  /-- Arguments of a call: how many have no name, and whether a mapping of named ones is among them. -/
  | arguments (positional : Nat) (unpacks : Bool)
deriving Repr, Inhabited

namespace Expression

/-- What messages call the expression. -/
def label : Expression → String
  | number _ | text => "literal"
  | template => "f-string expression"
  | constant word => word
  | dots => "ellipsis"
  | name _ => "name"
  | tuple _ => "tuple"
  | mapping _ | entry .. => "dict literal"
  | set _ => "set display"
  | signed _ | sum .. | operation => "expression"
  | comparison .. => "comparison"
  | choice => "conditional expression"
  | call .. | arguments .. => "function call"
  | field => "attribute"
  | starred _ => "starred"
  | named => "named expression"
  | lambda => "lambda"
  | awaited => "await expression"
  | yielded => "yield expression"
  | comprehension kind => kind

mutual

/-- The part of an expression to which no member of something else can be given. -/
def refusedTarget? : Expression → Option Expression
  | tuple items => refusedAmong? items
  | starred e => refusedTarget? e
  | comparison left true => refusedTarget? left
  | comparison _ false | name _ | field => none
  | e => some e

/-- The first such part of some expressions. -/
def refusedAmong? : List Expression → Option Expression
  | [] => none
  | e :: es => (refusedTarget? e).or (refusedAmong? es)

end

end Expression

end VariantChess.Layout.Literal
