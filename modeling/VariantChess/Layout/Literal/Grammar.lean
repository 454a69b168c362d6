import VariantChess.Layout.Literal.Lambda
import VariantChess.Layout.Literal.Template

/-!
# The grammar of expressions

Every rule is told by what the rules give for the expressions inside it (`Parse.Rules`); `Parse.rule` ties
them together. Alternatives are tried in order, and when faults are explained the alternatives that only
serve that come in between. `expression` reads a whole text.
-/

namespace VariantChess.Layout.Literal

namespace Parse

variable (rules : Rules)

/-! ### Conditions and names for values -/

/-- The names of what used to be called without brackets. -/
def bareCalls : List String := ["print", "exec"]

def isBareCall : Expression → Bool
  | .name s => bareCalls.contains s
  | _ => false

/-- A value that hangs on a condition. -/
def conditional : Parse Expression := do
  let _ ← rules .disjunction
  word "if"
  let _ ← rules .disjunction
  word "else"
  let _ ← rules .expression
  return .choice

/-- Explains what is amiss with an expression. -/
def explainExpression : Parse Expression := do
  explaining
  firstOf [
    do notAhead (firstOf [
         do let _ ← name
            let _ ← text
            return,
         softKeyword])
       let e ← rules .disjunction
       let _ ← quietly (firstOf [conditional rules, rules .disjunction, lambda rules])
       if isBareCall e || (← depth) = 0 then absent else refuse .forgottenComma,
    do let _ ← rules .disjunction
       word "if"
       let _ ← rules .disjunction
       notAhead (firstOf [word "else", mark ":"])
       refuse .missingElse]

/-- Expressions with commas between them, of which there may be one more; each may have a star. -/
def starredOrPlains : Parse Expression := do
  let first ← rules .starredOrPlain
  let others ← many do
    mark ","
    rules .starredOrPlain
  match ← optional (mark ","), others with
  | none, [] => return first
  | _, _ => return .tuple (first :: others)

/-- Explains that a name needs brackets to be called. -/
def explainBareCall : Parse Expression := do
  explaining
  let s ← name
  notAhead (mark "(")
  let _ ← starredOrPlains rules
  if bareCalls.contains s then refuse (.missingBrackets s) else absent

def expressionRule : Parse Expression :=
  firstOf [
    explainExpression rules, explainBareCall rules, conditional rules, rules .disjunction,
    lambda rules]

/-- A value that is given a name. -/
def assignment : Parse Expression := do
  let _ ← name
  mark ":="
  let _ ← rules .expression
  return .named

/-- An expression that is given no name behind it. -/
def unnamed : Parse Expression := do
  let e ← rules .expression
  notAhead (mark ":=")
  return e

/-- An expression, or one that is given a name. -/
def namedExpression : Parse Expression :=
  firstOf [
    assignment rules,
    do explaining
       rules .misnamed,
    unnamed rules]

/-- An expression with a star, or one that may be given a name. -/
def starredOrNamed : Parse Expression :=
  firstOf [
    do mark "*"
       return .starred (← rules (.binary 0)),
    namedExpression rules]

/-- Such expressions with commas between them, of which there may be one more. -/
def starredOrNameds : Parse (List Expression) := do
  let items ← separated (starredOrNamed rules)
  let _ ← optional (mark ",")
  return items

/-- Anything with a star, behind which there must be something. -/
def starredExpression : Parse Expression := do
  mark "*"
  match ← optional (rules .expression) with
  | some e => return .starred e
  | none => refuse .bareStar

def starredOrPlainRule : Parse Expression :=
  firstOf [
    do mark "*"
       return .starred (← rules (.binary 0)),
    rules .expression]

/-! ### Operators -/

/-- Two values or more with a word between them. -/
def joined (between : String) (part : Parse Expression) : Parse Expression := do
  let first ← part
  let others ← many do
    word between
    part
  return if others.isEmpty then first else .operation

def inversionRule (comparison : Parse Expression) : Parse Expression :=
  firstOf [
    do word "not"
       let _ ← rules .inversion
       return .operation,
    comparison]

/-- An operator of comparisons with the value behind it; says whether it asks for a member. -/
def comparedWith : Parse Bool :=
  let value : Parse Unit := do
    let _ ← rules (.binary 0)
    return
  let compared (operator : String) : Parse Bool := do
    mark operator
    value
    return false
  firstOf [
    compared "==", compared "!=", compared "<=", compared "<", compared ">=", compared ">",
    do word "not"
       word "in"
       value
       return false,
    do word "in"
       value
       return true,
    do word "is"
       word "not"
       value
       return false,
    do word "is"
       value
       return false]

/-- Values with operators of comparisons between them. -/
def comparison : Parse Expression := do
  let left ← rules (.binary 0)
  match ← many (comparedWith rules) with
  | [] => return left
  | isIn :: _ => return .comparison left isIn

/-- The operators between two values, from those that bind least on. -/
def operatorsAt : List (List String) :=
  [["|"], ["^"], ["&"], ["<<", ">>"], ["+", "-"], ["*", "/", "//", "%", "@"]]

def binaryRule (level : Nat) : Parse Expression := do
  let part := if level + 1 < operatorsAt.length then rules (.binary (level + 1)) else rules .factor
  let first ← part
  grow (fun left => firstOf ((operatorsAt.getD level []).map fun operator => do
    mark operator
    let right ← part
    return if level = 4 then .sum left right else .operation)) first

def factorRule : Parse Expression :=
  let sign (s : String) (make : Expression → Expression) : Parse Expression := do
    mark s
    return make (← rules .factor)
  firstOf [
    sign "+" .signed, sign "-" .signed, sign "~" fun _ => .operation,
    do let _ ← rules .awaitable
       mark "**"
       let _ ← rules .factor
       return .operation,
    rules .awaitable]

def awaitableRule : Parse Expression :=
  firstOf [
    do word "await"
       let _ ← rules .primary
       return .awaited,
    rules .primary]

/-! ### What is made from the members of something else -/

/-- What members can be given to: one target, or some with commas between them. -/
def targets : Parse Unit :=
  firstOf [
    do let _ ← rules .target
       notAhead (mark ","),
    do let _ ← separated (rules .target)
       let _ ← optional (mark ",")
       return]

/-- Explains that members cannot be given to an expression. -/
def explainTargets : Parse Unit := do
  explaining
  let _ ← optional (word "async")
  word "for"
  match (← starredOrPlains rules).refusedTarget? with
  | some e => refuse (.badTarget e.label)
  | none => absent

/-- Where members come from, and the conditions on them. -/
def source : Parse Unit := do
  let start : Parse Unit := do
    word "for"
    targets rules
    word "in"
  let asynchronous : Parse Unit := do
    word "async"
    start
  match ← optional (firstOf [asynchronous, start]) with
  | none => explainTargets rules
  | some () => do
    let _ ← rules .disjunction
    let _ ← many do
      word "if"
      rules .disjunction
    return

def sources : Parse Unit := do
  let _ ← oneOrMore (source rules)
  return

/-- Explains what is amiss with something made from members behind one of these brackets. -/
def explainComprehension (brackets : List String) : Parse Expression := do
  explaining
  firstOf [
    do oneOf brackets
       let _ ← starredExpression rules
       sources rules
       refuse .starredSource,
    do oneOf (brackets.filter (· ≠ "("))
       let _ ← starredOrNamed rules
       mark ","
       let _ ← starredOrNameds rules
       sources rules
       refuse .bareTarget,
    do oneOf (brackets.filter (· ≠ "("))
       let _ ← starredOrNamed rules
       mark ","
       sources rules
       refuse .bareTarget]

/-- The brackets that such a thing can stand in. -/
def brackets : List String := ["[", "(", "\x7b"]

/-- Members in brackets, worked out one by one. -/
def generator : Parse Expression :=
  firstOf [
    do mark "("
       let _ ← firstOf [assignment rules, unnamed rules]
       sources rules
       mark ")"
       return .comprehension "generator expression",
    explainComprehension rules brackets]

/-! ### Arguments of calls -/

/-- An argument without a name. -/
def plainArgument : Parse Unit := do
  let _ ← firstOf [
    starredExpression rules,
    do let e ← firstOf [assignment rules, unnamed rules]
       notAhead (mark "=")
       return e]
  return

/-- Explains what is amiss with an argument that has a name. -/
def explainNamedArgument : Parse Expression := do
  explaining
  firstOf [
    do let constants := ["True", "False", "None"].map fun s => do
         word s
         return s
       let s ← firstOf constants
       mark "="
       refuse (.assignedConstant s),
    do let _ ← name
       mark "="
       let _ ← rules .expression
       sources rules
       refuse .assigned,
    do notAhead do
         let _ ← name
         mark "="
       let _ ← rules .expression
       mark "="
       refuse .assignedArgument]

/-- An argument that has a name. -/
def namedArgument : Parse Expression := do
  let _ ← name
  mark "="
  let _ ← rules .expression
  return .named

/-- Arguments with names, those with one star among them, and then those with two. -/
def namedArguments : Parse Expression :=
  let single : Parse Expression :=
    firstOf [explainNamedArgument rules, namedArgument rules, starredExpression rules]
  let double : Parse Expression :=
    firstOf [
      explainNamedArgument rules, namedArgument rules,
      do mark "**"
         return .entry none (← rules .expression)]
  let result (arguments : List Expression) : Expression :=
    let count (p : Expression → Bool) : Nat := (arguments.filter p).length
    .arguments
      (count fun e => match e with
        | .starred _ => true
        | _ => false)
      (count (fun e => match e with
        | .entry .. => true
        | _ => false) != 0)
  firstOf [
    do let singles ← separated single
       mark ","
       return result (singles ++ (← separated double)),
    do return result (← separated single),
    do return result (← separated double)]

/-- Arguments, first those without names. -/
def arguments : Parse Expression :=
  firstOf [
    do let plain ← separated (plainArgument rules)
       let named ← optional do
         mark ","
         namedArguments rules
       match named with
       | some (.arguments positional unpacks) =>
         return .arguments (plain.length + positional) unpacks
       | _ => return .arguments plain.length false,
    namedArguments rules]

/-- Explains what is amiss with arguments. -/
def explainArguments : Parse Expression := do
  explaining
  firstOf [
    do let _ ← arguments rules
       mark ","
       mark "*"
       refuse .starAfterUnpacking,
    do let _ ← rules .expression
       sources rules
       mark ","
       let _ ← optional (firstOf [
         do let _ ← arguments rules
            return,
         do let _ ← rules .expression
            sources rules])
       refuse .bareGenerator,
    do let _ ← name
       mark "="
       let _ ← rules .expression
       sources rules
       refuse .assigned,
    do let found ← arguments rules
       sources rules
       match found with
       | .arguments positional _ => if 1 < positional then refuse .bareGenerator else absent
       | _ => absent,
    do let _ ← arguments rules
       mark ","
       let _ ← rules .expression
       sources rules
       refuse .bareGenerator,
    do let found ← arguments rules
       mark ","
       let _ ← arguments rules
       match found with
       | .arguments _ true => refuse .plainAfterUnpacking
       | _ => refuse .plainAfterNamed]

def argumentsRule : Parse Expression :=
  firstOf [
    do let found ← arguments rules
       let _ ← optional (mark ",")
       ahead (mark ")")
       return found,
    explainArguments rules]

/-! ### Values -/

/-- Brackets with arguments. -/
def calledWith : Parse (Option Expression) := do
  mark "("
  let found ← optional (rules .arguments)
  mark ")"
  return found

def primaryRule (atom : Parse Expression) : Parse Expression := do
  let first ← atom
  grow (fun e => firstOf [
    do mark "."
       let _ ← name
       return .field,
    do let _ ← generator rules
       return .call e false,
    do let found ← calledWith rules
       return .call e found.isNone]) first

/-- Looks through texts one behind the other; `before` is the one before them. -/
def checkTexts (before : Option Token) : List Token → Parse Unit
  | [] => return
  | t :: ts => do
    let ofBytes : Token → Bool
      | .text ofBytes _ => ofBytes
      | _ => false
    match t with
    | .text _ (some fault) => refuse fault
    | _ => if before.any fun e => ofBytes e != ofBytes t then refuse .mixedTexts
    match t with
    | .template raw line text => template rules raw line text.toList
    | _ => pure ()
    checkTexts t ts

/-- Texts one behind the other. -/
def texts : Parse Expression := do
  let found ← oneOrMore text
  checkTexts rules none found
  let isTemplate : Token → Bool
    | .template .. => true
    | _ => false
  return if found.any isTemplate then .template else .text

/-- A tuple in brackets. -/
def tuple : Parse Expression := do
  mark "("
  let items ← optional do
    let first ← starredOrNamed rules
    mark ","
    return first :: ((← optional (starredOrNameds rules)).getD [])
  mark ")"
  return .tuple (items.getD [])

/-- What a function hands out in between. -/
def yielding : Parse Expression := do
  word "yield"
  let _ ← firstOf [
    do word "from"
       let _ ← rules .expression
       return,
    do let _ ← optional (starredOrPlains rules)
       return]
  return .yielded

/-- An expression in brackets. -/
def group : Parse Expression :=
  firstOf [
    do mark "("
       let e ← firstOf [yielding rules, namedExpression rules]
       mark ")"
       return e,
    do explaining
       mark "("
       let _ ← starredExpression rules
       mark ")"
       refuse .starred,
    do explaining
       mark "("
       mark "**"
       let _ ← rules .expression
       mark ")"
       refuse .doublyStarred]

/-- A key and its value. -/
def keyAndValue : Parse Expression := do
  let key ← rules .expression
  mark ":"
  return .entry (some key) (← rules .expression)

/-- An entry of a mapping. -/
def entry : Parse Expression :=
  firstOf [
    do mark "**"
       return .entry none (← rules (.binary 0)),
    keyAndValue rules]

/-- Explains what is amiss behind the colon of an entry. -/
def explainValue : Parse Unit := do
  let _ ← rules .expression
  mark ":"
  firstOf [
    do mark "*"
       let _ ← rules (.binary 0)
       refuse .starredValue,
    do ahead (oneOf ["\x7d", ","])
       refuse .missingValue]

/-- Explains what is amiss with the entries of a mapping. This is done at once, before faults inside them
are explained. -/
def explainEntries : Parse Unit :=
  firstOf [
    do let _ ← separated (entry rules)
       mark ","
       firstOf [
         do let _ ← rules .expression
            notAhead (mark ":")
            refuse .missingColon,
         explainValue rules],
    explainValue rules]

/-- A mapping. -/
def mapping : Parse Expression :=
  firstOf [
    do mark "\x7b"
       let entries ← optional do
         let entries ← separated (entry rules)
         let _ ← optional (mark ",")
         return entries
       mark "\x7d"
       return .mapping ((entries.getD []).filterMap fun e => match e with
         | .entry key value => some (key, value)
         | _ => none),
    do mark "\x7b"
       explainEntries rules
       absent]

/-- A set. -/
def set : Parse Expression := do
  mark "\x7b"
  let items ← starredOrNameds rules
  mark "\x7d"
  return .set items

/-- A mapping made from members. -/
def mappingComprehension : Parse Expression :=
  firstOf [
    do mark "\x7b"
       let _ ← keyAndValue rules
       sources rules
       mark "\x7d"
       return .comprehension "dict comprehension",
    do explaining
       mark "\x7b"
       mark "**"
       let _ ← rules (.binary 0)
       sources rules
       mark "\x7d"
       refuse .unpackedSource]

/-- A set made from members. -/
def setComprehension : Parse Expression :=
  firstOf [
    do mark "\x7b"
       let _ ← namedExpression rules
       sources rules
       mark "\x7d"
       return .comprehension "set comprehension",
    explainComprehension rules brackets]

/-- A value that is put together by no operator. -/
def atom : Parse Expression := do
  match (← next).token with
  | .name s =>
    if ["True", "False", "None"].contains s then do
      advance
      return .constant s
    else do return .name (← name)
  | .text .. | .template .. => texts rules
  | .number imaginary => do
    advance
    return .number imaginary
  | .mark "(" => firstOf [tuple rules, group rules, generator rules]
  | .mark "\x7b" =>
    firstOf [mapping rules, set rules, mappingComprehension rules, setComprehension rules]
  | .mark "..." => do
    advance
    return .dots
  | _ => absent

/-- Explains what is amiss with a name for a value. -/
def misnamedRule : Parse Expression :=
  firstOf [
    do let e ← rules .expression
       mark ":="
       let _ ← rules .expression
       refuse (.namedBy e.label),
    do let _ ← name
       mark "="
       let _ ← rules (.binary 0)
       notAhead (oneOf ["=", ":="])
       refuse .assigned,
    do notAhead (firstOf [
         tuple rules, generator rules,
         firstOf (["True", "None", "False"].map fun s => do
           word s
           return .constant s)])
       let e ← rules (.binary 0)
       mark "="
       let _ ← rules (.binary 0)
       notAhead (oneOf ["=", ":="])
       refuse (.assignedTo e.label)]

/-! ### Targets -/

def targetRule : Parse Expression :=
  firstOf [
    do mark "*"
       notAhead (mark "*")
       return .starred (← rules .target),
    rules .plainTarget]

/-- What goes on from the owner of a target. -/
def owned : Parse Unit := oneOf ["(", "[", "."]

/-- Targets in brackets. -/
def bracketedTargets : Parse Expression := do
  mark "("
  let items ← optional (firstOf [
    do let first ← rules .target
       let others ← oneOrMore do
         mark ","
         rules .target
       let _ ← optional (mark ",")
       return first :: others,
    do let first ← rules .target
       mark ","
       return [first]])
  mark ")"
  return .tuple (items.getD [])

def plainTargetRule : Parse Expression :=
  firstOf [
    do let _ ← rules .targetOwner
       mark "."
       let _ ← name
       notAhead owned
       return .field,
    do return .name (← name),
    do mark "("
       let e ← rules .plainTarget
       mark ")"
       return e,
    bracketedTargets rules]

def targetOwnerRule : Parse Expression := do
  let first ← atom rules
  ahead owned
  grow (fun e => do
    let e ← firstOf [
      do mark "."
         let _ ← name
         return .field,
      do let _ ← generator rules
         return .call e false,
      do let found ← calledWith rules
         return .call e found.isNone]
    ahead owned
    return e) first

/-! ### All rules -/

/-- What a rule gives if the rules inside it give this. -/
def body : Rule → Parse Expression
  | .expression => expressionRule rules
  | .starredOrPlain => starredOrPlainRule rules
  | .disjunction => joined "or" (rules .conjunction)
  | .conjunction => joined "and" (rules .inversion)
  | .inversion => inversionRule rules (comparison rules)
  | .binary level => binaryRule rules level
  | .factor => factorRule rules
  | .awaitable => awaitableRule rules
  | .primary => primaryRule rules (atom rules)
  | .arguments => argumentsRule rules
  | .misnamed => misnamedRule rules
  | .target => targetRule rules
  | .plainTarget => plainTargetRule rules
  | .targetOwner => targetOwnerRule rules
  | .embedded line text => embedded line text (starredOrPlains rules)

/-- What a rule gives. The first argument bounds how deep rules stand inside each other. -/
def rule : Nat → Rules
  | 0 => fun _ => absent
  | depth + 1 => fun r => remember r (body (rule depth) r)

/-- Expressions with commas between them, and then nothing but ends of lines. -/
def whole : Parse Expression := do
  let first ← rules .expression
  let others ← many do
    mark ","
    rules .expression
  let comma ← optional (mark ",")
  let _ ← many (token .lineEnd)
  token .finish
  return if others.isEmpty && comma.isNone then first else .tuple (first :: others)

end Parse

/-- The text with the ends of all lines spelled alike. -/
def withLineFeeds : List Char → List Char
  | [] => []
  | '\r' :: '\n' :: cs => '\n' :: withLineFeeds cs
  | c :: cs => (if c = '\r' then '\n' else c) :: withLineFeeds cs

/-- The expression that a text is. No character leads more than a few rules deeper. -/
def expression (text : List Char) : Except Fault Expression :=
  (tokens 1 (withLineFeeds text)).read (Parse.whole (Parse.rule (100 * (text.length + 6))))

end VariantChess.Layout.Literal
