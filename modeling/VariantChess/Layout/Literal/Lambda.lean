import VariantChess.Layout.Literal.Parse

/-!
# Parameters of functions

The parameters of a function without a name: some without a default value, then some with one, a slash behind
those that are given by their place alone, a star before those that are given by name alone, and two stars
before the one that takes all further names. `parameters` reads them and explains what is amiss.
-/

namespace VariantChess.Layout.Literal

namespace Parse

variable (rules : Rules)

/-- A comma, or a colon ahead. -/
def parameterEnd : Parse Unit := firstOf [mark ",", ahead (mark ":")]

/-- A parameter without a default value. -/
def plainParameter : Parse Unit := do
  let _ ← name
  parameterEnd

/-- The default value of a parameter. -/
def defaultValue : Parse Unit :=
  firstOf [
    do mark "="
       let _ ← rules .expression
       return,
    do explaining
       mark "="
       ahead (oneOf [")", ","])
       refuse .missingDefault]

/-- A parameter with a default value. -/
def defaultParameter : Parse Unit := do
  let _ ← name
  defaultValue rules
  parameterEnd

/-- A parameter with or without a default value. -/
def anyParameter : Parse Unit := do
  let _ ← name
  let _ ← optional (defaultValue rules)
  parameterEnd

/-- Parameters without default values up to a slash. -/
def plainBeforeSlash : Parse Unit := do
  let _ ← oneOrMore plainParameter
  mark "/"
  parameterEnd

/-- Parameters of which the last have default values up to a slash. -/
def defaultBeforeSlash : Parse Unit := do
  let _ ← many plainParameter
  let _ ← oneOrMore (defaultParameter rules)
  mark "/"
  parameterEnd

/-- Explains what is amiss with the parameter behind two stars. -/
def explainNamedRest : Parse Unit := do
  explaining
  mark "**"
  let _ ← name
  firstOf [
    do mark "="
       refuse .defaultOfNamedRest,
    do mark ","
       let _ ← name
       refuse .parameterAfterRest,
    do mark ","
       oneOf ["*", "**", "/"]
       refuse .parameterAfterRest]

/-- The parameter behind two stars. -/
def namedRest : Parse Unit :=
  firstOf [
    explainNamedRest,
    do mark "**"
       plainParameter]

/-- Explains what is amiss from a star on. -/
def explainStar : Parse Unit := do
  explaining
  mark "*"
  firstOf [
    do mark ":"
       refuse .nothingAfterStar,
    do mark ","
       oneOf [":", "**"]
       refuse .nothingAfterStar,
    do let _ ← name
       mark "="
       refuse .defaultOfRest,
    do firstOf [plainParameter, mark ","]
       let _ ← many (anyParameter rules)
       mark "*"
       firstOf [plainParameter, mark ","]
       refuse .repeatedStar]

/-- The parameters from a star on. -/
def afterStar : Parse Unit :=
  firstOf [
    explainStar rules,
    do mark "*"
       plainParameter
       let _ ← many (anyParameter rules)
       let _ ← optional namedRest
       return,
    do mark "*"
       mark ","
       let _ ← oneOrMore (anyParameter rules)
       let _ ← optional namedRest
       return,
    namedRest]

/-- Explains what is amiss with parameters. -/
def explainParameters : Parse Unit := do
  explaining
  let beforeSlash : Parse Unit := firstOf [plainBeforeSlash, defaultBeforeSlash rules]
  firstOf [
    do let _ ← many plainParameter
       firstOf [defaultBeforeSlash rules, do
         let _ ← oneOrMore (defaultParameter rules)
         return]
       plainParameter
       refuse .plainAfterDefault,
    do let _ ← many plainParameter
       mark "("
       let _ ← separated name
       let _ ← optional (mark ",")
       mark ")"
       refuse .bracketedParameters,
    do mark "/"
       mark ","
       refuse .nothingBeforeSlash,
    do beforeSlash
       let _ ← many (anyParameter rules)
       mark "/"
       refuse .repeatedSlash,
    do let _ ← optional beforeSlash
       let _ ← many (anyParameter rules)
       mark "*"
       firstOf [mark ",", plainParameter]
       let _ ← many (anyParameter rules)
       mark "/"
       refuse .slashAfterStar,
    do let _ ← oneOrMore (anyParameter rules)
       mark "/"
       mark "*"
       refuse .noCommaAfterSlash]

/-- The parameters of a function. -/
def parameters : Parse Unit :=
  let rest : Parse Unit := do
    let _ ← optional (afterStar rules)
    return
  let defaults : Parse Unit := do
    let _ ← many (defaultParameter rules)
    rest
  firstOf [
    explainParameters rules,
    do plainBeforeSlash
       let _ ← many plainParameter
       defaults,
    do defaultBeforeSlash rules
       defaults,
    do let _ ← oneOrMore plainParameter
       defaults,
    do let _ ← oneOrMore (defaultParameter rules)
       rest,
    afterStar rules]

/-- A function without a name. -/
def lambda : Parse Expression := do
  word "lambda"
  let _ ← optional (parameters rules)
  mark ":"
  let _ ← rules .expression
  return .lambda

end Parse

end VariantChess.Layout.Literal
