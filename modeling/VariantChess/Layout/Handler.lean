import VariantChess.Layout.Literal.Value
import VariantChess.Text.Character
import VariantChess.Text.Quoted

/-!
# Handlers

A tag whose name begins with `@` names what handles a click: behind an equals sign stand the name of a
handler with its arguments in brackets, or arguments alone. The arguments must be a literal. A name without
arguments has an empty tuple of them.
-/

namespace VariantChess.Layout

/-- Why what stands behind the equals sign is refused. -/
inductive HandlerFault where
  /-- The arguments, a part of the whole text, are no expression. -/
  | malformed (arguments whole : String) (fault : Literal.Fault)
  /-- The arguments are no literal. -/
  | noLiteral (whole : String) (fault : Literal.ValueFault)
  /-- The text holds a character that no expression can hold. -/
  | hasNul (whole : String)
  /-- The arguments hold halves of characters. -/
  | hasHalves (whole : String) (halves : Text.StrayHalves)
deriving DecidableEq, Repr

def HandlerFault.message : HandlerFault → String
  | malformed arguments whole fault =>
    s!"error parsing {Text.quote arguments} in {Text.quote whole}; {fault.message}"
  | noLiteral whole fault => s!"error parsing {Text.quote whole}; {fault.message}"
  | hasNul whole =>
    s!"error parsing {Text.quote whole}; source code string cannot contain null bytes"
  | hasHalves whole halves => s!"error parsing {Text.quote whole}; {halves.message}"

/-- The arguments in a text without blanks at its ends: those behind the name of a handler, all of the text if
it does not begin so. -/
def handlerArguments (text : List Char) : List Char :=
  let behind := text.dropWhile fun c => Text.isWordChar c || c = '.'
  if behind.isEmpty then ['(', ')']
  else if behind.head? == some '(' && 2 ≤ behind.length && behind.getLast? == some ')' &&
      !behind.contains '\n' then behind
  else text

/-- Looks through what stands behind the equals sign of a handler's tag. -/
def checkHandler (text : List Char) : Except HandlerFault Unit := do
  if text.isEmpty then return
  let whole := String.ofList text
  let arguments := handlerArguments (Text.strip text)
  match Text.strayHalves? (fun _ => false) 0 (arguments.map Text.code) with
  | some halves => .error (.hasHalves whole halves)
  | none => pure ()
  if arguments.contains '\x00' then .error (.hasNul whole)
  let e ← (Literal.expression arguments).mapError (.malformed (String.ofList arguments) whole)
  let _ ← e.value.mapError (.noLiteral whole)

end VariantChess.Layout
