/-!
# Faults of literals

What can be amiss with a text that should be a literal, with its wording. `Fault` are faults of spelling;
what is spelled well may still be no literal, which `ValueFault` says.
-/

namespace VariantChess.Layout.Literal

/-- The base of a number, as messages name it. -/
inductive Radix where
  | binary
  | octal
  | decimal
  | hexadecimal
  | imaginary
deriving DecidableEq, Repr

def Radix.label : Radix → String
  | binary => "binary"
  | octal => "octal"
  | decimal => "decimal"
  | hexadecimal => "hexadecimal"
  | imaginary => "imaginary"

/-- What is amiss with a text that has expressions in it. -/
inductive TemplateFault where
  /-- A brace closes none. -/
  | strayBrace
  /-- An expression does not end as it has to. -/
  | unclosed
  | empty
  /-- An expression is missing before the character. -/
  | emptyBefore (c : Char)
  | backslash
  | comment
  /-- A text in an expression does not end. -/
  | unterminated
  | unmatched (bracket : Char)
  | mismatched (closing opening : Char)
  | tooManyBrackets
  /-- An expression stands too deep in the layouts of others. -/
  | tooDeep
  | badConversion
deriving DecidableEq, Repr

def TemplateFault.message : TemplateFault → String
  | strayBrace => "f-string: single '\x7d' is not allowed"
  | unclosed => "f-string: expecting '\x7d'"
  | empty => "f-string: empty expression not allowed"
  | emptyBefore c => s!"f-string: expression required before '{c}'"
  | backslash => "f-string expression part cannot include a backslash"
  | comment => "f-string expression part cannot include '#'"
  | unterminated => "f-string: unterminated string"
  | unmatched bracket => s!"f-string: unmatched '{bracket}'"
  | mismatched closing opening =>
    s!"f-string: closing parenthesis '{closing}' does not match opening parenthesis '{opening}'"
  | tooManyBrackets => "f-string: too many nested parenthesis"
  | tooDeep => "f-string: expressions nested too deeply"
  | badConversion => "f-string: invalid conversion character: expected 's', 'r', or 'a'"

inductive Fault where
  | malformed
  /-- A bracket is open at the end. -/
  | unclosed (bracket : Char)
  | unmatched (bracket : Char)
  /-- A bracket closes one of another kind, which stands on the line of the number, if that is another. -/
  | mismatched (closing opening : Char) (line : Option Nat)
  | tooDeep
  /-- A text in quotes, single or triple ones, does not end; it should have on the line of the number. -/
  | unterminated (triple : Bool) (line : Nat)
  | badNumber (radix : Radix)
  | badDigit (digit : Char) (radix : Radix)
  | leadingZeros
  | badCharacter (c : Char) (hex : String)
  | badHiddenCharacter (hex : String)
  /-- A backslash does not end its line. -/
  | badContinuation
  | endAfterContinuation
  | indented
  | mixedTexts
  | badByte
  /-- An escape in a text, from a place to another one, is wrong. -/
  | badEscape (start last : Nat) (reason : String)
  | badByteEscape (place : Nat)
  | forgottenComma
  | missingElse
  | missingBrackets (name : String)
  | assigned
  | assignedTo (what : String)
  | namedBy (what : String)
  | starred
  | doublyStarred
  | bareStar
  | starredValue
  | missingValue
  | missingColon
  | bareTarget
  | starredSource
  | unpackedSource
  | bareGenerator
  | badTarget (what : String)
  /-- A constant is used as the name of an argument. -/
  | assignedConstant (name : String)
  | assignedArgument
  | starAfterUnpacking
  | plainAfterUnpacking
  | plainAfterNamed
  | missingDefault
  | plainAfterDefault
  | bracketedParameters
  | nothingBeforeSlash
  | repeatedSlash
  | slashAfterStar
  | noCommaAfterSlash
  | nothingAfterStar
  | defaultOfRest
  | repeatedStar
  | defaultOfNamedRest
  | parameterAfterRest
  | template (fault : TemplateFault)
  /-- A fault of an expression in a text; `told` says whether the message tells so. -/
  | embedded (told : Bool) (fault : Fault)
deriving DecidableEq, Repr

def Fault.message : Fault → String
  | malformed => "invalid syntax"
  | unclosed bracket => s!"'{bracket}' was never closed"
  | unmatched bracket => s!"unmatched '{bracket}'"
  | mismatched closing opening line =>
    let place := (line.map fun n => s!" on line {n}").getD ""
    s!"closing parenthesis '{closing}' does not match opening parenthesis '{opening}'{place}"
  | tooDeep => "too many nested parentheses"
  | unterminated triple line =>
    let kind := if triple then "triple-quoted string" else "string"
    s!"unterminated {kind} literal (detected at line {line})"
  | badNumber radix => s!"invalid {radix.label} literal"
  | badDigit digit radix => s!"invalid digit '{digit}' in {radix.label} literal"
  | leadingZeros =>
    "leading zeros in decimal integer literals are not permitted; " ++
      "use an 0o prefix for octal integers"
  | badCharacter c hex => s!"invalid character '{c}' (U+{hex})"
  | badHiddenCharacter hex => s!"invalid non-printable character U+{hex}"
  | badContinuation => "unexpected character after line continuation character"
  | endAfterContinuation => "unexpected EOF while parsing"
  | indented => "unexpected indent"
  | mixedTexts => "cannot mix bytes and nonbytes literals"
  | badByte => "bytes can only contain ASCII literal characters"
  | badEscape start last reason =>
    s!"(unicode error) 'unicodeescape' codec can't decode bytes in position {start}-{last}: {reason}"
  | badByteEscape place => s!"(value error) invalid \\x escape at position {place}"
  | forgottenComma => "invalid syntax. Perhaps you forgot a comma?"
  | missingElse => "expected 'else' after 'if' expression"
  | missingBrackets name =>
    s!"Missing parentheses in call to '{name}'. Did you mean {name}(...)?"
  | assigned => "invalid syntax. Maybe you meant '==' or ':=' instead of '='?"
  | assignedTo what => s!"cannot assign to {what} here. Maybe you meant '==' instead of '='?"
  | namedBy what => s!"cannot use assignment expressions with {what}"
  | starred => "cannot use starred expression here"
  | doublyStarred => "cannot use double starred expression here"
  | bareStar => "Invalid star expression"
  | starredValue => "cannot use a starred expression in a dictionary value"
  | missingValue => "expression expected after dictionary key and ':'"
  | missingColon => "':' expected after dictionary key"
  | bareTarget => "did you forget parentheses around the comprehension target?"
  | starredSource => "iterable unpacking cannot be used in comprehension"
  | unpackedSource => "dict unpacking cannot be used in dict comprehension"
  | bareGenerator => "Generator expression must be parenthesized"
  | badTarget what => s!"cannot assign to {what}"
  | assignedConstant name => s!"cannot assign to {name}"
  | assignedArgument => "expression cannot contain assignment, perhaps you meant \"==\"?"
  | starAfterUnpacking => "iterable argument unpacking follows keyword argument unpacking"
  | plainAfterUnpacking => "positional argument follows keyword argument unpacking"
  | plainAfterNamed => "positional argument follows keyword argument"
  | missingDefault => "expected default value expression"
  | plainAfterDefault => "non-default argument follows default argument"
  | bracketedParameters => "Lambda expression parameters cannot be parenthesized"
  | nothingBeforeSlash => "at least one argument must precede /"
  | repeatedSlash => "/ may appear only once"
  | slashAfterStar => "/ must be ahead of *"
  | noCommaAfterSlash => "expected comma between / and *"
  | nothingAfterStar => "named arguments must follow bare *"
  | defaultOfRest => "var-positional argument cannot have default value"
  | repeatedStar => "* argument may appear only once"
  | defaultOfNamedRest => "var-keyword argument cannot have default value"
  | parameterAfterRest => "arguments cannot follow var-keyword argument"
  | template fault => fault.message
  | embedded told fault => (if told then "f-string: " else "") ++ fault.message

/-- Why a well spelled expression is no literal. -/
inductive ValueFault where
  /-- It holds something that has to be worked out. -/
  | malformed
  /-- It takes the entries of another mapping. -/
  | noKey
  /-- A mapping or set is used as a key. -/
  | unhashable (kind : String)
deriving DecidableEq, Repr

def ValueFault.message : ValueFault → String
  | malformed => "malformed node or string"
  | noKey => "malformed node or string: None"
  | unhashable kind => s!"unhashable type: '{kind}'"

end VariantChess.Layout.Literal
