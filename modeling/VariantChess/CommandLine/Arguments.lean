/-!
# Arguments

The arguments of a command are options, each with a value or without, and positional arguments. An
option's value is the next argument, or stands behind an equals sign. Behind two dashes everything is
positional. A command that is followed by another one reads options only up to its first positional
argument.
-/

namespace VariantChess.CommandLine

/-- An option of a command. -/
structure Switch where
  name : String
  takesValue : Bool := true
deriving DecidableEq, Repr

/-- Arguments sorted out. -/
structure Arguments where
  /-- The options that were given with their values, in their order. -/
  options : List (String × String) := []
  positional : List String := []
deriving DecidableEq, Repr

namespace Arguments

/-- The value of an option; of several the last one counts. -/
def value? (a : Arguments) (name : String) : Option String := a.options.reverse.lookup name

/-- Whether an option was given. -/
def has (a : Arguments) (name : String) : Bool := (a.value? name).isSome

/-- The arguments with one more option before them. -/
def withOption (name value : String) (a : Arguments) : Arguments :=
  { a with options := (name, value) :: a.options }

/-- The arguments with one more positional one before them. -/
def withPositional (arg : String) (a : Arguments) : Arguments :=
  { a with positional := arg :: a.positional }

/-- Whether an argument is written as an option. -/
def isOption (arg : String) : Bool := arg.toList.head? == some '-' && 1 < arg.length

/-- The name of an option and the value behind its equals sign. -/
def splitValue (arg : String) : String × Option String :=
  let cs := arg.toList
  match cs.dropWhile (· ≠ '=') with
  | [] => (arg, none)
  | _ :: value => (String.ofList (cs.takeWhile (· ≠ '=')), some (String.ofList value))

/-- Sorts out the arguments of a command with these options; `mixed` says whether options may stand
behind positional arguments. Gives nothing for an option that is unknown, lacks its value, or has one
that it does not take. -/
def read? (switches : List Switch) (mixed : Bool) : List String → Option Arguments
  | [] => some {}
  | arg :: rest =>
    if arg = "--" then some { positional := rest }
    else if isOption arg then
      let (name, value) := splitValue arg
      match switches.find? fun s => s.name == name with
      | none => none
      | some switch =>
        match switch.takesValue, value with
        | true, some value => (read? switches mixed rest).map (withOption name value)
        | true, none =>
          match rest with
          | [] => none
          | value :: rest => (read? switches mixed rest).map (withOption name value)
        | false, none => (read? switches mixed rest).map (withOption name "")
        | false, some _ => none
    else if mixed then (read? switches mixed rest).map (withPositional arg)
    else some { positional := arg :: rest }

end Arguments

end VariantChess.CommandLine
