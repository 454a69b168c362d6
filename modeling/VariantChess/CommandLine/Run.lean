import VariantChess.CommandLine.Command
import VariantChess.Logging

/-!
# Runs

A run reads the options that stand before the command, the settings, and then the command with its own
options, and answers it. What is wrong with the arguments is found in that order too: a bad settings
file is reported before a bad option of the command.
-/

namespace VariantChess.CommandLine

/-- Why a run has no answer. -/
inductive Failure where
  /-- The arguments are wrong. -/
  | usage
  | error (e : Error)

/-- What a run comes to. -/
structure Run where
  /-- The lines of the answer. -/
  result : Except Failure (List String)
  /-- Where its events are logged. -/
  logging : Option Logging := none
  events : List Event := []

/-- The options before the command. -/
def switches : List Switch := [{ name := "--log-level" }, { name := "--config" }]

/-- The command that the arguments behind the first options name, and its arguments. -/
def command? (a : Arguments) : Option (Command × List String) :=
  match a.positional with
  | [] => none
  | name :: rest => (Command.named? name).map fun command => (command, rest)

/-- The events among notes. -/
def eventsOf (notes : List Note) : List Event :=
  notes.filterMap fun n => match n with
    | .event e => some e
    | _ => none

/-- Runs a command under settings. -/
def runUnder (files : Files) (settings : Settings) (logging : Logging) (command : Command)
    (args : List String) : Run :=
  match Request.read? command args with
  | none => { result := .error .usage, logging }
  | some request =>
    let answer := request.answer files settings
    let result := match answer.result with
      | .error e => .error (.error e)
      | .ok none => .error .usage
      | .ok (some lines) => .ok lines
    { result, logging, events := eventsOf answer.notes }

/-- The severity asked for: by an option, unless it is empty, or by the settings. -/
def levelOf (a : Arguments) (settings : Settings) : LogLevel :=
  .name (((a.value? "--log-level").filter (· ≠ "")).getD settings.logLevel)

/-- Runs the command that the arguments name. The settings file is looked for before anything else, and
a text that is no path is no wrong usage. -/
def run (files : Files) (env : Environment) (args : List String) : Run :=
  match Arguments.read? switches false args with
  | none => { result := .error .usage }
  | some a =>
    let config := a.value? "--config"
    match config.bind pathFault? with
    | some fault => { result := .error (.error (.noPath fault)) }
    | none =>
      match command? a, config.all files.canRead with
      | some (command, rest), true =>
        match (Settings.load files env config).result with
        | .error e => { result := .error (.error e) }
        | .ok settings =>
          match Logging.start files (levelOf a settings) settings.logFile with
          | (_, .error (.inaccessible fault path)) =>
            { result := .error (.error (.inaccessible fault path)) }
          | (_, .error _) => { result := .error .usage }
          | (files, .ok logging) => runUnder files settings logging command rest
      | _, _ => { result := .error .usage }

/-- The files that a run reads as far as the files known so far tell. -/
def filesNamed (files : Files) (env : Environment) (args : List String) : List String :=
  match Arguments.read? switches false args with
  | none => []
  | some a =>
    let config := a.value? "--config"
    let ref := match (Settings.load files env config).result, command? a with
      | .ok settings, some (command, rest) =>
        ((Request.read? command rest).map fun request => request.reference settings).toList
      | _, _ => []
    config.toList ++ ref

end VariantChess.CommandLine
