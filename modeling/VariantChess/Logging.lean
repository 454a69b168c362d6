import VariantChess.Journal
import VariantChess.Text.Case

/-!
# Logging

From which severity on events are written, and where they go: always to the error stream, and to a
file if one is named. The file is made with the directories above it when logging starts.
-/

namespace VariantChess

/-- The severities that have names; others are numbers between them. -/
def logLevels : List (String × Int) :=
  [("CRITICAL", 50), ("FATAL", 50), ("ERROR", 40), ("WARN", 30), ("WARNING", 30), ("INFO", 20),
   ("DEBUG", 10), ("NOTSET", 0)]

/-- A severity as it is asked for. -/
inductive LogLevel where
  | number (n : Int)
  | name (s : String)
  /-- Something that is no severity. -/
  | other (value : Datum)
deriving Repr

/-- The severity asked for; a name may be written in any case, with blanks around it. -/
def LogLevel.severity : LogLevel → Except Error Int
  | number n => .ok n
  | name s =>
    match logLevels.lookup (String.ofList (Text.upper (Text.strip s.toList))) with
    | some n => .ok n
    | none => .error (.unknownLevel s)
  | other value => .error (.noLevel value)

namespace Severity

/-- The name of the severity in a log. -/
def label : Severity → String
  | debug => "DEBUG"
  | info => "INFO"
  | warning => "WARNING"

/-- The severity as a number. -/
def number : Severity → Int
  | debug => 10
  | info => 20
  | warning => 30

end Severity

/-- Where events are written, from a severity on. -/
structure Logging where
  severity : Int
  file : Option String := none
deriving DecidableEq, Repr

namespace Logging

/-- The files after the file for a log has been opened, with the directories above it. -/
def openFile (files : Files) (path : String) : Files × Except Error Unit :=
  let parent := parentPath path
  let place := Location.ofPath path.toList
  match pathFault? parent with
  | some fault => (files, .error (.noPath fault))
  | none =>
    match files.makeDirectories parent with
    | (files, .error (fault, path)) => (files, .error (.inaccessible fault path))
    | (files, .ok ()) =>
      match pathFault? path with
      | some fault => (files, .error (.noPath fault))
      | none =>
        match files.append place with
        | .error fault => (files, .error (.inaccessible fault place.path))
        | .ok files => (files, .ok ())

/-- Logging at a level and into a file, if one is named, with the files that are there after it has been
opened. -/
def start (files : Files) (level : LogLevel) (file : Option String) : Files × Except Error Logging :=
  match level.severity, file with
  | .error e, _ => (files, .error e)
  | .ok severity, none => (files, .ok { severity })
  | .ok severity, some path =>
    match openFile files path with
    | (files, .error e) => (files, .error e)
    | (files, .ok ()) => (files, .ok { severity, file })

/-- The lines that are written for events. -/
def lines (l : Logging) (events : List Event) : List String :=
  (events.filter fun e => l.severity ≤ e.severity.number).map fun e =>
    s!"{e.severity.label} - {e.message}"

end Logging

end VariantChess
