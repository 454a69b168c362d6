import VariantChess.Journal
import VariantChess.Yaml.Document

/-!
# Settings

What a user can set: in a settings file, and over that in the environment. A settings file holds a
mapping from names to values, of which each is checked in turn; what it leaves out keeps its default,
and a file that says nothing leaves everything at its default.
-/

namespace VariantChess

structure Settings where
  logLevel : String := "INFO"
  logFile : Option String := none
  ruleset : String := "standard"
  /-- The number of moves that `perft` looks ahead unless it is told otherwise. -/
  perftDepth : Nat := 3
  /-- Whether moves are listed without regard to royal pieces. -/
  showPseudoLegal : Bool := false
deriving DecidableEq, Repr

/-- What the environment sets; an empty text sets nothing. -/
structure Environment where
  logLevel : String := ""
  ruleset : String := ""
deriving DecidableEq, Repr

namespace Settings

/-- The names of all settings. -/
def names : List String := ["log_level", "log_file", "ruleset", "perft_depth", "show_pseudo_legal"]

/-- The text of a setting that must not be empty. -/
def textOf (name : String) : Datum → Except SettingsFault String
  | .text s => if s.isEmpty then .error (.badText name) else .ok s
  | _ => .error (.badText name)

/-- The settings with one of them changed. -/
def set (s : Settings) (name : String) (value : Datum) : Except SettingsFault Settings :=
  match name with
  | "log_file" =>
    match value with
    | .null => .ok { s with logFile := none }
    | .text path => .ok { s with logFile := some path }
    | _ => .error .badLogFile
  | "perft_depth" =>
    match value with
    | .int n => if n < 0 then .error .badDepth else .ok { s with perftDepth := n.toNat }
    | _ => .error .badDepth
  | "show_pseudo_legal" =>
    match value with
    | .bool b => .ok { s with showPseudoLegal := b }
    | _ => .error .badPseudo
  | "ruleset" => (textOf name value).map fun ref => { s with ruleset := ref }
  | _ => (textOf name value).map fun level => { s with logLevel := level }

/-- The settings changed by entry after entry. -/
def setAll (s : Settings) : List (Datum × Datum) → Except SettingsFault Settings
  | [] => .ok s
  | (key, value) :: entries =>
    match s.set key.plain value with
    | .error fault => .error fault
    | .ok s => s.setAll entries

/-- The settings that a mapping describes. Strange keys are refused by listing them, if they can be
written. -/
def ofEntries (entries : List (Datum × Datum)) : Except Error Settings :=
  let strange := Datum.strangers names entries
  if strange.isEmpty then (setAll {} entries).mapError .settings
  else if Datum.areWritable strange then
    .error (.settings (.unknownKeys (Datum.strangeKeys names entries)))
  else .error .unwritten

/-- The settings that the content of the file at `path` describes. -/
def ofContent (path : String) (content : Datum) : Except Error Settings :=
  if content.isVoid then .ok {}
  else
    match content.opened with
    | .mapping entries => ofEntries entries
    | _ => .error (.settings (.notMapping path))

/-- The settings with what the environment sets. -/
def override (s : Settings) (env : Environment) : Settings where
  logLevel := if env.logLevel.isEmpty then s.logLevel else env.logLevel
  logFile := s.logFile
  ruleset := if env.ruleset.isEmpty then s.ruleset else env.ruleset
  perftDepth := s.perftDepth
  showPseudoLegal := s.showPseudoLegal

/-- The settings of the file at `path`. -/
def ofFile (files : Files) (path : String) : Except Error Settings :=
  match pathFault? (plainPath path) with
  | some fault => .error (.noPath fault)
  | none =>
    match files.read path with
    | .error fault => .error (.settings (.unreadable fault path))
    | .ok text =>
      match Yaml.read text.toList with
      | .error .malformed => .error (.settings .malformedFile)
      | .error fault => .error (.scalar fault)
      | .ok content => ofContent path content

/-- The settings of a file, if there is one, under those of the environment. -/
def load (files : Files) (env : Environment) : Option String → Report Settings
  | none => pure (override {} env)
  | some path => do
    let s ← Report.of (ofFile files path)
    Report.log (.loadedSettings path)
    return s.override env

end Settings

end VariantChess
