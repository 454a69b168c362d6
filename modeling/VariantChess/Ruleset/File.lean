import VariantChess.Ruleset.Bundled
import VariantChess.Yaml.Document

/-!
# Rulesets from files

A reference to a ruleset is the path of a file, or the name of a bundled ruleset if it neither looks
like a path to a ruleset nor leads to a file.
-/

namespace VariantChess.Ruleset

/-- The ruleset of the file at a path. -/
def ofFile (files : Files) (path : String) : Report Ruleset := do
  let source := plainPath path
  match pathFault? source with
  | some fault => .fail (.noPath fault)
  | none =>
    match files.read path with
    | .error fault => .fail (.ruleset (.unreadable fault path) (some source))
    | .ok text =>
      match Yaml.read text.toList with
      | .error .malformed => .fail (.ruleset .malformedFile (some source))
      | .error fault => .fail (.scalar fault)
      | .ok description => do
        let ruleset ← ofDatum description (some source)
        Report.log (.loadedRuleset ruleset.name source)
        return ruleset

/-- Whether a reference is the path of a file. -/
def isPath (files : Files) (ref : String) : Except Error Bool :=
  if [".yaml", ".yml"].contains (pathEnding ref) then .ok true
  else (files.isFile ref).mapError fun fault => .inaccessible fault ref

/-- The ruleset that a reference leads to. -/
def resolve (files : Files) (ref : String) : Report Ruleset := do
  if ← Report.of (isPath files ref) then ofFile files ref
  else bundled files.shelf ref

end VariantChess.Ruleset
