import VariantChess.Text.Quoted

/-!
# Paths

A path is written as steps between slashes. Doubled slashes and steps that stay where they are do not
matter, but a path may begin at the root, and one that begins with exactly two slashes at another one.
Some texts are no paths at all (`PathFault`).
-/

namespace VariantChess

/-- The steps of a path that lead somewhere. -/
def pathSteps (path : List Char) : List (List Char) :=
  (path.splitOn '/').filter fun step => step != [] && step != ['.']

/-- The slashes with which a path begins, three or more of which are as good as one. -/
def pathRoot : List Char → List Char
  | '/' :: '/' :: '/' :: _ => ['/']
  | '/' :: '/' :: _ => ['/', '/']
  | '/' :: _ => ['/']
  | _ => []

/-- The shortest spelling of a path. -/
def plainPath (path : String) : String :=
  let cs := path.toList
  let plain := pathRoot cs ++ List.intercalate ['/'] (pathSteps cs)
  if plain.isEmpty then "." else String.ofList plain

/-- The part of a path's last step from its last point on; a step may begin with a point, and with a
point at its end it has no such part. -/
def pathEnding (path : String) : String :=
  let name := ((pathSteps path.toList).getLast?).getD []
  let behind := name.reverse.takeWhile (· ≠ '.')
  if behind.isEmpty || name.length ≤ behind.length + 1 then ""
  else String.ofList ('.' :: behind.reverse)

/-- The path of the directory that a path leads into last. -/
def parentPath (path : String) : String :=
  let cs := path.toList
  plainPath (String.ofList (pathRoot cs ++ List.intercalate ['/'] (pathSteps cs).dropLast))

/-- Whether the path ends with the name of what it leads to, so that it need not be a directory. -/
def endsInName (path : String) : Bool :=
  let last := ((path.toList.splitOn '/').getLast?).getD []
  !([[], ['.'], ['.', '.']].contains last)

/-! ### Texts that are no paths -/

/-- Why a text is no path. -/
inductive PathFault where
  /-- It holds the character that ends every path. -/
  | nul
  /-- It holds halves of characters, among them one that no path can hold. -/
  | halves (found : Text.StrayHalves)
deriving DecidableEq, Repr

/-- The wording of the fault. -/
def PathFault.message : PathFault → String
  | nul => "embedded null byte"
  | halves found => found.message

/-- The number of a half that a path can hold, since it stands for a byte of its own. -/
def isByteHalf (code : Nat) : Bool := 0xDC80 ≤ code && code ≤ 0xDCFF

/-- Why a text is no path, if it is none. -/
def pathFault? (path : String) : Option PathFault :=
  let codes := path.toList.map Text.code
  ((Text.strayHalves? isByteHalf 0 codes).map .halves).or (if codes.contains 0 then some .nul else none)

end VariantChess
