import VariantChess.Calendar
import VariantChess.Decimal.Text
import VariantChess.Sorted
import VariantChess.Square
import VariantChess.Text.Digit
import VariantChess.Text.Quoted

/-!
# Data

The values that a settings file, a ruleset or a script hands over before anyone has checked them:
scalars, lists and mappings, and what a file can hold besides. A mapping keeps the order of its
entries; `Datum.ofPairs` lets a later value replace an earlier one under the same key, and numbers that
are equal are the same key.
-/

namespace VariantChess

inductive Datum where
  | null
  | bool (b : Bool)
  | int (n : Int)
  | float (x : Double)
  | text (s : String)
  | list (items : List Datum)
  | mapping (entries : List (Datum × Datum))
  | date (d : Date)
  | moment (m : Moment)
  | bytes (content : List UInt8)
  /-- Values without an order of their own, each once. -/
  | set (members : List Datum)
  | pair (first second : Datum)
  /-- A list or mapping that holds itself, with its text. What it holds is unfolded a few times. -/
  | knot (shown : String) (content : Datum)
deriving Repr

namespace Datum

/-! ### Keys -/

/-- The exact value of a number in units of `1 / Double.denominator`; truth values count as numbers. -/
def units? : Datum → Option Int
  | bool b => some (if b then Double.denominator else 0)
  | int n => some (n * Double.denominator)
  | float x =>
    if x.isNaN || x.isInfinite then none
    else some x.signedNumerator
  | _ => none

/-- Whether two scalars are the same key. Of the values that are no number only the one that has a name is
the same as itself. -/
def sameKey (a b : Datum) : Bool :=
  match a, b with
  | null, null => true
  | text s, text t => s == t
  | float x, float y =>
    if x.isInfinite then x == y
    else if x.isNaN then x == y && x == .undefined
    else (float x).units?.any fun u => (float y).units? == some u
  | date d, date e => d == e
  | moment m, moment n => m.isSame n
  | bytes b, bytes c => b == c
  | a, b => a.units?.any fun u => b.units? == some u

/-- The entries with `value` under `key`: in the place of an entry with the same key, else at the
end. -/
def putEntry (key value : Datum) : List (Datum × Datum) → List (Datum × Datum)
  | [] => [(key, value)]
  | e :: rest => if sameKey e.1 key then (e.1, value) :: rest else e :: putEntry key value rest

/-- The mapping of these pairs. -/
def ofPairs (pairs : List (Datum × Datum)) : Datum :=
  mapping (pairs.foldl (fun entries p => putEntry p.1 p.2 entries) [])

/-- The value under a text key. -/
def lookup? (entries : List (Datum × Datum)) (key : String) : Option Datum :=
  (entries.find? fun e => sameKey e.1 (text key)).map (·.2)

/-- Whether the key is one of these texts. -/
def isOneOf (keys : List String) : Datum → Bool
  | text s => keys.contains s
  | _ => false

/-! ### Text -/

/-- A number with a fraction is written out below `10 ^ 16`, and a whole one ends in `.0`. -/
def floatStyle : Decimal.Style := ⟨16, true⟩

def floatText (x : Double) : String := x.textWith floatStyle Double.shortest

/-- Bytes between quotes, those that are no letters of their own as escapes. -/
def shownBytes (content : List UInt8) : String :=
  let chars := content.map fun b => Char.ofNat b.toNat
  let quote := Text.quoteFor chars
  let escape (c : Char) : List Char :=
    if c.toNat < 128 then Text.escapeIn quote c else '\\' :: Text.hexEscape c.toNat
  String.ofList ('b' :: quote :: chars.flatMap escape ++ [quote])

mutual

/-- The value as messages show it inside another value. -/
def shown : Datum → String
  | null => "None"
  | bool b => if b then "True" else "False"
  | int n => toString n
  | float x => floatText x
  | text s => Text.quote s
  | list items => "[" ++ ", ".intercalate (shownItems items) ++ "]"
  | mapping entries => "\x7b" ++ ", ".intercalate (shownEntries entries) ++ "\x7d"
  | date d => d.shown
  | moment m => m.shown
  | bytes content => shownBytes content
  | set [] => "set()"
  | set members => "\x7b" ++ ", ".intercalate (shownItems members) ++ "\x7d"
  | pair first second => "(" ++ shown first ++ ", " ++ shown second ++ ")"
  | knot shown _ => shown

def shownItems : List Datum → List String
  | [] => []
  | d :: ds => shown d :: shownItems ds

def shownEntries : List (Datum × Datum) → List String
  | [] => []
  | (key, value) :: es => (shown key ++ ": " ++ shown value) :: shownEntries es

end

mutual

/-- Whether all integers in the value can be written. -/
def isWritable : Datum → Bool
  | int n => Text.isWritable n
  | list items => areWritable items
  | mapping entries => entriesAreWritable entries
  | set members => areWritable members
  | pair first second => isWritable first && isWritable second
  | knot _ content => isWritable content
  | _ => true

def areWritable : List Datum → Bool
  | [] => true
  | d :: ds => isWritable d && areWritable ds

def entriesAreWritable : List (Datum × Datum) → Bool
  | [] => true
  | (key, value) :: es => isWritable key && isWritable value && entriesAreWritable es

end

/-- The value as a text of its own: a text stands for itself. -/
def plain : Datum → String
  | text s => s
  | date d => d.plain
  | moment m => m.plain
  | d => d.shown

/-! ### Views -/

/-- What a list or mapping holds, whether it holds itself or not. -/
def opened : Datum → Datum
  | knot _ content => content
  | d => d

/-- The keys of the entries that are none of the expected ones. -/
def strangers (expected : List String) (entries : List (Datum × Datum)) : List Datum :=
  (entries.filter fun e => !e.1.isOneOf expected).map (·.1)

/-- Those keys in their order as texts. -/
def strangeKeys (expected : List String) (entries : List (Datum × Datum)) : List String :=
  sortStable Text.comesBefore ((strangers expected entries).map plain)

/-- The square that a list or pair of two integers stands for. -/
def square? : Datum → Option Square
  | list [int x, int y] => some ⟨x, y⟩
  | pair (int x) (int y) => some ⟨x, y⟩
  | _ => none

/-- Whether the value says nothing: null, false, zero, or empty. -/
def isVoid : Datum → Bool
  | null => true
  | bool b => !b
  | int n => n == 0
  | float x => x.isZero
  | text s => s.isEmpty
  | list items => items.isEmpty
  | mapping entries => entries.isEmpty
  | bytes content => content.isEmpty
  | set members => members.isEmpty
  | date _ | moment _ | pair .. | knot .. => false

end Datum

end VariantChess
