/-!
# Characters

Character classes beyond ASCII are tables of code points. `inRanges` looks a character up in a table
of closed intervals, `inRuns` in a table of arithmetic progressions (alphabets that write their two
cases in turn fill every second place).

The numbers from `D800` to `DFFF` belong to no character, but a file may spell them out, one by one or as
the two halves of a character beyond the first plane. Such a half is kept as the private character that
has its place in the last plane but one, and nothing but its number tells it from others.

White space is that of every script, the four ASCII separators included. `strip` cuts it off both ends of
a text and `compact` takes it out altogether.
-/

namespace VariantChess.Text

/-! ### Tables -/

/-- Whether the character lies in one of the closed intervals. -/
def inRanges (table : List (Nat × Nat)) (c : Char) : Bool :=
  table.any fun r => r.1 ≤ c.toNat && c.toNat ≤ r.2

/-- Whether `n` is one of `first, first + step, …, last`. -/
def onRun (first last step n : Nat) : Bool :=
  first ≤ n && n ≤ last && (n - first) % step == 0

/-- Whether the character lies on one of the progressions `(first, last, step)`. -/
def inRuns (table : List (Nat × Nat × Nat)) (c : Char) : Bool :=
  table.any fun r => onRun r.1 r.2.1 r.2.2 c.toNat

/-- Whether the character is one of the first 128. -/
def isAscii (c : Char) : Bool := c.toNat < 128

/-! ### Half characters -/

/-- How far the characters that stand for halves are from their numbers. -/
def halfShift : Nat := 0xF0000

/-- Whether the number belongs to a half. -/
def isHalfCode (n : Nat) : Bool := 0xD800 ≤ n && n < 0xE000

/-- The character of a number, which may be that of a half. -/
def ofCode (n : Nat) : Char := Char.ofNat (if isHalfCode n then halfShift + n else n)

/-- The number of a character or of the half that it stands for. -/
def code (c : Char) : Nat := if isHalfCode (c.toNat - halfShift) then c.toNat - halfShift else c.toNat

/-- Whether a text comes before another one in the order of their numbers. -/
def comesBefore (s t : String) : Bool := s.toList.map code < t.toList.map code

/-! ### Blanks -/

/-- White space, ASCII included. -/
def blankRanges : List (Nat × Nat) :=
  [(9, 13), (28, 32), (133, 133), (160, 160), (5760, 5760), (8192, 8202), (8232, 8233), (8239, 8239),
   (8287, 8287), (12288, 12288)]

/-- Whether the character is white space. -/
def isBlank (c : Char) : Bool := inRanges blankRanges c

/-- The text without the blanks at its two ends. -/
def strip (s : List Char) : List Char :=
  ((s.dropWhile isBlank).reverse.dropWhile isBlank).reverse

/-- The text without any blanks. -/
def compact (s : List Char) : List Char := s.filter fun c => !isBlank c

end VariantChess.Text
