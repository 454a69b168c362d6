import VariantChess.Text.Digit
import VariantChess.Text.Letter
import VariantChess.Text.Printable
import VariantChess.Text.Width

/-!
# Identifiers

The characters of words and of names. A word is made of letters, of characters that stand for numbers, and
of low lines; a name begins with a letter and goes on with letters, decimal digits and marks.
-/

namespace VariantChess.Text

/-- Characters that stand for numbers without being digits. -/
def numeralRanges : List (Nat × Nat) :=
  [(188, 190), (2548, 2553), (2930, 2935), (3056, 3058), (3192, 3198), (3416, 3422), (3440, 3448),
   (3882, 3891), (4978, 4988), (5870, 5872), (6128, 6137), (8528, 8578), (8581, 8585), (9321, 9331),
   (9341, 9351), (9361, 9371), (9451, 9460), (9470, 9470), (10111, 10111), (10121, 10121),
   (10131, 10131), (11517, 11517), (12295, 12295), (12321, 12329), (12344, 12346), (12690, 12693),
   (12832, 12841), (12872, 12879), (12881, 12895), (12928, 12937), (12977, 12991), (42726, 42735),
   (43056, 43061), (65799, 65843), (65856, 65912), (65930, 65931), (66273, 66299), (66336, 66339),
   (66369, 66369), (66378, 66378), (66513, 66517), (67672, 67679), (67705, 67711), (67751, 67759),
   (67835, 67839), (67862, 67867), (68028, 68029), (68032, 68047), (68050, 68095), (68164, 68168),
   (68221, 68222), (68253, 68255), (68331, 68335), (68440, 68447), (68472, 68479), (68521, 68527),
   (68858, 68863), (69225, 69246), (69405, 69414), (69457, 69460), (69573, 69579), (69723, 69733),
   (70113, 70132), (71482, 71483), (71914, 71922), (72794, 72812), (73664, 73684), (74752, 74862),
   (93019, 93025), (93824, 93846), (119520, 119539), (119648, 119672), (125127, 125135),
   (126065, 126123), (126125, 126127), (126129, 126132), (126209, 126253), (126255, 126269),
   (127243, 127244)]

/-- Whether the character may stand in a word. -/
def isWordChar (c : Char) : Bool :=
  c = '_' || isLetter c || isDigit c || inRanges numeralRanges c

/-- What else may begin a name. -/
def nameStartRanges : List (Nat × Nat) :=
  [(5870, 5872), (6277, 6278), (8472, 8472), (8494, 8494), (8544, 8578), (8581, 8584),
   (12295, 12295), (12321, 12329), (12344, 12346), (42726, 42735), (65856, 65908), (66369, 66369),
   (66378, 66378), (66513, 66517), (74752, 74862)]

/-- The letters that cannot begin a name. -/
def lateLetterRanges : List (Nat × Nat) :=
  [(890, 890), (3635, 3635), (3763, 3763), (11823, 11823), (64606, 64611), (65018, 65019),
   (65136, 65136), (65138, 65138), (65140, 65140), (65142, 65142), (65144, 65144), (65146, 65146),
   (65148, 65148), (65150, 65150), (65438, 65439)]

/-- Whether a name may begin with the character. -/
def isNameStart (c : Char) : Bool :=
  c = '_' || inRanges nameStartRanges c || (isLetter c && !inRanges lateLetterRanges c)

/-- What else may stand in a name. -/
def namePartRanges : List (Nat × Nat) :=
  [(183, 183), (903, 903), (3635, 3635), (3763, 3763), (4969, 4977), (6618, 6618), (8255, 8256),
   (8276, 8276), (65075, 65076), (65101, 65103), (65343, 65343), (65438, 65439)]

/-- The marks that cannot stand in a name. -/
def strangeMarkRanges : List (Nat × Nat) :=
  [(1160, 1161), (6846, 6846), (8413, 8416), (8418, 8420), (42608, 42610), (127995, 127999)]

/-- Whether the character may stand in a name behind its first one. -/
def isNamePart (c : Char) : Bool :=
  isNameStart c || (decimalValue? c).isSome || inRanges namePartRanges c ||
    (768 ≤ c.toNat && inRanges markRanges c && isPrintable c && !inRanges strangeMarkRanges c)

end VariantChess.Text
