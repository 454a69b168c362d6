/-!
# Bytes as text

Bytes are written as letters of an alphabet of 64, each for six bits, and equals signs fill up the last
group of four. Characters outside the alphabet are skipped, and the text ends where a group has been
filled up.
-/

namespace VariantChess.Text

/-- The six bits that a letter stands for. -/
def sixBits? (c : Char) : Option Nat :=
  if c.isUpper then some (c.toNat - 65)
  else if c.isLower then some (c.toNat - 71)
  else if c.isDigit then some (c.toNat + 4)
  else if c = '+' then some 62
  else if c = '/' then some 63
  else none

/-- The bytes of a text behind the letters of an unfinished group, which `bits` holds, and as many
equals signs. Gives nothing if the last group is not filled up. -/
def bytesBehind (bits : Nat) (letters signs : Nat) : List Char → Option (List UInt8)
  | [] => if letters = 0 then some [] else none
  | c :: cs =>
    if c = '=' then
      if 2 ≤ letters && 4 ≤ letters + signs + 1 then some []
      else bytesBehind bits letters (signs + 1) cs
    else
      match sixBits? c with
      | none => bytesBehind bits letters signs cs
      | some n =>
        let all := bits * 64 + n
        match letters with
        | 0 => bytesBehind n 1 0 cs
        | 1 => (bytesBehind (all % 16) 2 0 cs).map (UInt8.ofNat (all / 16) :: ·)
        | 2 => (bytesBehind (all % 4) 3 0 cs).map (UInt8.ofNat (all / 4) :: ·)
        | _ => (bytesBehind 0 0 0 cs).map (UInt8.ofNat all :: ·)

/-- The bytes that an ASCII text writes. -/
def bytes? (cs : List Char) : Option (List UInt8) :=
  if cs.all fun c => c.toNat < 128 then bytesBehind 0 0 0 cs else none

end VariantChess.Text
