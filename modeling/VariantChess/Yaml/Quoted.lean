import VariantChess.Yaml.Cursor

/-!
# Quoted scalars

A scalar in single quotes holds every character but its quote, which is written twice. One in double
quotes has escapes that begin with a backslash. In both, the blanks around a line break come to a space,
and the lines of a quoted scalar must not look like the separation of two documents.
-/

namespace VariantChess.Yaml

/-- The line breaks that follow a first one, with the blanks between them left out. -/
def quotedBreaks : Nat → Cursor → Reading (List Char)
  | 0, c => .ok ([], c)
  | n + 1, c =>
    if marksDocument c then .error .malformed
    else
      let c := c.dropWhile isInlineBlank
      match c.rest with
      | ch :: _ =>
        if isBreak ch then
          (quotedBreaks n c.step).map fun (breaks, c) => (ch :: breaks, c)
        else .ok ([], c)
      | [] => .ok ([], c)

/-- What the blanks at the cursor come to inside quotes, with the cursor behind them. -/
def quotedGap (c : Cursor) : Reading (List Char) :=
  let (blanks, c) := c.takeWhile isInlineBlank
  match c.rest with
  | ch :: rest =>
    if isBreak ch then
      (quotedBreaks (rest.length + 1) c.step).map fun (breaks, c) => (folded ch breaks, c)
    else .ok (blanks, c)
  | [] => .error .malformed

/-- The rest of a scalar in single quotes. The first argument bounds the number of steps, here and
below. -/
def singleQuoted : Nat → Cursor → Reading (List Char)
  | 0, _ => .error .malformed
  | n + 1, c =>
    let (word, c) := c.takeWhile fun ch => ch ≠ '\'' && !isBreak ch && !isInlineBlank ch
    match c.rest with
    | '\'' :: '\'' :: _ =>
      (singleQuoted n (c.skip 2)).map fun (more, c) => (word ++ '\'' :: more, c)
    | '\'' :: _ => .ok (word, c.step)
    | _ =>
      match quotedGap c with
      | .error fault => .error fault
      | .ok (gap, c) => (singleQuoted n c).map fun (more, c) => (word ++ gap ++ more, c)

/-- The characters with a one-letter escape. -/
def escapes : List (Char × Nat) :=
  [('0', 0), ('a', 7), ('b', 8), ('t', 9), ('\t', 9), ('n', 10), ('v', 11), ('f', 12), ('r', 13),
   ('e', 27), (' ', 32), ('"', 34), ('\\', 92), ('/', 47), ('N', 133), ('_', 160), ('L', 8232),
   ('P', 8233)]

/-- The number of hexadecimal digits behind the letter of an escape. -/
def escapeWidth? (c : Char) : Option Nat :=
  if c = 'x' then some 2 else if c = 'u' then some 4 else if c = 'U' then some 8 else none

/-- What the escape behind a backslash stands for, with the cursor behind it. A line break that is
escaped stands for nothing, but those that follow it are kept. -/
def escape (c : Cursor) : Reading (List Char) :=
  match c.rest with
  | [] => .error .malformed
  | ch :: rest =>
    if isBreak ch then quotedBreaks (rest.length + 1) c.step
    else
      match escapeWidth? ch with
      | some width =>
        let digits := rest.take width
        if digits.length = width && digits.all isHexDigit then
          let code := hexNumber digits
          if code < 0x110000 then .ok ([Text.ofCode code], c.skip (width + 1))
          else .error (.noCharacter code)
        else .error .malformed
      | none =>
        match escapes.lookup ch with
        | some code => .ok ([Char.ofNat code], c.step)
        | none => .error .malformed

/-- The rest of a scalar in double quotes. -/
def doubleQuoted : Nat → Cursor → Reading (List Char)
  | 0, _ => .error .malformed
  | n + 1, c =>
    let (word, c) := c.takeWhile fun ch => ch ≠ '"' && ch ≠ '\\' && !isBreak ch && !isInlineBlank ch
    let part := match c.rest with
      | '\\' :: _ => escape c.step
      | _ => quotedGap c
    match c.rest with
    | '"' :: _ => .ok (word, c.step)
    | _ =>
      match part with
      | .error fault => .error fault
      | .ok (text, c) => (doubleQuoted n c).map fun (more, c) => (word ++ text ++ more, c)

/-- The scalar in the quotes that open at the cursor. -/
def quotedScalar (c : Cursor) : Reading (List Char) :=
  if c.rest.head? == some '"' then doubleQuoted (c.rest.length + 1) c.step
  else singleQuoted (c.rest.length + 1) c.step

end VariantChess.Yaml
