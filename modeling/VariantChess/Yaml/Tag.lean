import VariantChess.Yaml.Cursor

/-!
# Names, tags and directives

An anchor gives a value a name, by which it can be used again. A tag names the kind of a value: in full
between angle brackets, or by a handle that stands for the beginning of its name. Directives at the head
of a document say which version it is written in and what handles stand for.
-/

namespace VariantChess.Yaml

/-- The name behind the first character of an anchor or of a reference to one. -/
def anchorName (c : Cursor) : Reading String :=
  let (name, c) := c.step.takeWhile isNameChar
  let ends := blankNext c.rest || c.rest.head?.any fun ch =>
    ['?', ':', ',', ']', '\x7d', '%', '@', '\x60'].contains ch
  if name.isEmpty || !ends then .error .malformed else .ok (String.ofList name, c)

/-! ### Tags -/

/-- Whether the character may stand in a tag as it is. -/
def isUriChar (c : Char) : Bool :=
  c.isAlphanum ||
    ['-', ';', '/', '?', ':', '@', '&', '=', '+', '$', ',', '_', '.', '!', '~', '*', '\'', '(', ')', '[',
      ']'].contains c

/-- The bytes that percent signs write, each by two hexadecimal digits. -/
def percentBytes : Nat → Cursor → Reading (List UInt8)
  | 0, c => .ok ([], c)
  | n + 1, c =>
    match c.rest with
    | '%' :: a :: b :: _ =>
      if isHexDigit a && isHexDigit b then
        (percentBytes n (c.skip 3)).map fun (bytes, c) => (UInt8.ofNat (hexNumber [a, b]) :: bytes, c)
      else .error .malformed
    | '%' :: _ => .error .malformed
    | _ => .ok ([], c)

/-- The characters of a tag, those written by percent signs decoded. -/
def uriFrom : Nat → Cursor → Reading (List Char)
  | 0, c => .ok ([], c)
  | n + 1, c =>
    let (word, c) := c.takeWhile isUriChar
    if c.rest.head? == some '%' then
      match percentBytes c.rest.length c with
      | .error fault => .error fault
      | .ok (bytes, c) =>
        match String.fromUTF8? ⟨bytes.toArray⟩ with
        | none => .error .malformed
        | some text => (uriFrom n c).map fun (more, c) => (word ++ text.toList ++ more, c)
    else .ok (word, c)

/-- The text of a tag or of the beginning of one, which must not be empty. -/
def uri (c : Cursor) : Reading String :=
  match uriFrom (c.rest.length + 1) c with
  | .error fault => .error fault
  | .ok (text, behind) =>
    if behind.index = c.index then .error .malformed else .ok (String.ofList text, behind)

/-- The handle that begins at the cursor: one exclamation mark, or a name between two. -/
def tagHandle (c : Cursor) : Reading String :=
  match c.rest with
  | '!' :: ' ' :: _ => .ok ("!", c.step)
  | '!' :: _ =>
    let (name, last) := c.step.takeWhile isNameChar
    if last.rest.head? == some '!' then .ok (String.ofList ('!' :: name ++ ['!']), last.step)
    else .error .malformed
  | _ => .error .malformed

/-- A tag as it is written: what follows its handle, or the whole of it if it has none. -/
structure WrittenTag where
  handle : Option String
  suffix : String

/-- The tag between angle brackets behind the cursor. -/
def fullTag (c : Cursor) : Except Fault (WrittenTag × Cursor) := do
  let (name, c) ← uri (c.skip 2)
  if c.rest.head? == some '>' then return (⟨none, name⟩, c.step) else throw .malformed

/-- The tag with a handle at the cursor, which is a lone exclamation mark unless there is a second
one. -/
def shortTag (c : Cursor) : Except Fault (WrittenTag × Cursor) := do
  let word := (c.rest.drop 1).takeWhile fun ch => !isBreak ch && ch ≠ ' '
  let (handle, c) ← if word.contains '!' then tagHandle c else pure ("!", c.step)
  let (suffix, c) ← uri c
  return (⟨some handle, suffix⟩, c)

/-- The tag at the cursor. -/
def writtenTag (c : Cursor) : Except Fault (WrittenTag × Cursor) := do
  let behind := c.rest.drop 1
  let (tag, c) ←
    if behind.head? == some '<' then fullTag c
    else if blankNext behind then pure (⟨none, "!"⟩, c.step)
    else shortTag c
  if spaceNext c.rest then return (tag, c) else throw .malformed

/-! ### Directives -/

inductive Directive where
  | version (major : Nat)
  /-- A handle and the beginning of the tags that it stands for. -/
  | handle (handle start : String)
  | other

/-- The number at the cursor. -/
def versionNumber (c : Cursor) : Reading Nat :=
  let (digits, c) := c.takeWhile Char.isDigit
  if digits.isEmpty then .error .malformed else .ok (decimalNat digits, c)

/-- The content of a directive about the version. -/
def versionContent (c : Cursor) : Except Fault (Directive × Cursor) := do
  let (major, c) ← versionNumber c.skipSpaces
  if c.rest.head? == some '.' then
    let (_, c) ← versionNumber c.step
    if spaceNext c.rest then return (.version major, c) else throw .malformed
  else throw .malformed

/-- The content of a directive about a handle. -/
def handleContent (c : Cursor) : Except Fault (Directive × Cursor) := do
  let (handle, c) ← tagHandle c.skipSpaces
  if c.rest.head? == some ' ' then
    let (start, c) ← uri c.skipSpaces
    if spaceNext c.rest then return (.handle handle start, c) else throw .malformed
  else throw .malformed

/-- The directive whose percent sign is at the cursor, with the cursor on the next line. -/
def directive (c : Cursor) : Except Fault (Directive × Cursor) := do
  let (name, c) := c.step.takeWhile isNameChar
  if name.isEmpty || !spaceNext c.rest then throw .malformed
  else
    let (d, c) ← match String.ofList name with
      | "YAML" => versionContent c
      | "TAG" => handleContent c
      | _ => pure (.other, c.toLineEnd)
    let c := c.skipComment
    if endsLine c.rest then return (d, c.step) else throw .malformed

end VariantChess.Yaml
