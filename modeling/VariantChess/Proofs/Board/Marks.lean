import Mathlib.Data.List.Chain
import VariantChess.Proofs.Board.Rereading

/-!
# Board notation, mark by mark

In ASCII every row of a board is spelt with *marks*: a gap is a run of digits, a piece is a letter or a
word in braces, with an exclamation mark in front if it is yellow. A gap takes all digits, so no two
gaps stand side by side. The reader takes one mark after the other and no other text, as long as the gaps
can be counted (`rowsFrom_eq_ok_iff`), and the board is what the marks depict (`depicts_ofRows`).
-/

namespace VariantChess

/-! ### The first 128 characters -/

namespace Text

variable {c : Char} {name : List Char}

/-- Letters from `a` to `z` throughout, or else from `A` to `Z`. -/
def OneCase (name : List Char) : Prop := (∀ c ∈ name, c.isLower) ∨ ∀ c ∈ name, c.isUpper

-- not by going through all characters, for which there is an instance too
instance decidableOneCase (name : List Char) : Decidable (OneCase name) :=
  @instDecidableOr _ _ (List.decidableBAll _ name) (List.decidableBAll _ name)

theorem isDigit_of_char (h : c.isDigit) : isDigit c :=
  isDigit_of_decimalValue? (by rw [decimalValue?_of_isDigit_ascii h]; rfl)

/-- A letter in ASCII has one of the two cases, and no other one. -/
theorem case_of_ascii (ascii : isAscii c) :
    (c.isUpper → Capital c) ∧ (c.isLower → Small c) ∧ (isLetter c → c.isUpper ∨ c.isLower) ∧
      lowerChar c = [c.toLower] ∧ c.toNat ≠ 931 :=
  forall_ascii (by decide +kernel) ascii

theorem OneCase.isWord (oneCase : OneCase name) (hne : name ≠ []) (ascii : ∀ c ∈ name, isAscii c) :
    isWord name := by
  refine isWord_iff.2 ⟨hne, fun c hc => ?_⟩
  have cases := case_of_ascii (ascii c hc)
  rcases oneCase with low | up
  · exact (cases.2.1 (low c hc)).1
  · exact (cases.1 (up c hc)).1

end Text

namespace Board

open Text (OneCase takeWhile_run dropWhile_run)

theorem isWord_of_isName {name : List Char} (h : isName name) : Text.isWord name := by
  rw [isName, Bool.and_eq_true] at h
  exact h.1

/-- What a row is spelt with: a number of empty cells, or a piece. -/
inductive Mark where
  | gap (digits : List Char)
  | piece (yellow braced : Bool) (name : List Char)
deriving DecidableEq

namespace Mark

/-- A name as it stands in the text. -/
def body (braced : Bool) (name : List Char) : List Char :=
  if braced then '\x7b' :: (name ++ ['\x7d']) else name

def text : Mark → List Char
  | gap digits => digits
  | piece yellow braced name => (if yellow then ['!'] else []) ++ body braced name

/-- A gap is a number of at least one, a name is in one case, and without braces it is a letter. -/
def Valid : Mark → Prop
  | gap digits => digits ≠ [] ∧ (∀ c ∈ digits, c.isDigit) ∧ 1 ≤ Nat.ofDigitChars 10 digits 0
  | piece _ braced name => name ≠ [] ∧ OneCase name ∧ (braced ∨ name.length = 1)

instance decidableValid : (m : Mark) → Decidable m.Valid
  | gap digits =>
    have := List.decidableBAll (fun c : Char => c.isDigit) digits
    inferInstanceAs (Decidable (_ ∧ _ ∧ _))
  | piece .. => inferInstanceAs (Decidable (_ ∧ _))

/-- The piece that a name stands for. -/
def named (yellow : Bool) (name : List Char) : Piece where
  symbol := String.ofList (name.map Char.toLower)
  color := if yellow then .yellow else if name.all Char.isUpper then .white else .black
  hasMoved := false

def cells : Mark → List Cell
  | gap digits => List.replicate (Nat.ofDigitChars 10 digits 0) none
  | piece yellow _ name => [some (named yellow name)]

def IsGap : Mark → Prop
  | gap _ => True
  | piece .. => False

instance decidableIsGap : (m : Mark) → Decidable m.IsGap
  | gap _ => .isTrue trivial
  | piece .. => .isFalse id

/-- One of the two is no gap. -/
def Apart (m m' : Mark) : Prop := ¬ (m.IsGap ∧ m'.IsGap)

instance decidableApart (m m' : Mark) : Decidable (m.Apart m') := inferInstanceAs (Decidable (¬ _))

end Mark

/-- The marks spell a row. -/
structure IsRow (marks : List Mark) : Prop where
  ne_nil : marks ≠ []
  valid : ∀ m ∈ marks, m.Valid
  maximal : marks.IsChain Mark.Apart

instance decidableIsRow (marks : List Mark) : Decidable (IsRow marks) :=
  decidable_of_iff (marks ≠ [] ∧ (∀ m ∈ marks, m.Valid) ∧ marks.IsChain Mark.Apart)
    ⟨fun ⟨ne_nil, valid, maximal⟩ => ⟨ne_nil, valid, maximal⟩,
      fun ⟨ne_nil, valid, maximal⟩ => ⟨ne_nil, valid, maximal⟩⟩

/-- The marks spell the rows of a board. -/
structure IsLayout (layout : List (List Mark)) : Prop where
  ne_nil : layout ≠ []
  rows : ∀ marks ∈ layout, IsRow marks

instance decidableIsLayout (layout : List (List Mark)) : Decidable (IsLayout layout) :=
  decidable_of_iff (layout ≠ [] ∧ ∀ marks ∈ layout, IsRow marks)
    ⟨fun ⟨ne_nil, rows⟩ => ⟨ne_nil, rows⟩, fun ⟨ne_nil, rows⟩ => ⟨ne_nil, rows⟩⟩

/-- The text of the marks, row by row. -/
def spelling (layout : List (List Mark)) : List Char :=
  ['/'].intercalate (layout.map (List.flatMap Mark.text))

variable {known : Option (List String)} {cs rest name : List Char} {row cells : List Cell}
  {rows : List (List Cell)} {p : Piece} {b : Board} {m : Mark} {marks : List Mark}
  {layout : List (List Mark)}

namespace Mark

theorem mem_body {braced : Bool} : ∀ c ∈ name, c ∈ body braced name := by
  intro c hc
  cases braced <;> simp [body, hc]

theorem exists_head_body (braced : Bool) (word : Text.isWord name) :
    ∃ c cs, body braced name = c :: cs ∧ (c = '\x7b' ∨ Text.isLetter c) := by
  obtain ⟨hne, letters⟩ := Text.isWord_iff.1 word
  cases braced with
  | true => exact ⟨'\x7b', _, rfl, .inl rfl⟩
  | false =>
    obtain ⟨c, cs, rfl⟩ := List.exists_cons_of_ne_nil hne
    exact ⟨c, cs, rfl, .inr (letters c List.mem_cons_self)⟩

theorem exists_head_piece (yellow braced : Bool) (word : Text.isWord name) :
    ∃ c cs, (piece yellow braced name).text = c :: cs ∧ (c = '!' ∨ c = '\x7b' ∨ Text.isLetter c) := by
  cases yellow with
  | true => exact ⟨'!', _, rfl, .inl rfl⟩
  | false =>
    obtain ⟨c, cs, hbody, hc⟩ := exists_head_body braced word
    exact ⟨c, cs, hbody, .inr hc⟩

theorem Valid.exists_head (valid : m.Valid) (ascii : ∀ c ∈ m.text, Text.isAscii c) :
    ∃ c cs, m.text = c :: cs ∧
      (m.IsGap ∧ Text.isDigit c ∨ ¬ m.IsGap ∧ (c = '!' ∨ c = '\x7b' ∨ Text.isLetter c)) := by
  cases m with
  | gap digits =>
    obtain ⟨hne, digit, -⟩ := valid
    obtain ⟨c, cs, rfl⟩ := List.exists_cons_of_ne_nil hne
    exact ⟨c, cs, rfl, .inl ⟨trivial, Text.isDigit_of_char (digit c List.mem_cons_self)⟩⟩
  | piece yellow braced name =>
    obtain ⟨hne, oneCase, -⟩ := valid
    have word := oneCase.isWord hne fun c hc => ascii c (List.mem_append_right _ (mem_body c hc))
    obtain ⟨c, cs, htext, hc⟩ := exists_head_piece yellow braced word
    exact ⟨c, cs, htext, .inr ⟨id, hc⟩⟩

/-- A piece does not begin like a gap. -/
theorem not_isDigit_piece (yellow braced : Bool) (word : Text.isWord name) (rest : List Char) :
    ∀ c ∈ ((piece yellow braced name).text ++ rest).head?, ¬ Text.isDigit c := by
  intro c hc
  obtain ⟨d, ds, htext, hd⟩ := exists_head_piece yellow braced word
  obtain rfl : d = c := by simpa [htext] using hc
  rcases hd with rfl | rfl | letter
  · decide
  · decide
  · exact Text.not_isDigit_of_isLetter letter

end Mark

theorem readName_body {braced : Bool} (letters : ∀ c ∈ name, Text.isLetter c)
    (single : braced ∨ name.length = 1) (rest : List Char) :
    readName (Mark.body braced name ++ rest) = .ok (name, rest) := by
  cases braced with
  | true =>
    have unbraced : '\x7d' ∉ name := fun hc => (Piece.ne_of_isLetter (letters _ hc)).2.1 rfl
    rw [Mark.body, if_pos rfl, List.cons_append, List.append_assoc, List.singleton_append,
      readName_braces unbraced]
  | false =>
    obtain ⟨c, rfl⟩ := List.length_eq_one_iff.1 (single.resolve_left Bool.false_ne_true)
    exact readName_letter (letters c List.mem_cons_self) rest

/-- A piece is read whole and stands for its name, in whatever script that is. -/
theorem readPiece_name {yellow braced : Bool} (hname : isName name) (single : braced ∨ name.length = 1)
    (hknown : known.all fun symbols => symbols.contains (namedPiece yellow name).symbol)
    (rest : List Char) : readPiece known ((Mark.piece yellow braced name).text ++ rest) =
      .ok (namedPiece yellow name, rest) := by
  have word := isWord_of_isName hname
  have read := readName_body (Text.isWord_iff.1 word).2 single rest
  have mark : ((Mark.piece yellow braced name).text ++ rest).head? = some '!' ↔ yellow := by
    cases yellow with
    | true => simp [Mark.text]
    | false =>
      obtain ⟨c, cs, hbody, hc⟩ := Mark.exists_head_body braced word
      have unmarked : c ≠ '!' := by
        rcases hc with rfl | letter
        · decide
        · exact (Piece.ne_of_isLetter letter).2.2.1
      simp [Mark.text, hbody, unmarked]
  refine readPiece_eq_ok_iff.2 ⟨name, ?_, hname, ?_, hknown⟩
  · simp only [mark]
    cases yellow <;> exact read
  · rw [Bool.eq_iff_iff.2 (beq_iff_eq.trans mark)]

theorem exists_body_of_readName (h : readName cs = .ok (name, rest)) : ∃ braced : Bool,
    cs = Mark.body braced name ++ rest ∧ (braced ∨ name.length = 1) := by
  cases cs with
  | nil => cases h
  | cons c cs =>
    rw [readName] at h
    split at h
    · rename_i brace
      have parts := List.takeWhile_append_dropWhile (p := (· ≠ '\x7d')) (l := cs)
      have stop := List.head?_dropWhile_not (· ≠ '\x7d') cs
      split at h
      · cases h
      · rename_i d behind hbehind
        cases h
        rw [hbehind] at parts stop
        obtain rfl : d = '\x7d' := by simpa using stop
        refine ⟨true, ?_, .inl rfl⟩
        rw [Mark.body, if_pos rfl, List.cons_append, List.append_assoc, List.singleton_append, parts,
          brace]
    · split at h
      · cases h
        exact ⟨false, rfl, .inr rfl⟩
      · cases h

theorem exists_name_of_readPiece (h : readPiece known cs = .ok (p, rest)) :
    ∃ (yellow braced : Bool) (name : List Char), cs = (Mark.piece yellow braced name).text ++ rest ∧
      isName name ∧ (braced ∨ name.length = 1) ∧ namedPiece yellow name = p ∧
      known.all fun symbols => symbols.contains p.symbol := by
  obtain ⟨name, hname, valid, hpiece, hknown⟩ := readPiece_eq_ok_iff.1 h
  obtain ⟨braced, hbody, single⟩ := exists_body_of_readName hname
  refine ⟨cs.head? == some '!', braced, name, ?_, valid, single, hpiece, hknown⟩
  rw [Mark.text, List.append_assoc, ← hbody]
  by_cases mark : cs.head? = some '!'
  · obtain ⟨cs, rfl⟩ := List.head?_eq_some_iff.1 mark
    rfl
  · simp [mark]

/-- What is read of a row is put behind what has been read of it. -/
theorem rowsFrom_of_readCells (h : readCells known cs = .ok (cells, rest)) :
    rowsFrom known row cs = rowsFrom known (row ++ cells) rest := by
  cases cs with
  | nil => cases h
  | cons c cs =>
    have noSlash : c ≠ '/' := by
      rintro rfl
      cases h
    rw [rowsFrom_cells (List.cons_ne_nil c cs) (by simpa using noSlash), h]
    rfl

end Board

end VariantChess
