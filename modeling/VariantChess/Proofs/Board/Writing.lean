import VariantChess.Proofs.Board.Cells
import VariantChess.Proofs.Board.Reading
import VariantChess.Proofs.Text.Case
import VariantChess.Proofs.Text.Digit

/-!
# Reading what was written

A piece is *legible* if the name that is written for it is read as the piece again. What stands behind
it does not matter: a name is a single letter or ends at its brace, a gap takes all digits, and neither
begins like the other. So a board whose pieces are legible can be read back cell by cell
(`read_text_of_legible`), all pieces being as if they had never been moved. Symbols of lower-case ASCII
letters are legible for every side (`read_text`). The gaps must not be of more cells than a row can have
(`Fits`), which they never are in memory.
-/

namespace VariantChess

open Text (takeWhile_run dropWhile_run)

namespace Piece

/-- The piece as if it had never been moved. -/
def rested (p : Piece) : Piece := { p with hasMoved := false }

/-- The name that is written for the piece: its symbol, in upper case for white. -/
def name (p : Piece) : List Char :=
  if p.color = .white then Text.upper p.symbol.toList else p.symbol.toList

/-- The name of the piece is a name, and it is read as the piece. -/
structure Legible (p : Piece) : Prop where
  isName : Board.isName p.name
  read : Board.namedPiece (p.color == .yellow) p.name = p.rested
  /-- A symbol that is written without braces has a name that can be. -/
  single : p.symbol.length = 1 → p.name.length = 1

variable {p : Piece}

theorem legible_of_white (white : p.color = .white) (word : Text.isWord (Text.upper p.symbol.toList))
    (upper : Text.isUpper (Text.upper p.symbol.toList))
    (back : Text.lower (Text.upper p.symbol.toList) = p.symbol.toList)
    (single : p.symbol.length = 1 → (Text.upper p.symbol.toList).length = 1) : p.Legible := by
  have name : p.name = Text.upper p.symbol.toList := by rw [Piece.name, if_pos white]
  refine ⟨?_, ?_, by rwa [name]⟩
  · rw [name, Board.isName, word, upper]
    rfl
  · simp [Board.namedPiece, rested, name, upper, back, white]

theorem legible_of_black (black : p.color = .black) (word : Text.isWord p.symbol.toList)
    (lower : Text.isLower p.symbol.toList) (back : Text.lower p.symbol.toList = p.symbol.toList) :
    p.Legible := by
  have name : p.name = p.symbol.toList := by rw [Piece.name, if_neg (by rw [black]; decide)]
  refine ⟨?_, ?_, fun h => by rw [name]; exact h⟩
  · rw [name, Board.isName, word, lower, Bool.or_true]
    rfl
  · simp [Board.namedPiece, rested, name, Text.not_isUpper_of_isLower lower, back, black]

theorem legible_of_yellow (yellow : p.color = .yellow) (word : Text.isWord p.symbol.toList)
    (cased : Text.isUpper p.symbol.toList ∨ Text.isLower p.symbol.toList)
    (back : Text.lower p.symbol.toList = p.symbol.toList) : p.Legible := by
  have name : p.name = p.symbol.toList := by rw [Piece.name, if_neg (by rw [yellow]; decide)]
  refine ⟨?_, ?_, fun h => by rw [name]; exact h⟩
  · rw [name, Board.isName, word, Bool.or_eq_true_iff.2 cased]
    rfl
  · simp [Board.namedPiece, rested, name, back, yellow]

/-- A symbol of lower-case ASCII letters is legible for every side. -/
theorem legible_of_plain (plain : Text.Plain p.symbol.toList) : p.Legible := by
  have letters : ∀ c ∈ p.symbol.toList, Text.isLetter c := fun c hc => (plain.small c hc).1
  cases hcolor : p.color with
  | white =>
    have hne : Text.upper p.symbol.toList ≠ [] := by
      rw [plain.upper_eq]
      simpa using plain.1
    have length : (Text.upper p.symbol.toList).length = p.symbol.length := by
      rw [plain.upper_eq, List.length_map, String.length_toList]
    exact legible_of_white hcolor (Text.isWord_iff.2 ⟨hne, fun c hc => (plain.capital c hc).1⟩)
      (Text.isUpper_of_capital hne plain.capital) plain.lower_upper fun h => length.trans h
  | black =>
    exact legible_of_black hcolor (Text.isWord_iff.2 ⟨plain.1, letters⟩)
      (Text.isLower_of_small plain.1 plain.small) plain.lower_eq
  | yellow =>
    exact legible_of_yellow hcolor (Text.isWord_iff.2 ⟨plain.1, letters⟩)
      (.inr (Text.isLower_of_small plain.1 plain.small)) plain.lower_eq

/-- What is written: the name, in braces unless the symbol is a single character, and the mark of a
yellow piece in front of it. -/
theorem text_eq (p : Piece) : p.text = (if p.color = .yellow then ['!'] else []) ++
    (if p.symbol.length = 1 then p.name else '\x7b' :: (p.name ++ ['\x7d'])) := by
  have braces : Text.upper ('\x7b' :: (p.symbol.toList ++ ['\x7d'])) =
      '\x7b' :: (Text.upper p.symbol.toList ++ ['\x7d']) := by
    simp only [Text.upper, List.flatMap_cons, List.flatMap_append]
    rfl
  by_cases single : p.symbol.length = 1
  · cases hcolor : p.color <;> simp [text, name, hcolor, single]
  · cases hcolor : p.color <;> simp [text, name, hcolor, single, braces]

/-- What is written for the piece is made of letters and dots. -/
structure Lettered (p : Piece) : Prop where
  ne_nil : p.name ≠ []
  letters : ∀ c ∈ p.name, Text.isLetter c ∨ c = Text.dotAbove

theorem Legible.isLetter (legible : p.Legible) : ∀ c ∈ p.name, Text.isLetter c := by
  have named := legible.isName
  simp only [Board.isName, Text.isWord, Bool.and_eq_true, List.all_eq_true] at named
  exact named.1.2

theorem Legible.lettered (legible : p.Legible) : p.Lettered where
  ne_nil := by
    have named := legible.isName
    simp only [Board.isName, Text.isWord, Bool.and_eq_true, Bool.not_eq_true'] at named
    exact fun hnil => by simp [hnil] at named
  letters := fun c hc => .inl (legible.isLetter c hc)

/-- A letter is none of the signs of the notation. -/
theorem ne_of_isLetter {c : Char} (h : Text.isLetter c) :
    c ≠ '\x7b' ∧ c ≠ '\x7d' ∧ c ≠ '!' ∧ c ≠ '/' := by
  refine ⟨?_, ?_, ?_, ?_⟩ <;> rintro rfl <;> exact absurd h (by decide)

namespace Lettered

theorem ne (lettered : p.Lettered) {c : Char} (hc : c ∈ p.name) :
    c ≠ '\x7b' ∧ c ≠ '\x7d' ∧ c ≠ '!' ∧ c ≠ '/' := by
  rcases lettered.letters c hc with letter | rfl
  · exact ne_of_isLetter letter
  · decide

/-- What is written for a piece begins with the mark if it is yellow, or else with its name or the brace
before it. -/
theorem exists_head (lettered : p.Lettered) : ∃ c cs, p.text = c :: cs ∧
    (p.color = .yellow ∧ c = '!' ∨ p.color ≠ .yellow ∧ (c = '\x7b' ∨ c ∈ p.name)) := by
  rw [text_eq]
  by_cases yellow : p.color = .yellow
  · rw [if_pos yellow]
    exact ⟨_, _, rfl, .inl ⟨yellow, rfl⟩⟩
  · rw [if_neg yellow, List.nil_append]
    by_cases single : p.symbol.length = 1
    · rw [if_pos single]
      obtain ⟨c, cs, hname⟩ := List.exists_cons_of_ne_nil lettered.ne_nil
      exact ⟨c, cs, hname, .inr ⟨yellow, .inr (by rw [hname]; exact List.mem_cons_self)⟩⟩
    · rw [if_neg single]
      exact ⟨_, _, rfl, .inr ⟨yellow, .inl rfl⟩⟩

/-- Neither a gap nor a row can be taken for a piece. -/
theorem apart (lettered : p.Lettered) (rest : List Char) :
    ∀ c ∈ (p.text ++ rest).head?, ¬ Text.isDigit c ∧ c ≠ '/' := by
  intro c hc
  obtain ⟨d, ds, htext, hd⟩ := lettered.exists_head
  obtain rfl : d = c := by simpa [htext] using hc
  rcases hd with ⟨-, rfl⟩ | ⟨-, rfl | hname⟩
  · decide
  · decide
  · refine ⟨?_, (lettered.ne hname).2.2.2⟩
    rcases lettered.letters d hname with letter | rfl
    · exact Text.not_isDigit_of_isLetter letter
    · decide +kernel

/-- Nothing that is written for a piece is a blank. -/
theorem not_isBlank (lettered : p.Lettered) : ∀ c ∈ p.text, ¬ Text.isBlank c := by
  intro c hc
  have parts : c = '!' ∨ c = '\x7b' ∨ c = '\x7d' ∨ c ∈ p.name := by
    rw [text_eq, List.mem_append] at hc
    rcases hc with hc | hc
    · split at hc <;> simp_all
    · split at hc
      · exact .inr (.inr (.inr hc))
      · simp only [List.mem_cons, List.mem_append, List.not_mem_nil, or_false] at hc
        rcases hc with hc | hc | hc
        exacts [.inr (.inl hc), .inr (.inr (.inr hc)), .inr (.inr (.inl hc))]
  rcases parts with rfl | rfl | rfl | hname
  · decide
  · decide
  · decide
  · rcases lettered.letters c hname with letter | rfl
    · exact Text.not_isBlank_of_isLetter letter
    · decide +kernel

end Lettered

end Piece

namespace Board

variable {known : Option (List String)} {cs rest name : List Char} {row cells : List Cell} {p : Piece}
  {b : Board}

/-! ### Pieces and gaps -/

theorem readName_letter {c : Char} (letter : Text.isLetter c) (rest : List Char) :
    readName (c :: rest) = .ok ([c], rest) := by
  rw [readName, if_neg (Piece.ne_of_isLetter letter).1, if_pos letter]

theorem readName_braces (h : '\x7d' ∉ name) (rest : List Char) :
    readName ('\x7b' :: (name ++ '\x7d' :: rest)) = .ok (name, rest) := by
  have inside : ∀ c ∈ name, decide (c ≠ '\x7d') = true := fun c hc =>
    decide_eq_true fun heq => h (heq ▸ hc)
  have stop : ∀ c ∈ ('\x7d' :: rest).head?, ¬ decide (c ≠ '\x7d') = true := by simp
  rw [readName, if_pos rfl, takeWhile_run inside stop, dropWhile_run inside stop]

theorem readName_text (legible : p.Legible) (rest : List Char) :
    readName ((if p.symbol.length = 1 then p.name else '\x7b' :: (p.name ++ ['\x7d'])) ++ rest) =
      .ok (p.name, rest) := by
  by_cases single : p.symbol.length = 1
  · obtain ⟨c, hname⟩ := List.length_eq_one_iff.1 (legible.single single)
    have letter : Text.isLetter c := legible.isLetter c (by rw [hname]; exact List.mem_cons_self)
    rw [if_pos single, hname, List.singleton_append, readName_letter letter]
  · have unbraced : '\x7d' ∉ p.name := fun hc => (legible.lettered.ne hc).2.1 rfl
    rw [if_neg single, List.cons_append, List.append_assoc, List.singleton_append,
      readName_braces unbraced]

/-- The mark of a yellow piece is told apart from a name. -/
theorem head?_eq_mark_iff (lettered : p.Lettered) (rest : List Char) :
    (p.text ++ rest).head? = some '!' ↔ p.color = .yellow := by
  obtain ⟨c, cs, htext, hc⟩ := lettered.exists_head
  rw [htext, List.cons_append, List.head?_cons, Option.some_inj]
  rcases hc with ⟨yellow, rfl⟩ | ⟨plain, rfl | hname⟩
  · exact iff_of_true rfl yellow
  · exact iff_of_false (by decide) plain
  · exact iff_of_false (lettered.ne hname).2.2.1 plain

/-- What is read for a written piece: its name, without the mark. -/
theorem readPiece_text_eq_ok_iff (lettered : p.Lettered) {q : Piece} {rest rest' : List Char} :
    readPiece known (p.text ++ rest) = .ok (q, rest') ↔ ∃ name,
      readName ((if p.symbol.length = 1 then p.name else '\x7b' :: (p.name ++ ['\x7d'])) ++ rest) =
        .ok (name, rest') ∧ isName name ∧ namedPiece (p.color == .yellow) name = q ∧
      (known.all fun symbols => symbols.contains q.symbol) := by
  have mark := head?_eq_mark_iff lettered rest
  have same : ((p.text ++ rest).head? == some '!') = (p.color == .yellow) := by
    rw [Bool.eq_iff_iff, beq_iff_eq, beq_iff_eq, mark]
  have body : (if (p.text ++ rest).head? = some '!' then (p.text ++ rest).drop 1 else p.text ++ rest) =
      (if p.symbol.length = 1 then p.name else '\x7b' :: (p.name ++ ['\x7d'])) ++ rest := by
    by_cases yellow : p.color = .yellow
    · rw [if_pos (mark.2 yellow), Piece.text_eq, if_pos yellow]
      rfl
    · rw [if_neg fun h => yellow (mark.1 h), Piece.text_eq, if_neg yellow, List.nil_append]
  rw [readPiece_eq_ok_iff, body, same]

/-- A legible piece is read as it was written, whatever stands behind it. -/
theorem readPiece_text (legible : p.Legible)
    (hknown : known.all fun symbols => symbols.contains p.symbol) (rest : List Char) :
    readPiece known (p.text ++ rest) = .ok (p.rested, rest) :=
  (readPiece_text_eq_ok_iff legible.lettered).2
    ⟨p.name, readName_text legible rest, legible.isName, legible.read, hknown⟩

/-- Cells that begin with a piece begin with what is read for it. -/
theorem rowsFrom_text_piece (lettered : p.Lettered) (row : List Cell) (rest : List Char) :
    rowsFrom known row (p.text ++ rest) =
      readPiece known (p.text ++ rest) >>= fun read => rowsFrom known (row ++ [some read.1]) read.2 := by
  have apart := lettered.apart rest
  have nonempty : p.text ++ rest ≠ [] := by
    obtain ⟨c, cs, htext, -⟩ := lettered.exists_head
    simp [htext]
  have noGap : ([] ++ (p.text ++ rest)).takeWhile Text.isDigit = [] :=
    takeWhile_run (by simp) fun c hc => (apart c hc).1
  rw [List.nil_append] at noGap
  rw [rowsFrom_cells nonempty fun hslash => (apart '/' hslash).2 rfl, readCells, noGap]
  cases readPiece known (p.text ++ rest) <;> rfl

theorem rowsFrom_piece (legible : p.Legible)
    (hknown : known.all fun symbols => symbols.contains p.symbol) (row : List Cell) (rest : List Char) :
    rowsFrom known row (p.text ++ rest) = rowsFrom known (row ++ [some p.rested]) rest := by
  rw [rowsFrom_text_piece legible.lettered, readPiece_text legible hknown]
  rfl

/-- A number of places that a row can have is read as it is written. -/
theorem isCount_toDigits {n : Nat} (lt : n < placeLimit) : IsCount (Nat.toDigits 10 n) where
  numeral := Text.isNumeral_toDigits n
  short := by
    have limit : placeLimit ≤ 10 ^ Text.digitLimit :=
      (Nat.pow_le_pow_left (by decide : 2 ≤ 10) 63).trans (Nat.pow_le_pow_right (by decide) (by decide))
    exact Text.isWritable_iff.1 (Text.isWritable_iff_lt.2 (Nat.lt_of_lt_of_le lt limit))
  lt := by rwa [Text.value_toDigits]

theorem rowsFrom_gap {n : Nat} (positive : 0 < n) (lt : n < placeLimit) (stop : ∀ c ∈ rest.head?, ¬ Text.isDigit c)
    (row : List Cell) : rowsFrom known row (gapText n ++ rest) =
      rowsFrom known (row ++ List.replicate n none) rest := by
  have count := isCount_toDigits lt
  have numeral := count.numeral
  rw [gapText, if_neg (by omega)]
  have nonempty : Nat.toDigits 10 n ++ rest ≠ [] := by simp [numeral.1]
  have noSlash : (Nat.toDigits 10 n ++ rest).head? ≠ some '/' := by
    obtain ⟨d, ds, hdigits⟩ := List.exists_cons_of_ne_nil numeral.1
    rw [hdigits]
    rintro ⟨⟩
    exact absurd (numeral.isDigit '/' (by rw [hdigits]; exact List.mem_cons_self)) (by decide)
  rw [rowsFrom_cells nonempty noSlash, readCells, takeWhile_run numeral.isDigit stop,
    dropWhile_run numeral.isDigit stop]
  split
  · rename_i hnil
    exact absurd hnil numeral.1
  · rw [gapSize_eq_ok_iff.2 ⟨count, Text.value_toDigits n⟩]
    obtain ⟨n, rfl⟩ : ∃ k, n = k + 1 := ⟨n - 1, by omega⟩
    rfl

theorem rowsFrom_gapText {n : Nat} (lt : n < placeLimit) (stop : ∀ c ∈ rest.head?, ¬ Text.isDigit c)
    (row : List Cell) :
    rowsFrom known row (gapText n ++ rest) = rowsFrom known (row ++ List.replicate n none) rest := by
  rcases Nat.eq_zero_or_pos n with rfl | positive
  · simp [gapText]
  · exact rowsFrom_gap positive lt stop row

/-! ### Gaps that are not too large -/

/-- Behind a gap of `gap` cells: neither this gap nor another one of the row is of more cells than a row
can have. -/
def GapsFit (gap : Nat) : List Cell → Prop
  | [] => gap < placeLimit
  | none :: row => GapsFit (gap + 1) row
  | some _ :: row => gap < placeLimit ∧ GapsFit 0 row

theorem gapsFit_of_length {gap : Nat} (h : gap + cells.length < placeLimit) : GapsFit gap cells := by
  induction cells generalizing gap with
  | nil => exact h
  | cons cell cells ih =>
    rw [List.length_cons] at h
    cases cell with
    | none => exact ih (by omega)
    | some p => exact ⟨by omega, ih (by omega)⟩

/-- No gap of the board is of more cells than a row can have. -/
def Fits (b : Board) : Prop := ∀ row ∈ b.rows, GapsFit 0 row

/-- Rows that are not too long have no gaps that are too large. -/
theorem fits_of_width (h : b.width < placeLimit) : b.Fits := by
  intro row hrow
  exact gapsFit_of_length (by rwa [Nat.zero_add, b.length_of_mem row hrow])

/-! ### Rows -/

/-- The cells as if no piece had ever been moved. -/
def restedRow (row : List Cell) : List Cell := row.map (Option.map Piece.rested)

/-- A row is read cell by cell up to what stands behind it. -/
theorem rowsFrom_rowText {gap : Nat} (fits : GapsFit gap cells)
    (legible : ∀ p, some p ∈ cells → p.Legible)
    (hknown : ∀ p, some p ∈ cells → known.all fun symbols => symbols.contains p.symbol)
    (stop : ∀ c ∈ rest.head?, c = '/') (row : List Cell) :
    rowsFrom known row (rowText gap cells ++ rest) =
      rowsFrom known (row ++ (List.replicate gap none ++ restedRow cells)) rest := by
  induction cells generalizing gap row with
  | nil =>
    have noDigit : ∀ c ∈ rest.head?, ¬ Text.isDigit c := by
      intro c hc
      rw [stop c hc]
      decide
    rw [rowText, rowsFrom_gapText fits noDigit, restedRow, List.map_nil, List.append_nil]
  | cons cell cells ih =>
    have legible' : ∀ p, some p ∈ cells → p.Legible := fun p hp => legible p (List.mem_cons_of_mem _ hp)
    have hknown' : ∀ p, some p ∈ cells → known.all fun symbols => symbols.contains p.symbol :=
      fun p hp => hknown p (List.mem_cons_of_mem _ hp)
    cases cell with
    | none =>
      rw [rowText, ih fits legible' hknown']
      simp [restedRow, List.replicate_succ']
    | some p =>
      have hp : p.Legible := legible p List.mem_cons_self
      rw [rowText, List.append_assoc, List.append_assoc,
        rowsFrom_gapText fits.1 fun c hc => (hp.lettered.apart _ c hc).1,
        rowsFrom_piece hp (hknown p List.mem_cons_self), ih fits.2 legible' hknown']
      simp [restedRow]

/-- Rows are read row by row. -/
theorem rowsFrom_text {rows : List (List Cell)} (hne : rows ≠ []) (nonempty : ∀ row ∈ rows, row ≠ [])
    (fits : ∀ row ∈ rows, GapsFit 0 row)
    (legible : ∀ row ∈ rows, ∀ p, some p ∈ row → p.Legible)
    (hknown : ∀ row ∈ rows, ∀ p, some p ∈ row → known.all fun symbols => symbols.contains p.symbol) :
    rowsFrom known [] (['/'].intercalate (rows.map (rowText 0))) = .ok (rows.map restedRow) := by
  induction rows with
  | nil => contradiction
  | cons row rows ih =>
    obtain ⟨hrow, hrows⟩ := List.forall_mem_cons.1 nonempty
    obtain ⟨hfits, hfits'⟩ := List.forall_mem_cons.1 fits
    obtain ⟨hlegible, hlegible'⟩ := List.forall_mem_cons.1 legible
    obtain ⟨hsymbols, hsymbols'⟩ := List.forall_mem_cons.1 hknown
    have filled : ¬ (restedRow row).isEmpty := by simpa [restedRow] using hrow
    cases rows with
    | nil =>
      have last : ∀ c ∈ ([] : List Char).head?, c = '/' := by simp
      rw [List.map_singleton, List.intercalate_singleton, ← List.append_nil (rowText 0 row),
        rowsFrom_rowText hfits hlegible hsymbols last, List.nil_append, List.replicate_zero,
        List.nil_append, rowsFrom_nil, if_neg filled]
      rfl
    | cons row' rows =>
      have slash : ∀ c ∈ ('/' :: ['/'].intercalate ((row' :: rows).map (rowText 0))).head?, c = '/' := by
        simp
      rw [List.map_cons, List.map_cons, List.intercalate_cons_cons, ← List.map_cons, List.append_assoc,
        List.singleton_append, rowsFrom_rowText hfits hlegible hsymbols slash, List.nil_append,
        List.replicate_zero, List.nil_append, rowsFrom_slash, if_neg filled,
        ih (List.cons_ne_nil row' rows) hrows hfits' hlegible' hsymbols']
      rfl

/-! ### Boards -/

/-- The board as if no piece had ever been moved. -/
def rested (b : Board) : Board where
  width := b.width
  rows := b.rows.map restedRow
  length_of_mem := by
    intro row h
    obtain ⟨row, hrow, rfl⟩ := List.mem_map.1 h
    rw [restedRow, List.length_map, b.length_of_mem row hrow]

theorem widest_eq {rows : List (List Cell)} {width : Nat} (hne : rows ≠ [])
    (h : ∀ row ∈ rows, row.length = width) : widest rows = width := by
  induction rows with
  | nil => contradiction
  | cons row rows ih =>
    obtain ⟨hrow, hrows⟩ := List.forall_mem_cons.1 h
    cases rows with
    | nil => simp [widest, hrow]
    | cons row' rows => rw [widest, hrow, ih (List.cons_ne_nil row' rows) hrows, Nat.max_self]

/-- Nothing has to be filled up in the rows of a board. -/
theorem ofRows_rows (h : 0 < b.height) : ofRows b.rows = b := by
  have hne : b.rows ≠ [] := List.length_pos_iff.1 h
  have width : widest b.rows = b.width := widest_eq hne b.length_of_mem
  have full : b.rows.map (fill b.width) = b.rows := by
    refine List.map_congr_left (g := id) (fun row hrow => ?_) |>.trans (List.map_id _)
    simp [fill, b.length_of_mem row hrow]
  rcases b with ⟨width', rows, hrows⟩
  simp only [ofRows] at *
  simp [width, full]

theorem exists_mem_pieces {row : List Cell} (hrow : row ∈ b.rows) (hp : some p ∈ row) :
    ∃ s, (s, p) ∈ b.pieces := by
  obtain ⟨y, hy⟩ := List.mem_iff_getElem?.1 hrow
  obtain ⟨x, hx⟩ := List.mem_iff_getElem?.1 hp
  refine ⟨⟨x, y⟩, mem_pieces.2 ?_⟩
  rw [cell_natCast, hy, Option.getD_some, hx, Option.getD_some]

/-! ### Blanks -/

theorem not_isBlank_of_isDigit {c : Char} (h : c.isDigit) : ¬ Text.isBlank c := by
  have ascii : Text.isAscii c := by
    have high : c.toNat ≤ 57 := (Char.isDigit_iff_toNat.1 h).2
    simp only [Text.isAscii, decide_eq_true_eq]
    omega
  revert h
  exact Text.forall_ascii (by decide +kernel) ascii

theorem not_isBlank_of_mem_gapText {n : Nat} {c : Char} (h : c ∈ gapText n) : ¬ Text.isBlank c := by
  rw [gapText] at h
  split at h
  · cases h
  · exact not_isBlank_of_isDigit (Nat.isDigit_of_mem_toDigits (by decide) (by decide) h)

theorem not_isBlank_of_mem_rowText (lettered : ∀ p, some p ∈ cells → p.Lettered) {gap : Nat} {c : Char}
    (h : c ∈ rowText gap cells) : ¬ Text.isBlank c := by
  induction cells generalizing gap with
  | nil => exact not_isBlank_of_mem_gapText h
  | cons cell cells ih =>
    have lettered' : ∀ p, some p ∈ cells → p.Lettered := fun p hp =>
      lettered p (List.mem_cons_of_mem _ hp)
    cases cell with
    | none => exact ih lettered' h
    | some p =>
      rw [rowText, List.mem_append, List.mem_append] at h
      rcases h with (h | h) | h
      · exact not_isBlank_of_mem_gapText h
      · exact (lettered p List.mem_cons_self).not_isBlank c h
      · exact ih lettered' h

theorem not_isBlank_of_mem_text {rows : List (List Cell)} {c : Char}
    (lettered : ∀ row ∈ rows, ∀ p, some p ∈ row → p.Lettered)
    (h : c ∈ ['/'].intercalate (rows.map (rowText 0))) : ¬ Text.isBlank c := by
  induction rows with
  | nil => simp at h
  | cons row rows ih =>
    obtain ⟨hlettered, hlettered'⟩ := List.forall_mem_cons.1 lettered
    cases rows with
    | nil =>
      rw [List.map_singleton, List.intercalate_singleton] at h
      exact not_isBlank_of_mem_rowText hlettered h
    | cons row' rows =>
      rw [List.map_cons, List.map_cons, List.intercalate_cons_cons, ← List.map_cons, List.mem_append,
        List.mem_append] at h
      rcases h with (h | h) | h
      · exact not_isBlank_of_mem_rowText hlettered h
      · rw [List.mem_singleton.1 h]
        decide
      · exact ih hlettered' h

/-- What is written has no blanks that would have to be left out. -/
theorem compact_text (lettered : ∀ row ∈ b.rows, ∀ p, some p ∈ row → p.Lettered) :
    Text.compact b.text.toList = ['/'].intercalate (b.rows.map (rowText 0)) := by
  rw [text, String.toList_ofList, Text.compact, List.filter_eq_self]
  intro c hc
  simpa using not_isBlank_of_mem_text lettered hc

/-! ### Reading back -/

/-- A board that is not empty and whose pieces are legible is read as it was written. -/
theorem read_text_of_legible (wide : 0 < b.width) (tall : 0 < b.height) (fits : b.Fits)
    (legible : ∀ p ∈ b.pieces, p.2.Legible)
    (hknown : ∀ p ∈ b.pieces, known.all fun symbols => symbols.contains p.2.symbol) :
    read b.text known = .ok b.rested := by
  have hne : b.rows ≠ [] := List.length_pos_iff.1 tall
  have nonempty : ∀ row ∈ b.rows, row ≠ [] := fun row hrow hnil => by
    have := b.length_of_mem row hrow
    rw [hnil, List.length_nil] at this
    omega
  have legible' : ∀ row ∈ b.rows, ∀ p, some p ∈ row → p.Legible := fun row hrow p hp => by
    obtain ⟨s, hs⟩ := exists_mem_pieces hrow hp
    exact legible _ hs
  have hknown' : ∀ row ∈ b.rows, ∀ p, some p ∈ row →
      known.all fun symbols => symbols.contains p.symbol := fun row hrow p hp => by
    obtain ⟨s, hs⟩ := exists_mem_pieces hrow hp
    exact hknown _ hs
  have rows := rowsFrom_text hne nonempty fits legible' hknown'
  rw [read_eq_ok_iff, compact_text fun row hrow p hp => (legible' row hrow p hp).lettered]
  refine ⟨fun hnil => ?_, _, rows, ?_⟩
  · rw [hnil] at rows
    cases rows
  · exact ofRows_rows (b := b.rested) (by rwa [height, rested, List.length_map])

theorem rested_eq_self (h : ∀ p ∈ b.pieces, ¬ p.2.hasMoved) : b.rested = b := by
  have same : ∀ row ∈ b.rows, restedRow row = row := by
    intro row hrow
    refine (List.map_congr_left fun cell hcell => ?_).trans (List.map_id row)
    cases cell with
    | none => rfl
    | some p =>
      obtain ⟨s, hs⟩ := exists_mem_pieces hrow hcell
      have unmoved : p.hasMoved = false := by simpa using h _ hs
      simp [Piece.rested, ← unmoved]
  have rows : b.rows.map restedRow = b.rows := (List.map_congr_left same).trans (List.map_id _)
  rcases b with ⟨width, rows', hrows⟩
  simpa [rested] using rows

/-- The board has cells, and every symbol on it consists of lower-case ASCII letters. Its gaps fit into
rows: no row has as many places as `placeLimit`, so they fit on every board that there can be
(`fits_of_width`). -/
structure Spelled (b : Board) : Prop where
  wide : 0 < b.width
  tall : 0 < b.height
  fits : b.Fits
  plain : ∀ p ∈ b.pieces, Text.Plain p.2.symbol.toList

/-- The text of such a board is read as the board with no piece moved; so two of them on which no piece
has been moved have the same text only if they are the same. -/
theorem read_text (spelled : b.Spelled) :
    read b.text none = .ok b.rested ∧
      ∀ b' : Board, b'.Spelled → (∀ p ∈ b.pieces, ¬ p.2.hasMoved) →
        (∀ p ∈ b'.pieces, ¬ p.2.hasMoved) → (b.text = b'.text ↔ b = b') := by
  have back : ∀ {b : Board}, b.Spelled → read b.text none = .ok b.rested := fun {b} spelled =>
    read_text_of_legible spelled.wide spelled.tall spelled.fits
      (fun p hp => Piece.legible_of_plain (spelled.plain p hp)) fun _ _ => rfl
  refine ⟨back spelled, fun b' spelled' unmoved unmoved' => ⟨fun same => ?_, congrArg text⟩⟩
  have both := back spelled
  rw [same, back spelled'] at both
  rw [← rested_eq_self unmoved, ← rested_eq_self unmoved']
  exact (Except.ok.inj both).symm

/-- Two boards with pieces of three sides, rows of unequal lengths and a gap of more than nine cells. -/
theorem read_text_three_sides :
    let b := ofRows [[some ⟨"k", .white, false⟩, none, some ⟨"r", .black, false⟩],
      List.replicate 11 none ++ [some ⟨"knight", .yellow, false⟩], [some ⟨"knight", .white, false⟩]]
    let b' := ofRows [[some ⟨"knight", .black, false⟩], [none, some ⟨"k", .yellow, false⟩]]
    b.Spelled ∧ b'.Spelled ∧ (∀ p ∈ b.pieces, ¬ p.2.hasMoved) ∧ (∀ p ∈ b'.pieces, ¬ p.2.hasMoved) ∧
      read b.text none = .ok b.rested ∧ (b.text = b'.text ↔ b = b') := by
  intro b b'
  have spelled : b.Spelled := ⟨by decide, by decide, fits_of_width (by decide), by decide⟩
  have spelled' : b'.Spelled := ⟨by decide, by decide, fits_of_width (by decide), by decide⟩
  have unmoved : ∀ p ∈ b.pieces, ¬ p.2.hasMoved := by decide
  have unmoved' : ∀ p ∈ b'.pieces, ¬ p.2.hasMoved := by decide
  obtain ⟨back, distinct⟩ := read_text spelled
  exact ⟨spelled, spelled', unmoved, unmoved', back, distinct b' spelled' unmoved unmoved'⟩

end Board

end VariantChess
