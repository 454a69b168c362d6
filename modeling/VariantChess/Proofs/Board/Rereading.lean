import VariantChess.Proofs.Board.Writing
import VariantChess.Proofs.Text.Recasing

/-!
# Reading, writing and reading again

A board that has been read is read again as it was written, unless the symbol of a piece on it does not
survive that. A name is put into lower case when it is read and, for white, into upper case when it is
written. That loses a sharp s and the dot of a dotted capital I; and a yellow piece is written in lower
case, whatever case its name was in, which need not be a name. There is no other exception in all of
Unicode, as long as the gaps of the rows can be read (`read_text_iff_respells`).
-/

namespace VariantChess

namespace Piece

/-- The piece is what some name stands for. -/
def Named (p : Piece) : Prop := ∃ yellow name, Board.isName name ∧ Board.namedPiece yellow name = p

/-- The symbol of the piece survives being written and read. -/
def Respells (p : Piece) : Prop :=
  match p.color with
  | .white => 'ß' ∉ p.symbol.toList ∧ Text.dotAbove ∉ p.symbol.toList
  | .black => True
  | .yellow => Text.dotAbove ∉ p.symbol.toList ∧
      (Text.isUpper p.symbol.toList ∨ Text.isLower p.symbol.toList)

variable {p : Piece}

theorem Named.rested_eq (named : p.Named) : p.rested = p := by
  obtain ⟨yellow, name, -, rfl⟩ := named
  rfl

/-- The symbol is a word in lower case. -/
theorem Named.exists_word (named : p.Named) : ∃ word, Text.isWord word ∧
    p.symbol.toList = Text.lower word ∧
      (Text.isUpper word ∧ p.color ≠ .black ∨ Text.isLower word ∧ p.color ≠ .white) := by
  obtain ⟨yellow, name, hname, rfl⟩ := named
  simp only [Board.isName, Bool.and_eq_true, Bool.or_eq_true] at hname
  obtain ⟨word, hcase⟩ := hname
  refine ⟨name, word, String.toList_ofList, ?_⟩
  rcases hcase with up | low
  · refine .inl ⟨up, ?_⟩
    simp only [Board.namedPiece, up]
    cases yellow <;> decide
  · have notUp : ¬ Text.isUpper name := Text.not_isUpper_of_isLower low
    refine .inr ⟨low, ?_⟩
    simp only [Board.namedPiece, notUp]
    cases yellow <;> decide

theorem Named.lettered (named : p.Named) : p.Lettered := by
  obtain ⟨word, hword, symbol, hcase⟩ := named.exists_word
  have hne : p.symbol.toList ≠ [] := by
    rw [symbol, ← List.length_pos_iff]
    have := List.length_pos_iff.2 (Text.isWord_iff.1 hword).1
    have := Text.length_le_lower word
    omega
  rcases hcase with ⟨up, -⟩ | ⟨low, white⟩
  · have chars := fun d (hd : d ∈ Text.lower word) => Text.isLetter_or_eq_dotAbove hword up hd
    by_cases white : p.color = .white
    · have name : p.name = Text.upper (Text.lower word) := by rw [Piece.name, if_pos white, symbol]
      refine ⟨fun hnil => ?_, fun e he => ?_⟩
      · obtain ⟨d, hd⟩ := List.exists_mem_of_ne_nil _ hne
        rw [symbol] at hd
        rw [name, Text.upper, List.flatMap_eq_nil_iff] at hnil
        exact (chars d hd).2.1 (hnil d hd)
      · rw [name, Text.upper, List.mem_flatMap] at he
        obtain ⟨d, hd, he⟩ := he
        exact (chars d hd).2.2 e he
    · have name : p.name = Text.lower word := by rw [Piece.name, if_neg white, symbol]
      exact ⟨by rwa [name, ← symbol], fun d hd => (chars d (name ▸ hd)).1⟩
  · have name : p.name = word := by
      rw [Piece.name, if_neg white, symbol, Text.lower_eq_self_of_isLower low]
    exact ⟨by rw [name]; exact (Text.isWord_iff.1 hword).1,
      fun c hc => .inl ((Text.isWord_iff.1 hword).2 c (name ▸ hc))⟩

theorem Named.legible (named : p.Named) (respells : p.Respells) : p.Legible := by
  obtain ⟨word, hword, symbol, hcase⟩ := named.exists_word
  cases hcolor : p.color with
  | white =>
    obtain ⟨up, -⟩ := hcase.resolve_right fun h => h.2 hcolor
    simp only [Respells, hcolor, symbol] at respells
    obtain ⟨letters, upper, back, length⟩ := Text.lower_upper_lower hword up respells.2 respells.1
    refine legible_of_white hcolor ?_ ?_ ?_ fun single => ?_
    · rwa [symbol]
    · rwa [symbol]
    · rwa [symbol]
    · rw [symbol, length, ← symbol, String.length_toList, single]
  | black =>
    obtain ⟨low, -⟩ := hcase.resolve_left fun h => h.2 hcolor
    rw [Text.lower_eq_self_of_isLower low] at symbol
    refine legible_of_black hcolor ?_ ?_ ?_
    · rwa [symbol]
    · rwa [symbol]
    · rw [symbol, Text.lower_eq_self_of_isLower low]
  | yellow =>
    simp only [Respells, hcolor, symbol] at respells
    obtain ⟨letters, back⟩ : Text.isWord (Text.lower word) ∧
        Text.lower (Text.lower word) = Text.lower word := by
      rcases hcase with ⟨up, -⟩ | ⟨low, -⟩
      · exact Text.lower_lower hword up respells.1 respells.2
      · have same := Text.lower_eq_self_of_isLower low
        rw [same, same]
        exact ⟨hword, rfl⟩
    refine legible_of_yellow hcolor ?_ ?_ ?_
    · rwa [symbol]
    · rw [symbol]
      exact respells.2
    · rw [symbol, back]

end Piece

namespace Board

variable {known : Option (List String)} {cs rest rest' name : List Char} {row cells first : List Cell}
  {rows : List (List Cell)} {p q : Piece} {b : Board}

/-! ### A piece that comes back survives -/

/-- A symbol of one character has a name of one character, unless that is a sharp s or the dot, for
white. -/
theorem length_name (named : p.Named) (single : p.symbol.length = 1)
    (h : p.color = .white → p.symbol.toList ≠ ['ß'] ∧ p.symbol.toList ≠ [Text.dotAbove]) :
    p.name.length = 1 := by
  obtain ⟨d, hd⟩ := List.length_eq_one_iff.1 (String.length_toList.trans single)
  by_cases white : p.color = .white
  · obtain ⟨sharp, undotted⟩ := h white
    rw [hd, ne_eq, List.singleton_inj] at sharp undotted
    obtain ⟨word, hword, symbol, hcase⟩ := named.exists_word
    obtain ⟨up, -⟩ := hcase.resolve_right fun h => h.2 white
    have down : List.Forall₂ Text.Lowered word [d] := by
      rw [← hd, symbol]
      refine Text.forall₂_lower (Text.high_of_isUpper hword up) (Text.undotted_of_not_mem ?_)
      rw [← symbol, hd, List.mem_singleton]
      exact fun h => undotted h.symm
    rw [Piece.name, if_pos white, hd, Text.length_upper down]
    simp [sharp]
  · rw [Piece.name, if_neg white, hd, List.length_singleton]

/-- If a name has been read for a written piece and stands for its symbol, it is the one that was
written. -/
theorem name_eq_of_readName (named : p.Named) (back : Text.lower name = p.symbol.toList)
    (h : readName ((if p.symbol.length = 1 then p.name else '\x7b' :: (p.name ++ ['\x7d'])) ++ rest) =
      .ok (name, rest')) : name = p.name := by
  have lettered := named.lettered
  by_cases single : p.symbol.length = 1
  · obtain ⟨c, cs, hcs⟩ := List.exists_cons_of_ne_nil lettered.ne_nil
    have hc : c ∈ p.name := by rw [hcs]; exact List.mem_cons_self
    rw [if_pos single, hcs, List.cons_append, readName, if_neg (lettered.ne hc).1] at h
    split at h
    · rename_i letter
      cases h
      have one : p.name.length = 1 := by
        refine length_name named single fun white => ?_
        rw [Piece.name, if_pos white] at hcs
        refine ⟨fun sharp => ?_, fun dot => ?_⟩
        · rw [sharp, Text.upper, List.flatMap_singleton, Text.upperChar_sharp] at hcs
          cases hcs
          exact absurd (back.trans sharp) (by decide +kernel)
        · rw [dot, Text.upper, List.flatMap_singleton, Text.upperChar_dotAbove] at hcs
          cases hcs
          exact absurd letter (by decide +kernel)
      rw [hcs, List.length_cons, Nat.succ_inj, List.length_eq_zero_iff] at one
      rw [hcs, one]
    · cases h
  · have unbraced : '\x7d' ∉ p.name := fun hc => (lettered.ne hc).2.1 rfl
    rw [if_neg single, List.cons_append, List.append_assoc, List.singleton_append,
      readName_braces unbraced] at h
    cases h
    rfl

theorem respells_of_readPiece (named : p.Named)
    (h : readPiece known (p.text ++ rest) = .ok (p, rest')) : p.Respells := by
  obtain ⟨name, hread, hname, hp, -⟩ := (readPiece_text_eq_ok_iff named.lettered).1 h
  have back : Text.lower name = p.symbol.toList := by
    rw [← hp]
    exact String.toList_ofList.symm
  obtain rfl := name_eq_of_readName named back hread
  simp only [isName, Bool.and_eq_true, Bool.or_eq_true] at hname
  obtain ⟨letters, hcase⟩ := hname
  cases hcolor : p.color with
  | white =>
    obtain ⟨word, hword, symbol, hcase⟩ := named.exists_word
    obtain ⟨up, -⟩ := hcase.resolve_right fun h => h.2 hcolor
    have name : p.name = Text.upper (Text.lower word) := by rw [Piece.name, if_pos hcolor, symbol]
    rw [name] at letters back
    rw [symbol] at back
    obtain ⟨undotted, sharp⟩ := Text.not_mem_of_lower_upper_lower hword up letters back
    simp only [Piece.Respells, hcolor, symbol]
    exact ⟨sharp, undotted⟩
  | black =>
    simp only [Piece.Respells, hcolor]
  | yellow =>
    have name : p.name = p.symbol.toList := by rw [Piece.name, if_neg (by rw [hcolor]; decide)]
    rw [name] at letters hcase
    simp only [Piece.Respells, hcolor]
    refine ⟨fun hdot => ?_, hcase⟩
    exact absurd ((Text.isWord_iff.1 letters).2 _ hdot) (by decide +kernel)

/-! ### What has been read -/

/-- The text is read as these rows, cells by cells, behind a row that starts with `row`. -/
inductive Rows (known : Option (List String)) : List Cell → List Char → List (List Cell) → Prop
  | last {row : List Cell} (filled : row ≠ []) : Rows known row [] [row]
  | next {row : List Cell} {cs : List Char} {rows : List (List Cell)} (filled : row ≠ [])
      (below : Rows known [] cs rows) : Rows known row ('/' :: cs) (row :: rows)
  | cells {row cells : List Cell} {cs rest : List Char} {rows : List (List Cell)}
      (read : readCells known cs = .ok (cells, rest)) (onward : Rows known (row ++ cells) rest rows) :
      Rows known row cs rows

theorem eq_ok_of_filled {e : Refusal Fault} {read : Reading (List (List Cell))}
    (h : (if row.isEmpty then .error e else read) = .ok rows) : row ≠ [] ∧ read = .ok rows := by
  split at h
  · cases h
  · rename_i filled
    exact ⟨by simpa using filled, h⟩

theorem rows_of_rowsFrom (h : rowsFrom known row cs = .ok rows) : Rows known row cs rows := by
  induction hn : cs.length using Nat.strongRecOn generalizing cs row rows with
  | ind n ih =>
    rcases cs with _ | ⟨c, cs⟩
    · obtain ⟨filled, hrows⟩ := eq_ok_of_filled (rowsFrom_nil.symm.trans h)
      cases hrows
      exact .last filled
    by_cases hslash : c = '/'
    · subst hslash
      obtain ⟨filled, hrows⟩ := eq_ok_of_filled (rowsFrom_slash.symm.trans h)
      obtain ⟨below, hbelow, rfl⟩ := map_eq_ok_iff.1 hrows
      exact .next filled (ih cs.length (by rw [← hn, List.length_cons]; omega) hbelow rfl)
    · rw [rowsFrom_cells (List.cons_ne_nil c cs) (by simpa using hslash)] at h
      obtain ⟨⟨cells, rest⟩, hread, hrows⟩ := bind_eq_ok_iff.1 h
      exact .cells hread (ih rest.length (hn ▸ length_lt_of_readCells hread) hrows rfl)

/-- The first row starts with what has been read of it. -/
theorem Rows.exists_first (h : Rows known row cs rows) :
    ∃ first below, rows = first :: below ∧ row <+: first := by
  induction h with
  | last _ => exact ⟨_, _, rfl, List.prefix_refl _⟩
  | next _ _ _ => exact ⟨_, _, rfl, List.prefix_refl _⟩
  | cells _ _ ih =>
    obtain ⟨first, below, rfl, hprefix⟩ := ih
    exact ⟨first, below, rfl, (List.prefix_append ..).trans hprefix⟩

theorem Rows.ne_nil (h : Rows known row cs rows) : rows ≠ [] ∧ ∀ r ∈ rows, r ≠ [] := by
  induction h with
  | last filled => exact ⟨List.cons_ne_nil _ _, List.forall_mem_singleton.2 filled⟩
  | next filled _ ih => exact ⟨List.cons_ne_nil _ _, List.forall_mem_cons.2 ⟨filled, ih.2⟩⟩
  | cells _ _ ih => exact ih

/-- The piece has a name and a known symbol. -/
def Admissible (known : Option (List String)) (p : Piece) : Prop :=
  p.Named ∧ known.all fun symbols => symbols.contains p.symbol

theorem admissible_of_readCells (h : readCells known cs = .ok (cells, rest)) :
    ∀ p, some p ∈ cells → Admissible known p := by
  intro p hp
  rw [readCells] at h
  split at h
  · obtain ⟨⟨q, rest'⟩, hq, h⟩ := bind_eq_ok_iff.1 h
    cases h
    obtain rfl : p = q := by simpa using hp
    obtain ⟨name, -, hname, hpiece, hknown⟩ := readPiece_eq_ok_iff.1 hq
    exact ⟨⟨_, name, hname, hpiece⟩, hknown⟩
  · split at h
    · cases h
    · cases h
    · cases h
      exact absurd (List.eq_of_mem_replicate hp) (by simp)

theorem Rows.admissible (h : Rows known row cs rows) (hrow : ∀ p, some p ∈ row → Admissible known p) :
    ∀ r ∈ rows, ∀ p, some p ∈ r → Admissible known p := by
  induction h with
  | last _ => exact List.forall_mem_singleton.2 hrow
  | next _ _ ih => exact List.forall_mem_cons.2 ⟨hrow, ih nofun⟩
  | cells read _ ih =>
    refine ih fun p hp => ?_
    rcases List.mem_append.1 hp with hp | hp
    · exact hrow p hp
    · exact admissible_of_readCells read p hp

/-! ### A board that comes back -/

/-- A written gap that is read is not too large. -/
theorem lt_of_rowsFrom_gapText {n : Nat} (stop : ∀ c ∈ rest.head?, ¬ Text.isDigit c)
    (h : rowsFrom known row (gapText n ++ rest) = .ok rows) : n < placeLimit := by
  rcases Nat.eq_zero_or_pos n with rfl | positive
  · decide
  rw [gapText, if_neg (Nat.ne_of_gt positive)] at h
  have numeral := Text.isNumeral_toDigits n
  by_contra large
  have bad : Miscounted (Nat.toDigits 10 n ++ rest) := by
    rw [Miscounted, Text.takeWhile_run numeral.isDigit stop]
    refine ⟨numeral.1, fun count => large ?_⟩
    rw [← Text.value_toDigits n]
    exact count.lt
  obtain ⟨fault, hbad⟩ : ∃ fault, rowsFrom known row (Nat.toDigits 10 n ++ rest) = .error (.number fault) :=
    exists_rowsFrom_error bad row
  rw [hbad] at h
  cases h

/-- If a written row is read as it was, the reader has kept in step with the writer, so every piece of
the row has come back, and so has every gap. -/
theorem respells_of_rowText {gap width : Nat} {below : List (List Cell)}
    (admissible : ∀ p, some p ∈ cells → Admissible known p)
    (stop : ∀ c ∈ rest.head?, ¬ Text.isDigit c)
    (h : rowsFrom known row (rowText gap cells ++ rest) = .ok (first :: below))
    (same : fill width first = row ++ (List.replicate gap none ++ cells)) :
    (∀ p, some p ∈ cells → p.Respells) ∧ GapsFit gap cells := by
  induction cells generalizing gap row with
  | nil => exact ⟨nofun, lt_of_rowsFrom_gapText stop h⟩
  | cons cell cells ih =>
    have admissible' : ∀ p, some p ∈ cells → Admissible known p := fun p hp =>
      admissible p (List.mem_cons_of_mem _ hp)
    cases cell with
    | none =>
      obtain ⟨respells, fits⟩ := ih admissible' h (by rw [same]; simp [List.replicate_succ'])
      refine ⟨fun p hp => ?_, fits⟩
      exact respells p (by simpa using hp)
    | some p =>
      obtain ⟨named, hknown⟩ := admissible p List.mem_cons_self
      have lettered := named.lettered
      have behind : ∀ c ∈ (p.text ++ (rowText 0 cells ++ rest)).head?, ¬ Text.isDigit c :=
        fun c hc => (lettered.apart _ c hc).1
      rw [rowText, List.append_assoc, List.append_assoc] at h
      have lt := lt_of_rowsFrom_gapText behind h
      rw [rowsFrom_gapText lt behind, rowsFrom_text_piece lettered] at h
      obtain ⟨⟨q, rest'⟩, hread, honward⟩ := bind_eq_ok_iff.1 h
      obtain ⟨_, _, heq, t, ht⟩ := (rows_of_rowsFrom honward).exists_first
      cases heq
      obtain rfl : q = p := by
        rw [← ht] at same
        simp only [fill, List.append_assoc, List.cons_append, List.nil_append,
          List.append_cancel_left_eq, List.cons.injEq, Option.some_inj] at same
        exact same.1
      have respells : q.Respells := respells_of_readPiece named hread
      have again := readPiece_text (named.legible respells) hknown (rowText 0 cells ++ rest)
      rw [hread, named.rested_eq] at again
      cases again
      obtain ⟨respells', fits⟩ := ih admissible' honward (by rw [same]; simp)
      refine ⟨fun p hp => ?_, lt, fits⟩
      rcases List.mem_cons.1 hp with hp | hp
      · cases hp
        exact respells
      · exact respells' p hp

theorem respells_of_rows {width : Nat} {rows' : List (List Cell)}
    (admissible : ∀ row ∈ rows, ∀ p, some p ∈ row → Admissible known p)
    (h : rowsFrom known [] (['/'].intercalate (rows.map (rowText 0))) = .ok rows')
    (same : rows'.map (fill width) = rows) :
    (∀ row ∈ rows, ∀ p, some p ∈ row → p.Respells) ∧ ∀ row ∈ rows, GapsFit 0 row := by
  induction rows generalizing rows' with
  | nil => exact ⟨nofun, nofun⟩
  | cons row rows ih =>
    obtain ⟨hrow, hrows⟩ := List.forall_mem_cons.1 admissible
    obtain ⟨first, below, rfl, -⟩ := (rows_of_rowsFrom h).exists_first
    rw [List.map_cons, List.cons.injEq] at same
    obtain ⟨hfirst, hbelow⟩ := same
    cases rows with
    | nil =>
      rw [List.map_singleton, List.intercalate_singleton, ← List.append_nil (rowText 0 row)] at h
      obtain ⟨respells, fits⟩ := respells_of_rowText hrow (by simp) h hfirst
      exact ⟨List.forall_mem_singleton.2 respells, List.forall_mem_singleton.2 fits⟩
    | cons row' rows =>
      rw [List.map_cons, List.map_cons, List.intercalate_cons_cons, ← List.map_cons, List.append_assoc,
        List.singleton_append] at h
      obtain ⟨respells, fits⟩ := respells_of_rowText hrow (by simpa using by decide) h hfirst
      have legible : ∀ p, some p ∈ row → p.Legible := fun p hp => (hrow p hp).1.legible (respells p hp)
      rw [rowsFrom_rowText fits legible (fun p hp => (hrow p hp).2) (by simp)] at h
      obtain ⟨-, h⟩ := eq_ok_of_filled (rowsFrom_slash.symm.trans h)
      obtain ⟨below', hbelow', heq⟩ := map_eq_ok_iff.1 h
      cases heq
      obtain ⟨respells', fits'⟩ := ih hrows hbelow' hbelow
      exact ⟨List.forall_mem_cons.2 ⟨respells, respells'⟩, List.forall_mem_cons.2 ⟨fits, fits'⟩⟩

theorem exists_mem_rows {s : Square} (h : (s, p) ∈ b.pieces) : ∃ row ∈ b.rows, some p ∈ row := by
  obtain ⟨⟨row, y⟩, hrow, hp⟩ := List.mem_flatMap.1 h
  obtain ⟨⟨c, x⟩, hc, hpiece⟩ := List.mem_filterMap.1 hp
  obtain ⟨q, rfl, heq⟩ := Option.map_eq_some_iff.1 hpiece
  cases heq
  exact ⟨row, List.fst_mem_of_mem_zipIdx hrow, List.fst_mem_of_mem_zipIdx hc⟩

/-- The pieces of a board that has been read are what names stand for, and there are cells. -/
theorem admissible_of_read {text : String} (h : read text known = .ok b) :
    0 < b.width ∧ 0 < b.height ∧ ∀ row ∈ b.rows, ∀ p, some p ∈ row → Admissible known p := by
  obtain ⟨-, rows, hrows, rfl⟩ := read_eq_ok_iff.1 h
  have hread := rows_of_rowsFrom hrows
  obtain ⟨hne, filled⟩ := hread.ne_nil
  obtain ⟨row, hrow⟩ := List.exists_mem_of_ne_nil rows hne
  refine ⟨?_, ?_, ?_⟩
  · exact Nat.lt_of_lt_of_le (List.length_pos_iff.2 (filled row hrow)) (length_le_widest hrow)
  · simpa [height, ofRows] using List.length_pos_iff.2 hne
  · intro r hr p hp
    obtain ⟨row, hrow, rfl⟩ := List.mem_map.1 hr
    have hp : some p ∈ row := by simpa [fill] using hp
    exact hread.admissible (fun p hp => absurd hp List.not_mem_nil) row hrow p hp

/-- A board that has been read is read again as it was written exactly if the symbols of its pieces
survive that and its gaps can be read. The latter is so in all rows that there is room for. -/
theorem read_text_iff_respells {text : String} (h : read text known = .ok b) :
    (read b.text known = .ok b ↔ (∀ p ∈ b.pieces, p.2.Respells) ∧ b.Fits) ∧
      (b.width < placeLimit → b.Fits) := by
  obtain ⟨wide, tall, admissible⟩ := admissible_of_read h
  have admissible' : ∀ p ∈ b.pieces, Admissible known p.2 := by
    rintro ⟨s, p⟩ hp
    obtain ⟨row, hrow, hmem⟩ := exists_mem_rows hp
    exact admissible row hrow p hmem
  refine ⟨⟨?_, ?_⟩, fits_of_width⟩
  · intro again
    obtain ⟨-, rows, hrows, hb⟩ := read_eq_ok_iff.1 again
    rw [compact_text fun row hrow p hp => (admissible row hrow p hp).1.lettered] at hrows
    have same : rows.map (fill b.width) = b.rows := by rw [← hb]; rfl
    obtain ⟨respells, fits⟩ := respells_of_rows admissible hrows same
    refine ⟨?_, fits⟩
    rintro ⟨s, p⟩ hp
    obtain ⟨row, hrow, hmem⟩ := exists_mem_rows hp
    exact respells row hrow p hmem
  · rintro ⟨respells, fits⟩
    have unmoved : ∀ p ∈ b.pieces, ¬ p.2.hasMoved := by
      intro p hp
      rw [← (admissible' p hp).1.rested_eq]
      exact Bool.false_ne_true
    rw [read_text_of_legible wide tall fits (fun p hp => (admissible' p hp).1.legible (respells p hp))
      fun p hp => (admissible' p hp).2, rested_eq_self unmoved]

/-- A kelvin sign, which comes back as a plain K, a word that ends in a sigma, and a yellow piece. -/
theorem read_text_iff_respells_sigma :
    let b := ofRows [[some ⟨"k", .white, false⟩, none, some ⟨"ας", .white, false⟩],
      [some ⟨"ας", .yellow, false⟩, some ⟨"ß", .black, false⟩]]
    read "\u212a 1 {ΑΣ} / !{ΑΣ} ß" none = .ok b ∧
      (read b.text none = .ok b ↔ (∀ p ∈ b.pieces, p.2.Respells) ∧ b.Fits) ∧ b.Fits := by
  intro b
  have first : read "\u212a 1 {ΑΣ} / !{ΑΣ} ß" none = .ok b := by decide +kernel
  obtain ⟨again, fits⟩ := read_text_iff_respells first
  exact ⟨first, again, fits (by decide)⟩

/-- A capital sharp s is written as two letters and read again as two pieces. -/
theorem read_text_ne_sharp :
    let b := ofRows [[some ⟨"ß", .white, false⟩]]
    read "ẞ" none = .ok b ∧ b.text = "SS" ∧
      read b.text none = .ok (ofRows [[some ⟨"s", .white, false⟩, some ⟨"s", .white, false⟩]]) ∧
      read b.text none ≠ .ok b := by
  decide +kernel

end Board

end VariantChess
