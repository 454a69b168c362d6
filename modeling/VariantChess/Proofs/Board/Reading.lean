import Mathlib.Tactic.SplitIfs
import VariantChess.Board.Notation
import VariantChess.Proofs.Fallible
import VariantChess.Proofs.Text.Digit

/-!
# Reading a board

The reader of the rows counts its steps. `rowsFrom` reads the same rows without a count, as every piece
and every gap takes at least a character, and has an equation for each kind of text that can stand
next: the end, a slash, or cells. A run of digits is read if it is a number of places that a row can have
(`IsCount`); another one is all that is refused without a place.
-/

namespace VariantChess.Board

variable {known : Option (List String)} {cs rest name digits : List Char} {row cells : List Cell}
  {p : Piece} {fault : Text.NumberFault}

/-! ### Numbers of empty cells -/

/-- The digits make up a number, and a row can have as many places. -/
structure IsCount (digits : List Char) : Prop where
  numeral : Text.IsNumeral digits
  short : Text.Short digits
  lt : Text.value digits < placeLimit

instance (digits : List Char) : Decidable (IsCount digits) :=
  decidable_of_iff (Text.IsNumeral digits ∧ Text.Short digits ∧ Text.value digits < placeLimit)
    ⟨fun ⟨numeral, short, lt⟩ => ⟨numeral, short, lt⟩, fun ⟨numeral, short, lt⟩ => ⟨numeral, short, lt⟩⟩

theorem gapSize_eq_ok_iff {n : Nat} : gapSize digits = .ok n ↔ IsCount digits ∧ Text.value digits = n := by
  rw [gapSize]
  cases h : Text.number digits with
  | ok m =>
    obtain ⟨numeral, short, rfl⟩ := Text.number_eq_ok_iff.1 h
    dsimp only
    split
    · rename_i lt
      rw [Except.ok.injEq, and_iff_right ⟨numeral, short, lt⟩]
    · rename_i many
      refine iff_of_false nofun fun h => many h.1.lt
  | error fault =>
    refine iff_of_false nofun ?_
    rintro ⟨⟨numeral, short, -⟩, -⟩
    cases h.symm.trans (Text.number_eq_ok_iff.2 ⟨numeral, short, rfl⟩)

theorem exists_gapSize_error_iff : (∃ fault, gapSize digits = .error fault) ↔ ¬ IsCount digits := by
  cases h : gapSize digits with
  | ok n =>
    refine iff_of_false ?_ fun bad => bad (gapSize_eq_ok_iff.1 h).1
    rintro ⟨fault, ⟨⟩⟩
  | error fault =>
    refine iff_of_true ⟨fault, rfl⟩ fun count => ?_
    cases h.symm.trans (gapSize_eq_ok_iff.2 ⟨count, rfl⟩)

/-- The text begins with digits, but those that stand there together are no number of empty cells. -/
def Miscounted (cs : List Char) : Prop :=
  cs.takeWhile Text.isDigit ≠ [] ∧ ¬ IsCount (cs.takeWhile Text.isDigit)

instance (cs : List Char) : Decidable (Miscounted cs) := inferInstanceAs (Decidable (_ ∧ _))

theorem miscounted_iff : Miscounted cs ↔ cs.takeWhile Text.isDigit ≠ [] ∧
    ∃ fault, gapSize (cs.takeWhile Text.isDigit) = .error fault := by
  rw [Miscounted, exists_gapSize_error_iff]

theorem Miscounted.exists_head (bad : Miscounted cs) : ∃ c rest, cs = c :: rest ∧ Text.isDigit c :=
  Text.exists_head_of_takeWhile bad.1

/-- A number in the text is more than a row can have places. -/
def Oversized (cs : List Char) : Prop :=
  ∃ run, run <:+: cs ∧ Text.IsNumeral run ∧ placeLimit ≤ Text.value run

/-- A digit is no decimal digit, too many digits stand together, or the number is too large. -/
theorem Miscounted.cause (bad : Miscounted cs) :
    Text.Undecimal cs ∨ Text.Overlong cs ∨ Oversized cs := by
  obtain ⟨some, bad⟩ := bad
  by_cases readable : Text.IsNumeral (cs.takeWhile Text.isDigit) ∧ Text.Short (cs.takeWhile Text.isDigit)
  · obtain ⟨numeral, short⟩ := readable
    refine .inr (.inr ⟨_, (List.takeWhile_prefix Text.isDigit).isInfix, numeral, ?_⟩)
    exact Nat.le_of_not_lt fun lt => bad ⟨numeral, short, lt⟩
  · have misnumbered : Text.Misnumbered cs := ⟨some, readable⟩
    exact misnumbered.undecimal_or_overlong.imp_right .inl

/-! ### What is left -/

theorem length_lt_of_readName (h : readName cs = .ok (name, rest)) : rest.length < cs.length := by
  cases cs with
  | nil => cases h
  | cons c cs =>
    rw [readName] at h
    split at h
    · have shorter := (List.dropWhile_suffix (l := cs) (· ≠ '\x7d')).length_le
      split at h
      · cases h
      · rename_i behind hbehind
        cases h
        rw [hbehind, List.length_cons] at shorter
        rw [List.length_cons]
        omega
    · split at h
      · cases h
        exact Nat.lt_succ_self _
      · cases h

theorem readPiece_eq_ok_iff : readPiece known cs = .ok (p, rest) ↔
    ∃ name, readName (if cs.head? = some '!' then cs.drop 1 else cs) = .ok (name, rest) ∧
      isName name ∧ namedPiece (cs.head? == some '!') name = p ∧
      (known.all fun symbols => symbols.contains p.symbol) := by
  rw [readPiece]
  simp only [bind_eq_ok_iff, beq_iff_eq]
  constructor
  · rintro ⟨⟨name, rest'⟩, hname, h⟩
    dsimp only at h
    split_ifs at h with hn hk
    cases h
    refine ⟨name, hname, by simpa using hn, rfl, ?_⟩
    cases known with
    | none => rfl
    | some symbols => simpa using hk
  · rintro ⟨name, hname, hn, rfl, hk⟩
    refine ⟨(name, rest), hname, ?_⟩
    dsimp only
    rw [if_neg (by simpa using hn), if_neg]
    cases known with
    | none => simp
    | some symbols => simpa using hk

theorem length_lt_of_readCells (h : readCells known cs = .ok (cells, rest)) :
    rest.length < cs.length := by
  rw [readCells] at h
  split at h
  · obtain ⟨⟨p, rest'⟩, hp, h⟩ := bind_eq_ok_iff.1 h
    cases h
    obtain ⟨name, hname, -⟩ := readPiece_eq_ok_iff.1 hp
    have shorter := length_lt_of_readName hname
    split at shorter
    · rw [List.length_drop] at shorter
      omega
    · exact shorter
  · rename_i hne
    split at h
    · cases h
    · cases h
    · cases h
      have parts : (cs.takeWhile Text.isDigit ++ cs.dropWhile Text.isDigit).length = cs.length := by
        rw [List.takeWhile_append_dropWhile]
      have some : 0 < (cs.takeWhile Text.isDigit).length :=
        List.length_pos_iff.2 fun hnil => hne (by rw [← hnil])
      rw [List.length_append] at parts
      omega

/-! ### Rows without a count of steps -/

theorem readRows_slash (steps : Nat) (row : List Cell) (cs : List Char) :
    readRows known (steps + 1) row ('/' :: cs) =
      if row.isEmpty then .error (.fault .emptyRow (cs.length + 1))
      else (readRows known steps [] cs).map (row :: ·) := by
  rw [readRows]
  split
  · rfl
  · cases readRows known steps [] cs <;> rfl

theorem readRows_cells (steps : Nat) (row : List Cell) {cs : List Char} (hne : cs ≠ [])
    (hslash : cs.head? ≠ some '/') : readRows known (steps + 1) row cs =
      readCells known cs >>= fun read => readRows known steps (row ++ read.1) read.2 := by
  rw [readRows.eq_def]
  split
  · contradiction
  · contradiction
  · exact absurd rfl hslash
  · rename_i heq _ _
    cases heq
    rfl

/-- More steps than there are characters are always enough. -/
theorem readRows_eq_of_lt {steps steps' : Nat} (h : cs.length < steps) (h' : cs.length < steps') :
    readRows known steps row cs = readRows known steps' row cs := by
  induction steps generalizing steps' row cs with
  | zero => omega
  | succ steps ih =>
    obtain ⟨steps', rfl⟩ : ∃ n, steps' = n + 1 := ⟨steps' - 1, by omega⟩
    rcases cs with _ | ⟨c, cs⟩
    · rw [readRows, readRows]
    by_cases hslash : c = '/'
    · subst hslash
      rw [List.length_cons] at h h'
      have same : readRows known steps [] cs = readRows known steps' [] cs := ih (by omega) (by omega)
      rw [readRows_slash, readRows_slash, same]
    · have head : (c :: cs).head? ≠ some '/' := by simpa using hslash
      rw [readRows_cells _ _ (List.cons_ne_nil c cs) head, readRows_cells _ _ (List.cons_ne_nil c cs) head]
      cases hcells : readCells known (c :: cs) with
      | error e => rfl
      | ok read =>
        have shorter := length_lt_of_readCells hcells
        exact ih (by omega) (by omega)

/-- The rows that a text describes behind a row that starts with `row`. -/
def rowsFrom (known : Option (List String)) (row : List Cell) (cs : List Char) :
    Reading (List (List Cell)) :=
  readRows known (cs.length + 1) row cs

theorem rowsFrom_nil : rowsFrom known row [] =
    if row.isEmpty then .error (.fault .emptyRow 0) else .ok [row] := rfl

theorem rowsFrom_slash : rowsFrom known row ('/' :: cs) =
    if row.isEmpty then .error (.fault .emptyRow (cs.length + 1))
    else (rowsFrom known [] cs).map (row :: ·) :=
  readRows_slash (cs.length + 1) row cs

theorem rowsFrom_cells (hne : cs ≠ []) (hslash : cs.head? ≠ some '/') : rowsFrom known row cs =
    readCells known cs >>= fun read => rowsFrom known (row ++ read.1) read.2 := by
  rw [rowsFrom, readRows_cells _ _ hne hslash]
  cases hcells : readCells known cs with
  | error e => rfl
  | ok read => exact readRows_eq_of_lt (length_lt_of_readCells hcells) (Nat.lt_succ_self _)

/-- The rows of a text that is not blank, filled up, make the board. -/
theorem read_eq_ok_iff {text : String} {b : Board} : read text known = .ok b ↔
    Text.compact text.toList ≠ [] ∧
      ∃ rows, rowsFrom known [] (Text.compact text.toList) = .ok rows ∧ ofRows rows = b := by
  rw [read]
  split
  · rename_i hnil
    simp [hnil]
  · rw [mapError_eq_ok_iff, map_eq_ok_iff, rowsFrom]
    simp_all

/-! ### What is refused without a place -/

/-- Pieces are refused with their place. -/
theorem readPiece_ne_number : readPiece known cs ≠ .error (.number fault) := by
  intro h
  rw [readPiece] at h
  obtain h | ⟨⟨name, rest⟩, -, h⟩ := bind_eq_error_iff.1 h
  · rw [readName.eq_def] at h
    split at h
    · cases h
    · split_ifs at h
      · split at h <;> cases h
      · cases h
  · dsimp only at h
    split_ifs at h <;> cases h

theorem exists_readCells_error_iff :
    (∃ fault, readCells known cs = .error (.number fault)) ↔ Miscounted cs := by
  rw [readCells, miscounted_iff]
  split
  · rename_i hnil
    constructor
    · rintro ⟨fault, h⟩
      obtain h | ⟨_, -, h⟩ := bind_eq_error_iff.1 h
      · exact absurd h readPiece_ne_number
      · cases h
    · rintro ⟨some, -⟩
      exact absurd hnil some
  · rename_i hne
    have some : cs.takeWhile Text.isDigit ≠ [] := fun hnil => hne (by rw [← hnil])
    rw [and_iff_right some]
    split
    · rename_i fault hsize
      exact ⟨fun _ => ⟨fault, hsize⟩, fun _ => ⟨fault, rfl⟩⟩
    · rename_i hsize
      simp [hsize]
    · rename_i hsize
      simp [hsize]

theorem exists_rowsFrom_error (bad : Miscounted cs) (row : List Cell) :
    ∃ fault, rowsFrom known row cs = .error (.number fault) := by
  obtain ⟨fault, hcells⟩ : ∃ fault, readCells known cs = .error (.number fault) :=
    exists_readCells_error_iff.2 bad
  obtain ⟨c, rest, rfl, digit⟩ := bad.exists_head
  have noSlash : c ≠ '/' := by
    rintro rfl
    exact absurd digit (by decide)
  refine ⟨fault, ?_⟩
  rw [rowsFrom_cells (List.cons_ne_nil c rest) (by simpa using noSlash), hcells]
  rfl

end VariantChess.Board
