import VariantChess.Proofs.Board.Marks

/-!
# Where a board is stuck

A gap takes all digits at its place. If these are no number of empty cells, the reader is stuck: it does
not refuse the text with a place, as it does in all other cases. It gets there exactly if all that stands
in front of the digits can be read, that is if a gap of one cell in their place would complete the text of
a board (`Stuck`). What is behind is never read.
-/

namespace VariantChess.Board

open Text (takeWhile_run dropWhile_run)

variable {known : Option (List String)} {cs front rest : List Char} {row cells : List Cell}
  {rows : List (List Cell)} {m : Mark} {fault : Text.NumberFault}

/-- No digit stands at the end. -/
def Open (front : List Char) : Prop := ∀ c ∈ front.getLast?, ¬ Text.isDigit c

/-- Some digits are no number of empty cells, and with a gap of one cell in place of them and all that follows, the
text would be that of a board. -/
def Stuck (known : Option (List String)) (text : String) : Prop :=
  ∃ front rest, front ++ rest = Text.compact text.toList ∧
    (∃ b, read (String.ofList (front ++ ['1'])) known = .ok b) ∧ Open front ∧ Miscounted rest

/-! ### Marks beyond ASCII -/

/-- The mark is read as these cells. -/
inductive Spells (known : Option (List String)) : Mark → List Cell → Prop
  | gap {digits : List Char} (count : IsCount digits) (positive : 0 < Text.value digits) :
      Spells known (.gap digits) (List.replicate (Text.value digits) none)
  | piece {yellow braced : Bool} {name : List Char} (isName : isName name)
      (single : braced ∨ name.length = 1)
      (admitted : known.all fun symbols => symbols.contains (namedPiece yellow name).symbol) :
      Spells known (.piece yellow braced name) [some (namedPiece yellow name)]

/-- Only a gap ends with a digit, and then it has nothing but digits. -/
theorem Spells.isDigit_of_getLast? (spells : Spells known m cells) {c : Char}
    (hc : c ∈ m.text.getLast?) (digit : Text.isDigit c) : m.IsGap ∧ ∀ c ∈ m.text, Text.isDigit c := by
  cases spells with
  | gap count positive => exact ⟨trivial, count.numeral.isDigit⟩
  | @piece yellow braced name isName single admitted =>
    obtain ⟨hne, letters⟩ := Text.isWord_iff.1 (isWord_of_isName isName)
    have last : c = '\x7d' ∨ c ∈ name := by
      cases braced with
      | true =>
        rw [Mark.text, Mark.body, if_pos rfl, ← List.cons_append, ← List.append_assoc,
          List.getLast?_concat] at hc
        exact .inl (Option.some.inj hc).symm
      | false =>
        refine .inr (List.mem_of_getLast? (l := name) ?_)
        rwa [Mark.text, Mark.body, if_neg Bool.false_ne_true, List.getLast?_append_of_ne_nil _ hne] at hc
    obtain rfl | hc := last
    · exact absurd digit (by decide)
    · exact absurd digit (Text.not_isDigit_of_isLetter (letters c hc))

theorem exists_spells_of_readCells (h : readCells known cs = .ok (cells, rest)) :
    ∃ m, Spells known m cells ∧ m.text ++ rest = cs ∧
      (m.IsGap → ∀ c ∈ rest.head?, ¬ Text.isDigit c) := by
  rw [readCells] at h
  split at h
  · obtain ⟨⟨p, rest'⟩, hp, h⟩ := bind_eq_ok_iff.1 h
    cases h
    obtain ⟨yellow, braced, name, text, isName, single, rfl, admitted⟩ := exists_name_of_readPiece hp
    exact ⟨.piece yellow braced name, .piece isName single admitted, text.symm, False.elim⟩
  · split at h
    · cases h
    · cases h
    · rename_i n positive hn
      cases h
      obtain ⟨count, rfl⟩ := gapSize_eq_ok_iff.1 hn
      exact ⟨.gap (cs.takeWhile Text.isDigit), .gap count (Nat.pos_of_ne_zero positive),
        List.takeWhile_append_dropWhile .., fun _ => Text.not_isDigit_dropWhile cs⟩

theorem Spells.readCells (spells : Spells known m cells)
    (stop : m.IsGap → ∀ c ∈ rest.head?, ¬ Text.isDigit c) :
    readCells known (m.text ++ rest) = .ok (cells, rest) := by
  cases spells with
  | @gap digits count positive =>
    obtain ⟨n, hn⟩ : ∃ n, Text.value digits = n + 1 := ⟨_, (Nat.sub_add_cancel positive).symm⟩
    rw [Mark.text, Board.readCells, takeWhile_run count.numeral.isDigit (stop trivial),
      dropWhile_run count.numeral.isDigit (stop trivial)]
    split
    · exact absurd rfl count.numeral.1
    · rw [gapSize_eq_ok_iff.2 ⟨count, hn⟩, hn]
      rfl
  | @piece yellow braced name isName single admitted =>
    have head := Mark.not_isDigit_piece yellow braced (isWord_of_isName isName) rest
    have noGap : ([] ++ ((Mark.piece yellow braced name).text ++ rest)).takeWhile Text.isDigit = [] :=
      takeWhile_run (List.forall_mem_nil _) head
    rw [List.nil_append] at noGap
    rw [Board.readCells, noGap]
    dsimp only
    rw [readPiece_name isName single admitted]
    rfl

/-! ### Rows -/

theorem Open.of_append {before : List Char} (h : Open (before ++ front)) : Open front := by
  intro c hc
  cases front with
  | nil => cases hc
  | cons d front => exact h c (by rwa [List.getLast?_append_of_ne_nil _ (List.cons_ne_nil d front)])

/-- Behind a gap there is more text in front of the next digit, and the gap ends where that begins. -/
theorem apart_of_stop (stop : m.IsGap → ∀ c ∈ (front ++ rest).head?, ¬ Text.isDigit c)
    (digit : ∃ c ∈ rest.head?, Text.isDigit c) (gap : m.IsGap) :
    front ≠ [] ∧ ∀ behind, ∀ c ∈ (front ++ behind).head?, ¬ Text.isDigit c := by
  obtain ⟨d, hd, digit⟩ := digit
  cases front with
  | nil => exact absurd digit (stop gap d hd)
  | cons c front => exact ⟨List.cons_ne_nil c front, fun _ => stop gap⟩

theorem Spells.open_append (spells : Spells known m cells) (apart : m.IsGap → front ≠ [])
    (last : Open front) : Open (m.text ++ front) := by
  intro c hc digit
  by_cases hnil : front = []
  · subst hnil
    rw [List.append_nil] at hc
    exact apart (spells.isDigit_of_getLast? hc digit).1 rfl
  · rw [List.getLast?_append_of_ne_nil _ hnil] at hc
    exact last c hc digit

theorem rowsFrom_gap_one (row : List Cell) : rowsFrom known row ['1'] = .ok [row ++ [none]] := by
  have read : Board.readCells known ['1'] = .ok ([none], []) := rfl
  rw [rowsFrom_of_readCells read, rowsFrom_nil, if_neg (by simp)]

theorem stuck_of_rowsFrom (h : rowsFrom known row cs = .error (.number fault)) :
    ∃ front rest, front ++ rest = cs ∧ (∃ rows, rowsFrom known row (front ++ ['1']) = .ok rows) ∧
      Open front ∧ Miscounted rest := by
  induction hn : cs.length using Nat.strongRecOn generalizing cs row with
  | ind n ih =>
    rcases cs with _ | ⟨c, cs⟩
    · rw [rowsFrom_nil] at h
      split_ifs at h
      cases h
    by_cases hslash : c = '/'
    · subst hslash
      rw [rowsFrom_slash] at h
      split_ifs at h with empty
      · cases h
      obtain ⟨front, rest, rfl, ⟨rows, hrows⟩, last, bad⟩ :=
        ih cs.length (by rw [← hn, List.length_cons]; omega) (map_eq_error_iff.1 h) rfl
      refine ⟨'/' :: front, rest, rfl, ⟨row :: rows, ?_⟩, ?_, bad⟩
      · rw [List.cons_append, rowsFrom_slash, if_neg empty, hrows]
        rfl
      · cases front with
        | nil => exact fun c hc => Option.some.inj hc ▸ by decide
        | cons d front => exact last
    · rw [rowsFrom_cells (List.cons_ne_nil c cs) (by simpa using hslash)] at h
      obtain h | ⟨⟨cells, behind⟩, hread, h⟩ := bind_eq_error_iff.1 h
      · have nothing : Open [] := by
          rintro c ⟨⟩
        exact ⟨[], c :: cs, rfl, ⟨_, rowsFrom_gap_one row⟩, nothing,
          exists_readCells_error_iff.1 ⟨fault, h⟩⟩
      obtain ⟨m, spells, htext, stop⟩ := exists_spells_of_readCells hread
      obtain ⟨front, rest, rfl, ⟨rows, hrows⟩, last, bad⟩ :=
        ih behind.length (hn ▸ length_lt_of_readCells hread) h rfl
      obtain ⟨d, rest, rfl, digit⟩ := bad.exists_head
      have apart := apart_of_stop stop ⟨d, rfl, digit⟩
      refine ⟨m.text ++ front, d :: rest, by rw [List.append_assoc, htext], ⟨rows, ?_⟩,
        spells.open_append (fun gap => (apart gap).1) last, bad⟩
      rw [List.append_assoc, rowsFrom_of_readCells (spells.readCells fun gap => (apart gap).2 _), hrows]

theorem rowsFrom_of_stuck (hrows : rowsFrom known row (front ++ ['1']) = .ok rows) (last : Open front)
    (bad : Miscounted rest) :
    ∃ fault, rowsFrom known row (front ++ rest) = .error (.number fault) := by
  -- both texts are read alike up to the end of the front, mark by mark
  induction hn : front.length using Nat.strongRecOn generalizing front row rows with
  | ind n ih =>
    rcases front with _ | ⟨c, front⟩
    · exact exists_rowsFrom_error bad row
    by_cases hslash : c = '/'
    · subst hslash
      rw [List.cons_append, rowsFrom_slash] at hrows
      obtain ⟨filled, hrows⟩ := eq_ok_of_filled hrows
      obtain ⟨below, hbelow, rfl⟩ := map_eq_ok_iff.1 hrows
      have last' : Open front := Open.of_append (show Open (['/'] ++ front) from last)
      obtain ⟨fault, hbad⟩ :=
        ih front.length (by rw [← hn, List.length_cons]; omega) hbelow last' rfl
      refine ⟨fault, ?_⟩
      rw [List.cons_append, rowsFrom_slash, if_neg (by simpa using filled), hbad]
      rfl
    · rw [List.cons_append, rowsFrom_cells (List.cons_ne_nil c _) (by simpa using hslash),
        ← List.cons_append] at hrows
      obtain ⟨⟨cells, behind⟩, hread, hrows⟩ := bind_eq_ok_iff.1 hrows
      have shorter := length_lt_of_readCells hread
      obtain ⟨m, spells, htext, stop⟩ := exists_spells_of_readCells hread
      rcases List.eq_nil_or_concat' behind with rfl | ⟨behind, d, rfl⟩
      · -- the mark would be a gap that ends with the last digit, and all in front of it would be digits
        rw [List.append_nil] at htext
        have gap := spells.isDigit_of_getLast? (c := '1') (by rw [htext, List.getLast?_concat]; rfl)
          (by decide)
        have hne : c :: front ≠ [] := List.cons_ne_nil c front
        have digit := gap.2 _ (htext ▸ List.mem_append_left _ (List.getLast_mem hne))
        exact absurd digit (last _ (List.getLast?_eq_some_getLast hne))
      · rw [← List.append_assoc] at htext
        obtain ⟨hfront, hone⟩ := List.append_inj' htext rfl
        obtain rfl : d = '1' := List.singleton_inj.1 hone
        rw [← hfront] at last hn ⊢
        have apart := apart_of_stop stop ⟨'1', rfl, by decide⟩
        rw [List.append_assoc, rowsFrom_of_readCells (spells.readCells fun gap => (apart gap).2 _)]
        refine ih behind.length ?_ hrows last.of_append rfl
        rw [← hfront, List.length_append, List.length_append] at shorter
        rw [← hn]
        omega

/-! ### Whole texts -/

theorem read_eq_number_iff {text : String} : read text known = .error (.number fault) ↔
    rowsFrom known [] (Text.compact text.toList) = .error (.number fault) := by
  rw [read]
  split
  · rename_i hnil
    rw [hnil]
    constructor <;> rintro ⟨⟩
  · rw [← rowsFrom]
    rcases rowsFrom known [] (Text.compact text.toList) with (_ | _) | rows <;>
      simp [Except.map, Except.mapError, Refusal.within]

/-- What stands in front of the digits has no blanks, so the text of a board with a gap of one cell
behind it is read as it stands. -/
theorem exists_read_iff (blankless : ∀ c ∈ front, ¬ Text.isBlank c) :
    (∃ b, read (String.ofList (front ++ ['1'])) known = .ok b) ↔
      ∃ rows, rowsFrom known [] (front ++ ['1']) = .ok rows := by
  have compact : Text.compact (front ++ ['1']) = front ++ ['1'] := by
    refine List.filter_eq_self.2 fun c hc => ?_
    rcases List.mem_append.1 hc with hc | hc
    · simpa using blankless c hc
    · obtain rfl := List.mem_singleton.1 hc
      rfl
  simp only [read_eq_ok_iff, String.toList_ofList, compact]
  constructor
  · rintro ⟨b, -, rows, hrows, -⟩
    exact ⟨rows, hrows⟩
  · rintro ⟨rows, hrows⟩
    exact ⟨ofRows rows, by simp, rows, hrows, rfl⟩

theorem Stuck.cause {text : String} (stuck : Stuck known text) : Text.Undecimal text.toList ∨
    Text.Overlong (Text.compact text.toList) ∨ Oversized (Text.compact text.toList) := by
  obtain ⟨front, rest, htext, -, -, bad⟩ := stuck
  have suffix : rest <:+ Text.compact text.toList := ⟨front, htext⟩
  obtain undecimal | long | ⟨run, hrun, numeral, large⟩ := bad.cause
  · exact .inl (undecimal.mono fun c hc => List.filter_subset_self _ (suffix.subset hc))
  · exact .inr (.inl (long.mono suffix.isInfix))
  · exact .inr (.inr ⟨run, hrun.trans suffix.isInfix, numeral, large⟩)

theorem exists_read_number_iff {text : String} :
    (∃ fault, read text known = .error (.number fault)) ↔ Stuck known text := by
  have blankless : ∀ {front rest : List Char}, front ++ rest = Text.compact text.toList →
      ∀ c ∈ front, ¬ Text.isBlank c := by
    intro front rest htext c hc
    have hmem : c ∈ Text.compact text.toList := htext ▸ List.mem_append_left _ hc
    simpa using (List.mem_filter.1 hmem).2
  simp only [read_eq_number_iff]
  constructor
  · rintro ⟨fault, h⟩
    obtain ⟨front, rest, htext, hrows, last, bad⟩ := stuck_of_rowsFrom h
    exact ⟨front, rest, htext, (exists_read_iff (blankless htext)).2 hrows, last, bad⟩
  · rintro ⟨front, rest, htext, hread, last, bad⟩
    obtain ⟨rows, hrows⟩ := (exists_read_iff (blankless htext)).1 hread
    rw [← htext]
    exact rowsFrom_of_stuck hrows last bad

end VariantChess.Board
