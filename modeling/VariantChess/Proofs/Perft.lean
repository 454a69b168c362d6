import Mathlib.Algebra.GroupWithZero.Nat
import VariantChess.Perft
import VariantChess.Proofs.Replies

/-!
# What perft counts

A *line* is a sequence of moves, each of them legal for the side that has the turn in the position that
the moves before have led to; the turn goes round the colors in their order. `perft` never looks at
legal moves: it plays every generated move and drops those that leave a check. On a board whose pieces
have entries in a compiled catalogue that comes to the same, one ply at a time (`exists_perft_succ`), so
the count of a depth splits over the lines to any shorter one (`perft_add`), and what is counted are the
lines (`perft_counts_lines`).
-/

namespace VariantChess

/-! ### Sums of counts -/

section total
variable {α β : Type} {count count' : α → Except Error Nat} {as bs : List α}

theorem total_congr (h : ∀ a ∈ as, count a = count' a) : total count as = total count' as := by
  induction as with
  | nil => rfl
  | cons a as ih =>
    obtain ⟨ha, has⟩ := List.forall_mem_cons.1 h
    rw [total, total, ha, ih has]

theorem total_append : total count (as ++ bs) =
    total count as >>= fun n => (total count bs).map (n + ·) := by
  induction as with
  | nil => cases h : total count bs <;> simp [total, h, bind, Except.bind, Except.map]
  | cons a as ih =>
    rw [List.cons_append, total, total, ih]
    cases count a with
    | error e => rfl
    | ok n => cases total count as <;> cases total count bs <;>
        simp [bind, Except.bind, Except.map, Nat.add_assoc]

theorem total_map (f : β → α) (bs : List β) :
    total count (bs.map f) = total (fun b => count (f b)) bs := by
  induction bs with
  | nil => rfl
  | cons b bs ih => rw [List.map_cons, total, total, ih]

theorem total_flatMap (f : β → List α) (bs : List β) :
    total count (bs.flatMap f) = total (fun b => total count (f b)) bs := by
  induction bs with
  | nil => rfl
  | cons b bs ih =>
    rw [List.flatMap_cons, total_append, ih, total]
    cases total count (f b) <;> rfl

/-- Without failures the sum is that of the numbers. -/
theorem total_eq_sum {f : α → Nat} (h : ∀ a ∈ as, count a = .ok (f a)) :
    total count as = .ok (as.map f).sum := by
  induction as with
  | nil => rfl
  | cons a as ih =>
    obtain ⟨ha, has⟩ := List.forall_mem_cons.1 h
    rw [total, ha, ih has]
    rfl

/-- A way to count each element is a number for each element. -/
theorem exists_value (h : ∀ a ∈ as, ∃ n, count a = .ok n) : ∃ f : α → Nat, ∀ a ∈ as, count a = .ok (f a) := by
  refine ⟨fun a => (count a).toOption.getD 0, fun a ha => ?_⟩
  obtain ⟨n, hn⟩ := h a ha
  simp [hn, Except.toOption]

/-- Without failures there is a sum, and the order does not matter. -/
theorem exists_total_of_perm (h : ∀ a ∈ as, ∃ n, count a = .ok n) (perm : bs.Perm as) :
    ∃ n, total count as = .ok n ∧ total count bs = .ok n := by
  obtain ⟨f, hf⟩ := exists_value h
  have sums : (bs.map f).sum = (as.map f).sum := (perm.map f).sum_nat
  refine ⟨_, total_eq_sum hf, ?_⟩
  rw [total_eq_sum fun b hb => hf b (perm.mem_iff.1 hb), sums]

/-- Elements that count nothing may be left out. -/
theorem total_of_keep {p : α → Except Error Bool} {kept : List α} (hkeep : keep p as = .ok kept)
    (nothing : ∀ a ∈ as, p a = .ok false → count a = .ok 0) : total count as = total count kept := by
  induction as generalizing kept with
  | nil => cases hkeep; rfl
  | cons a as ih =>
    obtain ⟨ha, has⟩ := List.forall_mem_cons.1 nothing
    cases hp : p a with
    | error e => simp [keep, hp] at hkeep
    | ok pass =>
      obtain ⟨kept', hk, rfl⟩ := map_eq_ok_iff.1 (by simpa [keep, hp] using hkeep)
      have rest : total count as = total count kept' := ih hk has
      cases pass with
      | true => rw [if_pos rfl, total, total, rest]
      | false =>
        rw [if_neg Bool.false_ne_true, total, ha hp, rest]
        cases total count kept' <;> simp [Except.map]

end total

/-! ### One ply -/

variable {c : Catalogue} {b : Board} {colors : List Color} {color mover next : Color}

/-- Counts the position after a move. -/
def countAfter (b : Board) (count : Board → Except Error Nat) (m : Move) : Except Error Nat :=
  match b.play m with
  | .error fault => .error (.move fault (some m))
  | .ok (after, _) => count after

/-- A count of one ply more sums over the legal moves, all of which can be played. -/
theorem exists_perft_succ (compiled : c.Compiled) (covers : c.Covers b)
    (turn : color.next? colors = some next) :
    ∃ legal, legalMoves c b color none = .of (.ok legal) ∧
      (∀ m ∈ legal, ∃ after captured, b.play m = .ok (after, captured)) ∧
      ∀ depth, perft c colors (depth + 1) b color =
        total (countAfter b fun after => perft c colors depth after next) legal := by
  have known : ∀ p ∈ b.piecesOf color, p.2.symbol ∈ c.symbols := covers.of_piecesOf color
  obtain ⟨moves, hmoves, hgeometric⟩ := exists_geometricMoves compiled known
  -- a generated move can always be played, and it is safe unless it leaves a check
  have tested : ∀ m ∈ Move.sort moves, ∃ after captured check, b.play m = .ok (after, captured) ∧
      isInCheck c after color = .ok check ∧ isSafe c b color m = .ok !check := by
    intro m hm
    obtain ⟨after, captured, hplay⟩ := ((hgeometric m).1 (Move.mem_sort.1 hm)).exists_play
    obtain ⟨check, hcheck, -⟩ := exists_isInCheck compiled (covers.of_play hplay) color
    exact ⟨after, captured, check, hplay, hcheck, by simp [isSafe, hplay, hcheck, Except.map]⟩
  obtain ⟨legal, hlegal, hmem⟩ :
      ∃ legal, filterLegal c b color (Move.sort moves) = .ok legal ∧
        ∀ m, m ∈ legal ↔ m ∈ Move.sort moves ∧ isSafe c b color m = .ok true := by
    refine exists_keep fun m hm => ?_
    obtain ⟨-, -, check, -, -, hsafe⟩ := tested m hm
    exact ⟨!check, hsafe, by simp [hsafe]⟩
  refine ⟨legal, ?_, fun m hm => ?_, fun depth => ?_⟩
  · simp [legalMoves, pseudoLegalMoves_of_geometricMoves hmoves, hlegal, Report.of, bind]
  · obtain ⟨after, captured, -, hplay, -, -⟩ := tested m ((hmem m).1 hm).1
    exact ⟨after, captured, hplay⟩
  rw [perft, turn, hmoves]
  dsimp only
  rw [total_of_keep hlegal]
  · refine total_congr fun m hm => ?_
    obtain ⟨hsort, hsafe⟩ := (hmem m).1 hm
    obtain ⟨after, captured, check, hplay, hcheck, hpass⟩ := tested m hsort
    obtain rfl : check = false := by simpa [hsafe] using hpass
    simp [countAfter, hplay, hcheck]
  · intro m hm refused
    obtain ⟨after, captured, check, hplay, hcheck, hpass⟩ := tested m hm
    obtain rfl : check = true := by simpa [refused] using hpass
    simp [hplay, hcheck]

/-! ### Lines -/

/-- The moves can be made one after another and lead from `b` to `final`, each being legal for the side
that has the turn; the first one is made by the side at place `i` of the order, counted round. -/
inductive Line (c : Catalogue) (colors : List Color) : Nat → Board → List Move → Board → Prop
  | nil {i : Nat} {b : Board} : Line c colors i b [] b
  | cons {i : Nat} {b after final : Board} {mover : Color} {legal moves : List Move} {m : Move}
      {captured : Bool} (turn : colors[i % colors.length]? = some mover)
      (able : (legalMoves c b mover none).result = .ok legal) (mem : m ∈ legal)
      (played : b.play m = .ok (after, captured)) (rest : Line c colors (i + 1) after moves final) :
      Line c colors i b (m :: moves) final

/-- The legal moves of the side at a place of the order. -/
def movesInTurn (c : Catalogue) (colors : List Color) (i : Nat) (b : Board) : List Move :=
  match colors[i % colors.length]? with
  | none => []
  | some mover => ((legalMoves c b mover none).result.toOption).getD []

/-- The lines that begin with a move, when `onward` gives those from the position after it. -/
def linesAfter (b : Board) (onward : Board → List (List Move × Board)) (m : Move) :
    List (List Move × Board) :=
  match b.play m with
  | .error _ => []
  | .ok (after, _) => (onward after).map fun line => (m :: line.1, line.2)

/-- All lines of a length, with the positions to which they lead. -/
def lines (c : Catalogue) (colors : List Color) : Nat → Nat → Board → List (List Move × Board)
  | 0, _, b => [([], b)]
  | depth + 1, i, b =>
    (movesInTurn c colors i b).flatMap (linesAfter b (lines c colors depth (i + 1)))

theorem mem_movesInTurn {i : Nat} {m : Move} : m ∈ movesInTurn c colors i b ↔
    ∃ mover legal, colors[i % colors.length]? = some mover ∧
      (legalMoves c b mover none).result = .ok legal ∧ m ∈ legal := by
  rw [movesInTurn]
  cases colors[i % colors.length]? with
  | none => simp
  | some mover => cases h : (legalMoves c b mover none).result <;> simp [h, Except.toOption]

theorem mem_linesAfter {onward : Board → List (List Move × Board)} {m : Move} {moves : List Move}
    {final : Board} : (moves, final) ∈ linesAfter b onward m ↔
      ∃ after captured rest, b.play m = .ok (after, captured) ∧ (rest, final) ∈ onward after ∧
        m :: rest = moves := by
  rw [linesAfter]
  cases b.play m with
  | error fault => simp
  | ok played => obtain ⟨after, captured⟩ := played; simp

/-- The lines of a length are all there. -/
theorem mem_lines {depth i : Nat} {moves : List Move} {final : Board} :
    (moves, final) ∈ lines c colors depth i b ↔
      moves.length = depth ∧ Line c colors i b moves final := by
  induction depth generalizing i b moves with
  | zero =>
    rw [lines, List.mem_singleton, Prod.mk.injEq, List.length_eq_zero_iff]
    constructor
    · rintro ⟨rfl, rfl⟩
      exact ⟨rfl, .nil⟩
    · rintro ⟨rfl, ⟨⟩⟩
      exact ⟨rfl, rfl⟩
  | succ depth ih =>
    rw [lines, List.mem_flatMap]
    constructor
    · rintro ⟨m, hm, hline⟩
      obtain ⟨mover, legal, turn, able, mem⟩ := mem_movesInTurn.1 hm
      obtain ⟨after, captured, rest, hplay, hrest, rfl⟩ := mem_linesAfter.1 hline
      obtain ⟨rfl, line⟩ := ih.1 hrest
      exact ⟨rfl, .cons turn able mem hplay line⟩
    · rintro ⟨hlength, line⟩
      cases line with
      | nil => cases hlength
      | cons turn able mem played rest =>
        refine ⟨_, mem_movesInTurn.2 ⟨_, _, turn, able, mem⟩, ?_⟩
        exact mem_linesAfter.2 ⟨_, _, _, played, ih.2 ⟨Nat.succ.inj hlength, rest⟩, rfl⟩

theorem nodup_legalMoves {legal : List Move}
    (h : (legalMoves c b color none).result = .ok legal) : legal.Nodup := by
  cases hmoves : geometricMoves c b color with
  | error e => simp [legalMoves, pseudoLegalMoves, hmoves, Report.of, bind] at h
  | ok moves =>
    exact (Move.nodup_sort moves).sublist
      (sublist_legalMoves (pseudoLegalMoves_of_geometricMoves hmoves) h)

theorem nodup_movesInTurn (i : Nat) (b : Board) : (movesInTurn c colors i b).Nodup := by
  cases turn : colors[i % colors.length]? with
  | none => simp [movesInTurn, turn]
  | some mover =>
    cases h : (legalMoves c b mover none).result with
    | error e => simp [movesInTurn, turn, h, Except.toOption]
    | ok legal => simpa [movesInTurn, turn, h, Except.toOption] using nodup_legalMoves h

/-- No two of the lines consist of the same moves. -/
theorem nodup_lines (depth i : Nat) (b : Board) :
    ((lines c colors depth i b).map (·.1)).Nodup := by
  induction depth generalizing i b with
  | zero => simp [lines]
  | succ depth ih =>
    rw [lines, List.map_flatMap, List.nodup_flatMap]
    constructor
    · intro m hm
      rw [linesAfter]
      cases b.play m with
      | error fault => exact .nil
      | ok played =>
        have hcons := (ih (i + 1) played.1).map (List.cons_injective (a := m))
        simpa [List.map_map, Function.comp_def] using hcons
    · -- lines that begin with different moves differ
      refine (nodup_movesInTurn i b).imp fun {m m'} hne moves hmoves hmoves' => hne ?_
      obtain ⟨line, hline, rfl⟩ := List.mem_map.1 hmoves
      obtain ⟨line', hline', heq⟩ := List.mem_map.1 hmoves'
      obtain ⟨-, -, rest, -, -, hrest⟩ := mem_linesAfter.1 hline
      obtain ⟨-, -, rest', -, -, hrest'⟩ := mem_linesAfter.1 hline'
      exact (List.cons.inj (hrest.trans (heq.symm.trans hrest'.symm))).1

/-! ### The count -/

/-- The side at a place of the order is followed by the one at the next place. -/
theorem next?_of_getElem? (nodup : colors.Nodup) {i : Nat}
    (turn : colors[i % colors.length]? = some color) :
    color.next? colors = colors[(i + 1) % colors.length]? := by
  obtain ⟨hlt, rfl⟩ := List.getElem?_eq_some_iff.1 turn
  rw [Color.next?, if_pos (by simp), nodup.idxOf_getElem, Nat.mod_add_mod]

theorem exists_next? (mem : color ∈ colors) :
    ∃ next ∈ colors, color.next? colors = some next := by
  have hlt : (colors.idxOf color + 1) % colors.length < colors.length :=
    Nat.mod_lt _ (List.length_pos_of_mem mem)
  refine ⟨_, List.getElem_mem hlt, ?_⟩
  rw [Color.next?, if_pos (by simpa using mem), List.getElem?_eq_getElem hlt]

theorem exists_turn {i : Nat} (turn : colors[i % colors.length]? = some color) (k : Nat) :
    ∃ mover, colors[k % colors.length]? = some mover := by
  obtain ⟨hlt, -⟩ := List.getElem?_eq_some_iff.1 turn
  exact ⟨_, List.getElem?_eq_getElem (Nat.mod_lt k (by omega))⟩

/-- What is counted from a position is what is counted from the ends of all lines of a length. -/
theorem perft_add (compiled : c.Compiled) (nodup : colors.Nodup) (covers : c.Covers b) {i depth : Nat}
    (further : Nat) (turn : colors[i % colors.length]? = some color)
    (turn' : colors[(i + depth) % colors.length]? = some mover) :
    perft c colors (depth + further) b color =
      total (fun line => perft c colors further line.2 mover) (lines c colors depth i b) := by
  induction depth generalizing i b color with
  | zero =>
    obtain rfl : color = mover := Option.some.inj (turn.symm.trans turn')
    rw [Nat.zero_add, lines, total, total]
    cases perft c colors further b color <;> rfl
  | succ depth ih =>
    obtain ⟨next, hnext⟩ := exists_turn turn (i + 1)
    obtain ⟨legal, hlegal, playable, hcount⟩ := exists_perft_succ compiled covers
      ((next?_of_getElem? nodup turn).trans hnext)
    have moves : movesInTurn c colors i b = legal := by
      simp [movesInTurn, turn, hlegal, Report.of, Except.toOption]
    rw [Nat.add_right_comm, hcount, lines, moves, total_flatMap]
    refine total_congr fun m hm => ?_
    obtain ⟨after, captured, hplay⟩ := playable m hm
    rw [countAfter, linesAfter, hplay, total_map]
    exact ih (covers.of_play hplay) hnext (by rwa [Nat.add_assoc, Nat.add_comm 1])

/-- On a board whose pieces all have entries in a compiled catalogue, `perft` counts the lines of a
length, and for a greater depth it adds up what is counted from the ends of these lines. -/
theorem perft_counts_lines (compiled : c.Compiled) (covers : c.Covers b) (nodup : colors.Nodup)
    (mem : color ∈ colors) (depth : Nat) :
    ∃ played mover, (played.map (·.1)).Nodup ∧
      (∀ moves final, (moves, final) ∈ played ↔
        moves.length = depth ∧ Line c colors (colors.idxOf color) b moves final) ∧
      colors[(colors.idxOf color + depth) % colors.length]? = some mover ∧
      perft c colors depth b color = .ok played.length ∧
      ∀ further, ∃ count, perft c colors (depth + further) b color = .ok count ∧
        total (fun line => perft c colors further line.2 mover) played = .ok count := by
  have turn : colors[colors.idxOf color % colors.length]? = some color := by
    have hlt := List.idxOf_lt_length_of_mem mem
    rw [Nat.mod_eq_of_lt hlt, List.getElem?_eq_getElem hlt, List.getElem_idxOf hlt]
  have counted : ∀ depth, perft c colors depth b color =
      .ok (lines c colors depth (colors.idxOf color) b).length := by
    intro depth
    obtain ⟨mover, turn'⟩ := exists_turn turn (colors.idxOf color + depth)
    have split := perft_add compiled nodup covers 0 turn turn'
    have single : ∀ line ∈ lines c colors depth (colors.idxOf color) b,
        perft c colors 0 line.2 mover = .ok 1 := fun _ _ => by rw [perft]
    rw [Nat.add_zero, total_eq_sum single] at split
    rw [split]
    simp
  obtain ⟨mover, turn'⟩ := exists_turn turn (colors.idxOf color + depth)
  refine ⟨lines c colors depth (colors.idxOf color) b, mover, nodup_lines .., fun _ _ => mem_lines,
    turn', counted depth, fun further => ⟨_, counted (depth + further), ?_⟩⟩
  rw [← perft_add compiled nodup covers further turn turn', counted]

/-- Three sides take turns, yellow first, on a board with two kings and two cannons. -/
theorem perft_counts_lines_siege :
    let b := Board.ofRows [
      [some ⟨"k", .white, true⟩, some ⟨"a", .yellow, false⟩, some ⟨"a", .black, false⟩],
      [none, some ⟨"k", .black, false⟩, none]]
    let colors := [Color.white, .black, .yellow]
    siege.Compiled ∧ siege.Covers b ∧ colors.Nodup ∧ Color.yellow ∈ colors ∧
    ∃ played mover, (played.map (·.1)).Nodup ∧
      (∀ moves final, (moves, final) ∈ played ↔
        moves.length = 2 ∧ Line siege colors (colors.idxOf .yellow) b moves final) ∧
      colors[(colors.idxOf .yellow + 2) % colors.length]? = some mover ∧
      perft siege colors 2 b .yellow = .ok played.length ∧
      ∀ further, ∃ count, perft siege colors (2 + further) b .yellow = .ok count ∧
        total (fun line => perft siege colors further line.2 mover) played = .ok count := by
  intro b colors
  have covers : siege.Covers b := by unfold Catalogue.Covers; decide
  have nodup : colors.Nodup := by decide
  have mem : Color.yellow ∈ colors := by decide
  exact ⟨compiled_siege, covers, nodup, mem, perft_counts_lines compiled_siege covers nodup mem 2⟩

end VariantChess
