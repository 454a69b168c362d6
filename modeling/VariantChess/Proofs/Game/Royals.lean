import VariantChess.Proofs.Game.Reached

/-!
# Royal pieces are never captured

As long as two sides move in turn, the side that has just moved is not threatened: its move was legal.
So no geometric move of the other side, which moves next, leads onto one of its royal pieces, and a
piece of the side itself it leads onto never. Hence every move spares the royal pieces of both sides
(`Chronicle.spares`), and these stay what they were (`Chronicle.royals_perm`).
-/

namespace VariantChess

namespace Catalogue

instance (c : Catalogue) (symbol : String) : Decidable (c.IsRoyal symbol) :=
  decidable_of_iff ((c.find? symbol).any (·.royal)) (by simp [IsRoyal, Option.any_eq_true])

/-- The symbols of the royal pieces of a side, in the order of the board. -/
def royals (c : Catalogue) (b : Board) (color : Color) : List String :=
  (b.pieces.filter fun p => p.2.color = color ∧ c.IsRoyal p.2.symbol).map (·.2.symbol)

variable {c : Catalogue} {b after : Board} {m : Move} {captured : Bool} {color : Color}

/-- A move keeps the royal pieces of a side unless it captures one of them. -/
theorem royals_perm_of_play (h : b.play m = .ok (after, captured))
    (spared : ∀ victim, b.cell m.destination = some victim → victim.color = color →
      ¬ c.IsRoyal victim.symbol) : (c.royals after color).Perm (c.royals b color) := by
  obtain ⟨-, -, hne, piece, hp, -, -⟩ := Board.play_eq_ok_iff.1 h
  have victims : ((b.cell m.destination).toList.map (m.destination, ·)).filter
      (fun p => p.2.color = color ∧ c.IsRoyal p.2.symbol) = [] := by
    rw [List.filter_eq_nil_iff]
    intro p hmem
    obtain ⟨victim, hvictim, rfl⟩ := List.mem_map.1 hmem
    simpa using spared victim (Option.mem_toList.1 hvictim)
  have before := ((Board.pieces_perm hne hp).filter
    fun p => p.2.color = color ∧ c.IsRoyal p.2.symbol).map (·.2.symbol)
  have behind := ((Board.pieces_perm_of_play h hp).filter
    fun p => p.2.color = color ∧ c.IsRoyal p.2.symbol).map (·.2.symbol)
  rw [List.filter_cons, List.filter_append, victims, List.nil_append] at before
  refine behind.trans (.trans (.of_eq ?_) before.symm)
  rw [List.filter_cons]
  split <;> simp_all

end Catalogue

/-! ### Moving in turn -/

/-- Which of two sides makes the move with this number, counted from zero. -/
def turn (first second : Color) (i : Nat) : Color := if i % 2 = 0 then first else second

/-- The two sides take turns, beginning with the first. -/
def Alternates (first second : Color) (movers : List Color) : Prop :=
  ∀ i mover, movers[i]? = some mover → mover = turn first second i

variable {first second : Color} {movers : List Color} {mover : Color}

theorem turn_succ_succ (i : Nat) : turn first second (i + 2) = turn first second i := by
  simp [turn]

theorem turn_succ_ne (hne : first ≠ second) (i : Nat) :
    turn first second (i + 1) ≠ turn first second i := by
  rw [turn, turn]
  split <;> split
  · omega
  · exact hne
  · exact hne.symm
  · omega

/-- Each of the two sides either moves or has its turn next. -/
theorem eq_turn_or_eq_turn_succ {color : Color} (h : color = first ∨ color = second) (i : Nat) :
    color = turn first second i ∨ color = turn first second (i + 1) := by
  rw [turn, turn]
  rcases Nat.mod_two_eq_zero_or_one i with hi | hi
  · rw [if_pos hi, if_neg (by omega)]; exact h
  · rw [if_neg (by omega), if_pos (by omega)]; exact h.symm

theorem Alternates.of_append {later : List Color} (h : Alternates first second (movers ++ later)) :
    Alternates first second movers := by
  intro i mover hi
  obtain ⟨hlt, -⟩ := List.getElem?_eq_some_iff.1 hi
  exact h i mover (by rwa [List.getElem?_append_left hlt])

theorem Alternates.eq_turn {later : List Color}
    (h : Alternates first second (movers ++ mover :: later)) :
    mover = turn first second movers.length :=
  h movers.length mover (by simp)

/-! ### The royal pieces of a game -/

namespace Chronicle

variable {r : Ruleset} {start board before after : Board} {history : List Record}
  {record : Record}

/-- The side that does not have the turn is not threatened. -/
theorem not_threatened_turn_succ (chronicle : Chronicle r start history board)
    (safe : ¬ r.catalogue.Threatened start second)
    (alternates : Alternates first second (history.map (·.color))) :
    ¬ r.catalogue.Threatened board (turn first second (history.length + 1)) := by
  cases chronicle with
  | nil => exact safe
  | @concat history _ _ record past describes =>
    have mover : record.color = turn first second history.length := by
      rw [List.map_append] at alternates
      simpa using alternates.eq_turn
    rw [List.length_append, List.length_singleton, turn_succ_succ, ← mover]
    exact describes.safe

/-- A move in turn captures no royal piece of either side. -/
theorem spares (hne : first ≠ second) (past : Chronicle r start history before)
    (describes : record.Describes r before after) (safe : ¬ r.catalogue.Threatened start second)
    (alternates : Alternates first second ((history ++ [record]).map (·.color))) :
    ∀ victim, before.cell record.move.destination = some victim →
      victim.color = first ∨ victim.color = second → ¬ r.catalogue.IsRoyal victim.symbol := by
  intro victim hvictim sides royal
  rw [List.map_append] at alternates
  have mover : record.color = turn first second history.length := by simpa using alternates.eq_turn
  obtain ⟨piece, hp, hcolor, leads⟩ := describes.geometric
  rcases eq_turn_or_eq_turn_succ sides history.length with own | other
  · exact describes.geometric.admits.2 victim hvictim (own.trans mover.symm)
  · refine past.not_threatened_turn_succ safe alternates.of_append
      ⟨_, victim, hvictim, other, royal, _, piece, hp, ?_, leads⟩
    rw [hcolor, mover]
    exact (turn_succ_ne hne _).symm

theorem royals_perm (hne : first ≠ second) (chronicle : Chronicle r start history board)
    (safe : ¬ r.catalogue.Threatened start second)
    (alternates : Alternates first second (history.map (·.color))) {color : Color}
    (side : color = first ∨ color = second) :
    (r.catalogue.royals board color).Perm (r.catalogue.royals start color) := by
  induction chronicle with
  | nil => exact .refl _
  | concat past describes ih =>
    refine (Catalogue.royals_perm_of_play describes.played fun victim hvictim hcolor => ?_).trans
      (ih (by rw [List.map_append] at alternates; exact alternates.of_append))
    exact spares hne past describes safe alternates victim hvictim (hcolor ▸ side)

end Chronicle

/-- In a game of two sides without hooks no royal piece of either is ever captured, as long as the moves
that are accepted alternate between them and the side that does not begin was not in check. -/
theorem Session.royals_perm_of_reached {start s : Session} (opens : start.Opens)
    (two : start.ruleset.colors.Perm [first, second]) (safe : start.isInCheck second = .ok false)
    (reached : start.Reached s) (alternates : Alternates first second (s.history.map (·.color))) :
    ∀ color ∈ start.ruleset.colors,
      (start.ruleset.catalogue.royals s.board color).Perm
        (start.ruleset.catalogue.royals start.board color) ∧
      ∀ earlier record later before victim, s.history = earlier ++ record :: later →
        start.board.replay (earlier.map (·.move)) = .ok before →
        before.cell record.move.destination = some victim → victim.color = color →
        ¬ start.ruleset.catalogue.IsRoyal victim.symbol := by
  have chronicle := (Chronicled.of_reached opens reached).chronicle
  have unthreatened := (isInCheck_eq_false_iff opens.compiled opens.covers).1 safe
  have hne : first ≠ second := by simpa using two.nodup_iff.1 start.ruleset.colors_nodup
  intro color hcolor
  have side : color = first ∨ color = second := by simpa using two.mem_iff.1 hcolor
  refine ⟨chronicle.royals_perm hne unthreatened alternates side, ?_⟩
  rintro earlier record later before victim history replayed hvictim rfl
  obtain ⟨before', after, past, describes⟩ := chronicle.exists_past history
  obtain rfl : before' = before := Except.ok.inj (past.replay.symm.trans replayed)
  rw [history, List.append_cons, List.map_append] at alternates
  exact past.spares hne describes unthreatened alternates.of_append victim hvictim side

/-- White shuts the king in, and black tries a move that is not legal and then finds one that is. -/
def duelChase : Session :=
  (((duelOpening.submit .white ⟨⟨2, 2⟩, ⟨2, 1⟩⟩).1.submit .black ⟨⟨0, 0⟩, ⟨0, 1⟩⟩).1.submit .black
    ⟨⟨0, 0⟩, ⟨1, 0⟩⟩).1

theorem reached_duelChase : duelOpening.Reached duelChase :=
  .submit (.submit (.submit .refl (.inl (by decide))) (.inl (by decide))) (.inl (by decide))

theorem alternates_duelChase : Alternates .white .black (duelChase.history.map (·.color)) := by
  have movers : duelChase.history.map (·.color) = [.white, .black] := by rfl
  rw [movers]
  rintro (_ | _ | i) mover h <;> simp_all [turn]

theorem royals_perm_duelChase :
    duelOpening.Opens ∧ duel.colors.Perm [.white, .black] ∧ duelOpening.isInCheck .black = .ok false ∧
    duelOpening.Reached duelChase ∧ Alternates .white .black (duelChase.history.map (·.color)) ∧
    ∀ color ∈ duel.colors,
      (duel.catalogue.royals duelChase.board color).Perm (duel.catalogue.royals duel.board color) ∧
      ∀ earlier record later before victim, duelChase.history = earlier ++ record :: later →
        duel.board.replay (earlier.map (·.move)) = .ok before →
        before.cell record.move.destination = some victim → victim.color = color →
        ¬ duel.catalogue.IsRoyal victim.symbol := by
  have safe : duelOpening.isInCheck .black = .ok false := by rfl
  exact ⟨opens_duelOpening, .refl _, safe, reached_duelChase, alternates_duelChase,
    Session.royals_perm_of_reached opens_duelOpening (.refl _) safe reached_duelChase
      alternates_duelChase⟩

end VariantChess
