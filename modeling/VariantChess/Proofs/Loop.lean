import Mathlib.Data.PFun
import VariantChess.Proofs.Landing

/-!
# Walks as loops

A walk can be run turn by turn, as a loop that nothing bounds but the board and what stands on it
(`Leg.loop`). Such a loop need not end: along a step that does not move, a walk that leaps over everything
goes on for ever (`loop_still`). Along every other step, a turn that does not end the walk leaves less room
in front of the edge that it must leave by (`Board.room_shift_lt`). So the loop ends, in no more turns than
the board is long (`exists_loop`), and what it has collected then is what `Leg.reach` gives
(`exists_loop_eq_reach`).

A limit may cut the loop off. Whether there is one makes no difference to its end.
-/

namespace VariantChess

variable {b : Board} {s : Square} {v : Step} {color : Color}

/-! ### Room in front of the edge -/

namespace Board

/-- The number of steps of one square each that lead from `s` over the edge in the direction of `v`: to the
right or left if `v` goes there, and down or up otherwise. -/
def room (b : Board) (v : Step) (s : Square) : Nat :=
  if 0 < v.dx then (b.width - s.x).toNat
  else if v.dx < 0 then (s.x + 1).toNat
  else if 0 < v.dy then (b.height - s.y).toNat
  else (s.y + 1).toNat

variable (inside : b.contains s)
include inside

theorem room_pos (v : Step) : 1 ≤ b.room v s := by
  obtain ⟨hx, hw, hy, hh⟩ := contains_iff.1 inside
  unfold room
  split_ifs <;> omega

theorem room_le_extent (v : Step) : b.room v s ≤ b.extent := by
  obtain ⟨hx, hw, hy, hh⟩ := contains_iff.1 inside
  unfold room extent
  split_ifs <;> omega

/-- A step that moves leads closer to the edge. -/
theorem room_shift_lt (moving : v ≠ ⟨0, 0⟩) : b.room v (s.shift v) < b.room v s := by
  obtain ⟨hx, hw, hy, hh⟩ := contains_iff.1 inside
  have moving : v.dx ≠ 0 ∨ v.dy ≠ 0 := by
    by_contra h
    push Not at h
    exact moving (by cases v; simp_all)
  unfold room Square.shift
  split_ifs <;> dsimp only <;> omega

end Board

namespace Movement.Leg

/-! ### The loop -/

/-- The variables of the loop. -/
structure Track where
  steps : Nat := 0
  square : Square
  leapt : Bool := false
  reached : List Square := []

/-- What is left when the loop has ended. -/
structure Trip where
  turns : Nat
  reached : List Square

variable (limit : Option Int) (leg : Leg) (b : Board) (color : Color) (v : Step)

/-- One turn of the loop: it ends, or goes on with other variables. -/
def turn (t : Track) : Trip ⊕ Track :=
  if limit.any (· ≤ (t.steps : Int)) then .inl ⟨t.steps, t.reached⟩
  else
    let steps := t.steps + 1
    let square := t.square.shift v
    if !b.contains square then .inl ⟨steps, t.reached⟩
    else
      let target := b.cell square
      let leaping := leg.locust && !t.leapt
      if !leg.accepts steps then
        -- a piece at a distance that is not accepted is passed without being leapt over
        if target.isSome && !leg.leaper && !leaping then .inl ⟨steps, t.reached⟩
        else .inr { t with steps, square }
      else
        match target with
        | none =>
          if leg.captureOnly || (leg.locust && t.leapt) then .inr { t with steps, square }
          else .inr { t with steps, square, reached := t.reached ++ [square] }
        | some piece =>
          let blocked := leg.noCapture || piece.color == color || leaping
          let reached := if blocked then t.reached else t.reached ++ [square]
          if !leg.leaper && !leaping then .inl ⟨steps, reached⟩
          else .inr { steps, square, reached, leapt := if blocked then true else t.leapt }

/-- The loop, from any state of its variables; it has no value if it does not end. -/
def loop : Track →. Trip := PFun.fix fun t => Part.some (turn limit leg b color v t)

variable {limit leg b color v} {t t' : Track} {trip : Trip}

theorem loop_of_inl (h : turn limit leg b color v t = .inl trip) :
    loop limit leg b color v t = Part.some trip :=
  Part.eq_some_iff.2 (PFun.fix_stop (Part.mem_some_iff.2 h.symm))

theorem loop_of_inr (h : turn limit leg b color v t = .inr t') :
    loop limit leg b color v t = loop limit leg b color v t' :=
  PFun.fix_fwd_eq (Part.mem_some_iff.2 h.symm)

/-- A loop that ends has a last turn, and every turn before goes on. -/
theorem loop_induction {motive : Track → Prop} (ended : trip ∈ loop limit leg b color v t)
    (last : ∀ t, turn limit leg b color v t = .inl trip → motive t)
    (onward : ∀ t t', turn limit leg b color v t = .inr t' → trip ∈ loop limit leg b color v t' →
      motive t' → motive t) : motive t :=
  PFun.fixInduction' ended (fun t h => last t (Part.mem_some_iff.1 h).symm)
    fun t t' ended h ih => onward t t' (Part.mem_some_iff.1 h).symm ended ih

/-- The limit is reached after so many turns. -/
def Exhausts (limit : Option Int) (k : Nat) : Prop := ∃ m, limit = some m ∧ m ≤ k

theorem turn_of_exhausts (exhausted : Exhausts limit t.steps) :
    turn limit leg b color v t = .inl ⟨t.steps, t.reached⟩ := by
  obtain ⟨m, rfl, hm⟩ := exhausted
  rw [turn, Option.any_some, decide_eq_true hm, if_pos rfl]

theorem not_exhausts_none (k : Nat) : ¬ Exhausts none k := by
  simp [Exhausts]

/-- Unless the walk leaves the board, a turn does with the square ahead what `Leg.walk` does with it. -/
theorem turn_of_going (going : ¬ Exhausts limit t.steps) : turn limit leg b color v t =
    if b.contains (t.square.shift v) then
      let cell := b.cell (t.square.shift v)
      let reached := t.reached ++
        if leg.collects color (t.steps + 1) t.leapt cell then [t.square.shift v] else []
      if leg.ends t.leapt cell then .inl ⟨t.steps + 1, reached⟩
      else .inr ⟨t.steps + 1, t.square.shift v, leg.leaps color (t.steps + 1) t.leapt cell, reached⟩
    else .inl ⟨t.steps + 1, t.reached⟩ := by
  have unlimited : limit.any (· ≤ (t.steps : Int)) = false := by
    rw [← Bool.not_eq_true, Option.any_eq_true]
    simpa [Exhausts] using going
  obtain ⟨accepted, haccepted⟩ : ∃ accepted, leg.accepts (t.steps + 1 : Nat) = accepted := ⟨_, rfl⟩
  rw [turn, unlimited, if_neg Bool.false_ne_true]
  by_cases next : b.contains (t.square.shift v)
  · simp only [next, Bool.not_true, Bool.false_eq_true, if_false, if_true]
    cases b.cell (t.square.shift v) with
    | none =>
      simp only [collects, ends, leaps, haccepted]
      cases accepted <;> by_cases skipped : leg.captureOnly || (leg.locust && t.leapt) <;> simp [skipped]
    | some piece =>
      obtain ⟨blocked, hblocked⟩ : ∃ blocked,
        (leg.noCapture || piece.color == color || (leg.locust && !t.leapt)) = blocked := ⟨_, rfl⟩
      obtain ⟨passed, hpassed⟩ : ∃ passed, (leg.leaper || (leg.locust && !t.leapt)) = passed := ⟨_, rfl⟩
      simp only [collects, ends, leaps, leaping, ← Bool.not_or, haccepted, hblocked, hpassed, Bool.and_assoc]
      cases accepted <;> cases blocked <;> cases passed <;> simp
  · simp [next]

section

variable (going : ¬ Exhausts limit t.steps)
include going

theorem turn_of_outside (outside : ¬ b.contains (t.square.shift v)) :
    turn limit leg b color v t = .inl ⟨t.steps + 1, t.reached⟩ := by
  rw [turn_of_going going, if_neg outside]

variable (next : b.contains (t.square.shift v))
include next

theorem turn_of_ends (ends : leg.ends t.leapt (b.cell (t.square.shift v))) :
    turn limit leg b color v t = .inl ⟨t.steps + 1, t.reached ++
      if leg.collects color (t.steps + 1) t.leapt (b.cell (t.square.shift v)) then [t.square.shift v]
      else []⟩ := by
  rw [turn_of_going going, if_pos next]
  exact if_pos ends

theorem turn_of_onward (onward : ¬ leg.ends t.leapt (b.cell (t.square.shift v))) :
    turn limit leg b color v t = .inr ⟨t.steps + 1, t.square.shift v,
      leg.leaps color (t.steps + 1) t.leapt (b.cell (t.square.shift v)), t.reached ++
        if leg.collects color (t.steps + 1) t.leapt (b.cell (t.square.shift v)) then [t.square.shift v]
        else []⟩ := by
  rw [turn_of_going going, if_pos next]
  exact if_neg onward

end

/-- A turn ends the loop at the limit, over the edge or at a piece. -/
theorem cases_of_inl (h : turn limit leg b color v t = .inl trip) :
    (Exhausts limit t.steps ∧ trip = ⟨t.steps, t.reached⟩) ∨
    (¬ b.contains (t.square.shift v) ∧ trip = ⟨t.steps + 1, t.reached⟩) ∨
    (b.contains (t.square.shift v) ∧ leg.ends t.leapt (b.cell (t.square.shift v)) ∧
      trip = ⟨t.steps + 1, t.reached ++
        if leg.collects color (t.steps + 1) t.leapt (b.cell (t.square.shift v)) then [t.square.shift v]
        else []⟩) := by
  by_cases exhausted : Exhausts limit t.steps
  · rw [turn_of_exhausts exhausted] at h
    exact .inl ⟨exhausted, (Sum.inl.inj h).symm⟩
  by_cases next : b.contains (t.square.shift v)
  · by_cases ends : leg.ends t.leapt (b.cell (t.square.shift v))
    · rw [turn_of_ends exhausted next ends] at h
      exact .inr (.inr ⟨next, ends, (Sum.inl.inj h).symm⟩)
    · rw [turn_of_onward exhausted next ends] at h
      cases h
  · rw [turn_of_outside exhausted next] at h
    exact .inr (.inl ⟨next, (Sum.inl.inj h).symm⟩)

/-- A turn that goes on has taken the step, stays on the board and is not stopped there. -/
theorem cases_of_inr (h : turn limit leg b color v t = .inr t') :
    b.contains (t.square.shift v) ∧ ¬ leg.ends t.leapt (b.cell (t.square.shift v)) ∧
    t' = ⟨t.steps + 1, t.square.shift v,
      leg.leaps color (t.steps + 1) t.leapt (b.cell (t.square.shift v)), t.reached ++
        if leg.collects color (t.steps + 1) t.leapt (b.cell (t.square.shift v)) then [t.square.shift v]
        else []⟩ := by
  by_cases exhausted : Exhausts limit t.steps
  · rw [turn_of_exhausts exhausted] at h
    cases h
  by_cases next : b.contains (t.square.shift v)
  · by_cases ends : leg.ends t.leapt (b.cell (t.square.shift v))
    · rw [turn_of_ends exhausted next ends] at h
      cases h
    · rw [turn_of_onward exhausted next ends] at h
      exact ⟨next, ends, (Sum.inr.inj h).symm⟩
  · rw [turn_of_outside exhausted next] at h
    cases h

theorem turns_of_inl (h : turn limit leg b color v t = .inl trip) : trip.turns ≤ t.steps + 1 := by
  rcases cases_of_inl h with ⟨-, rfl⟩ | ⟨-, rfl⟩ | ⟨-, -, rfl⟩
  · exact Nat.le_succ _
  · exact le_rfl
  · exact le_rfl

theorem advance_of_inr (h : turn limit leg b color v t = .inr t') :
    t'.steps = t.steps + 1 ∧ t'.square = t.square.shift v ∧ b.contains t'.square := by
  obtain ⟨next, -, rfl⟩ := cases_of_inr h
  exact ⟨rfl, rfl, next⟩

/-! ### The loop ends -/

/-- A turn that goes on leads closer to the edge. -/
theorem room_of_inr (moving : v ≠ ⟨0, 0⟩) (inside : b.contains t.square)
    (h : turn limit leg b color v t = .inr t') : b.room v t'.square < b.room v t.square := by
  rw [(advance_of_inr h).2.1]
  exact Board.room_shift_lt inside moving

/-- Along a step that moves, the loop ends before it has gone through all the room ahead. -/
theorem exists_loop (moving : v ≠ ⟨0, 0⟩) (limit : Option Int) (leg : Leg) (color : Color) (t : Track)
    (inside : b.contains t.square) :
    ∃ trip, loop limit leg b color v t = Part.some trip ∧ trip.turns ≤ t.steps + b.room v t.square := by
  -- the steps are counted up and the limit is any: only the room ahead decreases
  generalize hroom : b.room v t.square = room
  induction room using Nat.strong_induction_on generalizing t with
  | _ room ih =>
    have pos : 1 ≤ room := hroom ▸ Board.room_pos inside v
    cases hturn : turn limit leg b color v t with
    | inl trip =>
      have turns := turns_of_inl hturn
      exact ⟨trip, loop_of_inl hturn, by omega⟩
    | inr t' =>
      obtain ⟨steps, -, inside'⟩ := advance_of_inr hturn
      have closer : b.room v t'.square < room := hroom ▸ room_of_inr moving inside hturn
      obtain ⟨trip, hloop, turns⟩ := ih _ closer t' inside' rfl
      exact ⟨trip, (loop_of_inr hturn).trans hloop, by omega⟩

theorem exists_inr_of_still (leaper : leg.leaper) (inside : b.contains t.square) :
    ∃ t', turn none leg b color ⟨0, 0⟩ t = .inr t' := by
  have still : t.square.shift ⟨0, 0⟩ = t.square := by simp [Square.shift]
  have onward : ¬ leg.ends t.leapt (b.cell (t.square.shift ⟨0, 0⟩)) := by simp [ends, leaper]
  exact ⟨_, turn_of_onward (not_exhausts_none t.steps) (by rwa [still]) onward⟩

/-- A step that does not move makes a walk that nothing limits and nothing stops go on for ever. -/
theorem loop_still (leaper : leg.leaper) (inside : b.contains t.square) :
    loop none leg b color ⟨0, 0⟩ t = Part.none := by
  refine Part.eq_none_iff.2 fun trip ended => ?_
  refine loop_induction (motive := fun t => ¬ b.contains t.square) ended ?_ ?_ inside
  · intro t h inside
    obtain ⟨t', hturn⟩ : ∃ t', turn none leg b color ⟨0, 0⟩ t = .inr t' := exists_inr_of_still leaper inside
    rw [hturn] at h
    cases h
  · intro t t' h _ outside _
    exact outside (advance_of_inr h).2.2

/-! ### What the loop collects -/

theorem contains_ahead_of_ray {n k j : Nat} (hk : k < j)
    (hj : j ≤ k + (b.ray v n (s.ahead v k)).length) : b.contains (s.ahead v j) := by
  induction n generalizing k with
  | zero =>
    simp only [Board.ray, List.length_nil] at hj
    omega
  | succ n ih =>
    rw [Board.ray, Square.shift_ahead] at hj
    split at hj
    · rename_i next
      rw [List.length_cons] at hj
      by_cases here : j = k + 1
      · exact here ▸ next
      · exact ih (k := k + 1) (by omega) (by omega)
    · rw [List.length_nil] at hj
      omega

/-- A ray along a step that moves reaches the edge before it is longer than the board. -/
theorem length_ray_le (moving : v ≠ ⟨0, 0⟩) (s : Square) (n : Nat) : (b.ray v n s).length ≤ b.extent := by
  refine Board.le_extent (s := s) moving fun j hj hlength => ?_
  refine contains_ahead_of_ray (n := n) (k := 0) hj ?_
  rwa [Square.ahead_zero, Nat.zero_add]

/-- Run along `n` squares, the loop collects what `Leg.walk` does if they are all that are ahead: either
the limit is reached behind them, and not before, or the edge is. -/
theorem exists_loop_eq (n : Nat) (t : Track) (going : ∀ j, j < n → ¬ Exhausts limit (t.steps + j))
    (last : Exhausts limit (t.steps + n) ∨ (b.ray v n t.square).length < n) :
    ∃ turns, loop limit leg b color v t = Part.some
      ⟨turns, t.reached ++ leg.walk b color (t.steps + 1) t.leapt (b.ray v n t.square)⟩ := by
  induction n generalizing t with
  | zero =>
    have exhausted : Exhausts limit t.steps := last.resolve_right (Nat.not_lt_zero _)
    refine ⟨t.steps, loop_of_inl ?_⟩
    rw [turn_of_exhausts exhausted, Board.ray, walk, List.append_nil]
  | succ n ih =>
    have start : ¬ Exhausts limit t.steps := going 0 n.succ_pos
    rw [Board.ray] at last ⊢
    by_cases next : b.contains (t.square.shift v)
    · rw [if_pos next] at last ⊢
      rw [walk_cons, ← List.append_assoc]
      by_cases ends : leg.ends t.leapt (b.cell (t.square.shift v))
      · rw [if_pos ends, List.append_nil]
        exact ⟨_, loop_of_inl (turn_of_ends start next ends)⟩
      · rw [if_neg ends, loop_of_inr (turn_of_onward start next ends)]
        have shift : ∀ j, t.steps + 1 + j = t.steps + (j + 1) := fun j => by omega
        refine ih _ (fun j hj => ?_) (last.imp (fun exhausted => ?_) fun short => ?_)
        · rw [shift]
          exact going (j + 1) (Nat.succ_lt_succ hj)
        · rwa [shift]
        · exact Nat.lt_of_succ_lt_succ short
    · rw [if_neg next, walk, List.append_nil]
      exact ⟨_, loop_of_inl (turn_of_outside start next)⟩

/-- Along a step that moves, the loop ends with what `Leg.reach` gives. -/
theorem exists_loop_eq_reach (moving : v ≠ ⟨0, 0⟩) (leg : Leg) (color : Color) (s : Square)
    (reached : List Square) : ∃ turns, loop leg.maxSteps? leg b color v { square := s, reached } =
      Part.some ⟨turns, reached ++ leg.reach b color s v⟩ := by
  have short : (b.ray v (b.extent + 1) s).length < b.extent + 1 :=
    Nat.lt_succ_of_le (length_ray_le moving s _)
  refine exists_loop_eq (leg.span b) { square := s, reached } (fun j hj => ?_) ?_
  · rintro ⟨m, hm, exhausted⟩
    rw [span, hm] at hj
    dsimp only at hj exhausted
    omega
  · cases hm : leg.maxSteps? with
    | none =>
      right
      rw [span, hm]
      exact short
    | some m =>
      rcases Nat.le_total m.toNat (b.extent + 1) with le | le
      · left
        refine ⟨m, rfl, ?_⟩
        rw [span, hm]
        dsimp only
        omega
      · right
        rw [span, hm]
        dsimp only
        rw [Nat.min_eq_right le]
        exact short

/-- The walks of the leg along this step end, wherever on the board they start and whether there is a limit
or not: the step moves, so each turn leads closer to the edge. -/
structure Ends (leg : Leg) (b : Board) (color : Color) (v : Step) : Prop where
  moving : v ≠ ⟨0, 0⟩
  closer : ∀ limit t t', b.contains t.square → turn limit leg b color v t = .inr t' →
    b.contains t'.square ∧ b.room v t'.square < b.room v t.square
  ends : ∀ limit s, b.contains s → ∃ trip, loop limit leg b color v { square := s } = Part.some trip ∧
    trip.turns ≤ max b.width b.height
  finds : ∀ s, ∃ turns, loop leg.maxSteps? leg b color v { square := s } =
    Part.some ⟨turns, leg.reach b color s v⟩

theorem Ends.of_ne_still (leg : Leg) (b : Board) (color : Color) (moving : v ≠ ⟨0, 0⟩) :
    leg.Ends b color v where
  moving := moving
  closer _ _ _ inside h := ⟨(advance_of_inr h).2.2, room_of_inr moving inside h⟩
  ends limit s inside := by
    obtain ⟨trip, ended, turns⟩ := exists_loop moving limit leg color { square := s } inside
    refine ⟨trip, ended, turns.trans ?_⟩
    rw [Nat.zero_add]
    exact Board.room_le_extent inside v
  finds s := exists_loop_eq_reach moving leg color s []

end Movement.Leg

end VariantChess
