import VariantChess.Proofs.Movement.Ending

/-!
# Limits

A leg with a limit cuts its loop off there, whether a leap is pending or a piece waits ahead. This loses
nothing. Short of the limit no turn depends on it (`Leg.turn_eq_turn_none`); behind it the leg accepts no
step (`Leg.Exhausts.spent`), so a loop that goes on there leaps over nothing that counts and collects nothing
until it is over (`Leg.reached_of_spent`). The limited loop therefore follows the unlimited one and leaves it
with the same squares (`Leg.exists_limited`), along every step for which the unlimited one ends.

That holds of every leg, also where the limit is no step at all. The rules that can be written have no other
limits than the farthest step that they accept, and accept every step where they have none
(`Leg.WellLimited`).
-/

namespace VariantChess.Movement

namespace Leg

variable {leg : Leg} {b : Board} {s : Square} {v : Step} {color : Color} {limit : Option Int} {k : Nat}
  {leapt : Bool} {t t' : Track} {trip : Trip}

/-! ### Behind the limit -/

/-- No step behind this one is accepted. -/
def Spent (leg : Leg) (k : Nat) : Prop := ∀ j : Nat, k < j → ¬ leg.accepts j

theorem Spent.succ (spent : leg.Spent k) : leg.Spent (k + 1) :=
  fun j hj => spent j (Nat.lt_of_succ_lt hj)

theorem Exhausts.spent (exhausted : Exhausts leg.maxSteps? k) : leg.Spent k := by
  obtain ⟨m, farthest, hm⟩ := exhausted
  intro j hj accepted
  have reached : (j : Int) ≤ m := le_of_accepts accepted farthest
  omega

theorem collects_eq_false (refused : ¬ leg.accepts k) (cell : Cell) :
    leg.collects color k leapt cell = false := by
  have refused : leg.accepts k = false := by simpa using refused
  cases cell <;> simp [collects, refused]

theorem reached_of_inl (refused : ¬ leg.accepts (t.steps + 1 : Nat))
    (h : turn limit leg b color v t = .inl trip) : trip.reached = t.reached ∧ t.steps ≤ trip.turns := by
  rcases cases_of_inl h with ⟨-, rfl⟩ | ⟨-, rfl⟩ | ⟨-, -, rfl⟩
  · exact ⟨rfl, le_rfl⟩
  · exact ⟨rfl, Nat.le_succ _⟩
  · simp [collects_eq_false refused]

theorem reached_of_inr (refused : ¬ leg.accepts (t.steps + 1 : Nat))
    (h : turn limit leg b color v t = .inr t') : t'.reached = t.reached ∧ t'.steps = t.steps + 1 := by
  obtain ⟨-, -, rfl⟩ := cases_of_inr h
  simp [collects_eq_false refused]

/-- Behind the last step that is accepted, a loop collects nothing, however long it goes on. -/
theorem reached_of_spent (ended : trip ∈ loop limit leg b color v t) (spent : leg.Spent t.steps) :
    trip.reached = t.reached ∧ t.steps ≤ trip.turns := by
  refine loop_induction
    (motive := fun t => leg.Spent t.steps → trip.reached = t.reached ∧ t.steps ≤ trip.turns) ended ?_ ?_ spent
  · intro t h spent
    exact reached_of_inl (spent _ t.steps.lt_succ_self) h
  · intro t t' h _ ih spent
    obtain ⟨reached, steps⟩ := reached_of_inr (spent _ t.steps.lt_succ_self) h
    obtain ⟨rest, turns⟩ := ih (steps ▸ spent.succ)
    exact ⟨rest.trans reached, by omega⟩

/-! ### The loop with the limit and without -/

/-- Short of the limit, a turn does not depend on it. -/
theorem turn_eq_turn_none (going : ¬ Exhausts limit t.steps) :
    turn limit leg b color v t = turn none leg b color v t :=
  (turn_of_going going).trans (turn_of_going (not_exhausts_none t.steps)).symm

/-- Where the limit cuts the loop off, it has all that it would collect without. -/
theorem exists_limited_of_exhausts (exhausted : Exhausts leg.maxSteps? t.steps)
    (ended : trip ∈ loop none leg b color v t) :
    ∃ turns ≤ trip.turns, loop leg.maxSteps? leg b color v t = Part.some ⟨turns, trip.reached⟩ := by
  obtain ⟨reached, turns⟩ := reached_of_spent ended exhausted.spent
  refine ⟨t.steps, turns, ?_⟩
  rw [reached]
  exact loop_of_inl (turn_of_exhausts exhausted)

/-- If the loop ends without a limit, then under the limit of its leg it ends with the same squares. -/
theorem exists_limited (ended : trip ∈ loop none leg b color v t) :
    ∃ turns ≤ trip.turns, loop leg.maxSteps? leg b color v t = Part.some ⟨turns, trip.reached⟩ := by
  -- the limited loop is with the unlimited one, turn by turn, until it is cut off
  refine loop_induction (motive := fun t => ∃ turns ≤ trip.turns,
    loop leg.maxSteps? leg b color v t = Part.some ⟨turns, trip.reached⟩) ended ?_ ?_
  · intro t last
    by_cases exhausted : Exhausts leg.maxSteps? t.steps
    · exact exists_limited_of_exhausts exhausted (Part.eq_some_iff.1 (loop_of_inl last))
    · exact ⟨trip.turns, le_rfl, loop_of_inl ((turn_eq_turn_none exhausted).trans last)⟩
  · intro t t' onward ended ih
    by_cases exhausted : Exhausts leg.maxSteps? t.steps
    · exact exists_limited_of_exhausts exhausted (loop_of_inr onward ▸ ended)
    · rwa [loop_of_inr ((turn_eq_turn_none exhausted).trans onward)]

/-! ### Where an unlimited loop ends -/

/-- The steps that lead off the board or to a piece that stops the walk. -/
def Halts (leg : Leg) (b : Board) (s : Square) (v : Step) : Set Nat :=
  {k | 1 ≤ k ∧ (¬ b.contains (s.ahead v k) ∨ leg.Stops b s v k)}

theorem Walked.lt_of_halts (walked : leg.Walked b s v k leapt) {j : Nat} (halts : j ∈ leg.Halts b s v) :
    k < j := by
  obtain ⟨pos, halts⟩ := halts
  by_contra behind
  rcases halts with outside | stops
  · exact outside (walked.inside j pos (Nat.le_of_not_lt behind))
  · exact walked.clear j pos (Nat.le_of_not_lt behind) stops

/-- Nothing but the edge or a piece that stops the walk ends a loop without a limit. -/
theorem Walked.isLeast_halts (walked : leg.Walked b s v t.steps t.leapt)
    (square : t.square = s.ahead v t.steps) (ended : trip ∈ loop none leg b color v t) :
    IsLeast (leg.Halts b s v) trip.turns := by
  refine loop_induction (motive := fun t => leg.Walked b s v t.steps t.leapt →
    t.square = s.ahead v t.steps → IsLeast (leg.Halts b s v) trip.turns) ended ?_ ?_ walked square
  · intro t h walked square
    have next : t.square.shift v = s.ahead v (t.steps + 1) := square ▸ Square.shift_ahead s v t.steps
    rcases cases_of_inl h with ⟨exhausted, -⟩ | ⟨outside, rfl⟩ | ⟨-, ends, rfl⟩
    · exact absurd exhausted (not_exhausts_none t.steps)
    · exact ⟨⟨t.steps.succ_pos, .inl (next ▸ outside)⟩, fun j halts => walked.lt_of_halts halts⟩
    · exact ⟨⟨t.steps.succ_pos, .inr (walked.ends_iff.1 (next ▸ ends))⟩,
        fun j halts => walked.lt_of_halts halts⟩
  · intro t t' h _ ih walked square
    have next : t.square.shift v = s.ahead v (t.steps + 1) := square ▸ Square.shift_ahead s v t.steps
    obtain ⟨inside, onward, rfl⟩ := cases_of_inr h
    rw [next] at inside onward ih
    exact ih (walked.next inside (mt walked.ends_iff.2 onward)) rfl

theorem exists_unlimited (moving : v ≠ ⟨0, 0⟩) (leg : Leg) (b : Board) (color : Color) (t : Track) :
    ∃ trip, loop none leg b color v t = Part.some trip := by
  have short : (b.ray v (b.extent + 1) t.square).length < b.extent + 1 :=
    Nat.lt_succ_of_le (length_ray_le moving t.square _)
  have going : ∀ j, j < b.extent + 1 → ¬ Exhausts none (t.steps + j) := fun j _ => not_exhausts_none _
  obtain ⟨turns, ended⟩ : ∃ turns, loop none leg b color v t = Part.some ⟨turns, t.reached ++
      leg.walk b color (t.steps + 1) t.leapt (b.ray v (b.extent + 1) t.square)⟩ :=
    exists_loop_eq (b.extent + 1) t going (.inr short)
  exact ⟨_, ended⟩

/-! ### Limits of rules that can be written -/

/-- The limit of the leg is the farthest step that it accepts, and without a limit it accepts every step. -/
structure WellLimited (leg : Leg) : Prop where
  farthest : ∀ m, leg.maxSteps? = some m → 1 ≤ m ∧ leg.accepts m ∧ ∀ j, m < j → ¬ leg.accepts j
  unlimited : leg.maxSteps? = none → ∀ j, 1 ≤ j → leg.accepts j

end Leg

theorem Distance.WellFormed.accepts_maxSteps? {distance : Distance} {m : Int}
    (wellFormed : distance.WellFormed) (farthest : distance.maxSteps? = some m) :
    1 ≤ m ∧ distance.accepts m := by
  cases distance with
  | any => cases farthest
  | exact n =>
    obtain rfl : n = m := Option.some.inj farthest
    exact ⟨wellFormed, beq_self_eq_true n⟩
  | range low high =>
    obtain rfl : high = m := Option.some.inj farthest
    obtain ⟨pos, ordered⟩ := wellFormed
    exact ⟨pos.trans ordered, by simp [accepts, ordered]⟩
  | hippogonal =>
    obtain rfl : 1 = m := Option.some.inj farthest
    exact ⟨le_rfl, rfl⟩

theorem Distance.eq_any {distance : Distance} (unlimited : distance.maxSteps? = none) : distance = any := by
  cases distance with
  | any => rfl
  | _ => cases unlimited

theorem Leg.wellLimited {leg : Leg} (distance : leg.distance.WellFormed)
    (ride : leg.ride = none ∨ leg.ride = some .any) : leg.WellLimited := by
  rcases ride with bare | rides
  · have same : leg.maxSteps? = leg.distance.maxSteps? := by simp [maxSteps?, bare]
    have accepted : ∀ j, leg.distance.accepts j → leg.accepts j := fun j h => by simp [accepts, h]
    constructor
    · intro m farthest
      obtain ⟨pos, last⟩ := distance.accepts_maxSteps? (same ▸ farthest)
      exact ⟨pos, accepted m last, fun j hj h => absurd (le_of_accepts h farthest) (not_le.2 hj)⟩
    · intro unlimited j _
      exact accepted j (Distance.eq_any (same ▸ unlimited) ▸ rfl)
  · constructor
    · intro m farthest
      simp [maxSteps?, rides] at farthest
    · intro _ j _
      simp [accepts, rides, Distance.accepts]

namespace Rule

variable {rule node : Rule}

theorem WellFormed.wellLimited (wellFormed : rule.WellFormed) : rule.leg.WellLimited := by
  cases wellFormed with
  | mk distance _ _ _ ride _ _ => exact Leg.wellLimited distance ride

theorem WellFormed.of_node (wellFormed : rule.WellFormed) (inner : rule.Node node) : node.WellFormed := by
  refine inner.keeps (fun wellFormed mem => ?_) (fun wellFormed => ?_) wellFormed
  · cases wellFormed with
    | mk _ _ _ _ _ grouped _ => exact grouped _ (by simpa using mem)
  · cases wellFormed with
    | mk _ _ _ _ _ _ onward => exact onward _ rfl

/-- A loop without a limit goes on to the first step that leads off the board or to a piece that stops the
walk. The limit of the leg saves turns and loses nothing: the same squares are collected in the same order,
and they are those of `Leg.reach`. In a rule that is read from a text, each limit is the farthest step that
its leg accepts, and a leg without a limit accepts every step. -/
theorem limit_loses_nothing :
    (∀ (rule : Rule) (b : Board) (color : Color) (s : Square) (v : Step), v ≠ ⟨0, 0⟩ →
      ∀ reached, ∃ cut whole, cut ≤ whole ∧ IsLeast (rule.leg.Halts b s v) whole ∧
        rule.leg.loop none b color v { square := s, reached } =
          .some ⟨whole, reached ++ rule.leg.reach b color s v⟩ ∧
        rule.leg.loop rule.leg.maxSteps? b color v { square := s, reached } =
          .some ⟨cut, reached ++ rule.leg.reach b color s v⟩) ∧
    (∀ text rule, compileRule text = .ok rule → ∀ node, rule.Node node → node.leg.WellLimited) ∧
    ∀ text rules, compilePiece text = .ok rules → ∀ rule ∈ rules, ∀ node, rule.Node node →
      node.leg.WellLimited := by
  refine ⟨fun rule b color s v moving reached => ?_, fun text rule compiled node inner => ?_,
    fun text rules compiled rule hrule node inner => ?_⟩
  · obtain ⟨trip, unlimited⟩ := Leg.exists_unlimited moving rule.leg b color { square := s, reached }
    have ended := Part.eq_some_iff.1 unlimited
    obtain ⟨cut, le, limited⟩ := Leg.exists_limited ended
    obtain ⟨turns, found⟩ := Leg.exists_loop_eq_reach (b := b) moving rule.leg color s reached
    obtain ⟨whole, squares⟩ := trip
    -- the limited loop collects the squares of the walk, so the unlimited one does
    obtain ⟨-, rfl⟩ : turns = cut ∧ reached ++ rule.leg.reach b color s v = squares := by
      simpa using Part.some_inj.1 (found.symm.trans limited)
    have start := Leg.Walked.start rule.leg b s v
    exact ⟨cut, whole, le, start.isLeast_halts (s.ahead_zero v).symm ended, unlimited, limited⟩
  · exact ((wellFormed_of_compileRule compiled).of_node inner).wellLimited
  · exact ((wellFormed_of_compilePiece compiled rule hrule).of_node inner).wellLimited

/-- A locust that leaps on, with a range that no notation spells: it is cut off behind the second piece, and
the third one is not taken without a limit either. -/
theorem limit_loses_nothing_locust :
    let locust : Rule := .mk { distance := .range (-1) 3, leaper := true, locust := true }
      [.heading .sideways] none
    let b := Board.ofRows [[none, none, some ⟨"a", .white, false⟩, some ⟨"a", .black, false⟩,
      some ⟨"a", .black, false⟩, none]]
    let slider : Rule := .mk { distance := .range 2 4 } [.heading .orthogonal] none
    let rider : Rule := .mk { distance := .hippogonal 1 2, ride := some .any } [.heading .hippogonal]
      (some slider)
    (⟨1, 0⟩ : Step) ≠ ⟨0, 0⟩ ∧ (∃ cut whole, cut ≤ whole ∧
      IsLeast (locust.leg.Halts b ⟨0, 0⟩ ⟨1, 0⟩) whole ∧
      locust.leg.loop none b .white ⟨1, 0⟩ { square := ⟨0, 0⟩ } = .some ⟨whole, [⟨1, 0⟩, ⟨3, 0⟩]⟩ ∧
      locust.leg.loop (some 3) b .white ⟨1, 0⟩ { square := ⟨0, 0⟩ } = .some ⟨cut, [⟨1, 0⟩, ⟨3, 0⟩]⟩) ∧
    compileRule "&1/2.2-4+" = .ok rider ∧ rider.Node slider ∧ rider.leg.WellLimited ∧
      slider.leg.WellLimited ∧
    compilePiece "n(2-4+)" = .ok [.mk {} [.group slider] none] ∧
      (Rule.mk {} [.group slider] none).leg.WellLimited := by
  intro locust b slider rider
  obtain ⟨same, ofRule, ofPiece⟩ := limit_loses_nothing
  have compiled : compileRule "&1/2.2-4+" = .ok rider := rfl
  have inner : rider.Node slider := .onward (.self slider)
  have piece : compilePiece "n(2-4+)" = .ok [.mk {} [.group slider] none] := rfl
  have moving : (⟨1, 0⟩ : Step) ≠ ⟨0, 0⟩ := by decide
  exact ⟨moving, same locust b .white ⟨0, 0⟩ ⟨1, 0⟩ moving [], compiled, inner,
    ofRule _ _ compiled _ (.self rider), ofRule _ _ compiled _ inner, piece,
    ofPiece _ _ piece _ List.mem_cons_self _ (.self _)⟩

end Rule

end VariantChess.Movement
