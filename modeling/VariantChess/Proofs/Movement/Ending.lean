import VariantChess.Proofs.Loop
import VariantChess.Proofs.Movement.Meaning
import VariantChess.Proofs.Movement.Printing

/-!
# Generation ends

A rule is run by loops: one for each of its steps, and then those of its groups and of the rule that goes on,
from every square reached (`Rule.generate`). None of these loops bounds itself, so generation need not end;
it does for the rules that are read from texts, because the readers take no leg of a leap that is not at
least one square long. No step of such a rule, of its groups and of the rules that go on stays where it is
(`Rule.Moving`), so every loop ends (`Leg.exists_loop`). What generation comes to is then what
`Rule.targets` gives (`Rule.generate_eq`).
-/

namespace VariantChess.Movement

/-! ### Rules that move -/

theorem Distance.still_notMem_leaps {m n : Int} (long : 1 ≤ m) : (⟨0, 0⟩ : Step) ∉ Distance.leaps m n := by
  rw [leaps, List.mem_eraseDups]
  simp only [List.mem_cons, Step.mk.injEq, List.not_mem_nil, or_false]
  omega

/-- No heading stays where it is, as long as a leap is at least one square long. -/
theorem Heading.ne_still {h : Heading} {color : Color} {distance : Distance} {steps : List Step}
    (wellFormed : distance.WellFormed) (hsteps : h.steps? color distance = some steps) :
    ∀ v ∈ steps, v ≠ ⟨0, 0⟩ := by
  rintro v hv rfl
  cases h with
  | hippogonal =>
    cases distance with
    | hippogonal m n =>
      obtain rfl : Distance.leaps m n = steps := Option.some.inj hsteps
      exact Distance.still_notMem_leaps wellFormed.1 hv
    | _ => cases hsteps
  | _ =>
    obtain rfl := Option.some.inj hsteps
    revert hv
    cases color <;> decide

namespace Rule

/-- No step of the rule, of its groups and of the rules that go on stays where it is. -/
inductive Moving : Rule → Prop
  | mk {leg : Leg} {directions : List Direction} {next : Option Rule}
      (moving : ∀ color v, (Rule.mk leg directions next).HasStep color v → v ≠ ⟨0, 0⟩)
      (groups : ∀ g, .group g ∈ directions → Moving g)
      (onward : ∀ t, next = some t → Moving t) : Moving (.mk leg directions next)

/-- The rule is one of those that the other one is made of. -/
inductive Node : Rule → Rule → Prop
  | self (rule : Rule) : Node rule rule
  | group {leg : Leg} {directions : List Direction} {next : Option Rule} {g node : Rule}
      (mem : .group g ∈ directions) (inner : Node g node) : Node (.mk leg directions next) node
  | onward {leg : Leg} {directions : List Direction} {t node : Rule} (inner : Node t node) :
      Node (.mk leg directions (some t)) node

variable {rule node : Rule}

theorem WellFormed.moving (wellFormed : rule.WellFormed) : rule.Moving := by
  induction wellFormed with
  | mk distance _ _ _ _ _ _ ihGroups ihNext =>
    refine .mk ?_ (fun g hg => ihGroups g (by simpa using hg)) ihNext
    rintro color v ⟨h, steps, -, hsteps, hv⟩
    exact Heading.ne_still distance hsteps v hv

theorem moving_of_compileRule {text : String} (compiled : compileRule text = .ok rule) : rule.Moving :=
  (wellFormed_of_compileRule compiled).moving

/-- What a rule hands down to its groups and to the rule that goes on holds of all that it is made of. -/
theorem Node.keeps {P : Rule → Prop} (inner : rule.Node node)
    (groups : ∀ {leg directions next g}, P (.mk leg directions next) → .group g ∈ directions → P g)
    (onward : ∀ {leg directions t}, P (.mk leg directions (some t)) → P t) (holds : P rule) : P node := by
  induction inner with
  | self => exact holds
  | group mem _ ih => exact ih (groups holds mem)
  | onward _ ih => exact ih (onward holds)

theorem Moving.of_node (moving : rule.Moving) (inner : rule.Node node) : node.Moving := by
  refine inner.keeps (fun moving mem => ?_) (fun moving => ?_) moving
  · cases moving with
    | mk _ groups _ => exact groups _ mem
  · cases moving with
    | mk _ _ onward => exact onward _ rfl

theorem Suited.of_node (suited : rule.Suited) (inner : rule.Node node) : node.Suited := by
  refine inner.keeps (fun suited mem => ?_) (fun suited => ?_) suited
  · cases suited with
    | mk _ groups _ => exact groups _ mem
  · cases suited with
    | mk _ _ onward => exact onward _ rfl

/-- The steps of the rule can be found, and none of them stays where it is. -/
theorem Moving.exists_steps (moving : rule.Moving) (suited : rule.Suited) (color : Color) :
    ∃ steps, rule.steps? color = some steps ∧ ∀ v ∈ steps, v ≠ ⟨0, 0⟩ := by
  cases moving with
  | @mk leg directions next moving _ _ =>
    cases suited with
    | mk headings _ _ =>
      obtain ⟨steps, hsteps, mem⟩ := Rule.exists_steps (.mk leg directions next) color headings
      exact ⟨steps, hsteps, fun v hv => moving color v ((mem v).1 hv)⟩

end Rule

/-! ### Generation by loops -/

/-- All results of all elements, in order, if a function that need not end does so for each of them. -/
def gatherPart {ε α β : Type} (f : α → Part (Except ε (List β))) : List α → Part (Except ε (List β))
  | [] => .some (.ok [])
  | a :: as => (f a).bind fun
    | .error e => .some (.error e)
    | .ok bs => (gatherPart f as).map fun rest => rest.map (bs ++ ·)

/-- Runs the loops of these steps one after the other. -/
def Leg.loops (leg : Leg) (b : Board) (color : Color) (start : Square) :
    List Step → List Square → Part (List Square)
  | [], reached => .some reached
  | v :: steps, reached =>
    (leg.loop leg.maxSteps? b color v { square := start, reached }).bind fun trip =>
      Leg.loops leg b color start steps trip.reached

mutual

/-- The targets of a rule, as far as the loops end that are run to find them. -/
def Rule.generate (b : Board) (piece : Piece) (origin start : Square) :
    Rule → Part (Except Error (List Square))
  | .mk leg directions next =>
    if leg.initial && piece.hasMoved then .some (.ok [])
    else
      match (Rule.mk leg directions next).steps? piece.color with
      | none => .some (.error .noLeap)
      | some steps =>
        (leg.loops b piece.color start steps []).bind fun reached =>
          (groupGenerate b piece start directions).bind fun
            | .error e => .some (.error e)
            | .ok inner =>
              gatherPart
                (fun s => (nextGenerate b piece origin s next).map fun result =>
                  result.map fun further => if s = origin then further else s :: further)
                (reached ++ inner)
termination_by structural rule => rule

def groupGenerate (b : Board) (piece : Piece) (start : Square) :
    List Direction → Part (Except Error (List Square))
  | [] => .some (.ok [])
  | direction :: directions => (directionGenerate b piece start direction).bind fun
    | .error e => .some (.error e)
    | .ok targets => (groupGenerate b piece start directions).map fun rest => rest.map (targets ++ ·)
termination_by structural directions => directions

def directionGenerate (b : Board) (piece : Piece) (start : Square) :
    Direction → Part (Except Error (List Square))
  | .heading _ => .some (.ok [])
  | .group rule => rule.generate b piece start start
termination_by structural direction => direction

def nextGenerate (b : Board) (piece : Piece) (origin start : Square) :
    Option Rule → Part (Except Error (List Square))
  | none => .some (.ok [])
  | some rule => rule.generate b piece origin start
termination_by structural next => next

end

variable {b : Board} {piece : Piece} {rule : Rule}

theorem gatherPart_eq {ε α β : Type} {f : α → Part (Except ε (List β))} {g : α → Except ε (List β)}
    (as : List α) (ends : ∀ a ∈ as, f a = .some (g a)) : gatherPart f as = .some (gather g as) := by
  induction as with
  | nil => rfl
  | cons a as ih =>
    obtain ⟨first, others⟩ := List.forall_mem_cons.1 ends
    rw [gatherPart, gather, first, Part.bind_some, ih others]
    cases g a with
    | error e => rfl
    | ok bs => exact Part.map_some _ _

theorem Leg.loops_eq (leg : Leg) (color : Color) (start : Square) {steps : List Step}
    (moving : ∀ v ∈ steps, v ≠ ⟨0, 0⟩) (reached : List Square) :
    leg.loops b color start steps reached = .some (reached ++ steps.flatMap (leg.reach b color start)) := by
  induction steps generalizing reached with
  | nil => rw [loops, List.flatMap_nil, List.append_nil]
  | cons v steps ih =>
    obtain ⟨first, others⟩ := List.forall_mem_cons.1 moving
    obtain ⟨turns, ended⟩ := exists_loop_eq_reach (b := b) first leg color start reached
    rw [loops, ended, Part.bind_some, ih others, List.flatMap_cons, List.append_assoc]

theorem groupGenerate_eq {start : Square} {directions : List Direction}
    (groups : ∀ g, .group g ∈ directions →
      g.generate b piece start start = .some (g.targets b piece start start)) :
    groupGenerate b piece start directions = .some (groupTargets b piece start directions) := by
  induction directions with
  | nil => rfl
  | cons direction directions ih =>
    have first : directionGenerate b piece start direction =
        .some (directionTargets b piece start direction) := by
      cases direction with
      | heading h => rfl
      | group g => exact groups g List.mem_cons_self
    have others := ih fun g hg => groups g (List.mem_cons_of_mem _ hg)
    rw [groupGenerate, groupTargets, first, Part.bind_some, others]
    cases directionTargets b piece start direction with
    | error e => rfl
    | ok targets => exact Part.map_some _ _

theorem nextGenerate_eq {origin start : Square} {next : Option Rule}
    (onward : ∀ t, next = some t →
      t.generate b piece origin start = .some (t.targets b piece origin start)) :
    nextGenerate b piece origin start next = .some (nextTargets b piece origin start next) := by
  cases next with
  | none => rfl
  | some t => exact onward t rfl

namespace Rule

/-- Generation ends for a suited rule that moves, and finds its targets. -/
theorem generate_eq (moving : rule.Moving) (suited : rule.Suited) (b : Board) (piece : Piece)
    (origin start : Square) :
    rule.generate b piece origin start = .some (rule.targets b piece origin start) := by
  induction moving generalizing origin start with
  | @mk leg directions next moving groups onward ihGroups ihNext =>
    obtain ⟨steps, hsteps, moves⟩ := (Moving.mk moving groups onward).exists_steps suited piece.color
    cases suited with
    | mk _ suitedGroups suitedNext =>
      have inner := groupGenerate_eq fun g hg => ihGroups g hg (suitedGroups g hg) start start
      have further := fun s => nextGenerate_eq fun t ht => ihNext t ht (suitedNext t ht) origin s
      rw [generate, targets]
      by_cases available : leg.initial && piece.hasMoved
      · rw [if_pos available, if_pos available]
      · rw [if_neg available, if_neg available, hsteps]
        dsimp only
        rw [leg.loops_eq _ _ moves, Part.bind_some, inner, Part.bind_some, List.nil_append]
        cases groupTargets b piece start directions with
        | error e => rfl
        | ok inner =>
          refine gatherPart_eq _ fun s _ => ?_
          rw [further, Part.map_some]

/-- Generation ends for every rule that is read from a text, and so do all loops that it runs. -/
theorem generation_ends {text : String} (compiled : compileRule text = .ok rule) (b : Board) :
    (∀ node, rule.Node node → ∀ color, ∃ steps, node.steps? color = some steps ∧
      ∀ v ∈ steps, node.leg.Ends b color v) ∧
    ∀ piece origin start, ∃ targets, rule.generate b piece origin start = .some (.ok targets) ∧
      rule.targets b piece origin start = .ok targets := by
  have moving := moving_of_compileRule compiled
  have suited := suited_of_compileRule compiled
  constructor
  · intro node inner color
    obtain ⟨steps, hsteps, moves⟩ := (moving.of_node inner).exists_steps (suited.of_node inner) color
    exact ⟨steps, hsteps, fun v hv => .of_ne_still node.leg b color (moves v hv)⟩
  · intro piece origin start
    obtain ⟨targets, htargets, -⟩ := exists_targets suited b piece origin start
    exact ⟨targets, htargets ▸ generate_eq moving suited b piece origin start, htargets⟩

/-- Leaps that are repeated without limit and stopped by nothing, and from where they land a locust. -/
theorem generation_ends_rider :
    let locust : Rule := .mk { locust := true } [.heading .orthogonal] none
    let rider : Rule := .mk { distance := .hippogonal 2 1, ride := some .any, leaper := true }
      [.heading .hippogonal] (some locust)
    let piece : Piece := ⟨"n", .white, false⟩
    let b := Board.ofRows [[some piece, none, none, some ⟨"a", .black, false⟩],
      [none, none, some ⟨"a", .white, false⟩, none], [none, some ⟨"a", .black, false⟩, none, none]]
    compileRule "&~2/1.^n+" = .ok rider ∧ rider.leg.maxSteps? = none ∧
      rider.leg.Ends b .white ⟨2, 1⟩ ∧ locust.leg.Ends b .white ⟨0, -1⟩ ∧
      rider.generate b piece ⟨0, 0⟩ ⟨0, 0⟩ =
        .some (.ok [⟨1, 2⟩, ⟨2, 2⟩, ⟨3, 2⟩, ⟨0, 2⟩, ⟨1, 1⟩, ⟨1, 0⟩]) := by
  intro locust rider piece b
  have compiled : compileRule "&~2/1.^n+" = .ok rider := rfl
  obtain ⟨ends, generated⟩ := generation_ends compiled b
  obtain ⟨leaps, hleaps, leapsEnd⟩ := ends rider (.self rider) .white
  obtain ⟨steps, hsteps, stepsEnd⟩ := ends locust (.onward (.self locust)) .white
  obtain rfl := Option.some.inj hleaps
  obtain rfl := Option.some.inj hsteps
  obtain ⟨targets, generates, htargets⟩ := generated piece ⟨0, 0⟩ ⟨0, 0⟩
  obtain rfl := Except.ok.inj htargets
  exact ⟨compiled, rfl, leapsEnd _ (by decide), stepsEnd _ (by decide), generates⟩

end Rule

end VariantChess.Movement
