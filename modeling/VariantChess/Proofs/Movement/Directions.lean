import Mathlib.Logic.Relation
import VariantChess.Proofs.Movement.Change
import VariantChess.Proofs.Movement.Compilation

/-!
# The directions of a rule

The directions of a rule act one by one: what one of them reaches does not depend on the others, and the
rule that goes on is run from every square that is reached, whichever direction has reached it. So a rule
can be split into two that have its directions between them (`attains_split_iff`), and neither the order nor
the repetition of directions counts, at whatever depth (`sameMoves_of_split`).
-/

namespace VariantChess

namespace Movement.Rule

variable {b : Board} {piece : Piece} {rule rule' : Rule} {leg : Leg}
  {directions first second : List Direction} {next : Option Rule} {s d : Square}

theorem Suited.of_subset (suited : Suited (.mk leg directions next)) (subset : first ⊆ directions) :
    Suited (.mk leg first next) := by
  obtain ⟨headings, groups, onward⟩ := suited
  exact .mk (fun h mem => headings h (subset mem)) (fun g mem => groups g (subset mem)) onward

/-! ### Splitting the directions -/

/-- Whatever reaches a square is one direction, and that is in one of the parts. -/
theorem Reaches.split (parts : ∀ d ∈ directions, d ∈ first ∨ d ∈ second)
    (reached : (Rule.mk leg directions next).Reaches b piece s d) :
    (Rule.mk leg first next).Reaches b piece s d ∨ (Rule.mk leg second next).Reaches b piece s d := by
  obtain ⟨available, ⟨v, ⟨h, steps, mem, hsteps, hv⟩, walked⟩ | ⟨g, mem, attained, away⟩⟩ :=
    reaches_iff.1 reached
  · rcases parts _ mem with mem | mem
    · exact .inl (.walk available ⟨h, steps, mem, hsteps, hv⟩ walked)
    · exact .inr (.walk available ⟨h, steps, mem, hsteps, hv⟩ walked)
  · rcases parts _ mem with mem | mem
    · exact .inl (.group available mem attained away)
    · exact .inr (.group available mem attained away)

theorem attains_split_iff (parts : ∀ d, d ∈ directions ↔ d ∈ first ∨ d ∈ second) :
    (Rule.mk leg directions next).Attains b piece s d ↔
      (Rule.mk leg first next).Attains b piece s d ∨ (Rule.mk leg second next).Attains b piece s d := by
  constructor
  · rintro (⟨reached⟩ | ⟨reached, hnext, attained⟩)
    · exact (reached.split fun d => (parts d).1).imp .here .here
    · exact (reached.split fun d => (parts d).1).imp (.onward · hnext attained) (.onward · hnext attained)
  · rintro (attained | attained)
    · exact Within.of_subset (fun d mem => (parts d).2 (.inl mem)) _ _ attained
    · exact Within.of_subset (fun d mem => (parts d).2 (.inr mem)) _ _ attained

/-! ### Rearranging the directions -/

/-- The same directions in another order or number. -/
inductive Rearranged : Rule → Rule → Prop
  | mk {leg : Leg} {directions directions' : List Direction} {next : Option Rule}
      (same : ∀ d, d ∈ directions ↔ d ∈ directions') :
      Rearranged (.mk leg directions next) (.mk leg directions' next)

theorem Rearranged.within (rearranged : Rearranged rule rule') : Within b piece rule rule' := by
  obtain ⟨same⟩ := rearranged
  exact .of_subset fun d => (same d).1

theorem Rearranged.symm (rearranged : Rearranged rule rule') : Rearranged rule' rule := by
  obtain ⟨same⟩ := rearranged
  exact .mk fun d => (same d).symm

theorem Rearranged.suited (rearranged : Rearranged rule rule') (suited : rule.Suited) : rule'.Suited := by
  obtain ⟨same⟩ := rearranged
  exact suited.of_subset fun d => (same d).2

/-- However often and at whatever depth directions are rearranged, the rule attains the same squares. -/
theorem attains_iff_of_rearranged (rearranged : Relation.ReflTransGen (Changed Rearranged) rule rule') :
    rule.Attains b piece s d ↔ rule'.Attains b piece s d := by
  induction rearranged with
  | refl => exact Iff.rfl
  | tail _ changed ih =>
    rw [ih]
    have back := changed.symm fun _ _ => Rearranged.symm
    exact ⟨changed.within (fun _ _ => Rearranged.within) s d, back.within (fun _ _ => Rearranged.within) s d⟩

theorem suited_of_rearranged (rearranged : Relation.ReflTransGen (Changed Rearranged) rule rule')
    (suited : rule.Suited) : rule'.Suited := by
  induction rearranged with
  | refl => exact suited
  | tail _ changed ih => exact changed.suited (fun _ _ => Rearranged.suited) ih

/-! ### A star is a cross and a saltire -/

theorem hasStep_all_iff {color : Color} {v : Step} :
    (Rule.mk leg [.heading .all] next).HasStep color v ↔
      (Rule.mk leg [.heading .orthogonal, .heading .diagonal] next).HasStep color v := by
  simp [HasStep, directions, Heading.steps?]

/-- All eight headings are the orthogonal and the diagonal ones. -/
theorem attains_all_iff : (Rule.mk leg [.heading .all] next).Attains b piece s d ↔
    (Rule.mk leg [.heading .orthogonal] next).Attains b piece s d ∨
      (Rule.mk leg [.heading .diagonal] next).Attains b piece s d := by
  have parts : ∀ d : Direction, d ∈ [.heading .orthogonal, .heading .diagonal] ↔
      d ∈ [.heading .orthogonal] ∨ d ∈ [.heading .diagonal] := by simp
  rw [← attains_split_iff parts]
  constructor
  · exact Within.of_steps (fun v => hasStep_all_iff.1) (by simp) s d
  · exact Within.of_steps (fun v => hasStep_all_iff.2) (by simp) s d

end Movement.Rule

namespace PieceKind

open Movement Movement.Rule

variable {text : String} {leg : Leg} {directions : List Direction} {next : Option Rule}

/-- A piece with one rule moves like a piece with two rules that have its directions between them, and like
a piece whose rule has the directions of its nodes in another order or number. A star is such a rule: it
moves like a cross and a saltire. -/
theorem sameMoves_of_split (compiled : compileRule text = .ok (.mk leg directions next)) (kind : PieceKind)
    (b : Board) (piece : Piece) (origin : Square) :
    (∀ first second, (∀ d, d ∈ directions ↔ d ∈ first ∨ d ∈ second) →
      SameMoves { kind with rules := [.mk leg directions next] }
        { kind with rules := [.mk leg first next, .mk leg second next] } b piece origin) ∧
    (∀ rule, Relation.ReflTransGen (Changed Rearranged) (.mk leg directions next) rule →
      SameMoves { kind with rules := [.mk leg directions next] } { kind with rules := [rule] }
        b piece origin) ∧
    ∃ star cross, compilePiece "n*" = .ok star ∧ compilePiece "n+,nX" = .ok cross ∧
      SameMoves { kind with rules := star } { kind with rules := cross } b piece origin := by
  have suited := suited_of_compileRule compiled
  have single : ∀ rule ∈ [Rule.mk leg directions next], rule.Suited := List.forall_mem_singleton.2 suited
  refine ⟨fun first second parts => ?_, fun rule rearranged => ?_, ?_⟩
  · have former : (Rule.mk leg first next).Suited := suited.of_subset fun d mem => (parts d).2 (.inl mem)
    have latter : (Rule.mk leg second next).Suited := suited.of_subset fun d mem => (parts d).2 (.inr mem)
    refine .of_attains single (by simp [former, latter]) fun d => ?_
    simpa using attains_split_iff parts
  · refine .of_attains single (by simpa using suited_of_rearranged rearranged suited) fun d => ?_
    simpa using attains_iff_of_rearranged rearranged
  · obtain ⟨star, hstar, rfl⟩ : ∃ star, compilePiece "n*" = .ok star ∧
        star = [.mk {} [.heading .all] none] := ⟨_, rfl, rfl⟩
    obtain ⟨cross, hcross, rfl⟩ : ∃ cross, compilePiece "n+,nX" = .ok cross ∧
        cross = [.mk {} [.heading .orthogonal] none, .mk {} [.heading .diagonal] none] := ⟨_, rfl, rfl⟩
    refine ⟨_, _, hstar, hcross, .of_attains (suited_of_compilePiece hstar)
      (suited_of_compilePiece hcross) fun d => ?_⟩
    simpa using attains_all_iff

/-- A leap that is written twice goes with either part of the directions, and once is enough. -/
theorem sameMoves_of_split_twice :
    let leap : Direction := .group (.mk { distance := .exact 2 } [.heading .sideways] none)
    let rule (directions : List Direction) : Rule :=
      .mk { distance := .exact 1 } directions (some (.mk {} [.heading .orthogonal] none))
    let kind (rules : List Rule) : PieceKind := { name := "Squire", rules := rules }
    let b := Board.ofRows [[some ⟨"s", .black, true⟩, none, none], [none, some ⟨"a", .white, false⟩, none]]
    compileRule "1>X(2=)(2=).n+" = .ok (rule [.heading .forward, .heading .diagonal, leap, leap]) ∧
    SameMoves (kind [rule [.heading .forward, .heading .diagonal, leap, leap]])
      (kind [rule [.heading .forward, leap], rule [leap, .heading .diagonal]])
      b ⟨"s", .black, true⟩ ⟨0, 0⟩ ∧
    SameMoves (kind [rule [.heading .forward, .heading .diagonal, leap, leap]])
      (kind [rule [leap, .heading .diagonal, .heading .forward]]) b ⟨"s", .black, true⟩ ⟨0, 0⟩ := by
  intro leap rule kind b
  have compiled : compileRule "1>X(2=)(2=).n+" =
    .ok (rule [.heading .forward, .heading .diagonal, leap, leap]) := rfl
  obtain ⟨split, rearrange, -⟩ := sameMoves_of_split compiled (kind []) b ⟨"s", .black, true⟩ ⟨0, 0⟩
  refine ⟨compiled, split _ _ fun d => ?_, rearrange _ (.single (.here (.mk fun d => ?_)))⟩
  · simp only [List.mem_cons, List.not_mem_nil, or_false]
    tauto
  · simp only [List.mem_cons, List.not_mem_nil, or_false]
    tauto

end PieceKind

end VariantChess
