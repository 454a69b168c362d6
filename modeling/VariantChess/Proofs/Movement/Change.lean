import VariantChess.Proofs.Movement.Meaning

/-!
# Changes inside a rule

A rule is a tree, and a change of one of its nodes (`Rule.Changed`) shows in where the rule leads a piece
through everything above that node. But it shows there in one direction only: if the changed node leads
the piece wherever the old one did (`Rule.Within`), so does the whole rule (`Rule.Changed.within`). Legs
that follow start from more squares and a group hands more squares on, and nothing is ever taken away for
that. For pieces it means that no move is lost (`PieceKind.MovesWithin`).
-/

namespace VariantChess

/-- Both kinds have moves for the piece, and those of the one are among those of the other. -/
def PieceKind.MovesWithin (kind kind' : PieceKind) (b : Board) (piece : Piece) (origin : Square) : Prop :=
  ∃ moves moves', kind.moves b piece origin = .ok moves ∧ kind'.moves b piece origin = .ok moves' ∧
    ∀ m ∈ moves, m ∈ moves'

/-- Both kinds have moves for the piece, and these are the same, if not in their order. -/
def PieceKind.SameMoves (kind kind' : PieceKind) (b : Board) (piece : Piece) (origin : Square) : Prop :=
  ∃ moves moves', kind.moves b piece origin = .ok moves ∧ kind'.moves b piece origin = .ok moves' ∧
    ∀ m, m ∈ moves ↔ m ∈ moves'

namespace Movement.Rule

/-- What is in a list is still there when another element is exchanged. -/
theorem eq_or_mem_of_mem {α : Type} {x a : α} {front behind : List α} (a' : α)
    (h : x ∈ front ++ a :: behind) : x = a ∨ x ∈ front ++ a' :: behind := by
  simp only [List.mem_append, List.mem_cons] at h ⊢
  rcases h with h | rfl | h
  · exact .inr (.inl h)
  · exact .inl rfl
  · exact .inr (.inr (.inr h))

/-- Where the one rule leads the piece, the other one leads it too. -/
def Within (b : Board) (piece : Piece) (rule rule' : Rule) : Prop :=
  ∀ s d, rule.Attains b piece s d → rule'.Attains b piece s d

/-- One node of the rule is changed: the rule itself, or a node of one of its groups or of the rule that
goes on. -/
inductive Changed (change : Rule → Rule → Prop) : Rule → Rule → Prop
  | here {rule rule' : Rule} (h : change rule rule') : Changed change rule rule'
  | group {leg : Leg} {front behind : List Direction} {next : Option Rule} {g g' : Rule}
      (inner : Changed change g g') :
      Changed change (.mk leg (front ++ .group g :: behind) next)
        (.mk leg (front ++ .group g' :: behind) next)
  | onward {leg : Leg} {directions : List Direction} {t t' : Rule} (inner : Changed change t t') :
      Changed change (.mk leg directions (some t)) (.mk leg directions (some t'))

variable {b : Board} {piece : Piece} {rule rule' g g' t t' : Rule} {leg leg' : Leg}
  {directions directions' front behind : List Direction} {next : Option Rule}
  {change : Rule → Rule → Prop}

/-! ### From the parts to the rule -/

theorem Within.refl (b : Board) (piece : Piece) (rule : Rule) : Within b piece rule rule :=
  fun _ _ attained => attained

/-- What a rule reaches by itself and what the rule that goes on attains is all that counts. -/
theorem Within.of_reaches (reaches : ∀ s d, rule.Reaches b piece s d → rule'.Reaches b piece s d)
    (onward : ∀ t, rule.next? = some t → ∃ t', rule'.next? = some t' ∧ Within b piece t t') :
    Within b piece rule rule' := by
  rintro s d (⟨reached⟩ | ⟨reached, hnext, attained⟩)
  · exact .here (reaches _ _ reached)
  · obtain ⟨t', hnext', within⟩ := onward _ hnext
    exact .onward (reaches _ _ reached) hnext' (within _ _ attained)

/-- With the same rule that goes on, it is what the walks and the groups reach. -/
theorem Within.of_walks (available : leg'.initial → leg.initial)
    (walks : ∀ v, HasStep (.mk leg directions next) piece.color v →
      HasStep (.mk leg' directions' next) piece.color v ∧
      ∀ s, leg.reach b piece.color s v ⊆ leg'.reach b piece.color s v)
    (groups : ∀ g, .group g ∈ directions → ∃ g', .group g' ∈ directions' ∧ Within b piece g g') :
    Within b piece (.mk leg directions next) (.mk leg' directions' next) := by
  refine .of_reaches (fun s d reached => ?_) fun t ht => ⟨t, ht, .refl b piece t⟩
  obtain ⟨usable, reached⟩ := reaches_iff.1 reached
  refine reaches_iff.2 ⟨fun h => usable ⟨available h.1, h.2⟩, ?_⟩
  obtain ⟨v, step, walked⟩ | ⟨g, mem, attained, away⟩ := reached
  · obtain ⟨step', further⟩ := walks v step
    exact .inl ⟨v, step', further s walked⟩
  · obtain ⟨g', mem', within⟩ := groups g mem
    exact .inr ⟨g', mem', within s d attained, away⟩

/-- With the same leg, it is the steps of the headings and the groups. -/
theorem Within.of_steps
    (steps : ∀ v, HasStep (.mk leg directions next) piece.color v →
      HasStep (.mk leg directions' next) piece.color v)
    (groups : ∀ g, .group g ∈ directions → ∃ g', .group g' ∈ directions' ∧ Within b piece g g') :
    Within b piece (.mk leg directions next) (.mk leg directions' next) :=
  .of_walks id (fun v step => ⟨steps v step, fun _ => List.Subset.refl _⟩) groups

theorem Within.of_subset (subset : directions ⊆ directions') :
    Within b piece (.mk leg directions next) (.mk leg directions' next) := by
  refine .of_steps (fun v step => ?_) fun g mem => ⟨g, subset mem, .refl b piece g⟩
  obtain ⟨h, steps, mem, hsteps, hv⟩ := step
  exact ⟨h, steps, subset mem, hsteps, hv⟩

theorem Within.group (within : Within b piece g g') :
    Within b piece (.mk leg (front ++ .group g :: behind) next)
      (.mk leg (front ++ .group g' :: behind) next) := by
  refine .of_steps (fun v step => ?_) fun g₀ mem => ?_
  · obtain ⟨h, steps, mem, hsteps, hv⟩ := step
    have heading : .heading h ∈ front ++ .group g' :: behind := by simpa [directions] using mem
    exact ⟨h, steps, heading, hsteps, hv⟩
  · rcases eq_or_mem_of_mem (.group g') mem with same | mem
    · obtain rfl := Direction.group.inj same
      exact ⟨g', by simp, within⟩
    · exact ⟨g₀, mem, .refl b piece g₀⟩

theorem Within.onward (within : Within b piece t t') :
    Within b piece (.mk leg directions (some t)) (.mk leg directions (some t')) := by
  refine .of_reaches (fun s d reached => ?_) fun t₀ ht => ?_
  · obtain ⟨available, reached⟩ := reaches_iff.1 reached
    exact reaches_iff.2 ⟨available, reached⟩
  · obtain rfl : t = t₀ := Option.some.inj ht
    exact ⟨t', rfl, within⟩

/-! ### From the node to the rule -/

/-- A change that takes nothing away takes nothing away further up. -/
theorem Changed.within (within : ∀ rule rule', change rule rule' → Within b piece rule rule')
    (changed : Changed change rule rule') : Within b piece rule rule' := by
  induction changed with
  | here h => exact within _ _ h
  | group _ ih => exact ih.group
  | onward _ ih => exact ih.onward

theorem Changed.suited (keeps : ∀ rule rule', change rule rule' → rule.Suited → rule'.Suited)
    (changed : Changed change rule rule') (suited : rule.Suited) : rule'.Suited := by
  induction changed with
  | here h => exact keeps _ _ h suited
  | @group leg front behind next g g' _ ih =>
    obtain ⟨headings, groups, onward⟩ := suited
    refine .mk (fun h mem => headings h (by simpa using mem)) (fun g₀ mem => ?_) onward
    rcases eq_or_mem_of_mem (.group g) mem with same | mem
    · obtain rfl := Direction.group.inj same
      exact ih (groups g (by simp))
    · exact groups g₀ mem
  | onward _ ih =>
    obtain ⟨headings, groups, onward⟩ := suited
    exact .mk headings groups fun t₀ ht => Option.some.inj ht ▸ ih (onward _ rfl)

/-- A change that can be undone can be undone inside a rule. -/
theorem Changed.symm (symm : ∀ rule rule', change rule rule' → change rule' rule)
    (changed : Changed change rule rule') : Changed change rule' rule := by
  induction changed with
  | here h => exact .here (symm _ _ h)
  | group _ ih => exact .group ih
  | onward _ ih => exact .onward ih

end Movement.Rule

/-! ### Pieces -/

namespace PieceKind

open Movement

variable {kind kind' : PieceKind} {b : Board} {piece : Piece} {origin : Square}

theorem MovesWithin.of_attains (suited : ∀ rule ∈ kind.rules, rule.Suited)
    (suited' : ∀ rule ∈ kind'.rules, rule.Suited)
    (attains : ∀ d, (∃ rule ∈ kind.rules, rule.Attains b piece origin d) →
      ∃ rule ∈ kind'.rules, rule.Attains b piece origin d) :
    kind.MovesWithin kind' b piece origin := by
  obtain ⟨targets, htargets, hmem⟩ := exists_kindTargets suited b piece origin
  obtain ⟨targets', htargets', hmem'⟩ := exists_kindTargets suited' b piece origin
  refine ⟨targets.map (Move.mk origin), targets'.map (Move.mk origin), by rw [moves, htargets]; rfl,
    by rw [moves, htargets']; rfl, List.map_subset _ fun d hd => ?_⟩
  obtain ⟨rule, hrule, attained, away⟩ := (hmem d).1 hd
  obtain ⟨rule', hrule', attained'⟩ := attains d ⟨rule, hrule, attained⟩
  exact (hmem' d).2 ⟨rule', hrule', attained', away⟩

theorem SameMoves.of_movesWithin (h : kind.MovesWithin kind' b piece origin)
    (h' : kind'.MovesWithin kind b piece origin) : kind.SameMoves kind' b piece origin := by
  obtain ⟨moves, moves', hmoves, hmoves', within⟩ := h
  obtain ⟨others', others, hothers', hothers, within'⟩ := h'
  obtain rfl : moves = others := Except.ok.inj (hmoves.symm.trans hothers)
  obtain rfl : moves' = others' := Except.ok.inj (hmoves'.symm.trans hothers')
  exact ⟨moves, moves', hmoves, hmoves', fun m => ⟨within m, within' m⟩⟩

theorem SameMoves.of_attains (suited : ∀ rule ∈ kind.rules, rule.Suited)
    (suited' : ∀ rule ∈ kind'.rules, rule.Suited)
    (attains : ∀ d, (∃ rule ∈ kind.rules, rule.Attains b piece origin d) ↔
      ∃ rule ∈ kind'.rules, rule.Attains b piece origin d) :
    kind.SameMoves kind' b piece origin :=
  .of_movesWithin (.of_attains suited suited' fun d => (attains d).1)
    (.of_attains suited' suited fun d => (attains d).2)

end PieceKind

end VariantChess
