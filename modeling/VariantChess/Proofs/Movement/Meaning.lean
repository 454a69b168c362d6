import VariantChess.Proofs.Movement.Suited
import VariantChess.Proofs.Walk
import VariantChess.Targets

/-!
# What a rule means

`Rule.Reaches` and `Rule.Attains` say where a rule leads a piece, without an anchor and without an
order: a rule *reaches* the squares of its walks and those that its groups attain away from where they
start, and it *attains* what it reaches and what the rule that goes on attains from there. The targets
that are computed for a suited rule are the squares that it attains, other than the origin they are
relative to (`Rule.exists_targets`). Wherever it leads, a piece of the same side does not stand there
(`Attains.admits`).
-/

namespace VariantChess.Movement

namespace Rule

/-- One of the steps of the rule's headings for a side. -/
def HasStep (rule : Rule) (color : Color) (v : Step) : Prop :=
  ∃ h steps, .heading h ∈ rule.directions ∧ h.steps? color rule.leg.distance = some steps ∧ v ∈ steps

/-- The piece may still use the rule: an initial rule is gone once the piece has moved. -/
def Available (rule : Rule) (piece : Piece) : Prop := ¬ (rule.leg.initial ∧ piece.hasMoved)

mutual

/-- The rule leads the piece from `s` to `d` by itself: on a walk along one of its steps, or by a group
that leads away from `s`. -/
inductive Reaches (b : Board) (piece : Piece) : Rule → Square → Square → Prop
  | walk {rule : Rule} {s d : Square} {v : Step} (available : rule.Available piece)
      (step : rule.HasStep piece.color v) (walked : d ∈ rule.leg.reach b piece.color s v) :
      Reaches b piece rule s d
  | group {rule g : Rule} {s d : Square} (available : rule.Available piece)
      (mem : .group g ∈ rule.directions) (attained : Attains b piece g s d) (away : d ≠ s) :
      Reaches b piece rule s d

/-- The rule leads the piece from `s` to `d`, by itself or with the rule that goes on. -/
inductive Attains (b : Board) (piece : Piece) : Rule → Square → Square → Prop
  | here {rule : Rule} {s d : Square} (reached : Reaches b piece rule s d) : Attains b piece rule s d
  | onward {rule t : Rule} {s mid d : Square} (reached : Reaches b piece rule s mid)
      (next : rule.next? = some t) (attained : Attains b piece t mid d) : Attains b piece rule s d

end

variable {b : Board} {piece : Piece} {rule : Rule} {s d : Square}

theorem reaches_iff : rule.Reaches b piece s d ↔ rule.Available piece ∧
    ((∃ v, rule.HasStep piece.color v ∧ d ∈ rule.leg.reach b piece.color s v) ∨
      ∃ g, .group g ∈ rule.directions ∧ g.Attains b piece s d ∧ d ≠ s) := by
  constructor
  · rintro (⟨available, step, walked⟩ | ⟨available, mem, attained, away⟩)
    · exact ⟨available, .inl ⟨_, step, walked⟩⟩
    · exact ⟨available, .inr ⟨_, mem, attained, away⟩⟩
  · rintro ⟨available, ⟨v, step, walked⟩ | ⟨g, mem, attained, away⟩⟩
    · exact .walk available step walked
    · exact .group available mem attained away

theorem attains_iff : rule.Attains b piece s d ↔ rule.Reaches b piece s d ∨
    ∃ mid t, rule.Reaches b piece s mid ∧ rule.next? = some t ∧ t.Attains b piece mid d := by
  constructor
  · rintro (⟨reached⟩ | ⟨reached, next, attained⟩)
    · exact .inl reached
    · exact .inr ⟨_, _, reached, next, attained⟩
  · rintro (reached | ⟨mid, t, reached, next, attained⟩)
    · exact .here reached
    · exact .onward reached next attained

mutual

theorem Reaches.admits : ∀ {rule : Rule} {s d : Square}, rule.Reaches b piece s d →
    b.Admits piece.color d
  | _, _, _, .walk _ _ walked => Leg.admits_of_mem_reach walked
  | _, _, _, .group _ _ attained _ => attained.admits

theorem Attains.admits : ∀ {rule : Rule} {s d : Square}, rule.Attains b piece s d →
    b.Admits piece.color d
  | _, _, _, .here reached => reached.admits
  | _, _, _, .onward _ _ attained => attained.admits

end

/-! ### The targets of a suited rule -/

theorem exists_flatten_steps (color : Color) {distance : Distance} {headings : List Heading}
    (suited : ∀ h ∈ headings, h.Suits distance) :
    ∃ steps, (headings.mapM fun h => h.steps? color distance) = some steps ∧
      ∀ v, v ∈ steps.flatten ↔
        ∃ h ∈ headings, ∃ vs, h.steps? color distance = some vs ∧ v ∈ vs := by
  induction headings with
  | nil => exact ⟨[], rfl, by simp⟩
  | cons h headings ih =>
    obtain ⟨hs, hheadings⟩ := List.forall_mem_cons.1 suited
    obtain ⟨vs, hvs⟩ := hs.exists_steps color
    obtain ⟨steps, hsteps, hmem⟩ := ih hheadings
    exact ⟨vs :: steps, by simp [List.mapM_cons, hvs, hsteps], by simp [hvs, hmem]⟩

theorem exists_steps (rule : Rule) (color : Color)
    (suited : ∀ h, .heading h ∈ rule.directions → h.Suits rule.leg.distance) :
    ∃ steps, rule.steps? color = some steps ∧ ∀ v, v ∈ steps ↔ rule.HasStep color v := by
  have mem : ∀ h, h ∈ rule.directions.filterMap Direction.heading? ↔ .heading h ∈ rule.directions := by
    intro h
    rw [List.mem_filterMap]
    constructor
    · rintro ⟨_ | _, hd, he⟩
      · cases he; exact hd
      · cases he
    · exact fun hd => ⟨_, hd, rfl⟩
  obtain ⟨steps, hsteps, hmem⟩ := exists_flatten_steps color fun h hh => suited h ((mem h).1 hh)
  refine ⟨_, by rw [steps?, hsteps]; rfl, fun v => ?_⟩
  rw [List.mem_eraseDups, hmem]
  simp only [mem, HasStep, exists_and_left]

theorem exists_groupTargets {start : Square} {directions : List Direction}
    (groups : ∀ g, .group g ∈ directions → ∃ targets, g.targets b piece start start = .ok targets ∧
      ∀ d, d ∈ targets ↔ g.Attains b piece start d ∧ d ≠ start) :
    ∃ targets, groupTargets b piece start directions = .ok targets ∧
      ∀ d, d ∈ targets ↔ ∃ g, .group g ∈ directions ∧ g.Attains b piece start d ∧ d ≠ start := by
  induction directions with
  | nil => exact ⟨[], rfl, by simp⟩
  | cons direction directions ih =>
    obtain ⟨rest, hrest, hmem⟩ := ih fun g hg => groups g (List.mem_cons_of_mem _ hg)
    cases direction with
    | heading h =>
      refine ⟨rest, ?_, fun d => ?_⟩
      · simp [groupTargets, directionTargets, hrest, Except.map]
      · simp [hmem]
    | group g =>
      obtain ⟨targets, ht, hd⟩ := groups g List.mem_cons_self
      refine ⟨targets ++ rest, ?_, fun d => ?_⟩
      · simp [groupTargets, directionTargets, ht, hrest, Except.map]
      · simp [hd, hmem, or_and_right, exists_or]

/-- What one square that is reached contributes: itself and what the rule that goes on attains from
there. -/
theorem exists_nextTargets {origin s : Square} {next : Option Rule}
    (onward : ∀ t, next = some t → ∃ targets, t.targets b piece origin s = .ok targets ∧
      ∀ d, d ∈ targets ↔ t.Attains b piece s d ∧ d ≠ origin) :
    ∃ targets, ((nextTargets b piece origin s next).map fun further =>
        if s = origin then further else s :: further) = .ok targets ∧
      ∀ d, d ∈ targets ↔ (d = s ∨ ∃ t, next = some t ∧ t.Attains b piece s d) ∧ d ≠ origin := by
  obtain ⟨further, hfurther, hmem⟩ : ∃ further, nextTargets b piece origin s next = .ok further ∧
      ∀ d, d ∈ further ↔ (∃ t, next = some t ∧ t.Attains b piece s d) ∧ d ≠ origin := by
    cases next with
    | none => exact ⟨[], rfl, by simp⟩
    | some t =>
      obtain ⟨targets, ht, hd⟩ := onward t rfl
      exact ⟨targets, by rw [nextTargets, ht], by simp [hd]⟩
  refine ⟨_, by rw [hfurther]; rfl, fun d => ?_⟩
  split
  · rename_i hs
    rw [hmem, or_and_right, or_iff_right]
    rintro ⟨rfl, hd⟩
    exact hd hs
  · rename_i hs
    have hne : d = s → d ≠ origin := by rintro rfl; exact hs
    rw [List.mem_cons, hmem, or_and_right, and_iff_left_of_imp hne]

/-- The targets of a suited rule can be found, and they are the squares that it attains from its start,
less the origin. The origin is that of the piece, or of the group that the rule belongs to; the start
is where the leg before has ended. -/
theorem exists_targets (suited : rule.Suited) (b : Board) (piece : Piece) (origin start : Square) :
    ∃ targets, rule.targets b piece origin start = .ok targets ∧
      ∀ d, d ∈ targets ↔ rule.Attains b piece start d ∧ d ≠ origin := by
  induction suited generalizing origin start with
  | @mk leg directions next headings _ _ ihGroups ihNext =>
    rw [targets]
    by_cases available : leg.initial ∧ piece.hasMoved
    · -- an initial rule of a piece that has moved reaches nothing
      have unreached : ∀ d, ¬ (Rule.mk leg directions next).Reaches b piece start d :=
        fun d h => (reaches_iff.1 h).1 available
      refine ⟨[], by simp [available], fun d => ?_⟩
      rw [attains_iff]
      simp [unreached]
    · obtain ⟨steps, hsteps, hstep⟩ := exists_steps (.mk leg directions next) piece.color headings
      obtain ⟨inner, hinner, hgroup⟩ := exists_groupTargets fun g hg => ihGroups g hg start start
      have reached : ∀ d, d ∈ steps.flatMap (leg.reach b piece.color start) ++ inner ↔
          (Rule.mk leg directions next).Reaches b piece start d := fun d => by
        rw [List.mem_append, List.mem_flatMap, hgroup, reaches_iff]
        simp only [hstep]
        exact ⟨fun h => ⟨available, h⟩, fun h => h.2⟩
      rw [if_neg (by simpa using available), hsteps]
      simp only [hinner]
      obtain ⟨targets, htargets, hmem⟩ := exists_gather fun s
        (_ : s ∈ steps.flatMap (leg.reach b piece.color start) ++ inner) =>
          exists_nextTargets fun t ht => ihNext t ht origin s
      refine ⟨targets, htargets, fun d => ?_⟩
      rw [hmem, attains_iff]
      simp only [reached]
      constructor
      · rintro ⟨s, hs, rfl | ⟨t, ht, hattained⟩, hne⟩
        · exact ⟨.inl hs, hne⟩
        · exact ⟨.inr ⟨s, t, hs, ht, hattained⟩, hne⟩
      · rintro ⟨hd | ⟨s, t, hs, ht, hattained⟩, hne⟩
        · exact ⟨d, hd, .inl rfl, hne⟩
        · exact ⟨s, hs, .inr ⟨t, ht, hattained⟩, hne⟩

end Rule

/-- The targets of a piece whose rules are suited are the other squares that one of them attains. -/
theorem exists_kindTargets {kind : PieceKind} (suited : ∀ rule ∈ kind.rules, rule.Suited) (b : Board)
    (piece : Piece) (s : Square) :
    ∃ targets, kind.targets b piece s = .ok targets ∧
      ∀ d, d ∈ targets ↔ ∃ rule ∈ kind.rules, rule.Attains b piece s d ∧ d ≠ s :=
  exists_gather fun rule hrule => Rule.exists_targets (suited rule hrule) b piece s s

end VariantChess.Movement
