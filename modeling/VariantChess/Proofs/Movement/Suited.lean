import VariantChess.Proofs.Movement.Reading

/-!
# Rules that suit their distances

The heading of a leap has steps only if the distance is a leap. In a *suited* rule this holds of every
heading, in groups and in the rules that go on as well, so the steps of such a rule can always be
found. Every rule that a notation describes is suited: the readers give a leap its own heading and no
other distance gets it.
-/

namespace VariantChess.Movement

namespace Heading

/-- The heading has steps with this distance. -/
def Suits (h : Heading) (distance : Distance) : Prop :=
  h = .hippogonal → ∃ m n, distance = .hippogonal m n

variable {h : Heading} {distance : Distance}

theorem Suits.of_ne (hne : h ≠ .hippogonal) : h.Suits distance := fun hh => absurd hh hne

theorem Suits.exists_steps (hs : h.Suits distance) (color : Color) :
    ∃ steps, h.steps? color distance = some steps := by
  cases h with
  | hippogonal =>
    obtain ⟨m, n, rfl⟩ := hs rfl
    exact ⟨_, rfl⟩
  | _ => exact ⟨_, rfl⟩

theorem suits_of_headingsFor {hs headings : List Heading}
    (hh : headingsFor distance hs = some headings) (hhs : .hippogonal ∉ hs) :
    ∀ h ∈ headings, h.Suits distance := by
  intro h hmem
  cases distance with
  | hippogonal m n => exact fun _ => ⟨m, n, rfl⟩
  | _ =>
    obtain rfl : hs = headings := by simpa [headingsFor] using hh
    exact .of_ne fun he => hhs (he ▸ hmem)

end Heading

namespace Rule

/-- Every heading of the rule, of its groups and of the rules that go on suits its distance. -/
inductive Suited : Rule → Prop
  | mk {leg : Leg} {directions : List Direction} {next : Option Rule}
      (headings : ∀ h, .heading h ∈ directions → h.Suits leg.distance)
      (groups : ∀ g, .group g ∈ directions → Suited g)
      (onward : ∀ t, next = some t → Suited t) : Suited (.mk leg directions next)

/-- A rule takes its groups and the rule that goes on from a smaller depth, so the induction is on the
depth, for rules and groups at once. -/
theorem suited_of_read (depth : Nat) :
    (∀ cs rule rest, readRule depth cs = .ok (rule, rest) → rule.Suited) ∧
    (∀ cs rules rest, readGroups depth cs = .ok (rules, rest) → ∀ rule ∈ rules, rule.Suited) := by
  induction depth with
  | zero => simp [readRule, readGroups]
  | succ depth ih =>
    obtain ⟨ihRule, ihGroups⟩ := ih
    constructor
    · intro cs rule rest h
      obtain ⟨distance, rest₁, headings, groups, rest₂, next, -, hheadings, hgroups, -, -, rfl, hnext⟩ :=
        readRule_inv h
      refine .mk (fun h hmem => ?_) (fun g hmem => ?_) (fun t ht => ?_)
      · have hh : h ∈ headings := by simpa using hmem
        exact Heading.suits_of_headingsFor hheadings (hippogonal_notMem_readHeadings rest₁) h hh
      · exact ihGroups _ _ _ hgroups g (by simpa using hmem)
      · rcases hnext with ⟨rfl, -, -⟩ | ⟨t', rest₃, rfl, -, hread⟩
        · cases ht
        · cases ht; exact ihRule _ _ _ hread
    · intro cs rules rest h
      rcases readGroups_inv h with ⟨-, rfl, -⟩ | ⟨rest₁, rule, rest₂, rules', -, hrule, hrules, rfl⟩
      · simp
      · exact List.forall_mem_cons.2 ⟨ihRule _ _ _ hrule, ihGroups _ _ _ hrules⟩

theorem suited_of_readRules {depth : Nat} {cs rest : List Char} {rules : List Rule}
    (h : readRules depth cs = .ok (rules, rest)) : ∀ rule ∈ rules, rule.Suited := by
  induction depth generalizing cs rules with
  | zero => simp [readRules] at h
  | succ depth ih =>
    obtain ⟨rule, rest₁, hrule, ⟨rfl, -, -⟩ | ⟨rules', rest₂, rfl, -, hrules⟩⟩ := readRules_inv h
    · exact List.forall_mem_singleton.2 ((suited_of_read _).1 _ _ _ hrule)
    · exact List.forall_mem_cons.2 ⟨(suited_of_read _).1 _ _ _ hrule, ih hrules⟩

theorem suited_of_compileRule {text : String} {rule : Rule} (h : compileRule text = .ok rule) :
    rule.Suited :=
  (suited_of_read _).1 _ _ _ (compileWith_eq_ok_iff.1 h).2

theorem suited_of_compilePiece {text : String} {rules : List Rule}
    (h : compilePiece text = .ok rules) : ∀ rule ∈ rules, rule.Suited :=
  suited_of_readRules (compilePiece_inv h).2

end Rule

end VariantChess.Movement
