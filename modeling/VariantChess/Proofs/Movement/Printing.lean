import VariantChess.Proofs.Movement.Compilation

/-!
# The rules that can be written

What the texts of the notation are compiled to are the non-empty lists of well-formed rules whose numbers
can be written, and no others (`compilePiece_image`). A well-formed rule has a spelling (`Rule.phrase`):
its modifiers, each once, its numbers in decimal digits, and its groups without commas. The spelling is
valid and denotes the rule, so the rule is read from its text again, unless there are more digits in a
number than the readers take.
-/

namespace VariantChess.Movement

/-! ### Well-formed rules -/

/-- Numbers of steps and of squares are positive, and a range is in order. -/
def Distance.WellFormed : Distance → Prop
  | any => True
  | exact n => 1 ≤ n
  | range low high => 1 ≤ low ∧ low ≤ high
  | hippogonal m n => 1 ≤ m ∧ 1 ≤ n

/-- The headings that go with a distance: a leap has its own one, and every other distance has headings
that can be told apart when they are written. -/
def Distance.Takes : Distance → List Heading → Prop
  | hippogonal _ _, headings => headings = [.hippogonal]
  | _, headings => .hippogonal ∉ headings ∧ Longest headings

/-- The headings of the rule come before its groups, and there is at least one of the two; no leg both
only captures and never captures; and a leg that rides goes any distance. -/
inductive Rule.WellFormed : Rule → Prop
  | mk {leg : Leg} {headings : List Heading} {groups : List Rule} {next : Option Rule}
      (distance : leg.distance.WellFormed) (headed : leg.distance.Takes headings)
      (directed : headings.map Direction.heading ++ groups.map Direction.group ≠ [])
      (consistent : ¬ (leg.captureOnly ∧ leg.noCapture))
      (ride : leg.ride = none ∨ leg.ride = some .any)
      (grouped : ∀ g ∈ groups, WellFormed g) (onward : ∀ t, next = some t → WellFormed t) :
      WellFormed (.mk leg (headings.map .heading ++ groups.map .group) next)

/-- No number has more digits than a number may have. -/
def Distance.Writable : Distance → Prop
  | any => True
  | exact n => Text.isWritable n
  | range low high => Text.isWritable low ∧ Text.isWritable high
  | hippogonal m n => Text.isWritable m ∧ Text.isWritable n

/-- All numbers of the rule, of its groups and of the rules that go on can be written. -/
inductive Rule.Writable : Rule → Prop
  | mk {leg : Leg} {directions : List Direction} {next : Option Rule} (distance : leg.distance.Writable)
      (grouped : ∀ g, .group g ∈ directions → Writable g) (onward : ∀ t, next = some t → Writable t) :
      Writable (.mk leg directions next)

/-! ### What is written is well-formed -/

theorem Measure.Valid.wellFormed {measure : Measure} (valid : measure.Valid) :
    measure.distance.WellFormed := by
  cases measure with
  | any => trivial
  | exact digits => exact Int.ofNat_le.2 valid.2
  | range low high => exact ⟨Int.ofNat_le.2 valid.2.2.1, Int.ofNat_le.2 valid.2.2.2⟩
  | leap long wide => exact ⟨Int.ofNat_le.2 valid.2.2.1, Int.ofNat_le.2 valid.2.2.2⟩

theorem Fitting.takes {modifiers : List Char} {measure : Measure} {headings : List Heading}
    {groups : List (Bool × Phrase)}
    (fitting : Fitting modifiers measure headings groups) :
    measure.distance.Takes (measure.headings headings) := by
  cases measure with
  | leap long wide => rfl
  | _ => exact ⟨fitting.tokens, fitting.longest⟩

theorem Phrase.Valid.wellFormed {phrase : Phrase} (valid : phrase.Valid) : phrase.rule.WellFormed := by
  induction valid with
  | @mk modifiers measure headings groups next fitting _ _ ihGroups ihNext =>
    rw [Phrase.rule]
    refine .mk fitting.measured.wellFormed fitting.takes ?_ ?_ ?_ ?_ ?_
    · simpa using directed_iff.2 fitting.directed
    · simpa [describedLeg] using fitting.consistent
    · by_cases ride : '&' ∈ modifiers <;> simp [describedLeg, ride]
    · rw [groupRules_eq_map]
      intro rule hrule
      obtain ⟨g, hg, rfl⟩ := List.mem_map.1 hrule
      exact ihGroups g hg
    · cases next with
      | none => rintro _ ⟨⟩
      | some phrase =>
        rintro _ ⟨⟩
        exact ihNext phrase rfl

theorem Measure.Valid.writable {measure : Measure} (valid : measure.Valid) (short : measure.Short) :
    measure.distance.Writable := by
  cases measure with
  | any => trivial
  | exact digits => exact valid.1.isWritable short
  | range low high => exact ⟨valid.1.isWritable short.1, valid.2.1.isWritable short.2⟩
  | leap long wide => exact ⟨valid.1.isWritable short.1, valid.2.1.isWritable short.2⟩

theorem Phrase.Valid.writable {phrase : Phrase} (valid : phrase.Valid) (short : phrase.Short) :
    phrase.rule.Writable := by
  induction valid with
  | @mk modifiers measure headings groups next fitting _ _ ihGroups ihNext =>
    obtain ⟨shortMeasure, shortGroups, shortNext⟩ := short
    rw [Phrase.rule]
    refine .mk (fitting.measured.writable shortMeasure) ?_ ?_
    · intro rule hrule
      rw [groupRules_eq_map] at hrule
      obtain ⟨g, hg, rfl⟩ : ∃ g ∈ groups, g.2.rule = rule := by simpa using hrule
      exact ihGroups g hg (shortGroups g hg)
    · cases next with
      | none => rintro _ ⟨⟩
      | some phrase =>
        rintro _ ⟨⟩
        exact ihNext phrase rfl (shortNext phrase rfl)

theorem wellFormed_of_compileRule {text : String} {rule : Rule} (compiled : compileRule text = .ok rule) :
    rule.WellFormed := by
  obtain ⟨phrase, valid, -, -, rfl⟩ := compileRule_eq_ok_iff.1 compiled
  exact valid.wellFormed

theorem wellFormed_of_compilePiece {text : String} {rules : List Rule}
    (compiled : compilePiece text = .ok rules) : ∀ rule ∈ rules, rule.WellFormed := by
  obtain ⟨phrases, ⟨-, valid, -⟩, -, rfl⟩ := compilePiece_eq_ok_iff.1 compiled
  intro rule hrule
  obtain ⟨phrase, hphrase, rfl⟩ := List.mem_map.1 hrule
  exact (valid phrase hphrase).wellFormed

/-! ### Spelling -/

/-- The modifiers of a leg, in the order of the notation. -/
def Leg.modifiers (leg : Leg) : List Char :=
  ([('i', leg.initial), ('c', leg.captureOnly), ('o', leg.noCapture), ('&', leg.ride.isSome),
    ('~', leg.leaper), ('^', leg.locust)].filter Prod.snd).map Prod.fst

/-- The headings that are written: that of a leap has no token. -/
def writtenHeadings (directions : List Direction) : List Heading :=
  (directions.filterMap Direction.heading?).filter (· ≠ .hippogonal)

/-- The distance with its numbers in decimal digits. -/
def Distance.measure : Distance → Measure
  | any => .any
  | exact n => .exact (Nat.toDigits 10 n.toNat)
  | range low high => .range (Nat.toDigits 10 low.toNat) (Nat.toDigits 10 high.toNat)
  | hippogonal m n => .leap (Nat.toDigits 10 m.toNat) (Nat.toDigits 10 n.toNat)

mutual

/-- A rule as it can be written. -/
def Rule.phrase : Rule → Phrase
  | .mk leg directions next =>
    .mk leg.modifiers leg.distance.measure (writtenHeadings directions) (groupPhrases directions)
      (nextPhrase next)
termination_by structural rule => rule

def groupPhrases : List Direction → List (Bool × Phrase)
  | [] => []
  | .heading _ :: directions => groupPhrases directions
  | .group rule :: directions => (false, rule.phrase) :: groupPhrases directions
termination_by structural directions => directions

def nextPhrase : Option Rule → Option Phrase
  | none => none
  | some rule => some rule.phrase
termination_by structural next => next

end

variable {leg : Leg} {distance : Distance} {headings : List Heading} {groups : List Rule}
  {next : Option Rule} {rule : Rule} {rules : List Rule}

theorem Leg.mem_modifiers {c : Char} : c ∈ leg.modifiers ↔ (c, true) ∈ [('i', leg.initial),
    ('c', leg.captureOnly), ('o', leg.noCapture), ('&', leg.ride.isSome), ('~', leg.leaper),
    ('^', leg.locust)] := by
  rw [modifiers, List.mem_map]
  constructor
  · rintro ⟨⟨c, set⟩, hmem, rfl⟩
    obtain ⟨hmem, rfl⟩ := List.mem_filter.1 hmem
    exact hmem
  · exact fun hmem => ⟨_, List.mem_filter.2 ⟨hmem, rfl⟩, rfl⟩

theorem describedLeg_modifiers (ride : leg.ride = none ∨ leg.ride = some .any) :
    describedLeg leg.modifiers leg.distance = leg := by
  obtain ⟨distance, again, initial, captureOnly, noCapture, leaper, locust⟩ := leg
  obtain rfl | rfl : again = none ∨ again = some .any := ride <;> simp [describedLeg, Leg.mem_modifiers]

theorem Distance.WellFormed.measure (wellFormed : distance.WellFormed) :
    distance.measure.Valid ∧ distance.measure.distance = distance := by
  cases distance with
  | any => exact ⟨trivial, rfl⟩
  | _ =>
    simp only [WellFormed] at wellFormed
    simp only [Distance.measure, Measure.Valid, Measure.distance, Text.value_toDigits,
      Text.isNumeral_toDigits, true_and, exact.injEq, range.injEq, hippogonal.injEq]
    omega

theorem Distance.WellFormed.short (wellFormed : distance.WellFormed) (writable : distance.Writable) :
    distance.measure.Short := by
  have short : ∀ {n : Int}, 1 ≤ n → Text.isWritable n → Text.Short (Nat.toDigits 10 n.toNat) := by
    intro n positive writable
    rw [← Text.isWritable_iff, Int.toNat_of_nonneg (by omega)]
    exact writable
  cases distance with
  | any => trivial
  | exact n => exact short wellFormed writable
  | range low high => exact ⟨short wellFormed.1 writable.1, short (Int.le_trans wellFormed.1 wellFormed.2) writable.2⟩
  | hippogonal m n => exact ⟨short wellFormed.1 writable.1, short wellFormed.2 writable.2⟩

/-- The headings are known from those that are written. -/
theorem Distance.Takes.written (headed : distance.Takes headings) :
    distance.measure.headings (headings.filter (· ≠ .hippogonal)) = headings ∧
    (distance.measure.IsLeap → headings.filter (· ≠ .hippogonal) = []) ∧
    Longest (headings.filter (· ≠ .hippogonal)) := by
  cases distance with
  | hippogonal m n =>
    obtain rfl : headings = [.hippogonal] := headed
    exact ⟨rfl, fun _ => rfl, by decide⟩
  | _ =>
    obtain ⟨tokens, longest⟩ := headed
    have written : headings.filter (· ≠ .hippogonal) = headings :=
      List.filter_eq_self.2 fun h hh => decide_eq_true fun (he : h = .hippogonal) => tokens (he ▸ hh)
    rw [written]
    exact ⟨rfl, nofun, longest⟩

theorem writtenHeadings_append (headings : List Heading) (groups : List Rule) :
    writtenHeadings (headings.map .heading ++ groups.map .group) =
      headings.filter (· ≠ .hippogonal) := by
  simp [writtenHeadings, List.filterMap_append, List.filterMap_map, Function.comp_def,
    Direction.heading?]

theorem groupPhrases_append (headings : List Heading) (groups : List Rule) :
    groupPhrases (headings.map .heading ++ groups.map .group) =
      groups.map fun g => (false, g.phrase) := by
  induction headings with
  | cons h headings ih => exact ih
  | nil =>
    induction groups with
    | nil => rfl
    | cons g groups ih => exact congrArg ((false, g.phrase) :: ·) ih

theorem nextPhrase_eq_map (next : Option Rule) : nextPhrase next = next.map Rule.phrase := by
  cases next <;> rfl

theorem map_eq_self {f : Rule → Rule} (h : ∀ rule ∈ rules, f rule = rule) : rules.map f = rules :=
  (List.map_congr_left h).trans (List.map_id rules)

/-- The spelling of a well-formed rule is valid and denotes the rule. -/
theorem Rule.WellFormed.phrase (wellFormed : rule.WellFormed) :
    rule.phrase.Valid ∧ rule.phrase.rule = rule := by
  induction wellFormed with
  | @mk leg headings groups next distance headed directed consistent ride _ _ ihGroups ihNext =>
    obtain ⟨hheadings, leap, longest⟩ := headed.written
    have hgroups : groupRules (groups.map fun g => (false, g.phrase)) = groups := by
      rw [groupRules_eq_map, List.map_map]
      exact map_eq_self fun g hg => (ihGroups g hg).2
    have hnext : nextRule (next.map Rule.phrase) = next := by
      cases next with
      | none => rfl
      | some t => exact congrArg some (ihNext t rfl).2
    have fitting : Fitting leg.modifiers leg.distance.measure (headings.filter (· ≠ .hippogonal))
        (groups.map fun g => (false, g.phrase)) :=
      { modifying := fun c hc => List.mem_map_of_mem (f := Prod.fst) (Leg.mem_modifiers.1 hc)
        measured := distance.measure.1
        tokens := by simp
        longest := longest
        leap := leap
        directed := directed_iff.1 (by rw [hheadings, hgroups]; simpa using directed)
        consistent := by simpa [Leg.mem_modifiers] using consistent }
    rw [Rule.phrase, writtenHeadings_append, groupPhrases_append, nextPhrase_eq_map]
    constructor
    · refine .mk fitting ?_ ?_
      · intro g hg
        obtain ⟨rule, hrule, rfl⟩ := List.mem_map.1 hg
        exact (ihGroups rule hrule).1
      · intro phrase hphrase
        obtain ⟨t, ht, rfl⟩ := Option.map_eq_some_iff.1 hphrase
        exact (ihNext t ht).1
    · rw [Phrase.rule, hheadings, hgroups, hnext, distance.measure.2,
        describedLeg_modifiers ride]

/-- And it is short enough if the numbers of the rule can be written. -/
theorem Rule.WellFormed.short (wellFormed : rule.WellFormed) (writable : rule.Writable) :
    rule.phrase.Short := by
  induction wellFormed with
  | @mk leg headings groups next distance _ _ _ _ _ _ ihGroups ihNext =>
    obtain ⟨writable, grouped, onward⟩ := writable
    rw [Rule.phrase, groupPhrases_append, nextPhrase_eq_map]
    refine .mk (distance.short writable) ?_ ?_
    · intro g hg
      obtain ⟨rule, hrule, rfl⟩ := List.mem_map.1 hg
      exact ihGroups rule hrule (grouped rule (by simpa using hrule))
    · intro phrase hphrase
      obtain ⟨t, ht, rfl⟩ := Option.map_eq_some_iff.1 hphrase
      exact ihNext t ht (onward t ht)

example : pieceText ([Rule.mk { distance := .range 2 10, initial := true, ride := some .any }
      [.heading .diagonal, .group (.mk { distance := .hippogonal 1 2 } [.heading .hippogonal] none)]
      (some (.mk {} [.heading .forward] none))].map Rule.phrase) = "i&2-10X(1/2).n>".toList := by
  decide

end VariantChess.Movement
