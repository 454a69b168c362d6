import Mathlib.Data.Bool.AllAny
import Mathlib.Data.List.Basic
import VariantChess.Movement.Notation
import VariantChess.Proofs.Text.Digit

/-!
# The grammar of movement notation

    piece    = rule { "," rule }
    rule     = { modifier } distance { heading } { [ "," ] "(" rule ")" } [ "." rule ]
    modifier = "i" | "c" | "o" | "&" | "~" | "^"
    distance = "n" | number | number "-" number | number "/" number
    heading  = "X>" | "X<" | "X" | "*" | "+" | ">" | "<" | "="

A *phrase* is a derivation of a rule in this grammar, that is the rule as it is written. It says which
text it derives (`Phrase.text`), which rule it denotes (`Phrase.rule`), and whether it keeps the side
conditions of the notation (`Phrase.Valid`). No digit may stand behind a number, so a number always
takes all digits at its place; of headings this has to be asked for (`Longest`). What may stand behind
a rule is the end of the text, a parenthesis that closes, or a comma with another rule behind it
(`Closes`).
-/

namespace VariantChess.Movement

/-! ### Distances -/

/-- A distance as it is written; its numbers are given by their digits. -/
inductive Measure where
  | any
  | exact (digits : List Char)
  | range (low high : List Char)
  | leap (long wide : List Char)
deriving DecidableEq, Repr

namespace Measure

def text : Measure → List Char
  | any => ['n']
  | exact digits => digits
  | range low high => low ++ '-' :: high
  | leap long wide => long ++ '/' :: wide

def distance : Measure → Distance
  | any => .any
  | exact digits => .exact (Text.value digits)
  | range low high => .range (Text.value low) (Text.value high)
  | leap long wide => .hippogonal (Text.value long) (Text.value wide)

/-- The digits are numerals, numbers of steps and of squares are positive, and a range is in order. -/
def Valid : Measure → Prop
  | any => True
  | exact digits => Text.IsNumeral digits ∧ 1 ≤ Text.value digits
  | range low high => Text.IsNumeral low ∧ Text.IsNumeral high ∧ 1 ≤ Text.value low ∧
      Text.value low ≤ Text.value high
  | leap long wide => Text.IsNumeral long ∧ Text.IsNumeral wide ∧ 1 ≤ Text.value long ∧
      1 ≤ Text.value wide

instance : DecidablePred Valid
  | any => .isTrue trivial
  | exact _ => inferInstanceAs (Decidable (_ ∧ _))
  | range _ _ => inferInstanceAs (Decidable (_ ∧ _))
  | leap _ _ => inferInstanceAs (Decidable (_ ∧ _))

/-- No number has more digits than a number may have. -/
def Short : Measure → Prop
  | any => True
  | exact digits => Text.Short digits
  | range low high => Text.Short low ∧ Text.Short high
  | leap long wide => Text.Short long ∧ Text.Short wide

instance : DecidablePred Short
  | any => .isTrue trivial
  | exact _ => inferInstanceAs (Decidable (Text.Short _))
  | range _ _ => inferInstanceAs (Decidable (_ ∧ _))
  | leap _ _ => inferInstanceAs (Decidable (_ ∧ _))

def IsLeap : Measure → Prop
  | leap _ _ => True
  | _ => False

instance : DecidablePred IsLeap
  | leap _ _ => .isTrue trivial
  | any => .isFalse id
  | exact _ => .isFalse id
  | range _ _ => .isFalse id

/-- The headings of a rule with this distance, of which these are written: those of a leap go without
saying. -/
def headings : Measure → List Heading → List Heading
  | leap _ _, _ => [.hippogonal]
  | _, written => written

end Measure

/-! ### Headings -/

/-- The tokens of the headings, one behind the other. -/
def headingsText (headings : List Heading) : List Char := headings.flatMap fun h => h.token.toList

/-- The characters of these texts. -/
def signs : List Char := ['X', '*', '+', '>', '<', '=']

/-- Each heading is the longest one at its place: a diagonal has no sign behind it that it would take. -/
def Longest (headings : List Heading) : Prop :=
  headings.IsChain fun h h' => h = .diagonal → h' ≠ .forward ∧ h' ≠ .backward

instance (headings : List Heading) : Decidable (Longest headings) :=
  inferInstanceAs (Decidable (headings.IsChain _))

/-! ### Rules -/

/-- A rule as it is written: modifiers, a distance, headings, groups, each with or without a comma in
front, and the rule behind a point, if there is one. -/
inductive Phrase where
  | mk (modifiers : List Char) (measure : Measure) (headings : List Heading)
      (groups : List (Bool × Phrase)) (next : Option Phrase)

mutual

/-- The text of a rule. -/
def Phrase.text : Phrase → List Char
  | .mk modifiers measure headings groups next =>
    modifiers ++ (measure.text ++ (headingsText headings ++ (groupsText groups ++ nextText next)))
termination_by structural phrase => phrase

def groupsText : List (Bool × Phrase) → List Char
  | [] => []
  | (comma, phrase) :: groups =>
    (if comma then [','] else []) ++ '(' :: (phrase.text ++ ')' :: groupsText groups)
termination_by structural groups => groups

def nextText : Option Phrase → List Char
  | none => []
  | some phrase => '.' :: phrase.text
termination_by structural next => next

end

/-- The leg that modifiers and a distance describe: a flag is set if its modifier is there. -/
def describedLeg (modifiers : List Char) (distance : Distance) : Leg where
  distance := distance
  ride := if '&' ∈ modifiers then some .any else none
  initial := 'i' ∈ modifiers
  captureOnly := 'c' ∈ modifiers
  noCapture := 'o' ∈ modifiers
  leaper := '~' ∈ modifiers
  locust := '^' ∈ modifiers

mutual

/-- The rule that is described: the groups come behind the headings, both in their order. -/
def Phrase.rule : Phrase → Rule
  | .mk modifiers measure headings groups next =>
    .mk (describedLeg modifiers measure.distance)
      ((measure.headings headings).map .heading ++ (groupRules groups).map .group) (nextRule next)
termination_by structural phrase => phrase

def groupRules : List (Bool × Phrase) → List Rule
  | [] => []
  | (_, phrase) :: groups => phrase.rule :: groupRules groups
termination_by structural groups => groups

def nextRule : Option Phrase → Option Rule
  | none => none
  | some phrase => some phrase.rule
termination_by structural next => next

end

/-- The side conditions of the notation on the parts of a rule. -/
structure Fitting (modifiers : List Char) (measure : Measure) (headings : List Heading)
    (groups : List (Bool × Phrase)) : Prop where
  modifying : ∀ c ∈ modifiers, c ∈ ['i', 'c', 'o', '&', '~', '^']
  measured : measure.Valid
  /-- The heading of a leap has no token. -/
  tokens : .hippogonal ∉ headings
  longest : Longest headings
  /-- A leap takes no headings. -/
  leap : measure.IsLeap → headings = []
  /-- Every other rule has a direction. -/
  directed : ¬ measure.IsLeap → headings ≠ [] ∨ groups ≠ []
  /-- No rule only captures and never captures. -/
  consistent : ¬ ('c' ∈ modifiers ∧ 'o' ∈ modifiers)

instance (modifiers : List Char) (measure : Measure) (headings : List Heading)
    (groups : List (Bool × Phrase)) : Decidable (Fitting modifiers measure headings groups) :=
  decidable_of_iff ((modifiers.all fun c => c ∈ ['i', 'c', 'o', '&', '~', '^']) ∧ measure.Valid ∧
      .hippogonal ∉ headings ∧ Longest headings ∧ (measure.IsLeap → headings = []) ∧
      (¬ measure.IsLeap → headings ≠ [] ∨ groups ≠ []) ∧ ¬ ('c' ∈ modifiers ∧ 'o' ∈ modifiers))
    ⟨fun ⟨h₁, h₂, h₃, h₄, h₅, h₆, h₇⟩ => ⟨List.all_iff_forall_prop.1 h₁, h₂, h₃, h₄, h₅, h₆, h₇⟩,
      fun ⟨h₁, h₂, h₃, h₄, h₅, h₆, h₇⟩ => ⟨List.all_iff_forall_prop.2 h₁, h₂, h₃, h₄, h₅, h₆, h₇⟩⟩

/-- The rule keeps the side conditions, and so do its groups and the rules that go on. -/
inductive Phrase.Valid : Phrase → Prop
  | mk {modifiers : List Char} {measure : Measure} {headings : List Heading}
      {groups : List (Bool × Phrase)} {next : Option Phrase}
      (fitting : Fitting modifiers measure headings groups)
      (grouped : ∀ g ∈ groups, Phrase.Valid g.2)
      (onward : ∀ phrase, next = some phrase → Phrase.Valid phrase) :
      Phrase.Valid (.mk modifiers measure headings groups next)

/-- No number of the rule, of its groups and of the rules that go on is too long to be read. -/
inductive Phrase.Short : Phrase → Prop
  | mk {modifiers : List Char} {measure : Measure} {headings : List Heading}
      {groups : List (Bool × Phrase)} {next : Option Phrase} (measured : measure.Short)
      (grouped : ∀ g ∈ groups, Phrase.Short g.2)
      (onward : ∀ phrase, next = some phrase → Phrase.Short phrase) :
      Phrase.Short (.mk modifiers measure headings groups next)

/-! ### Pieces -/

/-- The texts of the rules with commas between them. -/
def pieceText (phrases : List Phrase) : List Char := [','].intercalate (phrases.map Phrase.text)

/-- The rules, as they are written, are a derivation of the text. -/
structure Derives (phrases : List Phrase) (text : List Char) : Prop where
  ne_nil : phrases ≠ []
  valid : ∀ phrase ∈ phrases, phrase.Valid
  text_eq : pieceText phrases = text

/-! ### What stands behind a rule -/

/-- The characters that end the headings of a rule. -/
def stops : List Char := ['(', ',', '.', ')']

/-- What is left where a rule ends. -/
inductive Closes : List Char → Prop
  | done : Closes []
  | parenthesis {rest : List Char} : Closes (')' :: rest)
  | comma {rest : List Char} (apart : '(' ∉ rest.head?) : Closes (',' :: rest)

variable {modifiers rest : List Char} {measure : Measure} {headings : List Heading}
  {groups : List (Bool × Phrase)} {next : Option Phrase} {phrase : Phrase} {c : Char}

theorem groupRules_eq_map (groups : List (Bool × Phrase)) :
    groupRules groups = groups.map fun g => g.2.rule := by
  induction groups with
  | nil => rfl
  | cons g groups ih => rw [groupRules, ih]; rfl

theorem head?_nextText (closes : Closes rest) :
    ∀ c ∈ (nextText next ++ rest).head?, c ∈ stops := by
  cases next with
  | some phrase => simp [nextText, stops]
  | none => cases closes <;> simp [nextText, stops]

/-- Behind the headings of a rule there is a group, a rule that goes on, or the end of the rule. -/
theorem head?_groupsText (closes : Closes rest) :
    ∀ c ∈ (groupsText groups ++ (nextText next ++ rest)).head?, c ∈ stops := by
  cases groups with
  | nil => exact head?_nextText closes
  | cons g groups =>
    obtain ⟨comma, phrase⟩ := g
    cases comma <;> simp [groupsText, stops]

theorem head?_token {h : Heading} (token : h ≠ .hippogonal) :
    ∃ c cs, h.token.toList = c :: cs ∧ c ∈ signs := by
  cases h with
  | hippogonal => exact absurd rfl token
  | _ => exact ⟨_, _, rfl, by decide⟩

theorem head?_headingsText (tokens : .hippogonal ∉ headings) (hc : c ∈ (headingsText headings ++ rest).head?) :
    c ∈ signs ∨ c ∈ rest.head? := by
  cases headings with
  | nil => exact .inr hc
  | cons h headings =>
    obtain ⟨d, cs, hd, hmem⟩ := head?_token (List.ne_of_not_mem_cons tokens).symm
    simp only [headingsText, List.flatMap_cons, hd, List.cons_append, List.head?_cons, Option.mem_def,
      Option.some.injEq] at hc
    exact .inl (hc ▸ hmem)

/-- Behind the distance there is a heading or what ends the headings. -/
theorem head?_behind (tokens : .hippogonal ∉ headings) (closes : Closes rest) :
    ∀ c ∈ (headingsText headings ++ (groupsText groups ++ (nextText next ++ rest))).head?,
      c ∈ signs ∨ c ∈ stops :=
  fun c hc => (head?_headingsText tokens hc).imp_right (head?_groupsText closes c)

/-- A distance is written with an `n` or with a digit in front. -/
theorem Measure.Valid.exists_head (valid : measure.Valid) :
    ∃ c cs, measure.text = c :: cs ∧ (c = 'n' ∨ Text.isDigit c) := by
  have numeral : ∀ {digits : List Char} (rest : List Char), Text.IsNumeral digits →
      ∃ c cs, digits ++ rest = c :: cs ∧ (c = 'n' ∨ Text.isDigit c) := by
    intro digits rest h
    obtain ⟨c, cs, rfl⟩ := List.exists_cons_of_ne_nil h.1
    exact ⟨c, cs ++ rest, rfl, .inr (h.isDigit c List.mem_cons_self)⟩
  cases measure with
  | any => exact ⟨_, _, rfl, .inl rfl⟩
  | exact digits => simpa [text] using numeral [] valid.1
  | range low high => exact numeral _ valid.1
  | leap long wide => exact numeral _ valid.1

/-- A rule is written with a modifier or with its distance in front. -/
theorem Phrase.Valid.exists_head (valid : phrase.Valid) :
    ∃ c cs, phrase.text = c :: cs ∧ c ≠ '(' := by
  obtain @⟨modifiers, measure, headings, groups, next, fitting, -, -⟩ := valid
  cases modifiers with
  | cons c cs =>
    refine ⟨c, _, rfl, ?_⟩
    rintro rfl
    exact absurd (fitting.modifying '(' List.mem_cons_self) (by decide)
  | nil =>
    obtain ⟨c, cs, htext, hc⟩ := fitting.measured.exists_head
    refine ⟨c, cs ++ (headingsText headings ++ (groupsText groups ++ nextText next)), ?_, ?_⟩
    · rw [Phrase.text, htext]
      rfl
    · rintro rfl
      exact absurd hc (by decide)

end VariantChess.Movement
