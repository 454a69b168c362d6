import VariantChess.Proofs.Movement.Parsing

/-!
# One text, one derivation

A rule is read whole, so what stands behind each of its parts is known, and with it the part. Two rules
with the same text in front of what closes them are therefore written alike: the same modifiers in the
same order, the same digits, the same commas (`Phrase.Valid.unique`). The same holds of the rules of a
piece (`Derives.unique`).
-/

namespace VariantChess.Movement

open Text (takeWhile_run)

variable {rest rest' : List Char} {measure measure' : Measure} {phrase phrase' : Phrase}
  {phrases phrases' : List Phrase} {groups groups' : List (Bool × Phrase)} {next next' : Option Phrase}

/-! ### Distances -/

/-- Digits end where no digit stands. -/
theorem numeral_append_inj {digits digits' : List Char} (numeral : Text.IsNumeral digits)
    (numeral' : Text.IsNumeral digits') (stop : ∀ c ∈ rest.head?, ¬ Text.isDigit c)
    (stop' : ∀ c ∈ rest'.head?, ¬ Text.isDigit c) (h : digits ++ rest = digits' ++ rest') :
    digits = digits' ∧ rest = rest' := by
  have hdigits : (digits ++ rest).takeWhile Text.isDigit = digits := takeWhile_run numeral.isDigit stop
  rw [h, takeWhile_run numeral'.isDigit stop'] at hdigits
  subst hdigits
  exact ⟨rfl, List.append_cancel_left h⟩

/-- The digits in front of a distance, and what it has behind them. -/
def Measure.parts : Measure → List Char × List Char
  | any => ([], ['n'])
  | exact digits => (digits, [])
  | range low high => (low, '-' :: high)
  | leap long wide => (long, '/' :: wide)

theorem Measure.parts_text (measure : Measure) : measure.parts.1 ++ measure.parts.2 = measure.text := by
  cases measure <;> simp [parts, text]

theorem Measure.Valid.takeWhile_text (valid : measure.Valid)
    (stop : ∀ c ∈ rest.head?, ¬ Text.isDigit c) :
    (measure.text ++ rest).takeWhile Text.isDigit = measure.parts.1 := by
  rw [← measure.parts_text, List.append_assoc]
  cases measure with
  | any => exact takeWhile_run (List.forall_mem_nil _) (by simpa [parts] using by decide)
  | exact digits => exact takeWhile_run valid.1.isDigit stop
  | range low high => exact takeWhile_run valid.1.isDigit (by simpa [parts] using by decide)
  | leap long wide => exact takeWhile_run valid.1.isDigit (by simpa [parts] using by decide)

theorem Measure.unique (valid : measure.Valid) (valid' : measure'.Valid)
    (stop : ∀ c ∈ rest.head?, c ∈ signs ∨ c ∈ stops) (stop' : ∀ c ∈ rest'.head?, c ∈ signs ∨ c ∈ stops)
    (h : measure.text ++ rest = measure'.text ++ rest') : measure = measure' ∧ rest = rest' := by
  have apart : ∀ c, c ∈ signs ∨ c ∈ stops → ¬ Text.isDigit c ∧ c ∉ ['n', '-', '/'] := by
    have apart : ∀ c ∈ signs ++ stops, ¬ Text.isDigit c ∧ c ∉ ['n', '-', '/'] :=
      List.all_iff_forall_prop.1 rfl
    exact fun c hc => apart c (List.mem_append.2 hc)
  have noDigit : ∀ c ∈ rest.head?, ¬ Text.isDigit c := fun c hc => (apart c (stop c hc)).1
  have noDigit' : ∀ c ∈ rest'.head?, ¬ Text.isDigit c := fun c hc => (apart c (stop' c hc)).1
  have noSign : ∀ {c cs}, c ∈ ['n', '-', '/'] → rest ≠ c :: cs := by
    rintro c cs hc rfl
    exact (apart c (stop c rfl)).2 hc
  have noSign' : ∀ {c cs}, c ∈ ['n', '-', '/'] → rest' ≠ c :: cs := by
    rintro c cs hc rfl
    exact (apart c (stop' c rfl)).2 hc
  have front : measure.parts.1 = measure'.parts.1 := by
    rw [← valid.takeWhile_text noDigit, h, valid'.takeWhile_text noDigit']
  have behind : measure.parts.2 ++ rest = measure'.parts.2 ++ rest' := by
    rw [← measure.parts_text, ← measure'.parts_text, front, List.append_assoc, List.append_assoc] at h
    exact List.append_cancel_left h
  -- the signs behind the first digits tell the kinds apart
  cases measure <;> cases measure' <;> simp only [parts, List.cons_append, List.nil_append] at front behind
  case any.any => exact ⟨rfl, (List.cons.inj behind).2⟩
  case exact.exact digits digits' => exact ⟨by rw [front], behind⟩
  case range.range low high low' high' =>
    obtain ⟨rfl, rfl⟩ := numeral_append_inj valid.2.1 valid'.2.1 noDigit noDigit' (List.cons.inj behind).2
    exact ⟨by rw [front], rfl⟩
  case leap.leap long wide long' wide' =>
    obtain ⟨rfl, rfl⟩ := numeral_append_inj valid.2.1 valid'.2.1 noDigit noDigit' (List.cons.inj behind).2
    exact ⟨by rw [front], rfl⟩
  case any.exact => exact absurd behind.symm (noSign' (by decide))
  case range.exact => exact absurd behind.symm (noSign' (by decide))
  case leap.exact => exact absurd behind.symm (noSign' (by decide))
  case exact.any => exact absurd behind (noSign (by decide))
  case exact.range => exact absurd behind (noSign (by decide))
  case exact.leap => exact absurd behind (noSign (by decide))
  all_goals exact absurd (List.cons.inj behind).1 (by decide)

/-! ### Rules -/

/-- Whatever valid rule has the same text, with what closes the one and the other behind it, is this
rule, and what stands behind is the same. -/
def Phrase.Unique (phrase : Phrase) : Prop :=
  ∀ {phrase' : Phrase} {rest rest' : List Char}, phrase'.Valid → Closes rest → Closes rest' →
    phrase.text ++ rest = phrase'.text ++ rest' → phrase = phrase' ∧ rest = rest'

theorem groups_unique (unique : ∀ g ∈ groups, g.2.Unique) (valid' : ∀ g ∈ groups', g.2.Valid)
    (stop : openGroup? rest = none) (stop' : openGroup? rest' = none)
    (h : groupsText groups ++ rest = groupsText groups' ++ rest') : groups = groups' ∧ rest = rest' := by
  induction groups generalizing groups' with
  | nil =>
    cases groups' with
    | nil => exact ⟨rfl, h⟩
    | cons g' groups' =>
      obtain ⟨comma', phrase'⟩ := g'
      rw [show rest = _ from h, openGroup?_groupsText] at stop
      cases stop
  | cons g groups ih =>
    obtain ⟨comma, phrase⟩ := g
    have hopen := congrArg openGroup? h
    rw [openGroup?_groupsText] at hopen
    cases groups' with
    | nil =>
      rw [show groupsText [] ++ rest' = rest' from rfl, stop'] at hopen
      cases hopen
    | cons g' groups' =>
      obtain ⟨comma', phrase'⟩ := g'
      rw [openGroup?_groupsText, Option.some.injEq] at hopen
      obtain ⟨hphrase, hgroups⟩ := List.forall_mem_cons.1 unique
      obtain ⟨hphrase', hgroups'⟩ := List.forall_mem_cons.1 valid'
      obtain ⟨rfl, hbehind⟩ := hphrase hphrase' .parenthesis .parenthesis hopen
      obtain ⟨rfl, rfl⟩ := ih hgroups hgroups' (List.cons.inj hbehind).2
      have hcomma : comma = comma' := by
        cases comma <;> cases comma' <;> simp_all [groupsText]
      exact ⟨by rw [hcomma], rfl⟩

theorem next_unique (unique : ∀ phrase, next = some phrase → phrase.Unique)
    (valid' : ∀ phrase, next' = some phrase → phrase.Valid) (closes : Closes rest)
    (closes' : Closes rest') (h : nextText next ++ rest = nextText next' ++ rest') :
    next = next' ∧ rest = rest' := by
  cases next with
  | none =>
    cases next' with
    | none => exact ⟨rfl, h⟩
    | some phrase' =>
      rw [show rest = _ from h] at closes
      cases closes
  | some phrase =>
    cases next' with
    | none =>
      rw [show rest' = _ from h.symm] at closes'
      cases closes'
    | some phrase' =>
      obtain ⟨rfl, rfl⟩ := unique phrase rfl (valid' phrase' rfl) closes closes' (List.cons.inj h).2
      exact ⟨rfl, rfl⟩

theorem Phrase.Valid.unique (valid : phrase.Valid) : phrase.Unique := by
  induction valid with
  | @mk modifiers measure headings groups next fitting _ _ ihGroups ihNext =>
    intro phrase' rest rest' valid' closes closes' h
    obtain @⟨modifiers', measure', headings', groups', next', fitting', grouped', onward'⟩ := valid'
    simp only [text, List.append_assoc] at h
    have hmodifiers : modifiers = modifiers' := by
      rw [← takeWhile_run fitting.isModifier fitting.measured.not_isModifier, h,
        takeWhile_run fitting'.isModifier fitting'.measured.not_isModifier]
    subst hmodifiers
    obtain ⟨rfl, hbehind⟩ := Measure.unique fitting.measured fitting'.measured
      (head?_behind fitting.tokens closes) (head?_behind fitting'.tokens closes')
      (List.append_cancel_left h)
    have hread : readHeadings (headingsText headings ++ (groupsText groups ++ (nextText next ++ rest))) =
        (headings, groupsText groups ++ (nextText next ++ rest)) :=
      readHeadings_text fitting.tokens fitting.longest (head?_groupsText closes)
    rw [hbehind, readHeadings_text fitting'.tokens fitting'.longest (head?_groupsText closes')] at hread
    obtain ⟨rfl, hgroups⟩ := Prod.mk.inj hread
    obtain ⟨rfl, hnext⟩ := groups_unique ihGroups grouped' (openGroup?_nextText closes)
      (openGroup?_nextText closes') hgroups.symm
    obtain ⟨rfl, rfl⟩ := next_unique ihNext onward' closes closes' hnext
    exact ⟨rfl, rfl⟩

/-! ### Pieces -/

theorem pieceText_inj (valid : ∀ phrase ∈ phrases, phrase.Valid)
    (valid' : ∀ phrase ∈ phrases', phrase.Valid) (ne_nil : phrases ≠ []) (ne_nil' : phrases' ≠ [])
    (h : pieceText phrases = pieceText phrases') : phrases = phrases' := by
  induction phrases generalizing phrases' with
  | nil => exact absurd rfl ne_nil
  | cons phrase phrases ih =>
    obtain ⟨phrase', phrases', rfl⟩ := List.exists_cons_of_ne_nil ne_nil'
    obtain ⟨hphrase, hphrases⟩ := List.forall_mem_cons.1 valid
    obtain ⟨hphrase', hphrases'⟩ := List.forall_mem_cons.1 valid'
    obtain ⟨rest, closes, htext, more⟩ := exists_behind phrase hphrases
    obtain ⟨rest', closes', htext', more'⟩ := exists_behind phrase' hphrases'
    obtain ⟨rfl, rfl⟩ := hphrase.unique hphrase' closes closes' (htext.symm.trans (h.trans htext'))
    obtain ⟨rfl, rfl⟩ | ⟨more, rfl⟩ := more <;> obtain ⟨rfl, hrest⟩ | ⟨more', hrest⟩ := more'
    · rfl
    · cases hrest
    · cases hrest
    · rw [ih hphrases hphrases' more more' (List.cons.inj hrest).2]

theorem Derives.unique {text : List Char} (derives : Derives phrases text)
    (derives' : Derives phrases' text) : phrases = phrases' :=
  pieceText_inj derives.valid derives'.valid derives.ne_nil derives'.ne_nil
    (derives.text_eq.trans derives'.text_eq.symm)

end VariantChess.Movement
