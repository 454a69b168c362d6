import Mathlib.Data.List.Chain
import VariantChess.Proofs.Movement.Grammar
import VariantChess.Proofs.Movement.Reading

/-!
# The parts of a rule

The readers of modifiers, numbers, distances and headings against the grammar, both ways. What is
written is read if nothing stands behind it that the part could go on with and its numbers are short, and
what has been read was written in front of what is left.
-/

namespace VariantChess.Movement

open Text (takeWhile_run dropWhile_run)

variable {cs rest digits modifiers : List Char} {measure : Measure} {distance : Distance}
  {headings : List Heading} {c : Char}

/-! ### Modifiers -/

theorem isModifier_iff : isModifier c ↔ c ∈ ['i', 'c', 'o', '&', '~', '^'] := List.contains_iff_mem

theorem Fitting.isModifier {groups : List (Bool × Phrase)}
    (fitting : Fitting modifiers measure headings groups) : ∀ c ∈ modifiers, isModifier c :=
  fun c hc => isModifier_iff.2 (fitting.modifying c hc)

theorem ofModifiers_eq_describedLeg (modifiers : List Char) (distance : Distance) :
    Leg.ofModifiers modifiers distance = describedLeg modifiers distance := by
  simp [Leg.ofModifiers, describedLeg]

/-- No distance begins with a modifier. -/
theorem Measure.Valid.not_isModifier (valid : measure.Valid) :
    ∀ c ∈ (measure.text ++ rest).head?, ¬ isModifier c := by
  intro c hc hmod
  obtain ⟨d, ds, htext, hd⟩ := valid.exists_head
  obtain rfl : d = c := by simpa [htext] using hc
  have apart : ∀ c ∈ ['i', 'c', 'o', '&', '~', '^'], ¬ (c = 'n' ∨ Text.isDigit c) :=
    List.all_iff_forall_prop.1 rfl
  exact apart d (isModifier_iff.1 hmod) hd

/-! ### Numbers -/

theorem readNumber?_append (numeral : Text.IsNumeral digits) (short : Text.Short digits)
    (stop : ∀ c ∈ rest.head?, ¬ Text.isDigit c) :
    readNumber? (digits ++ rest) = .ok (some (Text.value digits, rest)) := by
  rw [readNumber?, takeWhile_run numeral.isDigit stop, dropWhile_run numeral.isDigit stop]
  split
  · exact absurd rfl numeral.1
  · rw [Text.number_of_isNumeral numeral, if_pos short]

theorem exists_numeral {n : Nat} (h : readNumber? cs = .ok (some (n, rest))) :
    ∃ digits, Text.IsNumeral digits ∧ Text.Short digits ∧ Text.value digits = n ∧
      digits ++ rest = cs := by
  rw [readNumber?] at h
  split at h
  · cases h
  split at h
  · rename_i hnumber
    cases h
    obtain ⟨numeral, short, hvalue⟩ := Text.number_eq_ok_iff.1 hnumber
    exact ⟨_, numeral, short, hvalue, List.takeWhile_append_dropWhile ..⟩
  · cases h

/-- Nothing but a number that is due is refused, and then without a place. -/
theorem misnumbered_of_readNumber? {e : Refusal Fault} (h : readNumber? cs = .error e) :
    Text.Misnumbered cs ∧ ∃ fault, e = .number fault := by
  rw [readNumber?] at h
  split at h
  · cases h
  rename_i hne
  split at h
  · cases h
  · rename_i fault hnumber
    cases h
    exact ⟨Text.misnumbered_iff.2 ⟨by simpa using hne, fault, hnumber⟩, fault, rfl⟩

theorem exists_readNumber?_error (bad : Text.Misnumbered cs) :
    ∃ fault, readNumber? cs = .error (.number fault) := by
  obtain ⟨some, fault, hnumber⟩ := Text.misnumbered_iff.1 bad
  refine ⟨fault, ?_⟩
  rw [readNumber?]
  split
  · rename_i hnil
    exact absurd hnil some
  · rw [hnumber]

/-! ### Distances -/

theorem readDistance_append (numeral : Text.IsNumeral digits) (short : Text.Short digits)
    (stop : ∀ c ∈ rest.head?, ¬ Text.isDigit c) :
    readDistance (digits ++ rest) = readDistanceFrom (digits ++ rest) (Text.value digits) rest := by
  rw [readDistance.eq_def]
  split
  · rename_i heq
    obtain ⟨d, ds, rfl⟩ := List.exists_cons_of_ne_nil numeral.1
    obtain rfl : d = 'n' := (List.cons.inj heq).1
    exact absurd (numeral.isDigit 'n' List.mem_cons_self) (by decide)
  · rw [readNumber?_append numeral short stop]
    rfl

/-- A distance is read whole: its last number takes all digits, and a number with no sign behind it is
the whole distance. -/
theorem readDistance_text (valid : measure.Valid) (short : measure.Short)
    (stop : ∀ c ∈ rest.head?, c ∈ signs ∨ c ∈ stops) :
    readDistance (measure.text ++ rest) = .ok (measure.distance, rest) := by
  have apart : ∀ c ∈ signs ++ stops, ¬ Text.isDigit c ∧ c ≠ '-' ∧ c ≠ '/' :=
    List.all_iff_forall_prop.1 rfl
  have noDigit : ∀ c ∈ rest.head?, ¬ Text.isDigit c := fun c hc =>
    (apart c (List.mem_append.2 (stop c hc))).1
  cases measure with
  | any => rfl
  | exact digits =>
    obtain ⟨numeral, positive⟩ := valid
    rw [Measure.text, readDistance_append numeral short noDigit, readDistanceFrom.eq_def]
    split
    · exact absurd rfl (apart '-' (List.mem_append.2 (stop _ rfl))).2.1
    · exact absurd rfl (apart '/' (List.mem_append.2 (stop _ rfl))).2.2
    · rw [if_neg (by omega)]
      rfl
  | range low high =>
    obtain ⟨numeral, numeral', positive, order⟩ := valid
    rw [Measure.text, List.append_assoc, readDistance_append numeral short.1 (by simpa using by decide)]
    simp only [List.cons_append, readDistanceFrom, readNumber?_append numeral' short.2 noDigit]
    simp [bind, Except.bind, Nat.ne_of_gt positive, Nat.not_lt.2 order, Measure.distance]
  | leap long wide =>
    obtain ⟨numeral, numeral', positive, positive'⟩ := valid
    rw [Measure.text, List.append_assoc, readDistance_append numeral short.1 (by simpa using by decide)]
    simp only [List.cons_append, readDistanceFrom, readNumber?_append numeral' short.2 noDigit]
    simp [bind, Except.bind, Nat.ne_of_gt positive, Nat.ne_of_gt positive', Measure.distance]

theorem exists_measureFrom {first : List Char} (numeral : Text.IsNumeral first)
    (short : Text.Short first)
    (h : readDistanceFrom (first ++ cs) (Text.value first) cs = .ok (distance, rest)) :
    ∃ measure : Measure, measure.Valid ∧ measure.Short ∧ measure.distance = distance ∧
      measure.text ++ rest = first ++ cs := by
  rw [readDistanceFrom.eq_def] at h
  split at h
  · obtain ⟨_ | ⟨second, rest'⟩, hsecond, h⟩ := bind_eq_ok_iff.1 h
    · cases h
    dsimp only at h
    split_ifs at h with hrange
    cases h
    obtain ⟨high, numeral', short', rfl, rfl⟩ := exists_numeral hsecond
    refine ⟨.range first high, ⟨numeral, numeral', ?_⟩, ⟨short, short'⟩, rfl, ?_⟩
    · simp at hrange
      omega
    · simp [Measure.text]
  · obtain ⟨_ | ⟨second, rest'⟩, hsecond, h⟩ := bind_eq_ok_iff.1 h
    · cases h
    dsimp only at h
    split_ifs at h with hleap
    cases h
    obtain ⟨wide, numeral', short', rfl, rfl⟩ := exists_numeral hsecond
    refine ⟨.leap first wide, ⟨numeral, numeral', ?_⟩, ⟨short, short'⟩, rfl, ?_⟩
    · simp at hleap
      omega
    · simp [Measure.text]
  · split_ifs at h with hexact
    cases h
    exact ⟨.exact first, ⟨numeral, by omega⟩, short, rfl, rfl⟩

theorem exists_measure (h : readDistance cs = .ok (distance, rest)) :
    ∃ measure : Measure, measure.Valid ∧ measure.Short ∧ measure.distance = distance ∧
      measure.text ++ rest = cs := by
  rw [readDistance.eq_def] at h
  split at h
  · cases h
    exact ⟨.any, trivial, trivial, rfl, rfl⟩
  · obtain ⟨_ | ⟨first, rest'⟩, hfirst, h⟩ := bind_eq_ok_iff.1 h
    · cases h
    obtain ⟨digits, numeral, short, rfl, rfl⟩ := exists_numeral hfirst
    exact exists_measureFrom numeral short h

/-- The headings of a distance are there unless a leap has been given some. -/
theorem headingsFor_eq_some_iff {written : List Heading} :
    headingsFor measure.distance written = some headings ↔
      (measure.IsLeap → written = []) ∧ measure.headings written = headings := by
  cases measure <;> simp [headingsFor, Measure.distance, Measure.IsLeap, Measure.headings]

/-- A leap has a direction in any case. -/
theorem directed_iff {groups : List (Bool × Phrase)} :
    ¬ (measure.headings headings = [] ∧ groupRules groups = []) ↔
      (¬ measure.IsLeap → headings ≠ [] ∨ groups ≠ []) := by
  cases measure <;>
    simp [Measure.IsLeap, Measure.headings, groupRules_eq_map, ← not_and_or]

/-! ### Headings -/

theorem readHeadings_stop (stop : ∀ c ∈ rest.head?, c ∈ stops) : readHeadings rest = ([], rest) := by
  cases rest with
  | nil => rfl
  | cons c rest =>
    have hc : c ∈ stops := stop c rfl
    simp only [stops, List.mem_cons, List.not_mem_nil, or_false] at hc
    obtain rfl | rfl | rfl | rfl := hc <;> rfl

theorem readHeadings_token {h : Heading} (token : h ≠ .hippogonal)
    (apart : h = .diagonal → '>' ∉ cs.head? ∧ '<' ∉ cs.head?) :
    readHeadings (h.token.toList ++ cs) = (h :: (readHeadings cs).1, (readHeadings cs).2) := by
  cases h with
  | hippogonal => exact absurd rfl token
  | diagonal =>
    obtain ⟨forward, backward⟩ := apart rfl
    have hX : readHeadings ('X' :: cs) = (.diagonal :: (readHeadings cs).1, (readHeadings cs).2) := by
      rw [readHeadings]
      · rintro cs rfl
        exact forward rfl
      · rintro cs rfl
        exact backward rfl
    exact hX
  | _ => rfl

/-- No sign that a diagonal would take stands in front of other headings, nor of what ends them. -/
theorem apart_headingsText (hnext : ∀ h ∈ headings.head?, h ≠ .forward ∧ h ≠ .backward)
    (stop : ∀ c ∈ rest.head?, c ∈ stops) :
    '>' ∉ (headingsText headings ++ rest).head? ∧ '<' ∉ (headingsText headings ++ rest).head? := by
  cases headings with
  | nil => exact ⟨fun h => absurd (stop _ h) (by decide), fun h => absurd (stop _ h) (by decide)⟩
  | cons h headings =>
    have hh := hnext h rfl
    cases h <;> simp_all [headingsText, Heading.token]

theorem readHeadings_text (tokens : .hippogonal ∉ headings) (longest : Longest headings)
    (stop : ∀ c ∈ rest.head?, c ∈ stops) :
    readHeadings (headingsText headings ++ rest) = (headings, rest) := by
  induction headings with
  | nil => exact readHeadings_stop stop
  | cons h headings ih =>
    obtain ⟨hnext, longest⟩ := List.isChain_cons.1 longest
    rw [headingsText, List.flatMap_cons, List.append_assoc, ← headingsText,
      readHeadings_token (List.ne_of_not_mem_cons tokens).symm,
      ih (List.not_mem_of_not_mem_cons tokens) longest]
    exact fun hh => apart_headingsText (fun h' hh' => hnext h' hh' hh) stop

theorem headingsText_readHeadings (cs : List Char) :
    headingsText (readHeadings cs).1 ++ (readHeadings cs).2 = cs := by
  fun_induction readHeadings cs <;> simp_all [headingsText, Heading.token]

theorem longest_readHeadings (cs : List Char) : Longest (readHeadings cs).1 := by
  fun_induction readHeadings cs with
  | case3 cs forward backward headings rest heq ih =>
    have htext : headingsText headings ++ rest = cs := by
      rw [← headingsText_readHeadings cs, heq]
    rw [heq] at ih
    -- a sign next would be the first character behind the diagonal
    refine List.IsChain.cons ih fun h hh _ => ⟨?_, ?_⟩ <;> rintro rfl
    · obtain ⟨headings, rfl⟩ := List.head?_eq_some_iff.1 hh
      exact forward _ htext.symm
    · obtain ⟨headings, rfl⟩ := List.head?_eq_some_iff.1 hh
      exact backward _ htext.symm
  | case9 => exact .nil
  | _ =>
    rename_i heq ih
    rw [heq] at ih
    exact List.IsChain.cons ih fun _ _ hh => absurd hh (by decide)

end VariantChess.Movement
