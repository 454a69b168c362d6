import VariantChess.Proofs.Movement.Parsing

/-!
# Where a rule is stuck

Every refusal of a movement text has a place, with one exception: a number takes all digits at its
place, and if these are no numeral or too many, the reader is stuck. That happens exactly where a number
is due, that is behind the modifiers of a rule or between the two numbers of a distance, in a rule that
stands by itself, in a group, behind a point or, in a piece, behind a comma (`NumberDue`). What is in
front has been read by then and what is behind never is, so the side conditions that are checked late
play no part: nobody minds the zero in front of the second number, nor the contradiction in front of a
group. Of the texts that the grammar derives, those with a number that is too long get stuck
(`Derives.pieceStuck`).
-/

namespace VariantChess.Movement

open Text (Misnumbered takeWhile_run dropWhile_run)

variable {depth : Nat} {cs rest front modifiers tail : List Char} {measure : Measure}
  {headings : List Heading} {groups : List (Bool × Phrase)} {next : Option Phrase} {phrase : Phrase}
  {phrases : List Phrase} {fault : Text.NumberFault} {e : Refusal Fault}

/-! ### Where a number is due -/

/-- The parts in front of the groups of a rule, as far as they are checked before the groups are read. -/
structure Begun (modifiers : List Char) (measure : Measure) (headings : List Heading) : Prop where
  modifying : ∀ c ∈ modifiers, c ∈ ['i', 'c', 'o', '&', '~', '^']
  measured : measure.Valid
  short : measure.Short
  tokens : .hippogonal ∉ headings
  longest : Longest headings
  leap : measure.IsLeap → headings = []

/-- The text so far is one behind which a rule goes on with a number. -/
inductive NumberDue : List Char → Prop
  /-- The first number stands behind the modifiers. -/
  | first {modifiers : List Char} (modifying : ∀ c ∈ modifiers, c ∈ ['i', 'c', 'o', '&', '~', '^']) :
      NumberDue modifiers
  /-- The second one stands behind the sign of a range or of a leap. -/
  | second {modifiers digits : List Char} {sign : Char}
      (modifying : ∀ c ∈ modifiers, c ∈ ['i', 'c', 'o', '&', '~', '^'])
      (numeral : Text.IsNumeral digits) (short : Text.Short digits) (separates : sign ∈ ['-', '/']) :
      NumberDue (modifiers ++ (digits ++ [sign]))
  | grouped {modifiers : List Char} {measure : Measure} {headings : List Heading}
      {groups : List (Bool × Phrase)} {front : List Char} (comma : Bool)
      (begun : Begun modifiers measure headings) (valid : ∀ g ∈ groups, g.2.Valid)
      (short : ∀ g ∈ groups, g.2.Short) (due : NumberDue front) :
      NumberDue (modifiers ++ (measure.text ++ (headingsText headings ++ (groupsText groups ++
        ((if comma then [','] else []) ++ '(' :: front)))))
  | onward {modifiers : List Char} {measure : Measure} {headings : List Heading}
      {groups : List (Bool × Phrase)} {front : List Char}
      (fitting : Fitting modifiers measure headings groups) (measured : measure.Short)
      (valid : ∀ g ∈ groups, g.2.Valid) (short : ∀ g ∈ groups, g.2.Short) (due : NumberDue front) :
      NumberDue (modifiers ++ (measure.text ++ (headingsText headings ++ (groupsText groups ++
        '.' :: front))))

/-- A number is due in a rule, and the digits that stand there are none. -/
def RuleStuck (cs : List Char) : Prop :=
  ∃ front rest, front ++ rest = cs ∧ NumberDue front ∧ Misnumbered rest

/-- The same behind any number of rules and the commas that separate them. -/
def PieceStuck (cs : List Char) : Prop :=
  ∃ (phrases : List Phrase) (rest : List Char),
    (phrases.flatMap fun phrase => phrase.text ++ [',']) ++ rest = cs ∧
      (∀ phrase ∈ phrases, phrase.Valid) ∧ (∀ phrase ∈ phrases, phrase.Short) ∧ RuleStuck rest

theorem Fitting.begun (fitting : Fitting modifiers measure headings groups) (short : measure.Short) :
    Begun modifiers measure headings :=
  ⟨fitting.modifying, fitting.measured, short, fitting.tokens, fitting.longest, fitting.leap⟩

theorem Begun.fitting (begun : Begun modifiers measure headings)
    (directed : ¬ measure.IsLeap → headings ≠ [] ∨ groups ≠ [])
    (consistent : ¬ ('c' ∈ modifiers ∧ 'o' ∈ modifiers)) :
    Fitting modifiers measure headings groups :=
  ⟨begun.modifying, begun.measured, begun.tokens, begun.longest, begun.leap, directed, consistent⟩

/-! ### Where modifiers end -/

/-- A distance may stand next. -/
def DistanceNext (cs : List Char) : Prop := ∃ c ∈ cs.head?, c = 'n' ∨ Text.isDigit c

theorem Begun.distanceNext (begun : Begun modifiers measure headings) (cs : List Char) :
    DistanceNext (measure.text ++ cs) := by
  obtain ⟨c, ds, htext, hc⟩ := begun.measured.exists_head
  exact ⟨c, by rw [htext]; rfl, hc⟩

theorem distanceNext_of_misnumbered (bad : Misnumbered cs) : DistanceNext cs := by
  obtain ⟨c, rest, rfl, digit⟩ := bad.exists_head
  exact ⟨c, rfl, .inr digit⟩

theorem distanceNext_of_isNumeral {digits : List Char} (numeral : Text.IsNumeral digits)
    (cs : List Char) : DistanceNext (digits ++ cs) := by
  obtain ⟨c, digits, rfl⟩ := List.exists_cons_of_ne_nil numeral.1
  exact ⟨c, rfl, .inr (numeral.isDigit c List.mem_cons_self)⟩

theorem DistanceNext.not_isModifier (next : DistanceNext cs) : ∀ c ∈ cs.head?, ¬ isModifier c := by
  intro c hc modifier
  obtain ⟨d, hd, hdistance⟩ := next
  obtain rfl : c = d := Option.mem_unique hc hd
  have apart : ∀ c ∈ ['i', 'c', 'o', '&', '~', '^'], ¬ (c = 'n' ∨ Text.isDigit c) :=
    List.all_iff_forall_prop.1 rfl
  exact apart c (isModifier_iff.1 modifier) hdistance

theorem DistanceNext.takeWhile (next : DistanceNext cs)
    (modifying : ∀ c ∈ modifiers, c ∈ ['i', 'c', 'o', '&', '~', '^']) :
    (modifiers ++ cs).takeWhile isModifier = modifiers :=
  takeWhile_run (fun c hc => isModifier_iff.2 (modifying c hc)) next.not_isModifier

theorem DistanceNext.dropWhile (next : DistanceNext cs)
    (modifying : ∀ c ∈ modifiers, c ∈ ['i', 'c', 'o', '&', '~', '^']) :
    (modifiers ++ cs).dropWhile isModifier = cs :=
  dropWhile_run (fun c hc => isModifier_iff.2 (modifying c hc)) next.not_isModifier

/-- No rule begins with a parenthesis. -/
theorem DistanceNext.head?_ne (next : DistanceNext cs)
    (modifying : ∀ c ∈ modifiers, c ∈ ['i', 'c', 'o', '&', '~', '^']) :
    '(' ∉ (modifiers ++ cs).head? := by
  intro hc
  cases modifiers with
  | nil =>
    obtain ⟨c, hc', hdistance⟩ := next
    obtain rfl : '(' = c := Option.mem_unique hc hc'
    exact absurd hdistance (by decide)
  | cons c modifiers =>
    obtain rfl : c = '(' := by simpa using hc
    exact absurd (modifying '(' List.mem_cons_self) (by decide)

theorem NumberDue.head?_ne (due : NumberDue front) (bad : Misnumbered rest) :
    '(' ∉ (front ++ rest).head? := by
  cases due with
  | first modifying => exact (distanceNext_of_misnumbered bad).head?_ne modifying
  | second modifying numeral short separates =>
    rw [List.append_assoc, List.append_assoc]
    exact (distanceNext_of_isNumeral numeral _).head?_ne modifying
  | grouped comma begun valid short due =>
    rw [List.append_assoc, List.append_assoc]
    exact (begun.distanceNext _).head?_ne begun.modifying
  | onward fitting measured valid short due =>
    rw [List.append_assoc, List.append_assoc]
    exact ((fitting.begun measured).distanceNext _).head?_ne fitting.modifying

/-! ### Numbers and distances -/

theorem stuck_of_readDistanceFrom {digits : List Char} {n : Nat} (numeral : Text.IsNumeral digits)
    (short : Text.Short digits) (h : readDistanceFrom cs n tail = .error (.number fault)) :
    ∃ digits' sign rest, Text.IsNumeral digits' ∧ Text.Short digits' ∧ sign ∈ ['-', '/'] ∧
      digits' ++ sign :: rest = digits ++ tail ∧ Misnumbered rest := by
  rw [readDistanceFrom.eq_def] at h
  split at h
  case h_3 =>
    split_ifs at h
    cases h
  -- the second number of a range and that of a leap
  all_goals
    rename_i rest
    obtain h | ⟨_ | ⟨second, rest'⟩, hsecond, h⟩ := bind_eq_error_iff.1 h
    · exact ⟨digits, _, rest, numeral, short, by simp, rfl, (misnumbered_of_readNumber? h).1⟩
    · cases h
    · dsimp only at h
      split_ifs at h
      cases h

theorem stuck_of_readDistance (h : readDistance cs = .error (.number fault)) : Misnumbered cs ∨
    ∃ digits sign rest, Text.IsNumeral digits ∧ Text.Short digits ∧ sign ∈ ['-', '/'] ∧
      digits ++ sign :: rest = cs ∧ Misnumbered rest := by
  rw [readDistance.eq_def] at h
  split at h
  · cases h
  obtain h | ⟨_ | ⟨first, rest⟩, hfirst, hsecond⟩ := bind_eq_error_iff.1 h
  · exact .inl (misnumbered_of_readNumber? h).1
  · cases hsecond
  obtain ⟨digits, numeral, short, -, rfl⟩ := exists_numeral hfirst
  exact .inr (stuck_of_readDistanceFrom numeral short hsecond)

theorem readDistance_eq_error (h : readNumber? cs = .error e) : readDistance cs = .error e := by
  obtain ⟨c, rest, rfl, digit⟩ := (misnumbered_of_readNumber? h).1.exists_head
  rw [readDistance.eq_def]
  split
  · rename_i heq
    obtain rfl : c = 'n' := (List.cons.inj heq).1
    exact absurd digit (by decide)
  · rw [h]
    rfl

theorem readDistance_second_eq_error {digits : List Char} {sign : Char}
    (numeral : Text.IsNumeral digits) (short : Text.Short digits) (separates : sign ∈ ['-', '/'])
    (h : readNumber? rest = .error e) : readDistance (digits ++ sign :: rest) = .error e := by
  obtain rfl | rfl : sign = '-' ∨ sign = '/' := by simpa using separates
  · rw [readDistance_append numeral short (by simpa using by decide), readDistanceFrom, h]
    rfl
  · rw [readDistance_append numeral short (by simpa using by decide), readDistanceFrom, h]
    rfl

/-! ### A rule is stuck where a number is due -/

theorem head?_groupsText_append (groups : List (Bool × Phrase)) (stop : ∀ c ∈ cs.head?, c ∈ stops) :
    ∀ c ∈ (groupsText groups ++ cs).head?, c ∈ stops := by
  cases groups with
  | nil => exact stop
  | cons g groups =>
    obtain ⟨comma, phrase⟩ := g
    cases comma <;> simp [groupsText, stops]

/-- A rule whose first parts can be read fails if its groups do, or if the rule behind its point does. -/
theorem readRule_eq_error (groups : List (Bool × Phrase)) (begun : Begun modifiers measure headings)
    (stop : ∀ c ∈ cs.head?, c ∈ stops)
    (h : readGroups depth cs = .error e ∨ ∃ rest, readGroups depth cs =
      .ok (groupRules groups, '.' :: rest) ∧ Fitting modifiers measure headings groups ∧
        readRule depth rest = .error e) :
    readRule (depth + 1) (modifiers ++ (measure.text ++ (headingsText headings ++ cs))) = .error e := by
  have next := begun.distanceNext (headingsText headings ++ cs)
  have behind : ∀ c ∈ (headingsText headings ++ cs).head?, c ∈ signs ∨ c ∈ stops := fun c hc =>
    (head?_headingsText begun.tokens hc).imp_right (stop c)
  rw [readRule, next.takeWhile begun.modifying, next.dropWhile begun.modifying,
    readDistance_text begun.measured begun.short behind]
  simp only [bind, Except.bind, readHeadings_text begun.tokens begun.longest stop,
    headingsFor_eq_some_iff.2 ⟨begun.leap, rfl⟩]
  obtain hgroups | ⟨rest, hgroups, fitting, hrest⟩ := h
  · rw [hgroups]
  · simp only [hgroups]
    rw [if_neg (by simpa using directed_iff.2 fitting.directed),
      if_neg (by simpa using fitting.consistent)]
    simp only [hrest]

/-- A group fails if the rule in it does, whatever groups stand in front. -/
theorem readGroups_eq_error {n : Nat} (read : ∀ g ∈ groups, g.2.Read) (comma : Bool)
    (inside : ∀ {depth}, n < depth → readRule depth cs = .error e)
    (hdepth : (groupsText groups).length + n + 1 < depth) :
    readGroups depth (groupsText groups ++ ((if comma then [','] else []) ++ '(' :: cs)) = .error e := by
  induction groups generalizing depth with
  | nil =>
    obtain _ | depth := depth
    · omega
    have opened : openGroup? ((if comma then [','] else []) ++ '(' :: cs) = some cs := by
      cases comma <;> rfl
    have hcs : readRule depth cs = .error e := inside (by omega)
    rw [groupsText, List.nil_append, readGroups, opened]
    simp only [bind, Except.bind, hcs]
  | cons g groups ih =>
    obtain ⟨comma', phrase⟩ := g
    obtain ⟨hphrase, hgroups⟩ := List.forall_mem_cons.1 read
    obtain _ | depth := depth
    · omega
    simp only [groupsText, List.length_append, List.length_cons] at hdepth
    have first : readRule depth (phrase.text ++ ')' :: (groupsText groups ++
        ((if comma then [','] else []) ++ '(' :: cs))) = .ok (phrase.rule, ')' :: (groupsText groups ++
          ((if comma then [','] else []) ++ '(' :: cs))) :=
      hphrase .parenthesis (show phrase.text.length < depth by omega)
    have others : readGroups depth (groupsText groups ++
        ((if comma then [','] else []) ++ '(' :: cs)) = .error e := ih hgroups (by omega)
    rw [readGroups, openGroup?_groupsText]
    simp only [bind, Except.bind, first, others]

theorem readRule_of_numberDue (due : NumberDue front) (bad : Misnumbered rest)
    (stuck : readNumber? rest = .error e) (hdepth : front.length < depth) :
    readRule depth (front ++ rest) = .error e := by
  -- the depth need not exceed the front: what is behind it is not read
  induction due generalizing depth with
  | first modifying =>
    obtain _ | depth := depth
    · omega
    rw [readRule, (distanceNext_of_misnumbered bad).dropWhile modifying, readDistance_eq_error stuck]
    rfl
  | @second modifiers digits sign modifying numeral short separates =>
    obtain _ | depth := depth
    · omega
    rw [List.append_assoc, List.append_assoc, List.singleton_append, readRule,
      (distanceNext_of_isNumeral numeral _).dropWhile modifying,
      readDistance_second_eq_error numeral short separates stuck]
    rfl
  | @grouped modifiers measure headings groups front comma begun valid short due ih =>
    obtain _ | depth := depth
    · omega
    simp only [List.length_append, List.length_cons] at hdepth
    simp only [List.append_assoc, List.cons_append]
    refine readRule_eq_error groups begun (head?_groupsText_append groups ?_) (.inl ?_)
    · cases comma <;> simp [stops]
    · have measured : 0 < measure.text.length := by
        obtain ⟨c, ds, htext, -⟩ := begun.measured.exists_head
        simp [htext]
      exact readGroups_eq_error (fun g hg => (valid g hg).read (short g hg)) comma ih (by omega)
  | @onward modifiers measure headings groups front fitting measured valid short due ih =>
    obtain _ | depth := depth
    · omega
    simp only [List.length_append, List.length_cons] at hdepth
    simp only [List.append_assoc, List.cons_append]
    refine readRule_eq_error groups (fitting.begun measured) (head?_groupsText_append groups (by simp [stops]))
      (.inr ⟨front ++ rest, ?_, fitting, ih (by omega)⟩)
    exact readGroups_text (fun g hg => (valid g hg).read (short g hg)) rfl (by omega)

/-! ### A number is due where a rule is stuck -/

/-- The rule in a group is stuck, behind other groups. -/
def GroupsStuck (cs : List Char) : Prop :=
  ∃ (groups : List (Bool × Phrase)) (comma : Bool) (rest : List Char),
    groupsText groups ++ ((if comma then [','] else []) ++ '(' :: rest) = cs ∧
      (∀ g ∈ groups, g.2.Valid) ∧ (∀ g ∈ groups, g.2.Short) ∧ RuleStuck rest

/-- What has been read in front of the groups of a rule. -/
theorem exists_begun {distance : Distance} {written : List Heading}
    (hdistance : readDistance (cs.dropWhile isModifier) = .ok (distance, rest))
    (hheadings : headingsFor distance (readHeadings rest).1 = some written) :
    ∃ measure : Measure, Begun (cs.takeWhile isModifier) measure (readHeadings rest).1 ∧
      measure.headings (readHeadings rest).1 = written ∧
      cs.takeWhile isModifier ++ (measure.text ++
        (headingsText (readHeadings rest).1 ++ (readHeadings rest).2)) = cs := by
  obtain ⟨measure, measured, short, rfl, hmeasure⟩ := exists_measure hdistance
  obtain ⟨leap, hwritten⟩ := headingsFor_eq_some_iff.1 hheadings
  refine ⟨measure, ?_, hwritten, ?_⟩
  · exact {
      modifying := fun c hc => isModifier_iff.1 (List.mem_takeWhile_imp hc)
      measured := measured
      short := short
      tokens := hippogonal_notMem_readHeadings rest
      longest := longest_readHeadings rest
      leap := leap }
  · rw [headingsText_readHeadings, hmeasure, List.takeWhile_append_dropWhile]

/-- A rule is stuck at one of its own numbers, in one of its groups, or behind its point. -/
theorem stuck_of_readRule_succ
    (inside : ∀ cs, readGroups depth cs = .error (.number fault) → GroupsStuck cs)
    (onward : ∀ cs, readRule depth cs = .error (.number fault) → RuleStuck cs)
    (h : readRule (depth + 1) cs = .error (.number fault)) : RuleStuck cs := by
  rw [readRule] at h
  obtain h | ⟨⟨distance, rest₁⟩, hdistance, h⟩ := bind_eq_error_iff.1 h
  · have modifying : ∀ c ∈ cs.takeWhile isModifier, c ∈ ['i', 'c', 'o', '&', '~', '^'] := fun c hc =>
      isModifier_iff.1 (List.mem_takeWhile_imp hc)
    have parts := List.takeWhile_append_dropWhile (p := isModifier) (l := cs)
    obtain bad | ⟨digits, sign, rest, numeral, short, separates, htext, bad⟩ := stuck_of_readDistance h
    · exact ⟨_, _, parts, .first modifying, bad⟩
    · refine ⟨_, rest, ?_, .second modifying numeral short separates, bad⟩
      rw [List.append_assoc, List.append_assoc, List.singleton_append, htext, parts]
  dsimp only at h
  split at h
  · cases h
  rename_i written hheadings
  obtain ⟨measure, begun, rfl, parts⟩ := exists_begun hdistance hheadings
  obtain h | ⟨⟨rules, rest₂⟩, hgroups, h⟩ := bind_eq_error_iff.1 h
  · obtain ⟨groups, comma, rest, htext, valid, short, front, rest', rfl, due, bad⟩ := inside _ h
    refine ⟨_, rest', ?_, .grouped comma begun valid short due, bad⟩
    rw [← htext] at parts
    simpa only [List.append_assoc, List.cons_append] using parts
  dsimp only at h
  split_ifs at h with hempty hboth
  · cases h
  · cases h
  obtain ⟨groups, valid, short, rfl, hbehind⟩ := (exists_phrase depth).2 _ _ _ hgroups
  rw [← hbehind] at parts
  split at h
  · obtain h | ⟨_, _, h⟩ := bind_eq_error_iff.1 h
    · obtain ⟨front, rest', rfl, due, bad⟩ := onward _ h
      have fitting := begun.fitting (directed_iff.1 (by simpa using hempty)) (by simpa using hboth)
      refine ⟨_, rest', ?_, .onward fitting begun.short valid short due, bad⟩
      simpa only [List.append_assoc, List.cons_append] using parts
    · cases h
  · cases h

theorem stuck_of_readGroups_succ
    (first : ∀ cs, readRule depth cs = .error (.number fault) → RuleStuck cs)
    (others : ∀ cs, readGroups depth cs = .error (.number fault) → GroupsStuck cs)
    (h : readGroups (depth + 1) cs = .error (.number fault)) : GroupsStuck cs := by
  rw [readGroups] at h
  split at h
  · cases h
  rename_i rest₁ hopen
  obtain ⟨comma, rfl⟩ := openGroup?_eq_some hopen
  obtain h | ⟨⟨rule, rest₂⟩, hrule, h⟩ := bind_eq_error_iff.1 h
  · exact ⟨[], comma, rest₁, rfl, List.forall_mem_nil _, List.forall_mem_nil _, first _ h⟩
  obtain ⟨phrase, valid, short, -, hphrase⟩ := (exists_phrase depth).1 _ _ _ hrule
  dsimp only at h
  split at h
  · obtain h | ⟨_, _, h⟩ := bind_eq_error_iff.1 h
    · obtain ⟨groups, comma', rest, rfl, valids, shorts, stuck⟩ := others _ h
      refine ⟨(comma, phrase) :: groups, comma', rest, ?_, List.forall_mem_cons.2 ⟨valid, valids⟩,
        List.forall_mem_cons.2 ⟨short, shorts⟩, stuck⟩
      simp [groupsText, ← hphrase]
    · cases h
  · cases h

theorem stuck_of_read (depth : Nat) :
    (∀ cs, readRule depth cs = .error (.number fault) → RuleStuck cs) ∧
    (∀ cs, readGroups depth cs = .error (.number fault) → GroupsStuck cs) := by
  -- both at once: a rule reads its groups, and these their rules, from a smaller depth
  induction depth with
  | zero =>
    constructor
    · rintro cs ⟨⟩
    · rintro cs ⟨⟩
  | succ depth ih =>
    obtain ⟨ihRule, ihGroups⟩ := ih
    constructor
    · intro cs h
      exact stuck_of_readRule_succ ihGroups ihRule h
    · intro cs h
      exact stuck_of_readGroups_succ ihRule ihGroups h

theorem exists_readRule_error_iff (hdepth : cs.length < depth) :
    (∃ fault, readRule depth cs = .error (.number fault)) ↔ RuleStuck cs := by
  constructor
  · rintro ⟨fault, h⟩
    exact (stuck_of_read depth).1 cs h
  · rintro ⟨front, rest, rfl, due, bad⟩
    rw [List.length_append] at hdepth
    obtain ⟨fault, stuck⟩ := exists_readNumber?_error bad
    exact ⟨fault, readRule_of_numberDue due bad stuck (by omega)⟩

/-! ### Pieces -/

theorem RuleStuck.head?_ne (stuck : RuleStuck cs) : '(' ∉ cs.head? := by
  obtain ⟨front, rest, rfl, due, bad⟩ := stuck
  exact due.head?_ne bad

theorem stuck_of_readRules (h : readRules depth cs = .error (.number fault)) : PieceStuck cs := by
  induction depth generalizing cs with
  | zero => cases h
  | succ depth ih =>
    rw [readRules] at h
    obtain h | ⟨⟨rule, rest⟩, hrule, h⟩ := bind_eq_error_iff.1 h
    · exact ⟨[], cs, rfl, List.forall_mem_nil _, List.forall_mem_nil _, (stuck_of_read _).1 _ h⟩
    obtain ⟨phrase, valid, short, -, hphrase⟩ := (exists_phrase _).1 _ _ _ hrule
    dsimp only at h
    split at h
    · obtain h | ⟨_, _, h⟩ := bind_eq_error_iff.1 h
      · obtain ⟨phrases, rest, rfl, valids, shorts, stuck⟩ := ih h
        refine ⟨phrase :: phrases, rest, ?_, List.forall_mem_cons.2 ⟨valid, valids⟩,
          List.forall_mem_cons.2 ⟨short, shorts⟩, stuck⟩
        simp [← hphrase]
      · cases h
    · cases h

theorem readRules_of_stuck (valid : ∀ phrase ∈ phrases, phrase.Valid)
    (short : ∀ phrase ∈ phrases, phrase.Short) (stuck : RuleStuck rest)
    (hdepth : ((phrases.flatMap fun phrase => phrase.text ++ [',']) ++ rest).length < depth) :
    ∃ fault, readRules depth ((phrases.flatMap fun phrase => phrase.text ++ [',']) ++ rest) =
      .error (.number fault) := by
  induction phrases generalizing depth with
  | nil =>
    obtain _ | depth := depth
    · omega
    rw [List.flatMap_nil, List.nil_append] at hdepth ⊢
    obtain ⟨fault, hrule⟩ := (exists_readRule_error_iff hdepth).2 stuck
    refine ⟨fault, ?_⟩
    rw [readRules, hrule]
    rfl
  | cons phrase phrases ih =>
    obtain _ | depth := depth
    · omega
    obtain ⟨hphrase, hphrases⟩ := List.forall_mem_cons.1 valid
    obtain ⟨hshort, hshorts⟩ := List.forall_mem_cons.1 short
    simp only [List.flatMap_cons, List.append_assoc, List.cons_append, List.nil_append,
      List.length_append, List.length_cons] at hdepth ⊢
    -- what stands behind the comma is a rule, so the comma belongs to no group
    have apart : '(' ∉ ((phrases.flatMap fun phrase => phrase.text ++ [',']) ++ rest).head? := by
      cases phrases with
      | nil => exact stuck.head?_ne
      | cons phrase' phrases =>
        obtain ⟨c, cs, htext, hc⟩ := (hphrases phrase' List.mem_cons_self).exists_head
        simpa [htext] using hc
    have first : readRule (depth + 1) (phrase.text ++ ',' ::
        ((phrases.flatMap fun phrase => phrase.text ++ [',']) ++ rest)) = .ok (phrase.rule, ',' ::
          ((phrases.flatMap fun phrase => phrase.text ++ [',']) ++ rest)) :=
      hphrase.read hshort (.comma apart) (by omega)
    have shallow : ((phrases.flatMap fun phrase => phrase.text ++ [',']) ++ rest).length < depth := by
      rw [List.length_append]
      omega
    obtain ⟨fault, others⟩ := ih hphrases hshorts shallow
    refine ⟨fault, ?_⟩
    rw [readRules, first]
    simp only [bind, Except.bind, others]

theorem exists_readRules_error_iff (hdepth : cs.length < depth) :
    (∃ fault, readRules depth cs = .error (.number fault)) ↔ PieceStuck cs := by
  constructor
  · rintro ⟨fault, h⟩
    exact stuck_of_readRules h
  · rintro ⟨phrases, rest, rfl, valid, short, stuck⟩
    exact readRules_of_stuck valid short stuck hdepth

/-! ### Numbers that are too long -/

theorem groupsText_append (groups groups' : List (Bool × Phrase)) :
    groupsText (groups ++ groups') = groupsText groups ++ groupsText groups' := by
  induction groups with
  | nil => rfl
  | cons g groups ih =>
    obtain ⟨comma, phrase⟩ := g
    simp [groupsText, ih]

theorem pieceText_append_cons (before : List Phrase) (phrase : Phrase) (after : List Phrase) :
    (before.flatMap fun phrase => phrase.text ++ [',']) ++ pieceText (phrase :: after) =
      pieceText (before ++ phrase :: after) := by
  induction before with
  | nil => rfl
  | cons phrase' before ih =>
    rw [List.cons_append, pieceText_cons phrase' (by simp), ← ih]
    simp

/-- The text of a distance with a number that is too long gets stuck at the first one. -/
theorem Fitting.ruleStuck (fitting : Fitting modifiers measure headings groups)
    (long : ¬ measure.Short) (stop : ∀ c ∈ rest.head?, c ∈ signs ∨ c ∈ stops) :
    RuleStuck (modifiers ++ (measure.text ++ rest)) := by
  have noDigit : ∀ c ∈ rest.head?, ¬ Text.isDigit c := by
    have apart : ∀ c ∈ signs ++ stops, ¬ Text.isDigit c := List.all_iff_forall_prop.1 rfl
    exact fun c hc => apart c (List.mem_append.2 (stop c hc))
  have bad : ∀ {digits rest : List Char}, Text.IsNumeral digits → ¬ Text.Short digits →
      (∀ c ∈ rest.head?, ¬ Text.isDigit c) → Misnumbered (digits ++ rest) := by
    intro digits rest numeral long stop
    rw [Misnumbered, takeWhile_run numeral.isDigit stop]
    exact ⟨numeral.1, fun h => long h.2⟩
  have valid := fitting.measured
  have first := NumberDue.first fitting.modifying
  have second : ∀ {digits digits' : List Char} {sign : Char}, sign ∈ ['-', '/'] →
      Text.IsNumeral digits → Text.IsNumeral digits' → ¬ (Text.Short digits ∧ Text.Short digits') →
      RuleStuck (modifiers ++ (digits ++ sign :: digits' ++ rest)) := by
    intro digits digits' sign separates numeral numeral' long
    have noDigit' : ¬ Text.isDigit sign := by
      have apart : ∀ c ∈ ['-', '/'], ¬ Text.isDigit c := List.all_iff_forall_prop.1 rfl
      exact apart sign separates
    by_cases short : Text.Short digits
    · refine ⟨_, digits' ++ rest, ?_, .second fitting.modifying numeral short separates,
        bad numeral' (fun short' => long ⟨short, short'⟩) noDigit⟩
      simp
    · refine ⟨_, _, rfl, first, ?_⟩
      rw [List.append_assoc]
      exact bad numeral short (by simpa using noDigit')
  cases measure with
  | any => exact absurd trivial long
  | exact digits => exact ⟨_, _, rfl, first, bad valid.1 long noDigit⟩
  | range low high => exact second (by simp) valid.1 valid.2.1 long
  | leap low high => exact second (by simp) valid.1 valid.2.1 long

theorem Phrase.Valid.ruleStuck (valid : phrase.Valid) (long : ¬ phrase.Short) (closes : Closes rest) :
    RuleStuck (phrase.text ++ rest) := by
  induction valid generalizing rest with
  | @mk modifiers measure headings groups next fitting grouped onward ihGroups ihNext =>
    simp only [text, List.append_assoc]
    by_cases measured : measure.Short
    swap
    · exact fitting.ruleStuck measured (head?_behind fitting.tokens closes)
    by_cases shorts : ∀ g ∈ groups, g.2.Short
    · -- what is too long stands behind the point
      cases next with
      | none => exact absurd (.mk measured shorts fun _ h => by cases h) long
      | some phrase =>
        have long' : ¬ phrase.Short := fun short =>
          long (.mk measured shorts fun _ h => Option.some.inj h ▸ short)
        obtain ⟨front, behind, htext, due, bad⟩ := ihNext phrase rfl long' closes
        refine ⟨_, behind, ?_, .onward fitting measured grouped shorts due, bad⟩
        simp [nextText, htext]
    · obtain ⟨before, ⟨comma, phrase⟩, after, rfl, hbefore, hphrase⟩ :=
        exists_first_not (p := fun g : Bool × Phrase => g.2.Short) shorts
      have hmem : (comma, phrase) ∈ before ++ (comma, phrase) :: after := by simp
      have closed : Closes (')' :: (groupsText after ++ (nextText next ++ rest))) := .parenthesis
      obtain ⟨front, behind, htext, due, bad⟩ := ihGroups _ hmem hphrase closed
      refine ⟨_, behind, ?_, .grouped comma (fitting.begun measured)
        (fun g hg => grouped g (List.mem_append_left _ hg)) hbefore due, bad⟩
      simp [groupsText_append, groupsText, htext]

/-- A derivation with a number that is too long is one of a text that gets stuck. -/
theorem Derives.pieceStuck (derives : Derives phrases cs) (long : ¬ ∀ phrase ∈ phrases, phrase.Short) :
    PieceStuck cs := by
  obtain ⟨-, valid, rfl⟩ := derives
  obtain ⟨before, phrase, after, rfl, hbefore, hphrase⟩ := exists_first_not long
  have hvalid : ∀ phrase' ∈ before, phrase'.Valid := fun _ h => valid _ (List.mem_append_left _ h)
  obtain ⟨hvalid', hafter⟩ := List.forall_mem_cons.1 (List.forall_mem_append.1 valid).2
  obtain ⟨rest, closes, htext, -⟩ := exists_behind phrase hafter
  refine ⟨before, pieceText (phrase :: after), ?_, hvalid, hbefore, ?_⟩
  · rw [pieceText_append_cons]
  · rw [htext]
    exact hvalid'.ruleStuck hphrase closes

/-! ### What is wrong with the digits -/

theorem RuleStuck.undecimal_or_overlong (stuck : RuleStuck cs) : Text.Undecimal cs ∨ Text.Overlong cs := by
  obtain ⟨front, rest, rfl, -, bad⟩ := stuck
  exact bad.undecimal_or_overlong.imp (fun bad => bad.mono (List.subset_append_right front rest))
    fun long => long.mono (List.suffix_append front rest).isInfix

theorem PieceStuck.undecimal_or_overlong (stuck : PieceStuck cs) :
    Text.Undecimal cs ∨ Text.Overlong cs := by
  obtain ⟨phrases, rest, rfl, -, -, stuck⟩ := stuck
  exact stuck.undecimal_or_overlong.imp (fun bad => bad.mono (List.subset_append_right _ rest))
    fun long => long.mono (List.suffix_append _ rest).isInfix

/-! ### Whole texts -/

theorem RuleStuck.ne_nil (stuck : RuleStuck cs) : cs ≠ [] := by
  obtain ⟨front, rest, rfl, -, bad⟩ := stuck
  obtain ⟨c, rest, rfl, -⟩ := bad.exists_head
  simp

theorem PieceStuck.ne_nil (stuck : PieceStuck cs) : cs ≠ [] := by
  obtain ⟨phrases, rest, rfl, -, -, stuck⟩ := stuck
  simpa using fun _ => stuck.ne_nil

/-- What is left behind the last rule is refused with its place, and so is the empty text. -/
theorem compileWith_eq_number_iff {α : Type} {read : Nat → List Char → Reading (α × List Char)}
    {text : String} : compileWith read text = .error (.number fault) ↔
      text.toList ≠ [] ∧ read (text.toList.length + 1) text.toList = .error (.number fault) := by
  rw [compileWith]
  split
  · rename_i hnil
    simp [hnil]
  · rename_i hne
    rw [and_iff_right hne]
    rcases read (text.toList.length + 1) text.toList with (_ | _) | ⟨a, _ | ⟨c, rest⟩⟩ <;>
      simp [Except.bind, Except.mapError, Refusal.within, toEnd]

theorem exists_compileRule_number_iff {text : String} :
    (∃ fault, compileRule text = .error (.number fault)) ↔ RuleStuck text.toList := by
  simp only [compileRule, compileWith_eq_number_iff, exists_and_left]
  rw [exists_readRule_error_iff (Nat.lt_succ_self _)]
  exact and_iff_right_of_imp RuleStuck.ne_nil

theorem exists_compilePiece_number_iff {text : String} :
    (∃ fault, compilePiece text = .error (.number fault)) ↔ PieceStuck text.toList := by
  simp only [compilePiece, compileWith_eq_number_iff, exists_and_left]
  rw [exists_readRules_error_iff (Nat.lt_succ_self _)]
  exact and_iff_right_of_imp PieceStuck.ne_nil

end VariantChess.Movement
