import Mathlib.Data.List.TakeWhile
import VariantChess.Proofs.Movement.Parts

/-!
# Reading what the grammar derives

`Phrase.Valid.read`: a rule that is written by the grammar, and in which no number is too long, is read
whole and denotes what is read, as long as what stands behind it closes it. `exists_phrase` is the
converse, whatever stands behind. The
rule that is open takes a group behind a comma as well; no rule begins with a parenthesis, so a comma
that separates two rules is never taken for one of these.
-/

namespace VariantChess.Movement

open Text (takeWhile_run dropWhile_run)

variable {depth : Nat} {cs rest : List Char} {phrase : Phrase} {phrases : List Phrase}
  {groups : List (Bool × Phrase)} {next : Option Phrase}

/-! ### What is written is read -/

theorem openGroup?_groupsText (comma : Bool) (phrase : Phrase) (groups : List (Bool × Phrase))
    (rest : List Char) : openGroup? (groupsText ((comma, phrase) :: groups) ++ rest) =
      some (phrase.text ++ ')' :: (groupsText groups ++ rest)) := by
  cases comma <;> simp [groupsText, openGroup?]

theorem openGroup?_eq_some (h : openGroup? cs = some rest) :
    ∃ comma : Bool, cs = (if comma then [','] else []) ++ '(' :: rest := by
  rw [openGroup?.eq_def] at h
  split at h
  · cases h
    exact ⟨false, rfl⟩
  · cases h
    exact ⟨true, rfl⟩
  · cases h

/-- No group begins where a rule ends or goes on. -/
theorem openGroup?_nextText (closes : Closes rest) : openGroup? (nextText next ++ rest) = none := by
  cases next with
  | some phrase => rfl
  | none =>
    cases closes with
    | done => rfl
    | parenthesis => rfl
    | @comma rest apart =>
      cases rest with
      | nil => rfl
      | cons c rest =>
        rw [nextText, List.nil_append, openGroup?.eq_3]
        · rintro cs ⟨⟩
        · rintro cs ⟨⟩
          exact apart rfl

/-- The rule is read in front of all that closes it, at every depth beyond the length of its text. -/
def Phrase.Read (phrase : Phrase) : Prop :=
  ∀ {rest : List Char} {depth : Nat}, Closes rest → phrase.text.length < depth →
    readRule depth (phrase.text ++ rest) = .ok (phrase.rule, rest)

theorem readGroups_text (read : ∀ g ∈ groups, g.2.Read) (stop : openGroup? rest = none)
    (hdepth : (groupsText groups).length < depth) :
    readGroups depth (groupsText groups ++ rest) = .ok (groupRules groups, rest) := by
  induction groups generalizing depth with
  | nil =>
    obtain ⟨depth, rfl⟩ := Nat.exists_eq_add_of_lt hdepth
    rw [groupsText, List.nil_append, readGroups, stop]
    rfl
  | cons g groups ih =>
    obtain ⟨comma, phrase⟩ := g
    obtain ⟨hphrase, hgroups⟩ := List.forall_mem_cons.1 read
    obtain _ | depth := depth
    · omega
    -- the parentheses make up for the depth that the group and those behind it lose
    simp only [groupsText, List.length_append, List.length_cons] at hdepth
    have hphrase : readRule depth (phrase.text ++ ')' :: (groupsText groups ++ rest)) =
        .ok (phrase.rule, ')' :: (groupsText groups ++ rest)) := hphrase .parenthesis
        (show phrase.text.length < depth by omega)
    have hgroups : readGroups depth (groupsText groups ++ rest) = .ok (groupRules groups, rest) :=
      ih hgroups (by omega)
    rw [readGroups, openGroup?_groupsText]
    simp only [bind, Except.bind, hphrase, hgroups, groupRules]

theorem Phrase.Valid.read (valid : phrase.Valid) (short : phrase.Short) : phrase.Read := by
  induction valid with
  | @mk modifiers measure headings groups next fitting _ _ ihGroups ihNext =>
    obtain ⟨shortMeasure, shortGroups, shortNext⟩ := short
    intro rest depth closes hdepth
    obtain _ | depth := depth
    · omega
    have measured : 0 < measure.text.length := by
      obtain ⟨c, cs, htext, -⟩ := fitting.measured.exists_head
      simp [htext]
    simp only [text, List.length_append] at hdepth
    have bare : ∀ c ∈ (measure.text ++ (headingsText headings ++
        (groupsText groups ++ (nextText next ++ rest)))).head?, ¬ isModifier c :=
      fitting.measured.not_isModifier
    simp only [text, List.append_assoc, Phrase.rule, ← ofModifiers_eq_describedLeg]
    refine readRule_of (takeWhile_run fitting.isModifier bare) (dropWhile_run fitting.isModifier bare)
      (readDistance_text fitting.measured shortMeasure (head?_behind fitting.tokens closes))
      (readHeadings_text fitting.tokens fitting.longest (head?_groupsText closes))
      (headingsFor_eq_some_iff.2 ⟨fitting.leap, rfl⟩)
      (readGroups_text (fun g hg => ihGroups g hg (shortGroups g hg)) (openGroup?_nextText closes)
        (by omega))
      (directed_iff.2 fitting.directed) fitting.consistent ?_
    cases next with
    | none =>
      refine .inl ⟨rfl, rfl, ?_⟩
      rintro rest₄ rfl
      cases closes
    | some phrase =>
      simp only [nextText, List.length_cons] at hdepth
      exact .inr ⟨_, phrase.text ++ rest, rfl, rfl,
        ihNext phrase rfl (shortNext phrase rfl) closes (by omega)⟩

/-! ### What is read was written -/

/-- A rule and a list of groups that have been read were written by the grammar. Both take what is
inside them from a smaller depth, on which the induction is. -/
theorem exists_phrase (depth : Nat) :
    (∀ cs rule rest, readRule depth cs = .ok (rule, rest) →
      ∃ phrase : Phrase, phrase.Valid ∧ phrase.Short ∧ phrase.rule = rule ∧ phrase.text ++ rest = cs) ∧
    (∀ cs rules rest, readGroups depth cs = .ok (rules, rest) →
      ∃ groups : List (Bool × Phrase), (∀ g ∈ groups, g.2.Valid) ∧ (∀ g ∈ groups, g.2.Short) ∧
        groupRules groups = rules ∧ groupsText groups ++ rest = cs) := by
  induction depth with
  | zero =>
    refine ⟨nofun, ?_⟩
    rintro cs rules rest ⟨⟩
    exact ⟨[], by simp, by simp, rfl, rfl⟩
  | succ depth ih =>
    obtain ⟨ihRule, ihGroups⟩ := ih
    constructor
    · intro cs rule rest h
      obtain ⟨distance, rest₁, headings, groupRules, rest₂, next, hdistance, hheadings, hgroups, directed,
        consistent, rfl, onward⟩ := readRule_inv h
      obtain ⟨measure, measured, shortMeasure, rfl, hmeasure⟩ := exists_measure hdistance
      obtain ⟨leap, rfl⟩ := headingsFor_eq_some_iff.1 hheadings
      obtain ⟨groups, grouped, shortGroups, rfl, behind⟩ := ihGroups _ _ _ hgroups
      have fitting : Fitting (cs.takeWhile isModifier) measure (readHeadings rest₁).1 groups :=
        { modifying := fun c hc => isModifier_iff.1 (List.mem_takeWhile_imp hc)
          measured := measured
          tokens := hippogonal_notMem_readHeadings rest₁
          longest := longest_readHeadings rest₁
          leap := leap
          directed := directed_iff.1 directed
          consistent := consistent }
      obtain ⟨next', further, shortNext, rfl, hnext⟩ : ∃ next' : Option Phrase,
          (∀ phrase, next' = some phrase → phrase.Valid) ∧
            (∀ phrase, next' = some phrase → phrase.Short) ∧ nextRule next' = next ∧
            nextText next' ++ rest = rest₂ := by
        obtain ⟨rfl, rfl, -⟩ | ⟨t, rest₃, rfl, rfl, ht⟩ := onward
        · exact ⟨none, nofun, nofun, rfl, rfl⟩
        · obtain ⟨phrase, valid, short, rfl, rfl⟩ := ihRule _ _ _ ht
          exact ⟨some phrase, fun _ h => Option.some.inj h ▸ valid, fun _ h => Option.some.inj h ▸ short,
            rfl, rfl⟩
      refine ⟨.mk _ measure _ groups next', .mk fitting grouped further,
        .mk shortMeasure shortGroups shortNext, ?_, ?_⟩
      · rw [Phrase.rule, ofModifiers_eq_describedLeg]
      · simp only [Phrase.text, List.append_assoc]
        rw [hnext, behind, headingsText_readHeadings, hmeasure, List.takeWhile_append_dropWhile]
    · intro cs rules rest h
      obtain ⟨-, rfl, rfl⟩ | ⟨rest₁, rule, rest₂, rules', hopen, hrule, hrules, rfl⟩ := readGroups_inv h
      · exact ⟨[], by simp, by simp, rfl, rfl⟩
      obtain ⟨phrase, valid, short, rfl, rfl⟩ := ihRule _ _ _ hrule
      obtain ⟨groups, grouped, shortGroups, rfl, rfl⟩ := ihGroups _ _ _ hrules
      obtain ⟨comma, hcomma⟩ := openGroup?_eq_some hopen
      refine ⟨(comma, phrase) :: groups, List.forall_mem_cons.2 ⟨valid, grouped⟩,
        List.forall_mem_cons.2 ⟨short, shortGroups⟩, rfl, ?_⟩
      simp [groupsText, hcomma]

/-! ### Pieces -/

theorem pieceText_cons (phrase : Phrase) (ne_nil : phrases ≠ []) :
    pieceText (phrase :: phrases) = phrase.text ++ ',' :: pieceText phrases := by
  obtain ⟨phrase', phrases, rfl⟩ := List.exists_cons_of_ne_nil ne_nil
  simp [pieceText, List.intercalate]

theorem pieceText_singleton (phrase : Phrase) : pieceText [phrase] = phrase.text := by
  simp [pieceText, List.intercalate]

/-- What stands behind the first rule of a piece closes it: no rule begins with a parenthesis. -/
theorem exists_behind (phrase : Phrase) (valid : ∀ phrase ∈ phrases, phrase.Valid) :
    ∃ rest, Closes rest ∧ pieceText (phrase :: phrases) = phrase.text ++ rest ∧
      (phrases = [] ∧ rest = [] ∨ phrases ≠ [] ∧ rest = ',' :: pieceText phrases) := by
  cases phrases with
  | nil => exact ⟨[], .done, by rw [pieceText_singleton, List.append_nil], .inl ⟨rfl, rfl⟩⟩
  | cons phrase' phrases =>
    refine ⟨_, .comma ?_, pieceText_cons phrase (by simp), .inr ⟨by simp, rfl⟩⟩
    obtain ⟨c, cs, htext, hc⟩ := (valid phrase' List.mem_cons_self).exists_head
    by_cases more : phrases = []
    · simpa [more, pieceText_singleton, htext] using hc
    · simpa [pieceText_cons phrase' more, htext] using hc

theorem readRules_text (ne_nil : phrases ≠ []) (valid : ∀ phrase ∈ phrases, phrase.Valid)
    (short : ∀ phrase ∈ phrases, phrase.Short) (hdepth : (pieceText phrases).length < depth) :
    readRules depth (pieceText phrases) = .ok (phrases.map Phrase.rule, []) := by
  induction phrases generalizing depth with
  | nil => exact absurd rfl ne_nil
  | cons phrase phrases ih =>
    obtain ⟨hphrase, hphrases⟩ := List.forall_mem_cons.1 valid
    obtain ⟨hshort, hshorts⟩ := List.forall_mem_cons.1 short
    obtain ⟨rest, closes, htext, more⟩ := exists_behind phrase hphrases
    obtain _ | depth := depth
    · omega
    rw [htext, List.length_append] at hdepth
    have hread : readRule (depth + 1) (phrase.text ++ rest) = .ok (phrase.rule, rest) :=
      hphrase.read hshort closes (by omega)
    rw [htext, readRules, hread]
    obtain ⟨rfl, rfl⟩ | ⟨more, rfl⟩ := more
    · rfl
    · rw [List.length_cons] at hdepth
      have hmore : readRules depth (pieceText phrases) = .ok (phrases.map Phrase.rule, []) :=
        ih more hphrases hshorts (by omega)
      simp [bind, Except.bind, hmore]

theorem exists_phrases {rules : List Rule} (h : readRules depth cs = .ok (rules, rest)) :
    ∃ phrases, phrases ≠ [] ∧ (∀ phrase ∈ phrases, phrase.Valid) ∧ (∀ phrase ∈ phrases, phrase.Short) ∧
      phrases.map Phrase.rule = rules ∧ pieceText phrases ++ rest = cs := by
  induction depth generalizing cs rules with
  | zero => cases h
  | succ depth ih =>
    obtain ⟨rule, rest₁, hrule, hrules⟩ := readRules_inv h
    obtain ⟨phrase, valid, short, rfl, rfl⟩ := (exists_phrase (depth + 1)).1 _ _ _ hrule
    obtain ⟨rfl, rfl, -⟩ | ⟨rules', rest₂, rfl, rfl, hrules⟩ := hrules
    · exact ⟨[phrase], by simp, by simpa using valid, by simpa using short, rfl,
        by rw [pieceText_singleton]⟩
    · obtain ⟨phrases, ne_nil, valids, shorts, rfl, rfl⟩ := ih hrules
      refine ⟨phrase :: phrases, by simp, List.forall_mem_cons.2 ⟨valid, valids⟩,
        List.forall_mem_cons.2 ⟨short, shorts⟩, rfl, ?_⟩
      simp [pieceText_cons phrase ne_nil]

end VariantChess.Movement
