import Mathlib.Data.Set.List
import VariantChess.Proofs.Movement.Compilation

/-!
# Pieces, segment by segment

The text of a piece can be cut before any of it is read: at each comma that is outside of all parentheses
and has none that opens directly behind it (`segments`). The text is compiled if and only if each segment
is compiled as a rule, and then to these rules in their order (`compilePiece_by_segments`). What carries
this is that a rule written by the grammar is left in one piece, at whatever depth it stands (`Uncut`): its
parentheses are balanced, and its commas stand in front of its groups.
-/

namespace VariantChess.Movement

/-! ### Cutting -/

/-- How many more parentheses are open behind the character than in front of it. -/
def nesting (c : Char) : Int := if c = '(' then 1 else if c = ')' then -1 else 0

/-- The parts between the commas that are outside of all parentheses and have none behind them; `depth`
is how many parentheses are open in front of the text. -/
def cut (depth : Int) : List Char → List (List Char)
  | [] => [[]]
  | c :: cs =>
    if c = ',' ∧ depth = 0 ∧ '(' ∉ cs.head? then [] :: cut depth cs
    else (cut (depth + nesting c) cs).modifyHead (c :: ·)

/-- The segments of the text of a piece. -/
def segments (text : String) : List String := (cut 0 text.toList).map String.ofList

variable {depth : Int} {front behind cs : List Char} {c : Char} {phrase : Phrase}
  {phrases phrases' : List Phrase} {rules : List Rule}

theorem cut_ne_nil (depth : Int) (cs : List Char) : cut depth cs ≠ [] := by
  induction cs generalizing depth with
  | nil => exact List.cons_ne_nil _ _
  | cons c cs ih =>
    rw [cut]
    split
    · exact List.cons_ne_nil _ _
    · simpa using ih _

/-- Nothing but the commas is lost. -/
theorem intercalate_cut (depth : Int) (cs : List Char) : [','].intercalate (cut depth cs) = cs := by
  induction cs generalizing depth with
  | nil => rfl
  | cons c cs ih =>
    rw [cut]
    split
    · rename_i comma
      obtain ⟨part, parts, hparts⟩ := List.exists_cons_of_ne_nil (cut_ne_nil depth cs)
      rw [hparts, List.intercalate_cons_cons, ← hparts, ih, comma.1]
      rfl
    · have rest := ih (depth + nesting c)
      obtain ⟨part, parts, hparts⟩ := List.exists_cons_of_ne_nil (cut_ne_nil (depth + nesting c) cs)
      rw [hparts] at rest ⊢
      rw [← rest]
      cases parts <;> simp [List.intercalate]

/-! ### What is left in one piece -/

/-- The characters that the cut pays attention to. -/
def marks : List Char := [',', '(', ')']

/-- The cut goes past this text, at whatever depth it stands and whatever stands behind it. -/
def Uncut (front : List Char) : Prop :=
  ∀ depth behind, cut depth (front ++ behind) = (cut depth behind).modifyHead (front ++ ·)

namespace Uncut

theorem nil : Uncut [] := fun _ _ => (congrFun List.modifyHead_id _).symm

theorem append (h : Uncut front) (h' : Uncut behind) : Uncut (front ++ behind) := by
  intro depth rest
  rw [List.append_assoc, h, h', List.modifyHead_modifyHead]
  simp only [Function.comp_def, List.append_assoc]

theorem of_plain (plain : ∀ c ∈ front, c ∉ marks) : Uncut front := by
  induction front with
  | nil => exact nil
  | cons c front ih =>
    obtain ⟨hc, hfront⟩ := List.forall_mem_cons.1 plain
    simp only [marks, List.mem_cons, List.not_mem_nil, or_false, not_or] at hc
    intro depth behind
    have level : depth + nesting c = depth := by simp [nesting, hc]
    rw [List.cons_append, cut, if_neg (fun h => hc.1 h.1), level, ih hfront, List.modifyHead_modifyHead]
    rfl

/-- Neither does it cut at the comma in front of a group, nor inside a group that it would not cut
elsewhere. -/
theorem group (h : Uncut front) (comma : Bool) :
    Uncut ((if comma then [','] else []) ++ '(' :: (front ++ [')'])) := by
  have parenthesized : Uncut ('(' :: (front ++ [')'])) := by
    intro depth behind
    have level : depth + nesting '(' + nesting ')' = depth := Int.add_neg_cancel_right depth 1
    simp [cut, h _ _, level, Function.comp_def]
  cases comma with
  | false => exact parenthesized
  | true =>
    intro depth behind
    have shown : (true = true) := rfl
    rw [if_pos shown, List.singleton_append, List.cons_append, cut, if_neg (fun h => h.2.2 rfl),
      show depth + nesting ',' = depth from Int.add_zero depth, parenthesized, List.modifyHead_modifyHead]
    rfl

end Uncut

theorem Measure.Valid.uncut {measure : Measure} (valid : measure.Valid) : Uncut measure.text := by
  have digits : ∀ {digits : List Char}, Text.IsNumeral digits → Uncut digits := by
    intro digits numeral
    have apart : ∀ c ∈ marks, ¬ Text.isDigit c := List.all_iff_forall_prop.1 rfl
    exact .of_plain fun c hc hmark => apart c hmark (numeral.isDigit c hc)
  have sign : ∀ {c : Char}, c ∉ marks → Uncut [c] := fun hc => .of_plain (by simpa using hc)
  cases measure with
  | any => exact sign (by decide)
  | exact n => exact digits valid.1
  | range low high => exact (digits valid.1).append ((sign (c := '-') (by decide)).append (digits valid.2.1))
  | leap long wide => exact (digits valid.1).append ((sign (c := '/') (by decide)).append (digits valid.2.1))

theorem uncut_headingsText (headings : List Heading) : Uncut (headingsText headings) := by
  refine .of_plain fun c hc => ?_
  obtain ⟨h, -, htoken⟩ := List.mem_flatMap.1 hc
  have plain : ∀ h : Heading, ∀ c ∈ h.token.toList, c ∉ marks := by
    intro h
    cases h <;> exact List.all_iff_forall_prop.1 rfl
  exact plain h c htoken

theorem uncut_groupsText {groups : List (Bool × Phrase)} (uncut : ∀ g ∈ groups, Uncut g.2.text) :
    Uncut (groupsText groups) := by
  induction groups with
  | nil => exact .nil
  | cons g groups ih =>
    obtain ⟨comma, phrase⟩ := g
    obtain ⟨hphrase, hgroups⟩ := List.forall_mem_cons.1 uncut
    simpa [groupsText] using (hphrase.group comma).append (ih hgroups)

/-- A rule that is written by the grammar is left in one piece. -/
theorem Phrase.Valid.uncut (valid : phrase.Valid) : Uncut phrase.text := by
  induction valid with
  | @mk modifiers measure headings groups next fitting _ _ ihGroups ihNext =>
    have modifying : Uncut modifiers := by
      have apart : ∀ c ∈ ['i', 'c', 'o', '&', '~', '^'], c ∉ marks := List.all_iff_forall_prop.1 rfl
      exact .of_plain fun c hc => apart c (fitting.modifying c hc)
    have onward : Uncut (nextText next) := by
      cases next with
      | none => exact .nil
      | some phrase =>
        have point : Uncut ['.'] := .of_plain (List.forall_mem_singleton.2 (by decide))
        exact point.append (ihNext phrase rfl)
    rw [Phrase.text]
    exact modifying.append (fitting.measured.uncut.append
      ((uncut_headingsText headings).append ((uncut_groupsText ihGroups).append onward)))

/-- The text of a piece is cut into the texts of its rules. -/
theorem cut_pieceText (ne_nil : phrases ≠ []) (valid : ∀ phrase ∈ phrases, phrase.Valid) :
    cut 0 (pieceText phrases) = phrases.map Phrase.text := by
  induction phrases with
  | nil => exact absurd rfl ne_nil
  | cons phrase phrases ih =>
    obtain ⟨hphrase, hphrases⟩ := List.forall_mem_cons.1 valid
    obtain ⟨rest, closes, htext, ⟨rfl, rfl⟩ | ⟨more, rfl⟩⟩ := exists_behind phrase hphrases
    · rw [htext, hphrase.uncut]
      simp [cut]
    · -- no rule begins with a parenthesis, so the comma behind the first one does not go with a group
      cases closes with
      | comma apart =>
        rw [htext, hphrase.uncut, cut, if_pos ⟨rfl, rfl, apart⟩, ih more hphrases]
        simp

/-! ### Segment by segment -/

theorem pieceText_append (ne_nil : phrases ≠ []) (ne_nil' : phrases' ≠ []) :
    pieceText (phrases ++ phrases') = pieceText phrases ++ ',' :: pieceText phrases' := by
  induction phrases with
  | nil => exact absurd rfl ne_nil
  | cons phrase phrases ih =>
    by_cases more : phrases = []
    · rw [more, List.singleton_append, pieceText_cons phrase ne_nil', pieceText_singleton]
    · rw [List.cons_append, pieceText_cons phrase (by simp [more]), ih more, pieceText_cons phrase more,
        List.append_assoc, List.cons_append]

theorem Derives.append {text text' : List Char} (derives : Derives phrases text)
    (derives' : Derives phrases' text') : Derives (phrases ++ phrases') (text ++ ',' :: text') := by
  obtain ⟨ne_nil, valid, rfl⟩ := derives
  obtain ⟨ne_nil', valid', rfl⟩ := derives'
  exact ⟨by simp [ne_nil], List.forall_mem_append.2 ⟨valid, valid'⟩, pieceText_append ne_nil ne_nil'⟩

/-- Parts that are compiled one by one are the texts of rules that are written by the grammar. -/
theorem exists_phrases_of_map {parts : List (List Char)}
    (h : parts.map (fun part => compileRule (String.ofList part)) = rules.map .ok) :
    ∃ phrases : List Phrase, (∀ phrase ∈ phrases, phrase.Valid) ∧ (∀ phrase ∈ phrases, phrase.Short) ∧
      phrases.map Phrase.text = parts ∧ phrases.map Phrase.rule = rules := by
  induction parts generalizing rules with
  | nil =>
    obtain rfl : rules = [] := by simpa using h.symm
    exact ⟨[], List.forall_mem_nil _, List.forall_mem_nil _, rfl, rfl⟩
  | cons part parts ih =>
    obtain ⟨rule, rules, rfl⟩ : ∃ rule rules', rules = rule :: rules' :=
      List.exists_cons_of_ne_nil (by rintro rfl; simp at h)
    obtain ⟨hrule, hrules⟩ := List.cons.inj h
    obtain ⟨phrase, valid, short, htext, rfl⟩ := compileRule_eq_ok_iff.1 hrule
    obtain ⟨phrases, valids, shorts, rfl, rfl⟩ := ih hrules
    refine ⟨phrase :: phrases, List.forall_mem_cons.2 ⟨valid, valids⟩,
      List.forall_mem_cons.2 ⟨short, shorts⟩, ?_, rfl⟩
    rw [List.map_cons, htext, String.toList_ofList]

theorem compilePiece_eq_ok_iff_map {text : String} :
    compilePiece text = .ok rules ↔ (segments text).map compileRule = rules.map .ok := by
  rw [segments, List.map_map]
  constructor
  · intro h
    obtain ⟨phrases, ⟨ne_nil, valid, htext⟩, short, rfl⟩ := compilePiece_eq_ok_iff.1 h
    rw [← htext, cut_pieceText ne_nil valid, List.map_map, List.map_map]
    refine List.map_congr_left fun phrase hphrase => ?_
    exact compileRule_eq_ok_iff.2
      ⟨phrase, valid phrase hphrase, short phrase hphrase, String.toList_ofList.symm, rfl⟩
  · intro h
    obtain ⟨phrases, valid, short, hparts, rfl⟩ := exists_phrases_of_map h
    refine compilePiece_eq_ok_iff.2 ⟨phrases, ⟨?_, valid, ?_⟩, short, rfl⟩
    · rintro rfl
      exact cut_ne_nil 0 text.toList hparts.symm
    · rw [pieceText, hparts, intercalate_cut]

/-- A piece is compiled if and only if each segment of its text is compiled as a rule, and then to these
rules in their order. So two pieces with a comma between them are compiled to the rules of the one and then
those of the other. -/
theorem compilePiece_by_segments (text : String) :
    ((∃ rules, compilePiece text = .ok rules) ↔
      ∀ segment ∈ segments text, ∃ rule, compileRule segment = .ok rule) ∧
    (∀ rules, compilePiece text = .ok rules ↔ (segments text).map compileRule = rules.map .ok) ∧
    ∀ text' rules rules', compilePiece text = .ok rules → compilePiece text' = .ok rules' →
      compilePiece (text ++ "," ++ text') = .ok (rules ++ rules') := by
  refine ⟨?_, fun rules => compilePiece_eq_ok_iff_map, fun text' rules rules' h h' => ?_⟩
  · have compiled := Set.ext_iff.1 (Set.range_list_map (Except.ok : Rule → Except (NotationError Fault) Rule))
      ((segments text).map compileRule)
    rw [Set.mem_ofPred_eq, List.forall_mem_map] at compiled
    simp only [compilePiece_eq_ok_iff_map]
    constructor
    · rintro ⟨rules, h⟩ segment hsegment
      obtain ⟨rule, hrule⟩ := compiled.1 ⟨rules, h.symm⟩ segment hsegment
      exact ⟨rule, hrule.symm⟩
    · intro h
      obtain ⟨rules, hrules⟩ := compiled.2 fun segment hsegment =>
        (h segment hsegment).imp fun _ hrule => hrule.symm
      exact ⟨rules, hrules.symm⟩
  · obtain ⟨phrases, derives, short, rfl⟩ := compilePiece_eq_ok_iff.1 h
    obtain ⟨phrases', derives', short', rfl⟩ := compilePiece_eq_ok_iff.1 h'
    refine compilePiece_eq_ok_iff.2
      ⟨phrases ++ phrases', ?_, List.forall_mem_append.2 ⟨short, short'⟩, List.map_append⟩
    simpa using derives.append derives'

/-- The commas in front of the groups do not cut, at the top or inside, so that there are two rules. -/
theorem compilePiece_by_segments_gryphon :
    segments "1X,(2>(o1=,(n+))).n+,~1/2" = ["1X,(2>(o1=,(n+))).n+", "~1/2"] ∧
    ∃ rules rules', rules.length = 2 ∧ compilePiece "1X,(2>(o1=,(n+))).n+,~1/2" = .ok rules ∧
      (segments "1X,(2>(o1=,(n+))).n+,~1/2").map compileRule = rules.map .ok ∧
      compilePiece "^n*" = .ok rules' ∧
      compilePiece ("1X,(2>(o1=,(n+))).n+,~1/2" ++ "," ++ "^n*") = .ok (rules ++ rules') := by
  obtain ⟨rules, h, two⟩ : ∃ rules, compilePiece "1X,(2>(o1=,(n+))).n+,~1/2" = .ok rules ∧
      rules.length = 2 := ⟨_, rfl, rfl⟩
  obtain ⟨rules', h'⟩ : ∃ rules', compilePiece "^n*" = .ok rules' := ⟨_, rfl⟩
  obtain ⟨-, whole, joined⟩ := compilePiece_by_segments "1X,(2>(o1=,(n+))).n+,~1/2"
  exact ⟨by decide, rules, rules', two, h, (whole rules).1 h, h', joined "^n*" rules rules' h h'⟩

/-- Neither is it cut inside parentheses that are never closed. -/
example : segments "1(n+,nX,2+" = ["1(n+,nX,2+"] := by decide

end VariantChess.Movement
