import Mathlib.Tactic.SplitIfs
import VariantChess.Movement.Notation
import VariantChess.Proofs.Fallible

/-!
# What the readers of rules have read

A rule or a list of groups that has been read tells everything that was met on the way: the parts in
front, the guards that let them pass, and what was read one level deeper.
-/

namespace VariantChess.Movement

variable {depth : Nat} {cs rest : List Char}

theorem hippogonal_notMem_readHeadings (cs : List Char) : .hippogonal ∉ (readHeadings cs).1 := by
  fun_induction readHeadings cs <;> simp_all

theorem readRule_inv {rule : Rule} (h : readRule (depth + 1) cs = .ok (rule, rest)) :
    ∃ distance rest₁ headings groups rest₂ next,
      readDistance (cs.dropWhile isModifier) = .ok (distance, rest₁) ∧
      headingsFor distance (readHeadings rest₁).1 = some headings ∧
      readGroups depth (readHeadings rest₁).2 = .ok (groups, rest₂) ∧
      ¬ (headings = [] ∧ groups = []) ∧
      ¬ ('c' ∈ cs.takeWhile isModifier ∧ 'o' ∈ cs.takeWhile isModifier) ∧
      rule = .mk (Leg.ofModifiers (cs.takeWhile isModifier) distance)
        (headings.map .heading ++ groups.map .group) next ∧
      (next = none ∧ rest = rest₂ ∧ (∀ rest₃, rest₂ ≠ '.' :: rest₃) ∨
        ∃ t rest₃, next = some t ∧ rest₂ = '.' :: rest₃ ∧ readRule depth rest₃ = .ok (t, rest)) := by
  rw [readRule] at h
  obtain ⟨⟨distance, rest₁⟩, hdistance, h⟩ := bind_eq_ok_iff.1 h
  dsimp only at h
  split at h
  · cases h
  rename_i headings hheadings
  obtain ⟨⟨groups, rest₂⟩, hgroups, h⟩ := bind_eq_ok_iff.1 h
  dsimp only at h
  split_ifs at h with hempty hboth
  refine ⟨distance, rest₁, headings, groups, rest₂, rule.next?, hdistance, hheadings, hgroups,
    by simpa using hempty, by simpa using hboth, ?_⟩
  split at h
  · rename_i rest₃
    obtain ⟨⟨t, rest₄⟩, ht, h⟩ := bind_eq_ok_iff.1 h
    cases h
    exact ⟨rfl, .inr ⟨t, rest₃, rfl, rfl, ht⟩⟩
  · rename_i hpoint
    cases h
    exact ⟨rfl, .inl ⟨rfl, rfl, hpoint⟩⟩

/-- The other way round: the parts make a rule. -/
theorem readRule_of {modifiers rest₀ rest₁ rest₂ rest₃ : List Char} {distance : Distance}
    {written headings : List Heading} {groups : List Rule} {next : Option Rule}
    (hmodifiers : cs.takeWhile isModifier = modifiers) (hbare : cs.dropWhile isModifier = rest₀)
    (hdistance : readDistance rest₀ = .ok (distance, rest₁))
    (hwritten : readHeadings rest₁ = (written, rest₂))
    (hheadings : headingsFor distance written = some headings)
    (hgroups : readGroups depth rest₂ = .ok (groups, rest₃))
    (directed : ¬ (headings = [] ∧ groups = []))
    (consistent : ¬ ('c' ∈ modifiers ∧ 'o' ∈ modifiers))
    (onward : next = none ∧ rest = rest₃ ∧ (∀ rest₄, rest₃ ≠ '.' :: rest₄) ∨
      ∃ t rest₄, next = some t ∧ rest₃ = '.' :: rest₄ ∧ readRule depth rest₄ = .ok (t, rest)) :
    readRule (depth + 1) cs = .ok (.mk (Leg.ofModifiers modifiers distance)
      (headings.map .heading ++ groups.map .group) next, rest) := by
  rw [readRule, hmodifiers, hbare, hdistance]
  simp only [bind, Except.bind, hwritten, hheadings, hgroups]
  rw [if_neg (by simpa using directed), if_neg (by simpa using consistent)]
  obtain ⟨rfl, rfl, hpoint⟩ | ⟨t, rest₄, rfl, rfl, ht⟩ := onward
  · split
    · rename_i rest₄
      exact absurd rfl (hpoint rest₄)
    · rfl
  · simp only [ht]

theorem readGroups_inv {rules : List Rule} (h : readGroups (depth + 1) cs = .ok (rules, rest)) :
    (openGroup? cs = none ∧ rules = [] ∧ rest = cs) ∨
    ∃ rest₁ rule rest₂ rules', openGroup? cs = some rest₁ ∧
      readRule depth rest₁ = .ok (rule, ')' :: rest₂) ∧
      readGroups depth rest₂ = .ok (rules', rest) ∧ rules = rule :: rules' := by
  rw [readGroups] at h
  split at h
  · rename_i hopen
    cases h
    exact .inl ⟨hopen, rfl, rfl⟩
  · rename_i rest₁ hopen
    obtain ⟨⟨rule, rest₂⟩, hrule, h⟩ := bind_eq_ok_iff.1 h
    dsimp only at h
    split at h
    · rename_i rest₂
      obtain ⟨⟨rules', rest₃⟩, hrules, h⟩ := bind_eq_ok_iff.1 h
      cases h
      exact .inr ⟨rest₁, rule, rest₂, rules', hopen, hrule, hrules, rfl⟩
    · cases h

theorem readRules_inv {rules : List Rule} (h : readRules (depth + 1) cs = .ok (rules, rest)) :
    ∃ rule rest₁, readRule (depth + 1) cs = .ok (rule, rest₁) ∧
      (rules = [rule] ∧ rest = rest₁ ∧ (∀ rest₂, rest₁ ≠ ',' :: rest₂) ∨
        ∃ rules' rest₂, rules = rule :: rules' ∧ rest₁ = ',' :: rest₂ ∧
          readRules depth rest₂ = .ok (rules', rest)) := by
  rw [readRules] at h
  obtain ⟨⟨rule, rest₁⟩, hrule, h⟩ := bind_eq_ok_iff.1 h
  dsimp only at h
  refine ⟨rule, rest₁, hrule, ?_⟩
  split at h
  · rename_i rest₂
    obtain ⟨⟨rules', rest₃⟩, hrules, h⟩ := bind_eq_ok_iff.1 h
    cases h
    exact .inr ⟨rules', rest₂, rfl, rfl, hrules⟩
  · rename_i hcomma
    cases h
    exact .inl ⟨rfl, rfl, hcomma⟩

/-- A text is compiled if it is not empty and has been read to its end. -/
theorem compileWith_eq_ok_iff {α : Type} {read : Nat → List Char → Reading (α × List Char)}
    {text : String} {a : α} : compileWith read text = .ok a ↔
      text.toList ≠ [] ∧ read (text.toList.length + 1) text.toList = .ok (a, []) := by
  rw [compileWith]
  split
  · rename_i hnil
    simp [hnil]
  · rename_i hne
    rw [and_iff_right hne]
    rcases read (text.toList.length + 1) text.toList with e | ⟨a', _ | ⟨c, rest⟩⟩ <;>
      simp [Except.bind, Except.mapError, toEnd]

theorem compilePiece_inv {text : String} {rules : List Rule} (h : compilePiece text = .ok rules) :
    text.toList ≠ [] ∧ readRules (text.toList.length + 1) text.toList = .ok (rules, []) :=
  compileWith_eq_ok_iff.1 h

end VariantChess.Movement
