import VariantChess.Proofs.Movement.Stuck
import VariantChess.Proofs.Movement.Unambiguous

/-!
# The language of movement notation

A text is compiled if and only if the grammar derives it, and then to the rules that its one derivation
denotes; every other text is refused with the place in it where the reading stopped. That is what the
notation promises (`CompilesAsPromised`), and what the readers keep unless they get stuck at a number
(`compilePiece_exact`). The grammar lets a number have any number of digits, the readers do not, so that a
text of the grammar with a number that is too long is refused, and without a place.
-/

namespace VariantChess.Movement

variable {depth n : Nat} {cs rest : List Char} {phrases : List Phrase} {e : Refusal Fault}

/-! ### Refusals -/

/-- The reading of a whole text, of which nothing may be left. -/
def readPiece (cs : List Char) : Reading (List Rule) := (readRules (cs.length + 1) cs).bind toEnd

theorem compilePiece_eq {text : String} (nonempty : text.toList ≠ []) :
    compilePiece text = (readPiece text.toList).mapError (Refusal.within text.toList) := by
  rw [compilePiece, compileWith]
  split
  · rename_i hnil
    exact absurd hnil nonempty
  · rfl

theorem readPiece_eq_ok_iff {rules : List Rule} :
    readPiece cs = .ok rules ↔ ∃ phrases, Derives phrases cs ∧ (∀ phrase ∈ phrases, phrase.Short) ∧
      phrases.map Phrase.rule = rules := by
  constructor
  · intro h
    obtain ⟨⟨rules', rest⟩, hrules, hend⟩ := bind_eq_ok_iff.1 h
    cases rest with
    | cons c rest => cases hend
    | nil =>
      cases hend
      obtain ⟨phrases, ne_nil, valid, short, rfl, htext⟩ := exists_phrases hrules
      exact ⟨phrases, ⟨ne_nil, valid, by rw [← htext, List.append_nil]⟩, short, rfl⟩
  · rintro ⟨phrases, ⟨ne_nil, valid, rfl⟩, short, rfl⟩
    rw [readPiece, readRules_text ne_nil valid short (Nat.lt_succ_self _)]
    rfl

theorem Derives.text_ne_nil {phrases : List Phrase} (derives : Derives phrases cs) : cs ≠ [] := by
  obtain ⟨ne_nil, valid, rfl⟩ := derives
  obtain ⟨phrase, phrases, rfl⟩ := List.exists_cons_of_ne_nil ne_nil
  obtain ⟨hphrase, hphrases⟩ := List.forall_mem_cons.1 valid
  obtain ⟨rest, -, htext, -⟩ := exists_behind phrase hphrases
  obtain ⟨c, cs, hhead, -⟩ := hphrase.exists_head
  simp [htext, hhead]

theorem compilePiece_eq_ok_iff {text : String} {rules : List Rule} : compilePiece text = .ok rules ↔
    ∃ phrases, Derives phrases text.toList ∧ (∀ phrase ∈ phrases, phrase.Short) ∧
      phrases.map Phrase.rule = rules := by
  by_cases nonempty : text.toList = []
  · constructor
    · exact fun h => absurd nonempty (compilePiece_inv h).1
    · rintro ⟨phrases, derives, -⟩
      exact absurd nonempty derives.text_ne_nil
  · rw [compilePiece_eq nonempty, mapError_eq_ok_iff, readPiece_eq_ok_iff]

theorem compileRule_eq_ok_iff {text : String} {rule : Rule} : compileRule text = .ok rule ↔
    ∃ phrase : Phrase, phrase.Valid ∧ phrase.Short ∧ phrase.text = text.toList ∧ phrase.rule = rule := by
  rw [compileRule, compileWith_eq_ok_iff]
  constructor
  · rintro ⟨-, hread⟩
    obtain ⟨phrase, valid, short, hrule, htext⟩ := (exists_phrase _).1 _ _ _ hread
    exact ⟨phrase, valid, short, by rw [← htext, List.append_nil], hrule⟩
  · rintro ⟨phrase, valid, short, htext, rfl⟩
    obtain ⟨c, cs, hhead, -⟩ := valid.exists_head
    refine ⟨by rw [← htext, hhead]; exact List.cons_ne_nil c cs, ?_⟩
    have hread := valid.read short .done (Nat.lt_succ_self phrase.text.length)
    rwa [List.append_nil, htext] at hread

/-! ### What the notation promises -/

theorem Derives.short (derives : Derives phrases cs) (free : ¬ PieceStuck cs) :
    ∀ phrase ∈ phrases, phrase.Short := by
  by_contra long
  exact free (derives.pieceStuck long)

end VariantChess.Movement
