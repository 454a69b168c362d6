import VariantChess.Proofs.Board.Stuck
import VariantChess.Proofs.Movement.Stuck

/-!
# Answers and refusals of the readers

The readers of rules, of pieces and of boards answer every text with what it describes or with a fault,
but for one defect: they take for a number whatever stands together and looks like digits, be it a
superscript, a run with more digits than a number may have or, on a board, a number of more empty cells
than a row can have. Which texts that concerns can be told from the grammar and from the texts of boards
(`readers_answer_iff`). A text whose digits are all decimal ones, few enough in a row, is answered.
-/

namespace VariantChess

/-- There is a value, or a fault. -/
def Answered {Fault α : Type} (reply : Except (NotationError Fault) α) : Prop :=
  (∃ a, reply = .ok a) ∨ ∃ fault shown offset, reply = .error (.malformed fault shown offset)

theorem answered_iff {Fault α : Type} {reply : Except (NotationError Fault) α} :
    Answered reply ↔ ¬ ∃ fault, reply = .error (.number fault) := by
  rcases reply with (_ | _) | a <;> simp [Answered]

/-- A rule, a piece and a board are read or refused with a fault unless the reader gets stuck: where a
number is due in the rule or the piece, or behind a text that a gap would complete to a board, digits
stand together that are of no use as a number. That takes a digit that is no decimal one, too many digits
in a row or, on a board, the number of more empty cells than a row can have. -/
theorem readers_answer_iff (text : String) (known : Option (List String)) :
    (Answered (Movement.compileRule text) ↔ ¬ Movement.RuleStuck text.toList) ∧
    (Answered (Movement.compilePiece text) ↔ ¬ Movement.PieceStuck text.toList) ∧
    (Answered (Board.read text known) ↔ ¬ Board.Stuck known text) ∧
    (¬ Text.Undecimal text.toList → ¬ Text.Overlong text.toList →
      Answered (Movement.compileRule text) ∧ Answered (Movement.compilePiece text)) ∧
    (¬ Text.Undecimal text.toList → ¬ Text.Overlong (Text.compact text.toList) →
      ¬ Board.Oversized (Text.compact text.toList) → Answered (Board.read text known)) := by
  have rule : Answered (Movement.compileRule text) ↔ ¬ Movement.RuleStuck text.toList :=
    answered_iff.trans (not_congr Movement.exists_compileRule_number_iff)
  have piece : Answered (Movement.compilePiece text) ↔ ¬ Movement.PieceStuck text.toList :=
    answered_iff.trans (not_congr Movement.exists_compilePiece_number_iff)
  have board : Answered (Board.read text known) ↔ ¬ Board.Stuck known text :=
    answered_iff.trans (not_congr Board.exists_read_number_iff)
  refine ⟨rule, piece, board, fun decimal short => ⟨?_, ?_⟩, fun decimal short small => ?_⟩
  · exact rule.2 fun stuck => stuck.undecimal_or_overlong.elim decimal short
  · exact piece.2 fun stuck => stuck.undecimal_or_overlong.elim decimal short
  · exact board.2 fun stuck => stuck.cause.elim decimal fun cause => cause.elim short small

/-- The second number of a range in a group, whatever else is wrong with that range, and in the second row
of a board a superscript and a gap of more cells than a row can have. -/
theorem readers_answer_iff_group :
    (Movement.RuleStuck "1X,(oc0-²)".toList ∧ ¬ Answered (Movement.compileRule "1X,(oc0-²)")) ∧
    (Board.Stuck (some ["k"]) "k 1 / ²K" ∧ ¬ Answered (Board.read "k 1 / ²K" (some ["k"]))) ∧
    (Board.Stuck none "k/9223372036854775808" ∧ ¬ Answered (Board.read "k/9223372036854775808" none)) ∧
    (¬ Text.Undecimal "1X,(oc0-٢)".toList ∧ ¬ Text.Overlong "1X,(oc0-٢)".toList ∧
      Answered (Movement.compilePiece "1X,(oc0-٢)")) := by
  have second : Movement.NumberDue (['o', 'c'] ++ (['0'] ++ ['-'])) :=
    .second (by simp) (by decide) (by decide) (by decide)
  have begun : Movement.Begun [] (.exact ['1']) [.diagonal] :=
    ⟨List.forall_mem_nil _, by decide, by decide, by decide, by decide, False.elim⟩
  have due : Movement.NumberDue "1X,(oc0-".toList :=
    .grouped true begun (List.forall_mem_nil _) (List.forall_mem_nil _) second
  have rule : Movement.RuleStuck "1X,(oc0-²)".toList := ⟨_, ['²', ')'], rfl, due, by decide⟩
  have board : Board.Stuck (some ["k"]) "k 1 / ²K" :=
    ⟨['k', '1', '/'], ['²', 'K'], by decide, ⟨_, rfl⟩,
      fun c hc => Option.some.inj hc ▸ by decide, by decide⟩
  have wide : Board.Stuck none "k/9223372036854775808" :=
    ⟨['k', '/'], "9223372036854775808".toList, by decide, ⟨_, rfl⟩,
      fun c hc => Option.some.inj hc ▸ by decide, by decide⟩
  have decimal : ¬ Text.Undecimal "1X,(oc0-٢)".toList := by
    rintro ⟨c, hc, undecimal⟩
    have values : ∀ c ∈ "1X,(oc0-٢)".toList, ¬ (Text.isDigit c ∧ Text.decimalValue? c = none) :=
      List.all_iff_forall_prop.1 rfl
    exact values c hc undecimal
  have short : ¬ Text.Overlong "1X,(oc0-٢)".toList := by
    rintro ⟨run, hrun, -, long⟩
    exact long (Nat.le_trans hrun.length_le (by decide))
  exact ⟨⟨rule, fun answered => (readers_answer_iff _ none).1.1 answered rule⟩,
    ⟨board, fun answered => (readers_answer_iff _ _).2.2.1.1 answered board⟩,
    ⟨wide, fun answered => (readers_answer_iff _ _).2.2.1.1 answered wide⟩,
    decimal, short, ((readers_answer_iff _ none).2.2.2.1 decimal short).2⟩

/-- A superscript stops all three. -/
theorem not_answered_superscript :
    ¬ Answered (Movement.compileRule "²*") ∧ ¬ Answered (Movement.compilePiece "²*") ∧
      ¬ Answered (Board.read "²" none) ∧ ¬ Answered (Board.read "²" (some ["k"])) := by
  simp only [answered_iff, not_not]
  exact ⟨⟨.notDecimal, rfl⟩, ⟨.notDecimal, rfl⟩, ⟨.notDecimal, rfl⟩, ⟨.notDecimal, rfl⟩⟩

end VariantChess
