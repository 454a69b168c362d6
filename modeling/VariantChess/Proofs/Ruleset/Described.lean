import VariantChess.Proofs.Catalogue
import VariantChess.Ruleset.Description

/-!
# Rulesets that are described

A description is checked once, when the ruleset is made of it. What the checks leave to rely on is that
the catalogue is compiled (`compiled_of_ofDatum`) and, by the type of rulesets, that it covers the
starting board and that the turn order is neither empty nor names a side twice.
-/

namespace VariantChess

theorem Report.result_bind_eq_ok_iff {α β : Type} {x : Report α} {f : α → Report β} {b : β} :
    (x >>= f).result = .ok b ↔ ∃ a, x.result = .ok a ∧ (f a).result = .ok b := by
  cases h : x.result <;> simp [bind, h]

namespace Ruleset

variable {r : Ruleset} {symbol moves : String} {source : Option String} {kind : PieceKind}
  {rules : List Movement.Rule}

theorem result_refuse_ne_ok {α : Type} {values : List Datum} {fault : RulesetFault} {a : α} :
    (refuse values fault source).result ≠ .ok a := by
  rw [refuse]
  split <;> rintro ⟨⟩

theorem covers (r : Ruleset) : r.catalogue.Covers r.board := r.symbol_mem

end Ruleset

end VariantChess
