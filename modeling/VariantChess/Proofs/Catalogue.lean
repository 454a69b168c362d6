import VariantChess.Proofs.Fallible
import VariantChess.Proofs.Board.Cells
import VariantChess.Proofs.Movement.Meaning

/-!
# Catalogues of compiled pieces

In a *compiled* catalogue the rules of every entry are those that a movement notation describes. Then
the rules are suited, and the targets of every piece with an entry can be found: they are the squares
to which one of its rules *leads* it (`Catalogue.Leads`). The move generator and the detection of
attacks both read these targets, so they agree about where a piece can go.
-/

namespace VariantChess

namespace Catalogue

/-- The rules of every entry are those that some movement notation describes. -/
def Compiled (c : Catalogue) : Prop :=
  ∀ e ∈ c.entries, ∃ text, Movement.compilePiece text = .ok e.2.rules

/-- Every piece of the board has an entry. -/
def Covers (c : Catalogue) (b : Board) : Prop := ∀ p ∈ b.pieces, p.2.symbol ∈ c.symbols

/-- A rule of the piece's entry leads it from `s` to another square `d`. -/
def Leads (c : Catalogue) (b : Board) (piece : Piece) (s d : Square) : Prop :=
  ∃ kind rule, c.find? piece.symbol = some kind ∧ rule ∈ kind.rules ∧ rule.Attains b piece s d ∧ d ≠ s

variable {c : Catalogue} {b : Board} {piece : Piece} {s d : Square} {symbol : String} {kind : PieceKind}

/-! ### Entries -/

theorem mem_entries_of_find? (h : c.find? symbol = some kind) : (symbol, kind) ∈ c.entries := by
  obtain ⟨⟨symbol', kind'⟩, he, rfl⟩ := Option.map_eq_some_iff.1 h
  obtain rfl : symbol' = symbol := by simpa using List.find?_some he
  exact List.mem_of_find?_eq_some he

theorem mem_symbols_iff : symbol ∈ c.symbols ↔ ∃ kind, c.find? symbol = some kind := by
  constructor
  · intro h
    obtain ⟨e, he, rfl⟩ := List.mem_map.1 h
    cases hf : c.entries.find? fun e' => e'.1 == e.1 with
    | none => simpa using List.find?_eq_none.1 hf e he
    | some e' => exact ⟨e'.2, by simp [find?, hf]⟩
  · rintro ⟨kind, h⟩
    exact List.mem_map.2 ⟨_, mem_entries_of_find? h, rfl⟩

theorem lookup_eq_ok_iff : c.lookup symbol = .ok kind ↔ c.find? symbol = some kind := by
  rw [lookup]
  split <;> simp_all

theorem exists_lookup (h : symbol ∈ c.symbols) :
    ∃ kind, c.lookup symbol = .ok kind ∧ c.find? symbol = some kind := by
  obtain ⟨kind, hk⟩ := mem_symbols_iff.1 h
  exact ⟨kind, lookup_eq_ok_iff.2 hk, hk⟩

theorem Covers.of_piecesOf (covers : c.Covers b) (color : Color) :
    ∀ p ∈ b.piecesOf color, p.2.symbol ∈ c.symbols :=
  fun p hp => covers p (List.mem_filter.1 hp).1

/-! ### Targets -/

theorem Compiled.suited (compiled : c.Compiled) (h : c.find? symbol = some kind) :
    ∀ rule ∈ kind.rules, rule.Suited := by
  obtain ⟨text, ht⟩ := compiled _ (mem_entries_of_find? h)
  exact Movement.Rule.suited_of_compilePiece ht

/-- The targets of a piece with an entry are the squares to which a rule leads it. -/
theorem Compiled.exists_targets (compiled : c.Compiled) (h : c.find? piece.symbol = some kind)
    (b : Board) (s : Square) :
    ∃ targets, kind.targets b piece s = .ok targets ∧ ∀ d, d ∈ targets ↔ c.Leads b piece s d := by
  obtain ⟨targets, ht, hmem⟩ := Movement.exists_kindTargets (compiled.suited h) b piece s
  refine ⟨targets, ht, fun d => ?_⟩
  rw [hmem]
  constructor
  · rintro ⟨rule, hrule, hd⟩
    exact ⟨kind, rule, h, hrule, hd⟩
  · rintro ⟨kind', rule, hk, hrule, hd⟩
    obtain rfl : kind = kind' := by simpa [h] using hk
    exact ⟨rule, hrule, hd⟩

/-- No piece is led onto one of its own side or off the board. -/
theorem Leads.admits (h : c.Leads b piece s d) : b.Admits piece.color d := by
  obtain ⟨kind, rule, -, -, attained, -⟩ := h
  exact attained.admits

end Catalogue

end VariantChess
