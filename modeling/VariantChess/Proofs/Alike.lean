import VariantChess.Proofs.Fallible
import VariantChess.Ruleset.Basic

/-!
# Catalogues that move alike

What runs when a piece has moved plays no part in where the pieces can go. So two catalogues that
differ in that alone have the same attacks, the same legal moves and the same terminal states on every
board (`Catalogue.MovesAlike`).
-/

namespace VariantChess

/-- The kind without the hooks that run when a piece has moved. -/
def PieceKind.bare (kind : PieceKind) : PieceKind := { kind with afterMove := none, afterCapture := none }

namespace Catalogue

variable {c c' : Catalogue}

/-- The catalogues differ in the hooks that run when a piece has moved, and in nothing else. -/
def MovesAlike (c c' : Catalogue) : Prop :=
  ∀ symbol, (c.find? symbol).map PieceKind.bare = (c'.find? symbol).map PieceKind.bare

theorem MovesAlike.symm (alike : c.MovesAlike c') : c'.MovesAlike c := fun symbol => (alike symbol).symm

theorem MovesAlike.lookup_cases (alike : c.MovesAlike c') (symbol : String) :
    (∃ e, c.lookup symbol = .error e ∧ c'.lookup symbol = .error e) ∨
      ∃ kind kind', c.lookup symbol = .ok kind ∧ c'.lookup symbol = .ok kind' ∧ kind.bare = kind'.bare := by
  have same := alike symbol
  rw [lookup, lookup]
  cases hfind : c.find? symbol with
  | none =>
    rw [hfind, Option.map_none, eq_comm, Option.map_eq_none_iff] at same
    rw [same]
    exact .inl ⟨_, rfl, rfl⟩
  | some kind =>
    rw [hfind, Option.map_some, eq_comm, Option.map_eq_some_iff] at same
    obtain ⟨kind', hfind', bare⟩ := same
    rw [hfind']
    exact .inr ⟨kind, kind', rfl, rfl, bare.symm⟩

namespace MovesAlike

variable (alike : c.MovesAlike c')
include alike

theorem extraMoves_eq (symbol : String) :
    (c.find? symbol).bind (·.extraMoves) = (c'.find? symbol).bind (·.extraMoves) := by
  have bare : ∀ found : Option PieceKind,
      found.bind (·.extraMoves) = (found.map PieceKind.bare).bind (·.extraMoves) := by
    intro found
    cases found <;> rfl
  rw [bare, alike symbol, ← bare]

/-! ### Moves -/

theorem geometricMoves_eq (b : Board) (color : Color) :
    geometricMoves c b color = geometricMoves c' b color := by
  rw [geometricMoves, geometricMoves]
  congr 1
  funext ⟨origin, piece⟩
  obtain ⟨e, h, h'⟩ | ⟨kind, kind', h, h', same⟩ := alike.lookup_cases piece.symbol
  · simp only [h, h']
  · simp only [h, h']
    show kind.bare.moves b piece origin = kind'.bare.moves b piece origin
    rw [same]

theorem askers_eq (b : Board) (color : Color) : askers c b color = askers c' b color := by
  simp only [askers, alike.extraMoves_eq]

theorem pseudoLegalMoves_eq (b : Board) (color : Color) (hook : Option ExtraMoves) :
    pseudoLegalMoves c b color hook = pseudoLegalMoves c' b color hook := by
  rw [pseudoLegalMoves, pseudoLegalMoves, alike.geometricMoves_eq, alike.askers_eq]

/-! ### Attacks -/

theorem attacks_eq (b : Board) (target : Square) : attacks c b target = attacks c' b target := by
  funext attacker
  rw [attacks, attacks]
  obtain ⟨e, h, h'⟩ | ⟨kind, kind', h, h', same⟩ := alike.lookup_cases attacker.2.symbol
  · simp only [h, h']
  · simp only [h, h']
    show (kind.bare.targets b attacker.2 attacker.1).map _ =
      (kind'.bare.targets b attacker.2 attacker.1).map _
    rw [same]

theorem royal_eq (symbol : String) :
    (c.lookup symbol).map (·.royal) = (c'.lookup symbol).map (·.royal) := by
  obtain ⟨e, h, h'⟩ | ⟨kind, kind', h, h', same⟩ := alike.lookup_cases symbol
  · rw [h, h']
  · rw [h, h']
    show Except.ok kind.bare.royal = Except.ok kind'.bare.royal
    rw [same]

theorem isInCheck_eq (b : Board) (color : Color) : isInCheck c b color = isInCheck c' b color := by
  have attacked : isAttacked c b color = isAttacked c' b color := by
    funext target
    rw [isAttacked, isAttacked, alike.attacks_eq]
  rw [isInCheck, isInCheck, attacked]
  simp only [royalSquares, alike.royal_eq]

/-! ### Legal moves -/

theorem legalMoves_eq (b : Board) (color : Color) (hook : Option ExtraMoves) :
    legalMoves c b color hook = legalMoves c' b color hook := by
  have safe : isSafe c b color = isSafe c' b color := by
    funext m
    rw [isSafe, isSafe]
    simp only [alike.isInCheck_eq]
  simp only [legalMoves, filterLegal, safe, alike.pseudoLegalMoves_eq]

theorem terminalState_eq (b : Board) (color : Color) (hook : Option ExtraMoves) :
    terminalState c b color hook = terminalState c' b color hook := by
  simp only [terminalState, alike.legalMoves_eq, alike.isInCheck_eq]

end MovesAlike

end Catalogue

/-! ### Rulesets that play alike -/

/-- The rulesets differ in the hooks that run when a piece has moved and in their starting boards. -/
structure Ruleset.PlaysAlike (r r' : Ruleset) : Prop where
  name : r.name = r'.name
  colors : r.colors = r'.colors
  catalogue : r.catalogue.MovesAlike r'.catalogue

theorem Ruleset.PlaysAlike.nextColor {r r' : Ruleset} (alike : r.PlaysAlike r') (color : Color) :
    r.nextColor color = r'.nextColor color := by
  rw [Ruleset.nextColor, Ruleset.nextColor, alike.colors, alike.name]

/-- The ruleset in which the pieces of a symbol have no hook for their captures. -/
def Catalogue.withoutCaptureHook (c : Catalogue) (symbol : String) : Catalogue where
  entries := c.entries.map fun e => if e.1 = symbol then (e.1, { e.2 with afterCapture := none }) else e

theorem Catalogue.symbols_withoutCaptureHook (c : Catalogue) (symbol : String) :
    (c.withoutCaptureHook symbol).symbols = c.symbols := by
  rw [symbols, symbols, withoutCaptureHook, List.map_map]
  refine List.map_congr_left fun e _ => ?_
  rw [Function.comp_apply]
  split <;> rfl

theorem Catalogue.find?_withoutCaptureHook (c : Catalogue) (symbol symbol' : String) :
    (c.withoutCaptureHook symbol).find? symbol' = (c.find? symbol').map fun kind =>
      if symbol' = symbol then { kind with afterCapture := none } else kind := by
  have same : ∀ e : String × PieceKind,
      ((if e.1 = symbol then (e.1, { e.2 with afterCapture := none }) else e).1 == symbol') =
        (e.1 == symbol') := by
    intro e
    split <;> rfl
  rw [find?, find?, withoutCaptureHook, List.find?_map, Option.map_map, Option.map_map]
  simp only [Function.comp_def, same]
  refine Option.map_congr fun e he => ?_
  obtain rfl : e.1 = symbol' := by simpa using List.find?_some he
  split <;> rfl

theorem Catalogue.movesAlike_withoutCaptureHook (c : Catalogue) (symbol : String) :
    (c.withoutCaptureHook symbol).MovesAlike c := by
  intro symbol'
  rw [find?_withoutCaptureHook, Option.map_map]
  refine Option.map_congr fun kind _ => ?_
  rw [Function.comp_apply]
  split <;> rfl

def Ruleset.withoutCaptureHook (r : Ruleset) (symbol : String) : Ruleset :=
  { r with
    catalogue := r.catalogue.withoutCaptureHook symbol
    symbol_mem := by
      rw [Catalogue.symbols_withoutCaptureHook]
      exact r.symbol_mem }

end VariantChess
