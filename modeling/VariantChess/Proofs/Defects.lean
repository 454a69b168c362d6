import VariantChess.Legal
import VariantChess.Proofs.Board.Cells
import VariantChess.Proofs.Fallible

/-!
# Defects

Whether a side can play cannot be found out on a board with a piece that the catalogue does not know, with
a rule that gives the heading of a leap another distance, or with a hook for extra moves that fails. These
are *defects* of the game and no refusals of a move: whatever a hook raises is passed on as the failure of
the hook (`defective_failedAsking`).
-/

namespace VariantChess

/-- The error says that there is something wrong with the game itself. -/
def Error.IsDefect : Error → Prop
  | .unknownPiece _ => True
  | .noLeap => True
  | .hook .. => True
  | .ruleset .. => True
  | _ => False

/-- If the computation fails, then with a defect. -/
def Defective {α : Type} (result : Except Error α) : Prop := ∀ e, result = .error e → e.IsDefect

section
variable {α β : Type} {x : Except Error α} {e : Error}

theorem defective_ok (a : α) : Defective (.ok a) := nofun

theorem defective_error (h : e.IsDefect) : Defective (.error e : Except Error α) := by
  rintro _ ⟨⟩
  exact h

theorem Defective.map (h : Defective x) (f : α → β) : Defective (x.map f) :=
  fun e he => h e (map_eq_error_iff.1 he)

theorem defective_gather {f : α → Except Error (List β)} {as : List α}
    (h : ∀ a ∈ as, Defective (f a)) : Defective (gather f as) := by
  intro e he
  obtain ⟨a, ha, hf⟩ := exists_of_gather_error he
  exact h a ha e hf

theorem defective_keep {p : α → Except Error Bool} {as : List α} (h : ∀ a ∈ as, Defective (p a)) :
    Defective (keep p as) := by
  intro e he
  obtain ⟨a, ha, hp⟩ := exists_of_keep_error he
  exact h a ha e hp

theorem defective_anyPasses {p : α → Except Error Bool} {as : List α} (h : ∀ a ∈ as, Defective (p a)) :
    Defective (anyPasses p as) := by
  intro e he
  obtain ⟨a, ha, hp⟩ := exists_of_anyPasses_error he
  exact h a ha e hp

theorem defective_bind {x : Report α} {f : α → Report β} (hx : Defective x.result)
    (hf : ∀ a, x.result = .ok a → Defective (f a).result) : Defective (x >>= f).result := by
  intro e he
  simp only [bind] at he
  split at he
  · rename_i e' hx'
    cases he
    exact hx _ hx'
  · rename_i a hx'
    exact hf a hx' e he

end

/-! ### Targets -/

namespace Movement

mutual

theorem Rule.defective_targets (b : Board) (piece : Piece) (origin start : Square) :
    (rule : Rule) → Defective (rule.targets b piece origin start)
  | .mk leg directions next => by
    have grouped := defective_groupTargets b piece start directions
    have onward := fun s => defective_nextTargets b piece origin s next
    rw [Rule.targets]
    split
    · exact defective_ok _
    · split
      · exact defective_error trivial
      · split
        · rename_i e he
          exact defective_error (grouped e he)
        · exact defective_gather fun s _ => (onward s).map _
termination_by structural rule => rule

theorem defective_groupTargets (b : Board) (piece : Piece) (start : Square) :
    (directions : List Direction) → Defective (groupTargets b piece start directions)
  | [] => defective_ok _
  | direction :: directions => by
    have first := defective_directionTargets b piece start direction
    have others := defective_groupTargets b piece start directions
    rw [groupTargets]
    split
    · rename_i e he
      exact defective_error (first e he)
    · exact others.map _
termination_by structural directions => directions

theorem defective_directionTargets (b : Board) (piece : Piece) (start : Square) :
    (direction : Direction) → Defective (directionTargets b piece start direction)
  | .heading _ => defective_ok _
  | .group rule => rule.defective_targets b piece start start
termination_by structural direction => direction

theorem defective_nextTargets (b : Board) (piece : Piece) (origin start : Square) :
    (next : Option Rule) → Defective (nextTargets b piece origin start next)
  | none => defective_ok _
  | some rule => rule.defective_targets b piece origin start
termination_by structural next => next

end

end Movement

variable (c : Catalogue) (b : Board) (color : Color)

theorem Catalogue.defective_lookup (symbol : String) : Defective (c.lookup symbol) := by
  rw [lookup]
  split
  · exact defective_ok _
  · exact defective_error trivial

theorem PieceKind.defective_targets (kind : PieceKind) (piece : Piece) (origin : Square) :
    Defective (kind.targets b piece origin) :=
  defective_gather fun rule _ => rule.defective_targets b piece origin origin

/-! ### Check -/

theorem defective_attacks (target : Square) (attacker : Square × Piece) :
    Defective (attacks c b target attacker) := by
  rw [attacks]
  split
  · rename_i e he
    exact defective_error (c.defective_lookup _ e he)
  · exact (PieceKind.defective_targets b _ _ _).map _

theorem defective_isAttacked {target : Square} (h : b.contains target) :
    Defective (isAttacked c b color target) := by
  rw [isAttacked, if_pos h]
  exact defective_anyPasses fun attacker _ => defective_attacks c b target attacker

/-- Royal pieces stand on the board, so it can be asked whether they are attacked. -/
theorem defective_isInCheck : Defective (isInCheck c b color) := by
  have royal : Defective (keep (fun p => (c.lookup p.2.symbol).map (·.royal)) (b.piecesOf color)) :=
    defective_keep fun p _ => (c.defective_lookup p.2.symbol).map _
  rw [isInCheck]
  split
  · rename_i e he
    exact defective_error (royal.map _ e he)
  · rename_i royals he
    refine defective_anyPasses fun d hd => defective_isAttacked c b color ?_
    obtain ⟨kept, hkept, rfl⟩ := map_eq_ok_iff.1 he
    obtain ⟨p, hp, rfl⟩ := List.mem_map.1 hd
    exact Board.contains_of_cell (Board.mem_piecesOf.1 ((sublist_of_keep hkept).subset hp)).1

/-! ### Moves -/

theorem defective_grantedMoves (id : String) (origin : Square) (found : List Move) (answers : List Datum) :
    Defective (grantedMoves b id origin found answers) := by
  induction answers with
  | nil => exact defective_ok _
  | cons answer answers ih =>
    rw [grantedMoves]
    split
    · split
      · exact ih.map _
      · exact defective_error trivial
    · exact defective_error trivial

theorem defective_failedAsking (id : String) (origin : Square) (found : List Move) (e : Error) :
    Defective (failedAsking id origin found e).result := by
  rw [failedAsking.eq_def]
  split <;> exact defective_error trivial

theorem defective_askedMoves (hook : ExtraMoves) (origin : Square) (id : String) (found : List Move) :
    Defective (askedMoves hook b origin id found).result := by
  rw [askedMoves]
  dsimp only
  split
  · exact defective_grantedMoves b id origin found _
  · exact defective_failedAsking id origin found _

theorem defective_extendedMoves (hook : ExtraMoves) (asked : List (Square × String)) (found : List Move) :
    Defective (extendedMoves hook b asked found).result := by
  induction asked generalizing found with
  | nil => exact defective_ok _
  | cons asked rest ih =>
    exact defective_bind (defective_askedMoves b hook asked.1 asked.2 found) fun moves _ => ih _

theorem defective_pseudoLegalMoves (hook : Option ExtraMoves) :
    Defective (pseudoLegalMoves c b color hook).result := by
  refine defective_bind (defective_gather fun p _ => ?_) fun moves _ => ?_
  · obtain ⟨origin, piece⟩ := p
    dsimp only
    split
    · rename_i e he
      exact defective_error (c.defective_lookup _ e he)
    · exact (PieceKind.defective_targets b _ _ _).map _
  · cases hook with
    | none => exact defective_ok _
    | some hook => exact defective_extendedMoves b hook _ _

theorem defective_legalMoves (hook : Option ExtraMoves) : Defective (legalMoves c b color hook).result := by
  refine defective_bind (defective_pseudoLegalMoves c b color hook) fun moves _ => ?_
  refine defective_keep fun m _ => ?_
  rw [isSafe]
  split
  · exact defective_ok _
  · exact (defective_isInCheck c _ color).map _

/-- That it cannot be found out whether a side can play is a defect of the game. -/
theorem defective_terminalState (hook : Option ExtraMoves) :
    Defective (terminalState c b color hook).result := by
  refine defective_bind (defective_legalMoves c b color hook) fun moves _ => ?_
  split
  · exact defective_ok _
  · refine defective_bind (x := .of _) (defective_isInCheck c b color) fun inCheck _ => ?_
    split <;> exact defective_ok _

end VariantChess
