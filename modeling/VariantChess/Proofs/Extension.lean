import VariantChess.Proofs.Generation

/-!
# What an extra-moves hook adds

The pieces whose kind names an extra-moves hook are asked for one after the other, in the order of the
board, until a call fails. A call *grants* squares if all that it answers with are squares of the board,
and fails otherwise: the hook raises, or it answers with something else. So the pieces asked before a
failure are a front of all that would be asked, and what is found by then are the moves of the geometry
and those that the front was granted (`extendedMoves_append`). That is the result if nobody is behind
the front, and what the error carries if the next call fails (`pseudoLegalMoves_extended`).
-/

namespace VariantChess

namespace Datum

/-- The value is a pair of integers, the column and the row of the square. -/
def IsSquare (answer : Datum) (s : Square) : Prop :=
  answer = .list [.int s.x, .int s.y] ∨ answer = .pair (.int s.x) (.int s.y)

theorem square?_eq_some_iff {answer : Datum} {s : Square} :
    answer.square? = some s ↔ answer.IsSquare s := by
  constructor
  · intro h
    rw [square?.eq_def] at h
    split at h
    · obtain rfl := Option.some.inj h
      exact .inl rfl
    · obtain rfl := Option.some.inj h
      exact .inr rfl
    · cases h
  · rintro (rfl | rfl)
    · rfl
    · rfl

end Datum

/-! ### Who is asked -/

/-- A piece of the side stands on the square, and its entry names the hook of this id. -/
def Asks (c : Catalogue) (b : Board) (color : Color) (origin : Square) (id : String) : Prop :=
  ∃ piece kind, b.cell origin = some piece ∧ piece.color = color ∧
    c.find? piece.symbol = some kind ∧ kind.extraMoves = some id

variable {c : Catalogue} {b : Board} {color : Color} {origin : Square} {id : String}

theorem mem_askers : (origin, id) ∈ askers c b color ↔ Asks c b color origin id := by
  simp only [askers, List.mem_filterMap, Prod.exists, Board.mem_piecesOf, Option.map_eq_some_iff,
    Option.bind_eq_some_iff, Prod.mk.injEq]
  constructor
  · rintro ⟨s, piece, ⟨hcell, hcolor⟩, id', ⟨kind, hkind, hid⟩, rfl, rfl⟩
    exact ⟨piece, kind, hcell, hcolor, hkind, hid⟩
  · rintro ⟨piece, kind, hcell, hcolor, hkind, hid⟩
    exact ⟨origin, piece, ⟨hcell, hcolor⟩, id, ⟨kind, hkind, hid⟩, rfl, rfl⟩

/-- They are asked for row by row, and from left to right in a row. -/
theorem pairwise_askers : (askers c b color).Pairwise
    fun p q => p.1.y < q.1.y ∨ p.1.y = q.1.y ∧ p.1.x < q.1.x := by
  have scanned := (Board.pairwise_pieces (b := b)).filter fun p => p.2.color == color
  refine List.pairwise_filterMap.2 (scanned.imp ?_)
  rintro ⟨s, piece⟩ ⟨s', piece'⟩ hlt p hp q hq
  obtain ⟨_, -, rfl⟩ := Option.map_eq_some_iff.1 hp
  obtain ⟨_, -, rfl⟩ := Option.map_eq_some_iff.1 hq
  exact hlt

/-- Where no entry names an extra-moves hook, nobody is asked. -/
theorem askers_eq_nil (unnamed : ∀ e ∈ c.entries, e.2.extraMoves = none) (b : Board) (color : Color) :
    askers c b color = [] := by
  refine List.eq_nil_iff_forall_not_mem.2 ?_
  rintro ⟨origin, id⟩ asked
  obtain ⟨piece, kind, -, -, hkind, hid⟩ := mem_askers.1 asked
  have := unnamed _ (Catalogue.mem_entries_of_find? hkind)
  rw [hid] at this
  cases this

theorem pseudoLegalMoves_eq_of_unnamed (unnamed : ∀ e ∈ c.entries, e.2.extraMoves = none) (b : Board)
    (color : Color) (hook : Option ExtraMoves) :
    pseudoLegalMoves c b color hook = pseudoLegalMoves c b color none := by
  cases hook with
  | none => rfl
  | some hook =>
    rw [pseudoLegalMoves, pseudoLegalMoves, askers_eq_nil unnamed]
    rfl

/-! ### What a call comes to -/

namespace ExtraMoves

variable (hook : ExtraMoves) (b : Board)

/-- What the hook notes when it is asked for a piece. -/
def said (asked : Square × String) : List Note := (hook asked.2 asked.1 b).notes

/-- The hook answers with squares of the board. -/
def Grants (asked : Square × String) : Prop :=
  ∃ answers, (hook asked.2 asked.1 b).result = .ok answers ∧
    ∀ answer ∈ answers, ∃ s, answer.IsSquare s ∧ b.contains s

/-- The move leads from the piece to another square that the hook answers with. -/
def Adds (asked : Square × String) (m : Move) : Prop :=
  ∃ answers, (hook asked.2 asked.1 b).result = .ok answers ∧
    ∃ answer ∈ answers, answer.IsSquare m.destination ∧ m.destination ≠ asked.1 ∧ m.origin = asked.1

end ExtraMoves

/-- What the error of a failing call says went wrong, and which hook and which origin it names: those of
the call, unless the hook itself has raised an error of its kind that names others. -/
inductive Blames (b : Board) (id : String) (origin : Square) :
    Except Error (List Datum) → HookFault → String → Square → Prop
  /-- The hook raises an error of its kind. -/
  | raised {fault : HookFault} {id? : Option String} {origin? : Option Square} {others : List Move}
      {id' : String} {origin' : Square}
      (name : id? = some id' ∧ id' ≠ "" ∨ (id? = none ∨ id? = some "") ∧ id' = id)
      (place : origin? = some origin' ∨ origin? = none ∧ origin' = origin) :
      Blames b id origin (.error (.hook fault id? origin? others)) fault id' origin'
  /-- The hook raises any other error. -/
  | broken {e : Error} (foreign : ∀ fault id? origin? others, e ≠ .hook fault id? origin? others) :
      Blames b id origin (.error e) (.extraMovesFailed id e.message) id origin
  /-- The first value that is no square of the board is to blame. -/
  | misled {front behind : List Datum} {answer : Datum}
      (squares : ∀ answer ∈ front, ∃ s, answer.IsSquare s ∧ b.contains s)
      (other : ∀ s, answer.IsSquare s → ¬ b.contains s) :
      Blames b id origin (.ok (front ++ answer :: behind)) (.badDestination id answer) id origin

section calls
variable {hook : ExtraMoves} {found : List Move} {answers : List Datum} {asked : Square × String}

theorem grantedMoves_of_forall (id : String) (origin : Square) (found : List Move)
    (h : ∀ answer ∈ answers, ∃ s, answer.IsSquare s ∧ b.contains s) :
    ∃ moves, grantedMoves b id origin found answers = .ok moves ∧ ∀ m, m ∈ moves ↔
      ∃ answer ∈ answers, answer.IsSquare m.destination ∧ m.destination ≠ origin ∧ m.origin = origin := by
  induction answers with
  | nil => exact ⟨[], rfl, by simp⟩
  | cons answer answers ih =>
    obtain ⟨⟨s, square, inside⟩, h⟩ := List.forall_mem_cons.1 h
    obtain ⟨moves, hmoves, hmem⟩ := ih h
    have hs : answer.square? = some s := Datum.square?_eq_some_iff.2 square
    refine ⟨if s = origin then moves else ⟨origin, s⟩ :: moves, ?_, fun m => ?_⟩
    · rw [grantedMoves, hs]
      simp only [inside, ↓reduceIte, hmoves, Except.map]
    · have first : answer.IsSquare m.destination ↔ m.destination = s := by
        rw [← Datum.square?_eq_some_iff, hs, Option.some.injEq, eq_comm]
      simp only [List.exists_mem_cons_iff, first]
      rw [← hmem m]
      by_cases stays : s = origin
      · rw [if_pos stays]
        constructor
        · exact .inr
        · rintro (⟨rfl, away, -⟩ | h)
          · exact absurd stays away
          · exact h
      · rw [if_neg stays, List.mem_cons]
        refine or_congr_left ?_
        constructor
        · rintro rfl
          exact ⟨rfl, stays, rfl⟩
        · rintro ⟨rfl, -, rfl⟩
          rfl

theorem grantedMoves_of_first {front behind : List Datum} {answer : Datum}
    (squares : ∀ answer ∈ front, ∃ s, answer.IsSquare s ∧ b.contains s)
    (other : ∀ s, answer.IsSquare s → ¬ b.contains s) :
    grantedMoves b id origin found (front ++ answer :: behind) =
      .error (.hook (.badDestination id answer) (some id) (some origin) found) := by
  induction front with
  | nil =>
    rw [List.nil_append, grantedMoves]
    cases hs : answer.square? with
    | none => rfl
    | some s =>
      have outside := other s (Datum.square?_eq_some_iff.1 hs)
      simp only [outside, Bool.false_eq_true, ↓reduceIte]
  | cons first front ih =>
    obtain ⟨⟨s, square, inside⟩, squares⟩ := List.forall_mem_cons.1 squares
    have hs : first.square? = some s := Datum.square?_eq_some_iff.2 square
    rw [List.cons_append, grantedMoves, hs]
    simp only [inside, ↓reduceIte, ih squares, Except.map]

theorem askedMoves_of_grants (grants : hook.Grants b asked) (found : List Move) :
    ∃ moves, askedMoves hook b asked.1 asked.2 found = ⟨.ok moves, hook.said b asked⟩ ∧
      ∀ m, m ∈ moves ↔ hook.Adds b asked m := by
  obtain ⟨answers, given, squares⟩ := grants
  obtain ⟨moves, hmoves, hmem⟩ := grantedMoves_of_forall asked.2 asked.1 found squares
  refine ⟨moves, ?_, fun m => ?_⟩
  · simp only [askedMoves, given, hmoves, ExtraMoves.said]
  · rw [hmem, ExtraMoves.Adds]
    constructor
    · intro h
      exact ⟨answers, given, h⟩
    · rintro ⟨answers', given', h⟩
      obtain rfl : answers = answers' := by simpa [given] using given'
      exact h

/-- A hook's own error is completed, any other one is wrapped and logged. -/
theorem blames_failedAsking (b : Board) (id : String) (origin : Square) (e : Error) (found : List Move) :
    ∃ fault id' origin' log, failedAsking id origin found e =
        ⟨.error (.hook fault (some id') (some origin') found), log⟩ ∧
      (∀ n ∈ log, ∃ event, n = .event event) ∧ Blames b id origin (.error e) fault id' origin' := by
  rw [failedAsking.eq_def]
  split
  · rename_i fault id? origin? others
    refine ⟨fault, _, _, [], rfl, List.forall_mem_nil _, .raised ?_ ?_⟩
    · rcases id? with _ | name
      · exact .inr ⟨.inl rfl, rfl⟩
      · by_cases empty : name = ""
        · subst empty
          exact .inr ⟨.inr rfl, rfl⟩
        · have kept : (some name).filter (· ≠ "") = some name :=
            Option.filter_eq_some_iff.2 ⟨rfl, by simpa using empty⟩
          rw [kept]
          exact .inl ⟨rfl, empty⟩
    · rcases origin? with _ | s
      · exact .inr ⟨rfl, rfl⟩
      · exact .inl rfl
  · rename_i foreign
    refine ⟨_, id, origin, [.event (.extraMovesFailed id origin e.message)], rfl, ?_, .broken foreign⟩
    intro n hn
    exact ⟨_, List.mem_singleton.1 hn⟩

/-- The error of a call that fails carries the moves found before. -/
theorem askedMoves_of_not_grants (fails : ¬ hook.Grants b asked) (found : List Move) :
    ∃ fault id origin log, askedMoves hook b asked.1 asked.2 found =
        ⟨.error (.hook fault (some id) (some origin) found), hook.said b asked ++ log⟩ ∧
      (∀ n ∈ log, ∃ event, n = .event event) ∧
      Blames b asked.2 asked.1 (hook asked.2 asked.1 b).result fault id origin := by
  cases given : (hook asked.2 asked.1 b).result with
  | ok answers =>
    obtain ⟨front, answer, behind, rfl, squares, strange⟩ := exists_first_not fun squares =>
      fails ⟨answers, given, squares⟩
    have other : ∀ s, answer.IsSquare s → ¬ b.contains s := fun s hs inside => strange ⟨s, hs, inside⟩
    refine ⟨_, asked.2, asked.1, [], ?_, List.forall_mem_nil _, .misled squares other⟩
    simp only [askedMoves, given, grantedMoves_of_first squares other, ExtraMoves.said, List.append_nil]
  | error e =>
    obtain ⟨fault, id, origin, log, failed, silent, blames⟩ :=
      blames_failedAsking b asked.2 asked.1 e found
    refine ⟨fault, id, origin, log, ?_, silent, blames⟩
    simp only [askedMoves, given, failed, ExtraMoves.said]

/-! ### Asking one piece after the other -/

theorem extendedMoves_cons {moves : List Move} {notes : List Note} {rest : List (Square × String)}
    (h : askedMoves hook b asked.1 asked.2 found = ⟨.ok moves, notes⟩) :
    extendedMoves hook b (asked :: rest) found =
      ⟨(extendedMoves hook b rest (Move.sort (found ++ moves))).result,
        notes ++ (extendedMoves hook b rest (Move.sort (found ++ moves))).notes⟩ := by
  simp only [extendedMoves, bind, h]

/-- Once a front of the pieces has been granted squares, the others are asked with what has been found
by then: the moves found before and those that the front was granted, in order. -/
theorem extendedMoves_append {front : List (Square × String)}
    (grants : ∀ asked ∈ front, hook.Grants b asked) (sorted : found.Pairwise (Move.precedes · ·)) :
    ∃ moves, moves.Pairwise (Move.precedes · ·) ∧
      (∀ m, m ∈ moves ↔ m ∈ found ∨ ∃ asked ∈ front, hook.Adds b asked m) ∧
      ∀ behind, extendedMoves hook b (front ++ behind) found =
        ⟨(extendedMoves hook b behind moves).result,
          front.flatMap (hook.said b) ++ (extendedMoves hook b behind moves).notes⟩ := by
  induction front generalizing found with
  | nil => exact ⟨found, sorted, by simp, fun behind => rfl⟩
  | cons asked front ih =>
    obtain ⟨first, grants⟩ := List.forall_mem_cons.1 grants
    obtain ⟨granted, hgranted, hadds⟩ := askedMoves_of_grants first found
    obtain ⟨moves, hsorted, hmem, run⟩ := ih grants (Move.pairwise_sort (found ++ granted))
    refine ⟨moves, hsorted, fun m => ?_, fun behind => ?_⟩
    · rw [hmem, Move.mem_sort, List.mem_append, hadds, List.exists_mem_cons_iff, or_assoc]
    · rw [List.cons_append, extendedMoves_cons hgranted, run]
      simp only [List.flatMap_cons, List.append_assoc]

end calls

/-- What is generated with a hook, by what is generated without it and who is asked. -/
structure Extended (c : Catalogue) (b : Board) (color : Color) (hook : ExtraMoves) (found : List Move)
    (asked : List (Square × String)) : Prop where
  unhooked : pseudoLegalMoves c b color none = .of (.ok found)
  asks : ∀ origin id, (origin, id) ∈ asked ↔ Asks c b color origin id
  /-- The pieces are asked for row by row, and from left to right in a row. -/
  order : asked.Pairwise fun p q => p.1.y < q.1.y ∨ p.1.y = q.1.y ∧ p.1.x < q.1.x
  /-- If all calls grant squares, their moves are added, in strictly increasing order. -/
  granted : (∀ call ∈ asked, hook.Grants b call) →
    ∃ moves, pseudoLegalMoves c b color (some hook) = ⟨.ok moves, asked.flatMap (hook.said b)⟩ ∧
      moves.Pairwise (Move.precedes · ·) ∧ moves.Nodup ∧
      ∀ m, m ∈ moves ↔ m ∈ found ∨ ∃ call ∈ asked, hook.Adds b call m
  /-- The first call that does not is the last one, and the error carries what has been found by then. -/
  failed : ∀ front call behind, asked = front ++ call :: behind →
    (∀ call ∈ front, hook.Grants b call) → ¬ hook.Grants b call →
    ∃ moves fault id origin log,
      pseudoLegalMoves c b color (some hook) =
        ⟨.error (.hook fault (some id) (some origin) moves),
          (front ++ [call]).flatMap (hook.said b) ++ log⟩ ∧
      (∀ n ∈ log, ∃ event, n = .event event) ∧
      Blames b call.2 call.1 (hook call.2 call.1 b).result fault id origin ∧
      moves.Pairwise (Move.precedes · ·) ∧ moves.Nodup ∧
      ∀ m, m ∈ moves ↔ m ∈ found ∨ ∃ call ∈ front, hook.Adds b call m

/-- With a hook, a side whose pieces have entries in a compiled catalogue has its geometric moves and
those that the hook grants its pieces, asked for one after the other; if a call fails, no later one is
made, and the error carries the moves found before. -/
theorem pseudoLegalMoves_extended (compiled : c.Compiled)
    (known : ∀ p ∈ b.piecesOf color, p.2.symbol ∈ c.symbols) (hook : ExtraMoves) :
    ∃ found asked, Extended c b color hook found asked := by
  obtain ⟨geometric, hgeometric, -⟩ := exists_geometricMoves compiled known
  have hooked : pseudoLegalMoves c b color (some hook) =
      extendedMoves hook b (askers c b color) (Move.sort geometric) := by
    simp only [pseudoLegalMoves, hgeometric, Report.of, bind, List.nil_append]
  have sorted := Move.pairwise_sort geometric
  refine ⟨Move.sort geometric, askers c b color, pseudoLegalMoves_of_geometricMoves hgeometric,
    fun _ _ => mem_askers, pairwise_askers, ?_, ?_⟩
  · intro grants
    obtain ⟨moves, hsorted, hmem, run⟩ := extendedMoves_append grants sorted
    refine ⟨moves, ?_, hsorted, Move.nodup_of_pairwise hsorted, hmem⟩
    have whole := run []
    rw [List.append_nil] at whole
    rw [hooked, whole]
    simp only [extendedMoves, pure, List.append_nil]
  · intro front call behind hasked grants fails
    obtain ⟨moves, hsorted, hmem, run⟩ := extendedMoves_append grants sorted
    obtain ⟨fault, id, origin, log, failed, silent, blames⟩ := askedMoves_of_not_grants fails moves
    refine ⟨moves, fault, id, origin, log, ?_, silent, blames, hsorted,
      Move.nodup_of_pairwise hsorted, hmem⟩
    rw [hooked, hasked, run]
    simp only [extendedMoves, bind, failed, List.flatMap_append, List.flatMap_singleton,
      List.append_assoc]

/-- A piece that goes one square along a row or column, and further where a hook lets it. -/
def ferry : Catalogue where
  entries := [("f", {
    name := "ferry"
    rules := [.mk { distance := .exact 1 } [.heading .orthogonal] none]
    extraMoves := some "cross" })]

theorem compiled_ferry : ferry.Compiled := by
  refine List.forall_mem_singleton.2 ⟨"1+", ?_⟩
  rfl

/-- The ferry at the top may cross to two squares, one of which it reaches anyway; the other one's
answer is no square, so the third one is not asked for. -/
def crossing : ExtraMoves := fun _ origin _ =>
  ⟨.ok (if origin = ⟨1, 0⟩ then [.list [.int 0, .int 1], .pair (.int 0) (.int 0)] else [.text "ashore"]),
    [.asked origin]⟩

/-- What has been found when the second ferry's call fails: all steps, and one crossing of the first. -/
theorem pseudoLegalMoves_extended_ferry :
    let b := Board.ofRows [[none, some ⟨"f", .white, false⟩, some ⟨"f", .black, true⟩],
      [none, none, none], [some ⟨"f", .white, false⟩, none, some ⟨"f", .white, false⟩]]
    ferry.Compiled ∧ (∀ p ∈ b.piecesOf .white, p.2.symbol ∈ ferry.symbols) ∧
    crossing.Grants b (⟨1, 0⟩, "cross") ∧ ¬ crossing.Grants b (⟨0, 2⟩, "cross") ∧
    ∃ found asked, Extended ferry b .white crossing found asked := by
  intro b
  have known : ∀ p ∈ b.piecesOf .white, p.2.symbol ∈ ferry.symbols := by decide
  refine ⟨compiled_ferry, known, ⟨_, rfl, ?_⟩, ?_, pseudoLegalMoves_extended compiled_ferry known crossing⟩
  · intro answer hanswer
    rcases List.mem_cons.1 hanswer with rfl | hanswer
    · exact ⟨⟨0, 1⟩, .inl rfl, by decide⟩
    · obtain rfl := List.mem_singleton.1 hanswer
      exact ⟨⟨0, 0⟩, .inr rfl, by decide⟩
  · rintro ⟨answers, given, squares⟩
    obtain rfl : [Datum.text "ashore"] = answers := Except.ok.inj given
    obtain ⟨s, square | square, -⟩ := squares _ (List.mem_singleton_self _)
    · cases square
    · cases square

end VariantChess
