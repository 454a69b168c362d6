import VariantChess.Proofs.Board.Stuck
import VariantChess.Proofs.Datum
import VariantChess.Proofs.Decimal
import VariantChess.Proofs.Movement.Stuck
import VariantChess.Proofs.Ruleset.Described

/-!
# Descriptions that are refused

A description makes a ruleset or is refused as one, whatever it holds, with three exceptions: the reader
of its board or of the moves of a piece can get stuck at digits that are no number; an integer may be too
large for the value of a piece; and an integer in the name of a piece, or in a key that is to be refused,
may have too many digits to be written. None of these failures is turned into a refusal of the
description. They are met only if all that is checked before is in order (`Unconvertible`), and never
without such digits or such an integer (`Offends`).

What a part of the reader needs to give a result, and what it needs to fail in this way, is stated
together (`Report.Answers`), so that the conditions are put together as the reader is put together of
its parts.
-/

namespace VariantChess

/-- Digits are no number, or an integer is too large or too long. -/
def Error.IsConversion (e : Error) : Prop := (∃ fault, e = .number fault) ∨ e = .tooLarge ∨ e = .unwritten

namespace Report

variable {α β : Type} {x : Report α} {f : α → Report β} {good bad good' bad' : Prop}

/-- The computation fails to convert something exactly if `bad` holds; all its other failures refuse a
description. -/
structure Sticks (x : Report α) (bad : Prop) : Prop where
  stuck : (∃ e, x.result = .error e ∧ e.IsConversion) ↔ bad
  refused : ∀ e, x.result = .error e → e.IsConversion ∨ ∃ fault source, e = .ruleset fault source

/-- Moreover the computation gives a result exactly if `good` holds. -/
structure Answers (x : Report α) (good bad : Prop) : Prop extends x.Sticks bad where
  result : (∃ a, x.result = .ok a) ↔ good

theorem Sticks.congr (h : x.Sticks bad) (hbad : bad ↔ bad') : x.Sticks bad' :=
  ⟨h.stuck.trans hbad, h.refused⟩

theorem Answers.congr (h : x.Answers good bad) (hgood : good ↔ good') (hbad : bad ↔ bad') :
    x.Answers good' bad' :=
  ⟨h.toSticks.congr hbad, h.result.trans hgood⟩

theorem Answers.of_ok {a : α} (h : x.result = .ok a) : x.Answers True False where
  stuck := iff_false_intro (by simp [h])
  refused := by simp [h]
  result := iff_true_intro ⟨a, h⟩

theorem Answers.of_refused {fault : RulesetFault} {source : Option String}
    (h : x.result = .error (.ruleset fault source)) : x.Answers False False where
  stuck := iff_false_intro (by simp [h, Error.IsConversion])
  refused := by
    intro e he
    rw [h] at he
    cases he
    exact .inr ⟨fault, source, rfl⟩
  result := iff_false_intro (by simp [h])

theorem Answers.of_conversion {e : Error} (h : x.result = .error e) (he : e.IsConversion) :
    x.Answers False True where
  stuck := iff_true_intro ⟨e, h, he⟩
  refused := by
    intro e' he'
    rw [h] at he'
    cases he'
    exact .inl he
  result := iff_false_intro (by simp [h])

theorem Answers.sticks_bind (h : x.Answers good bad)
    (hf : ∀ a, x.result = .ok a → (f a).Sticks bad') : (x >>= f).Sticks (bad ∨ good ∧ bad') := by
  cases hx : x.result with
  | error e =>
    have same : (x >>= f).result = .error e := by simp [Bind.bind, hx]
    have failed : ¬ good := fun hgood => by simpa [hx] using h.result.2 hgood
    constructor
    · simpa [same, failed, hx] using h.stuck
    · simpa [same, hx] using h.refused
  | ok a =>
    have same : (x >>= f).result = (f a).result := by simp [Bind.bind, hx]
    have found : good := h.result.1 ⟨a, hx⟩
    have free : ¬ bad := fun hbad => by simpa [hx] using h.stuck.2 hbad
    rw [or_iff_right free, and_iff_right found]
    exact ⟨same ▸ (hf a hx).stuck, same ▸ (hf a hx).refused⟩

theorem Answers.bind (h : x.Answers good bad)
    (hf : ∀ a, x.result = .ok a → (f a).Answers good' bad') :
    (x >>= f).Answers (good ∧ good') (bad ∨ good ∧ bad') where
  toSticks := h.sticks_bind fun a ha => (hf a ha).toSticks
  result := by
    rw [← h.result]
    constructor
    · rintro ⟨b, hb⟩
      obtain ⟨a, ha, hb⟩ := result_bind_eq_ok_iff.1 hb
      exact ⟨⟨a, ha⟩, (hf a ha).result.1 ⟨b, hb⟩⟩
    · rintro ⟨⟨a, ha⟩, found⟩
      obtain ⟨b, hb⟩ := (hf a ha).result.2 found
      exact ⟨b, result_bind_eq_ok_iff.2 ⟨a, ha, hb⟩⟩

end Report

namespace Ruleset

open Report

variable {symbol moves : String} {source : Option String} {fields : List (Datum × Datum)}

theorem answers_refuse {α : Type} (values : List Datum) (fault : RulesetFault) (source : Option String) :
    (refuse (α := α) values fault source).Answers False (¬ Datum.areWritable values) := by
  rw [refuse]
  split
  · rename_i writable
    exact (Answers.of_refused rfl).congr .rfl (iff_of_false id fun h => h writable)
  · rename_i unwritten
    exact (Answers.of_conversion rfl (.inr (.inr rfl))).congr .rfl (iff_of_true trivial unwritten)

/-! ### Pieces -/

/-- What stands under the key of a hook names one or none. -/
def IsHook : Option Datum → Prop
  | none => True
  | some .null => True
  | some (.text _) => True
  | _ => False

/-- The description of a piece is in order but for what its name, its value and its moves say. -/
structure Presents (fields : List (Datum × Datum)) (moves : String) : Prop where
  known : Datum.strangers pieceKeys fields = []
  moves : Datum.lookup? fields "moves" = some (.text moves)
  numeric : isNumeric (Datum.lookup? fields "value")
  royal : ∃ royal, (Datum.lookup? fields "royal").getD (.bool false) = .bool royal
  hooks : ∀ occasion : Occasion, IsHook (Datum.lookup? fields occasion.key)

/-- The name holds an integer that is too long. -/
def Unwritten (name : Option Datum) : Prop := ∃ d, name = some d ∧ ¬ d.isWritable

/-- The value is an integer that is too large. -/
def TooLarge (value : Option Datum) : Prop := ∃ n, value = some (.int n) ∧ Double.Exceeds n

/-- A kind of piece is described. -/
def Describes (fields : List (Datum × Datum)) : Prop :=
  ∃ moves, Presents fields moves ∧ ¬ Unwritten (Datum.lookup? fields "name") ∧
    ¬ TooLarge (Datum.lookup? fields "value") ∧ ∃ rules, Movement.compilePiece moves = .ok rules

/-- The name, the value or the moves of a piece cannot be converted, or a key that it should not have. -/
def Stumbles (fields : List (Datum × Datum)) : Prop :=
  ¬ Datum.areWritable (Datum.strangers pieceKeys fields) ∨
    ∃ moves, Presents fields moves ∧ (Unwritten (Datum.lookup? fields "name") ∨
      TooLarge (Datum.lookup? fields "value") ∨ Movement.PieceStuck moves.toList)

theorem answers_hookOf? (symbol : String) (source : Option String) (fields : List (Datum × Datum))
    (occasion : Occasion) :
    (Report.of (hookOf? symbol source fields occasion)).Answers
      (IsHook (Datum.lookup? fields occasion.key)) False := by
  rw [hookOf?]
  split <;> rename_i h
  · exact (Answers.of_ok rfl).congr (by simp [h, IsHook]) .rfl
  · exact (Answers.of_ok rfl).congr (by simp [h, IsHook]) .rfl
  · exact (Answers.of_ok rfl).congr (by simp [h, IsHook]) .rfl
  · rename_i d _ _
    refine (Answers.of_refused rfl).congr (iff_of_false id ?_) .rfl
    cases d <;> simp_all [IsHook]

theorem answers_nameOf (symbol : String) (name : Option Datum) :
    (Report.of (nameOf symbol name)).Answers (¬ Unwritten name) (Unwritten name) := by
  cases name with
  | none => exact (Answers.of_ok rfl).congr (by simp [Unwritten]) (by simp [Unwritten])
  | some d =>
    rw [nameOf]
    split
    · rename_i writable
      exact (Answers.of_ok rfl).congr (by simp [Unwritten, writable]) (by simp [Unwritten, writable])
    · rename_i unwritten
      exact (Answers.of_conversion rfl (.inr (.inr rfl))).congr (by simp [Unwritten, unwritten])
        (by simp [Unwritten, unwritten])

theorem tooLarge_int_iff {n : Int} : TooLarge (some (.int n)) ↔ Double.ofInt? n = none := by
  rw [Double.ofInt?_eq_none_iff]
  constructor
  · rintro ⟨n', hn, large⟩
    cases hn
    exact large
  · exact fun large => ⟨n, rfl, large⟩

theorem answers_valueOf {value : Option Datum} (numeric : isNumeric value) :
    (Report.of (valueOf symbol source value)).Answers (¬ TooLarge value) (TooLarge value) := by
  have large : ∀ n, TooLarge (some (.int n)) ↔ Double.ofInt? n = none := fun n => tooLarge_int_iff
  unfold valueOf
  -- the conversion is opaque from here on: nothing is to evaluate it
  obtain ⟨convert, hconvert⟩ : ∃ convert, Double.ofInt? = convert := ⟨_, rfl⟩
  rw [hconvert] at large ⊢
  cases value with
  | none => exact (Answers.of_ok rfl).congr (by simp [TooLarge]) (by simp [TooLarge])
  | some d =>
    cases d with
    | float x => exact (Answers.of_ok rfl).congr (by simp [TooLarge]) (by simp [TooLarge])
    | int n =>
      simp only [large]
      cases convert n with
      | some value => exact (Answers.of_ok rfl).congr (by simp) (by simp)
      | none => exact (Answers.of_conversion rfl (.inr (.inl rfl))).congr (by simp) (by simp)
    | _ => cases numeric

theorem answers_rulesOf (symbol : String) (source : Option String) (moves : String) :
    (rulesOf symbol source moves).Answers (∃ rules, Movement.compilePiece moves = .ok rules)
      (Movement.PieceStuck moves.toList) := by
  rw [← Movement.exists_compilePiece_number_iff, rulesOf, Movement.compileLogged]
  cases h : Movement.compilePiece moves with
  | ok rules => exact (Answers.of_ok rfl).congr (by simp) (by simp)
  | error e =>
    cases e with
    | malformed fault text offset => exact (Answers.of_refused rfl).congr (by simp) (by simp)
    | number fault => exact (Answers.of_conversion rfl (.inl ⟨fault, rfl⟩)).congr (by simp) (by simp)

theorem answers_of_not_presents {fault : RulesetFault} (known : Datum.strangers pieceKeys fields = [])
    (h : ∀ moves, ¬ Presents fields moves) :
    (Report.fail (α := PieceKind) (.ruleset fault source)).Answers (Describes fields) (Stumbles fields) := by
  refine (Answers.of_refused rfl).congr (iff_of_false id ?_) (iff_of_false id ?_)
  · rintro ⟨moves, hp, -⟩
    exact h moves hp
  · rintro (unwritten | ⟨moves, hp, -⟩)
    · rw [known] at unwritten
      exact unwritten rfl
    · exact h moves hp

/-! What is in order of a piece whose moves are a text is in order for that text. -/

section
variable (hmoves : Datum.lookup? fields "moves" = some (.text moves))
include hmoves

theorem Presents.moves_eq {moves' : String} (h : Presents fields moves') : moves' = moves := by
  simpa [hmoves] using h.moves.symm

theorem describes_iff : Describes fields ↔ Presents fields moves ∧
    ¬ Unwritten (Datum.lookup? fields "name") ∧ ¬ TooLarge (Datum.lookup? fields "value") ∧
      ∃ rules, Movement.compilePiece moves = .ok rules := by
  constructor
  · rintro ⟨moves', h, described⟩
    obtain rfl := h.moves_eq hmoves
    exact ⟨h, described⟩
  · rintro ⟨h, described⟩
    exact ⟨moves, h, described⟩

theorem stumbles_iff (known : Datum.strangers pieceKeys fields = []) :
    Stumbles fields ↔ Presents fields moves ∧ (Unwritten (Datum.lookup? fields "name") ∨
      TooLarge (Datum.lookup? fields "value") ∨ Movement.PieceStuck moves.toList) := by
  constructor
  · rintro (unwritten | ⟨moves', h, stuck⟩)
    · rw [known] at unwritten
      exact absurd rfl unwritten
    · obtain rfl := h.moves_eq hmoves
      exact ⟨h, stuck⟩
  · rintro ⟨h, stuck⟩
    exact .inr ⟨moves, h, stuck⟩

theorem presents_iff {royal : Bool} (known : Datum.strangers pieceKeys fields = [])
    (numeric : isNumeric (Datum.lookup? fields "value"))
    (hroyal : (Datum.lookup? fields "royal").getD (.bool false) = .bool royal) :
    Presents fields moves ↔ IsHook (Datum.lookup? fields Occasion.afterMove.key) ∧
      IsHook (Datum.lookup? fields Occasion.afterCapture.key) ∧
      IsHook (Datum.lookup? fields Occasion.extraMoves.key) := by
  constructor
  · intro h
    exact ⟨h.hooks .afterMove, h.hooks .afterCapture, h.hooks .extraMoves⟩
  · rintro ⟨afterMove, afterCapture, extraMoves⟩
    refine ⟨known, hmoves, numeric, ⟨royal, hroyal⟩, fun occasion => ?_⟩
    cases occasion with
    | extraMoves => exact extraMoves
    | afterMove => exact afterMove
    | afterCapture => exact afterCapture

end

theorem answers_kindOf (symbol : String) (source : Option String) (fields : List (Datum × Datum)) :
    (kindOf symbol source fields).Answers (Describes fields) (Stumbles fields) := by
  unfold kindOf
  dsimp only
  split
  · rename_i strange
    have strange : Datum.strangers pieceKeys fields ≠ [] := by
      simpa [Datum.strangeKeys_eq_nil_iff] using strange
    refine (answers_refuse _ _ _).congr (iff_of_false id ?_) ⟨.inl, fun stuck => ?_⟩
    · rintro ⟨moves, h, -⟩
      exact strange h.known
    · exact stuck.resolve_right fun ⟨moves, h, _⟩ => strange h.known
  rename_i known
  have known : Datum.strangers pieceKeys fields = [] := by
    simpa [Datum.strangeKeys_eq_nil_iff] using known
  split
  · rename_i moves hmoves
    split
    · rename_i value
      exact answers_of_not_presents known fun moves' h => by simp [h.numeric] at value
    rename_i numeric
    have numeric : isNumeric (Datum.lookup? fields "value") := by simpa using numeric
    split
    · rename_i royal hroyal
      have hooks := answers_hookOf? symbol source fields
      have presents := presents_iff hmoves known numeric hroyal
      refine ((hooks .afterMove).bind fun _ _ => (hooks .afterCapture).bind fun _ _ =>
        (hooks .extraMoves).bind fun _ _ => (answers_nameOf symbol _).bind fun _ _ =>
        (answers_valueOf numeric).bind fun _ _ =>
        (answers_rulesOf symbol source moves).bind fun _ _ => Answers.of_ok rfl).congr ?_ ?_
      · rw [describes_iff hmoves, presents]
        tauto
      · rw [stumbles_iff hmoves known, presents]
        tauto
    · rename_i royal
      refine answers_of_not_presents known fun moves' h => ?_
      obtain ⟨b, hb⟩ := h.royal
      exact royal b hb
  · rename_i noMoves
    exact answers_of_not_presents known fun moves h => noMoves moves h.moves

/-! ### Lists of pieces -/

variable {entry : Datum × Datum} {pieces : List (Datum × Datum)}

/-- The entry is that of a piece with a symbol and these fields. -/
structure Names (entry : Datum × Datum) (symbol : String) (fields : List (Datum × Datum)) : Prop where
  key : entry.1 = .text symbol
  isWord : Text.isWord symbol.toList
  isLower : Text.isLower symbol.toList
  mapping : entry.2.opened = .mapping fields

/-- All entries describe pieces. -/
def AllDescribed (pieces : List (Datum × Datum)) : Prop :=
  ∀ entry ∈ pieces, ∃ symbol fields, Names entry symbol fields ∧ Describes fields

/-- Something in an entry cannot be converted, be it what stands for a symbol. -/
def EntryStumbles (entry : Datum × Datum) : Prop :=
  ¬ entry.1.isWritable ∨ ∃ symbol fields, Names entry symbol fields ∧ Stumbles fields

/-- Something in an entry cannot be converted, and the entries before it describe pieces. -/
def SomeStumbles (pieces : List (Datum × Datum)) : Prop :=
  ∃ front entry behind, pieces = front ++ entry :: behind ∧ AllDescribed front ∧ EntryStumbles entry

/-- The symbols of the pieces in their order. -/
def symbolsIn (pieces : List (Datum × Datum)) : List String :=
  pieces.filterMap fun entry =>
    match entry.1 with
    | .text symbol => some symbol
    | _ => none

theorem Names.fields_eq {symbol' : String} {fields' : List (Datum × Datum)}
    (h : Names entry symbol fields) (h' : Names entry symbol' fields') : fields = fields' := by
  simpa [h.mapping] using h'.mapping

theorem allDescribed_cons_iff (h : Names entry symbol fields) :
    AllDescribed (entry :: pieces) ↔ Describes fields ∧ AllDescribed pieces := by
  rw [AllDescribed, List.forall_mem_cons]
  refine and_congr_left fun _ => ⟨?_, fun described => ⟨symbol, fields, h, described⟩⟩
  rintro ⟨symbol', fields', h', described⟩
  obtain rfl := h.fields_eq h'
  exact described

theorem entryStumbles_iff (h : Names entry symbol fields) : EntryStumbles entry ↔ Stumbles fields := by
  constructor
  · rintro (unwritten | ⟨symbol', fields', h', stuck⟩)
    · rw [h.key] at unwritten
      exact absurd rfl unwritten
    · obtain rfl := h.fields_eq h'
      exact stuck
  · exact fun stuck => .inr ⟨symbol, fields, h, stuck⟩

theorem someStumbles_cons : SomeStumbles (entry :: pieces) ↔
    EntryStumbles entry ∨ AllDescribed [entry] ∧ SomeStumbles pieces := by
  constructor
  · rintro ⟨front, entry', behind, parts, described, stuck⟩
    rcases List.cons_eq_append_iff.1 parts with ⟨rfl, hcons⟩ | ⟨front, rfl, rfl⟩
    · cases hcons
      exact .inl stuck
    · obtain ⟨first, others⟩ := List.forall_mem_cons.1 described
      exact .inr ⟨List.forall_mem_singleton.2 first, front, entry', behind, rfl, others, stuck⟩
  · rintro (stuck | ⟨first, front, entry', behind, rfl, others, stuck⟩)
    · exact ⟨[], entry, pieces, rfl, List.forall_mem_nil _, stuck⟩
    · exact ⟨entry :: front, entry', behind, rfl,
        List.forall_mem_cons.2 ⟨first entry List.mem_cons_self, others⟩, stuck⟩

theorem someStumbles_cons_iff (h : Names entry symbol fields) :
    SomeStumbles (entry :: pieces) ↔ Stumbles fields ∨ Describes fields ∧ SomeStumbles pieces := by
  have first : AllDescribed [entry] ↔ Describes fields := by
    rw [allDescribed_cons_iff h]
    exact and_iff_left (List.forall_mem_nil _)
  rw [someStumbles_cons, entryStumbles_iff h, first]

theorem not_allDescribed_cons (h : ∀ symbol fields, ¬ Names entry symbol fields) :
    ¬ AllDescribed (entry :: pieces) := by
  intro described
  obtain ⟨symbol, fields, hnames, -⟩ := described entry List.mem_cons_self
  exact h symbol fields hnames

theorem someStumbles_cons_iff_of_not_names (h : ∀ symbol fields, ¬ Names entry symbol fields) :
    SomeStumbles (entry :: pieces) ↔ ¬ entry.1.isWritable := by
  rw [someStumbles_cons, or_iff_left fun both => not_allDescribed_cons h both.1]
  exact or_iff_left fun ⟨symbol, fields, hnames, _⟩ => h symbol fields hnames

/-- What is no symbol is refused with it, if it can be written. -/
theorem answers_of_bad_symbol {key value : Datum} {fault : RulesetFault}
    (h : ∀ symbol fields, ¬ Names (key, value) symbol fields) :
    (refuse (α := List (String × PieceKind)) [key] fault source).Answers
      (AllDescribed ((key, value) :: pieces)) (SomeStumbles ((key, value) :: pieces)) := by
  refine (answers_refuse _ _ _).congr (iff_of_false id (not_allDescribed_cons h)) ?_
  rw [someStumbles_cons_iff_of_not_names h, Datum.areWritable_iff, List.forall_mem_singleton]

theorem answers_kindsOf (source : Option String) (pieces : List (Datum × Datum)) :
    (kindsOf source pieces).Answers (AllDescribed pieces) (SomeStumbles pieces) := by
  induction pieces with
  | nil =>
    refine (Answers.of_ok rfl).congr (iff_of_true trivial (List.forall_mem_nil _)) (iff_of_false id ?_)
    rintro ⟨front, entry, behind, parts, -⟩
    cases front <;> cases parts
  | cons entry pieces ih =>
    obtain ⟨key, value⟩ := entry
    unfold kindsOf
    split
    · rename_i symbol
      split
      · rename_i spelled
        refine answers_of_bad_symbol fun symbol' fields h => ?_
        obtain rfl : symbol = symbol' := by simpa using h.key
        simp [h.isWord, h.isLower] at spelled
      rename_i spelled
      split
      · rename_i fields hfields
        have h : Names (.text symbol, value) symbol fields :=
          ⟨rfl, by simp_all, by simp_all, hfields⟩
        refine ((answers_kindOf symbol source fields).bind fun _ _ => ih.bind fun _ _ =>
          Answers.of_ok rfl).congr ?_ ?_
        · rw [allDescribed_cons_iff h, and_true]
        · rw [someStumbles_cons_iff h, and_false, or_false]
      · rename_i noMapping
        have unnamed : ∀ symbol' fields, ¬ Names (.text symbol, value) symbol' fields :=
          fun _ fields h => noMapping fields h.mapping
        refine (Answers.of_refused rfl).congr (iff_of_false id (not_allDescribed_cons unnamed)) ?_
        rw [someStumbles_cons_iff_of_not_names unnamed]
        exact iff_of_false id fun unwritten => unwritten rfl
    · rename_i noText
      exact answers_of_bad_symbol fun symbol _ h => noText symbol h.key

theorem symbols_of_kindsOf {kinds : List (String × PieceKind)}
    (h : (kindsOf source pieces).result = .ok kinds) :
    (Catalogue.mk kinds).symbols = symbolsIn pieces := by
  induction pieces generalizing kinds with
  | nil => cases h; rfl
  | cons entry pieces ih =>
    obtain ⟨key, value⟩ := entry
    unfold kindsOf at h
    split at h
    · rename_i symbol
      split at h
      · exact absurd h result_refuse_ne_ok
      split at h
      · obtain ⟨kind, -, h⟩ := Report.result_bind_eq_ok_iff.1 h
        obtain ⟨rest, hrest, h⟩ := Report.result_bind_eq_ok_iff.1 h
        cases h
        exact congrArg (symbol :: ·) (ih hrest)
      · cases h
    · exact absurd h result_refuse_ne_ok

/-! ### Boards and colors -/

theorem answers_boardOf (source : Option String) (catalogue : Catalogue) (text : String) :
    (Report.of (boardOf source catalogue text)).Answers
      (∃ board, Board.read text (some catalogue.symbols) = .ok board)
      (Board.Stuck (some catalogue.symbols) text) := by
  rw [← Board.exists_read_number_iff, boardOf]
  cases h : Board.read text (some catalogue.symbols) with
  | ok board => exact (Answers.of_ok rfl).congr (by simp) (by simp)
  | error e =>
    cases e with
    | malformed fault text offset => exact (Answers.of_refused rfl).congr (by simp) (by simp)
    | number fault => exact (Answers.of_conversion rfl (.inl ⟨fault, rfl⟩)).congr (by simp) (by simp)

/-- The check only ever refuses a description. -/
def Refuses {α : Type} (x : Except Error α) : Prop :=
  ∀ e, x = .error e → ∃ fault source, e = .ruleset fault source

theorem Refuses.answers {α : Type} {x : Except Error α} (h : Refuses x) :
    (Report.of x).Answers (∃ a, x = .ok a) False where
  stuck := iff_false_intro fun ⟨e, he, conversion⟩ => by
    obtain ⟨fault, source, rfl⟩ := h e he
    simp [Error.IsConversion] at conversion
  refused e he := .inr (h e he)
  result := .rfl

theorem refuses_colorsNamed (source : Option String) (names : List String) :
    Refuses (colorsNamed source names) := by
  induction names with
  | nil => rintro e ⟨⟩
  | cons name names ih =>
    intro e he
    rw [colorsNamed] at he
    split at he
    · cases he
      exact ⟨_, _, rfl⟩
    · exact ih e (map_eq_error_iff.1 he)

theorem refuses_colorsOf (source : Option String) (colors : Option Datum) :
    Refuses (colorsOf source colors) := by
  intro e he
  rw [colorsOf] at he
  split at he
  · cases he
  · split at he
    · exact refuses_colorsNamed _ _ e he
    · cases he
      exact ⟨_, _, rfl⟩
  · cases he
    exact ⟨_, _, rfl⟩

theorem refuses_make (name : String) (catalogue : Catalogue) (board : Board) (colors : List Color) :
    Refuses (make name catalogue board colors) := by
  intro e he
  unfold make at he
  split at he
  · cases he
    exact ⟨_, _, rfl⟩
  split at he
  · split at he
    · cases he
      exact ⟨_, _, rfl⟩
    · cases he
  · cases he
    exact ⟨_, _, rfl⟩

/-! ### Whole descriptions -/

/-- The description is a mapping with a name and pieces and without strange keys. -/
structure Outlines (description : Datum) (entries pieces : List (Datum × Datum)) : Prop where
  mapping : description.opened = .mapping entries
  known : Datum.strangers rulesetKeys entries = []
  named : ∃ name, Datum.lookup? entries "name" = some (.text name) ∧ Text.strip name.toList ≠ []
  listed : (Datum.lookup? entries "pieces").map Datum.opened = some (.mapping pieces)
  nonempty : pieces ≠ []

/-- The reader of the board gets stuck. -/
def BoardStumbles (entries pieces : List (Datum × Datum)) : Prop :=
  ∃ text, Datum.lookup? entries "board" = some (.text text) ∧ Board.Stuck (some (symbolsIn pieces)) text

/-- Something in a piece, in the board or in a strange key cannot be converted, and all that is checked
before is in order. -/
def Unconvertible (description : Datum) : Prop :=
  ∃ entries, description.opened = .mapping entries ∧
    (¬ Datum.areWritable (Datum.strangers rulesetKeys entries) ∨
      ∃ pieces, Outlines description entries pieces ∧
        (SomeStumbles pieces ∨ AllDescribed pieces ∧ BoardStumbles entries pieces))

theorem Outlines.unconvertible_iff {description : Datum} {entries : List (Datum × Datum)}
    (h : Outlines description entries pieces) : Unconvertible description ↔
      SomeStumbles pieces ∨ AllDescribed pieces ∧ BoardStumbles entries pieces := by
  constructor
  · rintro ⟨entries', hentries', unwritten | ⟨pieces', h', stuck⟩⟩
    · obtain rfl : entries = entries' := by simpa [h.mapping] using hentries'
      rw [h.known] at unwritten
      exact absurd rfl unwritten
    · obtain rfl : entries = entries' := by simpa [h.mapping] using h'.mapping
      obtain rfl : pieces = pieces' := by simpa [h.listed] using h'.listed
      exact stuck
  · exact fun stuck => ⟨entries, h.mapping, .inr ⟨pieces, h, stuck⟩⟩

theorem sticks_of_not_outlines {description : Datum} {entries : List (Datum × Datum)}
    {fault : RulesetFault} (hentries : description.opened = .mapping entries)
    (known : Datum.strangers rulesetKeys entries = [])
    (h : ∀ pieces, ¬ Outlines description entries pieces) :
    (Report.fail (α := Ruleset) (.ruleset fault source)).Sticks (Unconvertible description) := by
  refine (Answers.of_refused rfl).toSticks.congr (iff_of_false id ?_)
  rintro ⟨entries', hentries', stuck⟩
  obtain rfl : entries = entries' := by simpa [hentries] using hentries'
  rcases stuck with unwritten | ⟨pieces, outlines, -⟩
  · rw [known] at unwritten
    exact unwritten rfl
  · exact h pieces outlines

theorem sticks_ofDatum (description : Datum) (source : Option String) :
    (ofDatum description source).Sticks (Unconvertible description) := by
  unfold ofDatum
  split
  · rename_i entries hentries
    dsimp only
    split
    · rename_i strange
      have strange : Datum.strangers rulesetKeys entries ≠ [] := by
        simpa [Datum.strangeKeys_eq_nil_iff] using strange
      refine (answers_refuse _ _ _).toSticks.congr ⟨fun unwritten => ⟨entries, hentries, .inl unwritten⟩, ?_⟩
      rintro ⟨entries', hentries', stuck⟩
      obtain rfl : entries = entries' := by simpa [hentries] using hentries'
      exact stuck.resolve_right fun ⟨pieces, h, _⟩ => strange h.known
    rename_i known
    have known : Datum.strangers rulesetKeys entries = [] := by
      simpa [Datum.strangeKeys_eq_nil_iff] using known
    split
    · rename_i name hname
      split
      · rename_i blank
        refine sticks_of_not_outlines hentries known fun pieces h => ?_
        obtain ⟨name', hname', visible⟩ := h.named
        obtain rfl : name = name' := by simpa [hname] using hname'
        simp [visible] at blank
      rename_i visible
      split
      · rename_i piece pieces hpieces
        have outlines : Outlines description entries (piece :: pieces) :=
          ⟨hentries, known, ⟨name, hname, by simpa using visible⟩, hpieces, List.cons_ne_nil piece pieces⟩
        refine ((answers_kindsOf _ _).sticks_bind fun kinds hkinds => ?_).congr
          outlines.unconvertible_iff.symm
        split
        · rename_i text htext
          have board := answers_boardOf (some ((source.filter (· ≠ "")).getD name)) ⟨kinds⟩ text
          refine (board.sticks_bind fun board _ =>
            (refuses_colorsOf _ _).answers.sticks_bind fun colors _ =>
              (refuses_make name ⟨kinds⟩ board colors).answers.toSticks).congr ?_
          rw [symbols_of_kindsOf hkinds]
          simp [BoardStumbles, htext]
        · rename_i noText
          refine (Answers.of_refused rfl).toSticks.congr (iff_of_false id ?_)
          rintro ⟨text, htext, -⟩
          exact noText text htext
      · rename_i noPieces
        refine sticks_of_not_outlines hentries known fun pieces h => ?_
        obtain ⟨piece, pieces, rfl⟩ := List.exists_cons_of_ne_nil h.nonempty
        exact noPieces piece pieces h.listed
    · rename_i noName
      refine sticks_of_not_outlines hentries known fun pieces h => ?_
      obtain ⟨name, hname, -⟩ := h.named
      exact noName name hname
  · rename_i noMapping
    refine (Answers.of_refused rfl).toSticks.congr (iff_of_false id ?_)
    rintro ⟨entries, hentries, -⟩
    exact noMapping entries hentries

/-! ### What stands in the way -/

/-- The moves of a piece have a digit that is no decimal digit or too many digits in a row, or its value is
an integer that is too large. -/
def PieceOffends (fields : List (Datum × Datum)) : Prop :=
  (∃ moves, Datum.lookup? fields "moves" = some (.text moves) ∧
    (Text.Undecimal moves.toList ∨ Text.Overlong moves.toList)) ∨ TooLarge (Datum.lookup? fields "value")

/-- The digits of the text of a board are not all decimal ones, are too many in a row, or make up a number
that is too large. -/
def BoardOffends (text : String) : Prop :=
  Text.Undecimal text.toList ∨ Text.Overlong (Text.compact text.toList) ∨
    Board.Oversized (Text.compact text.toList)

/-- There is an integer with too many digits, or the text of the board or a piece offends. -/
def Offends (description : Datum) : Prop :=
  ¬ description.isWritable ∨ ∃ entries, description.opened = .mapping entries ∧
    ((∃ text, Datum.lookup? entries "board" = some (.text text) ∧ BoardOffends text) ∨
      ∃ pieces, (Datum.lookup? entries "pieces").map Datum.opened = some (.mapping pieces) ∧
        ∃ entry ∈ pieces, ∃ fields, entry.2.opened = .mapping fields ∧ PieceOffends fields)

theorem Stumbles.offends (h : Stumbles fields) :
    ¬ (Datum.mapping fields).isWritable ∨ PieceOffends fields := by
  obtain unwritten | ⟨moves, presents, ⟨name, hname, unwritten⟩ | large | stuck⟩ := h
  · exact .inl fun writable => unwritten (Datum.areWritable_strangers writable)
  · exact .inl fun writable => unwritten (Datum.isWritable_of_lookup? writable hname)
  · exact .inr (.inr large)
  · exact .inr (.inl ⟨moves, presents.moves, stuck.undecimal_or_overlong⟩)

theorem EntryStumbles.offends (h : EntryStumbles entry) : ¬ (entry.1.isWritable ∧ entry.2.isWritable) ∨
    ∃ fields, entry.2.opened = .mapping fields ∧ PieceOffends fields := by
  obtain unwritten | ⟨symbol, fields, names, stuck⟩ := h
  · exact .inl fun writable => unwritten writable.1
  rcases stuck.offends with unwritten | offends
  · refine .inl fun writable => unwritten ?_
    rw [← names.mapping, Datum.isWritable_opened]
    exact writable.2
  · exact .inr ⟨fields, names.mapping, offends⟩

theorem Outlines.isWritable {description : Datum} {entries : List (Datum × Datum)}
    (h : Outlines description entries pieces) (writable : description.isWritable) :
    (Datum.mapping pieces).isWritable := by
  obtain ⟨d, hd, hopened⟩ := Option.map_eq_some_iff.1 h.listed
  rw [← Datum.isWritable_opened, h.mapping] at writable
  rw [← hopened, Datum.isWritable_opened]
  exact Datum.isWritable_of_lookup? writable hd

theorem Unconvertible.offends {description : Datum} (h : Unconvertible description) :
    Offends description := by
  obtain ⟨entries, hentries, unwritten | ⟨pieces, outlines, stuck⟩⟩ := h
  · refine .inl fun writable => unwritten (Datum.areWritable_strangers ?_)
    rwa [← hentries, Datum.isWritable_opened]
  obtain ⟨front, entry, behind, rfl, -, stuck⟩ | ⟨-, text, htext, stuck⟩ := stuck
  · have hmem : entry ∈ front ++ entry :: behind := List.mem_append_right front List.mem_cons_self
    rcases stuck.offends with unwritten | ⟨fields, hfields, offends⟩
    · exact .inl fun writable =>
        unwritten (Datum.isWritable_mapping_iff.1 (outlines.isWritable writable) entry hmem)
    · exact .inr ⟨entries, hentries, .inr ⟨_, outlines.listed, entry, hmem, fields, hfields, offends⟩⟩
  · exact .inr ⟨entries, hentries, .inl ⟨text, htext, stuck.cause⟩⟩

/-- A description makes a ruleset or is refused as one, unless it is unconvertible. Then its reading
fails otherwise, and there are digits in it that are no number or an integer that is too large. -/
theorem made_or_refused_iff (description : Datum) (source : Option String) :
    (((∃ r, (ofDatum description source).result = .ok r) ∨
        ∃ fault place, (ofDatum description source).result = .error (.ruleset fault place)) ↔
      ¬ Unconvertible description) ∧
    (Unconvertible description →
      (∃ e, (ofDatum description source).result = .error e ∧ e.IsConversion) ∧ Offends description) := by
  obtain ⟨stuck, refused⟩ := sticks_ofDatum description source
  refine ⟨⟨?_, fun free => ?_⟩, fun h => ⟨stuck.2 h, h.offends⟩⟩
  · rintro (⟨r, h⟩ | ⟨fault, place, h⟩) unconvertible
    · obtain ⟨e, he, -⟩ := stuck.2 unconvertible
      rw [h] at he
      cases he
    · obtain ⟨e, he, conversion⟩ := stuck.2 unconvertible
      rw [h] at he
      cases he
      simp [Error.IsConversion] at conversion
  · cases h : (ofDatum description source).result with
    | ok r => exact .inl ⟨r, rfl⟩
    | error e =>
      obtain conversion | ⟨fault, place, rfl⟩ := refused e h
      · exact absurd (stuck.1 ⟨e, h, conversion⟩) free
      · exact .inr ⟨fault, place, rfl⟩

/-- A king that goes as far as a superscript two says. -/
def superscriptDescription : Datum :=
  .mapping [
    (.text "name", .text "t"),
    (.text "board", .text "k2/3/K2"),
    (.text "pieces", .mapping [
      (.text "k", .mapping [(.text "moves", .text "²*"), (.text "royal", .bool true)])])]

theorem result_superscript :
    (ofDatum superscriptDescription none).result = .error (.number .notDecimal) := by
  rfl

theorem made_or_refused_iff_superscript :
    Unconvertible superscriptDescription ∧ Offends superscriptDescription := by
  have stuck : Unconvertible superscriptDescription :=
    (sticks_ofDatum superscriptDescription none).stuck.1 ⟨_, result_superscript, .inl ⟨_, rfl⟩⟩
  exact ⟨stuck, ((made_or_refused_iff superscriptDescription none).2 stuck).2⟩

/-- The description makes no ruleset and is not refused as one either. -/
theorem not_made_or_refused_superscript :
    ¬ ((∃ r, (ofDatum superscriptDescription none).result = .ok r) ∨
      ∃ fault place, (ofDatum superscriptDescription none).result = .error (.ruleset fault place)) := by
  simp [result_superscript]

end Ruleset

end VariantChess
