import VariantChess.Proofs.Text.Case
import VariantChess.Proofs.Text.Runs

/-!
# The case mappings of single characters

A character that is neither in lower nor in title case is its own upper case (`upperChar_eq_self`), and
the other way round (`lowerChar_eq_self`). A capital letter has a letter for its lower case, of which it
is itself the upper case (`upperChar_of_tidy`): the tables are checked for that run by run. The check
passes over the five `strays`, of which this does not hold, and over the characters in title case.
-/

namespace VariantChess.Text

variable {c d : Char} {q : Run} {distance : Int}

namespace Run

def ofRange (r : Nat × Nat) : Run := ⟨r.1, r.2, 1⟩

def ofRow (r : Nat × Nat × Nat) : Run := ⟨r.1, r.2.1, r.2.2⟩

/-- Where a shift applies. -/
def ofShift (r : Nat × Nat × Nat × Int) : Run := ⟨r.1, r.2.1, r.2.2.1⟩

/-- The run moved along. -/
def shift (r : Run) (distance : Int) : Run :=
  ⟨(r.first + distance).toNat, (r.last + distance).toNat, r.step⟩

theorem has_shift {r : Run} {n : Nat} (positive : 0 < (r.shift distance).first) (h : r.Has n) :
    (r.shift distance).Has (n + distance).toNat := by
  obtain ⟨hle, hge, hdvd⟩ := has_iff.1 h
  simp only [shift] at positive
  have same : (n + distance).toNat - (r.first + distance).toNat = n - r.first := by omega
  refine has_iff.2 ⟨?_, ?_, ?_⟩
  · simp only [shift]
    omega
  · simp only [shift]
    omega
  · simpa only [shift, same] using hdvd

end Run

theorem inRanges_iff_has {table : List (Nat × Nat)} :
    inRanges table c ↔ ∃ r ∈ table, (Run.ofRange r).Has c.toNat := by
  simp [inRanges_iff, Run.has_iff, Run.ofRange]

theorem inRuns_iff_has {table : List (Nat × Nat × Nat)} :
    inRuns table c ↔ ∃ r ∈ table, (Run.ofRow r).Has c.toNat := by
  simp [inRuns, Run.Has, Run.ofRow]

theorem shiftChar_of_find? {table : List (Nat × Nat × Nat × Int)} {r : Nat × Nat × Nat × Int}
    (h : table.find? (fun r => onRun r.1 r.2.1 r.2.2.1 c.toNat) = some r) :
    shiftChar table c = Char.ofNat (c.toNat + r.2.2.2).toNat := by
  rw [shiftChar, h]

/-! ### Characters that have no other case -/

/-- The run lies on one of the runs or in title case. -/
def casedIn (runs : List (Nat × Nat × Nat)) (q : Run) : Bool :=
  (runs.any fun r => q.within (.ofRow r)) || titleRanges.any fun r => q.within (.ofRange r)

theorem inRuns_or_isTitleChar {runs : List (Nat × Nat × Nat)} (h : casedIn runs q)
    (hc : q.Has c.toNat) : inRuns runs c ∨ isTitleChar c := by
  rcases Bool.or_eq_true_iff.1 h with h | h
  · obtain ⟨row, hrow, hwithin⟩ := List.any_eq_true.1 h
    exact .inl (inRuns_iff_has.2 ⟨row, hrow, Run.has_of_within hwithin hc⟩)
  · obtain ⟨range, hrange, hwithin⟩ := List.any_eq_true.1 h
    exact .inr (inRanges_iff_has.2 ⟨range, hrange, Run.has_of_within hwithin hc⟩)

theorem shiftChar_eq_self {runs : List (Nat × Nat × Nat)} {shifts : List (Nat × Nat × Nat × Int)}
    (h : shifts.all fun r => (Run.ofShift r).throughout (casedIn runs)) (hruns : ¬ inRuns runs c)
    (htitle : ¬ isTitleChar c) : shiftChar shifts c = c := by
  have none : shifts.find? (fun r => onRun r.1 r.2.1 r.2.2.1 c.toNat) = none := by
    refine List.find?_eq_none.2 fun r hr hc => ?_
    obtain ⟨q, hq, has⟩ := Run.exists_run_of_throughout (List.all_eq_true.1 h r hr) hc
    rcases inRuns_or_isTitleChar hq has with hmem | hmem
    · exact hruns hmem
    · exact htitle hmem
  rw [shiftChar, none]

theorem casedIn_upperRuns :
    lowerShifts.all fun r => (Run.ofShift r).throughout (casedIn upperRuns) := by decide +kernel

theorem casedIn_lowerRuns :
    (upperShifts.all fun r => (Run.ofShift r).throughout (casedIn lowerRuns)) ∧
      upperExpansions.all fun r => casedIn lowerRuns (.single r.1) := by decide +kernel

/-- What is neither in upper nor in title case is its own lower case. -/
theorem lowerChar_eq_self (hu : ¬ isUpperChar c) (ht : ¬ isTitleChar c) : lowerChar c = [c] := by
  by_cases ascii : isAscii c
  · revert hu
    exact forall_ascii (by decide +kernel) ascii
  · rw [isUpperChar, if_neg ascii] at hu
    have dotted : c.toNat ≠ 304 := by
      intro h
      refine hu (inRuns_iff_has.2 ⟨(256, 310, 2), by decide, ?_⟩)
      rw [h]
      decide
    rw [lowerChar, if_neg ascii, if_neg dotted, shiftChar_eq_self casedIn_upperRuns hu ht]

/-- What is neither in lower nor in title case is its own upper case. -/
theorem upperChar_eq_self (hl : ¬ isLowerChar c) (ht : ¬ isTitleChar c) : upperChar c = [c] := by
  by_cases ascii : isAscii c
  · revert hl
    exact forall_ascii (by decide +kernel) ascii
  · rw [isLowerChar, if_neg ascii] at hl
    have unexpanded : upperExpansions.find? (fun r => r.1 == c.toNat) = none := by
      refine List.find?_eq_none.2 fun r hr hc => ?_
      have has : (Run.single r.1).Has c.toNat := Run.has_single_iff.2 (beq_iff_eq.1 hc).symm
      rcases inRuns_or_isTitleChar (List.all_eq_true.1 casedIn_lowerRuns.2 r hr) has with hmem | hmem
      · exact hl hmem
      · exact ht hmem
    rw [upperChar, if_neg ascii, unexpanded]
    dsimp only
    rw [shiftChar_eq_self casedIn_lowerRuns.1 hl ht]

/-! ### There and back -/

/-- The letters whose lower case is in upper case not the letter again, or not a letter again, or of
ASCII: theta with a symbol of its own, sharp s, ohm, kelvin and angstrom. -/
def strays : List Nat := [1012, 7838, 8486, 8490, 8491]

/-- The distance leads the run to characters beyond ASCII that have a single upper case, at the same
distance back. -/
def reverts (distance : Int) (q : Run) : Bool :=
  let image := q.shift distance
  Nat.blt 127 image.first &&
    (Nat.blt image.last 0xD800 || Nat.blt 0xDFFF image.first && Nat.blt image.last 0x110000) &&
    (upperExpansions.all fun r => image.misses (.single r.1)) &&
    match upperShifts.find? fun r => !image.misses (.ofShift r) with
    | none => false
    | some r => image.within (.ofShift r) && r.2.2.2 == -distance

/-- The distance leads the run to letters, if there are letters on it. -/
def keepsLetters (distance : Int) (q : Run) : Bool :=
  (letterRanges.any fun r => (q.shift distance).within (.ofRange r)) ||
    letterRanges.all fun r => q.misses (.ofRange r)

/-- The run goes to letters and back, unless it is passed over. -/
def tidy (distance : Int) (q : Run) : Bool :=
  (titleRanges.any fun r => q.within (.ofRange r)) || (strays.any fun n => q.within (.single n)) ||
    reverts distance q && keepsLetters distance q

theorem tidy_lowerShifts :
    lowerShifts.all fun r => (Run.ofShift r).throughout (tidy r.2.2.2) := by decide +kernel

theorem find?_eq_some_of_imp {α : Type} {p p' : α → Bool} {as : List α} {a : α}
    (h : as.find? p = some a) (imp : ∀ a ∈ as, p' a → p a) (ha : p' a) : as.find? p' = some a := by
  obtain ⟨-, front, back, rfl, hfront⟩ := List.find?_eq_some_iff_append.1 h
  refine List.find?_eq_some_iff_append.2 ⟨ha, front, back, rfl, fun x hx => ?_⟩
  have hx' : ¬ p x := by simpa using hfront x hx
  simpa using fun hp' => hx' (imp x (List.mem_append_left _ hx) hp')

theorem upperChar_of_reverts (h : reverts distance q) (hc : q.Has c.toNat)
    (hd : d = Char.ofNat (c.toNat + distance).toNat) :
    ¬ isAscii d ∧ (q.shift distance).Has d.toNat ∧ upperChar d = [c] := by
  rw [reverts, Bool.and_eq_true, Bool.and_eq_true, Bool.and_eq_true] at h
  obtain ⟨⟨⟨hfirst, hvalid⟩, hexpansions⟩, hshifts⟩ := h
  have first : 127 < (q.shift distance).first := by simpa [Nat.blt_eq] using hfirst
  have image : (q.shift distance).Has (c.toNat + distance).toNat :=
    Run.has_shift (Nat.lt_trans (by decide) first) hc
  obtain ⟨hlow, hhigh, -⟩ := Run.has_iff.1 image
  have valid : (c.toNat + distance).toNat.isValidChar := by
    simp only [Bool.or_eq_true, Bool.and_eq_true, Nat.blt_eq] at hvalid
    rcases hvalid with hvalid | hvalid
    · exact .inl (by omega)
    · exact .inr ⟨by omega, by omega⟩
  have code : d.toNat = (c.toNat + distance).toNat := by
    rw [hd, Char.ofNat, dif_pos valid]
    rfl
  rw [← code] at image hlow
  have wide : ¬ isAscii d := by
    simp only [isAscii, decide_eq_true_eq]
    omega
  have unexpanded : upperExpansions.find? (fun r => r.1 == d.toNat) = none := by
    refine List.find?_eq_none.2 fun r hr hr' => ?_
    exact Run.not_has_of_misses (List.all_eq_true.1 hexpansions r hr) image
      (Run.has_single_iff.2 (beq_iff_eq.1 hr').symm)
  refine ⟨wide, image, ?_⟩
  rw [upperChar, if_neg wide, unexpanded]
  dsimp only
  cases hfound : upperShifts.find? fun r => !(q.shift distance).misses (.ofShift r) with
  | none => simp [hfound] at hshifts
  | some r =>
    rw [hfound, Bool.and_eq_true, beq_iff_eq] at hshifts
    obtain ⟨hwithin, hback⟩ := hshifts
    have found : upperShifts.find? (fun r => onRun r.1 r.2.1 r.2.2.1 d.toNat) = some r := by
      refine find?_eq_some_of_imp hfound (fun r hr hon => ?_) (Run.has_of_within hwithin image)
      have meets : ¬ (q.shift distance).misses (.ofShift r) := fun hm =>
        Run.not_has_of_misses hm image hon
      simpa using meets
    have back : (d.toNat + r.2.2.2).toNat = c.toNat := by
      simp only [Run.shift] at first
      obtain ⟨hq, -, -⟩ := Run.has_iff.1 hc
      omega
    rw [shiftChar_of_find? found, back, Char.ofNat_toNat]

theorem isLetter_of_keepsLetters (h : keepsLetters distance q) (hc : q.Has c.toNat)
    (letter : inRanges letterRanges c) (hd : ¬ isAscii d) (image : (q.shift distance).Has d.toNat) :
    isLetter d := by
  rw [isLetter, if_neg hd, inRanges_iff_has]
  rcases Bool.or_eq_true_iff.1 h with h | h
  · obtain ⟨r, hr, hwithin⟩ := List.any_eq_true.1 h
    exact ⟨r, hr, Run.has_of_within hwithin image⟩
  · obtain ⟨r, hr, has⟩ := inRanges_iff_has.1 letter
    exact absurd has (Run.not_has_of_misses (List.all_eq_true.1 h r hr) hc)

/-- A letter beyond ASCII with a lower case goes to a letter and back, with the exceptions named. -/
theorem upperChar_of_tidy {r : Nat × Nat × Nat × Int}
    (hr : lowerShifts.find? (fun r => onRun r.1 r.2.1 r.2.2.1 c.toNat) = some r)
    (letter : inRanges letterRanges c) (ht : ¬ isTitleChar c) (hs : c.toNat ∉ strays) :
    isLetter (shiftChar lowerShifts c) ∧ upperChar (shiftChar lowerShifts c) = [c] := by
  have hd := shiftChar_of_find? hr
  have on := List.find?_some hr
  obtain ⟨q, htidy, has⟩ := Run.exists_run_of_throughout
    (List.all_eq_true.1 tidy_lowerShifts r (List.mem_of_find?_eq_some hr)) on
  rw [tidy, Bool.or_eq_true, Bool.or_eq_true] at htidy
  rcases htidy with (h | h) | h
  · obtain ⟨range, hrange, hwithin⟩ := List.any_eq_true.1 h
    exact absurd (inRanges_iff_has.2 ⟨range, hrange, Run.has_of_within hwithin has⟩) ht
  · obtain ⟨n, hn, hwithin⟩ := List.any_eq_true.1 h
    exact absurd (Run.has_single_iff.1 (Run.has_of_within hwithin has) ▸ hn) hs
  · obtain ⟨hreverts, hletters⟩ := (Bool.and_eq_true _ _).mp h
    obtain ⟨wide, image, hupper⟩ := upperChar_of_reverts hreverts has hd
    exact ⟨isLetter_of_keepsLetters hletters has letter wide image, hupper⟩

end VariantChess.Text
