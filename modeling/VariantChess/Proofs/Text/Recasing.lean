import VariantChess.Proofs.Text.Shift

/-!
# Words in upper case, put into lower case and back

Put into lower case, then into upper case and into lower case again, a word in upper case is what it was
after the first step (`lower_upper_lower`), since the letters it has then are *twins* of its own. There
are two exceptions: a sharp s, which becomes two letters, and the dot above a capital I, which is no
letter. What is left of a word with one of them never comes back (`not_mem_of_lower_upper_lower`).
-/

namespace VariantChess.Text

variable {c d e : Char} {s w w' : List Char}

theorem exists_of_mem_right {α β : Type} {R : α → β → Prop} {as : List α} {bs : List β}
    (h : List.Forall₂ R as bs) {b : β} (hb : b ∈ bs) : ∃ a ∈ as, R a b := by
  induction h with
  | nil => cases hb
  | @cons a b' as bs hR _ ih =>
    rcases List.mem_cons.1 hb with rfl | hb
    · exact ⟨a, List.mem_cons_self, hR⟩
    · obtain ⟨a', ha', hR'⟩ := ih hb
      exact ⟨a', List.mem_cons_of_mem a ha', hR'⟩

/-! ### Letters of words in upper case -/

/-- The letter may stand in a word in upper case: it has that case or none. -/
def High (c : Char) : Prop := isLetter c ∧ ¬ isLowerChar c ∧ ¬ isTitleChar c

instance (c : Char) : Decidable (High c) := inferInstanceAs (Decidable (_ ∧ _))

/-- In a word in upper case, `e` may stand for `c` and has the same lower case, whatever stands around
it. -/
def Twin (c e : Char) : Prop :=
  High e ∧ lowerChar e = lowerChar c ∧ isCased e = isCased c ∧ isIgnorable e = isIgnorable c ∧
    (e.toNat = 931 ↔ c.toNat = 931)

instance (c e : Char) : Decidable (Twin c e) := inferInstanceAs (Decidable (_ ∧ _))

/-- A lower case of a letter of a word in upper case: it is the letter itself or has another case, and
unless it is a sharp s, its own upper case may stand for the letter. -/
def Lowered (c d : Char) : Prop :=
  isLetter d ∧ (c = d ∨ isLowerChar d ∨ isTitleChar d) ∧
    (d = 'ß' ∨ ∃ e, upperChar d = [e] ∧ Twin c e)

theorem twin_self (high : High c) : Twin c c := ⟨high, rfl, rfl, rfl, Iff.rfl⟩

theorem eq_ofNat {n : Nat} (h : c.toNat = n) : c = Char.ofNat n := by
  rw [← h, Char.ofNat_toNat]

theorem upperChar_sharp : upperChar 'ß' = ['S', 'S'] := by decide +kernel

theorem upperChar_dotAbove : upperChar dotAbove = [dotAbove] := by decide +kernel

theorem lowerChar_dotted : lowerChar (.ofNat 304) = ['i', dotAbove] := by decide +kernel

theorem lowered_ascii (high : High c) (ascii : isAscii c) :
    lowerChar c = [c.toLower] ∧ isLetter c.toLower ∧ (c = c.toLower ∨ isLowerChar c.toLower) ∧
      upperChar c.toLower = [c] := by
  revert high
  exact forall_ascii (by decide +kernel) ascii

/-- The strays other than sharp s, with their lower cases and the upper cases of these. -/
theorem lowered_stray : ∀ x ∈ [(1012, 952, 920), (8486, 969, 937), (8490, 107, 75), (8491, 229, 197)],
    lowerChar (.ofNat x.1) = [.ofNat x.2.1] ∧ isLetter (.ofNat x.2.1) ∧ isLowerChar (.ofNat x.2.1) ∧
      upperChar (.ofNat x.2.1) = [.ofNat x.2.2] ∧ Twin (.ofNat x.1) (.ofNat x.2.2) := by
  decide +kernel

theorem High.exists_lowered (high : High c) (undotted : c.toNat ≠ 304) :
    ∃ d, lowerChar c = [d] ∧ Lowered c d := by
  obtain ⟨letter, hl, ht⟩ := id high
  by_cases ascii : isAscii c
  · obtain ⟨hlower, letter', hcase, hupper⟩ := lowered_ascii high ascii
    exact ⟨_, hlower, letter', hcase.imp_right .inl, .inr ⟨c, hupper, twin_self high⟩⟩
  have single : lowerChar c = [shiftChar lowerShifts c] := by
    rw [lowerChar, if_neg ascii, if_neg undotted]
  cases hr : lowerShifts.find? fun r => onRun r.1 r.2.1 r.2.2.1 c.toNat with
  | none =>
    have same : shiftChar lowerShifts c = c := by rw [shiftChar, hr]
    rw [same] at single
    exact ⟨c, single, letter, .inl rfl, .inr ⟨c, upperChar_eq_self hl ht, twin_self high⟩⟩
  | some r =>
    by_cases stray : c.toNat ∈ strays
    · by_cases sharp : c.toNat = 7838
      · obtain rfl := eq_ofNat sharp
        exact ⟨'ß', by decide +kernel, by decide +kernel, .inr (.inl (by decide +kernel)), .inl rfl⟩
      · obtain ⟨x, hx, hc⟩ : ∃ x ∈ [(1012, 952, 920), (8486, 969, 937), (8490, 107, 75),
            (8491, 229, 197)], c.toNat = x.1 := by
          simp [strays] at stray ⊢
          omega
        obtain rfl := eq_ofNat hc
        obtain ⟨hlower, letter', hcase, hupper, twin⟩ := lowered_stray x hx
        exact ⟨_, hlower, letter', .inr (.inl hcase), .inr ⟨_, hupper, twin⟩⟩
    · rw [isLetter, if_neg ascii] at letter
      obtain ⟨letter', hupper⟩ := upperChar_of_tidy hr letter ht stray
      refine ⟨_, single, letter', ?_, .inr ⟨c, hupper, twin_self high⟩⟩
      by_contra hcase
      rw [not_or, not_or] at hcase
      have same := upperChar_eq_self hcase.2.1 hcase.2.2
      rw [hupper] at same
      exact hcase.1 (List.singleton_inj.1 same)

theorem lowered_sigma (n : Nat) (hn : n = 962 ∨ n = 963) : Lowered (.ofNat 931) (.ofNat n) := by
  have both : ∀ n ∈ [962, 963], isLetter (.ofNat n) ∧ isLowerChar (.ofNat n) ∧
      upperChar (.ofNat n) = [.ofNat 931] ∧ Twin (.ofNat 931) (.ofNat 931) := by decide +kernel
  obtain ⟨letter, hcase, hupper, twin⟩ := both n (by simpa using hn)
  exact ⟨letter, .inr (.inl hcase), .inr ⟨_, hupper, twin⟩⟩

/-! ### Words in upper case -/

theorem high_of_isUpper (word : isWord w) (up : isUpper w) : ∀ c ∈ w, High c :=
  fun c hc => ⟨(isWord_iff.1 word).2 c hc, (isUpper_iff.1 up).2 c hc⟩

/-- The lower case of a word without a dotted capital I, letter by letter. -/
theorem forall₂_lower (high : ∀ c ∈ w, High c) (undotted : ∀ c ∈ w, c.toNat ≠ 304) :
    List.Forall₂ Lowered w (lower w) := by
  have after : ∀ before, List.Forall₂ Lowered w (lowerAfter before w) := by
    induction w with
    | nil => exact fun _ => .nil
    | cons c w ih =>
      intro before
      obtain ⟨hc, hw⟩ := List.forall_mem_cons.1 high
      obtain ⟨hc', hw'⟩ := List.forall_mem_cons.1 undotted
      rw [lowerAfter]
      split
      · rename_i sigma
        obtain rfl := eq_ofNat sigma
        refine .cons (lowered_sigma _ ?_) (ih hw hw' _)
        split
        · exact .inl rfl
        · exact .inr rfl
      · obtain ⟨d, hlower, hd⟩ := hc.exists_lowered hc'
        rw [hlower]
        exact .cons hd (ih hw hw' _)
  exact after []

/-- Without a sharp s, the upper case of the lower case has a twin for every letter of the word. -/
theorem forall₂_upper (h : List.Forall₂ Lowered w s) (sharp : 'ß' ∉ s) :
    List.Forall₂ Twin w (upper s) := by
  induction h with
  | nil => exact .nil
  | @cons c d w s hd _ ih =>
    rw [List.mem_cons, not_or] at sharp
    obtain ⟨-, -, hsharp | ⟨e, hupper, twin⟩⟩ := hd
    · exact absurd hsharp.symm sharp.1
    · rw [upper, List.flatMap_cons, hupper]
      exact .cons twin (ih sharp.2)

theorem any_isCased_congr (h : List.Forall₂ Twin w w') :
    (w'.dropWhile isIgnorable).head?.any isCased = (w.dropWhile isIgnorable).head?.any isCased := by
  induction h with
  | nil => rfl
  | @cons c e w w' twin _ ih =>
    obtain ⟨-, -, cased, ignorable, -⟩ := twin
    rw [List.dropWhile_cons, List.dropWhile_cons, ignorable]
    split
    · exact ih
    · simp [cased]

/-- Twins have the same lower case. -/
theorem lower_congr (h : List.Forall₂ Twin w w') : lower w' = lower w := by
  have after : ∀ {before before' : List Char}, List.Forall₂ Twin before before' →
      lowerAfter before' w' = lowerAfter before w := by
    induction h with
    | nil => exact fun _ => rfl
    | @cons c e w w' twin hw ih =>
      intro before before' hbefore
      have ends : endsWord before' w' = endsWord before w := by
        rw [endsWord, endsWord, any_isCased_congr hbefore, any_isCased_congr hw]
      obtain ⟨-, lower, -, -, sigma⟩ := id twin
      rw [lowerAfter, lowerAfter, ih (.cons twin hbefore), lower, ends]
      simp only [sigma]
  exact after .nil

theorem mem_lower_of_mem (hc : c ∈ w) (sigma : c.toNat ≠ 931) (hd : d ∈ lowerChar c) : d ∈ lower w := by
  have after : ∀ before, d ∈ lowerAfter before w := by
    induction w with
    | nil => cases hc
    | cons c' w ih =>
      intro before
      rw [lowerAfter, List.mem_append]
      rcases List.mem_cons.1 hc with rfl | hc
      · rw [if_neg sigma]
        exact .inl hd
      · exact .inr (ih hc _)
  exact after []

theorem undotted_of_not_mem (h : dotAbove ∉ lower w) : ∀ c ∈ w, c.toNat ≠ 304 := by
  intro c hc hdot
  obtain rfl := eq_ofNat hdot
  exact h (mem_lower_of_mem hc (by decide) (by decide +kernel))

/-- A word in upper case is in lower case what it was, after upper case and lower case again, unless
that has left a sharp s or a dot. -/
theorem lower_upper_lower (word : isWord w) (up : isUpper w) (undotted : dotAbove ∉ lower w)
    (sharp : 'ß' ∉ lower w) :
    isWord (upper (lower w)) ∧ isUpper (upper (lower w)) ∧ lower (upper (lower w)) = lower w ∧
      (upper (lower w)).length = (lower w).length := by
  have high := high_of_isUpper word up
  have down := forall₂_lower high (undotted_of_not_mem undotted)
  have twins := forall₂_upper down sharp
  have high' : ∀ e ∈ upper (lower w), High e := by
    intro e he
    obtain ⟨c, -, twin⟩ := exists_of_mem_right twins he
    exact twin.1
  have length : (upper (lower w)).length = w.length := twins.length_eq.symm
  have hne : upper (lower w) ≠ [] := by
    rw [← List.length_pos_iff, length, List.length_pos_iff]
    exact (isWord_iff.1 word).1
  refine ⟨isWord_iff.2 ⟨hne, fun e he => (high' e he).1⟩,
    isUpper_iff.2 ⟨?_, fun e he => (high' e he).2⟩, lower_congr twins, length.trans down.length_eq⟩
  obtain ⟨c, hc, hup⟩ := (isUpper_iff.1 up).1
  obtain ⟨e, he, -, -, cased, -⟩ := exists_of_mem_right twins.flip hc
  refine ⟨e, he, ?_⟩
  -- a cased letter of a word in upper case has that case
  have cased : isCased e := by
    rw [cased, isCased, hup]
    rfl
  obtain ⟨-, hl, ht⟩ := high' e he
  simpa [isCased, hl, ht] using cased

theorem lower_eq_self_of_isLower (h : isLower s) : lower s = s := by
  refine lower_eq_self fun c hc => ?_
  obtain ⟨hu, ht⟩ := (isLower_iff.1 h).2 c hc
  refine ⟨?_, lowerChar_eq_self hu ht⟩
  intro sigma
  obtain rfl := eq_ofNat sigma
  exact hu (by decide +kernel)

/-- A word in upper case has a lower case that is its own lower case, if that is in one case and without
a dot. -/
theorem lower_lower (word : isWord w) (up : isUpper w) (undotted : dotAbove ∉ lower w)
    (cased : isUpper (lower w) ∨ isLower (lower w)) :
    isWord (lower w) ∧ lower (lower w) = lower w := by
  have down := forall₂_lower (high_of_isUpper word up) (undotted_of_not_mem undotted)
  have letters : ∀ d ∈ lower w, isLetter d := by
    intro d hd
    obtain ⟨c, -, lowered⟩ := exists_of_mem_right down hd
    exact lowered.1
  have hne : lower w ≠ [] := by
    rw [← List.length_pos_iff, ← down.length_eq, List.length_pos_iff]
    exact (isWord_iff.1 word).1
  refine ⟨isWord_iff.2 ⟨hne, letters⟩, ?_⟩
  rcases cased with hup | hlow
  · -- no letter has a lower case of its own, so nothing has changed
    have same : List.Forall₂ (· = ·) w (lower w) := by
      refine List.forall₂_iff_zip.2 ⟨down.length_eq, fun {c d} hpair => ?_⟩
      obtain ⟨-, hcase, -⟩ := List.forall₂_zip down hpair
      obtain ⟨hl, ht⟩ := (isUpper_iff.1 hup).2 d (List.of_mem_zip hpair).2
      exact hcase.resolve_right (not_or.2 ⟨hl, ht⟩)
    rw [List.forall₂_eq_eq_eq] at same
    rw [← same, ← same]
  · exact lower_eq_self_of_isLower hlow

/-! ### What is written for such a word -/

theorem mem_lower (hd : d ∈ lower w) :
    ∃ c ∈ w, d ∈ lowerChar c ∨ c.toNat = 931 ∧ ∃ n, (n = 962 ∨ n = 963) ∧ d = Char.ofNat n := by
  have after : ∀ before, d ∈ lowerAfter before w → ∃ c ∈ w, d ∈ lowerChar c ∨
      c.toNat = 931 ∧ ∃ n, (n = 962 ∨ n = 963) ∧ d = Char.ofNat n := by
    clear hd
    induction w with
    | nil => exact fun _ hd => nomatch hd
    | cons c w ih =>
      intro before hd
      rw [lowerAfter, List.mem_append] at hd
      rcases hd with hd | hd
      · refine ⟨c, List.mem_cons_self, ?_⟩
        split at hd
        · rename_i sigma
          refine .inr ⟨sigma, _, ?_, List.mem_singleton.1 hd⟩
          split
          · exact .inl rfl
          · exact .inr rfl
        · exact .inl hd
      · obtain ⟨c', hc', h⟩ := ih _ hd
        exact ⟨c', List.mem_cons_of_mem c hc', h⟩
  exact after [] hd

theorem Lowered.upper (h : Lowered c d) : upperChar d ≠ [] ∧ ∀ e ∈ upperChar d, isLetter e := by
  obtain ⟨-, -, rfl | ⟨e, hupper, twin⟩⟩ := h
  · rw [upperChar_sharp]
    refine ⟨List.cons_ne_nil _ _, fun e he => ?_⟩
    obtain rfl : e = 'S' := by simpa using he
    decide
  · rw [hupper]
    exact ⟨List.cons_ne_nil e [], List.forall_mem_singleton.2 twin.1.1⟩

/-- The lower case of a word in upper case consists of letters and dots, in upper case as well. -/
theorem isLetter_or_eq_dotAbove (word : isWord w) (up : isUpper w) (hd : d ∈ lower w) :
    (isLetter d ∨ d = dotAbove) ∧ upperChar d ≠ [] ∧
      ∀ e ∈ upperChar d, isLetter e ∨ e = dotAbove := by
  have dotted : ∀ d ∈ lowerChar (.ofNat 304), (isLetter d ∨ d = dotAbove) ∧ upperChar d ≠ [] ∧
      ∀ e ∈ upperChar d, isLetter e ∨ e = dotAbove := by
    have capital : upperChar 'i' = ['I'] := by decide
    intro d hd
    rw [lowerChar_dotted, List.mem_cons, List.mem_singleton] at hd
    rcases hd with rfl | rfl
    · rw [capital]
      exact ⟨.inl (by decide), List.cons_ne_nil _ _, List.forall_mem_singleton.2 (.inl (by decide))⟩
    · rw [upperChar_dotAbove]
      exact ⟨.inr rfl, List.cons_ne_nil _ _, List.forall_mem_singleton.2 (.inr rfl)⟩
  have of_lowered : ∀ {c}, Lowered c d → (isLetter d ∨ d = dotAbove) ∧ upperChar d ≠ [] ∧
      ∀ e ∈ upperChar d, isLetter e ∨ e = dotAbove := by
    intro c h
    exact ⟨.inl h.1, h.upper.1, fun e he => .inl (h.upper.2 e he)⟩
  obtain ⟨c, hc, hd | ⟨sigma, n, hn, rfl⟩⟩ := mem_lower hd
  · by_cases hdot : c.toNat = 304
    · obtain rfl := eq_ofNat hdot
      exact dotted d hd
    · obtain ⟨d', hlower, lowered⟩ := (high_of_isUpper word up c hc).exists_lowered hdot
      obtain rfl : d = d' := by simpa [hlower] using hd
      exact of_lowered lowered
  · exact of_lowered (lowered_sigma n hn)

theorem length_le_lower (s : List Char) : s.length ≤ (lower s).length := by
  have after : ∀ before, s.length ≤ (lowerAfter before s).length := by
    induction s with
    | nil => exact fun _ => Nat.le_refl _
    | cons c s ih =>
      intro before
      have rest := ih (c :: before)
      have one : 1 ≤ (lowerChar c).length := by
        rw [lowerChar]
        split_ifs <;> simp
      rw [lowerAfter, List.length_append, List.length_cons]
      split
      · simp only [List.length_singleton]
        omega
      · omega
  exact after []

/-- A sharp s takes the room of two letters in upper case. -/
theorem length_upper (h : List.Forall₂ Lowered w s) : (upper s).length = s.length + s.count 'ß' := by
  induction h with
  | nil => rfl
  | @cons c d w s hd _ ih =>
    have length : (upper (d :: s)).length = (upperChar d).length + (upper s).length := by
      rw [upper, List.flatMap_cons, List.length_append, upper]
    by_cases sharp : d = 'ß'
    · subst sharp
      rw [length, ih, upperChar_sharp, List.length_cons, List.count_cons_self]
      simp only [List.length_cons, List.length_nil]
      omega
    · obtain ⟨-, -, hsharp | ⟨e, hupper, -⟩⟩ := hd
      · exact absurd hsharp sharp
      · rw [length, ih, hupper, List.count_cons_of_ne sharp]
        simp only [List.length_cons, List.length_nil]
        omega

/-- So a word that has left one or a dot is not what it was. -/
theorem not_mem_of_lower_upper_lower (word : isWord w) (up : isUpper w)
    (letters : isWord (upper (lower w))) (same : lower (upper (lower w)) = lower w) :
    dotAbove ∉ lower w ∧ 'ß' ∉ lower w := by
  have undotted : dotAbove ∉ lower w := by
    intro hdot
    have hmem : dotAbove ∈ upper (lower w) :=
      List.mem_flatMap.2 ⟨dotAbove, hdot, by rw [upperChar_dotAbove]; exact List.mem_cons_self⟩
    exact absurd ((isWord_iff.1 letters).2 _ hmem) (by decide +kernel)
  refine ⟨undotted, fun sharp => ?_⟩
  have down := forall₂_lower (high_of_isUpper word up) (undotted_of_not_mem undotted)
  have longer := length_le_lower (upper (lower w))
  have one : 0 < (lower w).count 'ß' := List.count_pos_iff.2 sharp
  rw [same, length_upper down] at longer
  omega

end VariantChess.Text
