import VariantChess.Fallible

/-!
# Lists of fallible steps

What `gather`, `keep` and `anyPasses` come to when no step fails, that a result means that no step
failed, and that a failure is the failure of a step.
-/

namespace VariantChess

variable {ε α β : Type}

theorem bind_eq_ok_iff {x : Except ε α} {f : α → Except ε β} {b : β} :
    (x >>= f) = .ok b ↔ ∃ a, x = .ok a ∧ f a = .ok b := by
  cases x <;> simp [bind, Except.bind]

theorem bind_eq_error_iff {x : Except ε α} {f : α → Except ε β} {e : ε} :
    (x >>= f) = .error e ↔ x = .error e ∨ ∃ a, x = .ok a ∧ f a = .error e := by
  cases x <;> simp [bind, Except.bind]

theorem map_eq_ok_iff {x : Except ε α} {f : α → β} {b : β} :
    x.map f = .ok b ↔ ∃ a, x = .ok a ∧ f a = b := by
  cases x <;> simp [Except.map]

theorem map_eq_error_iff {x : Except ε α} {f : α → β} {e : ε} : x.map f = .error e ↔ x = .error e := by
  cases x <;> simp [Except.map]

theorem mapError_eq_ok_iff {ε' : Type} {x : Except ε α} {f : ε → ε'} {a : α} :
    x.mapError f = .ok a ↔ x = .ok a := by
  cases x with
  | error e => constructor <;> rintro ⟨⟩
  | ok b => constructor <;> rintro ⟨⟩ <;> rfl

instance decidableForallError (x : Except ε α) (P : ε → Prop) [DecidablePred P] :
    Decidable (∀ e, x = .error e → P e) :=
  match x with
  | .ok _ => .isTrue nofun
  | .error e => decidable_of_iff (P e) ⟨by rintro h _ ⟨⟩; exact h, fun h => h e rfl⟩

instance decidableForallOk (x : Except ε α) (P : α → Prop) [DecidablePred P] :
    Decidable (∀ a, x = .ok a → P a) :=
  match x with
  | .error _ => .isTrue nofun
  | .ok a => decidable_of_iff (P a) ⟨by rintro h _ ⟨⟩; exact h, fun h => h a rfl⟩

/-- Of a list with an element of the other kind, the first such element. -/
theorem exists_first_not {p : α → Prop} {as : List α} (h : ¬ ∀ a ∈ as, p a) :
    ∃ before a after, as = before ++ a :: after ∧ (∀ b ∈ before, p b) ∧ ¬ p a := by
  induction as with
  | nil => exact absurd (List.forall_mem_nil p) h
  | cons a as ih =>
    by_cases ha : p a
    · obtain ⟨before, b, after, rfl, hbefore, hb⟩ := ih fun has => h (List.forall_mem_cons.2 ⟨ha, has⟩)
      exact ⟨a :: before, b, after, rfl, List.forall_mem_cons.2 ⟨ha, hbefore⟩, hb⟩
    · exact ⟨[], a, as, rfl, List.forall_mem_nil p, ha⟩

/-! ### `gather` -/

section gather
variable {f : α → Except ε (List β)} {as : List α} {bs : List β}

theorem gather_of_forall (h : ∀ a ∈ as, ∃ bs, f a = .ok bs) : ∃ bs, gather f as = .ok bs := by
  induction as with
  | nil => exact ⟨[], rfl⟩
  | cons a as ih =>
    obtain ⟨bs, hbs⟩ := h a List.mem_cons_self
    obtain ⟨cs, hcs⟩ := ih fun a' ha' => h a' (List.mem_cons_of_mem a ha')
    exact ⟨bs ++ cs, by simp [gather, hbs, hcs, Except.map]⟩

theorem mem_of_gather (h : gather f as = .ok bs) {b : β} :
    b ∈ bs ↔ ∃ a ∈ as, ∃ cs, f a = .ok cs ∧ b ∈ cs := by
  induction as generalizing bs with
  | nil => cases h; simp
  | cons a as ih =>
    cases hf : f a with
    | error e => simp [gather, hf] at h
    | ok cs =>
      obtain ⟨ds, hds, rfl⟩ := map_eq_ok_iff.1 (by simpa [gather, hf] using h)
      simp [List.mem_append, ih hds, hf]

/-- What all elements contribute, when it is known of each what it contributes. -/
theorem exists_gather {P : α → β → Prop}
    (h : ∀ a ∈ as, ∃ bs, f a = .ok bs ∧ ∀ b, b ∈ bs ↔ P a b) :
    ∃ bs, gather f as = .ok bs ∧ ∀ b, b ∈ bs ↔ ∃ a ∈ as, P a b := by
  obtain ⟨bs, hbs⟩ := gather_of_forall fun a ha => (h a ha).imp fun _ h => h.1
  refine ⟨bs, hbs, fun b => ?_⟩
  rw [mem_of_gather hbs]
  constructor
  · rintro ⟨a, ha, cs, hcs, hb⟩
    obtain ⟨cs', hcs', hmem⟩ := h a ha
    obtain rfl : cs' = cs := by simpa [hcs'] using hcs
    exact ⟨a, ha, (hmem b).1 hb⟩
  · rintro ⟨a, ha, hb⟩
    obtain ⟨cs, hcs, hmem⟩ := h a ha
    exact ⟨a, ha, cs, hcs, (hmem b).2 hb⟩

theorem gather_map {γ : Type} (g : γ → α) (f : α → Except ε (List β)) (cs : List γ) :
    gather f (cs.map g) = gather (fun c => f (g c)) cs := by
  induction cs with
  | nil => rfl
  | cons c cs ih => rw [List.map_cons, gather, gather, ih]

/-- Elements that are left out contribute nothing. -/
theorem gather_filterMap {γ : Type} (g : γ → Option α) (f : α → Except ε (List β)) (cs : List γ) :
    gather f (cs.filterMap g) = gather (fun c => (g c).elim (.ok []) f) cs := by
  induction cs with
  | nil => rfl
  | cons c cs ih =>
    rw [List.filterMap_cons, gather, ← ih]
    cases g c with
    | none =>
      show _ = (gather f (cs.filterMap g)).map ([] ++ ·)
      cases gather f (cs.filterMap g) <;> rfl
    | some a => rfl

/-- A failure of the whole is one of an element. -/
theorem exists_of_gather_error {e : ε} (h : gather f as = .error e) : ∃ a ∈ as, f a = .error e := by
  induction as with
  | nil => cases h
  | cons a as ih =>
    cases hf : f a with
    | error e' => exact ⟨a, List.mem_cons_self, by simpa [gather, hf] using h⟩
    | ok cs =>
      obtain ⟨a', ha', hf'⟩ := ih (map_eq_error_iff.1 (by simpa [gather, hf] using h))
      exact ⟨a', List.mem_cons_of_mem a ha', hf'⟩

end gather

/-! ### `keep` and `anyPasses` -/

section test
variable {p : α → Except ε Bool} {as : List α} {P : α → Prop}

/-- A test that never fails and decides `P` keeps the elements with `P`. -/
theorem exists_keep (h : ∀ a ∈ as, ∃ pass, p a = .ok pass ∧ (pass = true ↔ P a)) :
    ∃ kept, keep p as = .ok kept ∧ ∀ a, a ∈ kept ↔ a ∈ as ∧ P a := by
  induction as with
  | nil => exact ⟨[], rfl, by simp⟩
  | cons a as ih =>
    obtain ⟨⟨pass, hp, hpass⟩, has⟩ := List.forall_mem_cons.1 h
    obtain ⟨kept, hk, hmem⟩ := ih has
    refine ⟨if pass then a :: kept else kept, by simp [keep, hp, hk, Except.map], fun a' => ?_⟩
    cases pass with
    | true =>
      simp only [↓reduceIte, List.mem_cons, hmem, or_and_right]
      refine or_congr_left ⟨?_, fun h => h.1⟩
      rintro rfl
      exact ⟨rfl, hpass.1 rfl⟩
    | false =>
      simp only [Bool.false_eq_true, ↓reduceIte, List.mem_cons, hmem, or_and_right]
      refine (or_iff_right ?_).symm
      rintro ⟨rfl, ha⟩
      exact absurd (hpass.2 ha) Bool.false_ne_true

/-- A test takes elements out and leaves the others in their order. -/
theorem sublist_of_keep {kept : List α} (h : keep p as = .ok kept) : kept.Sublist as := by
  induction as generalizing kept with
  | nil => cases h; exact .slnil
  | cons a as ih =>
    cases hp : p a with
    | error e => simp [keep, hp] at h
    | ok pass =>
      obtain ⟨kept', hk, rfl⟩ := map_eq_ok_iff.1 (by simpa [keep, hp] using h)
      cases pass with
      | true => exact (ih hk).cons_cons a
      | false => exact (ih hk).cons a

theorem exists_anyPasses (h : ∀ a ∈ as, ∃ pass, p a = .ok pass ∧ (pass = true ↔ P a)) :
    ∃ pass, anyPasses p as = .ok pass ∧ (pass = true ↔ ∃ a ∈ as, P a) := by
  induction as with
  | nil => exact ⟨false, rfl, by simp⟩
  | cons a as ih =>
    obtain ⟨⟨pass, hp, hpass⟩, has⟩ := List.forall_mem_cons.1 h
    cases pass with
    | true => exact ⟨true, by simp [anyPasses, hp], by simp [hpass.1 rfl]⟩
    | false =>
      obtain ⟨pass, hr, hmem⟩ := ih has
      have ha : ¬ P a := fun ha => absurd (hpass.2 ha) Bool.false_ne_true
      exact ⟨pass, by simp [anyPasses, hp, hr], by simp [hmem, ha]⟩

theorem exists_of_keep_error {e : ε} (h : keep p as = .error e) : ∃ a ∈ as, p a = .error e := by
  induction as with
  | nil => cases h
  | cons a as ih =>
    cases hp : p a with
    | error e' => exact ⟨a, List.mem_cons_self, by simpa [keep, hp] using h⟩
    | ok pass =>
      obtain ⟨a', ha', hp'⟩ := ih (map_eq_error_iff.1 (by simpa [keep, hp] using h))
      exact ⟨a', List.mem_cons_of_mem a ha', hp'⟩

theorem exists_of_anyPasses_error {e : ε} (h : anyPasses p as = .error e) : ∃ a ∈ as, p a = .error e := by
  induction as with
  | nil => cases h
  | cons a as ih =>
    rw [anyPasses] at h
    split at h
    · rename_i hp
      exact ⟨a, List.mem_cons_self, hp.trans h⟩
    · cases h
    · obtain ⟨a', ha', hp'⟩ := ih h
      exact ⟨a', List.mem_cons_of_mem a ha', hp'⟩

end test

end VariantChess
