import Mathlib.Data.List.Basic
import VariantChess.Datum
import VariantChess.Proofs.Sorted

/-!
# Keys and integers of data

No key of a mapping is strange exactly if each is one of those expected. A value can be written exactly if
everything in it can, so a key or an entry with an integer of too many digits spoils all that holds it.
-/

namespace VariantChess.Datum

variable {expected : List String} {key : String} {d : Datum} {items : List Datum}
  {entries : List (Datum × Datum)}

/-! ### Strange keys -/

theorem strangeKeys_eq_nil_iff : strangeKeys expected entries = [] ↔ strangers expected entries = [] := by
  rw [← List.length_eq_zero_iff, strangeKeys, length_sortStable, List.length_map,
    List.length_eq_zero_iff]

theorem strangers_eq_nil_iff : strangers expected entries = [] ↔ ∀ e ∈ entries, e.1.isOneOf expected := by
  rw [strangers, List.map_eq_nil_iff, List.filter_eq_nil_iff]
  simp

theorem exists_of_mem_strangers (h : d ∈ strangers expected entries) : ∃ value, (d, value) ∈ entries := by
  obtain ⟨⟨key, value⟩, hmem, rfl⟩ := List.mem_map.1 h
  exact ⟨value, List.mem_of_mem_filter hmem⟩

/-! ### Integers that can be written -/

theorem areWritable_iff : areWritable items ↔ ∀ d ∈ items, d.isWritable := by
  induction items with
  | nil => simp [areWritable]
  | cons d items ih => rw [areWritable, Bool.and_eq_true, ih, List.forall_mem_cons]

theorem entriesAreWritable_iff :
    entriesAreWritable entries ↔ ∀ e ∈ entries, e.1.isWritable ∧ e.2.isWritable := by
  induction entries with
  | nil => simp [entriesAreWritable]
  | cons e entries ih =>
    rw [entriesAreWritable, Bool.and_eq_true, Bool.and_eq_true, ih, List.forall_mem_cons]

theorem isWritable_opened (d : Datum) : d.opened.isWritable = d.isWritable := by
  cases d <;> simp [opened, isWritable]

theorem isWritable_mapping_iff : (mapping entries).isWritable ↔
    ∀ e ∈ entries, e.1.isWritable ∧ e.2.isWritable := by
  rw [isWritable, entriesAreWritable_iff]

theorem areWritable_strangers (h : (mapping entries).isWritable) :
    areWritable (strangers expected entries) := by
  refine areWritable_iff.2 fun d hd => ?_
  obtain ⟨value, hmem⟩ := exists_of_mem_strangers hd
  exact (isWritable_mapping_iff.1 h _ hmem).1

theorem isWritable_of_lookup? (h : (mapping entries).isWritable) (hd : lookup? entries key = some d) :
    d.isWritable := by
  obtain ⟨e, he, rfl⟩ := Option.map_eq_some_iff.1 hd
  exact (isWritable_mapping_iff.1 h e (List.mem_of_find?_eq_some he)).2

end VariantChess.Datum
