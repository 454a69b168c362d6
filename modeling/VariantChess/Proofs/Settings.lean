import Mathlib.Logic.Function.Basic
import VariantChess.Proofs.Datum
import VariantChess.Settings

/-!
# What settings are loaded

A settings is a value for each of its fields (`Settings.value`), and reading an entry of a mapping updates
this at one field (`Settings.set_of_allows`). So what a mapping gives at a field is the last value that it has
for it, or else the default, and what the environment sets goes over both (`Settings.told`).

A file is refused exactly if its root is neither null nor a mapping, has a strange key or a value that its
field does not allow. `Settings.loadsAsTold_iff` says so of all roots but two kinds. A root that says nothing,
such as `false` or an empty list, is no mapping either, and is taken for an empty one; and strange keys with
an integer of too many digits cannot be listed, so that the refusal is none of the settings.
-/

namespace VariantChess

namespace Settings

/-! ### Fields -/

inductive Field where
  | logLevel
  | logFile
  | ruleset
  | perftDepth
  | showPseudoLegal
deriving DecidableEq

namespace Field

def all : List Field := [logLevel, logFile, ruleset, perftDepth, showPseudoLegal]

/-- The key of the field in a mapping. -/
def name : Field → String
  | logLevel => "log_level"
  | logFile => "log_file"
  | ruleset => "ruleset"
  | perftDepth => "perft_depth"
  | showPseudoLegal => "show_pseudo_legal"

/-- The values that the field can have. -/
def Allows : Field → Datum → Prop
  | logFile, value => value = .null ∨ ∃ path, value = .text path
  | perftDepth, value => ∃ n : Nat, value = .int n
  | showPseudoLegal, value => ∃ b, value = .bool b
  | logLevel, value | ruleset, value => ∃ s, value = .text s ∧ s ≠ ""

/-- The value that a mapping has for the field: the last one under its key. -/
def under? (f : Field) (entries : List (Datum × Datum)) : Option Datum :=
  (entries.reverse.find? fun e => e.1.isOneOf [f.name]).map (·.2)

theorem names_eq : names = all.map name := rfl

theorem mem_all (f : Field) : f ∈ all := by cases f <;> decide

theorem name_injective : Function.Injective name := by
  intro f g h
  cases f <;> cases g <;> first | rfl | exact absurd h (by decide)

end Field

end Settings

/-- What the environment sets a field to. -/
def Environment.value? (env : Environment) : Settings.Field → Option Datum
  | .logLevel => if env.logLevel = "" then none else some (.text env.logLevel)
  | .ruleset => if env.ruleset = "" then none else some (.text env.ruleset)
  | .logFile | .perftDepth | .showPseudoLegal => none

/-- The file at a path can be read, and this is the root of what it holds. -/
structure Files.Presents (files : Files) (path : String) (content : Datum) : Prop where
  noFault : pathFault? (plainPath path) = none
  read : ∃ text, files.read path = .ok text ∧ Yaml.read text.toList = .ok content

namespace Settings

/-- The value of a field. -/
def value (s : Settings) : Field → Datum
  | .logLevel => .text s.logLevel
  | .logFile => (s.logFile.map .text).getD .null
  | .ruleset => .text s.ruleset
  | .perftDepth => .int s.perftDepth
  | .showPseudoLegal => .bool s.showPseudoLegal

theorem value_injective : Function.Injective value := by
  rintro ⟨level, file, ruleset, depth, pseudo⟩ ⟨level', file', ruleset', depth', pseudo'⟩ h
  have hlevel : level = level' := Datum.text.inj (congrFun h .logLevel)
  have hruleset : ruleset = ruleset' := Datum.text.inj (congrFun h .ruleset)
  have hdepth : depth = depth' := Int.ofNat.inj (Datum.int.inj (congrFun h .perftDepth))
  have hpseudo : pseudo = pseudo' := Datum.bool.inj (congrFun h .showPseudoLegal)
  have hfile : (file.map Datum.text).getD .null = (file'.map Datum.text).getD .null :=
    congrFun h .logFile
  have hfile : file = file' := by cases file <;> cases file' <;> simp_all
  subst hlevel hruleset hdepth hpseudo hfile
  rfl

/-! ### Reading a mapping -/

variable {f : Field} {key value content : Datum} {entries : List (Datum × Datum)}

theorem isOneOf_iff {keys : List String} : key.isOneOf keys ↔ ∃ name ∈ keys, key = .text name := by
  cases key <;> simp [Datum.isOneOf, eq_comm]

theorem textOf_text (name : String) {s : String} (ne : s ≠ "") : textOf name (.text s) = .ok s := by
  rw [textOf, if_neg (by simpa using ne)]

theorem exists_textOf_eq_error (name : String) (h : ¬ ∃ s, value = .text s ∧ s ≠ "") :
    ∃ fault, textOf name value = .error fault := by
  cases value with
  | text s =>
    have empty : s = "" := by simpa using h
    exact ⟨.badText name, by simp [textOf, empty]⟩
  | _ => exact ⟨.badText name, rfl⟩

/-- A value that its field allows is set there and nowhere else. -/
theorem set_of_allows (s : Settings) (allows : f.Allows value) :
    ∃ t, s.set f.name value = .ok t ∧ t.value = Function.update s.value f value := by
  cases f with
  | logFile =>
    obtain rfl | ⟨path, rfl⟩ := allows
    · exact ⟨{ s with logFile := none }, rfl, by funext g; cases g <;> rfl⟩
    · exact ⟨{ s with logFile := some path }, rfl, by funext g; cases g <;> rfl⟩
  | perftDepth =>
    obtain ⟨n, rfl⟩ := allows
    exact ⟨{ s with perftDepth := n }, by simp [set, Field.name], by funext g; cases g <;> rfl⟩
  | showPseudoLegal =>
    obtain ⟨b, rfl⟩ := allows
    exact ⟨{ s with showPseudoLegal := b }, rfl, by funext g; cases g <;> rfl⟩
  | logLevel =>
    obtain ⟨level, rfl, ne⟩ := allows
    refine ⟨{ s with logLevel := level }, ?_, by funext g; cases g <;> rfl⟩
    show (textOf "log_level" (.text level)).map _ = _
    rw [textOf_text _ ne]
    rfl
  | ruleset =>
    obtain ⟨ruleset, rfl, ne⟩ := allows
    refine ⟨{ s with ruleset }, ?_, by funext g; cases g <;> rfl⟩
    show (textOf "ruleset" (.text ruleset)).map _ = _
    rw [textOf_text _ ne]
    rfl

/-- A value that its field does not allow is refused. -/
theorem set_of_not_allows (s : Settings) (not_allows : ¬ f.Allows value) :
    ∃ fault, s.set f.name value = .error fault := by
  cases f with
  | logFile =>
    refine ⟨.badLogFile, ?_⟩
    cases value with
    | null => exact absurd (.inl rfl) not_allows
    | text path => exact absurd (.inr ⟨path, rfl⟩) not_allows
    | _ => rfl
  | perftDepth =>
    refine ⟨.badDepth, ?_⟩
    cases value with
    | int n =>
      have negative : n < 0 := by
        by_contra h
        exact not_allows ⟨n.toNat, by rw [Int.toNat_of_nonneg (by omega)]⟩
      simp [set, Field.name, negative]
    | _ => rfl
  | showPseudoLegal =>
    refine ⟨.badPseudo, ?_⟩
    cases value with
    | bool b => exact absurd ⟨b, rfl⟩ not_allows
    | _ => rfl
  | logLevel =>
    obtain ⟨fault, h⟩ := exists_textOf_eq_error "log_level" not_allows
    refine ⟨fault, ?_⟩
    show (textOf "log_level" value).map _ = _
    rw [h]
    rfl
  | ruleset =>
    obtain ⟨fault, h⟩ := exists_textOf_eq_error "ruleset" not_allows
    refine ⟨fault, ?_⟩
    show (textOf "ruleset" value).map _ = _
    rw [h]
    rfl

namespace Field

theorem isOneOf_names_iff : key.isOneOf names ↔ ∃ f : Field, key = .text f.name := by
  rw [isOneOf_iff, names_eq]
  simp [mem_all]

theorem isOneOf_name_iff : key.isOneOf [f.name] ↔ key = .text f.name := by
  simp [isOneOf_iff]

theorem under?_cons_self (f : Field) (value : Datum) (entries : List (Datum × Datum)) :
    f.under? ((.text f.name, value) :: entries) = (f.under? entries).or (some value) := by
  have here : (Datum.text f.name).isOneOf [f.name] := isOneOf_name_iff.2 rfl
  rw [under?, under?, List.reverse_cons, List.find?_append, Option.map_or, List.find?_singleton, if_pos here]
  rfl

theorem under?_cons_of_ne (h : key ≠ .text f.name) (value : Datum) (entries : List (Datum × Datum)) :
    f.under? ((key, value) :: entries) = f.under? entries := by
  have elsewhere : ¬ key.isOneOf [f.name] := mt isOneOf_name_iff.1 h
  rw [under?, under?, List.reverse_cons, List.find?_append, Option.map_or, List.find?_singleton,
    if_neg elsewhere, Option.map_none, Option.or_none]

/-- The value that a mapping has for a field is one of its entries. -/
theorem mem_of_under? (h : f.under? entries = some value) : (.text f.name, value) ∈ entries := by
  obtain ⟨⟨key, _⟩, found, rfl⟩ := Option.map_eq_some_iff.1 h
  have holds : key.isOneOf [f.name] := List.find?_some (p := fun e : Datum × Datum => e.1.isOneOf [f.name]) found
  obtain rfl : key = .text f.name := isOneOf_name_iff.1 holds
  exact List.mem_reverse.1 (List.mem_of_find?_eq_some found)

end Field

/-- An entry for one of the fields, with a value that it allows. -/
def Fits (e : Datum × Datum) : Prop := ∃ f : Field, e.1 = .text f.name ∧ f.Allows e.2

theorem setAll_of_fits (s : Settings) (fits : ∀ e ∈ entries, Fits e) :
    ∃ t, s.setAll entries = .ok t ∧ ∀ f, t.value f = (f.under? entries).getD (s.value f) := by
  induction entries generalizing s with
  | nil => exact ⟨s, rfl, fun f => rfl⟩
  | cons e entries ih =>
    obtain ⟨⟨g, hkey, allows⟩, fits'⟩ := List.forall_mem_cons.1 fits
    obtain ⟨key, value⟩ := e
    obtain rfl : key = .text g.name := hkey
    obtain ⟨s', set, updated⟩ := set_of_allows s allows
    obtain ⟨t, setAll_eq, described⟩ := ih s' fits'
    refine ⟨t, by rw [setAll, Datum.plain, set]; exact setAll_eq, fun f => ?_⟩
    rw [described, updated]
    by_cases same : f = g
    · subst same
      rw [Function.update_self, Field.under?_cons_self]
      cases f.under? entries <;> rfl
    · have ne : Datum.text g.name ≠ .text f.name := by
        simpa using fun h => same (Field.name_injective h).symm
      rw [Function.update_of_ne same, Field.under?_cons_of_ne ne]

/-- The first value that its field does not allow is reported. -/
theorem setAll_of_not_allows (s : Settings) (known : ∀ e ∈ entries, ∃ f : Field, e.1 = .text f.name)
    (bad : ∃ e ∈ entries, ∃ f : Field, e.1 = .text f.name ∧ ¬ f.Allows e.2) :
    ∃ fault, s.setAll entries = .error fault := by
  induction entries generalizing s with
  | nil => simp at bad
  | cons e entries ih =>
    obtain ⟨⟨g, hkey⟩, known'⟩ := List.forall_mem_cons.1 known
    obtain ⟨key, value⟩ := e
    obtain rfl : key = .text g.name := hkey
    by_cases allows : g.Allows value
    · obtain ⟨s', set, -⟩ := set_of_allows s allows
      have bad : ∃ e ∈ entries, ∃ f : Field, e.1 = .text f.name ∧ ¬ f.Allows e.2 := by
        obtain ⟨e, he, f, hkey, not_allows⟩ := bad
        rcases List.mem_cons.1 he with rfl | he
        · obtain rfl : g = f := Field.name_injective (Datum.text.inj hkey)
          exact absurd allows not_allows
        · exact ⟨e, he, f, hkey, not_allows⟩
      obtain ⟨fault, h⟩ := ih s' known' bad
      exact ⟨fault, by rw [setAll, Datum.plain, set]; exact h⟩
    · obtain ⟨fault, h⟩ := set_of_not_allows s allows
      exact ⟨fault, by rw [setAll, Datum.plain, h]⟩

theorem strangers_isEmpty_iff : (Datum.strangers names entries).isEmpty ↔
    ∀ e ∈ entries, ∃ f : Field, e.1 = .text f.name := by
  rw [List.isEmpty_iff, Datum.strangers_eq_nil_iff]
  simp only [Field.isOneOf_names_iff]

/-- The fault of a mapping is that of a key or of a value. -/
theorem exists_ofEntries_eq_error (writable : Datum.areWritable (Datum.strangers names entries))
    (h : (∃ e ∈ entries, ∀ f : Field, e.1 ≠ .text f.name) ∨
      ∃ e ∈ entries, ∃ f : Field, e.1 = .text f.name ∧ ¬ f.Allows e.2) :
    ∃ fault, ofEntries entries = .error (.settings fault) := by
  by_cases known : ∀ e ∈ entries, ∃ f : Field, e.1 = .text f.name
  · have bad := h.resolve_left <| by
      rintro ⟨e, he, strange⟩
      exact (known e he).elim strange
    obtain ⟨fault, h⟩ := setAll_of_not_allows {} known bad
    exact ⟨fault, by rw [ofEntries, if_pos (strangers_isEmpty_iff.2 known), h]; rfl⟩
  · exact ⟨_, by rw [ofEntries, if_neg (mt strangers_isEmpty_iff.1 known), if_pos writable]⟩

theorem ofEntries_of_not_writable (unwritten : ¬ Datum.areWritable (Datum.strangers names entries)) :
    ofEntries entries = .error .unwritten := by
  have strange : ¬ (Datum.strangers names entries).isEmpty := fun none =>
    unwritten (by rw [List.isEmpty_iff.1 none]; rfl)
  rw [ofEntries, if_neg strange, if_neg unwritten]

theorem ofEntries_of_fits (fits : ∀ e ∈ entries, Fits e) : ∃ s, ofEntries entries = .ok s ∧
    ∀ f, s.value f = (f.under? entries).getD (({} : Settings).value f) := by
  have known : ∀ e ∈ entries, ∃ f : Field, e.1 = .text f.name :=
    fun e he => (fits e he).imp fun f h => h.1
  obtain ⟨s, h, described⟩ := setAll_of_fits {} fits
  exact ⟨s, by rw [ofEntries, if_pos (strangers_isEmpty_iff.2 known), h]; rfl, described⟩

/-! ### Writing a mapping -/

/-- The settings as a mapping. -/
def asEntries (s : Settings) : List (Datum × Datum) :=
  Field.all.map fun f => (.text f.name, s.value f)

theorem under?_asEntries (s : Settings) (f : Field) : f.under? s.asEntries = some (s.value f) := by
  cases f <;> rfl

theorem ofEntries_asEntries (s : Settings) (allowed : ∀ f : Field, f.Allows (s.value f)) :
    ofEntries s.asEntries = .ok s := by
  have fits : ∀ e ∈ s.asEntries, Fits e := by
    intro e he
    obtain ⟨f, -, rfl⟩ := List.mem_map.1 he
    exact ⟨f, rfl, allowed f⟩
  obtain ⟨t, h, described⟩ := ofEntries_of_fits fits
  have same : t = s := value_injective (funext fun f => by rw [described, under?_asEntries, Option.getD_some])
  rw [h, same]

/-- A single field is read back as well. -/
theorem ofEntries_singleton (allows : f.Allows value) :
    ∃ s, ofEntries [(.text f.name, value)] = .ok s ∧ s.value f = value := by
  have fits : ∀ e ∈ [(Datum.text f.name, value)], Fits e := List.forall_mem_singleton.2 ⟨f, rfl, allows⟩
  obtain ⟨s, h, described⟩ := ofEntries_of_fits fits
  exact ⟨s, h, by rw [described, Field.under?_cons_self]; rfl⟩

/-! ### The environment -/

theorem value_override (s : Settings) (env : Environment) (f : Field) :
    (s.override env).value f = (env.value? f).getD (s.value f) := by
  cases f with
  | logLevel =>
    by_cases unset : env.logLevel = "" <;> simp [value, override, Environment.value?, unset]
  | ruleset =>
    by_cases unset : env.ruleset = "" <;> simp [value, override, Environment.value?, unset]
  | _ => rfl

theorem allows_of_environment {env : Environment} (h : env.value? f = some value) :
    f.Allows value := by
  cases f with
  | logLevel =>
    obtain ⟨unset, rfl⟩ : env.logLevel ≠ "" ∧ _ := by simpa [Environment.value?] using h
    exact ⟨_, rfl, unset⟩
  | ruleset =>
    obtain ⟨unset, rfl⟩ : env.ruleset ≠ "" ∧ _ := by simpa [Environment.value?] using h
    exact ⟨_, rfl, unset⟩
  | logFile => simp [Environment.value?] at h
  | perftDepth => simp [Environment.value?] at h
  | showPseudoLegal => simp [Environment.value?] at h

theorem Field.allows_default (f : Field) : f.Allows (({} : Settings).value f) := by
  cases f with
  | logLevel => exact ⟨_, rfl, by decide⟩
  | ruleset => exact ⟨_, rfl, by decide⟩
  | logFile => exact .inl rfl
  | perftDepth => exact ⟨3, rfl⟩
  | showPseudoLegal => exact ⟨false, rfl⟩

/-- The environment goes over the mapping, and that over the defaults. -/
def told (env : Environment) (entries : List (Datum × Datum)) (f : Field) : Datum :=
  ((env.value? f).or (f.under? entries)).getD (({} : Settings).value f)

theorem allows_told (env : Environment) (fits : ∀ e ∈ entries, Fits e) (f : Field) :
    f.Allows (told env entries f) := by
  unfold told
  cases henv : env.value? f with
  | some value => exact allows_of_environment henv
  | none =>
    cases hunder : f.under? entries with
    | some value =>
      obtain ⟨g, hkey, allows⟩ := fits _ (Field.mem_of_under? hunder)
      obtain rfl : f = g := Field.name_injective (Datum.text.inj hkey)
      exact allows
    | none => exact f.allows_default

/-! ### Files -/

/-- The entries that the root of a file stands for: null stands for none. -/
def rootEntries? : Datum → Option (List (Datum × Datum))
  | .null => some []
  | content =>
    match content.opened with
    | .mapping entries => some entries
    | _ => none

/-- What makes a file one to be refused. -/
inductive Faulty (content : Datum) : Prop where
  | root (h : rootEntries? content = none)
  | key {entries : List (Datum × Datum)} {e : Datum × Datum} (h : rootEntries? content = some entries)
      (mem : e ∈ entries) (strange : ∀ f : Field, e.1 ≠ .text f.name)
  | value {entries : List (Datum × Datum)} {e : Datum × Datum} {f : Field}
      (h : rootEntries? content = some entries) (mem : e ∈ entries) (hkey : e.1 = .text f.name)
      (not_allows : ¬ f.Allows e.2)

theorem exists_ofEntries_of_faulty (root : rootEntries? content = some entries)
    (writable : Datum.areWritable (Datum.strangers names entries)) (faulty : Faulty content) :
    ∃ fault, ofEntries entries = .error (.settings fault) := by
  cases faulty with
  | root h => simp [root] at h
  | key h mem strange =>
    obtain rfl := Option.some.inj (root.symm.trans h)
    exact exists_ofEntries_eq_error writable (.inl ⟨_, mem, strange⟩)
  | value h mem hkey not_allows =>
    obtain rfl := Option.some.inj (root.symm.trans h)
    exact exists_ofEntries_eq_error writable (.inr ⟨_, mem, _, hkey, not_allows⟩)

theorem fits_of_not_faulty (root : rootEntries? content = some entries) (sound : ¬ Faulty content) :
    ∀ e ∈ entries, Fits e := by
  intro e mem
  by_contra h
  by_cases known : ∃ f : Field, e.1 = .text f.name
  · obtain ⟨f, hkey⟩ := known
    exact sound (.value root mem hkey fun allows => h ⟨f, hkey, allows⟩)
  · exact sound (.key root mem fun f hkey => known ⟨f, hkey⟩)

theorem ofContent_of_root (path : String) (root : rootEntries? content = some entries) :
    ofContent path content = ofEntries entries := by
  cases content with
  | null =>
    obtain rfl : [] = entries := Option.some.inj root
    rfl
  | mapping es =>
    obtain rfl : es = entries := Option.some.inj root
    cases es <;> rfl
  | knot _ content =>
    cases content with
    | mapping _ =>
      obtain rfl := Option.some.inj root
      rfl
    | _ => cases root
  | _ => cases root

theorem ofContent_of_not_root (path : String) (root : rootEntries? content = none) :
    ofContent path content = if content.isVoid then .ok {} else .error (.settings (.notMapping path)) := by
  unfold ofContent
  by_cases void : content.isVoid
  · rw [if_pos void, if_pos void]
  · rw [if_neg void, if_neg void]
    cases content with
    | null => cases root
    | mapping _ => cases root
    | knot _ content =>
      cases content with
      | mapping _ => cases root
      | _ => rfl
    | _ => rfl

theorem result_load {files : Files} {path : String} (presents : files.Presents path content)
    (env : Environment) :
    (load files env (some path)).result = (ofContent path content).map (·.override env) := by
  obtain ⟨text, read, yaml⟩ := presents.read
  have file : ofFile files path = ofContent path content := by
    rw [ofFile, presents.noFault, read]
    simp only [yaml]
  rw [load, file]
  cases ofContent path content <;> rfl

/-- The answer to a file with this root: settings that hold what they are told, and that a mapping can be
made of which is read back, field by field and as a whole; or a refusal, if the file is faulty. -/
structure LoadsAsTold (content : Datum) (env : Environment) (result : Except Error Settings) : Prop where
  refused_iff : (∃ fault, result = .error (.settings fault)) ↔ Faulty content
  loads : ¬ Faulty content → ∃ entries s, rootEntries? content = some entries ∧ result = .ok s ∧
    (∀ f, s.value f = told env entries f) ∧
    (∀ f : Field, ∃ t, ofEntries [(.text f.name, s.value f)] = .ok t ∧ t.value f = s.value f) ∧
    ofEntries s.asEntries = .ok s

theorem loadsAsTold_of_root {files : Files} {path : String} (presents : files.Presents path content)
    (env : Environment) (root : rootEntries? content = some entries)
    (writable : Datum.areWritable (Datum.strangers names entries)) :
    LoadsAsTold content env (load files env (some path)).result := by
  rw [result_load presents, ofContent_of_root path root]
  by_cases faulty : Faulty content
  · obtain ⟨fault, h⟩ := exists_ofEntries_of_faulty root writable faulty
    rw [h]
    exact ⟨⟨fun _ => faulty, fun _ => ⟨fault, rfl⟩⟩, fun sound => absurd faulty sound⟩
  · have fits := fits_of_not_faulty root faulty
    obtain ⟨s, h, described⟩ := ofEntries_of_fits fits
    have holds : ∀ f, (s.override env).value f = told env entries f := by
      intro f
      rw [value_override, described, told]
      cases env.value? f <;> rfl
    have allowed : ∀ f : Field, f.Allows ((s.override env).value f) :=
      fun f => holds f ▸ allows_told env fits f
    rw [h]
    refine ⟨⟨?_, fun h => absurd h faulty⟩, fun _ => ⟨entries, s.override env, root, rfl, holds, ?_, ?_⟩⟩
    · rintro ⟨fault, ⟨⟩⟩
    · exact fun f => ofEntries_singleton (allowed f)
    · exact ofEntries_asEntries _ allowed

/-- A root that says nothing, but is neither null nor a mapping. -/
def Void (content : Datum) : Prop := content.isVoid ∧ rootEntries? content = none

/-- A mapping with strange keys that cannot be listed, for an integer in them has too many digits. -/
def Unlisted (content : Datum) : Prop :=
  ∃ entries, rootEntries? content = some entries ∧ ¬ Datum.areWritable (Datum.strangers names entries)

theorem Unlisted.ofContent_eq (unlisted : Unlisted content) (path : String) :
    ofContent path content = .error .unwritten := by
  obtain ⟨entries, root, unwritten⟩ := unlisted
  rw [ofContent_of_root path root, ofEntries_of_not_writable unwritten]

theorem not_loadsAsTold_of_unlisted {files : Files} {path : String} (presents : files.Presents path content)
    (env : Environment) (unlisted : Unlisted content) :
    ¬ LoadsAsTold content env (load files env (some path)).result := by
  rw [result_load presents, unlisted.ofContent_eq]
  intro answered
  by_cases faulty : Faulty content
  · obtain ⟨fault, ⟨⟩⟩ := answered.refused_iff.2 faulty
  · obtain ⟨_, _, _, ⟨⟩, _⟩ := answered.loads faulty

/-- A file is answered as told unless its root says nothing, but is neither null nor a mapping, or has
strange keys that cannot be listed. -/
theorem loadsAsTold_iff {files : Files} {path : String} (presents : files.Presents path content)
    (env : Environment) : LoadsAsTold content env (load files env (some path)).result ↔
      ¬ Void content ∧ ¬ Unlisted content := by
  constructor
  · refine fun answered => ⟨?_, fun unlisted => not_loadsAsTold_of_unlisted presents env unlisted answered⟩
    rintro ⟨void, root⟩
    obtain ⟨fault, h⟩ := answered.refused_iff.2 (.root root)
    rw [result_load presents, ofContent_of_not_root path root, if_pos void] at h
    cases h
  · rintro ⟨not_void, listed⟩
    cases root : rootEntries? content with
    | some entries =>
      exact loadsAsTold_of_root presents env root (by_contra fun unwritten => listed ⟨entries, root, unwritten⟩)
    | none =>
      have void : ¬ content.isVoid := fun void => not_void ⟨void, root⟩
      rw [result_load presents, ofContent_of_not_root path root, if_neg void]
      exact ⟨⟨fun _ => .root root, fun _ => ⟨.notMapping path, rfl⟩⟩,
        fun sound => absurd (.root root) sound⟩

/-- What is read from a text, with a property that can be computed. -/
theorem exists_read (text : String) (p : Datum → Bool) (h : (Yaml.read text.toList).toOption.any p) :
    ∃ content, Yaml.read text.toList = .ok content ∧ p content := by
  cases read : Yaml.read text.toList with
  | error fault => simp [read, Except.toOption] at h
  | ok content => exact ⟨content, rfl, by simpa [read, Except.toOption] using h⟩

/-- The file names a ruleset and a depth, and the environment another ruleset. -/
theorem loadsAsTold_iff_depth :
    let files : Files := { entries := [("s.yaml", "ruleset: a\nperft_depth: 5\n")] }
    let env : Environment := { ruleset := "b" }
    ∃ content, files.Presents "s.yaml" content ∧ ¬ Void content ∧ ¬ Unlisted content ∧
      LoadsAsTold content env (load files env (some "s.yaml")).result ∧
      (load files env (some "s.yaml")).result = .ok { ruleset := "b", perftDepth := 5 } := by
  intro files env
  obtain ⟨content, read, h⟩ := exists_read "ruleset: a\nperft_depth: 5\n"
    (fun content => (rootEntries? content).isSome &&
      (ofContent "s.yaml" content).toOption == some { ruleset := "a", perftDepth := 5 }) (by decide +kernel)
  obtain ⟨root, described⟩ := Bool.and_eq_true_iff.1 h
  have presents : files.Presents "s.yaml" content := ⟨by decide +kernel, _, rfl, read⟩
  have made : ofContent "s.yaml" content = .ok { ruleset := "a", perftDepth := 5 } := by
    cases made : ofContent "s.yaml" content with
    | error fault => simp [made, Except.toOption] at described
    | ok s =>
      rw [made] at described
      rw [Option.some.inj (beq_iff_eq.1 described)]
  have mapped : ¬ Void content := by
    rintro ⟨-, none⟩
    rw [none] at root
    cases root
  have listed : ¬ Unlisted content := by
    intro unlisted
    rw [unlisted.ofContent_eq] at made
    cases made
  refine ⟨content, presents, mapped, listed, (loadsAsTold_iff presents env).2 ⟨mapped, listed⟩, ?_⟩
  rw [result_load presents, made]
  rfl

/-- The value is `false`. -/
def isFalse : Datum → Bool
  | .bool b => !b
  | _ => false

theorem eq_of_isFalse (h : isFalse content) : content = .bool false := by
  cases content <;> simp_all [isFalse]

/-- A file that holds nothing but `false` is no mapping, and is not refused. -/
theorem not_loadsAsTold_false :
    let files : Files := { entries := [("s.yaml", "false")] }
    files.Presents "s.yaml" (.bool false) ∧ Faulty (.bool false) ∧
      (load files {} (some "s.yaml")).result = .ok {} ∧
      ¬ LoadsAsTold (.bool false) {} (load files {} (some "s.yaml")).result := by
  intro files
  have presents : files.Presents "s.yaml" (.bool false) := by
    obtain ⟨content, read, h⟩ : ∃ content, Yaml.read "false".toList = .ok content ∧ isFalse content :=
      exists_read "false" isFalse (by decide +kernel)
    exact ⟨by decide +kernel, "false", rfl, eq_of_isFalse h ▸ read⟩
  have loaded : (load files {} (some "s.yaml")).result = .ok {} := by
    rw [result_load presents]
    rfl
  refine ⟨presents, .root rfl, loaded, fun answered => ?_⟩
  obtain ⟨fault, h⟩ := answered.refused_iff.2 (.root rfl)
  cases loaded.symm.trans h

end Settings

end VariantChess
