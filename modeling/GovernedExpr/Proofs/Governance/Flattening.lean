import GovernedExpr.Governance.Document
import GovernedExpr.Proofs.Governance.Keys
import GovernedExpr.Proofs.Yaml.Values

/-!
# Sections of documents

The sections of a document are values of any shape.  They make up a record if they are mappings from scalars
to scalars, or nothing, under names that are scalars; the entries of the record are then their keys and values
in the order in which they stand.

* `Value.Lists` says which pairs a section has;
* `StageDocument.IsFlat` says that a document has such sections, and `StageDocument.flatten` are the entries;
* `StageDocument.EntryFault` and `StageDocument.SectionFault` say what is wrong with an entry and with a
  section;
* `StageDocument.entries_eq_ok_iff` and `StageDocument.entries_eq_error_iff` say what the sections come to, and
  `readRecord_exact` what the document does.
-/

namespace GovernedExpr

open Yaml

namespace Yaml.Value

variable {v : Value}

/-- The pairs of a section: those of a mapping, and none if there is nothing. -/
inductive Lists : Value → List (Value × Value) → Prop
  | mapping (pairs : List (Value × Value)) : Lists (.mapping pairs) pairs
  | null : Lists .null []

/-- The pairs of a mapping. -/
def pairs : Value → List (Value × Value)
  | mapping pairs => pairs
  | _ => []

theorem Lists.pairs_eq {ps : List (Value × Value)} (h : v.Lists ps) : v.pairs = ps := by
  cases h <;> rfl

end Yaml.Value

namespace StageDocument

variable {heading : String} {pair sect : Value × Value} {e : DocumentError} {d : StageDocument}
  {es : List Entry} {a : Entry}

/-! ### Entries -/

/-- Key and value of an entry are scalars. -/
def IsFlatEntry (pair : Value × Value) : Prop :=
  pair.1.IsScalar ∧ pair.2.IsScalar

/-- What is wrong with an entry: its key is no scalar, or its value is none. -/
inductive EntryFault (heading : String) : Value × Value → DocumentError → Prop
  | key {key value : Value} (h : ¬ key.IsScalar) : EntryFault heading (key, value) (.key heading)
  | value {key value : Value} (scalar : key.IsScalar) (h : ¬ value.IsScalar) :
      EntryFault heading (key, value) (.value heading key.spelling)

theorem entry_eq_ok_iff : entry heading pair = .ok a ↔
    IsFlatEntry pair ∧ (⟨heading, pair.1.spelling, pair.2.spelling⟩ : Entry) = a := by
  obtain ⟨key, value⟩ := pair
  unfold entry IsFlatEntry
  cases hkey : key.scalarText? with
  | none => simp [hkey, Value.scalarText?_eq_none_iff.1 hkey]
  | some name =>
    obtain ⟨keyScalar, rfl⟩ := Value.scalarText?_eq_some_iff.1 hkey
    cases hvalue : value.scalarText? with
    | none => simp [hkey, hvalue, Value.scalarText?_eq_none_iff.1 hvalue]
    | some text =>
      obtain ⟨valueScalar, rfl⟩ := Value.scalarText?_eq_some_iff.1 hvalue
      simp [hkey, hvalue, keyScalar, valueScalar]

theorem entry_eq_error_iff : entry heading pair = .error e ↔ EntryFault heading pair e := by
  obtain ⟨key, value⟩ := pair
  unfold entry
  constructor
  · intro h
    cases hkey : key.scalarText? with
    | none =>
      simp only [hkey, Except.error.injEq] at h
      subst h
      exact .key (Value.scalarText?_eq_none_iff.1 hkey)
    | some name =>
      obtain ⟨keyScalar, rfl⟩ := Value.scalarText?_eq_some_iff.1 hkey
      cases hvalue : value.scalarText? with
      | none =>
        simp only [hkey, hvalue, Except.error.injEq] at h
        subst h
        exact .value keyScalar (Value.scalarText?_eq_none_iff.1 hvalue)
      | some text => simp [hkey, hvalue] at h
  · rintro (⟨noScalar⟩ | ⟨scalar, noScalar⟩)
    · simp [Value.scalarText?_eq_none_iff.2 noScalar]
    · simp [Value.scalarText?_eq_some_iff.2 ⟨scalar, rfl⟩, Value.scalarText?_eq_none_iff.2 noScalar]

/-! ### Sections -/

/-- The name of a section is a scalar, and the section lists pairs of scalars. -/
def IsFlatSection (sect : Value × Value) : Prop :=
  sect.1.IsScalar ∧ ∃ pairs, sect.2.Lists pairs ∧ ∀ pair ∈ pairs, IsFlatEntry pair

/-- The entries of a section. -/
def flattenSection (sect : Value × Value) : List Entry :=
  sect.2.pairs.map fun pair => ⟨sect.1.spelling, pair.1.spelling, pair.2.spelling⟩

/-- What is wrong with a section: its name is no scalar, it lists no pairs, or something is wrong with one of
its entries. -/
inductive SectionFault : Value × Value → DocumentError → Prop
  | name {name body : Value} (h : ¬ name.IsScalar) : SectionFault (name, body) .sectionName
  | body {name body : Value} (scalar : name.IsScalar) (h : ∀ pairs, ¬ body.Lists pairs) :
      SectionFault (name, body) (.sectionBody name.spelling)
  | entry {name body : Value} {pairs : List (Value × Value)} {e : DocumentError}
      (scalar : name.IsScalar) (lists : body.Lists pairs)
      (h : FirstFault (EntryFault name.spelling) pairs e) : SectionFault (name, body) e

/-- The entries of a section under a name that is a scalar. -/
theorem sectionEntries_of_lists {name body : Value} {pairs : List (Value × Value)}
    (scalar : name.IsScalar) (lists : body.Lists pairs) :
    sectionEntries (name, body) = pairs.mapM (entry name.spelling) := by
  have text := Value.scalarText?_eq_some_iff.2 ⟨scalar, rfl⟩
  cases lists with
  | mapping pairs => simp only [sectionEntries, text]
  | null => simp only [sectionEntries, text, List.mapM_nil, pure, Except.pure]

theorem sectionEntries_of_not_isScalar {name : Value} (h : ¬ name.IsScalar) (body : Value) :
    sectionEntries (name, body) = .error .sectionName := by
  simp only [sectionEntries, Value.scalarText?_eq_none_iff.2 h]

theorem sectionEntries_of_not_lists {name body : Value} (scalar : name.IsScalar)
    (h : ∀ pairs, ¬ body.Lists pairs) :
    sectionEntries (name, body) = .error (.sectionBody name.spelling) := by
  have text := Value.scalarText?_eq_some_iff.2 ⟨scalar, rfl⟩
  cases body with
  | null => exact absurd .null (h _)
  | mapping pairs => exact absurd (.mapping pairs) (h _)
  | boolean | number | text | sequence | tagged => simp only [sectionEntries, text]

theorem sectionEntries_eq_ok_iff :
    sectionEntries sect = .ok es ↔ IsFlatSection sect ∧ flattenSection sect = es := by
  obtain ⟨name, body⟩ := sect
  unfold IsFlatSection flattenSection
  by_cases scalar : name.IsScalar
  · by_cases listed : ∃ pairs, body.Lists pairs
    · obtain ⟨pairs, lists⟩ := listed
      rw [sectionEntries_of_lists scalar lists, mapM_eq_ok_iff_map fun _ _ => entry_eq_ok_iff]
      have only (other) : body.Lists other ↔ other = pairs :=
        ⟨fun h => h.pairs_eq.symm.trans lists.pairs_eq, fun h => h ▸ lists⟩
      simp only [scalar, only, lists.pairs_eq, true_and, exists_eq_left]
    · rw [sectionEntries_of_not_lists scalar (not_exists.1 listed)]
      exact iff_of_false nofun fun h => listed (h.1.2.imp fun _ => And.left)
  · rw [sectionEntries_of_not_isScalar scalar]
    exact iff_of_false nofun fun h => scalar h.1.1

theorem sectionEntries_eq_error_iff : sectionEntries sect = .error e ↔ SectionFault sect e := by
  obtain ⟨name, body⟩ := sect
  have first (pairs : List (Value × Value)) : pairs.mapM (entry name.spelling) = .error e ↔
      FirstFault (EntryFault name.spelling) pairs e :=
    mapM_eq_error_iff.trans (firstFault_congr fun _ _ _ => entry_eq_error_iff)
  constructor
  · intro h
    by_cases scalar : name.IsScalar
    · by_cases listed : ∃ pairs, body.Lists pairs
      · obtain ⟨pairs, lists⟩ := listed
        rw [sectionEntries_of_lists scalar lists, first] at h
        exact .entry scalar lists h
      · rw [sectionEntries_of_not_lists scalar (not_exists.1 listed)] at h
        cases h
        exact .body scalar (not_exists.1 listed)
    · rw [sectionEntries_of_not_isScalar scalar] at h
      cases h
      exact .name scalar
  · rintro (⟨noScalar⟩ | ⟨scalar, unlisted⟩ | ⟨scalar, lists, fault⟩)
    · exact sectionEntries_of_not_isScalar noScalar body
    · exact sectionEntries_of_not_lists scalar unlisted
    · rw [sectionEntries_of_lists scalar lists, first]
      exact fault

/-! ### Documents -/

/-- All sections of the document list pairs of scalars, under names that are scalars. -/
def IsFlat (d : StageDocument) : Prop :=
  ∀ sect ∈ d.sections, IsFlatSection sect

/-- The entries of all sections, in the order in which they stand. -/
def flatten (d : StageDocument) : List Entry :=
  d.sections.flatMap flattenSection

theorem entries_eq_ok_iff : d.entries = .ok es ↔ d.IsFlat ∧ d.flatten = es := by
  unfold entries IsFlat flatten
  simp only [bind_eq_ok_iff, mapM_eq_ok_iff_map fun _ _ => sectionEntries_eq_ok_iff, pure, Except.pure,
    Except.ok.injEq, List.flatMap]
  constructor
  · rintro ⟨_, ⟨flat, rfl⟩, rfl⟩
    exact ⟨flat, rfl⟩
  · rintro ⟨flat, rfl⟩
    exact ⟨_, ⟨flat, rfl⟩, rfl⟩

theorem entries_eq_error_iff : d.entries = .error e ↔ FirstFault SectionFault d.sections e := by
  unfold entries
  simp only [bind_eq_error_iff, pure, Except.pure, reduceCtorEq, and_false, exists_false, or_false]
  exact mapM_eq_error_iff.trans (firstFault_congr fun _ _ _ => sectionEntries_eq_error_iff)

/-- Where the number and the sections of a document come from. -/
theorem ofPairs_eq_some {source : Source} {nodes : List (Node × Node)} {before after : Nat}
    (h : ofPairs source nodes before = some (d, after)) :
    (Text.Bounds.int64.least ≤ d.id ∧ d.id ≤ Text.Bounds.int64.greatest) ∧
      (d.sections = [] ∨ ∃ node left left', source.pairs? node left = some (d.sections, left')) := by
  unfold ofPairs at h
  simp only [Following.bind_eq_some_iff] at h
  obtain ⟨fields, _, -, id, _, -, name, _, -, alignment, _, -, version, _, -, sections, _, found, h⟩ := h
  cases checked : Text.Bounds.int64.check id with
  | none =>
    simp only [checked] at h
    exact absurd h Following.failure_ne_some
  | some number =>
    simp only [checked, Following.pure_eq_some_iff] at h
    obtain ⟨rfl, -⟩ := h
    refine ⟨?_, ?_⟩
    · obtain ⟨rfl, bounded⟩ := Text.Bounds.check_eq_some_iff.1 checked
      exact bounded
    · unfold optional at found
      obtain ⟨field, _, -, found⟩ := Following.bind_eq_some_iff.1 found
      cases field with
      | none => exact .inl (Following.pure_eq_some_iff.1 found).1.symm
      | some node => exact .inr ⟨node, _, _, found⟩

/-- Where a document comes from. -/
theorem ofText?_eq_some {text : String} (h : ofText? text = some d) :
    ∃ root pairs before after, ofPairs (Source.ofNode root) pairs before = some (d, after) := by
  unfold ofText? at h
  obtain ⟨root, -, h⟩ := Option.bind_eq_some_iff.1 h
  cases root with
  | mapping properties pairs =>
    obtain ⟨after, h⟩ := Following.run'_eq_some_iff.1 h
    exact ⟨_, pairs, _, after, h⟩
  | reference | scalar | sequence => cases h

theorem record_of_stage {stage : Stage} (h : d.id = stage.id) :
    d.record = match d.entries with
      | .error cause => .error (.document cause)
      | .ok entries => .ok ⟨stage, d.name, d.alignment, d.version, entries⟩ := by
  have known : d.stage = .ok stage := by rw [stage_eq, Stage.ofId?_eq_some_iff.2 h]
  cases listed : d.entries with
  | error cause => simp only [record, known, listed]
  | ok entries => simp only [record, known, listed]

theorem record_of_no_stage (h : d.id < 0 ∨ 3 < d.id) : d.record = .error (.unknownStage d.id) := by
  unfold record
  rw [stage_eq, Stage.ofId?_eq_none h]

end StageDocument

/-- **What a document comes to.**  Its number is an integer of 64 bits.  If it numbers no stage, that is the
error, whatever the sections hold.  Otherwise there is a record just if the sections are mappings from scalars to
scalars, or nothing, under names that are scalars; its entries are then the texts of the keys and the values in
the order of the document.  If they are not, the error is that of the first fault. -/
theorem readRecord_exact {text : String} {d : StageDocument} (h : StageDocument.ofText? text = some d) :
    (Text.Bounds.int64.least ≤ d.id ∧ d.id ≤ Text.Bounds.int64.greatest) ∧
    (d.id < 0 ∨ 3 < d.id → readRecord text = .error (.unknownStage d.id)) ∧
    (0 ≤ d.id ∧ d.id ≤ 3 → ∃ stage : Stage, d.id = stage.id ∧
      ((∃ r, readRecord text = .ok r) ↔ d.IsFlat) ∧
      (d.IsFlat → readRecord text = .ok ⟨stage, d.name, d.alignment, d.version, d.flatten⟩) ∧
      ∀ e, readRecord text = .error e ↔
        ∃ cause, e = .document cause ∧ FirstFault StageDocument.SectionFault d.sections cause) := by
  obtain ⟨root, pairs, before, after, read⟩ := StageDocument.ofText?_eq_some h
  have same : readRecord text = d.record := by unfold readRecord; rw [h]
  refine ⟨(StageDocument.ofPairs_eq_some read).1, fun unknown => ?_, fun known => ?_⟩
  · rw [same, StageDocument.record_of_no_stage unknown]
  · obtain ⟨stage, number⟩ := Stage.exists_id_eq known
    refine ⟨stage, number, ?_⟩
    rw [same, StageDocument.record_of_stage number]
    cases found : d.entries with
    | ok entries =>
      obtain ⟨flat, rfl⟩ := StageDocument.entries_eq_ok_iff.1 found
      refine ⟨iff_of_true ⟨_, rfl⟩ flat, fun _ => rfl, fun e => iff_of_false nofun ?_⟩
      rintro ⟨cause, -, fault⟩
      rw [← StageDocument.entries_eq_error_iff, found] at fault
      cases fault
    | error cause =>
      have uneven : ¬ d.IsFlat := fun flat => by
        have fine := StageDocument.entries_eq_ok_iff.2 ⟨flat, rfl⟩
        rw [found] at fine
        cases fine
      refine ⟨iff_of_false nofun uneven, fun flat => absurd flat uneven, fun e => ?_⟩
      simp only [← StageDocument.entries_eq_error_iff, found, Except.error.injEq]
      exact ⟨fun whole => ⟨cause, whole.symm, rfl⟩, fun ⟨_, whole, rest⟩ => rest ▸ whole.symm⟩

/-- Numbers and truth values become texts, and nothing lists no entries; of two faults the first one is
reported, and neither is if the number is that of no stage. -/
theorem readRecord_exact_mixed :
    let head (id : String) := "stage_id: " ++ id ++ "\nstage_name: A\nsp_alignment: B\nsections:\n"
    let even := head "1" ++ "  2:\n    true: 0x10\n    x: 1.50\n  E:\n  S:\n    '2': no\n"
    let faults := "  S:\n    k: 1\n    ~: [2]\n  ~: 3\n"
    (∃ d, StageDocument.ofText? even = some d ∧ d.IsFlat ∧
      readRecord even = .ok ⟨.parser, "A", "B", StageRecord.initialVersion,
        [⟨"2", "true", "16"⟩, ⟨"2", "x", "1.5"⟩, ⟨"S", "2", "no"⟩]⟩) ∧
    (∃ d, StageDocument.ofText? (head "3" ++ faults) = some d ∧
      FirstFault StageDocument.SectionFault d.sections (.key "S") ∧
      readRecord (head "3" ++ faults) = .error (.document (.key "S"))) ∧
    readRecord (head "256" ++ faults) = .error (.unknownStage 256) := by
  intro head even faults
  -- one evaluation for each document
  have stated {text : String} {id : Int} {outcome : Except GovernanceError StageRecord}
      (h : (StageDocument.ofText? text).map (fun d => (d.id, d.record)) = some (id, outcome)) :
      ∃ d, StageDocument.ofText? text = some d ∧ d.id = id ∧ readRecord text = outcome := by
    obtain ⟨d, found, same⟩ := Option.map_eq_some_iff.1 h
    obtain ⟨number, rfl⟩ := Prod.mk.inj same
    exact ⟨d, found, number, by unfold readRecord; rw [found]⟩
  obtain ⟨d, ofEven, number, accepted⟩ : ∃ d, StageDocument.ofText? even = some d ∧ d.id = 1 ∧
      readRecord even = .ok ⟨.parser, "A", "B", StageRecord.initialVersion,
        [⟨"2", "true", "16"⟩, ⟨"2", "x", "1.5"⟩, ⟨"S", "2", "no"⟩]⟩ := stated (by decide +kernel)
  obtain ⟨d', ofFaults, number', refused⟩ : ∃ d, StageDocument.ofText? (head "3" ++ faults) = some d ∧
      d.id = 3 ∧ readRecord (head "3" ++ faults) = .error (.document (.key "S")) :=
    stated (by decide +kernel)
  obtain ⟨d'', ofUnknown, number'', -⟩ : ∃ d, StageDocument.ofText? (head "256" ++ faults) = some d ∧
      d.id = 256 ∧ readRecord (head "256" ++ faults) = .error (.unknownStage 256) :=
    stated (by decide +kernel)
  obtain ⟨-, -, flat, -⟩ := (readRecord_exact ofEven).2.2 (by omega)
  obtain ⟨-, -, -, -, faulty⟩ := (readRecord_exact ofFaults).2.2 (by omega)
  obtain ⟨_, ⟨⟩, fault⟩ := (faulty _).1 refused
  have unknown := (readRecord_exact ofUnknown).2.1 (by omega)
  exact ⟨⟨d, ofEven, flat.1 ⟨_, accepted⟩, accepted⟩, ⟨d', ofFaults, fault, refused⟩, number'' ▸ unknown⟩

end GovernedExpr
