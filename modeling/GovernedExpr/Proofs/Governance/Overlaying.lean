import GovernedExpr.Governance.Overlay
import GovernedExpr.Proofs.Governance.History
import GovernedExpr.Proofs.Pipeline.Progress

/-!
# Records of a directory

For each stage a directory may hold a file that bears the name of the stage's document.  If the file
describes a record of the stage, then that record takes the place of the built-in one as a whole; if
it does not, then the file offends, and the first file that offends decides.

* `Describes` says which record the file of a stage describes, and `Offends` what is wrong with it;
* `loadOverride_cases` says that there is no such file, or it describes a record, or it offends;
* `GovernanceStore.overlay` lays the records of stages over a store, `record?_of_overlay_eq_ok` says
  which records the store has then, and `overlay_eq_error_iff` when this fails;
* `loadDirectory_overlay` puts these together.
-/

namespace GovernedExpr

/-! ### One file -/

section File

variable {files : Files} {directory : String} {stage : Stage} {r : StageRecord}
  {e : GovernanceError}

/-- The file of a stage is a text that describes a record of the stage. -/
def Describes (files : Files) (directory : String) (stage : Stage) (r : StageRecord) : Prop :=
  ∃ bytes text, files (below directory stage.fileName) = .file bytes ∧
    String.fromUTF8? bytes = some text ∧ readRecord text = .ok r ∧ r.stage = stage

theorem Describes.stage_eq (h : Describes files directory stage r) : r.stage = stage := by
  obtain ⟨_, _, -, -, -, same⟩ := h
  exact same

/-- What is wrong with the file of a stage. -/
inductive Offends (files : Files) (directory : String) (stage : Stage) : GovernanceError → Prop
  /-- It is there, but is not to be read. -/
  | closed {cause : FileError} (file : files (below directory stage.fileName) = .closed cause) :
      Offends files directory stage (.unreadable (below directory stage.fileName) cause)
  /-- Its bytes are no text. -/
  | notText {bytes : ByteArray} (file : files (below directory stage.fileName) = .file bytes)
      (undecoded : String.fromUTF8? bytes = none) :
      Offends files directory stage (.unreadable (below directory stage.fileName) .notText)
  /-- Its text describes no record. -/
  | document {bytes : ByteArray} {text : String} {e : GovernanceError}
      (file : files (below directory stage.fileName) = .file bytes)
      (decoded : String.fromUTF8? bytes = some text) (refused : readRecord text = .error e) :
      Offends files directory stage e
  /-- It describes a record of another stage. -/
  | misplaced {bytes : ByteArray} {text : String} {r : StageRecord}
      (file : files (below directory stage.fileName) = .file bytes)
      (decoded : String.fromUTF8? bytes = some text) (read : readRecord text = .ok r)
      (other : r.stage ≠ stage) : Offends files directory stage (.stageMismatch stage r.stage)

theorem loadOverride_of_isFile_eq_false
    (h : (files (below directory stage.fileName)).isFile = false) :
    loadOverride files directory stage = .ok none := by
  rw [loadOverride, h]
  rfl

theorem Describes.loadOverride_eq (h : Describes files directory stage r) :
    loadOverride files directory stage = .ok (some r) := by
  obtain ⟨bytes, text, file, decoded, read, same⟩ := h
  simp [loadOverride, loadFile, PathView.isFile, PathView.text, file, decoded, read, same, bind,
    Except.bind, pure, Except.pure]

theorem Offends.loadOverride_eq (h : Offends files directory stage e) :
    loadOverride files directory stage = .error e := by
  cases h with
  | closed file =>
    simp [loadOverride, loadFile, PathView.isFile, PathView.text, file, bind, Except.bind]
  | notText file undecoded =>
    simp [loadOverride, loadFile, PathView.isFile, PathView.text, file, undecoded, bind,
      Except.bind]
  | document file decoded refused =>
    simp [loadOverride, loadFile, PathView.isFile, PathView.text, file, decoded, refused, bind,
      Except.bind]
  | misplaced file decoded read other =>
    simp [loadOverride, loadFile, PathView.isFile, PathView.text, file, decoded, read, other, bind,
      Except.bind]

/-- There is no file for a stage, or it describes a record of the stage, or it offends. -/
theorem loadOverride_cases (files : Files) (directory : String) (stage : Stage) :
    (files (below directory stage.fileName)).isFile = false ∨
      (∃ r, Describes files directory stage r) ∨ ∃ e, Offends files directory stage e := by
  cases file : files (below directory stage.fileName) with
  | directory => exact .inl rfl
  | unreadable cause => exact .inl rfl
  | closed cause => exact .inr (.inr ⟨_, .closed file⟩)
  | file bytes =>
    refine .inr ?_
    cases decoded : String.fromUTF8? bytes with
    | none => exact .inr ⟨_, .notText file decoded⟩
    | some text =>
      cases read : readRecord text with
      | error e => exact .inr ⟨e, .document file decoded read⟩
      | ok r =>
        by_cases same : r.stage = stage
        · exact .inl ⟨r, bytes, text, file, decoded, read, same⟩
        · exact .inr ⟨_, .misplaced file decoded read same⟩

theorem loadOverride_eq_ok_some_iff :
    loadOverride files directory stage = .ok (some r) ↔ Describes files directory stage r := by
  refine ⟨fun h => ?_, Describes.loadOverride_eq⟩
  rcases loadOverride_cases files directory stage with none | ⟨r', described⟩ | ⟨e, offends⟩
  · rw [loadOverride_of_isFile_eq_false none] at h
    cases h
  · rw [described.loadOverride_eq] at h
    cases h
    exact described
  · rw [offends.loadOverride_eq] at h
    cases h

theorem loadOverride_eq_error_iff :
    loadOverride files directory stage = .error e ↔ Offends files directory stage e := by
  refine ⟨fun h => ?_, Offends.loadOverride_eq⟩
  rcases loadOverride_cases files directory stage with none | ⟨r, described⟩ | ⟨e', offends⟩
  · rw [loadOverride_of_isFile_eq_false none] at h
    cases h
  · rw [described.loadOverride_eq] at h
    cases h
  · rw [offends.loadOverride_eq] at h
    cases h
    exact offends

theorem Offends.isFile (h : Offends files directory stage e) :
    (files (below directory stage.fileName)).isFile = true := by
  cases h with
  | closed file | notText file | document file | misplaced file => rw [file]; rfl

/-- A stage is read without an error if its file describes a record of the stage, provided that there
is such a file. -/
theorem exists_loadOverride_eq_ok_iff : (∃ found, loadOverride files directory stage = .ok found) ↔
    ((files (below directory stage.fileName)).isFile = true →
      ∃ r, Describes files directory stage r) := by
  rcases loadOverride_cases files directory stage with none | ⟨r, described⟩ | ⟨e, offends⟩
  · simp [loadOverride_of_isFile_eq_false none, none]
  · simp only [described.loadOverride_eq]
    exact ⟨fun _ _ => ⟨r, described⟩, fun _ => ⟨_, rfl⟩⟩
  · constructor
    · rintro ⟨found, hfound⟩
      rw [offends.loadOverride_eq] at hfound
      cases hfound
    · intro describes
      obtain ⟨r, described⟩ := describes offends.isFile
      exact ⟨_, described.loadOverride_eq⟩

theorem exists_loadOverride_eq_ok_iff_not_offends :
    (∃ found, loadOverride files directory stage = .ok found) ↔
      ∀ e, ¬ Offends files directory stage e := by
  simp only [← loadOverride_eq_error_iff]
  cases loadOverride files directory stage with
  | error e => simp
  | ok found => simp

end File

/-! ### Several files -/

namespace GovernanceStore

variable {files : Files} {directory : String} {s s' : GovernanceStore} {stage : Stage}
  {stages : List Stage} {found : Option StageRecord} {e : GovernanceError}

/-- Lay the records that a directory has for stages over those of a store, one after the other. -/
def overlay (files : Files) (directory : String) (s : GovernanceStore) (stages : List Stage) :
    Except GovernanceError GovernanceStore :=
  stages.foldlM (fun s stage => return ((← loadOverride files directory stage).elim s s.insert)) s

theorem loadDirectory_eq_overlay (h : (files directory).isDirectory = true) :
    loadDirectory files directory = builtin.overlay files directory Stage.all :=
  if_pos h

@[simp] theorem overlay_nil (files : Files) (directory : String) (s : GovernanceStore) :
    s.overlay files directory [] = .ok s := rfl

theorem overlay_cons_of_ok (h : loadOverride files directory stage = .ok found) :
    s.overlay files directory (stage :: stages) =
      (found.elim s s.insert).overlay files directory stages := by
  rw [overlay, List.foldlM_cons, h]
  rfl

theorem overlay_cons_of_error (h : loadOverride files directory stage = .error e) :
    s.overlay files directory (stage :: stages) = .error e := by
  rw [overlay, List.foldlM_cons, h]
  rfl

/-- One record laid over a store changes the record of its stage only. -/
theorem record?_elim_insert (h : loadOverride files directory stage = .ok found) (other : Stage) :
    (found.elim s s.insert).record? other =
      if other = stage then found.or (s.record? stage) else s.record? other := by
  cases found with
  | none =>
    by_cases same : other = stage
    · simp [same]
    · simp [same]
  | some r =>
    obtain ⟨_, _, -, -, -, rfl⟩ := loadOverride_eq_ok_some_iff.1 h
    simp [record?_insert]

/-- The records of a store over which others were laid. -/
theorem record?_of_overlay_eq_ok (h : s.overlay files directory stages = .ok s') (stage : Stage) :
    s'.record? stage =
      if stage ∈ stages then
        (((loadOverride files directory stage).toOption).join).or (s.record? stage)
      else s.record? stage := by
  induction stages generalizing s with
  | nil =>
    cases h
    simp
  | cons first stages ih =>
    cases hfirst : loadOverride files directory first with
    | error e =>
      rw [overlay_cons_of_error hfirst] at h
      cases h
    | ok found =>
      rw [overlay_cons_of_ok hfirst] at h
      rw [ih h, record?_elim_insert hfirst]
      by_cases same : stage = first
      · subst same
        cases found <;> simp [hfirst, Except.toOption]
      · simp [same]

/-- Laying records over a store succeeds if every stage is read without an error. -/
theorem exists_overlay_eq_ok_iff : (∃ s', s.overlay files directory stages = .ok s') ↔
    ∀ stage ∈ stages, ∃ found, loadOverride files directory stage = .ok found := by
  induction stages generalizing s with
  | nil => simp
  | cons first stages ih =>
    rw [List.forall_mem_cons]
    cases h : loadOverride files directory first with
    | error e => simp [overlay_cons_of_error h]
    | ok found => simp [overlay_cons_of_ok h, ih]

/-- Laying records over a store fails with the error of the first stage that is not read. -/
theorem overlay_eq_error_iff (sorted : stages.Pairwise fun a b => a.id < b.id) :
    s.overlay files directory stages = .error e ↔
      ∃ stage ∈ stages, loadOverride files directory stage = .error e ∧
        ∀ earlier ∈ stages, earlier.id < stage.id →
          ∃ found, loadOverride files directory earlier = .ok found := by
  induction stages generalizing s with
  | nil => simp
  | cons first stages ih =>
    obtain ⟨least, sorted⟩ := List.pairwise_cons.1 sorted
    cases h : loadOverride files directory first with
    | error e' =>
      rw [overlay_cons_of_error h]
      constructor
      · rintro ⟨⟩
        refine ⟨first, List.mem_cons_self, h, fun earlier hearlier before => ?_⟩
        rcases List.mem_cons.1 hearlier with rfl | later
        · omega
        · have := least earlier later
          omega
      · rintro ⟨stage, hstage, broken, before⟩
        rcases List.mem_cons.1 hstage with rfl | later
        · rw [h] at broken
          cases broken
          rfl
        · obtain ⟨found, hfound⟩ := before first List.mem_cons_self (least stage later)
          rw [h] at hfound
          cases hfound
    | ok found =>
      rw [overlay_cons_of_ok h, ih sorted]
      constructor
      · rintro ⟨stage, hstage, broken, before⟩
        exact ⟨stage, List.mem_cons_of_mem first hstage, broken,
          List.forall_mem_cons.2 ⟨fun _ => ⟨found, h⟩, before⟩⟩
      · rintro ⟨stage, hstage, broken, before⟩
        rcases List.mem_cons.1 hstage with rfl | later
        · rw [h] at broken
          cases broken
        · exact ⟨stage, later, broken, (List.forall_mem_cons.1 before).2⟩

@[simp] theorem record?_builtin (stage : Stage) :
    builtin.record? stage = some (builtinRecord stage) := by
  cases stage <;> rfl

/-- A store that has a record for every stage lists them in the order of the stages. -/
theorem map_stage_records (h : ∀ stage, ∃ r, s.record? stage = some r ∧ r.stage = stage) :
    s.records.map StageRecord.stage = Stage.all := by
  rw [records]
  generalize Stage.all = stages
  induction stages with
  | nil => rfl
  | cons stage stages ih =>
    obtain ⟨r, hr, same⟩ := h stage
    rw [List.filterMap_cons_some hr, List.map_cons, same, ih]

/-- The record of a stage under the governance of a directory. -/
theorem record?_of_loadDirectory_eq_ok (isDirectory : (files directory).isDirectory = true)
    (h : loadDirectory files directory = .ok s) (stage : Stage) :
    s.record? stage =
      ((loadOverride files directory stage).toOption.join).or (some (builtinRecord stage)) := by
  rw [loadDirectory_eq_overlay isDirectory] at h
  rw [record?_of_overlay_eq_ok h, if_pos (Stage.mem_all stage), record?_builtin]

end GovernanceStore

open GovernanceStore in
/-- **The law of overlays.**  The records of a directory are read if and only if each file of a stage
that is there can be read, is text and describes a record of its stage.  Then every stage has one record, namely the
one that its file describes, as a whole, and the built-in one if there is no file.  Otherwise the error
is that of the first stage whose file offends.  Other files do not matter. -/
theorem loadDirectory_overlay {files : Files} {directory : String}
    (h : (files directory).isDirectory = true) :
    ((∃ s, loadDirectory files directory = .ok s) ↔
      ∀ stage : Stage, (files (below directory stage.fileName)).isFile = true →
        ∃ r, Describes files directory stage r) ∧
    (∀ s, loadDirectory files directory = .ok s →
      (∀ stage r, Describes files directory stage r → s.record? stage = some r) ∧
      (∀ stage : Stage, (files (below directory stage.fileName)).isFile = false →
        s.record? stage = some (builtinRecord stage)) ∧
      s.records.map StageRecord.stage = Stage.all) ∧
    (∀ e, loadDirectory files directory = .error e ↔
      ∃ stage, Offends files directory stage e ∧
        ∀ earlier : Stage, earlier.id < stage.id → ∀ e', ¬ Offends files directory earlier e') ∧
    ∀ files' : Files, (files' directory).isDirectory = true →
      (∀ stage : Stage, files' (below directory stage.fileName) =
        files (below directory stage.fileName)) →
      loadDirectory files' directory = loadDirectory files directory := by
  refine ⟨?_, fun s hs => ?_, fun e => ?_, fun files' h' same => ?_⟩
  · rw [loadDirectory_eq_overlay h, exists_overlay_eq_ok_iff]
    simp only [Stage.mem_all, true_implies, exists_loadOverride_eq_ok_iff]
  · have record := record?_of_loadDirectory_eq_ok h hs
    have readable := exists_overlay_eq_ok_iff.1 ⟨s, loadDirectory_eq_overlay h ▸ hs⟩
    have described : ∀ stage r, Describes files directory stage r → s.record? stage = some r := by
      intro stage r hr
      rw [record, hr.loadOverride_eq]
      rfl
    have untouched : ∀ stage : Stage, (files (below directory stage.fileName)).isFile = false →
        s.record? stage = some (builtinRecord stage) := by
      intro stage none
      rw [record, loadOverride_of_isFile_eq_false none]
      rfl
    refine ⟨described, untouched, map_stage_records fun stage => ?_⟩
    obtain ⟨found, hfound⟩ := readable stage (Stage.mem_all stage)
    cases found with
    | none => exact ⟨builtinRecord stage, by rw [record, hfound]; rfl, rfl⟩
    | some r =>
      have hr := loadOverride_eq_ok_some_iff.1 hfound
      exact ⟨r, described stage r hr, hr.stage_eq⟩
  · rw [loadDirectory_eq_overlay h, overlay_eq_error_iff Stage.pairwise_all]
    simp only [Stage.mem_all, true_and, true_implies, loadOverride_eq_error_iff,
      exists_loadOverride_eq_ok_iff_not_offends]
  · have alike : ∀ stage, loadOverride files' directory stage = loadOverride files directory stage := by
      intro stage
      simp only [loadOverride, loadFile, same]
    rw [loadDirectory_eq_overlay h', loadDirectory_eq_overlay h, overlay, overlay]
    simp only [alike]

/-- A directory whose file for the parser is right and whose file for the output describes the
tokenizer.  The name of the tokenizer's file is that of a directory, and there is a file besides. -/
def misplacedFiles : Files := fun path =>
  if path = "gov" ∨ path = "gov/riftrc.0.yaml" then .directory
  else if path = "gov/riftrc.1.yaml" then
    .file "stage_id: 1\nstage_name: P\nsp_alignment: Q\n".toUTF8
  else if path = "gov/riftrc.3.yaml" then
    .file "stage_id: 0\nstage_name: T\nsp_alignment: Q\n".toUTF8
  else if path = "gov/notes.txt" then .file ⟨#[255]⟩
  else .unreadable .notFound

theorem loadDirectory_overlay_misplaced :
    (misplacedFiles "gov").isDirectory = true ∧
      Describes misplacedFiles "gov" .parser ⟨.parser, "P", "Q", "1.0.0", []⟩ ∧
      GovernanceStore.loadDirectory misplacedFiles "gov" =
        .error (.stageMismatch .output .tokenizer) := by
  have isDirectory : (misplacedFiles "gov").isDirectory = true := by decide +kernel
  have parser : Describes misplacedFiles "gov" .parser ⟨.parser, "P", "Q", "1.0.0", []⟩ := by
    refine ⟨"stage_id: 1\nstage_name: P\nsp_alignment: Q\n".toUTF8,
      "stage_id: 1\nstage_name: P\nsp_alignment: Q\n", ?_, by decide +kernel, by decide +kernel, rfl⟩
    rw [show below "gov" Stage.parser.fileName = "gov/riftrc.1.yaml" by decide +kernel]
    simp [misplacedFiles]
  have file : misplacedFiles (below "gov" Stage.output.fileName) =
      .file "stage_id: 0\nstage_name: T\nsp_alignment: Q\n".toUTF8 := by
    rw [show below "gov" Stage.output.fileName = "gov/riftrc.3.yaml" by decide +kernel]
    simp [misplacedFiles]
  have decoded : String.fromUTF8? "stage_id: 0\nstage_name: T\nsp_alignment: Q\n".toUTF8 =
      some "stage_id: 0\nstage_name: T\nsp_alignment: Q\n" := by decide +kernel
  have read : readRecord "stage_id: 0\nstage_name: T\nsp_alignment: Q\n" =
      .ok ⟨.tokenizer, "T", "Q", "1.0.0", []⟩ := by decide +kernel
  have output : Offends misplacedFiles "gov" .output (.stageMismatch .output .tokenizer) :=
    .misplaced file decoded read (by decide)
  refine ⟨isDirectory, parser, ((loadDirectory_overlay isDirectory).2.2.1 _).2
    ⟨.output, output, fun earlier before => exists_loadOverride_eq_ok_iff_not_offends.1 ?_⟩⟩
  cases earlier with
  | tokenizer => exact ⟨_, loadOverride_of_isFile_eq_false (by decide +kernel)⟩
  | parser => exact ⟨_, parser.loadOverride_eq⟩
  | coordinator => exact ⟨_, loadOverride_of_isFile_eq_false (by decide +kernel)⟩
  | output => exact absurd before (by decide)

end GovernedExpr
