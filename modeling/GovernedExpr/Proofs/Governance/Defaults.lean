import GovernedExpr.Governance.Settings
import GovernedExpr.Proofs.Governance.Overlaying

/-!
# The built-in governance

The built-in record of each stage is the one that its built-in document describes.

* `readRecord_builtinDocument` says what is read from the built-in documents;
* `parserSettings_builtinRecord`, `passes_builtinRecord` and `outputSettings_builtinRecord` say which
  settings the built-in records of the stages behind the first one give;
* `GovernanceStore.loadDirectory_builtin` says that a directory with built-in documents, all of them
  or some, is the built-in governance.
-/

namespace GovernedExpr

/-! ### The documents -/

theorem toList_builtinDocument (stage : Stage) : (builtinDocument stage).toList =
    (builtinLines stage).flatMap fun line => line.toList ++ ['\n'] := by
  rw [builtinDocument]
  simp [String.toList_join, List.flatMap_map]

/-- **The built-in record of a stage is the one that its built-in document describes.** -/
theorem readRecord_builtinDocument (stage : Stage) :
    readRecord (builtinDocument stage) = .ok (builtinRecord stage) := by
  -- the characters of the lines, unlike those of the joined text, are evaluated fast
  unfold readRecord StageDocument.ofText? Yaml.Node.read? Yaml.tokens?
  rw [toList_builtinDocument, ← toOption_eq_some_iff]
  cases stage <;> decide +kernel

/-! ### The settings -/

/-- The built-in levels are those of arithmetic. -/
theorem parserSettings_builtinRecord : (builtinRecord .parser).parserSettings = .ok .arithmetic :=
  toOption_eq_some_iff.1 (by decide +kernel)

theorem passes_builtinRecord : (builtinRecord .coordinator).passes =
    .ok [⟨"constant_folding", true⟩, ⟨"dead_code_elimination", true⟩,
      ⟨"common_subexpression_elimination", false⟩] :=
  toOption_eq_some_iff.1 (by decide +kernel)

theorem outputSettings_builtinRecord : (builtinRecord .output).outputSettings =
    .ok ⟨"LISP_STYLE_AST", some "C_CODE", some "DOT_GRAPH", true, false⟩ :=
  toOption_eq_some_iff.1 (by decide +kernel)

/-! ### Directories -/

namespace GovernanceStore

variable {files : Files} {directory : String}

theorem describes_builtinRecord {stage : Stage}
    (h : files (below directory stage.fileName) = .file (builtinDocument stage).toUTF8) :
    Describes files directory stage (builtinRecord stage) :=
  ⟨_, builtinDocument stage, h, dif_pos (builtinDocument stage).isValidUTF8,
    readRecord_builtinDocument stage, rfl⟩

/-- **Built-in documents change nothing.** -/
theorem loadDirectory_builtin (h : (files directory).isDirectory = true)
    (given : ∀ stage : Stage, (files (below directory stage.fileName)).isFile = true →
      files (below directory stage.fileName) = .file (builtinDocument stage).toUTF8) :
    loadDirectory files directory = .ok builtin := by
  have readable : ∃ s, loadDirectory files directory = .ok s := by
    rw [loadDirectory_eq_overlay h, exists_overlay_eq_ok_iff]
    intro stage _
    rw [exists_loadOverride_eq_ok_iff]
    exact fun isFile => ⟨_, describes_builtinRecord (given stage isFile)⟩
  obtain ⟨s, hs⟩ := readable
  have same : s = builtin := ext_record? fun stage => by
    rw [record?_of_loadDirectory_eq_ok h hs, record?_builtin]
    cases isFile : (files (below directory stage.fileName)).isFile with
    | false =>
      rw [loadOverride_of_isFile_eq_false isFile]
      rfl
    | true =>
      rw [(describes_builtinRecord (given stage isFile)).loadOverride_eq]
      rfl
  rw [hs, same]

end GovernanceStore

end GovernedExpr
