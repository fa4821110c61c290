import Mathlib.Tactic.SplitIfs
import GovernedExpr.Proofs.Pipeline.Stages

/-!
# What the options of a run decide

The options of a run ask for a format and for completeness.  They decide whether the run succeeds
and what is written in the end, and nothing else.

* `FormatRegistry.render_ofSettings` says which formats the settings of the output allow;
* `GovernanceStore.Reaches` says that the first three stages succeed and that the settings of the
  fourth can be derived, `GovernanceStore.execute_of_reaches` what is left to be done then;
* `GovernanceStore.execute_strict_iff` and `GovernanceStore.execute_agree` compare runs with
  different options;
* `execute_options` puts the three together.
-/

namespace GovernedExpr

/-! ### Formats that the settings allow -/

namespace FormatRegistry

/-- The outline is always there, JSON if it is allowed, and no other format. -/
theorem get?_ofSettings (output : OutputSettings) (name : String) :
    (ofSettings output).get? name =
      if name = "LISP_STYLE_AST" then some .lisp
      else if name = "JSON" ∧ output.jsonExport = true then some .json
      else none := by
  have nameLisp : Formatter.lisp.name = "LISP_STYLE_AST" := rfl
  have nameJson : Formatter.json.name = "JSON" := rfl
  unfold ofSettings
  cases output.jsonExport with
  | false => simp [get?_register, nameLisp]
  | true =>
    by_cases outline : name = "LISP_STYLE_AST" <;>
      simp [get?_register, nameLisp, nameJson, outline]

theorem render_ofSettings (output : OutputSettings) (root : Option Tree) (name : String) :
    (ofSettings output).render root name =
      if name = "LISP_STYLE_AST" then .ok (lisp root)
      else if name = "JSON" ∧ output.jsonExport = true then .ok (prettyJson root)
      else .error (.notFound name) := by
  rw [render, get?_ofSettings]
  split_ifs <;> rfl

end FormatRegistry

/-! ### Runs with different options -/

namespace GovernanceStore

/-- The first three stages succeed on a text, and the settings of the fourth are derived. -/
structure Reaches (s : GovernanceStore) (options : RunOptions) (source : String)
    (tokens : TokenStream) (tree : Option Tree) (consumed : Nat) (report : Report)
    (output : OutputSettings) : Prop where
  tokenized : s.tokenize source = .ok tokens
  parsed : s.parse options tokens = .ok (tree, consumed)
  measured : s.measure tree = .ok report
  settled : s.settings .output StageRecord.outputSettings = .ok output

variable {s : GovernanceStore} {options options' : RunOptions} {source : String}
  {tokens : TokenStream} {tree : Option Tree} {consumed : Nat} {report : Report}
  {output : OutputSettings} {out out' : RunOutput}

/-- Then only the format can fail. -/
theorem execute_of_reaches (h : s.Reaches options source tokens tree consumed report output) :
    s.execute options source =
      let format := options.format.getD output.primaryFormat
      (((FormatRegistry.ofSettings output).render tree format).mapError .format).map
        fun rendered => ⟨tokens, tree, consumed, report, format, rendered⟩ := by
  unfold execute write
  simp only [h.tokenized, h.parsed, h.measured, h.settled, bind, Except.bind, pure, Except.pure]
  cases (FormatRegistry.ofSettings output).render tree
    (options.format.getD output.primaryFormat) <;> rfl

/-- A strict run succeeds where a lenient one reads everything, with the same output. -/
theorem execute_strict_iff {format : Option String} :
    s.execute ⟨format, true⟩ source = .ok out ↔
      s.execute ⟨format, false⟩ source = .ok out ∧ out.isComplete = true := by
  have hwrite : s.write ⟨format, true⟩ out.tree = s.write ⟨format, false⟩ out.tree := rfl
  simp only [execute_eq_ok_iff, parse_eq_ok_iff, hwrite, RunOutput.isComplete, decide_eq_true_eq,
    forall_const, Bool.false_eq_true, false_implies, and_true]
  constructor
  · rintro ⟨htokens, ⟨p, hp, hparse, complete⟩, hmeasure, hwrite⟩
    exact ⟨⟨htokens, ⟨p, hp, hparse⟩, hmeasure, hwrite⟩, complete⟩
  · rintro ⟨⟨htokens, ⟨p, hp, hparse⟩, hmeasure, hwrite⟩, complete⟩
    exact ⟨htokens, ⟨p, hp, hparse, complete⟩, hmeasure, hwrite⟩

/-- Runs that succeed agree on all but the format and the text in it. -/
theorem execute_agree (h : s.execute options source = .ok out)
    (h' : s.execute options' source = .ok out') :
    out.tokens = out'.tokens ∧ out.tree = out'.tree ∧ out.consumed = out'.consumed ∧
      out.report = out'.report := by
  obtain ⟨htokens, hparse, hmeasure, -⟩ := execute_eq_ok_iff.1 h
  obtain ⟨htokens', hparse', hmeasure', -⟩ := execute_eq_ok_iff.1 h'
  have tokens : out.tokens = out'.tokens := Except.ok.inj (htokens.symm.trans htokens')
  obtain ⟨p, hp, hread, -⟩ := parse_eq_ok_iff.1 hparse
  obtain ⟨p', hp', hread', -⟩ := parse_eq_ok_iff.1 hparse'
  obtain rfl : p = p' := Except.ok.inj (hp.symm.trans hp')
  rw [tokens, hread'] at hread
  obtain ⟨htree, consumed⟩ := Parsed.mk.inj hread
  have tree : out.tree = out'.tree := (Except.ok.inj htree).symm
  rw [tree, hmeasure'] at hmeasure
  exact ⟨tokens, tree, consumed.symm, (Except.ok.inj hmeasure).symm⟩

end GovernanceStore

/-- **Options never change what the stages compute.**  A strict run is a lenient run that reads
everything; runs that succeed agree on tokens, tree, number of tokens read and report; and once
the first three stages succeed and the settings of the output are derived, the run succeeds exactly
for the outline and, where it is allowed, JSON, with the text of that format, and every other name
is reported as it was asked for. -/
theorem execute_options (s : GovernanceStore) (source : String) :
    (∀ format out, s.execute ⟨format, true⟩ source = .ok out ↔
      s.execute ⟨format, false⟩ source = .ok out ∧ out.isComplete = true) ∧
    (∀ options options' out out', s.execute options source = .ok out →
      s.execute options' source = .ok out' →
        out.tokens = out'.tokens ∧ out.tree = out'.tree ∧ out.consumed = out'.consumed ∧
          out.report = out'.report) ∧
    ∀ options tokens tree consumed report output,
      s.Reaches options source tokens tree consumed report output →
        let format := options.format.getD output.primaryFormat
        let allowed := format = "LISP_STYLE_AST" ∨ format = "JSON" ∧ output.jsonExport = true
        ((∃ out, s.execute options source = .ok out) ↔ allowed) ∧
        (format = "LISP_STYLE_AST" → s.execute options source =
          .ok ⟨tokens, tree, consumed, report, format, lisp tree⟩) ∧
        (format = "JSON" → output.jsonExport = true → s.execute options source =
          .ok ⟨tokens, tree, consumed, report, format, prettyJson tree⟩) ∧
        (¬ allowed → s.execute options source = .error (.format (.notFound format))) := by
  refine ⟨fun format out => GovernanceStore.execute_strict_iff,
    fun options options' out out' => GovernanceStore.execute_agree, ?_⟩
  intro options tokens tree consumed report output reaches format allowed
  rw [GovernanceStore.execute_of_reaches reaches]
  simp only [FormatRegistry.render_ofSettings]
  by_cases outline : format = "LISP_STYLE_AST"
  · have other : format ≠ "JSON" := by rw [outline]; decide
    rw [if_pos outline]
    exact ⟨iff_of_true ⟨_, rfl⟩ (.inl outline), fun _ => rfl, fun json => absurd json other,
      fun refused => absurd (.inl outline) refused⟩
  · rw [if_neg outline]
    by_cases json : format = "JSON" ∧ output.jsonExport = true
    · rw [if_pos json]
      exact ⟨iff_of_true ⟨_, rfl⟩ (.inr json), fun h => absurd h outline, fun _ _ => rfl,
        fun refused => absurd (.inr json) refused⟩
    · rw [if_neg json]
      have refused : ¬ allowed := not_or.2 ⟨outline, json⟩
      refine ⟨iff_of_false ?_ refused, fun h => absurd h outline, fun h h' => absurd ⟨h, h'⟩ json,
        fun _ => rfl⟩
      rintro ⟨out, ⟨⟩⟩

/-- A format that the governance names, but that nothing writes. -/
theorem execute_options_sumsFirst :
    let s := GovernanceStore.sumsFirst
    let out := RunOutput.sumsFirst
    s.Reaches ⟨some "C_CODE", false⟩ "a * b + 2 - @ c" out.tokens out.tree out.consumed out.report
        ⟨"LISP_STYLE_AST", some "C_CODE", some "DOT_GRAPH", false, false⟩ ∧
      s.execute ⟨some "C_CODE", false⟩ "a * b + 2 - @ c" =
        .error (.format (.notFound "C_CODE")) := by
  intro s out
  obtain ⟨htokens, hparse, hmeasure, -⟩ :=
    GovernanceStore.execute_eq_ok_iff.1 GovernanceStore.execute_sumsFirst
  have reaches : s.Reaches ⟨some "C_CODE", false⟩ "a * b + 2 - @ c" out.tokens out.tree
      out.consumed out.report ⟨"LISP_STYLE_AST", some "C_CODE", some "DOT_GRAPH", false, false⟩ :=
    ⟨htokens, hparse, hmeasure, toOption_eq_some_iff.1 (by decide +kernel)⟩
  exact ⟨reaches, ((execute_options s _).2.2 _ _ _ _ _ _ reaches).2.2.2 (by decide)⟩

end GovernedExpr
