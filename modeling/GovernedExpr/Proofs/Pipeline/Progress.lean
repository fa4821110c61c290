import GovernedExpr.Proofs.Pipeline.Stages

/-!
# The stage that decides

The stages of a run follow one another.  The first one that fails decides what the run comes to, and
no stage looks at the records of those behind it.

* `GovernanceStore.Succeeds` and `GovernanceStore.Breaks` say what a single stage comes to, given
  what those before it came to;
* `GovernanceStore.Passes` says that a run gets past a stage, `GovernanceStore.Fails` that it fails
  in a stage, after it got past those before;
* `GovernanceStore.execute_eq_ok_iff_forall` and `GovernanceStore.execute_eq_error_iff` describe
  whole runs by these notions;
* `GovernanceStore.ContinuesFrom` says what is settled of a run that gets past a stage, and
  `GovernanceStore.Passes.continuesFrom` that this is so;
* `execute_of_records_eq` compares the runs under two governances that are the same up to a stage.
-/

namespace GovernedExpr

/-- Nothing is known yet of what a run comes to. -/
def RunOutput.blank : RunOutput := ⟨.empty, none, 0, ⟨0, 0, 0, []⟩, "", ""⟩

/-- Two outputs say the same of what a stage comes to. -/
def RunOutput.AgreesAt (out done : RunOutput) : Stage → Prop
  | .tokenizer => done.tokens = out.tokens
  | .parser => done.tree = out.tree ∧ done.consumed = out.consumed
  | .coordinator => done.report = out.report
  | .output => done.format = out.format ∧ done.rendered = out.rendered

namespace GovernanceStore

/-! ### The stages of a run -/

/-- What the output says of a stage is what the stage comes to, on what the output says of the
stages before it. -/
def Succeeds (s : GovernanceStore) (options : RunOptions) (source : String) (out : RunOutput) :
    Stage → Prop
  | .tokenizer => s.tokenize source = .ok out.tokens
  | .parser => s.parse options out.tokens = .ok (out.tree, out.consumed)
  | .coordinator => s.measure out.tree = .ok out.report
  | .output => s.write options out.tree = .ok (out.format, out.rendered)

/-- A stage fails with an error, on what the output says of the stages before it. -/
def Breaks (s : GovernanceStore) (options : RunOptions) (source : String) (out : RunOutput)
    (e : ExecutionError) : Stage → Prop
  | .tokenizer => s.tokenize source = .error e
  | .parser => s.parse options out.tokens = .error e
  | .coordinator => s.measure out.tree = .error e
  | .output => s.write options out.tree = .error e

/-- The run gets past a stage, and up to there it comes to what the output says. -/
def Passes (s : GovernanceStore) (options : RunOptions) (source : String) (last : Stage)
    (out : RunOutput) : Prop :=
  ∀ stage : Stage, stage.id ≤ last.id → s.Succeeds options source out stage

/-- The run gets to a stage, and there it fails with an error. -/
def Fails (s : GovernanceStore) (options : RunOptions) (source : String) (stage : Stage)
    (e : ExecutionError) : Prop :=
  ∃ out, (∀ earlier : Stage, earlier.id < stage.id → s.Succeeds options source out earlier) ∧
    s.Breaks options source out e stage

/-- What is settled of a run once it got past a stage. -/
structure ContinuesFrom (s : GovernanceStore) (options : RunOptions) (source : String)
    (last : Stage) (out : RunOutput) : Prop where
  /-- If it succeeds, its output says of the stages up to there what is said here. -/
  agreesAt : ∀ done, s.execute options source = .ok done →
    ∀ stage : Stage, stage.id ≤ last.id → out.AgreesAt done stage
  /-- If it fails, it does so in a later stage, -/
  fails_later : ∀ e, s.execute options source = .error e →
    ∃ stage, last.id < stage.id ∧ s.Fails options source stage e
  /-- and in later stages only. -/
  lt_of_fails : ∀ stage e, s.Fails options source stage e → last.id < stage.id

variable {s t : GovernanceStore} {options : RunOptions} {source : String} {stage last : Stage}
  {out done : RunOutput} {e : ExecutionError}

/-- A run succeeds when all of its stages do. -/
theorem execute_eq_ok_iff_forall :
    s.execute options source = .ok out ↔ ∀ stage, s.Succeeds options source out stage := by
  rw [execute_eq_ok_iff]
  constructor
  · rintro ⟨tokenized, parsed, measured, written⟩ stage
    cases stage with
    | tokenizer => exact tokenized
    | parser => exact parsed
    | coordinator => exact measured
    | output => exact written
  · intro h
    exact ⟨h .tokenizer, h .parser, h .coordinator, h .output⟩

/-- A run fails when a stage does that it gets to. -/
theorem execute_eq_error_iff_or :
    s.execute options source = .error e ↔
      s.tokenize source = .error e ∨ ∃ tokens, s.tokenize source = .ok tokens ∧
        (s.parse options tokens = .error e ∨ ∃ tree consumed,
          s.parse options tokens = .ok (tree, consumed) ∧
          (s.measure tree = .error e ∨ ∃ report, s.measure tree = .ok report ∧
            s.write options tree = .error e)) := by
  simp only [execute, bind_eq_error_iff, Prod.exists, pure, Except.pure, reduceCtorEq, and_false,
    exists_false, or_false]

/-- **A run fails in the first stage that fails**, and with its error. -/
theorem execute_eq_error_iff :
    s.execute options source = .error e ↔ ∃ stage, s.Fails options source stage e := by
  rw [execute_eq_error_iff_or]
  constructor
  · rintro (fails | ⟨tokens, tokenized, fails | ⟨tree, consumed, parsed, fails | ⟨report, measured,
      fails⟩⟩⟩)
    · exact ⟨.tokenizer, .blank, nofun, fails⟩
    · refine ⟨.parser, { RunOutput.blank with tokens }, fun earlier hlt => ?_, fails⟩
      cases earlier with
      | tokenizer => exact tokenized
      | parser | coordinator | output => exact absurd hlt (by decide)
    · refine ⟨.coordinator, { RunOutput.blank with tokens, tree, consumed }, fun earlier hlt => ?_,
        fails⟩
      cases earlier with
      | tokenizer => exact tokenized
      | parser => exact parsed
      | coordinator | output => exact absurd hlt (by decide)
    · refine ⟨.output, { RunOutput.blank with tokens, tree, consumed, report },
        fun earlier hlt => ?_, fails⟩
      cases earlier with
      | tokenizer => exact tokenized
      | parser => exact parsed
      | coordinator => exact measured
      | output => exact absurd hlt (by decide)
  · rintro ⟨stage, out, before, breaks⟩
    cases stage with
    | tokenizer => exact .inl breaks
    | parser => exact .inr ⟨_, before .tokenizer (by decide), .inl breaks⟩
    | coordinator =>
      exact .inr ⟨_, before .tokenizer (by decide),
        .inr ⟨_, _, before .parser (by decide), .inl breaks⟩⟩
    | output =>
      exact .inr ⟨_, before .tokenizer (by decide), .inr ⟨_, _, before .parser (by decide),
        .inr ⟨_, before .coordinator (by decide), breaks⟩⟩⟩

/-- A run fails in one of the first stages, or it gets past them. -/
theorem fails_or_passes (s : GovernanceStore) (options : RunOptions) (source : String)
    (last : Stage) : (∃ stage e, stage.id ≤ last.id ∧ s.Fails options source stage e) ∨
      ∃ out, s.Passes options source last out := by
  cases run : s.execute options source with
  | ok out => exact .inr ⟨out, fun stage _ => execute_eq_ok_iff_forall.1 run stage⟩
  | error e =>
    obtain ⟨stage, out, before, breaks⟩ := execute_eq_error_iff.1 run
    by_cases hid : stage.id ≤ last.id
    · exact .inl ⟨stage, e, hid, out, before, breaks⟩
    · exact .inr ⟨out, fun earlier hle => before earlier (Nat.lt_of_le_of_lt hle (by omega))⟩

/-! ### What is settled -/

/-- A stage comes to one thing, given what those before it came to. -/
theorem Succeeds.agreesAt (h : s.Succeeds options source out stage)
    (h' : s.Succeeds options source done stage)
    (before : ∀ earlier : Stage, earlier.id < stage.id → out.AgreesAt done earlier) :
    out.AgreesAt done stage := by
  cases stage with
  | tokenizer => exact Except.ok.inj (h'.symm.trans h)
  | parser =>
    have tokens : done.tokens = out.tokens := before .tokenizer (by decide)
    rw [Succeeds, tokens] at h'
    exact Prod.mk.inj (Except.ok.inj (h'.symm.trans h))
  | coordinator =>
    have tree : done.tree = out.tree := (before .parser (by decide)).1
    rw [Succeeds, tree] at h'
    exact Except.ok.inj (h'.symm.trans h)
  | output =>
    have tree : done.tree = out.tree := (before .parser (by decide)).1
    rw [Succeeds, tree] at h'
    exact Prod.mk.inj (Except.ok.inj (h'.symm.trans h))

/-- A stage that succeeds does not fail, given what those before it came to. -/
theorem Succeeds.not_breaks (h : s.Succeeds options source out stage)
    (before : ∀ earlier : Stage, earlier.id < stage.id → out.AgreesAt done earlier) :
    ¬ s.Breaks options source done e stage := by
  intro breaks
  cases stage with
  | tokenizer => exact nomatch h.symm.trans breaks
  | parser =>
    have tokens : done.tokens = out.tokens := before .tokenizer (by decide)
    rw [Breaks, tokens] at breaks
    exact nomatch h.symm.trans breaks
  | coordinator =>
    have tree : done.tree = out.tree := (before .parser (by decide)).1
    rw [Breaks, tree] at breaks
    exact nomatch h.symm.trans breaks
  | output =>
    have tree : done.tree = out.tree := (before .parser (by decide)).1
    rw [Breaks, tree] at breaks
    exact nomatch h.symm.trans breaks

theorem Passes.mono (h : s.Passes options source last out) (hle : stage.id ≤ last.id) :
    s.Passes options source stage out :=
  fun earlier hearlier => h earlier (Nat.le_trans hearlier hle)

/-- A run gets past a stage with one output. -/
theorem Passes.agreesAt (h : s.Passes options source stage out)
    (h' : s.Passes options source stage done) : out.AgreesAt done stage := by
  -- by induction along the stages, as each is given what those before it came to
  induction hid : stage.id using Nat.strongRecOn generalizing stage with
  | _ n ih =>
    subst hid
    refine (h stage (Nat.le_refl _)).agreesAt (h' stage (Nat.le_refl _)) fun earlier hlt => ?_
    exact ih _ hlt (h.mono (Nat.le_of_lt hlt)) (h'.mono (Nat.le_of_lt hlt)) rfl

theorem Passes.lt_of_fails (h : s.Passes options source last out)
    (fails : s.Fails options source stage e) : last.id < stage.id := by
  obtain ⟨done, before, breaks⟩ := fails
  refine Nat.lt_of_not_le fun hle => ?_
  refine (h stage hle).not_breaks (fun earlier hlt => ?_) breaks
  exact (h.mono (Nat.le_trans (Nat.le_of_lt hlt) hle)).agreesAt fun first hfirst =>
    before first (Nat.lt_of_le_of_lt hfirst hlt)

theorem Passes.continuesFrom (h : s.Passes options source last out) :
    s.ContinuesFrom options source last out where
  agreesAt done run stage hle := (h.mono hle).agreesAt fun earlier _ =>
    execute_eq_ok_iff_forall.1 run earlier
  fails_later e run := by
    obtain ⟨stage, fails⟩ := execute_eq_error_iff.1 run
    exact ⟨stage, h.lt_of_fails fails, fails⟩
  lt_of_fails _ _ := h.lt_of_fails

/-! ### A stage looks at its own record -/

theorem settings_eq_of_record?_eq {α : Type} (h : s.record? stage = t.record? stage)
    (derive : StageRecord → Except GovernanceError α) :
    s.settings stage derive = t.settings stage derive := by
  rw [settings, settings, record, record, h]

theorem succeeds_iff_of_record?_eq (h : s.record? stage = t.record? stage) :
    s.Succeeds options source out stage ↔ t.Succeeds options source out stage := by
  cases stage <;>
    simp only [Succeeds, tokenize, parse, measure, write, settings_eq_of_record?_eq h]

theorem breaks_iff_of_record?_eq (h : s.record? stage = t.record? stage) :
    s.Breaks options source out e stage ↔ t.Breaks options source out e stage := by
  cases stage <;>
    simp only [Breaks, tokenize, parse, measure, write, settings_eq_of_record?_eq h]

theorem Passes.of_records_eq (h : ∀ stage : Stage, stage.id ≤ last.id →
    s.record? stage = t.record? stage) (passes : s.Passes options source last out) :
    t.Passes options source last out :=
  fun stage hle => (succeeds_iff_of_record?_eq (h stage hle)).1 (passes stage hle)

theorem Fails.of_records_eq (h : ∀ stage : Stage, stage.id ≤ last.id →
    s.record? stage = t.record? stage) (hle : stage.id ≤ last.id)
    (fails : s.Fails options source stage e) : t.Fails options source stage e := by
  obtain ⟨out, before, breaks⟩ := fails
  refine ⟨out, fun earlier hlt => ?_, (breaks_iff_of_record?_eq (h stage hle)).1 breaks⟩
  exact (succeeds_iff_of_record?_eq (h earlier (by omega))).1 (before earlier hlt)

/-- The store with the records of the stages up to one, and no others. -/
def upTo (s : GovernanceStore) (last : Stage) : GovernanceStore where
  record? stage := if stage.id ≤ last.id then s.record? stage else none
  filed stage r h := by
    split at h
    · exact s.filed stage r h
    · cases h

end GovernanceStore

/-- **The first stage that fails decides, and no stage looks at the governance of later ones.**  Under
two governances with the same records up to a stage, and any records or none behind it, the runs
both fail in one and the same of these stages, with the same error, or they both get past it and up
to there come to the same: if a run succeeds, its output says so, and if it fails, it does so in a
later stage.  In particular a run fails as its first stage does. -/
theorem execute_of_records_eq {s t : GovernanceStore} {last : Stage}
    (h : ∀ stage : Stage, stage.id ≤ last.id → s.record? stage = t.record? stage)
    (options : RunOptions) (source : String) :
    ((∃ stage e, stage.id ≤ last.id ∧
        s.Fails options source stage e ∧ s.execute options source = .error e ∧
        t.Fails options source stage e ∧ t.execute options source = .error e) ∨
      ∃ out, s.Passes options source last out ∧ t.Passes options source last out ∧
        s.ContinuesFrom options source last out ∧ t.ContinuesFrom options source last out) ∧
    ∀ e, s.tokenize source = .error e → s.execute options source = .error e := by
  constructor
  · obtain ⟨stage, e, hle, fails⟩ | ⟨out, passes⟩ := s.fails_or_passes options source last
    · have fails' := fails.of_records_eq h hle
      exact .inl ⟨stage, e, hle, fails, GovernanceStore.execute_eq_error_iff.2 ⟨stage, fails⟩,
        fails', GovernanceStore.execute_eq_error_iff.2 ⟨stage, fails'⟩⟩
    · have passes' := passes.of_records_eq h
      exact .inr ⟨out, passes, passes', passes.continuesFrom, passes'.continuesFrom⟩
  · intro e tokenize
    exact GovernanceStore.execute_eq_error_iff.2 ⟨.tokenizer, .blank, nofun, tokenize⟩

/-- Without records of the last two stages, a run gets past the first two all the same. -/
theorem execute_of_records_eq_sumsFirst :
    let s := GovernanceStore.sumsFirst
    let t := s.upTo .parser
    (∀ stage : Stage, stage.id ≤ Stage.parser.id → s.record? stage = t.record? stage) ∧
      (∃ out, s.Passes ⟨none, false⟩ "a * b + 2 - @ c" .parser out ∧
        t.Passes ⟨none, false⟩ "a * b + 2 - @ c" .parser out ∧
        s.ContinuesFrom ⟨none, false⟩ "a * b + 2 - @ c" .parser out ∧
        t.ContinuesFrom ⟨none, false⟩ "a * b + 2 - @ c" .parser out) ∧
      t.execute ⟨none, false⟩ "a * b + 2 - @ c" =
        .error (.governance (.stageNotLoaded .coordinator)) := by
  intro s t
  have same : ∀ stage : Stage, stage.id ≤ Stage.parser.id → s.record? stage = t.record? stage :=
    fun stage hle => (if_pos hle).symm
  obtain ⟨stage, e, -, -, failed, -⟩ | passes :=
    (execute_of_records_eq same ⟨none, false⟩ "a * b + 2 - @ c").1
  · exact nomatch failed.symm.trans GovernanceStore.execute_sumsFirst
  · refine ⟨same, passes, ?_⟩
    obtain ⟨out, -, passed, -⟩ := passes
    refine GovernanceStore.execute_eq_error_iff.2 ⟨.coordinator, out, fun earlier hlt => ?_, ?_⟩
    · exact passed earlier (Nat.le_of_lt_succ hlt)
    · rfl

end GovernedExpr
