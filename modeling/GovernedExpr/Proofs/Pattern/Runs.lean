import Mathlib.Logic.Relation
import GovernedExpr.Proofs.Pattern.Anchoring
import GovernedExpr.Proofs.Pattern.Steps

/-!
# Reading a pattern inside of another

A pattern in a group is read like a pattern on its own, up to the closing parenthesis of the group.
So a text between `^(?:` and `)$` is read as a pattern of its own, unless a part of the text closes the
group earlier or a comment at its end hides the closing parenthesis.

* `State.Leads` says that one state leads to another, `State.last?` finds the state at the end of the
  text;
* `State.Leads.within` puts a run inside of a group, `State.Leads.exists_exit` finds it there;
* `written?` reads a pattern that may nest as deep as it wants;
* `written?_anchored` and `exists_of_written?_anchored` say what the text between the anchors is read
  as.
-/

namespace GovernedExpr.Reading

open Text

namespace State

variable {s s' e S E : State} {c : Char} {t t' w m cs : List Char}

/-- Pass over what is ignored and read one part. -/
def next? (s : State) : Option State :=
  s.step? (skipIgnored s.extended s.rest)

/-- Whether nothing is left to read. -/
def AtEnd (s : State) : Prop :=
  skipIgnored s.extended s.rest = []

/-- Reading some parts, one after the other, leads from a state to another. -/
def Leads : State → State → Prop :=
  Relation.ReflTransGen fun s s' => s.next? = some s'

theorem next?_eq_some_iff :
    s.next? = some s' ↔ ∃ c m, skipIgnored s.extended s.rest = c :: m ∧ s.step? (c :: m) = some s' := by
  unfold next?
  constructor
  · intro h
    cases hs : skipIgnored s.extended s.rest with
    | nil => rw [hs] at h; cases h
    | cons c m => exact ⟨c, m, rfl, hs ▸ h⟩
  · rintro ⟨c, m, hs, h⟩
    rw [hs, h]

theorem AtEnd.next?_eq (h : s.AtEnd) : s.next? = none := by
  rw [next?, h]
  rfl

theorem AtEnd.eq_of_leads (h : s.AtEnd) (hl : Leads s e) : s = e := by
  cases hl using Relation.ReflTransGen.head_induction_on with
  | refl => rfl
  | head step _ _ => rw [h.next?_eq] at step; cases step

theorem next?_suffix (h : s.next? = some s') : s'.rest <:+ s.rest ∧ s'.rest.length < s.rest.length := by
  obtain ⟨c, m, hs, h⟩ := next?_eq_some_iff.1 h
  have skip := skipIgnored_suffix s.extended s.rest
  rw [hs] at skip
  obtain ⟨suffix, -⟩ := step?_cases h
  have := suffix.length_le
  have := skip.length_le
  rw [List.length_cons] at this
  exact ⟨(suffix.trans (List.suffix_cons c m)).trans skip, by omega⟩

theorem Leads.suffix (h : Leads s e) : e.rest <:+ s.rest := by
  induction h using Relation.ReflTransGen.head_induction_on with
  | refl => exact List.suffix_refl _
  | head step _ ih => exact ih.trans (next?_suffix step).1

/-- What leads to the end of the text passes through every state to which it leads. -/
theorem Leads.of_leads (h : Leads s s') (atEnd : e.AtEnd) (hl : Leads s e) : Leads s' e := by
  induction h using Relation.ReflTransGen.head_induction_on with
  | refl => exact hl
  | head step _ ih =>
    cases hl using Relation.ReflTransGen.head_induction_on with
    | refl => rw [atEnd.next?_eq] at step; cases step
    | head step' leads _ =>
      obtain rfl := Option.some.inj (step.symm.trans step')
      exact ih leads

/-! ### The end of a run -/

/-- The state in which reading arrives at the end of the text. -/
def last? : (steps : Nat) → State → Option State
  | 0, _ => none
  | steps + 1, s =>
    match skipIgnored s.extended s.rest with
    | [] => some s
    | cs => (s.step? cs).bind (last? steps)

/-- What has been read, if nothing waits for more. -/
def body? (s : State) : Option Written :=
  match s.complete with
  | (body, []) => some body
  | _ => none

theorem body?_eq_some_iff {p : Written} : s.body? = some p ↔ s.complete = (p, []) := by
  unfold body?
  generalize s.complete = q
  obtain ⟨body, frames⟩ := q
  cases frames <;> simp

theorem run?_eq (steps : Nat) (s : State) : run? steps s = (last? steps s).bind body? := by
  induction steps generalizing s with
  | zero => rfl
  | succ steps ih =>
    rw [run?, last?]
    cases skipIgnored s.extended s.rest with
    | nil => rfl
    | cons c m =>
      dsimp only
      cases s.step? (c :: m) with
      | none => rfl
      | some s' => exact ih s'

theorem last?_eq_some_iff {steps : Nat} (h : s.rest.length < steps) :
    last? steps s = some e ↔ Leads s e ∧ e.AtEnd := by
  induction steps generalizing s with
  | zero => omega
  | succ steps ih =>
    rw [last?]
    cases hs : skipIgnored s.extended s.rest with
    | nil =>
      constructor
      · intro h
        obtain rfl := Option.some.inj h
        exact ⟨.refl, hs⟩
      · rintro ⟨leads, -⟩
        exact congrArg some (AtEnd.eq_of_leads hs leads)
    | cons c m =>
      have next : s.next? = s.step? (c :: m) := by rw [next?, hs]
      dsimp only
      rw [← next, Option.bind_eq_some_iff]
      constructor
      · rintro ⟨s', step, last⟩
        have := (next?_suffix step).2
        obtain ⟨leads, atEnd⟩ := (ih (by omega)).1 last
        exact ⟨.head step leads, atEnd⟩
      · rintro ⟨leads, atEnd⟩
        cases leads using Relation.ReflTransGen.head_induction_on with
        | refl =>
          rw [AtEnd, hs] at atEnd
          cases atEnd
        | head step leads _ =>
          have := (next?_suffix step).2
          exact ⟨_, step, (ih (by omega)).2 ⟨leads, atEnd⟩⟩

/-! ### Runs inside of a group -/

theorem complete_ne_nil_of_closeGroup? (h : s.closeGroup? cs = some s') : s.complete.2 ≠ [] := by
  intro hnil
  unfold closeGroup? at h
  split at h
  · rename_i complete
    rw [complete] at hnil
    cases hnil
  · cases h

/-- A step of a pattern on its own is a step inside of another pattern, unless it arrives at the end of
the text in a comment. -/
theorem next?_within {below : List Frame} (hb : IsBase below) (ht : IsTail t) (h : s.next? = some s')
    (mayEnd : s'.rest = [] → MayEnd (some (s.extended && s'.extended)) [] s.rest) :
    (s.within below t).next? = some (s'.within below t) := by
  obtain ⟨c, m, hs, step⟩ := next?_eq_some_iff.1 h
  have skipped : skipIgnored s.extended (s.rest ++ []) = (c :: m) ++ [] := by simpa using hs
  have left : skipIgnored s.extended (s.rest ++ t) = c :: m ++ t :=
    skipIgnored_swap isTail_nil ht skipped (by simp)
  have suffix : c :: m <:+ s.rest := hs ▸ skipIgnored_suffix s.extended s.rest
  have alone : (s.within [] []).step? (c :: (m ++ [])) = some s' := by simpa using step
  have inside : c = ')' → s.complete.2 ≠ [] := by
    rintro rfl
    exact complete_ne_nil_of_closeGroup? step
  obtain ⟨s'', hs', step'⟩ := step?_swap isBase_nil hb isTail_nil ht alone
    List.nil_suffix inside (fun hr => (mayEnd hr).of_suffix suffix) (by simp)
  rw [within_nil] at hs'
  subst hs'
  exact next?_eq_some_iff.2 ⟨c, m ++ t, left, step'⟩

/-- **A pattern that is read on its own is read inside of another pattern**, unless a comment is open
where it ends. -/
theorem Leads.within {below : List Frame} (hb : IsBase below) (ht : IsTail t) (h : Leads s e)
    (closed : e.extended = false ∨ hasOpenComment s.rest = false) :
    Leads (s.within below t) (e.within below t) := by
  -- a text that cannot end in a comment has no rest that could, and the last step is the only one
  -- that arrives at the end of the text
  induction h using Relation.ReflTransGen.head_induction_on with
  | refl => exact .refl
  | @head s s' step leads ih =>
    have suffix := (next?_suffix step).1
    refine .head (next?_within hb ht step fun hnil => ?_)
      (ih (closed.imp_right (hasOpenComment_of_suffix suffix)))
    rcases closed with closed | closed
    · have last : s'.AtEnd := by
        rw [AtEnd, hnil]
        cases s'.extended <;> rfl
      obtain rfl := AtEnd.eq_of_leads last leads
      exact .inl (by rw [closed, Bool.and_false])
    · exact .inr (.inr closed)

/-- Where a brace is next, something that counts is read after it. -/
theorem exists_skipIgnored_of_brace {b : List Char} (hs : s.rest = '\x7b' :: b) (h : Leads s e)
    (atEnd : e.AtEnd) : ∃ c m, skipIgnored s.extended b = c :: m := by
  have visible : skipIgnored s.extended s.rest = '\x7b' :: b := by
    rw [hs]
    cases s.extended <;> rfl
  cases h using Relation.ReflTransGen.head_induction_on with
  | refl =>
    rw [AtEnd, visible] at atEnd
    cases atEnd
  | head step _ _ =>
    rw [next?, visible, step?_brace] at step
    obtain ⟨p, bounds, -⟩ := Option.bind_eq_some_iff.1 step
    cases hb : skipIgnored s.extended b with
    | cons c m => exact ⟨c, m, rfl⟩
    | nil =>
      -- a count has digits
      have count : count? s.extended [] = none := by simp [count?, runOf, natural?]
      rw [bounded?, hb, count] at bounds
      cases bounds

theorem within_inj {below : List Frame} (h : s.within below t = s'.within below t) : s = s' := by
  obtain ⟨rest, extended, names, frames, parts⟩ := s
  obtain ⟨rest', extended', names', frames', parts'⟩ := s'
  simpa [within] using h

theorem eq_within {frames below : List Frame} (hr : S.rest = w ++ t)
    (hf : S.frames = frames ++ below) :
    S = ({ S with rest := w, frames := frames } : State).within below t := by
  simp [within, ← hr, ← hf]

/-- A step that does not end the group around a pattern leaves the group open. -/
theorem frames_of_step? {below : List Frame} (hb : IsBase below)
    (h : (s.within below []).step? (c :: m) = some S) (inside : c = ')' → s.complete.2 ≠ []) :
    ∃ frames, S.frames = frames ++ below := by
  obtain ⟨-, ⟨rfl, close⟩ | ⟨-, same | ⟨frame, more⟩ | rfl⟩⟩ := step?_cases h
  · have within := closeGroup?_within (m := m) (t := []) hb (inside rfl)
    rw [List.append_nil, close] at within
    obtain ⟨s', -, rfl⟩ := Option.map_eq_some_iff.1 within.symm
    exact ⟨s'.frames, rfl⟩
  · exact ⟨s.frames, same⟩
  · exact ⟨frame :: s.frames, more⟩
  · have within := nextBranch_within (s := s) (m := m) (t := []) hb
    rw [List.append_nil] at within
    exact ⟨(s.nextBranch m).frames, congrArg State.frames within⟩

/-- A step inside of another pattern is a step of the pattern on its own, if it does not end the group
around the pattern and the rest of the pattern can be read. -/
theorem next?_of_within {below : List Frame} (hb : IsBase below) (ht : IsTail t) (tail : t ≠ [])
    (hs : skipIgnored s.extended (s.rest ++ t) = c :: m ++ t)
    (step : (s.within below t).step? (c :: (m ++ t)) = some (s'.within below t))
    (inside : c = ')' → s.complete.2 ≠ []) (h : Leads s' e) (atEnd : e.AtEnd) :
    s.next? = some s' := by
  have left : skipIgnored s.extended s.rest = c :: m := by
    simpa using skipIgnored_swap ht isTail_nil hs (by simp)
  have follows (b : List Char) (hb : (s'.within below t).rest = '\x7b' :: b ++ t) :
      ∃ c m, skipIgnored s'.extended (b ++ t) = c :: m ++ t := by
    obtain ⟨d, u, hd⟩ := exists_skipIgnored_of_brace (List.append_cancel_right hb) h atEnd
    have alone : skipIgnored s'.extended (b ++ []) = (d :: u) ++ [] := by simpa using hd
    exact ⟨d, u, skipIgnored_swap isTail_nil ht alone (by simp)⟩
  obtain ⟨s'', hs'', step'⟩ := step?_swap hb isBase_nil ht isTail_nil step (List.suffix_append _ _)
    inside (fun _ => .inr (.inl tail)) fun _ => follows
  obtain rfl := within_inj hs''
  exact next?_eq_some_iff.2 ⟨c, m, left, by simpa using step'⟩

/-- **A pattern in a group is read on its own up to where the group is closed.**  A run that starts inside
of a group and ends outside of it closes the group somewhere, and up to there it is a run of the text in
front of the closing parenthesis. -/
theorem Leads.exists_exit {outer : Frame} (hb : IsBase [outer]) (h : Leads S E)
    (outside : E.complete.2 = []) {frames : List Frame} (hframes : S.frames = frames ++ [outer]) :
    ∃ (s e : State) (rest : List Char) (X : State), S = s.within [outer] (')' :: rest) ∧
      Leads s e ∧ e.AtEnd ∧ e.complete.2 = [] ∧
      (e.within [outer] (')' :: rest)).closeGroup? rest = some X ∧ Leads X E := by
  induction h using Relation.ReflTransGen.head_induction_on generalizing frames with
  | refl =>
    rw [eq_within (List.append_nil E.rest).symm hframes, complete_within hb] at outside
    simp at outside
  | @head S S₁ step leads ih =>
    obtain ⟨c, m, hs, step⟩ := next?_eq_some_iff.1 step
    have suffix : c :: m <:+ S.rest := hs ▸ skipIgnored_suffix S.extended S.rest
    by_cases exit : c = ')' ∧ ({ S with frames := frames } : State).complete.2 = []
    · -- the group is closed here
      obtain ⟨rfl, outermost⟩ := exit
      obtain ⟨w, hw⟩ := suffix
      have inner := eq_within hw.symm hframes
      have skipped : skipIgnored S.extended (w ++ ')' :: m) = [] ++ ')' :: m := by rw [hw, hs]; rfl
      have skipped' : skipIgnored S.extended (w ++ []) = [] ++ [] :=
        skipIgnored_swap (isTail_cons m) isTail_nil skipped fun _ => .inr (.inl (by simp))
      refine ⟨{ S with rest := w, frames := frames }, _, m, S₁, inner, .refl, ?_, outermost, ?_, leads⟩
      · simpa [AtEnd] using skipped'
      · rw [← inner]
        exact step
    · have inside : c = ')' → ({ S with frames := frames } : State).complete.2 ≠ [] :=
        fun hc hnil => exit ⟨hc, hnil⟩
      have whole := eq_within (List.append_nil S.rest).symm hframes
      obtain ⟨frames₁, hframes₁⟩ := frames_of_step? hb (whole ▸ step) inside
      obtain ⟨s₁, e, rest, X, rfl, leads₁, atEnd, outermost, close, after⟩ := ih hframes₁
      -- the step reads a part of the text in front of the closing parenthesis
      obtain ⟨v, rfl⟩ : ')' :: rest <:+ m := (List.suffix_append _ _).trans (step?_cases step).1
      obtain ⟨w, hw⟩ := (List.suffix_append (c :: v) (')' :: rest)).trans suffix
      have inner := eq_within hw.symm hframes
      have skipped : skipIgnored S.extended (w ++ ')' :: rest) = (c :: v) ++ ')' :: rest := by
        rw [hw, hs]; rfl
      have first : State.next? { S with rest := w, frames := frames } = some s₁ :=
        next?_of_within hb (isTail_cons rest) (by simp) skipped (inner ▸ step) inside leads₁ atEnd
      exact ⟨_, e, rest, X, inner, .head first leads₁, atEnd, outermost, close, after⟩

end State

/-! ### Whole patterns -/

/-- The state at the start of a text. -/
def start (text : List Char) : State := ⟨text, false, [], [], []⟩

/-- The state in which reading a text arrives at its end. -/
def ending? (text : List Char) : Option State :=
  State.last? (text.length + 1) (start text)

/-- Read a pattern, however deep it nests. -/
def written? (text : List Char) : Option Written :=
  (ending? text).bind State.body?

theorem ofText?_eq (text : List Char) :
    Written.ofText? text = (written? text).filter fun w => w.depth ≤ greatestDepth := by
  have read : State.run? (text.length + 1) (start text) = written? text := State.run?_eq _ _
  rw [start] at read
  rw [Written.ofText?, read]
  cases written? text with
  | none => rfl
  | some p => by_cases h : p.depth ≤ greatestDepth <;> simp [Option.filter, h]

theorem ending?_eq_some_iff {text : List Char} {e : State} :
    ending? text = some e ↔ State.Leads (start text) e ∧ e.AtEnd :=
  State.last?_eq_some_iff (Nat.lt_succ_self _)

theorem written?_eq_some_iff {text : List Char} {p : Written} :
    written? text = some p ↔
      ∃ e, State.Leads (start text) e ∧ e.AtEnd ∧ e.complete = (p, []) := by
  simp only [written?, Option.bind_eq_some_iff, ending?_eq_some_iff, State.body?_eq_some_iff,
    and_assoc]

/-- A text between anchors, in a group of its own. -/
def anchored (text : List Char) : List Char :=
  '^' :: '(' :: '?' :: ':' :: (text ++ [')', '$'])

/-- The group between the anchors. -/
def anchoredGroup : Frame := .group [.assertion .lineStart] false .none false

theorem leads_anchored (text : List Char) :
    State.Leads (start (anchored text)) ((start text).within [anchoredGroup] [')', '$']) := by
  have first : (start (anchored text)).next? =
      some ⟨'(' :: '?' :: ':' :: (text ++ [')', '$']), false, [], [], [.assertion .lineStart]⟩ := rfl
  exact .head first (.head rfl .refl)

/-- Where the group is closed, only the second anchor is left. -/
theorem closeGroup?_anchoredGroup {e : State} {p : Written} (h : e.complete = (p, []))
    (t rest : List Char) :
    (e.within [anchoredGroup] t).closeGroup? rest =
      some ⟨rest, false, e.names, [], [.group false .none p, .assertion .lineStart]⟩ := by
  rw [State.closeGroup?, State.complete_within (by simp [State.IsBase, anchoredGroup]), h]
  rfl

theorem leads_anchor (names : List (List Char)) (p : Written) :
    ∃ e, State.Leads ⟨['$'], false, names, [], [.group false .none p, .assertion .lineStart]⟩ e ∧
      e.AtEnd ∧ e.complete = (p.anchored, []) :=
  ⟨_, .head rfl .refl, rfl, rfl⟩

/-- **A pattern between anchors is read as the anchored pattern**, if no comment is open where it
ends. -/
theorem written?_anchored {text : List Char} {p : Written} (h : written? text = some p)
    (closed : ∀ e ∈ ending? text, e.extended = false ∨ hasOpenComment text = false) :
    written? (anchored text) = some p.anchored := by
  obtain ⟨e, leads, atEnd, complete⟩ := written?_eq_some_iff.1 h
  replace closed := closed e (ending?_eq_some_iff.2 ⟨leads, atEnd⟩)
  have base : State.IsBase [anchoredGroup] := by simp [State.IsBase, anchoredGroup]
  have tail := isTail_cons ['$']
  have inner := leads.within base tail closed
  have skipped : skipIgnored e.extended (e.rest ++ []) = [] ++ [] := by
    simpa [State.AtEnd] using atEnd
  have left : skipIgnored e.extended (e.rest ++ [')', '$']) = [] ++ [')', '$'] :=
    skipIgnored_swap isTail_nil tail skipped fun _ =>
      closed.imp_right fun h => .inr (hasOpenComment_of_suffix leads.suffix h)
  have close : (e.within [anchoredGroup] [')', '$']).next? =
      some ⟨['$'], false, e.names, [], [.group false .none p, .assertion .lineStart]⟩ :=
    State.next?_eq_some_iff.2 ⟨_, _, left, closeGroup?_anchoredGroup complete _ _⟩
  obtain ⟨last, leads', atEnd', complete'⟩ := leads_anchor e.names p
  exact written?_eq_some_iff.2
    ⟨last, ((leads_anchored text).trans inner).trans (.head close leads'), atEnd', complete'⟩

/-- **A text between anchors that is read as a pattern is a pattern itself**, or a part of it that a
closing parenthesis follows is one. -/
theorem exists_of_written?_anchored {text : List Char} {q : Written}
    (h : written? (anchored text) = some q) :
    (∃ p, written? text = some p ∧ q = p.anchored) ∨
      ∃ before after, text = before ++ ')' :: after ∧ (written? before).isSome := by
  obtain ⟨last, leads, atEnd, complete⟩ := written?_eq_some_iff.1 h
  have base : State.IsBase [anchoredGroup] := by simp [State.IsBase, anchoredGroup]
  have inner := (leads_anchored text).of_leads atEnd leads
  obtain ⟨s, e, rest, X, hs, leads', atEnd', outermost, close, after⟩ :=
    inner.exists_exit base (by rw [complete]) (List.nil_append _).symm
  obtain ⟨before, extended, names, frames, parts⟩ := s
  simp only [State.within, start, State.mk.injEq, List.nil_append, List.self_eq_append_left] at hs
  obtain ⟨cut, rfl, rfl, rfl, rfl⟩ := hs
  have read : written? before = some e.complete.1 :=
    written?_eq_some_iff.2 ⟨e, leads', atEnd', by rw [← outermost]⟩
  have place : (before = text ∧ rest = ['$']) ∨ ∃ after, text = before ++ ')' :: after := by
    obtain ⟨more, rfl, hmore⟩ | ⟨more, rfl, hmore⟩ := List.append_eq_append_iff.1 cut
    · rcases more with _ | ⟨c, _ | ⟨d, more⟩⟩
      · exact .inl ⟨List.append_nil text, by simpa using hmore.symm⟩
      · simp at hmore
      · simp at hmore
    · cases more with
      | nil => exact .inl ⟨(List.append_nil before).symm, by simpa using hmore⟩
      | cons c after =>
        obtain rfl := (List.cons.inj hmore).1
        exact .inr ⟨after, rfl⟩
  obtain ⟨rfl, rfl⟩ | ⟨after, rfl⟩ := place
  · rw [closeGroup?_anchoredGroup (by rw [← outermost])] at close
    obtain rfl := Option.some.inj close
    obtain ⟨last', leads'', atEnd'', complete'⟩ := leads_anchor e.names e.complete.1
    obtain rfl := State.AtEnd.eq_of_leads atEnd'' (leads''.of_leads atEnd after)
    exact .inl ⟨_, read, (Prod.mk.inj (complete.symm.trans complete')).1⟩
  · exact .inr ⟨before, after, rfl, by rw [read]; rfl⟩

end GovernedExpr.Reading
