import GovernedExpr.Pattern.Reader
import GovernedExpr.Proofs.Pattern.LocalClass

/-!
# Steps of reading inside of another pattern

A pattern that stands inside of another is read like a pattern on its own: the steps are the same,
with the rest of the outer pattern behind what is left to read and the outer frames below the inner
ones.

* `State.within` puts a state inside of another pattern;
* `State.complete_within` and the lemmas after it say that the parts of a step do not depend on what
  is around;
* `State.step?_swap` says that a step is the same in two surroundings.
-/

namespace GovernedExpr.Reading

open Text

/-! ### Names of groups -/

theorem groupName?_eq (cs : List Char) :
    groupName? cs = (some (runOf false (· ≠ '>') cs)).bind fun p =>
      match p.1, p.2 with
      | c :: others, '>' :: rest =>
        if isNameChar true c && others.all (isNameChar false) then some (p.1, rest) else none
      | _, _ => none := by
  rw [runOf_false]
  rfl

theorem local_groupName? {e : Option Bool} : Local e groupName? := by
  refine .congr ((local_runOf_inner _).bindCons (fun name c => ?_) fun name => ?_) groupName?_eq
  · cases name with
    | nil => exact .fail
    | cons d others =>
      by_cases close : c = '>'
      · subst close
        show Local e fun cs => if isNameChar true d && others.all (isNameChar false) then
          some (d :: others, cs) else none
        cases isNameChar true d && others.all (isNameChar false) with
        | false => exact .fail
        | true => exact .pure (d :: others)
      · refine .congr .fail fun cs => ?_
        simp [close]
  · cases name <;> rfl

theorem looksAround_iff (cs : List Char) :
    looksAround cs = true ↔
      ∃ l ∈ [['?', '='], ['?', '!'], ['?', '<', '='], ['?', '<', '!']], l <+: cs := by
  constructor
  · intro h
    unfold looksAround at h
    split at h
    · exact ⟨['?', '='], by simp, _, rfl⟩
    · exact ⟨['?', '!'], by simp, _, rfl⟩
    · exact ⟨['?', '<', '='], by simp, _, rfl⟩
    · exact ⟨['?', '<', '!'], by simp, _, rfl⟩
    · cases h
  · rintro ⟨l, hl, rest, rfl⟩
    simp only [List.mem_cons, List.not_mem_nil, or_false] at hl
    rcases hl with rfl | rfl | rfl | rfl <;> rfl

theorem looksAround_append {w t : List Char} (ht : IsTail t) :
    looksAround (w ++ t) = looksAround w := by
  have plain : ∀ l ∈ [['?', '='], ['?', '!'], ['?', '<', '='], ['?', '<', '!']], ')' ∉ l := by decide
  rw [Bool.eq_iff_iff, looksAround_iff, looksAround_iff]
  exact exists_congr fun l => and_congr_right fun hl => prefix_append_iff (plain l hl) ht

namespace State

variable {s S : State} {below : List Frame} {t t' w w' m cs : List Char}

/-! ### Surroundings -/

/-- A state inside of another pattern: further frames wait below, and further text follows. -/
def within (s : State) (below : List Frame) (t : List Char) : State :=
  { s with rest := s.rest ++ t, frames := s.frames ++ below }

@[simp] theorem extended_within : (s.within below t).extended = s.extended := rfl

@[simp] theorem extended_enter_none (captures : Bool) :
    (s.enter captures .none cs).extended = s.extended := rfl

@[simp] theorem extended_add (part : Written) : (s.add part cs).extended = s.extended := rfl

@[simp] theorem within_nil (s : State) : s.within [] [] = s := by
  simp [within]

/-- Frames that do not wait for a branch of a choice. -/
def IsBase (below : List Frame) : Prop :=
  ∀ branches rest, below ≠ .choice branches :: rest

theorem isBase_nil : IsBase [] := by
  simp [IsBase]

theorem complete_within (hb : IsBase below) :
    (s.within below t).complete = (s.complete.1, s.complete.2 ++ below) := by
  unfold complete within
  cases s.frames with
  | nil =>
    rw [List.nil_append]
    split
    · rename_i choice
      exact absurd choice (hb _ _)
    · rfl
  | cons frame frames => cases frame <;> rfl

theorem closeGroup?_within (hb : IsBase below) (h : s.complete.2 ≠ []) :
    (s.within below t).closeGroup? (m ++ t) = (s.closeGroup? m).map (·.within below t) := by
  rw [closeGroup?, closeGroup?, complete_within hb]
  generalize s.complete = p at h
  obtain ⟨body, frames⟩ := p
  rcases frames with _ | ⟨⟨before, captures, change, extended⟩ | branches, frames⟩
  · exact absurd rfl h
  · rfl
  · rfl

theorem closeGroup?_rest (h : s.closeGroup? cs = some S) : S.rest = cs := by
  unfold closeGroup? at h
  split at h
  · rw [← Option.some.inj h]
  · cases h

theorem nextBranch_within (hb : IsBase below) :
    (s.within below t).nextBranch (m ++ t) = (s.nextBranch m).within below t := by
  unfold nextBranch within
  cases s.frames with
  | nil =>
    rw [List.nil_append]
    split
    · rename_i choice
      exact absurd choice (hb _ _)
    · rfl
  | cons frame frames => cases frame <;> rfl

/-- What follows a repetition and the question mark that may stand after it. -/
def afterMark : List Char → List Char
  | '?' :: rest => rest
  | rest => rest

theorem afterMark_append (ht : IsTail t) : afterMark (m ++ t) = afterMark m ++ t := by
  by_cases mark : ['?'] <+: m
  · obtain ⟨rest, rfl⟩ := mark
    rfl
  · have plain {cs : List Char} (h : ¬ ['?'] <+: cs) : afterMark cs = cs := by
      unfold afterMark
      split
      · exact absurd ⟨_, rfl⟩ h
      · rfl
    rw [plain mark, plain (by rwa [prefix_append_iff (by decide) ht])]

theorem afterMark_of_isTail (ht : IsTail t) : afterMark t = t :=
  afterMark_append (m := []) ht

theorem afterMark_suffix (cs : List Char) : afterMark cs <:+ cs := by
  unfold afterMark
  split
  · exact List.suffix_cons _ _
  · exact List.suffix_refl _

theorem repeat?_eq (s : State) (least : Nat) (most : Option Nat) (cs : List Char) :
    s.repeat? least most cs =
      match s.parts with
      | [] => none
      | .flags _ :: _ => none
      | part :: parts =>
        some { s with rest := afterMark cs, parts := .repeated part least most :: parts } := rfl

theorem repeat?_within (ht : IsTail t) (least : Nat) (most : Option Nat) :
    (s.within below t).repeat? least most (m ++ t) =
      (s.repeat? least most m).map (·.within below t) := by
  rw [repeat?_eq, repeat?_eq, afterMark_append ht]
  have parts : (s.within below t).parts = s.parts := rfl
  rw [parts]
  rcases s.parts with _ | ⟨part, parts⟩
  · rfl
  · cases part <;> rfl

/-! ### Openings of groups -/

/-- Go on after switches: they start a group, or they hold to the end of the present one. -/
def afterFlags? (s : State) : (FlagChange × Char) × List Char → Option State
  | ((change, ending), rest) =>
    if ending = ')' then
      if change.isNone then none
      else
        some { s with
          rest := rest
          extended := change.apply .ignoreBlanks s.extended
          parts := .flags change :: s.parts }
    else some (s.enter false change rest)

/-- What follows an opening parenthesis, and what is ignored after it. -/
def afterOpening? (s : State) (cs : List Char) : Option State :=
  if looksAround cs then none
  else
    match cs with
    | '?' :: 'P' :: '<' :: rest => s.enterNamed? rest
    | '?' :: '<' :: rest => s.enterNamed? rest
    | '?' :: rest =>
      match flagChange? rest with
      | none => none
      | some (change, ending, rest) => s.afterFlags? ((change, ending), rest)
    | rest => some (s.enter true .none rest)

theorem openGroup?_eq (s : State) (cs : List Char) :
    s.openGroup? cs = s.afterOpening? (skipIgnored s.extended cs) := rfl

theorem afterOpening?_flags (h : looksAround ('?' :: cs) = false)
    (hP : ¬ ['P', '<'] <+: cs) (hname : ¬ ['<'] <+: cs) :
    s.afterOpening? ('?' :: cs) =
      ((flagChange? cs).map fun p => ((p.1, p.2.1), p.2.2)).bind s.afterFlags? := by
  rw [afterOpening?, if_neg (by simp [h])]
  · cases flagChange? cs <;> rfl
  · rintro rest rfl
    exact hP ⟨rest, rfl⟩
  · rintro rest rfl
    exact hname ⟨rest, rfl⟩

theorem afterOpening?_enter (h : looksAround cs = false) (hmark : ¬ ['?'] <+: cs) :
    s.afterOpening? cs = some (s.enter true .none cs) := by
  rw [afterOpening?, if_neg (by simp [h])]
  all_goals
  · rintro rest rfl
    exact hmark ⟨_, rfl⟩

theorem afterFlags?_spec {p : (FlagChange × Char) × List Char} (h : s.afterFlags? p = some S) :
    S.rest = p.2 ∧ (S.frames = s.frames ∨ ∃ frame, S.frames = frame :: s.frames) := by
  obtain ⟨⟨change, ending⟩, rest⟩ := p
  unfold afterFlags? at h
  dsimp only at h
  split at h
  · split at h
    · cases h
    · rw [← Option.some.inj h]
      exact ⟨rfl, .inl rfl⟩
  · rw [← Option.some.inj h]
    exact ⟨rfl, .inr ⟨_, rfl⟩⟩

theorem afterFlags?_within (p : FlagChange × Char) :
    (s.within below t).afterFlags? (p, m ++ t) =
      (s.afterFlags? (p, m)).map (·.within below t) := by
  obtain ⟨change, ending⟩ := p
  unfold afterFlags?
  dsimp only
  split
  · split <;> rfl
  · rfl

theorem enterNamed?_swap (below' : List Frame) (ht : IsTail t) (ht' : IsTail t')
    (h : (s.within below t).enterNamed? (m ++ t) = some S) (hr : t <:+ S.rest) :
    ∃ s' : State, S = s'.within below t ∧
      (s.within below' t').enterNamed? (m ++ t') = some (s'.within below' t') := by
  rw [enterNamed?] at h
  cases named : groupName? (m ++ t) with
  | none => rw [named] at h; cases h
  | some p =>
    obtain ⟨name, rest⟩ := p
    rw [named] at h
    dsimp only at h
    split at h
    · cases h
    · rename_i new
      obtain rfl := Option.some.inj h
      obtain ⟨w', hw'⟩ : t <:+ rest := hr
      have reads := (local_groupName? (e := some false)).reads named
      have named' := reads.swap ht ht' rfl hw'.symm fun _ => .inl rfl
      subst hw'
      refine ⟨{ s with names := name :: s.names }.enter true .none w', rfl, ?_⟩
      rw [enterNamed?, named']
      exact if_neg new

/-- The start of a group in front of a tail. -/
theorem afterOpening?_swap (below' : List Frame) (ht : IsTail t) (ht' : IsTail t')
    (h : (s.within below t).afterOpening? (m ++ t) = some S) (hr : t <:+ S.rest) :
    ∃ s' : State, S = s'.within below t ∧
      (s.within below' t').afterOpening? (m ++ t') = some (s'.within below' t') := by
  have around : looksAround (m ++ t) = false := by
    unfold afterOpening? at h
    split at h
    · cases h
    · rename_i around
      simpa using around
  have around' : looksAround (m ++ t') = false := by
    rw [looksAround_append ht', ← looksAround_append ht, around]
  by_cases mark : ['?'] <+: m
  · obtain ⟨m, rfl⟩ := mark
    by_cases hP : ['P', '<'] <+: m
    · obtain ⟨m, rfl⟩ := hP
      obtain ⟨s', hS, hs'⟩ := enterNamed?_swap below' ht ht' (m := m)
        ((if_neg (Bool.eq_false_iff.1 around)).symm.trans h) hr
      exact ⟨s', hS, (if_neg (Bool.eq_false_iff.1 around')).trans hs'⟩
    · by_cases hname : ['<'] <+: m
      · obtain ⟨m, rfl⟩ := hname
        obtain ⟨s', hS, hs'⟩ := enterNamed?_swap below' ht ht' (m := m)
          ((if_neg (Bool.eq_false_iff.1 around)).symm.trans h) hr
        exact ⟨s', hS, (if_neg (Bool.eq_false_iff.1 around')).trans hs'⟩
      · have plain {t : List Char} (ht : IsTail t) :
            ¬ ['P', '<'] <+: m ++ t ∧ ¬ ['<'] <+: m ++ t := by
          rw [prefix_append_iff (by decide) ht, prefix_append_iff (by decide) ht]
          exact ⟨hP, hname⟩
        replace h := (afterOpening?_flags around (plain ht).1 (plain ht).2).symm.trans h
        obtain ⟨⟨p, rest⟩, flags, after⟩ := Option.bind_eq_some_iff.1 h
        rw [(afterFlags?_spec after).1] at hr
        obtain ⟨w', rfl⟩ : t <:+ rest := hr
        have flags' := ((local_flagsFrom? (e := some false) .none false false).reads flags).swap
          ht ht' rfl rfl fun _ => .inl rfl
        rw [afterFlags?_within] at after
        obtain ⟨s', found, rfl⟩ := Option.map_eq_some_iff.1 after
        refine ⟨s', rfl, (afterOpening?_flags around' (plain ht').1 (plain ht').2).trans ?_⟩
        refine (congrArg (Option.bind · _) flags').trans ?_
        rw [Option.bind_some, afterFlags?_within, found]
        rfl
  · have plain {t : List Char} (ht : IsTail t) : ¬ ['?'] <+: m ++ t := by
      rwa [prefix_append_iff (by decide) ht]
    rw [afterOpening?_enter around (plain ht)] at h
    obtain rfl := Option.some.inj h
    exact ⟨s.enter true .none m, rfl, by rw [afterOpening?_enter around' (plain ht')]; rfl⟩

theorem enterNamed?_suffix (h : s.enterNamed? cs = some S) : S.rest <:+ cs := by
  rw [enterNamed?] at h
  cases named : groupName? cs with
  | none => rw [named] at h; cases h
  | some p =>
    rw [named] at h
    dsimp only at h
    split at h
    · cases h
    · obtain rfl := Option.some.inj h
      exact ((local_groupName? (e := none)).reads named).suffix

theorem afterOpening?_suffix (h : s.afterOpening? cs = some S) : S.rest <:+ cs := by
  unfold afterOpening? at h
  split at h
  · cases h
  · split at h
    · exact (enterNamed?_suffix h).trans ⟨['?', 'P', '<'], rfl⟩
    · exact (enterNamed?_suffix h).trans ⟨['?', '<'], rfl⟩
    · split at h
      · cases h
      · rename_i change ending rest flags
        rw [(afterFlags?_spec h).1]
        have reads := ((local_flagsFrom? (e := none) .none false false).reads
          (congrArg (Option.map _) flags)).suffix
        exact reads.trans (List.suffix_cons _ _)
    · obtain rfl := Option.some.inj h
      exact List.suffix_refl _

/-- A group in front of a tail.  Where the text ends with its opening, no comment may be open. -/
theorem openGroup?_swap (below' : List Frame) (ht : IsTail t) (ht' : IsTail t')
    (h : (s.within below t).openGroup? (m ++ t) = some S) (hr : t <:+ S.rest)
    (mayEnd : S.rest = t → MayEnd (some (s.extended && S.extended)) t m) :
    ∃ s' : State, S = s'.within below t ∧
      (s.within below' t').openGroup? (m ++ t') = some (s'.within below' t') := by
  rw [openGroup?_eq] at h
  obtain ⟨v, hv⟩ := hr.trans (afterOpening?_suffix h)
  have skipped : skipIgnored s.extended (m ++ t) = v ++ t := hv.symm
  replace h : (s.within below t).afterOpening? (v ++ t) = some S := skipped ▸ h
  have skipped' := skipIgnored_swap ht ht' skipped fun hnil => by
    subst hnil
    have around : looksAround ([] ++ t) = false := looksAround_append ht
    rw [afterOpening?_enter around (by rw [prefix_append_iff (by decide) ht]; simp)] at h
    obtain rfl := Option.some.inj h
    have same := mayEnd rfl
    rwa [extended_enter_none, extended_within, Bool.and_self] at same
  obtain ⟨s', hS, hs'⟩ := afterOpening?_swap below' ht ht' h hr
  refine ⟨s', hS, ?_⟩
  rw [openGroup?_eq]
  exact skipped' ▸ hs'

/-! ### Steps -/

theorem step?_other {c : Char} (hc : c ∉ ['(', ')', '|', '[', '?', '*', '+', '\x7b']) (cs : List Char) :
    s.step? (c :: cs) =
      (primitive? s.extended (c :: cs)).map fun p => s.add p.1.written p.2 := by
  simp only [List.mem_cons, List.not_mem_nil, or_false, not_or] at hc
  rw [step?]
  all_goals simp [hc]

theorem step?_brace (s : State) (cs : List Char) :
    s.step? ('\x7b' :: cs) =
      (bounded? s.extended cs).bind fun p => s.repeat? p.1.1 p.1.2 p.2 := by
  rw [step?]
  cases bounded? s.extended cs <;> rfl

theorem repeat?_spec {least : Nat} {most : Option Nat} (h : s.repeat? least most cs = some S) :
    S.rest = afterMark cs ∧ S.extended = s.extended ∧ S.frames = s.frames := by
  rw [repeat?_eq] at h
  split at h
  · cases h
  · cases h
  · rw [← Option.some.inj h]
    exact ⟨rfl, rfl, rfl⟩

theorem repeat?_swap {below' : List Frame} (ht : IsTail t) (ht' : IsTail t') {least : Nat}
    {most : Option Nat} (h : (s.within below t).repeat? least most (m ++ t) = some S) :
    ∃ s' : State, S = s'.within below t ∧
      (s.within below' t').repeat? least most (m ++ t') = some (s'.within below' t') := by
  rw [repeat?_within ht] at h
  obtain ⟨s', found, rfl⟩ := Option.map_eq_some_iff.1 h
  exact ⟨s', rfl, (repeat?_within ht' least most).trans (congrArg _ found)⟩

/-- A counted repetition in front of a tail. -/
theorem brace_swap {below' : List Frame} (ht : IsTail t) (ht' : IsTail t')
    (h : (s.within below t).step? ('\x7b' :: (m ++ t)) = some S) (hr : t <:+ S.rest)
    (mayEnd : S.rest = t → MayEnd (some (s.extended && S.extended)) t m) :
    ∃ s' : State, S = s'.within below t ∧
      (s.within below' t').step? ('\x7b' :: (m ++ t')) = some (s'.within below' t') := by
  rw [step?_brace] at h ⊢
  obtain ⟨⟨⟨least, most⟩, rest⟩, found, repeated⟩ := Option.bind_eq_some_iff.1 h
  obtain ⟨left, same, -⟩ := repeat?_spec repeated
  obtain ⟨v, rfl⟩ : t <:+ rest := hr.trans (left ▸ afterMark_suffix rest)
  have found' := (local_bounded?.reads found).swap ht ht' rfl rfl fun hv => by
    rw [hv, List.nil_append, afterMark_of_isTail ht] at left
    simpa [same] using mayEnd left
  obtain ⟨s', hS, hs'⟩ := repeat?_swap ht ht' repeated
  exact ⟨s', hS, Option.bind_eq_some_iff.2 ⟨_, found', hs'⟩⟩

/-- A class in brackets in front of a tail. -/
theorem bracket_swap {below' : List Frame} (ht : IsTail t) (ht' : IsTail t')
    (h : (s.within below t).step? ('[' :: (m ++ t)) = some S) (hr : t <:+ S.rest) :
    ∃ s' : State, S = s'.within below t ∧
      (s.within below' t').step? ('[' :: (m ++ t')) = some (s'.within below' t') := by
  obtain ⟨⟨negated, content, rest⟩, found, rfl⟩ := Option.map_eq_some_iff.1 h
  obtain ⟨v, rfl⟩ : t <:+ rest := hr
  have reads := (local_bracketed? (e := some false)).reads (congrArg (Option.map _) found)
  have found' := reads.swap ht ht' rfl rfl fun _ => .inl rfl
  obtain ⟨⟨negated', content', rest'⟩, found', hp⟩ := Option.map_eq_some_iff.1 found'
  simp only [Prod.mk.injEq] at hp
  obtain ⟨⟨rfl, rfl⟩, rfl⟩ := hp
  exact ⟨s.add (.bracketed negated' content') v, rfl, Option.map_eq_some_iff.2 ⟨_, found', rfl⟩⟩

/-- A character or an escape in front of a tail.  A condition on words depends on whether a brace is
followed by a name. -/
theorem primitive?_swap {c : Char} {a : Primitive} {extended : Bool} (ht : IsTail t)
    (ht' : IsTail t') (h : primitive? extended (c :: (m ++ t)) = some (a, w' ++ t))
    (mayEnd : w' = [] → MayEnd (some extended) t (c :: m))
    (follows : t ≠ [] → ∀ b, w' = '\x7b' :: b →
      ∃ c m, skipIgnored extended (b ++ t) = c :: m ++ t) :
    primitive? extended (c :: (m ++ t')) = some (a, w' ++ t') := by
  by_cases word : ['\\', 'b'] <+: c :: m
  · obtain ⟨m, hm⟩ := word
    obtain ⟨rfl, rfl⟩ := List.cons.inj hm
    obtain ⟨⟨edge, rest⟩, named, ha⟩ := Option.map_eq_some_iff.1 h
    obtain ⟨rfl, rfl⟩ := Prod.mk.inj ha
    have named' := wordEdge?_swap ht ht' named
      (fun hv => (mayEnd hv).of_suffix ⟨['\\', 'b'], rfl⟩) follows
    exact Option.map_eq_some_iff.2 ⟨_, named', rfl⟩
  · have single : ¬ ['\\', 'b'] <+: (c :: m) ++ t := by rwa [prefix_append_iff (by decide) ht]
    exact (reads_primitive? h single).swap (w := c :: m) ht ht' rfl rfl mayEnd

/-- A step inside of another pattern is the same in two surroundings, if it does not end the group
around the pattern.  It matters where a comment could be open at the end of the text, and where a brace
follows that could open the name of a condition. -/
theorem step?_swap {below' : List Frame} (hb : IsBase below) (hb' : IsBase below') (ht : IsTail t)
    (ht' : IsTail t') {c : Char} (h : (s.within below t).step? (c :: (m ++ t)) = some S)
    (hr : t <:+ S.rest) (inside : c = ')' → s.complete.2 ≠ [])
    (mayEnd : S.rest = t → MayEnd (some (s.extended && S.extended)) t (c :: m))
    (follows : t ≠ [] → ∀ b, S.rest = '\x7b' :: b ++ t →
      ∃ c m, skipIgnored S.extended (b ++ t) = c :: m ++ t) :
    ∃ s' : State, S = s'.within below t ∧
      (s.within below' t').step? (c :: (m ++ t')) = some (s'.within below' t') := by
  have ends := fun h => (mayEnd h).of_suffix (List.suffix_cons c m)
  by_cases group : c = '('
  · subst group
    exact openGroup?_swap below' ht ht' h hr ends
  by_cases close : c = ')'
  · subst close
    replace h := (closeGroup?_within (m := m) (t := t) hb (inside rfl)).symm.trans h
    obtain ⟨s', found, rfl⟩ := Option.map_eq_some_iff.1 h
    exact ⟨s', rfl, (closeGroup?_within hb' (inside rfl)).trans (congrArg _ found)⟩
  by_cases bar : c = '|'
  · subst bar
    obtain rfl := Option.some.inj h
    exact ⟨s.nextBranch m, nextBranch_within hb, congrArg some (nextBranch_within hb')⟩
  by_cases bracket : c = '['
  · subst bracket
    exact bracket_swap ht ht' h hr
  by_cases option : c = '?'
  · subst option
    exact repeat?_swap ht ht' h
  by_cases star : c = '*'
  · subst star
    exact repeat?_swap ht ht' h
  by_cases plus : c = '+'
  · subst plus
    exact repeat?_swap ht ht' h
  by_cases brace : c = '\x7b'
  · subst brace
    exact brace_swap ht ht' h hr ends
  have other : c ∉ ['(', ')', '|', '[', '?', '*', '+', '\x7b'] := by
    simp only [List.mem_cons, List.not_mem_nil, or_false, not_or]
    exact ⟨group, close, bar, bracket, option, star, plus, brace⟩
  rw [step?_other other] at h ⊢
  obtain ⟨⟨a, rest⟩, found, rfl⟩ := Option.map_eq_some_iff.1 h
  obtain ⟨v, rfl⟩ : t <:+ rest := hr
  have found' : primitive? s.extended (c :: (m ++ t')) = some (a, v ++ t') := by
    refine primitive?_swap ht ht' found (fun hv => ?_) fun hne b hb => follows hne b (by rw [hb]; rfl)
    subst hv
    simpa using mayEnd rfl
  exact ⟨s.add a.written v, rfl, Option.map_eq_some_iff.2 ⟨_, found', rfl⟩⟩

theorem primitive?_suffix {c : Char} {a : Primitive} {extended : Bool} {r : List Char}
    (h : primitive? extended (c :: cs) = some (a, r)) : r <:+ cs := by
  by_cases escape : c = '\\'
  · subst escape
    cases cs with
    | nil => cases h
    | cons d cs =>
      by_cases edge : d = 'b'
      · subst edge
        obtain ⟨⟨edge, rest⟩, named, ha⟩ := Option.map_eq_some_iff.1 h
        obtain ⟨-, rfl⟩ := Prod.mk.inj ha
        exact (wordEdge?_suffix named).trans (List.suffix_cons _ _)
      · exact ((local_escape? edge).reads h).suffix.trans (List.suffix_cons _ _)
  · rw [primitive?_single escape] at h
    obtain ⟨_, -, ha⟩ := Option.map_eq_some_iff.1 h
    exact (Prod.mk.inj ha).2 ▸ List.suffix_refl _

theorem frames_of_afterOpening? (h : s.afterOpening? cs = some S) :
    S.frames = s.frames ∨ ∃ frame, S.frames = frame :: s.frames := by
  have named {cs : List Char} (h : s.enterNamed? cs = some S) : ∃ frame, S.frames = frame :: s.frames := by
    unfold enterNamed? at h
    split at h
    · cases h
    · split at h
      · cases h
      · rw [← Option.some.inj h]
        exact ⟨_, rfl⟩
  unfold afterOpening? at h
  split at h
  · cases h
  · split at h
    · exact .inr (named h)
    · exact .inr (named h)
    · split at h
      · cases h
      · exact (afterFlags?_spec h).2
    · rw [← Option.some.inj h]
      exact .inr ⟨_, rfl⟩

/-- What a step does: it reads on, and it ends a group, leaves the frames that wait, adds one, or
starts a branch of a choice. -/
theorem step?_cases {c : Char} (h : s.step? (c :: cs) = some S) :
    S.rest <:+ cs ∧
      (c = ')' ∧ s.closeGroup? cs = some S ∨
        c ≠ ')' ∧ (S.frames = s.frames ∨ (∃ frame, S.frames = frame :: s.frames) ∨
          S = s.nextBranch cs)) := by
  by_cases group : c = '('
  · subst group
    have skip := skipIgnored_suffix s.extended cs
    refine ⟨(afterOpening?_suffix h).trans skip, .inr ⟨by decide, ?_⟩⟩
    exact (frames_of_afterOpening? h).imp_right .inl
  by_cases close : c = ')'
  · subst close
    exact ⟨closeGroup?_rest h ▸ List.suffix_refl _, .inl ⟨rfl, h⟩⟩
  by_cases bar : c = '|'
  · subst bar
    obtain rfl := Option.some.inj h
    exact ⟨List.suffix_refl _, .inr ⟨close, .inr (.inr rfl)⟩⟩
  have repeats {least : Nat} {most : Option Nat} {v : List Char}
      (h : s.repeat? least most v = some S) : S.rest <:+ v ∧ S.frames = s.frames := by
    obtain ⟨left, -, frames⟩ := repeat?_spec h
    exact ⟨left ▸ afterMark_suffix v, frames⟩
  by_cases option : c = '?'
  · subst option
    exact (repeats h).imp_right fun h => .inr ⟨close, .inl h⟩
  by_cases star : c = '*'
  · subst star
    exact (repeats h).imp_right fun h => .inr ⟨close, .inl h⟩
  by_cases plus : c = '+'
  · subst plus
    exact (repeats h).imp_right fun h => .inr ⟨close, .inl h⟩
  by_cases bracket : c = '['
  · subst bracket
    obtain ⟨⟨negated, content, rest⟩, found, rfl⟩ := Option.map_eq_some_iff.1 h
    have reads := (local_bracketed? (e := none)).reads (congrArg (Option.map _) found)
    exact ⟨reads.suffix, .inr ⟨close, .inl rfl⟩⟩
  by_cases brace : c = '\x7b'
  · subst brace
    rw [step?_brace] at h
    obtain ⟨⟨bounds, rest⟩, found, repeated⟩ := Option.bind_eq_some_iff.1 h
    obtain ⟨suffix, frames⟩ := repeats repeated
    exact ⟨suffix.trans (local_bounded?.reads found).suffix, .inr ⟨close, .inl frames⟩⟩
  have other : c ∉ ['(', ')', '|', '[', '?', '*', '+', '\x7b'] := by
    simp only [List.mem_cons, List.not_mem_nil, or_false, not_or]
    exact ⟨group, close, bar, bracket, option, star, plus, brace⟩
  rw [step?_other other] at h
  obtain ⟨⟨a, rest⟩, found, rfl⟩ := Option.map_eq_some_iff.1 h
  exact ⟨primitive?_suffix found, .inr ⟨close, .inl rfl⟩⟩

end State

end GovernedExpr.Reading
