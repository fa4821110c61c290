import GovernedExpr.Pattern.Cursor

/-!
# Reading in front of a tail

A reader of a part of a pattern does not look at what follows the part.  So it reads the same where
the pattern ends and where a closing parenthesis follows, unless the closing parenthesis would be a
part of a comment.

* `IsTail` says what may follow a pattern, `hasOpenComment` that a text may end in a comment;
* `Reads` says that a reader takes a part off a text, and does so whatever follows the text;
* `Local` says that a reader does this with whatever it reads.  `Local.bind`, `Local.heads` and the
  lemmas beside them find it for readers that are made of others;
* `local_skipIgnored` and `local_runOf` find it for blanks, comments and runs of characters.
-/

namespace GovernedExpr.Reading

open Text

/-- What may follow a pattern: nothing, or a text that starts with a closing parenthesis. -/
def IsTail (t : List Char) : Prop :=
  ∀ c ∈ t.head?, c = ')'

/-- Whether a comment may be open at the end of a text: no line feed follows one of its `#`. -/
def hasOpenComment : List Char → Bool
  | [] => false
  | c :: rest => (c == '#' && !rest.contains '\n') || hasOpenComment rest

/-- Where reading may arrive at a tail: nowhere inside of a class, and elsewhere not in a comment.
With `some extended`, blanks and comments are ignored or not. -/
def MayEnd : Option Bool → (tail text : List Char) → Prop
  | none, _, _ => False
  | some extended, tail, text => extended = false ∨ tail ≠ [] ∨ hasOpenComment text = false

variable {t t' w w' cs r r' : List Char} {e e' : Option Bool} {extended : Bool}

theorem isTail_nil : IsTail [] := by
  simp [IsTail]

theorem isTail_cons (rest : List Char) : IsTail (')' :: rest) := by
  simp [IsTail]

theorem hasOpenComment_of_suffix (h : w' <:+ w) (hw : hasOpenComment w = false) :
    hasOpenComment w' = false := by
  induction w with
  | nil => rw [List.suffix_nil.1 h]; rfl
  | cons c w ih =>
    rw [hasOpenComment, Bool.or_eq_false_iff] at hw
    rcases List.suffix_cons_iff.1 h with rfl | h
    · rw [hasOpenComment, hw.1, hw.2]; rfl
    · exact ih h hw.2

theorem MayEnd.of_suffix (h : w' <:+ w) (hw : MayEnd e t w) : MayEnd e t w' := by
  cases e with
  | none => exact hw
  | some extended => exact hw.imp_right (Or.imp_right (hasOpenComment_of_suffix h))

/-- What does not start with a closing parenthesis starts in front of the tail. -/
theorem prefix_append_iff {l : List Char} (hl : ')' ∉ l) (ht : IsTail t) :
    l <+: w ++ t ↔ l <+: w := by
  induction l generalizing w with
  | nil => simp
  | cons c l ih =>
    rw [List.mem_cons, not_or] at hl
    cases w with
    | cons d w => simp only [List.cons_append, List.cons_prefix_cons, ih hl.2]
    | nil =>
      refine iff_of_false (fun h => ?_) (by simp)
      obtain ⟨rest, rfl⟩ := h
      exact hl.1 (ht c rfl).symm

/-! ### Readers -/

section Readers

variable {α β : Type} {f f' : List Char → Option (α × List Char)}
  {g : α × List Char → Option (β × List Char)} {a : α} {b : β}

/-- A reader takes a part off a text, and it takes the part off whatever follows the text, if it may
arrive there. -/
structure Reads (e : Option Bool) (f : List Char → Option (α × List Char)) (cs : List Char) (a : α)
    (r : List Char) : Prop where
  eq : f cs = some (a, r)
  suffix : r <:+ cs
  swap : ∀ {t t' w w'}, IsTail t → IsTail t' → cs = w ++ t → r = w' ++ t →
    (w' = [] → MayEnd e t w) → f (w ++ t') = some (a, w' ++ t')

/-- Whatever a reader reads, it reads as a part in front of a tail. -/
structure Local (e : Option Bool) (f : List Char → Option (α × List Char)) : Prop where
  reads : ∀ {cs a r}, f cs = some (a, r) → Reads e f cs a r

/-- What is left of a text and ends in the tail of the text is made of an end of it and the tail. -/
theorem exists_append_of_suffix (h : r <:+ w ++ t) (h' : w' ++ t <:+ r) :
    ∃ m, r = m ++ t ∧ m <:+ w ∧ w' <:+ m := by
  obtain ⟨u, hu⟩ := h
  obtain ⟨v, rfl⟩ := h'
  have cut : u ++ (v ++ w') = w := by
    rw [← List.append_left_inj t]
    simpa using hu
  exact ⟨v ++ w', by simp, ⟨u, cut⟩, ⟨v, rfl⟩⟩

namespace Reads

/-- Reading nothing. -/
theorem pure : Reads e (fun cs => some (a, cs)) cs a cs := by
  refine ⟨rfl, List.suffix_refl cs, fun {t t' w w'} _ _ hcs hr _ => ?_⟩
  obtain rfl := List.append_cancel_right (hcs.symm.trans hr)
  rfl

/-- Reading one part after the other.  If the second part is not empty, the first one does not end
where the text ends. -/
theorem bindWith (hf : Reads e f cs a r) (hg : Reads e' (fun cs => g (a, cs)) r b r')
    (h : ∀ t w, r'.length < r.length ∨ (MayEnd e' t w → MayEnd e t w)) :
    Reads e' (fun cs => (f cs).bind g) cs b r' := by
  refine ⟨by simp only [hf.eq, Option.bind_some, hg.eq], hg.suffix.trans hf.suffix,
    fun {t t' w w'} ht ht' hcs hr mayEnd => ?_⟩
  obtain ⟨m, rfl, hm, hw'⟩ := exists_append_of_suffix (hcs ▸ hf.suffix) (hr ▸ hg.suffix)
  have first := hf.swap ht ht' hcs rfl fun hm => by
    subst hm
    obtain rfl := List.suffix_nil.1 hw'
    exact (h t w).resolve_left (by simp [hr]) (mayEnd rfl)
  have second := hg.swap ht ht' rfl hr fun h => (mayEnd h).of_suffix hm
  simp only [first, Option.bind_some, second]

theorem bind (hf : Reads e f cs a r) (hg : Reads e (fun cs => g (a, cs)) r b r') :
    Reads e (fun cs => (f cs).bind g) cs b r' :=
  hf.bindWith hg fun _ _ => .inr id

/-- Reading on after a character. -/
theorem cons {c : Char} (hf : Reads e (fun cs => f (c :: cs)) cs a r) : Reads e f (c :: cs) a r := by
  refine ⟨hf.eq, hf.suffix.trans (List.suffix_cons c cs), fun {t t' w w'} ht ht' hcs hr mayEnd => ?_⟩
  cases w with
  | nil =>
    have hle := hf.suffix.length_le
    rw [hr, List.length_append, ← List.nil_append t, ← hcs, List.length_cons] at hle
    omega
  | cons d w =>
    obtain ⟨rfl, rfl⟩ := List.cons.inj hcs
    exact hf.swap ht ht' rfl hr fun h => (mayEnd h).of_suffix (List.suffix_cons _ _)

/-- Making something of what has been read. -/
theorem map (k : α → β) (hf : Reads e f cs a r) :
    Reads e (fun cs => (f cs).map fun p => (k p.1, p.2)) cs (k a) r :=
  ⟨by simp only [hf.eq, Option.map_some], hf.suffix, fun ht ht' hcs hr mayEnd => by
    simp only [hf.swap ht ht' hcs hr mayEnd, Option.map_some]⟩

/-- Readers that agree on texts that do not start in certain ways. -/
theorem ofStarts (starts : List (List Char)) (hstarts : ∀ l ∈ starts, ')' ∉ l)
    (agree : ∀ cs, (∀ l ∈ starts, ¬ l <+: cs) → f cs = f' cs) (h : ∀ l ∈ starts, ¬ l <+: cs)
    (hf : Reads e f' cs a r) : Reads e f cs a r := by
  refine ⟨by rw [agree cs h, hf.eq], hf.suffix, fun {t t' w w'} ht ht' hcs hr mayEnd => ?_⟩
  rw [agree, hf.swap ht ht' hcs hr mayEnd]
  intro l hl
  rw [prefix_append_iff (hstarts l hl) ht', ← prefix_append_iff (hstarts l hl) ht, ← hcs]
  exact h l hl

theorem congr (hf : Reads e f' cs a r) (agree : ∀ cs, f cs = f' cs) : Reads e f cs a r := by
  rwa [funext agree]

theorem mono (h : ∀ t w, MayEnd e' t w → MayEnd e t w) (hf : Reads e f cs a r) :
    Reads e' f cs a r :=
  ⟨hf.eq, hf.suffix, fun ht ht' hcs hr mayEnd => hf.swap ht ht' hcs hr fun hw => h _ _ (mayEnd hw)⟩

theorem inner (hf : Reads e f cs a r) : Reads none f cs a r :=
  hf.mono fun _ _ => False.elim

theorem plain (hf : Reads (some false) f cs a r) : Reads e f cs a r :=
  hf.mono fun _ _ _ => by exact Or.inl rfl

end Reads

namespace Local

theorem congr (hf : Local e f') (agree : ∀ cs, f cs = f' cs) : Local e f := by
  rwa [funext agree]

theorem fail : Local e (fun _ => (none : Option (α × List Char))) :=
  ⟨fun h => nomatch h⟩

theorem pure (a : α) : Local e (fun cs => some (a, cs)) :=
  ⟨fun h => by obtain ⟨rfl, rfl⟩ := Prod.mk.inj (Option.some.inj h); exact .pure⟩

/-- What reads nothing may still succeed or not. -/
theorem value (v : Option α) : Local e (fun cs => v.map fun a => (a, cs)) := by
  refine ⟨fun {cs a r} h => ?_⟩
  cases v with
  | none => cases h
  | some a => exact (pure a).reads h

theorem bind (hf : Local e f) (hg : ∀ a, Local e (fun cs => g (a, cs))) :
    Local e (fun cs => (f cs).bind g) := by
  refine ⟨fun {cs b r'} h => ?_⟩
  obtain ⟨⟨a, r⟩, h₁, h₂⟩ := Option.bind_eq_some_iff.1 h
  exact (hf.reads h₁).bind ((hg a).reads h₂)

/-- Reading on after a part of which nothing is kept. -/
theorem andThen {g : List Char → Option (β × List Char)} {k : List Char → List Char}
    (hk : Local e (fun cs => some ((), k cs))) (hg : Local e g) : Local e (fun cs => g (k cs)) :=
  .congr (hk.bind (g := fun p => g p.2) fun _ => hg) fun _ => rfl

/-- Reading a part that is followed by a character. -/
theorem bindCons (hf : Local none f) (hg : ∀ a c, Local e (fun cs => g (a, c :: cs)))
    (hnil : ∀ a, g (a, []) = none) : Local e (fun cs => (f cs).bind g) := by
  refine ⟨fun {cs b r'} h => ?_⟩
  obtain ⟨⟨a, r⟩, h₁, h₂⟩ := Option.bind_eq_some_iff.1 h
  cases r with
  | nil => rw [hnil] at h₂; cases h₂
  | cons c r =>
    have second := (hg a c).reads h₂
    refine (hf.reads h₁).bindWith second.cons fun _ _ => .inl ?_
    have := second.suffix.length_le
    rw [List.length_cons]
    omega

/-- Making something of what has been read. -/
theorem map (k : α → β) (hf : Local e f) : Local e (fun cs => (f cs).map fun p => (k p.1, p.2)) := by
  refine ⟨fun {cs b r} h => ?_⟩
  obtain ⟨⟨a, r'⟩, h₁, h₂⟩ := Option.map_eq_some_iff.1 h
  obtain ⟨rfl, rfl⟩ := Prod.mk.inj h₂
  exact (hf.reads h₁).map k

/-- Reading a character, and on from there. -/
theorem cons (hnil : f [] = none) (hf : ∀ c, Local e (fun cs => f (c :: cs))) : Local e f := by
  refine ⟨fun {cs a r} h => ?_⟩
  cases cs with
  | nil => rw [hnil] at h; cases h
  | cons c cs => exact ((hf c).reads h).cons

/-- Reading what follows one of some characters, or something else where they are missing. -/
theorem heads (starts : List Char) (hstarts : ')' ∉ starts)
    (hf : ∀ c ∈ starts, Local e (fun cs => f (c :: cs)))
    (agree : ∀ cs, (∀ c ∈ starts, ∀ rest, cs ≠ c :: rest) → f cs = f' cs) (hf' : Local e f') :
    Local e f := by
  refine ⟨fun {cs a r} h => ?_⟩
  by_cases start : ∃ c ∈ starts, ∃ rest, cs = c :: rest
  · obtain ⟨c, hc, rest, rfl⟩ := start
    exact ((hf c hc).reads h).cons
  · have away {cs} (hcs : ∀ l ∈ starts.map fun c => [c], ¬ l <+: cs) :
        ∀ c ∈ starts, ∀ rest, cs ≠ c :: rest := by
      rintro c hc rest rfl
      exact hcs [c] (List.mem_map_of_mem hc) ⟨rest, rfl⟩
    have here : ∀ l ∈ starts.map fun c => [c], ¬ l <+: cs := by
      intro l hl hpre
      obtain ⟨c, hc, rfl⟩ := List.mem_map.1 hl
      obtain ⟨rest, rfl⟩ := hpre
      exact start ⟨c, hc, rest, rfl⟩
    refine .ofStarts (starts.map fun c => [c]) ?_ (fun cs hcs => agree cs (away hcs)) here
      (hf'.reads (agree cs (away here) ▸ h))
    intro l hl
    obtain ⟨c, hc, rfl⟩ := List.mem_map.1 hl
    exact fun h => hstarts (List.mem_singleton.1 h ▸ hc)

theorem head (c : Char) (hc : c ≠ ')') (hf : Local e fun cs => f (c :: cs))
    (agree : ∀ cs, (∀ rest, cs ≠ c :: rest) → f cs = f' cs) (hf' : Local e f') : Local e f :=
  .heads [c] (fun h => hc (List.mem_singleton.1 h).symm) (List.forall_mem_singleton.2 hf)
    (fun cs h => agree cs (h c (List.mem_singleton_self c))) hf'

theorem inner (hf : Local e f) : Local none f :=
  ⟨fun h => (hf.reads h).inner⟩

theorem plain (hf : Local (some false) f) : Local e f :=
  ⟨fun h => (hf.reads h).plain⟩

end Local

end Readers

/-! ### Blanks, comments and runs -/

theorem skip_suffix (cs : List Char) : skipBlanks cs <:+ cs ∧ skipComment cs <:+ cs := by
  induction cs with
  | nil => exact ⟨List.suffix_refl _, List.suffix_refl _⟩
  | cons c cs ih =>
    have drop := List.suffix_cons c cs
    constructor
    · rw [skipBlanks]
      split
      · exact ih.1.trans drop
      · split
        · exact ih.2.trans drop
        · exact List.suffix_refl _
    · rw [skipComment]
      split
      · exact ih.1.trans drop
      · exact ih.2.trans drop

theorem skipBlanks_of_isTail (ht : IsTail t) : skipBlanks t = t := by
  cases t with
  | nil => rfl
  | cons c t =>
    obtain rfl := ht c rfl
    rfl

/-- A comment takes a closing parenthesis. -/
theorem skipComment_ne (t : List Char) : skipComment (')' :: t) ≠ ')' :: t := by
  intro h
  have := (skip_suffix t).2.length_le
  rw [show skipComment t = ')' :: t from h, List.length_cons] at this
  omega

theorem skip_swap (ht : IsTail t) (ht' : IsTail t') :
    (skipBlanks (w ++ t) = w' ++ t → (w' = [] → t ≠ [] ∨ hasOpenComment w = false) →
      skipBlanks (w ++ t') = w' ++ t') ∧
    (skipComment (w ++ t) = w' ++ t → (w' = [] → t ≠ [] ∨ hasOpenComment ('#' :: w) = false) →
      skipComment (w ++ t') = w' ++ t') := by
  induction w with
  | nil =>
    constructor
    · intro h _
      rw [List.nil_append, skipBlanks_of_isTail ht] at h
      rw [List.nil_append, skipBlanks_of_isTail ht', List.self_eq_append_left.1 h, List.nil_append]
    · -- a comment goes on into a tail that is not empty
      intro h mayEnd
      obtain rfl : w' = [] := by
        have := (skip_suffix t).2.length_le
        rw [← List.nil_append t, h, List.nil_append, List.length_append] at this
        exact List.length_eq_zero_iff.1 (by omega)
      cases t with
      | nil => exact absurd (mayEnd rfl) (by simp [hasOpenComment])
      | cons c t =>
        obtain rfl := ht c rfl
        exact absurd h (skipComment_ne t)
  | cons c w ih =>
    have drop := hasOpenComment_of_suffix (List.suffix_cons c w)
    constructor
    · intro h mayEnd
      rw [List.cons_append, skipBlanks] at h ⊢
      split at h
      · rename_i blank
        rw [if_pos blank]
        exact ih.1 h fun hw => (mayEnd hw).imp_right drop
      · rename_i notBlank
        rw [if_neg notBlank]
        split at h
        · rename_i hash
          rw [if_pos hash]
          exact ih.2 h fun hw => (mayEnd hw).imp_right (hash ▸ id)
        · rename_i notHash
          rw [if_neg notHash]
          rw [← List.cons_append, List.append_left_inj] at h
          rw [← h, List.cons_append]
    · intro h mayEnd
      rw [List.cons_append, skipComment] at h ⊢
      split at h
      · rename_i feed
        rw [if_pos feed]
        exact ih.1 h fun hw => (mayEnd hw).imp_right
          (hasOpenComment_of_suffix ((List.suffix_cons c w).trans (List.suffix_cons _ _)))
      · rename_i noFeed
        rw [if_neg noFeed]
        refine ih.2 h fun hw => (mayEnd hw).imp_right fun closed => ?_
        simp only [hasOpenComment, Bool.or_eq_false_iff, List.contains_cons] at closed ⊢
        grind

theorem skipIgnored_suffix (extended : Bool) (cs : List Char) : skipIgnored extended cs <:+ cs := by
  cases extended with
  | false => exact List.suffix_refl cs
  | true => exact (skip_suffix cs).1

/-- Passing over what is ignored takes nothing of a tail. -/
theorem skipIgnored_swap (ht : IsTail t) (ht' : IsTail t')
    (h : skipIgnored extended (w ++ t) = w' ++ t) (mayEnd : w' = [] → MayEnd (some extended) t w) :
    skipIgnored extended (w ++ t') = w' ++ t' := by
  cases extended with
  | false => rw [← List.append_cancel_right h]; rfl
  | true => exact (skip_swap ht ht').1 h fun hw => (mayEnd hw).resolve_left (by simp)

theorem local_skipIgnored (extended : Bool) :
    Local (some extended) (fun cs => some ((), skipIgnored extended cs)) := by
  refine ⟨fun {cs _ r} h => ?_⟩
  obtain rfl := (Prod.mk.inj (Option.some.inj h)).2
  refine ⟨rfl, skipIgnored_suffix extended cs, fun {t t' w w'} ht ht' hcs hr mayEnd => ?_⟩
  simp only [skipIgnored_swap ht ht' (hcs ▸ hr) mayEnd]

theorem runOf_eq_nil {test : Char → Bool} (h : ∀ c ∈ cs.head?, test c = false) :
    runOf extended test cs = ([], cs) := by
  cases cs with
  | nil => rw [runOf]
  | cons c cs => simp [runOf, h c rfl]

/-- A run ends in front of a tail, unless its test accepts closing parentheses. -/
theorem local_runOf_of (extended : Bool) (test : Char → Bool)
    (he : ∀ x ∈ e, x = extended ∧ test ')' = false) :
    Local e (fun cs => some (runOf extended test cs)) := by
  have skip : Local e (fun cs => some ((), skipIgnored extended cs)) := by
    cases e with
    | none => exact (local_skipIgnored extended).inner
    | some x => exact (he x rfl).1 ▸ local_skipIgnored x
  have stop (cs) (h : ∀ c ∈ cs.head?, test c = false) :
      Reads e (fun cs => some (runOf extended test cs)) cs [] cs := by
    refine ⟨by simp only [runOf_eq_nil h], List.suffix_refl cs,
      fun {t t' w w'} ht ht' hcs hr mayEnd => ?_⟩
    obtain rfl := List.append_cancel_right (hcs.symm.trans hr)
    rw [runOf_eq_nil]
    cases w with
    | nil =>
      cases e with
      | none => exact (mayEnd rfl).elim
      | some x => exact fun c hc => ht' c hc ▸ (he x rfl).2
    | cons d w => exact fun c hc => h c (hcs ▸ hc)
  refine ⟨fun {cs run after} h => ?_⟩
  replace h := Option.some.inj h
  -- along the run: a character, what is ignored after it, and the rest of the run
  induction cs using runOf.induct extended test generalizing run with
  | case1 =>
    rw [runOf] at h
    obtain ⟨rfl, rfl⟩ := Prod.mk.inj h
    exact stop [] (by simp)
  | case2 c rest hc run' after' eq ih =>
    rw [runOf, if_pos hc] at h
    obtain ⟨rfl, rfl⟩ := Prod.mk.inj h
    have inner := (skip.reads rfl).bind (g := fun p => (some (runOf extended test p.2)).map fun p =>
      (c :: p.1, p.2)) ((ih rfl).map (c :: ·))
    exact (inner.congr fun cs => by simp [runOf, hc]).cons
  | case3 c rest hc =>
    rw [runOf, if_neg hc] at h
    obtain ⟨rfl, rfl⟩ := Prod.mk.inj h
    exact stop _ (by simpa using hc)

theorem local_runOf (test : Char → Bool) (h : test ')' = false) :
    Local (some extended) (fun cs => some (runOf extended test cs)) :=
  local_runOf_of extended test (by rintro _ ⟨⟩; exact ⟨rfl, h⟩)

/-- A run that is followed by more ends in front of a tail, whatever its test accepts. -/
theorem local_runOf_inner (test : Char → Bool) :
    Local none (fun cs => some (runOf extended test cs)) :=
  local_runOf_of extended test (fun _ h => nomatch h)

theorem runOf_false (test : Char → Bool) (cs : List Char) :
    runOf false test cs = (cs.takeWhile test, cs.dropWhile test) := by
  induction cs using runOf.induct false test with
  | case1 => rw [runOf]; rfl
  | case2 c rest h run after eq ih => simp_all [runOf, skipIgnored]
  | case3 c rest h => simp [runOf, h]

theorem local_dropWhile (test : Char → Bool) (h : test ')' = false) :
    Local e (fun cs => some ((), cs.dropWhile test)) := by
  have run : Local (some false) (fun cs => some (runOf false test cs)) :=
    local_runOf test h
  exact (run.map fun _ => ()).plain.congr fun cs => by simp [runOf_false]

end GovernedExpr.Reading
