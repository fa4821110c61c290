import GovernedExpr.Pattern.ClassReader
import GovernedExpr.Proofs.Pattern.LocalParts

/-!
# Bracketed classes in front of a tail

The reader of a class is local.  What it reads ends in a closing bracket, so inside of a class the
readers never arrive at the tail, and it does not matter that they look ahead.

* `asciiClass?_append` and `classOperation?_append` say that named classes and operators never reach
  into a tail;
* `local_openBracket?` and `local_classItem?` are about what stands inside of brackets;
* `classStep?` is one step of reading, `classSteps?_succ` says that it is;
* `local_bracketed?` is about a whole class.
-/

namespace GovernedExpr.Reading

open Text

variable {t t' w w' cs r : List Char} {e : Option Bool} {extended : Bool}

/-! ### Readers that never reach into a tail -/

section Readers

variable {α : Type} {f f' : List Char → Option (α × List Char)}

namespace Local

/-- Readers that do not look at a tail at all. -/
theorem ofAppend (suffix : ∀ {cs a r}, f cs = some (a, r) → r <:+ cs)
    (append : ∀ {w t}, IsTail t → f (w ++ t) = (f w).map fun p => (p.1, p.2 ++ t)) :
    Local e f := by
  refine ⟨fun {cs a r} h => ⟨h, suffix h, fun {t t' w w'} ht ht' hcs hr _ => ?_⟩⟩
  rw [hcs, append ht] at h
  obtain ⟨⟨b, m⟩, hm, h⟩ := Option.map_eq_some_iff.1 h
  obtain ⟨rfl, left⟩ := Prod.mk.inj h
  rw [append ht', hm, ← List.append_cancel_right (left.trans hr)]
  rfl

/-- What starts by reading a character shortens a text. -/
theorem length_lt {a : α} (hnil : f [] = none) (hf : ∀ c, Local e fun cs => f (c :: cs))
    (h : f cs = some (a, r)) : r.length < cs.length := by
  cases cs with
  | nil => rw [hnil] at h; cases h
  | cons c cs =>
    have := ((hf c).reads h).suffix.length_le
    rw [List.length_cons]
    omega

/-- One of two readers, by a condition that does not depend on the tail. -/
theorem choice {D : List Char → Prop} [DecidablePred D]
    (stable : ∀ {w t t'}, IsTail t → IsTail t' → D (w ++ t) → D (w ++ t')) (hf : Local e f)
    (hf' : Local e f') : Local e fun cs => if D cs then f cs else f' cs := by
  refine ⟨fun {cs a r} h => ?_⟩
  by_cases hD : D cs
  · have reads := hf.reads ((if_pos hD).symm.trans h)
    refine ⟨h, reads.suffix, fun ht ht' hcs hr mayEnd => ?_⟩
    rw [if_pos (stable ht ht' (hcs ▸ hD))]
    exact reads.swap ht ht' hcs hr mayEnd
  · have reads := hf'.reads ((if_neg hD).symm.trans h)
    refine ⟨h, reads.suffix, fun ht ht' hcs hr mayEnd => ?_⟩
    rw [if_neg fun hD' => hD (hcs ▸ stable ht' ht hD')]
    exact reads.swap ht ht' hcs hr mayEnd

/-- Reading nothing, where something is left. -/
theorem nonempty (v : Option α) :
    Local none fun cs => if cs = [] then none else v.map fun a => (a, cs) := by
  refine ⟨fun {cs a r} h => ?_⟩
  by_cases hcs : cs = []
  · rw [if_pos hcs] at h; cases h
  · have reads := (value (e := none) v).reads ((if_neg hcs).symm.trans h)
    refine ⟨h, reads.suffix, fun {t t' w w'} ht ht' hw hr mayEnd => ?_⟩
    have here := reads.swap ht ht' hw hr mayEnd
    cases w with
    | nil =>
      have := reads.suffix.length_le
      rw [hr, hw, List.length_append, List.nil_append] at this
      exact (mayEnd (List.length_eq_zero_iff.1 (by omega))).elim
    | cons c w => rw [if_neg (by simp)]; exact here

end Local

end Readers

theorem asciiClassNamed?_eq_none {name : List Char} (h : ')' ∈ name) :
    asciiClassNamed? (String.ofList name) = none := by
  rw [Option.eq_none_iff_forall_not_mem]
  intro c hc
  obtain ⟨before, after, table, -⟩ := List.lookup_eq_some_iff.1 hc
  have plain : ∀ p ∈ [("alnum", AsciiClass.alnum), ("alpha", .alpha), ("ascii", .ascii),
      ("blank", .blank), ("cntrl", .cntrl), ("digit", .digit), ("graph", .graph), ("lower", .lower),
      ("print", .print), ("punct", .punct), ("space", .space), ("upper", .upper), ("word", .word),
      ("xdigit", .xdigit)], ')' ∉ p.1.toList := by
    decide
  refine plain (String.ofList name, c) ?_ ?_
  · rw [table]; simp
  · simpa using h

/-- A named class after its opening, with or without the caret that negates it. -/
def asciiName? (negated : Bool) (cs : List Char) : Option (ClassItem × List Char) :=
  match cs.dropWhile (· ≠ ':') with
  | ':' :: ']' :: rest =>
    (asciiClassNamed? (String.ofList (cs.takeWhile (· ≠ ':')))).map fun c =>
      (.named negated (.ascii c), rest)
  | _ => none

theorem asciiName?_append (ht : IsTail t) (negated : Bool) :
    asciiName? negated (w ++ t) = (asciiName? negated w).map fun p => (p.1, p.2 ++ t) := by
  have cut := List.takeWhile_append_dropWhile (p := (· ≠ ':')) (l := w)
  rw [asciiName?, asciiName?, List.dropWhile_append, List.takeWhile_append]
  cases left : w.dropWhile (· ≠ ':') with
  | nil =>
    -- the name would hold the closing parenthesis
    rw [left, List.append_nil] at cut
    rw [cut]
    cases t with
    | nil => rfl
    | cons c t =>
      obtain rfl := ht c rfl
      have unknown (cs : List Char) : asciiClassNamed? (String.ofList (w ++ ')' :: cs)) = none :=
        asciiClassNamed?_eq_none (by simp)
      simp only [List.isEmpty_nil, if_true, List.takeWhile_cons, List.dropWhile_cons]
      split
      · rw [if_pos (by decide), unknown]
        rfl
      · rfl
  | cons c d =>
    have short : (w.takeWhile (· ≠ ':')).length ≠ w.length := by
      intro h
      have := congrArg List.length cut
      rw [List.length_append, h, left, List.length_cons] at this
      omega
    rw [if_neg short, List.isEmpty_cons, if_neg Bool.false_ne_true]
    by_cases close : [':', ']'] <+: c :: d
    · obtain ⟨rest, close⟩ := close
      rw [← close]
      simp [Function.comp_def]
    · have close' : ¬ [':', ']'] <+: c :: d ++ t := by rwa [prefix_append_iff (by decide) ht]
      have fails {cs : List Char} (h : ¬ [':', ']'] <+: cs)
          (f : List Char → Option (ClassItem × List Char)) :
          (match cs with | ':' :: ']' :: rest => f rest | _ => none) = none := by
        split
        · exact absurd ⟨_, rfl⟩ h
        · rfl
      rw [fails close', fails close]
      rfl

theorem asciiClass?_of_not (h : ¬ ['[', ':'] <+: cs) : asciiClass? cs = none := by
  unfold asciiClass?
  split
  · exact absurd ⟨_, rfl⟩ h
  · rfl

/-- Whether a text starts with a caret, and the text after the caret. -/
def caret : List Char → Bool × List Char
  | '^' :: rest => (true, rest)
  | rest => (false, rest)

theorem caret_of_not (h : ¬ ['^'] <+: cs) : caret cs = (false, cs) := by
  unfold caret
  split
  · exact absurd ⟨_, rfl⟩ h
  · rfl

theorem caret_append (ht : IsTail t) : caret (w ++ t) = ((caret w).1, (caret w).2 ++ t) := by
  by_cases start : ['^'] <+: w
  · obtain ⟨v, rfl⟩ := start
    rfl
  · rw [caret_of_not start, caret_of_not (by rwa [prefix_append_iff (by decide) ht])]

theorem asciiClass?_eq (cs : List Char) :
    asciiClass? ('[' :: ':' :: cs) = asciiName? (caret cs).1 (caret cs).2 := rfl

theorem asciiClass?_append (ht : IsTail t) :
    asciiClass? (w ++ t) = (asciiClass? w).map fun p => (p.1, p.2 ++ t) := by
  by_cases start : ['[', ':'] <+: w
  · obtain ⟨v, rfl⟩ := start
    simp only [List.cons_append, List.nil_append, asciiClass?_eq, caret_append ht,
      asciiName?_append ht]
  · rw [asciiClass?_of_not start,
      asciiClass?_of_not (by rwa [prefix_append_iff (by decide) ht])]
    rfl

theorem caret_suffix (cs : List Char) : (caret cs).2 <:+ cs := by
  unfold caret
  split
  · exact List.suffix_cons _ _
  · exact List.suffix_refl _

theorem asciiName?_suffix {negated : Bool} {item : ClassItem}
    (h : asciiName? negated cs = some (item, r)) : r <:+ cs := by
  rw [asciiName?] at h
  split at h
  · rename_i rest left
    obtain ⟨c, -, h⟩ := Option.map_eq_some_iff.1 h
    obtain ⟨-, rfl⟩ := Prod.mk.inj h
    have drop := List.dropWhile_suffix (l := cs) (· ≠ ':')
    rw [left] at drop
    exact ((List.suffix_cons _ _).trans (List.suffix_cons _ _)).trans drop
  · cases h

/-- A named class in front of a tail. -/
theorem local_asciiClass? : Local e fun cs => asciiClass? ('[' :: cs) := by
  refine .ofAppend (fun {cs item r} h => ?_) fun {w t} ht => asciiClass?_append (w := '[' :: w) ht
  by_cases start : ['[', ':'] <+: '[' :: cs
  · obtain ⟨v, hv⟩ := start
    obtain ⟨-, rfl⟩ := List.cons.inj hv
    exact ((asciiName?_suffix h).trans (caret_suffix v)).trans (List.suffix_cons _ _)
  · rw [asciiClass?_of_not start] at h
    cases h

theorem classOperation?_of_not (h : ∀ l ∈ [['&', '&'], ['-', '-'], ['~', '~']], ¬ l <+: cs) :
    classOperation? cs = none := by
  unfold classOperation?
  split
  · exact absurd ⟨_, rfl⟩ (h ['&', '&'] (by simp))
  · exact absurd ⟨_, rfl⟩ (h ['-', '-'] (by simp))
  · exact absurd ⟨_, rfl⟩ (h ['~', '~'] (by simp))
  · rfl

theorem classOperation?_append (ht : IsTail t) :
    classOperation? (w ++ t) = (classOperation? w).map fun p => (p.1, p.2 ++ t) := by
  by_cases start : ∃ l ∈ [['&', '&'], ['-', '-'], ['~', '~']], l <+: w
  · obtain ⟨l, hl, v, rfl⟩ := start
    simp only [List.mem_cons, List.not_mem_nil, or_false] at hl
    rcases hl with rfl | rfl | rfl <;> rfl
  · have none' : ∀ l ∈ [['&', '&'], ['-', '-'], ['~', '~']], ¬ l <+: w := by simpa using start
    rw [classOperation?_of_not none', classOperation?_of_not fun l hl => ?_]
    · rfl
    · have plain : ∀ l ∈ [['&', '&'], ['-', '-'], ['~', '~']], ')' ∉ l := by decide
      rw [prefix_append_iff (plain l hl) ht]
      exact none' l hl

/-- An operator in front of a tail. -/
theorem local_classOperation? (c : Char) : Local e fun cs => classOperation? (c :: cs) := by
  refine .ofAppend (fun {cs item r} h => ?_) fun {w t} ht => classOperation?_append (w := c :: w) ht
  by_cases start : ∃ l ∈ [['&', '&'], ['-', '-'], ['~', '~']], l <+: c :: cs
  · obtain ⟨l, hl, v, hv⟩ := start
    simp only [List.mem_cons, List.not_mem_nil, or_false] at hl
    rcases hl with rfl | rfl | rfl <;>
    · obtain ⟨rfl, rfl⟩ := List.cons.inj hv
      obtain ⟨-, rfl⟩ := Prod.mk.inj (Option.some.inj h)
      exact List.suffix_cons _ _
  · rw [classOperation?_of_not (by simpa using start)] at h
    cases h

/-! ### What stands inside of brackets -/

/-- Whether a caret negates a class, and what follows it. -/
def negation (extended : Bool) : List Char → Bool × List Char
  | '^' :: rest => (true, skipIgnored extended rest)
  | cs => (false, cs)

/-- The items of the hyphens after an opening bracket, and of a closing bracket in first place. -/
def firstItems? (extended negated : Bool) (hyphens : List ClassItem) (cs : List Char) :
    Option (Bool × List ClassItem × List Char) :=
  match hyphens, cs with
  | _, [] => none
  | [], ']' :: rest => some (negated, [.literal ⟨']', false⟩], skipIgnored extended rest)
  | items, cs => some (negated, items, cs)

/-- The hyphens after an opening bracket and its caret, and what follows them. -/
def afterNegation? (extended : Bool) (p : Bool × List Char) :
    Option ((Bool × List ClassItem) × List Char) :=
  (some (runOf extended (· = '-') p.2)).bind fun q =>
    (firstItems? extended p.1 (q.1.map fun c => .literal ⟨c, false⟩) q.2).map fun p =>
      ((p.1, p.2.1), p.2.2)

theorem openBracket?_eq (extended : Bool) (cs : List Char) :
    (openBracket? extended cs).map (fun p => ((p.1, p.2.1), p.2.2)) =
      (some (negation extended (skipIgnored extended cs))).bind (afterNegation? extended) := rfl

theorem local_negation : Local none fun cs => some (negation extended cs) := by
  have skip := (local_skipIgnored extended).inner.map fun _ => true
  refine .head '^' (by decide) skip (fun cs h => ?_) (.pure false)
  rw [negation]
  exact h

theorem local_firstItems? (negated : Bool) (hyphens : List ClassItem) :
    Local none fun cs =>
      (firstItems? extended negated hyphens cs).map fun p => ((p.1, p.2.1), p.2.2) := by
  have items := Local.nonempty (some (negated, hyphens))
  cases hyphens with
  | nil =>
    have skip := (local_skipIgnored extended).inner.map fun _ =>
      (negated, [ClassItem.literal ⟨']', false⟩])
    refine .head ']' (by decide) skip (fun cs h => ?_) items
    cases cs with
    | nil => rfl
    | cons c cs =>
      rw [firstItems?]
      · rfl
      · simp
      · exact fun rest _ => h rest
  | cons h hs =>
    refine .congr items fun cs => ?_
    cases cs with
    | nil => rfl
    | cons c cs => simp [firstItems?]

theorem local_openBracket? :
    Local none fun cs => (openBracket? extended cs).map fun p => ((p.1, p.2.1), p.2.2) := by
  have items (negated : Bool) : Local none fun cs => afterNegation? extended (negated, cs) := by
    dsimp only [afterNegation?]
    refine .bind (local_runOf_inner _) fun hyphens => ?_
    exact local_firstItems? negated (hyphens.map fun c => ClassItem.literal ⟨c, false⟩)
  have after : Local none fun cs => (some (negation extended cs)).bind (afterNegation? extended) :=
    local_negation.bind items
  exact .congr ((local_skipIgnored extended).inner.andThen after) (openBracket?_eq extended)

/-! ### Looking ahead -/

theorem head?_append_iff {d : Char} (hd : d ≠ ')') (ht : IsTail t) :
    (w ++ t).head? = some d ↔ w.head? = some d := by
  cases w with
  | nil => exact iff_of_false (fun h => hd (ht d h)) (by simp)
  | cons c w => rfl

theorem dropWhile_of_head? {d : Char} (h : w.head? = some d) (hd : isBlank d = false) :
    w.dropWhile isBlank = w := by
  cases w with
  | nil => rfl
  | cons c w =>
    obtain rfl := Option.some.inj h
    rw [List.dropWhile_cons, hd]
    rfl

/-- A look at the next character in sight may go beyond the text, but the characters that matter
are found in the text. -/
theorem inSight?_append {c d : Char} (hd : d ≠ ')') (visible : isBlank d = false) (noHash : d ≠ '#')
    (ht : IsTail t) : inSight? extended (c :: (w ++ t)) = some d ↔ inSight? extended (c :: w) = some d := by
  cases extended with
  | false => exact head?_append_iff hd ht
  | true =>
    simp only [inSight?, List.tail_cons, if_true, List.dropWhile_append]
    cases hw : w.dropWhile isBlank with
    | nil =>
      -- the tail comes in sight, where the text has nothing to show but blanks
      have blank : w.head? ≠ some d := fun h => by
        rw [dropWhile_of_head? h visible] at hw
        simp [hw] at h
      refine iff_of_false ?_ blank
      cases t with
      | nil => simpa using blank
      | cons a t =>
        obtain rfl := ht a rfl
        exact fun h => hd (Option.some.inj h).symm
    | cons a v =>
      by_cases hash : a = '#'
      · subst hash
        have before : w.head? ≠ some d := fun h => by
          rw [dropWhile_of_head? h visible] at hw
          rw [hw] at h
          exact noHash (Option.some.inj h).symm
        simp only [List.isEmpty_cons, Bool.false_eq_true, if_false, List.cons_append,
          List.dropWhile_append]
        cases hv : v.dropWhile isBlank with
        | nil =>
          refine iff_of_false ?_ (by simpa using before)
          cases t with
          | nil => simpa using before
          | cons a t =>
            obtain rfl := ht a rfl
            exact fun h => hd (Option.some.inj h).symm
        | cons b v => rfl
      · simp

/-! ### Items -/

/-- A character or an escape that may be an item of a class. -/
def classPart? (extended : Bool) (cs : List Char) : Option (Primitive × List Char) :=
  (classPrimitive? extended cs).filter fun p => p.1.item?.isSome

theorem local_classPart?_cons (c : Char) : Local none fun cs => classPart? extended (c :: cs) := by
  by_cases escape : c = '\\'
  · subst escape
    refine .cons rfl fun c => ?_
    by_cases edge : c = 'b'
    · -- a condition on words is no item
      subst edge
      refine .congr .fail fun cs => ?_
      rw [classPart?, classPrimitive?, escape?]
      cases wordEdge? extended cs <;> rfl
    · refine ⟨fun {cs a r} h => ?_⟩
      obtain ⟨h, item⟩ := Option.filter_eq_some_iff.1 h
      have reads := ((local_escape? edge).reads h).inner
      exact ⟨Option.filter_eq_some_iff.2 ⟨h, item⟩, reads.suffix, fun ht ht' hcs hr mayEnd =>
        Option.filter_eq_some_iff.2 ⟨reads.swap ht ht' hcs hr mayEnd, item⟩⟩
  · refine .congr (.pure (.literal ⟨c, false⟩)) fun cs => ?_
    rw [classPart?, classPrimitive?]
    · rfl
    · exact escape

theorem local_classPart? : Local none (classPart? extended) :=
  .cons rfl local_classPart?_cons

/-- Whether a hyphen is next, and it does not make a range: another hyphen or a closing bracket is in
sight after it. -/
def EndsItem (extended : Bool) (cs : List Char) : Prop :=
  ['-'] <+: cs ∧ (inSight? extended cs = some ']' ∨ inSight? extended cs = some '-')

instance : DecidablePred (EndsItem extended) :=
  fun _ => inferInstanceAs (Decidable (_ ∧ _))

theorem endsItem_append_iff (ht : IsTail t) : EndsItem extended (w ++ t) ↔ EndsItem extended w := by
  cases w with
  | nil =>
    refine iff_of_false (fun h => ?_) fun h => by simpa using h.1
    obtain ⟨rest, hrest⟩ := h.1
    exact ht.ne_cons (by decide) rest hrest.symm
  | cons c w =>
    rw [EndsItem, EndsItem, prefix_append_iff (by decide) ht, List.cons_append,
      inSight?_append (by decide) (by decide) (by decide) ht,
      inSight?_append (by decide) (by decide) (by decide) ht]

/-- The end of a range after its hyphen. -/
def afterHyphen? (extended : Bool) (first : Primitive) (cs : List Char) :
    Option (ClassItem × List Char) :=
  (classPart? extended (skipIgnored extended cs)).bind fun p =>
    (first.literal?.bind fun lo => p.1.literal?.bind fun hi =>
      if lo.char ≤ hi.char then some (.range lo hi) else none).map fun item => (item, p.2)

/-- What follows the first part of an item, and what is ignored after it. -/
def afterFirst? (extended : Bool) (first : Primitive) (cs : List Char) :
    Option (ClassItem × List Char) :=
  if EndsItem extended cs then if cs = [] then none else first.item?.map fun item => (item, cs)
  else
    match cs with
    | '-' :: rest => afterHyphen? extended first rest
    | cs => if cs = [] then none else first.item?.map fun item => (item, cs)

theorem Primitive.literal?_of_item? {a : Primitive} (h : a.item? = none) : a.literal? = none := by
  cases a <;> first | rfl | cases h

theorem afterHyphen?_eq (extended : Bool) (first : Primitive) (cs : List Char) :
    afterHyphen? extended first cs =
      (classPrimitive? extended (skipIgnored extended cs)).bind fun p =>
        first.literal?.bind fun lo => p.1.literal?.bind fun hi =>
          if lo.char ≤ hi.char then some (.range lo hi, p.2) else none := by
  rw [afterHyphen?, classPart?]
  cases classPrimitive? extended (skipIgnored extended cs) with
  | none => rfl
  | some p =>
    cases hitem : p.1.item? with
    | none =>
      rw [Option.filter_some_neg (by simp [hitem]), Option.bind_some,
        Primitive.literal?_of_item? hitem]
      cases first.literal? <;> rfl
    | some item =>
      rw [Option.filter_some_pos (by simp [hitem]), Option.bind_some, Option.bind_some]
      cases first.literal? with
      | none => rfl
      | some lo =>
        cases p.1.literal? with
        | none => rfl
        | some hi => by_cases h : lo.char ≤ hi.char <;> simp [h]

theorem classItem?_eq (extended : Bool) (cs : List Char) :
    classItem? extended cs =
      (classPart? extended cs).bind fun p => afterFirst? extended p.1 (skipIgnored extended p.2) := by
  rw [classItem?, classPart?]
  cases classPrimitive? extended cs with
  | none => rfl
  | some p =>
    obtain ⟨first, rest⟩ := p
    simp only [Option.bind_eq_bind, Option.bind_some]
    cases hfirst : first.item? with
    | none =>
      rw [Option.filter_some_neg (by simp [hfirst]), Option.bind_none,
        Primitive.literal?_of_item? hfirst]
      split
      · rfl
      · split
        · rfl
        · simp
      · rfl
    | some item =>
      rw [Option.filter_some_pos (by simp [hfirst]), Option.bind_some]
      unfold afterFirst?
      dsimp only
      split
      · simp [EndsItem, *]
      · rename_i rest' hyphen
        rw [hyphen]
        simp [EndsItem, hfirst, afterHyphen?_eq]
      · rename_i empty other
        have away : ¬ EndsItem extended (skipIgnored extended rest) := fun h => by
          obtain ⟨tail, h⟩ := h.1
          exact other tail h.symm
        rw [if_neg away]
        split
        · rename_i tail h
          exact absurd h (other tail)
        · rw [if_neg empty, hfirst]

theorem local_afterFirst? (first : Primitive) : Local none (afterFirst? extended first) := by
  have skip := (local_skipIgnored extended).inner
  have hyphen (first : Primitive) : Local none (afterHyphen? extended first) :=
    skip.andThen (g := fun cs => (classPart? extended cs).bind _)
      (local_classPart?.bind fun last => by dsimp only; exact .value _)
  have item := Local.nonempty first.item?
  refine .choice (fun ht ht' h => ?_) item
    (.head '-' (by decide) (hyphen first) (fun cs h => ?_) item)
  · exact (endsItem_append_iff ht').2 ((endsItem_append_iff ht).1 h)
  · split
    · exact absurd rfl (h _)
    · rfl

theorem local_classItem? : Local none (classItem? extended) :=
  .congr (local_classPart?.bind fun first =>
    (local_skipIgnored extended).inner.andThen (local_afterFirst? first)) (classItem?_eq extended)

theorem length_lt_of_classItem? {item : ClassItem} (h : classItem? extended cs = some (item, r)) :
    r.length < cs.length := by
  rw [classItem?_eq] at h
  obtain ⟨⟨first, rest⟩, hfirst, hrest⟩ := Option.bind_eq_some_iff.1 h
  have drop := skipIgnored_suffix extended rest
  have := (((local_afterFirst? first).reads hrest).suffix.trans drop).length_le
  have := Local.length_lt rfl local_classPart?_cons hfirst
  omega

/-! ### Steps of reading a class -/

/-- What a step of reading a class comes to: the whole class, or the state in which it goes on. -/
abbrev ClassProgress := (Bool × ClassItem) ⊕ (List ClassFrame × List ClassItem)

/-- End a bracket. -/
def closeBracket? (frames : List ClassFrame) (items : List ClassItem) : Option ClassProgress :=
  match completeOperand frames (.ofItems items.reverse) with
  | ([.bracket _ negated], content) => some (.inl (negated, content))
  | (.bracket before negated :: frames, content) =>
    some (.inr (frames, .bracketed negated content :: before))
  | _ => none

/-- Read a bracket inside of a class, after its opening. -/
def innerBracket? (extended : Bool) (frames : List ClassFrame) (items : List ClassItem)
    (cs : List Char) : Option (ClassProgress × List Char) :=
  if (asciiClass? ('[' :: cs)).isSome then
    (asciiClass? ('[' :: cs)).map fun p => (.inr (frames, p.1 :: items), p.2)
  else
    ((openBracket? extended cs).map fun p => ((p.1, p.2.1), p.2.2)).map fun p =>
      (.inr (.bracket items p.1.1 :: frames, p.1.2), p.2)

/-- Read an operator or an item. -/
def operatorOrItem? (extended : Bool) (frames : List ClassFrame) (items : List ClassItem)
    (cs : List Char) : Option (ClassProgress × List Char) :=
  if (classOperation? cs).isSome then
    (classOperation? cs).map fun p =>
      let left := completeOperand frames (.ofItems items.reverse)
      (.inr (.operand p.1 left.2 :: left.1, []), p.2)
  else (classItem? extended cs).map fun p => (.inr (frames, p.1 :: items), p.2)

/-- One step of reading a class, after what is ignored. -/
def classStep? (extended : Bool) (frames : List ClassFrame) (items : List ClassItem) :
    List Char → Option (ClassProgress × List Char)
  | [] => none
  | '[' :: rest => innerBracket? extended frames items rest
  | ']' :: rest => (closeBracket? frames items).map fun p => (p, rest)
  | c :: rest => operatorOrItem? extended frames items (c :: rest)

/-- Go on reading a class, if it goes on. -/
def continueClass? (extended : Bool) (steps : Nat) :
    ClassProgress × List Char → Option (Bool × ClassItem × List Char)
  | (.inl (negated, content), rest) => some (negated, content, rest)
  | (.inr (frames, items), rest) => classSteps? extended steps frames items rest

theorem classSteps?_succ (steps : Nat) (frames : List ClassFrame) (items : List ClassItem)
    (cs : List Char) :
    classSteps? extended (steps + 1) frames items cs =
      (classStep? extended frames items (skipIgnored extended cs)).bind
        (continueClass? extended steps) := by
  rw [classSteps?]
  split
  · rename_i nil
    rw [nil]; rfl
  · rename_i rest cons
    rw [cons, classStep?, innerBracket?]
    cases asciiClass? ('[' :: rest) with
    | some p => rfl
    | none => cases openBracket? extended rest <;> rfl
  · rename_i rest cons
    rw [cons, classStep?, closeBracket?]
    generalize completeOperand frames (.ofItems items.reverse) = p
    obtain ⟨frames, content⟩ := p
    rcases frames with _ | ⟨⟨before, negated⟩ | ⟨operation, left⟩, _ | ⟨frame, frames⟩⟩ <;> rfl
  · rename_i c rest open_ close cons
    rw [cons, classStep?, operatorOrItem?]
    · cases classOperation? (c :: rest) with
      | some p => rfl
      | none => cases classItem? extended (c :: rest) <;> rfl
    · exact open_
    · exact close

theorem local_innerBracket? (extended : Bool) (frames : List ClassFrame) (items : List ClassItem) :
    Local none (innerBracket? extended frames items) := by
  refine .choice (fun {w t t'} ht ht' h => ?_)
    (local_asciiClass?.map fun item => Sum.inr (frames, item :: items))
    (local_openBracket?.map fun p => Sum.inr (.bracket items p.1 :: frames, p.2))
  have named := asciiClass?_append (w := '[' :: w) ht
  have named' := asciiClass?_append (w := '[' :: w) ht'
  rw [List.cons_append] at named named'
  rw [named, Option.isSome_map] at h
  rw [named', Option.isSome_map]
  exact h

theorem local_operatorOrItem? (extended : Bool) (frames : List ClassFrame) (items : List ClassItem) :
    Local none (operatorOrItem? extended frames items) := by
  have operator : Local none classOperation? := .cons rfl local_classOperation?
  refine .choice (fun {w t t'} ht ht' h => ?_)
    (operator.map fun operation =>
      let left := completeOperand frames (.ofItems items.reverse)
      Sum.inr (.operand operation left.2 :: left.1, []))
    (local_classItem?.map fun item => Sum.inr (frames, item :: items))
  rw [classOperation?_append ht, Option.isSome_map] at h
  rw [classOperation?_append ht', Option.isSome_map]
  exact h

theorem local_classStep? (extended : Bool) (frames : List ClassFrame) (items : List ClassItem) :
    Local none (classStep? extended frames items) := by
  refine .heads ['[', ']'] (by decide) ?_ ?_ (local_operatorOrItem? extended frames items)
  · simp only [List.forall_mem_cons, List.not_mem_nil, false_implies, implies_true, and_true]
    exact ⟨local_innerBracket? extended frames items, .value (closeBracket? frames items)⟩
  · intro cs h
    cases cs with
    | nil => rfl
    | cons c cs =>
      rw [classStep?]
      · exact fun hc => h '[' (by simp) cs (by rw [hc])
      · exact fun hc => h ']' (by simp) cs (by rw [hc])

theorem length_lt_of_operatorOrItem? {frames : List ClassFrame} {items : List ClassItem}
    {p : ClassProgress} (h : operatorOrItem? extended frames items cs = some (p, r)) :
    r.length < cs.length := by
  rw [operatorOrItem?] at h
  split at h
  · obtain ⟨⟨operation, rest⟩, found, hr⟩ := Option.map_eq_some_iff.1 h
    obtain ⟨-, rfl⟩ := Prod.mk.inj hr
    exact Local.length_lt (e := none) rfl local_classOperation? found
  · obtain ⟨⟨item, rest⟩, found, hr⟩ := Option.map_eq_some_iff.1 h
    obtain ⟨-, rfl⟩ := Prod.mk.inj hr
    exact length_lt_of_classItem? found

theorem length_lt_of_classStep? {frames : List ClassFrame} {items : List ClassItem}
    {p : ClassProgress} (h : classStep? extended frames items cs = some (p, r)) :
    r.length < cs.length := by
  unfold classStep? at h
  split at h
  · cases h
  · have := ((local_innerBracket? extended frames items).reads h).suffix.length_le
    rw [List.length_cons]
    omega
  · obtain ⟨_, -, hr⟩ := Option.map_eq_some_iff.1 h
    obtain ⟨-, rfl⟩ := Prod.mk.inj hr
    exact Nat.lt_succ_self _
  · exact length_lt_of_operatorOrItem? h

/-- A step that ends a class reads its closing bracket. -/
theorem classStep?_inl {frames : List ClassFrame} {items : List ClassItem} {p : Bool × ClassItem}
    (h : classStep? extended frames items cs = some (.inl p, r)) :
    cs = ']' :: r ∧ closeBracket? frames items = some (.inl p) := by
  unfold classStep? innerBracket? operatorOrItem? at h
  split at h
  · cases h
  · split at h
    all_goals
    · obtain ⟨_, -, h⟩ := Option.map_eq_some_iff.1 h
      exact nomatch (Prod.mk.inj h).1
  · obtain ⟨_, content, hr⟩ := Option.map_eq_some_iff.1 h
    obtain ⟨rfl, rfl⟩ := Prod.mk.inj hr
    exact ⟨rfl, content⟩
  · split at h
    all_goals
    · obtain ⟨_, -, h⟩ := Option.map_eq_some_iff.1 h
      exact nomatch (Prod.mk.inj h).1

/-- A step in front of a tail.  Where it ends a class, the tail may follow at once. -/
theorem reads_classStep? {frames : List ClassFrame} {items : List ClassItem} {p : ClassProgress}
    (h : classStep? extended frames items (skipIgnored extended cs) = some (p, r))
    (he : e = none ∨ ∃ c, p = .inl c) :
    Reads e (fun cs => classStep? extended frames items (skipIgnored extended cs)) cs p r := by
  rcases he with rfl | ⟨c, rfl⟩
  · exact ((local_skipIgnored extended).inner.andThen
      (local_classStep? extended frames items)).reads h
  · obtain ⟨close, content⟩ := classStep?_inl h
    have skip := (local_skipIgnored extended).inner.reads (congrArg (fun r => some ((), r)) close)
    have step : Reads e (classStep? extended frames items) (']' :: r) (.inl c) r :=
      .cons ((Local.value (closeBracket? frames items)).reads (by rw [content]; rfl))
    exact skip.bindWith (g := fun p => classStep? extended frames items p.2) step
      fun _ _ => .inl (Nat.lt_succ_self _)

/-- More steps than characters are as good as any number of steps, and they read a class whatever
follows it. -/
theorem classSteps?_swap {steps : Nat} {frames : List ClassFrame} {items : List ClassItem}
    {negated : Bool} {content : ClassItem}
    (h : classSteps? extended steps frames items cs = some (negated, content, r)) :
    r <:+ cs ∧ r.length < cs.length ∧ ∀ {t t' w w' : List Char}, IsTail t → IsTail t' →
      cs = w ++ t → r = w' ++ t → ∀ {steps' : Nat}, (w ++ t').length < steps' →
      classSteps? extended steps' frames items (w ++ t') = some (negated, content, w' ++ t') := by
  -- by induction on the steps: each leaves fewer characters, so that the other number of steps,
  -- which is greater than theirs, lasts as long
  induction steps generalizing frames items cs with
  | zero => cases h
  | succ steps ih =>
    rw [classSteps?_succ] at h
    obtain ⟨⟨p, left⟩, step, next⟩ := Option.bind_eq_some_iff.1 h
    have drop := skipIgnored_suffix extended cs
    have shorter := length_lt_of_classStep? step
    cases p with
    | inl p =>
      obtain ⟨negated', content'⟩ := p
      obtain ⟨rfl, done⟩ := Prod.mk.inj (Option.some.inj next)
      obtain ⟨rfl, rfl⟩ := Prod.mk.inj done
      have reads := reads_classStep? (e := some false) step (.inr ⟨_, rfl⟩)
      refine ⟨reads.suffix, Nat.lt_of_lt_of_le shorter drop.length_le,
        fun {t t' w w'} ht ht' hcs hr {steps'} hsteps => ?_⟩
      obtain ⟨steps', rfl⟩ := Nat.exists_eq_add_one_of_ne_zero (Nat.ne_zero_of_lt hsteps)
      rw [classSteps?_succ, reads.swap ht ht' hcs hr fun _ => .inl rfl]
      rfl
    | inr p =>
      obtain ⟨frames', items'⟩ := p
      obtain ⟨suffix, lt, swap⟩ := ih next
      have reads := reads_classStep? (e := none) step (.inl rfl)
      refine ⟨suffix.trans reads.suffix, Nat.lt_of_lt_of_le lt reads.suffix.length_le,
        fun {t t' w w'} ht ht' hcs hr {steps'} hsteps => ?_⟩
      obtain ⟨m, rfl, hm, hw⟩ := exists_append_of_suffix (hcs ▸ reads.suffix) (hr ▸ suffix)
      obtain ⟨steps', rfl⟩ := Nat.exists_eq_add_one_of_ne_zero (Nat.ne_zero_of_lt hsteps)
      have step' := reads.swap ht ht' hcs rfl fun hm => by
        rw [hm, hr, List.length_append, List.length_append, List.length_nil] at lt
        omega
      have fewer : (m ++ t').length < (w ++ t').length :=
        Nat.lt_of_lt_of_le (length_lt_of_classStep? step')
          (skipIgnored_suffix extended (w ++ t')).length_le
      rw [classSteps?_succ, step', Option.bind_some, continueClass?]
      exact swap ht ht' rfl hr (by omega)

/-- **A class is read in front of whatever follows it.** -/
theorem local_bracketed? :
    Local e fun cs => (bracketed? extended cs).map fun p => ((p.1, p.2.1), p.2.2) := by
  refine ⟨fun {cs a r} h => ?_⟩
  obtain ⟨⟨negated, content, rest⟩, read, ha⟩ := Option.map_eq_some_iff.1 h
  obtain ⟨rfl, rfl⟩ := Prod.mk.inj ha
  rw [bracketed?] at read
  cases opened : openBracket? extended cs with
  | none => rw [opened] at read; cases read
  | some p =>
    obtain ⟨negated', items, inside⟩ := p
    rw [opened] at read
    obtain ⟨suffix, lt, swap⟩ := classSteps?_swap read
    have reads := local_openBracket?.reads (a := (negated', items)) (r := inside)
      (by rw [opened]; rfl)
    refine ⟨h, suffix.trans reads.suffix, fun {t t' w w'} ht ht' hcs hr _ => ?_⟩
    replace hr : rest = w' ++ t := hr
    obtain ⟨m, rfl, hm, hw⟩ := exists_append_of_suffix (hcs ▸ reads.suffix) (hr ▸ suffix)
    have opened' := reads.swap ht ht' hcs rfl fun hm => by
      rw [hm, hr, List.length_append, List.length_append, List.length_nil] at lt
      omega
    obtain ⟨q, opened', hq⟩ := Option.map_eq_some_iff.1 opened'
    obtain ⟨negated'', items', inside'⟩ := q
    simp only [Prod.mk.injEq] at hq
    obtain ⟨⟨rfl, rfl⟩, rfl⟩ := hq
    simp only [bracketed?, opened', swap ht ht' rfl hr (Nat.lt_succ_self _), Option.map_some]

end GovernedExpr.Reading
