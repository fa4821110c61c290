import GovernedExpr.Proofs.Pattern.Local

/-!
# Small parts in front of a tail

The readers of the small parts of patterns are local: counted repetitions, switches and escapes.

* `local_bounded?` and `local_flagsFrom?` say so of repetitions and switches;
* `local_escape?` says so of all escapes but one, and `reads_primitive?` of the characters and the
  escapes outside of brackets;
* `wordEdge?_swap` is what holds of the escape that is left: a brace after it opens a name if a letter
  follows, so that the tail matters where it follows the brace.
-/

namespace GovernedExpr.Reading

open Text

variable {t t' w w' cs r : List Char} {e : Option Bool} {extended : Bool}

/-! ### Counts and switches -/

theorem local_count? : Local (some extended) (count? extended) := by
  have form (cs : List Char) : count? extended cs =
      (some ((), cs.dropWhile isBlank)).bind fun p =>
        (some (runOf extended (fun c => '0' ≤ c && c ≤ '9') p.2)).bind fun p =>
          (some (runOf extended isBlank p.2)).bind fun q =>
            ((natural? p.1).filter (· ≤ greatestCount)).map fun n => (n, q.2) := by
    simp only [count?, Option.bind_some]
    cases natural? (runOf extended _ (cs.dropWhile isBlank)).1 with
    | none => rfl
    | some n => by_cases hn : n ≤ greatestCount <;> simp [hn, Option.filter]
  refine .congr ?_ form
  refine .bind (local_dropWhile isBlank (by decide)) fun _ => ?_
  refine .bind (local_runOf _ (by decide)) fun digits => ?_
  dsimp only
  exact .bind (local_runOf _ (by decide)) fun _ => .value _

/-- The upper bound of a counted repetition, and the brace after it. -/
def upperBound? (extended : Bool) (least : Nat) (cs : List Char) :
    Option ((Nat × Option Nat) × List Char) :=
  (count? extended cs).bind fun p =>
    match p.2 with
    | '\x7d' :: rest =>
      if least ≤ p.1 then some ((least, some p.1), skipIgnored extended rest) else none
    | _ => none

/-- What follows the comma in the bounds of a counted repetition. -/
def afterComma? (extended : Bool) (least : Nat) (cs : List Char) :
    Option ((Nat × Option Nat) × List Char) :=
  match cs with
  | '\x7d' :: rest => some ((least, none), skipIgnored extended rest)
  | rest => upperBound? extended least rest

theorem local_bounded? : Local (some extended) (bounded? extended) := by
  have skip := local_skipIgnored extended
  have finish (bounds : Nat × Option Nat) :
      Local (some extended) fun cs => some (bounds, skipIgnored extended cs) :=
    skip.map fun _ => bounds
  have most (least : Nat) : Local (some extended) (upperBound? extended least) := by
    refine local_count?.bind fun most => .head '\x7d' (by decide) ?_ (fun cs h => ?_) .fail
    · by_cases h : least ≤ most
      · simpa only [if_pos h] using finish (least, some most)
      · simpa only [if_neg h] using .fail
    · dsimp only
      split
      · exact absurd rfl (h _)
      · rfl
  have comma (least : Nat) : Local (some extended) (afterComma? extended least) := by
    refine .head '\x7d' (by decide) (finish (least, none)) (fun cs h => ?_) (most least)
    rw [afterComma?.eq_2]
    exact h
  refine skip.andThen (g := fun cs => (count? extended cs).bind _)
    (local_count?.bind fun least => .heads ['\x7d', ','] (by decide) ?_ ?_ .fail)
  · simp only [List.forall_mem_cons, List.not_mem_nil, false_implies, implies_true, and_true]
    exact ⟨finish (least, some least), skip.andThen (comma least)⟩
  · intro cs h
    dsimp only
    split
    · exact absurd rfl (h '\x7d' (by simp) _)
    · exact absurd rfl (h ',' (by simp) _)
    · rfl

/-- The switches up to the character that ends them. -/
theorem local_flagsFrom? (change : FlagChange) (negated dangling : Bool) :
    Local e fun cs => (flagsFrom? change negated dangling cs).map fun p => ((p.1, p.2.1), p.2.2) := by
  refine ⟨fun {cs a r} h => ?_⟩
  induction cs generalizing change negated dangling with
  | nil => cases h
  | cons c cs ih =>
    refine .cons ?_
    simp only [flagsFrom?] at h ⊢
    by_cases ending : c = ':' ∨ c = ')'
    · simp only [if_pos ending] at h ⊢
      cases dangling with
      | true => cases h
      | false => exact (Local.pure (change, c)).reads h
    · by_cases minus : c = '-'
      · simp only [if_neg ending, if_pos minus] at h ⊢
        cases negated with
        | true => cases h
        | false => exact ih _ _ _ h
      · simp only [if_neg ending, if_neg minus] at h ⊢
        cases letter : Flag.ofChar? c with
        | none => simp [letter] at h
        | some flag =>
          simp only [letter] at h ⊢
          cases named : change.on.contains flag || change.off.contains flag <;>
            simp only [named, if_true, if_false, Bool.false_eq_true] at h ⊢
          · cases negated <;> exact ih _ _ _ h
          · cases h

/-! ### Escapes -/

theorem local_hexDigits? (count : Nat) (seen : List Char) :
    Local (some extended) (hexDigits? extended count seen) := by
  induction count generalizing seen with
  | zero => exact .value (charOfHex? seen.reverse)
  | succ n ih =>
    refine .cons rfl fun c => ?_
    simp only [hexDigits?]
    cases isHexDigit c with
    | false => exact .fail
    | true => exact (local_skipIgnored extended).andThen (ih (c :: seen))

/-- The hexadecimal digits of a character, and the brace after them. -/
def hexInBraces? (extended : Bool) (cs : List Char) : Option (Literal × List Char) :=
  (some (runOf extended isHexDigit cs)).bind fun p =>
    match p.2 with
    | '\x7d' :: rest =>
      if p.1.isEmpty then none
      else (charOfHex? p.1).map fun c => (⟨c, false⟩, skipIgnored extended rest)
    | _ => none

/-- What follows the letter of a character that is given by hexadecimal digits. -/
def afterHexLetter? (extended : Bool) (letter : Char) (cs : List Char) :
    Option (Literal × List Char) :=
  match cs with
  | '\x7b' :: rest => hexInBraces? extended (skipIgnored extended rest)
  | rest =>
    let count := if letter = 'x' then 2 else if letter = 'u' then 4 else 8
    (hexDigits? extended count [] rest).map fun p => (⟨p.1, letter = 'x'⟩, p.2)

theorem local_hexInBraces? : Local (some extended) (hexInBraces? extended) := by
  have finish (digits : List Char) : Local (some extended) fun cs =>
      if digits.isEmpty then none
      else (charOfHex? digits).map fun c => ((⟨c, false⟩ : Literal), skipIgnored extended cs) := by
    cases digits.isEmpty with
    | true => exact .fail
    | false =>
      cases charOfHex? digits with
      | none => exact .fail
      | some c => exact (local_skipIgnored extended).map fun _ => (⟨c, false⟩ : Literal)
  refine (local_runOf _ (by decide)).bind fun digits =>
    .head '\x7d' (by decide) (finish digits) (fun cs h => ?_) .fail
  dsimp only
  split
  · exact absurd rfl (h _)
  · rfl

theorem local_hexEscape? (letter : Char) :
    Local (some extended) (hexEscape? extended letter) := by
  have skip := local_skipIgnored extended
  have after : Local (some extended) (afterHexLetter? extended letter) := by
    have digits (count : Nat) : Local (some extended) _ :=
      (local_hexDigits? count []).map fun c => (⟨c, letter = 'x'⟩ : Literal)
    refine .head '\x7b' (by decide) (skip.andThen local_hexInBraces?) (fun cs h => ?_)
      (digits (if letter = 'x' then 2 else if letter = 'u' then 4 else 8))
    rw [afterHexLetter?.eq_2]
    exact h
  exact .congr (skip.andThen after) fun cs => rfl

/-- The class that the content of braces names. -/
def propertyOf (negated : Bool) (content : List Char) : Primitive :=
  match cutAt? ['!', '='] content with
  | some (name, value) => .named (!negated) (.propertyValue name value)
  | none =>
    match cutAt? [':'] content with
    | some (name, value) => .named negated (.propertyValue name value)
    | none =>
      match cutAt? ['='] content with
      | some (name, value) => .named negated (.propertyValue name value)
      | none => .named negated (.property content)

/-- A class by the content of its braces, if the closing brace follows. -/
def afterProperty? (negated : Bool) : List Char × List Char → Option (Primitive × List Char)
  | (content, '\x7d' :: rest) => some (propertyOf negated content, rest)
  | _ => none

/-- What follows the letter of a class that is given by a property. -/
def afterPropertyLetter? (extended negated : Bool) : List Char → Option (Primitive × List Char)
  | [] => none
  | '\x7b' :: rest =>
    afterProperty? negated (runOf extended (fun c => c ≠ '\x7d') (skipIgnored extended rest))
  | c :: rest =>
    if c = '\\' then none
    else some (.named negated (.property [c]), skipIgnored extended rest)

theorem propertyEscape?_eq (extended negated : Bool) (cs : List Char) :
    propertyEscape? extended negated cs =
      afterPropertyLetter? extended negated (skipIgnored extended cs) := by
  rw [propertyEscape?]
  split
  · rename_i nil
    rw [nil, afterPropertyLetter?]
  · rename_i rest cons
    rw [cons, afterPropertyLetter?]
    generalize runOf extended _ (skipIgnored extended rest) = p
    obtain ⟨content, after⟩ := p
    dsimp only
    split
    · rw [afterProperty?, propertyOf]
      cases cutAt? ['!', '='] content with
      | some p => rfl
      | none =>
        cases cutAt? [':'] content with
        | some p => rfl
        | none => cases cutAt? ['='] content <;> rfl
    · rename_i other
      rw [afterProperty?]
      exact fun _ _ h => other _ (Prod.mk.inj h).2
  · rename_i c rest other cons
    rw [cons, afterPropertyLetter?]
    exact other

theorem local_propertyEscape? (negated : Bool) :
    Local (some extended) (propertyEscape? extended negated) := by
  have skip := local_skipIgnored extended
  have content : Local (some extended) fun cs =>
      (some (runOf extended (fun c => c ≠ '\x7d') cs)).bind (afterProperty? negated) := by
    refine (local_runOf_inner _).bindCons (fun content c => ?_) fun content => rfl
    by_cases brace : c = '\x7d'
    · exact brace ▸ .pure (propertyOf negated content)
    · refine .congr .fail fun cs => ?_
      rw [afterProperty?]
      exact fun _ _ h => brace (List.cons.inj (Prod.mk.inj h).2).1
  have after : Local (some extended) (afterPropertyLetter? extended negated) := by
    refine .cons rfl fun c => ?_
    by_cases brace : c = '\x7b'
    · exact brace ▸ skip.andThen content
    · have form (cs : List Char) : afterPropertyLetter? extended negated (c :: cs) =
          if c = '\\' then none
          else some (.named negated (.property [c]), skipIgnored extended cs) := by
        rw [afterPropertyLetter?]
        exact brace
      refine .congr ?_ form
      by_cases h : c = '\\'
      · simpa only [if_pos h] using .fail
      · simp only [if_neg h]
        exact skip.map fun _ => Primitive.named negated (.property [c])
  exact .congr (skip.andThen after) (propertyEscape?_eq extended negated)

/-- Whether a character may stand in the name of a condition on words. -/
def isEdgeNameChar (c : Char) : Bool :=
  c.isAlpha || c = '-'

/-- The name of a condition on words, and the brace after it. -/
def edgeName? (extended : Bool) (cs : List Char) : Option (WordEdge × List Char) :=
  (some (runOf extended isEdgeNameChar cs)).bind fun p =>
    match p.2 with
    | '\x7d' :: rest => (wordEdgeNamed? p.1).map fun edge => (edge, rest)
    | _ => none

theorem local_edgeName? : Local (some extended) (edgeName? extended) := by
  refine (local_runOf _ (by decide)).bind fun name =>
    .head '\x7d' (by decide) (.value (wordEdgeNamed? name)) (fun cs h => ?_) .fail
  · dsimp only
    split
    · exact absurd rfl (h _)
    · rfl

theorem wordEdge?_brace (extended : Bool) (cs : List Char) :
    wordEdge? extended ('\x7b' :: cs) =
      match skipIgnored extended cs with
      | [] => none
      | c :: tail =>
        if isEdgeNameChar c then edgeName? extended (c :: tail)
        else some (.boundary, '\x7b' :: cs) := by
  simp only [wordEdge?, isEdgeNameChar, edgeName?, Option.bind_some]
  rfl

theorem wordEdge?_of_ne (h : ∀ rest, cs ≠ '\x7b' :: rest) :
    wordEdge? extended cs = some (.boundary, cs) := by
  rw [wordEdge?]
  exact h

theorem IsTail.ne_cons {c : Char} (ht : IsTail t) (hc : c ≠ ')') (rest : List Char) : t ≠ c :: rest :=
  fun h => hc (ht c (h ▸ rfl))

theorem wordEdge?_suffix {edge : WordEdge} (h : wordEdge? extended cs = some (edge, r)) : r <:+ cs := by
  by_cases brace : ∃ rest, cs = '\x7b' :: rest
  · obtain ⟨rest, rfl⟩ := brace
    rw [wordEdge?_brace] at h
    split at h
    · cases h
    · rename_i c tail skipped
      split at h
      · have drop := skipIgnored_suffix extended rest
        rw [skipped] at drop
        exact ((local_edgeName?.reads h).suffix.trans drop).trans (List.suffix_cons _ _)
      · exact (Prod.mk.inj (Option.some.inj h)).2 ▸ List.suffix_refl _
  · rw [wordEdge?_of_ne (not_exists.1 brace)] at h
    exact (Prod.mk.inj (Option.some.inj h)).2 ▸ List.suffix_refl _

/-- A brace after a condition on words opens a name if a letter follows.  So the condition depends
on the tail where the tail follows such a brace. -/
theorem wordEdge?_swap {edge : WordEdge} (ht : IsTail t) (ht' : IsTail t')
    (h : wordEdge? extended (w ++ t) = some (edge, w' ++ t))
    (mayEnd : w' = [] → MayEnd (some extended) t w)
    (follows : t ≠ [] → ∀ b, w' = '\x7b' :: b → ∃ c m, skipIgnored extended (b ++ t) = c :: m ++ t) :
    wordEdge? extended (w ++ t') = some (edge, w' ++ t') := by
  by_cases brace : ∃ b, w = '\x7b' :: b
  · obtain ⟨b, rfl⟩ := brace
    rw [List.cons_append, wordEdge?_brace] at h ⊢
    split at h
    · cases h
    · rename_i c tail skipped
      by_cases name : isEdgeNameChar c
      · rw [if_pos name] at h
        have named := local_edgeName?.reads h
        obtain ⟨m, hm, hmb, -⟩ := exists_append_of_suffix
          (skipped ▸ skipIgnored_suffix extended (b ++ t)) named.suffix
        cases m with
        | nil => exact absurd hm.symm (ht.ne_cons (fun hc => by simp [hc, isEdgeNameChar] at name) _)
        | cons d m =>
          have swapped := skipIgnored_swap ht ht' (skipped.trans hm) (by simp)
          obtain ⟨rfl, -⟩ := List.cons.inj hm
          rw [swapped, List.cons_append]
          dsimp only
          rw [if_pos name]
          exact named.swap ht ht' hm rfl fun hw =>
            (mayEnd hw).of_suffix (hmb.trans (List.suffix_cons _ _))
      · rw [if_neg name] at h
        obtain ⟨rfl, hw⟩ := Prod.mk.inj (Option.some.inj h)
        rw [← List.cons_append, List.append_left_inj] at hw
        subst hw
        obtain ⟨d, m, hm⟩ : ∃ d m, skipIgnored extended (b ++ t) = d :: m ++ t := by
          by_cases end_ : t = []
          · exact ⟨c, tail, by rw [skipped, end_, List.append_nil]⟩
          · exact follows end_ b rfl
        have swapped := skipIgnored_swap ht ht' hm (by simp)
        obtain ⟨rfl, rfl⟩ := List.cons.inj (skipped.symm.trans hm)
        rw [swapped, List.cons_append]
        dsimp only
        rw [if_neg name]
        rfl
  · have plain {t : List Char} (ht : IsTail t) (rest) : w ++ t ≠ '\x7b' :: rest := by
      cases w with
      | nil => exact ht.ne_cons (by decide) rest
      | cons d w => exact fun h => brace ⟨w, by rw [(List.cons.inj h).1]⟩
    rw [wordEdge?_of_ne (plain ht)] at h
    obtain ⟨rfl, hw⟩ := Prod.mk.inj (Option.some.inj h)
    rw [wordEdge?_of_ne (plain ht'), List.append_cancel_right hw]

/-- Most escapes consist of a single character. -/
theorem escape?_single {c : Char} (hc : c ∉ ['x', 'u', 'U', 'p', 'P', 'b']) (cs : List Char) :
    escape? extended (c :: cs) =
      ((escape? extended [c]).map Prod.fst).map fun a => (a, cs) := by
  simp only [List.mem_cons, List.not_mem_nil, or_false, not_or] at hc
  simp only [escape?]
  split
  all_goals try first | rfl | simp at hc
  split
  · rfl
  · rw [Option.map_map, Option.map_map]
    rfl

theorem local_escape? {c : Char} (hc : c ≠ 'b') :
    Local (some extended) fun cs => escape? extended (c :: cs) := by
  by_cases known : c ∈ ['x', 'u', 'U', 'p', 'P']
  · simp only [List.mem_cons, List.not_mem_nil, or_false] at known
    rcases known with rfl | rfl | rfl | rfl | rfl
    · exact (local_hexEscape? 'x').map Primitive.literal
    · exact (local_hexEscape? 'u').map Primitive.literal
    · exact (local_hexEscape? 'U').map Primitive.literal
    · exact local_propertyEscape? false
    · exact local_propertyEscape? true
  · refine .congr (.value _) (escape?_single ?_)
    simpa [hc] using known

theorem primitive?_single {c : Char} (hc : c ≠ '\\') (cs : List Char) :
    primitive? extended (c :: cs) =
      ((primitive? extended [c]).map Prod.fst).map fun a => (a, cs) := by
  by_cases special : c = '.' ∨ c = '^' ∨ c = '$'
  · rcases special with rfl | rfl | rfl <;> rfl
  · simp only [not_or] at special
    have plain (cs : List Char) : primitive? extended (c :: cs) = some (.literal ⟨c, false⟩, cs) := by
      rw [primitive?]
      all_goals simp [hc, special]
    rw [plain, plain]
    rfl

/-- A single character or an escape, unless it is a condition on words that may have a name. -/
theorem reads_primitive? {a : Primitive} (h : primitive? extended cs = some (a, r))
    (hb : ¬ ['\\', 'b'] <+: cs) : Reads (some extended) (primitive? extended) cs a r := by
  cases cs with
  | nil => cases h
  | cons c cs =>
    refine .cons ?_
    by_cases escape : c = '\\'
    · subst escape
      cases cs with
      | nil => cases h
      | cons c cs =>
        have hc : c ≠ 'b' := by
          rintro rfl
          exact hb ⟨cs, rfl⟩
        exact .cons ((local_escape? hc).reads h)
    · have single : Local (some extended) fun cs => primitive? extended (c :: cs) :=
        .congr (.value _) (primitive?_single escape)
      exact single.reads h

end GovernedExpr.Reading
