import GovernedExpr.Lexing.Tokenizer

/-!
# Words and the lexemes of a text

A word is a non-empty run of characters that are not blank.  The lexemes of a text are words, and
words that are written with a blank between them are its lexemes.

* `Text.IsWord` says what a word is;
* `Text.lexemesOf_append_cons` says that a blank divides the lexemes of a text;
* `Text.lexemes_intercalate` says that words joined by single spaces are cut into the same words;
* `Tokenizer.streamOf_intercalate_take` says that the first tokens of a text are the tokens of the
  first lexemes, and `Tokenizer.tokenize_eq_ok_iff` which texts have tokens at all.
-/

namespace GovernedExpr

namespace Text

variable {cs ds word : List Char} {b : Char}

/-- A non-empty run of characters that are not blank. -/
structure IsWord (word : List Char) : Prop where
  ne_nil : word ≠ []
  not_isBlank : ∀ c ∈ word, isBlank c = false

/-! ### Cutting at blanks -/

theorem lexemesOf_append_cons (cs ds : List Char) (h : isBlank b = true) :
    lexemesOf (cs ++ b :: ds) = lexemesOf cs ++ lexemesOf ds := by
  simp only [lexemesOf, List.splitOnP_append_cons cs ds h, List.filter_append]

theorem IsWord.lexemesOf_eq (h : IsWord word) : lexemesOf word = [word] := by
  rw [lexemesOf, List.splitOnP_eq_singleton h.not_isBlank]
  simp [h.ne_nil]

theorem not_isBlank_of_mem_splitOnP (h : word ∈ cs.splitOnP isBlank) :
    ∀ c ∈ word, isBlank c = false := by
  induction cs generalizing word with
  | nil => simp_all
  | cons c cs ih =>
    obtain ⟨run, runs, hruns⟩ := List.exists_cons_of_ne_nil (List.splitOnP_ne_nil isBlank cs)
    rw [hruns] at ih
    rw [List.splitOnP_cons_eq_if_modifyHead, hruns] at h
    cases hc : isBlank c with
    | true =>
      rw [hc, if_pos rfl] at h
      obtain rfl | h := List.mem_cons.1 h
      · simp
      · exact ih h
    | false =>
      rw [hc, if_neg Bool.false_ne_true, List.modifyHead_cons] at h
      obtain rfl | h := List.mem_cons.1 h
      · rintro d (_ | ⟨_, hd⟩)
        · exact hc
        · exact ih List.mem_cons_self d hd
      · exact ih (List.mem_cons_of_mem run h)

/-- The lexemes of a text are words. -/
theorem isWord_of_mem_lexemesOf (h : word ∈ lexemesOf cs) : IsWord word := by
  obtain ⟨hword, ne_nil⟩ := List.mem_filter.1 h
  exact ⟨by simpa using ne_nil, not_isBlank_of_mem_splitOnP hword⟩

/-- Words with a blank between them are cut at that blank. -/
theorem lexemesOf_intercalate (h : isBlank b = true) {words : List (List Char)}
    (isWord : ∀ word ∈ words, IsWord word) : lexemesOf ([b].intercalate words) = words := by
  induction words with
  | nil => rfl
  | cons word words ih =>
    have first := (isWord word List.mem_cons_self).lexemesOf_eq
    cases words with
    | nil => rw [List.intercalate_singleton, first]
    | cons next words =>
      rw [List.intercalate_cons_cons, List.append_assoc, List.singleton_append,
        lexemesOf_append_cons _ _ h, first,
        ih fun w hw => isWord w (List.mem_cons_of_mem word hw), List.singleton_append]

theorem lexemes_intercalate {words : List String} (isWord : ∀ word ∈ words, IsWord word.toList) :
    lexemes (" ".intercalate words) = words := by
  have separated : lexemesOf ([' '].intercalate (words.map String.toList)) =
      words.map String.toList := by
    refine lexemesOf_intercalate (by decide) fun chars hchars => ?_
    obtain ⟨word, hword, rfl⟩ := List.mem_map.1 hchars
    exact isWord word hword
  rw [lexemes, String.toList_intercalate, show " ".toList = [' '] from rfl, separated, List.map_map]
  simp [Function.comp_def]

theorem isWord_of_mem_lexemes {source word : String} (h : word ∈ lexemes source) :
    IsWord word.toList := by
  obtain ⟨chars, hchars, rfl⟩ := List.mem_map.1 h
  simpa using isWord_of_mem_lexemesOf hchars

end Text

/-! ### Tokens of the first lexemes -/

namespace TokenStream

theorem values_ofList (ts : List Token) : (ofList ts).values = ts.map Token.value := by
  refine List.ext_getElem? fun i => ?_
  rw [values, ofList, List.getElem?_map, List.getElem?_map, List.getElem?_mapIdx, Option.map_map]
  rfl

/-- The place of a token does not depend on the tokens behind it. -/
theorem ofList_take (ts : List Token) (k : Nat) :
    ofList (ts.take k) = ⟨(ofList ts).tokens.take k⟩ := by
  simp only [ofList, TokenStream.mk.injEq]
  refine List.ext_getElem? fun i => ?_
  rw [List.getElem?_mapIdx, List.getElem?_take, List.getElem?_take, List.getElem?_mapIdx]
  split <;> rfl

end TokenStream

namespace Tokenizer

variable (t : Tokenizer) (source : String)

theorem values_streamOf : (t.streamOf source).values = Text.lexemes source := by
  rw [streamOf, TokenStream.values_ofList, List.map_map]
  exact List.map_id _

/-- **The first tokens of a text are the tokens of its first lexemes**, joined by single spaces. -/
theorem streamOf_intercalate_take (k : Nat) :
    t.streamOf (" ".intercalate ((t.streamOf source).values.take k)) =
      ⟨(t.streamOf source).tokens.take k⟩ := by
  have words : ∀ word ∈ (Text.lexemes source).take k, Text.IsWord word.toList :=
    fun word hword => Text.isWord_of_mem_lexemes (List.mem_of_mem_take hword)
  rw [values_streamOf, streamOf, Text.lexemes_intercalate words, List.map_take,
    TokenStream.ofList_take]
  rfl

/-- A text has tokens unless it has no lexemes and such texts are refused. -/
theorem tokenize_eq_ok_iff {t : Tokenizer} {source : String} {stream : TokenStream} :
    t.tokenize source = .ok stream ↔
      t.streamOf source = stream ∧ (stream.isEmpty = true → t.rejectEmptyInput = false) := by
  unfold tokenize
  dsimp only
  split
  next refused =>
    obtain ⟨isEmpty, rejects⟩ := (Bool.and_eq_true _ _).mp refused
    constructor
    · rintro ⟨⟩
    · rintro ⟨rfl, accepts⟩
      exact absurd rejects (Bool.eq_false_iff.1 (accepts isEmpty))
  next accepted =>
    constructor
    · rintro ⟨⟩
      exact ⟨rfl, fun isEmpty => by simpa [isEmpty] using accepted⟩
    · rintro ⟨rfl, -⟩
      rfl

end Tokenizer

end GovernedExpr
