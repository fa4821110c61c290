import Mathlib.Logic.ExistsUnique
import GovernedExpr.Proofs.Lexing.Lexemes

/-!
# Texts as words and blanks

Every text consists of words with blanks between them, and of blanks in front of the first word and
behind the last one.  The words are determined by the text, and each of them becomes one token.

* `Text.Spaced` relates words to the texts in which they stand, with all choices of the blanks;
* `Text.spaced_iff` says that these are the texts that have the words as their lexemes;
* `tokenize_spaced` is the law of tokenization.
-/

namespace GovernedExpr

namespace Text

variable {cs gap word rest text : List Char} {words : List (List Char)} {c : Char}

/-- A run of blanks, which may be empty. -/
def IsGap (cs : List Char) : Prop :=
  ∀ c ∈ cs, isBlank c = true

/-- `Spaced words text` says that the text consists of the words in their order, with at least one
blank between neighbours, and with any blanks in front of the first and behind the last. -/
inductive Spaced : List (List Char) → List Char → Prop
  | blanks {gap : List Char} (isGap : IsGap gap) : Spaced [] gap
  /-- Behind the first word the text ends or goes on with a blank. -/
  | word {before first rest : List Char} {words : List (List Char)} (isGap : IsGap before)
      (isWord : IsWord first) (divided : ∀ c ∈ rest.head?, isBlank c = true)
      (more : Spaced words rest) : Spaced (first :: words) (before ++ (first ++ rest))

/-! ### The lexemes of such a text -/

theorem lexemesOf_cons (cs : List Char) (h : isBlank c = true) :
    lexemesOf (c :: cs) = lexemesOf cs :=
  lexemesOf_append_cons [] cs h

theorem IsGap.lexemesOf_append (h : IsGap gap) (cs : List Char) :
    lexemesOf (gap ++ cs) = lexemesOf cs := by
  induction gap with
  | nil => rfl
  | cons b gap ih =>
    obtain ⟨hb, hgap⟩ := List.forall_mem_cons.1 h
    rw [List.cons_append, lexemesOf_cons _ hb, ih hgap]

theorem IsWord.lexemesOf_append (h : IsWord word) (divided : ∀ c ∈ rest.head?, isBlank c = true) :
    lexemesOf (word ++ rest) = word :: lexemesOf rest := by
  cases rest with
  | nil => rw [List.append_nil, h.lexemesOf_eq, lexemesOf_nil]
  | cons b rest =>
    have hb : isBlank b = true := divided b rfl
    rw [lexemesOf_append_cons _ _ hb, h.lexemesOf_eq, lexemesOf_cons _ hb, List.singleton_append]

theorem Spaced.lexemesOf_eq (h : Spaced words text) : lexemesOf text = words := by
  induction h with
  | blanks isGap => simpa using isGap.lexemesOf_append []
  | word isGap isWord divided _ ih =>
    rw [isGap.lexemesOf_append, isWord.lexemesOf_append divided, ih]

/-! ### Every text is such a text -/

theorem Spaced.first (isWord : IsWord word) (divided : ∀ c ∈ rest.head?, isBlank c = true)
    (more : Spaced words rest) : Spaced (word :: words) (word ++ rest) :=
  @Spaced.word [] word rest words nofun isWord divided more

theorem Spaced.cons_blank (h : Spaced words text) (hc : isBlank c = true) :
    Spaced words (c :: text) := by
  cases h with
  | blanks isGap => exact .blanks (List.forall_mem_cons.2 ⟨hc, isGap⟩)
  | word isGap isWord divided more =>
    exact .word (List.forall_mem_cons.2 ⟨hc, isGap⟩) isWord divided more

/-- A character in front of a text that is not blank is a word, or the first character of one. -/
theorem Spaced.exists_cons (h : Spaced words text) (hc : isBlank c = false) :
    ∃ words', Spaced words' (c :: text) := by
  have isWord : IsWord [c] := ⟨List.cons_ne_nil _ _, List.forall_mem_singleton.2 hc⟩
  cases h with
  | blanks isGap =>
    exact ⟨[[c]], .first isWord (fun b hb => isGap b (List.mem_of_head? hb)) (.blanks isGap)⟩
  | @word before first rest words isGap isFirst divided more =>
    cases before with
    | nil =>
      have longer : IsWord (c :: first) :=
        ⟨List.cons_ne_nil _ _, List.forall_mem_cons.2 ⟨hc, isFirst.not_isBlank⟩⟩
      exact ⟨_, .first longer divided more⟩
    | cons b before =>
      refine ⟨_, .first isWord ?_ (.word isGap isFirst divided more)⟩
      rintro _ ⟨⟩
      exact isGap b List.mem_cons_self

theorem exists_spaced (text : List Char) : ∃ words, Spaced words text := by
  induction text with
  | nil => exact ⟨[], .blanks nofun⟩
  | cons c text ih =>
    obtain ⟨words, h⟩ := ih
    cases hc : isBlank c with
    | true => exact ⟨words, h.cons_blank hc⟩
    | false => exact h.exists_cons hc

/-- **A text consists of its lexemes and blanks, and of no other words.** -/
theorem spaced_iff : Spaced words text ↔ lexemesOf text = words := by
  constructor
  · exact Spaced.lexemesOf_eq
  · rintro rfl
    obtain ⟨words, h⟩ := exists_spaced text
    rwa [h.lexemesOf_eq]

/-- The same of lexemes as texts. -/
theorem spaced_toList_iff {words : List String} {input : String} :
    Spaced (words.map String.toList) input.toList ↔ lexemes input = words := by
  rw [spaced_iff, lexemes]
  constructor
  · intro h
    rw [h, List.map_map]
    simp [Function.comp_def]
  · rintro rfl
    rw [List.map_map]
    simp [Function.comp_def]

end Text

/-! ### Tokens -/

namespace Tokenizer

/-- The tokens of a text, by its lexemes. -/
theorem streamOf_eq (rules : List TokenRule) (refuses : Bool) (input : String) :
    (Tokenizer.mk (.ofRules rules) refuses).streamOf input =
      ⟨(Text.lexemes input).mapIdx fun i word =>
        let c := classify word rules
        ⟨c.kind, word, 1, i + 1, c.priority⟩⟩ := by
  rw [streamOf, TokenStream.ofList, TokenStream.mk.injEq]
  refine List.ext_getElem? fun i => ?_
  rw [List.getElem?_mapIdx, List.getElem?_mapIdx, List.getElem?_map, Option.map_map]
  rfl

end Tokenizer

/-- **The law of tokenization.**  However words are spaced out, each becomes one token on line 1, in
the column of its position, with the kind and the priority that it has on its own; a text without
words has no tokens, and is refused exactly if such texts are.  Every text is spaced out of exactly
one list of words, and bare rules give the tokens that a tokenizer that refuses nothing gives. -/
theorem tokenize_spaced (rules : List TokenRule) :
    (∀ (words : List String) (input : String),
      Text.Spaced (words.map String.toList) input.toList → ∀ refuses : Bool,
        (Tokenizer.mk (.ofRules rules) refuses).tokenize input =
          if words = [] ∧ refuses = true then .error .emptyInput
          else .ok ⟨words.mapIdx fun i word =>
            let c := classify word rules
            ⟨c.kind, word, 1, i + 1, c.priority⟩⟩) ∧
    (∀ input : String, ∃! words : List String,
      Text.Spaced (words.map String.toList) input.toList) ∧
    ∀ input : String, (Tokenizer.ofRules rules).tokenize input = .ok (tokenize input rules) := by
  refine ⟨?_, ?_, fun input => tokenize_ofRules input rules⟩
  · intro words input h refuses
    obtain rfl := Text.spaced_toList_iff.1 h
    have isEmpty : ((Tokenizer.mk (.ofRules rules) refuses).streamOf input).isEmpty = true ↔
        Text.lexemes input = [] := by
      rw [Tokenizer.streamOf_eq, TokenStream.isEmpty, List.isEmpty_iff, List.mapIdx_eq_nil_iff]
    rw [Tokenizer.tokenize]
    simp only [Bool.and_eq_true, isEmpty]
    rw [Tokenizer.streamOf_eq]
  · intro input
    exact ⟨_, Text.spaced_toList_iff.2 rfl, fun words h => (Text.spaced_toList_iff.1 h).symm⟩

/-- Wide blanks and tabulators around two words; what only looks like a blank belongs to a word. -/
theorem tokenize_spaced_wide :
    let rules : List TokenRule := [⟨"[a-z][0-9]", .identifier, 5⟩, ⟨"[0-9]", .number, 7⟩]
    let input := "\u2003x1\u00a0\t @\u200b\u0085"
    Text.Spaced (["x1", "@\u200b"].map String.toList) input.toList ∧
      (Tokenizer.mk (.ofRules rules) true).tokenize input =
        .ok ⟨[⟨.identifier, "x1", 1, 1, 5⟩, ⟨.unknown, "@\u200b", 1, 2, 0⟩]⟩ := by
  intro rules input
  have spaced : Text.Spaced (["x1", "@\u200b"].map String.toList) input.toList :=
    Text.spaced_iff.2 (by decide)
  refine ⟨spaced, ?_⟩
  rw [(tokenize_spaced rules).1 _ _ spaced true, if_neg (by decide)]
  exact congrArg Except.ok (by decide +kernel)

end GovernedExpr
