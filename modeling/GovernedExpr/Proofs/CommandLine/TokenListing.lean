import GovernedExpr.Proofs.Lexing.Spacing
import GovernedExpr.Proofs.Pipeline.Stages
import GovernedExpr.Proofs.Text.Decimal
import GovernedExpr.Proofs.Text.Lines

/-!
# The listing of tokens

A token is listed as a line of four fields: its column, its kind, its value and its priority.  The
value is a word and holds neither a space nor a line break, whatever the rules are; so the listing can
be cut into its fields again, and these give the tokens back.

* `Token.fields` are the four fields, `Token.ofFields?` reads them;
* `GovernanceStore.mem_tokens_of_tokenize` says what the tokens of a text have in common;
* `tokenListing_lossless` says that a listing tells which tokens are listed.
-/

namespace GovernedExpr

open CommandLine (Command linesText tokenLine tokenListing)
open Text

namespace Token

/-- What is listed of a token: its column, its kind, its value and its priority. -/
def fields (t : Token) : List String :=
  [toString t.column, t.kind.name, t.value, toString t.priority]

/-- The token on line 1 with four fields. -/
def ofFields? : List String → Option Token
  | [column, kind, value, priority] => do
    let column ← natural? column.toList
    let kind ← TokenKind.ofName? kind
    let priority ← integer? priority.toList
    return ⟨kind, value, 1, column, priority⟩
  | _ => none

theorem ofFields?_fields {t : Token} (h : t.line = 1) : ofFields? t.fields = some t := by
  obtain ⟨kind, value, line, column, priority⟩ := t
  obtain rfl : line = 1 := h
  simp only [ofFields?, fields, Nat.toString_eq_repr, Int.toString_eq_repr, natural?_repr,
    TokenKind.ofName?_name, integer?_repr]
  rfl

end Token

/-! ### Fields hold no spaces -/

namespace Text.IsField

theorem of_isWord {word : String} (h : IsWord word.toList) : IsField word := by
  refine of_forall_mem fun c hc => ?_
  have notBlank : isBlank c = false := h.not_isBlank c hc
  constructor <;> rintro rfl <;> exact absurd notBlank (by decide)

theorem name (k : TokenKind) : IsField k.name := by
  cases k <;> exact ⟨by decide, by decide⟩

theorem integer (i : Int) : IsField (toString i) := by
  refine of_forall_mem fun c hc => ?_
  rcases mem_repr_int hc with rfl | digit
  · decide
  · constructor <;> rintro rfl <;> exact absurd digit (by decide)

theorem natural (n : Nat) : IsField (toString n) :=
  integer n

/-- The fields of a token are fields if its value is a word. -/
theorem of_mem_fields {t : Token} (h : IsWord t.value.toList) {field : String}
    (hfield : field ∈ t.fields) : IsField field := by
  simp only [Token.fields, List.mem_cons, List.not_mem_nil, or_false] at hfield
  rcases hfield with rfl | rfl | rfl | rfl
  · exact natural t.column
  · exact name t.kind
  · exact of_isWord h
  · exact integer t.priority

end Text.IsField

/-! ### Listings -/

/-- The tokens of a text stand for words, and are on line 1. -/
theorem GovernanceStore.mem_tokens_of_tokenize {s : GovernanceStore} {source : String}
    {stream : TokenStream} {t : Token} (h : s.tokenize source = .ok stream)
    (ht : t ∈ stream.tokens) : IsWord t.value.toList ∧ t.line = 1 := by
  obtain ⟨lexing, -, rfl, -⟩ := tokenize_eq_ok_iff.1 h
  rw [Tokenizer.ofSettings, Tokenizer.streamOf_eq] at ht
  obtain ⟨i, lt, rfl⟩ := List.mem_mapIdx.1 ht
  exact ⟨isWord_of_mem_lexemes (List.getElem_mem lt), rfl⟩

/-- A listing of tokens that stand for words is cut into the fields of the tokens. -/
theorem fieldsOf_tokenListing {tokens : List Token} (h : ∀ t ∈ tokens, IsWord t.value.toList) :
    fieldsOf (tokenListing tokens) = tokens.map Token.fields ++ [[""]] := by
  have rows : tokens.map tokenLine = (tokens.map Token.fields).map " ".intercalate := by
    rw [List.map_map]
    rfl
  rw [tokenListing, rows]
  refine fieldsOf_linesText (fun row hrow => ?_) fun row hrow field hfield => ?_
  · obtain ⟨t, -, rfl⟩ := List.mem_map.1 hrow
    exact List.cons_ne_nil _ _
  · obtain ⟨t, ht, rfl⟩ := List.mem_map.1 hrow
    exact IsField.of_mem_fields (h t ht) hfield

/-- Fields of tokens on line 1 give the tokens back. -/
theorem mapM_ofFields?_fields {tokens : List Token} (h : ∀ t ∈ tokens, t.line = 1) :
    (tokens.map Token.fields).mapM Token.ofFields? = some tokens := by
  induction tokens with
  | nil => rfl
  | cons t tokens ih =>
    obtain ⟨first, others⟩ := List.forall_mem_cons.1 h
    simp [Token.ofFields?_fields first, ih others]

variable {s s' : GovernanceStore} {source source' : String} {stream stream' : TokenStream}

/-- The tokens can be read off their listing. -/
theorem mapM_fieldsOf_tokenListing (h : s.tokenize source = .ok stream) :
    (fieldsOf (tokenListing stream.tokens)).dropLast.mapM Token.ofFields? = some stream.tokens := by
  have members := fun t (ht : t ∈ stream.tokens) => GovernanceStore.mem_tokens_of_tokenize h ht
  rw [fieldsOf_tokenListing fun t ht => (members t ht).1, List.dropLast_concat]
  exact mapM_ofFields?_fields fun t ht => (members t ht).2

/-- Equal listings list equal tokens. -/
theorem eq_of_tokenListing_eq (h : s.tokenize source = .ok stream)
    (h' : s'.tokenize source' = .ok stream')
    (same : tokenListing stream'.tokens = tokenListing stream.tokens) : stream' = stream := by
  have read := mapM_fieldsOf_tokenListing h'
  rw [same, mapM_fieldsOf_tokenListing h] at read
  exact congrArg TokenStream.mk (Option.some.inj read).symm

/-- **The listing of tokens loses nothing.**  If a text has tokens under a governance, then they are
listed.  The listing, cut at line breaks and each line at single spaces, consists of four fields for
each token, the column, the kind, the value and the priority, and the tokens are read off these fields;
so two such listings are equal if and only if the tokens are. -/
theorem tokenListing_lossless (h : s.tokenize source = .ok stream) (directory : Option String) :
    ∃ text, (Command.tokens source directory).performWith s = .ok text ∧
      fieldsOf text = (stream.tokens.map fun t =>
        [toString t.column, t.kind.name, t.value, toString t.priority]) ++ [[""]] ∧
      (fieldsOf text).dropLast.mapM Token.ofFields? = some stream.tokens ∧
      ∀ (s' : GovernanceStore) (source' : String) (directory' : Option String)
        (stream' : TokenStream), s'.tokenize source' = .ok stream' →
        ((Command.tokens source' directory').performWith s' = .ok text ↔ stream' = stream) := by
  have printed : ∀ {s : GovernanceStore} {source : String} {stream : TokenStream}
      (directory : Option String), s.tokenize source = .ok stream →
      (Command.tokens source directory).performWith s = .ok (tokenListing stream.tokens) := by
    intro s source stream directory h
    rw [Command.performWith, h]
    rfl
  refine ⟨tokenListing stream.tokens, printed directory h,
    fieldsOf_tokenListing fun t ht => (GovernanceStore.mem_tokens_of_tokenize h ht).1,
    mapM_fieldsOf_tokenListing h, fun s' source' directory' stream' h' => ?_⟩
  rw [printed directory' h', Except.ok.injEq]
  constructor
  · exact eq_of_tokenListing_eq h h'
  · rintro rfl
    rfl

/-- Two tokens, one of negative priority and one without a rule, between wide blanks. -/
theorem tokenListing_lossless_negative :
    let record := ((StageRecord.new .tokenizer "TOKENIZER" "LEXICAL_ANALYSIS").add tokenPatterns
      "OPERATOR_PATTERN" "[-+]").add tokenPatterns "OPERATOR_PRIORITY" "-80"
    let s := GovernanceStore.empty.insert record
    let stream : TokenStream := ⟨[⟨.operator, "-", 1, 1, -80⟩, ⟨.unknown, "1)", 1, 2, 0⟩]⟩
    let text := "1 OPERATOR - -80\n2 UNKNOWN 1) 0\n"
    s.tokenize "\u2003-\t\n 1) " = .ok stream ∧
      (Command.tokens "\u2003-\t\n 1) " none).performWith s = .ok text ∧
      (fieldsOf text).dropLast.mapM Token.ofFields? = some stream.tokens := by
  intro record s stream text
  have tokenized : s.tokenize "\u2003-\t\n 1) " = .ok stream :=
    toOption_eq_some_iff.1 (by decide +kernel)
  have listed : (Command.tokens "\u2003-\t\n 1) " none).performWith s = .ok text :=
    toOption_eq_some_iff.1 (by decide +kernel)
  obtain ⟨printed, hprinted, -, read, -⟩ := tokenListing_lossless tokenized none
  obtain rfl : printed = text := Except.ok.inj (hprinted.symm.trans listed)
  exact ⟨tokenized, listed, read⟩

end GovernedExpr
