import GovernedExpr.Proofs.Parsing.Alternation
import GovernedExpr.Proofs.Parsing.Cursor

/-!
# The places of errors

A stream numbers its tokens, however it is built, so the place in an error of parsing finds the token
that the error is about.

* `TokenStream.Building` are the ways to build a stream: from nothing, by pushing tokens and by
  collecting them; `TokenStream.Building.stream_eq` says that all of them come to the same;
* `ParseError.IsAbout` says that an error names a token, and `ParseError.position` is its place;
* `exists_token_of_parse` and `exists_token_of_parseComplete` find the token among those that are
  parsed, and `parse_error_points` by its place in the stream.
-/

namespace GovernedExpr

/-! ### Building a stream -/

namespace TokenStream

/-- The ways to build a stream.  Tokens that are collected may come from anywhere, also from streams. -/
inductive Building
  | new
  | push (b : Building) (t : Token)
  | collect (ts : List Token)
  /-- Collect the tokens of two streams, one after the other. -/
  | chain (first second : Building)

namespace Building

/-- The stream that is built. -/
def stream : Building → TokenStream
  | new => empty
  | push b t => b.stream.push t
  | collect ts => ofList ts
  | chain first second => ofList (first.stream.tokens ++ second.stream.tokens)

/-- The tokens that are put in, as they were before, in their order. -/
def given : Building → List Token
  | new => []
  | push b t => b.given ++ [t]
  | collect ts => ts
  | chain first second => first.given ++ second.given

end Building

theorem getElem?_ofList (ts : List Token) (i : Nat) :
    (ofList ts).tokens[i]? = ts[i]?.map fun t => t.atColumn (i + 1) :=
  List.getElem?_mapIdx

/-- The place that a token comes with does not matter for the stream. -/
theorem ofList_congr {ts us : List Token}
    (same : ts.map (fun t => t.atColumn 0) = us.map fun t => t.atColumn 0) : ofList ts = ofList us := by
  have place (ts : List Token) (i : Nat) : (ofList ts).tokens[i]? =
      (ts.map fun t => t.atColumn 0)[i]?.map fun t => t.atColumn (i + 1) := by
    rw [getElem?_ofList, List.getElem?_map, Option.map_map]
    rfl
  have tokens : (ofList ts).tokens = (ofList us).tokens :=
    List.ext_getElem? fun i => by rw [place, place, same]
  exact congrArg TokenStream.mk tokens

theorem map_atColumn_ofList (ts : List Token) :
    (ofList ts).tokens.map (fun t => t.atColumn 0) = ts.map fun t => t.atColumn 0 := by
  refine List.ext_getElem? fun i => ?_
  rw [List.getElem?_map, List.getElem?_map, getElem?_ofList, Option.map_map]
  rfl

/-- **However a stream is built, it is the stream of the tokens that were put in.** -/
theorem Building.stream_eq (b : Building) : b.stream = ofList b.given := by
  induction b with
  | new => rfl
  | push b t ih => rw [stream, given, ih, ofList_append_singleton]
  | collect ts => rfl
  | chain first second ih ih' =>
    rw [stream, given, ih, ih']
    refine ofList_congr ?_
    rw [List.map_append, List.map_append, map_atColumn_ofList, map_atColumn_ofList]

end TokenStream

/-! ### Tokens that errors are about -/

namespace ParseError

/-- The place in an error. -/
def position : ParseError → Nat
  | missingOperand _ position | expectedOperand _ _ position | unexpectedToken _ _ position => position

/-- An error names a token: the operator of the table without a right operand, or the value and the kind
of a token that does not fit. -/
def IsAbout (table : PrecedenceTable) (t : Token) : ParseError → Prop
  | missingOperand operator _ => t.value = operator ∧ table.Configures t
  | expectedOperand value kind _ | unexpectedToken value kind _ => t.value = value ∧ t.kind = kind

end ParseError

variable {p : ParserSettings} {tokens : List Token} {e : ParseError}

/-- The error of a parse names one of the tokens, with its column. -/
theorem exists_token_of_parse (h : (parse p tokens).outcome = .error e) :
    ∃ t ∈ tokens, e.IsAbout p.levels t ∧ e.position = t.column := by
  cases tokens with
  | nil => cases h
  | cons first tail =>
    cases operand : first.operand? with
    | none =>
      rw [parse_of_operand?_eq_none operand] at h
      cases hp : p.missingOperand <;> rw [hp] at h <;> cases h
      exact ⟨first, List.mem_cons_self, ⟨rfl, rfl⟩, rfl⟩
    | some leaf =>
      have run := climbs_climb p 0 leaf tail
      rw [parse_of_expression (expression_cons operand)] at h
      cases hc : climb p 0 leaf tail with
      | tree t rest halted =>
        rw [hc] at h
        cases h
      | missing operator rest =>
        rw [hc] at h run
        cases h
        -- the operator stands behind the pairs that were read, and the loop has found it in the table
        obtain ⟨_, read, -, rfl⟩ := run.exists_pairs
        obtain ⟨-, _, _, level, same, configured, -⟩ := run.final
        cases same
        have member : operator ∈ first :: (read ++ operator :: rest) :=
          List.mem_cons_of_mem _ (List.mem_append_right _ List.mem_cons_self)
        exact ⟨operator, member, ⟨rfl, PrecedenceTable.configures_iff.2 ⟨level, configured⟩⟩, rfl⟩

/-- The error of a complete parse does so too. -/
theorem exists_token_of_parseComplete (h : (parseComplete p tokens).outcome = .error e) :
    ∃ t ∈ tokens, e.IsAbout p.levels t ∧ e.position = t.column := by
  unfold parseComplete at h
  dsimp only at h
  split at h
  next t _ leftOver =>
    cases h
    exact ⟨t, List.mem_of_getElem? leftOver, ⟨rfl, rfl⟩, rfl⟩
  next => exact exists_token_of_parse h

/-- **Errors of parsing point at their tokens.**  However a stream is built, the tokens that were put in
stand in it in their order, each on line 1 at the column that counts it, and are otherwise as they were.
Wherever a parser on the stream has got to, the place in an error of parsing is one of the stream, and
the token in this place is the one that the error names. -/
theorem parse_error_points (b : TokenStream.Building) :
    (b.stream.length = b.given.length ∧ ∀ i t, b.given[i]? = some t →
      b.stream.get? i = some { t with line := 1, column := i + 1 }) ∧
    ∀ r : Parser, r.tokens = b.stream.tokens → r.settings.levels.All (· ≤ 254) →
      ∀ e, r.parse.1 = .error e ∨ r.parseComplete.1 = .error e →
        (1 ≤ e.position ∧ e.position ≤ b.stream.length) ∧
        ∃ t, b.stream.get? (e.position - 1) = some t ∧ e.IsAbout r.settings.levels t := by
  have built := TokenStream.getElem?_ofList b.given
  rw [← b.stream_eq] at built
  refine ⟨⟨?_, fun i t ht => ?_⟩, fun r same bytes e failed => ?_⟩
  · rw [b.stream_eq, TokenStream.length, TokenStream.ofList, List.length_mapIdx]
  · rw [TokenStream.get?, built, ht]
    rfl
  · have named : ∃ t ∈ r.tokens, e.IsAbout r.settings.levels t ∧ e.position = t.column := by
      obtain failed | failed := failed
      · refine exists_token_of_parse (e := e) ?_
        rw [← Parser.parsed_parse bytes]
        exact failed
      · refine exists_token_of_parseComplete (e := e) ?_
        rw [← Parser.parsed_parseComplete bytes]
        exact failed
    obtain ⟨t, member, about, place⟩ := named
    obtain ⟨i, hi⟩ := List.getElem?_of_mem member
    rw [same] at hi
    have column := hi
    rw [built] at column
    obtain ⟨given, -, rfl⟩ := Option.map_eq_some_iff.1 column
    obtain ⟨inside, -⟩ := List.getElem?_eq_some_iff.1 hi
    have position : e.position = i + 1 := place
    rw [position]
    exact ⟨⟨Nat.le_add_left 1 i, inside⟩, _, hi, about⟩

/-- Tokens with stray places, collected and pushed, and a parser that has halted behind the third. -/
theorem parse_error_points_stray :
    let b : TokenStream.Building := .push (.chain (.push .new ⟨.identifier, "a", 7, 9, 100⟩)
      (.collect [⟨.operator, "+", 0, 2, 80⟩, ⟨.number, "2", 1, 1, -90⟩])) ⟨.operator, "*", 5, 0, 80⟩
    let r : Parser := ⟨.arithmetic, b.stream.tokens, 3, true⟩
    let e : ParseError := .missingOperand "*" 4
    (b.given[2]? = some ⟨.number, "2", 1, 1, -90⟩ ∧ b.stream.get? 2 = some ⟨.number, "2", 1, 3, -90⟩) ∧
      r.settings.levels.All (· ≤ 254) ∧ r.parse.1 = .error e ∧
      (1 ≤ e.position ∧ e.position ≤ b.stream.length) ∧
      ∃ t, b.stream.get? (e.position - 1) = some t ∧ e.IsAbout r.settings.levels t := by
  intro b r e
  have bytes : r.settings.levels.All (· ≤ 254) :=
    (((PrecedenceTable.all_empty.insert _ (by decide)).insert _ (by decide)).insert _
      (by decide)).insert _ (by decide)
  have run : expression r.settings 0 r.tokens = some (.missing ⟨.operator, "*", 1, 4, 80⟩ []) := by
    decide +kernel
  have failed : r.parse.1 = .error e :=
    congrArg Parsed.outcome ((Parser.parsed_parse bytes).trans (parse_of_expression run))
  have points := parse_error_points b
  exact ⟨⟨rfl, points.1.2 2 _ rfl⟩, bytes, failed, points.2 r rfl bytes e (.inl failed)⟩

end GovernedExpr
