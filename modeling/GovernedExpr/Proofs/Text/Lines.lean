import GovernedExpr.CommandLine.Run

/-!
# Lines and fields of a text

A text that is written line by line is cut at its line breaks into the same lines, provided that no
line holds a line break; behind the last one nothing is left.  A line of fields with single spaces
between them is cut at its spaces into the same fields, provided that no field holds a space.

* `Text.linesOf` cuts a text into lines, `Text.fieldsOf` cuts each of them into fields;
* `Text.linesOf_linesText` and `Text.fieldsOf_linesText` are these two statements.
-/

namespace GovernedExpr

open CommandLine (linesText)

namespace CommandLine

@[simp] theorem linesText_nil : linesText [] = "" := rfl

@[simp] theorem linesText_cons (line : String) (lines : List String) :
    linesText (line :: lines) = line ++ "\n" ++ linesText lines := by
  simp [linesText]

@[simp] theorem linesText_append (lines more : List String) :
    linesText (lines ++ more) = linesText lines ++ linesText more := by
  simp [linesText]

end CommandLine

namespace Text

/-! ### Lines -/

/-- The lines of a text: the text is cut at its line breaks. -/
def linesOf (text : String) : List String :=
  (text.toList.splitOn '\n').map String.ofList

/-- **The lines of a text are those of which it was made**; behind the last line break stands an empty
one. -/
theorem linesOf_linesText {lines : List String} (h : ∀ line ∈ lines, '\n' ∉ line.toList) :
    linesOf (linesText lines) = lines ++ [""] := by
  unfold linesOf
  induction lines with
  | nil => rfl
  | cons line lines ih =>
    obtain ⟨first, others⟩ := List.forall_mem_cons.1 h
    rw [CommandLine.linesText_cons, String.toList_append, String.toList_append,
      show "\n".toList = ['\n'] from rfl, List.append_assoc, List.singleton_append,
      List.splitOn_append_cons_self_of_not_mem first, List.map_cons, ih others, String.ofList_toList]
    rfl

/-! ### Fields -/

/-- The fields of each line of a text: each line is cut at single spaces. -/
def fieldsOf (text : String) : List (List String) :=
  (linesOf text).map fun line => (line.toList.splitOn ' ').map String.ofList

/-- Whether a text can stand as a field: it holds neither a space nor a line break. -/
def IsField (field : String) : Prop :=
  ' ' ∉ field.toList ∧ '\n' ∉ field.toList

theorem IsField.of_forall_mem {field : String} (h : ∀ c ∈ field.toList, c ≠ ' ' ∧ c ≠ '\n') :
    IsField field :=
  ⟨fun space => (h _ space).1 rfl, fun linebreak => (h _ linebreak).2 rfl⟩

/-- The fields of a line are those of which it was made. -/
theorem splitOn_intercalate_space {fields : List String} (ne_nil : fields ≠ [])
    (h : ∀ field ∈ fields, ' ' ∉ field.toList) :
    (" ".intercalate fields).toList.splitOn ' ' = fields.map String.toList := by
  rw [String.toList_intercalate, show " ".toList = [' '] from rfl]
  exact List.splitOn_intercalate ' ' (by simpa using h) (by simpa using ne_nil)

/-- What stands in a line of fields is the space between two of them, or stands in one of them. -/
theorem exists_mem_of_mem_intercalate {fields : List (List Char)} {c : Char}
    (h : c ∈ [' '].intercalate fields) (other : c ≠ ' ') : ∃ field ∈ fields, c ∈ field := by
  induction fields with
  | nil => simp at h
  | cons field fields ih =>
    cases fields with
    | nil => exact ⟨field, List.mem_cons_self, by simpa using h⟩
    | cons next fields =>
      rw [List.intercalate_cons_cons, List.append_assoc, List.mem_append] at h
      rcases h with h | h
      · exact ⟨field, List.mem_cons_self, h⟩
      · rw [List.singleton_append, List.mem_cons] at h
        obtain ⟨found, hfound, hc⟩ := ih (h.resolve_left other)
        exact ⟨found, List.mem_cons_of_mem field hfound, hc⟩

/-- **Rows of fields are cut into these fields**, and behind the last line break there is one
empty field. -/
theorem fieldsOf_linesText {rows : List (List String)} (ne_nil : ∀ row ∈ rows, row ≠ [])
    (h : ∀ row ∈ rows, ∀ field ∈ row, IsField field) :
    fieldsOf (linesText (rows.map " ".intercalate)) = rows ++ [[""]] := by
  have unbroken : ∀ line ∈ rows.map " ".intercalate, '\n' ∉ line.toList := by
    intro line hline hbreak
    obtain ⟨row, hrow, rfl⟩ := List.mem_map.1 hline
    rw [String.toList_intercalate] at hbreak
    obtain ⟨chars, hchars, hc⟩ := exists_mem_of_mem_intercalate hbreak (by decide)
    obtain ⟨field, hfield, rfl⟩ := List.mem_map.1 hchars
    exact (h row hrow field hfield).2 hc
  have cut : ∀ row ∈ rows,
      ((" ".intercalate row).toList.splitOn ' ').map String.ofList = row := by
    intro row hrow
    rw [splitOn_intercalate_space (ne_nil row hrow) fun field hfield => (h row hrow field hfield).1]
    simp [Function.comp_def]
  rw [fieldsOf, linesOf_linesText unbroken, List.map_append, List.map_map]
  congr 1
  exact (List.map_congr_left cut).trans (List.map_id rows)

end Text

end GovernedExpr
