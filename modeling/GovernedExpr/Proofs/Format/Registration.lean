import Mathlib.Data.List.Induction
import GovernedExpr.Format.Registry

/-!
# The history of a registry

Formatters are only ever registered, and a formatter takes the place of an earlier one of its name, be
it built-in or not.  So a registry is known by its history.

* `FormatRegistry.ofHistory` registers one formatter after the other, from the registry without any;
  `FormatRegistry.Start` are the registries to start from, with the formatters that they have already;
* `FormatRegistry.IsLastNamed` says that a formatter was registered under a name, and none was
  afterwards; `FormatRegistry.get?_ofHistory_eq_some_iff` that it is the one that is found;
* `FormatRegistry.names_eq_mergeSort` says that the listing of names is that of any enumeration of
  them, once sorted;
* `registry_history` puts these together for all ways to look into a registry.
-/

namespace GovernedExpr

namespace FormatRegistry

variable {r : FormatRegistry} {f : Formatter} {history : List Formatter} {name : String}

/-! ### Names -/

theorem mem_names_iff : name ∈ r.names ↔ ∃ f, r.get? name = some f := by
  simp only [names, get?, List.mem_map, ← Option.isSome_iff_exists, List.find?_isSome,
    decide_eq_true_eq]

theorem has_iff : r.has name = true ↔ ∃ f, r.get? name = some f := by
  rw [has, Option.isSome_iff_exists]

theorem name_of_get? (h : r.get? name = some f) : f.name = name := by
  simpa using List.find?_some h

theorem render_of_get?_eq_some (h : r.get? name = some f) (root : Option Tree) :
    r.render root name = f.render root := by
  rw [render, h]

theorem render_of_get?_eq_none (h : r.get? name = none) (root : Option Tree) :
    r.render root name = .error (.notFound name) := by
  rw [render, h]

theorem pairwise_names (r : FormatRegistry) : r.names.Pairwise (· < ·) :=
  List.pairwise_map.2 r.ascending

/-- However the names are enumerated, sorting them gives the listing. -/
theorem names_eq_mergeSort {keys : List String} (nodup : keys.Nodup)
    (same : ∀ name, name ∈ keys ↔ name ∈ r.names) : r.names = keys.mergeSort (· ≤ ·) := by
  have distinct : r.names.Nodup := r.pairwise_names.imp fun before => String.ne_of_lt before
  have perm : r.names.Perm (keys.mergeSort (· ≤ ·)) :=
    ((List.perm_ext_iff_of_nodup distinct nodup).2 fun name => (same name).symm).trans
      (List.mergeSort_perm _ _).symm
  have sorted : (keys.mergeSort (· ≤ ·)).Pairwise (· ≤ ·) := by
    simpa using @List.pairwise_mergeSort String (fun a b => decide (a ≤ b))
      (by simpa using fun a b c => String.le_trans) (by simpa using String.le_total) keys
  exact perm.eq_of_pairwise (fun a b _ _ => String.le_antisymm)
    (r.pairwise_names.imp fun before => Std.le_of_lt before) sorted

/-! ### Histories -/

/-- The registry after formatters have been registered one after the other, from none. -/
def ofHistory (history : List Formatter) : FormatRegistry :=
  history.foldl register empty

/-- A formatter was registered under a name, and none was afterwards. -/
def IsLastNamed (history : List Formatter) (name : String) (f : Formatter) : Prop :=
  ∃ before after, history = before ++ f :: after ∧ f.name = name ∧ ∀ g ∈ after, g.name ≠ name

/-- The search for a name finds what a search from the end of the history finds. -/
theorem get?_ofHistory (history : List Formatter) (name : String) :
    (ofHistory history).get? name = history.reverse.find? fun f => f.name = name := by
  induction history using List.reverseRecOn with
  | nil => rfl
  | append_singleton history f ih =>
    have last : ofHistory (history ++ [f]) = (ofHistory history).register f := by
      rw [ofHistory, List.foldl_append]
      rfl
    rw [last, get?_register, ih, List.reverse_concat, List.find?_cons]
    by_cases same : name = f.name
    · simp [same]
    · simp [same, Ne.symm same]

/-- **The formatter that is found is the one that was registered last.** -/
theorem get?_ofHistory_eq_some_iff :
    (ofHistory history).get? name = some f ↔ IsLastNamed history name f := by
  rw [get?_ofHistory, List.find?_eq_some_iff_append]
  simp only [decide_eq_true_eq, Bool.not_eq_true', decide_eq_false_iff_not]
  -- the search runs from the end, so the two parts of the history come out reversed
  constructor
  · rintro ⟨named, after, before, hhistory, others⟩
    refine ⟨before.reverse, after.reverse, ?_, named, fun g hg => others g (List.mem_reverse.1 hg)⟩
    rw [← List.reverse_inj, hhistory]
    simp
  · rintro ⟨before, after, rfl, named, others⟩
    exact ⟨named, after.reverse, before.reverse, by simp,
      fun g hg => others g (List.mem_reverse.1 hg)⟩

theorem get?_ofHistory_eq_none_iff :
    (ofHistory history).get? name = none ↔ ∀ f ∈ history, f.name ≠ name := by
  rw [get?_ofHistory]
  simp

theorem mem_names_ofHistory :
    name ∈ (ofHistory history).names ↔ name ∈ history.map Formatter.name := by
  rw [mem_names_iff, ← Option.isSome_iff_exists, get?_ofHistory, List.find?_isSome, List.mem_map]
  simp only [List.mem_reverse, decide_eq_true_eq]

/-- Of what was registered behind a start of the history, other names make no difference. -/
theorem get?_ofHistory_append_filter (given registered : List Formatter) (name : String) :
    (ofHistory (given ++ registered.filter fun f => f.name = name)).get? name =
      (ofHistory (given ++ registered)).get? name := by
  rw [get?_ofHistory, get?_ofHistory, List.reverse_append, List.reverse_append, List.find?_append,
    List.find?_append, ← List.filter_reverse, List.find?_filter]
  simp

/-! ### Where registries start -/

/-- A registry to start from. -/
inductive Start
  /-- No formatter. -/
  | empty
  /-- All built-in formatters. -/
  | builtin
  /-- The built-in formatters that settings of the output allow. -/
  | allowed (settings : OutputSettings)

namespace Start

/-- The registry itself. -/
def registry : Start → FormatRegistry
  | empty => .empty
  | builtin => .builtin
  | allowed settings => .ofSettings settings

/-- The formatters that were registered in it: the outline always, and JSON where it is allowed. -/
def given : Start → List Formatter
  | empty => []
  | builtin => [.lisp, .json]
  | allowed settings => .lisp :: if settings.jsonExport then [.json] else []

/-- Registering from a start goes on with the history of the start. -/
theorem foldl_register (start : Start) (registered : List Formatter) :
    registered.foldl register start.registry = ofHistory (start.given ++ registered) := by
  rw [ofHistory, List.foldl_append]
  cases start with
  | empty => rfl
  | builtin => rfl
  | allowed settings =>
    rw [registry, given, ofSettings]
    cases settings.jsonExport <;> rfl

end Start

end FormatRegistry

/-- **The law of registries.**  Wherever a registry starts and whatever is registered then, also under
the names of built-in formatters, its names are listed in strictly ascending order; they are the names
that were registered, and any enumeration of these without repetition gives the listing once sorted.
That a name is there, that a formatter is found for it and that it is listed are the same.  The
formatter found is the one that was registered last under the name, and has that name.  Writing a tree
in a format gives exactly what that formatter gives, a text or an error, and the error that there is no
such format if nothing was registered under the name.  Formatters that are registered under other names
make no difference. -/
theorem registry_history (start : FormatRegistry.Start) (registered : List Formatter) :
    let r := registered.foldl FormatRegistry.register start.registry
    let history := start.given ++ registered
    r.names.Pairwise (· < ·) ∧
    (∀ keys : List String, keys.Nodup → (∀ name, name ∈ keys ↔ name ∈ history.map Formatter.name) →
      r.names = keys.mergeSort (· ≤ ·)) ∧
    ∀ name,
      (r.has name = true ↔ ∃ f, r.get? name = some f) ∧
      (r.has name = true ↔ name ∈ r.names) ∧
      (∀ f, r.get? name = some f ↔ FormatRegistry.IsLastNamed history name f) ∧
      (∀ f, r.get? name = some f → f.name = name) ∧
      (∀ f, FormatRegistry.IsLastNamed history name f →
        ∀ root, r.render root name = f.render root) ∧
      ((∀ f ∈ history, f.name ≠ name) → ∀ root, r.render root name = .error (.notFound name)) ∧
      let alone :=
        (registered.filter fun f => f.name = name).foldl FormatRegistry.register start.registry
      alone.get? name = r.get? name ∧ ∀ root, alone.render root name = r.render root name := by
  intro r history
  have eq : r = .ofHistory history := start.foldl_register registered
  have found : ∀ name f, r.get? name = some f ↔ FormatRegistry.IsLastNamed history name f :=
    fun _ _ => by rw [eq, FormatRegistry.get?_ofHistory_eq_some_iff]
  refine ⟨r.pairwise_names, fun keys nodup same => ?_, fun name =>
    ⟨FormatRegistry.has_iff, FormatRegistry.has_iff.trans FormatRegistry.mem_names_iff.symm,
      found name, fun _ => FormatRegistry.name_of_get?, fun f last root => ?_,
      fun missing root => ?_, ?_⟩⟩
  · refine FormatRegistry.names_eq_mergeSort nodup fun name => ?_
    rw [same, eq, FormatRegistry.mem_names_ofHistory]
  · exact FormatRegistry.render_of_get?_eq_some ((found name f).2 last) root
  · refine FormatRegistry.render_of_get?_eq_none ?_ root
    rw [eq, FormatRegistry.get?_ofHistory_eq_none_iff]
    exact missing
  · intro alone
    have rest : alone = .ofHistory (start.given ++ registered.filter fun f => f.name = name) :=
      start.foldl_register _
    have get : alone.get? name = r.get? name := by
      rw [rest, FormatRegistry.get?_ofHistory_append_filter, eq]
    exact ⟨get, fun root => by rw [FormatRegistry.render, FormatRegistry.render, get]⟩

/-- A formatter that fails takes the place of the built-in one of its name. -/
example :
    let r := FormatRegistry.builtin.register ⟨"JSON", "", fun _ => .error (.serialization "full")⟩
    r.names = ["JSON", "LISP_STYLE_AST"] ∧ r.render none "JSON" = .error (.serialization "full") := by
  decide +kernel

end GovernedExpr
