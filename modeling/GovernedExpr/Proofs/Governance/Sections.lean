import Mathlib.Data.List.Nodup
import GovernedExpr.Proofs.Governance.Views

/-!
# Keys and sections in their order

A record lists its sections in the order in which they were first added to, and a section lists its
keys in the order in which they were first added.  With each key stands the value that was added
last.

* `StageRecord.foldl_enlist` says that names enlisted one after the other come out each once, in the
  order of their first appearance;
* `StageRecord.map_fst_sectionOf` and `StageRecord.headings_eq` say so of the keys of a section and
  of the sections of a record;
* `StageRecord.IsLatest` says that a value was added last for a key, and
  `StageRecord.get?_eq_some_iff_isLatest` that this is the value found;
* `views_agree` puts together what the ways to read a record have in common, and what one more entry
  changes in each.
-/

namespace GovernedExpr

namespace StageRecord

variable {names : List String} {name key value : String} {pairs : List (String × String)}

/-! ### Names, each once -/

theorem enlist_of_mem (h : name ∈ names) : enlist names name = names := by
  simp [enlist, h]

theorem enlist_of_notMem (h : name ∉ names) : enlist names name = names ++ [name] := by
  simp [enlist, h]

theorem nodup_enlist (h : names.Nodup) (name : String) : (enlist names name).Nodup := by
  by_cases member : name ∈ names
  · rwa [enlist_of_mem member]
  · rw [enlist_of_notMem member, List.nodup_append]
    refine ⟨h, List.nodup_singleton name, fun a ha b hb => ?_⟩
    rintro rfl
    exact member (List.mem_singleton.1 hb ▸ ha)

theorem eraseDups_concat (names : List String) (name : String) :
    (names ++ [name]).eraseDups = enlist names.eraseDups name := by
  -- what stands behind is stripped of the names in front of it
  rw [List.eraseDups_append]
  by_cases h : name ∈ names
  · rw [enlist_of_mem (List.mem_eraseDups.2 h)]
    simp [List.removeAll, h]
  · rw [enlist_of_notMem fun member => h (List.mem_eraseDups.1 member)]
    simp [List.removeAll, List.eraseDups_cons, h]

/-- Names that are enlisted one after the other come out each once, in the order of their first
appearance. -/
theorem foldl_enlist (names : List String) : names.foldl enlist [] = names.eraseDups := by
  -- by induction from the end, since a name is enlisted by the names before it
  induction names using List.reverseRecOn with
  | nil => rfl
  | append_singleton names name ih =>
    rw [List.foldl_append, ih, eraseDups_concat]
    rfl

theorem nodup_eraseDups (names : List String) : names.eraseDups.Nodup := by
  induction names using List.reverseRecOn with
  | nil => exact List.nodup_nil
  | append_singleton names name ih =>
    rw [eraseDups_concat]
    exact nodup_enlist ih name

/-! ### Setting a value -/

theorem map_fst_setValue (key value : String) (pairs : List (String × String)) :
    (setValue key value pairs).map Prod.fst = enlist (pairs.map Prod.fst) key := by
  induction pairs with
  | nil => rfl
  | cons pair pairs ih =>
    obtain ⟨k, v⟩ := pair
    by_cases same : k = key
    · subst same
      rw [setValue, if_pos rfl, enlist_of_mem (by simp)]
      rfl
    · rw [setValue, if_neg same, List.map_cons, ih]
      by_cases member : key ∈ pairs.map Prod.fst
      · rw [enlist_of_mem member, enlist_of_mem (by simp [member])]
        rfl
      · rw [enlist_of_notMem member, enlist_of_notMem (by simpa [Ne.symm same] using member)]
        rfl

/-- A key that is there keeps its place. -/
theorem setValue_append_cons {before : List (String × String)} (h : key ∉ before.map Prod.fst)
    (value old : String) (after : List (String × String)) :
    setValue key value (before ++ (key, old) :: after) = before ++ (key, value) :: after := by
  induction before with
  | nil => rw [List.nil_append, setValue, if_pos rfl, List.nil_append]
  | cons pair before ih =>
    obtain ⟨k, v⟩ := pair
    rw [List.map_cons, List.mem_cons, not_or] at h
    rw [List.cons_append, setValue, if_neg (Ne.symm h.1), ih h.2, List.cons_append]

/-- A key that is not there goes to the end. -/
theorem setValue_of_notMem (h : key ∉ pairs.map Prod.fst) (value : String) :
    setValue key value pairs = pairs ++ [(key, value)] := by
  induction pairs with
  | nil => rfl
  | cons pair pairs ih =>
    obtain ⟨k, v⟩ := pair
    rw [List.map_cons, List.mem_cons, not_or] at h
    rw [setValue, if_neg (Ne.symm h.1), ih h.2, List.cons_append]

theorem mem_iff_lookup_eq_some {α : Type} {pairs : List (String × α)} {value : α}
    (h : (pairs.map Prod.fst).Nodup) : (key, value) ∈ pairs ↔ pairs.lookup key = some value := by
  -- a look-up stops at the first pair with the key, so no second one may follow
  induction pairs with
  | nil => simp
  | cons pair pairs ih =>
    obtain ⟨k, v⟩ := pair
    obtain ⟨first, rest⟩ := List.nodup_cons.1 h
    rw [lookup_cons_eq_ite, List.mem_cons, Prod.mk.injEq]
    by_cases same : key = k
    · subst same
      have other : (key, value) ∉ pairs := fun member => first (List.mem_map.2 ⟨_, member, rfl⟩)
      simp [other, eq_comm]
    · simp [same, ih rest]

/-! ### The order of keys and sections -/

/-- The keys that were added to a section, as often as they were. -/
def addedKeys (r : StageRecord) (heading : String) : List String :=
  (r.entries.filter fun e => e.heading = heading).map Entry.key

theorem addedKeys_add (r : StageRecord) (h key value heading : String) :
    (r.add h key value).addedKeys heading =
      if h = heading then r.addedKeys heading ++ [key] else r.addedKeys heading := by
  by_cases same : h = heading <;> simp [addedKeys, add, List.filter_append, same]

/-- A section lists each of its keys once, in the order in which they were first added. -/
theorem map_fst_sectionOf (r : StageRecord) (heading : String) :
    (r.sectionOf heading).map Prod.fst = (r.addedKeys heading).eraseDups := by
  induction r using inductionOn with
  | new => rfl
  | add r h key value ih =>
    rw [sectionOf_add, addedKeys_add]
    by_cases same : h = heading
    · rw [if_pos same, if_pos same, map_fst_setValue, ih, eraseDups_concat]
    · rw [if_neg same, if_neg same, ih]

theorem nodup_map_fst_sectionOf (r : StageRecord) (heading : String) :
    ((r.sectionOf heading).map Prod.fst).Nodup := by
  rw [map_fst_sectionOf]
  exact nodup_eraseDups _

/-- A key stands in a section with the value that is found for it. -/
theorem mem_sectionOf_iff (r : StageRecord) (heading key value : String) :
    (key, value) ∈ r.sectionOf heading ↔ r.get? heading key = some value := by
  rw [mem_iff_lookup_eq_some (r.nodup_map_fst_sectionOf heading), lookup_sectionOf]

/-- A record lists each of its sections once, in the order in which they were first added to. -/
theorem headings_eq (r : StageRecord) : r.headings = (r.entries.map Entry.heading).eraseDups :=
  foldl_enlist _

theorem mem_headings_iff (r : StageRecord) (heading : String) :
    heading ∈ r.headings ↔ r.hasSection heading = true := by
  rw [headings_eq, List.mem_eraseDups, hasSection, List.any_eq_true, List.mem_map]
  simp only [decide_eq_true_eq]

/-! ### The latest value -/

/-- A value was added for a key of a section, and none was added for it afterwards. -/
def IsLatest (r : StageRecord) (heading key value : String) : Prop :=
  ∃ before after, r.entries = before ++ ⟨heading, key, value⟩ :: after ∧
    ∀ e ∈ after, ¬ (e.heading = heading ∧ e.key = key)

theorem get?_eq_some_iff_isLatest (r : StageRecord) (heading key value : String) :
    r.get? heading key = some value ↔ r.IsLatest heading key value := by
  unfold get? IsLatest
  simp only [Option.map_eq_some_iff, List.find?_eq_some_iff_append, Bool.and_eq_true,
    decide_eq_true_eq, Bool.not_eq_true', Bool.and_eq_false_iff, decide_eq_false_iff_not, not_and_or]
  -- the search runs from the end, so the two parts of the list come out reversed
  constructor
  · rintro ⟨⟨h, k, v⟩, ⟨⟨rfl, rfl⟩, after, before, hentries, hafter⟩, rfl⟩
    refine ⟨before.reverse, after.reverse, ?_, fun e he => hafter e (List.mem_reverse.1 he)⟩
    rw [← List.reverse_inj, hentries]
    simp
  · rintro ⟨before, after, hentries, hafter⟩
    refine ⟨⟨heading, key, value⟩, ⟨⟨rfl, rfl⟩, after.reverse, before.reverse, ?_, fun e he => ?_⟩,
      rfl⟩
    · rw [hentries]
      simp
    · exact hafter e (List.mem_reverse.1 he)

/-- An entry for a key sets its value in place if the key is in the section, and is put at the end
if it is not. -/
theorem sectionOf_add_self (r : StageRecord) (heading key value : String) :
    (∃ before old after, r.sectionOf heading = before ++ (key, old) :: after ∧
      (r.add heading key value).sectionOf heading = before ++ (key, value) :: after) ∨
    (key ∉ (r.sectionOf heading).map Prod.fst ∧
      (r.add heading key value).sectionOf heading = r.sectionOf heading ++ [(key, value)]) := by
  rw [sectionOf_add, if_pos rfl]
  by_cases member : key ∈ (r.sectionOf heading).map Prod.fst
  · obtain ⟨⟨k, old⟩, hpair, rfl⟩ := List.mem_map.1 member
    obtain ⟨before, after, hsection⟩ := List.append_of_mem hpair
    have nodup := r.nodup_map_fst_sectionOf heading
    rw [hsection, List.map_append, List.map_cons] at nodup
    have first : k ∉ before.map Prod.fst := fun h =>
      (List.nodup_append.1 nodup).2.2 k h k List.mem_cons_self rfl
    refine .inl ⟨before, old, after, hsection, ?_⟩
    rw [hsection, setValue_append_cons first]
  · exact .inr ⟨member, setValue_of_notMem member value⟩

end StageRecord

/-- **All views of a record agree.**  A section lists the keys that were added to it, each once and
in the order in which they were first added, with the values that are found for them, which are those
that were added last.  The sections of a record are listed each once and in the order in which they
were first added to, and they are those that are there and those that list keys.  One more entry
changes the value found for its key and no other, leaves the other sections as they were, and in its
own section it sets the value in place or puts the key at the end. -/
theorem views_agree (r : StageRecord) (heading : String) :
    ((r.sectionOf heading).map Prod.fst).Nodup ∧
    (r.sectionOf heading).map Prod.fst = (r.addedKeys heading).eraseDups ∧
    (∀ key value, (key, value) ∈ r.sectionOf heading ↔ r.get? heading key = some value) ∧
    (∀ key value, r.get? heading key = some value ↔ r.IsLatest heading key value) ∧
    r.headings.Nodup ∧
    r.headings = (r.entries.map Entry.heading).eraseDups ∧
    (heading ∈ r.headings ↔ r.hasSection heading = true) ∧
    (r.hasSection heading = true ↔ r.sectionOf heading ≠ []) ∧
    ∀ key value,
      (∀ h k, (r.add heading key value).get? h k =
        if h = heading ∧ k = key then some value else r.get? h k) ∧
      (∀ other, other ≠ heading →
        (r.add heading key value).sectionOf other = r.sectionOf other) ∧
      ((∃ before old after, r.sectionOf heading = before ++ (key, old) :: after ∧
          (r.add heading key value).sectionOf heading = before ++ (key, value) :: after) ∨
        (key ∉ (r.sectionOf heading).map Prod.fst ∧
          (r.add heading key value).sectionOf heading =
            r.sectionOf heading ++ [(key, value)])) := by
  refine ⟨r.nodup_map_fst_sectionOf heading, r.map_fst_sectionOf heading,
    r.mem_sectionOf_iff heading, r.get?_eq_some_iff_isLatest heading, ?_, r.headings_eq,
    r.mem_headings_iff heading, r.hasSection_iff heading, ?_⟩
  · rw [StageRecord.headings_eq]
    exact StageRecord.nodup_eraseDups _
  · intro key value
    refine ⟨fun h k => ?_, fun other hother => ?_, r.sectionOf_add_self heading key value⟩
    · simp only [StageRecord.get?_add, eq_comm]
    · rw [StageRecord.sectionOf_add, if_neg (Ne.symm hother)]

/-- A key that is added again stays in its place, with its later value. -/
example : ((((StageRecord.new .parser "" "").add "A" "x" "1").add "A" "y" "2").add "A" "x" "3").sectionOf
    "A" = [("x", "3"), ("y", "2")] := by
  decide

end GovernedExpr
