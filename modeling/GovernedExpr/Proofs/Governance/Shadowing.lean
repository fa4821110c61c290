import GovernedExpr.Proofs.Governance.Flattening

/-!
# Entries that shadow others

Of two entries of a record with one heading and one key the later one counts.  A document is refused if it has
two sections or two keys of a section that are the same; so only names of different kinds can give a record
such entries, as the number `1` and the text `1` do.

* `StageDocument.isSound_sections` says that the sections of a document are those of a sound mapping;
* `StageDocument.IsUnambiguous` says that no two of its names that look alike meet;
* `nodup_places_iff` says that its entries shadow each other if and only if two such names meet.
-/

namespace GovernedExpr

open Yaml

/-- Where an entry stands in a record. -/
def Entry.place (e : Entry) : String × String := (e.heading, e.key)

namespace StageDocument

variable {d : StageDocument} {text : String}

/-- The sections of a document have names that differ, and so have the keys of each. -/
theorem isSound_sections (h : ofText? text = some d) : (Value.mapping d.sections).IsSound := by
  obtain ⟨root, pairs, before, after, read⟩ := ofText?_eq_some h
  obtain none | ⟨node, left, left', found⟩ := (ofPairs_eq_some read).2
  · rw [none]
    exact .mapping .nil (by simp) (by simp)
  · exact isSound_of_pairs? found

/-- No two keys of a section look alike, and two sections whose names look alike have no text of a key in
common. -/
def IsUnambiguous (d : StageDocument) : Prop :=
  (∀ sect ∈ d.sections, sect.2.pairs.Pairwise fun a b => ¬ a.1.LookAlike b.1) ∧
    d.sections.Pairwise fun s t => s.1.LookAlike t.1 →
      ∀ a ∈ s.2.pairs, ∀ b ∈ t.2.pairs, a.1.spelling ≠ b.1.spelling

theorem pairwise_congr {α : Type} {R S T : α → α → Prop} {l : List α} (known : l.Pairwise T)
    (h : ∀ a ∈ l, ∀ b ∈ l, T a b → (R a b ↔ S a b)) : l.Pairwise R ↔ l.Pairwise S :=
  ⟨fun hR => (hR.and known).imp_of_mem fun ha hb both => (h _ ha _ hb both.2).1 both.1,
    fun hS => (hS.and known).imp_of_mem fun ha hb both => (h _ ha _ hb both.2).2 both.1⟩

/-- The keys of a section differ. -/
theorem differ_of_lists {body : Value} {pairs : List (Value × Value)} (lists : body.Lists pairs)
    (sound : body.IsSound) :
    (pairs.Pairwise fun a b => a.1.same b.1 = false) ∧ ∀ pair ∈ pairs, pair.1.IsSound := by
  cases lists with
  | null => simp
  | mapping pairs =>
    cases sound with
    | mapping differ keys => exact ⟨differ, keys⟩

/-- The keys of a section have texts that differ unless two of them look alike. -/
theorem pairwise_spelling_iff {body : Value} {pairs : List (Value × Value)} (lists : body.Lists pairs)
    (sound : body.IsSound) (flat : ∀ pair ∈ pairs, IsFlatEntry pair) :
    (pairs.Pairwise fun a b => a.1.spelling ≠ b.1.spelling) ↔ pairs.Pairwise fun a b => ¬ a.1.LookAlike b.1 := by
  obtain ⟨differ, keys⟩ := differ_of_lists lists sound
  exact pairwise_congr differ fun a ha b hb other =>
    not_congr (Value.spelling_eq_iff (keys a ha) (keys b hb) (flat a ha).1 (flat b hb).1 other)

/-- Two sections have no place of an entry in common unless their names have one text and they have a text of
a key in common. -/
theorem disjoint_places_iff {s t : Value × Value} :
    List.Disjoint ((flattenSection s).map Entry.place) ((flattenSection t).map Entry.place) ↔
      (s.1.spelling = t.1.spelling → ∀ a ∈ s.2.pairs, ∀ b ∈ t.2.pairs, a.1.spelling ≠ b.1.spelling) := by
  simp only [flattenSection, List.map_map, List.disjoint_left, List.mem_map, Function.comp_apply, Entry.place]
  constructor
  · intro apart names a ha b hb keys
    exact apart ⟨a, ha, rfl⟩ ⟨b, hb, by rw [names, keys]⟩
  · rintro apart _ ⟨a, ha, rfl⟩ ⟨b, hb, same⟩
    obtain ⟨names, keys⟩ := Prod.mk.inj same
    exact apart names.symm a ha b hb keys.symm

/-- The entries of a document have places that differ unless names that look alike meet. -/
theorem nodup_flatten_iff (flat : d.IsFlat) (sound : (Value.mapping d.sections).IsSound) :
    (d.flatten.map Entry.place).Nodup ↔ d.IsUnambiguous := by
  cases sound with
  | mapping differ names bodies =>
    rw [flatten, List.map_flatMap, List.nodup_flatMap]
    refine and_congr (forall₂_congr fun sect member => ?_) (pairwise_congr differ fun s hs t ht other => ?_)
    · obtain ⟨-, pairs, lists, flatPairs⟩ := flat sect member
      rw [flattenSection, lists.pairs_eq, ← pairwise_spelling_iff lists (bodies sect member) flatPairs]
      simp only [List.map_map, List.Nodup, List.pairwise_map, Function.comp_apply, Entry.place,
        ne_eq, Prod.mk.injEq, true_and]
    · rw [Function.onFun, disjoint_places_iff,
        Value.spelling_eq_iff (names s hs) (names t ht) (flat s hs).1 (flat t ht).1 other]

end StageDocument

/-- The document behind a record. -/
theorem exists_of_readRecord_eq_ok {text : String} {r : StageRecord} (h : readRecord text = .ok r) :
    ∃ d, StageDocument.ofText? text = some d ∧ d.IsFlat ∧ d.flatten = r.entries := by
  unfold readRecord at h
  cases found : StageDocument.ofText? text with
  | none => simp [found] at h
  | some d =>
    simp only [found, StageDocument.record] at h
    split at h
    · cases h
    · split at h
      · cases h
      · next entries listed =>
        cases h
        obtain ⟨flat, whole⟩ := StageDocument.entries_eq_ok_iff.1 listed
        exact ⟨d, rfl, flat, whole⟩

/-- **When entries of a record shadow each other.**  Behind a record there is a document without two sections
or two keys of a section that are the same.  No two of its entries have one heading and one key just if no two
names meet of which one is a text and the other one a number or a truth value with that text. -/
theorem nodup_places_iff {text : String} {r : StageRecord} (h : readRecord text = .ok r) :
    ∃ d, StageDocument.ofText? text = some d ∧
      (d.sections.Pairwise fun s t => s.1.same t.1 = false) ∧
      (∀ sect ∈ d.sections, sect.2.pairs.Pairwise fun a b => a.1.same b.1 = false) ∧
      ((r.entries.map Entry.place).Nodup ↔ d.IsUnambiguous) := by
  obtain ⟨d, found, flat, whole⟩ := exists_of_readRecord_eq_ok h
  have sound := StageDocument.isSound_sections found
  have law := StageDocument.nodup_flatten_iff flat sound
  rw [whole] at law
  cases sound with
  | mapping differ names bodies =>
    refine ⟨d, found, differ, fun sect member => ?_, law⟩
    obtain ⟨-, pairs, lists, -⟩ := flat sect member
    rw [lists.pairs_eq]
    exact (StageDocument.differ_of_lists lists (bodies sect member)).1

/-- Keys that differ as values but not as numbers are places of their own: no entry is shadowed. -/
theorem nodup_places_iff_spellings :
    let text := "stage_id: 2\nstage_name: A\nsp_alignment: B\nsections:\n" ++
      "  S:\n    1: a\n    1.0: b\n    '01': c\n  T:\n    1: d\n"
    let r : StageRecord := ⟨.coordinator, "A", "B", StageRecord.initialVersion,
      [⟨"S", "1", "a"⟩, ⟨"S", "1.0", "b"⟩, ⟨"S", "01", "c"⟩, ⟨"T", "1", "d"⟩]⟩
    readRecord text = .ok r ∧ (r.entries.map Entry.place).Nodup ∧
      ∃ d, StageDocument.ofText? text = some d ∧ d.IsUnambiguous := by
  intro text r
  have accepted : readRecord text = .ok r := by decide +kernel
  have nodup : (r.entries.map Entry.place).Nodup := by decide +kernel
  obtain ⟨d, found, -, -, law⟩ := nodup_places_iff accepted
  exact ⟨accepted, nodup, d, found, law.1 nodup⟩

/-- The number and the text of a key are different keys, and so are those of a name of a section; the entries
of both go to one place. -/
theorem readRecord_shadowed :
    let text := "stage_id: 2\nstage_name: A\nsp_alignment: B\nsections:\n" ++
      "  S:\n    1: a\n    '1': b\n  2:\n    k: a\n  '2':\n    k: b\n"
    ∃ r, readRecord text = .ok r ∧ ¬ (r.entries.map Entry.place).Nodup := by
  intro text
  have accepted : readRecord text = .ok ⟨.coordinator, "A", "B", StageRecord.initialVersion,
      [⟨"S", "1", "a"⟩, ⟨"S", "1", "b"⟩, ⟨"2", "k", "a"⟩, ⟨"2", "k", "b"⟩]⟩ := by decide +kernel
  exact ⟨_, accepted, by decide⟩

end GovernedExpr
