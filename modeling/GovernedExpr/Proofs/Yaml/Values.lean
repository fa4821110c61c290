import GovernedExpr.Proofs.Yaml.NumberText

/-!
# The values of documents

The value of a node is made of numbers that documents have and of mappings whose keys differ.  So scalars that
differ have different texts, unless one of them is a text and the other one is not.

* `Following.bind_eq_some_iff` and the lemmas beside it say what a computation comes to that may follow
  aliases;
* `Value.IsSound` says what values are like, and `isSound_of_valueWithin?` and `isSound_of_pairs?` that the
  values of a document are so;
* `Value.IsScalar` says which values are scalars, and `Value.spelling` is the text of one;
* `Value.LookAlike` says that two scalars have one text though they differ, and `Value.spelling_eq_iff` that
  nothing else makes them have one.
-/

namespace GovernedExpr.Yaml

/-! ### Following aliases -/

namespace Following

variable {α β : Type} {left left' : Nat} {a : α} {b : β}

theorem bind_eq_some_iff {x : Following α} {f : α → Following β} :
    (x >>= f) left = some (b, left') ↔
      ∃ a between, x left = some (a, between) ∧ f a between = some (b, left') := by
  change (x left).bind (fun p => f p.1 p.2) = _ ↔ _
  simp [Option.bind_eq_some_iff]

theorem pure_eq_some_iff {a' : α} :
    (pure a' : Following α) left = some (a, left') ↔ a' = a ∧ left = left' := by
  change some (a', left) = some (a, left') ↔ _
  simp

theorem lift_eq_some_iff {o : Option α} :
    (liftM o : Following α) left = some (a, left') ↔ o = some a ∧ left = left' := by
  change o.bind (fun a => some (a, left)) = some (a, left') ↔ _
  cases o <;> simp

theorem failure_ne_some : (failure : Following α) left ≠ some (a, left') := by
  change none ≠ _
  exact nofun

theorem run'_eq_some_iff {x : Following α} : x.run' left = some a ↔ ∃ left', x left = some (a, left') := by
  change (x left).map Prod.fst = some a ↔ _
  simp

/-- What a loop comes to is made of what its rounds come to. -/
theorem exists_of_mem_mapM {f : α → Following β} {l : List α} {bs : List β}
    (h : l.mapM f left = some (bs, left')) (hb : b ∈ bs) :
    ∃ a ∈ l, ∃ before after, f a before = some (b, after) := by
  induction l generalizing bs left with
  | nil =>
    rw [List.mapM_nil, pure_eq_some_iff] at h
    obtain ⟨rfl, -⟩ := h
    cases hb
  | cons a l ih =>
    rw [List.mapM_cons, bind_eq_some_iff] at h
    obtain ⟨first, between, hfirst, h⟩ := h
    rw [bind_eq_some_iff] at h
    obtain ⟨others, between', hothers, h⟩ := h
    obtain ⟨rfl, rfl⟩ := pure_eq_some_iff.1 h
    obtain rfl | hb := List.mem_cons.1 hb
    · exact ⟨a, List.mem_cons_self, left, between, hfirst⟩
    · obtain ⟨a', ha', h⟩ := ih hothers hb
      exact ⟨a', List.mem_cons_of_mem a ha', h⟩

end Following

/-! ### Values -/

/-- What the values of nodes are like: their numbers are those of documents, and the keys of a mapping
differ. -/
inductive Value.IsSound : Value → Prop
  | null : IsSound .null
  | boolean (b : Bool) : IsSound (.boolean b)
  | number {a : Number} (canonical : a.IsCanonical) : IsSound (.number a)
  | text (s : String) : IsSound (.text s)
  | sequence {items : List Value} (sound : ∀ v ∈ items, IsSound v) : IsSound (.sequence items)
  | mapping {pairs : List (Value × Value)} (differ : pairs.Pairwise fun a b => a.1.same b.1 = false)
      (keys : ∀ pair ∈ pairs, IsSound pair.1) (values : ∀ pair ∈ pairs, IsSound pair.2) :
      IsSound (.mapping pairs)
  | tagged (tag : String) {v : Value} (sound : IsSound v) : IsSound (.tagged tag v)

variable {cs : List Char} {v : Value} {pairs : List (Value × Value)} {source : Source} {left left' : Nat}

theorem isSound_inexactValue (cs : List Char) : (inexactValue cs).IsSound := by
  unfold inexactValue
  split
  · next found => exact .number (isCanonical_of_float? (Option.ite_none_left_eq_some.1 found).2)
  · exact .text _

theorem isSound_of_plainValue? (h : plainValue? cs = some v) : v.IsSound := by
  unfold plainValue? at h
  split at h
  · cases h
    exact .null
  · split at h
    · cases h
      exact .boolean _
    · split at h
      · next fits =>
        cases h
        exact .number fits
      · obtain ⟨-, h⟩ := Option.ite_none_left_eq_some.1 h
        cases h
        exact isSound_inexactValue cs
    · cases h
      exact isSound_inexactValue cs

theorem isSound_of_scalarValue? {tag : Option Tag} {style : ScalarStyle}
    (h : scalarValue? tag style cs = some v) : v.IsSound := by
  unfold scalarValue? at h
  split at h
  · obtain ⟨-, h⟩ := Option.ite_none_right_eq_some.1 h
    cases h
    exact .null
  · obtain ⟨b, -, rfl⟩ := Option.map_eq_some_iff.1 h
    exact .boolean b
  · obtain ⟨n, found, rfl⟩ := Option.map_eq_some_iff.1 h
    exact .number (Option.filter_eq_some_iff.1 found).2
  · obtain ⟨n, found, rfl⟩ := Option.map_eq_some_iff.1 h
    exact .number (isCanonical_of_float? found)
  · cases h
    exact .text _
  · split at h
    · exact isSound_of_plainValue? h
    · cases h
      exact .text _

theorem Value.IsSound.labelled (h : v.IsSound) (tag : Option Tag) : (Source.labelled tag v).IsSound := by
  unfold Source.labelled
  split
  · exact .tagged _ h
  · exact h

theorem isSound_of_joinPairs? {joined : List (Value × Value)} (h : Source.joinPairs? pairs = some joined)
    (sound : ∀ pair ∈ pairs, pair.1.IsSound ∧ pair.2.IsSound) : (Value.mapping joined).IsSound := by
  obtain ⟨differ, h⟩ := Option.ite_none_right_eq_some.1 h
  cases h
  exact .mapping (by simpa using differ) (fun pair hp => (sound pair hp).1) (fun pair hp => (sound pair hp).2)

/-- The values of the pairs of a mapping. -/
theorem isSound_of_mem_pairs {depth : Nat} {nodes : List (Node × Node)}
    (ih : ∀ node left v left', source.valueWithin? depth node left = some (v, left') → v.IsSound)
    (h : (nodes.mapM fun (key, value) => return (← source.valueWithin? depth key, ← source.valueWithin? depth value) :
      Following (List (Value × Value))) left = some (pairs, left')) :
    ∀ pair ∈ pairs, pair.1.IsSound ∧ pair.2.IsSound := by
  intro pair member
  obtain ⟨⟨key, value⟩, -, before, after, h⟩ := Following.exists_of_mem_mapM h member
  obtain ⟨k, _, hkey, h⟩ := Following.bind_eq_some_iff.1 h
  obtain ⟨v, _, hvalue, h⟩ := Following.bind_eq_some_iff.1 h
  obtain ⟨rfl, -⟩ := Following.pure_eq_some_iff.1 h
  exact ⟨ih _ _ _ _ hkey, ih _ _ _ _ hvalue⟩

/-- The value of a node is sound. -/
theorem isSound_of_valueWithin? {depth : Nat} {node : Node}
    (h : source.valueWithin? depth node left = some (v, left')) : v.IsSound := by
  induction depth using Nat.strong_induction_on generalizing node left v left' with
  | _ depth ih =>
    unfold Source.valueWithin? at h
    obtain ⟨target, _, -, h⟩ := Following.bind_eq_some_iff.1 h
    cases target with
    | reference => exact absurd h Following.failure_ne_some
    | scalar properties style text =>
      obtain ⟨v', _, found, h⟩ := Following.bind_eq_some_iff.1 h
      obtain ⟨rfl, -⟩ := Following.pure_eq_some_iff.1 h
      exact (isSound_of_scalarValue? (Following.lift_eq_some_iff.1 found).1).labelled _
    | sequence properties items =>
      cases depth with
      | zero => exact absurd h Following.failure_ne_some
      | succ depth =>
        obtain ⟨vs, _, found, h⟩ := Following.bind_eq_some_iff.1 h
        obtain ⟨rfl, -⟩ := Following.pure_eq_some_iff.1 h
        refine (Value.IsSound.sequence fun v hv => ?_).labelled _
        obtain ⟨item, -, _, _, h⟩ := Following.exists_of_mem_mapM found hv
        exact ih depth (Nat.lt_succ_self depth) h
    | mapping properties nodes =>
      cases depth with
      | zero => exact absurd h Following.failure_ne_some
      | succ depth =>
        obtain ⟨found, _, hfound, h⟩ := Following.bind_eq_some_iff.1 h
        obtain ⟨joined, _, hjoined, h⟩ := Following.bind_eq_some_iff.1 h
        obtain ⟨rfl, -⟩ := Following.pure_eq_some_iff.1 h
        exact (isSound_of_joinPairs? (Following.lift_eq_some_iff.1 hjoined).1
          (isSound_of_mem_pairs (fun _ _ _ _ => ih depth (Nat.lt_succ_self depth)) hfound)).labelled _

/-- The pairs of a mapping that stands in the outermost one are those of a sound mapping. -/
theorem isSound_of_pairs? {node : Node} (h : source.pairs? node left = some (pairs, left')) :
    (Value.mapping pairs).IsSound := by
  unfold Source.pairs? at h
  obtain ⟨target, _, -, h⟩ := Following.bind_eq_some_iff.1 h
  dsimp only at h
  split at h
  · obtain ⟨rfl, -⟩ := Following.pure_eq_some_iff.1 h
    exact .mapping .nil (by simp) (by simp)
  · obtain ⟨found, _, hfound, h⟩ := Following.bind_eq_some_iff.1 h
    exact isSound_of_joinPairs? (Following.lift_eq_some_iff.1 h).1
      (isSound_of_mem_pairs (fun _ _ _ _ => isSound_of_valueWithin?) hfound)
  · exact absurd h Following.failure_ne_some

/-! ### Scalars -/

namespace Value

variable {w : Value} {s : String}

/-- A scalar is a text, a number or a truth value. -/
inductive IsScalar : Value → Prop
  | boolean (b : Bool) : IsScalar (.boolean b)
  | number (n : Number) : IsScalar (.number n)
  | text (s : String) : IsScalar (.text s)

/-- The text of a scalar. -/
def spelling : Value → String
  | boolean true => "true"
  | boolean false => "false"
  | number n => n.text
  | text s => s
  | _ => ""

theorem scalarText?_eq_some_iff : v.scalarText? = some s ↔ v.IsScalar ∧ v.spelling = s := by
  cases v with
  | boolean b => cases b <;> simp [scalarText?, spelling, IsScalar.boolean]
  | number n => simp [scalarText?, spelling, IsScalar.number]
  | text t => simp [scalarText?, spelling, IsScalar.text]
  | null | sequence | mapping | tagged => exact iff_of_false nofun (nofun ∘ And.left)

theorem scalarText?_eq_none_iff : v.scalarText? = none ↔ ¬ v.IsScalar := by
  cases v with
  | boolean b => exact iff_of_false nofun (not_not_intro (.boolean b))
  | number n => exact iff_of_false nofun (not_not_intro (.number n))
  | text t => exact iff_of_false nofun (not_not_intro (.text t))
  | null | sequence | mapping | tagged => exact iff_of_true rfl nofun

/-- A number or a truth value and a text that is its text. -/
inductive Echoes : Value → Value → Prop
  | boolean (b : Bool) : Echoes (.boolean b) (.text (spelling (.boolean b)))
  | number (a : Number) : Echoes (.number a) (.text a.text)

/-- Two scalars of different kinds with one text. -/
def LookAlike (v w : Value) : Prop := v.Echoes w ∨ w.Echoes v

theorem Echoes.spelling_eq (h : v.Echoes w) : v.spelling = w.spelling := by
  cases h <;> rfl

/-- A scalar is a text, or its text as a plain scalar stands for it. -/
theorem plainValue?_spelling (sound : v.IsSound) (scalar : v.IsScalar) :
    v = .text v.spelling ∨ plainValue? v.spelling.toList = some v ∧ v.Echoes (.text v.spelling) := by
  cases scalar with
  | boolean b => cases b <;> exact .inr ⟨rfl, .boolean _⟩
  | number a =>
    cases sound with
    | number canonical => exact .inr ⟨plainValue?_text canonical, .number a⟩
  | text s => exact .inl rfl

theorem same_self (scalar : v.IsScalar) : v.same v = true := by
  cases scalar with
  | boolean b => simp [same]
  | number a => cases a <;> simp [same, Number.same, Binary64.equals]
  | text s => simp [same]

/-- **Two scalars that differ have one text only if one of them is a text and the other one is not.** -/
theorem spelling_eq_iff (sound : v.IsSound) (sound' : w.IsSound) (scalar : v.IsScalar) (scalar' : w.IsScalar)
    (differ : v.same w = false) : v.spelling = w.spelling ↔ v.LookAlike w := by
  constructor
  · intro same
    have other : v ≠ w := by
      rintro rfl
      rw [same_self scalar] at differ
      cases differ
    obtain text | ⟨plain, echoes⟩ := plainValue?_spelling sound scalar
    · obtain text' | ⟨plain', echoes'⟩ := plainValue?_spelling sound' scalar'
      · exact absurd (by rw [text, text', same]) other
      · exact .inr (by rw [text, same]; exact echoes')
    · obtain text' | ⟨plain', echoes'⟩ := plainValue?_spelling sound' scalar'
      · exact .inl (by rw [text', ← same]; exact echoes)
      · rw [same, plain'] at plain
        exact absurd (Option.some.inj plain).symm other
  · rintro (echoes | echoes)
    · exact echoes.spelling_eq
    · exact echoes.spelling_eq.symm

end Value

end GovernedExpr.Yaml
