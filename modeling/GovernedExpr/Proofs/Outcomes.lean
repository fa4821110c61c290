import Mathlib.Data.List.Forall2

/-!
# Computations that may fail

A computation that may fail comes to a value or to an error.  One that goes on from another fails
with the error of the first, and a loop with the error of the first round that fails.

* `bind_eq_ok_iff`, `bind_eq_error_iff`, `mapError_eq_ok_iff` and `mapError_eq_error_iff` take a
  computation apart by what it comes to;
* `FirstFault` says what is wrong with the first member of a list with which something is wrong;
* `mapM_eq_ok_iff` and `mapM_eq_error_iff` say what a loop comes to, `foldlM_eq_ok_induction` what
  its rounds keep, and `mapM_filterMap` and `foldlM_filterMap` what a loop comes to that passes over
  members.
-/

namespace GovernedExpr

/-! ### One step after the other -/

section Steps

variable {ε ε' α β : Type}

theorem bind_eq_ok_iff {x : Except ε α} {f : α → Except ε β} {b : β} :
    x >>= f = .ok b ↔ ∃ a, x = .ok a ∧ f a = .ok b := by
  cases x with
  | error e => simp [bind, Except.bind]
  | ok a => simp [bind, Except.bind]

theorem bind_eq_error_iff {x : Except ε α} {f : α → Except ε β} {e : ε} :
    x >>= f = .error e ↔ x = .error e ∨ ∃ a, x = .ok a ∧ f a = .error e := by
  cases x with
  | error e' => simp [bind, Except.bind]
  | ok a => simp [bind, Except.bind]

theorem mapError_eq_ok_iff {x : Except ε α} {f : ε → ε'} {a : α} :
    x.mapError f = .ok a ↔ x = .ok a := by
  cases x with
  | error e =>
    show (.error (f e) : Except ε' α) = .ok a ↔ _
    simp
  | ok b =>
    show (.ok b : Except ε' α) = .ok a ↔ _
    simp

theorem mapError_eq_error_iff {x : Except ε α} {f : ε → ε'} {e : ε'} :
    x.mapError f = .error e ↔ ∃ cause, x = .error cause ∧ f cause = e := by
  cases x with
  | error cause =>
    show (.error (f cause) : Except ε' α) = .error e ↔ _
    simp
  | ok a =>
    show (.ok a : Except ε' α) = .error e ↔ _
    simp

theorem toOption_eq_some_iff {x : Except ε α} {a : α} : x.toOption = some a ↔ x = .ok a := by
  cases x <;> simp [Except.toOption]

theorem forall_not_error_iff {x : Except ε β} : (∀ e, x ≠ .error e) ↔ ∃ b, x = .ok b := by
  cases x <;> simp

end Steps

/-! ### Loops -/

section Loops

variable {α β γ ε : Type} {f : α → Except ε β} {l : List α} {e : ε}

/-- What is wrong with the first member of a list with which something is wrong. -/
def FirstFault (fault : α → ε → Prop) (l : List α) (e : ε) : Prop :=
  ∃ before a after, l = before ++ a :: after ∧ (∀ b ∈ before, ∀ e', ¬ fault b e') ∧ fault a e

variable {fault : α → ε → Prop}

theorem not_firstFault_nil : ¬ FirstFault fault [] e := by
  rintro ⟨before, a, after, h, -⟩
  exact List.cons_ne_nil _ _ (List.append_eq_nil_iff.1 h.symm).2

theorem firstFault_cons {a : α} : FirstFault fault (a :: l) e ↔
    fault a e ∨ (∀ e', ¬ fault a e') ∧ FirstFault fault l e := by
  constructor
  · rintro ⟨_ | ⟨b, before⟩, c, after, h, fine, wrong⟩
    · obtain ⟨rfl, rfl⟩ := List.cons.inj h
      exact .inl wrong
    · obtain ⟨rfl, rfl⟩ := List.cons.inj h
      rw [List.forall_mem_cons] at fine
      exact .inr ⟨fine.1, before, c, after, rfl, fine.2, wrong⟩
  · rintro (wrong | ⟨fine, before, c, after, rfl, others, wrong⟩)
    · exact ⟨[], a, l, rfl, by simp, wrong⟩
    · exact ⟨a :: before, c, after, rfl, List.forall_mem_cons.2 ⟨fine, others⟩, wrong⟩

theorem firstFault_map {g : γ → α} {l : List γ} :
    FirstFault fault (l.map g) e ↔ FirstFault (fun c => fault (g c)) l e := by
  induction l with
  | nil => exact iff_of_false not_firstFault_nil not_firstFault_nil
  | cons c l ih => rw [List.map_cons, firstFault_cons, firstFault_cons, ih]

theorem firstFault_congr {fault' : α → ε → Prop} (h : ∀ a ∈ l, ∀ e, fault a e ↔ fault' a e) :
    FirstFault fault l e ↔ FirstFault fault' l e := by
  induction l with
  | nil => exact iff_of_false not_firstFault_nil not_firstFault_nil
  | cons a l ih =>
    rw [List.forall_mem_cons] at h
    simp only [firstFault_cons, h.1, ih h.2]

theorem forall₂_congr_mem {R S : α → β → Prop} (h : ∀ a ∈ l, ∀ b, R a b ↔ S a b) {bs : List β} :
    List.Forall₂ R l bs ↔ List.Forall₂ S l bs := by
  induction l generalizing bs with
  | nil => simp
  | cons a l ih =>
    rw [List.forall_mem_cons] at h
    simp only [List.forall₂_cons_left_iff, h.1, ih h.2]

theorem mapM_congr_mem {g : α → Except ε β} (h : ∀ a ∈ l, f a = g a) : l.mapM f = l.mapM g := by
  induction l with
  | nil => rfl
  | cons a l ih =>
    rw [List.forall_mem_cons] at h
    rw [List.mapM_cons, List.mapM_cons, h.1, ih h.2]

/-- A loop comes to what its rounds come to. -/
theorem mapM_eq_ok_iff {bs : List β} :
    l.mapM f = .ok bs ↔ List.Forall₂ (fun a b => f a = .ok b) l bs := by
  induction l generalizing bs with
  | nil => simp [pure, Except.pure, eq_comm]
  | cons a l ih =>
    simp only [List.mapM_cons, bind_eq_ok_iff, pure, Except.pure, Except.ok.injEq, ih,
      List.forall₂_cons_left_iff]
    constructor
    · rintro ⟨b, first, bs, others, rfl⟩
      exact ⟨b, bs, first, others, rfl⟩
    · rintro ⟨b, bs, first, others, rfl⟩
      exact ⟨b, first, bs, others, rfl⟩

/-- A loop whose rounds succeed with known values comes to these values. -/
theorem mapM_eq_ok_iff_map {P : α → Prop} {g : α → β} (h : ∀ a b, f a = .ok b ↔ P a ∧ g a = b)
    {bs : List β} :
    l.mapM f = .ok bs ↔ (∀ a ∈ l, P a) ∧ l.map g = bs := by
  rw [mapM_eq_ok_iff]
  induction l generalizing bs with
  | nil => simp [eq_comm]
  | cons a l ih =>
    rw [List.forall₂_cons_left_iff, List.forall_mem_cons, List.map_cons]
    constructor
    · rintro ⟨b, bs, first, others, rfl⟩
      obtain ⟨holds, rfl⟩ := (h a b).1 first
      obtain ⟨all, rfl⟩ := ih.1 others
      exact ⟨⟨holds, all⟩, rfl⟩
    · rintro ⟨⟨holds, all⟩, rfl⟩
      exact ⟨_, _, (h a _).2 ⟨holds, rfl⟩, ih.2 ⟨all, rfl⟩, rfl⟩

/-- What a loop comes to is made of what its rounds come to. -/
theorem mem_iff_of_mapM_eq_ok {bs : List β} (h : l.mapM f = .ok bs) (b : β) :
    b ∈ bs ↔ ∃ a ∈ l, f a = .ok b := by
  rw [mapM_eq_ok_iff] at h
  induction h with
  | nil => simp
  | cons first _ ih => simp [ih, first, eq_comm]

/-- A loop succeeds if all of its rounds do. -/
theorem exists_mapM_eq_ok_iff : (∃ bs, l.mapM f = .ok bs) ↔ ∀ a ∈ l, ∃ b, f a = .ok b := by
  induction l with
  | nil => simp [pure, Except.pure]
  | cons a l ih =>
    simp only [List.forall_mem_cons, ← ih, List.mapM_cons, bind_eq_ok_iff, pure, Except.pure,
      Except.ok.injEq]
    constructor
    · rintro ⟨_, b, first, bs, others, -⟩
      exact ⟨⟨b, first⟩, bs, others⟩
    · rintro ⟨⟨b, first⟩, bs, others⟩
      exact ⟨_, b, first, bs, others, rfl⟩

/-- A loop fails with the error of the first round that fails. -/
theorem mapM_eq_error_iff : l.mapM f = .error e ↔ FirstFault (fun a e => f a = .error e) l e := by
  induction l with
  | nil => exact iff_of_false nofun not_firstFault_nil
  | cons a l ih =>
    simp only [firstFault_cons, ← ih, forall_not_error_iff, List.mapM_cons, bind_eq_error_iff, pure,
      Except.pure, reduceCtorEq, and_false, exists_false, or_false]
    simp only [exists_and_right]

/-- What holds at the start of a loop and is kept by its rounds holds at its end. -/
theorem foldlM_eq_ok_induction {motive : β → Prop} {f : β → α → Except ε β}
    {b b' : β} (h : l.foldlM f b = .ok b') (start : motive b)
    (round : ∀ b a b', motive b → f b a = .ok b' → motive b') : motive b' := by
  induction l generalizing b with
  | nil =>
    cases h
    exact start
  | cons a l ih =>
    rw [List.foldlM_cons, bind_eq_ok_iff] at h
    obtain ⟨next, hnext, h⟩ := h
    exact ih h (round b a next start hnext)

/-- A loop that passes over members comes to the loop over the others. -/
theorem mapM_filterMap {f : α → Except ε (Option β)} {g : α → Option γ} {h : γ → Except ε β}
    (passes : ∀ a, g a = none → f a = .ok none)
    (stays : ∀ a c, g a = some c → f a = (h c).map some) :
    (do let found ← l.mapM f; return found.filterMap fun b => b) = (l.filterMap g).mapM h := by
  induction l with
  | nil => rfl
  | cons a l ih =>
    cases ha : g a with
    | none =>
      rw [List.filterMap_cons_none ha, ← ih, List.mapM_cons, passes a ha]
      cases l.mapM f <;> rfl
    | some c =>
      rw [List.filterMap_cons_some ha, List.mapM_cons, List.mapM_cons, ← ih, stays a c ha]
      cases h c with
      | error e => rfl
      | ok b => cases l.mapM f <;> rfl

/-- A loop that passes over members and adds what comes of the others does so after it went through all
of them. -/
theorem foldlM_filterMap {f : β → α → Except ε β} {g : α → Option γ} {δ : Type} {h : γ → Except ε δ}
    {join : β → δ → β} (passes : ∀ b a, g a = none → f b a = .ok b)
    (stays : ∀ b a c, g a = some c → f b a = (h c).map (join b)) (b : β) :
    l.foldlM f b = ((l.filterMap g).mapM h).map fun ds => ds.foldl join b := by
  induction l generalizing b with
  | nil => rfl
  | cons a l ih =>
    cases ha : g a with
    | none =>
      rw [List.filterMap_cons_none ha, List.foldlM_cons, passes b a ha, ← ih]
      rfl
    | some c =>
      rw [List.filterMap_cons_some ha, List.mapM_cons, List.foldlM_cons, stays b a c ha]
      cases h c with
      | error e => rfl
      | ok d =>
        refine (ih (join b d)).trans ?_
        cases (l.filterMap g).mapM h <;> rfl

end Loops

end GovernedExpr
