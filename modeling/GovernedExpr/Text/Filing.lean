/-!
# Filing under names

Items that have names are kept in a list in ascending order of their names, no two under one name.

* `fileBy` files an item under its name, in place of an earlier one;
* `pairwise_fileBy` says that the list stays in ascending order, `find?_fileBy` which items are
  found in it then.
-/

namespace GovernedExpr.Text

variable {α : Type} {name : α → String}

/-- File an item in an ascending list, in place of an item of its name. -/
def fileBy (name : α → String) (a : α) : List α → List α
  | [] => [a]
  | b :: rest =>
    if name a = name b then a :: rest
    else if name a < name b then a :: b :: rest
    else b :: fileBy name a rest

theorem mem_fileBy {a b : α} {items : List α} (h : b ∈ fileBy name a items) : b = a ∨ b ∈ items := by
  induction items with
  | nil => exact .inl (List.mem_singleton.1 h)
  | cons first rest ih => grind [fileBy]

/-- Filing keeps a list in ascending order. -/
theorem pairwise_fileBy {items : List α} (h : items.Pairwise fun a b => name a < name b) (a : α) :
    (fileBy name a items).Pairwise fun a b => name a < name b := by
  induction items with
  | nil => exact List.pairwise_singleton _ _
  | cons first rest ih =>
    obtain ⟨least, ascending⟩ := List.pairwise_cons.1 h
    unfold fileBy
    split
    next same => exact List.pairwise_cons.2 ⟨fun b hb => same ▸ least b hb, ascending⟩
    next other =>
      split
      next before =>
        refine List.pairwise_cons.2 ⟨fun b hb => ?_, h⟩
        obtain rfl | hb := List.mem_cons.1 hb
        · exact before
        · exact String.lt_trans before (least b hb)
      next behind =>
        refine List.pairwise_cons.2 ⟨fun b hb => ?_, ih ascending⟩
        obtain rfl | hb := mem_fileBy hb
        · exact Std.lt_of_le_of_ne (String.not_lt.1 behind) (Ne.symm other)
        · exact least b hb

/-- Filing an item changes what is found under its name only. -/
theorem find?_fileBy (a : α) (items : List α) (s : String) :
    (fileBy name a items).find? (fun b => name b = s) =
      if s = name a then some a else items.find? fun b => name b = s := by
  induction items with
  | nil => grind [fileBy]
  | cons b rest ih => grind [fileBy]

end GovernedExpr.Text
