import GovernedExpr.Unicode.Age
import GovernedExpr.Unicode.Boundary

/-!
# Finding a property by its name

Names of properties and of their values are compared loosely: letter case, blanks, hyphens and
underscores do not matter, characters outside ASCII are dropped, and so is a leading `is`.

* `looseName` is what remains of a name;
* `propertyNamed?` finds the set of a binary property, a general category or a script;
* `propertyValued?` finds the set of the characters that have a value of a property.
-/

namespace GovernedExpr.Unicode

open GovernedExpr.Text

/-- A name without case, separators, characters outside ASCII and a leading `is`. -/
def looseName (name : List Char) : String :=
  let kept (cs : List Char) : List Char :=
    (cs.filter fun c => c ≠ ' ' && c ≠ '_' && c ≠ '-' && c.toNat < 0x80).map Char.toLower
  match name with
  | i :: s :: rest =>
    if i.toLower = 'i' ∧ s.toLower = 's' then
      let rest := kept rest
      if rest = ['c'] then "isc" else String.ofList rest
    else String.ofList (kept name)
  | _ => String.ofList (kept name)

/-- The set that is listed under a name. -/
def setNamed? (table : List (List String × CodeSet)) (name : String) : Option CodeSet :=
  (table.find? fun (names, _) => names.contains name).map Prod.snd

/-- Three abbreviations name a general category although a property has them too. -/
def categoryFirst (name : String) : Bool :=
  name = "cf" || name = "sc" || name = "lc"

/-- The set of a binary property, of a general category or of a script. -/
def propertyNamed? (name : List Char) : Option CodeSet :=
  let name := looseName name
  let asProperty := if categoryFirst name then none else setNamed? Property.named name
  match asProperty with
  | some s => some s
  | none =>
    match setNamed? Category.named name with
    | some s => some s
    | none => (scriptNamed? name).map Script.own

/-- The set of the characters that have a value of a property. -/
def propertyValued? (name value : List Char) : Option CodeSet :=
  let name := looseName name
  let value := looseName value
  if name = "gc" || name = "generalcategory" then setNamed? Category.named value
  else if name = "sc" || name = "script" then (scriptNamed? value).map Script.own
  else if name = "scx" || name = "scriptextensions" then (scriptNamed? value).map Script.extended
  else if name = "age" then agedNamed? value
  else if name = "gcb" || name = "graphemeclusterbreak" then setNamed? Grapheme.named value
  else if name = "wb" || name = "wordbreak" then setNamed? Word.named value
  else if name = "sb" || name = "sentencebreak" then setNamed? Sentence.named value
  else none

end GovernedExpr.Unicode
