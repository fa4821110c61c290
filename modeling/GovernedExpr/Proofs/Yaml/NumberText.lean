import GovernedExpr.Proofs.Decimal.Shortest
import GovernedExpr.Proofs.Text.Decimal
import GovernedExpr.Yaml.Value
import Mathlib.Tactic.IntervalCases

/-!
# The texts of numbers

The text of a number of a document is its canonical form, and the number is read from that text again.

* `Spells` says that a text is a decimal with a point or an exponent, and which one;
* `spells_decimalText` says so of the texts of finite numbers;
* `decimal?_eq_of_spells` says what is read from such a text;
* `Number.IsCanonical` says that a number is one that documents have, and `plainValue?_text` is the statement
  about its text.
-/

namespace GovernedExpr.Yaml

open Text

variable {cs : List Char} {n : Nat} {negative : Bool}

/-! ### Digits -/

theorem isDecimal_eq_isDigit (c : Char) : isDecimal c = c.isDigit := rfl

theorem isDigit_iff {c : Char} : c.isDigit = true ↔ '0' ≤ c ∧ c ≤ '9' := by
  rw [← isDecimal_eq_isDigit, isDecimal, Bool.and_eq_true, decide_eq_true_eq, decide_eq_true_eq]

theorem digitIn?_ten (c : Char) :
    digitIn? 10 c = if c.isDigit then some (c.toNat - '0'.toNat) else none := by
  have size (a b : Char) : a ≤ b ↔ a.toNat ≤ b.toNat := Iff.rfl
  unfold digitIn?
  simp only [isDigit_iff]
  split
  · next digit =>
    have : c.toNat - '0'.toNat < 10 := by
      simp only [size] at digit
      have : '9'.toNat = '0'.toNat + 9 := rfl
      omega
    simp only [Option.filter_some, this, decide_true, if_true]
  · -- a letter is a digit of greater bases only
    split <;> [skip; split] <;> simp

/-- The value of a run of digits. -/
theorem naturalIn?_ten_eq_some_iff : naturalIn? 10 cs = some n ↔
    cs ≠ [] ∧ (∀ c ∈ cs, c.isDigit = true) ∧ Nat.ofDigitChars 10 cs 0 = n := by
  have loop (init : Nat) (cs : List Char) :
      cs.foldlM (fun n c => (digitIn? 10 c).map fun d => n * 10 + d) init = some n ↔
        (∀ c ∈ cs, c.isDigit = true) ∧ Nat.ofDigitChars 10 cs init = n := by
    induction cs generalizing init with
    | nil => simp
    | cons c cs ih =>
      rw [List.foldlM_cons, digitIn?_ten, List.forall_mem_cons, Nat.ofDigitChars_cons]
      cases hc : c.isDigit with
      | false => simp
      | true => simp [ih, mul_comm]
  cases cs with
  | nil => simp [naturalIn?]
  | cons c cs =>
    rw [naturalIn?, loop]
    · simp
    · simp

theorem naturalIn?_ten_eq_none {c : Char} (member : c ∈ cs) (h : c.isDigit = false) : naturalIn? 10 cs = none := by
  cases found : naturalIn? 10 cs with
  | none => rfl
  | some n =>
    have := (naturalIn?_ten_eq_some_iff.1 found).2.1 c member
    rw [h] at this
    cases this

/-- The value of a decimal form. -/
theorem naturalIn?_ten_repr (n : Nat) : naturalIn? 10 n.repr.toList = some n := by
  rw [naturalIn?_ten_eq_some_iff]
  refine ⟨by simp, fun c hc => isDigit_of_mem_repr hc, ?_⟩
  rw [Nat.toList_repr, Nat.ofDigitChars_ten_toDigits]

/-- An exponent is read from its decimal form. -/
theorem exponent?_repr (i : Int) : exponent? i.repr.toList = some i := by
  rw [toList_repr_int]
  split
  · next nonneg =>
    have unsigned {c : Char} {rest : List Char} (h : i.toNat.repr.toList = c :: rest) : c.isDigit = true :=
      isDigit_of_mem_repr (h ▸ List.mem_cons_self)
    unfold exponent?
    split
    · next same => exact absurd (unsigned same) (by decide)
    · next same => exact absurd (unsigned same) (by decide)
    · rw [naturalIn?_ten_repr, Option.map_some, Int.toNat_of_nonneg nonneg]
  · next negative =>
    have size : ((-i).toNat : Int) = -i := Int.toNat_of_nonneg (by omega)
    simp only [exponent?, naturalIn?_ten_repr, Option.map_some, size, Int.neg_neg]

/-! ### Decimals -/

/-- The text of an exponent, if there is one. -/
def exponentText : Option Int → List Char
  | none => []
  | some i => 'e' :: i.repr.toList

/-- A text with a point or an exponent spells a decimal, by its digits and the place of the last one. -/
inductive Spells (cs : List Char) (n : Nat) (place : Int) : Prop
  | point (whole fraction : List Char) (mark : Option Int)
      (text : cs = whole ++ '.' :: (fraction ++ exponentText mark)) (some_digit : whole ≠ [])
      (digits : ∀ c ∈ whole ++ fraction, c.isDigit = true)
      (value : Nat.ofDigitChars 10 (whole ++ fraction) 0 = n) (last : mark.getD 0 - fraction.length = place)
  | exponent (whole : List Char) (text : cs = whole ++ exponentText (some place)) (some_digit : whole ≠ [])
      (digits : ∀ c ∈ whole, c.isDigit = true) (value : Nat.ofDigitChars 10 whole 0 = n)

/-- A run of digits and what follows it. -/
theorem takeWhile_digits {digits : List Char} (rest : List Char) (h : ∀ c ∈ digits, c.isDigit = true)
    (stop : ∀ c ∈ rest.head?, c.isDigit = false) :
    (digits ++ rest).takeWhile isDecimal = digits ∧ (digits ++ rest).dropWhile isDecimal = rest := by
  have decimal : ∀ c ∈ digits, isDecimal c = true := h
  rw [List.takeWhile_append_of_pos decimal, List.dropWhile_append_of_pos decimal]
  cases rest with
  | nil => simp
  | cons c rest =>
    have : isDecimal c = false := stop c rfl
    simp [this]

theorem isDigit_eq_false_of_mem_head?_exponentText (mark : Option Int) :
    ∀ c ∈ (exponentText mark).head?, c.isDigit = false := by
  cases mark with
  | none => simp [exponentText]
  | some i => simp [exponentText]

/-- What is read from a text that spells a decimal is that decimal, rounded. -/
theorem decimal?_eq_of_spells {place : Int} (h : Spells cs n place) :
    decimal? negative cs = Binary64.ofDecimal? negative n place := by
  cases h with
  | point whole fraction mark text some_digit digits value last =>
    subst text last
    obtain ⟨inWhole, inFraction⟩ := List.forall_mem_append.1 digits
    have natural : naturalIn? 10 (whole ++ fraction) = some n :=
      naturalIn?_ten_eq_some_iff.2 ⟨by simp [some_digit], digits, value⟩
    have point := takeWhile_digits ('.' :: (fraction ++ exponentText mark)) inWhole (by simp)
    have exponent := takeWhile_digits _ inFraction (isDigit_eq_false_of_mem_head?_exponentText mark)
    simp only [decimal?, point, exponent, natural]
    cases mark with
    | none => rfl
    | some i => simp only [exponentText, exponent?_repr, Option.bind_some, Option.getD_some]
  | exponent whole text some_digit digits value =>
    subst text
    have natural : naturalIn? 10 whole = some n := naturalIn?_ten_eq_some_iff.2 ⟨some_digit, digits, value⟩
    have exponent := takeWhile_digits _ digits (isDigit_eq_false_of_mem_head?_exponentText (some place))
    rw [decimal?, exponent.1, exponent.2]
    simp [exponentText, natural, exponent?_repr]

section Digits

variable {ds : List Char}

theorem isDigit_of_mem_zeros {k : Nat} : ∀ c ∈ List.replicate k '0', c.isDigit = true := by
  intro c hc
  rw [List.eq_of_mem_replicate hc]
  rfl

/-- Digits with zeros behind them. -/
theorem spells_integer (digits : ∀ c ∈ ds, c.isDigit = true) (some_digit : ds ≠ []) (k : Nat) :
    Spells (ds ++ List.replicate k '0' ++ ['.', '0']) (Nat.ofDigitChars 10 ds 0 * 10 ^ (k + 1)) (-1) := by
  refine .point (ds ++ List.replicate k '0') ['0'] none rfl (by simp [some_digit]) ?_ ?_ rfl
  · simp only [List.forall_mem_append]
    exact ⟨⟨digits, isDigit_of_mem_zeros⟩, by simp⟩
  · rw [Nat.ofDigitChars_append, Nat.ofDigitChars_append, Nat.ofDigitChars_replicate_zero, Nat.ofDigitChars_cons,
      Nat.ofDigitChars_nil, Nat.sub_self, Nat.add_zero, pow_succ]
    ring

/-- Digits with a point between them. -/
theorem spells_inside (digits : ∀ c ∈ ds, c.isDigit = true) {k : Nat} (front : 0 < k) (back : k ≤ ds.length) :
    Spells (ds.take k ++ '.' :: ds.drop k) (Nat.ofDigitChars 10 ds 0) (k - ds.length) := by
  refine .point (ds.take k) (ds.drop k) none (by simp [exponentText]) ?_ (by simpa using digits) (by simp) ?_
  · rw [← List.length_pos_iff, List.length_take]
    omega
  · rw [Option.getD_none, List.length_drop]
    omega

/-- Digits behind a point and zeros. -/
theorem spells_small (digits : ∀ c ∈ ds, c.isDigit = true) (k : Nat) :
    Spells ('0' :: '.' :: (List.replicate k '0' ++ ds)) (Nat.ofDigitChars 10 ds 0) (-(k + ds.length)) := by
  refine .point ['0'] (List.replicate k '0' ++ ds) none (by simp [exponentText]) (by simp) ?_ ?_ ?_
  · simp only [List.forall_mem_append]
    exact ⟨by simp, isDigit_of_mem_zeros, digits⟩
  · rw [Nat.ofDigitChars_append, Nat.ofDigitChars_append, Nat.ofDigitChars_replicate_zero, Nat.ofDigitChars_cons,
      Nat.ofDigitChars_nil, Nat.sub_self, Nat.mul_zero]
  · rw [Option.getD_none, List.length_append, List.length_replicate]
    omega

/-- Digits, a point behind the first one, and an exponent. -/
theorem spells_mantissa (digits : ∀ c ∈ ds, c.isDigit = true) (some_digit : ds ≠ []) (i : Int) :
    Spells (mantissaText ds ++ 'e' :: i.repr.toList) (Nat.ofDigitChars 10 ds 0) (i + 1 - ds.length) := by
  match ds, some_digit with
  | [d], _ => exact .exponent [d] (by simp [mantissaText, exponentText]) (by simp) digits rfl
  | d :: d' :: others, _ =>
    refine .point [d] (d' :: others) (some i) (by simp [mantissaText, exponentText]) (by simp) digits rfl ?_
    simp only [Option.getD_some, List.length_cons]
    omega

/-- The text of a decimal spells an equal one. -/
theorem spells_decimalText {n : Nat} (place : Int) (h : 0 < n) :
    ∃ (n' : Nat) (place' : Int), 0 < n' ∧ (n' * 10 ^ place' : ℚ) = n * 10 ^ place ∧
      Spells (decimalText n place) n' place' := by
  obtain ⟨ds, hds⟩ : ∃ ds, Nat.toDigits 10 n = ds := ⟨_, rfl⟩
  have digits : ∀ c ∈ ds, c.isDigit = true := fun c hc =>
    Nat.isDigit_of_mem_toDigits (by decide) (by decide) (hds ▸ hc)
  have value : Nat.ofDigitChars 10 ds 0 = n := by rw [← hds, Nat.ofDigitChars_ten_toDigits]
  have some_digit : ds ≠ [] := hds ▸ Nat.toDigits_ne_nil
  have integer := spells_integer digits some_digit place.toNat
  have inside := spells_inside digits (k := ((ds.length : Int) + place).toNat)
  have small := spells_small digits (-((ds.length : Int) + place)).toNat
  have mantissa := spells_mantissa digits some_digit ((ds.length : Int) + place - 1)
  rw [value] at integer inside small mantissa
  unfold decimalText
  simp only [hds]
  split
  · next whole =>
    refine ⟨_, _, by positivity, ?_, integer⟩
    obtain ⟨k, rfl⟩ := Int.eq_ofNat_of_zero_le whole.1
    push_cast
    rw [Int.toNat_natCast, zpow_natCast, zpow_neg_one, pow_succ]
    ring
  · next fractional =>
    refine ⟨n, place, h, rfl, ?_⟩
    split
    · next between =>
      convert inside (by omega) (by omega) using 1
      omega
    · split
      · convert small using 1
        omega
      · rwa [show (ds.length : Int) + place - 1 + 1 - ds.length = place by omega] at mantissa

end Digits

/-! ### Words -/

/-- A text begins with a digit, behind a minus sign if there is one. -/
def startsWithDigit (cs : List Char) : Bool :=
  (cs.dropWhile (· = '-')).head?.any Char.isDigit

/-- The text of a sign. -/
def signText (negative : Bool) : List Char := if negative then ['-'] else []

theorem startsWithDigit_signed (negative : Bool) {c : Char} (digit : c.isDigit = true) (rest : List Char) :
    startsWithDigit (signText negative ++ c :: rest) = true := by
  have no_sign : c ≠ '-' := by
    rintro rfl
    cases digit
  cases negative <;> simp [signText, startsWithDigit, no_sign, digit]

theorem isEmpty_eq_false (h : startsWithDigit cs = true) : cs.isEmpty = false := by
  cases cs with
  | nil => cases h
  | cons c rest => rfl

/-- A text that begins with a digit is none of several words that do not. -/
theorem not_contains_ofList {words : List String} (h : startsWithDigit cs = true)
    (others : ∀ w ∈ words, startsWithDigit w.toList = false) : ¬ words.contains (String.ofList cs) = true := by
  rw [List.contains_iff_mem]
  intro member
  have := others _ member
  rw [String.toList_ofList, h] at this
  cases this

theorem special?_eq_none (h : startsWithDigit cs = true) : special? cs = none := by
  unfold special?
  exact (if_neg (not_contains_ofList h (by decide))).trans <|
    (if_neg (not_contains_ofList h (by decide))).trans <| if_neg (not_contains_ofList h (by decide))

theorem isNull_eq_false (h : startsWithDigit cs = true) : isNull cs = false :=
  Bool.eq_false_iff.2 (not_contains_ofList h (by decide))

theorem boolean?_eq_none (h : startsWithDigit cs = true) : boolean? cs = none := by
  unfold boolean?
  exact (if_neg (not_contains_ofList h (by decide))).trans <| if_neg (not_contains_ofList h (by decide))

/-- A base is named by one of three letters. -/
theorem inNamedBase?_eq_none (hx : 'x' ∉ cs) (ho : 'o' ∉ cs) (hb : 'b' ∉ cs) : inNamedBase? cs = none := by
  unfold inNamedBase?
  split
  · exact absurd (by simp) hx
  · exact absurd (by simp) ho
  · exact absurd (by simp) hb
  · rfl

/-! ### Decimals as plain texts -/

namespace Spells

variable {place : Int}

theorem exists_cons (h : Spells cs n place) : ∃ c rest, cs = c :: rest ∧ c.isDigit = true := by
  have head {whole rest : List Char} (some_digit : whole ≠ []) (digits : ∀ c ∈ whole, c.isDigit = true) :
      ∃ c others, whole ++ rest = c :: others ∧ c.isDigit = true := by
    obtain ⟨c, others, rfl⟩ := List.exists_cons_of_ne_nil some_digit
    exact ⟨c, others ++ rest, rfl, digits c List.mem_cons_self⟩
  cases h with
  | point whole fraction mark text some_digit digits =>
    exact text ▸ head some_digit (List.forall_mem_append.1 digits).1
  | exponent whole text some_digit digits => exact text ▸ head some_digit digits

/-- The characters of a decimal, of which one is no digit. -/
theorem characters (h : Spells cs n place) :
    (∀ c ∈ cs, c.isDigit = true ∨ c ∈ ['.', 'e', '-']) ∧ ∃ c ∈ cs, c ∈ ['.', 'e'] := by
  have exponent (mark : Option Int) : ∀ c ∈ exponentText mark, c.isDigit = true ∨ c ∈ ['.', 'e', '-'] := by
    cases mark with
    | none => simp [exponentText]
    | some i =>
      intro c hc
      obtain rfl | hc := List.mem_cons.1 hc
      · simp
      · exact (mem_repr_int hc).symm.imp_right (by rintro rfl; simp)
  cases h with
  | point whole fraction mark text some_digit digits =>
    subst text
    obtain ⟨inWhole, inFraction⟩ := List.forall_mem_append.1 digits
    simp only [List.forall_mem_append, List.forall_mem_cons]
    exact ⟨⟨fun c hc => .inl (inWhole c hc), .inr (by simp), fun c hc => .inl (inFraction c hc), exponent mark⟩,
      '.', by simp, by simp⟩
  | exponent whole text some_digit digits =>
    subst text
    simp only [List.forall_mem_append]
    exact ⟨⟨fun c hc => .inl (digits c hc), exponent _⟩, 'e', by simp [exponentText], by simp⟩

theorem not_mem (h : Spells cs n place) {c : Char} (other : c.isDigit = false) (mark : c ∉ ['.', 'e', '-']) :
    c ∉ cs := by
  intro member
  obtain digit | known := h.characters.1 c member
  · rw [other] at digit
    cases digit
  · exact mark known

theorem exists_mem (h : Spells cs n place) : ∃ c ∈ cs, c.isDigit = false := by
  obtain ⟨c, member, mark⟩ := h.characters.2
  refine ⟨c, member, ?_⟩
  simp only [List.mem_cons, List.not_mem_nil, or_false] at mark
  obtain rfl | rfl := mark <;> rfl

/-- What a decimal spells is no integer. -/
theorem magnitude?_eq_none (h : Spells cs n place) : magnitude? cs = none := by
  obtain ⟨c, member, noDigit⟩ := h.exists_mem
  have unnamed : inNamedBase? cs = none :=
    inNamedBase?_eq_none (h.not_mem rfl (by decide)) (h.not_mem rfl (by decide)) (h.not_mem rfl (by decide))
  rw [magnitude?, unnamed, naturalIn?_ten_eq_none member noDigit, ite_self, Option.none_or]

theorem startsWithDigit (h : Spells cs n place) (negative : Bool) : startsWithDigit (signText negative ++ cs) = true := by
  obtain ⟨c, rest, rfl, digit⟩ := h.exists_cons
  exact startsWithDigit_signed negative digit rest

theorem ne_cons (h : Spells cs n place) {c : Char} (other : c.isDigit = false) (rest : List Char) :
    cs ≠ c :: rest := by
  obtain ⟨_, _, rfl, digit⟩ := h.exists_cons
  rintro ⟨⟩
  rw [other] at digit
  cases digit

theorem integer?_signed (h : Spells cs n place) : integer? (signText negative ++ cs) = none := by
  cases negative with
  | true => simp [signText, integer?, h.magnitude?_eq_none]
  | false =>
    change integer? cs = none
    rw [integer?, h.magnitude?_eq_none, Option.map_none]
    · exact fun rest => h.ne_cons (by decide) rest
    · exact fun rest => h.ne_cons (by decide) rest

theorem hasIdleZero_signed (h : Spells cs n place) : hasIdleZero (signText negative ++ cs) = false := by
  obtain ⟨c, member, noDigit⟩ := h.exists_mem
  have same : unsigned (signText negative ++ cs) = cs := by
    cases negative with
    | true => rfl
    | false =>
      change unsigned cs = cs
      rw [unsigned]
      · exact fun rest => h.ne_cons (by decide) rest
      · exact fun rest => h.ne_cons (by decide) rest
  rw [hasIdleZero, same]
  split
  · next first rest =>
    have later : c ∈ first :: rest := (List.mem_cons.1 member).resolve_left (by rintro rfl; cases noDigit)
    exact List.all_eq_false.2 ⟨c, later, by simp [isDecimal_eq_isDigit, noDigit]⟩
  · rfl

theorem float?_signed (h : Spells cs n place) :
    float? (signText negative ++ cs) = (Binary64.ofDecimal? negative n place).map .finite := by
  unfold float?
  rw [special?_eq_none (h.startsWithDigit negative)]
  cases negative with
  | true => rw [← decimal?_eq_of_spells h]; rfl
  | false =>
    simp only [signText, Bool.false_eq_true, if_false, List.nil_append]
    split
    · exact absurd rfl (h.ne_cons (by decide) _)
    · exact absurd rfl (h.ne_cons (by decide) _)
    · rw [decimal?_eq_of_spells h]

/-- What a plain text that spells a decimal stands for. -/
theorem plainValue?_signed (h : Spells cs n place) {x : Binary64}
    (rounded : Binary64.ofDecimal? negative n place = some x) :
    plainValue? (signText negative ++ cs) = some (.number (.finite x)) := by
  have digit := h.startsWithDigit negative
  have inexact : inexactValue (signText negative ++ cs) = .number (.finite x) := by
    rw [inexactValue, h.hasIdleZero_signed, h.float?_signed, rounded]
    rfl
  rw [plainValue?, isEmpty_eq_false digit, isNull_eq_false digit, boolean?_eq_none digit, h.integer?_signed,
    ← inexact]
  rfl

end Spells

/-! ### The texts of numbers -/

/-- A number of a document: an integer of 64 bits, with or without a sign, or a number of floating point. -/
def Number.IsCanonical : Number → Prop
  | .integer i => fits 64 i = true
  | .finite x => x.IsCanonical
  | _ => True

/-- The text of a finite number stands for that number. -/
theorem plainValue?_finiteText {x : Binary64} (hx : x.IsCanonical) :
    plainValue? (finiteText x).toList = some (.number (.finite x)) := by
  unfold finiteText
  obtain zero | positive := Nat.eq_zero_or_pos x.mantissa
  · have spells : Spells ['0', '.', '0'] 0 (-1) := .point ['0'] ['0'] none rfl (by simp) (by simp) rfl rfl
    have same : Binary64.zero x.negative = x := by
      have least : x.exponent = Binary64.leastExponent := hx.normal.resolve_left (by rw [zero]; norm_num)
      rw [Binary64.zero, ← zero, ← least]
    rw [if_pos zero, String.toList_ofList]
    exact spells.plainValue?_signed (by rw [Binary64.ofDecimal?_zero, same])
  · obtain ⟨n, place, some_digit, value, spells⟩ :=
      spells_decimalText x.shortest.2 (Binary64.shortest_pos hx positive)
    rw [if_neg positive.ne', String.toList_ofList]
    exact spells.plainValue?_signed (Binary64.ofDecimal?_of_eq_shortest hx positive some_digit value)

/-- The digits of a number begin with a zero only if it is zero. -/
theorem head?_toDigits_ne {k : Nat} (h : 0 < k) : (Nat.toDigits 10 k).head? ≠ some '0' := by
  induction k using Nat.strong_induction_on with
  | _ k ih =>
    rw [Nat.toDigits_eq_if (by norm_num)]
    split
    · next small =>
      interval_cases k <;> decide
    · next large =>
      have shorter := ih (k / 10) (by omega) (by omega)
      obtain ⟨c, rest, same⟩ := List.exists_cons_of_ne_nil (Nat.toDigits_ne_nil : Nat.toDigits 10 (k / 10) ≠ [])
      rw [same] at shorter ⊢
      exact shorter

theorem exists_repr_eq_cons (k : Nat) : ∃ c rest, k.repr.toList = c :: rest ∧ c.isDigit = true := by
  obtain ⟨c, rest, same⟩ := List.exists_cons_of_ne_nil (by simp : k.repr.toList ≠ [])
  exact ⟨c, rest, same, isDigit_of_mem_repr (same ▸ List.mem_cons_self)⟩

theorem hasIdleZero_repr (k : Nat) : hasIdleZero k.repr.toList = false := by
  have same : unsigned k.repr.toList = k.repr.toList := by
    obtain ⟨c, rest, same, digit⟩ := exists_repr_eq_cons k
    rw [same, unsigned]
    · rintro rest ⟨⟩
      cases digit
    · rintro rest ⟨⟩
      cases digit
  rw [hasIdleZero, same]
  split
  · next c rest first =>
    obtain rfl | positive := Nat.eq_zero_or_pos k
    · cases first
    · rw [Nat.toList_repr] at first
      exact absurd (congrArg List.head? first) (head?_toDigits_ne positive)
  · rfl

/-- The text of a number is read as that number. -/
theorem magnitude?_repr (k : Nat) : magnitude? k.repr.toList = some k := by
  have digits {c : Char} (other : c.isDigit = false) : c ∉ k.repr.toList := fun hc => by
    rw [isDigit_of_mem_repr hc] at other
    cases other
  have unnamed : inNamedBase? k.repr.toList = none :=
    inNamedBase?_eq_none (digits rfl) (digits rfl) (digits rfl)
  rw [magnitude?, unnamed, hasIdleZero_repr, naturalIn?_ten_repr]
  rfl

/-- The text of an integer is read as that integer. -/
theorem integer?_repr (i : Int) : Yaml.integer? i.repr.toList = some i := by
  rw [toList_repr_int]
  split
  · next nonneg =>
    have digits : ∀ c ∈ i.toNat.repr.toList, c.isDigit = true := fun c hc => isDigit_of_mem_repr hc
    unfold Yaml.integer?
    split
    · next same => exact absurd (digits '+' (by simp [same])) (by decide)
    · next same => exact absurd (digits '-' (by simp [same])) (by decide)
    · rw [magnitude?_repr, Option.map_some, Int.toNat_of_nonneg nonneg]
  · next negative =>
    rw [Yaml.integer?, magnitude?_repr, Option.map_some, Int.toNat_of_nonneg (by omega), Int.neg_neg]

theorem startsWithDigit_repr (i : Int) : startsWithDigit i.repr.toList = true := by
  rw [toList_repr_int]
  split
  · obtain ⟨c, rest, same, digit⟩ := exists_repr_eq_cons i.toNat
    exact same ▸ startsWithDigit_signed false digit rest
  · obtain ⟨c, rest, same, digit⟩ := exists_repr_eq_cons (-i).toNat
    exact same ▸ startsWithDigit_signed true digit rest

/-- The text of an integer stands for that integer. -/
theorem plainValue?_repr {i : Int} (h : fits 64 i = true) :
    plainValue? i.repr.toList = some (.number (.integer i)) := by
  have digit := startsWithDigit_repr i
  rw [plainValue?, isEmpty_eq_false digit, isNull_eq_false digit, boolean?_eq_none digit, integer?_repr]
  simp [h]

/-- **The text of a number of a document stands for that number.** -/
theorem plainValue?_text {a : Number} (h : a.IsCanonical) : plainValue? a.text.toList = some (.number a) := by
  cases a with
  | integer i => exact plainValue?_repr h
  | finite x => exact plainValue?_finiteText h
  | infinity negative => cases negative <;> rfl
  | nan => rfl

theorem isCanonical_of_special? {a : Number} (h : special? cs = some a) : a.IsCanonical := by
  unfold special? at h
  dsimp only at h
  split at h
  · cases h
    trivial
  · split at h
    · cases h
      trivial
    · obtain ⟨-, h⟩ := Option.ite_none_right_eq_some.1 h
      cases h
      trivial

/-- What is read as a number of floating point is one. -/
theorem isCanonical_of_float? {a : Number} (h : float? cs = some a) : a.IsCanonical := by
  have finite {negative : Bool} {rest : List Char} (h : (decimal? negative rest).map .finite = some a) :
      a.IsCanonical := by
    obtain ⟨x, hx, rfl⟩ := Option.map_eq_some_iff.1 h
    unfold decimal? at hx
    dsimp only at hx
    split at hx
    · cases hx
    · obtain ⟨e, -, rounded⟩ := Option.bind_eq_some_iff.1 hx
      exact Binary64.isCanonical_of_ofDecimal? rounded
  unfold float? at h
  split at h
  · next special =>
    cases h
    exact isCanonical_of_special? special
  · split at h
    · exact finite h
    · exact finite h
    · exact finite h

end GovernedExpr.Yaml
