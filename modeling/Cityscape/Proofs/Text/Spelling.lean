import Cityscape.Text.Integer
import Mathlib.Tactic.Lemma

/-!
# Writing what is read

What text is read as, when it is written as it should be: blanks around a text are taken off again
(`trimChars_padded`), what is joined with separators is cut into the same fields
(`fields_intercalate`), and an integer in decimal is read as itself (`integer?_toString`). A pair of
integers puts these together (`pair?_padded`).
-/

namespace Cityscape.Text

/-! ## Blanks around a text -/

/-- A text with blanks around it, or without any. -/
def Padded (core text : List Char) : Prop :=
  ∃ before after, (∀ c ∈ before, isBlank c) ∧ (∀ c ∈ after, isBlank c) ∧
    text = before ++ (core ++ after)

/-- A text that neither begins nor ends with a blank. -/
structure Bare (text : List Char) : Prop where
  head : ∀ c ∈ text.head?, isBlank c = false
  last : ∀ c ∈ text.getLast?, isBlank c = false

section
variable {core text : List Char}

/-- A text may come with no blanks around it at all. -/
lemma Padded.refl (text : List Char) : Padded text text :=
  ⟨[], [], nofun, nofun, (List.append_nil text).symm⟩

/-- Dropping blanks from the front stops where a text begins that has none there. -/
lemma dropWhile_blanks {blanks : List Char} (blank : ∀ c ∈ blanks, isBlank c)
    (head : ∀ c ∈ text.head?, isBlank c = false) :
    (blanks ++ text).dropWhile isBlank = text := by
  rw [List.dropWhile_append_of_pos blank]
  cases text with
  | nil => rfl
  | cons c cs => exact List.dropWhile_cons_of_neg (Bool.not_eq_true _ ▸ head c rfl)

/-- Trimming takes the blanks around a text away, and no more. -/
lemma trimChars_padded (bare : Bare core) (h : Padded core text) : trimChars text = core := by
  obtain ⟨before, after, blank, blank', rfl⟩ := h
  have head : (before ++ (core ++ after)).dropWhile isBlank = (core ++ after).dropWhile isBlank :=
    List.dropWhile_append_of_pos blank
  rw [trimChars, head]
  cases core with
  | nil =>
    -- There are only blanks.
    have none : (after ++ []).dropWhile isBlank = [] := dropWhile_blanks blank' nofun
    rw [List.append_nil] at none
    rw [List.nil_append, none]
    rfl
  | cons c cs =>
    have visible : ¬isBlank c = true := Bool.not_eq_true _ ▸ bare.head c rfl
    have blanks : ∀ c ∈ after.reverse, isBlank c := fun c mem => blank' c (List.mem_reverse.1 mem)
    have last : ∀ d ∈ (c :: cs).reverse.head?, isBlank d = false := by
      rw [List.head?_reverse]
      exact bare.last
    rw [List.cons_append, List.dropWhile_cons_of_neg visible, ← List.cons_append,
      List.reverse_append, dropWhile_blanks blanks last, List.reverse_reverse]

/-- A character that is not blank is not in the blanks around a text. -/
lemma Padded.not_mem {c : Char} (h : Padded core text) (visible : isBlank c = false)
    (absent : c ∉ core) : c ∉ text := by
  obtain ⟨before, after, blank, blank', rfl⟩ := h
  have outside {blanks : List Char} (blank : ∀ c ∈ blanks, isBlank c) : c ∉ blanks := by
    intro mem
    rw [blank c mem] at visible
    exact nomatch visible
  rw [List.mem_append, List.mem_append, not_or, not_or]
  exact ⟨outside blank, absent, outside blank'⟩

end

/-! ## Separators -/

/-- The fields of a text are what its splitting at the separator gives. -/
lemma fields_eq_splitOn (sep : Char) (cs : List Char) : fields sep cs = cs.splitOn sep := by
  induction cs with
  | nil => rfl
  | cons c cs ih =>
    rw [fields, ih, List.splitOn_cons_eq_if_modifyHead]
    by_cases same : c = sep
    · rw [if_pos same, if_pos (beq_iff_eq.2 same)]
    · rw [if_neg same, if_neg (mt beq_iff_eq.1 same)]
      cases e : cs.splitOn sep with
      | nil => exact absurd e (List.splitOn_ne_nil sep cs)
      | cons => rfl

/-- Texts that are joined by a separator which none of them holds are the fields again. -/
lemma fields_intercalate {sep : Char} {texts : List (List Char)} (absent : ∀ t ∈ texts, sep ∉ t)
    (nonempty : texts ≠ []) : fields sep ([sep].intercalate texts) = texts := by
  rw [fields_eq_splitOn, List.splitOn_intercalate sep absent nonempty]

/-- A text is cut behind its first part if there is no separator in this one. -/
lemma cutFirst_append {sep : Char} {before : List Char} (absent : sep ∉ before)
    (after : List Char) : cutFirst sep (before ++ sep :: after) = (before, some after) := by
  induction before with
  | nil => rw [List.nil_append, cutFirst, if_pos rfl]
  | cons c before ih =>
    obtain ⟨other, absent⟩ := List.ne_and_not_mem_of_not_mem_cons absent
    rw [List.cons_append, cutFirst, if_neg (Ne.symm other), ih absent]

/-! ## Integers -/

section
variable {cs : List Char} {bounds : Bounds} {v : Int}

/-- Digits are read as the number that they continue. -/
lemma readDigits_eq (digits : ∀ c ∈ cs, c.isDigit) (value : Nat) :
    readDigits value cs = some (Nat.ofDigitChars 10 cs value) := by
  induction cs generalizing value with
  | nil => rw [readDigits, Nat.ofDigitChars_nil]
  | cons c cs ih =>
    obtain ⟨first, others⟩ := List.forall_mem_cons.1 digits
    have digit : digit? c = some (c.toNat - '0'.toNat) := by
      apply if_pos
      rw [Char.isDigit, Bool.and_eq_true, decide_eq_true_eq, decide_eq_true_eq] at first
      exact first
    rw [readDigits, digit, Nat.ofDigitChars_cons]
    exact ih others _

/-- The decimal digits of a number are digits. -/
lemma isDigit_of_mem_toDigits {n : Nat} {c : Char} (h : c ∈ Nat.toDigits 10 n) : c.isDigit :=
  Nat.isDigit_of_mem_toDigits (by decide) (by decide) h

/-- A number is read from its decimal digits. -/
lemma natural?_toDigits (n : Nat) : natural? (Nat.toDigits 10 n) = some n := by
  have value := readDigits_eq (fun _ => isDigit_of_mem_toDigits (n := n)) 0
  rw [Nat.ofDigitChars_ten_toDigits] at value
  cases e : Nat.toDigits 10 n with
  | nil => exact absurd e Nat.toDigits_ne_nil
  | cons c cs =>
    rw [e] at value
    exact value

/-- A sign is no digit, so digits are read as a number without one. -/
lemma integer?_of_digits (digits : ∀ c ∈ cs, c.isDigit) :
    integer? bounds cs = (natural? cs).bind fun n => bounds.fit? n := by
  rw [integer?]
  · rfl
  · rintro cs rfl
    exact nomatch digits '+' List.mem_cons_self
  · rintro cs rfl
    exact nomatch digits '-' List.mem_cons_self

/-- An integer is written as the digits of its magnitude, behind a minus sign if it is negative. -/
lemma toList_toString (v : Int) : (toString v).toList =
    if 0 ≤ v then Nat.toDigits 10 v.toNat else '-' :: Nat.toDigits 10 (-v).toNat := by
  rw [Int.toString_eq_repr, Int.repr_eq_if]
  split
  · exact Nat.toList_repr
  · rw [String.toList_append, Nat.toList_repr]
    rfl

/-- An integer is written with digits and a minus sign only. -/
lemma mem_toString {c : Char} (h : c ∈ (toString v).toList) : c = '-' ∨ c.isDigit := by
  rw [toList_toString] at h
  split at h
  · exact .inr (isDigit_of_mem_toDigits h)
  · exact (List.mem_cons.1 h).imp_right isDigit_of_mem_toDigits

/-- An integer is read as itself where it is within bounds. -/
lemma integer?_toString (h : bounds.Holds v) : integer? bounds (toString v).toList = some v := by
  rw [toList_toString]
  split
  case isTrue nonneg =>
    rw [integer?_of_digits fun c => isDigit_of_mem_toDigits, natural?_toDigits, Option.bind_some,
      Int.toNat_of_nonneg nonneg]
    exact Bounds.fit?_of_holds h
  case isFalse neg =>
    have signed : bounds.lo < 0 := Int.lt_of_le_of_lt h.1 (Int.not_le.1 neg)
    have value : -((-v).toNat : Int) = v := by omega
    rw [integer?, if_pos signed, natural?_toDigits]
    show bounds.fit? (-((-v).toNat : Int)) = some v
    rw [value]
    exact Bounds.fit?_of_holds h

/-- There is no blank, and no separator, in an integer. -/
lemma not_mem_toString {c : Char} (sign : c ≠ '-') (other : c.isDigit = false) :
    c ∉ (toString v).toList := by
  intro mem
  rcases mem_toString mem with rfl | digit
  · exact sign rfl
  · rw [digit] at other
    exact nomatch other

/-- No digit is blank. -/
lemma isBlank_of_isDigit {c : Char} (h : c.isDigit) : isBlank c = false := by
  have outside : ∀ code ∈ blankCodes, ¬(48 ≤ code ∧ code ≤ 57) := by decide
  rw [Char.isDigit, Bool.and_eq_true, decide_eq_true_eq, decide_eq_true_eq] at h
  rw [isBlank, List.contains_eq_mem]
  exact decide_eq_false fun mem => outside _ mem h

/-- An integer is written without blanks around it. -/
lemma bare_toString (v : Int) : Bare (toString v).toList := by
  have visible : ∀ c ∈ (toString v).toList, isBlank c = false := by
    intro c mem
    rcases mem_toString mem with rfl | digit
    · rfl
    · exact isBlank_of_isDigit digit
  exact ⟨fun c mem => visible c (List.mem_of_head? mem),
    fun c mem => visible c (List.mem_of_getLast? mem)⟩

/-- A pair of integers is read from their spellings around a comma, with any blanks around each. -/
lemma pair?_padded {x y : Int} {xs ys : List Char} (hx : bounds.Holds x)
    (hy : bounds.Holds y) (px : Padded (toString x).toList xs) (py : Padded (toString y).toList ys) :
    pair? bounds (xs ++ ',' :: ys) = some (x, y) := by
  have comma {v : Int} {text : List Char} (h : Padded (toString v).toList text) : ',' ∉ text :=
    h.not_mem rfl (not_mem_toString (by decide) rfl)
  have two : xs ++ ',' :: ys = [','].intercalate [xs, ys] := by
    rw [List.intercalate_cons_cons, List.intercalate_singleton, List.append_assoc]
    rfl
  have cut : fields ',' (xs ++ ',' :: ys) = [xs, ys] := by
    rw [two]
    apply fields_intercalate
    · exact List.forall_mem_cons.2 ⟨comma px, List.forall_mem_singleton.2 (comma py)⟩
    · exact List.cons_ne_nil xs [ys]
  rw [pair?, cut]
  dsimp only
  rw [trimChars_padded (bare_toString x) px, trimChars_padded (bare_toString y) py,
    integer?_toString hx, integer?_toString hy]
  rfl

end

end Cityscape.Text
