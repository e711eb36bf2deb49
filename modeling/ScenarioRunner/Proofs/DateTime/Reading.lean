import Mathlib.Data.List.TakeWhile
import Mathlib.Tactic.Common
import ScenarioRunner.DateTime.Basic
import ScenarioRunner.Proofs.Document.Values

/-!
# Dates are read as they are written

* `DateTime.number_append`: digits are read as their number, if the reading stops behind them.
* `DateTime.readYear_append`, `DateTime.field_append`, `DateTime.readFraction_fractionText`: each part of
  a date is read from its text, and what follows is left.
* `DateTime.read_text`: a date is read from its text.  `DateTime.valid_of_read`: only dates are read.

A leap second is written as second 60 and read as second 59 with a billion nanoseconds more.
-/

namespace ScenarioRunner.DateTime

open Text (isBlank trimStart)

variable {ds rest : List Char} {width n : Nat} {c : Char} {d : DateTime}

/-! ## Digits -/

lemma ofDigits_padded (width n : Nat) : Decimal.ofDigits (padded width n) = n := by
  have hdigits (s : List Char) : Decimal.ofDigits s = Nat.ofDigitChars 10 s 0 := by
    simp [Decimal.ofDigits, Nat.ofDigitChars, Nat.mul_comm]
  rw [hdigits, padded, Nat.ofDigitChars_append, Nat.ofDigitChars_replicate_zero, Nat.mul_zero,
    Decimal.digitsOf, Nat.ofDigitChars_ten_toDigits]

lemma isDigit_of_mem_padded (h : c ∈ padded width n) : c.isDigit := by
  rcases List.mem_append.mp h with h | h
  · obtain rfl := List.eq_of_mem_replicate h
    rfl
  · exact Nat.isDigit_of_mem_toDigits (by decide) (by decide) h

lemma padded_ne_nil (width n : Nat) : padded width n ≠ [] :=
  List.append_ne_nil_of_right_ne_nil _ Nat.toDigits_ne_nil

lemma length_padded (hwidth : 0 < width) (h : n < 10 ^ width) : (padded width n).length = width := by
  have hlength : (Decimal.digitsOf n).length ≤ width :=
    (Nat.length_toDigits_le_iff (by decide) hwidth).mpr h
  rw [padded, List.length_append, List.length_replicate]
  exact Nat.sub_add_cancel hlength

lemma not_isBlank_of_isDigit (h : c.isDigit) : isBlank c = false := by
  rw [Char.isDigit, Bool.and_eq_true, decide_eq_true_eq, decide_eq_true_eq] at h
  have hlow : 48 ≤ c.toNat := h.1
  have hhigh : c.toNat ≤ 57 := h.2
  simp only [isBlank, Bool.or_eq_false_iff, Bool.and_eq_false_iff, decide_eq_false_iff_not,
    beq_eq_false_iff_ne]
  omega

/-- Nothing is cut off digits. -/
lemma trimStart_append (hne : ds ≠ []) (hds : ∀ c ∈ ds, c.isDigit) (rest : List Char) :
    trimStart (ds ++ rest) = ds ++ rest := by
  cases ds with
  | nil => exact absurd rfl hne
  | cons c ds =>
      have hc := not_isBlank_of_isDigit (hds c List.mem_cons_self)
      rw [trimStart, List.cons_append, List.dropWhile_cons_of_neg (by simp [hc])]

/-! ## Parts -/

/-- A reading of digits stops behind these ones. -/
def Stops (width : Option Nat) (ds rest : List Char) : Prop :=
  (match width with | some n => (ds ++ rest).take n | none => ds ++ rest).takeWhile Char.isDigit = ds

/-- It stops after the count of digits, whatever follows. -/
lemma stops_length (hds : ∀ c ∈ ds, c.isDigit) (hwidth : ds.length = width) :
    Stops (some width) ds rest := by
  subst hwidth
  rw [Stops, List.take_left, List.takeWhile_eq_self_iff.mpr hds]

/-- It stops before what is no digit. -/
lemma stops_cons (hds : ∀ c ∈ ds, c.isDigit) (hc : ¬ c.isDigit) : Stops none ds (c :: rest) := by
  rw [Stops, List.takeWhile_append_of_pos hds, List.takeWhile_cons_of_neg hc, List.append_nil]

/-- It stops where the text ends. -/
lemma stops_nil (hds : ∀ c ∈ ds, c.isDigit) (hwidth : ds.length ≤ width) :
    Stops (some width) ds [] := by
  rw [Stops, List.append_nil, List.take_of_length_le hwidth, List.takeWhile_eq_self_iff.mpr hds]

/-- **Digits are read as their number**, if the reading stops behind them. -/
lemma number_padded {width : Option Nat} {least : Nat} (hn : n < Nat.pow 2 63)
    (hstop : Stops width (padded least n) rest) :
    number width (padded least n ++ rest) = .ok (n, rest) := by
  have hsome : (padded least n).isEmpty = false := by
    rw [List.isEmpty_eq_false_iff]
    exact padded_ne_nil least n
  unfold Stops at hstop
  unfold number
  split
  · next hnil => exact absurd (List.append_eq_nil_iff.mp hnil).1 (padded_ne_nil least n)
  · cases width with
    | none | some =>
        dsimp only at hstop ⊢
        simp only [hstop, hsome, ofDigits_padded, Nat.not_le.mpr hn, List.drop_left,
          Bool.false_eq_true, if_false]

/-- **Two digits are read as a number in its range.** -/
lemma field_append {low high : Nat} (hlow : low ≤ n) (hhigh : n ≤ high) (h : n < 100)
    (rest : List Char) : field low high (padded 2 n ++ rest) = .ok (n, rest) := by
  have hdigits : ∀ c ∈ padded 2 n, c.isDigit := fun c => isDigit_of_mem_padded
  have hstop : Stops (some 2) (padded 2 n) rest :=
    stops_length hdigits (length_padded (by decide) h)
  rw [field, trimStart_append (padded_ne_nil 2 n) hdigits,
    number_padded (by simp; omega) hstop]
  exact if_pos ⟨hlow, hhigh⟩

lemma mark_cons (hc : isBlank c = false) (rest : List Char) : mark c (c :: rest) = .ok rest := by
  rw [mark, trimStart, List.dropWhile_cons_of_neg (by simp [hc])]
  exact if_pos rfl

lemma isDigit_of_padded_append_eq {least : Nat} {s : List Char}
    (h : padded least n ++ rest = c :: s) : c.isDigit := by
  obtain ⟨c', s', hs⟩ := List.exists_cons_of_ne_nil (padded_ne_nil least n)
  rw [hs, List.cons_append] at h
  obtain rfl := (List.cons.inj h).1
  exact isDigit_of_mem_padded (hs ▸ List.mem_cons_self)

/-- **A year is read from its text**, which ends before a dash. -/
lemma readYear_append {year : Int} (hlow : -262143 ≤ year) (hhigh : year ≤ 262142)
    (rest : List Char) : readYear (yearText year ++ '-' :: rest) = .ok (year, '-' :: rest) := by
  have hdigits (n : Nat) : ∀ c ∈ padded 4 n, c.isDigit := fun c => isDigit_of_mem_padded
  have hpow : Nat.pow 2 63 = 9223372036854775808 := rfl
  have hchecked (y : Int) (hy : y = year) :
      (if y < -(Nat.pow 2 31) ∨ Nat.pow 2 31 ≤ y then .error .outOfRange else .ok (y, '-' :: rest) :
        Except ReadError (Int × List Char)) = .ok (year, '-' :: rest) := by
    have hrange : ¬ (year < -(Nat.pow 2 31) ∨ Nat.pow 2 31 ≤ year) := by
      have : Nat.pow 2 31 = 2147483648 := rfl
      omega
    rw [hy, if_neg hrange]
  have hsigned : number none (padded 4 year.natAbs ++ '-' :: rest) =
      .ok (year.natAbs, '-' :: rest) :=
    number_padded (by omega) (stops_cons (hdigits _) (by decide))
  by_cases hshort : 0 ≤ year ∧ year ≤ 9999
  · have hfour : number (some 4) (padded 4 year.toNat ++ '-' :: rest) =
        .ok (year.toNat, '-' :: rest) :=
      number_padded (by omega) (stops_length (hdigits _) (length_padded (by decide) (by omega)))
    have hyear : (year.toNat : Int) = year := Int.toNat_of_nonneg hshort.1
    rw [readYear, yearText, if_pos hshort, trimStart_append (padded_ne_nil 4 _) (hdigits _)]
    split
    · next hminus => exact absurd (isDigit_of_padded_append_eq hminus) (by decide)
    · next hplus => exact absurd (isDigit_of_padded_append_eq hplus) (by decide)
    · rw [hfour]
      exact hchecked _ hyear
  · have hsign (c : Char) (hc : isBlank c = false) (s : List Char) :
        trimStart (c :: s) = c :: s := by
      rw [trimStart, List.dropWhile_cons_of_neg (by simp [hc])]
    rw [readYear, yearText, if_neg hshort]
    by_cases hneg : year < 0
    · have hyear : -(year.natAbs : Int) = year := by omega
      rw [if_pos hneg, List.cons_append, hsign '-' (by decide)]
      simp only [hsigned]
      exact hchecked _ hyear
    · have hyear : (year.natAbs : Int) = year := by omega
      rw [if_neg hneg, List.cons_append, hsign '+' (by decide)]
      simp only [hsigned]
      exact hchecked _ hyear

/-- **A fraction is read from its text**, which ends the date. -/
lemma readFraction_fractionText (h : n < 1000000000) :
    readFraction (fractionText n) = .ok (n, []) := by
  have hdigits {least n : Nat} (hleast : 0 < least) (hnine : least ≤ 9) (hn : n < 10 ^ least) :
      readFraction ('.' :: padded least n) = .ok (n * Nat.pow 10 (9 - least), []) := by
    have hlength := length_padded hleast hn
    have hstop : Stops (some 9) (padded least n) [] :=
      stops_nil (fun c => isDigit_of_mem_padded) (by omega)
    have hbound : n < Nat.pow 2 63 :=
      (hn.trans_le (Nat.pow_le_pow_right (by decide) hnine)).trans (by decide)
    have hnumber := number_padded hbound hstop
    rw [List.append_nil] at hnumber
    rw [readFraction, hnumber]
    simp [Bind.bind, Except.bind, hlength]
  have hscale {least unit : Nat} (hunit : unit * 10 ^ least = 1000000000) (hpos : 0 < unit) :
      n / unit < 10 ^ least := by
    rw [Nat.div_lt_iff_lt_mul hpos, Nat.mul_comm, hunit]
    exact h
  unfold fractionText
  split
  · next hzero =>
    subst hzero
    rfl
  split
  · next hmilli =>
    rw [hdigits (by decide) (by decide) (hscale (by decide) (by decide))]
    exact congrArg (fun n => Except.ok (n, [])) (Nat.div_mul_cancel (Nat.dvd_of_mod_eq_zero hmilli))
  split
  · next hmicro =>
    rw [hdigits (by decide) (by decide) (hscale (by decide) (by decide))]
    exact congrArg (fun n => Except.ok (n, [])) (Nat.div_mul_cancel (Nat.dvd_of_mod_eq_zero hmicro))
  · rw [hdigits (by decide) (by decide) h]
    exact congrArg (fun n => Except.ok (n, [])) (Nat.mul_one n)

/-! ## Dates -/

lemma daysInMonth_le (year : Int) (month : Nat) : daysInMonth year month ≤ 31 := by
  unfold daysInMonth
  split
  · split <;> decide
  · split <;> decide

/-- The second and the fraction that are written make up the second and the nanoseconds. -/
lemma shown_cases (h : d.valid) :
    (d.shownSecond = 60 ∧ d.second = 59 ∧ d.nanosecond = 1000000000 + d.fraction) ∨
      (d.shownSecond = d.second ∧ d.second ≤ 59 ∧ d.nanosecond = d.fraction) := by
  simp only [valid, Bool.and_eq_true, decide_eq_true_eq] at h
  obtain ⟨⟨-, hsecond⟩, hnano⟩ := h
  rw [shownSecond, fraction]
  split
  · left
    split at hnano <;> omega
  · right
    omega

/-- **A date is read from its text.** -/
theorem read_text (h : d.valid) : read d.text = .ok d := by
  have hparts := h
  simp only [valid, Bool.and_eq_true, decide_eq_true_eq] at hparts
  obtain ⟨⟨⟨⟨⟨⟨⟨⟨⟨hleast, hmost⟩, hmonth⟩, hmonth'⟩, hday⟩, hday'⟩, hhour⟩, hminute⟩, -⟩, -⟩ := hparts
  have hdays := daysInMonth_le d.year d.month
  have hshown : d.shownSecond ≤ 60 := by
    rcases shown_cases h with ⟨hshown, -, -⟩ | ⟨hshown, hsecond, -⟩ <;> omega
  have hfraction : d.fraction < 1000000000 := Nat.mod_lt _ (by decide)
  have hdash (rest : List Char) : mark '-' ('-' :: rest) = .ok rest := mark_cons (by decide) rest
  have htime (rest : List Char) : mark 'T' ('T' :: rest) = .ok rest := mark_cons (by decide) rest
  have hcolon (rest : List Char) : mark ':' (':' :: rest) = .ok rest := mark_cons (by decide) rest
  rw [read, text]
  simp only [String.toList_ofList, List.append_assoc, List.cons_append, Bind.bind, Except.bind,
    readYear_append hleast hmost, hdash, htime, hcolon, field_append hmonth hmonth' (by omega),
    field_append hday (hday'.trans hdays) (by omega), field_append (Nat.zero_le _) hhour (by omega),
    field_append (Nat.zero_le _) hminute (by omega), field_append (Nat.zero_le _) hshown (by omega),
    readFraction_fractionText hfraction]
  have hend : (trimStart []).isEmpty = true := rfl
  have hdate :
      (if d.shownSecond = 60 then
        (⟨d.year, d.month, d.day, d.hour, d.minute, 59, 1000000000 + d.fraction⟩ : DateTime)
      else ⟨d.year, d.month, d.day, d.hour, d.minute, d.shownSecond, d.fraction⟩) = d := by
    rcases shown_cases h with ⟨hleap, hsecond, hnano⟩ | ⟨hplain, hsecond, hnano⟩
    · rw [if_pos hleap, ← hnano, ← hsecond]
    · rw [if_neg (by omega), hplain, ← hnano]
  rw [hend, Bool.not_true, if_neg Bool.false_ne_true, hdate, if_pos h]

/-- Only dates are read. -/
theorem valid_of_read {s : String} (h : read s = .ok d) : d.valid := by
  have hchecked {date : DateTime}
      (h : (if date.valid then .ok date else .error .outOfRange : Except ReadError DateTime) = .ok d) :
      d.valid := by
    split at h
    · next hvalid =>
      obtain rfl := Except.ok.inj h
      exact hvalid
    · exact absurd h (by simp)
  unfold read at h
  obtain ⟨⟨year, s₁⟩, -, h⟩ := bind_eq_ok_iff.mp h
  obtain ⟨s₂, -, h⟩ := bind_eq_ok_iff.mp h
  obtain ⟨⟨month, s₃⟩, -, h⟩ := bind_eq_ok_iff.mp h
  obtain ⟨s₄, -, h⟩ := bind_eq_ok_iff.mp h
  obtain ⟨⟨day, s₅⟩, -, h⟩ := bind_eq_ok_iff.mp h
  obtain ⟨s₆, -, h⟩ := bind_eq_ok_iff.mp h
  obtain ⟨⟨hour, s₇⟩, -, h⟩ := bind_eq_ok_iff.mp h
  obtain ⟨s₈, -, h⟩ := bind_eq_ok_iff.mp h
  obtain ⟨⟨minute, s₉⟩, -, h⟩ := bind_eq_ok_iff.mp h
  obtain ⟨s₁₀, -, h⟩ := bind_eq_ok_iff.mp h
  obtain ⟨⟨second, s₁₁⟩, -, h⟩ := bind_eq_ok_iff.mp h
  obtain ⟨⟨nano, s₁₂⟩, -, h⟩ := bind_eq_ok_iff.mp h
  dsimp only at h
  split at h
  · exact absurd h (by simp)
  · exact hchecked h

end ScenarioRunner.DateTime
