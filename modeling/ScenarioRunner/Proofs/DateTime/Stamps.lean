import Mathlib.Tactic.Common
import ScenarioRunner.Proofs.DateTime.Reading

/-!
# Stamps

The digits at the end of the names of report files.

* `DateTime.Reading` is what a clock shows, to the millisecond, and `DateTime.reading` the reading
  at a time.
* `DateTime.FourDigits` holds of the times that a clock can show in a year of four digits.
  `DateTime.length_stamp`: their stamps have seventeen digits.
* `DateTime.stamp_inj`: they have the same stamp exactly if the clock shows the same.
* `DateTime.reading_eq_iff`: then they differ in what is smaller than a millisecond only.

A leap second shows as one second more than it is kept as.
-/

namespace ScenarioRunner.DateTime

variable {width n m : Nat} {c : Char} {rest rest' : List Char} {d d' : DateTime}

/-- What a clock shows: the date and the time to the millisecond. -/
structure Reading where
  year : Int
  month : Nat
  day : Nat
  hour : Nat
  minute : Nat
  second : Nat
  millisecond : Nat
deriving DecidableEq, Repr

/-- What a clock shows at a time. -/
def reading (d : DateTime) : Reading :=
  ⟨d.year, d.month, d.day, d.hour, d.minute, d.shownSecond, d.fraction / 1000000⟩

/-- The time without what is smaller than a millisecond. -/
def toMillisecond (d : DateTime) : DateTime :=
  { d with nanosecond := d.nanosecond / 1000000 * 1000000 }

/-- The parts are those of a clock, and the year has four digits.  Every second can be a leap
second. -/
structure FourDigits (d : DateTime) : Prop where
  year : 0 ≤ d.year ∧ d.year ≤ 9999
  month : d.month ≤ 12
  day : d.day ≤ 31
  hour : d.hour ≤ 23
  minute : d.minute ≤ 59
  second : d.second ≤ 59

/-- Every time in a year of four digits is one of them. -/
lemma fourDigits_of_valid (h : d.valid) (hleast : 0 ≤ d.year) (hmost : d.year ≤ 9999) :
    d.FourDigits := by
  simp only [valid, Bool.and_eq_true, decide_eq_true_eq] at h
  obtain ⟨⟨⟨⟨⟨⟨⟨⟨⟨-, -⟩, -⟩, hmonth⟩, -⟩, hday⟩, hhour⟩, hminute⟩, hsecond⟩, -⟩ := h
  exact ⟨⟨hleast, hmost⟩, hmonth, hday.trans (daysInMonth_le ..), hhour, hminute, hsecond⟩

lemma FourDigits.shownSecond_lt (h : d.FourDigits) : d.shownSecond < 100 := by
  have hsecond := h.second
  unfold shownSecond
  split <;> omega

lemma fraction_div_lt (d : DateTime) : d.fraction / 1000000 < 1000 := by
  have hfraction : d.fraction < 1000000000 := Nat.mod_lt _ (by decide)
  omega

/-! ## Digits -/

/-- **Digits of one width in front** are found again. -/
lemma padded_append_inj (hwidth : 0 < width) (hn : n < 10 ^ width) (hm : m < 10 ^ width) :
    padded width n ++ rest = padded width m ++ rest' ↔ n = m ∧ rest = rest' := by
  constructor
  · intro h
    have hlength : (padded width n).length = (padded width m).length := by
      rw [length_padded hwidth hn, length_padded hwidth hm]
    obtain ⟨hdigits, hrest⟩ := List.append_inj h hlength
    refine ⟨?_, hrest⟩
    rw [← ofDigits_padded width n, hdigits, ofDigits_padded]
  · rintro ⟨rfl, rfl⟩
    rfl

/-- The digits of a stamp. -/
lemma toList_stamp (h : d.FourDigits) :
    d.stamp.toList =
      padded 4 d.year.toNat ++ (padded 2 d.month ++ (padded 2 d.day ++ (padded 2 d.hour ++
        (padded 2 d.minute ++ (padded 2 d.shownSecond ++
          (padded 3 (d.fraction / 1000000) ++ [])))))) := by
  rw [stamp, String.toList_ofList, yearText, if_pos h.year]
  simp only [List.append_assoc, List.append_nil]

/-- **A stamp has seventeen digits.** -/
theorem length_stamp (h : d.FourDigits) : d.stamp.toList.length = 17 := by
  obtain ⟨⟨hleast, hmost⟩, hmonth, hday, hhour, hminute, -⟩ := id h
  have htwo {n : Nat} (hn : n < 100) : (padded 2 n).length = 2 := length_padded (by decide) hn
  have hyear : (padded 4 d.year.toNat).length = 4 :=
    length_padded (by decide) (show d.year.toNat < 10 ^ 4 by omega)
  have hmilli : (padded 3 (d.fraction / 1000000)).length = 3 :=
    length_padded (by decide) d.fraction_div_lt
  rw [toList_stamp h]
  simp only [List.length_append, hyear, hmilli, htwo (show d.month < 100 by omega),
    htwo (show d.day < 100 by omega), htwo (show d.hour < 100 by omega),
    htwo (show d.minute < 100 by omega), htwo h.shownSecond_lt, List.length_nil]

/-- **Times have the same stamp** exactly if the clock shows the same. -/
theorem stamp_inj (h : d.FourDigits) (h' : d'.FourDigits) :
    d.stamp = d'.stamp ↔ d.reading = d'.reading := by
  obtain ⟨⟨hleast, hmost⟩, hmonth, hday, hhour, hminute, -⟩ := id h
  obtain ⟨⟨hleast', hmost'⟩, hmonth', hday', hhour', hminute', -⟩ := id h'
  have htwo {n m : Nat} {rest rest' : List Char} (hn : n < 100) (hm : m < 100) :
      padded 2 n ++ rest = padded 2 m ++ rest' ↔ n = m ∧ rest = rest' :=
    padded_append_inj (by decide) hn hm
  have hyear : d.year.toNat = d'.year.toNat ↔ d.year = d'.year := by omega
  rw [← String.toList_inj, toList_stamp h, toList_stamp h',
    padded_append_inj (by decide) (show d.year.toNat < 10 ^ 4 by omega)
      (show d'.year.toNat < 10 ^ 4 by omega),
    htwo (by omega) (by omega), htwo (by omega) (by omega), htwo (by omega) (by omega),
    htwo (by omega) (by omega), htwo h.shownSecond_lt h'.shownSecond_lt,
    padded_append_inj (by decide) d.fraction_div_lt d'.fraction_div_lt, hyear]
  simp only [reading, Reading.mk.injEq, and_true]

/-- A stamp holds digits, and the sign of a year that has not four of them. -/
lemma of_mem_stamp (h : c ∈ d.stamp.toList) : c.isDigit ∨ c = '+' ∨ c = '-' := by
  have hyear (h : c ∈ yearText d.year) : c.isDigit ∨ c = '+' ∨ c = '-' := by
    unfold yearText at h
    split at h
    · exact Or.inl (isDigit_of_mem_padded h)
    · rcases List.mem_cons.mp h with hsign | h
      · split at hsign
        · exact Or.inr (Or.inr hsign)
        · exact Or.inr (Or.inl hsign)
      · exact Or.inl (isDigit_of_mem_padded h)
  rw [stamp, String.toList_ofList] at h
  simp only [List.mem_append] at h
  rcases h with (((((h | h) | h) | h) | h) | h) | h
  · exact hyear h
  all_goals exact Or.inl (isDigit_of_mem_padded h)

/-- **The clock shows the same** exactly if the times are the same but for what is smaller than a
millisecond. -/
theorem reading_eq_iff (h : d.valid) (h' : d'.valid) :
    d.reading = d'.reading ↔ d.toMillisecond = d'.toMillisecond := by
  have hfraction : d.fraction < 1000000000 := Nat.mod_lt _ (by decide)
  have hfraction' : d'.fraction < 1000000000 := Nat.mod_lt _ (by decide)
  have htime : (d.shownSecond = d'.shownSecond ∧ d.fraction / 1000000 = d'.fraction / 1000000) ↔
      (d.second = d'.second ∧ d.nanosecond / 1000000 = d'.nanosecond / 1000000) := by
    rcases shown_cases h with ⟨hshown, hsecond, hnano⟩ | ⟨hshown, hsecond, hnano⟩ <;>
      rcases shown_cases h' with ⟨hshown', hsecond', hnano'⟩ | ⟨hshown', hsecond', hnano'⟩ <;>
      omega
  have hscale : d.nanosecond / 1000000 * 1000000 = d'.nanosecond / 1000000 * 1000000 ↔
      d.nanosecond / 1000000 = d'.nanosecond / 1000000 := by omega
  simp only [reading, toMillisecond, Reading.mk.injEq, DateTime.mk.injEq, htime, hscale]

end ScenarioRunner.DateTime
