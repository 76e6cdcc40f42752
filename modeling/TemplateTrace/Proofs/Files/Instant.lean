import Mathlib.Data.Nat.Digits.Defs
import TemplateTrace.Files.Instant
import TemplateTrace.Proofs.Json.Compact

/-!
# Reading instants back

A day in the calendar is the day that it was made from, and an instant is read back from its
calendar form to the nanosecond, also when its year has a sign.

- `Calendar.exists_parts`: a day of an era by its century, its leap cycle, its year and its day.
- `Calendar.daysFrom_ofDays`: the days from the start of 1970 to the date of a day.
- `Calendar.year_ofDays`: the year of a day is the one between whose ends it lies.
- `Instant.Writable`: the instants of the years that can be read; `Instant.InCalendar`: those of the
  years 0 to 9999.
- `Instant.read?_write`: what can be read is read back.
-/

namespace TemplateTrace

/-! ## The calendar -/

namespace Calendar

/-- A day of an era of 400 years, by its century, its leap cycle, its year and its day, where years
start in March. The last day of a cycle is a leap day, except in centuries that have none. -/
structure Parts (n a b c d : Int) : Prop where
  century : 0 ≤ a ∧ a ≤ 3
  cycle : 0 ≤ b ∧ b ≤ 24
  year : 0 ≤ c ∧ c ≤ 3
  day : 0 ≤ d ∧ d ≤ 365
  leap : d = 365 → c = 3 ∧ (b = 24 → a = 3)
  eq : n = 36524 * a + 1461 * b + 365 * c + d

/-- A day of an era has a century, a leap cycle in it, a year of that cycle and a day of that year.
-/
theorem exists_parts {n : Int} (h0 : 0 ≤ n) (h1 : n ≤ 146096) : ∃ a b c d, Parts n a b c d := by
  obtain ⟨a, r, ha, ha', hn, hr, hr', hlast⟩ : ∃ a r : Int, 0 ≤ a ∧ a ≤ 3 ∧
      n = 36524 * a + r ∧ 0 ≤ r ∧ r ≤ 36524 ∧ (r = 36524 → a = 3) := by
    by_cases h : n = 146096
    · exact ⟨3, 36524, by omega⟩
    · exact ⟨n / 36524, n % 36524, by omega⟩
  obtain ⟨c, d, hc, hc', hs, hd, hd', hleap⟩ : ∃ c d : Int, 0 ≤ c ∧ c ≤ 3 ∧
      r % 1461 = 365 * c + d ∧ 0 ≤ d ∧ d ≤ 365 ∧ (d = 365 → c = 3) := by
    by_cases h : r % 1461 = 1460
    · exact ⟨3, 365, by omega⟩
    · exact ⟨r % 1461 / 365, r % 1461 % 365, by omega⟩
  refine ⟨a, r / 1461, c, d, ⟨ha, ha'⟩, by omega, ⟨hc, hc'⟩, ⟨hd, hd'⟩, fun h => ?_, by omega⟩
  refine ⟨hleap h, fun hb => hlast ?_⟩
  have hc3 := hleap h
  omega

/-- The year of an era that a day falls into. -/
theorem Parts.year_eq {n a b c d : Int} (h : Parts n a b c d) :
    (n - n / 1460 + n / 36524 - n / 146096) / 365 = 100 * a + 4 * b + c := by
  obtain ⟨⟨ha, ha'⟩, ⟨hb, hb'⟩, ⟨hc, hc'⟩, ⟨hd, hd'⟩, hleap, hn⟩ := h
  have hcentury : n / 36524 - n / 146096 = a := by
    by_cases hlast : d = 365 ∧ b = 24
    · obtain ⟨hc3, ha3⟩ := hleap hlast.1
      have ha3 := ha3 hlast.2
      omega
    · have hrest : 1461 * b + 365 * c + d ≤ 36523 := by omega
      have hcentury : n / 36524 = a := by omega
      have hera : n / 146096 = 0 := by omega
      omega
  -- leap days are taken out of the days, one too many in the last days of some cycles
  obtain ⟨k, hk, hk0, hk1⟩ : ∃ k : Int, n / 1460 = 25 * a + b + k ∧ 0 ≤ d - k ∧ d - k ≤ 364 := by
    by_cases h : 24 * a + b + 365 * c + d < 1460
    · exact ⟨0, by omega, by omega, by omega⟩
    · exact ⟨1, by omega, by omega, by omega⟩
  have hdays : n - n / 1460 + n / 36524 - n / 146096 =
      365 * (100 * a + 4 * b + c) + (d - k) := by omega
  rw [hdays]
  omega

/-- The days before a year of an era, with leap days counted by the parts of its number. -/
theorem Parts.days_eq {n a b c d : Int} (h : Parts n a b c d) :
    365 * (100 * a + 4 * b + c) + (100 * a + 4 * b + c) / 4 - (100 * a + 4 * b + c) / 100 =
      36524 * a + 1461 * b + 365 * c := by
  have hb := h.cycle
  have hc := h.year
  have hquarter : (100 * a + 4 * b + c) / 4 = 25 * a + b := by omega
  have hhundredth : (100 * a + 4 * b + c) / 100 = a := by omega
  rw [hquarter, hhundredth]
  omega

/-- The month and the day of the month of a day in a year that starts in March. -/
theorem month_spec {d : Nat} (hd : d ≤ 365) {m : Nat} (hm : m = (5 * d + 2) / 153) :
    m ≤ 11 ∧ (153 * m + 2) / 5 ≤ d ∧ 5 * d + 2 < 153 * (m + 1) := by
  omega

/-- The parts of the date of a day: its era, its year and its day in a year that starts in March,
its month and its day of the month. -/
theorem ofDays_eq (days : Int) : ∃ (era : Int) (a b c : Int) (d m : Nat),
    era = (days + 719468) / 146097 ∧ Parts (days + 719468 - era * 146097) a b c d ∧
    m = (5 * d + 2) / 153 ∧
    ofDays days = (100 * a + 4 * b + c + era * 400 + (if m < 10 then 0 else 1),
      (if m < 10 then m + 3 else m - 9), d - (153 * m + 2) / 5 + 1) := by
  obtain ⟨a, b, c, d, h⟩ := exists_parts (n := days + 719468 - (days + 719468) / 146097 * 146097)
    (by omega) (by omega)
  have hd := h.day
  have hday : ((d.toNat : Nat) : Int) = d := Int.toNat_of_nonneg hd.1
  refine ⟨_, a, b, c, d.toNat, _, rfl, by rwa [hday], rfl, ?_⟩
  have hofYear : (days + 719468 - (days + 719468) / 146097 * 146097 -
      (365 * (100 * a + 4 * b + c) + (100 * a + 4 * b + c) / 4 -
        (100 * a + 4 * b + c) / 100)).toNat = d.toNat := by
    rw [h.days_eq]
    have hn := h.eq
    omega
  have hm := month_spec (d := d.toNat) (by omega) rfl
  unfold ofDays
  simp only [h.year_eq, hofYear]
  by_cases h10 : (5 * d.toNat + 2) / 153 < 10
  · simp only [if_pos h10]
    rw [if_neg (by omega)]
  · simp only [if_neg h10]
    rw [if_pos (by omega)]

/-- The date of a day is that many days from the start of 1970, and a date of the calendar. -/
theorem daysFrom_ofDays (days : Int) :
    let (y, m, d) := ofDays days
    daysFrom y m d = days ∧ 1 ≤ m ∧ m ≤ 12 ∧ 1 ≤ d ∧ d ≤ daysInMonth y m := by
  obtain ⟨era, a, b, c, d, m, hera, h, hm, heq⟩ := ofDays_eq days
  obtain ⟨hm11, hle, hlt⟩ := month_spec (by have := h.day; omega) hm
  have ha := h.century
  have hb := h.cycle
  have hc := h.year
  have hd := h.day
  have hleap := h.leap
  have hn := h.eq
  have hdays := h.days_eq
  rw [heq]
  dsimp only
  generalize hy : 100 * a + 4 * b + c = y at *
  refine ⟨?_, by split <;> omega, by split <;> omega, by omega, ?_⟩
  · -- the month and the year are counted from March again
    have hmonth : ((if m < 10 then m + 3 else m - 9) + 9) % 12 = m := by split <;> omega
    have hstart : (if (if m < 10 then m + 3 else m - 9) ≤ 2
        then y + era * 400 + (if m < 10 then 0 else 1) - 1
        else y + era * 400 + (if m < 10 then 0 else 1)) = y + era * 400 := by
      split <;> split <;> omega
    have hof : (153 * m + 2) / 5 + (d - (153 * m + 2) / 5 + 1) - 1 = d := by omega
    have hera' : (y + era * 400) / 400 = era := by omega
    have hy' : y + era * 400 - era * 400 = y := by omega
    unfold daysFrom
    dsimp only
    rw [hstart, hmonth, hof, hera', hy']
    omega
  · -- the last day of February is there in leap years only
    have hfebruary : m = 11 → d = 365 → isLeap (y + era * 400 + 1) = true := by
      intro _ h365
      obtain ⟨hc3, ha3⟩ := hleap (by omega)
      rw [isLeap, Bool.and_eq_true, Bool.or_eq_true, beq_iff_eq, bne_iff_ne, beq_iff_eq]
      omega
    -- by months, counted from March: only the last one asks for the year
    have hmonths : m = 0 ∨ m = 1 ∨ m = 2 ∨ m = 3 ∨ m = 4 ∨ m = 5 ∨ m = 6 ∨ m = 7 ∨ m = 8 ∨
        m = 9 ∨ m = 10 ∨ m = 11 := by omega
    rcases hmonths with rfl | rfl | rfl | rfl | rfl | rfl | rfl | rfl | rfl | rfl | rfl | rfl
    case inr.inr.inr.inr.inr.inr.inr.inr.inr.inr.inr =>
      show d - (153 * 11 + 2) / 5 + 1 ≤ if isLeap (y + era * 400 + 1) = true then 29 else 28
      by_cases h365 : d = 365
      · rw [if_pos (hfebruary rfl h365)]
        omega
      · split <;> omega
    all_goals
      simp [daysInMonth]
      omega

theorem daysInMonth_le (y : Int) (m : Nat) : daysInMonth y m ≤ 31 := by
  unfold daysInMonth
  split
  · split <;> omega
  all_goals omega

/-- The dates of a year lie between its first day and the first day of the next one. -/
theorem daysFrom_bounds (y : Int) {m d : Nat} (hm1 : 1 ≤ m) (hm12 : m ≤ 12) (hd1 : 1 ≤ d)
    (hd31 : d ≤ 31) : daysFrom y 1 1 ≤ daysFrom y m d ∧ daysFrom y m d < daysFrom (y + 1) 1 1 := by
  unfold daysFrom
  simp only [show (1 : Nat) ≤ 2 by decide, if_true, Int.add_sub_cancel]
  by_cases h2 : m ≤ 2
  · have hmonth : (m + 9) % 12 = m + 9 := by omega
    rw [if_pos h2, hmonth]
    omega
  · have hmonth : (m + 9) % 12 = m - 3 := by omega
    rw [if_neg h2, hmonth]
    omega

/-- Years start in their order. -/
theorem daysFrom_le_daysFrom {y z : Int} (h : y ≤ z) : daysFrom y 1 1 ≤ daysFrom z 1 1 := by
  unfold daysFrom
  simp only [show (1 : Nat) ≤ 2 by decide, if_true]
  omega

/-- The year of a day is the one between whose ends it lies. -/
theorem year_ofDays {days first last : Int} (h0 : daysFrom first 1 1 ≤ days)
    (h1 : days < daysFrom last 1 1) : first ≤ (ofDays days).1 ∧ (ofDays days).1 < last := by
  have hdate := daysFrom_ofDays days
  generalize ofDays days = date at hdate ⊢
  obtain ⟨y, m, d⟩ := date
  obtain ⟨hdays, hm1, hm12, hd1, hd⟩ := hdate
  obtain ⟨hstart, hnext⟩ := daysFrom_bounds y hm1 hm12 hd1 (Nat.le_trans hd (daysInMonth_le y m))
  dsimp only
  constructor
  · refine Int.not_lt.1 fun hlt => ?_
    have hle := daysFrom_le_daysFrom (y := y + 1) (z := first) (by omega)
    omega
  · refine Int.not_le.1 fun hge => ?_
    have hle := daysFrom_le_daysFrom hge
    omega

end Calendar

/-! ## Padded numbers -/

namespace Text

theorem appendDigits_replicate_zero (k : Nat) : appendDigits 0 (List.replicate k '0') = 0 := by
  induction k with
  | zero => rfl
  | succ k ih => exact ih

theorem isBlank_of_isDigit {c : Char} (h : c.isDigit = true) : isBlank c = false := by
  have hc : 48 ≤ c.toNat ∧ c.toNat ≤ 57 := by
    simpa [Char.isDigit, UInt32.le_iff_toNat_le] using h
  simp only [isBlank, Bool.or_eq_false_iff, Bool.and_eq_false_iff, beq_eq_false_iff_ne,
    decide_eq_false_iff_not]
  omega

theorem stripStart_cons {c : Char} (h : isBlank c = false) (s : Text) :
    stripStart (c :: s) = c :: s := by
  rw [stripStart, trimStart, List.dropWhile_cons_of_neg (by simp [h])]

end Text

namespace Instant

/-- A text of as many digits as asked for. -/
structure Digits (width n : Nat) (ds : Text) : Prop where
  length : ds.length = width
  isDigit : ∀ c ∈ ds, c.isDigit = true
  value : Text.appendDigits 0 ds = n

theorem isDigit_of_mem_padded {width n : Nat} {c : Char} (hc : c ∈ padded width n) :
    c.isDigit = true := by
  rcases List.mem_append.1 hc with hc | hc
  · rw [List.eq_of_mem_replicate hc]
    decide
  · exact Text.isDigit_of_mem_decimal hc

theorem appendDigits_padded (width n : Nat) : Text.appendDigits 0 (padded width n) = n := by
  rw [padded, Text.appendDigits, List.foldl_append]
  change Text.appendDigits (Text.appendDigits 0 _) _ = n
  rw [Text.appendDigits_replicate_zero, Text.appendDigits_decimal]

/-- A number that is longer than it is padded to has the digits that it has. -/
theorem digits_length_padded (width n : Nat) :
    Digits (padded width n).length n (padded width n) where
  length := rfl
  isDigit _ hc := isDigit_of_mem_padded hc
  value := appendDigits_padded width n

/-- A number that fits is padded to digits of the width, which read as the number. -/
theorem digits_padded {width n : Nat} (hw : 0 < width) (hn : n < 10 ^ width) :
    Digits width n (padded width n) where
  length := by
    have hle : (Text.decimal n).length ≤ width := Nat.toDigits_length 10 n width hw hn
    simp only [padded, List.length_append, List.length_replicate]
    omega
  isDigit _ hc := isDigit_of_mem_padded hc
  value := appendDigits_padded width n

theorem Digits.exists_cons {width n : Nat} {ds : Text} (h : Digits width n ds) (hw : 0 < width) :
    ∃ c s, ds = c :: s ∧ c.isDigit = true := by
  cases ds with
  | nil => exact absurd h.length (by simp; omega)
  | cons c s => exact ⟨c, s, rfl, h.isDigit c List.mem_cons_self⟩

/-- Digits are read up to the width asked for, or up to what is no digit. -/
theorem Digits.digitsUpTo? {width n : Nat} {ds : Text} (h : Digits width n ds) (hw : 0 < width)
    {most : Nat} {r : Text} (hle : width ≤ most)
    (hr : width = most ∨ ∀ c s, r = c :: s → c.isDigit = false) :
    digitsUpTo? most (ds ++ r) = some (n, r) := by
  have htake : ((ds ++ r).take most).takeWhile Char.isDigit = ds := by
    rw [List.take_append, List.take_of_length_le (by rw [h.length]; exact hle),
      List.takeWhile_append_of_pos h.isDigit, h.length]
    rcases hr with rfl | hr
    · simp
    · cases r with
      | nil => simp
      | cons c s =>
        cases most - width with
        | zero => simp
        | succ k => simp [hr c s rfl]
  obtain ⟨c, s, hcons, -⟩ := h.exists_cons hw
  rw [Instant.digitsUpTo?, htake, if_neg (by simp [hcons]), h.value, List.drop_left]

theorem Digits.number? {width n : Nat} {ds : Text} (h : Digits width n ds) (hw : 0 < width)
    (r : Text) : number? width (ds ++ r) = some (n, r) := by
  obtain ⟨c, s, rfl, hc⟩ := h.exists_cons hw
  rw [Instant.number?, List.cons_append, Text.stripStart_cons (Text.isBlank_of_isDigit hc),
    ← List.cons_append]
  exact h.digitsUpTo? hw (Nat.le_refl _) (.inl rfl)

theorem number?_padded {width n : Nat} (hw : 0 < width) (hn : n < 10 ^ width) (r : Text) :
    number? width (padded width n ++ r) = some (n, r) :=
  (digits_padded hw hn).number? hw r

/-- A year is read back, with four digits and with a sign. -/
theorem year?_writeYear (y : Int) (r : Text) :
    year? (writeYear y ++ '-' :: r) = some (y, '-' :: r) := by
  have hdash : ∀ c s, '-' :: r = c :: s → c.isDigit = false := by
    rintro c s heq
    rw [← (List.cons.inj heq).1]
    decide
  unfold writeYear
  split
  next hfour =>
    have h : Digits 4 y.toNat (padded 4 y.toNat) := digits_padded (by decide) (by omega)
    obtain ⟨c, s, hcons, hc⟩ := h.exists_cons (by decide)
    have hread := h.digitsUpTo? (by decide) (Nat.le_refl 4) (r := '-' :: r) (.inl rfl)
    rw [hcons, List.cons_append] at hread ⊢
    rw [year?, Text.stripStart_cons (Text.isBlank_of_isDigit hc)]
    split
    next heq => rw [(List.cons.inj heq).1] at hc; exact absurd hc (by decide)
    next heq => rw [(List.cons.inj heq).1] at hc; exact absurd hc (by decide)
    next =>
      rw [hread, Option.map_some]
      exact congrArg (fun y : Int => some (y, '-' :: r)) (Int.toNat_of_nonneg hfour.1)
  next hfour =>
    -- behind a sign all digits are read, up to the dash
    have hpos : 0 < (padded 4 y.natAbs).length :=
      List.length_pos_iff.2 (List.append_ne_nil_of_right_ne_nil _ (Text.decimal_ne_nil _))
    have hle : (padded 4 y.natAbs).length ≤ (padded 4 y.natAbs ++ '-' :: r).length := by
      rw [List.length_append]
      exact Nat.le_add_right _ _
    have hread := (digits_length_padded 4 y.natAbs).digitsUpTo? hpos hle (.inr hdash)
    by_cases hneg : y < 0
    · rw [if_pos hneg, List.cons_append, year?, Text.stripStart_cons (by decide)]
      show (digitsUpTo? _ _).map _ = _
      rw [hread, Option.map_some]
      exact congrArg (fun y : Int => some (y, '-' :: r)) (by omega)
    · rw [if_neg hneg, List.cons_append, year?, Text.stripStart_cons (by decide)]
      show (digitsUpTo? _ _).map _ = _
      rw [hread, Option.map_some]
      exact congrArg (fun y : Int => some (y, '-' :: r)) (by omega)

theorem separator?_cons {c : Char} (h : Text.isBlank c = false) (s : Text) :
    separator? c (c :: s) = some s := by
  rw [separator?, Text.stripStart_cons h]
  exact Text.after?_eq_some_iff.2 rfl

/-- A fraction is read in the digits that it is written in. -/
theorem fraction?_point {width n : Nat} {ds : Text} (h : Digits width n ds) (hw : 0 < width)
    (hle : width ≤ 9) (s : Text) :
    fraction? ('.' :: ds ++ 'Z' :: s) = some (n * 10 ^ (9 - width), 'Z' :: s) := by
  have hread := h.digitsUpTo? hw hle (r := 'Z' :: s) (.inr (by
    rintro c s heq
    rw [← (List.cons.inj heq).1]
    decide))
  rw [List.cons_append, fraction?, hread]
  simp only [List.length_append, Nat.add_sub_cancel, h.length]
  rw [List.dropWhile_cons_of_neg (by decide)]
  rfl

/-- Nanoseconds are read back from as few groups of digits as they are written in. -/
theorem fraction?_writeFraction {nanos : Nat} (h : nanos < 10 ^ 9) (s : Text) :
    fraction? (writeFraction nanos ++ 'Z' :: s) = some (nanos, 'Z' :: s) := by
  unfold writeFraction
  split
  next h0 => rw [h0]; rfl
  split
  next hmilli =>
    rw [fraction?_point (digits_padded (by decide) (by omega)) (by decide) (by decide)]
    exact congrArg (fun n => some (n, 'Z' :: s))
      (Nat.div_mul_cancel (Nat.dvd_of_mod_eq_zero hmilli))
  split
  next hmicro =>
    rw [fraction?_point (digits_padded (by decide) (by omega)) (by decide) (by decide)]
    exact congrArg (fun n => some (n, 'Z' :: s))
      (Nat.div_mul_cancel (Nat.dvd_of_mod_eq_zero hmicro))
  next =>
    rw [fraction?_point (digits_padded (by decide) h) (by decide) (by decide)]
    rw [Nat.sub_self, Nat.pow_zero, Nat.mul_one]

/-! ## Instants -/

/-- An instant of the years 0 to 9999 that is in no leap second. -/
structure InCalendar (t : Instant) : Prop where
  from_first : Calendar.daysFrom 0 1 1 * 86400 ≤ t.seconds
  before_last : t.seconds < Calendar.daysFrom 10000 1 1 * 86400
  nanos_lt : t.nanos < 10 ^ 9

instance (t : Instant) : Decidable t.InCalendar :=
  decidable_of_iff (Calendar.daysFrom 0 1 1 * 86400 ≤ t.seconds ∧
      t.seconds < Calendar.daysFrom 10000 1 1 * 86400 ∧ t.nanos < 10 ^ 9)
    ⟨fun ⟨h0, h1, hn⟩ => ⟨h0, h1, hn⟩, fun h => ⟨h.from_first, h.before_last, h.nanos_lt⟩⟩

/-- An instant of the years -262143 to 262142, which are those that can be read, that is in no leap
second. -/
structure Writable (t : Instant) : Prop where
  from_first : Calendar.daysFrom (-262143) 1 1 * 86400 ≤ t.seconds
  before_last : t.seconds < Calendar.daysFrom 262143 1 1 * 86400
  nanos_lt : t.nanos < 10 ^ 9

instance (t : Instant) : Decidable t.Writable :=
  decidable_of_iff (Calendar.daysFrom (-262143) 1 1 * 86400 ≤ t.seconds ∧
      t.seconds < Calendar.daysFrom 262143 1 1 * 86400 ∧ t.nanos < 10 ^ 9)
    ⟨fun ⟨h0, h1, hn⟩ => ⟨h0, h1, hn⟩, fun h => ⟨h.from_first, h.before_last, h.nanos_lt⟩⟩

theorem InCalendar.writable {t : Instant} (h : t.InCalendar) : t.Writable where
  from_first := Int.le_trans (by decide) h.from_first
  before_last := Int.lt_of_lt_of_le h.before_last (by decide)
  nanos_lt := h.nanos_lt

/-- **Instants are exact.** An instant that can be read is read back from its calendar form to the
nanosecond. -/
theorem read?_write {t : Instant} (h : t.Writable) : read? (write t) = some t := by
  have hfirst : Calendar.daysFrom (-262143) 1 1 = -96465292 := by decide
  have hlast : Calendar.daysFrom 262143 1 1 = 95026237 := by decide
  have h0 := h.from_first
  have h1 := h.before_last
  have hn := h.nanos_lt
  have hyear : -262143 ≤ (Calendar.ofDays (t.seconds / 86400)).1 ∧
      (Calendar.ofDays (t.seconds / 86400)).1 < 262143 :=
    Calendar.year_ofDays (by omega) (by omega)
  have hdate := Calendar.daysFrom_ofDays (t.seconds / 86400)
  unfold write
  generalize Calendar.ofDays (t.seconds / 86400) = date at hyear hdate
  obtain ⟨y, m, d⟩ := date
  obtain ⟨hdays, hm1, hm12, hd1, hd⟩ := hdate
  have hd31 := Calendar.daysInMonth_le y m
  have hday : (t.seconds % 86400).toNat < 86400 := by omega
  have hseconds : t.seconds = t.seconds / 86400 * 86400 + (t.seconds % 86400).toNat := by omega
  generalize (t.seconds % 86400).toNat = s at hday hseconds
  -- the nanoseconds are less than a second, so that no leap second is written
  have hleap : t.nanos / 1000000000 = 0 := Nat.div_eq_of_lt hn
  have hnanos : t.nanos % 1000000000 = t.nanos := Nat.mod_eq_of_lt hn
  simp only [hleap, hnanos, Nat.add_zero, List.append_assoc, List.cons_append]
  -- part by part, what is written is read, up to the zone
  refine Option.bind_eq_some_iff.2 ⟨_, year?_writeYear y _, ?_⟩
  refine Option.bind_eq_some_iff.2 ⟨_, separator?_cons (by decide) _, ?_⟩
  refine Option.bind_eq_some_iff.2 ⟨_, number?_padded (by decide) (by omega) _, ?_⟩
  refine Option.bind_eq_some_iff.2 ⟨_, separator?_cons (by decide) _, ?_⟩
  refine Option.bind_eq_some_iff.2 ⟨_, number?_padded (by decide) (by omega) _, ?_⟩
  refine Option.bind_eq_some_iff.2 ⟨_, rfl, ?_⟩
  refine Option.bind_eq_some_iff.2 ⟨_, number?_padded (by decide) (by omega) _, ?_⟩
  refine Option.bind_eq_some_iff.2 ⟨_, separator?_cons (by decide) _, ?_⟩
  refine Option.bind_eq_some_iff.2 ⟨_, number?_padded (by decide) (by omega) _, ?_⟩
  refine Option.bind_eq_some_iff.2 ⟨_, separator?_cons (by decide) _, ?_⟩
  refine Option.bind_eq_some_iff.2 ⟨_, number?_padded (by decide) (by omega) _, ?_⟩
  refine Option.bind_eq_some_iff.2 ⟨_, fraction?_writeFraction hn _, ?_⟩
  refine Option.bind_eq_some_iff.2 ⟨(0, []), rfl, ?_⟩
  dsimp only
  -- the parts give back the seconds, which are between the first and the last day of the calendar
  have hsecond : min (s % 60) 59 = s % 60 := by omega
  have hback : Calendar.daysFrom y m d * 86400 +
      ((s / 3600 * 3600 + s / 60 % 60 * 60 + s % 60 : Nat) : Int) - 0 = t.seconds := by
    rw [hdays]
    omega
  rw [if_pos ⟨rfl, by omega, by omega, hm1, hm12, hd1, hd, by omega, by omega, by omega,
    by omega, by omega⟩]
  have hend : Calendar.daysFrom 262142 12 31 = 95026236 := by decide
  rw [hsecond, hback, if_pos (by omega), Nat.sub_self, Nat.zero_mul, Nat.add_zero]

end Instant

end TemplateTrace
