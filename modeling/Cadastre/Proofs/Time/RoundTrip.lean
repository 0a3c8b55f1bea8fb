import Cadastre.Proofs.Text.Digits
import Cadastre.Proofs.Time.Calendar
import Cadastre.Time.Reader
import Cadastre.Time.Writer

/-!
# Timestamps that are written and read

Every instant is read back from its timestamp: leap seconds, years beyond four digits and years
before the first one are no exception, and a fraction of any length loses nothing.
-/

namespace Cadastre.Instant

open Text

variable {rest : List Char} {n width : Nat}

/-! ## Fields -/

theorem digitsValue_padded (width n : Nat) : digitsValue (padded width n) = n := by
  unfold padded
  rw [digitsValue_replicate_append, digitsValue_toDigits]

theorem isDigit_of_mem_padded (width n : Nat) : ∀ c ∈ padded width n, c.isDigit = true := by
  intro c hc
  rcases List.mem_append.1 hc with hc | hc
  · obtain ⟨-, rfl⟩ := List.mem_replicate.1 hc
    decide
  · exact isDigit_of_mem_toDigits c hc

/-- A number that fits a width fills it. -/
theorem length_padded (hw : 0 < width) (h : n < 10 ^ width) : (padded width n).length = width := by
  have hle := (Nat.length_toDigits_le_iff (b := 10) (by omega) hw).2 h
  unfold padded
  simp only [List.length_append, List.length_replicate]
  omega

theorem padded_ne_nil (width n : Nat) : padded width n ≠ [] := by
  intro h
  exact Nat.toDigits_ne_nil (List.append_eq_nil_iff.1 h).2

theorem stops_isBlank_padded : Stops isBlank (padded width n ++ rest) := by
  obtain ⟨c, cs, hc⟩ := List.exists_cons_of_ne_nil (padded_ne_nil width n)
  rw [hc]
  exact stops_cons.2 (isBlank_of_isDigit (isDigit_of_mem_padded width n c (hc ▸ List.mem_cons_self)))

/-- A run of digits is read whole if it fills the width or ends before it. -/
theorem digitRun?_append {ds : List Char} (width : Nat) (rest : List Char)
    (hds : ∀ c ∈ ds, c.isDigit = true) (hne : ds ≠ [])
    (hlen : ds.length = width ∨ ds.length ≤ width ∧ Stops Char.isDigit rest) :
    digitRun? width (ds ++ rest) = some (ds, rest) := by
  have htake : ((ds ++ rest).take width).takeWhile Char.isDigit = ds := by
    rcases hlen with rfl | ⟨hle, hs⟩
    · rw [List.take_left' rfl]
      exact List.takeWhile_eq_self_iff.2 hds
    · rw [List.take_append, List.take_of_length_le hle]
      refine takeWhile_append_stops hds ?_
      intro c hc
      cases rest with
      | nil => simp at hc
      | cons d rest =>
        cases hk : width - ds.length with
        | zero => simp [hk] at hc
        | succ k => exact hs c (by simpa [hk] using hc)
  obtain ⟨c, cs, rfl⟩ := List.exists_cons_of_ne_nil hne
  simp only [digitRun?, htake]
  simp

/-- A number of two digits is read back. -/
theorem field?_padded (h : n < 100) : field? (padded 2 n ++ rest) = some (n, rest) := by
  have hrun := digitRun?_append 2 rest (isDigit_of_mem_padded 2 n) (padded_ne_nil 2 n)
    (.inl (length_padded (by omega) h))
  have htrim : trimStart (padded 2 n ++ rest) = padded 2 n ++ rest :=
    trimStart_append (w := []) (by simp [Blank]) stops_isBlank_padded
  simp [field?, htrim, hrun, digitsValue_padded]

theorem separator?_cons {c : Char} (h : isBlank c = false) :
    separator? c (c :: rest) = some rest := by
  simp [separator?, trimStart, h]

/-- Digits before a dash are read whole. -/
theorem digitRun?_padded_dash (n : Nat) (rest : List Char) :
    digitRun? (padded 4 n ++ '-' :: rest).length (padded 4 n ++ '-' :: rest) =
      some (padded 4 n, '-' :: rest) :=
  digitRun?_append _ _ (isDigit_of_mem_padded 4 n) (padded_ne_nil 4 n)
    (.inr ⟨by simp, stops_cons.2 (by decide)⟩)

/-- A year is read back: four digits, or a sign and as many as there are. -/
theorem year?_yearText (year : Int) :
    year? (yearText year ++ '-' :: rest) = some (year, '-' :: rest) := by
  unfold yearText
  split
  · next h =>
    simp only [Bool.and_eq_true, decide_eq_true_eq] at h
    have hrun := digitRun?_append 4 ('-' :: rest) (isDigit_of_mem_padded 4 year.toNat)
      (padded_ne_nil 4 year.toNat) (.inl (length_padded (by omega) (by omega)))
    have htrim : trimStart (padded 4 year.toNat ++ '-' :: rest) =
        padded 4 year.toNat ++ '-' :: rest :=
      trimStart_append (w := []) (by simp [Blank]) stops_isBlank_padded
    -- the first digit is neither sign
    have hfirst : ∀ c ∈ (padded 4 year.toNat ++ '-' :: rest).head?, c.isDigit = true := by
      intro c hc
      obtain ⟨d, ds, hd⟩ := List.exists_cons_of_ne_nil (padded_ne_nil 4 year.toNat)
      rw [hd] at hc
      obtain rfl : d = c := by simpa using hc
      exact isDigit_of_mem_padded 4 year.toNat d (hd ▸ List.mem_cons_self)
    unfold year?
    rw [htrim]
    split
    · next heq => exact absurd (hfirst '-' (by simp [heq])) (by decide)
    · next heq => exact absurd (hfirst '+' (by simp [heq])) (by decide)
    · rw [hrun]
      simp [digitsValue_padded]
      omega
  · next h =>
    simp only [Bool.and_eq_true, decide_eq_true_eq] at h
    have hrun := digitRun?_padded_dash year.natAbs rest
    by_cases hneg : year < 0
    · rw [if_pos hneg]
      have htrim : trimStart ('-' :: (padded 4 year.natAbs ++ '-' :: rest)) =
          '-' :: (padded 4 year.natAbs ++ '-' :: rest) :=
        trimStart_append (w := []) (by simp [Blank]) (stops_cons.2 (by decide))
      have habs : -(year.natAbs : Int) = year := by omega
      simp only [year?, List.cons_append, htrim, hrun, Option.map_some, digitsValue_padded, habs]
    · rw [if_neg hneg]
      have htrim : trimStart ('+' :: (padded 4 year.natAbs ++ '-' :: rest)) =
          '+' :: (padded 4 year.natAbs ++ '-' :: rest) :=
        trimStart_append (w := []) (by simp [Blank]) (stops_cons.2 (by decide))
      have habs : (year.natAbs : Int) = year := by omega
      simp only [year?, List.cons_append, htrim, hrun, Option.map_some, digitsValue_padded, habs]

/-- The digits after a point count by their places. -/
theorem fraction?_padded (hw : 0 < width) (hw9 : width ≤ 9) (hn : n < 10 ^ width) :
    fraction? ('.' :: (padded width n ++ 'Z' :: rest)) =
      some (n * 10 ^ (9 - width), 'Z' :: rest) := by
  have hlen := length_padded hw hn
  have hrun := digitRun?_append 9 ('Z' :: rest) (isDigit_of_mem_padded width n)
    (padded_ne_nil width n) (.inr ⟨by omega, stops_cons.2 (by decide)⟩)
  have hz : ('Z' :: rest).dropWhile Char.isDigit = 'Z' :: rest := by
    rw [List.dropWhile_cons_of_neg (by decide)]
  simp only [fraction?, hrun, Option.map_some, digitsValue_padded, hlen, hz]
  rfl

/-- A fraction is read back, however many digits it has. -/
theorem fraction?_fractionText (h : n < 1000000000) :
    fraction? (fractionText n ++ 'Z' :: rest) = some (n, 'Z' :: rest) := by
  unfold fractionText
  split
  · next h0 =>
    obtain rfl : n = 0 := by simpa using h0
    rfl
  · split
    · next hmilli =>
      have h3 : n % 1000000 = 0 := by simpa using hmilli
      have hn : n / 1000000 * 10 ^ (9 - 3) = n := by omega
      rw [List.cons_append, fraction?_padded (by omega) (by omega) (by omega), hn]
    · split
      · next hmicro =>
        have h6 : n % 1000 = 0 := by simpa using hmicro
        have hn : n / 1000 * 10 ^ (9 - 6) = n := by omega
        rw [List.cons_append, fraction?_padded (by omega) (by omega) (by omega), hn]
      · rw [List.cons_append, fraction?_padded (by omega) (by omega) (by omega)]
        simp

/-! ## Dates and times of day -/

/-- A date that exists is read back. -/
theorem date?_text {d : Date} (h : d.exists? = true) :
    date? (yearText d.year ++ '-' :: (padded 2 d.month ++ '-' :: (padded 2 d.day ++ rest))) =
      some (d, rest) := by
  have hmonth := Date.month_le_of_exists? h
  have hday := Date.day_le_of_exists? h
  simp [date?, year?_yearText, separator?_cons (c := '-') (by decide), field?_padded (n := d.month)
    (by omega), field?_padded (n := d.day) (by omega), h]

/-- A time of day is read back; the sixtieth second is a leap second. -/
theorem timeOfDay?_text {hour minute second nanos : Nat} (hh : hour < 24) (hm : minute < 60)
    (hs : second ≤ 60) (hn : nanos < 1000000000) :
    timeOfDay? (padded 2 hour ++ ':' :: (padded 2 minute ++ ':' :: (padded 2 second ++
        (fractionText nanos ++ 'Z' :: rest)))) =
      some (3600 * hour + 60 * minute + (if second = 60 then 59 else second),
        (if second = 60 then 1000000000 + nanos else nanos), 'Z' :: rest) := by
  have hcolon : ∀ cs, separator? ':' (':' :: cs) = some cs :=
    fun cs => separator?_cons (by decide)
  by_cases h60 : second = 60
  · subst h60
    simp [timeOfDay?, hcolon, field?_padded (n := hour) (by omega),
      field?_padded (n := minute) (by omega), field?_padded (n := 60) (by omega),
      fraction?_fractionText hn, hh, hm]
  · simp [timeOfDay?, hcolon, field?_padded (n := hour) (by omega),
      field?_padded (n := minute) (by omega), field?_padded (n := second) (by omega),
      fraction?_fractionText hn, hh, hm, hs, h60]

/-! ## Timestamps -/

theorem ofSeconds?_self (t : Instant) : ofSeconds? t.seconds t.nanos = some t := by
  unfold ofSeconds?
  rw [dif_pos t.admitted, dif_pos t.fraction]

/-- The seconds of an instant are those of its day and those in it. -/
theorem seconds_eq (t : Instant) : t.seconds = t.date.number * 86400 + t.secondOfDay := by
  unfold date secondOfDay
  rw [Date.number_ofNumber]
  omega

theorem year_date (t : Instant) : -262143 ≤ t.date.year ∧ t.date.year ≤ 262142 := by
  have h := t.admitted
  unfold firstSecond lastSecond at h
  exact Date.year_ofNumber (by omega) (by omega)

/-- The written time of day of an instant is read as its second of the day and its nanoseconds, a
leap second being written as the sixtieth. -/
theorem timeOfDay?_localText (t : Instant) (rest : List Char) :
    timeOfDay? (padded 2 (t.secondOfDay / 3600) ++ ':' :: (padded 2 (t.secondOfDay / 60 % 60) ++
        ':' :: (padded 2 (if 1000000000 ≤ t.nanos then t.secondOfDay % 60 + 1
          else t.secondOfDay % 60) ++
        (fractionText (if 1000000000 ≤ t.nanos then t.nanos - 1000000000 else t.nanos) ++
          'Z' :: rest)))) = some (t.secondOfDay, t.nanos, 'Z' :: rest) := by
  have hday : t.secondOfDay < 86400 := by
    unfold secondOfDay
    omega
  have hfraction := t.fraction
  have hmod : t.seconds % 60 = 59 → t.secondOfDay % 60 = 59 := by
    unfold secondOfDay
    omega
  by_cases hleap : 1000000000 ≤ t.nanos
  · have h59 : t.secondOfDay % 60 = 59 := hmod (by omega)
    rw [if_pos hleap, if_pos hleap, timeOfDay?_text (by omega) (by omega) (by omega) (by omega),
      if_pos (by omega), if_pos (by omega)]
    simp only [Option.some.injEq, Prod.mk.injEq, and_true]
    omega
  · rw [if_neg hleap, if_neg hleap, timeOfDay?_text (by omega) (by omega) (by omega) (by omega),
      if_neg (by omega), if_neg (by omega)]
    simp only [Option.some.injEq, Prod.mk.injEq, and_true]
    omega

/-- The timestamp of an instant names that instant. -/
theorem ofString?_text (t : Instant) : ofString? t.text = some t := by
  have hdate : ∀ rest, date? (yearText t.date.year ++ '-' :: (padded 2 t.date.month ++
      '-' :: (padded 2 t.date.day ++ rest))) = some (t.date, rest) :=
    fun rest => date?_text (Date.exists?_ofNumber _)
  have htime := timeOfDay?_localText t []
  have hoffset : offset? (trimStart ['Z']) = some (0, []) := rfl
  have hyear := year_date t
  simp only [ofString?, text, String.toList_ofList, localText, List.append_assoc, List.cons_append,
    ofChars?, hdate, middle?, htime, hoffset, Option.bind_eq_bind, Option.bind_some]
  rw [if_pos (by simp [trimStart, hyear]), Int.sub_zero, ← seconds_eq, ofSeconds?_self]

end Cadastre.Instant
