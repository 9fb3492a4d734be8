import Charting.Proofs.Time.Calendar
import Charting.Time.Timestamp

/-!
# Timestamps written and read back

A timestamp that is written and read back loses its milliseconds and nothing else.  Each reader is
shown to read the part of the text that was written for it, whatever comes after; of the four forms
that are tried in turn, the strict one lacks its offset, and a date alone lacks its time of day.
-/

namespace Charting

/-! ## Blanks and digits -/

theorem dropBlanks_eq_self {cs : List Char} (h : ∀ c ∈ cs, isBlank c = false) :
    dropBlanks cs = cs := by
  cases cs with
  | nil => rfl
  | cons c cs => simp [dropBlanks, h c]

theorem trimBlanks_eq_self {cs : List Char} (h : ∀ c ∈ cs, isBlank c = false) :
    trimBlanks cs = cs := by
  rw [trimBlanks, dropBlanks_eq_self h, dropBlanks_eq_self (by simpa using h), List.reverse_reverse]

theorem isBlank_eq_false_of_isDigit {c : Char} (h : c.isDigit) : isBlank c = false := by
  have hc : 48 ≤ c.toNat ∧ c.toNat ≤ 57 := by
    simpa [Char.isDigit, UInt32.le_iff_toNat_le] using h
  simp only [isBlank]
  grind

theorem readDigits_eq (n : Nat) (ds : List Char) : readDigits n ds = Nat.ofDigitChars 10 ds n := by
  rw [readDigits, Nat.ofDigitChars_eq_foldl]

namespace Timestamp

theorem toList_padded (width n : Nat) :
    (padded width n).toList =
      zeros (width - (Nat.toDigits 10 n).length) ++ Nat.toDigits 10 n := by
  simp [padded]

/-- A padded number reads as the number. -/
@[simp]
theorem readDigits_padded (width n : Nat) : readDigits 0 (padded width n).toList = n := by
  rw [readDigits_eq, toList_padded, Nat.ofDigitChars_append, zeros,
    Nat.ofDigitChars_replicate_zero, mul_zero, Nat.ofDigitChars_ten_toDigits]

theorem isDigit_of_mem_padded {width n : Nat} {c : Char} (hc : c ∈ (padded width n).toList) :
    c.isDigit := by
  rw [toList_padded, List.mem_append] at hc
  rcases hc with hc | hc
  · obtain ⟨-, rfl⟩ := List.mem_replicate.mp hc
    decide
  · exact Nat.isDigit_of_mem_toDigits (by decide) (by decide) hc

theorem padded_ne_nil (width n : Nat) : (padded width n).toList ≠ [] := by
  simp [toList_padded]

theorem exists_padded_eq_cons (width n : Nat) :
    ∃ c cs, (padded width n).toList = c :: cs ∧ c.isDigit := by
  obtain ⟨c, cs, hcs⟩ := List.exists_cons_of_ne_nil (padded_ne_nil width n)
  exact ⟨c, cs, hcs, isDigit_of_mem_padded (show c ∈ (padded width n).toList by simp [hcs])⟩

/-- A number that fits the width is padded to just that width. -/
theorem length_padded {width n : Nat} (hwidth : 0 < width) (hn : n < 10 ^ width) :
    (padded width n).toList.length = width := by
  have := (Nat.length_toDigits_le_iff (b := 10) (by decide) hwidth).mpr hn
  simp [toList_padded, zeros]
  omega

/-! ## Parts of a text -/

@[simp]
theorem literal_append (want rest : List Char) : literal want (want ++ rest) = some ((), rest) := by
  simp [literal]

theorem exactDigits_padded {width n : Nat} (hwidth : 0 < width) (hn : n < 10 ^ width)
    (rest : List Char) : exactDigits width ((padded width n).toList ++ rest) = some (n, rest) := by
  have hlength := length_padded hwidth hn
  have htake : ((padded width n).toList ++ rest).take width = (padded width n).toList :=
    List.take_left' hlength
  have hdrop : ((padded width n).toList ++ rest).drop width = rest := List.drop_left' hlength
  have hdigits : (padded width n).toList.all Char.isDigit :=
    List.all_eq_true.mpr fun c ↦ isDigit_of_mem_padded
  simp [exactDigits, htake, hdrop, hlength, hdigits]

theorem exactDigits_of_not_isDigit {width : Nat} (hwidth : 0 < width) {c : Char}
    (hc : c.isDigit = false) (rest : List Char) : exactDigits width (c :: rest) = none := by
  obtain ⟨k, rfl⟩ := Nat.exists_eq_succ_of_ne_zero hwidth.ne'
  simp [exactDigits, hc]

theorem takeWhile_isDigit_padded (width n : Nat) (rest : List Char) :
    ((padded width n).toList ++ rest).takeWhile Char.isDigit =
      (padded width n).toList ++ rest.takeWhile Char.isDigit :=
  List.takeWhile_append_of_pos fun _ ↦ isDigit_of_mem_padded

theorem upToDigits_padded {width n : Nat} (hwidth : 0 < width) (hn : n < 10 ^ width)
    (rest : List Char) : upToDigits width ((padded width n).toList ++ rest) = some (n, rest) := by
  have hlength := length_padded hwidth hn
  have htake : ((padded width n).toList ++ rest).take width = (padded width n).toList :=
    List.take_left' hlength
  have hdrop : ((padded width n).toList ++ rest).drop (padded width n).toList.length = rest :=
    List.drop_left' rfl
  have hblank : dropBlanks ((padded width n).toList ++ rest) = (padded width n).toList ++ rest := by
    obtain ⟨c, cs, hcs, hc⟩ := exists_padded_eq_cons width n
    simp [hcs, dropBlanks, isBlank_eq_false_of_isDigit hc]
  have hdigits : (padded width n).toList.takeWhile Char.isDigit = (padded width n).toList := by
    simpa using takeWhile_isDigit_padded width n []
  simp only [upToDigits, hblank, htake, hdigits, padded_ne_nil, if_false, readDigits_padded, hdrop]

/-- The reader reads any two digits as their number. -/
def ReadsTwoDigits (r : Reader Nat) : Prop :=
  ∀ n < 100, ∀ rest, r ((padded 2 n).toList ++ rest) = some (n, rest)

theorem readsTwoDigits_exactDigits : ReadsTwoDigits (exactDigits 2) :=
  fun _ hn ↦ exactDigits_padded (by decide) hn

theorem readsTwoDigits_upToDigits : ReadsTwoDigits (upToDigits 2) :=
  fun _ hn ↦ upToDigits_padded (by decide) hn

/-- The reader reads a year as it is written in front of a month. -/
def ReadsYear (r : Reader Int) (y : Int) : Prop :=
  ∀ rest, r ((yearText y).toList ++ '-' :: rest) = some (y, '-' :: rest)

theorem year_of_isDigit {c : Char} (hc : c.isDigit) (cs : List Char) :
    year (c :: cs) = (upToDigits 4 (c :: cs)).map fun p ↦ ((p.1 : Int), p.2) := by
  have hblank : dropBlanks (c :: cs) = c :: cs := by
    simp [dropBlanks, isBlank_eq_false_of_isDigit hc]
  have hminus : c ≠ '-' := by rintro rfl; contradiction
  have hplus : c ≠ '+' := by rintro rfl; contradiction
  simp only [year, hblank]
  split
  · simp_all
  · simp_all
  · cases upToDigits 4 (c :: cs) <;> rfl

/-- A signed year goes on as long as there are digits. -/
theorem year_signed (n : Nat) (rest : List Char) :
    year ('-' :: ((padded 4 n).toList ++ '-' :: rest)) = some (-(n : Int), '-' :: rest) ∧
      year ('+' :: ((padded 4 n).toList ++ '-' :: rest)) = some ((n : Int), '-' :: rest) := by
  have htake : ((padded 4 n).toList ++ '-' :: rest).takeWhile Char.isDigit =
      (padded 4 n).toList := by simp [takeWhile_isDigit_padded]
  have hdrop : ((padded 4 n).toList ++ '-' :: rest).drop (padded 4 n).toList.length =
      '-' :: rest := List.drop_left' rfl
  have hminus (cs : List Char) : dropBlanks ('-' :: cs) = '-' :: cs := by simp [dropBlanks, isBlank]
  have hplus (cs : List Char) : dropBlanks ('+' :: cs) = '+' :: cs := by simp [dropBlanks, isBlank]
  simp only [year, hminus, hplus, htake, hdrop, padded_ne_nil, readDigits_padded, if_false, if_true,
    Bool.false_eq_true, and_self]

theorem readsYear_year (y : Int) : ReadsYear year y := by
  intro rest
  unfold yearText
  split_ifs with hfour hneg
  · obtain ⟨c, cs, hcs, hc⟩ := exists_padded_eq_cons 4 y.toNat
    have hn : y.toNat < 10 ^ 4 := by omega
    have hread := upToDigits_padded (by decide) hn ('-' :: rest)
    rw [hcs, List.cons_append] at hread ⊢
    rw [year_of_isDigit hc, hread, Option.map_some, Int.toNat_of_nonneg hfour.1]
  · have hy : -(y.natAbs : Int) = y := by omega
    have hread := (year_signed y.natAbs rest).1
    rw [hy] at hread
    simpa using hread
  · have hy : (y.natAbs : Int) = y := by omega
    have hread := (year_signed y.natAbs rest).2
    rw [hy] at hread
    simpa using hread

/-- A written date is read as the date, whatever comes after it. -/
theorem date_dateText {readYear : Reader Int} {readPart : Reader Nat} {d : Date}
    (hyear : ReadsYear readYear d.year) (hpart : ReadsTwoDigits readPart) (hd : d.isValid)
    (rest : List Char) :
    date readYear readPart '-' ((dateText d).toList ++ rest) = some (d, rest) := by
  obtain ⟨hyears, hday⟩ := Date.isValid_iff.mp hd
  have hmonth := hpart d.month (by have := hday.month_bounds; omega)
  have hdays := hpart d.day (by have := hday.day_le; omega)
  have hliteral : ∀ cs, literal ['-'] ('-' :: cs) = some ((), cs) := literal_append ['-']
  simp [date, dateText, hyear _, hmonth, hdays, hliteral, hd]

/-- A written time of day is read as the time of day, whatever comes after it. -/
theorem timeOfDay_secondText {readPart : Reader Nat} (hpart : ReadsTwoDigits readPart)
    {second : Nat} (hsecond : second < 86400) (rest : List Char) :
    timeOfDay readPart ((secondText second).toList ++ rest) = some (second, rest) := by
  have hliteral : ∀ cs, literal [':'] (':' :: cs) = some ((), cs) := literal_append [':']
  simp [timeOfDay, secondText, minuteText, hliteral, hpart (second / 3600) (by omega),
    hpart (second / 60 % 60) (by omega), hpart (second % 60) (by omega)]
  omega

/-! ## The forms -/

/-- The year of the strict form. -/
def fourDigitYear : Reader Int := fun cs => do
  let (n, cs) ← exactDigits 4 cs
  some ((n : Int), cs)

theorem readsYear_fourDigitYear {y : Int} (hy : 0 ≤ y ∧ y ≤ 9999) : ReadsYear fourDigitYear y := by
  intro rest
  have hn : y.toNat < 10 ^ 4 := by omega
  have hread := exactDigits_padded (by decide) hn ('-' :: rest)
  simp [fourDigitYear, yearText, hy, hread]

theorem fourDigitYear_signed {y : Int} (hy : ¬(0 ≤ y ∧ y ≤ 9999)) (rest : List Char) :
    fourDigitYear ((yearText y).toList ++ rest) = none := by
  have hsign (c : Char) (hc : c.isDigit = false) (cs : List Char) :
      exactDigits 4 (c :: cs) = none := exactDigits_of_not_isDigit (by decide) hc cs
  unfold yearText fourDigitYear
  split_ifs <;> simp [hsign]

/-- The strict form reads no date alone, and no time of day without an offset. -/
theorem withOffset?_eq_none {d : Date} (hd : d.isValid) {time : List Char}
    (htime : time = [] ∨ ∃ second < 86400, time = 'T' :: (secondText second).toList) :
    withOffset? ((dateText d).toList ++ time) = none := by
  change (date fourDigitYear (exactDigits 2) '-' ((dateText d).toList ++ time)).bind _ = none
  by_cases hfour : 0 ≤ d.year ∧ d.year ≤ 9999
  · rw [date_dateText (readsYear_fourDigitYear hfour) readsTwoDigits_exactDigits hd time]
    rcases htime with rfl | ⟨second, hsecond, rfl⟩
    · simp
    · have htime := timeOfDay_secondText readsTwoDigits_exactDigits hsecond []
      rw [List.append_nil] at htime
      simp [htime, fraction, offset]
  · simp [date, dateText, fourDigitYear_signed hfour]

/-- A date alone has no time of day. -/
theorem withTime?_dateText {d : Date} (hd : d.isValid) : withTime? (dateText d).toList = none := by
  have hdate := date_dateText (readsYear_year d.year) readsTwoDigits_upToDigits hd []
  rw [List.append_nil] at hdate
  simp [withTime?, hdate, timeOfDay, upToDigits, dropBlanks]

theorem withTime?_dateText_append {d : Date} (hd : d.isValid) {second : Nat}
    (hsecond : second < 86400) :
    withTime? ((dateText d).toList ++ 'T' :: (secondText second).toList) =
      some (Moment.mk d second 0).toTimestamp := by
  have hdate := date_dateText (readsYear_year d.year) readsTwoDigits_upToDigits hd
    ('T' :: (secondText second).toList)
  have htime := timeOfDay_secondText readsTwoDigits_upToDigits hsecond []
  rw [List.append_nil] at htime
  simp [withTime?, hdate, htime, fraction]

theorem dateOnly?_dateText {d : Date} (hd : d.isValid) :
    dateOnly? '-' (dateText d).toList = some (Moment.mk d 0 0).toTimestamp := by
  have hdate := date_dateText (readsYear_year d.year) readsTwoDigits_upToDigits hd []
  rw [List.append_nil] at hdate
  simp [dateOnly?, hdate]

/-! ## Whole timestamps -/

/-- Whether a text has no blanks. -/
def NoBlank (s : String) : Prop := ∀ c ∈ s.toList, isBlank c = false

instance (s : String) : Decidable (NoBlank s) :=
  List.decidableBAll (fun c ↦ isBlank c = false) s.toList

theorem NoBlank.append {s t : String} (hs : NoBlank s) (ht : NoBlank t) : NoBlank (s ++ t) := by
  intro c hc
  rw [String.toList_append, List.mem_append] at hc
  exact hc.elim (hs c) (ht c)

theorem noBlank_padded (width n : Nat) : NoBlank (padded width n) :=
  fun _ hc ↦ isBlank_eq_false_of_isDigit (isDigit_of_mem_padded hc)

theorem noBlank_yearText (y : Int) : NoBlank (yearText y) := by
  unfold yearText
  split_ifs
  · exact noBlank_padded _ _
  · exact .append (by decide) (noBlank_padded _ _)
  · exact .append (by decide) (noBlank_padded _ _)

theorem noBlank_dateText (d : Date) : NoBlank (dateText d) :=
  ((((noBlank_yearText _).append (by decide)).append (noBlank_padded _ _)).append (by decide)).append
    (noBlank_padded _ _)

theorem noBlank_secondText (second : Nat) : NoBlank (secondText second) :=
  ((((noBlank_padded _ _).append (by decide)).append (noBlank_padded _ _)).append (by decide)).append
    (noBlank_padded _ _)

theorem read?_dateText {d : Date} (hd : d.isValid) :
    read? (dateText d) = some (Moment.mk d 0 0).toTimestamp := by
  have hstrict := withOffset?_eq_none hd (.inl rfl)
  rw [List.append_nil] at hstrict
  rw [read?, trimBlanks_eq_self (noBlank_dateText d), hstrict, withTime?_dateText hd,
    dateOnly?_dateText hd]
  rfl

theorem read?_dateText_append {d : Date} (hd : d.isValid) {second : Nat}
    (hsecond : second < 86400) :
    read? (dateText d ++ "T" ++ secondText second) =
      some (Moment.mk d second 0).toTimestamp := by
  have hlist : (dateText d ++ "T" ++ secondText second).toList =
      (dateText d).toList ++ 'T' :: (secondText second).toList := by simp
  have hblank : NoBlank (dateText d ++ "T" ++ secondText second) :=
    ((noBlank_dateText d).append (by decide)).append (noBlank_secondText second)
  rw [read?, trimBlanks_eq_self hblank, hlist,
    withOffset?_eq_none hd (.inr ⟨second, hsecond, rfl⟩), withTime?_dateText_append hd hsecond]
  rfl

end Timestamp

namespace Moment

/-- The first moment of the supported years. -/
def earliest : Moment := ⟨⟨-262143, 1, 1⟩, 0, 0⟩

/-- The last moment of the supported years. -/
def latest : Moment := ⟨⟨262142, 12, 31⟩, 86399, 999⟩

/-- The timestamps that are moments are those between the first and the last moment. -/
theorem isSome_ofTimestamp?_iff {t : Int} :
    (ofTimestamp? t).isSome ↔ earliest.toTimestamp ≤ t ∧ t ≤ latest.toTimestamp := by
  have hsome : (ofTimestamp? t).isSome ↔
      Date.isSupportedYear (Date.ofDays (t / msPerDay)).year := by
    simp [ofTimestamp?]
  rw [hsome, Date.isSupportedYear_ofDays_iff]
  simp only [earliest, latest, toTimestamp, msPerDay]
  omega

theorem of_ofTimestamp? {t : Int} {m : Moment} (hm : ofTimestamp? t = some m) :
    m.date.isValid ∧ m.second < 86400 ∧ m.milli < 1000 ∧ m.toTimestamp = t := by
  obtain ⟨hyear, rfl⟩ : Date.isSupportedYear (Date.ofDays (t / msPerDay)).year ∧
      (⟨Date.ofDays (t / msPerDay), (t % msPerDay).toNat / 1000,
        (t % msPerDay).toNat % 1000⟩ : Moment) = m := by
    simpa [ofTimestamp?] using hm
  refine ⟨Date.isValid_iff.mpr ⟨hyear, Date.isDay_ofDays _⟩, ?_, ?_, ?_⟩ <;>
    simp only [toTimestamp, Date.toDays_ofDays, msPerDay] <;> omega

/-- A moment without its milliseconds is the last whole second before it. -/
theorem toTimestamp_second (m : Moment) (h : m.milli < 1000) :
    (Moment.mk m.date m.second 0).toTimestamp = 1000 * (m.toTimestamp / 1000) := by
  simp only [toTimestamp, msPerDay]
  omega

end Moment

namespace Timestamp

theorem text_of_moment {t : Int} {m : Moment} (hm : Moment.ofTimestamp? t = some m) :
    text t = if m.second = 0 ∧ m.milli = 0 then dateText m.date
      else dateText m.date ++ "T" ++ secondText m.second := by
  unfold text
  rw [hm]

theorem read?_text_of_moment {t : Int} {m : Moment} (hm : Moment.ofTimestamp? t = some m) :
    read? (text t) = some (1000 * (t / 1000)) := by
  obtain ⟨hdate, hsecond, hmilli, ht⟩ := Moment.of_ofTimestamp? hm
  have hwhole := m.toTimestamp_second hmilli
  rw [ht] at hwhole
  rw [text_of_moment hm]
  split_ifs with hmidnight
  · rw [read?_dateText hdate, ← hwhole, hmidnight.1]
  · rw [read?_dateText_append hdate hsecond, hwhole]

/-- A timestamp that is written and read back loses its milliseconds and nothing else. -/
theorem read?_text {t : Int} (hfirst : Moment.earliest.toTimestamp ≤ t)
    (hlast : t ≤ Moment.latest.toTimestamp) : read? (text t) = some (1000 * (t / 1000)) := by
  obtain ⟨m, hm⟩ := Option.isSome_iff_exists.mp (Moment.isSome_ofTimestamp?_iff.mpr ⟨hfirst, hlast⟩)
  exact read?_text_of_moment hm

/-- A moment of a distant winter, whose year has a sign and five digits, is read as the second that
it belongs to. -/
theorem read?_text_glacial : Moment.earliest.toTimestamp ≤ -440000000000001 ∧
    -440000000000001 ≤ Moment.latest.toTimestamp ∧
    read? (text (-440000000000001)) = some (-440000000001000) :=
  ⟨by decide, by decide, read?_text (by decide) (by decide)⟩

end Timestamp

end Charting
