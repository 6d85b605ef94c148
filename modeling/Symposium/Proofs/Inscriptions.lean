import Mathlib.Data.String.Basic
import Mathlib.Tactic.Common
import Symposium.Proofs.Days
import Symposium.Time.Printer
import Symposium.Time.Reader

/-!
# Timestamps that are written and read

A timestamp is written with padded numbers, and read back from exactly as many digits as were
written. The readers of its parts are each shown to undo the printer of the part, whatever follows
the part in the text. Main statement: a timestamp of the years 0 to 9999 whose offset is less than a
day is read from its own text.
-/

namespace Symposium

namespace Text

/-- The digits of the library are digits here. -/
lemma isDigit_of_isDigit {c : Char} (h : c.isDigit = true) : isDigit c = true := by
  obtain ⟨hzero, hnine⟩ := Bool.and_eq_true_iff.1 h
  have hrange : '0' ≤ c ∧ c ≤ '9' := ⟨of_decide_eq_true hzero, of_decide_eq_true hnine⟩
  rw [isDigit, digit?, if_pos hrange]
  rfl

/-- Digits have the value that they have as digits of base ten. -/
lemma ofDigits_eq {cs : List Char} (h : ∀ c ∈ cs, isDigit c = true) :
    ofDigits cs = Nat.ofDigitChars 10 cs 0 := by
  rw [ofDigits, Nat.ofDigitChars_eq_foldl]
  refine List.foldl_ext _ _ 0 fun n c hc => ?_
  obtain ⟨value, hvalue⟩ := Option.isSome_iff_exists.1 (h c hc)
  rw [hvalue]
  rw [digit?] at hvalue
  split at hvalue
  · cases hvalue
    rfl
  · cases hvalue

/-- A padded number is its digits after as many zeros as are missing. -/
lemma toList_padded (width n : Nat) :
    (padded width n).toList =
      List.replicate (width - (Nat.toDigits 10 n).length) '0' ++ Nat.toDigits 10 n := by
  rw [padded, String.toList_ofList]

/-- A padded number consists of digits. -/
lemma isDigit_of_mem_padded {width n : Nat} : ∀ c ∈ (padded width n).toList, isDigit c = true := by
  intro c hc
  rw [toList_padded] at hc
  cases List.mem_append.1 hc with
  | inl hzero =>
    rw [List.eq_of_mem_replicate hzero]
    rfl
  | inr hdigit =>
    exact isDigit_of_isDigit (Nat.isDigit_of_mem_toDigits (by decide) (by decide) hdigit)

/-- A padded number reads back, as leading zeros do not count. -/
lemma ofDigits_padded (width n : Nat) : ofDigits (padded width n).toList = n := by
  rw [ofDigits_eq isDigit_of_mem_padded, toList_padded, Nat.ofDigitChars_append,
    Nat.ofDigitChars_replicate_zero, Nat.mul_zero, Nat.ofDigitChars_ten_toDigits]

/-- A number that has no more digits is padded to the width. -/
lemma length_padded (width n : Nat) (hwidth : 0 < width) (h : n < 10 ^ width) :
    (padded width n).toList.length = width := by
  have hle := (Nat.length_toDigits_le_iff (by decide) hwidth).2 h
  rw [toList_padded, List.length_append, List.length_replicate]
  omega

/-- A text has at least as many bytes as characters. -/
lemma length_le_utf8ByteSize (s : String) : s.toList.length ≤ s.utf8ByteSize := by
  have hbytes (cs : List Char) : cs.length ≤ String.utf8Len cs := by
    induction cs with
    | nil => exact Nat.zero_le _
    | cons c cs ih =>
      have hpos := c.utf8Size_pos
      rw [List.length_cons, String.utf8Len]
      omega
  have hle := hbytes s.toList
  rwa [← String.utf8ByteSize_ofList, String.ofList_toList] at hle

end Text

namespace Timestamp

/-- As many digits are read as were written. -/
lemma digits?_padded (width n : Nat) (hwidth : 0 < width) (h : n < 10 ^ width)
    (rest : List Char) :
    digits? width ((Text.padded width n).toList ++ rest) = some (n, rest) := by
  have hlength := Text.length_padded width n hwidth h
  have htake : ((Text.padded width n).toList ++ rest).take width = (Text.padded width n).toList :=
    List.take_left' hlength
  have hdrop : ((Text.padded width n).toList ++ rest).drop width = rest := List.drop_left' hlength
  have hall : (Text.padded width n).toList.all Text.isDigit = true :=
    List.all_eq_true.2 Text.isDigit_of_mem_padded
  simp only [digits?, htake, hdrop, hlength, hall, Text.ofDigits_padded, and_self, if_true]

/-- Two digits are read and the rest is left. -/
lemma digits?_two {n : Nat} (h : n < 100) (rest : List Char) :
    digits? 2 ((Text.padded 2 n).toList ++ rest) = some (n, rest) :=
  digits?_padded 2 n (by decide) h rest

section Date

variable {date : Time.Date}

/-- A date is printed as four, two and two digits with hyphens between them. -/
lemma toList_printDate (date : Time.Date) (rest : List Char) :
    (printDate date).toList ++ rest =
      (Text.padded 4 date.year.toNat).toList ++ '-' ::
        ((Text.padded 2 date.month.toNat).toList ++ '-' ::
          ((Text.padded 2 date.day.toNat).toList ++ rest)) := by
  simp [printDate]

/-- A date is read back from its print. -/
lemma readDate_printDate (valid : date.IsValid) (hyear : 0 ≤ date.year ∧ date.year ≤ 9999)
    {bytes : Nat} (hbytes : 10 ≤ bytes) (rest : List Char) :
    readDate bytes ((printDate date).toList ++ rest) = .ok (date, rest) := by
  obtain ⟨⟨hjanuary, hdecember⟩, hfirst, hlast⟩ := valid
  have hlength := Time.daysInMonth_le date.year date.month
  have hy := digits?_padded 4 date.year.toNat (by decide) (by omega)
  have hm := digits?_two (n := date.month.toNat) (by omega)
  have hd := digits?_two (n := date.day.toNat) (by omega)
  have hy' : (date.year.toNat : Int) = date.year := Int.toNat_of_nonneg (by omega)
  have hm' : (date.month.toNat : Int) = date.month := Int.toNat_of_nonneg (by omega)
  have hd' : (date.day.toNat : Int) = date.day := Int.toNat_of_nonneg (by omega)
  have hshort : ¬ bytes < 10 := by omega
  have hmonth : ¬ (date.month.toNat < 1 ∨ 12 < date.month.toNat) := by omega
  have hday : ¬ (date.day.toNat < 1 ∨ Time.daysInMonth date.year date.month < date.day) := by omega
  rw [toList_printDate]
  simp only [readDate, hy, hm, hd, hy', hm', hd', hshort, hmonth, hday, if_false]
  rfl

end Date

section Time

/-- Hours and minutes are printed as two digits each with a colon between them. -/
lemma toList_printHourMinute (minutes : Nat) (rest : List Char) :
    (printHourMinute minutes).toList ++ rest =
      (Text.padded 2 (minutes / 60)).toList ++ ':' ::
        ((Text.padded 2 (minutes % 60)).toList ++ rest) := by
  simp [printHourMinute]

/-- What may follow a number: nothing that would go on with it. -/
def EndsNumber (rest : List Char) : Prop :=
  ∀ c ∈ rest.head?, Text.isDigit c = false ∧ c ≠ '.' ∧ c ≠ ','

/-- The text of a fraction of a second, with its point. -/
def fractionText (fraction : Nat) : List Char :=
  if fraction = 0 then [] else '.' :: (Text.padded 6 fraction).toList

/-- Where a number ends, reading digits stops. -/
lemma takeWhile_isDigit_padded (width n : Nat) {rest : List Char} (hrest : EndsNumber rest) :
    ((Text.padded width n).toList ++ rest).takeWhile Text.isDigit =
      (Text.padded width n).toList := by
  rw [List.takeWhile_append_of_pos Text.isDigit_of_mem_padded]
  cases rest with
  | nil => rw [List.takeWhile_nil, List.append_nil]
  | cons c rest =>
    obtain ⟨hdigit, _⟩ := hrest c rfl
    rw [List.takeWhile_cons_of_neg (by rw [hdigit]; exact Bool.false_ne_true), List.append_nil]

/-- Six digits of a fraction are microseconds. -/
lemma ofFraction_padded {fraction : Nat} (h : fraction < 1000000) :
    ofFraction (Text.padded 6 fraction).toList = fraction := by
  have hlength := Text.length_padded 6 fraction (by decide) h
  rw [ofFraction, hlength, List.take_of_length_le (Nat.le_of_eq hlength), Nat.sub_self,
    List.replicate_zero, List.append_nil, Text.ofDigits_padded]

/-- Seconds are read back from their print, with or without a fraction. -/
lemma readSeconds?_print (seconds fraction : Nat) (hseconds : seconds < 60)
    (hfraction : fraction < 1000000) {rest : List Char} (hrest : EndsNumber rest) :
    readSeconds? (':' :: ((Text.padded 2 seconds).toList ++ (fractionText fraction ++ rest))) =
      some (seconds * 1000000 + fraction, rest) := by
  have hs := digits?_two (n := seconds) (by omega)
  have hle : seconds ≤ 59 := by omega
  simp only [readSeconds?, hs, fractionText]
  by_cases hzero : fraction = 0
  · subst hzero
    cases rest with
    | nil => simp [hle]
    | cons c rest =>
      obtain ⟨_, hpoint, hcomma⟩ := hrest c rfl
      simp [hle, hpoint, hcomma]
  · have htake := takeWhile_isDigit_padded 6 fraction hrest
    have hlength := Text.length_padded 6 fraction (by decide) hfraction
    have hdigits : (!(Text.padded 6 fraction).toList.isEmpty) = true := by
      rw [Bool.not_eq_true', List.isEmpty_eq_false_iff, ← List.length_pos_iff, hlength]
      exact Nat.zero_lt_succ 5
    simp only [if_neg hzero, List.cons_append, Option.bind_eq_bind, Option.bind_some, guard, hle,
      if_true, true_or, htake, hdigits, ofFraction_padded hfraction, List.drop_left]
    rfl

/-- A time of day is printed as hours, minutes, seconds and what is left of a second. -/
lemma toList_printTime (microseconds : Nat) (rest : List Char) :
    (printTime microseconds).toList ++ rest =
      (Text.padded 2 (microseconds / 1000000 / 60 / 60)).toList ++ ':' ::
        ((Text.padded 2 (microseconds / 1000000 / 60 % 60)).toList ++ ':' ::
          ((Text.padded 2 (microseconds / 1000000 % 60)).toList ++
            (fractionText (microseconds % 1000000) ++ rest))) := by
  have hfraction : (if microseconds % 1000000 = 0 then ""
      else "." ++ Text.padded 6 (microseconds % 1000000)).toList =
      fractionText (microseconds % 1000000) := by
    rw [fractionText]
    split <;> simp
  simp only [printTime, String.toList_append, hfraction, List.append_assoc, toList_printHourMinute]
  simp

end Time

section Offset

/-- An offset that is less than a day. -/
def IsOffset (minutes : Int) : Prop :=
  minutes.natAbs < 1440

/-- No offset at all is a valid one. -/
lemma isOffset_zero : IsOffset 0 :=
  Nat.zero_lt_succ 1439

/-- The offset of the record style ends the number before it. -/
lemma endsNumber_printOffset (offset : Option Int) :
    EndsNumber (printOffset .record offset).toList := by
  intro c hc
  cases offset with
  | none => cases hc
  | some minutes =>
    rw [printOffset] at hc
    split at hc
    · cases hc
      decide
    · rw [String.toList_append, List.head?_append] at hc
      split at hc <;> cases hc <;> decide

/-- Hours and minutes after a sign are read as an offset to that side. -/
lemma readOffset?_signed (sign : Char) {factor : Int} (hsign : offsetSign? sign = some factor)
    {minutes : Nat} (hminutes : minutes < 1440) :
    readOffset? (sign :: (printHourMinute minutes).toList) = some (some (factor * minutes)) := by
  have hhours := digits?_two (n := minutes / 60) (by omega)
  have hrest := digits?_two (n := minutes % 60) (by omega) []
  have hlist := toList_printHourMinute minutes []
  rw [List.append_nil] at hlist
  have hcond : minutes % 60 ≤ 59 ∧ minutes / 60 ≤ 23 ∧ ([] : List Char) = [] :=
    ⟨by omega, by omega, rfl⟩
  have hsum : ((minutes / 60 : Nat) * 60 + (minutes % 60 : Nat) : Int) = minutes := by omega
  have hnil : (printHourMinute minutes).toList ≠ [] := by
    rw [hlist]
    exact List.append_ne_nil_of_right_ne_nil _ (List.cons_ne_nil _ _)
  rw [readOffset?, hlist]
  · simp only [hsign, hhours, hrest, Option.bind_eq_bind, Option.bind_some, hcond, and_self,
      guard, if_true, hsum]
    rfl
  · exact fun _ => hnil
  · exact fun _ => hnil

/-- An offset is read back from its print, and so is none. -/
lemma readOffset?_print {offset : Option Int} (h : ∀ minutes ∈ offset, IsOffset minutes) :
    readOffset? (printOffset .record offset).toList = some offset := by
  cases offset with
  | none => rfl
  | some minutes =>
    have hminutes : minutes.natAbs < 1440 := h minutes rfl
    rw [printOffset]
    split
    case isTrue hzero =>
      rw [hzero]
      rfl
    case isFalse =>
      rw [String.toList_append]
      split
      case isTrue hnegative =>
        have hread := readOffset?_signed '-' rfl hminutes
        rwa [show (-1 : Int) * minutes.natAbs = minutes by omega] at hread
      case isFalse hnegative =>
        have hread := readOffset?_signed '+' rfl hminutes
        rwa [show (1 : Int) * minutes.natAbs = minutes by omega] at hread

end Offset

section Time

/-- Every time of day is read from its own text, and the offset with it. -/
lemma readTime?_print (microseconds : Nat) (htime : microseconds < 86400000000)
    {offset : Option Int} (hoffset : ∀ minutes ∈ offset, IsOffset minutes) :
    readTime? ((printTime microseconds).toList ++ (printOffset .record offset).toList) =
      some ((microseconds : Int), offset) := by
  have hhours := digits?_two (n := microseconds / 1000000 / 60 / 60) (by omega)
  have hminutes := digits?_two (n := microseconds / 1000000 / 60 % 60) (by omega)
  have hseconds := readSeconds?_print (microseconds / 1000000 % 60)
    (microseconds % 1000000) (by omega) (by omega) (endsNumber_printOffset offset)
  have hcond : microseconds / 1000000 / 60 / 60 ≤ 23 ∧ microseconds / 1000000 / 60 % 60 ≤ 59 := by
    omega
  have hsum : ((microseconds / 1000000 / 60 / 60 : Nat) * 60 +
      (microseconds / 1000000 / 60 % 60 : Nat)) * minute +
      ((microseconds / 1000000 % 60) * 1000000 + microseconds % 1000000 : Nat) =
      (microseconds : Int) := by
    rw [minute, second]
    omega
  rw [toList_printTime]
  simp only [readTime?, hhours, hminutes, hseconds, readOffset?_print hoffset,
    Option.bind_eq_bind, Option.bind_some, hcond, and_self, guard, if_true, hsum]
  rfl

end Time

/-- Whether a timestamp is of the years 0 to 9999, with an offset that is less than a day. -/
structure IsLegible (t : Timestamp) : Prop where
  year : 0 ≤ t.date.year ∧ t.date.year ≤ 9999
  offset : ∀ minutes ∈ t.offset, IsOffset minutes

/-- Within four digits of a year, a date takes ten characters. -/
lemma length_printDate {date : Time.Date} (valid : date.IsValid)
    (hyear : 0 ≤ date.year ∧ date.year ≤ 9999) : (printDate date).toList.length = 10 := by
  obtain ⟨⟨_, hdecember⟩, _, hlast⟩ := valid
  have hlength := Time.daysInMonth_le date.year date.month
  have hy := Text.length_padded 4 date.year.toNat (by decide) (by omega)
  have hm := Text.length_padded 2 date.month.toNat (by decide) (by omega)
  have hd := Text.length_padded 2 date.day.toNat (by decide) (by omega)
  have hlist := toList_printDate date []
  rw [List.append_nil, List.append_nil] at hlist
  rw [hlist]
  simp only [List.length_append, List.length_cons, hy, hm, hd]

/-- What is shown is the date, a `T`, the time of day and the offset. -/
lemma toList_print (t : Timestamp) :
    (t.print .record).toList =
      (printDate t.date).toList ++ 'T' :: ((printTime t.timeOfDay.toNat).toList ++
        (printOffset .record t.offset).toList) := by
  simp [print]

/-- A timestamp consists of its date and its time of day. -/
lemma clock_eq (t : Timestamp) : t.date.toDays * day + t.timeOfDay = t.clock := by
  rw [date, timeOfDay, Time.toDays_ofDays, Int.mul_comm]
  exact Int.mul_ediv_add_emod t.clock day

/-- A time of day is less than a day. -/
lemma timeOfDay_mem (t : Timestamp) : 0 ≤ t.timeOfDay ∧ t.timeOfDay < 86400000000 := by
  rw [timeOfDay, day, minute, second]
  omega

/-- A timestamp is read from its own text. -/
theorem readText_print {t : Timestamp} (legible : t.IsLegible) :
    readText (t.print .record) = .ok t := by
  have valid : t.date.IsValid := Time.isValid_ofDays _
  have hbytes : 10 ≤ (t.print .record).utf8ByteSize := by
    calc 10 = (printDate t.date).toList.length := (length_printDate valid legible.year).symm
      _ ≤ (t.print .record).toList.length := by
        rw [toList_print, List.length_append]
        exact Nat.le_add_right _ _
      _ ≤ (t.print .record).utf8ByteSize := Text.length_le_utf8ByteSize _
  obtain ⟨hmidnight, hend⟩ := t.timeOfDay_mem
  have htime := readTime?_print t.timeOfDay.toNat (by omega) legible.offset
  rw [Int.toNat_of_nonneg hmidnight] at htime
  have hread : readDateTime? (t.print .record).utf8ByteSize (t.print .record).toList = some t := by
    have hseparator : isSeparator 'T' = true := rfl
    rw [readDateTime?, toList_print, readDate_printDate valid legible.year hbytes]
    simp only [hseparator, if_true, htime, Option.map_some, clock_eq]
  rw [readText, hread]

end Timestamp

end Symposium
