import Symposium.Conference
import Symposium.Proofs.Checks
import Symposium.Proofs.Inscriptions

/-!
# Timestamps that were read

The readers of a date, a time of day, an offset and a number each give values within bounds, so
whatever is read as a timestamp is of the years 0 to 9999 and can be written as a text. Main
statements: a checked timestamp is one that a calendar of the years 1 to 9999 and a clock show, and
each of these is read again from what is written for it.
-/

namespace Symposium

namespace Text

/-- A digit is less than ten. -/
lemma digit?_getD_lt (c : Char) : (digit? c).getD 0 < 10 := by
  rw [digit?]
  split
  case isTrue hrange =>
    have hnine : c.toNat ≤ 57 := hrange.2
    rw [Option.getD_some, show '0'.toNat = 48 from rfl]
    omega
  case isFalse => decide

/-- So many digits make a number below the power of ten. -/
lemma ofDigits_lt (cs : List Char) : ofDigits cs < 10 ^ cs.length := by
  have hfold (n : Nat) :
      cs.foldl (fun n c => 10 * n + (digit? c).getD 0) n < (n + 1) * 10 ^ cs.length := by
    induction cs generalizing n with
    | nil => simp
    | cons c cs ih =>
      have hdigit := digit?_getD_lt c
      calc (c :: cs).foldl (fun n c => 10 * n + (digit? c).getD 0) n
          < (10 * n + (digit? c).getD 0 + 1) * 10 ^ cs.length := ih _
        _ ≤ ((n + 1) * 10) * 10 ^ cs.length := Nat.mul_le_mul_right _ (by omega)
        _ = (n + 1) * 10 ^ (c :: cs).length := by
          rw [List.length_cons, Nat.pow_succ, Nat.mul_assoc, Nat.mul_comm 10]
  have hzero := hfold 0
  rwa [Nat.zero_add, Nat.one_mul] at hzero

end Text

namespace Timestamp

variable {cs rest : List Char}

/-- So many digits are less than that power of ten. -/
lemma digits?_lt {count n : Nat} (h : digits? count cs = some (n, rest)) : n < 10 ^ count := by
  rw [digits?] at h
  split at h
  case isTrue hdigits =>
    cases h
    have hlt := Text.ofDigits_lt (cs.take count)
    rwa [hdigits.1] at hlt
  case isFalse => cases h

/-- A date that is read exists and has a year of four digits. -/
lemma readDate_eq_ok {bytes : Nat} {date : Time.Date} (h : readDate bytes cs = .ok (date, rest)) :
    date.IsValid ∧ 0 ≤ date.year ∧ date.year ≤ 9999 := by
  rw [readDate] at h
  split at h
  case isTrue => cases h
  case isFalse =>
    simp only [bind, Except.bind] at h
    -- a part that is not as it should be is an error
    split at h <;> try cases h
    rename_i year _ hyear
    split at h <;> try cases h
    split at h <;> try cases h
    rename_i month _ _
    split at h <;> try cases h
    split at h <;> try cases h
    rename_i day _ _
    split at h
    case isTrue => cases h
    case isFalse hmonth =>
      split at h
      case isTrue => cases h
      case isFalse hday =>
        cases h
        have hlt := digits?_lt hyear
        refine ⟨⟨?_, ?_⟩, ?_⟩
        · show (1 : Int) ≤ month ∧ (month : Int) ≤ 12
          omega
        · show (1 : Int) ≤ day ∧ (day : Int) ≤ Time.daysInMonth year month
          omega
        · show (0 : Int) ≤ year ∧ (year : Int) ≤ 9999
          omega

/-- A fraction of a second is less than a second. -/
lemma ofFraction_lt (digits : List Char) : ofFraction digits < 1000000 := by
  have hlt := Text.ofDigits_lt (digits.take 6 ++ List.replicate (6 - digits.length) '0')
  have hlength : (digits.take 6 ++ List.replicate (6 - digits.length) '0').length = 6 := by
    rw [List.length_append, List.length_take, List.length_replicate]
    omega
  rwa [hlength] at hlt

/-- Seconds that are read are less than a minute. -/
lemma readSeconds?_lt {microseconds : Nat} (h : readSeconds? cs = some (microseconds, rest)) :
    microseconds < 60000000 := by
  rw [readSeconds?.eq_def] at h
  split at h
  · obtain ⟨⟨seconds, cs⟩, _, h⟩ := Option.bind_eq_some_iff.1 h
    obtain ⟨_, hguard, h⟩ := Option.bind_eq_some_iff.1 h
    have hseconds : seconds ≤ 59 := (Option.guard_eq_some' _).1 hguard
    dsimp only at h
    split at h
    · split at h
      case isTrue =>
        obtain ⟨_, _, h⟩ := Option.bind_eq_some_iff.1 h
        cases h
        have hfraction := ofFraction_lt (List.takeWhile Text.isDigit ‹List Char›)
        omega
      case isFalse =>
        cases h
        omega
    · cases h
      omega
  · cases h
    decide

/-- A sign goes to one of two sides. -/
lemma offsetSign?_eq_some {sign : Char} {factor : Int} (h : offsetSign? sign = some factor) :
    factor = 1 ∨ factor = -1 := by
  rw [offsetSign?] at h
  split_ifs at h
  · exact .inl (Option.some.inj h).symm
  · exact .inr (Option.some.inj h).symm

/-- An offset that is read is less than a day. -/
lemma readOffset?_isOffset {offset : Option Int} (h : readOffset? cs = some offset) :
    ∀ minutes ∈ offset, IsOffset minutes := by
  rw [readOffset?.eq_def] at h
  split at h
  · cases h
    exact fun _ hnone => nomatch hnone
  · cases h
    rintro _ ⟨⟩
    exact isOffset_zero
  · cases h
    rintro _ ⟨⟩
    exact isOffset_zero
  -- the guard of the reader keeps the hours below a day and the minutes below an hour
  · obtain ⟨factor, hsign, h⟩ := Option.bind_eq_some_iff.1 h
    obtain ⟨⟨hours, cs⟩, _, h⟩ := Option.bind_eq_some_iff.1 h
    obtain ⟨⟨minutes, cs⟩, _, h⟩ := Option.bind_eq_some_iff.1 h
    obtain ⟨_, hguard, h⟩ := Option.bind_eq_some_iff.1 h
    obtain ⟨hminutes, hhours, _⟩ := (Option.guard_eq_some' _).1 hguard
    cases h
    rintro _ ⟨⟩
    rw [IsOffset]
    rcases offsetSign?_eq_some hsign with rfl | rfl
    · omega
    · omega

/-- A time that is read is less than a day, and so is its offset. -/
lemma readTime?_mem {time : Int} {offset : Option Int} (h : readTime? cs = some (time, offset)) :
    (0 ≤ time ∧ time < day) ∧ ∀ minutes ∈ offset, IsOffset minutes := by
  obtain ⟨⟨hours, cs⟩, _, h⟩ := Option.bind_eq_some_iff.1 h
  dsimp only at h
  split at h
  case h_2 => cases h
  case h_1 cs =>
    obtain ⟨⟨minutes, cs⟩, _, h⟩ := Option.bind_eq_some_iff.1 h
    obtain ⟨_, hguard, h⟩ := Option.bind_eq_some_iff.1 h
    obtain ⟨⟨microseconds, cs⟩, hseconds, h⟩ := Option.bind_eq_some_iff.1 h
    obtain ⟨offset, hoffset, h⟩ := Option.bind_eq_some_iff.1 h
    obtain ⟨hhours, hminutes⟩ := (Option.guard_eq_some' _).1 hguard
    cases h
    have hlt := readSeconds?_lt hseconds
    refine ⟨?_, readOffset?_isOffset hoffset⟩
    rw [day, minute, second]
    omega

/-- What is of a date of the years 0 to 9999 and a time of day is of these years. -/
lemma isLegible_of_date {date : Time.Date} (valid : date.IsValid)
    (hyear : 0 ≤ date.year ∧ date.year ≤ 9999) {time : Int} (htime : 0 ≤ time ∧ time < day)
    {offset : Option Int} (hoffset : ∀ minutes ∈ offset, IsOffset minutes) :
    IsLegible ⟨date.toDays * day + time, offset⟩ := by
  obtain ⟨hfirst, hlast⟩ := Time.toDays_mem valid hyear
  have hdays : (date.toDays * day + time) / day = date.toDays := by
    rw [day, minute, second] at htime ⊢
    omega
  refine ⟨?_, hoffset⟩
  rw [Timestamp.date, hdays]
  exact Time.year_ofDays hfirst hlast

/-- The midnight of a date that is read is legible. -/
lemma isLegible_of_midnight {bytes : Nat} {date : Time.Date}
    (h : readDate bytes cs = .ok (date, rest)) : (midnight date).IsLegible := by
  obtain ⟨valid, hyear⟩ := readDate_eq_ok h
  have hlegible : IsLegible ⟨date.toDays * day + 0, none⟩ :=
    isLegible_of_date valid hyear (by decide) fun _ hnone => nomatch hnone
  rwa [Int.add_zero] at hlegible

/-- A date and time that are read are legible. -/
lemma isLegible_of_readDateTime? {bytes : Nat} {t : Timestamp}
    (h : readDateTime? bytes cs = some t) : t.IsLegible := by
  rw [readDateTime?] at h
  split at h
  case h_2 => cases h
  case h_1 date c cs hdate =>
    split at h
    case isFalse => cases h
    case isTrue =>
      obtain ⟨valid, hyear⟩ := readDate_eq_ok hdate
      obtain ⟨⟨time, offset⟩, htime, rfl⟩ := Option.map_eq_some_iff.1 h
      obtain ⟨hday, hoffset⟩ := readTime?_mem htime
      exact isLegible_of_date valid hyear hday hoffset

/-- A count of microseconds within range is legible. -/
lemma isLegible_of_ofMicroseconds {count : Int} {t : Timestamp}
    (h : ofMicroseconds count = .ok t) : t.IsLegible := by
  rw [ofMicroseconds] at h
  split_ifs at h with hearly hlate
  cases h
  rw [firstSecond, second] at hearly
  rw [lastSecond, second] at hlate
  refine ⟨Time.year_ofDays ?_ ?_, ?_⟩
  · show Time.firstDay ≤ count / day
    rw [Time.firstDay, day, minute, second]
    omega
  · show count / day ≤ Time.lastDay
    rw [Time.lastDay, day, minute, second]
    omega
  · rintro _ ⟨⟩
    exact isOffset_zero

/-- A double within range is legible. -/
lemma isLegible_of_ofDouble {x : Float} {t : Timestamp} (h : ofDouble x = .ok t) :
    t.IsLegible := by
  rw [ofDouble] at h
  split at h
  case isTrue => cases h
  case isFalse => exact isLegible_of_ofMicroseconds h

/-- A numeral within range is legible. -/
lemma isLegible_of_numeral {numeral : Numeral} {t : Timestamp} (h : numeral.timestamp = .ok t) :
    t.IsLegible := by
  cases numeral with
  | integer n => exact isLegible_of_ofMicroseconds h
  | decimal value => exact isLegible_of_ofDouble h

/-- What is still read while a failure is explained is legible. -/
lemma isLegible_of_explain {bytes : Nat} {t : Timestamp} (h : explain bytes cs = .ok t) :
    t.IsLegible := by
  rw [explain] at h
  split at h
  case h_1 date hdate =>
    cases h
    exact isLegible_of_midnight hdate
  case h_2 =>
    split at h
    · exact isLegible_of_ofMicroseconds (Failure.eq_ok_of_mapError h)
    · cases h
    · cases h

/-- A timestamp that is read from a text is legible. -/
lemma isLegible_of_readText {s : String} {t : Timestamp} (h : readText s = .ok t) :
    t.IsLegible := by
  rw [readText] at h
  split at h
  case h_1 t hread =>
    cases h
    exact isLegible_of_readDateTime? hread
  case h_2 =>
    split at h
    case h_1 t hnumeral =>
      cases h
      obtain ⟨numeral, _, htimestamp⟩ := Option.map_eq_some_iff.1 hnumeral
      exact isLegible_of_numeral htimestamp
    case h_2 => exact isLegible_of_explain h

/-- Whatever is read as a timestamp can be written as a text. -/
theorem isLegible_of_ofJson {json : Json} {t : Timestamp} (h : ofJson json = .ok t) :
    t.IsLegible := by
  rw [ofJson.eq_def] at h
  split at h
  case h_1 s => exact isLegible_of_readText h
  case h_2 n =>
    split at h
    case isTrue => cases h
    case isFalse => exact isLegible_of_ofMicroseconds (Failure.eq_ok_of_mapError h)
  case h_3 value => exact isLegible_of_ofDouble (Failure.eq_ok_of_mapError h)
  all_goals cases h

/-- Whether a calendar of the years 1 to 9999 and a clock show the timestamp. -/
structure IsCivil (t : Timestamp) : Prop extends t.IsLegible where
  hasYear : t.date.year ≠ 0

/-- Whether a calendar of these years and a clock with an offset show the timestamp. -/
structure IsZoned (t : Timestamp) : Prop extends t.IsCivil where
  aware : t.isAware = true

/-- A timestamp lies in the calendar if its year is not the year zero. -/
lemma inCalendar_eq_ok_iff {t t' : Timestamp} :
    t.inCalendar = .ok t' ↔ t.date.year ≠ 0 ∧ t = t' := by
  rw [inCalendar]
  split
  case isTrue hyear =>
    constructor
    · exact fun h => nomatch h
    · exact fun h => absurd hyear h.1
  case isFalse hyear =>
    constructor
    · exact fun h => ⟨hyear, Except.ok.inj h⟩
    · exact fun h => congrArg Except.ok h.2

end Timestamp

namespace Check

variable {json : Json} {t : Timestamp}

/-- The check of times accepts what is read and lies in the calendar. -/
lemma timestamp_eq_fine_iff :
    timestamp json = .fine t ↔ Timestamp.ofJson json = .ok t ∧ t.date.year ≠ 0 := by
  rw [timestamp]
  constructor
  · intro h
    split at h
    case h_1 read hread =>
      cases h
      cases hjson : Timestamp.ofJson json with
      | error cause =>
        rw [hjson] at hread
        cases hread
      | ok read =>
        rw [hjson] at hread
        obtain ⟨hyear, rfl⟩ := Timestamp.inCalendar_eq_ok_iff.1 hread
        exact ⟨rfl, hyear⟩
    case h_2 => cases h
  · rintro ⟨hjson, hyear⟩
    have hread : (Timestamp.ofJson json >>= Timestamp.inCalendar) = .ok t := by
      rw [hjson]
      exact Timestamp.inCalendar_eq_ok_iff.2 ⟨hyear, rfl⟩
    rw [hread]

/-- A timestamp that passes its check is one that a calendar and a clock show. -/
theorem isCivil_of_timestamp (h : timestamp json = .fine t) : t.IsCivil := by
  obtain ⟨hjson, hyear⟩ := timestamp_eq_fine_iff.1 h
  exact ⟨Timestamp.isLegible_of_ofJson hjson, hyear⟩

/-- A timestamp that a calendar and a clock show passes the check again. -/
theorem timestamp_ofTimestamp (civil : t.IsCivil) : timestamp (Json.ofTimestamp t) = .fine t := by
  refine timestamp_eq_fine_iff.2 ⟨?_, civil.hasYear⟩
  rw [Json.ofTimestamp, Timestamp.ofJson]
  exact Timestamp.readText_print civil.toIsLegible

/-- The check of times with offsets accepts times that have one. -/
lemma awareTimestamp_eq_fine_iff :
    awareTimestamp json = .fine t ↔ timestamp json = .fine t ∧ t.isAware = true := by
  rw [awareTimestamp, timestamp_eq_fine_iff]
  constructor
  · intro h
    split at h
    case h_1 => cases h
    case h_2 read hjson =>
      split at h
      case isFalse => cases h
      case isTrue aware =>
        obtain ⟨hread, hyear⟩ := timestamp_eq_fine_iff.1 h
        rw [hjson] at hread
        cases hread
        exact ⟨⟨hjson, hyear⟩, aware⟩
  · rintro ⟨⟨hjson, hyear⟩, aware⟩
    rw [hjson]
    dsimp only
    rw [if_pos aware]
    exact timestamp_eq_fine_iff.2 ⟨hjson, hyear⟩

/-- A timestamp that passes the check of its offset too has one. -/
theorem isZoned_of_awareTimestamp (h : awareTimestamp json = .fine t) : t.IsZoned := by
  obtain ⟨hread, aware⟩ := awareTimestamp_eq_fine_iff.1 h
  exact ⟨isCivil_of_timestamp hread, aware⟩

/-- A time with a valid offset is accepted in its record. -/
theorem awareTimestamp_ofTimestamp (zoned : t.IsZoned) :
    awareTimestamp (Json.ofTimestamp t) = .fine t :=
  awareTimestamp_eq_fine_iff.2 ⟨timestamp_ofTimestamp zoned.toIsCivil, zoned.aware⟩

end Check

end Symposium
