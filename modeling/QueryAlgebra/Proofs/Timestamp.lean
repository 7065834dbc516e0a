import Mathlib.Data.List.TakeWhile
import QueryAlgebra.Proofs.Text.Unique
import QueryAlgebra.Timestamp

/-!
The text of a timestamp is read back as the timestamp: every year, the leap seconds at the end of a
minute and every part of a second included. A leap second inside a minute is written like the second
after it and is read back as that one. But for these, different timestamps have different texts.
-/

namespace QueryAlgebra

theorem isBlank_of_isDigit (c : Char) (digit : c.isDigit = true) : isBlank c = false := by
  have range := Char.isDigit_iff_toNat.mp digit
  have low : '0'.toNat = 48 := rfl
  have high : '9'.toNat = 57 := rfl
  simp only [isBlank, blankRanges, List.any_cons, List.any_nil, Bool.or_false, Bool.or_eq_false_iff,
    Bool.and_eq_false_iff, decide_eq_false_iff_not]
  omega

theorem skipBlanks_cons (c : Char) (rest : List Char) (visible : isBlank c = false) :
    skipBlanks (c :: rest) = c :: rest := by
  simp [skipBlanks, visible]

theorem skipBlanks_digits (digits rest : List Char) (nonempty : digits ≠ [])
    (allDigits : ∀ c ∈ digits, c.isDigit = true) :
    skipBlanks (digits ++ rest) = digits ++ rest := by
  cases digits with
  | nil => exact absurd rfl nonempty
  | cons c digits => exact skipBlanks_cons c _ (isBlank_of_isDigit c (allDigits c (by simp)))

namespace CalendarDate

theorem ofParts?_parts (date : CalendarDate) :
    ofParts? date.year date.month date.day = some date :=
  dif_pos ⟨date.year_range, date.month_range, date.day_range⟩

theorem month_lt (date : CalendarDate) : date.month < 10 ^ 2 := by
  have range := date.month_range
  omega

theorem day_lt (date : CalendarDate) : date.day < 10 ^ 2 := by
  have range := date.day_range
  have longest : daysInMonth date.year date.month ≤ 31 := by
    unfold daysInMonth
    split <;> split <;> omega
  omega

theorem ne_space_of_mem_text (date : CalendarDate) (c : Char)
    (member : c ∈ date.text) : c ≠ ' ' := by
  have digits (width n : Nat) (digit : c ∈ paddedDigits width n) : c ≠ ' ' := by
    rintro rfl
    exact absurd (isDigit_of_mem_paddedDigits width n ' ' digit) (by decide)
  have year (written : c ∈ yearText date.year) : c ≠ ' ' := by
    unfold yearText at written
    split at written
    · exact digits _ _ written
    · rcases List.mem_cons.mp written with rfl | digit
      · split <;> decide
      · exact digits _ _ digit
  simp only [text, List.append_assoc, List.cons_append, List.mem_append, List.mem_cons] at member
  rcases member with written | rfl | digit | rfl | digit
  · exact year written
  · decide
  · exact digits _ _ digit
  · decide
  · exact digits _ _ digit

end CalendarDate

namespace ClockTime

/-- A leap second inside a minute. -/
def Overfull (time : ClockTime) : Prop := 10 ^ 9 ≤ time.nanosecond ∧ time.second ≠ 59

instance (time : ClockTime) : Decidable time.Overfull := inferInstanceAs (Decidable (_ ∧ _))

/-- A leap second and the second after it, with the same part of a second. -/
structure CarriesTo (time later : ClockTime) : Prop where
  hour : later.hour = time.hour
  minute : later.minute = time.minute
  second : later.second = time.second + 1
  nanosecond : later.nanosecond + 10 ^ 9 = time.nanosecond

theorem CarriesTo.overfull {time later : ClockTime} (carries : time.CarriesTo later) :
    time.Overfull := by
  have bound := later.second_lt
  have second := carries.second
  have nanosecond := carries.nanosecond
  exact ⟨by omega, by omega⟩

theorem eq_of_parts {s t : ClockTime} (hour : s.hour = t.hour) (minute : s.minute = t.minute)
    (second : s.second = t.second) (nanosecond : s.nanosecond = t.nanosecond) : s = t := by
  cases s
  cases t
  cases hour
  cases minute
  cases second
  cases nanosecond
  rfl

theorem CarriesTo.left_unique {first second later : ClockTime} (left : first.CarriesTo later)
    (right : second.CarriesTo later) : first = second := by
  apply eq_of_parts
  · exact left.hour.symm.trans right.hour
  · exact left.minute.symm.trans right.minute
  · exact Nat.succ.inj (left.second.symm.trans right.second)
  · exact left.nanosecond.symm.trans right.nanosecond

theorem CarriesTo.right_unique {time first second : ClockTime} (left : time.CarriesTo first)
    (right : time.CarriesTo second) : first = second := by
  apply eq_of_parts
  · exact left.hour.trans right.hour.symm
  · exact left.minute.trans right.minute.symm
  · exact left.second.trans right.second.symm
  · exact Nat.add_right_cancel (left.nanosecond.trans right.nanosecond.symm)

/-- The time that the text shows. -/
def carried (time : ClockTime) : ClockTime :=
  if overfull : time.Overfull then
    ⟨time.hour, time.minute, time.second + 1, time.nanosecond - 10 ^ 9, time.hour_lt,
      time.minute_lt, Nat.lt_of_le_of_ne time.second_lt fun last => overfull.2 (Nat.succ.inj last),
      Nat.lt_of_le_of_lt (Nat.sub_le _ _) time.nanosecond_lt⟩
  else time

theorem carried_of_not_overfull (time : ClockTime) (regular : ¬time.Overfull) :
    time.carried = time :=
  dif_neg regular

theorem carriesTo_carried (time : ClockTime) (overfull : time.Overfull) :
    time.CarriesTo time.carried := by
  have enough := overfull.1
  rw [carried, dif_pos overfull]
  exact ⟨rfl, rfl, rfl, Nat.sub_add_cancel enough⟩

theorem not_overfull_carried (time : ClockTime) : ¬time.carried.Overfull := by
  by_cases overfull : time.Overfull
  · have carries := (time.carriesTo_carried overfull).nanosecond
    have bound := time.nanosecond_lt
    intro again
    have enough := again.1
    omega
  · rwa [time.carried_of_not_overfull overfull]

/-- Two times are shown alike if they are the same or one is a leap second inside a minute and the
other one is the second after it. -/
theorem carried_eq_iff (s t : ClockTime) :
    s.carried = t.carried ↔ s = t ∨ s.CarriesTo t ∨ t.CarriesTo s := by
  constructor
  · intro same
    -- Only an overfull time is changed, and different ones are changed differently.
    by_cases left : s.Overfull <;> by_cases right : t.Overfull
    · have first := s.carriesTo_carried left
      rw [same] at first
      exact .inl (first.left_unique (t.carriesTo_carried right))
    · rw [t.carried_of_not_overfull right] at same
      exact .inr (.inl (same ▸ s.carriesTo_carried left))
    · rw [s.carried_of_not_overfull left] at same
      exact .inr (.inr (same ▸ t.carriesTo_carried right))
    · rw [s.carried_of_not_overfull left, t.carried_of_not_overfull right] at same
      exact .inl same
  · have onto (early late : ClockTime) (carries : early.CarriesTo late) :
        early.carried = late.carried := by
      have shown : early.carried = late :=
        (early.carriesTo_carried carries.overfull).right_unique carries
      rw [← shown, early.carried.carried_of_not_overfull early.not_overfull_carried]
    rintro (rfl | carries | carries)
    · rfl
    · exact onto s t carries
    · exact (onto t s carries).symm

theorem text_carried (time : ClockTime) : time.carried.text = time.text := by
  by_cases overfull : time.Overfull
  · have carries := time.carriesTo_carried overfull
    have second : time.carried.second + time.carried.nanosecond / 10 ^ 9 =
        time.second + time.nanosecond / 10 ^ 9 := by
      rw [carries.second, ← carries.nanosecond, Nat.add_div_right _ (by decide)]
      omega
    have part : time.carried.nanosecond % 10 ^ 9 = time.nanosecond % 10 ^ 9 := by
      rw [← carries.nanosecond, Nat.add_mod_right]
    rw [text, text, carries.hour, carries.minute, second, part]
  · rw [time.carried_of_not_overfull overfull]

theorem ofParts?_parts (time : ClockTime) (regular : ¬time.Overfull) :
    ofParts? time.hour time.minute time.second time.nanosecond = some time := by
  have minuteEnd : time.nanosecond < 10 ^ 9 ∨ time.second = 59 := by
    unfold Overfull at regular
    omega
  exact dif_pos ⟨⟨time.hour_lt, time.minute_lt, time.second_lt, time.nanosecond_lt⟩, minuteEnd⟩

theorem writtenSecond_lt (time : ClockTime) :
    time.second + time.nanosecond / 10 ^ 9 < 10 ^ 2 := by
  have second := time.second_lt
  have nanosecond := time.nanosecond_lt
  omega

end ClockTime

namespace Timestamp

theorem number?_digits (width : Nat) (digits rest : List Char) (nonempty : digits ≠ [])
    (allDigits : ∀ c ∈ digits, c.isDigit = true) (exact : digits.length = width) :
    number? width (digits ++ rest) = some (ofDecimalDigits digits, rest) := by
  have taken : (digits ++ rest).take width = digits := List.take_left' exact
  have kept : digits.takeWhile Char.isDigit = digits := List.takeWhile_eq_self_iff.mpr allDigits
  simp only [number?, skipBlanks_digits digits rest nonempty allDigits, taken, kept,
    if_neg nonempty, List.drop_left]

theorem number?_paddedDigits (width n : Nat) (rest : List Char) (positive : 0 < width)
    (small : n < 10 ^ width) : number? width (paddedDigits width n ++ rest) = some (n, rest) := by
  have exact := length_paddedDigits width n positive small
  have digits := number?_digits width (paddedDigits width n) rest (paddedDigits_ne_nil width n)
    (isDigit_of_mem_paddedDigits width n) exact
  rw [digits, ofDecimalDigits_paddedDigits]

theorem mark?_cons (mark : Char) (rest : List Char) (visible : isBlank mark = false) :
    mark? mark (mark :: rest) = some rest := by
  simp [mark?, skipBlanks_cons mark rest visible]

theorem year?_yearText (year : Int) (rest : List Char)
    (ends : ∀ c ∈ rest.head?, c.isDigit = false) :
    year? (CalendarDate.yearText year ++ rest) = some (year, rest) := by
  have allDigits := isDigit_of_mem_paddedDigits 4 year.natAbs
  have nonempty := paddedDigits_ne_nil 4 year.natAbs
  have value := ofDecimalDigits_paddedDigits 4 year.natAbs
  have split := spanDigits_append _ rest allDigits ends
  unfold CalendarDate.yearText
  -- Four digits are read without looking further; after a sign all digits are.
  by_cases plain : 0 ≤ year ∧ year ≤ 9999
  · have four := number?_paddedDigits 4 year.natAbs rest (by decide) (by omega)
    have start := skipBlanks_digits _ rest nonempty allDigits
    have same : (year.natAbs : Int) = year := by omega
    have unsigned (mark : Char) (tail : List Char) (other : mark.isDigit = false) :
        paddedDigits 4 year.natAbs ++ rest ≠ mark :: tail :=
      digits_append_ne_cons _ rest tail mark nonempty allDigits other
    rw [if_pos plain]
    simp only [year?, start]
    split
    · rename_i tail signed
      exact absurd signed (unsigned '-' tail (by decide))
    · rename_i tail signed
      exact absurd signed (unsigned '+' tail (by decide))
    · simp only [four, Option.map_some, same]
  · rw [if_neg plain]
    by_cases negative : year < 0
    · have minus := skipBlanks_cons '-' (paddedDigits 4 year.natAbs ++ rest) (by decide)
      have same : -1 * (year.natAbs : Int) = year := by omega
      simp only [if_pos negative, List.cons_append, year?, minus, split, if_neg nonempty, value,
        same]
    · have plus := skipBlanks_cons '+' (paddedDigits 4 year.natAbs ++ rest) (by decide)
      have same : 1 * (year.natAbs : Int) = year := by omega
      simp only [if_neg negative, List.cons_append, year?, plus, split, if_neg nonempty, value,
        same]

theorem fraction?_paddedDigits (places n : Nat) (positive : 0 < places) (few : places ≤ 9)
    (small : n < 10 ^ places) :
    fraction? ('.' :: paddedDigits places n) = some (n * 10 ^ (9 - places), []) := by
  have length := length_paddedDigits places n positive small
  have digits := spanDigits_digits _ (isDigit_of_mem_paddedDigits places n)
  have kept : (paddedDigits places n).take 9 = paddedDigits places n :=
    List.take_of_length_le (by omega)
  simp only [fraction?, digits, kept, if_neg (paddedDigits_ne_nil places n),
    ofDecimalDigits_paddedDigits, length]

theorem fraction?_fractionText (nanosecond : Nat) (part : nanosecond < 10 ^ 9) :
    fraction? (ClockTime.fractionText nanosecond) = some (nanosecond, []) := by
  unfold ClockTime.fractionText
  by_cases whole : nanosecond = 0
  · rw [if_pos whole, whole]
    rfl
  rw [if_neg whole]
  by_cases milliseconds : nanosecond % 10 ^ 6 = 0
  · have exact : nanosecond / 10 ^ 6 * 10 ^ (9 - 3) = nanosecond := by omega
    rw [if_pos milliseconds, fraction?_paddedDigits 3 _ (by decide) (by decide) (by omega), exact]
  rw [if_neg milliseconds]
  by_cases microseconds : nanosecond % 10 ^ 3 = 0
  · have exact : nanosecond / 10 ^ 3 * 10 ^ (9 - 6) = nanosecond := by omega
    rw [if_pos microseconds, fraction?_paddedDigits 6 _ (by decide) (by decide) (by omega), exact]
  · rw [if_neg microseconds, fraction?_paddedDigits 9 _ (by decide) (by decide) part, Nat.sub_self,
      Nat.pow_zero, Nat.mul_one]

theorem leapSecond_written (time : ClockTime) (regular : ¬time.Overfull) :
    leapSecond (time.second + time.nanosecond / 10 ^ 9) (time.nanosecond % 10 ^ 9) =
      (time.second, time.nanosecond) := by
  have second := time.second_lt
  have nanosecond := time.nanosecond_lt
  unfold ClockTime.Overfull at regular
  by_cases leap : time.second + time.nanosecond / 10 ^ 9 = 60
  · rw [leapSecond, if_pos leap, Prod.mk.injEq]
    omega
  · rw [leapSecond, if_neg leap, Prod.mk.injEq]
    omega

theorem text_eq (separator : Char) (date : CalendarDate) (time : ClockTime) :
    text separator ⟨date, time⟩ =
      CalendarDate.yearText date.year ++ '-' :: (paddedDigits 2 date.month ++ '-' ::
        (paddedDigits 2 date.day ++ separator :: (paddedDigits 2 time.hour ++ ':' ::
          (paddedDigits 2 time.minute ++ ':' ::
            (paddedDigits 2 (time.second + time.nanosecond / 10 ^ 9) ++
              ClockTime.fractionText (time.nanosecond % 10 ^ 9)))))) := by
  simp only [text, CalendarDate.text, ClockTime.text, List.append_assoc, List.cons_append]

theorem read?_text_of_not_overfull (date : CalendarDate) (time : ClockTime)
    (regular : ¬time.Overfull) : read? (text 'T' ⟨date, time⟩) = some ⟨date, time⟩ := by
  have hour : time.hour < 10 ^ 2 := Nat.lt_trans time.hour_lt (by decide)
  have minute : time.minute < 10 ^ 2 := Nat.lt_trans time.minute_lt (by decide)
  have second := time.writtenSecond_lt
  have year (rest : List Char) := year?_yearText date.year ('-' :: rest) (by simp)
  have parts (n : Nat) (small : n < 10 ^ 2) (rest : List Char) :=
    number?_paddedDigits 2 n rest (by decide) small
  have hyphen (rest : List Char) := mark?_cons '-' rest (by decide)
  have letter (rest : List Char) := mark?_cons 'T' rest (by decide)
  have colon (rest : List Char) := mark?_cons ':' rest (by decide)
  have fraction := fraction?_fractionText (time.nanosecond % 10 ^ 9) (Nat.mod_lt _ (by decide))
  have whole := leapSecond_written time regular
  have blank : skipBlanks [] = [] := rfl
  -- Each step reads one part and hands on what follows it.
  rw [text_eq, read?, year, Option.bind_eq_bind, Option.bind_some]
  dsimp only [Option.bind_eq_bind]
  rw [hyphen, Option.bind_some, parts _ date.month_lt, Option.bind_some]
  dsimp only
  rw [hyphen, Option.bind_some, parts _ date.day_lt, Option.bind_some]
  dsimp only
  rw [letter, Option.bind_some, parts _ hour, Option.bind_some]
  dsimp only
  rw [colon, Option.bind_some, parts _ minute, Option.bind_some]
  dsimp only
  rw [colon, Option.bind_some, parts _ second, Option.bind_some]
  dsimp only
  rw [fraction, Option.bind_some, if_pos blank, whole]
  simp only [ofParts?, date.ofParts?_parts, time.ofParts?_parts regular, Option.bind_eq_bind,
    Option.bind_some]
  rfl

def Overfull (timestamp : Timestamp) : Prop := timestamp.time.Overfull

structure CarriesTo (timestamp later : Timestamp) : Prop where
  date : later.date = timestamp.date
  time : timestamp.time.CarriesTo later.time

def carried (timestamp : Timestamp) : Timestamp := ⟨timestamp.date, timestamp.time.carried⟩

theorem carried_eq_iff (s t : Timestamp) :
    s.carried = t.carried ↔ s = t ∨ s.CarriesTo t ∨ t.CarriesTo s := by
  rcases s with ⟨date, time⟩
  rcases t with ⟨other, later⟩
  rw [carried, carried, mk.injEq, time.carried_eq_iff, mk.injEq]
  constructor
  · rintro ⟨rfl, rfl | carries | carries⟩
    · exact .inl ⟨rfl, rfl⟩
    · exact .inr (.inl ⟨rfl, carries⟩)
    · exact .inr (.inr ⟨rfl, carries⟩)
  · rintro (⟨rfl, rfl⟩ | ⟨same, carries⟩ | ⟨same, carries⟩)
    · exact ⟨rfl, .inl rfl⟩
    · exact ⟨same.symm, .inr (.inl carries)⟩
    · exact ⟨same, .inr (.inr carries)⟩

theorem text_carried (separator : Char) (timestamp : Timestamp) :
    timestamp.carried.text separator = timestamp.text separator := by
  rw [text, text, carried, timestamp.time.text_carried]

theorem read?_text (timestamp : Timestamp) :
    read? (timestamp.text 'T') = some timestamp.carried := by
  rw [← timestamp.text_carried]
  exact read?_text_of_not_overfull _ _ timestamp.time.not_overfull_carried

theorem text_eq_iff (s t : Timestamp) : s.text ' ' = t.text ' ' ↔ s.carried = t.carried := by
  constructor
  · intro same
    have before (date : CalendarDate) : ∀ c ∈ date.text, (c ≠ ' ' : Bool) = true :=
      fun c member => decide_eq_true (date.ne_space_of_mem_text c member)
    obtain ⟨date, time⟩ := cut_inj (fun c => c ≠ ' ') (before s.date) (before t.date) (by simp)
      (by simp) same
    have read : some s.carried = some t.carried := by
      rw [← s.read?_text, ← t.read?_text, text, text, date, (List.cons.inj time).2]
    exact Option.some.inj read
  · intro same
    rw [← s.text_carried, ← t.text_carried, same]

end Timestamp
end QueryAlgebra
