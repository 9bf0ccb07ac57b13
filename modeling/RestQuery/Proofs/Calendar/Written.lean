import RestQuery.Calendar.Reader
import RestQuery.Proofs.Calendar.Days
import RestQuery.Proofs.Outcome

/-!
# Dates and times without an offset

A day with a time of day names the same moment with the letter for UTC behind it and without, though
different readers take these forms, and a day by itself names the start of the day.  All forms name
a moment for the same days, those of the Gregorian calendar.

Main statement: `Calendar.read?_forms`.
-/

namespace RestQuery.Calendar

/-! ## Digits -/

structure Numeral (count : Nat) where
  chars : List Char
  length_chars : chars.length = count
  isDigit : ∀ c ∈ chars, c.isDigit = true

/-- The digits of a list that has nothing else. -/
def Numeral.ofChars (chars : List Char) (hdigit : chars.all Char.isDigit = true) :
    Numeral chars.length :=
  ⟨chars, rfl, List.all_eq_true.1 hdigit⟩

def Numeral.value {count : Nat} (numeral : Numeral count) : Nat :=
  Nat.ofDigitChars 10 numeral.chars 0

/-- Digits are less than a number with one digit more. -/
theorem ofDigitChars_lt {cs : List Char} (hdigit : ∀ c ∈ cs, c.isDigit = true) (start : Nat) :
    Nat.ofDigitChars 10 cs start < (start + 1) * 10 ^ cs.length := by
  induction cs generalizing start with
  | nil => rw [Nat.ofDigitChars_nil]; simp
  | cons c rest ih =>
      obtain ⟨hc, hrest⟩ := List.forall_mem_cons.1 hdigit
      have hvalue : c.toNat - '0'.toNat < 10 := by
        simp only [Char.isDigit, Bool.and_eq_true, decide_eq_true_eq, ge_iff_le] at hc
        have hhigh : c.toNat ≤ 57 := hc.2
        have hzero : '0'.toNat = 48 := rfl
        omega
      rw [Nat.ofDigitChars_cons, List.length_cons, Nat.pow_succ]
      refine Nat.lt_of_lt_of_le (ih hrest _) ?_
      rw [Nat.mul_comm (10 ^ rest.length), ← Nat.mul_assoc]
      exact Nat.mul_le_mul_right _ (by omega)

theorem Numeral.value_lt {count : Nat} (numeral : Numeral count) : numeral.value < 10 ^ count := by
  have hlt := ofDigitChars_lt numeral.isDigit 0
  rw [numeral.length_chars, Nat.zero_add, Nat.one_mul] at hlt
  exact hlt

/-! ## Readers -/

variable {α β : Type}

theorem bind_apply (first : Reader α) (next : α → Reader β) (cs : List Char) :
    (first >>= next) cs = (first cs).bind fun read => next read.1 read.2 := rfl

theorem bind_of_some {first : Reader α} (next : α → Reader β) {cs rest : List Char} {a : α}
    (hread : first cs = some (a, rest)) : (first >>= next) cs = next a rest := by
  rw [bind_apply, hread]
  rfl

theorem bind_of_none {first : Reader α} (next : α → Reader β) {cs : List Char}
    (hread : first cs = none) : (first >>= next) cs = none := by
  rw [bind_apply, hread]
  rfl

theorem get_apply (cs : List Char) : (get : Reader (List Char)) cs = some (cs, cs) := rfl

theorem modify_apply (f : List Char → List Char) (cs : List Char) :
    (modify f : Reader PUnit) cs = some (⟨⟩, f cs) := rfl

theorem lift_apply (outcome : Option α) (cs : List Char) :
    (liftM outcome : Reader α) cs = outcome.map (·, cs) := by
  cases outcome <;> rfl

@[simp]
theorem literal_cons (c : Char) (rest : List Char) : literal c (c :: rest) = some ((), rest) :=
  if_pos rfl

@[simp]
theorem literal_nil (c : Char) : literal c [] = none := rfl

variable {most : Nat} {cs rest : List Char}

/-- Digits are read up to the first character that is none. -/
theorem takeWhile_append_of_stop (hdigit : ∀ c ∈ cs, c.isDigit = true)
    (hstop : ∀ c ∈ rest.head?, c.isDigit = false) : (cs ++ rest).takeWhile Char.isDigit = cs := by
  rw [List.takeWhile_append_of_pos hdigit]
  cases rest with
  | nil => simp
  | cons c rest => simp [hstop c rfl]

theorem dropWhile_append_of_stop (hdigit : ∀ c ∈ cs, c.isDigit = true)
    (hstop : ∀ c ∈ rest.head?, c.isDigit = false) : (cs ++ rest).dropWhile Char.isDigit = rest := by
  have hsplit : (cs ++ rest).takeWhile Char.isDigit ++ (cs ++ rest).dropWhile Char.isDigit =
      cs ++ rest := List.takeWhile_append_dropWhile
  rw [takeWhile_append_of_stop hdigit hstop] at hsplit
  exact List.append_cancel_left hsplit

/-- As many digits are read as may be, up to what is no digit. -/
theorem digits_append (hmost : 0 < most) (hsome : cs ≠ []) (hdigit : ∀ c ∈ cs, c.isDigit = true)
    (hstop : most ≤ cs.length ∨ ∀ c ∈ rest.head?, c.isDigit = false) :
    digits most (cs ++ rest) = some (cs.take most, cs.drop most ++ rest) := by
  have htaken : ∀ c ∈ cs.take most, c.isDigit = true := fun c hmem =>
    hdigit c (List.mem_of_mem_take hmem)
  have hread : ((cs ++ rest).take most).takeWhile Char.isDigit = cs.take most := by
    rw [List.take_append]
    apply takeWhile_append_of_stop htaken
    rcases hstop with hlong | hstop
    · rw [Nat.sub_eq_zero_of_le hlong]
      simp
    · intro c hmem
      refine hstop c ?_
      cases rest with
      | nil => simp at hmem
      | cons first others =>
        cases hcount : most - cs.length with
        | zero => simp [hcount] at hmem
        | succ n => simpa [hcount] using hmem
  have hnonempty : (cs.take most).isEmpty = false := by
    simp [hsome, Nat.ne_of_gt hmost]
  have hleft : cs ++ rest = cs.take most ++ (cs.drop most ++ rest) := by
    rw [← List.append_assoc, List.take_append_drop]
  simp only [digits, hread, hnonempty, Bool.false_eq_true, if_false]
  rw [hleft, List.drop_left]

theorem fraction_cons (cs : List Char) :
    fraction ('.' :: cs) = (digits 9 cs).map fun read =>
      (Nat.ofDigitChars 10 (read.1 ++ List.replicate (9 - read.1.length) '0') 0,
        read.2.dropWhile Char.isDigit) := by
  have hread : fraction ('.' :: cs) = (digits 9 cs).bind fun read =>
      some (Nat.ofDigitChars 10 (read.1 ++ List.replicate (9 - read.1.length) '0') 0,
        read.2.dropWhile Char.isDigit) := rfl
  rw [hread, Option.map_eq_bind]
  rfl

theorem fraction_of_no_point (hpoint : ∀ c ∈ cs.head?, c ≠ '.') :
    fraction cs = some (0, cs) := by
  rw [fraction, bind_apply, get_apply, Option.bind_some]
  dsimp only
  split
  next => exact absurd rfl (hpoint '.' rfl)
  next => rfl

namespace Numeral

variable {count : Nat} (numeral : Numeral count)

theorem chars_ne_nil (hcount : 0 < count) : numeral.chars ≠ [] :=
  List.ne_nil_of_length_pos (numeral.length_chars.symm ▸ hcount)

/-- So many digits are read back, whatever follows: the reader takes no more. -/
theorem digits_chars (hcount : 0 < count) (rest : List Char) :
    digits count (numeral.chars ++ rest) = some (numeral.chars, rest) := by
  rw [digits_append hcount (numeral.chars_ne_nil hcount) numeral.isDigit
    (.inl (Nat.le_of_eq numeral.length_chars.symm))]
  simp [← numeral.length_chars]

theorem isDigit_of_mem_head? (hcount : 0 < count) {rest : List Char} {c : Char}
    (hmem : c ∈ (numeral.chars ++ rest).head?) : c.isDigit = true := by
  rw [List.head?_append_of_ne_nil _ (numeral.chars_ne_nil hcount)] at hmem
  exact numeral.isDigit c (List.mem_of_mem_head? hmem)

theorem trimStart_chars (hcount : 0 < count) (rest : List Char) :
    Text.trimStart (numeral.chars ++ rest) = numeral.chars ++ rest :=
  Text.dropWhile_eq_self fun _ hmem =>
    Text.isBlank_of_isDigit (numeral.isDigit_of_mem_head? hcount hmem)

/-- A number of so many digits is read back in front of any text. -/
theorem exactly_chars (hcount : 0 < count) (rest : List Char) :
    exactly count (numeral.chars ++ rest) = some (numeral.value, rest) := by
  rw [exactly, bind_apply, numeral.digits_chars hcount, Option.bind_some,
    if_pos numeral.length_chars]
  rfl

theorem upTo_chars (hcount : 0 < count) (rest : List Char) :
    upTo count (numeral.chars ++ rest) = some (numeral.value, rest) := by
  rw [upTo, bind_apply, modify_apply, numeral.trimStart_chars hcount, Option.bind_some, bind_apply,
    numeral.digits_chars hcount]
  rfl

/-- A year of four digits is read back in front of any text. -/
theorem year_chars (numeral : Numeral 4) (rest : List Char) :
    year (numeral.chars ++ rest) = some ((numeral.value : Int), rest) := by
  have hfirst : ∀ c ∈ (numeral.chars ++ rest).head?, c.isDigit = true := fun c hmem =>
    numeral.isDigit_of_mem_head? (Nat.zero_lt_succ 3) hmem
  have hdigits := numeral.digits_chars (Nat.zero_lt_succ 3) rest
  rw [year, bind_apply, modify_apply, numeral.trimStart_chars (Nat.zero_lt_succ 3)]
  generalize numeral.chars ++ rest = cs at hfirst hdigits
  rw [Option.bind_some, bind_apply, get_apply, Option.bind_some]
  dsimp only
  -- Without a sign at the start, four digits are read.
  split
  next => exact absurd (hfirst '-' rfl) (by decide)
  next => exact absurd (hfirst '+' rfl) (by decide)
  next =>
    rw [bind_apply, hdigits]
    rfl

end Numeral

/-! ## Written days and times -/

/-- A day as four digits for the year and two each for the month and the day of the month. -/
structure DayForm where
  year : Numeral 4
  month : Numeral 2
  day : Numeral 2

/-- A time of day as two digits each for the hour, the minute and the second, and the digits behind
a point, which is left out with them. -/
structure TimeForm where
  hour : Numeral 2
  minute : Numeral 2
  second : Numeral 2
  decimals : List Char
  isDigit_decimals : ∀ c ∈ decimals, c.isDigit = true

namespace DayForm

def chars (form : DayForm) : List Char :=
  form.year.chars ++ '-' :: (form.month.chars ++ '-' :: form.day.chars)

/-- The day as the digits say it, which the calendar need not have. -/
def date (form : DayForm) : Date := ⟨form.year.value, form.month.value, form.day.value⟩

/-- A day as it is written is read back in front of any text. -/
theorem bareDate_chars (form : DayForm) (rest : List Char) :
    bareDate (form.chars ++ rest) = some (form.date, rest) := by
  simp only [chars, List.append_assoc, List.cons_append]
  rw [bareDate, bind_of_some _ (form.year.year_chars _), bind_of_some _ (literal_cons _ _),
    bind_of_some _ (form.month.upTo_chars Nat.zero_lt_two _), bind_of_some _ (literal_cons _ _),
    bind_of_some _ (form.day.upTo_chars Nat.zero_lt_two _)]
  rfl

end DayForm

namespace TimeForm

/-- The fraction with the point, if there is one. -/
def point (form : TimeForm) : List Char :=
  if form.decimals.isEmpty then [] else '.' :: form.decimals

def chars (form : TimeForm) : List Char :=
  form.hour.chars ++ ':' :: (form.minute.chars ++ ':' :: (form.second.chars ++ form.point))

def nano (form : TimeForm) : Nat :=
  let read := form.decimals.take 9
  Nat.ofDigitChars 10 (read ++ List.replicate (9 - read.length) '0') 0

/-- The time as the digits say it, if a clock can show it. -/
def clock? (form : TimeForm) : Option Clock :=
  Clock.ofParts? form.hour.value form.minute.value form.second.value form.nano

theorem fraction_point (form : TimeForm) {rest : List Char}
    (hrest : ∀ c ∈ rest.head?, c.isDigit = false ∧ c ≠ '.') :
    fraction (form.point ++ rest) = some (form.nano, rest) := by
  rw [point, nano]
  split
  next hnone =>
    rw [List.isEmpty_iff.1 hnone]
    exact fraction_of_no_point fun c hmem => (hrest c hmem).2
  next hsome =>
    have hdecimals : form.decimals ≠ [] := fun hnone => hsome (List.isEmpty_iff.2 hnone)
    have hstop : ∀ c ∈ rest.head?, c.isDigit = false := fun c hmem => (hrest c hmem).1
    have hleft : (form.decimals.drop 9 ++ rest).dropWhile Char.isDigit = rest :=
      dropWhile_append_of_stop (fun c hmem => form.isDigit_decimals c (List.mem_of_mem_drop hmem))
        hstop
    rw [List.cons_append, fraction_cons, digits_append (Nat.zero_lt_succ 8) hdecimals
      form.isDigit_decimals (.inr hstop), Option.map_some, hleft]

end TimeForm

/-- The moment that a day and a time in UTC name. -/
def moment? (day : DayForm) (time : TimeForm) : Option Moment :=
  time.clock?.bind fun clock => Moment.ofLocal? day.date clock 0

/-! ## Forms and their readers -/

/-- In the standard's form an offset follows. -/
theorem standard_chars (day : DayForm) (time : TimeForm) {rest : List Char}
    (hrest : ∀ c ∈ rest.head?, c.isDigit = false ∧ c ≠ '.') :
    standard (day.chars ++ 'T' :: (time.chars ++ rest)) =
      (offset (literal ':') rest).bind fun read =>
        (time.clock?.bind fun clock => Moment.ofLocal? day.date clock read.1).map (·, read.2) := by
  have hmark : ∀ rest, timeMark ('T' :: rest) = some ((), rest) := fun _ => rfl
  simp only [DayForm.chars, TimeForm.chars, List.append_assoc, List.cons_append]
  rw [standard, bind_of_some _ (day.year.exactly_chars (Nat.zero_lt_succ 3) _),
    bind_of_some _ (literal_cons _ _), bind_of_some _ (day.month.exactly_chars Nat.zero_lt_two _),
    bind_of_some _ (literal_cons _ _), bind_of_some _ (day.day.exactly_chars Nat.zero_lt_two _),
    bind_of_some _ (hmark _), bind_of_some _ (time.hour.exactly_chars Nat.zero_lt_two _),
    bind_of_some _ (literal_cons _ _), bind_of_some _ (time.minute.exactly_chars Nat.zero_lt_two _),
    bind_of_some _ (literal_cons _ _), bind_of_some _ (time.second.exactly_chars Nat.zero_lt_two _),
    bind_of_some _ (time.fraction_point hrest), bind_apply]
  cases offset (literal ':') rest with
  | none => rfl
  | some read =>
    rw [Option.bind_some, Option.bind_some, bind_apply, lift_apply, TimeForm.clock?]
    cases Clock.ofParts? time.hour.value time.minute.value time.second.value time.nano with
    | none => rfl
    | some clock => exact lift_apply _ _

/-- A day alone is not of the standard's form. -/
theorem standard_day (day : DayForm) : standard day.chars = none := by
  have hmark : timeMark [] = none := rfl
  rw [DayForm.chars, ← List.append_nil day.day.chars]
  rw [standard, bind_of_some _ (day.year.exactly_chars (Nat.zero_lt_succ 3) _),
    bind_of_some _ (literal_cons _ _), bind_of_some _ (day.month.exactly_chars Nat.zero_lt_two _),
    bind_of_some _ (literal_cons _ _), bind_of_some _ (day.day.exactly_chars Nat.zero_lt_two _),
    bind_of_none _ hmark]

/-- The form without an offset is in UTC and takes what follows for something else. -/
theorem dateTime_chars (day : DayForm) (time : TimeForm) {rest : List Char}
    (hrest : ∀ c ∈ rest.head?, c.isDigit = false ∧ c ≠ '.') :
    dateTime (day.chars ++ 'T' :: (time.chars ++ rest)) = (moment? day time).map (·, rest) := by
  simp only [TimeForm.chars, List.append_assoc, List.cons_append]
  rw [dateTime, bind_of_some _ (day.bareDate_chars _), bind_of_some _ (literal_cons _ _),
    bind_of_some _ (time.hour.upTo_chars Nat.zero_lt_two _), bind_of_some _ (literal_cons _ _),
    bind_of_some _ (time.minute.upTo_chars Nat.zero_lt_two _), bind_of_some _ (literal_cons _ _),
    bind_of_some _ (time.second.upTo_chars Nat.zero_lt_two _),
    bind_of_some _ (time.fraction_point hrest), bind_apply, lift_apply, moment?, TimeForm.clock?]
  cases Clock.ofParts? time.hour.value time.minute.value time.second.value time.nano with
  | none => rfl
  | some clock => exact lift_apply _ _

theorem dateTime_day (day : DayForm) : dateTime day.chars = none := by
  rw [← List.append_nil day.chars, dateTime, bind_of_some _ (day.bareDate_chars _),
    bind_of_none _ (literal_nil _)]

theorem startOfDay_append (day : DayForm) (rest : List Char) :
    startOfDay (day.chars ++ rest) = (Moment.ofLocal? day.date .midnight 0).map (·, rest) := by
  rw [startOfDay, bind_of_some _ (day.bareDate_chars _), lift_apply]

/-! ## Whole texts -/

theorem whole?_map_nil {reader : Reader α} {cs : List Char} {outcome : Option α}
    (hread : reader cs = outcome.map (·, [])) : Reader.whole? reader cs = outcome := by
  rw [Reader.whole?, hread]
  cases outcome <;> rfl

theorem whole?_map_cons {reader : Reader α} {cs left : List Char} {c : Char} {outcome : Option α}
    (hread : reader cs = outcome.map (·, c :: left)) : Reader.whole? reader cs = none := by
  rw [Reader.whole?, hread]
  cases outcome <;> rfl

theorem whole?_none {reader : Reader α} {cs : List Char} (hread : reader cs = none) :
    Reader.whole? reader cs = none := by
  rw [Reader.whole?, hread]

theorem Numeral.isBlank_of_mem {count : Nat} (numeral : Numeral count) {c : Char}
    (hmem : c ∈ numeral.chars) : Text.isBlank c = false :=
  Text.isBlank_of_isDigit (numeral.isDigit c hmem)

theorem DayForm.isBlank_of_mem {day : DayForm} {c : Char} (hmem : c ∈ day.chars) :
    Text.isBlank c = false := by
  simp only [chars, List.mem_append, List.mem_cons] at hmem
  rcases hmem with hyear | rfl | hmonth | rfl | hday
  · exact day.year.isBlank_of_mem hyear
  · decide
  · exact day.month.isBlank_of_mem hmonth
  · decide
  · exact day.day.isBlank_of_mem hday

theorem TimeForm.isBlank_of_mem {time : TimeForm} {c : Char} (hmem : c ∈ time.chars) :
    Text.isBlank c = false := by
  have hpoint : c ∈ time.point → Text.isBlank c = false := by
    rw [point]
    split
    next => exact fun hnil => absurd hnil List.not_mem_nil
    next =>
      rintro (_ | ⟨_, hdecimal⟩)
      · decide
      · exact Text.isBlank_of_isDigit (time.isDigit_decimals c hdecimal)
  simp only [chars, List.mem_append, List.mem_cons] at hmem
  rcases hmem with hhour | rfl | hminute | rfl | hsecond | hmem
  · exact time.hour.isBlank_of_mem hhour
  · decide
  · exact time.minute.isBlank_of_mem hminute
  · decide
  · exact time.second.isBlank_of_mem hsecond
  · exact hpoint hmem

def DayForm.text (day : DayForm) : String := String.ofList day.chars

def TimeForm.text (time : TimeForm) : String := String.ofList time.chars

/-- A text without blanks is read in one of three forms, whichever comes first. -/
theorem read?_eq {s : String} {cs : List Char} (hs : s.toList = cs)
    (hblank : ∀ c ∈ cs, Text.isBlank c = false) :
    read? s = (Reader.whole? standard cs).or
      ((Reader.whole? dateTime cs).or (Reader.whole? startOfDay cs)) := by
  rw [read?, hs, Text.trimChars_eq_self hblank]

/-- Only the reader of dates and times takes a text without an offset. -/
theorem read?_unzoned (day : DayForm) (time : TimeForm) :
    read? (day.text ++ "T" ++ time.text) = moment? day time := by
  have hs : (day.text ++ "T" ++ time.text).toList = day.chars ++ 'T' :: (time.chars ++ []) := by
    simp [DayForm.text, TimeForm.text]
  have hblank : ∀ c ∈ day.chars ++ 'T' :: (time.chars ++ []), Text.isBlank c = false := by
    simp only [List.append_nil, List.forall_mem_append, List.forall_mem_cons]
    exact ⟨fun c => DayForm.isBlank_of_mem, by decide, fun c => TimeForm.isBlank_of_mem⟩
  have hoffset : offset (literal ':') [] = none := rfl
  have hstandard := @standard_chars day time [] (by simp)
  rw [hoffset, Option.bind_none] at hstandard
  rw [read?_eq hs hblank, whole?_none hstandard,
    whole?_map_nil (@dateTime_chars day time [] (by simp)),
    whole?_map_cons (startOfDay_append day _), Option.none_or, Option.or_none]

/-- Only the reader of the standard's form takes a text with the letter for UTC. -/
theorem read?_zulu (day : DayForm) (time : TimeForm) :
    read? (day.text ++ "T" ++ time.text ++ "Z") = moment? day time := by
  have hs : (day.text ++ "T" ++ time.text ++ "Z").toList =
      day.chars ++ 'T' :: (time.chars ++ ['Z']) := by
    simp [DayForm.text, TimeForm.text]
  have hblank : ∀ c ∈ day.chars ++ 'T' :: (time.chars ++ ['Z']), Text.isBlank c = false := by
    simp only [List.forall_mem_append, List.forall_mem_cons]
    exact ⟨fun c => DayForm.isBlank_of_mem, by decide, fun c => TimeForm.isBlank_of_mem, by decide,
      List.forall_mem_nil _⟩
  have hoffset : offset (literal ':') ['Z'] = some (0, []) := rfl
  have hstandard := @standard_chars day time ['Z'] (by simp)
  rw [hoffset, Option.bind_some] at hstandard
  rw [read?_eq hs hblank, whole?_map_nil hstandard,
    whole?_map_cons (@dateTime_chars day time ['Z'] (by simp)),
    whole?_map_cons (startOfDay_append day _), Option.none_or, Option.or_none]
  rfl

/-- Only the reader of bare dates takes a day by itself. -/
theorem read?_day (day : DayForm) :
    read? day.text = Moment.ofLocal? day.date .midnight 0 := by
  have hs : day.text.toList = day.chars := String.toList_ofList
  have hstart := startOfDay_append day []
  rw [List.append_nil] at hstart
  rw [read?_eq hs fun c => DayForm.isBlank_of_mem, whole?_none (standard_day day),
    whole?_none (dateTime_day day), whole?_map_nil hstart, Option.none_or, Option.none_or]

/-! ## Moments -/

/-- All days of four-digit years are days that instants have. -/
theorem DayForm.isSome_ofLocal?_iff (day : DayForm) {clock : Clock}
    (hseconds : clock.seconds < 86400) (hnano : clock.nano < 2000000000) :
    (Moment.ofLocal? day.date clock 0).isSome = true ↔
      Date.IsGregorian day.year.value day.month.value day.day.value := by
  have hexists : day.date.exists? = true ↔
      Date.IsGregorian day.year.value day.month.value day.day.value := Date.exists?_iff
  rw [Moment.ofLocal?, dif_pos (by decide), ← hexists]
  split
  next hday =>
    have hyear : (day.year.value : Int) < 10000 := Int.ofNat_lt.2 day.year.value_lt
    have hmem := Date.number_mem hday (Int.natCast_nonneg _) hyear
    have hnumber : (day.date.number * 86400 + clock.seconds - 0) / 86400 =
      day.date.number := by omega
    rw [Instant.ofSeconds?]
    simp only [hnumber]
    rw [dif_pos ⟨hmem, hnano⟩]
    exact iff_of_true rfl hday
  next hday => exact iff_of_false Bool.false_ne_true hday

theorem TimeForm.nano_lt (time : TimeForm) : time.nano < 1000000000 := by
  have hlength : (time.decimals.take 9 ++
      List.replicate (9 - (time.decimals.take 9).length) '0').length = 9 := by
    rw [List.length_append, List.length_replicate, List.length_take]
    omega
  have hdigit : ∀ c ∈ time.decimals.take 9 ++
      List.replicate (9 - (time.decimals.take 9).length) '0', c.isDigit = true := by
    intro c hmem
    rcases List.mem_append.1 hmem with hread | hzero
    · exact time.isDigit_decimals c (List.mem_of_mem_take hread)
    · rw [List.eq_of_mem_replicate hzero]
      decide
  have hlt := ofDigitChars_lt hdigit 0
  rw [hlength] at hlt
  exact hlt

/-- A day and a time of day name a moment if the calendar has the day and the clock the time, which
may be a leap second. -/
theorem isSome_moment?_iff (day : DayForm) (time : TimeForm) :
    (moment? day time).isSome = true ↔
      Date.IsGregorian day.year.value day.month.value day.day.value ∧
        time.hour.value < 24 ∧ time.minute.value < 60 ∧ time.second.value ≤ 60 := by
  have hnano := time.nano_lt
  rw [moment?, TimeForm.clock?, Clock.ofParts?]
  split
  next hclock =>
    obtain ⟨hhour, hminute, -⟩ := hclock
    split
    next hsecond =>
      rw [Option.bind_some, day.isSome_ofLocal?_iff (by simp only [Clock.seconds]; omega)
        (by dsimp only; omega)]
      exact ⟨fun h => ⟨h, hhour, hminute, Nat.le_of_lt hsecond⟩, And.left⟩
    split
    next hleap =>
      rw [Option.bind_some, day.isSome_ofLocal?_iff (by simp only [Clock.seconds]; omega)
        (by dsimp only; omega)]
      exact ⟨fun h => ⟨h, hhour, hminute, Nat.le_of_eq hleap⟩, And.left⟩
    next hless hleap =>
      exact iff_of_false Bool.false_ne_true fun h => by omega
  next hclock =>
    refine iff_of_false Bool.false_ne_true fun h => hclock ⟨h.2.1, h.2.2.1, hnano⟩

theorem offset_of_ofLocal? {date : Date} {clock : Clock} {offset : Int} {moment : Moment}
    (hread : Moment.ofLocal? date clock offset = some moment) : moment.offset = offset := by
  rw [Moment.ofLocal?] at hread
  split at hread
  next =>
    split at hread
    next =>
      obtain ⟨instant, -, rfl⟩ := Option.map_eq_some_iff.1 hread
      rfl
    next => cases hread
  next => cases hread

def TimeForm.midnight : TimeForm where
  hour := .ofChars ['0', '0'] rfl
  minute := .ofChars ['0', '0'] rfl
  second := .ofChars ['0', '0'] rfl
  decimals := []
  isDigit_decimals := List.forall_mem_nil _

theorem moment?_midnight (day : DayForm) :
    moment? day .midnight = Moment.ofLocal? day.date .midnight 0 := by
  have hclock : TimeForm.midnight.clock? = some .midnight := by decide
  rw [moment?, hclock, Option.bind_some]

/-- Days and times without an offset are in UTC. -/
theorem offset_of_moment? {day : DayForm} {time : TimeForm} {moment : Moment}
    (hread : moment? day time = some moment) : moment.offset = 0 := by
  obtain ⟨clock, -, hlocal⟩ := Option.bind_eq_some_iff.1 hread
  exact offset_of_ofLocal? hlocal

/-- Texts of the form of a day and a time name the same moment with the letter for UTC behind them
and without, one on a clock in UTC, and they do so if the calendar has the day and a clock the time.
A text of the form of a day names what it names with the start of the day behind it, and it names a
moment exactly if the Gregorian calendar has the day. -/
theorem read?_forms (day : DayForm) :
    (∀ time : TimeForm,
      read? (day.text ++ "T" ++ time.text) = read? (day.text ++ "T" ++ time.text ++ "Z") ∧
      (∀ moment ∈ read? (day.text ++ "T" ++ time.text), moment.offset = 0) ∧
      ((read? (day.text ++ "T" ++ time.text)).isSome = true ↔
        Date.IsGregorian day.year.value day.month.value day.day.value ∧
          time.hour.value < 24 ∧ time.minute.value < 60 ∧ time.second.value ≤ 60)) ∧
    read? day.text = read? (day.text ++ "T00:00:00") ∧
    read? day.text = read? (day.text ++ "T00:00:00Z") ∧
    ((read? day.text).isSome = true ↔
      Date.IsGregorian day.year.value day.month.value day.day.value) := by
  have htext : "T" ++ TimeForm.midnight.text = "T00:00:00" := by decide
  have hzulu : "T" ++ TimeForm.midnight.text ++ "Z" = "T00:00:00Z" := by decide
  refine ⟨fun time => ⟨?_, ?_, ?_⟩, ?_, ?_, ?_⟩
  · rw [read?_unzoned, read?_zulu]
  · rw [read?_unzoned]
    exact fun moment => offset_of_moment?
  · rw [read?_unzoned, isSome_moment?_iff]
  · rw [← htext, ← String.append_assoc, read?_unzoned, moment?_midnight, read?_day]
  · rw [← hzulu, ← String.append_assoc, ← String.append_assoc, read?_zulu, moment?_midnight,
      read?_day]
  · rw [read?_day, day.isSome_ofLocal?_iff (by decide) (by decide)]

/-- A leap second on a leap day, and the day before the first of March in a year that has none. -/
theorem read?_forms_february :
    (∃ moment, read? "2000-02-29T23:59:60.5" = some moment ∧
      read? "2000-02-29T23:59:60.5Z" = some moment ∧ moment.offset = 0) ∧
    read? "1900-02-29" = none := by
  have hleap := (read?_forms
    ⟨.ofChars ['2', '0', '0', '0'] rfl, .ofChars ['0', '2'] rfl, .ofChars ['2', '9'] rfl⟩).1
      ⟨.ofChars ['2', '3'] rfl, .ofChars ['5', '9'] rfl, .ofChars ['6', '0'] rfl, ['5'],
        List.all_eq_true.1 rfl⟩
  have hcommon := (read?_forms
    ⟨.ofChars ['1', '9', '0', '0'] rfl, .ofChars ['0', '2'] rfl, .ofChars ['2', '9'] rfl⟩).2.2.2
  constructor
  · obtain ⟨moment, hmoment⟩ := Option.isSome_iff_exists.1 (hleap.2.2.2 (by decide))
    exact ⟨moment, hmoment, hleap.1.symm.trans hmoment, hleap.2.1 moment hmoment⟩
  · exact Option.not_isSome_iff_eq_none.1 (mt hcommon.1 (by decide))

end RestQuery.Calendar
