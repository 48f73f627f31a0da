import EdgeCache.Proofs.Answers
import EdgeCache.Proofs.Expiry
import EdgeCache.Proofs.LooseAddress
import EdgeCache.Proofs.Truncation

/-! Points in time written as seconds with a fraction. No form of a date takes such a text for its
own, so that it is read as a double; what becomes of the fraction depends on the sign and on whether
it rounds up to a full second. -/

namespace EdgeCache

namespace TimeReader

open Decimal

variable {cs ms : List Char} {c : Char} {least most : ℕ} {negative : Bool}

def Marked (cs : List Char) : Prop := ∀ c ∈ cs, c ∈ marks

theorem Marked.drop (h : Marked cs) (k : ℕ) : Marked (cs.drop k) :=
  fun c hc => h c (List.mem_of_mem_drop hc)

theorem Marked.char (h : Marked cs) (other : c ∉ marks) : char c cs = none := by
  cases cs with
  | nil => rfl
  | cons d rest =>
    refine if_neg fun same => other ?_
    rw [same]
    exact h d (List.mem_cons_self ..)

theorem trimStart_minus (negative : Bool) (h : Marked ms) :
    Blank.trimStart (minus negative ms) = minus negative ms :=
  Blank.trimStart_of_not_blank fun _ hc => isBlank_eq_false (mem_of_mem_minus h hc)

theorem blanks_eq_none (h : Marked ms) : blanks ms = none := by
  have same : Blank.trimStart ms = ms := trimStart_minus false h
  rw [blanks, same]
  exact if_neg (lt_irrefl _)

theorem marked_of_number {p : ℕ × List Char} (negative : Bool) (h : Marked ms)
    (read : number least most (minus negative ms) = some p) : Marked p.2 := by
  unfold number at read
  dsimp only at read
  split at read
  · cases read
  rename_i filled
  split at read
  · obtain rfl := Option.some.inj read
    cases negative
    · exact h.drop _
    · -- The sign is no digit, and a number has one at least.
      have empty : ((minus true ms).take most).takeWhile isDigit = [] := by cases most <;> rfl
      rw [empty] at filled
      exact absurd (.inr rfl) filled
  · cases read

theorem shortName_weekday (h : Marked ms) :
    shortName Calendar.weekdayNames (minus negative ms) = none := by
  have letters : Calendar.weekdayNames.all (fun name => ('-' :: marks).all fun c =>
      (name.toList.map Char.toLower).head? != some c.toLower) = true := by decide +kernel
  unfold shortName
  split
  · rfl
  rename_i long
  rw [Option.map_eq_none_iff, List.findIdx?_eq_none_iff]
  intro name known
  cases text : minus negative ms with
  | nil =>
    rw [text] at long
    exact absurd (by decide) long
  | cons c rest =>
    have first := List.all_eq_true.mp (List.all_eq_true.mp letters name known) c
      (mem_of_mem_minus h (by rw [text]; exact List.mem_cons_self ..))
    refine beq_eq_false_iff_ne.mpr fun same => bne_iff_ne.mp first ?_
    have heads := congrArg List.head? same
    cases chars : name.toList with
    | nil =>
      rw [chars] at heads
      cases heads
    | cons d more =>
      rw [chars] at heads
      exact heads

theorem mailDate?_eq_none (h : Marked ms) : mailDate? (minus negative ms) = none := by
  have unnamed : weekday (minus negative ms) = none := shortName_weekday h
  unfold mailDate?
  rw [trimStart_minus negative h]
  dsimp only
  rw [unnamed]
  dsimp only [bind, Option.bind, pure]
  rw [trimStart_minus negative h]
  cases day : number 1 2 (minus negative ms) with
  | none => rfl
  | some read =>
    have none := blanks_eq_none (marked_of_number negative h day)
    dsimp only
    rw [none]

theorem standard?_eq_none (h : Marked ms) : standard? (minus negative ms) = none := by
  unfold standard?
  cases year : number 4 4 (minus negative ms) with
  | none => rfl
  | some read =>
    have none := (marked_of_number negative h year).char (c := '-') (by decide)
    dsimp only [bind, Option.bind]
    rw [none]

theorem hyphenDate?_eq_none (h : Marked ms) : hyphenDate? (minus negative ms) = none := by
  unfold hyphenDate? longName
  rw [shortName_weekday h]
  rfl

theorem logDate?_eq_none (h : Marked ms) : logDate? (minus negative ms) = none := by
  have unnamed : weekday (minus negative ms) = none := shortName_weekday h
  unfold logDate?
  rw [unnamed]
  rfl

theorem marked_of_signedYear {p : ℤ × List Char} (h : Marked ms)
    (read : signedYear (minus negative ms) = some p) : Marked p.2 := by
  have bounded {least most : ℕ} {sign : ℤ}
      (read : (number least most ms).bind (fun r => if r.1 ≤ yearLimit then
        some (sign * r.1, r.2) else none) = some p) :
      Marked p.2 := by
    obtain ⟨q, first, found⟩ := Option.bind_eq_some_iff.mp read
    split at found
    · obtain rfl := Option.some.inj found
      exact marked_of_number false h first
    · cases found
  unfold signedYear at read
  rw [trimStart_minus negative h] at read
  cases negative
  · dsimp only at read
    rw [minus, if_neg Bool.false_ne_true] at read
    split at read
    · exact absurd rfl (bare_of_mem_marks (h _ (List.mem_cons_self ..))).1
    · exact absurd rfl (bare_of_mem_marks (h _ (List.mem_cons_self ..))).2
    · exact bounded read
  · exact bounded read

theorem plainDate?_eq_none (h : Marked ms) (between : Reader Unit) :
    plainDate? between (minus negative ms) = none := by
  unfold plainDate? yearFirst
  cases year : signedYear (minus negative ms) with
  | none => rfl
  | some read =>
    have none := (marked_of_signedYear h year).char (c := '-') (by decide)
    dsimp only [bind, Option.bind, id]
    rw [none]

theorem any?_minus (h : Marked ms) :
    any? (String.ofList (minus negative ms)) = seconds? (minus negative ms) := by
  have trimmed : Blank.trim (minus negative ms) = minus negative ms :=
    Blank.trim_of_not_blank fun _ hc => isBlank_eq_false (mem_of_mem_minus h hc)
  unfold any?
  rw [String.toList_ofList, trimmed]
  simp [mailDate?_eq_none h, standard?_eq_none h, hyphenDate?_eq_none h, logDate?_eq_none h,
    plainDate?_eq_none h]

theorem readDigits_point (limit : ℕ) (beyond : Integer.Error) (point : '.' ∈ cs) :
    ∃ e, Integer.readDigits 10 limit beyond 0 cs = .error e := by
  cases read : Integer.readDigits 10 limit beyond 0 cs with
  | error e => exact ⟨e, rfl⟩
  | ok k =>
    have digits := ((Integer.readDigits_eq_ok_iff (by norm_num) (Nat.zero_le _)).mp read).1
    exact absurd (digits '.' point) (by decide)

theorem readSigned_point (negative : Bool) (h : Marked ms) (point : '.' ∈ ms) :
    ∃ e, Integer.readSigned 10 (minus negative ms) = .error e := by
  obtain ⟨c, rest, rfl⟩ := List.exists_cons_of_ne_nil (List.ne_nil_of_mem point)
  have first := bare_of_mem_marks (h c (List.mem_cons_self ..))
  cases negative
  · obtain ⟨e, failed⟩ := readDigits_point (Word.half - 1) .tooLarge point
    rw [minus, if_neg Bool.false_ne_true]
    unfold Integer.readSigned
    split
    · exact ⟨_, rfl⟩
    · exact ⟨_, rfl⟩
    · exact ⟨_, rfl⟩
    · rename_i same
      exact absurd (List.cons.inj same).1 first.1
    · rename_i same
      exact absurd (List.cons.inj same).1 first.2
    · exact ⟨e, by rw [failed]; rfl⟩
  · obtain ⟨e, failed⟩ := readDigits_point Word.half .tooSmall point
    have read : Integer.readSigned 10 (minus true (c :: rest)) =
        (fun n => -(n : ℤ)) <$> Integer.readDigits 10 Word.half .tooSmall 0 (c :: rest) := rfl
    exact ⟨e, by rw [read, failed]; rfl⟩

open Binary64

variable {x : Float} {t : Numeral}

def nanosOf (x : Float) : Float := (x - truncate x) * 1000000000.0

theorem value_billion : isFinite 1000000000.0 = true ∧ value 1000000000.0 = 10 ^ 9 := by
  have read : Rounds 1000000000.0 ((10 ^ 9 : ℤ) : ℚ) := rounds_tenth 1000000000
  obtain ⟨finite, same⟩ := read.value_intCast (by norm_num)
  exact ⟨finite, by rw [same]; norm_num⟩

theorem rounds_nanosOf (finite : isFinite x = true) (small : |value x| ≤ 2 ^ 53) :
    Rounds (nanosOf x) ((value x - toward (value x)) * 10 ^ 9) := by
  obtain ⟨finite', same⟩ := sub_truncate finite small
  obtain ⟨finite'', billion⟩ := value_billion
  have product := rounds_mul finite' finite''
  rwa [same, billion] at product

theorem abs_nanosOf_le (finite : isFinite x = true) (small : |value x| ≤ 2 ^ 53) :
    isFinite (nanosOf x) = true ∧ |value (nanosOf x)| ≤ 10 ^ 9 := by
  have rounds := rounds_nanosOf finite small
  have part := (toward_bounds (value x)).2.2
  have size : |(value x - toward (value x)) * 10 ^ 9| ≤ 10 ^ 9 := by
    rw [abs_mul, abs_of_pos (by norm_num : (0 : ℚ) < 10 ^ 9)]
    exact mul_le_of_le_one_left (by norm_num) part.le
  have onGrid : OnGrid (((10 ^ 9 : ℤ) : ℚ)) := onGrid_intCast (by norm_num)
  have room : (10 : ℚ) ^ 9 ≤ 2 ^ (63 : ℕ) := by norm_num
  have half := half_le_bound
  push_cast at onGrid
  obtain ⟨low, high⟩ := abs_le.mp size
  refine ⟨rounds.isFinite (size.trans (room.trans ?_)), abs_le.mpr ⟨?_, ?_⟩⟩
  · rw [← zpow_natCast]
    exact zpow_le_zpow_right₀ (by norm_num) (by norm_num)
  · exact rounds.le_value onGrid.neg (by linarith) low
  · exact rounds.value_le onGrid (by linarith) high

theorem seconds?_of_read {e : Integer.Error} (failed : Integer.readSigned 10 cs = .error e)
    (read : read? cs = some x) (finite : isFinite x = true) (small : |value x| ≤ 2 ^ 53) :
    seconds? cs = Instant.ofSeconds? (toward (value x))
      (clamp 0 (2 ^ 32 - 1) (away (value (nanosOf x)))).toNat := by
  have few : |toward (value x)| ≤ 2 ^ 53 := by
    exact_mod_cast (toward_bounds (value x)).1.trans small
  obtain ⟨low, high⟩ := abs_le.mp few
  obtain ⟨finite₁, whole⟩ := (rounds_truncate finite).value_intCast few
  have seconds : (toInt64 (truncate x)).toInt = toward (value x) := by
    have least : Word.least = -2 ^ 63 := by decide
    have greatest : Word.greatest = 2 ^ 63 - 1 := by decide
    have kept : clamp Word.least Word.greatest (toward (value x)) = toward (value x) := by
      rw [clamp]
      omega
    rw [toInt64, toIntBy_truncate finite₁, whole, toward_intCast, kept]
    exact Int64.toInt_ofInt_of_le (by omega) (by omega)
  -- Doubles count nanoseconds of a second exactly, so that only the cast to an unsigned number
  -- changes them: below zero.
  obtain ⟨finite₂, size⟩ := abs_nanosOf_le finite small
  have rounded : |away (value (nanosOf x))| ≤ 2 ^ 53 :=
    (abs_away_le (n := 10 ^ 9) (by exact_mod_cast size)).trans (by norm_num)
  obtain ⟨finite₃, nanos⟩ := (rounds_round finite₂).value_intCast rounded
  have limit : ((twoTo 32 - 1 : ℕ) : ℤ) = 2 ^ 32 - 1 := by decide
  have part : toIntBy Parts.truncate 0 ((twoTo 32 - 1 : ℕ) : ℤ) (round (nanosOf x)) =
      clamp 0 (2 ^ 32 - 1) (away (value (nanosOf x))) := by
    rw [toIntBy_truncate finite₃, nanos, toward_intCast, limit]
  unfold seconds?
  rw [failed, read]
  dsimp only [bind, Option.bind]
  rw [finite, seconds]
  exact congrArg (fun n => Instant.ofSeconds? (toward (value x)) (Int.toNat n)) part

def wholeSeconds (t : Numeral) : ℤ := ⌊value t.double⌋

def nanoseconds (t : Numeral) : ℤ := away (value (nanosOf t.double))

theorem marked_text (t : Numeral) : Marked t.text := fun _ => Numeral.mem_marks

theorem mem_text (point : t.fraction.isSome = true) : '.' ∈ t.text := by
  obtain ⟨ds, some⟩ := Option.isSome_iff_exists.mp point
  rw [Numeral.text, some]
  exact List.mem_append_right _ (List.mem_cons_self ..)

theorem double_near (small : t.value < 2 ^ 32) :
    isFinite t.double = true ∧ |value t.double| ≤ 2 ^ 32 ∧
    |t.value - value t.double| ≤ 2 ^ (-22 : ℤ) := by
  have size : |t.value| ≤ 2 ^ (32 : ℤ) := by
    rw [abs_of_nonneg t.value_nonneg]
    exact_mod_cast small.le
  obtain ⟨finite, within, near⟩ := t.rounds_double.near size (by norm_num) (by norm_num)
  exact ⟨finite, by exact_mod_cast within, near⟩

theorem wholeSeconds_bounds (small : t.value < 2 ^ 32) :
    0 ≤ wholeSeconds t ∧ wholeSeconds t ≤ 2 ^ 32 := by
  obtain ⟨-, size, -⟩ := double_near small
  refine ⟨Int.floor_nonneg.mpr t.value_double_nonneg, ?_⟩
  have := (Int.floor_le (value t.double)).trans (abs_le.mp size).2
  exact_mod_cast this

theorem rounds_nanoseconds (small : t.value < 2 ^ 32) :
    Rounds (nanosOf t.double) ((value t.double - wholeSeconds t) * 10 ^ 9) := by
  obtain ⟨finite, size, -⟩ := double_near small
  have rounds := rounds_nanosOf finite (by linarith)
  rwa [toward_of_nonneg t.value_double_nonneg] at rounds

theorem fraction_bounds (t : Numeral) :
    0 ≤ value t.double - wholeSeconds t ∧ value t.double - wholeSeconds t < 1 := by
  have low : (wholeSeconds t : ℚ) ≤ value t.double := Int.floor_le _
  have high : value t.double < wholeSeconds t + 1 := Int.lt_floor_add_one _
  exact ⟨by linarith, by linarith⟩

theorem nanoseconds_bounds (small : t.value < 2 ^ 32) :
    0 ≤ nanoseconds t ∧ nanoseconds t ≤ 10 ^ 9 := by
  obtain ⟨finite, size, -⟩ := double_near small
  obtain ⟨-, most⟩ := abs_nanosOf_le finite (by linarith)
  have onGrid := onGrid_intCast (n := 0) (by norm_num)
  rw [Int.cast_zero] at onGrid
  have least : ((0 : ℤ) : ℚ) ≤ value (nanosOf t.double) := by
    rw [Int.cast_zero]
    exact (rounds_nanoseconds small).le_value onGrid bound_pos.le
      (mul_nonneg (fraction_bounds t).1 (by norm_num))
  refine ⟨(away_intCast 0).symm.trans_le (away_mono least), (abs_le.mp (abs_away_le ?_)).2⟩
  exact_mod_cast most

theorem seconds_near (small : t.value < 2 ^ 32) :
    |((wholeSeconds t * 10 ^ 9 + nanoseconds t : ℤ) : ℚ) / 10 ^ 9 - t.value| < 1 / 1000 := by
  obtain ⟨-, -, near⟩ := double_near small
  obtain ⟨low, high⟩ := fraction_bounds t
  have size : |(value t.double - wholeSeconds t) * 10 ^ 9| ≤ 2 ^ (30 : ℤ) := by
    rw [abs_of_nonneg (by linarith)]
    norm_num
    linarith
  have product := ((rounds_nanoseconds small).near size (by norm_num) (by norm_num)).2.2
  have whole := abs_away_sub_le (value (nanosOf t.double))
  norm_num at near product
  rw [abs_le] at near product whole
  have same : nanoseconds t = away (value (nanosOf t.double)) := rfl
  rw [← same] at whole
  push_cast
  rw [abs_lt]
  constructor <;> linarith

theorem any?_unsigned (point : t.fraction.isSome = true) (small : t.value < 2 ^ 32) :
    any? (String.ofList (minus false t.text)) = Instant.ofSeconds? (wholeSeconds t)
      (nanoseconds t).toNat := by
  obtain ⟨e, failed⟩ := readSigned_point false (marked_text t) (mem_text point)
  obtain ⟨finite, size, -⟩ := double_near small
  have read : read? (minus false t.text) = some t.double := Numeral.read?_text false
  have kept : clamp 0 (2 ^ 32 - 1) (nanoseconds t) = nanoseconds t := by
    have := nanoseconds_bounds small
    rw [clamp]
    omega
  rw [any?_minus (marked_text t), seconds?_of_read failed read finite (by linarith),
    toward_of_nonneg t.value_double_nonneg]
  exact congrArg (fun n => Instant.ofSeconds? (wholeSeconds t) (Int.toNat n)) kept

/-- A negative fraction is brought to zero when it is turned to an unsigned number. -/
theorem any?_negative (point : t.fraction.isSome = true) (small : t.value < 2 ^ 32) :
    any? (String.ofList (minus true t.text)) = Instant.ofSeconds? (-wholeSeconds t) 0 := by
  obtain ⟨e, failed⟩ := readSigned_point true (marked_text t) (mem_text point)
  obtain ⟨finite, size, -⟩ := double_near small
  have read : read? (minus true t.text) = some (-t.double) := Numeral.read?_text true
  have finite' := (isFinite_neg t.double).trans finite
  have size' : |value (-t.double)| ≤ 2 ^ 53 := by
    rw [value_neg, abs_neg]
    linarith
  have whole : toward (value (-t.double)) = -wholeSeconds t := by
    rw [value_neg, toward_neg, toward_of_nonneg t.value_double_nonneg]
    rfl
  have rounds := rounds_nanosOf finite' size'
  have onGrid := onGrid_intCast (n := 0) (by norm_num)
  rw [Int.cast_zero] at onGrid
  have most : value (nanosOf (-t.double)) ≤ ((0 : ℤ) : ℚ) := by
    rw [Int.cast_zero]
    refine rounds.value_le onGrid (neg_nonpos.mpr bound_pos.le) ?_
    rw [whole, value_neg]
    push_cast
    linarith [(fraction_bounds t).1]
  have nanos : clamp 0 (2 ^ 32 - 1) (away (value (nanosOf (-t.double)))) = 0 := by
    have := (away_mono most).trans_eq (away_intCast 0)
    rw [clamp]
    omega
  rw [any?_minus (marked_text t), seconds?_of_read failed read finite' size', nanos, whole]
  rfl

end TimeReader

theorem Instant.exists_ofSeconds? (seconds : ℤ) (nanos : ℕ) (size : |seconds| ≤ 2 ^ 32)
    (few : nanos ≤ 10 ^ 9) (kept : nanos < 10 ^ 9 ∨ seconds % 60 = 59) :
    ∃ u, ofSeconds? seconds nanos = some u ∧ u.total = seconds * 10 ^ 9 + nanos := by
  obtain ⟨low, high⟩ := abs_le.mp size
  have inRange : firstSecond ≤ seconds ∧ seconds ≤ lastSecond := by
    rw [firstSecond, lastSecond]
    omega
  have nanos_lt : nanos < 2000000000 := by omega
  refine ⟨⟨seconds, nanos, inRange, nanos_lt⟩, ?_, rfl⟩
  rw [ofSeconds?, if_neg (by omega), make?, dif_pos inRange, dif_pos nanos_lt]

namespace Builtin

open Decimal TimeReader

variable {t : Numeral}

def epochArguments (negative : Bool) (t : Numeral) (default : Instant) (marks : Marks)
    (notSet : Bool) : List Value :=
  [.string (String.ofList (minus negative t.text)) marks, .time default notSet]

theorem answers_time (negative : Bool) (t : Numeral) (default : Instant) (marks : Marks)
    (notSet : Bool) :
    Answers "std.time" (epochArguments negative t default marks notSet)
      (.ofTime ((any? (String.ofList (minus negative t.text))).getD default)) :=
  ⟨_, rfl, fun _ _ => rfl⟩

def Close (u : Instant) (r : ℚ) : Prop := |(u.total : ℚ) / 10 ^ 9 - r| < 1 / 1000

/-- The number that a text stands for is missed: below zero unless it is next to a whole number,
above zero where the fraction rounds up to a full second that is not the last of a minute. -/
def Misses (t : Numeral) : Bool → Prop
  | true => 1 / 1000 ≤ |t.value - wholeSeconds t|
  | false => nanoseconds t = 10 ^ 9 ∧ wholeSeconds t % 60 ≠ 59

def signedValue (t : Numeral) : Bool → ℚ
  | true => -t.value
  | false => t.value

theorem answers_negative (default : Instant) (marks : Marks) (notSet : Bool)
    (point : t.fraction.isSome = true) (small : t.value < 2 ^ 32) :
    ∃ u, u.total = -wholeSeconds t * 10 ^ 9 ∧
    Answers "std.time" (epochArguments true t default marks notSet) (.ofTime u) := by
  obtain ⟨low, high⟩ := wholeSeconds_bounds small
  obtain ⟨u, made, total⟩ := Instant.exists_ofSeconds? (-wholeSeconds t) 0
    (abs_le.mpr ⟨by omega, by omega⟩) (by norm_num) (by norm_num)
  have answers := answers_time true t default marks notSet
  rw [any?_negative point small, made] at answers
  exact ⟨u, by omega, answers⟩

theorem answers_unsigned (default : Instant) (marks : Marks) (notSet : Bool)
    (point : t.fraction.isSome = true) (small : t.value < 2 ^ 32) (kept : ¬ Misses t false) :
    ∃ u, u.total = wholeSeconds t * 10 ^ 9 + nanoseconds t ∧
      Answers "std.time" (epochArguments false t default marks notSet) (.ofTime u) := by
  obtain ⟨low, high⟩ := wholeSeconds_bounds small
  obtain ⟨least, most⟩ := nanoseconds_bounds small
  rw [Misses] at kept
  obtain ⟨u, made, total⟩ := Instant.exists_ofSeconds? (wholeSeconds t) (nanoseconds t).toNat
    (abs_le.mpr ⟨by omega, by omega⟩) (by omega) (by omega)
  have answers := answers_time false t default marks notSet
  rw [any?_unsigned point small, made] at answers
  exact ⟨u, by omega, answers⟩

theorem answers_default (default : Instant) (marks : Marks) (notSet : Bool)
    (point : t.fraction.isSome = true) (small : t.value < 2 ^ 32) (missed : Misses t false) :
    Answers "std.time" (epochArguments false t default marks notSet) (.ofTime default) := by
  obtain ⟨full, other⟩ := missed
  have none : Instant.ofSeconds? (wholeSeconds t) (nanoseconds t).toNat = none :=
    if_pos ⟨by omega, other⟩
  have answers := answers_time false t default marks notSet
  rw [any?_unsigned point small, none] at answers
  exact answers

theorem close_negative {u : Instant} (total : u.total = -wholeSeconds t * 10 ^ 9) :
    Close u (-t.value) ↔ ¬ Misses t true := by
  have distance :
      ((-wholeSeconds t * 10 ^ 9 : ℤ) : ℚ) / 10 ^ 9 - -t.value = t.value - wholeSeconds t := by
    push_cast
    ring
  rw [Close, total, distance, Misses, not_le]

theorem not_close_epoch_last {r : ℚ} (h : Close .epoch r) : ¬ Close .last r := by
  have first : Instant.epoch.total = 0 := by decide
  have last : Instant.last.total = 8210266876799999999999 := by decide
  intro h'
  rw [Close, first, abs_lt] at h
  rw [Close, last, abs_lt] at h'
  push_cast at h h'
  linarith [h.1, h.2, h'.1, h'.2]

/-- A text of seconds with a fraction is read as a point in time that is close to its number,
whatever the default is, unless it is missed. Below zero the fraction is dropped; a fraction that
rounds up to a full second gives the default. -/
theorem epoch_seconds_iff (t : Numeral) (negative : Bool) (marks : Marks) (notSet : Bool)
    (point : t.fraction.isSome = true) (small : t.value < 2 ^ 32) :
    ((∀ default, ∃ u, Answers "std.time" (epochArguments negative t default marks notSet)
      (.ofTime u) ∧
        Close u (signedValue t negative)) ↔ ¬ Misses t negative) ∧
      (negative = true → ∀ default, ∃ u, u.total = -wholeSeconds t * 10 ^ 9 ∧
        Answers "std.time" (epochArguments negative t default marks notSet) (.ofTime u)) ∧
      (negative = false → Misses t false → ∀ default,
        Answers "std.time" (epochArguments negative t default marks notSet) (.ofTime default)) := by
  have same {v w : Instant} (h : Value.ofTime v = .ofTime w) : v = w := by
    cases h
    rfl
  cases negative
  · refine ⟨⟨fun all missed => ?_, fun kept default => ?_⟩, nofun,
      fun _ missed default => answers_default default marks notSet point small missed⟩
    · -- One default may be close to the number by chance, so that two are taken that are far apart.
      obtain ⟨u, answers, close⟩ := all .epoch
      obtain ⟨u', answers', close'⟩ := all .last
      obtain rfl := same ((answers_default .epoch marks notSet point small missed).unique answers)
      obtain rfl := same ((answers_default .last marks notSet point small missed).unique answers')
      exact not_close_epoch_last close close'
    · obtain ⟨u, total, answers⟩ := answers_unsigned default marks notSet point small kept
      exact ⟨u, answers, by rw [Close, total]; exact seconds_near small⟩
  · refine ⟨⟨fun all => ?_, fun kept default => ?_⟩,
      fun _ default => answers_negative default marks notSet point small, nofun⟩
    · obtain ⟨u, answers, close⟩ := all .epoch
      obtain ⟨u', total, answers'⟩ := answers_negative .epoch marks notSet point small
      obtain rfl := same (answers'.unique answers)
      exact (close_negative total).mp close
    · obtain ⟨u, total, answers⟩ := answers_negative default marks notSet point small
      exact ⟨u, answers, (close_negative total).mpr kept⟩

def halfPast : Numeral := ⟨"1136239445".toList, some ['5'],
  List.all_eq_true.mp (by decide : "11362394455".toList.all isDigit = true), by decide⟩

theorem epoch_seconds_iff_half : halfPast.fraction.isSome = true ∧ halfPast.value < 2 ^ 32 ∧
    ∀ default, ∃ u, Answers "std.time" [.string "1136239445.5" .plain, .time default false]
      (.ofTime u) ∧
      Close u (1136239445 + 1 / 2) := by
  have mantissa : halfPast.mantissa = 11362394455 := by decide
  have places : halfPast.places.length = 1 := rfl
  have value : halfPast.value = 1136239445 + 1 / 2 := by
    rw [Numeral.value, mantissa, places]
    norm_num
  have small : halfPast.value < 2 ^ 32 := by
    rw [value]
    norm_num
  have parts : Binary64.shape (nanosOf halfPast.double) = .finite ⟨false, 500000000 * 2 ^ 24,
      -24⟩ := by decide +kernel
  have kept : ¬ Misses halfPast false := by
    have half : Binary64.value (nanosOf halfPast.double) = ((500000000 : ℤ) : ℚ) := by
      rw [Binary64.value, parts, Binary64.Shape.value, Binary64.Parts.value, Binary64.dyadic]
      norm_num
    have nanos : nanoseconds halfPast = 500000000 := by
      rw [nanoseconds, half, Binary64.away_intCast]
    rw [Misses, nanos]
    norm_num
  have close := (epoch_seconds_iff halfPast false .plain false rfl small).1.mpr kept
  have text : String.ofList (minus false halfPast.text) = "1136239445.5" := rfl
  simp only [signedValue, value, epochArguments, text] at close
  exact ⟨rfl, small, close⟩

/-- A second and a half before 1970 is read as one second before. -/
theorem negative_fraction_dropped :
    Answers "std.time" [.string "-1.5" .plain, .time .epoch false]
      (.ofTime ⟨-1, 0, by decide, by decide⟩) ∧
      ¬ ∃ u, Answers "std.time" [.string "-1.5" .plain, .time .epoch false] (.ofTime u) ∧
      Close u (-3 / 2) := by
  have read : any? "-1.5" = some ⟨-1, 0, by decide, by decide⟩ := by decide +kernel
  have answers : Answers "std.time" [.string "-1.5" .plain, .time .epoch false]
      (.ofTime ⟨-1, 0, by decide, by decide⟩) := by
    have answers : Answers "std.time" [.string "-1.5" .plain, .time .epoch false]
        (.ofTime ((any? "-1.5").getD .epoch)) :=
      ⟨_, rfl, fun _ _ => rfl⟩
    rwa [read] at answers
  refine ⟨answers, fun ⟨u, answers', close⟩ => ?_⟩
  cases answers.unique answers'
  have total : Instant.total ⟨-1, 0, by decide, by decide⟩ = -1000000000 := by decide
  rw [Close, total] at close
  norm_num at close

end Builtin

end EdgeCache
