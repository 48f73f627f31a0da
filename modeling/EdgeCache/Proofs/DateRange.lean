import EdgeCache.Proofs.Expiry
import EdgeCache.Proofs.Families
import EdgeCache.Variable.Access

/-! Dates that variables are moved to. Reading a variable fails only where there is none, but for
the dates of the certificate, which lie a day before the request and most of a year after it: at the
ends of the range there are no such dates, and the reading panics. -/

namespace EdgeCache

namespace Instant

theorem make?_isSome_iff {s : Int} {n : Nat} (h : n < 2000000000) :
    (make? s n).isSome = true ↔ firstSecond ≤ s ∧ s ≤ lastSecond := by
  by_cases range : firstSecond ≤ s ∧ s ≤ lastSecond
  · rw [make?, dif_pos range, dif_pos h]
    exact iff_of_true rfl range
  · rw [make?, dif_neg range]
    exact iff_of_false Bool.false_ne_true range

theorem shift?_ahead (t : Instant) (days : Nat) (pos : 0 < days) :
    (t.shift? (days * 86400000)).isSome = true ↔ t.seconds + days * 86400 ≤ lastSecond := by
  have moved := t.shift?_eq (q := days * 86400) (r := 0) (by omega) (by omega)
  have parts : (days : Int) * 86400000 = days * 86400 * 1000 + 0 := by omega
  have bound := t.nanos_lt
  have range := t.inRange
  rw [parts, moved]
  -- Within a leap second the nanoseconds are a billion more, and are carried apart.
  split
  · obtain ⟨s, n, same, few, sum⟩ :=
      carried_eq (t.seconds + days * 86400) (n := t.nanos + 0 * 1000000) (by omega)
    rw [same, make?_isSome_iff (by omega)]
    omega
  · rw [if_pos (.inl (by omega))]
    obtain ⟨s, n, same, few, sum⟩ :=
      carried_eq (t.seconds + days * 86400) (n := t.nanos - 1000000000 + 0 * 1000000) (by omega)
    rw [same, make?_isSome_iff (by omega)]
    omega

/-- Whole days back reach a date if the nanoseconds do: from within a leap second they count from
the next one. -/
theorem shift?_back (t : Instant) (days : Nat) (pos : 0 < days) :
    (t.shift? (-days * 86400000)).isSome = true ↔
    (firstSecond + days * 86400) * 1000000000 ≤ t.total := by
  have moved := t.shift?_eq (q := -(days * 86400)) (r := 0) (by omega) (by omega)
  have parts : -(days : Int) * 86400000 = -(days * 86400) * 1000 + 0 := by omega
  have bound := t.nanos_lt
  have range := t.inRange
  rw [parts, moved, total]
  split
  · obtain ⟨s, n, same, few, sum⟩ :=
      carried_eq (t.seconds + -(days * 86400)) (n := t.nanos + 0 * 1000000) (by omega)
    rw [same, make?_isSome_iff (by omega)]
    omega
  · rw [if_neg (by omega), if_neg (by omega)]
    obtain ⟨s, n, same, few, sum⟩ :=
      carried_eq (t.seconds + 1 + -(days * 86400)) (n := t.nanos - 1000000000 + 0 * 1000000)
        (by omega)
    rw [same, make?_isSome_iff (by omega)]
    omega

end Instant

namespace Variable

variable {s : Scope} {name : String} {x : Variable}

def notBefore : String := "tls.client.certificate.not_before"
def notAfter : String := "tls.client.certificate.not_after"

def dateName? : Variable → Option String
  | .reading .notBefore => some notBefore
  | .reading .notAfter => some notAfter
  | _ => none

def isDated (table : List (String × Variable)) : Bool :=
  table.all fun p => p.2.dateName?.all (· == p.1)

theorem special_isDated (s : Scope) : isDated (special s) = true := by
  cases s <;> decide +kernel

theorem shared_isDated : isDated shared = true := by
  decide +kernel

theorem name_of_dateName? {date : String} (known : ofName? s name = some x)
    (dated : x.dateName? = some date) : date = name := by
  have listed {table : List (String × Variable)} (all : isDated table = true)
      (h : (name, x) ∈ table) : date = name := by
    have named := List.all_eq_true.mp all _ h
    dsimp only at named
    rw [dated] at named
    exact beq_iff_eq.mp named
  rcases cases_ofName? known with special | shared | family | ⟨m, field, -, rfl⟩
  · exact listed (special_isDated s) special
  · exact listed shared_isDated shared
  · rcases cases_family? family with ⟨index, rfl⟩ | ⟨begins, rfl⟩ | rfl <;> cases dated
  · cases dated

theorem ofName?_notBefore (s : Scope) : ofName? s notBefore = some (.reading .notBefore) := by
  cases s <;> rfl

theorem ofName?_notAfter (s : Scope) : ofName? s notAfter = some (.reading .notAfter) := by
  cases s <;> rfl

theorem read_of_undated (env : Environment) (c : Context) (undated : x.dateName? = none) :
    ∃ v, x.read env c = .ok v := by
  match x, undated with
  | .slot _, _ | .header _ _, _ | .local _, _ | .group _, _ | .clientIdentity, _ | .method _, _
    | .url _, _ | .status _, _ =>
    exact ⟨_, rfl⟩
  | .backend, _ =>
    unfold read
    cases c.backend <;> exact ⟨_, rfl⟩
  | .reading r, undated => cases r <;> first | exact ⟨_, rfl⟩ | cases undated

end Variable

namespace Context

open Instant

variable {env : Environment} {c : Context} {name : String}

def Readable (env : Environment) (c : Context) (name : String) : Prop :=
  (∃ v, c.getVariable env name = .ok v) ∨
    c.getVariable env name = .error (.cause (.undefinedVariable name c.scope))

/-- The name asks for a date that lies outside of the range. -/
def LeavesDates (now : Instant) (name : String) : Prop :=
  name = Variable.notBefore ∧ now.total < (firstSecond + 86400) * 1000000000 ∨
    name = Variable.notAfter ∧ lastSecond < now.seconds + 364 * 86400

theorem getVariable_of_read {x : Variable} {r : Except (Stop Cause) Value}
    (known : Variable.ofName? c.scope name = some x)
    (read : x.read env c = r.map some) : c.getVariable env name = r := by
  unfold getVariable
  rw [known]
  dsimp only
  rw [read]
  cases r <;> rfl

theorem getVariable_of_unread {x : Variable} (known : Variable.ofName? c.scope name = some x)
    (read : x.read env c = .ok none) :
    c.getVariable env name = .error (.cause (.undefinedVariable name c.scope)) := by
  unfold getVariable
  rw [known]
  dsimp only
  rw [read]
  rfl

theorem readable_of_undated
    (undated : ∀ x, Variable.ofName? c.scope name = some x → x.dateName? = none) :
    Readable env c name := by
  cases known : Variable.ofName? c.scope name with
  | none =>
    right
    unfold getVariable
    rw [known]
  | some x =>
    obtain ⟨v, read⟩ := Variable.read_of_undated env c (undated x known)
    cases v with
    | none => exact .inr (getVariable_of_unread known read)
    | some v => exact .inl ⟨v, getVariable_of_read known read⟩

theorem getVariable_notBefore :
    c.getVariable env Variable.notBefore = Variable.movedDays env.now (-1) :=
  getVariable_of_read (Variable.ofName?_notBefore _) rfl

theorem getVariable_notAfter :
    c.getVariable env Variable.notAfter = Variable.movedDays env.now 364 :=
  getVariable_of_read (Variable.ofName?_notAfter _) rfl

theorem moved_read_iff {days : Int}
    (read : c.getVariable env name = Variable.movedDays env.now days)
    (reached : (env.now.shift? (days * 86400000)).isSome = true ↔ ¬ LeavesDates env.now name) :
    (Readable env c name ↔ ¬ LeavesDates env.now name) ∧
      (LeavesDates env.now name → c.getVariable env name = .error .panic) := by
  unfold Variable.movedDays at read
  cases moved : env.now.shift? (days * 86400000) with
  | none =>
    rw [moved] at read reached
    refine ⟨iff_of_false ?_ fun stays => ?_, fun _ => read⟩
    · rintro (⟨v, given⟩ | undefined)
      · cases given ▸ read
      · cases undefined ▸ read
    · cases reached.mpr stays
  | some u =>
    rw [moved] at read reached
    exact ⟨iff_of_true (.inl ⟨_, read⟩) (reached.mp rfl),
      fun leaves => absurd leaves (reached.mp rfl)⟩

theorem leavesDates_notBefore {now : Instant} :
    LeavesDates now Variable.notBefore ↔ now.total < (firstSecond + 86400) * 1000000000 := by
  have other : Variable.notBefore ≠ Variable.notAfter := by decide
  simp [LeavesDates, other]

theorem leavesDates_notAfter {now : Instant} :
    LeavesDates now Variable.notAfter ↔ lastSecond < now.seconds + 364 * 86400 := by
  have other : Variable.notAfter ≠ Variable.notBefore := by decide
  simp [LeavesDates, other]

/-- Reading a variable gives a value or finds none, at all times but those near the ends of the
range for the two dates of the certificate. There the reading panics. -/
theorem variable_read_iff (env : Environment) (c : Context) (name : String) :
    (Readable env c name ↔ ¬ LeavesDates env.now name) ∧
      (LeavesDates env.now name → c.getVariable env name = .error .panic) := by
  by_cases before : name = Variable.notBefore
  · subst before
    refine moved_read_iff getVariable_notBefore ?_
    rw [leavesDates_notBefore, Int.not_lt]
    exact env.now.shift?_back 1 (by omega)
  by_cases after : name = Variable.notAfter
  · subst after
    refine moved_read_iff getVariable_notAfter ?_
    rw [leavesDates_notAfter, Int.not_lt]
    exact env.now.shift?_ahead 364 (by omega)
  have stays : ¬ LeavesDates env.now name := by
    rintro (⟨same, -⟩ | ⟨same, -⟩)
    · exact before same
    · exact after same
  refine ⟨iff_of_true (readable_of_undated fun x known => ?_) stays,
    fun leaves => absurd leaves stays⟩
  -- A variable that is a date is found under its own name only, and these two names are settled
  -- above.
  cases dated : x.dateName? with
  | none => rfl
  | some date =>
    have named := Variable.name_of_dateName? known dated
    have dates : date = Variable.notBefore ∨ date = Variable.notAfter := by
      unfold Variable.dateName? at dated
      split at dated <;> cases dated
      · exact .inl rfl
      · exact .inr rfl
    rcases dates with rfl | rfl
    · exact absurd named.symm before
    · exact absurd named.symm after

/-- The first day that can be set for all requests has no day before it. -/
theorem first_day_panics :
    ∃ config, Config.ofText? "\x7b\"fixed_time\": \"-262143-01-01T00:00:00Z\"\x7d" = some config ∧
      received.getVariable (.of .empty config) "tls.client.certificate.not_before" =
        .error .panic := by
  refine ⟨{ Config.standard with fixedTime := make? firstSecond 0 }, by decide +kernel, ?_⟩
  exact getVariable_notBefore

end Context

end EdgeCache
