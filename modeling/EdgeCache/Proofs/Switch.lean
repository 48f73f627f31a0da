import EdgeCache.Proofs.Flows
import EdgeCache.Proofs.Groups

/-! Switches. Their tests are taken in order up to the first one that takes the text of the control;
then the bodies run from its case on, one after the other as long as they fall through. -/

namespace EdgeCache

open Relation (ReflTransGen)

namespace Case

inductive Misses (subject : String) (c : Case) : Prop
  | untested (test : c.test = none)
  | text {text : String} (test : c.test = some (.equal text)) (other : subject ≠ text)
  | pattern {pattern : String} {p : Pattern} (test : c.test = some (.regex pattern))
    (read : Pattern.ofText pattern = .ok p) (absent : p.captures? subject = none)

/-- The test of a case takes a text. A pattern sets the groups to those of its match, and a text
leaves them. -/
inductive Hits (subject : String) (c : Case) (old : Captures) : Captures → Prop
  | text (test : c.test = some (.equal subject)) : Hits subject c old old
  | pattern {pattern : String} {p : Pattern} {groups : List String}
    (test : c.test = some (.regex pattern))
    (read : Pattern.ofText pattern = .ok p) (found : p.captures? subject = some groups) :
    Hits subject c old ⟨groups⟩

inductive Unreadable (c : Case) : ValueError → Prop
  | pattern {pattern : String} {e : PatternError} (test : c.test = some (.regex pattern))
    (unread : Pattern.ofText pattern = .error e) : Unreadable c (.invalidPattern pattern e)

/-- The cases that are left once the tests are through: those from the first one on whose test takes
the text, or else those from the default on. -/
inductive Selects (subject : String) (cases : List Case) (default : Option Nat) (old : Captures) :
    Captures → List Case → Prop
  | hit {before : List Case} {c : Case} {after : List Case} {new : Captures}
    (stands : cases = before ++ c :: after)
    (missed : ∀ b ∈ before, b.Misses subject) (hits : c.Hits subject old new) :
    Selects subject cases default old new (c :: after)
  | default {i : Nat} (missed : ∀ c ∈ cases, c.Misses subject) (given : default = some i) :
    Selects subject cases default old old (cases.drop i)
  | nothing (missed : ∀ c ∈ cases, c.Misses subject) (given : default = none) :
    Selects subject cases default old old []

theorem tested (subject : String) (c : Case) (old : Captures) :
    c.Misses subject ∨ (∃ new, c.Hits subject old new) ∨ ∃ e, c.Unreadable e := by
  cases test : c.test with
  | none => exact .inl (.untested test)
  | some test' =>
    cases test' with
    | equal text =>
      by_cases same : subject = text
      · subst same
        exact .inr (.inl ⟨old, .text test⟩)
      · exact .inl (.text test same)
    | regex pattern =>
      cases read : Pattern.ofText pattern with
      | error e => exact .inr (.inr ⟨_, .pattern test read⟩)
      | ok p =>
        cases found : p.captures? subject with
        | none => exact .inl (.pattern test read found)
        | some groups => exact .inr (.inl ⟨_, .pattern test read found⟩)

end Case

namespace Run

open Case (Misses Hits Unreadable Selects)

section Tests

variable {subject : String} {c : Case} {cases before after : List Case} {m : Machine}
    {new : Captures}

theorem takes_of_misses (h : c.Misses subject) (m : Machine) :
    takes subject c m = (.done false, m) := by
  unfold takes
  cases h with
  | untested test => rw [test]
  | text test other =>
    rw [test]
    simp only [beq_eq_false_iff_ne.mpr other]
  | pattern test read absent =>
    rw [test]
    simp only [Value.search, read, absent]

theorem takes_of_hits (h : c.Hits subject m.context.captures new) :
    takes subject c m = (.done true, m.withGroups new) := by
  unfold takes
  cases h with
  | text test =>
    rw [test]
    simp only [beq_self_eq_true]
    rfl
  | pattern test read found =>
    rw [test]
    simp only [Value.search, read, found]
    rfl

theorem takes_of_unreadable {e : ValueError} (h : c.Unreadable e) (m : Machine) :
    takes subject c m = (.failed (.located c.token (.of e)), m) := by
  cases h with
  | pattern test unread =>
    unfold takes
    rw [test]
    simp only [Value.search, unread]
    rfl

theorem casesFrom_append (missed : ∀ b ∈ before, b.Misses subject) (cases : List Case)
    (m : Machine) :
    casesFrom subject (before ++ cases) m = casesFrom subject cases m := by
  induction before with
  | nil => rfl
  | cons b before ih =>
    obtain ⟨first, rest⟩ := List.forall_mem_cons.mp missed
    rw [List.cons_append, casesFrom, bind_of_done (takes_of_misses first m)]
    exact ih rest

theorem casesFrom_of_misses (missed : ∀ c ∈ cases, c.Misses subject) (m : Machine) :
    casesFrom subject cases m = (.done none, m) := by
  have none := casesFrom_append missed [] m
  rwa [List.append_nil] at none

theorem casesFrom_of_hits (missed : ∀ b ∈ before, b.Misses subject)
    (hits : c.Hits subject m.context.captures new) :
    casesFrom subject (before ++ c :: after) m = (.done (some (c :: after)), m.withGroups new) := by
  rw [casesFrom_append missed, casesFrom, bind_of_done (takes_of_hits hits)]
  rfl

variable {value : Evaluator} {control : Expression} {default : Option Nat} {m' : Machine}
    {v : Value}

theorem chosen_of_selects (evaluated : value control m = (.done v, m')) {cs : List Case}
    (h : Selects v.text cases default m'.context.captures new cs) :
    chosen value control cases default m = (.done cs, m'.withGroups new) := by
  unfold chosen
  rw [bind_of_done evaluated]
  cases h with
  | hit stands missed hits =>
    rw [stands, bind_of_done (casesFrom_of_hits missed hits)]
    rfl
  | default missed given =>
    rw [given, bind_of_done (casesFrom_of_misses missed m')]
    rfl
  | nothing missed given =>
    rw [given, bind_of_done (casesFrom_of_misses missed m')]
    rfl

theorem selects_or_unreadable (subject : String) (cases : List Case) (default : Option Nat)
    (old : Captures) :
    (∃ new cs, Selects subject cases default old new cs) ∨
    ∃ (before : List Case) (c : Case) (after : List Case),
      cases = before ++ c :: after ∧ (∀ b ∈ before, b.Misses subject) ∧ ∃ e, c.Unreadable e := by
  have split : (∀ c ∈ cases, c.Misses subject) ∨
      ∃ (before : List Case) (c : Case) (after : List Case),
      cases = before ++ c :: after ∧ (∀ b ∈ before, b.Misses subject) ∧
        ((∃ new, c.Hits subject old new) ∨ ∃ e, c.Unreadable e) := by
    induction cases with
    | nil => exact .inl fun _ h => nomatch h
    | cons c cases ih =>
      rcases c.tested subject old with misses | decides
      · rcases ih with missed | ⟨before, c', after, rfl, missed, decides⟩
        · exact .inl (List.forall_mem_cons.mpr ⟨misses, missed⟩)
        · exact .inr ⟨c :: before, c', after, rfl, List.forall_mem_cons.mpr ⟨misses, missed⟩,
            decides⟩
      · exact .inr ⟨[], c, cases, rfl, (fun _ h => nomatch h), decides⟩
  rcases split with missed | ⟨before, c, after, stands, missed, ⟨new, hits⟩ | ⟨e, unread⟩⟩
  · cases given : default with
    | none => exact .inl ⟨_, _, .nothing missed rfl⟩
    | some i => exact .inl ⟨_, _, .default missed rfl⟩
  · exact .inl ⟨_, _, .hit stands missed hits⟩
  · exact .inr ⟨before, c, after, stands, missed, e, unread⟩

end Tests

section Bodies

variable {env : Environment} {n : Nat} {m m' : Machine} {r : Outcome Flow × Machine}

inductive Falls (env : Environment) (n : Nat) : List Case × Machine → List Case × Machine → Prop
  | on {c : Case} {later : List Case} {m m' : Machine}
    (ran : runFrom env n c.body c.body m = (.done .next, m'))
    (marked : c.fallthrough = true) : Falls env n (c :: later, m) (later, m')

inductive Stops (env : Environment) (n : Nat) : List Case × Machine → Outcome Flow × Machine → Prop
  | past {m : Machine} : Stops env n ([], m) (.done .next, m)
  | unmarked {c : Case} {later : List Case} {m m' : Machine}
    (ran : runFrom env n c.body c.body m = (.done .next, m')) (unmarked : c.fallthrough = false) :
    Stops env n (c :: later, m) (.done .next, m')
  | leave {c : Case} {later : List Case} {m m' : Machine}
    (ran : runFrom env n c.body c.body m = (.done .leave, m')) :
    Stops env n (c :: later, m) (.done .next, m')
  | other {c : Case} {later : List Case} {m : Machine} {r : Outcome Flow × Machine}
    (ran : runFrom env n c.body c.body m = r) (next : r.1 ≠ .done .next)
    (leave : r.1 ≠ .done .leave) :
    Stops env n (c :: later, m) r

def Comes (env : Environment) (n : Nat) (cs : List Case) (m : Machine)
    (r : Outcome Flow × Machine) : Prop :=
  ∃ a, ReflTransGen (Falls env n) (cs, m) a ∧ Stops env n a r

theorem runCases_of_falls {a b : List Case × Machine} (h : Falls env n a b) :
    runCases (fun b => runFrom env n b b) a.1 a.2 = runCases (fun b => runFrom env n b b) b.1
      b.2 := by
  cases h with
  | on ran marked =>
    dsimp only
    rw [runCases, bind_of_done ran]
    simp only [marked, if_true]

theorem runCases_of_path {a b : List Case × Machine} (path : ReflTransGen (Falls env n) a b) :
    runCases (fun b => runFrom env n b b) a.1 a.2 = runCases (fun b => runFrom env n b b) b.1
      b.2 := by
  induction path with
  | refl => rfl
  | tail _ falls ih => exact ih.trans (runCases_of_falls falls)

theorem runCases_of_stops {a : List Case × Machine} (h : Stops env n a r) :
    runCases (fun b => runFrom env n b b) a.1 a.2 = r := by
  cases h with
  | past => rfl
  | unmarked ran unmarked =>
    dsimp only
    rw [runCases, bind_of_done ran]
    simp only [unmarked, Bool.false_eq_true, if_false]
    rfl
  | leave ran =>
    dsimp only
    rw [runCases, bind_of_done ran]
    rfl
  | @other c later m r ran next leave =>
    dsimp only
    rw [runCases]
    show Run.bind (runFrom env n c.body c.body) _ m = r
    unfold Run.bind
    rw [ran]
    rcases r with ⟨flow | f | _, p⟩
    · cases flow with
      | next => exact absurd rfl next
      | leave => exact absurd rfl leave
      | _ => rfl
    · rfl
    · rfl

theorem comes_runCases (cs : List Case) (m : Machine) :
    Comes env n cs m (runCases (fun b => runFrom env n b b) cs m) := by
  induction cs generalizing m with
  | nil => exact ⟨_, .refl, .past⟩
  | cons c later ih =>
    have alone {r : Outcome Flow × Machine} (h : Stops env n (c :: later, m) r) :
        Comes env n (c :: later) m (runCases (fun b => runFrom env n b b) (c :: later) m) := by
      rw [runCases_of_stops h]
      exact ⟨_, .refl, h⟩
    cases ran : runFrom env n c.body c.body m with
    | mk outcome m' =>
      cases outcome with
      | done flow =>
        cases flow with
        | next =>
          cases marked : c.fallthrough with
          | true =>
            -- the only case after which another one follows
            have falls : Falls env n (c :: later, m) (later, m') := .on ran marked
            obtain ⟨a, path, stops⟩ := ih m'
            rw [runCases_of_falls falls]
            exact ⟨a, path.head falls, stops⟩
          | false => exact alone (.unmarked ran marked)
        | leave => exact alone (.leave ran)
        | _ => exact alone (.other ran nofun nofun)
      | failed f => exact alone (.other ran nofun nofun)
      | halted => exact alone (.other ran nofun nofun)

theorem runCases_eq_iff {cs : List Case} :
    runCases (fun b => runFrom env n b b) cs m = r ↔ Comes env n cs m r := by
  constructor
  · rintro rfl
    exact comes_runCases cs m
  · rintro ⟨a, path, stops⟩
    exact (runCases_of_path path).trans (runCases_of_stops stops)

theorem runCases_congr {body : Runner} {cs cs' : List Case}
    (same : cs.map (fun c => (c.body, c.fallthrough)) = cs'.map fun c => (c.body, c.fallthrough)) :
    runCases body cs = runCases body cs' := by
  induction cs generalizing cs' with
  | nil =>
    cases cs' with
    | nil => rfl
    | cons c' cs' => cases same
  | cons c cs ih =>
    cases cs' with
    | nil => cases same
    | cons c' cs' =>
      obtain ⟨first, rest⟩ := List.cons.inj same
      obtain ⟨bodies, marks⟩ := Prod.mk.inj first
      rw [runCases, runCases, bodies, marks, ih rest]

end Bodies

section Breaks

variable {env : Environment} {n : Nat} {m m' : Machine}

/-- What is left of a list comes to a break, in itself or in a block or a branch that is run. -/
inductive Breaks (env : Environment) : Nat → List Statement → List Statement → Machine →
    Machine → Prop
  | here {n : Nat} {whole rest : List Statement} {t : Token} {m : Machine} :
    Breaks env (n + 1) whole (.leave t :: rest) m (m.note (.statement (.leave t)))
  | next {n : Nat} {whole rest : List Statement} {s : Statement} {m p m' : Machine}
    (ran : execute env n s (m.note (.statement s)) = (.done .next, p))
    (later : Breaks env n whole rest p m') :
    Breaks env (n + 1) whole (s :: rest) m m'
  | jump {n : Nat} {whole rest after : List Statement} {s : Statement} {label : String}
    {m p m' : Machine}
    (ran : execute env n s (m.note (.statement s)) = (.done (.goto label), p))
    (found : afterLabel? label whole = some after) (later : Breaks env n whole after p m') :
    Breaks env (n + 1) whole (s :: rest) m m'
  | block {n : Nat} {whole rest b : List Statement} {t : Token} {m m' : Machine}
    (inner : Breaks env n b b (m.note (.statement (.block t b))) m') :
    Breaks env (n + 1) whole (.block t b :: rest) m m'
  | branch {n : Nat} {whole rest a b : List Statement} {t : Token} {c : Expression}
    {others : List ElseIf}
    {last : Option (List Statement)} {m p m' : Machine}
    (taken : choice (evaluate env n) last (.mk c a :: others)
      (m.note (.statement (.branch t c a others last))) = (.done (some b), p))
    (inner : Breaks env n b b p m') :
      Breaks env (n + 1) whole (.branch t c a others last :: rest) m m'

theorem callSubroutine_not_leave (body : Runner) (name : String) :
    (callSubroutine env body name).Yields (· ≠ .leave) := by
  unfold callSubroutine
  split
  · exact yields_fail _
  · refine yields_bind fun _ => yields_bind fun flow => ?_
    cases flow with
    | next | leave | value => exact yields_pure nofun
    | goto => exact yields_fail _
    | returned state => cases state <;> exact yields_pure nofun
    | restart | error => exact yields_pure nofun

theorem runCases_not_leave (cs : List Case) :
    (runCases (fun b => runFrom env n b b) cs).Yields (· ≠ .leave) := by
  rintro m flow p ran rfl
  obtain ⟨a, -, stops⟩ := runCases_eq_iff.mp ran
  cases stops with
  | other ran next leave => exact leave rfl

theorem deal_opens {s : Statement} {b : List Statement}
    (h : deal env n s m = (.done (.opens b), m')) :
    (∃ t, s = .block t b ∧ m' = m) ∨ ∃ t c a others last, s = .branch t c a others last ∧
      choice (evaluate env n) last (.mk c a :: others) m = (.done (some b), m') := by
  have simple (h : Run.bind (executeWith env (evaluate env n) (fun b => runFrom env n b b) s)
      (fun flow => pure (Deal.hands flow)) m = (.done (.opens b), m')) : False := by
    obtain ⟨flow, p, -, same⟩ := bind_eq_done h
    cases same
  cases s with
  | block t b' =>
    cases h
    exact .inl ⟨t, rfl, rfl⟩
  | branch t c a others last =>
    obtain ⟨taken, p, ran, same⟩ := bind_eq_done (pinned_eq_done h)
    cases taken with
    | none => cases same
    | some b' =>
      cases same
      exact .inr ⟨t, c, a, others, last, rfl, ran⟩
  | switch t e cases default =>
    obtain ⟨cs, p, -, same⟩ := bind_eq_done (pinned_eq_done h)
    cases cs <;> cases same
  | _ => exact (simple h).elim

theorem execute_eq_leave {s : Statement} (h : execute env n s m = (.done .leave, m')) :
    (∃ t, s = .leave t ∧ m' = m) ∨ ∃ b p, deal env n s m = (.done (.opens b), p) ∧
      runFrom env n b b p = (.done .leave, m') := by
  unfold execute at h
  rw [executeWith_eq] at h
  obtain ⟨d, p, dealt, h⟩ := bind_eq_done h
  cases d with
  | opens b => exact .inr ⟨b, p, dealt, pinned_eq_done h⟩
  -- a switch in the list takes the breaks of its cases, and a call those of the callee
  | enters c later => exact absurd rfl (runCases_not_leave _ _ _ _ (pinned_eq_done h))
  | hands flow =>
    cases h
    cases hands_of_deal dealt with
    | leave t =>
      cases dealt
      exact .inl ⟨t, rfl, rfl⟩
    | called t name flow =>
      obtain ⟨flow, q, ran, same⟩ := bind_eq_done dealt
      cases same
      exact absurd rfl (callSubroutine_not_leave _ _ _ _ _ (pinned_eq_done ran))

theorem runFrom_cons (whole : List Statement) (s : Statement) (rest : List Statement)
    (m : Machine) :
    runFrom env (n + 1) whole (s :: rest) m =
      match execute env n s (m.note (.statement s)) with
      | (.done .next, m) => runFrom env n whole rest m
      | (.done (.goto l), m) =>
        match afterLabel? l whole with
        | some rest => runFrom env n whole rest m
        | none => (.done (.goto l), m)
      | other => other := by
  rw [runFrom]
  rfl

theorem execute_leave_of_opens {s : Statement} {b : List Statement} {p : Machine}
    (dealt : deal env n s m = (.done (.opens b), p))
    (ran : runFrom env n b b p = (.done .leave, m')) :
    execute env n s m = (.done .leave, m') := by
  unfold execute
  rw [executeWith_eq]
  exact (bind_of_done dealt).trans (pinned_of_done s.token ran)

theorem breaks_of_execute {s : Statement} {whole rest : List Statement}
    (inner : ∀ b q, runFrom env n b b q = (.done .leave, m') → Breaks env n b b q m')
    (ran : execute env n s (m.note (.statement s)) = (.done .leave, m')) :
    Breaks env (n + 1) whole (s :: rest) m m' := by
  obtain ⟨t, rfl, rfl⟩ | ⟨b, q, dealt, left⟩ := execute_eq_leave ran
  · exact .here
  · obtain ⟨t, rfl, rfl⟩ | ⟨t, c, a, others, last, rfl, taken⟩ := deal_opens dealt
    · exact .block (inner b _ left)
    · exact .branch taken (inner b q left)

theorem breaks_of_runFrom {whole rest : List Statement}
    (h : runFrom env n whole rest m = (.done .leave, m')) : Breaks env n whole rest m m' := by
  -- on how deep the run may go
  induction n generalizing whole rest m with
  | zero =>
    rw [runFrom] at h
    cases h
  | succ n ih =>
    cases rest with
    | nil =>
      rw [runFrom] at h
      cases h
    | cons s rest =>
      rw [runFrom_cons] at h
      cases ran : execute env n s (m.note (.statement s)) with
      | mk outcome p =>
        rw [ran] at h
        cases outcome with
        | done flow =>
          cases flow with
          | next => exact .next ran (ih h)
          | goto l =>
            dsimp only at h
            split at h
            · exact .jump ran ‹_› (ih h)
            · cases h
          | leave =>
            cases h
            exact breaks_of_execute (fun b q => ih) ran
          | _ => cases h
        | failed f => cases h
        | halted => cases h

theorem runFrom_of_breaks {whole rest : List Statement} (h : Breaks env n whole rest m m') :
    runFrom env n whole rest m = (.done .leave, m') := by
  induction h with
  | here => rfl
  | next ran later ih =>
    rw [runFrom_cons, ran]
    exact ih
  | jump ran found later ih =>
    rw [runFrom_cons, ran]
    simp only [found]
    exact ih
  | @block n whole rest b t m m' inner ih =>
    rw [runFrom_cons, execute_leave_of_opens (s := .block t b) rfl ih]
  | @branch n whole rest a b t c others last m p m' taken inner ih =>
    have dealt : deal env n (.branch t c a others last)
        (m.note (.statement (.branch t c a others last))) = (.done (.opens b), p) :=
      pinned_of_done t (bind_of_done taken)
    rw [runFrom_cons, execute_leave_of_opens dealt ih]

theorem runFrom_leave_iff {whole rest : List Statement} :
    runFrom env n whole rest m = (.done .leave, m') ↔ Breaks env n whole rest m m' :=
  ⟨breaks_of_runFrom, runFrom_of_breaks⟩

end Breaks

section Semantics

variable {env : Environment} {n : Nat} {t : Token} {e : Expression} {cases : List Case}
    {default : Option Nat}
  {m m' : Machine} {v : Value}

theorem runFrom_located {whole rest : List Statement} {f : Failure}
    (h : runFrom env n whole rest m = (.failed f, m')) :
    f.token.isSome = true := by
  have lands : Control.Lands env (.running [⟨whole, rest, .plain⟩], m) (Control.exit .plain · [])
      (runFrom env n whole rest m) := Control.runFrom_lands ..
  rw [h] at lands
  exact lands.1

theorem runCases_located {cs : List Case} {f : Failure}
    (h : runCases (fun b => runFrom env n b b) cs m = (.failed f, m')) : f.token.isSome = true := by
  obtain ⟨a, -, stops⟩ := runCases_eq_iff.mp h
  cases stops with
  | other ran => exact runFrom_located ran

theorem execute_switch {new : Captures} {cs : List Case}
    (control : evaluate env n e m = (.done v, m'))
    (h : Selects v.text cases default m'.context.captures new cs) :
    execute env n (.switch t e cases default) m = runCases (fun b => runFrom env n b b) cs
      (m'.withGroups new) := by
  have all : switch (evaluate env n) (fun b => runFrom env n b b) e cases default m =
      runCases (fun b => runFrom env n b b) cs (m'.withGroups new) := by
    rw [switch_eq]
    exact bind_of_done (chosen_of_selects control h)
  show pinned t (switch (evaluate env n) (fun b => runFrom env n b b) e cases default) m = _
  cases ran : runCases (fun b => runFrom env n b b) cs (m'.withGroups new) with
  | mk outcome p =>
    rw [ran] at all
    cases outcome with
    -- the failure of a body has its place already
    | failed f => rw [pinned_of_failed t all, Failure.pin_of_isSome t (runCases_located ran)]
    | _ =>
      unfold pinned
      rw [all]

theorem execute_switch_unreadable {before after : List Case} {c : Case} {err : ValueError}
    (control : evaluate env n e m = (.done v, m')) (missed : ∀ b ∈ before, b.Misses v.text)
    (unread : c.Unreadable err) :
    execute env n (.switch t e (before ++ c :: after) default) m =
      (.failed (.located c.token (.of err)), m') := by
  have failed :
      casesFrom v.text (before ++ c :: after) m' = (.failed (.located c.token (.of err)), m') := by
    rw [casesFrom_append missed, casesFrom]
    exact bind_of_failed (takes_of_unreadable unread m')
  have all : switch (evaluate env n) (fun b => runFrom env n b b) e (before ++ c :: after)
      default m =
      (.failed (.located c.token (.of err)), m') := by
    unfold switch
    rw [bind_of_done control]
    exact bind_of_failed failed
  exact pinned_of_failed t all

/-- Once the control of a switch has its value, the tests are taken in order up to the first that
takes its text, which may set the groups. The bodies run from that case on, or else from the default
on; what comes after the tests does not depend on later ones. A body ends with a break exactly if it
comes to a break by itself or in blocks and branches. -/
theorem switch_runs (control : evaluate env n e m = (.done v, m')) :
    let old := m'.context.captures
    let run := execute env n (.switch t e cases default) m
    ((∃ new cs, Selects v.text cases default old new cs) ∨
      ∃ (before : List Case) (c : Case) (after : List Case), cases = before ++ c :: after ∧
        (∀ b ∈ before, b.Misses v.text) ∧
          ∃ err : ValueError, c.Unreadable err ∧ run = (.failed (.located c.token (.of err)), m')) ∧
    (∀ new cs, Selects v.text cases default old new cs → ∀ r, run = r ↔
      Comes env n cs (m'.withGroups new) r) ∧
    (∀ (before : List Case) (c : Case) (after after' : List Case) (default' : Option Nat)
      (new : Captures), cases = before ++ c :: after → (∀ b ∈ before, b.Misses v.text) →
      c.Hits v.text old new →
        after'.map (fun c => (c.body, c.fallthrough)) =
          after.map (fun c => (c.body, c.fallthrough)) →
          execute env n (.switch t e (before ++ c :: after') default') m = run) ∧
    ((∀ c ∈ cases, c.Misses v.text) → (∀ i, default = some i → cases.length ≤ i) →
      run = (.done .next, m')) ∧
    ∀ k b p q, runFrom env k b b p = (.done .leave, q) ↔ Breaks env k b b p q := by
  intro old run
  refine ⟨?_, fun new cs selects r => ?_, ?_, fun missed beyond => ?_,
    fun k b p q => runFrom_leave_iff⟩
  · rcases selects_or_unreadable v.text cases default old with selects
      | ⟨before, c, after, rfl, missed, err, unread⟩
    · exact .inl selects
    · exact .inr ⟨before, c, after, rfl, missed, err, unread,
        execute_switch_unreadable control missed unread⟩
  · show execute env n (.switch t e cases default) m = r ↔ _
    rw [execute_switch control selects]
    exact runCases_eq_iff
  · rintro before c after after' default' new stands missed hits same
    show _ = execute env n (.switch t e cases default) m
    rw [execute_switch control (.hit rfl missed hits),
      execute_switch control (.hit stands missed hits)]
    refine congrFun (runCases_congr ?_) _
    rw [List.map_cons, List.map_cons, same]
  · show execute env n (.switch t e cases default) m = _
    cases given : default with
    | none =>
      rw [execute_switch control (.nothing missed rfl)]
      rfl
    | some i =>
      rw [execute_switch control (.default missed rfl), List.drop_eq_nil_of_le (beyond i given)]
      rfl

def threeCases : List Case := [
  .mk .unknown (some (.equal "/a")) [
    .log .unknown (.string .unknown "exact"),
    .branch .unknown (.boolean .unknown true) [.block .unknown [.leave .unknown]] [] none,
    .log .unknown (.string .unknown "behind")] true,
  .mk .unknown (some (.regex "^/(b)")) [
    .switch .unknown (.string .unknown "") [.mk .unknown none [.leave .unknown] false] (some 0),
    .log .unknown (.string .unknown "prefix")] true,
  .mk .unknown none [.log .unknown (.ident .unknown "re.group.1")] false]

def threeCasesStart : Machine := .start (.start searching .empty .loopback 0 (.ofSeed 0))

theorem switch_runs_three :
    let run (text : String) :=
      execute searching 9 (.switch .unknown (.string .unknown text) threeCases (some 2))
        threeCasesStart
    (Comes searching 9 (threeCases.drop 1) (threeCasesStart.withGroups ⟨["/b", "b"]⟩) (run "/b/c") ∧
        (run "/b/c").2.logs = ["prefix", "b"]) ∧
      (∃ c later, Comes searching 9 (c :: later) threeCasesStart (run "/a") ∧
        ∃ p, Breaks searching 9 c.body c.body threeCasesStart p) ∧
        (run "/a").2.logs = ["exact"] := by
  intro run
  have value (text : String) : evaluate searching 9 (.string .unknown text) threeCasesStart =
      (.done (Value.ofString text).asLiteral, threeCasesStart) := rfl
  obtain ⟨-, second, -⟩ :=
    @switch_runs searching 9 .unknown _ threeCases (some 2) _ _ _ (value "/b/c")
  obtain ⟨-, first, -, -, breaks⟩ :=
    @switch_runs searching 9 .unknown _ threeCases (some 2) _ _ _ (value "/a")
  have hitsSecond :
      Selects "/b/c" threeCases (some 2) threeCasesStart.context.captures ⟨["/b", "b"]⟩
      (threeCases.drop 1) :=
    .hit (show threeCases = threeCases.take 1 ++ _ :: _ from rfl)
      (List.forall_mem_singleton.mpr (.text rfl (by decide)))
      (.pattern rfl rfl (by decide +kernel))
  have hitsFirst : Selects "/a" threeCases (some 2) threeCasesStart.context.captures _ _ :=
    .hit (show threeCases = [] ++ _ :: _ from rfl) (fun _ h => nomatch h) (.text rfl)
  refine ⟨⟨(second _ _ hitsSecond _).mp rfl, by decide +kernel⟩,
    ⟨_, _, (first _ _ hitsFirst _).mp rfl, ?_⟩, ?_⟩
  · exact ⟨_, (breaks _ _ _ _).mp rfl⟩
  · decide +kernel

end Semantics

end Run

end EdgeCache
