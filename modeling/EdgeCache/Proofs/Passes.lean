import EdgeCache.Lifecycle.Stages
import EdgeCache.Proofs.Discipline
import Mathlib.Data.List.Basic

/-! The stages that a request visits. In one pass they come in a fixed order, each at most once, and
a pass that ends in a restart is followed by another one only as long as the limit allows it. -/

namespace EdgeCache

structure Visit where
  scope : Scope
  restarts : Nat
  deriving DecidableEq

namespace Mark

def visit? : Mark → Option Visit
  | .event (.stage s n) => some ⟨s, n⟩
  | _ => none

def IsInner : Mark → Prop
  | .statement _ | .transfer .. | .search .. => True
  | .event _ | .again => False

theorem IsInner.visit? {k : Mark} (h : k.IsInner) : k.visit? = none := by
  cases k <;> first | rfl | cases h

end Mark

def passesFrom (pass : List Visit) : List Mark → List (List Visit)
  | [] => [pass]
  | .again :: ks => pass :: passesFrom [] ks
  | k :: ks => passesFrom (pass ++ k.visit?.toList) ks

def passes (history : List Mark) : List (List Visit) := passesFrom [] history

theorem passesFrom_append {marks : List Mark} (h : .again ∉ marks) (pass : List Visit)
    (rest : List Mark) :
    passesFrom pass (marks ++ rest) = passesFrom (pass ++ marks.filterMap Mark.visit?) rest := by
  induction marks generalizing pass with
  | nil => rw [List.filterMap_nil, List.append_nil, List.nil_append]
  | cons k ks ih =>
    obtain ⟨hk, hks⟩ : .again ≠ k ∧ .again ∉ ks := by simpa only [List.mem_cons, not_or] using h
    have step : passesFrom pass (k :: (ks ++ rest)) =
        passesFrom (pass ++ k.visit?.toList) (ks ++ rest) := by
      cases k <;> first | rfl | exact absurd rfl hk
    rw [List.cons_append, step, ih hks, List.append_assoc]
    cases hv : k.visit? <;> simp [hv]

theorem passes_of_no_again {marks : List Mark} (h : .again ∉ marks) :
    passes marks = [marks.filterMap Mark.visit?] := by
  have := passesFrom_append h [] []
  rwa [List.append_nil] at this

theorem passes_again {marks : List Mark} (h : .again ∉ marks) (rest : List Mark) :
    passes (marks ++ .again :: rest) = marks.filterMap Mark.visit? :: passes rest :=
  passesFrom_append h [] (.again :: rest)

namespace Lifecycle

structure Leg (scopes : List Scope) (m n : Machine) : Prop where
  restarts : n.context.restarts = m.context.restarts
  marks : ∃ marks, n.history = m.history ++ marks ∧ .again ∉ marks ∧
    marks.filterMap Mark.visit? = scopes.map (⟨·, m.context.restarts⟩)

namespace Leg

variable {m n p : Machine}

theorem of_grows (hr : n.context.restarts = m.context.restarts)
    (h : Machine.Grows Mark.IsInner m n) : Leg [] m n := by
  obtain ⟨marks, hm, hk⟩ := h
  refine ⟨hr, marks, hm, fun ha => hk _ ha, ?_⟩
  exact List.filterMap_eq_nil_iff.mpr fun k hmem => (hk k hmem).visit?

theorem of_context {c : Context} (h : c.restarts = m.context.restarts) :
    Leg [] m { m with context := c } :=
  ⟨h, [], (List.append_nil _).symm, List.not_mem_nil, rfl⟩

theorem stage (m : Machine) (s : Scope) : Leg [s] m (m.record (.stage s m.context.restarts)) :=
  ⟨rfl, [.event (.stage s m.context.restarts)], m.history_note _, by simp, rfl⟩

theorem fetch (m : Machine) (b : Option Backend) (r : Request) :
    Leg [] m (m.record (.fetch b r m.context.restarts)) :=
  ⟨rfl, [.event (.fetch b r m.context.restarts)], m.history_note _, by simp, rfl⟩

theorem trans {a b : List Scope} (h : Leg a m n) (h' : Leg b n p) : Leg (a ++ b) m p := by
  obtain ⟨marks, hm, ha, hv⟩ := h.marks
  obtain ⟨marks', hn, ha', hv'⟩ := h'.marks
  refine ⟨h'.restarts.trans h.restarts, marks ++ marks', ?_, ?_, ?_⟩
  · rw [hn, hm, List.append_assoc]
  · exact fun hk => (List.mem_append.mp hk).elim ha ha'
  · rw [List.filterMap_append, hv, hv', h.restarts, List.map_append]

end Leg

def inside (env : Environment) : Discipline env where
  run m _ n := n.context.settled = m.context.settled ∧ Machine.Grows Mark.IsInner m n
  refl m := ⟨rfl, .refl m⟩
  trans h h' := ⟨h'.1.trans h.1, h.2.trans h'.2⟩
  scope h := Context.scope_eq_of_settled h.1
  act h := ⟨h.settled, h.grows (fun _ => trivial) fun _ _ => trivial⟩
  restart _ := ⟨rfl, .note trivial⟩
  error _ _ _ := ⟨rfl, .note trivial⟩
  framed _ h := ⟨h.1, h.2⟩

/-- The run of some stage's subroutine halted, and this is the machine that it left. -/
def StageHalts (env : Environment) (h : Halt) (n : Machine) : Prop :=
  ∃ s m, Run.subroutine env (Scope.subroutine s) s m = (.halted h, n)

variable {env : Environment}

theorem noteState_restarts (e : Ending) (c : Context) : (noteState e c).restarts = c.restarts := by
  cases e <;> rfl

def VisitVerdict (env : Environment) (s : Scope) (m : Machine) : Outcome Ending × Machine → Prop
  | (.done _, n) => Leg [s] m n
  | (.failed f, n) => Leg [s] m n ∧ f.cause.isLocal = true
  | (.halted h, n) => Leg [s] m n ∧ StageHalts env h n

theorem visit_verdict (env : Environment) (s : Scope) (m : Machine) :
    VisitVerdict env s m (visit env s m) := by
  let start := m.record (.stage s m.context.restarts)
  have ran := Discipline.subroutine_verdict (d := inside env) s.subroutine s start
  have through {e n} (h : (inside env).run (start.atStage s) e n) : Leg [s] m n := by
    have hr := Context.restarts_eq_of_settled h.1
    exact (Leg.stage m s).trans (.of_grows hr h.2)
  show VisitVerdict env s m (Run.bind (Run.subroutine env s.subroutine s) (fun e =>
      Run.bind (Run.modifyContext (noteState e)) fun _ => Run.pure e) start)
  unfold Run.bind
  generalize hr : Run.subroutine env s.subroutine s start = r at ran
  rcases r with ⟨e | f | _, n⟩
  · obtain ⟨p, hp, rfl⟩ := ran
    have noted : Leg [] p { p with context := noteState e (p.ended e).context } :=
      .of_context (noteState_restarts e _)
    exact (through hp).trans noted
  · exact ⟨through ran.2, ran.1⟩
  · exact ⟨through ran, s, start, hr⟩

/-- A part of a round visited some stages, and the last stage exactly if it completed the round. -/
structure Walk (env : Environment) (scopes : List Scope) (m : Machine)
    (r : Outcome Turn × Machine) :
    Prop where
  leg : Leg scopes m r.2
  log : ∀ t, r.1 = .done t → (.log ∈ scopes ↔ t = .completed)
  failed : ∀ f limit, r.1 = .failed f → f.cause ≠ .tooManyRestarts limit
  halted : ∀ h, r.1 = .halted h → StageHalts env h r.2

namespace Walk

variable {scopes : List Scope} {m n : Machine}

theorem of_done {t : Turn} (leg : Leg scopes m n) (log : .log ∈ scopes ↔ t = .completed) :
    Walk env scopes m (.done t, n) :=
  ⟨leg, fun _ ht => Outcome.done.inj ht ▸ log, fun _ _ hf => (nomatch hf), fun _ h => (nomatch h)⟩

theorem of_failed {f : Failure} (leg : Leg scopes m n)
    (h : ∀ limit, f.cause ≠ .tooManyRestarts limit) :
    Walk env scopes m (.failed f, n) :=
  ⟨leg, fun _ ht => (nomatch ht), fun _ limit hf => Outcome.failed.inj hf ▸ h limit,
    fun _ h => (nomatch h)⟩

theorem of_halted {h : Halt} (leg : Leg scopes m n) (halts : StageHalts env h n) :
    Walk env scopes m (.halted h, n) :=
  ⟨leg, fun _ ht => (nomatch ht), fun _ _ hf => (nomatch hf),
    fun _ same => by cases same; exact halts⟩

theorem after {r : Outcome Turn × Machine} (h : Leg [] m n) (w : Walk env scopes n r) :
    Walk env scopes m r :=
  ⟨h.trans w.leg, w.log, w.failed, w.halted⟩

end Walk

/-- A run that visits no stage, ends, and never fails with the limit on restarts. -/
structure Still {α : Type} (x : Run α) : Prop where
  leg : ∀ m, Leg [] m (x m).2
  failed : ∀ m f limit, (x m).1 = .failed f → f.cause ≠ .tooManyRestarts limit
  ends : ∀ m h, (x m).1 ≠ .halted h

structure Walks (env : Environment) (order : List Scope) (x : Run Turn) : Prop where
  walk : ∀ m, ∃ scopes, scopes.Sublist order ∧ Walk env scopes m (x m)

theorem not_tooManyRestarts {c : Cause} (h : c.isLocal = true) (limit : Nat) :
    c ≠ .tooManyRestarts limit := by
  rintro rfl
  cases h

structure Begins (env : Environment) (s : Scope) (order : List Scope) (x : Run Turn) : Prop where
  walk : ∀ m, ∃ rest, rest.Sublist order ∧ Walk env (s :: rest) m (x m)

namespace Begins

variable {s : Scope} {order : List Scope}

theorem of_visited {f : Ending → Run Turn} (ended : ∀ {m n} e, Leg [s] m n →
    ∃ rest, rest.Sublist order ∧ Walk env (s :: rest) m (f e n)) :
    Begins env s order (Lifecycle.visit env s >>= f) := by
  refine ⟨fun m => ?_⟩
  have visited := visit_verdict env s m
  show ∃ rest, rest.Sublist order ∧ Walk env (s :: rest) m (Run.bind (Lifecycle.visit env s) f m)
  unfold Run.bind
  generalize Lifecycle.visit env s m = r at visited
  rcases r with ⟨e | g | _, n⟩
  · exact ended e visited
  · exact ⟨[], List.nil_sublist _, .of_failed visited.1 (not_tooManyRestarts visited.2)⟩
  · exact ⟨[], List.nil_sublist _, .of_halted visited.1 visited.2⟩

theorem visit (hs : s ≠ .log) {f : Ending → Run Turn} (w : ∀ e, Walks env order (f e)) :
    Begins env s order (Lifecycle.visit env s >>= f) := by
  refine of_visited fun {m n} e visited => ?_
  obtain ⟨rest, hrest, hw⟩ := (w e).walk n
  refine ⟨rest, hrest, visited.trans hw.leg, fun t ht => ?_, hw.failed, hw.halted⟩
  -- this is not the last stage, so that one is among the rest or not visited
  rw [← hw.log t ht]
  exact List.mem_cons.trans (or_iff_right hs.symm)

theorem modifyContext (f : Context → Context) (hf : ∀ c, (f c).restarts = c.restarts) {x : Run Turn}
    (w : Begins env s order x) : Begins env s order (Run.modifyContext f >>= fun _ => x) := by
  refine ⟨fun m => ?_⟩
  obtain ⟨rest, hrest, hw⟩ := w.walk { m with context := f m.context }
  exact ⟨rest, hrest, hw.after (.of_context (hf m.context))⟩

theorem walks {x : Run Turn} (w : Begins env s order x) : Walks env (s :: order) x := by
  refine ⟨fun m => ?_⟩
  obtain ⟨rest, hrest, hw⟩ := w.walk m
  exact ⟨s :: rest, hrest.cons_cons s, hw⟩

end Begins

namespace Walks

variable {order : List Scope} {x : Run Turn}

theorem mono {order' : List Scope} (w : Walks env order x) (h : order.Sublist order') :
    Walks env order' x := by
  refine ⟨fun m => ?_⟩
  obtain ⟨scopes, hs, hw⟩ := w.walk m
  exact ⟨scopes, hs.trans h, hw⟩

theorem restart : Walks env order (pure .restart) :=
  ⟨fun _ => ⟨[], List.nil_sublist _, .of_done (.of_context rfl) (by simp)⟩⟩

theorem raise {c : Cause} (h : ∀ limit, c ≠ .tooManyRestarts limit) :
    Walks env order (Run.raise c) :=
  ⟨fun _ => ⟨[], List.nil_sublist _, .of_failed (.of_context rfl) h⟩⟩

theorem after {α : Type} {y : Run α} {f : α → Run Turn} (hy : Still y)
    (w : ∀ a, Walks env order (f a)) : Walks env order (y >>= f) := by
  refine ⟨fun m => ?_⟩
  have leg := hy.leg m
  have failed := hy.failed m
  have ends := hy.ends m
  show ∃ scopes, scopes.Sublist order ∧ Walk env scopes m (Run.bind y f m)
  unfold Run.bind
  generalize y m = r at leg failed ends
  rcases r with ⟨a | g | h, n⟩
  · obtain ⟨scopes, hs, hw⟩ := (w a).walk n
    exact ⟨scopes, hs, hw.after leg⟩
  · exact ⟨[], List.nil_sublist _, .of_failed leg fun limit => failed g limit rfl⟩
  · exact absurd rfl (ends h)

theorem visit {s : Scope} (hs : s ≠ .log) {f : Ending → Run Turn} (w : ∀ e, Walks env order (f e)) :
    Walks env (s :: order) (visit env s >>= f) :=
  (Begins.visit hs w).walks

end Walks

theorem modifyContext_still {f : Context → Context} (hf : ∀ c, (f c).restarts = c.restarts) :
    Still (Run.modifyContext f) :=
  ⟨fun m => .of_context (hf m.context), fun _ _ _ h => (nomatch h), fun _ _ h => (nomatch h)⟩

theorem pickBackend_restarts (c : Context) : (pickBackend env c).2.restarts = c.restarts := by
  unfold pickBackend Director.selectFor
  split
  · rfl
  · split
    · rfl
    · dsimp only
      split <;> rfl

theorem originFailure_ne (c : Cause) (limit : Nat) : originFailure c ≠ .tooManyRestarts limit := by
  cases c <;> exact nofun

theorem ask_still (origin : Origin) (backend : Option Backend) : Still (ask origin backend) := by
  have asked (m : Machine) : Leg [] m (ask origin backend m).2 := by
    unfold ask
    dsimp only
    split <;> exact .fetch m backend _
  refine ⟨asked, fun m f limit h => ?_, fun m _ h => ?_⟩
  all_goals
    unfold ask at h
    dsimp only at h
    split at h <;> cases h
  exact originFailure_ne _ limit

theorem discard_bind {α β : Type} (x : Run α) (f : Unit → Run β) :
    (discard x >>= f) = x >>= fun _ => f () := by
  funext m
  show Run.bind (Run.bind x fun _ => Run.pure ()) f m = Run.bind x (fun _ => f ()) m
  unfold Run.bind
  generalize x m = r
  rcases r with ⟨a | g | _, n⟩ <;> rfl

theorem finish_walks : Walks env [.log] (finish env) := by
  unfold finish
  rw [discard_bind]
  refine (Begins.of_visited fun _ visited => ?_).walks
  exact ⟨[], .refl _, .of_done visited (by simp)⟩

theorem deliver_walks (respond : Context → Context) (hr : ∀ c, (respond c).restarts = c.restarts) :
    Walks env [.deliver, .log] (deliver env respond) := by
  refine .after (modifyContext_still fun c => hr _) fun _ => .visit (by decide) fun e => ?_
  split
  · exact .restart
  · exact finish_walks

theorem handleError_walks : Walks env [.error, .deliver, .log] (handleError env) := by
  refine .after (modifyContext_still fun _ => rfl) fun _ => .visit (by decide) fun e => ?_
  split
  · exact .restart
  · exact deliver_walks respondWithObject fun _ => rfl

theorem fetched_walks : Walks env [.fetch, .error, .deliver, .log] (fetched env) := by
  refine .visit (by decide) fun e => ?_
  split
  · exact handleError_walks
  · exact handleError_walks
  · exact .restart
  · exact (deliver_walks respondWithFetched fun _ => rfl).mono (by decide)

theorem fetch_walks (origin : Origin) :
    Walks env [.fetch, .error, .deliver, .log] (fetch env origin) := by
  have picks : Still (fun m => (Outcome.done (pickBackend env m.context).1,
      { m with context := (pickBackend env m.context).2 })) :=
    ⟨fun m => .of_context (pickBackend_restarts m.context), fun _ _ _ h => (nomatch h),
      fun _ _ h => (nomatch h)⟩
  refine .after (modifyContext_still fun _ => rfl) fun _ => .after picks fun picked => ?_
  split
  · exact .raise fun limit => nofun
  · refine .after (modifyContext_still fun _ => rfl) fun _ => ?_
    exact handleError_walks.mono (by decide)
  · rename_i backend
    refine .after (ask_still origin backend) fun response => ?_
    exact .after (modifyContext_still fun _ => rfl) fun _ => fetched_walks

theorem pass_walks (origin : Origin) :
    Walks env [.pass, .fetch, .error, .deliver, .log] (pass env origin) := by
  refine .after (modifyContext_still fun _ => rfl) fun _ => .visit (by decide) fun e => ?_
  split
  · exact handleError_walks.mono (by decide)
  · exact handleError_walks.mono (by decide)
  · exact .restart
  · exact fetch_walks origin

theorem miss_walks (origin : Origin) :
    Walks env [.miss, .pass, .fetch, .error, .deliver, .log] (miss env origin) := by
  refine .after (modifyContext_still fun _ => rfl) fun _ => .visit (by decide) fun e => ?_
  split
  · exact pass_walks origin
  · exact handleError_walks.mono (by decide)
  · exact handleError_walks.mono (by decide)
  · exact (deliver_walks respondWithFetched fun _ => rfl).mono (by decide)
  · exact .restart
  · exact (fetch_walks origin).mono (by decide)

theorem fillHash_restarts (c : Context) : (fillHash c).restarts = c.restarts := by
  unfold fillHash
  split <;> rfl

theorem lookUp_walks (origin : Origin) :
    Walks env [.hash, .miss, .pass, .fetch, .error, .deliver, .log] (lookUp env origin) := by
  refine .after (modifyContext_still fun _ => rfl) fun _ => ?_
  rw [discard_bind]
  refine .visit (by decide) fun _ => ?_
  exact .after (modifyContext_still fillHash_restarts) fun _ => miss_walks origin

theorem round_begins (env : Environment) (origin : Origin) :
    Begins env .recv [.hash, .miss, .pass, .fetch, .error, .deliver, .log] (round env origin) := by
  refine .modifyContext (withState "RECV") (fun _ => rfl) ?_
  refine .visit (by decide) fun e => ?_
  split
  · refine .after (modifyContext_still fun _ => rfl) fun _ => ?_
    exact (pass_walks origin).mono (by decide)
  · exact handleError_walks.mono (by decide)
  · exact handleError_walks.mono (by decide)
  · exact .restart
  · exact lookUp_walks origin

/-- The stages in the order in which a pass visits them. Nothing is stored, so there is no hit. -/
def stageOrder : List Scope := [.recv, .hash, .miss, .pass, .fetch, .error, .deliver, .log]

structure IsPass (restarts : Nat) (p : List Visit) : Prop where
  order : (p.map Visit.scope).Sublist stageOrder
  begins : (p.map Visit.scope).head? = some .recv
  counted : ∀ v ∈ p, v.restarts = restarts

/-- What is known of the passes of a request with so many restarts left, of which it had
`restarts`. -/
structure Passed (env : Environment) (left restarts : Nat) (ps : List (List Visit))
    (r : Outcome Unit × Machine) : Prop where
  pass : ∀ i p, ps[i]? = some p → IsPass (restarts + i) p
  count : r.2.context.restarts + 1 = restarts + ps.length
  bounded : ps.length ≤ left + 1
  log : r.1 = .done () → ps.flatten.getLast? = some ⟨.log, r.2.context.restarts⟩ ∧
    ps.flatten.countP (·.scope = .log) = 1
  tooMany : ∀ f limit, r.1 = .failed f → f.cause = .tooManyRestarts limit → ps.length = left + 1
  halted : ∀ h, r.1 = .halted h → StageHalts env h r.2

theorem isPass_of_sublist {rest : List Scope} (restarts : Nat)
    (h : rest.Sublist [.hash, .miss, .pass, .fetch, .error, .deliver, .log]) :
    IsPass restarts ((Scope.recv :: rest).map (⟨·, restarts⟩)) := by
  have scopes : ((Scope.recv :: rest).map (Visit.mk · restarts)).map Visit.scope =
      .recv :: rest := by
    rw [List.map_map]
    exact List.map_id _
  refine ⟨?_, ?_, fun v hv => ?_⟩
  · rw [scopes]
    exact h.cons_cons .recv
  · rw [scopes]
    rfl
  · obtain ⟨s, -, rfl⟩ := List.mem_map.mp hv
    rfl

theorem log_of_sublist {scopes : List Scope} (h : scopes.Sublist stageOrder)
    (hlog : .log ∈ scopes) :
    scopes.getLast? = some .log ∧ scopes.count .log = 1 := by
  have split : stageOrder = [.recv, .hash, .miss, .pass, .fetch, .error, .deliver] ++ [.log] := rfl
  rw [split] at h
  obtain ⟨front, last, rfl, hfront, hlast⟩ := List.sublist_append_iff.mp h
  have absent : .log ∉ front := fun hf => absurd (hfront.subset hf) (by decide)
  rcases List.sublist_singleton.mp hlast with rfl | rfl
  · exact absurd ((List.append_nil front) ▸ hlog) absent
  · refine ⟨List.getLast?_concat, ?_⟩
    rw [List.count_append, List.count_eq_zero.mpr absent]
    rfl

namespace Passed

variable {left restarts : Nat} {p : List Visit} {ps : List (List Visit)}

theorem cons {r : Outcome Unit × Machine} (hp : IsPass restarts p) (hlog : ∀ v ∈ p, v.scope ≠ .log)
    (h : Passed env left (restarts + 1) ps r) : Passed env (left + 1) restarts (p :: ps) r := by
  refine ⟨fun i q hq => ?_, ?_, ?_, fun hr => ?_, fun f limit hf hc => ?_, h.halted⟩
  · cases i with
    | zero => cases hq; exact hp
    | succ i => simpa only [Nat.add_assoc, Nat.add_comm 1] using h.pass i q hq
  · rw [h.count, List.length_cons]
    omega
  · rw [List.length_cons]
    exact Nat.succ_le_succ h.bounded
  · obtain ⟨last, count⟩ := h.log hr
    rw [List.flatten_cons]
    refine ⟨?_, ?_⟩
    · rw [List.getLast?_append, last]
      rfl
    · rw [List.countP_append, count]
      rw [List.countP_eq_zero.mpr fun v hv => by simpa using hlog v hv]
  · rw [List.length_cons, h.tooMany f limit hf hc]

theorem last {r : Outcome Unit × Machine} (hp : IsPass restarts p)
    (hr : r.2.context.restarts = restarts)
    (log : r.1 = .done () → .log ∈ p.map Visit.scope)
    (tooMany : ∀ f limit, r.1 = .failed f → f.cause = .tooManyRestarts limit → left = 0)
    (halted : ∀ h, r.1 = .halted h → StageHalts env h r.2) : Passed env left restarts [p] r := by
  refine ⟨fun i q hq => ?_, by rw [hr]; rfl, ?_, fun h => ?_, fun f limit hf hc => ?_, halted⟩
  · cases i with
    | zero => cases hq; exact hp
    | succ i => cases hq
  · exact Nat.succ_le_succ (Nat.zero_le left)
  · obtain ⟨last, count⟩ := log_of_sublist hp.order (log h)
    rw [List.flatten_singleton]
    rw [List.getLast?_map] at last
    obtain ⟨⟨s, n⟩, hv, rfl⟩ := Option.map_eq_some_iff.mp last
    obtain rfl : n = restarts := hp.counted _ (List.mem_of_getLast? hv)
    refine ⟨by rw [hv, hr], ?_⟩
    rw [List.count, List.countP_map] at count
    exact count
  · rw [tooMany f limit hf hc]
    rfl

theorem of_walk {m n : Machine} {t : Outcome Turn} {o : Outcome Unit}
    (w : Walk env (p.map Visit.scope) m (t, n)) (hp : IsPass m.context.restarts p)
    (done : o = .done () → t = .done .completed) (failed : ∀ f, o = .failed f → t = .failed f)
    (halted : ∀ h, o = .halted h → t = .halted h) :
    Passed env left m.context.restarts [p] (o, n) := by
  refine last hp w.leg.restarts (fun h => ?_) (fun f limit hf hc => ?_) fun h hh => ?_
  · exact (w.log _ (done h)).mpr rfl
  · exact absurd hc (w.failed f limit (failed f hf))
  · exact w.halted h (halted h hh)

end Passed

theorem round_pass (env : Environment) (origin : Origin) (m : Machine) : ∃ marks,
    (round env origin m).2.history = m.history ++ marks ∧ .again ∉ marks ∧
    IsPass m.context.restarts (marks.filterMap Mark.visit?) ∧
    Walk env ((marks.filterMap Mark.visit?).map Visit.scope) m (round env origin m) := by
  obtain ⟨rest, hrest, w⟩ := (round_begins env origin).walk m
  obtain ⟨marks, hm, ha, hv⟩ := w.leg.marks
  have scopes : (marks.filterMap Mark.visit?).map Visit.scope = .recv :: rest := by
    rw [hv, List.map_map]
    exact List.map_id _
  refine ⟨marks, hm, ha, ?_, ?_⟩
  · rw [hv]
    exact isPass_of_sublist _ hrest
  · rw [scopes]
    exact w

def startOver (m : Machine) : Machine :=
  { m.note .again with context := m.context.prepareRestart }

theorem rounds_eq (origin : Origin) (left : Nat) (m : Machine) : rounds env origin left m =
    match round env origin m, left with
    | (.done .completed, n), _ => (.done (), n)
    | (.done .restart, n), 0 => (.failed (.of (.tooManyRestarts env.config.maxRestarts)), n)
    | (.done .restart, n), left + 1 => rounds env origin left (startOver n)
    | (.failed f, n), _ => (.failed f, n)
    | (.halted h, n), _ => (.halted h, n) := by
  cases left
  all_goals
    show Run.bind (round env origin) _ m = _
    unfold Run.bind
    generalize round env origin m = r
    rcases r with ⟨(_ | _) | f | _, n⟩ <;> rfl

theorem rounds_passed (env : Environment) (origin : Origin) (left : Nat) (m : Machine) :
    ∃ marks, (rounds env origin left m).2.history = m.history ++ marks ∧
      Passed env left m.context.restarts (passes marks) (rounds env origin left m) := by
  -- on the restarts that are left
  induction left generalizing m with
  | zero =>
    obtain ⟨marks, hm, ha, hp, w⟩ := round_pass env origin m
    refine ⟨marks, ?_⟩
    rw [rounds_eq, passes_of_no_again ha]
    generalize round env origin m = r at hm w
    rcases r with ⟨(_ | _) | f | _, n⟩ <;> dsimp only at hm ⊢
    · exact ⟨hm, .of_walk w hp (fun _ => rfl) (fun _ h => (nomatch h)) fun _ h => (nomatch h)⟩
    · exact ⟨hm, .last hp w.leg.restarts (fun h => (nomatch h)) (fun _ _ _ _ => rfl) fun _ h =>
        (nomatch h)⟩
    · exact ⟨hm, .of_walk w hp (fun h => (nomatch h)) (fun _ h => by cases h; rfl) fun _ h =>
        (nomatch h)⟩
    · exact ⟨hm, .of_walk w hp (fun h => (nomatch h)) (fun _ h => (nomatch h)) fun _ h =>
        by cases h; rfl⟩
  | succ left ih =>
    obtain ⟨marks, hm, ha, hp, w⟩ := round_pass env origin m
    rw [rounds_eq]
    generalize round env origin m = r at hm w
    rcases r with ⟨(_ | _) | f | _, n⟩ <;> dsimp only at hm ⊢
    · refine ⟨marks, hm, ?_⟩
      rw [passes_of_no_again ha]
      exact .of_walk w hp (fun _ => rfl) (fun _ h => (nomatch h)) fun _ h => (nomatch h)
    · -- the marks of this round make the first pass, those of the rounds that follow the others
      obtain ⟨marks', hm', passed⟩ := ih (startOver n)
      have again : (startOver n).history = n.history ++ [.again] := n.history_note .again
      have restarted : (startOver n).context.restarts = m.context.restarts + 1 :=
        congrArg (· + 1) w.leg.restarts
      refine ⟨marks ++ .again :: marks', ?_, ?_⟩
      · rw [hm', again, hm]
        simp only [List.append_assoc, List.singleton_append]
      · rw [passes_again ha]
        rw [restarted] at passed
        -- a round that restarts has not come to the last stage
        refine .cons hp (fun v hv hs => ?_) passed
        have visited := (w.log .restart rfl).mp (List.mem_map.mpr ⟨v, hv, hs⟩)
        cases visited
    · refine ⟨marks, hm, ?_⟩
      rw [passes_of_no_again ha]
      exact .of_walk w hp (fun h => (nomatch h)) (fun _ h => by cases h; rfl) fun _ h => (nomatch h)
    · refine ⟨marks, hm, ?_⟩
      rw [passes_of_no_again ha]
      exact .of_walk w hp (fun h => (nomatch h)) (fun _ h => (nomatch h)) fun _ h => by cases h; rfl

theorem IsPass.length_le {restarts : Nat} {p : List Visit} (h : IsPass restarts p) :
    p.length ≤ 8 := by
  have := h.order.length_le
  rwa [List.length_map] at this

theorem flatten_length_le {ps : List (List Visit)} (h : ∀ p ∈ ps, p.length ≤ 8) :
    ps.flatten.length ≤ 8 * ps.length := by
  induction ps with
  | nil => exact Nat.le_refl 0
  | cons p ps ih =>
    have first := h p List.mem_cons_self
    have rest := ih fun q hq => h q (List.mem_cons_of_mem p hq)
    rw [List.flatten_cons, List.length_append, List.length_cons]
    omega

/-- The way of any request through its stages, in the order of its passes and within their limit. -/
theorem process_passes (env : Environment) (origin : Origin) (request : Request) (client : Address)
    (port : Nat) (g : Generator) :
    let r := process env origin (.start (.start env request client port g))
    let ps := passes r.2.history
    (∀ i p, ps[i]? = some p → IsPass i p) ∧
      ps.length = r.2.context.restarts + 1 ∧
      r.2.context.restarts ≤ env.config.maxRestarts ∧
      ps.flatten.length ≤ 8 * (env.config.maxRestarts + 1) ∧
      (r.1 = .done () → ps.flatten.getLast? = some ⟨.log, r.2.context.restarts⟩ ∧
        ps.flatten.countP (·.scope = .log) = 1) ∧
      (∀ f limit, r.1 = .failed f → f.cause = .tooManyRestarts limit →
        r.2.context.restarts = env.config.maxRestarts) ∧
      (∀ h, r.1 = .halted h → StageHalts env h r.2) := by
  intro r ps
  obtain ⟨marks, hm, passed⟩ := rounds_passed env origin env.config.maxRestarts
    (.start (.start env request client port g))
  have history : r.2.history = marks := hm
  have hps : passes marks = ps := congrArg passes history.symm
  rw [hps] at passed
  have fresh : (Machine.start (.start env request client port g)).context.restarts = 0 := rfl
  rw [fresh] at passed
  have isPass (i : Nat) (p : List Visit) (h : ps[i]? = some p) : IsPass i p := by
    rw [← Nat.zero_add i]
    exact passed.pass i p h
  have count : ps.length = r.2.context.restarts + 1 := (passed.count.trans (Nat.zero_add _)).symm
  have bounded := passed.bounded
  refine ⟨isPass, count, ?_, ?_, passed.log, fun f limit hf hc => ?_, passed.halted⟩
  · omega
  · refine Nat.le_trans (flatten_length_le fun p hp => ?_) (Nat.mul_le_mul_left 8 bounded)
    obtain ⟨i, hi⟩ := List.mem_iff_getElem?.mp hp
    exact (isPass i p hi).length_le
  · have full := passed.tooMany f limit hf hc
    omega

end Lifecycle

end EdgeCache
