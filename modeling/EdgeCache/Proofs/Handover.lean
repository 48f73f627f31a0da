import EdgeCache.Proofs.Backends
import EdgeCache.Proofs.Drafts

/-! How messages are handed over. The request to the backend is the one of the client, as the pass
first came to missing or passing, with the edits of those stages; the response is what the backend
gave, or the object of an error. -/

namespace EdgeCache

def Mark.sends (field text : String) : Mark → Bool
  | .event (.fetch _ q _) => q.headers.text? field == some text
  | _ => false

namespace Lifecycle

open Relation (ReflTransGen)

variable {env : Environment} {origin : Origin}

/-- The way from one site to the next takes the request to the backend along: it stays as it is, or
the subroutine of a stage edits it. -/
inductive Carries (env : Environment) (origin : Origin) : Point → Point → Prop
  | stage {s : Scope} {m p : Machine} {b : Point} (drafts : s.Drafts)
    (edits : ReflTransGen (Drafts env) ((m.record (.stage s m.context.restarts)).atStage s) p)
    (history : b.2.history = p.history)
    (left : b.2.context.backendRequest = p.context.backendRequest)
    (goes : Goes env origin (.visit s, m) b) : Carries env origin (.visit s, m) b
  | keep {a b : Point} (same : b.2.context.backendRequest = a.2.context.backendRequest)
    (goes : Goes env origin a b) : Carries env origin a b

theorem noteState_backendRequest (e : Ending) (c : Context) :
    (noteState e c).backendRequest = c.backendRequest := by
  cases e <;> rfl

theorem visit_eq_done {s : Scope} {m n : Machine} {e : Ending} (h : visit env s m = (.done e, n)) :
    ∃ p, Run.subroutine env s.subroutine s (m.record (.stage s m.context.restarts)) = (.done e, p) ∧
      n = { p with context := noteState e p.context } := by
  change Run.bind (Run.subroutine env s.subroutine s) (fun e =>
    Run.bind (Run.modifyContext (noteState e)) fun _ => Run.pure e)
    (m.record (.stage s m.context.restarts)) = _ at h
  unfold Run.bind at h
  generalize Run.subroutine env s.subroutine s _ = r at h
  rcases r with ⟨e' | f | _, p⟩ <;> cases h
  exact ⟨p, rfl, rfl⟩

theorem carries_visit {s : Scope} {e : Ending} {m n : Machine} (hs : s.Drafts)
    (ran : visit env s m = (.done e, n))
    (goes : Goes env origin (.visit s, m) (.after s e, { n with context := settle s n.context })) :
    Carries env origin (.visit s, m) (.after s e, { n with context := settle s n.context }) := by
  obtain ⟨q, ended, rfl⟩ := visit_eq_done ran
  obtain ⟨p, edits, rfl⟩ := subroutine_drafts hs ended
  have settled (c : Context) : settle s c = c := by
    rcases hs with rfl | rfl <;> rfl
  refine .stage hs edits rfl ?_ goes
  show (settle s _).backendRequest = _
  rw [settled, noteState_backendRequest]
  rfl

theorem pickBackend_backendRequest (c : Context) :
    (pickBackend env c).2.backendRequest = c.backendRequest := by
  obtain ⟨g, hg⟩ := pickBackend_generator env c
  rw [hg]

def Site.isDrafting : Site → Bool
  | .visit .miss | .visit .pass | .pass true | .fetch | .ask _ => true
  | _ => false

/-- Where a pass takes over the request of the client: it comes to missing or passing for the first
time. -/
structure TakesOver (env : Environment) (origin : Origin) (start first entered : Point) : Prop where
  way : Ways env origin start first
  stage : first.1 = .miss ∧ entered.1 = .visit .miss ∨
    first.1 = .pass false ∧ entered.1 = .visit .pass
  goes : Goes env origin first entered
  copied : entered.2.context.backendRequest = first.2.context.request

/-- From where the request was taken over, it was carried to this point in the same pass. -/
def Drafted (env : Environment) (origin : Origin) (start a : Point) : Prop :=
  ∃ first entered marks, TakesOver env origin start first entered ∧
    ReflTransGen (Carries env origin) entered a ∧
    a.2.history = first.2.history ++ marks ∧ ∀ k ∈ marks, k.isAgain = false

theorem TakesOver.drafted {start first entered : Point}
    (h : TakesOver env origin start first entered) :
    Drafted env origin start entered := by
  have again : first.1 ≠ .again := by
    rcases h.stage with ⟨site, -⟩ | ⟨site, -⟩ <;> rw [site] <;> nofun
  obtain ⟨marks, hm, inPass, -⟩ := h.goes.marked.within again
  exact ⟨first, entered, marks, h, .refl, hm, inPass⟩

theorem Drafted.tail {start a b : Point} (h : Drafted env origin start a) (again : a.1 ≠ .again)
    (step : Carries env origin a b) (goes : Goes env origin a b) : Drafted env origin start b := by
  obtain ⟨first, entered, marks, takes, path, ha, inPass⟩ := h
  obtain ⟨new, hb, inPass', -⟩ := goes.marked.within again
  refine ⟨first, entered, marks ++ new, takes, path.tail step, by rw [hb, ha, List.append_assoc],
    fun k hk => ?_⟩
  exact (List.mem_append.mp hk).elim (inPass k) (inPass' k)

theorem Site.isDrafting_after {s : Scope} {e : Ending} (h : (after s e).isDrafting = true) :
    s.Drafts := by
  cases s with
  | miss => exact .inl rfl
  | pass => exact .inr rfl
  | _ => rcases e with (_ | _ | _ | _ | _ | _ | _) | _ | _ <;> cases h

theorem drafted_of_ways {start a : Point} (hs : start.1.isDrafting = false)
    (h : Ways env origin start a) (ha : a.1.isDrafting = true) : Drafted env origin start a := by
  induction h with
  | refl =>
    rw [hs] at ha
    cases ha
  | @tail a b way step ih =>
    cases step.went with
    | @enter s scope f m ready =>
      cases s with
      | miss =>
        cases ready
        exact TakesOver.drafted ⟨way, .inl ⟨rfl, rfl⟩, step, rfl⟩
      | pass copied =>
        cases ready
        cases copied
        · exact TakesOver.drafted ⟨way, .inr ⟨rfl, rfl⟩, step, rfl⟩
        · -- missing has taken the request over already
          exact (ih rfl).tail nofun (.keep rfl step) step
      | _ => cases ready <;> cases ha
    | visit ran =>
      have drafts := Site.isDrafting_after ha
      refine Drafted.tail (ih ?_) nofun (carries_visit drafts ran step) step
      rcases drafts with rfl | rfl <;> rfl
    | pick => exact (ih rfl).tail nofun (.keep (pickBackend_backendRequest _) step) step
    | _ => cases ha

structure Answers (n : Machine) : Prop where
  fetched : (∀ k, .event (.stage .error k) ∉ lastPass n.history) →
    n.context.response = n.context.backendResponse
  object : (∃ k, .event (.stage .error k) ∈ lastPass n.history) →
    n.context.response.headers = n.context.object.headers ∧
    n.context.response.body = n.context.object.body ∧
      ∃ code marks, n.context.slot .objectStatus = .integer code marks ∧
        (n.context.response.status.code : Int) = if 100 ≤ code.toInt ∧ code.toInt ≤ 999 then
        code.toInt else 500

theorem code_of_ofCode? (n : Int) :
    (((Status.ofCode? n).getD .internalServerError).code : Int) = if 100 ≤ n ∧ n ≤ 999 then n
    else 500 := by
  unfold Status.ofCode?
  split
  · rename_i valid
    rw [if_pos (by omega)]
    show (n.toNat : Int) = n
    omega
  · rw [if_neg (by omega)]
    rfl

section Request

variable {r : Request} {client : Address} {port : Nat} {g : Generator}

theorem objectStatus_of_anchored {d : Declarations} {c : Context} (h : c.Anchored d) :
    ∃ code marks, c.slot .objectStatus = .integer code marks := by
  have kind : (c.slot .objectStatus).kind = .integer := h.slot .objectStatus
  cases hs : c.slot .objectStatus with
  | integer code marks => exact ⟨code, marks, rfl⟩
  | _ => rw [hs] at kind; cases kind

theorem answers_of_respond {m : Machine} {failed : Bool}
    (way : Ways env origin (begins env r client port g) (.deliver failed, m)) :
    Answers { m with context := respond failed (withState "DELIVER" m.context) } := by
  cases failed with
  | false =>
    refine ⟨fun _ => rfl, fun ⟨k, hk⟩ => ?_⟩
    exact absurd (past_of_ways way _ hk 12 rfl) (by decide : ¬ 12 < 11)
  | true =>
    refine ⟨fun none => ?_, fun _ => ⟨rfl, rfl, ?_⟩⟩
    · obtain ⟨k, hk⟩ := seen_of_ways way
      exact absurd hk (none k)
    · obtain ⟨code, marks, status⟩ := objectStatus_of_anchored (anchored_of_ways way)
      refine ⟨code, marks, status, ?_⟩
      show ((errorStatus (withState "DELIVER" m.context)).code : Int) = _
      have read : (withState "DELIVER" m.context).slot .objectStatus = .integer code marks := status
      unfold errorStatus
      rw [read]
      exact code_of_ofCode? code.toInt

theorem answers_of_ways {a : Point} (h : Ways env origin (begins env r client port g) a)
    (ha : a.1 = .visit .deliver) : Answers a.2 := by
  rcases h.cases_tail with rfl | ⟨b, way, step⟩
  · cases ha
  · cases step.went with
    | @enter s scope f m ready =>
      cases s with
      | deliver failed =>
        cases ready
        exact answers_of_respond way
      | _ => cases ready <;> cases ha
    | @visit s e m n ran =>
      cases s <;> rcases e with (_ | _ | _ | _ | _ | _ | _) | _ | _ <;> cases ha
    | _ => cases ha

theorem TakesOver.fresh {first entered : Point}
    (h : TakesOver env origin (begins env r client port g) first entered) {s : Scope}
    (hs : s.Drafts) (k : Nat) : .event (.stage s k) ∉ lastPass first.2.history := by
  intro hk
  have early := past_of_ways h.way _ hk (Site.visit s).rank rfl
  rcases h.stage with ⟨site, -⟩ | ⟨site, -⟩ <;> rw [site] at early <;> rcases hs with rfl | rfl
  · exact absurd early (by decide : ¬ 5 < 4)
  · exact absurd early (by decide : ¬ 7 < 4)
  · exact absurd early (by decide : ¬ 5 < 2)
  · exact absurd early (by decide : ¬ 7 < 2)

theorem visited_of_copied {a : Point} (h : Ways env origin (begins env r client port g) a)
    (ha : a.1 = .pass true) :
    ∃ m, Ways env origin (begins env r client port g) (.visit .miss, m) ∧
    Goes env origin (.visit .miss, m) a := by
  rcases h.cases_tail with rfl | ⟨b, way, step⟩
  · cases ha
  · cases step.went with
    | @enter s scope f m ready => cases s <;> cases ready <;> cases ha
    | @visit s e m n ran =>
      cases s with
      | miss => exact ⟨m, way, step⟩
      | _ => rcases e with (_ | _ | _ | _ | _ | _ | _) | _ | _ <;> cases ha
    | _ => cases ha

theorem kept_of_ways {a : Point} (h : Ways env origin (begins env r client port g) a)
    (ha : a.1 = .visit .pass) (missed : ∃ k, .event (.stage .miss k) ∈ lastPass a.2.history) :
    ∃ m b, Ways env origin (begins env r client port g) (.visit .miss, m) ∧
    Goes env origin (.visit .miss, m) b ∧
      Goes env origin b a ∧ a.2.context.backendRequest = b.2.context.backendRequest := by
  rcases h.cases_tail with rfl | ⟨b, way, step⟩
  · cases ha
  · cases step.went with
    | @enter s scope f m ready =>
      cases s with
      | pass copied =>
        cases ready
        cases copied with
        | false =>
          -- passing that takes the request over comes before missing
          obtain ⟨k, hk⟩ := missed
          exact absurd (past_of_ways way _ hk 5 rfl) (by decide : ¬ 5 < 2)
        | true =>
          obtain ⟨m, earlier, left⟩ := visited_of_copied way rfl
          exact ⟨m, _, earlier, left, step, rfl⟩
      | _ => cases ready <;> cases ha
    | @visit s e m n ran =>
      cases s <;> rcases e with (_ | _ | _ | _ | _ | _ | _) | _ | _ <;> cases ha
    | _ => cases ha

end Request

/-- What the origin is asked is what the client asked when the pass first came to missing or
passing, edited by the programs of these stages; passing after missing does not take it over again.
What is delivered is what the backend gave, or the object of an error. -/
theorem messages_handed_over (env : Environment) (origin : Origin) (r : Request) (client : Address)
    (port : Nat) (g : Generator) :
    let start := begins env r client port g
    let final := (process env origin start.2).2
    (∀ before b q k after, final.history = before ++ .event (.fetch b q k) :: after →
      ∃ first entered n marks, TakesOver env origin start first entered ∧
        (∀ s j, s.Drafts → .event (.stage s j) ∉ lastPass first.2.history) ∧
        ReflTransGen (Carries env origin) entered (.ask b, n) ∧ n.context.backendRequest = q ∧
        n.history = before ∧ before = first.2.history ++ marks ∧ ∀ k ∈ marks, k.isAgain = false) ∧
      (∀ n, Ways env origin start (.visit .pass, n) →
        (∃ k, .event (.stage .miss k) ∈ lastPass n.history) →
        ∃ m b, Ways env origin start (.visit .miss, m) ∧ Goes env origin (.visit .miss, m) b ∧
          Goes env origin b (.visit .pass, n) ∧
          n.context.backendRequest = b.2.context.backendRequest) ∧
      ∀ before k after, final.history = before ++ .event (.stage .deliver k) :: after →
        ∃ n, Ways env origin start (.visit .deliver, n) ∧ n.history = before ∧ Answers n := by
  intro start final
  refine ⟨fun before b q k after h => ?_, fun n way => kept_of_ways way rfl,
    fun before k after h => ?_⟩
  · obtain ⟨⟨s, n⟩, way, rfl, mark⟩ := point_of_event rfl h
    cases s with
    | ask b' =>
      cases mark
      obtain ⟨first, entered, marks, takes, path, history, inPass⟩ := drafted_of_ways rfl way rfl
      exact ⟨first, entered, n, marks, takes, fun s j hs => takes.fresh hs j, path, rfl, rfl,
        history, inPass⟩
    | _ => cases mark
  · obtain ⟨⟨s, n⟩, way, rfl, mark⟩ := point_of_event rfl h
    cases s with
    | visit s =>
      cases mark
      exact ⟨n, way, rfl, answers_of_ways way rfl⟩
    | _ => cases mark

def draftingIn : Environment :=
  .of { Declarations.empty with
    subroutines := [⟨.unknown, "vcl_miss", none,
      [.set .unknown "bereq.http.x-draft" .assign (.string .unknown "kept"),
        .set .unknown "req.http.x-draft" .assign (.string .unknown "late"),
        .ret .unknown (some (.ident .unknown "pass"))]⟩] } .standard

theorem messages_handed_over_drafting :
    let start := begins draftingIn .empty .loopback 0 (.ofSeed 0)
    let final := (process draftingIn .empty start.2).2
    ∃ first entered n b, TakesOver draftingIn .empty start first entered ∧
      ReflTransGen (Carries draftingIn .empty) entered (.ask b, n) ∧
        n.context.backendRequest.headers.text? "x-draft" = some "kept" ∧
        ∃ k, .event (.fetch b n.context.backendRequest k) ∈ final.history := by
  intro start final
  have sent : final.history.any (Mark.sends "x-draft" "kept") = true := by decide +kernel
  obtain ⟨mark, member, kept⟩ := List.any_eq_true.mp sent
  obtain ⟨before, after, history⟩ := List.append_of_mem member
  cases mark with
  | event e =>
    cases e with
    | fetch b q k =>
      obtain ⟨first, entered, n, marks, takes, -, path, rfl, -⟩ :=
        (messages_handed_over draftingIn .empty .empty .loopback 0 (.ofSeed 0)).1 before b q k
          after history
      exact ⟨first, entered, n, b, takes, path, beq_iff_eq.mp kept, k, member⟩
    | stage => cases kept
  | _ => cases kept

end Lifecycle

end EdgeCache
