import EdgeCache.Proofs.Backends
import EdgeCache.Proofs.Selection
import EdgeCache.Server

/-! What a request asks its backends. The directors of a program are checked when it is loaded, so
that none of them fails for its declaration later, and each pass asks one backend at most. -/

namespace EdgeCache

namespace Director

variable {v w : Director} {d : Declarations} {h : Health}

theorem memberField_origin {draft draft' : Draft} {p : Property}
    (hf : memberField d draft p = .ok draft')
    (hd : ∀ b, draft.backend = some b → b.director? = none) :
    ∀ b, draft'.backend = some b → b.director? = none := by
  unfold memberField at hf
  split at hf
  · split at hf
    · split at hf
      · cases hf
      · rename_i b _
        by_cases director : b.director?.isSome = true
        · rw [if_pos director] at hf
          cases hf
        · rw [if_neg director] at hf
          cases hf
          intro b' hb
          cases hb
          exact Option.not_isSome_iff_eq_none.mp director
    · cases hf
  · split at hf <;> cases hf
    exact hd
  · obtain ⟨n, -, hf⟩ := bind_eq_ok hf
    cases hf
    exact hd
  · cases hf

theorem memberOf_origin {policy : Policy} {token : Token} {fields : List Property} {m : Member}
    (hm : memberOf policy d token fields = .ok m) : m.backend.director? = none := by
  obtain ⟨draft, hd, hm⟩ := bind_eq_ok hm
  have origin :=
    foldlM_keeps (P := fun draft : Draft => ∀ b, draft.backend = some b → b.director? = none)
      (fun _ _ _ _ => memberField_origin) hd nofun
  split at hm
  · cases hm
  · rename_i b hb
    have made : m.backend = b := by
      split at hm
      · split at hm <;> cases hm
        rfl
      · split at hm
        · cases hm
        · split at hm <;> cases hm
          rfl
    rw [made]
    exact origin b hb

theorem add_origin {p : DirectorProperty} (hw : v.add d p = .ok w)
    (hv : ∀ m ∈ v.members, m.backend.director? = none) :
    ∀ m ∈ w.members, m.backend.director? = none := by
  cases p with
  | field p =>
    rwa [(setting_eq_ok hw).2]
  | backend token fields =>
    obtain ⟨m, hm, hw⟩ := bind_eq_ok hw
    cases hw
    intro n hn
    rcases List.mem_append.mp hn with old | new
    · exact hv n old
    · cases List.mem_singleton.mp new
      exact memberOf_origin hm

theorem ofDeclaration_origin {decl : DirectorDeclaration} (hv : ofDeclaration decl d = .ok v) :
    ∀ m ∈ v.members, m.backend.director? = none := by
  unfold ofDeclaration at hv
  split at hv
  · cases hv
  · obtain ⟨w, hw, hv⟩ := bind_eq_ok hv
    have origin :=
      foldlM_keeps (P := fun w : Director => ∀ m ∈ w.members, m.backend.director? = none)
        (fun _ _ _ _ => add_origin) hw nofun
    split at hv <;> cases hv
    exact origin

theorem Picks.refused {keys : SelectionKeys} {e : DirectorError} (hp : v.Picks h keys (.error e)) :
    e = .allBackendsFailed v.name := by
  have bucket {key : String} (hk : v.PicksInBucket h key (.error e)) :
      e = .allBackendsFailed v.name := by
    rcases hk with ⟨m, -, ok⟩ | ⟨-, failed⟩
    · cases ok
    · exact Except.error.inj failed
  unfold Picks at hp
  split at hp
  · obtain ⟨m, -, -, ok⟩ := hp
    cases ok
  · obtain ⟨m, -, -, ok⟩ := hp
    cases ok
  · obtain ⟨m, -, ok⟩ := hp
    cases ok
  · exact bucket hp
  · exact bucket hp

theorem select_cases (hv : v.Checked) (keys : SelectionKeys) (g : Generator) :
    (∃ m ∈ v.members, isUp h m = true ∧ (v.select h keys g).1 = .ok m.backend) ∨
      (v.select h keys g).1 = .error (.allBackendsFailed v.name) ∨
      (v.select h keys g).1 = .error (.quorumNotReached v.name) := by
  by_cases up : v.healthy h = []
  · exact .inr (.inl (select_none hv keys g up))
  by_cases missed : v.policy ≠ .fallback ∧ v.Missed h
  · exact .inr (.inr (select_missed hv keys g up missed.1 missed.2))
  have picks := select_picks hv keys g up fun hp hq => missed ⟨hp, hq⟩
  generalize (v.select h keys g).1 = picked at picks
  cases picked with
  | ok b =>
    obtain ⟨m, hm, here, rfl⟩ := picks.healthy rfl
    exact .inl ⟨m, hm, here, rfl⟩
  | error e => exact .inr (.inl (congrArg Except.error picks.refused))

end Director

def Declarations.Sound (d : Declarations) : Prop :=
  ∀ b ∈ d.backends, ∀ decl, b.director? = some decl → ∃ v, Director.ofDeclaration decl d = .ok v

namespace Server

theorem forIn_eq_ok {α ε : Type} {xs : List α} {f : α → Unit → Except ε (ForInStep Unit)} {u : Unit}
    (h : forIn xs () f = .ok u) (hf : ∀ x r, f x () = .ok r → r = .yield ()) :
    ∀ x ∈ xs, f x () = .ok (.yield ()) := by
  induction xs with
  | nil => nofun
  | cons x xs ih =>
    rw [List.forIn_cons] at h
    obtain ⟨r, first, rest⟩ := bind_eq_ok h
    cases hf x r first
    rintro y (_ | ⟨_, hy⟩)
    · exact first
    · exact ih rest y hy

theorem start_eq_ok {p : Program} {config : Config} {origin : Origin} {s : Server}
    (h : start p config origin = .ok s) :
    Declarations.load p = .ok s.environment.declarations ∧ s.environment.declarations.Sound := by
  obtain ⟨d, hd, h⟩ := bind_eq_ok h
  obtain ⟨_, checked, h⟩ := bind_eq_ok h
  cases h
  refine ⟨hd, fun b hb decl hdecl => ?_⟩
  have passed := forIn_eq_ok checked (fun b r hr => ?_) b hb
  · rw [hdecl] at passed
    obtain ⟨_, built, -⟩ := bind_eq_ok passed
    obtain ⟨v, hv, -⟩ := bind_eq_ok built
    exact ⟨v, mapError_eq_ok hv⟩
  · split at hr
    · obtain ⟨_, -, hr⟩ := bind_eq_ok hr
      cases hr
      rfl
    · cases hr
      rfl

end Server

def Mark.asks (name : String) : Mark → Bool
  | .event (.fetch (some b) ..) => b.name == name
  | _ => false

namespace Lifecycle

open Relation (ReflTransGen)

variable {env : Environment} {origin : Origin} {c : Context} {asked : Option Backend}

/-- What a request asks that has chosen a backend or a director. -/
structure Contacts (env : Environment) (chosen asked : Option Backend) : Prop where
  none : asked = none → chosen = none
  origin : ∀ b, asked = some b → b.director? = Option.none
  itself : ∀ b, chosen = some b → b.director? = Option.none → asked = some b
  member : ∀ b decl, chosen = some b → b.director? = some decl →
    ∃ v, Director.ofDeclaration decl env.declarations = .ok v ∧
      ∃ m ∈ v.members, asked = some m.backend ∧ env.health.isUp m.backend.name = true

theorem pickBackend_cases (sound : env.declarations.Sound) (hc : c.Anchored env.declarations) :
    (∃ asked, (pickBackend env c).1 = .ok asked ∧ Contacts env c.backend asked) ∨
      ∃ e, (pickBackend env c).1 = .error e ∧ ∀ t text, e ≠ .config t text := by
  cases hb : c.backend with
  | none =>
    refine .inl ⟨none, ?_, ⟨fun _ => rfl, nofun, nofun, nofun⟩⟩
    unfold pickBackend
    rw [hb]
  | some b =>
    cases hd : b.director? with
    | none =>
      have itself : ∀ b', some b = some b' → b'.director? = none := fun b' h => by
        rwa [← Option.some.inj h]
      refine .inl ⟨some b, ?_, ⟨nofun, itself, fun _ h _ => h, fun b' decl h hdecl => ?_⟩⟩
      · unfold pickBackend
        simp only [hb, hd]
      · rw [itself b' h] at hdecl
        cases hdecl
    | some decl =>
      obtain ⟨v, hv⟩ := sound b (hc.backend b hb) decl hd
      have picked : (pickBackend env c).1 =
          (v.select env.health ⟨(c.slot .hash).text, c.clientIdentity⟩ c.generator).1.map some := by
        unfold pickBackend Director.selectFor
        simp only [hb, hd, hv]
      rcases Director.select_cases (h := env.health) (Director.ofDeclaration_checked hv)
        ⟨(c.slot .hash).text, c.clientIdentity⟩ c.generator with ⟨m, hm, up, ok⟩ | failed | failed
      · refine .inl ⟨some m.backend, by rw [picked, ok]; rfl,
          ⟨nofun, fun b' h => ?_, fun b' h hb' => ?_, fun b' decl' h hdecl => ?_⟩⟩
        · rw [← Option.some.inj h]
          exact Director.ofDeclaration_origin hv m hm
        · rw [← Option.some.inj h, hd] at hb'
          cases hb'
        · rw [← Option.some.inj h, hd] at hdecl
          cases hdecl
          exact ⟨v, hv, m, hm, rfl, up⟩
      · exact .inr ⟨.allBackendsFailed v.name, by rw [picked, failed]; rfl, nofun⟩
      · exact .inr ⟨.quorumNotReached v.name, by rw [picked, failed]; rfl, nofun⟩

theorem pickBackend_ok (sound : env.declarations.Sound) (hc : c.Anchored env.declarations)
    (h : (pickBackend env c).1 = .ok asked) : Contacts env c.backend asked := by
  rcases pickBackend_cases sound hc with ⟨asked', ok, contacts⟩ | ⟨e, failed, -⟩
  · rw [ok] at h
    rwa [← Except.ok.inj h]
  · rw [failed] at h
    cases h

theorem pickBackend_error (sound : env.declarations.Sound) (hc : c.Anchored env.declarations)
    {e : DirectorError} (h : (pickBackend env c).1 = .error e) : ∀ t text, e ≠ .config t text := by
  rcases pickBackend_cases sound hc with ⟨asked', ok, -⟩ | ⟨e', failed, he⟩
  · rw [ok] at h
    cases h
  · rw [failed] at h
    rwa [← Except.error.inj h]

theorem advance_failed (sound : env.declarations.Sound) {s : Site} {m n : Machine} {f : Failure}
    (hc : m.context.Anchored env.declarations) (h : advance env origin s m = (.failed f, n)) :
    ∀ t text, f.cause ≠ .director (.config t text) := by
  rcases he : s.entry? with _ | ⟨scope, g⟩
  case some => cases (Prod.mk.inj ((advance_enter he m).symm.trans h)).1
  cases s with
  | visit s =>
    have ran := visit_verdict env s m
    have went := (advance_visit env origin s m).symm.trans h
    generalize Lifecycle.visit env s m = r at went ran
    rcases r with ⟨e | f' | _, n'⟩
    · cases (Prod.mk.inj went).1
    · obtain rfl : f' = f := Outcome.failed.inj (Prod.mk.inj went).1
      intro t text hf
      have isLocal := ran.2
      rw [hf] at isLocal
      cases isLocal
    · cases (Prod.mk.inj went).1
  | fetch =>
    have ready : (withState "FETCH" m.context).Anchored env.declarations := hc.of_same rfl rfl rfl
    have went := (advance_fetch env origin m).symm.trans h
    rcases pickBackend_cases sound ready with ⟨asked, ok, -⟩ | ⟨e, failed, he⟩
    · rw [ok] at went
      cases (Prod.mk.inj went).1
    · rw [failed] at went
      cases e with
      | config t text => exact absurd rfl (he t text)
      | _ => cases (Prod.mk.inj went).1
  | ask backend =>
    have went := (advance_ask env origin backend m).symm.trans h
    unfold Lifecycle.ask at went
    dsimp only at went
    generalize origin m.fetchCount backend m.context.backendRequest = r at went
    rcases r with e | r
    · obtain rfl : .of (originFailure e) = f := Outcome.failed.inj (Prod.mk.inj went).1
      intro t text hf
      cases e <;> cases hf
    · cases (Prod.mk.inj went).1
  | again =>
    have went : (if m.context.restarts < env.config.maxRestarts then
        (Outcome.done Site.recv, startOver m)
      else (.failed (.of (.tooManyRestarts env.config.maxRestarts)), m)) = (.failed f, n) := h
    split at went
    · cases (Prod.mk.inj went).1
    · obtain rfl := Outcome.failed.inj (Prod.mk.inj went).1
      exact fun t text hf => nomatch hf
  | finished => cases (Prod.mk.inj h).1
  | _ => cases he

section Way

variable {r : Request} {client : Address} {port : Nat} {g : Generator}

theorem process_failed (sound : env.declarations.Sound) {f : Failure}
    (h : (process env origin (begins env r client port g).2).1 = .failed f) :
    ∀ t text, f.cause ≠ .director (.config t text) := by
  have way := process_leads env origin (begins env r client port g).2
  generalize process env origin (begins env r client port g).2 = result at way h
  rcases result with ⟨t | f' | _, n⟩
  · cases h
  · cases h
    obtain ⟨b, way, stop⟩ := way
    exact advance_failed sound (anchored_of_ways way) stop
  · cases h

theorem Site.after_ne_ask (s : Scope) (e : Ending) (b : Option Backend) :
    Site.after s e ≠ .ask b := by
  cases s <;> rcases e with (_ | _ | _ | _ | _ | _ | _) | _ | _ <;> nofun

theorem contacts_of_ways (sound : env.declarations.Sound) {a : Point}
    (h : Ways env origin (begins env r client port g) a) :
    ∀ b, a.1 = .ask b → Contacts env a.2.context.backend b := by
  induction h with
  | refl => nofun
  | tail way step _ =>
    have anchored := anchored_of_ways way
    cases step.went with
    | visit ran => exact fun b hb => absurd hb (Site.after_ne_ask _ _ b)
    | @pick backend m found =>
      rintro b ⟨rfl⟩
      have contacts := pickBackend_ok sound
        (anchored.of_same (e := withState "FETCH" m.context) rfl rfl rfl) found
      obtain ⟨g, hg⟩ := pickBackend_generator env (withState "FETCH" m.context)
      have same : (picked env m).context.backend = m.context.backend := by
        show (pickBackend env (withState "FETCH" m.context)).2.backend = _
        rw [hg]
        rfl
      show Contacts env (picked env m).context.backend backend
      rwa [same]
    | _ => exact fun b hb => nomatch hb

theorem ask_of_history {before after : List Mark} {b : Option Backend} {q : Request} {k : Nat}
    (h : (process env origin (begins env r client port g).2).2.history =
      before ++ .event (.fetch b q k) :: after) :
    ∃ m, Ways env origin (begins env r client port g) (.ask b, m) ∧ m.history = before ∧
      m.context.backendRequest = q := by
  obtain ⟨⟨s, m⟩, way, hm, mark⟩ := point_of_event rfl h
  cases s with
  | ask b' =>
    cases mark
    exact ⟨m, way, hm, rfl⟩
  | _ => cases mark

structure Diverted (e : DirectorError) (m n : Machine) : Prop where
  history : n.history = m.history
  status : n.context.slot .objectStatus = .ofInteger 503
  reason : n.context.slot .objectReason = .ofString "Service Unavailable"
  error : n.context.slot .lastError = .ofString e.message

theorem goes_diverted (origin : Origin) {m : Machine} {e : DirectorError}
    (he : ∀ t text, e ≠ .config t text)
    (refused : (pickBackend env (withState "FETCH" m.context)).1 = .error e) :
    ∃ n, Ways env origin (.fetch, m) (.visit .error, n) ∧ Diverted e m n := by
  let failed : Machine := { picked env m with context := noBackend e (picked env m).context }
  have first : Goes env origin (.fetch, m) (.error, failed) := by
    show advance env origin .fetch m = (.done .error, failed)
    rw [advance_fetch, refused]
    cases e with
    | config t text => exact absurd rfl (he t text)
    | _ => rfl
  have second : Goes env origin (.error, failed)
      (.visit .error, { failed with context := withState "ERROR" failed.context }) := rfl
  exact ⟨{ failed with context := withState "ERROR" failed.context },
    (ReflTransGen.single first).tail second, ⟨rfl, rfl, rfl, rfl⟩⟩

theorem diverted_history {m n : Machine} {e : DirectorError}
    (way : Ways env origin (begins env r client port g) (.fetch, m))
    (on : Ways env origin (.fetch, m) (.visit .error, n)) (diverted : Diverted e m n) :
    ∃ k after, (process env origin (begins env r client port g).2).2.history =
        m.history ++ .event (.stage .error k) :: after ∧
      ∀ mark ∈ lastPass m.history ++ firstPass after,
        (∀ b q k, mark ≠ .event (.fetch b q k)) ∧ ∀ k, mark ≠ .event (.stage .fetch k) := by
  have leads := leads_of_ways (way.trans on) (process_leads env origin _)
  obtain ⟨b, last, ends⟩ := leads_ends leads
  obtain ⟨after, final⟩ := ways_mark last ends nofun rfl
  obtain ⟨later, final', ahead⟩ := ways_ahead last ends
  obtain rfl := List.append_cancel_left (final'.symm.trans final)
  rw [diverted.history] at final
  refine ⟨_, after, final, fun mark hmark => ?_⟩
  -- asking a backend and the stage of its answer lie in between
  have apart : ∀ place, mark.rank? = some place → place < 8 ∨ 12 ≤ place := fun place hp => by
    rcases List.mem_append.mp hmark with before | afterwards
    · exact .inl (past_of_ways way mark before place hp)
    · exact .inr (ahead mark (List.mem_cons_of_mem _ afterwards) place hp)
  refine ⟨?_, ?_⟩
  · rintro b q k rfl
    have := apart 9 rfl
    omega
  · rintro k rfl
    have := apart 10 rfl
    omega

theorem serve_failed {server next : Server} {reply : Reply} {f : Failure}
    (sound : server.environment.declarations.Sound)
    (h : server.serve r client port = .ok (reply, next)) (failed : reply.failure = some f) :
    ∀ t text, f.cause ≠ .director (.config t text) := by
  unfold Server.serve Server.context at h
  split at h
  · cases h
    cases failed
  · dsimp only at h
    split at h <;> cases h
    · cases failed
    · rename_i ran
      cases failed
      exact process_failed sound (congrArg Prod.fst ran)

end Way

/-- No declaration of a director fails a request. Each pass asks one backend at most, after the
stage of missing or of passing, and no director: a healthy member in its place. Where there is none
to ask, the stage of errors comes next, and no backend is asked in that pass. -/
theorem origin_contact {p : Program} {config : Config} {o : Origin} {s : Server}
    (started : Server.start p config o = .ok s) (health : Health) :
    let env := { s.environment with health := health }
    (∀ server : Server, server.environment = env → ∀ r client port reply next f t text,
      server.serve r client port = .ok (reply, next) → reply.failure = some f →
        f.cause ≠ .director (.config t text)) ∧
    ∀ origin r client port g,
      let final := (process env origin (begins env r client port g).2).2
      (∀ before b q k after, final.history = before ++ .event (.fetch b q k) :: after →
        (∀ b' q' k', .event (.fetch b' q' k') ∉ lastPass before) ∧
        (∃ stage n, (stage = .miss ∨ stage = .pass) ∧ .event (.stage stage n) ∈ lastPass before) ∧
        ∃ m, Ways env origin (begins env r client port g) (.ask b, m) ∧ m.history = before ∧
          Contacts env m.context.backend b) ∧
      ∀ m e, Ways env origin (begins env r client port g) (.fetch, m) →
        (pickBackend env (withState "FETCH" m.context)).1 = .error e →
        (∃ n, Ways env origin (.fetch, m) (.visit .error, n) ∧ Diverted e m n) ∧
        ∃ k after, final.history = m.history ++ .event (.stage .error k) :: after ∧
          ∀ mark ∈ lastPass m.history ++ firstPass after,
            (∀ b q k, mark ≠ .event (.fetch b q k)) ∧ ∀ k, mark ≠ .event (.stage .fetch k) := by
  intro env
  have sound : env.declarations.Sound := (Server.start_eq_ok started).2
  refine ⟨fun server hs r client port reply next f t text served failed => ?_,
    fun origin r client port g => ⟨?_, ?_⟩⟩
  · have sound : server.environment.declarations.Sound := by rwa [hs]
    exact serve_failed sound served failed t text
  · intro before b q k after h
    obtain ⟨m, way, rfl, -⟩ := ask_of_history h
    refine ⟨fun b' q' k' hm => ?_, seen_of_ways way, m, way, rfl, contacts_of_ways sound way b rfl⟩
    exact absurd (past_of_ways way _ hm 9 rfl) (Nat.lt_irrefl 9)
  · intro m e way refused
    have anchored := (anchored_of_ways way).of_same (e := withState "FETCH" m.context) rfl rfl rfl
    obtain ⟨n, on, diverted⟩ :=
      goes_diverted origin (pickBackend_error sound anchored refused) refused
    exact ⟨⟨n, on, diverted⟩, diverted_history way on diverted⟩

def pooled : Program :=
  ⟨[.backend ⟨.unknown, "delta", []⟩,
    .director ⟨.unknown, "pool", "fallback", [Director.drawnMember "delta"]⟩,
    .subroutine ⟨.unknown, "vcl_recv", none,
      [.set .unknown "req.backend" .assign (.ident .unknown "pool"),
        .ret .unknown (some (.ident .unknown "pass"))]⟩]⟩

def poolServer : Server :=
  ((Server.start pooled .standard .empty).toOption).getD ⟨.of .empty .standard, ⟨0⟩, .empty, 0⟩

def poolWith (down : List String) : Environment := { poolServer.environment with health := ⟨down⟩ }

theorem origin_contact_pool :
    let start env := begins env .empty .loopback 0 (.ofSeed 0)
    Server.start pooled .standard .empty = .ok poolServer ∧
      (∃ m b, Ways (poolWith []) .empty (start (poolWith [])) (.ask (some b), m) ∧
        b.name = "delta" ∧ Contacts (poolWith []) m.context.backend (some b)) ∧
      ∃ m n, Ways (poolWith ["delta"]) .empty (start (poolWith ["delta"])) (.fetch, m) ∧
        Ways (poolWith ["delta"]) .empty (.fetch, m) (.visit .error, n) ∧
        Diverted (.allBackendsFailed "pool") m n := by
  intro start
  have started : Server.start pooled .standard .empty = .ok poolServer := rfl
  refine ⟨started, ?_, ?_⟩
  · have asked :
        (process (poolWith []) .empty (start (poolWith [])).2).2.history.any (Mark.asks "delta") =
          true := by
      decide +kernel
    obtain ⟨k, hk, delta⟩ := List.any_eq_true.mp asked
    obtain ⟨before, after, history⟩ := List.append_of_mem hk
    cases k with
    | event e =>
      rcases e with _ | ⟨_ | b, q, k⟩
      · cases delta
      · cases delta
      · obtain ⟨-, -, m, way, -, contacts⟩ :=
          ((origin_contact started ⟨[]⟩).2 .empty .empty .loopback 0 (.ofSeed 0)).1
            before (some b) q k after history
        exact ⟨m, b, way, beq_iff_eq.mp delta, contacts⟩
    | _ => cases delta
  · have way := ways_travel (poolWith ["delta"]) .empty 4 (start (poolWith ["delta"]))
    obtain ⟨⟨n, on, diverted⟩, -⟩ :=
      ((origin_contact started ⟨["delta"]⟩).2 .empty .empty .loopback 0 (.ofSeed 0)).2
        (travel (poolWith ["delta"]) .empty 4 (start (poolWith ["delta"]))).2
          (.allBackendsFailed "pool") way rfl
    exact ⟨_, n, way, on, diverted⟩

end Lifecycle

end EdgeCache
