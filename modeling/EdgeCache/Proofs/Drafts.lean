import EdgeCache.Proofs.Discipline
import Mathlib.Logic.Relation

/-! How a program changes the request to the backend: only by writing its variables, in the stages
before the backend is asked. -/

namespace EdgeCache

open Relation (ReflTransGen)

def OfBackendRequest (name : String) : Prop := "bereq.".toList <+: name.toList

namespace Variable

def isOfBackendRequest : Variable → Bool
  | .header .backendRequest _ | .method .backendRequest | .url .backendRequest => true
  | _ => false

theorem special_backendRequest (s : Scope) :
    (special s).all (fun p => !p.2.isOfBackendRequest || "bereq.".toList.isPrefixOf p.1.toList) =
      true := by
  cases s <;> decide +kernel

theorem shared_backendRequest : shared.all (fun p => !p.2.isOfBackendRequest) = true := by decide

def isHeader : Variable → Bool
  | .header .. => true
  | _ => false

theorem special_isHeader (s : Scope) : (special s).all (fun p => !p.2.isHeader) = true := by
  cases s <;> decide

theorem shared_isHeader : shared.all (fun p => !p.2.isHeader) = true := by decide

theorem headerOf?_of_ofName? {s : Scope} {name field : String} {m : MessageName}
    (h : ofName? s name = some (.header m field)) : headerOf? name = some (m, field) := by
  rcases cases_ofName? h with special | shared | family | ⟨m, field, named, same⟩
  · cases List.all_eq_true.mp (special_isHeader s) _ special
  · cases List.all_eq_true.mp shared_isHeader _ shared
  · rcases cases_family? family with ⟨index, same⟩ | ⟨-, same⟩ | same <;> cases same
  · cases same
    exact named

theorem ofBackendRequest_of_headerOf? {name field : String}
    (h : headerOf? name = some (.backendRequest, field)) :
    OfBackendRequest name := by
  refine ⟨"http.".toList ++ field.toList, ?_⟩
  rw [eq_of_headerOf? h, String.toList_append, String.toList_append]
  rfl

theorem ofBackendRequest_of_ofName? {s : Scope} {name : String} {x : Variable}
    (h : ofName? s name = some x) (hx : x.isOfBackendRequest = true) : OfBackendRequest name := by
  rcases cases_ofName? h with special | shared | family | ⟨m, field, named, rfl⟩
  · have known := List.all_eq_true.mp (special_backendRequest s) _ special
    rw [hx] at known
    exact List.isPrefixOf_iff_prefix.mp known
  · have absent := List.all_eq_true.mp shared_backendRequest _ shared
    rw [hx] at absent
    cases absent
  · rcases cases_family? family with ⟨index, rfl⟩ | ⟨-, rfl⟩ | rfl <;> cases hx
  · cases m with
    | backendRequest => exact ofBackendRequest_of_headerOf? named
    | _ => cases hx

variable {env : Environment} {c d : Context} {x : Variable} {name : String} {v : Value}
    {op : AssignOp}

theorem backendRequest_setHeaders {m : MessageName} (headers : Headers) (hm : m ≠ .backendRequest) :
    (c.setHeaders headers m).backendRequest = c.backendRequest := by
  cases m with
  | backendRequest => exact absurd rfl hm
  | _ => rfl

theorem write_backendRequest (h : x.write c name op v = .ok d) (hx : x.isOfBackendRequest = false) :
    d.backendRequest = c.backendRequest := by
  cases x with
  | header m field =>
    obtain ⟨headers, -, hd⟩ := bind_eq_ok h
    cases hd
    refine backendRequest_setHeaders headers ?_
    rintro rfl
    cases hx
  | «local» n =>
    simp only [write] at h
    split at h
    · cases h
    · obtain ⟨w, -, hd⟩ := bind_eq_ok h
      cases hd
      rfl
  | slot _ | clientIdentity | backend =>
    obtain ⟨_, -, hd⟩ := bind_eq_ok h
    cases hd
    rfl
  | method m | url m =>
    obtain ⟨_, -, hd⟩ := bind_eq_ok h
    cases hd
    cases m with
    | backendRequest => cases hx
    | _ => rfl
  | status m =>
    obtain ⟨_, -, hd⟩ := bind_eq_ok h
    cases hd
    cases m <;> rfl
  | group _ => cases h
  | reading _ => cases h

end Variable

namespace Context

open Variable

variable {env : Environment} {c d : Context} {name : String} {v : Value}

/-- A write of a variable, by a statement or by the function that collects a field. -/
inductive Edit (env : Environment) (name : String) (c d : Context) : Prop
  | set (op : AssignOp) (v : Value) (h : c.setVariable env name op v = .ok d)
  | add (v : Value) (h : c.addVariable env name v = .ok d)
  | unset (h : c.unsetVariable env name = .ok d)
  | collect (separator : String) (h : Builtin.collectHeader c name separator = .ok d)

theorem ofName?_of_writable? {x : Variable} (h : c.writable? name = some x) :
    ofName? c.scope name = some x :=
  (Option.filter_eq_some_iff.mp h).1

theorem Edit.ofBackendRequest (h : Edit env name c d)
    (changed : d.backendRequest ≠ c.backendRequest) :
    OfBackendRequest name := by
  have header {m : MessageName} {field : String} {headers : Headers}
      (hd : d = c.setHeaders headers m)
      (hx : headerOf? name = some (m, field)) : OfBackendRequest name := by
    cases m with
    | backendRequest => exact ofBackendRequest_of_headerOf? hx
    | _ => exact absurd (by rw [hd]; rfl) changed
  cases h with
  | set op v h =>
    unfold setVariable at h
    split at h
    · cases h
    · rename_i x hx
      cases part : x.isOfBackendRequest with
      | true => exact ofBackendRequest_of_ofName? (ofName?_of_writable? hx) part
      | false => exact absurd (write_backendRequest (mapError_eq_ok h) part) changed
  | add v h =>
    unfold addVariable at h
    split at h
    · rename_i hx
      obtain ⟨key, -, h⟩ := bind_eq_ok (mapError_eq_ok h)
      obtain ⟨value, -, hd⟩ := bind_eq_ok h
      exact header (Except.ok.inj hd).symm (headerOf?_of_ofName? (ofName?_of_writable? hx))
    · split at h <;> cases h
  | unset h =>
    unfold unsetVariable at h
    split at h
    · rename_i hx
      obtain ⟨key, -, hd⟩ := bind_eq_ok (mapError_eq_ok h)
      exact header (Except.ok.inj hd).symm (headerOf?_of_ofName? (ofName?_of_writable? hx))
    · split at h
      · cases h
        exact absurd rfl changed
      · cases h
    · cases h
  | collect separator h =>
    unfold Builtin.collectHeader at h
    split at h
    · cases h
    · rename_i m field hx
      obtain ⟨key, -, h⟩ := bind_eq_ok h
      dsimp only at h
      split at h
      · cases h
        exact absurd rfl changed
      · obtain ⟨value, -, hd⟩ := bind_eq_ok h
        exact header (Except.ok.inj hd).symm hx

end Context

theorem Builtin.call_collects {b : Builtin} (hb : b ∈ library) {env : Environment} {c d : Context}
    {args : List Value} {v : Value} (h : b.call env c args = .ok (v, d)) :
    Context.Beside c d ∨ ∃ name separator, collectHeader c name separator = .ok d := by
  have h := body_of_run (call_eq_ok.mp h)
  rcases library_quiet hb with quiet | collects
  · exact .inl (quiet.beside h)
  · rw [collects, collect_eq] at h
    split at h <;> cases h
    exact .inr ⟨_, _, ‹_›⟩

section Stages

open Context (Edit)

variable {env : Environment} {P : Value → Prop} {m n : Machine}

theorem Act.edit (h : Act env P m n)
    (changed : n.context.backendRequest ≠ m.context.backendRequest) :
    ∃ name c, Edit env name m.context c ∧ n = { m with context := c } := by
  cases h with
  | builtin resolved called =>
    rcases Builtin.call_collects (Builtin.of_resolve resolved).1 called with beside
      | ⟨name, separator, collected⟩
    · have same := congrFun beside.message .backendRequest
      exact absurd (Sum.inl.inj same) changed
    · exact ⟨name, _, .collect separator collected, rfl⟩
  | assign right set => exact ⟨_, _, .set _ _ set, rfl⟩
  | append added => exact ⟨_, _, .add _ added, rfl⟩
  | remove unset => exact ⟨_, _, .unset unset, rfl⟩
  | _ => exact absurd rfl changed

inductive Deed (env : Environment) : Machine → Machine → Prop
  | act {P : Value → Prop} {m n : Machine} (h : Act env P m n) : Deed env m n
  | push (m : Machine) (f : Frame) : Deed env m (m.push f)
  | pop (m : Machine) (locals : Register Value) : Deed env m (m.pop locals)
  | restart (m : Machine) : Deed env m (m.transfer .restart)
  | error (m : Machine) (status : Int64) (text : String) : Deed env m (m.raise status text)

def Scope.Drafts (s : Scope) : Prop := s = .miss ∨ s = .pass

/-- A step that leaves the request to the backend alone, or writes one of its variables. -/
inductive Drafts (env : Environment) : Machine → Machine → Prop
  | edit {m : Machine} {name : String} {c : Context} (stage : m.context.scope.Drafts)
    (ofBackend : OfBackendRequest name) (written : Edit env name m.context c) :
    Drafts env m { m with context := c }
  | other {m n : Machine} (deed : Deed env m n)
    (same : n.context.backendRequest = m.context.backendRequest) :
    Drafts env m n

theorem Act.drafts (h : Act env P m n) (stage : m.context.scope.Drafts) : Drafts env m n := by
  by_cases same : n.context.backendRequest = m.context.backendRequest
  · exact .other (.act h) same
  · obtain ⟨name, c, written, rfl⟩ := h.edit same
    exact .edit stage (written.ofBackendRequest same) written

def drafting (env : Environment) : Discipline env where
  run m _ n :=
    n.context.scope = m.context.scope ∧ (m.context.scope.Drafts → ReflTransGen (Drafts env) m n)
  refl _ := ⟨rfl, fun _ => .refl⟩
  trans h h' := ⟨h'.1.trans h.1, fun stage => (h.2 stage).trans (h'.2 (h.1 ▸ stage))⟩
  scope h := h.1
  act h := ⟨Context.scope_eq_of_settled h.settled, fun stage => .single (h.drafts stage)⟩
  restart _ := ⟨rfl, fun _ => .single (.other (.restart _) rfl)⟩
  error _ _ _ := ⟨rfl, fun _ => .single (.other (.error ..) rfl)⟩
  framed _ h :=
    ⟨h.1, fun stage => ((h.2 stage).head (.other (.push ..) rfl)).tail (.other (.pop ..) rfl)⟩

theorem subroutine_drafts {s : Scope} (hs : s.Drafts) {name : String} {e : Ending}
    (h : Run.subroutine env name s m = (.done e, n)) :
    ∃ p, ReflTransGen (Drafts env) (m.atStage s) p ∧ n = p.ended e := by
  have ran := Discipline.subroutine_verdict (d := drafting env) name s m
  rw [h] at ran
  obtain ⟨p, path, hn⟩ := ran
  exact ⟨p, path.2 hs, hn⟩

end Stages

end EdgeCache
