import EdgeCache.Variable.Access

/-! What a stage may do to the context of a request. Writes to variables reach a message only where
the stage may write that message, and never what the lifecycle itself keeps. -/

namespace EdgeCache

section Results

variable {ε α β : Type} {r : Except ε α}

theorem bind_eq_ok {f : α → Except ε β} {b : β} (h : r >>= f = .ok b) :
    ∃ a, r = .ok a ∧ f a = .ok b := by
  cases r with
  | ok a => exact ⟨a, rfl, h⟩
  | error e => cases h

theorem bind_eq_error {f : α → Except ε β} {e : ε} (h : r >>= f = .error e) :
    r = .error e ∨ ∃ a, r = .ok a ∧ f a = .error e := by
  cases r with
  | ok a => exact .inr ⟨a, rfl, h⟩
  | error e' =>
    cases h
    exact .inl rfl

theorem foldlM_keeps {P : β → Prop} {f : β → α → Except ε β} {xs : List α}
    (step : ∀ b, ∀ a ∈ xs, ∀ c, f b a = .ok c → P b → P c) {b c : β} (h : xs.foldlM f b = .ok c)
    (hb : P b) : P c := by
  induction xs generalizing b with
  | nil =>
    cases h
    exact hb
  | cons x xs ih =>
    rw [List.foldlM_cons] at h
    obtain ⟨b', hb', h⟩ := bind_eq_ok h
    have rest := fun b a ha => step b a (List.mem_cons_of_mem x ha)
    exact ih rest h (step b x (List.mem_cons_self ..) b' hb' hb)

theorem mapError_eq_ok {f : ε → β} {a : α} (h : r.mapError f = .ok a) : r = .ok a := by
  cases r with
  | ok b => cases h; rfl
  | error e => cases h

theorem map_eq_ok {f : α → β} {b : β} (h : r.map f = .ok b) : ∃ a, r = .ok a ∧ f a = b := by
  cases r <;> cases h
  exact ⟨_, rfl, rfl⟩

variable {σ : Type} {s t : σ}

theorem run_ofExcept_eq_ok {a : α} (h : (ofExcept r : EStateM ε σ α) s = .ok a t) :
    r = .ok a ∧ t = s := by
  cases r with
  | ok b =>
    cases h
    exact ⟨rfl, rfl⟩
  | error e => cases h

theorem run_lift_eq_ok {a : α} (h : (Stop.lift r : EStateM (Stop ε) σ α) s = .ok a t) :
    r = .ok a ∧ t = s :=
  (run_ofExcept_eq_ok h).imp mapError_eq_ok id

theorem run_bind_eq_ok {x : EStateM ε σ α} {f : α → EStateM ε σ β} {b : β}
    (h : (x >>= f) s = .ok b t) :
    ∃ a u, x s = .ok a u ∧ f a u = .ok b t := by
  change EStateM.bind x f s = _ at h
  unfold EStateM.bind at h
  cases hx : x s with
  | ok a u =>
    rw [hx] at h
    exact ⟨a, u, rfl, h⟩
  | error e u =>
    rw [hx] at h
    cases h

end Results

namespace Context

def message (c : Context) : MessageName → Request ⊕ Response
  | .request => .inl c.request
  | .backendRequest => .inl c.backendRequest
  | .backendResponse => .inr c.backendResponse
  | .object => .inr c.object
  | .response => .inr c.response

structure Settled where
  scope : Scope
  client : Address × Nat
  selected : Option Backend
  restarts : Nat
  state : String
  returnState : Option ReturnState
  ending : Option Ending
  locallyGenerated : Bool
  requestId : String

def settled (c : Context) : Settled :=
  ⟨c.scope, (c.client, c.clientPort), c.selected, c.restarts, c.state, c.returnState, c.ending,
    c.locallyGenerated, c.requestId⟩

/-- A change that the stage of a context may make. -/
structure Permitted (c d : Context) : Prop where
  settled : d.settled = c.settled
  message : ∀ m, m ∉ Variable.writableMessages c.scope → d.message m = c.message m

theorem scope_eq_of_settled {c d : Context} (h : d.settled = c.settled) : d.scope = c.scope :=
  congrArg Settled.scope h

theorem restarts_eq_of_settled {c d : Context} (h : d.settled = c.settled) :
    d.restarts = c.restarts :=
  congrArg Settled.restarts h

theorem message_setHeaders (c : Context) (h : Headers) {m n : MessageName} (hn : n ≠ m) :
    (c.setHeaders h m).message n = c.message n := by
  cases m <;> cases n <;> first | rfl | exact absurd rfl hn

theorem settled_setHeaders (c : Context) (h : Headers) (m : MessageName) :
    (c.setHeaders h m).settled = c.settled := by
  cases m <;> rfl

namespace Permitted

variable {c d e : Context}

theorem of_messages (hs : d.settled = c.settled) (hm : d.message = c.message) : Permitted c d :=
  ⟨hs, fun m _ => congrFun hm m⟩

theorem of_others {m : MessageName} (hm : m ∈ Variable.writableMessages c.scope)
    (hs : d.settled = c.settled) (others : ∀ n, n ≠ m → d.message n = c.message n) :
    Permitted c d := by
  refine ⟨hs, fun n hn => others n ?_⟩
  rintro rfl
  exact hn hm

theorem setHeaders (h : Headers) {m : MessageName} (hm : m ∈ Variable.writableMessages c.scope) :
    Permitted c (c.setHeaders h m) :=
  of_others hm (settled_setHeaders c h m) fun _ hn => message_setHeaders c h hn

end Permitted

end Context

namespace Variable

open Context

def shared : List (String × Variable) := common ++ mathConstants ++ firewall ++ connection

theorem mem_of_lookup {l : List (String × Variable)} {name : String} {x : Variable}
    (h : l.lookup name = some x) : (name, x) ∈ l := by
  obtain ⟨front, back, rfl, -⟩ := List.lookup_eq_some_iff.mp h
  simp

theorem cases_ofName? {s : Scope} {name : String} {x : Variable} (h : ofName? s name = some x) :
    (name, x) ∈ special s ∨ (name, x) ∈ shared ∨ family? name = some x ∨
      ∃ m field, headerOf? name = some (m, field) ∧ x = .header m field := by
  simp only [shared, List.mem_append]
  unfold ofName? at h
  split at h
  · cases h
    exact .inl (mem_of_lookup ‹_›)
  · cases h
    exact .inr (.inl (.inl (.inl (.inl (mem_of_lookup ‹_›)))))
  · cases h
    exact .inr (.inr (.inl ‹_›))
  · split at h
    · split at h <;> cases h
      exact .inr (.inr (.inr ⟨_, _, ‹_›, rfl⟩))
    · split at h
      · cases h
        exact .inr (.inl (.inl (.inl (.inr (mem_of_lookup ‹_›)))))
      · cases h
        exact .inr (.inl (.inl (.inr (mem_of_lookup ‹_›))))
      · exact .inr (.inl (.inr (mem_of_lookup h)))

theorem cases_family? {name : String} {x : Variable} (h : family? name = some x) :
    (∃ index, x = .group index) ∨ ((after? "var." name).isSome = true ∧ x = .local name) ∨
    x = integer 0 := by
  unfold family? at h
  split at h
  · cases h
    exact .inl ⟨_, rfl⟩
  · cases h
    exact .inr (.inl ⟨Option.isSome_iff_exists.mpr ⟨_, ‹after? "var." name = some _›⟩, rfl⟩)
  · cases h
    exact .inr (.inr rfl)
  · split at h <;> cases h
    exact .inr (.inr rfl)
  · cases h

theorem forall_ofName? {p : Variable → Bool}
    (ofSpecial : ∀ s, (special s).all (fun e => p e.2) = true)
    (ofShared : shared.all (fun e => p e.2) = true) (group : ∀ index, p (.group index) = true)
    (locals : ∀ name, p (.local name) = true) (zero : p (integer 0) = true)
    (header : ∀ m field, p (.header m field) = true) {s : Scope} {name : String} {x : Variable}
    (h : ofName? s name = some x) : p x = true := by
  rcases cases_ofName? h with special | shared | family | ⟨m, field, -, rfl⟩
  · exact List.all_eq_true.mp (ofSpecial s) _ special
  · exact List.all_eq_true.mp ofShared _ shared
  · rcases cases_family? family with ⟨index, rfl⟩ | ⟨-, rfl⟩ | rfl
    · exact group index
    · exact locals name
    · exact zero
  · exact header m field

variable {c d : Context}

theorem header_isWritable {s : Scope} {m : MessageName} {field : String}
    (h : isWritable s (.header m field) = true) : m ∈ writableMessages s :=
  List.contains_iff_mem.mp h

theorem method_isWritable {s : Scope} {m : MessageName} (h : isWritable s (.method m) = true) :
    m ∈ writableMessages s ∧ (m = .request ∨ m = .backendRequest) := by
  cases m <;> cases s <;> simp_all [isWritable, writableMessages]

theorem status_isWritable {s : Scope} {m : MessageName} (h : isWritable s (.status m) = true) :
    m ∈ writableMessages s ∧ (m = .backendResponse ∨ m = .response) := by
  cases m <;> cases s <;> simp_all [isWritable, writableMessages]

theorem setMethod_permitted (method : Method) {m : MessageName}
    (h : isWritable c.scope (.method m) = true) : Permitted c (setMethod c method m) := by
  rcases method_isWritable h with ⟨hm, rfl | rfl⟩
  all_goals
    refine .of_others hm rfl fun n hn => ?_
    cases n <;> first | rfl | exact absurd rfl hn

theorem setUri_permitted (uri : Uri) {m : MessageName} (h : isWritable c.scope (.url m) = true) :
    Permitted c (setUri c uri m) := by
  rcases method_isWritable h with ⟨hm, rfl | rfl⟩
  all_goals
    refine .of_others hm rfl fun n hn => ?_
    cases n <;> first | rfl | exact absurd rfl hn

theorem setStatus_permitted (status : Status) {m : MessageName}
    (h : isWritable c.scope (.status m) = true) : Permitted c (setStatus c status m) := by
  rcases status_isWritable h with ⟨hm, rfl | rfl⟩
  all_goals
    refine .of_others hm rfl fun n hn => ?_
    cases n <;> first | rfl | exact absurd rfl hn

theorem write_permitted {name : String} {op : AssignOp} {v : Value} {x : Variable}
    (hx : isWritable c.scope x = true) (h : x.write c name op v = .ok d) : Permitted c d := by
  cases x with
  | slot s =>
    obtain ⟨w, -, hd⟩ := bind_eq_ok h
    cases hd
    exact .of_messages rfl rfl
  | header m field =>
    obtain ⟨headers, -, hd⟩ := bind_eq_ok h
    cases hd
    exact .setHeaders headers (header_isWritable hx)
  | «local» n =>
    simp only [write] at h
    split at h
    · cases h
    · obtain ⟨w, -, hd⟩ := bind_eq_ok h
      cases hd
      exact .of_messages rfl rfl
  | clientIdentity =>
    obtain ⟨text, -, hd⟩ := bind_eq_ok h
    cases hd
    exact .of_messages rfl rfl
  | method m =>
    obtain ⟨method, -, hd⟩ := bind_eq_ok h
    cases hd
    exact setMethod_permitted method hx
  | url m =>
    obtain ⟨uri, -, hd⟩ := bind_eq_ok h
    cases hd
    exact setUri_permitted uri hx
  | status m =>
    obtain ⟨status, -, hd⟩ := bind_eq_ok h
    cases hd
    exact setStatus_permitted status hx
  | backend =>
    obtain ⟨b, -, hd⟩ := bind_eq_ok h
    cases hd
    exact .of_messages rfl rfl
  | group _ => cases h
  | reading _ => cases h

end Variable

namespace Context

open Variable

variable {env : Environment} {c d : Context} {name : String}

theorem isWritable_of_writable? {x : Variable} (h : c.writable? name = some x) :
    isWritable c.scope x = true :=
  (Option.filter_eq_some_iff.mp h).2

theorem setVariable_permitted {op : AssignOp} {v : Value}
    (h : c.setVariable env name op v = .ok d) : Permitted c d := by
  unfold setVariable at h
  split at h
  · cases h
  · exact write_permitted (isWritable_of_writable? ‹_›) (mapError_eq_ok h)

theorem addVariable_permitted {v : Value} (h : c.addVariable env name v = .ok d) :
    Permitted c d := by
  unfold addVariable at h
  split at h
  · obtain ⟨key, -, h⟩ := bind_eq_ok (mapError_eq_ok h)
    obtain ⟨value, -, hd⟩ := bind_eq_ok h
    cases hd
    exact .setHeaders _ (header_isWritable (isWritable_of_writable? ‹_›))
  · split at h <;> cases h

theorem unsetVariable_permitted (h : c.unsetVariable env name = .ok d) : Permitted c d := by
  unfold unsetVariable at h
  split at h
  · obtain ⟨key, -, hd⟩ := bind_eq_ok (mapError_eq_ok h)
    cases hd
    exact .setHeaders _ (header_isWritable (isWritable_of_writable? ‹_›))
  · split at h
    · cases h
      exact .of_messages rfl rfl
    · cases h
  · cases h

end Context

end EdgeCache
