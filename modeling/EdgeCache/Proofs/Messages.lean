import EdgeCache.Proofs.Discipline
import EdgeCache.Proofs.Laws
import EdgeCache.Proofs.Utf8
import Mathlib.Logic.Relation

/-! The messages that a stage may not write. Whatever a program does, such a message can change in
one way only: several values of a field are put into one. -/

namespace EdgeCache

open Relation (ReflTransGen)

namespace Context

variable {name : MessageName} {c d e : Context}

theorem setHeaders_headers (c : Context) (name : MessageName) :
    (c.setHeaders (c.headers name) name).message name = c.message name := by
  cases name <;> rfl

theorem headers_of_message (h : d.message name = c.message name) :
    d.headers name = c.headers name := by
  cases name <;> simp only [message, Sum.inl.injEq, Sum.inr.injEq] at h <;> simp only [headers, h]

theorem setHeaders_of_message {x : Headers} (y : Headers)
    (h : d.message name = (c.setHeaders x name).message name) :
    (d.setHeaders y name).message name = (c.setHeaders y name).message name := by
  cases name <;> simp only [message, setHeaders, Sum.inl.injEq, Sum.inr.injEq] at h ⊢ <;> rw [h]

def Gathers (name : MessageName) (c d : Context) : Prop :=
  ∃ headers, ReflTransGen Headers.Joins (c.headers name) headers ∧
    d.message name = (c.setHeaders headers name).message name

namespace Gathers

theorem of_message (h : d.message name = c.message name) : Gathers name c d :=
  ⟨c.headers name, .refl, h.trans (setHeaders_headers c name).symm⟩

theorem join {headers : Headers} (h : (c.headers name).Joins headers) :
    Gathers name c (c.setHeaders headers name) :=
  ⟨headers, .single h, rfl⟩

theorem trans (h : Gathers name c d) (h' : Gathers name d e) : Gathers name c e := by
  obtain ⟨x, hx, hd⟩ := h
  obtain ⟨y, hy, he⟩ := h'
  -- what is joined later are the headers that the first run left
  have same : d.headers name = x := by
    rw [headers_of_message hd, headers_setHeaders, if_pos rfl]
  rw [same] at hy
  exact ⟨y, hx.trans hy, he.trans (setHeaders_of_message y hd)⟩

theorem message_eq (hone : ∀ field, ((c.headers name).texts field).length < 2)
    (h : Gathers name c d) : d.message name = c.message name := by
  obtain ⟨headers, hx, hd⟩ := h
  rcases hx.cases_head with rfl | ⟨x, ⟨field, _, _, _, _, hlen, _⟩, -⟩
  · rw [hd, setHeaders_headers]
  · exact absurd (hone field) (by omega)

end Gathers

end Context

open Context (Gathers)

def gathers (env : Environment) (name : MessageName) : Discipline env where
  run m _ n := n.context.scope = m.context.scope ∧
    (name ∉ Variable.writableMessages m.context.scope → Gathers name m.context n.context ∧
      (m.context.scope = .unknown → n.context.message name = m.context.message name))
  refl m := ⟨rfl, fun _ => ⟨.of_message rfl, fun _ => rfl⟩⟩
  trans := by
    rintro m n p _ ⟨hs, h⟩ ⟨hs', h'⟩
    refine ⟨hs'.trans hs, fun hw => ?_⟩
    obtain ⟨g, hu⟩ := h hw
    rw [← hs] at hw
    obtain ⟨g', hu'⟩ := h' hw
    exact ⟨g.trans g', fun u => (hu' (hs.trans u)).trans (hu u)⟩
  scope h := h.1
  act := by
    intro _ m n h
    refine ⟨Context.scope_eq_of_settled h.settled, fun hw => ?_⟩
    rcases h.permitted_or_joins with hp | ⟨hs, other, headers, hj, hn⟩
    · have same := hp.message name hw
      exact ⟨.of_message same, fun _ => same⟩
    · refine ⟨?_, fun u => absurd u hs⟩
      rw [hn]
      by_cases ho : name = other
      · subst ho
        exact .join hj
      · exact .of_message (Context.message_setHeaders _ headers ho)
  restart _ := ⟨rfl, fun _ => ⟨.of_message rfl, fun _ => rfl⟩⟩
  error := by
    intro m status text _
    have same : (m.raise status text).context.message name = m.context.message name := by
      cases name <;> rfl
    exact ⟨rfl, fun _ => ⟨.of_message same, fun _ => same⟩⟩
  framed := by
    intro m f _ n locals h
    have start : (m.push f).context.message name = m.context.message name := by cases name <;> rfl
    have stop : (n.pop locals).context.message name = n.context.message name := by
      cases name <;> rfl
    refine ⟨h.1, fun hw => ?_⟩
    obtain ⟨g, hu⟩ := h.2 hw
    refine ⟨(Gathers.of_message start).trans (g.trans (.of_message stop)), fun u => ?_⟩
    rw [stop, hu u, start]

variable {env : Environment} {name : MessageName}

theorem runFrom_gathers (env : Environment) (name : MessageName) (n : Nat)
    (whole rest : List Statement) (m : Machine) :
    ∃ e, (gathers env name).run m e (Run.runFrom env n whole rest m).2 := by
  have ran := Discipline.runFrom_verdict (d := gathers env name) n whole rest m
  generalize Run.runFrom env n whole rest m = r at ran
  rcases r with ⟨flow | f | _, n⟩
  · exact ⟨_, ran⟩
  · exact ⟨_, ran.2⟩
  · exact ⟨_, ran⟩

theorem subroutine_gathers (subroutine : String) (s : Scope) (m : Machine)
    (hw : name ∉ Variable.writableMessages s) :
    Gathers name m.context (Run.subroutine env subroutine s m).2.context ∧
      (s = .unknown → (Run.subroutine env subroutine s m).2.context.message name =
        m.context.message name) := by
  have ran := Discipline.subroutine_verdict (d := gathers env name) subroutine s m
  have start : (m.atStage s).context.message name = m.context.message name := by cases name <;> rfl
  have through {e n} (h : (gathers env name).run (m.atStage s) e n) :
      Gathers name m.context n.context ∧
        (s = .unknown → n.context.message name = m.context.message name) := by
    obtain ⟨g, hu⟩ := h.2 hw
    exact ⟨(Gathers.of_message start).trans g, fun u => (hu u).trans start⟩
  generalize Run.subroutine env subroutine s m = r at ran
  rcases r with ⟨e | f | _, n⟩
  · obtain ⟨p, hp, rfl⟩ := ran
    have stop : (p.ended e).context.message name = p.context.message name := by cases name <;> rfl
    obtain ⟨g, hu⟩ := through hp
    exact ⟨g.trans (.of_message stop), fun u => stop.trans (hu u)⟩
  · exact through ran.2
  · exact through ran

/-! A field with several values can be collected at any stage. -/

theorem lt_of_isVisible {b : UInt8} (h : HeaderValue.isVisible b = true) : b.toNat < 128 := by
  simp only [HeaderValue.isVisible, Bool.or_eq_true, Bool.and_eq_true, decide_eq_true_eq,
    beq_iff_eq] at h
  omega

theorem ofString_of_text? {v : HeaderValue} {t : String} (h : v.text? = some t) :
    Utf8.ofString t = v.bytes := by
  unfold HeaderValue.text? at h
  split at h <;> cases h
  rename_i visible
  unfold Utf8.ofString Utf8.encode
  rw [String.toList_ofList, List.flatMap_map]
  generalize v.bytes = bytes at visible
  induction bytes with
  | nil => rfl
  | cons b bs ih =>
    rw [List.all_cons, Bool.and_eq_true] at visible
    rw [List.flatMap_cons, ih visible.2, Utf8.utf8EncodeChar_byte (lt_of_isVisible visible.1)]
    rfl

theorem ofString_append (s t : String) :
    Utf8.ofString (s ++ t) = Utf8.ofString s ++ Utf8.ofString t := by
  unfold Utf8.ofString Utf8.encode
  rw [String.toList_append, List.flatMap_append]

theorem all_isFieldByte_intercalate {ts : List String}
    (h : ∀ t ∈ ts, (Utf8.ofString t).all isFieldByte = true) :
    (Utf8.ofString (String.intercalate ", " ts)).all isFieldByte = true := by
  induction ts with
  | nil => rfl
  | cons t ts ih =>
    have first := h t List.mem_cons_self
    have rest := ih fun u hu => h u (List.mem_cons_of_mem t hu)
    cases ts with
    | nil => rwa [String.intercalate_singleton]
    | cons u us =>
      rw [String.intercalate_cons_cons, ofString_append, ofString_append, List.all_append,
        List.all_append, first, rest]
      rfl

theorem exists_joined (h : Headers) (field : String) :
    ∃ v, HeaderValue.ofText? (String.intercalate ", " (h.texts field)) = some v := by
  have valid : (Utf8.ofString (String.intercalate ", " (h.texts field))).all isFieldByte =
      true := by
    -- a value that shows as text has the same bytes as the text, and these are valid
    refine all_isFieldByte_intercalate fun t ht => ?_
    unfold Headers.texts at ht
    split at ht
    · obtain ⟨v, -, hv⟩ := List.mem_filterMap.mp ht
      rw [ofString_of_text? hv]
      exact v.valid
    · cases ht
  unfold HeaderValue.ofText? HeaderValue.ofBytes?
  rw [dif_pos valid]
  exact ⟨_, rfl⟩

theorem values_insert (h : Headers) (n : HeaderName) (v : HeaderValue) :
    (h.insert n v).values n = [v] := by
  simp [Headers.insert, Headers.remove, Headers.append, Headers.values, List.filter_append,
    List.filter_filter]

theorem Headers.Joins.ne {h h' : Headers} (hj : h.Joins h') : h' ≠ h := by
  rintro rfl
  obtain ⟨field, _, key, v, hk, hlen, -, he⟩ := hj
  have one : (h'.values key).length = 1 := by rw [he, values_insert]; rfl
  have few : (h'.texts field).length ≤ (h'.values key).length := by
    unfold Headers.texts
    rw [hk]
    exact List.length_filterMap_le _ _
  omega

def fieldName (name : MessageName) (field : String) : String := name.text ++ ".http." ++ field

theorem toList_ne_nil {field : String} {key : HeaderName}
    (h : HeaderName.ofText? field = some key) :
    field.toList ≠ [] := by
  intro empty
  rw [String.toList_eq_nil_iff.mp empty] at h
  cases h

theorem headerOf?_fieldName {field : String} {key : HeaderName}
    (h : HeaderName.ofText? field = some key) :
    Variable.headerOf? (fieldName name field) = some (name, field) := by
  have cut : Pieces.cutAtPart? ".http.".toList (fieldName name field).toList =
      some (name.text.toList, field.toList) := by
    unfold fieldName
    rw [String.toList_append, String.toList_append]
    cases name <;> simp [MessageName.text, Pieces.cutAtPart?, List.isPrefixOf]
  have known : MessageName.ofText? name.text = some name := by cases name <;> decide
  unfold Variable.headerOf?
  rw [cut]
  simp [known, toList_ne_nil h]

def collector : Builtin :=
  (Builtin.make "std.collect" [.ident] [.string] Builtin.collect).asStatement

theorem ofName_collect : Builtin.ofName? "std.collect" = some collector := by rfl

theorem resolve_collect {c : Context} (hs : c.scope ≠ .unknown) :
    Builtin.resolve env c "std.collect" = .ok collector := by
  have allowed : collector.scopes.contains c.scope = true := by
    generalize c.scope = s at hs ⊢
    cases s <;> first | rfl | exact absurd rfl hs
  unfold Builtin.resolve
  rw [ofName_collect]
  simp only [allowed, if_true]
  rfl

def collecting (name : MessageName) (field : String) : Statement :=
  .apply .unknown "std.collect" [.ident .unknown (fieldName name field)]

section Collecting

variable {field : String}

theorem exists_key {h : Headers} (hlen : 2 ≤ (h.texts field).length) :
    ∃ key, HeaderName.ofText? field = some key ∧
      h.texts field = (h.values key).filterMap HeaderValue.text? := by
  unfold Headers.texts at hlen ⊢
  split at hlen
  · exact ⟨_, ‹_›, rfl⟩
  · cases hlen

theorem collectHeader_eq {c : Context} (hlen : 2 ≤ ((c.headers name).texts field).length) :
    ∃ headers, (c.headers name).Joins headers ∧
      Builtin.collectHeader c (fieldName name field) ", " = .ok (c.setHeaders headers name) := by
  obtain ⟨key, hk, ht⟩ := exists_key hlen
  obtain ⟨value, hv⟩ := exists_joined (c.headers name) field
  refine ⟨(c.headers name).insert key value, ⟨field, ", ", key, value, hk, hlen, hv, rfl⟩, ?_⟩
  have hkey : Variable.headerName field = .ok key := by
    unfold Variable.headerName
    rw [hk]
  have hvalue :
      Variable.headerValue field (String.intercalate ", " ((c.headers name).texts field)) =
      .ok value := by
    unfold Variable.headerValue
    rw [hv]
  simp only [Builtin.collectHeader, headerOf?_fieldName hk, hkey, bind, Except.bind, ← ht, hvalue]
  rw [if_neg (by omega)]
  rfl

theorem applyBuiltin_collect (env : Environment) (value : Run.Evaluator) {m : Machine} {c : Context}
    (hs : m.context.scope ≠ .unknown)
    (hc : Builtin.collectHeader m.context (fieldName name field) ", " = .ok c) :
    Run.applyBuiltin env value "std.collect" [.ident .unknown (fieldName name field)] m =
      (.done .next, { m with context := c }) := by
  have asked : Builtin.collected m.context [.ident (fieldName name field)] =
      Builtin.collectHeader m.context (fieldName name field) ", " := rfl
  have called : collector.run env [.ident (fieldName name field)] m.context = .ok .null c := by
    show Builtin.collect env [.ident (fieldName name field)] m.context = _
    rw [Builtin.collect_eq, asked, hc]
  have ran : Run.callBuiltin env collector [.ident (fieldName name field)] m =
      (.done .null, { m with context := c }) := by
    unfold Run.callBuiltin
    rw [called]
  have found :
      Run.asking (fun c => Builtin.resolve env c "std.collect") m = (.done collector, m) := by
    show Run.ofExcept (Builtin.resolve env m.context "std.collect") m = _
    rw [resolve_collect hs]
    rfl
  unfold Run.applyBuiltin
  rw [Run.bind_of_done found]
  show (discard (Run.callBuiltin env collector [.ident (fieldName name field)]) >>= fun _ =>
    (Pure.pure Flow.next : Run Flow)) m = _
  have kept : discard (Run.callBuiltin env collector [.ident (fieldName name field)]) m =
      (.done (), { m with context := c }) := Run.bind_of_done ran
  exact Run.bind_of_done kept

theorem runFrom_collecting (env : Environment) {m : Machine} (hs : m.context.scope ≠ .unknown)
    (hlen : 2 ≤ ((m.context.headers name).texts field).length) :
    ∃ headers, (m.context.headers name).Joins headers ∧
      (Run.runFrom env 2 [collecting name field] [collecting name field] m).2.context =
        m.context.setHeaders headers name := by
  obtain ⟨headers, hj, hc⟩ := collectHeader_eq hlen
  refine ⟨headers, hj, ?_⟩
  have ran := applyBuiltin_collect env (Run.evaluate env 1)
    (m := m.note (.statement (collecting name field))) hs hc
  have effect : Run.executeWith env (Run.evaluate env 1) (fun b => Run.runFrom env 1 b b)
      (collecting name field) (m.note (.statement (collecting name field))) =
      (.done .next, { m.note (.statement (collecting name field)) with
        context := m.context.setHeaders headers name }) := Run.pinned_of_done .unknown ran
  rw [Run.runFrom, effect]
  rfl

end Collecting

namespace MessageName

def isWrittenAt : MessageName → Scope → Bool
  | request, _ => true
  | backendRequest, s => s == .miss || s == .pass
  | backendResponse, s => s == .fetch
  | object, s => s == .error
  | response, s => s == .deliver

theorem mem_writableMessages {s : Scope} :
    name ∈ Variable.writableMessages s ↔ name.isWrittenAt s = true := by
  cases name <;> cases s <;> decide

end MessageName

/-- What a run of statements can make of a context, or a run of a subroutine at the same stage. -/
inductive Context.RunsTo (env : Environment) (c : Context) : Context → Prop
  | statements (n : Nat) (whole rest : List Statement) {m : Machine} (start : m.context = c) :
    RunsTo env c (Run.runFrom env n whole rest m).2.context
  | subroutine (name : String) {m : Machine} (start : m.context = c) :
    RunsTo env c (Run.subroutine env name c.scope m).2.context

theorem Context.RunsTo.gathers {c d : Context} (hw : name ∉ Variable.writableMessages c.scope)
    (h : c.RunsTo env d) :
    Gathers name c d ∧ (c.scope = .unknown → d.message name = c.message name) := by
  cases h with
  | @statements n whole rest m start =>
    subst start
    obtain ⟨_, ran⟩ := runFrom_gathers env name n whole rest m
    exact ran.2 hw
  | subroutine sub start =>
    subst start
    exact subroutine_gathers sub _ _ hw

/-- A message that the stage may not write changes only in that several values of a field are put
into one. It stays the same in every run exactly if no stage runs or no field has several values. -/
theorem message_kept_iff {c : Context} (hw : name.isWrittenAt c.scope = false) :
    (∀ d, c.RunsTo env d → Gathers name c d) ∧
      ((∀ d, c.RunsTo env d → d.message name = c.message name) ↔
        c.scope = .unknown ∨ ∀ field, ((c.headers name).texts field).length < 2) := by
  have hw : name ∉ Variable.writableMessages c.scope := by
    rw [MessageName.mem_writableMessages, hw]
    exact Bool.false_ne_true
  refine ⟨fun d h => (h.gathers hw).1, fun kept => ?_, fun h d hd => ?_⟩
  · refine Decidable.or_iff_not_imp_left.mpr fun hs field => Nat.not_le.mp fun hlen => ?_
    -- the statement that collects the field changes the message
    obtain ⟨headers, hj, hc⟩ := runFrom_collecting env (m := .start c) hs hlen
    have same :=
      kept _ (.statements (m := .start c) 2 [collecting name field] [collecting name field] rfl)
    rw [hc] at same
    have same := Context.headers_of_message same
    rw [Context.headers_setHeaders, if_pos rfl] at same
    exact hj.ne same
  · rcases h with unknown | single
    · exact (hd.gathers hw).2 unknown
    · exact (hd.gathers hw).1.message_eq single

def fieldOf (values : List HeaderValue) : Headers := ⟨values.map fun v => (⟨"x-a"⟩, v)⟩

def valueOne : HeaderValue := ⟨[0x31], by decide⟩

def valueTwo : HeaderValue := ⟨[0x32], by decide⟩

def collectInLog : Environment :=
  .of { Declarations.empty with
    subroutines := [
      ⟨.unknown, "vcl_log", none, [
        .apply .unknown "std.collect" [.ident .unknown "resp.http.x-a"]]⟩] } .standard

def inLog (headers : Headers) : Context :=
  { Context.start collectInLog .empty .loopback 0 (.ofSeed 0) with
    scope := .log
    response := { Response.empty with headers := headers } }

theorem message_kept_inLog :
    MessageName.response.isWrittenAt (inLog (fieldOf [valueOne])).scope = false ∧
      ∀ d, (inLog (fieldOf [valueOne])).RunsTo collectInLog d →
        d.message .response = (inLog (fieldOf [valueOne])).message .response := by
  have closed : MessageName.response.isWrittenAt (inLog (fieldOf [valueOne])).scope = false := rfl
  have single (field : String) : ((fieldOf [valueOne]).texts field).length < 2 := by
    unfold Headers.texts
    split
    · refine Nat.lt_succ_of_le (Nat.le_trans (List.length_filterMap_le _ _) ?_)
      unfold Headers.values
      rw [List.length_map]
      exact List.length_filter_le _ _
    · exact Nat.zero_lt_two
  exact ⟨closed, (message_kept_iff closed).2.mpr (.inr single)⟩

/-- The last stage changes the response that is served. -/
theorem response_collected_inLog :
    let c := inLog (fieldOf [valueOne, valueTwo])
    let r := Run.subroutine collectInLog "vcl_log" .log (.start c)
    MessageName.response.isWrittenAt .log = false ∧ c.response.headers.texts "x-a" = ["1", "2"] ∧
      r.1 = .done (.returned .deliver) ∧ r.2.context.response.headers.texts "x-a" = ["1, 2"] := by
  refine ⟨rfl, ?_, ?_, ?_⟩
  · decide
  · rfl
  · rfl

end EdgeCache
