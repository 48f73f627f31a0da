import EdgeCache.Proofs.Declared
import EdgeCache.Proofs.Drafts
import EdgeCache.Proofs.InPlace
import Mathlib.Data.List.TakeWhile

/-! What a variable that is no header gives back of a value that it took. -/

namespace EdgeCache

/-- An assignment of the value leaves that text in every slot of the type. -/
def Kind.Renders (k : Kind) (v : Value) (text : String) : Prop :=
  ∀ slot : Value, slot.kind = k → ∃ w, slot.assign .assign v = .ok w ∧ w.text = text

namespace Value

variable {slot v w : Value}

theorem renders_of_assign (h : slot.assign .assign v = .ok w) : slot.kind.Renders v w.text := by
  have converted {α : Type} {r : Except ValueError α} {f g : α → Except ValueError Value}
      (h : r >>= f = .ok w) (texts : ∀ a, (f a).map text = (g a).map text) :
      ∃ w', r >>= g = .ok w' ∧ w'.text = w.text := by
    obtain ⟨a, found, h⟩ := bind_eq_ok h
    have given : (g a).map text = .ok w.text := by rw [← texts, h]; rfl
    rw [found]
    exact map_eq_ok given
  intro other same
  cases slot <;> cases other <;> cases same
  case integer.integer => exact converted h fun _ => rfl
  case float.float => exact converted h fun _ => rfl
  case string.string => exact converted h fun _ => rfl
  case bool.bool => exact converted h fun _ => rfl
  case rtime.rtime => exact converted h fun _ => rfl
  case time.time => exact converted h fun _ => rfl
  case ip.ip => exact converted h fun _ => rfl
  case backend.backend => exact converted h fun _ => rfl
  all_goals cases h

end Value

namespace Kind

variable {k : Kind} {v : Value} {text other : String}

theorem exists_slot (k : Kind) : ∃ slot : Value, slot.kind = k := by
  by_cases zero : k.hasZero = true
  · exact ⟨.unset k, (Value.kind_unset k).trans (if_pos zero)⟩
  · cases k with
    | ip => exact ⟨.ofIp .loopback, rfl⟩
    | acl => exact ⟨.acl ⟨"", []⟩, rfl⟩
    | backend => exact ⟨.backend ⟨"", .origin ⟨.unknown, "", []⟩⟩, rfl⟩
    | table => exact ⟨.table "", rfl⟩
    | ident => exact ⟨.ident "", rfl⟩
    | null => exact ⟨.null, rfl⟩
    | integer | float | string | bool | rtime | time => exact absurd rfl zero

theorem renders_iff (h : k.Renders v text) : k.Renders v other ↔ other = text := by
  constructor
  · intro h'
    obtain ⟨slot, hk⟩ := k.exists_slot
    obtain ⟨w, assigned, rfl⟩ := h slot hk
    obtain ⟨w', assigned', rfl⟩ := h' slot hk
    rw [assigned] at assigned'
    cases assigned'
    rfl
  · rintro rfl
    exact h

theorem renders_zeroless (zeroless : k.hasZero = false) (h : k.Renders v text) :
    (k = .ip ∧ (v.kind = .ip ∨ v.kind = .string)) ∨ (k = .backend ∧ v.kind = .backend) := by
  obtain ⟨slot, rfl⟩ := k.exists_slot
  obtain ⟨w, assigned, -⟩ := h slot rfl
  cases slot with
  | ip =>
    obtain ⟨a, taken, -⟩ := bind_eq_ok assigned
    unfold Value.assignAddress at taken
    cases v with
    | ip => exact .inl ⟨rfl, .inl rfl⟩
    | string => exact .inl ⟨rfl, .inr rfl⟩
    | _ => cases taken
  | backend =>
    obtain ⟨b, taken, -⟩ := bind_eq_ok assigned
    unfold Value.assignBackend at taken
    cases v with
    | backend => exact .inr ⟨rfl, rfl⟩
    | _ => cases taken
  | acl | table | ident | null => cases assigned
  | integer | float | string | bool | rtime | time => cases zeroless

end Kind

namespace Uri

def IsPath (text : String) : Prop :=
  text.toList = ['*'] ∨ text.toList.head? = some '/' ∧ '#' ∉ text.toList

instance : DecidablePred IsPath := fun _ => inferInstanceAs (Decidable (_ ∨ _))

theorem readTarget_eq_ok {cs : List Char} {target : String} (h : readTarget cs = .ok target) :
    target.toList = cs.takeWhile (· != '#') := by
  unfold readTarget at h
  dsimp only at h
  split at h <;> cases h
  exact String.toList_ofList

theorem readAuthority_eq_ok {cs rest : List Char} {name : String}
    (h : readAuthority cs = .ok (name, rest)) :
    rest = cs.drop name.toList.length := by
  unfold readAuthority at h
  obtain ⟨s, -, h⟩ := bind_eq_ok h
  dsimp only at h
  split at h
  · cases h
  · cases h
    rw [String.toList_ofList]

theorem readScheme_eq_ok {cs rest : List Char} {scheme : String}
    (h : readScheme cs = .ok (some (scheme, rest))) :
    rest.length < cs.length := by
  have filled : cs ≠ [] := by
    rintro rfl
    cases h
  have shorter : ∀ n, 0 < n → (cs.drop n).length < cs.length := by
    intro n positive
    have := List.length_pos_iff.mpr filled
    rw [List.length_drop]
    omega
  unfold readScheme at h
  split at h
  · cases h
    exact shorter 7 (by decide)
  split at h
  · cases h
    exact shorter 8 (by decide)
  split at h
  · cases h
  dsimp only at h
  split at h
  · rename_i after
    split at h <;> cases h
    have := congrArg List.length after
    rw [List.length_drop] at this
    simp only [List.length_cons] at this
    omega
  · cases h

inductive Form (cs : List Char) : Uri → Prop
  | star (h : cs = ['*']) : Form cs ⟨none, "", "*"⟩
  | path {target : String} (h : cs.head? = some '/')
    (read : target.toList = cs.takeWhile (· != '#')) :
    Form cs ⟨none, "", target⟩
  | authority {name : String} (h : cs.head? ≠ some '/' ∧ cs ≠ ['*']) (filled : cs ≠ [])
    (named : name ≠ "") :
    Form cs ⟨none, name, ""⟩
  | absolute {scheme name target : String} (h : cs.head? ≠ some '/' ∧ cs ≠ ['*'])
    (long : 1 < cs.length)
    (shorter : target.toList.length < cs.length) : Form cs ⟨scheme, name, target⟩

theorem form_of_authority {cs : List Char} {u : Uri} {e : Error}
    (other : cs.head? ≠ some '/' ∧ cs ≠ ['*']) (filled : cs ≠ [])
    (h : (do
      let (name, rest) ← readAuthority cs
      if rest.isEmpty then return ⟨none, name, ""⟩ else throw e) = Except.ok u) : Form cs u := by
  obtain ⟨⟨name, rest⟩, read, h⟩ := bind_eq_ok h
  dsimp only at h
  split at h <;> cases h
  rename_i ends
  refine .authority other filled ?_
  rintro rfl
  rw [readAuthority_eq_ok read] at ends
  exact filled (by simpa using ends)

theorem form_of_scheme {cs rest : List Char} {scheme : String} {u : Uri}
    (other : cs.head? ≠ some '/' ∧ cs ≠ ['*']) (long : 1 < cs.length)
    (shorter : rest.length < cs.length)
    (h : (do
      let (name, rest) ← readAuthority rest
      if name.isEmpty then throw Error.invalidFormat
      return ⟨some scheme, name, ← readTarget rest⟩) = Except.ok u) : Form cs u := by
  obtain ⟨⟨name, after⟩, read, h⟩ := bind_eq_ok h
  dsimp only at h
  split at h
  · cases h
  obtain ⟨target, found, h⟩ := bind_eq_ok h
  cases h
  refine .absolute other long ?_
  have cut := readAuthority_eq_ok read
  calc target.toList.length = (after.takeWhile (· != '#')).length := by rw [readTarget_eq_ok found]
    _ ≤ after.length := (List.takeWhile_sublist _).length_le
    _ ≤ rest.length := by rw [cut, List.length_drop]; omega
    _ < cs.length := shorter

theorem form_of_ofText {text : String} {u : Uri} (h : ofText text = .ok u) :
    Form text.toList u := by
  unfold ofText at h
  dsimp only at h
  split at h
  · cases h
  split at h
  · cases h
  · cases h
    exact .star ‹_›
  · rename_i rest path
    obtain ⟨target, read, h⟩ := bind_eq_ok h
    cases h
    exact .path (by rw [path]; rfl) (readTarget_eq_ok read)
  · rename_i c star path one
    rw [one]
    refine form_of_authority ⟨fun first => path ?_, fun same => star ?_⟩ (List.cons_ne_nil _ _) h
    · exact Option.some.inj first
    · exact (List.cons.inj same).1
  · -- longer than one character and no path: a scheme is looked for, or else an authority
    rename_i filled star path several
    have other : text.toList.head? ≠ some '/' ∧ text.toList ≠ ['*'] := by
      refine ⟨fun first => ?_, star⟩
      obtain ⟨rest, same⟩ := List.head?_eq_some_iff.mp first
      exact path rest same
    have long : 1 < text.toList.length := by
      match found : text.toList with
      | [] => exact (filled found).elim
      | [c] => exact (several c found).elim
      | c :: d :: rest => exact Nat.one_lt_succ_succ _
    obtain ⟨found, read, h⟩ := bind_eq_ok h
    cases found with
    | none => exact form_of_authority other filled h
    | some p =>
      obtain ⟨scheme, rest⟩ := p
      dsimp only at h
      split at h
      · cases h
      · exact form_of_scheme other long (readScheme_eq_ok read) h

theorem resource_of_none {target : String} (h : target ≠ "") :
    resource ⟨none, "", target⟩ = target := by
  have filled : target.isEmpty = false := by simpa using h
  simp [resource, pathAndQuery?, filled]

theorem resource_ofText {text : String} {u : Uri} (h : ofText text = .ok u) :
    u.resource = text ↔ IsPath text := by
  have noPath (other : text.toList.head? ≠ some '/' ∧ text.toList ≠ ['*']) : ¬ IsPath text :=
    fun path => path.elim other.2 fun path => other.1 path.1
  cases form_of_ofText h with
  | star star => exact iff_of_true (String.toList_injective star.symm) (.inl star)
  | @path target first read =>
    obtain ⟨rest, path⟩ := List.head?_eq_some_iff.mp first
    have filled : target ≠ "" := by
      rintro rfl
      rw [path] at read
      cases read
    have isPath : IsPath text ↔ '#' ∉ text.toList := by
      simp [IsPath, path]
    rw [resource_of_none filled, isPath]
    constructor
    · rintro rfl mark
      rw [read] at mark
      simpa using List.mem_takeWhile_imp mark
    · intro unmarked
      refine String.toList_injective (read.trans (List.takeWhile_eq_self_iff.mpr fun c hc => ?_))
      exact bne_iff_ne.mpr fun same => unmarked (same ▸ hc)
  | @authority name other filled named =>
    refine iff_of_false (fun same => filled ?_) (noPath other)
    rw [← same]
    simp [resource, pathAndQuery?, path, named]
  | @absolute scheme name target other long shorter =>
    refine iff_of_false (fun same => ?_) (noPath other)
    rw [← same] at long shorter
    simp only [resource, pathAndQuery?, Option.isSome_some, Bool.true_or, if_true, Option.getD_some]
      at long shorter
    split at long <;> rename_i empty
    · exact absurd long (by decide)
    · rw [if_neg empty] at shorter
      exact lt_irrefl _ shorter

end Uri

namespace Variable

def kindIn (c : Context) (T : Kind) : Variable → Kind
  | .slot s => (c.slot s).kind
  | .local _ => T
  | .status _ => .integer
  | .backend => .backend
  | _ => .string

/-- When a variable that takes a value gives it back as a slot of its type does: a URL if the text
is a path, a local if it holds a value of its own type or takes one, and everything else always. -/
def GivesBack (c : Context) (T : Kind) (v : Value) : Variable → Prop
  | .url _ => Uri.IsPath v.text
  | .local n => ∀ old, c.locals.get? n = some old → old.kind = T ∧ old ≠ .null ∨ v.kind = T
  | _ => True

section

variable {c d : Context} {name : String} {v w old : Value} {T : Kind} {assigned : Bool}

theorem assignText_eq_ok {text old : String} (h : assignText old .assign v = .ok text) :
    text = v.text ∧ Kind.string.Renders v text := by
  obtain ⟨w, taken, rfl⟩ := map_eq_ok h
  refine ⟨?_, Value.renders_of_assign taken⟩
  obtain ⟨⟨text, notSet⟩, read, h⟩ := bind_eq_ok taken
  cases h
  unfold Value.assignString at read
  split at read <;> cases read
  rfl

theorem assignLocal_first (h : assignLocal .null .assign v = .ok w) :
    w = v ∧ v.assign .assign v = .ok v ∧ (v.kind = .ip ∨ v.kind = .backend) := by
  unfold assignLocal at h
  split at h
  · split at h <;> cases h
    · exact ⟨rfl, rfl, .inl rfl⟩
    · exact ⟨rfl, rfl, .inr rfl⟩
  · rename_i usual
    exact absurd rfl (usual rfl)

theorem assignLocal_later (filled : old ≠ .null) (h : assignLocal old .assign v = .ok w) :
    old.assign .assign v = .ok w := by
  unfold assignLocal at h
  split at h
  · exact absurd rfl filled
  · exact h

theorem first_renders_iff (zeroless : T.hasZero = false) (h : assignLocal .null .assign v = .ok w) :
    T.Renders v w.text ↔ v.kind = T := by
  obtain ⟨rfl, itself, kind⟩ := assignLocal_first h
  constructor
  · intro renders
    rcases Kind.renders_zeroless zeroless renders with ⟨rfl, ip | string⟩ | ⟨rfl, backend⟩
    · exact ip
    · rcases kind with other | other <;> rw [string] at other <;> cases other
    · exact backend
  · rintro rfl
    exact Value.renders_of_assign itself

theorem foreign_takes (held : Held T assigned old) (filled : old ≠ .null) (foreign : old.kind ≠ T)
    (h : old.assign .assign v = .ok w) : ¬ T.Renders v w.text ∧ v.kind ≠ T := by
  have zeroless : T.hasZero = false := Bool.eq_false_iff.mpr fun zero => foreign (held.typed zero)
  have holds : old.kind = .ip ∨ old.kind = .backend := by
    cases assigned with
    | false => exact absurd (held.unset zeroless rfl) filled
    | true => exact held.taken zeroless rfl
  have takes := Kind.renders_zeroless (by rcases holds with kind | kind <;> rw [kind] <;> rfl)
    (Value.renders_of_assign h)
  refine ⟨fun own => ?_, ?_⟩
  · have owns := Kind.renders_zeroless zeroless own
    grind
  · rintro rfl
    rcases takes with ⟨ip, ip' | string⟩ | ⟨backend, backend'⟩
    · exact foreign (ip.trans ip'.symm)
    · rw [string] at zeroless
      cases zeroless
    · exact foreign (backend.trans backend'.symm)

theorem assignLocal_renders (held : Held T assigned old) (h : assignLocal old .assign v = .ok w) :
    T.Renders v w.text ↔ old.kind = T ∧ old ≠ .null ∨ v.kind = T := by
  by_cases filled : old = .null
  · subst filled
    have zeroless : T.hasZero = false := by
      refine Bool.eq_false_iff.mpr fun zero => ?_
      rw [← held.typed zero] at zero
      cases zero
    rw [first_renders_iff zeroless h]
    exact (or_iff_right fun own => own.2 rfl).symm
  · have taken := assignLocal_later filled h
    by_cases own : old.kind = T
    · exact iff_of_true (own ▸ Value.renders_of_assign taken) (.inl ⟨own, filled⟩)
    · obtain ⟨renders, kind⟩ := foreign_takes held filled own taken
      exact iff_of_false renders (not_or_intro (fun h => own h.1) kind)

theorem assignMethod_renders {old method : Method}
    (h : assignMethod name old .assign v = .ok method) :
    Kind.string.Renders v method.text := by
  obtain ⟨text, taken, h⟩ := bind_eq_ok h
  have renders := (assignText_eq_ok (mapError_eq_ok taken)).2
  split at h <;> cases h
  rename_i found
  unfold Method.ofText? at found
  split at found
  · cases found
  split at found <;> cases found
  exact renders

theorem assignUri_eq_ok {old uri : Uri} (h : assignUri name old .assign v = .ok uri) :
    Kind.string.Renders v v.text ∧ (uri.resource = v.text ↔ Uri.IsPath v.text) := by
  obtain ⟨text, taken, h⟩ := bind_eq_ok h
  obtain ⟨rfl, renders⟩ := assignText_eq_ok (mapError_eq_ok taken)
  exact ⟨renders, Uri.resource_ofText (mapError_eq_ok h)⟩

theorem assignStatus_renders {old s : Status} (h : assignStatus name old .assign v = .ok s) :
    Kind.integer.Renders v (Value.ofInt s.code).text := by
  obtain ⟨slot, taken, h⟩ := bind_eq_ok h
  have taken := mapError_eq_ok taken
  have renders := Value.renders_of_assign taken
  have kind : slot.kind = .integer := Value.kind_of_assign taken
  cases slot with
  | integer n m =>
    dsimp only at h
    split at h
    · cases h
    rename_i positive
    split at h
    · cases h
    split at h <;> cases h
    rename_i found
    unfold Status.ofCode? at found
    split at found <;> cases found
    have code : ((n.toInt.toNat : Nat) : Int) = n.toInt := Int.toNat_of_nonneg (not_lt.mp positive)
    have same : (Value.ofInt (n.toInt.toNat : Nat)).text = (Value.integer n m).text := by
      rw [code]
      show String.ofList (Decimal.ofInt (Int64.ofInt n.toInt).toInt) =
        String.ofList (Decimal.ofInt n.toInt)
      rw [Int64.ofInt_toInt]
    exact same ▸ renders
  | _ => cases kind

theorem assignBackend_renders {b : Backend} (h : Value.assignBackend .assign v = .ok b) :
    Kind.backend.Renders v b.name := by
  unfold Value.assignBackend at h
  cases v with
  | backend b =>
    cases h
    exact Value.renders_of_assign (show (Value.backend b).assign .assign (.backend b) =
      .ok (.backend b) from rfl)
  | _ => cases h

theorem methodOf_setMethod (c : Context) (method : Method) (m : MessageName) :
    (setMethod c method m).methodOf m = method := by
  cases m <;> rfl

theorem uri_setUri (c : Context) (uri : Uri) (m : MessageName) : (setUri c uri m).uri m = uri := by
  cases m <;> rfl

theorem statusOf_setStatus (c : Context) (status : Status) (m : MessageName) :
    (setStatus c status m).statusOf m = status := by
  cases m <;> rfl

theorem read_write_local (env : Environment) {n : String}
    (held : ∀ old, c.locals.get? n = some old → ∃ assigned, Held T assigned old)
    (h : (Variable.local n).write c name .assign v = .ok d) :
    ∃ w, (Variable.local n).read env d = .ok (some w) ∧
      (T.Renders v w.text ↔ (Variable.local n).GivesBack c T v) := by
  unfold write at h
  cases found : c.locals.get? n with
  | none =>
    simp only [found] at h
    cases h
  | some old =>
    simp only [found] at h
    obtain ⟨w, taken, h⟩ := bind_eq_ok h
    cases h
    obtain ⟨assigned, held⟩ := held old found
    refine ⟨w, ?_, (assignLocal_renders held (mapError_eq_ok taken)).trans ?_⟩
    · show Except.ok ((c.locals.put n w).get? n) = _
      rw [Register.get?_put, if_pos rfl]
    · simp [GivesBack, found]

theorem read_write_url (env : Environment) {m : MessageName}
    (h : (Variable.url m).write c name .assign v = .ok d) :
    ∃ w, (Variable.url m).read env d = .ok (some w) ∧
      (Kind.string.Renders v w.text ↔ Uri.IsPath v.text) ∧
      (w.text = v.text ↔ Uri.IsPath v.text) := by
  obtain ⟨uri, assigned, h⟩ := bind_eq_ok h
  cases h
  obtain ⟨renders, path⟩ := assignUri_eq_ok assigned
  refine ⟨_, rfl, ?_⟩
  rw [uri_setUri]
  exact ⟨(Kind.renders_iff renders).trans path, path⟩

theorem read_write (env : Environment) {x : Variable} (noHeader : ∀ m field, x ≠ .header m field)
    (held : ∀ n old, x = .local n → c.locals.get? n = some old → ∃ assigned, Held T assigned old)
    (h : x.write c name .assign v = .ok d) :
    ∃ w, x.read env d = .ok (some w) ∧ ((x.kindIn c T).Renders v w.text ↔ x.GivesBack c T v) ∧
      ∀ m, x = .url m → (w.text = v.text ↔ Uri.IsPath v.text) := by
  cases x with
  | slot s =>
    obtain ⟨w, taken, h⟩ := bind_eq_ok h
    cases h
    refine ⟨w, ?_, iff_of_true (Value.renders_of_assign (mapError_eq_ok taken)) trivial, nofun⟩
    show Except.ok (some ((c.setSlot s w).slot s)) = _
    rw [Context.slot_setSlot, if_pos rfl]
  | header m field => exact absurd rfl (noHeader m field)
  | «local» n =>
    obtain ⟨w, read, renders⟩ := read_write_local env (fun old => held n old rfl) h
    exact ⟨w, read, renders, nofun⟩
  | group | reading => cases h
  | clientIdentity =>
    obtain ⟨text, taken, h⟩ := bind_eq_ok h
    cases h
    exact ⟨_, rfl, iff_of_true (assignText_eq_ok (mapError_eq_ok taken)).2 trivial, nofun⟩
  | method m =>
    obtain ⟨method, assigned, h⟩ := bind_eq_ok h
    cases h
    refine ⟨_, rfl, iff_of_true ?_ trivial, nofun⟩
    rw [methodOf_setMethod]
    exact assignMethod_renders assigned
  | url m =>
    obtain ⟨w, read, renders, path⟩ := read_write_url env h
    exact ⟨w, read, renders, fun _ _ => path⟩
  | status m =>
    obtain ⟨status, assigned, h⟩ := bind_eq_ok h
    cases h
    refine ⟨_, rfl, iff_of_true ?_ trivial, nofun⟩
    rw [statusOf_setStatus]
    exact assignStatus_renders assigned
  | backend =>
    obtain ⟨b, taken, h⟩ := bind_eq_ok h
    cases h
    exact ⟨_, rfl, iff_of_true (assignBackend_renders (mapError_eq_ok taken)) trivial, nofun⟩

end

end Variable

namespace Context

variable {env : Environment} {c d : Context} {name : String} {v : Value}

/-- A name that is no header and takes a value is read after that, in the same stage. It renders
what the assignment leaves in a slot of its type exactly if it gives the value back, and a URL shows
the text that it took exactly if that is a path. The type of a local is that with which it was
declared. -/
theorem get_after_set_iff (T : Kind) (noHeader : Variable.headerOf? name = none)
    (held : ∀ n old, Variable.ofName? c.scope name = some (.local n) → c.locals.get? n = some old →
      ∃ assigned, Held T assigned old)
    (set : assignVariable env name .assign v c = .ok () d) :
    ∃ x w, Variable.ofName? c.scope name = some x ∧ d.getVariable env name = .ok w ∧
      ((x.kindIn c T).Renders v w.text ↔ x.GivesBack c T v) ∧
      ∀ m, x = .url m → (w.text = v.text ↔ Uri.IsPath v.text) := by
  rw [assignVariable_eq] at set
  have written := eq_ok_of_atOnce set
  have scope : d.scope = c.scope := scope_eq_of_settled (setVariable_permitted written).settled
  unfold setVariable at written
  split at written
  · cases written
  rename_i x writable
  have named := ofName?_of_writable? writable
  have apart (m : MessageName) (field : String) : x ≠ .header m field := by
    rintro rfl
    have header := Variable.headerOf?_of_ofName? named
    rw [noHeader] at header
    cases header
  obtain ⟨w, read, renders, path⟩ :=
    Variable.read_write env apart (fun n old isLocal => held n old (isLocal ▸ named))
      (mapError_eq_ok written)
  refine ⟨x, w, named, ?_, renders, path⟩
  -- the stage is the same, so the name stands for the same variable as before
  unfold getVariable
  rw [scope, named]
  simp only [read]
  rfl

def undecided : Context := { received with locals := Register.empty.put "var.x" .null }

theorem get_after_set_iff_undecided :
    (∃ d w, assignVariable (.of .empty .standard) "req.url" .assign (.ofString "/a?b") undecided =
      .ok () d ∧ d.getVariable (.of .empty .standard) "req.url" = .ok w ∧ w.text = "/a?b") ∧
    ∃ d w, assignVariable (.of .empty .standard) "var.x" .assign (.ofIp .loopback) undecided =
      .ok () d ∧
      d.getVariable (.of .empty .standard) "var.x" = .ok w ∧
      Kind.ip.Renders (.ofIp .loopback) w.text := by
  have ofUrl : Variable.ofName? undecided.scope "req.url" = some (.url .request) := rfl
  have ofLocal : Variable.ofName? undecided.scope "var.x" = some (.local "var.x") := rfl
  constructor
  · have set : assignVariable (.of .empty .standard) "req.url" .assign (.ofString "/a?b")
        undecided = .ok () _ := rfl
    have held (n : String) (old : Value) (named : Variable.ofName? undecided.scope "req.url" =
        some (.local n)) :
        undecided.locals.get? n = some old → ∃ assigned, Held .string assigned old := by
      rw [ofUrl] at named
      cases named
    obtain ⟨x, w, named, read, -, path⟩ := get_after_set_iff .string (by decide) held set
    rw [ofUrl] at named
    cases named
    exact ⟨_, w, set, read, (path .request rfl).mpr (by decide)⟩
  · have set : assignVariable (.of .empty .standard) "var.x" .assign (.ofIp .loopback) undecided =
        .ok () _ := rfl
    have held (n : String) (old : Value) (named : Variable.ofName? undecided.scope "var.x" =
        some (.local n)) :
        undecided.locals.get? n = some old → ∃ assigned, Held .ip assigned old := by
      rw [ofLocal] at named
      rintro found
      cases named
      cases found
      exact ⟨false, .declared .ip⟩
    obtain ⟨x, w, named, read, renders, -⟩ := get_after_set_iff .ip (by decide) held set
    rw [ofLocal] at named
    cases named
    exact ⟨_, w, set, read, renders.mpr fun _ _ => .inr rfl⟩

/-- A URL drops a fragment that it takes. -/
theorem fragment_lost :
    ∃ d, assignVariable (.of .empty .standard) "req.url" .assign (.ofString "/a#b") received =
      .ok () d ∧
      d.getVariable (.of .empty .standard) "req.url" = .ok (.ofString "/a") ∧
      (Value.ofString "/a").text ≠ (Value.ofString "/a#b").text :=
  ⟨_, rfl, rfl, by decide⟩

end Context

end EdgeCache
