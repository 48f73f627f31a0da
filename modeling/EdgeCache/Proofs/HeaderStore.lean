import EdgeCache.Proofs.Messages
import Mathlib.Data.List.Basic
import Mathlib.Logic.Function.Basic

/-! The headers of a message as a store of values by name, without regard to case. What is written
is stored as it is if it has no controls; what is read is the first value, but only if it has
nothing beyond ASCII. -/

namespace EdgeCache

theorem Utf8.ofString_injective : Function.Injective Utf8.ofString := by
  intro s t h
  refine String.toByteArray_inj.mp ?_
  rw [← String.utf8Encode_toList, ← String.utf8Encode_toList]
  exact congrArg List.toByteArray h

abbrev HeaderStore := HeaderName → List (List UInt8)

namespace Headers

variable (h : Headers) (n : HeaderName) (v : HeaderValue)

def store : HeaderStore := fun n => (h.values n).map HeaderValue.bytes

theorem store_remove : (h.remove n).store = Function.update h.store n [] := by
  funext k
  by_cases same : k = n
  · subst same
    simp [store, values, remove, List.filter_filter]
  · rw [Function.update_of_ne same]
    simp only [store, values, remove, List.filter_filter]
    congr 2
    refine List.filter_congr fun f _ => ?_
    by_cases hf : f.1 = k
    · simp [hf, same]
    · simp [hf]

theorem store_append :
    (h.append n v).store = Function.update h.store n (h.store n ++ [v.bytes]) := by
  funext k
  by_cases same : k = n
  · subst same
    simp [store, values, append]
  · rw [Function.update_of_ne same]
    simp [store, values, append, Ne.symm same]

theorem store_insert : (h.insert n v).store = Function.update h.store n [v.bytes] := by
  unfold insert
  rw [store_append, store_remove, Function.update_self, Function.update_idem]
  rfl

end Headers

structure Spelling where
  text : String
  key : HeaderName
  spells : HeaderName.ofText? text = some key

inductive HeaderWrite where
  | set (field : Spelling) (v : Value)
  | add (field : Spelling) (v : Value)
  | unset (field : Spelling)

namespace HeaderWrite

def field : HeaderWrite → Spelling
  | set f _ | add f _ | unset f => f

def run (env : Environment) (m : MessageName) : HeaderWrite → EStateM (Stop Cause) Context Unit
  | set f v => Context.assignVariable env (fieldName m f.text) .assign v
  | add f v => Context.appendVariable env (fieldName m f.text) v
  | unset f => Context.removeVariable env (fieldName m f.text)

def after (env : Environment) (m : MessageName) (c : Context) (w : HeaderWrite) : Context :=
  match w.run env m c with
  | .ok _ d | .error _ d => d

/-- Whether what is written can be a value of a header. What is not set takes the header away
instead. -/
def fits : HeaderWrite → Bool
  | set _ v => v.isUnset || (Utf8.ofString v.text).all isFieldByte
  | add _ v => (Utf8.ofString v.text).all isFieldByte
  | unset _ => true

def leaves (old : List (List UInt8)) : HeaderWrite → List (List UInt8)
  | set _ v => if v.isUnset then [] else [Utf8.ofString v.text]
  | add _ v => old ++ [Utf8.ofString v.text]
  | unset _ => []

def onStore (s : HeaderStore) (w : HeaderWrite) : HeaderStore :=
  if w.fits then Function.update s w.field.key (w.leaves (s w.field.key)) else s

theorem onStore_of_ne {w : HeaderWrite} {n : HeaderName} (s : HeaderStore)
    (other : w.field.key ≠ n) :
    w.onStore s n = s n := by
  unfold onStore
  split
  · exact Function.update_of_ne other.symm _ _
  · rfl

def change (h : Headers) : HeaderWrite → Except ValueError Headers
  | set f v => Variable.assignHeader h f.text .assign v
  | add f v => return h.append f.key (← Variable.headerValue f.text v.text)
  | unset f => return h.remove f.key

end HeaderWrite

section Writing

variable {env : Environment} {c : Context} {m : MessageName}

theorem Context.setHeaders_setHeaders (c : Context) (h h' : Headers) (m : MessageName) :
    (c.setHeaders h m).setHeaders h' m = c.setHeaders h' m := by
  cases m <;> rfl

theorem writable_setHeaders {n : MessageName} (h : Headers)
    (hm : m ∈ Variable.writableMessages c.scope) :
    m ∈ Variable.writableMessages (c.setHeaders h n).scope := by
  cases n <;> exact hm

theorem headerName_of_spelling (f : Spelling) : Variable.headerName f.text = .ok f.key := by
  unfold Variable.headerName
  rw [f.spells]

theorem headerOf?_of_spelling (m : MessageName) (f : Spelling) :
    Variable.headerOf? (fieldName m f.text) = some (m, f.text) :=
  headerOf?_fieldName f.spells

theorem readable_of_writable {s : Scope} (hm : m ∈ Variable.writableMessages s) :
    (Variable.readableMessages s).contains m = true := by
  rcases Resolver.messages_of_writable (List.contains_iff_mem.mpr hm) with own | shared
  · exact (Resolver.readable_of_messages (r := .stage) (by simp [Resolver.all]) own).1
  · exact (Resolver.readable_of_messages (r := .shared) (by simp [Resolver.all]) shared).1

theorem writable?_of_spelling (hm : m ∈ Variable.writableMessages c.scope) (f : Spelling) :
    c.writable? (fieldName m f.text) = some (.header m f.text) := by
  unfold Context.writable?
  rw [Resolver.ofName?_header (headerOf?_of_spelling m f) (readable_of_writable hm)]
  exact if_pos (List.contains_iff_mem.mpr hm)

theorem headerValue_cases (name text : String) :
    ((Utf8.ofString text).all isFieldByte = true ∧
        ∃ v, Variable.headerValue name text = .ok v ∧ v.bytes = Utf8.ofString text) ∨
      ((Utf8.ofString text).all isFieldByte = false ∧ ∃ e,
        Variable.headerValue name text = .error e) := by
  unfold Variable.headerValue HeaderValue.ofText? HeaderValue.ofBytes?
  by_cases valid : (Utf8.ofString text).all isFieldByte = true
  · rw [dif_pos valid]
    exact .inl ⟨valid, _, rfl, rfl⟩
  · rw [dif_neg valid]
    exact .inr ⟨Bool.eq_false_iff.mpr valid, _, rfl⟩

namespace HeaderWrite

theorem change_cases (h : Headers) (w : HeaderWrite) :
    (w.fits = true ∧ ∃ h', w.change h = .ok h' ∧ h'.store = w.onStore h.store) ∨
      (w.fits = false ∧ ∃ e, w.change h = .error e) := by
  have stored {h' : Headers} (fits : w.fits = true)
      (same : h'.store = Function.update h.store w.field.key (w.leaves (h.store w.field.key))) :
      h'.store = w.onStore h.store := same.trans (if_pos fits).symm
  cases w with
  | set f v =>
    simp only [change, Variable.assignHeader, headerName_of_spelling, bind, Except.bind, pure,
      Except.pure]
    by_cases unset : v.isUnset = true
    · have fits : (set f v).fits = true := by simp [HeaderWrite.fits, unset]
      refine .inl ⟨fits, _, if_pos unset, stored fits ?_⟩
      rw [Headers.store_remove]
      simp [leaves, field, unset]
    · rw [if_neg unset]
      have written : v.isUnset = false := Bool.eq_false_iff.mpr unset
      rcases headerValue_cases f.text v.text with ⟨valid, x, hx, bytes⟩ | ⟨invalid, e, he⟩
      · have fits : (set f v).fits = true := by simp only [HeaderWrite.fits, valid, Bool.or_true]
        refine .inl ⟨fits, _, by rw [hx], stored fits ?_⟩
        rw [Headers.store_insert, bytes]
        simp [leaves, field, written]
      · exact .inr ⟨by simp only [HeaderWrite.fits, written, invalid, Bool.or_false], e, by rw [he]⟩
  | add f v =>
    simp only [change, bind, Except.bind, pure, Except.pure]
    rcases headerValue_cases f.text v.text with ⟨valid, x, hx, bytes⟩ | ⟨invalid, e, he⟩
    · refine .inl ⟨valid, _, by rw [hx], stored valid ?_⟩
      rw [Headers.store_append, bytes]
      rfl
    · exact .inr ⟨invalid, e, by rw [he]⟩
  | unset f => exact .inl ⟨rfl, _, rfl, stored rfl (Headers.store_remove h f.key)⟩

theorem run_eq (hm : m ∈ Variable.writableMessages c.scope) (w : HeaderWrite) :
    w.run env m c =
      atOnce c () (((w.change (c.headers m)).mapError fun e => .cause (.value e)) >>= fun h =>
        .ok (c.setHeaders h m)) := by
  cases w with
  | set f v =>
    refine (Context.assignVariable_eq env _ _ v c).trans (congrArg (atOnce c ()) ?_)
    unfold Context.setVariable
    rw [writable?_of_spelling hm]
    simp only [Variable.write, change]
    cases Variable.assignHeader (c.headers m) f.text .assign v <;> rfl
  | add f v =>
    refine (Context.appendVariable_eq env _ v c).trans (congrArg (atOnce c ()) ?_)
    unfold Context.addVariable
    rw [writable?_of_spelling hm]
    simp only [headerName_of_spelling, change]
    cases Variable.headerValue f.text v.text <;> rfl
  | unset f =>
    refine (Context.removeVariable_eq env _ c).trans (congrArg (atOnce c ()) ?_)
    unfold Context.unsetVariable
    rw [writable?_of_spelling hm]
    simp only [headerName_of_spelling, change]
    rfl

theorem after_eq (env : Environment) (hm : m ∈ Variable.writableMessages c.scope)
    (w : HeaderWrite) :
    ∃ h, w.after env m c = c.setHeaders h m ∧ h.store = w.onStore (c.headers m).store := by
  unfold after
  rw [run_eq hm]
  rcases change_cases (c.headers m) w with ⟨-, h, changed, stored⟩ | ⟨misfit, e, failed⟩
  · rw [changed]
    exact ⟨h, rfl, stored⟩
  · rw [failed]
    exact ⟨c.headers m, (c.setHeaders_self m).symm, (if_neg (by rw [misfit]; decide)).symm⟩

theorem run_succeeds_iff (hm : m ∈ Variable.writableMessages c.scope) (w : HeaderWrite) :
    (∃ d, w.run env m c = .ok () d) ↔ w.fits = true := by
  rw [run_eq hm]
  rcases change_cases (c.headers m) w with ⟨fits, h, changed, -⟩ | ⟨misfit, e, failed⟩
  · rw [changed]
    exact iff_of_true ⟨_, rfl⟩ fits
  · rw [failed, misfit]
    exact iff_of_false (fun ⟨_, succeeded⟩ => nomatch succeeded) Bool.false_ne_true

theorem foldl_after_eq (env : Environment) (hm : m ∈ Variable.writableMessages c.scope)
    (writes : List HeaderWrite) :
    ∃ h, writes.foldl (after env m) c = c.setHeaders h m ∧
    h.store = writes.foldl onStore (c.headers m).store := by
  induction writes generalizing c with
  | nil => exact ⟨c.headers m, (c.setHeaders_self m).symm, rfl⟩
  | cons w ws ih =>
    obtain ⟨h, first, stored⟩ := after_eq env hm w
    obtain ⟨h', rest, stored'⟩ := ih (writable_setHeaders h hm)
    rw [c.headers_setHeaders, if_pos rfl, stored] at stored'
    rw [List.foldl_cons, List.foldl_cons, first, rest, c.setHeaders_setHeaders]
    exact ⟨h', rfl, stored'⟩

end HeaderWrite

end Writing

/-- What a header variable should read when these are the values of its header: the text of the
first one, as a text that is set, or one that is not set if there is none. -/
def Promised (r : Except (Stop Cause) Value) : List (List UInt8) → Prop
  | [] => r = .ok Value.unsetString
  | first :: _ => ∃ text, Utf8.ofString text = first ∧ r = .ok (.ofString text)

def Shows (values : List (List UInt8)) : Prop :=
  values.head?.all (·.all HeaderValue.isVisible) = true

instance : DecidablePred Shows := fun _ => inferInstanceAs (Decidable (_ = true))

section Reading

variable {env : Environment} {c : Context} {m : MessageName}

theorem getVariable_of_headerOf? {name field : String}
    (named : Variable.headerOf? name = some (m, field)) :
    c.getVariable env name =
      if (Variable.readableMessages c.scope).contains m then .ok ((c.headers m).read field)
      else .error (.cause (.undefinedVariable name c.scope)) := by
  unfold Context.getVariable
  rw [Resolver.ofName?_of_headerOf? named]
  by_cases readable : (Variable.readableMessages c.scope).contains m = true
  · rw [if_pos readable, if_pos readable]
    rfl
  · rw [if_neg readable, if_neg readable]

theorem getVariable_of_spelling (env : Environment) (hm : m ∈ Variable.writableMessages c.scope)
    (f : Spelling) :
    c.getVariable env (fieldName m f.text) = .ok ((c.headers m).read f.text) :=
  (getVariable_of_headerOf? (headerOf?_of_spelling m f)).trans (if_pos (readable_of_writable hm))

theorem getVariable_setHeaders {n : MessageName} (h : Headers) (f : Spelling) (other : n ≠ m) :
    (c.setHeaders h m).getVariable env (fieldName n f.text) =
      c.getVariable env (fieldName n f.text) := by
  have scope : (c.setHeaders h m).scope = c.scope := by cases m <;> rfl
  have named := headerOf?_of_spelling n f
  rw [getVariable_of_headerOf? named, getVariable_of_headerOf? named, scope, c.headers_setHeaders,
    if_neg other]

theorem text?_of_visible {v : HeaderValue} (visible : v.bytes.all HeaderValue.isVisible = true) :
    ∃ text, v.text? = some text :=
  ⟨_, if_pos visible⟩

theorem read_of_spelling (h : Headers) (f : Spelling) :
    h.read f.text =
      ((((h.values f.key).head?).bind HeaderValue.text?).map Value.ofString).getD
        Value.unsetString := by
  unfold Headers.read Headers.text?
  rw [f.spells]
  rfl

theorem bytes_injective : Function.Injective HeaderValue.bytes := by
  rintro ⟨bytes, _⟩ ⟨_, _⟩ rfl
  rfl

theorem read_congr {h h' : Headers} {f : Spelling} (same : h'.store f.key = h.store f.key) :
    h'.read f.text = h.read f.text := by
  have values : h'.values f.key = h.values f.key := List.map_injective_iff.mpr bytes_injective same
  rw [read_of_spelling, read_of_spelling, values]

theorem read_spec (h : Headers) (f : Spelling) :
    (Promised (.ok (h.read f.text)) (h.store f.key) ↔ Shows (h.store f.key)) ∧
      (¬ Shows (h.store f.key) → h.read f.text = Value.unsetString) := by
  rw [read_of_spelling]
  unfold Headers.store
  cases h.values f.key with
  | nil => exact ⟨iff_of_true rfl rfl, fun hidden => absurd rfl hidden⟩
  | cons v vs =>
    rw [show Shows ((v :: vs).map HeaderValue.bytes) ↔
      v.bytes.all HeaderValue.isVisible = true from Iff.rfl]
    by_cases visible : v.bytes.all HeaderValue.isVisible = true
    · obtain ⟨text, found⟩ := text?_of_visible visible
      refine ⟨iff_of_true ⟨text, ofString_of_text? found, ?_⟩ visible,
        fun hidden => absurd visible hidden⟩
      simp [found]
    · have hidden : v.text? = none := if_neg visible
      simp only [List.head?_cons, Option.bind_some, hidden]
      exact ⟨iff_of_false (fun ⟨_, _, read⟩ => nomatch read) visible, fun _ => rfl⟩

end Reading

namespace HeaderWrite

/-- The headers of a message that can be written are a store without regard to case. After any
writes to them, of which those succeed that fit, a header variable reads what it should exactly if
that shows as text, and as not set otherwise. A write changes what the variables of its own header
read, and no others. -/
theorem header_store_iff (env : Environment) {c : Context} {m : MessageName}
    (hm : m ∈ Variable.writableMessages c.scope) (writes : List HeaderWrite) (f : Spelling) :
    let d := writes.foldl (after env m) c
    let values := writes.foldl onStore (c.headers m).store f.key
    (Promised (d.getVariable env (fieldName m f.text)) values ↔ Shows values) ∧
      (¬ Shows values → d.getVariable env (fieldName m f.text) = .ok Value.unsetString) ∧
      ∀ w : HeaderWrite, ((∃ e, w.run env m d = .ok () e) ↔ w.fits = true) ∧
        (w.field.key ≠ f.key →
          (w.after env m d).getVariable env (fieldName m f.text) =
            d.getVariable env (fieldName m f.text)) ∧
        ∀ n ≠ m,
          (w.after env m d).getVariable env (fieldName n f.text) =
            d.getVariable env (fieldName n f.text) := by
  intro d values
  obtain ⟨h, reached, stored⟩ := foldl_after_eq env hm writes
  have reached : d = c.setHeaders h m := reached
  have headers : d.headers m = h := by rw [reached, c.headers_setHeaders, if_pos rfl]
  have hd : m ∈ Variable.writableMessages d.scope := reached ▸ writable_setHeaders h hm
  have reads := getVariable_of_spelling env hd f
  have same : (d.headers m).store f.key = values := by rw [headers, stored]
  obtain ⟨shown, hidden⟩ := read_spec (d.headers m) f
  rw [reads, ← same]
  refine ⟨shown, fun no => congrArg Except.ok (hidden no), fun w => ?_⟩
  obtain ⟨h', written, stored'⟩ := after_eq env hd w
  refine ⟨run_succeeds_iff hd w, fun apart => ?_, fun n other => ?_⟩
  · -- what is read depends on the stored values alone, and those of this header are the same
    have kept : h'.store f.key = (d.headers m).store f.key := by
      rw [stored']
      exact onStore_of_ne _ apart
    rw [written, getVariable_of_spelling env (writable_setHeaders h' hd), d.headers_setHeaders,
      if_pos rfl, read_congr kept]
  · rw [written, getVariable_setHeaders h' f other]

def tag (text : String) (h : HeaderName.ofText? text = some ⟨"x-tag"⟩) : Spelling := ⟨text, _, h⟩

def tagging : List HeaderWrite :=
  [set (tag "X-Tag" (by decide)) (.ofString "one"), add (tag "x-tag" (by decide)) (.ofString "two")]

theorem header_store_iff_spelled :
    (tagging.foldl (after (.of .empty .standard) .request) Context.received).getVariable
      (.of .empty .standard)
      "req.http.X-TAG" = .ok (.ofString "one") := by
  have stored := (header_store_iff (.of .empty .standard) (c := Context.received) (m := .request)
    (by decide) tagging (tag "X-TAG" (by decide))).1
  obtain ⟨text, same, read⟩ := stored.mpr (by decide)
  have one : text = "one" := Utf8.ofString_injective same
  rwa [one] at read

/-- A text beyond ASCII is taken, and does not come back. -/
theorem text_beyond_ascii_lost :
    ∃ d, Context.assignVariable (.of .empty .standard) "req.http.X" .assign
      (.ofString "é") Context.received =
        .ok () d ∧
      d.getVariable (.of .empty .standard) "req.http.X" = .ok Value.unsetString ∧
      d.getVariable (.of .empty .standard) "req.http.X" ≠ .ok (.ofString "é") :=
  ⟨_, rfl, rfl, fun same => absurd (Value.string.inj (Except.ok.inj same)).1 (by decide)⟩

end HeaderWrite

end EdgeCache
