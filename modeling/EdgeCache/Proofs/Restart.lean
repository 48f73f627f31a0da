import EdgeCache.Lifecycle.Stages
import EdgeCache.Proofs.Permitted

/-! What a restart forgets. Each pass leaves something behind in the messages and in the slots of
their variables. A restart resets the messages, but only some of the slots. -/

namespace EdgeCache

namespace Variable

/-- How the names of the variables begin that belong to a pass. -/
def passStarts : List String := ["bereq.", "beresp.", "obj.", "resp."]

def isOfPass (name : String) : Bool := passStarts.any fun start => (after? start name).isSome

theorem mem_special_or_shared {s : Scope} {name : String} {slot : Slot}
    (h : ofName? s name = some (.slot slot)) :
    (name, .slot slot) ∈ special s ∨ (name, .slot slot) ∈ shared := by
  rcases cases_ofName? h with special | shared | family | ⟨m, field, -, header⟩
  · exact .inl special
  · exact .inr shared
  · rcases cases_family? family with ⟨index, same⟩ | ⟨-, same⟩ | same <;> cases same
  · cases header

end Variable

namespace Slot

open Variable (isOfPass ofName? isWritable)

def OfPass (slot : Slot) : Prop :=
  ∃ s name, isOfPass name = true ∧ ofName? s name = some (.slot slot) ∧
    isWritable s (.slot slot) = true

def forgotten : List Slot := [objectStatus, objectReason]

def kept : List Slot :=
  [connectTimeout, firstByteTimeout, betweenBytesTimeout, backendReason, backendTtl, backendGrace,
    backendStaleIfError, backendStaleWhileRevalidate, backendCacheable, backendDoEsi,
    backendDoStream,
    backendGzip, backendBrotli, backendSaintmode, objectTtl, objectGrace, responseReason]

def place : Slot → Scope × String
  | connectTimeout => (.miss, "bereq.connect_timeout")
  | firstByteTimeout => (.miss, "bereq.first_byte_timeout")
  | betweenBytesTimeout => (.miss, "bereq.between_bytes_timeout")
  | backendReason => (.fetch, "beresp.response")
  | backendTtl => (.fetch, "beresp.ttl")
  | backendGrace => (.fetch, "beresp.grace")
  | backendStaleIfError => (.fetch, "beresp.stale_if_error")
  | backendStaleWhileRevalidate => (.fetch, "beresp.stale_while_revalidate")
  | backendCacheable => (.fetch, "beresp.cacheable")
  | backendDoEsi => (.fetch, "beresp.do_esi")
  | backendDoStream => (.fetch, "beresp.do_stream")
  | backendGzip => (.fetch, "beresp.gzip")
  | backendBrotli => (.fetch, "beresp.brotli")
  | backendSaintmode => (.fetch, "beresp.saintmode")
  | objectStatus => (.error, "obj.status")
  | objectReason => (.error, "obj.response")
  | objectTtl => (.error, "obj.ttl")
  | objectGrace => (.error, "obj.grace")
  | responseReason => (.deliver, "resp.response")
  | _ => (.unknown, "")

def isListed (isWritten : Slot → Bool) (p : String × Variable) : Bool :=
  match p.2 with
  | .slot slot => !isWritten slot || !isOfPass p.1 || (forgotten ++ kept).contains slot
  | _ => true

theorem special_isListed (s : Scope) :
    (Variable.special s).all (isListed fun slot => isWritable s (.slot slot)) = true := by
  cases s <;> decide +kernel

theorem shared_isListed : Variable.shared.all (isListed fun _ => true) = true := by
  decide +kernel

theorem ofPass_iff {slot : Slot} : slot.OfPass ↔ slot ∈ forgotten ++ kept := by
  constructor
  · rintro ⟨s, name, hp, hn, hw⟩
    rcases Variable.mem_special_or_shared hn with special | shared
    · have listed := List.all_eq_true.mp (special_isListed s) _ special
      simpa [isListed, hp, hw] using listed
    · have listed := List.all_eq_true.mp shared_isListed _ shared
      simpa [isListed, hp] using listed
  · intro h
    have found :
        isOfPass slot.place.2 = true ∧ ofName? slot.place.1 slot.place.2 = some (.slot slot) ∧
        isWritable slot.place.1 (.slot slot) = true := by
      cases slot <;> first | exact ⟨rfl, rfl, rfl⟩ | exact absurd h (by simp [forgotten, kept])
    exact ⟨_, _, found⟩

end Slot

def Variable.IsKept : Variable → Prop
  | .slot s => s ∈ Slot.kept
  | .reading .locallyGenerated => True
  | _ => False

namespace Context

variable {c d : Context}

/-- The contexts differ only in what passes leave behind: the messages to and from the backend, the
object and the response, and what is kept for the variables of these. -/
structure DiffersInPass (c d : Context) : Prop where
  rest : d = { c with
    backendRequest := d.backendRequest
    backendResponse := d.backendResponse
    object := d.object
    response := d.response
    selected := d.selected
    locallyGenerated := d.locallyGenerated
    slots := d.slots }
  slot : ∀ s, ¬ Slot.OfPass s → d.slot s = c.slot s

structure AgreesOnKept (c d : Context) : Prop where
  slot : ∀ s ∈ Slot.kept, d.slot s = c.slot s
  locallyGenerated : d.locallyGenerated = c.locallyGenerated

theorem slot_prepareRestart (c : Context) (s : Slot) : c.prepareRestart.slot s =
    if s = .hash ∨ s ∈ Slot.forgotten then s.initial else c.slot s := by
  cases s <;> simp [slot, prepareRestart, Slots.get_put, Slot.forgotten]

theorem slot_prepareRestart_kept {s : Slot} (h : s ∈ Slot.kept) :
    c.prepareRestart.slot s = c.slot s := by
  rw [slot_prepareRestart, if_neg]
  revert h
  cases s <;> simp [Slot.kept, Slot.forgotten]

namespace DiffersInPass

theorem slot_eq {s : Slot} (h : c.DiffersInPass d) (hs : s ∉ Slot.kept) :
    d.prepareRestart.slot s = c.prepareRestart.slot s := by
  rw [slot_prepareRestart, slot_prepareRestart]
  split
  · rfl
  · rename_i unreset
    refine h.slot s fun hp => ?_
    rcases List.mem_append.mp (Slot.ofPass_iff.mp hp) with hf | hk
    · exact unreset (.inr hf)
    · exact hs hk

theorem remains (h : c.DiffersInPass d) : d.prepareRestart =
    { c.prepareRestart with
      locallyGenerated := d.locallyGenerated
      slots := d.prepareRestart.slots } :=
  congrArg prepareRestart h.rest

theorem prepareRestart_eq (h : c.DiffersInPass d) (hk : c.AgreesOnKept d) :
    d.prepareRestart = c.prepareRestart := by
  have slots : d.prepareRestart.slots = c.prepareRestart.slots := by
    ext s
    by_cases hs : s ∈ Slot.kept
    · show d.prepareRestart.slot s = c.prepareRestart.slot s
      rw [slot_prepareRestart_kept hs, slot_prepareRestart_kept hs, hk.slot s hs]
    · exact h.slot_eq hs
  rw [h.remains, slots, hk.locallyGenerated]
  rfl

theorem read_eq {env : Environment} {x : Variable} (h : c.DiffersInPass d) (hx : ¬ x.IsKept) :
    x.read env d.prepareRestart = x.read env c.prepareRestart := by
  cases x with
  | slot s =>
    show Except.ok (some (d.prepareRestart.slot s)) = Except.ok (some (c.prepareRestart.slot s))
    rw [h.slot_eq hx]
  | reading r =>
    rw [h.remains]
    cases r <;> first | rfl | exact absurd trivial hx
  | _ =>
    rw [h.remains]
    rfl

end DiffersInPass

end Context

inductive Course where
  | rounds (origin : Origin) (left : Nat)
  | subroutine (name : String) (s : Scope)
  | statements (n : Nat) (whole rest : List Statement)

namespace Course

def run (env : Environment) (m : Machine) : Course → Machine
  | rounds origin left => (Lifecycle.rounds env origin left m).2
  | subroutine name s => (Run.subroutine env name s m).2
  | statements n whole rest => (Run.runFrom env n whole rest m).2

def reads (env : Environment) (course : Course) (m : Machine) (c : Context) (s : Scope)
    (name : String) :
    Except (Stop Cause) Value :=
  ((course.run env { m with context := c }).context.enter s).getVariable env name

def stay : Course := statements 0 [] []

theorem reads_stay (env : Environment) (m : Machine) (c : Context) (s : Scope) (name : String) :
    stay.reads env m c s name = (c.enter s).getVariable env name := rfl

end Course

namespace Context

variable {env : Environment} {c d e : Context}

/-- After a restart of either context, no stage reads another value of a variable that belongs to a
pass, however the request goes on. -/
def RestartsAlike (env : Environment) (c d : Context) : Prop :=
  ∀ (m : Machine) (course : Course) (s : Scope) (name : String), Variable.isOfPass name = true →
    course.reads env m d.prepareRestart s name = course.reads env m c.prepareRestart s name

theorem getVariable_slot {s : Scope} {name : String} {x : Slot}
    (h : Variable.ofName? s name = some (.slot x)) :
    (e.enter s).getVariable env name = .ok (e.slot x) := by
  unfold getVariable
  rw [show (e.enter s).scope = s from rfl, h]
  rfl

theorem getVariable_locallyGenerated :
    (e.enter .deliver).getVariable env "resp.is_locally_generated" =
      .ok (.ofBool e.locallyGenerated) := rfl

/-- Contexts that differ in what passes leave behind show the same in most variables after a
restart, and they are alike exactly if they agree on what it does not reset. -/
theorem restartsAlike_iff (h : c.DiffersInPass d) :
    (∀ x : Variable, ¬ x.IsKept → x.read env d.prepareRestart = x.read env c.prepareRestart) ∧
      (RestartsAlike env c d ↔ c.AgreesOnKept d) := by
  refine ⟨fun _ hx => h.read_eq hx, ?_, ?_⟩
  · intro alike
    -- a read right after the restart tells what is left
    have now (s : Scope) (name : String) (hp : Variable.isOfPass name = true) :
        (d.prepareRestart.enter s).getVariable env name =
          (c.prepareRestart.enter s).getVariable env name :=
      alike (.start c) .stay s name hp
    refine ⟨fun slot hs => ?_, ?_⟩
    · obtain ⟨s, name, hp, hn, -⟩ := Slot.ofPass_iff.mpr (List.mem_append_right Slot.forgotten hs)
      have same := now s name hp
      rw [getVariable_slot hn, getVariable_slot hn, Except.ok.injEq] at same
      rwa [slot_prepareRestart_kept hs, slot_prepareRestart_kept hs] at same
    · have same := now .deliver "resp.is_locally_generated" rfl
      rw [getVariable_locallyGenerated, getVariable_locallyGenerated, Except.ok.injEq] at same
      exact (Value.bool.inj same).1
  · intro hk m course s name _
    rw [h.prepareRestart_eq hk]

end Context

open Context (RestartsAlike slot_setSlot)

def ttlOnce : Environment :=
  .of { Declarations.empty with
    subroutines := [
      ⟨.unknown, "vcl_fetch", none, [
        .branch .unknown (.binary .unknown (.ident .unknown "req.restarts") .equal
          (.integer .unknown 0)) [ .set .unknown "beresp.ttl" .assign (.rtime .unknown "5s"),
          .restart .unknown] [] none,
        .log .unknown (.ident .unknown "beresp.ttl")]⟩] } .standard

def ttlOnceStart : Context := .start ttlOnce .empty .loopback 0 (.ofSeed 0)

def ttlOnceFailed : Context :=
  { ttlOnceStart.setSlot .objectStatus (.ofInteger 601) with
    object := { Response.empty with body := "gone" } }

theorem restartsAlike_failed :
    ttlOnceStart.DiffersInPass ttlOnceFailed ∧
    RestartsAlike ttlOnce ttlOnceStart ttlOnceFailed := by
  have others (s : Slot) (hs : s ≠ .objectStatus) : ttlOnceFailed.slot s = ttlOnceStart.slot s := by
    show (ttlOnceStart.setSlot .objectStatus (.ofInteger 601)).slot s = _
    rw [slot_setSlot, if_neg hs]
  have differs : ttlOnceStart.DiffersInPass ttlOnceFailed := by
    refine ⟨rfl, fun s hs => others s ?_⟩
    rintro rfl
    exact hs (Slot.ofPass_iff.mpr (by decide))
  have agrees : ttlOnceStart.AgreesOnKept ttlOnceFailed := by
    refine ⟨fun s hs => others s ?_, rfl⟩
    rintro rfl
    exact absurd hs (by decide)
  exact ⟨differs, (Context.restartsAlike_iff differs).2.mpr agrees⟩

/-- The lifetime that a pass sets is read after the restart. -/
theorem ttl_survives_restart :
    let short := ttlOnceStart.setSlot .backendTtl (Slot.ofMillis 5000)
    ttlOnceStart.DiffersInPass short ∧ ¬ RestartsAlike ttlOnce ttlOnceStart short ∧
      (Lifecycle.process ttlOnce .empty (.start ttlOnceStart)).2.logs = ["5.000"] := by
  intro short
  refine ⟨⟨rfl, fun s hs => ?_⟩, fun alike => ?_, by decide +kernel⟩
  · rw [slot_setSlot, if_neg]
    rintro rfl
    exact hs (Slot.ofPass_iff.mpr (by decide))
  · have same := alike (.start ttlOnceStart) .stay .fetch "beresp.ttl" rfl
    rw [Course.reads_stay, Course.reads_stay, Context.getVariable_slot (x := .backendTtl) rfl,
      Context.getVariable_slot (x := .backendTtl) rfl, Except.ok.injEq] at same
    have texts : (short.prepareRestart.slot .backendTtl).text ≠
        (ttlOnceStart.prepareRestart.slot .backendTtl).text := by decide +kernel
    exact texts (congrArg Value.text same)

end EdgeCache
