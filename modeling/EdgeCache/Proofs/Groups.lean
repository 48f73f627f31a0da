import EdgeCache.Proofs.Families
import EdgeCache.Proofs.Restored

/-! What a program reads of the groups of a match. -/

namespace EdgeCache

def Value.ofText? (o : Option String) : Value := (o.map ofString).getD unsetString

theorem Value.ofText?_injective : Function.Injective ofText? := by
  intro a b same
  cases a <;> cases b <;> cases same <;> rfl

theorem Decimal.digits_injective : Function.Injective digits :=
  Function.LeftInverse.injective fun _ => Nat.ofDigitChars_ten_toDigits

namespace Captures

def group? (k : Captures) (index : String) : Option String :=
  (k.groups.zipIdx.find? fun g => Decimal.digits g.2 == index.toList).map (·.1)

theorem find?_digits (groups : List String) (first i : Nat) :
    ((groups.zipIdx first).find? fun g => Decimal.digits g.2 == Decimal.digits (first + i)).map
      (·.1) =
      groups[i]? := by
  induction groups generalizing first i with
  | nil => rfl
  | cons g groups ih =>
    rw [List.zipIdx_cons, List.find?_cons]
    cases i with
    | zero => simp only [Nat.add_zero, beq_self_eq_true, Option.map_some, List.getElem?_cons_zero]
    | succ i =>
      -- an index is written in one way only
      have other : (Decimal.digits first == Decimal.digits (first + (i + 1))) = false := by
        refine beq_eq_false_iff_ne.mpr fun same => ?_
        have := Decimal.digits_injective same
        omega
      simp only [other, List.getElem?_cons_succ]
      rw [← ih (first + 1) i, Nat.add_right_comm first 1 i, Nat.add_assoc]

theorem group?_digits (k : Captures) (i : Nat) :
    k.group? (String.ofList (Decimal.digits i)) = k.groups[i]? := by
  have found := find?_digits k.groups 0 i
  rw [Nat.zero_add] at found
  unfold group?
  rw [String.toList_ofList, found]

theorem group?_injective : Function.Injective group? := by
  intro k l same
  have groups : k.groups = l.groups := by
    refine List.ext_getElem? fun i => ?_
    rw [← group?_digits, ← group?_digits, same]
  cases k
  cases l
  exact congrArg Captures.mk groups

end Captures

theorem Context.getVariable_group (env : Environment) (c : Context) (index : String) :
    c.getVariable env ("re.group." ++ index) = .ok (.ofText? (c.captures.group? index)) := by
  unfold Context.getVariable
  rw [Variable.ofName?_group]
  rfl

def Machine.withGroups (m : Machine) (k : Captures) : Machine :=
  { m with context := { m.context with captures := k } }

def Machine.SameGroups (env : Environment) (m n : Machine) : Prop := ∀ index,
  n.context.getVariable env ("re.group." ++ index) = m.context.getVariable env
    ("re.group." ++ index)

theorem Machine.sameGroups_iff {env : Environment} {m n : Machine} :
    m.SameGroups env n ↔ n.context.captures = m.context.captures := by
  unfold SameGroups
  simp only [Context.getVariable_group, Except.ok.injEq, Value.ofText?_injective.eq_iff]
  refine ⟨fun same => Captures.group?_injective (funext same), fun same index => ?_⟩
  exact congrArg (Captures.group? · index) same

namespace Run

def searching : Environment :=
  .of { Declarations.empty with
    subroutines := [
      ⟨.unknown, "vcl_recv", none, [
        .branch .unknown (.binary .unknown (.string .unknown "abc") .regex (.string .unknown "(b)"))
          [ .log .unknown (.ident .unknown "re.group.1"),
          .call .unknown "other",
          .log .unknown (.ident .unknown "re.group.1")] [] none]⟩,
      ⟨.unknown, "other", none, [
        .branch .unknown (.binary .unknown (.string .unknown "xyz") .regex (.string .unknown "(y)"))
          [] [] none]⟩]
    functional :=
      [⟨.unknown, "name", some .string, [.ret .unknown (some (.string .unknown "none"))]⟩] }
        .standard

def searchingStart : Machine := .start (.start searching .empty .loopback 0 (.ofSeed 0))

end Run

end EdgeCache
