import EdgeCache.Proofs.Restored

/-! What functional subroutines give. A value that is set has the type of the subroutine, and so has
the unset one that stands for every ending without a value. A return statement may give an unset
value of any type. -/

namespace EdgeCache

def Value.OfType (T : Kind) (v : Value) : Prop := v.kind = T ∨ v = .null ∧ T.hasZero = false

theorem Value.unset_ofType (T : Kind) : (unset T).OfType T := by
  unfold OfType
  rw [kind_unset]
  cases T <;> first | exact .inl rfl | exact .inr ⟨rfl, rfl⟩

def Machine.calling (m : Machine) (s : SubroutineDeclaration) : Machine :=
  (m.enter s.name).push ⟨s.name, some s.owes⟩

namespace Control

variable {env : Environment} {body : List Statement} {begun m m' : Machine} {v : Value} {n : Nat}

/-- A return statement that a body comes to has that value. -/
def Returns (env : Environment) (body : List Statement) (begun : Machine) (v : Value) : Prop :=
  ∃ whole t e rest around outer m,
    Path env (start body begun) (running (⟨whole, .ret t (some e) :: rest, around⟩ :: outer), m) ∧
      ∃ n m', Run.evaluate env n e (m.note (.statement (.ret t (some e)))) = (.done v, m')

theorem value_of_path (path : Path env (start body begun) (stopped (.value v), m')) :
    ∃ whole t e rest around outer m n,
      Path env (start body begun) (running (⟨whole, .ret t e :: rest, around⟩ :: outer), m) ∧
        Run.deal env n (.ret t e) (m.note (.statement (.ret t e))) = (.done (.hands (.value v)),
          m') := by
  cases path with
  | tail before step =>
    generalize hb : (stopped (.value v), m') = b at step
    cases step with
    | @close whole around outer m =>
      -- the end of a list hands on no value
      have stop : close outer around = stopped (.value v) := (congrArg Prod.fst hb).symm
      unfold close at stop
      split at stop
      · cases stop
      · rcases stopped_of_carry stop with same | next
        · cases same
        · cases next
    | @deal n whole s rest around outer m m' d ran =>
      have stop : ofDeal d (⟨whole, rest, around⟩ :: outer) = stopped (.value v) :=
        (congrArg Prod.fst hb).symm
      obtain rfl := congrArg Prod.snd hb
      cases d with
      | opens | enters => cases stop
      | hands flow =>
        rcases stopped_of_carry stop with same | next
        · obtain rfl : Flow.value v = flow := same
          cases Run.hands_of_deal ran with
          | value t e => exact ⟨_, t, e, _, _, _, m, n, before, ran⟩
          | called _ _ _ stops => exact absurd rfl (stops v)
        · cases next
    | fail => cases congrArg Prod.fst hb

end Control

namespace Run

open Control (Returns Path start)

variable {env : Environment} {n : Nat} {m m' : Machine} {v : Value} {k : Kind}

theorem deal_ret_value {t : Token} {e : Option Expression}
    (owed : m.frames.head?.bind Frame.returns = some k)
    (ran : deal env n (.ret t e) m = (.done (.hands (.value v)), m')) :
    e = none ∧ v = .unset k ∨ ∃ e', e = some e' ∧ evaluate env n e' m = (.done v, m') := by
  obtain ⟨flow, p, given, handed⟩ := bind_eq_done ran
  cases handed
  have given : giveBack (evaluate env n) e m = (.done (.value v), m') := pinned_eq_done given
  unfold giveBack at given
  rw [owed] at given
  cases e with
  | none =>
    cases given
    exact .inl ⟨rfl, rfl⟩
  | some e' =>
    obtain ⟨w, q, valued, same⟩ := bind_eq_done given
    cases same
    exact .inr ⟨e', rfl, valued⟩

theorem value_of_runBody {body : List Statement} (owed : m.frames.head?.bind Frame.returns = some k)
    (ran : runBody env n body m = (.done (.value v), m')) :
    v = .unset k ∨ Returns env body m v := by
  have lands : Control.Lands env (start body m) .stopped (runBody env n body m) :=
    Control.runBody_lands n body m
  rw [ran] at lands
  obtain ⟨whole, t, e, rest, around, outer, p, j, path, dealt⟩ := Control.value_of_path lands
  have inFrame : p.frames = m.frames := Control.Path.frames path
  rcases deal_ret_value (k := k) (by rw [← owed, ← inFrame]; rfl) dealt with ⟨-, unset⟩
    | ⟨e', rfl, valued⟩
  · exact .inl unset
  · exact .inr ⟨whole, t, e', rest, around, outer, p, path, j, m', valued⟩

variable {name : String} {s : SubroutineDeclaration} {t : Token} {es : List Expression}

theorem runBody_of_call (found : env.declarations.functional? name = some s)
    (given : evaluate env n (.call t name es) m = (.done v, m')) :
    ∃ j flow p q, runBody env j s.body (m.calling s) = (.done flow, p) ∧
      resultOf s.name s.owes flow q = (.done v, m') := by
  cases n with
  | zero =>
    rw [evaluate] at given
    cases given
  | succ j =>
    cases es with
    | cons e es =>
      rw [evaluate] at given
      have given : call env (evaluate env j) (fun b => runFrom env j b b) name (e :: es) m =
          (.done v, m') :=
        pinned_eq_done given
      simp only [call, found] at given
      cases given
    | nil =>
      rw [evaluate_functional found] at given
      obtain ⟨flow, q, framed, result⟩ := bind_eq_done (pinned_eq_done given)
      unfold inFrame at framed
      dsimp only at framed
      generalize ran : runBody env j s.body ((m.enter s.name).push ⟨s.name, some s.owes⟩) = r
        at framed
      obtain ⟨o, p⟩ := r
      cases framed
      exact ⟨j, flow, p, _, ran, result⟩

theorem call_of_runBody (found : env.declarations.functional? name = some s) (t : Token)
    (ran : runBody env n s.body (m.calling s) = (.done (.value v), m')) (unset : v.isUnset = true) :
    evaluate env (n + 1) (.call t name []) m = (.done v, m'.pop m.context.locals) := by
  have framed : inFrame ⟨s.name, some s.owes⟩ (runBody env n s.body) (m.enter s.name) =
      (.done (.value v), m'.pop m.context.locals) := by
    unfold inFrame
    rw [show (m.enter s.name).push ⟨s.name, some s.owes⟩ = m.calling s from rfl, ran]
    rfl
  have result : resultOf s.name s.owes (.value v) (m'.pop m.context.locals) =
      (.done v, m'.pop m.context.locals) := by
    -- the type of an unset value is not looked at
    simp only [resultOf, unset, Bool.not_true, Bool.false_and, Bool.false_eq_true, if_false]
    rfl
  rw [evaluate_functional found]
  exact pinned_of_done t ((bind_of_done framed).trans result)

/-- A value that is set has the type of the subroutine. An unset one is that of this type, or a
return statement has given it, and then its type may be any: all values are of the right type
exactly if no body ends with such a one. -/
theorem returns_typed_iff (found : env.declarations.functional? name = some s) :
    (∀ n t es (m : Machine) v m', evaluate env n (.call t name es) m = (.done v, m') →
      (v.isUnset = false → v.kind = s.owes) ∧
      (v = .unset s.owes ∨ Returns env s.body (m.calling s) v)) ∧
    ((∀ n t es m v m', evaluate env n (.call t name es) m = (.done v, m') → v.OfType s.owes) ↔
      ∀ n (m : Machine) v p, runBody env n s.body (m.calling s) = (.done (.value v), p) →
        v.isUnset = true → v.OfType s.owes) := by
  have typed {n : Nat} {t : Token} {es : List Expression} {m : Machine} {v : Value} {m' : Machine}
      (given : evaluate env n (.call t name es) m = (.done v, m')) :
      v = .unset s.owes ∨ (v.isUnset = false → v.kind = s.owes) ∧
        ∃ j p, runBody env j s.body (m.calling s) = (.done (.value v), p) := by
    obtain ⟨j, flow, p, q, ran, result⟩ := runBody_of_call found given
    unfold resultOf at result
    split at result
    · split at result
      · cases result
      · rename_i w fits
        cases result
        refine .inr ⟨fun set => ?_, j, p, ran⟩
        simpa [set] using fits
    · cases result
    · cases result
      exact .inl rfl
  refine ⟨fun n t es m v m' given => ?_, fun sound n m v p ran unset => ?_,
    fun unsound n t es m v m' given => ?_⟩
  · rcases typed given with rfl | ⟨kind, j, p, ran⟩
    · exact ⟨fun set => absurd (Value.isUnset_unset s.owes) (by simp [set]), .inl rfl⟩
    · exact ⟨kind, value_of_runBody rfl ran⟩
  · exact sound _ _ _ _ _ _ (call_of_runBody found .unknown ran unset)
  · rcases typed given with rfl | ⟨kind, j, p, ran⟩
    · exact Value.unset_ofType _
    · cases set : v.isUnset with
      | true => exact unsound j m v p ran set
      | false => exact .inl (kind set)

def fiveBody : SubroutineDeclaration :=
  ⟨.unknown, "five", some .integer, [.block .unknown [.ret .unknown (some (.integer .unknown 5))]]⟩

def missingBody : SubroutineDeclaration :=
  ⟨.unknown, "missing", some .integer, [.ret .unknown (some (.ident .unknown "req.http.Missing"))]⟩

def numbersIn : Environment :=
  .of { Declarations.empty with functional := [fiveBody, missingBody] } .standard

def numbersStart : Machine := .start (.start numbersIn .empty .loopback 0 (.ofSeed 0))

theorem returns_typed_five :
    numbersIn.declarations.functional? "five" = some fiveBody ∧
      ∃ v m', evaluate numbersIn 9 (.call .unknown "five" []) numbersStart = (.done v, m') ∧
        v.kind = .integer := by
  have found : numbersIn.declarations.functional? "five" = some fiveBody := rfl
  have given : evaluate numbersIn 9 (.call .unknown "five" []) numbersStart =
      (.done (.integer 5 ⟨true, false⟩), _) := rfl
  exact ⟨found, _, _, given, ((returns_typed_iff found).1 _ _ _ _ _ _ given).1 rfl⟩

/-- A subroutine for integers gives a text that is not set. -/
theorem text_of_integer_missing :
    numbersIn.declarations.functional? "missing" = some missingBody ∧ missingBody.owes = .integer ∧
      ∃ v m', evaluate numbersIn 9 (.call .unknown "missing" []) numbersStart = (.done v, m') ∧
      v.kind = .string :=
  ⟨rfl, rfl, .unsetString, _, rfl, rfl⟩

end Run

end EdgeCache
