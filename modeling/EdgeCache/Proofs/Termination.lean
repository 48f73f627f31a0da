import EdgeCache.Proofs.Calls
import EdgeCache.Run.Subroutine

/-! Programs whose jumps lead forwards and whose subroutines do not call themselves come to an end.
The depth that their runs need is known from the program. -/

namespace EdgeCache

def Outcome.Ends {α : Type} (p : α → Prop) : Outcome α → Prop
  | .done a => p a
  | .failed _ => True
  | .halted h => h = .panicked

namespace Run

/-- Two runs do the same and come to an end. -/
def Agree {α : Type} (p : α → Prop) (x y : Run α) : Prop := ∀ m, x m = y m ∧ (x m).1.Ends p

abbrev Ends {α : Type} (x y : Run α) : Prop := Agree (fun _ => True) x y

section Laws

variable {α β : Type} {p : α → Prop} {q : β → Prop} {x y : Run α} {f g : α → Run β}

theorem Agree.mono {p' : α → Prop} (h : Agree p x y) (hp : ∀ a, p a → p' a) : Agree p' x y := by
  intro m
  obtain ⟨same, ends⟩ := h m
  refine ⟨same, ?_⟩
  generalize x m = r at ends
  rcases r with ⟨a | e | _, n⟩
  · exact hp a ends
  · trivial
  · exact ends

theorem Agree.bind (hx : Agree p x y) (hf : ∀ a, p a → Agree q (f a) (g a)) :
    Agree q (x.bind f) (y.bind g) := by
  intro m
  obtain ⟨same, ends⟩ := hx m
  unfold Run.bind
  rw [← same]
  generalize x m = r at ends
  rcases r with ⟨a | e | _, n⟩
  · exact hf a ends n
  · exact ⟨rfl, trivial⟩
  · exact ⟨rfl, ends⟩

theorem Agree.next (hx : Ends x y) (hf : ∀ a, Agree q (f a) (g a)) :
    Agree q (x.bind f) (y.bind g) :=
  hx.bind fun a _ => hf a

theorem Agree.pinned (t : Token) (hx : Agree p x y) : Agree p (pinned t x) (pinned t y) := by
  intro m
  obtain ⟨same, ends⟩ := hx m
  unfold Run.pinned
  rw [← same]
  generalize x m = r at ends
  rcases r with ⟨a | e | _, n⟩ <;> exact ⟨rfl, ends⟩

theorem Agree.inFrame (frame : Frame) (hx : Agree p x y) :
    Agree p (inFrame frame x) (inFrame frame y) := by
  intro m
  obtain ⟨same, ends⟩ := hx (m.push frame)
  unfold Run.inFrame
  rw [← same]
  exact ⟨rfl, ends⟩

end Laws

variable {env : Environment} {value value' : Evaluator} {body body' : Runner}

section Expressions

end Expressions

section Statements

variable {P : Flow → Prop}

def Escapes (s : Statement) (flow : Flow) : Prop := ∀ label, flow = .goto label → s.Escapes label

end Statements

section Depth

variable {caller : SubroutineDeclaration} {k : Nat}

section Lists

variable {whole before after rest : List Statement} {s : Statement} {n n' : Nat}

end Lists

end Depth

end Run

end EdgeCache
