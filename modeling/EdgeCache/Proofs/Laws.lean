import EdgeCache.Run.Basic

/-! Laws of runs: how they follow one another, what they leave of the machine, and what they
give. -/

namespace EdgeCache.Run

section Order

variable {α β γ : Type}

theorem bind_assoc (x : Run α) (f : α → Run β) (g : β → Run γ) :
    Run.bind (Run.bind x f) g = Run.bind x fun a => Run.bind (f a) g := by
  funext m
  unfold Run.bind
  rcases x m with ⟨a | e | _, n⟩ <;> rfl

theorem bind_pure (x : Run α) : Run.bind x pure = x := by
  funext m
  show Run.bind x Run.pure m = x m
  unfold Run.bind
  rcases x m with ⟨a | e | _, n⟩ <;> rfl

theorem pinned_bind (t : Token) (x : Run α) (f : α → Run β) :
    pinned t (Run.bind x f) = Run.bind (pinned t x) fun a => pinned t (f a) := by
  funext m
  simp only [pinned, Run.bind]
  rcases x m with ⟨a | e | _, n⟩ <;> rfl

theorem bind_of_done {x : Run α} {f : α → Run β} {m n : Machine} {a : α} (h : x m = (.done a, n)) :
    (x >>= f) m = f a n := by
  show Run.bind x f m = f a n
  unfold Run.bind
  rw [h]

theorem bind_eq_done {x : Run α} {f : α → Run β} {b : β} {m n : Machine}
    (h : Run.bind x f m = (.done b, n)) :
    ∃ a p, x m = (.done a, p) ∧ f a p = (.done b, n) := by
  unfold Run.bind at h
  generalize x m = r at h
  rcases r with ⟨a | e | _, p⟩
  · exact ⟨a, p, rfl, h⟩
  · cases h
  · cases h

theorem bind_of_failed {x : Run α} {f : α → Run β} {m n : Machine} {e : Failure}
    (h : x m = (.failed e, n)) :
    (x >>= f) m = (.failed e, n) := by
  show Run.bind x f m = (.failed e, n)
  unfold Run.bind
  rw [h]

theorem pinned_of_failed {x : Run α} {m n : Machine} {e : Failure} (t : Token)
    (h : x m = (.failed e, n)) :
    pinned t x m = (.failed (e.pin t), n) := by
  unfold pinned
  rw [h]

theorem pinned_of_done {x : Run α} {m n : Machine} {a : α} (t : Token) (h : x m = (.done a, n)) :
    pinned t x m = (.done a, n) := by
  unfold pinned
  rw [h]

theorem pinned_eq_done {t : Token} {x : Run α} {a : α} {m n : Machine}
    (h : pinned t x m = (.done a, n)) :
    x m = (.done a, n) := by
  unfold pinned at h
  split at h
  · cases h
  · exact h

end Order

/-- However it ends, a run leaves what is seen of the machine as it was. -/
def Retains {α β : Type} (view : Machine → β) (x : Run α) : Prop := ∀ m, view (x m).2 = view m

section Retains

variable {α β γ : Type} {view : Machine → γ} {x : Run α} {f : α → Run β}

theorem retains_pure (a : α) : Retains view (pure a) := fun _ => rfl

theorem retains_fail (f : Failure) : Retains view (fail f : Run α) := fun _ => rfl

theorem retains_ofExcept (r : Except Cause α) : Retains view (ofExcept r) := by
  cases r with
  | ok a => exact retains_pure a
  | error c => exact retains_fail _

theorem retains_asking (f : Context → Except Cause α) : Retains view (asking f) :=
  fun m => retains_ofExcept (f m.context) m

theorem retains_reading (f : Context → Except (Stop Cause) α) : Retains view (reading f) := by
  intro m
  unfold reading
  split <;> rfl

theorem Retains.bind (hx : x.Retains view) (hf : ∀ a, (f a).Retains view) :
    (Run.bind x f).Retains view := by
  intro m
  have first := hx m
  unfold Run.bind
  generalize x m = r at first
  rcases r with ⟨a | e | _, p⟩
  · exact (hf a p).trans first
  · exact first
  · exact first

theorem retains_bind_asking {g : Context → Except Cause α}
    (hf : ∀ c a, g c = .ok a → (f a).Retains view) :
    (Run.bind (asking g) f).Retains view := by
  intro m
  unfold Run.bind asking
  cases found : g m.context with
  | ok a => exact hf m.context a found m
  | error e => rfl

theorem pinned_machine (t : Token) (x : Run α) (m : Machine) : (pinned t x m).2 = (x m).2 := by
  unfold pinned
  rcases x m with ⟨a | e | _, p⟩ <;> rfl

theorem Retains.pinned (t : Token) (hx : x.Retains view) : (Run.pinned t x).Retains view :=
  fun m => (congrArg view (pinned_machine t x m)).trans (hx m)

theorem bind_machine (hf : ∀ a, (f a).Retains id) (m : Machine) : (Run.bind x f m).2 = (x m).2 := by
  unfold Run.bind
  rcases x m with ⟨a | e | _, p⟩
  · exact hf a p
  · rfl
  · rfl

end Retains

section Yields

variable {α β : Type} {p : β → Prop} {x : Run α} {f : α → Run β}

def Yields (p : α → Prop) (x : Run α) : Prop := ∀ m a n, x m = (.done a, n) → p a

theorem yields_pure {p : α → Prop} {a : α} (h : p a) : Yields p (pure a) := by
  rintro m b n same
  cases same
  exact h

theorem yields_fail {p : α → Prop} (f : Failure) : Yields p (fail f) := fun _ _ _ h => by cases h

theorem yields_bind (hf : ∀ a, Yields p (f a)) : Yields p (Run.bind x f) := by
  intro m b n h
  obtain ⟨a, q, -, h⟩ := bind_eq_done h
  exact hf a q b n h

theorem Yields.pinned {p : α → Prop} (t : Token) (hx : x.Yields p) : (Run.pinned t x).Yields p :=
  fun m a n h => hx m a n (pinned_eq_done h)

end Yields

end EdgeCache.Run
