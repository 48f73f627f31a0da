/-!
Values by name, each name once, in the order in which the names came.
-/

namespace EdgeCache

structure Register (α : Type) where
  entries : List (String × α)

namespace Register

variable {α : Type}

def empty : Register α := ⟨[]⟩

instance : Inhabited (Register α) := ⟨empty⟩

def get? (r : Register α) (name : String) : Option α := r.entries.lookup name

def putIn (name : String) (a : α) : List (String × α) → List (String × α)
  | [] => [(name, a)]
  | (n, b) :: rest => if name = n then (n, a) :: rest else (n, b) :: putIn name a rest

def put (r : Register α) (name : String) (a : α) : Register α := ⟨putIn name a r.entries⟩

theorem lookup_putIn (name n : String) (a : α) (es : List (String × α)) :
    (putIn name a es).lookup n = if n = name then some a else es.lookup n := by
  induction es with
  | nil =>
    by_cases h : n = name
    · subst h; simp [putIn]
    · have : (n == name) = false := by simpa using h
      simp [putIn, List.lookup_cons, List.lookup_nil, h, this]
  | cons e rest ih =>
    obtain ⟨m, b⟩ := e
    by_cases hm : name = m
    · subst hm
      by_cases h : n = name
      · subst h; simp [putIn]
      · have : (n == name) = false := by simpa using h
        simp [putIn, List.lookup_cons, h, this]
    · simp only [putIn, hm, if_false, List.lookup_cons]
      by_cases h : n = m
      · subst h
        have : n ≠ name := fun e => hm e.symm
        simp [this]
      · have : (n == m) = false := by simpa using h
        simp [this, ih]

theorem get?_put (r : Register α) (name n : String) (a : α) :
    (r.put name a).get? n = if n = name then some a else r.get? n := lookup_putIn name n a r.entries

end Register

end EdgeCache
