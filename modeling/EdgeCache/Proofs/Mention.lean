import EdgeCache.Proofs.Permitted

/-! The string literals that stand in a program. -/

namespace EdgeCache

inductive Expression.Mentions (text : String) : Expression → Prop
  | here (t : Token) : Mentions text (.string t text)
  | operand {t op r} : Mentions text r → Mentions text (.prefixed t op r)
  | inner {t e} : Mentions text e → Mentions text (.group t e)
  | left {t l op r} : Mentions text l → Mentions text (.binary t l op r)
  | right {t l op r} : Mentions text r → Mentions text (.binary t l op r)
  | condition {t c a b} : Mentions text c → Mentions text (.conditional t c a b)
  | consequence {t c a b} : Mentions text a → Mentions text (.conditional t c a b)
  | alternative {t c a b} : Mentions text b → Mentions text (.conditional t c a b)
  | argument {t f es e} : e ∈ es → Mentions text e → Mentions text (.call t f es)

inductive Statement.Mentions (text : String) : Statement → Prop
  | inner {t b s} : s ∈ b → Mentions text s → Mentions text (.block t b)
  | assigned {t n op e} : e.Mentions text → Mentions text (.set t n op e)
  | added {t n e} : e.Mentions text → Mentions text (.add t n e)
  | condition {t c a others last} : c.Mentions text → Mentions text (.branch t c a others last)
  | consequence {t c a others last s} : s ∈ a → Mentions text s →
    Mentions text (.branch t c a others last)
  | otherCondition {t c a others last o b} : .mk o b ∈ others → o.Mentions text →
    Mentions text (.branch t c a others last)
  | otherConsequence {t c a others last o b s} : .mk o b ∈ others → s ∈ b → Mentions text s →
    Mentions text (.branch t c a others last)
  | alternative {t c a others b s} : s ∈ b → Mentions text s →
    Mentions text (.branch t c a others (some b))
  | control {t e cases default} : e.Mentions text → Mentions text (.switch t e cases default)
  | case {t e cases default k s} : k ∈ cases → s ∈ k.body → Mentions text s →
    Mentions text (.switch t e cases default)
  | logged {t e} : e.Mentions text → Mentions text (.log t e)
  | synthetic {t e base64} : e.Mentions text → Mentions text (.synthetic t e base64)
  | returned {t e} : e.Mentions text → Mentions text (.ret t (some e))
  | status {t e response} : e.Mentions text → Mentions text (.error t (some e) response)
  | response {t code e} : e.Mentions text → Mentions text (.error t code (some e))
  | argument {t f es e} : e ∈ es → e.Mentions text → Mentions text (.apply t f es)

def Program.Mentions (text : String) (p : Program) : Prop :=
  ∃ d, .subroutine d ∈ p.declarations ∧ ∃ s ∈ d.body, s.Mentions text

def Expression.Within (p : String → Prop) (e : Expression) : Prop :=
  ∀ text, e.Mentions text → p text

def Statement.Within (p : String → Prop) (s : Statement) : Prop := ∀ text, s.Mentions text → p text

def Statement.AllWithin (p : String → Prop) (b : List Statement) : Prop := ∀ s ∈ b, s.Within p

namespace Declarations

theorem mem_insert {α : Type} {nameOf : α → String} {kind : String} {items items' : List α}
    {item a : α} (h : insert nameOf kind items item = .ok items') (ha : a ∈ items') :
    a ∈ items ∨ a = item := by
  unfold insert at h
  split at h <;> cases h
  simpa using ha

def Subroutine (d : Declarations) (s : SubroutineDeclaration) : Prop :=
  s ∈ d.subroutines ∨ s ∈ d.functional

theorem subroutine_of_add {d d' : Declarations} {decl : Declaration} {s : SubroutineDeclaration}
    (h : d.add decl = .ok d') (hs : d'.Subroutine s) : d.Subroutine s ∨ decl = .subroutine s := by
  cases decl with
  | acl a =>
    simp only [add] at h
    split at h
    · cases h
    · obtain ⟨_, -, h⟩ := bind_eq_ok h
      cases h
      exact .inl hs
  | subroutine t =>
    obtain ⟨labels, -, h⟩ := bind_eq_ok h
    split at h
    · obtain ⟨functional, hf, h⟩ := bind_eq_ok h
      cases h
      rcases hs with hs | hs
      · exact .inl (.inl hs)
      · exact (mem_insert hf hs).imp .inr fun e => congrArg Declaration.subroutine e.symm
    · obtain ⟨subroutines, hf, h⟩ := bind_eq_ok h
      cases h
      rcases hs with hs | hs
      · exact (mem_insert hf hs).imp .inl fun e => congrArg Declaration.subroutine e.symm
      · exact .inl (.inr hs)
  | backend | director | table | penaltybox | ratecounter =>
    obtain ⟨_, -, h⟩ := bind_eq_ok h
    cases h
    exact .inl hs

theorem subroutine_of_load {p : Program} {d : Declarations} (h : load p = .ok d)
    {s : SubroutineDeclaration} (hs : d.Subroutine s) : .subroutine s ∈ p.declarations := by
  have loaded := foldlM_keeps
    (P := fun d : Declarations => ∀ s, d.Subroutine s → Declaration.subroutine s ∈ p.declarations)
    (fun d decl hd d' added known s hs => ?_) h fun s hs => ?_
  · exact loaded s hs
  · rcases subroutine_of_add added hs with old | rfl
    · exact known s old
    · exact hd
  · rcases hs with hs | hs <;> cases hs

theorem body_within {p : Program} {d : Declarations} (h : load p = .ok d)
    {s : SubroutineDeclaration} (hs : d.Subroutine s) : Statement.AllWithin (p.Mentions ·) s.body :=
  fun t ht _ hm => ⟨s, subroutine_of_load h hs, t, ht, hm⟩

end Declarations

end EdgeCache
