import CpuIdentity.Text.Basic

/-!
# Traced computations

A traced computation has a value and a trace: what it did on the way to the value, first to last.
The trace of two computations in sequence is the first trace followed by the second.
-/

namespace CpuIdentity

/-- A value together with the trace of effects that led to it. -/
structure Traced (ε α : Type) where
  trace : List ε
  value : α

namespace Traced

variable {ε α β : Type}

instance : Monad (Traced ε) where
  pure a := ⟨[], a⟩
  bind x f := ⟨x.trace ++ (f x.value).trace, (f x.value).value⟩

/-- The computation that does one thing. -/
def emit (e : ε) : Traced ε Unit := ⟨[e], ()⟩

@[simp] theorem trace_pure (a : α) : (pure a : Traced ε α).trace = [] := rfl

@[simp] theorem value_pure (a : α) : (pure a : Traced ε α).value = a := rfl

@[simp] theorem trace_bind (x : Traced ε α) (f : α → Traced ε β) :
    (x >>= f).trace = x.trace ++ (f x.value).trace := rfl

@[simp] theorem value_bind (x : Traced ε α) (f : α → Traced ε β) :
    (x >>= f).value = (f x.value).value := rfl

theorem mk_bind (t : List ε) (a : α) (f : α → Traced ε β) :
    (⟨t, a⟩ : Traced ε α) >>= f = ⟨t ++ (f a).trace, (f a).value⟩ := rfl

@[ext] theorem ext {x y : Traced ε α} (ht : x.trace = y.trace) (hv : x.value = y.value) : x = y := by
  cases x; cases y; cases ht; cases hv; rfl

instance : LawfulMonad (Traced ε) :=
  LawfulMonad.mk' (Traced ε) (fun _ => ext (List.append_nil _) rfl) (fun _ _ => rfl)
    (fun _ _ _ => ext (List.append_assoc ..) rfl)

end Traced

end CpuIdentity
