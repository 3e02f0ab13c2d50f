import Concentric.Number

/-!
# Drawings

A drawing is what one builder adds to a canvas: lines of definitions, lines of the painted body, and an
outcome. A builder that fails keeps the lines it added before; `Drawing.bind` says so once for all
builders. No builder can take a line away or change one, because a drawing holds additions only.
-/

namespace Concentric

/-- **What a builder adds,** and its outcome. -/
structure Drawing (α : Type) where
  defs : List String
  body : List String
  outcome : Except ArithmeticError α

namespace Drawing

variable {α β : Type}

/-- Adds lines to the definitions. -/
def define (lines : List String) : Drawing Unit := ⟨lines, [], .ok ()⟩

/-- Adds lines to the body. -/
def paint (lines : List String) : Drawing Unit := ⟨[], lines, .ok ()⟩

/-- Adds nothing and has the outcome of a computation. -/
def attempt (computation : Except ArithmeticError α) : Drawing α := ⟨[], [], computation⟩

/-- The first drawing and, if it succeeds, the one that follows from its result. -/
def bind (first : Drawing α) (next : α → Drawing β) : Drawing β :=
  match first.outcome with
  | .error e => ⟨first.defs, first.body, .error e⟩
  | .ok a =>
    let second := next a
    ⟨first.defs ++ second.defs, first.body ++ second.body, second.outcome⟩

instance : Monad Drawing where
  pure a := attempt (.ok a)
  bind := bind

/-! ## One equation per building block -/

theorem pure_eq (a : α) : (pure a : Drawing α) = ⟨[], [], .ok a⟩ := rfl

theorem define_bind (lines : List String) (next : Unit → Drawing β) :
    define lines >>= next = ⟨lines ++ (next ()).defs, (next ()).body, (next ()).outcome⟩ := rfl

theorem paint_bind (lines : List String) (next : Unit → Drawing β) :
    paint lines >>= next = ⟨(next ()).defs, lines ++ (next ()).body, (next ()).outcome⟩ := rfl

theorem attempt_ok_bind (a : α) (next : α → Drawing β) : attempt (.ok a) >>= next = next a := rfl

theorem attempt_error_bind (e : ArithmeticError) (next : α → Drawing β) :
    attempt (.error e) >>= next = ⟨[], [], .error e⟩ := rfl

/-- What follows a drawing that has succeeded. -/
theorem ok_bind (defs body : List String) (a : α) (next : α → Drawing β) :
    (⟨defs, body, .ok a⟩ : Drawing α) >>= next =
      ⟨defs ++ (next a).defs, body ++ (next a).body, (next a).outcome⟩ := rfl

end Drawing

end Concentric
