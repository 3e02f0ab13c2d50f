import Concentric.Number

/-!
# Computations that can fail

`FailsExactlyIf` says of a computation with numbers on which condition it fails, and steps that are chained fail on
the disjunction of their conditions (`FailsExactlyIf.bind`). A computation that succeeds on a condition of its input
succeeds on a list if the condition holds of all members (`mapM_eq_ite`).
-/

namespace Concentric

section Outcomes

variable {α β ε : Type} {computation : Except ε α}

theorem exists_of_isOk (h : computation.isOk = true) : ∃ a, computation = .ok a := by
  cases computation with
  | error e => exact absurd h Bool.false_ne_true
  | ok a => exact ⟨a, rfl⟩

theorem exists_of_map_eq_ok {f : α → β} {b : β} (h : computation.map f = .ok b) :
    ∃ a, computation = .ok a ∧ f a = b := by
  cases computation with
  | error e => exact nomatch h
  | ok a => exact ⟨a, rfl, Except.ok.inj h⟩

/-- A function of the result does not matter for a failure. -/
theorem map_eq_error_iff {f : α → β} {e : ε} : computation.map f = .error e ↔ computation = .error e := by
  cases computation with
  | error cause => simp only [Except.map, Except.error.injEq]
  | ok a => exact iff_of_false nofun nofun

/-! ## Success on a condition -/

section Conditions

variable {p : Prop} [Decidable p] {a b : α} {error e : ε}

theorem exists_ite_eq_ok_iff : (∃ b, (if p then .ok a else .error error : Except ε α) = .ok b) ↔ p := by
  split
  · next hp => exact iff_of_true ⟨a, rfl⟩ hp
  · next hp => exact iff_of_false (fun ⟨_, hok⟩ => nomatch hok) hp

theorem eq_of_ite_eq_ok (h : (if p then .ok a else .error error : Except ε α) = .ok b) : a = b := by
  split at h
  · exact Except.ok.inj h
  · cases h

theorem eq_of_ite_eq_error (h : (if p then .ok a else .error error : Except ε α) = .error e) : e = error := by
  split at h
  · cases h
  · exact (Except.error.inj h).symm

end Conditions

/-- A loop whose steps succeed on a condition succeeds if all of them do. -/
theorem mapM_eq_ite {p : α → Prop} [DecidablePred p] {step : α → Except ε β} {f : α → β} {error : ε}
    (hstep : ∀ a, step a = if p a then .ok (f a) else .error error) (l : List α) :
    l.mapM step = if ∀ a ∈ l, p a then .ok (l.map f) else .error error := by
  induction l with
  | nil => rfl
  | cons a rest ih =>
    rw [List.mapM_cons, hstep, ih]
    by_cases ha : p a
    · by_cases hrest : ∀ b ∈ rest, p b
      · have hall : ∀ b ∈ a :: rest, p b := List.forall_mem_cons.mpr ⟨ha, hrest⟩
        rw [if_pos ha, if_pos hrest, if_pos hall]
        rfl
      · have hnot : ¬ ∀ b ∈ a :: rest, p b := fun hall => hrest (List.forall_mem_cons.mp hall).2
        rw [if_pos ha, if_neg hrest, if_neg hnot]
        rfl
    · have hnot : ¬ ∀ b ∈ a :: rest, p b := fun hall => ha (List.forall_mem_cons.mp hall).1
      rw [if_neg ha, if_neg hnot]
      rfl

end Outcomes

/-! ## Failure on a condition -/

/-- **The computation fails exactly on a condition,** and then with the given error. -/
def FailsExactlyIf {α : Type} (computation : Except ArithmeticError α) (error : ArithmeticError)
    (condition : Prop) : Prop :=
  ∀ e, computation = .error e ↔ e = error ∧ condition

namespace FailsExactlyIf

variable {α β : Type} {error : ArithmeticError} {computation : Except ArithmeticError α} {condition : Prop}

theorem ok (a : α) : FailsExactlyIf (.ok a) error False := by
  intro e
  exact iff_of_false nofun And.right

theorem of_error {e : ArithmeticError} (h : FailsExactlyIf computation error condition)
    (he : computation = .error e) : e = error ∧ condition :=
  (h e).mp he

theorem not_of_ok {a : α} (h : FailsExactlyIf computation error condition) (ha : computation = .ok a) :
    ¬ condition := by
  intro hcondition
  have hfails := (h error).mpr ⟨rfl, hcondition⟩
  rw [ha] at hfails
  exact nomatch hfails

/-- **Steps in a row** fail on the condition of the first or on that of the second. -/
theorem bind {first : Except ArithmeticError α} {next : α → Except ArithmeticError β} {A B : Prop}
    (hfirst : FailsExactlyIf first error A) (hnext : ∀ a, FailsExactlyIf (next a) error B) :
    FailsExactlyIf (first >>= next) error (A ∨ B) := by
  intro e
  cases hcase : first with
  | error cause =>
    obtain ⟨rfl, hA⟩ := hfirst.of_error hcase
    constructor
    · intro h
      exact ⟨(Except.error.inj h).symm, .inl hA⟩
    · rintro ⟨rfl, -⟩
      rfl
  | ok a =>
    show next a = .error e ↔ e = error ∧ (A ∨ B)
    rw [hnext a e, or_iff_right (hfirst.not_of_ok hcase)]

theorem map (h : FailsExactlyIf computation error condition) (f : α → β) :
    FailsExactlyIf (computation.map f) error condition := by
  intro e
  rw [map_eq_error_iff]
  exact h e

theorem congr {A B : Prop} (h : FailsExactlyIf computation error A) (hiff : A ↔ B) :
    FailsExactlyIf computation error B := by
  intro e
  rw [h e, hiff]

end FailsExactlyIf

end Concentric
