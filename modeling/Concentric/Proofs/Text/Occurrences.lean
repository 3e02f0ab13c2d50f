import Concentric.Marker
import Concentric.Proofs.Text.Avoids

/-!
# Occurrences and lines

`occurrences pattern text` counts the positions of a text at which a pattern stands. A pattern without a
certain character does not reach across it (`prefix_append_cons_iff`); that is how the lines of a text and
the names of tags bound what a search can find.
-/

namespace Concentric.Text

/-- **The number of positions** at which the pattern stands. -/
def occurrences (pattern : List Char) : List Char → Nat
  | [] => 0
  | c :: rest => (pattern.isPrefixOf (c :: rest)).toNat + occurrences pattern rest

variable {pattern : List Char}

/-- A pattern does not reach beyond a character that it does not have. -/
theorem prefix_append_cons_iff {s t : List Char} {c : Char} (hc : c ∉ pattern) :
    pattern <+: s ++ c :: t ↔ pattern <+: s := by
  induction s generalizing pattern with
  | nil =>
    cases pattern with
    | nil => simp
    | cons d rest =>
      simp only [List.mem_cons, not_or] at hc
      simp [List.cons_prefix_cons, Ne.symm hc.1]
  | cons a s ih =>
    cases pattern with
    | nil => simp
    | cons d rest =>
      simp only [List.mem_cons, not_or] at hc
      simp only [List.cons_append, List.cons_prefix_cons, ih hc.2]

theorem isPrefixOf_append_cons {c : Char} (hc : c ∉ pattern) (s t : List Char) :
    pattern.isPrefixOf (s ++ c :: t) = pattern.isPrefixOf s := by
  rw [Bool.eq_iff_iff, List.isPrefixOf_iff_prefix, List.isPrefixOf_iff_prefix]
  exact prefix_append_cons_iff hc

/-- **A search is cut** at a character that the pattern does not have. -/
theorem occursIn_append_cons {c : Char} (hc : c ∉ pattern) (s t : List Char) :
    occursIn pattern (s ++ c :: t) = (occursIn pattern s || occursIn pattern t) := by
  induction s with
  | nil =>
    have hhere := isPrefixOf_append_cons hc [] t
    rw [List.nil_append] at hhere
    show (pattern.isPrefixOf (c :: t) || occursIn pattern t) = (pattern.isEmpty || occursIn pattern t)
    rw [hhere]
    cases pattern <;> rfl
  | cons a s ih =>
    have hhere := isPrefixOf_append_cons hc (a :: s) t
    rw [List.cons_append] at hhere
    rw [List.cons_append, occursIn, hhere, ih, occursIn, Bool.or_assoc]

/-- Where a pattern occurs, its beginnings occur. -/
theorem occursIn_of_begins {beginning text : List Char} (h : beginning <+: pattern)
    (hoccurs : occursIn pattern text = true) : occursIn beginning text = true := by
  obtain ⟨more, rfl⟩ := h
  obtain ⟨before, after, rfl⟩ := occursIn_iff.mp hoccurs
  exact occursIn_iff.mpr ⟨before, more ++ after, by simp only [List.append_assoc]⟩

/-- A search passes over characters with which the pattern does not begin. -/
theorem occursIn_append_of_not_mem {d : Char} {s : List Char} (h : d ∉ s) (rest t : List Char) :
    occursIn (d :: rest) (s ++ t) = occursIn (d :: rest) t := by
  induction s with
  | nil => rfl
  | cons c s ih =>
    simp only [List.mem_cons, not_or] at h
    have hnot : (d :: rest).isPrefixOf (c :: (s ++ t)) = false := by
      rw [List.isPrefixOf_cons_cons, beq_false_of_ne h.1, Bool.false_and]
    rw [List.cons_append, occursIn, hnot, Bool.false_or, ih h.2]

/-! ## Lines -/

/-- Lines, each one ended by a line feed. -/
def unlines (lines : List String) : String := String.join (lines.map fun line => line ++ "\n")

theorem unlines_cons (line : String) (rest : List String) :
    unlines (line :: rest) = line ++ "\n" ++ unlines rest := by
  simp [unlines]

theorem unlines_append (first second : List String) :
    unlines (first ++ second) = unlines first ++ unlines second := by
  simp [unlines, String.join_append]

/-- Lines that are joined by line feeds and ended by one. -/
theorem intercalate_eq_unlines {lines : List String} (hne : lines ≠ []) :
    "\n".intercalate lines ++ "\n" = unlines lines := by
  induction lines with
  | nil => exact absurd rfl hne
  | cons line rest ih =>
    cases rest with
    | nil => simp [unlines]
    | cons next rest =>
      rw [String.intercalate_cons_of_ne_nil (by simp), String.append_assoc, ih (by simp),
        unlines_cons line]

end Concentric.Text
