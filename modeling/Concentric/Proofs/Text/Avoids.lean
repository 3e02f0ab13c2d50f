import Concentric.Geometry.Clip
import Concentric.Proofs.Writing

/-!
# Texts without certain characters

`Avoids text forbidden` says that none of the forbidden characters occurs in a text. Texts that are put
together avoid what their parts avoid. Every number is written with the characters of `isNumberChar`
alone, so a printed number avoids quotes, angle brackets, ampersands and all letters but a few; paths and
lists of points inherit this. Parts that are joined by a character that none of them has come back when the
text is split at it (`split_intercalate`).
-/

namespace Concentric.Text

/-- **None of the forbidden characters occurs in the text.** -/
def Avoids (text : String) (forbidden : List Char) : Prop :=
  ∀ c ∈ text.toList, c ∉ forbidden

instance (text : String) (forbidden : List Char) : Decidable (Avoids text forbidden) :=
  List.decidableBAll (· ∉ forbidden) text.toList

variable {forbidden : List Char}

/-! ## Texts that are put together -/

theorem avoids_append {s t : String} :
    Avoids (s ++ t) forbidden ↔ Avoids s forbidden ∧ Avoids t forbidden := by
  simp only [Avoids, String.toList_append, List.mem_append, or_imp, forall_and]

theorem Avoids.append {s t : String} (hs : Avoids s forbidden) (ht : Avoids t forbidden) :
    Avoids (s ++ t) forbidden :=
  avoids_append.mpr ⟨hs, ht⟩

theorem Avoids.intercalate {separator : String} {texts : List String}
    (hsep : Avoids separator forbidden) (htexts : ∀ t ∈ texts, Avoids t forbidden) :
    Avoids (separator.intercalate texts) forbidden := by
  induction texts with
  | nil => simp [Avoids]
  | cons t rest ih =>
    have ht : Avoids t forbidden := htexts t (by simp)
    cases rest with
    | nil => simpa using ht
    | cons u rest =>
      rw [String.intercalate_cons_of_ne_nil (by simp)]
      exact (ht.append hsep).append (ih fun v hv => htexts v (List.mem_cons_of_mem _ hv))

theorem Avoids.not_mem {text : String} (h : Avoids text forbidden) {c : Char} (hc : c ∈ forbidden) :
    c ∉ text.toList :=
  fun hmem => h c hmem hc

/-- A text that avoids characters avoids each selection of them. -/
theorem Avoids.mono {text : String} {fewer : List Char} (h : Avoids text forbidden)
    (hsub : fewer ⊆ forbidden) : Avoids text fewer :=
  fun c hc hf => h c hc (hsub hf)

/-! ## The characters of numbers -/

/-- The characters that numbers are written with. -/
def isNumberChar (c : Char) : Bool := c.isDigit || "+-.einfa".toList.contains c

/-- A text of number characters. -/
def Numeric (text : List Char) : Prop := ∀ c ∈ text, isNumberChar c = true

instance (text : List Char) : Decidable (Numeric text) :=
  List.decidableBAll (isNumberChar · = true) text

theorem Numeric.append {s t : List Char} (hs : Numeric s) (ht : Numeric t) : Numeric (s ++ t) := by
  intro c hc
  rcases List.mem_append.mp hc with h | h
  · exact hs c h
  · exact ht c h

theorem Numeric.cons {c : Char} {t : List Char} (hc : isNumberChar c = true) (ht : Numeric t) :
    Numeric (c :: t) := by
  intro d hd
  rcases List.mem_cons.mp hd with rfl | h
  · exact hc
  · exact ht d h

/-- Leaving characters out leaves a numeric text. -/
theorem Numeric.of_subset {s t : List Char} (ht : Numeric t) (h : s ⊆ t) : Numeric s :=
  fun c hc => ht c (h hc)

theorem numeric_replicate_zero (n : Nat) : Numeric (List.replicate n '0') := by
  intro c hc
  rw [List.eq_of_mem_replicate hc]
  decide

theorem numeric_digitChars (n : Nat) : Numeric (Decimal.digitChars n) := by
  intro c hc
  have hdigit : c.isDigit = true := Nat.isDigit_of_mem_toDigits (by decide) (by decide) hc
  simp [isNumberChar, hdigit]

theorem numeric_signChars (negative : Bool) : Numeric (Decimal.signChars negative) := by
  cases negative with
  | false => exact fun c hc => absurd hc (by simp [Decimal.signChars])
  | true => exact fun c hc => by rw [List.mem_singleton.mp hc]; decide

theorem numeric_dropTrailingZeros {digits : List Char} (h : Numeric digits) :
    Numeric (Decimal.dropTrailingZeros digits) := by
  refine h.of_subset fun c hc => ?_
  have hmem := List.mem_reverse.mp hc
  exact List.mem_reverse.mp ((List.dropWhile_sublist _).subset hmem)

theorem numeric_exponentDigits (n : Nat) : Numeric (Decimal.exponentDigits n) := by
  unfold Decimal.exponentDigits
  split
  · exact (numeric_digitChars n).cons (by decide)
  · exact numeric_digitChars n

theorem numeric_positional (layout : Decimal.Layout) {digits : List Char} (h : Numeric digits)
    (lead : Int) : Numeric (Decimal.positional layout digits lead) := by
  unfold Decimal.positional
  split
  · have hwhole : Numeric (digits.take (lead.toNat + 1) ++
        List.replicate (lead.toNat + 1 - digits.length) '0') :=
      (h.of_subset (List.take_subset _ _)).append (numeric_replicate_zero _)
    have hfraction : Numeric (digits.drop (lead.toNat + 1)) := h.of_subset (List.drop_subset _ _)
    simp only
    split
    · refine hwhole.append ?_
      split <;> decide
    · exact hwhole.append (hfraction.cons (by decide))
  · exact (((numeric_replicate_zero _).append h).cons (by decide)).cons (by decide)

theorem numeric_scientific {digits : List Char} (h : Numeric digits) (lead : Int) :
    Numeric (Decimal.scientific digits lead) := by
  have hexponent : Numeric ('e' :: (if lead < 0 then '-' else '+') ::
      Decimal.exponentDigits lead.natAbs) := by
    refine Numeric.cons (by decide) (Numeric.cons ?_ (numeric_exponentDigits _))
    split <;> decide
  unfold Decimal.scientific
  refine Numeric.append ?_ hexponent
  split
  · refine Numeric.cons (h _ (by simp)) (Numeric.cons (by decide) ?_)
    exact h.of_subset (by simp)
  · exact h

theorem numeric_magnitude (layout : Decimal.Layout) (digits : Nat) (exponent : Int) :
    Numeric (layout.magnitude digits exponent) := by
  have hdigits := numeric_dropTrailingZeros (numeric_digitChars digits)
  unfold Decimal.Layout.magnitude
  simp only
  split
  · split <;> decide
  · split
    · exact numeric_positional layout hdigits _
    · exact numeric_scientific hdigits _

theorem numeric_exactChars (x : Binary64) : Numeric x.exactChars := by
  cases x with
  | finite negative quanta _ => exact (numeric_signChars negative).append (numeric_magnitude _ _ _)
  | infinite negative => exact (numeric_signChars negative).append (by decide)
  | nan => exact (by decide : Numeric "nan".toList)

theorem numeric_tenthsChars (x : Binary64) : Numeric x.tenthsChars := by
  cases x with
  | finite negative quanta _ =>
    exact ((numeric_signChars negative).append (numeric_digitChars _)).append
      ((numeric_digitChars _).cons (by decide))
  | infinite negative => exact (numeric_signChars negative).append (by decide)
  | nan => exact (by decide : Numeric "nan".toList)

theorem numeric_generalChars (x : Binary64) : Numeric x.generalChars := by
  cases x with
  | finite negative quanta _ => exact (numeric_signChars negative).append (numeric_magnitude _ _ _)
  | infinite negative => exact (numeric_signChars negative).append (by decide)
  | nan => exact (by decide : Numeric "nan".toList)

theorem numeric_integerChars (z : Int) : Numeric (Number.integerChars z) :=
  (numeric_signChars _).append (numeric_digitChars _)

theorem numeric_plainText (n : Number) : Numeric n.plainText.toList := by
  cases n with
  | whole z => simpa [Number.plainText] using numeric_integerChars z
  | real x => simpa [Number.plainText] using numeric_exactChars x

theorem numeric_plainArgumentText (n : Number) : Numeric n.plainArgumentText.toList := by
  cases n with
  | whole z => simpa [Number.plainArgumentText] using numeric_integerChars z
  | real x => simpa [Number.plainArgumentText] using numeric_tenthsChars x

/-! ## Printed numbers avoid all other characters -/

theorem Numeric.avoids {text : String} (h : Numeric text.toList)
    (hforbidden : forbidden.any isNumberChar = false) : Avoids text forbidden := by
  intro c hc hf
  have hnumber := List.any_eq_true.mpr ⟨c, hf, h c hc⟩
  rw [hforbidden] at hnumber
  exact Bool.false_ne_true hnumber

theorem avoids_tenths (x : Binary64) (hforbidden : forbidden.any isNumberChar = false) :
    Avoids (String.ofList x.tenthsChars) forbidden :=
  Numeric.avoids (by simpa using numeric_tenthsChars x) hforbidden

/-- The text of a path avoids what its letters, blanks and numbers avoid. -/
theorem avoids_plainPathText {commands : List PathCommand}
    (hletters : ∀ command ∈ commands, Avoids command.letter forbidden)
    (hblank : Avoids " " forbidden) (hforbidden : forbidden.any isNumberChar = false) :
    Avoids (plainPathText commands) forbidden := by
  refine Avoids.intercalate hblank fun text htext => ?_
  obtain ⟨command, hcommand, rfl⟩ := List.mem_map.mp htext
  refine Avoids.intercalate hblank fun part hpart => ?_
  rcases List.mem_cons.mp hpart with rfl | hargument
  · exact hletters command hcommand
  · obtain ⟨n, -, rfl⟩ := List.mem_map.mp hargument
    exact (numeric_plainArgumentText n).avoids hforbidden

/-- The text of a straight line avoids what its two letters, blanks and numbers avoid. -/
theorem avoids_segment (segment : Segment) (hletters : Avoids "M L" forbidden)
    (hforbidden : forbidden.any isNumberChar = false) : Avoids segment.plainPathText forbidden := by
  have hparts : "M L" = "M" ++ " " ++ "L" := by decide
  rw [hparts, avoids_append, avoids_append] at hletters
  obtain ⟨⟨hstart, hblank⟩, hstop⟩ := hletters
  refine avoids_plainPathText ?_ hblank hforbidden
  simp only [Segment.path, List.forall_mem_cons]
  exact ⟨hstart, hstop, List.forall_mem_nil _⟩

/-- The text of a list of points avoids what blanks, commas and numbers avoid. -/
theorem avoids_pointsText (points : List (Point Binary64)) (hblank : Avoids " " forbidden)
    (hcomma : Avoids "," forbidden) (hforbidden : forbidden.any isNumberChar = false) :
    Avoids (pointsText points) forbidden := by
  refine Avoids.intercalate hblank fun text htext => ?_
  obtain ⟨point, -, rfl⟩ := List.mem_map.mp htext
  exact ((avoids_tenths point.x hforbidden).append hcomma).append (avoids_tenths point.y hforbidden)

/-! ## Parts of a text -/

/-- **The parts of a text** between the occurrences of a character. -/
def split (separator : Char) (text : String) : List String :=
  (text.toList.splitOn separator).map String.ofList

/-- **Splitting undoes joining.** -/
theorem split_intercalate {separator : Char} {parts : List String} (hne : parts ≠ [])
    (hparts : ∀ part ∈ parts, separator ∉ part.toList) :
    split separator ((String.singleton separator).intercalate parts) = parts := by
  have hchars : ∀ chars ∈ parts.map String.toList, separator ∉ chars := by
    intro chars hmem
    obtain ⟨part, hpart, rfl⟩ := List.mem_map.mp hmem
    exact hparts part hpart
  have hsplit := List.splitOn_intercalate separator hchars (by simpa using hne)
  rw [split, String.toList_intercalate, String.toList_singleton, hsplit, List.map_map]
  have hid : (String.ofList ∘ String.toList) = id := funext fun text => String.ofList_toList
  rw [hid, List.map_id]

end Concentric.Text
