import Concentric.Proofs.Markup.Scanner
import Concentric.Proofs.Text.Occurrences

/-!
# Counting elements in a text

An opening angle bracket that the scanner gets past begins a tag. So in a text that is read, an angle
bracket and the beginning of a name stand exactly where an element of such a name begins, and a plain
search for `<circle` counts elements (`Reads.occurrences`).
-/

namespace Concentric.Markup

/-- Whether a token begins an element whose name begins with a stem. -/
def Token.begins (stem : List Char) : Token → Bool
  | .opening name _ => stem.isPrefixOf name.toList
  | .empty name _ => stem.isPrefixOf name.toList
  | _ => false

namespace Scanner

/-- Whether the tag that is being read will begin with a stem. As long as its name is not complete, this
depends on the characters that follow. -/
def Mode.begins (stem : List Char) : Mode → List Char → Bool
  | .bracket, following => stem.isPrefixOf following
  | .opening name, following => stem.isPrefixOf (name ++ following)
  | .behind name _, _ => stem.isPrefixOf name.toList
  | .blank name _, _ => stem.isPrefixOf name.toList
  | .key name _ _, _ => stem.isPrefixOf name.toList
  | .equals name _ _, _ => stem.isPrefixOf name.toList
  | .value name _ _ _, _ => stem.isPrefixOf name.toList
  | .slash name _, _ => stem.isPrefixOf name.toList
  | _, _ => false

variable {stem : List Char}

/-- A name ends where a character stands that no name has. -/
theorem isPrefixOf_append_cons (hstem : isName stem = true) {c : Char} (hc : isNameChar c = false)
    (name following : List Char) :
    stem.isPrefixOf (name ++ c :: following) = stem.isPrefixOf name := by
  have hnot : c ∉ stem := by
    intro hmem
    have hyes := isNameChar_of_mem hstem c hmem
    rw [hc] at hyes
    exact Bool.false_ne_true hyes
  exact Text.isPrefixOf_append_cons hnot name following

/-- The name of the tag that is being read, once it is complete. -/
def Mode.name? : Mode → Option String
  | .behind name _ | .blank name _ | .key name _ _ | .equals name _ _ | .value name _ _ _ | .slash name _ =>
    some name
  | _ => none

theorem Mode.begins_of_name? {mode : Mode} {name : String} (h : mode.name? = some name)
    (following : List Char) : mode.begins stem following = stem.isPrefixOf name.toList := by
  cases mode <;> simp_all [Mode.name?, Mode.begins]

/-- **What can happen inside a tag:** it goes on, or its element is reported. -/
inductive Inside (name : String) : Mode → List Token → Prop
  | more {next : Mode} (hname : next.name? = some name) : Inside name next []
  | opened (attributes : List Attribute) : Inside name .content [.opening name attributes]
  | empty (attributes : List Attribute) : Inside name .content [.empty name attributes]

/-- Either way the element is counted once. -/
theorem Inside.begins {name : String} {next : Mode} {read : List Token} (h : Inside name next read)
    (following : List Char) :
    (stem.isPrefixOf name.toList).toNat =
      read.countP (Token.begins stem) + (next.begins stem following).toNat := by
  cases h with
  | more hname => rw [Mode.begins_of_name? hname, List.countP_nil, Nat.zero_add]
  | opened attributes =>
    cases hbegins : stem.isPrefixOf name.toList <;> simp [Mode.begins, Token.begins, hbegins]
  | empty attributes =>
    cases hbegins : stem.isPrefixOf name.toList <;> simp [Mode.begins, Token.begins, hbegins]

theorem inside_finish {name : String} {done : List Attribute} {c : Char} {next : Mode}
    {read : List Token} (h : finish name done c = some (next, read)) : Inside name next read := by
  unfold finish at h
  split at h
  · obtain ⟨rfl, rfl⟩ : .content = next ∧ [.opening name done] = read := by simpa using h
    exact .opened done
  · split at h
    · obtain ⟨rfl, rfl⟩ : .slash name done = next ∧ [] = read := by simpa using h
      exact .more rfl
    · exact absurd h (by simp)

theorem inside_advance {mode next : Mode} {name : String} {c : Char} {read : List Token}
    (hname : mode.name? = some name) (h : advance mode c = some (next, read)) :
    Inside name next read := by
  cases mode with
  | behind tag done =>
    obtain rfl : tag = name := Option.some.inj hname
    simp only [advance] at h
    split at h
    · obtain ⟨rfl, rfl⟩ : .blank tag done = next ∧ [] = read := by simpa using h
      exact .more rfl
    · exact inside_finish h
  | blank tag done =>
    obtain rfl : tag = name := Option.some.inj hname
    simp only [advance] at h
    split at h
    · obtain ⟨rfl, rfl⟩ : .blank tag done = next ∧ [] = read := by simpa using h
      exact .more rfl
    · split at h
      · obtain ⟨rfl, rfl⟩ : .key tag done [c] = next ∧ [] = read := by simpa using h
        exact .more rfl
      · exact inside_finish h
  | key tag done key =>
    obtain rfl : tag = name := Option.some.inj hname
    simp only [advance] at h
    split at h
    · obtain ⟨rfl, rfl⟩ : .key tag done (key ++ [c]) = next ∧ [] = read := by simpa using h
      exact .more rfl
    · split at h
      · obtain ⟨rfl, rfl⟩ : .equals tag done key = next ∧ [] = read := by simpa using h
        exact .more rfl
      · exact absurd h (by simp)
  | equals tag done key =>
    simp only [advance, Option.ite_none_right_eq_some, Option.some.injEq, Prod.mk.injEq] at h
    obtain ⟨-, rfl, rfl⟩ := h
    exact .more hname
  | value tag done key value =>
    obtain rfl : tag = name := Option.some.inj hname
    simp only [advance] at h
    split at h
    · obtain ⟨rfl, rfl⟩ :
          .behind tag (done ++ [⟨String.ofList key, String.ofList value⟩]) = next ∧ [] = read := by
        simpa using h
      exact .more rfl
    · split at h
      · exact absurd h (by simp)
      · obtain ⟨rfl, rfl⟩ : .value tag done key (value ++ [c]) = next ∧ [] = read := by simpa using h
        exact .more rfl
  | slash tag done =>
    obtain rfl : tag = name := Option.some.inj hname
    simp only [advance, Option.ite_none_right_eq_some, Option.some.injEq, Prod.mk.injEq] at h
    obtain ⟨-, rfl, rfl⟩ := h
    exact .empty done
  | _ => exact absurd hname (by simp [Mode.name?])

/-- **What one character does to the count:** the tags that are begun go over into the tags that are
read. -/
theorem advance_begins (hstem : isName stem = true) {mode next : Mode} {c : Char} {read : List Token}
    (h : advance mode c = some (next, read)) (following : List Char) :
    (('<' :: stem).isPrefixOf (c :: following)).toNat + (mode.begins stem (c :: following)).toNat =
      read.countP (Token.begins stem) + (next.begins stem following).toNat := by
  by_cases hbracket : c = '<'
  · subst hbracket
    obtain rfl := eq_content_of_advance (.inl rfl) h
    obtain ⟨rfl, rfl⟩ : .bracket = next ∧ [] = read := by simpa [advance] using h
    simp [Mode.begins]
  · have hnone : ('<' :: stem).isPrefixOf (c :: following) = false := by
      simp [List.isPrefixOf, Ne.symm hbracket]
    rw [hnone, Bool.toNat_false, Nat.zero_add]
    cases hname : mode.name? with
    | some name =>
      rw [Mode.begins_of_name? hname]
      exact (inside_advance hname h).begins following
    | none =>
      cases mode with
      | content =>
        simp only [advance, if_neg hbracket] at h
        split at h
        · obtain ⟨rfl, rfl⟩ : .entity [] = next ∧ [] = read := by simpa using h
          simp [Mode.begins]
        · obtain ⟨rfl, rfl⟩ : .content = next ∧ [.data c] = read := by simpa using h
          simp [Mode.begins, Token.begins]
      | entity name =>
        simp only [advance] at h
        split at h
        · simp only [Option.map_eq_some_iff, Prod.mk.injEq] at h
          obtain ⟨d, -, rfl, rfl⟩ := h
          simp [Mode.begins, Token.begins]
        · split at h
          · obtain ⟨rfl, rfl⟩ : .entity (name ++ [c]) = next ∧ [] = read := by simpa using h
            simp [Mode.begins]
          · exact absurd h (by simp)
      | bracket =>
        simp only [advance] at h
        split at h
        · next hslash =>
          -- No stem begins with a slash, so a closing tag does not count.
          obtain ⟨rfl, rfl⟩ : .closing [] = next ∧ [] = read := by simpa using h
          have hend := isPrefixOf_append_cons hstem (c := c) (by rw [hslash]; decide) [] following
          rw [List.nil_append] at hend
          cases stem with
          | nil => exact absurd hstem (by decide)
          | cons d rest => simp [Mode.begins, hend]
        · split at h
          · obtain ⟨rfl, rfl⟩ : .opening [c] = next ∧ [] = read := by simpa using h
            simp [Mode.begins]
          · exact absurd h (by simp)
      | closing name =>
        simp only [advance] at h
        split at h
        · obtain ⟨rfl, rfl⟩ : .closing (name ++ [c]) = next ∧ [] = read := by simpa using h
          simp [Mode.begins]
        · split at h
          · obtain ⟨rfl, rfl⟩ : .content = next ∧ [.closing (String.ofList name)] = read := by
              simpa using h
            simp [Mode.begins, Token.begins]
          · exact absurd h (by simp)
      | opening name =>
        simp only [advance] at h
        split at h
        · obtain ⟨rfl, rfl⟩ : .opening (name ++ [c]) = next ∧ [] = read := by simpa using h
          simp [Mode.begins]
        · next hchar =>
          -- The name is complete, so what follows no longer matters.
          have hend := isPrefixOf_append_cons hstem (c := c) (by simpa using hchar) name following
          have htext : (String.ofList name).toList = name := String.toList_ofList
          rw [Mode.begins, hend, ← htext]
          split at h
          · obtain ⟨rfl, rfl⟩ : .blank (String.ofList name) [] = next ∧ [] = read := by simpa using h
            exact (Inside.more rfl).begins following
          · exact (inside_finish h).begins following
      | _ => exact absurd hname (by simp [Mode.name?])

/-- What a whole run does to the count. -/
theorem run_begins (hstem : isName stem = true) {mode : Mode} {text : List Char} {tokens : List Token}
    (h : run mode text = some (.content, tokens)) :
    Text.occurrences ('<' :: stem) text + (mode.begins stem text).toNat =
      tokens.countP (Token.begins stem) := by
  induction text generalizing mode tokens with
  | nil =>
    obtain ⟨rfl, rfl⟩ : mode = .content ∧ [] = tokens := by simpa [run] using h
    rfl
  | cons c rest ih =>
    simp only [run, Option.bind_eq_some_iff, Option.map_eq_some_iff] at h
    obtain ⟨⟨next, read⟩, hstep, ⟨last, more⟩, hrest, hlast⟩ := h
    simp only [Prod.mk.injEq] at hlast
    obtain ⟨rfl, rfl⟩ := hlast
    have hhere := advance_begins hstem hstep rest
    have hbehind : _ + (next.begins stem rest).toNat = _ := ih hrest
    rw [Text.occurrences, List.countP_append]
    omega

end Scanner

open Scanner

/-- **An angle bracket and a stem occur in a text once for each element whose name begins with the
stem.** -/
theorem Reads.occurrences {stem : List Char} (hstem : isName stem = true) {text : String}
    {tokens : List Token} (h : Reads text tokens) :
    Text.occurrences ('<' :: stem) text.toList = tokens.countP (Token.begins stem) := by
  have hrun := run_begins hstem h
  simpa [Mode.begins] using hrun

end Concentric.Markup
