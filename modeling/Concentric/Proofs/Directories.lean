import Concentric.Proofs.Outcome
import Concentric.Workspace

/-!
# What is found in a directory

`Entry.at?` follows a path from an entry. Making directories and writing a file are described by what is found at
paths afterwards: a directory at the path that was made (`exists_at?_makeDirectories`), the content at the path that
was written (`at?_writeFile`), and at every path that does not lead there what was there before
(`at?_makeDirectories_of_not_leading`, `at?_writeFile_of_not_leading`). What is there already is not made again
(`makeDirectories_eq_self`), and of two contents written at one place the second one is left (`writeFile_writeFile`).
-/

namespace Concentric

/-- **The entry at a path,** followed from an entry on. -/
def Entry.at? : Entry → List String → Option Entry
  | entry, [] => some entry
  | .directory entries, name :: path => (Listing.lookup? name entries).bind fun entry => entry.at? path
  | .file _, _ :: _ => none

theorem Entry.at?_nil (entry : Entry) : entry.at? [] = some entry := by
  cases entry <;> rfl

theorem Entry.at?_append (entry : Entry) (path more : List String) :
    entry.at? (path ++ more) = (entry.at? path).bind fun found => found.at? more := by
  induction path generalizing entry with
  | nil => rw [List.nil_append, Entry.at?_nil, Option.bind_some]
  | cons name path ih =>
    cases entry with
    | file content => rfl
    | directory entries =>
      rw [List.cons_append, at?, at?, Option.bind_assoc]
      apply Option.bind_congr
      intro found _
      exact ih found

/-- What lies below a path is in a directory at it. -/
theorem Entry.exists_directory_of_at? {entry found : Entry} {path : List String} {name : String}
    (h : entry.at? (path ++ [name]) = some found) :
    ∃ inner, entry.at? path = some (.directory inner) ∧ Listing.lookup? name inner = some found := by
  rw [Entry.at?_append] at h
  obtain ⟨parent, hparent, hfound⟩ := Option.bind_eq_some_iff.mp h
  cases parent with
  | file content => exact nomatch hfound
  | directory inner =>
    refine ⟨inner, hparent, ?_⟩
    obtain ⟨child, hchild, hsame⟩ := Option.bind_eq_some_iff.mp hfound
    rw [Entry.at?_nil] at hsame
    rw [hchild, hsame]

namespace Listing

variable {listing made written : Listing} {entry : Entry} {name content content' : String} {path : List String}

/-! ## Entries by name -/

theorem lookup?_put (name other : String) (entry : Entry) (listing : Listing) :
    lookup? other (put name entry listing) = if name = other then some entry else lookup? other listing := by
  induction listing with
  | nil => rfl
  | cons first rest ih =>
    obtain ⟨present, old⟩ := first
    rw [put]
    by_cases hpresent : present = name
    · subst hpresent
      rw [if_pos rfl, lookup?, lookup?]
      split <;> rfl
    · rw [if_neg hpresent, lookup?, lookup?, ih]
      by_cases hother : present = other
      · subst hother
        rw [if_pos rfl, if_pos rfl, if_neg (Ne.symm hpresent)]
      · rw [if_neg hother, if_neg hother]

theorem put_eq_self (h : lookup? name listing = some entry) : put name entry listing = listing := by
  induction listing with
  | nil => exact nomatch h
  | cons first rest ih =>
    obtain ⟨present, old⟩ := first
    rw [lookup?] at h
    rw [put]
    by_cases hpresent : present = name
    · rw [if_pos hpresent] at h ⊢
      rw [Option.some.inj h]
    · rw [if_neg hpresent] at h ⊢
      rw [ih h]

/-- Of two entries put under one name the second one is left. -/
theorem put_put (name : String) (entry old : Entry) (listing : Listing) :
    put name entry (put name old listing) = put name entry listing := by
  induction listing with
  | nil => exact if_pos rfl
  | cons first rest ih =>
    obtain ⟨present, before⟩ := first
    by_cases hpresent : present = name
    · simp only [put, if_pos hpresent]
    · simp only [put, if_neg hpresent, ih]

theorem at?_cons (name : String) (path : List String) (listing : Listing) :
    (Entry.directory listing).at? (name :: path) = (lookup? name listing).bind fun entry => entry.at? path := rfl

/-- A path that begins with a name of its own is not touched by a new entry. -/
theorem at?_put_of_ne {other : String} (h : name ≠ other) (entry : Entry) (path : List String) (listing : Listing) :
    (Entry.directory (put name entry listing)).at? (other :: path) = (Entry.directory listing).at? (other :: path) := by
  rw [at?_cons, at?_cons, lookup?_put, if_neg h]

theorem at?_put (name : String) (entry : Entry) (path : List String) (listing : Listing) :
    (Entry.directory (put name entry listing)).at? (name :: path) = entry.at? path := by
  rw [at?_cons, lookup?_put, if_pos rfl, Option.bind_some]

/-! ## Making directories -/

/-- **Directories that are there already** are not made again. -/
theorem makeDirectories_eq_self {inner : Listing} (h : (Entry.directory listing).at? path = some (.directory inner)) :
    makeDirectories path listing = .ok listing := by
  induction path generalizing listing with
  | nil => rfl
  | cons name path ih =>
    rw [at?_cons] at h
    obtain ⟨entry, hentry, hinner⟩ := Option.bind_eq_some_iff.mp h
    rw [makeDirectories, hentry]
    cases entry with
    | file content =>
      -- Nothing is found below a file, and a file itself is no directory.
      cases path with
      | nil => exact nomatch hinner
      | cons next path => exact nomatch hinner
    | directory entries =>
      show (makeDirectories path entries).map (fun changed => put name (.directory changed) listing) = .ok listing
      rw [ih hinner, Except.map, put_eq_self hentry]

/-- How a path begins to be made, with what is found under its first name. -/
theorem makeDirectories_cons_eq_ok (h : makeDirectories (name :: path) listing = .ok made) :
    ∃ inner changed, (lookup? name listing = none ∧ inner = [] ∨ lookup? name listing = some (.directory inner)) ∧
      makeDirectories path inner = .ok changed ∧ made = put name (.directory changed) listing := by
  rw [makeDirectories] at h
  cases hentry : lookup? name listing with
  | none =>
    rw [hentry] at h
    cases hinner : makeDirectories path [] with
    | error fault =>
      rw [hinner] at h
      exact nomatch h
    | ok changed =>
      rw [hinner] at h
      exact ⟨[], changed, .inl ⟨rfl, rfl⟩, hinner, (Except.ok.inj h).symm⟩
  | some entry =>
    cases entry with
    | file content =>
      rw [hentry] at h
      exact nomatch h
    | directory inner =>
      rw [hentry] at h
      cases hinner : makeDirectories path inner with
      | error fault =>
        simp only [hinner] at h
        exact nomatch h
      | ok changed =>
        simp only [hinner] at h
        exact ⟨inner, changed, .inr rfl, hinner, (Except.ok.inj h).symm⟩

/-- **At a path that was made there is a directory.** -/
theorem exists_at?_makeDirectories (h : makeDirectories path listing = .ok made) :
    ∃ inner, (Entry.directory made).at? path = some (.directory inner) := by
  induction path generalizing listing made with
  | nil => exact ⟨made, Entry.at?_nil _⟩
  | cons name path ih =>
    obtain ⟨inner, changed, -, hinner, rfl⟩ := makeDirectories_cons_eq_ok h
    rw [at?_put]
    exact ih hinner

/-- **Nothing else is touched:** at a path that does not lead to a directory that was made there is what was there
before, also below the new directories, where there is nothing. -/
theorem at?_makeDirectories_of_not_leading (h : makeDirectories path listing = .ok made) {other : List String}
    (hother : ¬ other <+: path) : (Entry.directory made).at? other = (Entry.directory listing).at? other := by
  induction path generalizing listing made other with
  | nil =>
    obtain rfl := Except.ok.inj h
    rfl
  | cons name path ih =>
    obtain ⟨inner, changed, hentry, hinner, rfl⟩ := makeDirectories_cons_eq_ok h
    cases other with
    | nil => exact absurd List.nil_prefix hother
    | cons first other =>
      by_cases hname : name = first
      · subst hname
        have hrest : ¬ other <+: path := fun hleading => hother (List.cons_prefix_cons.mpr ⟨rfl, hleading⟩)
        rw [at?_put, ih hinner hrest, at?_cons]
        rcases hentry with ⟨hnone, rfl⟩ | hsome
        · rw [hnone, Option.bind_none]
          cases other with
          | nil => exact absurd List.nil_prefix hrest
          | cons second other => rfl
        · rw [hsome, Option.bind_some]
      · exact at?_put_of_ne hname _ _ _

/-- A file on the way from a directory stands under the first name or further along the path. -/
theorem exists_file_iff {fault : Fault} :
    (∃ front content, front <+: name :: path ∧ (Entry.directory listing).at? front = some (.file content) ∧
        fault = if front = name :: path then .entryExists else .notADirectory) ↔
      ∃ entry, lookup? name listing = some entry ∧ ∃ front content, front <+: path ∧
        entry.at? front = some (.file content) ∧ fault = if front = path then .entryExists else .notADirectory := by
  constructor
  · rintro ⟨front, content, hfront, hfile, hfault⟩
    cases front with
    | nil => exact nomatch hfile
    | cons first front =>
      obtain ⟨rfl, hrest⟩ := List.cons_prefix_cons.mp hfront
      rw [at?_cons, Option.bind_eq_some_iff] at hfile
      obtain ⟨entry, hentry, hfile⟩ := hfile
      refine ⟨entry, hentry, front, content, hrest, hfile, ?_⟩
      simpa only [List.cons.injEq, true_and] using hfault
  · rintro ⟨entry, hentry, front, content, hfront, hfile, hfault⟩
    refine ⟨name :: front, content, List.cons_prefix_cons.mpr ⟨rfl, hfront⟩, ?_, ?_⟩
    · rw [at?_cons, hentry, Option.bind_some, hfile]
    · simpa only [List.cons.injEq, true_and] using hfault

/-- **Directories cannot be made exactly if there is a file on their path:** the last of them would take its place, the
others would have to be passed. -/
theorem makeDirectories_eq_error_iff {fault : Fault} :
    makeDirectories path listing = .error fault ↔
      ∃ front content, front <+: path ∧ (Entry.directory listing).at? front = some (.file content) ∧
        fault = if front = path then .entryExists else .notADirectory := by
  induction path generalizing listing with
  | nil =>
    refine iff_of_false nofun ?_
    rintro ⟨front, content, hfront, hfile, -⟩
    rw [List.prefix_nil.mp hfront] at hfile
    exact nomatch hfile
  | cons name path ih =>
    rw [exists_file_iff, makeDirectories]
    cases hentry : lookup? name listing with
    | none =>
      -- Below a new directory there is no file.
      refine iff_of_false ?_ nofun
      show ¬ (makeDirectories path []).map (fun inner => put name (.directory inner) listing) = .error fault
      rw [map_eq_error_iff, ih]
      rintro ⟨front, content, -, hfile, -⟩
      cases front with
      | nil => exact nomatch hfile
      | cons first front => exact nomatch hfile
    | some entry =>
      cases entry with
      | file content =>
        constructor
        · intro h
          refine ⟨_, rfl, [], content, List.nil_prefix, rfl, ?_⟩
          rw [← Except.error.inj h]
          cases path <;> rfl
        · rintro ⟨entry, hsame, front, content', -, hfile, hfault⟩
          obtain rfl := Option.some.inj hsame
          cases front with
          | nil =>
            rw [hfault]
            cases path <;> rfl
          | cons first front => exact nomatch hfile
      | directory inner =>
        show (makeDirectories path inner).map (fun changed => put name (.directory changed) listing) = .error fault ↔ _
        rw [map_eq_error_iff, ih]
        constructor
        · intro h
          exact ⟨_, rfl, h⟩
        · rintro ⟨entry, hsame, h⟩
          obtain rfl := Option.some.inj hsame
          exact h

/-! ## Writing files -/

/-- **Writing in a directory that is there** fails exactly if there is another directory in the place of the file. -/
theorem writeFile_of_at? {inner : Listing} (h : (Entry.directory listing).at? path = some (.directory inner))
    (content name : String) :
    (∃ sub, lookup? name inner = some (.directory sub)) ∧ writeFile content name path listing = .error .isADirectory ∨
      (∀ sub, lookup? name inner ≠ some (.directory sub)) ∧
        ∃ written, writeFile content name path listing = .ok written := by
  induction path generalizing listing with
  | nil =>
    rw [Entry.at?_nil, Option.some.injEq, Entry.directory.injEq] at h
    subst h
    rw [writeFile]
    cases hentry : lookup? name listing with
    | none => exact .inr ⟨nofun, _, rfl⟩
    | some entry =>
      cases entry with
      | file old => exact .inr ⟨nofun, _, rfl⟩
      | directory sub => exact .inl ⟨⟨sub, rfl⟩, rfl⟩
  | cons first path ih =>
    rw [at?_cons] at h
    obtain ⟨entry, hentry, hinner⟩ := Option.bind_eq_some_iff.mp h
    rw [writeFile, hentry]
    cases entry with
    | file old =>
      cases path with
      | nil => exact nomatch hinner
      | cons next path => exact nomatch hinner
    | directory entries =>
      rcases ih hinner with ⟨hsub, hfails⟩ | ⟨hfree, written, hwritten⟩
      · refine .inl ⟨hsub, ?_⟩
        simp only [hfails]
        rfl
      · refine .inr ⟨hfree, put first (.directory written) listing, ?_⟩
        simp only [hwritten]
        rfl

/-- What is changed by writing along a path, with the directory under its first name. -/
theorem writeFile_cons_eq_ok {first : String} (h : writeFile content name (first :: path) listing = .ok written) :
    ∃ inner changed, lookup? first listing = some (.directory inner) ∧ writeFile content name path inner = .ok changed ∧
      written = put first (.directory changed) listing := by
  rw [writeFile] at h
  cases hentry : lookup? first listing with
  | none =>
    rw [hentry] at h
    exact nomatch h
  | some entry =>
    rw [hentry] at h
    cases entry with
    | file old => exact nomatch h
    | directory inner =>
      cases hinner : writeFile content name path inner with
      | error fault =>
        simp only [hinner] at h
        exact nomatch h
      | ok changed =>
        simp only [hinner] at h
        exact ⟨inner, changed, rfl, hinner, (Except.ok.inj h).symm⟩

/-- What is changed by writing in the directory itself. -/
theorem writeFile_nil_eq_ok (h : writeFile content name [] listing = .ok written) :
    (∀ sub, lookup? name listing ≠ some (.directory sub)) ∧ written = put name (.file content) listing := by
  rw [writeFile] at h
  cases hentry : lookup? name listing with
  | none =>
    rw [hentry] at h
    exact ⟨nofun, (Except.ok.inj h).symm⟩
  | some entry =>
    rw [hentry] at h
    cases entry with
    | file old => exact ⟨nofun, (Except.ok.inj h).symm⟩
    | directory sub => exact nomatch h

/-- **A written file holds its content.** -/
theorem at?_writeFile (h : writeFile content name path listing = .ok written) :
    (Entry.directory written).at? (path ++ [name]) = some (.file content) := by
  induction path generalizing listing written with
  | nil =>
    obtain ⟨-, rfl⟩ := writeFile_nil_eq_ok h
    rw [List.nil_append, at?_put, Entry.at?_nil]
  | cons first path ih =>
    obtain ⟨inner, changed, -, hinner, rfl⟩ := writeFile_cons_eq_ok h
    rw [List.cons_append, at?_put]
    exact ih hinner

/-- **Nothing else is touched by writing a file.** -/
theorem at?_writeFile_of_not_leading (h : writeFile content name path listing = .ok written) {other : List String}
    (hother : ¬ other <+: path ++ [name]) :
    (Entry.directory written).at? other = (Entry.directory listing).at? other := by
  induction path generalizing listing written other with
  | nil =>
    obtain ⟨hfree, rfl⟩ := writeFile_nil_eq_ok h
    cases other with
    | nil => exact absurd List.nil_prefix hother
    | cons first other =>
      by_cases hname : name = first
      · subst hname
        rw [at?_put, at?_cons]
        cases other with
        | nil => exact absurd (List.prefix_refl _) hother
        | cons second other =>
          -- There is nothing below a file, the old one or the new one.
          cases hentry : lookup? name listing with
          | none => rfl
          | some entry =>
            cases entry with
            | file old => rfl
            | directory sub => exact absurd hentry (hfree sub)
      · exact at?_put_of_ne hname _ _ _
  | cons first path ih =>
    obtain ⟨inner, changed, hentry, hinner, rfl⟩ := writeFile_cons_eq_ok h
    cases other with
    | nil => exact absurd List.nil_prefix hother
    | cons next other =>
      by_cases hname : first = next
      · subst hname
        have hrest : ¬ other <+: path ++ [name] := fun hleading => hother (List.cons_prefix_cons.mpr ⟨rfl, hleading⟩)
        rw [at?_put, ih hinner hrest, at?_cons, hentry, Option.bind_some]
      · exact at?_put_of_ne hname _ _ _

/-- **Of two contents written at one place the second one is left,** as if the first one had never been there. -/
theorem writeFile_writeFile (h : writeFile content name path listing = .ok written) (content' : String) :
    writeFile content' name path written = writeFile content' name path listing := by
  induction path generalizing listing written with
  | nil =>
    obtain ⟨hfree, rfl⟩ := writeFile_nil_eq_ok h
    have hwritten : lookup? name (put name (.file content) listing) = some (.file content) := by
      rw [lookup?_put, if_pos rfl]
    rw [writeFile, writeFile, hwritten]
    cases hentry : lookup? name listing with
    | none => exact congrArg Except.ok (put_put _ _ _ _)
    | some entry =>
      cases entry with
      | file old => exact congrArg Except.ok (put_put _ _ _ _)
      | directory sub => exact absurd hentry (hfree sub)
  | cons first path ih =>
    obtain ⟨inner, changed, hentry, hinner, rfl⟩ := writeFile_cons_eq_ok h
    have hchanged : lookup? first (put first (.directory changed) listing) = some (.directory changed) := by
      rw [lookup?_put, if_pos rfl]
    rw [writeFile, writeFile, hchanged, hentry]
    simp only [ih hinner, put_put]

end Listing

end Concentric
