import Concentric.Batch
import Concentric.Proofs.Diagram
import Concentric.Proofs.Directories

/-!
# Runs of the generator

A run of the generator stops before anything has changed, or it leaves a directory that it does not change again: what
could stop it behind the opening of its file is a diagram that cannot be drawn, and there is none. So running it any
number of times is stopped at once, with nothing printed, or leaves what one run leaves and prints one
report for each run (`generation_all_or_nothing`). In a batch the generator has the same effect, with its output
between an announcement and the ending, unless its command ends with a status other than zero.
-/

namespace Concentric

namespace Run

variable {program : Listing → Run} {listing after : Listing} {text : String} {fault : Fault}

/-! ## Steps of a run -/

theorem andThen_of_done (next : Listing → Run) :
    (Run.mk text listing none).andThen next =
      ⟨text ++ (next listing).printed, (next listing).listing, (next listing).fault⟩ := rfl

theorem andThen_of_fault (next : Listing → Run) :
    (Run.mk text listing (some fault)).andThen next = ⟨text, listing, some fault⟩ := rfl

theorem change_ok (listing : Listing) : change (.ok after) listing = ⟨"", after, none⟩ := rfl

theorem change_error (listing : Listing) : change (.error fault) listing = ⟨"", listing, some fault⟩ := rfl

/-! ## Repeated runs -/

/-- A program that is stopped is not run again. -/
theorem repeated_of_fault (h : program listing = ⟨text, after, some fault⟩) (times : Nat) :
    repeated program (times + 1) listing = ⟨text, after, some fault⟩ := by
  rw [repeated, h, andThen_of_fault]

/-- **A program that leaves a directory as it is** prints the same text again and again. -/
theorem repeated_of_fixed (h : program after = ⟨text, after, none⟩) (times : Nat) :
    repeated program times after = ⟨String.join (List.replicate times text), after, none⟩ := by
  induction times with
  | zero => rfl
  | succ times ih => rw [repeated, h, andThen_of_done, ih, List.replicate_succ, String.join_cons]

/-- **A program that changes a directory once and for all.** -/
theorem repeated_of_settles (h : program listing = ⟨text, after, none⟩) (hafter : program after = ⟨text, after, none⟩)
    (times : Nat) :
    repeated program (times + 1) listing = ⟨String.join (List.replicate (times + 1) text), after, none⟩ := by
  rw [repeated, h, andThen_of_done, repeated_of_fixed hafter, List.replicate_succ, String.join_cons]

end Run

namespace Generation

open Listing

section Runs

variable {listing made written : Listing} {fault : Fault} {text : String}

/-- **What stands in the way of the output,** and the fault that it causes. -/
inductive Blocked (listing : Listing) : Fault → Prop
  /-- A file in the place of the outer directory. -/
  | outer {content : String} (h : (Entry.directory listing).at? ["doc"] = some (.file content)) :
      Blocked listing .notADirectory
  /-- A file in the place of the inner directory. -/
  | inner {content : String} (h : (Entry.directory listing).at? ["doc", "images"] = some (.file content)) :
      Blocked listing .entryExists
  /-- A directory in the place of the output. -/
  | output {entries : Listing} (h : (Entry.directory listing).at? outputPath = some (.directory entries)) :
      Blocked listing .isADirectory

/-- **A directory with the output in it,** made from another one. -/
structure Generated [DigitLimit] (listing written : Listing) : Prop where
  /-- The diagram has a text, and nothing else is in the file of the output. -/
  holds : ∃ text, Diagram.document (some Style.styleImport) = .ok text ∧
    (Entry.directory written).at? outputPath = some (.file text)
  /-- Whatever does not lie on its path is as it was. -/
  others : ∀ path, ¬ path <+: outputPath → (Entry.directory written).at? path = (Entry.directory listing).at? path
  /-- Another run succeeds and leaves it as it is. -/
  settled : ∀ root, run root written = ⟨report root, written, none⟩

/-! ## One run -/

/-- The directories cannot be made exactly if one of them is a file. -/
theorem blocked_of_makeDirectories_eq_error (h : listing.makeDirectories outputDirectory = .error fault) :
    Blocked listing fault := by
  obtain ⟨front, content, hfront, hfile, rfl⟩ := makeDirectories_eq_error_iff.mp h
  rw [outputDirectory, List.prefix_cons_iff] at hfront
  rcases hfront with rfl | ⟨rest, rfl, hrest⟩
  · exact nomatch hfile
  · rw [List.prefix_cons_iff] at hrest
    rcases hrest with rfl | ⟨last, rfl, hlast⟩
    · exact .outer hfile
    · obtain rfl := List.prefix_nil.mp hlast
      exact .inner hfile

theorem not_file_of_makeDirectories_eq_ok (h : listing.makeDirectories outputDirectory = .ok made) {front : List String}
    (hfront : front <+: outputDirectory) (content : String) :
    (Entry.directory listing).at? front ≠ some (.file content) := by
  intro hfile
  have hfails := makeDirectories_eq_error_iff.mpr ⟨front, content, hfront, hfile, rfl⟩
  rw [h] at hfails
  exact nomatch hfails

/-- No directory is made in the place of the output. -/
theorem at?_outputPath_of_makeDirectories (h : listing.makeDirectories outputDirectory = .ok made) :
    (Entry.directory made).at? outputPath = (Entry.directory listing).at? outputPath := by
  apply at?_makeDirectories_of_not_leading h
  decide

variable [DigitLimit]

/-- The diagram is written once it is drawn. -/
theorem writeDiagram_eq (hdrawn : Diagram.document (some Style.styleImport) = .ok text) (listing : Listing) :
    writeDiagram listing = write text listing := by
  unfold writeDiagram
  rw [hdrawn]

/-- A run whose file can be opened: it can be written as well. -/
theorem exists_run_eq_of_opened {opened : Listing} (root : String)
    (hdrawn : Diagram.document (some Style.styleImport) = .ok text)
    (hmade : listing.makeDirectories outputDirectory = .ok made)
    (hopened : made.writeFile "" outputName outputDirectory = .ok opened) :
    ∃ written, made.writeFile text outputName outputDirectory = .ok written ∧
      run root listing = ⟨report root, written, none⟩ := by
  obtain ⟨inner, hinner⟩ := exists_at?_makeDirectories hmade
  rcases writeFile_of_at? hinner text outputName with ⟨hsub, -⟩ | ⟨-, written, hwritten⟩
  · -- Opening would have failed for the same reason.
    rcases writeFile_of_at? hinner "" outputName with ⟨-, hfails⟩ | ⟨hfree, -⟩
    · rw [hopened] at hfails
      exact nomatch hfails
    · obtain ⟨sub, hsub⟩ := hsub
      exact absurd hsub (hfree sub)
  · have hrewritten : opened.writeFile text outputName outputDirectory = .ok written := by
      rw [writeFile_writeFile hopened, hwritten]
    refine ⟨written, hwritten, ?_⟩
    rw [run, hmade, Run.change_ok, Run.andThen_of_done, write, hopened, Run.change_ok, Run.andThen_of_done,
      writeDiagram_eq hdrawn, write, hrewritten, Run.change_ok, Run.andThen_of_done]
    simp only [Run.print, String.empty_append]

/-- A directory with the output in it is left as it is. -/
theorem run_eq_self (root : String) (hdrawn : Diagram.document (some Style.styleImport) = .ok text)
    (hmade : made.writeFile text outputName outputDirectory = .ok written) :
    run root written = ⟨report root, written, none⟩ := by
  obtain ⟨inner, hinner, hfile⟩ := Entry.exists_directory_of_at? (at?_writeFile hmade)
  rcases writeFile_of_at? hinner "" outputName with ⟨⟨sub, hsub⟩, -⟩ | ⟨-, opened, hopened⟩
  · rw [hfile] at hsub
    exact nomatch hsub
  · obtain ⟨rewritten, hrewritten, hrun⟩ := exists_run_eq_of_opened root hdrawn (makeDirectories_eq_self hinner) hopened
    rw [writeFile_writeFile hmade, hmade] at hrewritten
    rw [hrun, ← Except.ok.inj hrewritten]

theorem generated_of_writeFile (hdrawn : Diagram.document (some Style.styleImport) = .ok text)
    (hmade : listing.makeDirectories outputDirectory = .ok made)
    (hwritten : made.writeFile text outputName outputDirectory = .ok written) : Generated listing written where
  holds := ⟨text, hdrawn, at?_writeFile hwritten⟩
  others path hpath := by
    have hdirectory : ¬ path <+: outputDirectory :=
      fun hleading => hpath (hleading.trans (List.prefix_append outputDirectory [outputName]))
    rw [at?_writeFile_of_not_leading hwritten hpath, at?_makeDirectories_of_not_leading hmade hdirectory]
  settled root := run_eq_self root hdrawn hwritten

/-- **A run is stopped before anything has changed, or it generates the output.** -/
theorem run_cases (root : String) (listing : Listing) :
    (∃ fault, Blocked listing fault ∧ run root listing = ⟨"", listing, some fault⟩) ∨
      (∀ fault, ¬ Blocked listing fault) ∧
        ∃ written, Generated listing written ∧ run root listing = ⟨report root, written, none⟩ := by
  cases hmade : listing.makeDirectories outputDirectory with
  | error fault =>
    refine .inl ⟨fault, blocked_of_makeDirectories_eq_error hmade, ?_⟩
    rw [run, hmade, Run.change_error, Run.andThen_of_fault, Run.andThen_of_fault, Run.andThen_of_fault]
  | ok made =>
    have houtput := at?_outputPath_of_makeDirectories hmade
    obtain ⟨inner, hinner⟩ := exists_at?_makeDirectories hmade
    have hplace : (Entry.directory made).at? outputPath = lookup? outputName inner := by
      rw [outputPath, Entry.at?_append, hinner, Option.bind_some, at?_cons]
      cases lookup? outputName inner with
      | none => rfl
      | some entry => exact Entry.at?_nil entry
    rcases writeFile_of_at? hinner "" outputName with ⟨⟨sub, hsub⟩, hfails⟩ | ⟨hfree, opened, hopened⟩
    · -- The directory in the place of the output was there before, so its own directory was, too.
      rw [← hplace, houtput] at hsub
      obtain ⟨parent, hparent, -⟩ := Entry.exists_directory_of_at? hsub
      rw [makeDirectories_eq_self hparent] at hmade
      obtain rfl := Except.ok.inj hmade
      refine .inl ⟨.isADirectory, .output hsub, ?_⟩
      rw [run, makeDirectories_eq_self hparent, Run.change_ok, Run.andThen_of_done, write, hfails, Run.change_error,
        Run.andThen_of_fault, Run.andThen_of_fault]
      rfl
    · obtain ⟨text, hdrawn⟩ := Diagram.exists_document (some Style.styleImport)
      obtain ⟨written, hwritten, hrun⟩ := exists_run_eq_of_opened root hdrawn hmade hopened
      refine .inr ⟨?_, written, generated_of_writeFile hdrawn hmade hwritten, hrun⟩
      intro fault hblocked
      cases hblocked with
      | outer hfile => exact not_file_of_makeDirectories_eq_ok hmade (by decide) _ hfile
      | inner hfile => exact not_file_of_makeDirectories_eq_ok hmade (by decide) _ hfile
      | output hdirectory =>
        rw [← houtput, hplace] at hdirectory
        exact hfree _ hdirectory

end Runs

end Generation

namespace Batch

/-- What a batch prints before its generator. -/
def opening : String := "  running onion.gen_onion ...\n"

theorem announcement_eq_opening (run : String → Listing → Run) : announcement ⟨"onion.gen_onion", run⟩ = opening := by
  show "  running " ++ "onion.gen_onion" ++ " ...\n" = opening
  decide

variable [DigitLimit]

/-- A command that fails has printed nothing and changed nothing, and the batch ends with it. -/
theorem run_of_failed (interpreter root : String) {status : Int} (h : status ≠ 0) (listing : Listing) :
    (run interpreter root status listing).run = ⟨opening, listing, some (.commandFailed status)⟩ := by
  have hlaunched : (Run.print opening listing).andThen (launch root status ⟨"onion.gen_onion", Generation.run⟩) =
      ⟨opening, listing, some (.commandFailed status)⟩ := by
    rw [Run.print, Run.andThen_of_done, launch, if_neg h, String.append_empty]
  rw [run, generators, runCommands, announcement_eq_opening, hlaunched]
  rfl

/-- **A batch whose command ends well has the effect of its generator,** with the output between the announcement and
the ending, or behind the announcement if the generator is stopped. -/
theorem run_of_succeeded (interpreter root : String) (listing : Listing) :
    (run interpreter root 0 listing).run =
      ⟨opening ++ (Generation.run root listing).printed ++
          if (Generation.run root listing).fault = none then ending else "",
        (Generation.run root listing).listing, (Generation.run root listing).fault⟩ := by
  have hlaunched : (Run.print opening listing).andThen (launch root 0 ⟨"onion.gen_onion", Generation.run⟩) =
      ⟨opening ++ (Generation.run root listing).printed, (Generation.run root listing).listing,
        (Generation.run root listing).fault⟩ := by
    rw [Run.print, Run.andThen_of_done, launch, if_pos rfl]
  rw [run, generators, runCommands, announcement_eq_opening, hlaunched]
  cases (Generation.run root listing).fault with
  | none => rfl
  | some fault =>
    rw [if_neg (Option.some_ne_none fault), String.append_empty]
    rfl

end Batch

namespace Generation

/-- **All or nothing, and once and for all.** -/
structure AllOrNothing [DigitLimit] (root : String) (listing : Listing) : Prop where
  /-- Any number of runs in a row are stopped at the first one with the directory unchanged and nothing printed, if
  something stands in the way of the output; otherwise all of them succeed, with a report for each and the directory
  of the first. -/
  runs : (∃ fault, Blocked listing fault ∧
      ∀ times, Run.repeated (run root) (times + 1) listing = ⟨"", listing, some fault⟩) ∨
    (∀ fault, ¬ Blocked listing fault) ∧ ∃ written, Generated listing written ∧
      ∀ times, Run.repeated (run root) (times + 1) listing =
        ⟨String.join (List.replicate (times + 1) (report root)), written, none⟩
  /-- What is written is the text of a diagram that has been drawn to its end. -/
  drawn : (Diagram.paint.run (.blank Style.canvasWidth Style.canvasHeight)).1 = .ok ()
  /-- A batch whose command ends with a status other than zero leaves the directory as it is and does not come to its
  ending. -/
  failed : ∀ interpreter status, status ≠ 0 →
    (Batch.run interpreter root status listing).run = ⟨Batch.opening, listing, some (.commandFailed status)⟩
  /-- With the status zero it has the effect of a run and the same fault, if any, and prints what the run prints
  between the announcement and the ending. -/
  succeeded : ∀ interpreter, (Batch.run interpreter root 0 listing).run =
    ⟨Batch.opening ++ (run root listing).printed ++ if (run root listing).fault = none then Batch.ending else "",
      (run root listing).listing, (run root listing).fault⟩

/-- **Generation is all or nothing, and once and for all,** whatever is in the directory before. -/
theorem generation_all_or_nothing [DigitLimit] (root : String) (listing : Listing) : AllOrNothing root listing where
  runs := by
    rcases run_cases root listing with ⟨fault, hblocked, hrun⟩ | ⟨hfree, written, hgenerated, hrun⟩
    · exact .inl ⟨fault, hblocked, Run.repeated_of_fault hrun⟩
    · exact .inr ⟨hfree, written, hgenerated, Run.repeated_of_settles hrun (hgenerated.settled root)⟩
  drawn := Diagram.run_paint_eq_ok
  failed := fun interpreter _ hstatus => Batch.run_of_failed interpreter root hstatus listing
  succeeded := fun interpreter => Batch.run_of_succeeded interpreter root listing

end Generation

end Concentric
