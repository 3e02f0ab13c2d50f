import Concentric.Proofs.Markers.References

/-!
# What steps read

Steps add lines and change nothing else. What they add is decided by very little of the canvas: a connector
reads the number of painted lines and searches the definitions for its marker, a rendering reads everything and
adds nothing, and all other steps read the surface alone (`drawing_congr_of_surface`). Hence steps that read the
surface alone can be put in another order: each one keeps its block of lines.

The search of a connector runs over the definitions and the lines of its own clip region behind them. A marker
whose name has a line feed in it can begin in the last definition and end in the first of those lines
(`clip_region_completes_marker`); any other one is found in the definitions or not at all.
-/

namespace Concentric

open Markup Text Drawing

/-! ## Searching definitions -/

namespace Marker

/-- In lines that define no marker none is found, not even one whose name has quotes in it. -/
theorem defined_eq_false_of_unmarked {lines : List String} (h : ∀ line ∈ lines, Unmarked line)
    (name : String) : defined name lines = false := by
  -- Up to its first quote the name is one that the search decides.
  have hsearch := defined_iff (not_mem_upTo '"' name.toList) fun line hline => (h line hline).toSearchable
  rw [definitions_eq_zero h] at hsearch
  have hprefix : (opening (upTo '"' name.toList)).toList <+: (opening name).toList := by
    have hcut := takeWhile_concat_begins '"' name.toList
    rw [toList_opening, toList_opening]
    simp only [List.cons_prefix_cons, List.prefix_append_right_inj, true_and]
    rwa [upTo, String.toList_ofList]
  rw [Bool.eq_false_iff]
  intro hdefined
  exact absurd (hsearch.mp (occursIn_of_begins hprefix hdefined)) (Nat.lt_irrefl 0)

/-- Lines behind the definitions are searched on their own if the name has no line feed. -/
theorem defined_append {name : String} (hname : '\n' ∉ name.toList) (defs own : List String) :
    defined name (defs ++ own) = (defined name defs || defined name own) := by
  have hnil : defined name [] = false := by
    rw [defined, toList_opening]
    rfl
  have hpattern : '\n' ∉ (opening name).toList := by
    simp [toList_opening, hname]
  cases defs with
  | nil => rw [List.nil_append, hnil, Bool.false_or]
  | cons line rest =>
    cases own with
    | nil => rw [List.append_nil, hnil, Bool.or_false]
    | cons first more =>
      have hjoined : "\n".intercalate (line :: rest ++ first :: more) = _ :=
        String.intercalate_append_of_ne_nil (List.cons_ne_nil line rest) (List.cons_ne_nil first more)
      unfold defined
      rw [hjoined, String.toList_append, String.toList_append, List.append_assoc]
      exact occursIn_append_cons hpattern _ _

end Marker

/-! ## What a connector reads -/

namespace Connector

/-- **The definitions that a connector searches** for its marker: those of the canvas, and behind them those of
its own clip region. -/
def searched (canvas : Canvas) (span : Segment) (options : ConnectorOptions) : List String :=
  canvas.defs ++ match clipRegion? span options with
    | .ok clip => clipLines (id canvas.body.length) clip
    | .error _ => []

/-- Whether a connector finds its marker on a canvas. -/
def finds (canvas : Canvas) (span : Segment) (options : ConnectorOptions) (name : String) : Prop :=
  Marker.defined name (searched canvas span options) = true

variable {canvas other : Canvas} {span : Segment} {options : ConnectorOptions}

/-- A marker whose name has no line feed is found in the definitions of the canvas or not at all. -/
theorem finds_iff {name : String} (hname : '\n' ∉ name.toList) :
    finds canvas span options name ↔ Marker.defined name canvas.defs = true := by
  unfold finds searched
  cases clipRegion? span options with
  | error e => rw [List.append_nil]
  | ok clip =>
    have hown := Marker.defined_eq_false_of_unmarked (unmarked_clipLines canvas.body.length clip) name
    rw [Marker.defined_append hname, hown, Bool.or_false]

/-- Without a clip region nothing is searched but the definitions of the canvas. -/
theorem searched_of_not_clipping (h : options.clipping = false) :
    searched canvas span options = canvas.defs := by
  rw [searched, clipRegion?_of_unclipped h]
  exact List.append_nil _

/-- **A connector reads the number of painted lines and whether its marker is found,** and nothing else of the
canvas. -/
theorem draw_congr [DigitLimit] (hlength : canvas.body.length = other.body.length)
    (hfinds : ∀ name, attached options = some name →
      (finds canvas span options name ↔ finds other span options name)) :
    draw canvas span options = draw other span options := by
  unfold draw
  rw [hlength]
  cases hsegment : drawnSegment span options with
  | error e => rfl
  | ok segment =>
    simp only [attempt_ok_bind]
    cases segment.pathText with
    | error e => rfl
    | ok path =>
      simp only [attempt_ok_bind]
      cases hclip : clipRegion? span options with
      | error e => rfl
      | ok clip =>
        have hmissing : missingMarkerLines (attached options)
            (canvas.defs ++ clipLines (id other.body.length) clip) =
            missingMarkerLines (attached options) (other.defs ++ clipLines (id other.body.length) clip) := by
          cases hmarker : nonempty? (attached options) with
          | none => rw [missingMarkerLines_of_none hmarker, missingMarkerLines_of_none hmarker]
          | some name =>
            have hsame := hfinds name (nonempty?_eq_some hmarker).1
            rw [finds, finds, searched, searched, hclip, hlength, ← Bool.eq_iff_iff] at hsame
            rw [missingMarkerLines_of_some hmarker, missingMarkerLines_of_some hmarker, hsame]
        simp only [attempt_ok_bind, define_bind]
        rw [attached] at hmissing
        rw [hmissing]

end Connector

/-! ## What other steps read -/

/-- Whether a step reads nothing but the surface of its canvas: a connector reads more, and a rendering answers
with the whole document. -/
def Step.readsSurfaceAlone : Step → Bool
  | .connector .. | .render .. => false
  | _ => true

section Steps

variable [DigitLimit]

/-- **On canvases of one size a step adds the same lines and has the same outcome,** whatever they hold. -/
theorem drawing_congr_of_surface {step : Step} (hstep : step.readsSurfaceAlone = true)
    {canvas other : Canvas} (hsurface : canvas.toSurface = other.toSurface) :
    step.drawing canvas = step.drawing other := by
  cases step with
  | ring layer spacing => rw [Step.drawing_ring, Step.drawing_ring, hsurface]
  | center => rw [Step.drawing_center, Step.drawing_center, hsurface]
  | connector span options => exact absurd hstep Bool.false_ne_true
  | render style => exact absurd hstep Bool.false_ne_true
  | _ => rfl

namespace Canvas

/-- Each step of such a run draws as if it were the first one. -/
theorem run_eq_map {canvas : Canvas} {steps : List Step}
    (hsteps : ∀ step ∈ steps, step.readsSurfaceAlone = true) :
    canvas.run steps = steps.map fun step => step.drawing canvas := by
  have hmoment : ∀ (c : Canvas), c.toSurface = canvas.toSurface →
      c.run steps = steps.map fun step => step.drawing canvas := by
    induction steps with
    | nil => exact fun _ _ => rfl
    | cons step rest ih =>
      intro c hc
      rw [List.forall_mem_cons] at hsteps
      rw [run, List.map_cons, drawing_congr_of_surface hsteps.1 hc, ih hsteps.2 (c.after step) hc]
  exact hmoment canvas rfl

/-- **Steps that change places take their blocks with them.** -/
theorem perm_zip_run {canvas : Canvas} {steps steps' : List Step}
    (hsteps : ∀ step ∈ steps, step.readsSurfaceAlone = true) (hperm : steps'.Perm steps) :
    (steps'.zip (canvas.run steps')).Perm (steps.zip (canvas.run steps)) := by
  have hsteps' : ∀ step ∈ steps', step.readsSurfaceAlone = true :=
    fun step hstep => hsteps step (hperm.mem_iff.mp hstep)
  rw [run_eq_map hsteps, run_eq_map hsteps', ← List.map_prod_left_eq_zip, ← List.map_prod_left_eq_zip]
  exact hperm.map _

/-- The lines at the end of a run are those at the beginning and then the blocks of its drawings. -/
theorem afterAll_eq (canvas : Canvas) (steps : List Step) :
    (canvas.afterAll steps).defs = canvas.defs ++ (canvas.run steps).flatMap Drawing.defs ∧
      (canvas.afterAll steps).body = canvas.body ++ (canvas.run steps).flatMap Drawing.body := by
  rw [defs_afterAll, body_afterAll, ← map_drawing_history, List.flatMap_map, List.flatMap_map]
  exact ⟨rfl, rfl⟩

/-- **What a canvas is to the steps on it.** -/
structure Isolated (canvas : Canvas) : Prop where
  /-- Every step, also one that fails, leaves what is there in its place. -/
  grows : ∀ step : Step, canvas.defs <+: (canvas.after step).defs ∧ canvas.body <+: (canvas.after step).body ∧
    (canvas.after step).toSurface = canvas.toSurface
  /-- A rendering adds nothing. -/
  rendered : ∀ style, canvas.after (.render style) = canvas
  /-- Heads, patterns, rings and labels read the surface alone. -/
  surface : ∀ (step : Step) (other : Canvas), step.readsSurfaceAlone = true →
    canvas.toSurface = other.toSurface → step.drawing canvas = step.drawing other
  /-- A connector reads the number of painted lines and whether its marker is found. -/
  connector : ∀ (span : Segment) (options : ConnectorOptions) (other : Canvas),
    canvas.body.length = other.body.length →
    (∀ name, Connector.attached options = some name →
      (Connector.finds canvas span options name ↔ Connector.finds other span options name)) →
    (Step.connector span options).drawing canvas = (Step.connector span options).drawing other
  /-- A marker is looked up in the definitions of the canvas, unless a line feed in its name meets a clip
  region. -/
  lookup : ∀ (span : Segment) (options : ConnectorOptions) (name : String),
    '\n' ∉ name.toList ∨ options.clipping = false →
    (Connector.finds canvas span options name ↔ Marker.defined name canvas.defs = true)
  /-- A run adds the blocks of its drawings one behind the other. -/
  added : ∀ steps, (canvas.afterAll steps).defs = canvas.defs ++ (canvas.run steps).flatMap Drawing.defs ∧
    (canvas.afterAll steps).body = canvas.body ++ (canvas.run steps).flatMap Drawing.body
  /-- Rings, and all steps that read the surface alone, take their blocks with them when they change places. -/
  permuted : ∀ steps steps' : List Step, (∀ step ∈ steps, step.readsSurfaceAlone = true) →
    steps'.Perm steps → (steps'.zip (canvas.run steps')).Perm (steps.zip (canvas.run steps))

end Canvas

/-- **Steps are isolated from what a canvas holds,** but for the two things that a connector reads. -/
theorem steps_isolated (canvas : Canvas) : canvas.Isolated where
  grows step := ⟨List.prefix_append _ _, List.prefix_append _ _, rfl⟩
  rendered style := by
    rw [Canvas.after, Step.drawing_render]
    simp [Canvas.add]
  surface step other hstep hsurface := drawing_congr_of_surface hstep hsurface
  connector span options other hlength hfinds := by
    rw [Step.drawing_connector, Step.drawing_connector, Connector.draw_congr hlength hfinds]
  lookup span options name := by
    rintro (hname | hclipping)
    · exact Connector.finds_iff hname
    · rw [Connector.finds, Connector.searched_of_not_clipping hclipping]
  added steps := canvas.afterAll_eq steps
  permuted steps steps' hsteps hperm := Canvas.perm_zip_run hsteps hperm

end Steps

section Completed

attribute [local instance] DigitLimit.standard

/-- **The clip region of a connector can complete a marker:** on two canvases of one size and with nothing
painted, neither of which defines the marker, the same connector adds different lines. -/
theorem clip_region_completes_marker :
    let name := "a\"\n<clipPath id="
    let one : Canvas := ⟨⟨410, 410⟩, ["<marker id=\"a\""], []⟩
    let other : Canvas := ⟨⟨410, 410⟩, ["<marker id=\"b\""], []⟩
    let connector : Step := .connector ⟨⟨0, 0⟩, ⟨10, 0⟩⟩ { head := some name, clipping := true }
    Marker.defined name one.defs = false ∧ Marker.defined name other.defs = false ∧
      (connector.drawing one).defs ≠ (connector.drawing other).defs := by
  decide +kernel

end Completed

end Concentric
