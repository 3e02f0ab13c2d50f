import Concentric.Proofs.Connector
import Concentric.Proofs.Ring
import Concentric.Step

/-!
# Runs as histories

A run is taken apart into its moments: each step together with the canvas that it finds. Canvases only
grow, so the lines at the end are those at the beginning and then the lines of all moments in their order
(`defs_afterAll`, `body_afterAll`), while the surface stays the same.
-/

namespace Concentric

/-- **A moment of a run:** a step and the canvas that it finds. -/
structure Moment where
  canvas : Canvas
  step : Step

namespace Drawing

theorem map_eq {α β : Type} (f : α → β) (drawing : Drawing α) :
    f <$> drawing = ⟨drawing.defs, drawing.body, drawing.outcome.map f⟩ := by
  obtain ⟨defs, body, outcome⟩ := drawing
  cases outcome with
  | error e => rfl
  | ok a =>
    show (⟨defs, body, .ok a⟩ : Drawing α) >>= (fun a => pure (f a)) = _
    rw [ok_bind, pure_eq, List.append_nil, List.append_nil]
    rfl

end Drawing

variable [DigitLimit]

/-- What is added at a moment, and the answer. -/
def Moment.drawing (m : Moment) : Drawing Answer := m.step.drawing m.canvas

/-- Whether the step succeeds. -/
def Moment.succeeds (m : Moment) : Bool := m.drawing.outcome.isOk

namespace Canvas

/-- **The moments of a run** that begins on a canvas. -/
def history (canvas : Canvas) : List Step → List Moment
  | [] => []
  | step :: rest => ⟨canvas, step⟩ :: (canvas.after step).history rest

/-- The steps of the moments are the steps of the run. -/
theorem map_step_history (canvas : Canvas) (steps : List Step) :
    (canvas.history steps).map Moment.step = steps := by
  induction steps generalizing canvas with
  | nil => rfl
  | cons step rest ih => simp only [history, List.map_cons, ih]

theorem countP_history (canvas : Canvas) (steps : List Step) (p : Step → Bool) :
    (canvas.history steps).countP (fun m => p m.step) = steps.countP p := by
  conv => rhs; rw [← map_step_history canvas steps, List.countP_map]
  rfl

theorem step_mem_of_mem_history {canvas : Canvas} {steps : List Step} {m : Moment}
    (h : m ∈ canvas.history steps) : m.step ∈ steps := by
  rw [← map_step_history canvas steps]
  exact List.mem_map_of_mem h

/-- The moments are those at which the run draws. -/
theorem map_drawing_history (canvas : Canvas) (steps : List Step) :
    (canvas.history steps).map Moment.drawing = canvas.run steps := by
  induction steps generalizing canvas with
  | nil => rfl
  | cons step rest ih => simp only [history, List.map_cons, ih, run, Moment.drawing]

/-- No step changes the surface. -/
theorem toSurface_afterAll (canvas : Canvas) (steps : List Step) :
    (canvas.afterAll steps).toSurface = canvas.toSurface := by
  induction steps generalizing canvas with
  | nil => rfl
  | cons step rest ih => exact ih (canvas.after step)

/-- A run does not change whether its document has a text. -/
theorem exists_document_afterAll_iff (canvas : Canvas) (steps : List Step) (style : Option String) :
    (∃ text, (canvas.afterAll steps).document style = .ok text) ↔
      canvas.width.Writable ∧ canvas.height.Writable := by
  rw [exists_document_iff, toSurface_afterAll]
  exact Iff.rfl

theorem exists_document_afterAll_of_unlimited (canvas : Canvas) (steps : List Step) (style : Option String)
    (h : DigitLimit.most = none) : ∃ text, (canvas.afterAll steps).document style = .ok text := by
  rw [exists_document_afterAll_iff]
  exact ⟨canvas.width.writable_of_unlimited h, canvas.height.writable_of_unlimited h⟩

/-- **The definitions at the end of a run.** -/
theorem defs_afterAll (canvas : Canvas) (steps : List Step) :
    (canvas.afterAll steps).defs =
      canvas.defs ++ (canvas.history steps).flatMap fun m => m.drawing.defs := by
  induction steps generalizing canvas with
  | nil => simp [afterAll, history]
  | cons step rest ih =>
    have hstep : (canvas.after step).defs = canvas.defs ++ (step.drawing canvas).defs := rfl
    have hrest := ih (canvas.after step)
    simp only [afterAll, List.foldl_cons, history, List.flatMap_cons, Moment.drawing] at hrest ⊢
    rw [hrest, hstep, List.append_assoc]

/-- **The body at the end of a run.** -/
theorem body_afterAll (canvas : Canvas) (steps : List Step) :
    (canvas.afterAll steps).body =
      canvas.body ++ (canvas.history steps).flatMap fun m => m.drawing.body := by
  induction steps generalizing canvas with
  | nil => simp [afterAll, history]
  | cons step rest ih =>
    have hstep : (canvas.after step).body = canvas.body ++ (step.drawing canvas).body := rfl
    have hrest := ih (canvas.after step)
    simp only [afterAll, List.foldl_cons, history, List.flatMap_cons, Moment.drawing] at hrest ⊢
    rw [hrest, hstep, List.append_assoc]

/-- Canvases only grow. -/
theorem length_body_le_of_mem_history {canvas : Canvas} {steps : List Step} {m : Moment}
    (h : m ∈ canvas.history steps) : canvas.body.length ≤ m.canvas.body.length := by
  induction steps generalizing canvas with
  | nil => simp [history] at h
  | cons step rest ih =>
    rcases List.mem_cons.mp h with rfl | h
    · exact Nat.le_refl _
    · have hrest := ih h
      have hstep : (canvas.after step).body = canvas.body ++ (step.drawing canvas).body := rfl
      rw [hstep, List.length_append] at hrest
      omega

/-- A later moment finds what an earlier one has painted. -/
theorem pairwise_length_history (canvas : Canvas) (steps : List Step) :
    (canvas.history steps).Pairwise fun m later =>
      m.canvas.body.length + m.drawing.body.length ≤ later.canvas.body.length := by
  induction steps generalizing canvas with
  | nil => exact .nil
  | cons step rest ih =>
    -- Whatever comes later begins with at least the canvas that this step leaves.
    refine .cons ?_ (ih (canvas.after step))
    intro later hlater
    have hgrown := length_body_le_of_mem_history hlater
    have hstep : (canvas.after step).body = canvas.body ++ (step.drawing canvas).body := rfl
    rw [hstep, List.length_append] at hgrown
    exact hgrown

end Canvas

namespace Step

/-! ## What each step adds -/

/-- The steps that draw by a builder: heads, patterns, rings and connectors. -/
def isBuilder : Step → Bool
  | .arrowHead .. | .arrowPattern .. | .ring .. | .connector .. => true
  | _ => false

/-- Whether a step adds lines as they are given to it. -/
def isVerbatim : Step → Bool
  | .define .. | .paint .. => true
  | _ => false

/-- Whether a step draws a ring. -/
def isRing : Step → Bool
  | .ring .. => true
  | _ => false

theorem drawing_arrowHead (canvas : Canvas) (id color : String) :
    drawing canvas (.arrowHead id color) = ⟨Marker.headLines id color, [], .ok (.text id)⟩ := rfl

theorem drawing_arrowPattern (canvas : Canvas) (id color : String) :
    drawing canvas (.arrowPattern id color) =
      ⟨Marker.patternLines id color, [], .ok (.text (Markup.reference id))⟩ := rfl

theorem drawing_ring (canvas : Canvas) (layer : Layer) (spacing : Number) :
    drawing canvas (.ring layer spacing) =
      ⟨(Ring.draw canvas.toSurface layer spacing).defs, (Ring.draw canvas.toSurface layer spacing).body,
        (Ring.draw canvas.toSurface layer spacing).outcome.map .circle⟩ :=
  Drawing.map_eq _ _

theorem drawing_connector (canvas : Canvas) (span : Segment) (options : ConnectorOptions) :
    drawing canvas (.connector span options) =
      ⟨(Connector.draw canvas span options).defs, (Connector.draw canvas span options).body,
        (Connector.draw canvas span options).outcome.map .connector⟩ :=
  Drawing.map_eq _ _

theorem drawing_label (canvas : Canvas) (pathId : String) (content : Markup.Content)
    (offset attributes : String) :
    drawing canvas (.label pathId content offset attributes) =
      ⟨[], [Markup.pathLabel pathId content offset attributes], .ok .done⟩ := rfl

theorem drawing_center (canvas : Canvas) :
    drawing canvas .center = ⟨[], [], canvas.center.map .point⟩ := Drawing.map_eq _ _

theorem drawing_render (canvas : Canvas) (style : Option String) :
    drawing canvas (.render style) = ⟨[], [], (canvas.document style).map .text⟩ := Drawing.map_eq _ _

end Step

/-- **A ring that succeeds has all its numbers,** and it is whole. -/
theorem Moment.ring_whole {canvas : Canvas} {layer : Layer} {spacing : Number}
    (h : Moment.succeeds ⟨canvas, .ring layer spacing⟩ = true) :
    ∃ radius center r half, ringRadius layer.index spacing = .ok radius ∧ canvas.center = .ok center ∧
      layer.index.Writable ∧ radius.toReal = .ok r ∧ spacing.half = .ok half ∧
      Moment.drawing ⟨canvas, .ring layer spacing⟩ =
        ⟨Ring.definitions layer center (r - half), Ring.lines layer center r,
          .ok (.circle ⟨center.ofReal, radius⟩)⟩ := by
  have hdrawn := Ring.drawn canvas.toSurface layer spacing
  rw [succeeds, drawing, Step.drawing_ring] at h
  rw [drawing, Step.drawing_ring]
  generalize Ring.draw canvas.toSurface layer spacing = drawing at hdrawn h ⊢
  cases hdrawn with
  | refused e cause => exact absurd h Bool.false_ne_true
  | opened e hradius hcenter hindex cause => exact absurd h Bool.false_ne_true
  | circled e hradius hcenter hindex hr cause => exact absurd h Bool.false_ne_true
  | whole hradius hcenter hindex hr hhalf => exact ⟨_, _, _, _, hradius, hcenter, hindex, hr, hhalf, rfl⟩

/-- **A connector adds nothing, is interrupted behind the tag that opens its group, or adds all its lines.** -/
theorem Moment.connector_cases (canvas : Canvas) (span : Segment) (options : ConnectorOptions) :
    (Moment.succeeds ⟨canvas, .connector span options⟩ = false ∧ ¬ Connector.Interrupted span options ∧
      (Moment.drawing ⟨canvas, .connector span options⟩).defs = [] ∧
      (Moment.drawing ⟨canvas, .connector span options⟩).body = []) ∨
    (Moment.succeeds ⟨canvas, .connector span options⟩ = false ∧ Connector.Interrupted span options ∧
      (Moment.drawing ⟨canvas, .connector span options⟩).defs =
        Connector.missingMarkerLines (Connector.attached options) canvas.defs ∧
      (Moment.drawing ⟨canvas, .connector span options⟩).body =
        [Connector.groupTag (Connector.id canvas.body.length) false]) ∨
    ∃ (segment : Segment) (clip : Option (List (Point Binary64))),
      Moment.succeeds ⟨canvas, .connector span options⟩ = true ∧ options.width.Writable ∧
      (Moment.drawing ⟨canvas, .connector span options⟩).defs =
        Connector.definitions (Connector.id canvas.body.length) segment.plainPathText clip options canvas.defs ∧
      (Moment.drawing ⟨canvas, .connector span options⟩).body =
        Connector.lines (Connector.id canvas.body.length) segment.plainPathText clip.isSome options := by
  have hdrawn := Connector.drawn canvas span options
  rw [succeeds, drawing, Step.drawing_connector]
  generalize Connector.draw canvas span options = drawing at hdrawn ⊢
  cases hdrawn with
  | refused e cause => exact .inl ⟨rfl, cause.not_interrupted, rfl, rfl⟩
  | interrupted cause => exact .inr (.inl ⟨rfl, cause, rfl, rfl⟩)
  | @whole segment clip hsegment hwritable hclip hwidth =>
    exact .inr (.inr ⟨segment, clip, rfl, hwidth, rfl, rfl⟩)

end Concentric
