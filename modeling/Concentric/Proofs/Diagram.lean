import Concentric.Diagram
import Concentric.Proofs.Refusals
import Concentric.Proofs.Ring

/-!
# The diagram can be drawn

Every step of the diagram succeeds on a surface of its size, whatever is on the canvas before. So the diagram has a
text under every limit of digits (`exists_document`), and nothing stops the generator once its file is open.
-/

namespace Concentric.Diagram

/-! ## Paintings that succeed -/

/-- **A painting succeeds on a surface** with a value of a certain kind: whatever is on the canvas, no error stops it,
and the canvas keeps its size. -/
def Succeeds {α : Type} (painting : Painting α) (surface : Surface) (kind : α → Prop) : Prop :=
  ∀ canvas : Canvas, canvas.toSurface = surface →
    ∃ a after, painting.run canvas = (.ok a, after) ∧ after.toSurface = surface ∧ kind a

section Succeeds

variable {α β : Type} {surface : Surface} {kind : α → Prop}

theorem succeeds_pure {a : α} (h : kind a) : Succeeds (pure a) surface kind :=
  fun canvas hcanvas => ⟨a, canvas, rfl, hcanvas, h⟩

theorem Succeeds.bind {first : Painting α} {next : α → Painting β} {kind' : β → Prop}
    (hfirst : Succeeds first surface kind) (hnext : ∀ a, kind a → Succeeds (next a) surface kind') :
    Succeeds (first >>= next) surface kind' := by
  intro canvas hcanvas
  obtain ⟨a, middle, hrun, hmiddle, ha⟩ := hfirst canvas hcanvas
  obtain ⟨b, after, hrun', hafter, hb⟩ := hnext a ha middle hmiddle
  refine ⟨b, after, ?_, hafter, hb⟩
  rw [ExceptT.run_bind]
  show StateT.bind _ _ canvas = _
  rw [StateT.bind, hrun]
  exact hrun'

/-- A drawing that succeeds on every canvas of the surface. -/
theorem succeeds_perform {drawing : Canvas → Drawing α}
    (h : ∀ canvas : Canvas, canvas.toSurface = surface → ∃ a, (drawing canvas).outcome = .ok a ∧ kind a) :
    Succeeds (perform drawing) surface kind := by
  intro canvas hcanvas
  obtain ⟨a, houtcome, ha⟩ := h canvas hcanvas
  have hrun : (perform drawing).run canvas = ((drawing canvas).outcome, canvas.add (drawing canvas)) := rfl
  exact ⟨a, canvas.add (drawing canvas), by rw [hrun, houtcome], hcanvas, ha⟩

theorem succeeds_define (lines : List String) :
    Succeeds (perform fun _ => Drawing.define lines) surface fun _ => True :=
  succeeds_perform fun _ _ => ⟨(), rfl, trivial⟩

end Succeeds

/-! ## The parts of the diagram -/

/-- The surface of the diagram. -/
def surface : Surface := ⟨Style.canvasWidth, Style.canvasHeight⟩

/-- **A circle whose place is told by doubles,** so that a connector can start or stop there. -/
def Placed (circle : Circle) : Prop :=
  ∃ (center : Point Binary64) (left : Binary64), circle.center = center.ofReal ∧ circle.leftEdge = .ok (.real left)

/-- The numbers of every layer are in range. -/
theorem layers_in_range : ∀ layer ∈ layers, layer.index.toReal.isOk = true ∧
    ((ringRadius layer.index Style.spacing).bind Number.toReal).isOk = true := by
  decide +kernel

variable [DigitLimit]

theorem succeeds_ring {layer : Layer} (h : layer ∈ layers) :
    Succeeds (perform fun canvas => Ring.draw canvas.toSurface layer Style.spacing) surface Placed := by
  obtain ⟨hindex, hradius⟩ := layers_in_range layer h
  obtain ⟨_, hindex⟩ := exists_of_isOk hindex
  obtain ⟨r, hr⟩ := exists_of_isOk hradius
  obtain ⟨center, hcenter⟩ : ∃ center, surface.center = .ok center := exists_of_isOk (by decide +kernel)
  obtain ⟨half, hhalf⟩ : ∃ half, Style.spacing.half = .ok half := exists_of_isOk (by decide +kernel)
  cases hmade : ringRadius layer.index Style.spacing with
  | error e =>
    rw [hmade] at hr
    exact nomatch hr
  | ok radius =>
    rw [hmade] at hr
    refine succeeds_perform fun canvas hcanvas => ⟨⟨center.ofReal, radius⟩, ?_, center, center.x - r, rfl, ?_⟩
    · rw [hcanvas, Ring.draw_eq hmade hcenter (Number.writable_of_toReal hindex) hr hhalf]
    · exact Ring.leftEdge_eq center hr

/-- **Rings of these layers** succeed one after the other. -/
theorem succeeds_paintRings {painted : List Layer} (h : ∀ layer ∈ painted, layer ∈ layers) :
    Succeeds (paintRings painted) surface fun circles => ∀ circle ∈ circles, Placed circle := by
  induction painted with
  | nil => exact succeeds_pure (List.forall_mem_nil _)
  | cons layer inner ih =>
    rw [List.forall_mem_cons] at h
    refine (succeeds_ring h.1).bind fun circle hcircle => (ih h.2).bind fun circles hcircles => ?_
    exact succeeds_pure (List.forall_mem_cons.mpr ⟨hcircle, hcircles⟩)

/-- A connector between points of doubles has no number out of range. -/
theorem succeeds_connector (pattern : String) (start stop : Point Binary64) :
    Succeeds (perform fun canvas => Connector.draw canvas ⟨start.ofReal, stop.ofReal⟩ (connectorOptions pattern))
      surface fun _ => True := by
  refine succeeds_perform fun canvas _ => ?_
  have hfails := Connector.draw_fails_iff canvas ⟨start.ofReal, stop.ofReal⟩ (connectorOptions pattern)
  have hrange : ∀ n ∈ Connector.numbers ⟨start.ofReal, stop.ofReal⟩ (connectorOptions pattern), ¬ n.OutOfRange := by
    have hwidth : ¬ (10 : Number).OutOfRange := by decide +kernel
    simp only [Connector.numbers, List.forall_mem_cons]
    exact ⟨id, id, id, id, hwidth, List.forall_mem_nil _⟩
  cases houtcome : (Connector.draw canvas ⟨start.ofReal, stop.ofReal⟩ (connectorOptions pattern)).outcome with
  | ok made => exact ⟨made, rfl, trivial⟩
  | error e =>
    rcases hfails.mp ⟨e, houtcome⟩ with ⟨-, n, hn, hout⟩ | ⟨hunclipped, -⟩
    · exact absurd hout (hrange n hn)
    · exact absurd hunclipped.symm Bool.false_ne_true

theorem succeeds_paintConnector (pattern : String) {outer inner : Circle} (houter : Placed outer)
    (hinner : Placed inner) : Succeeds (paintConnector pattern outer inner) surface fun _ => True := by
  obtain ⟨center, left, hcenter, hleft⟩ := houter
  obtain ⟨stop, -, hstop, -⟩ := hinner
  rw [paintConnector, hleft, hcenter, hstop]
  have hstart : Succeeds (liftM (Except.ok (ε := ArithmeticError) (Number.real left)) : Painting Number) surface
      fun n => n = .real left :=
    succeeds_pure rfl
  refine hstart.bind ?_
  rintro n rfl
  exact (succeeds_connector pattern ⟨left, center.y⟩ stop).bind fun _ _ => succeeds_pure trivial

/-! ## The diagram -/

/-- **The diagram is drawn without a failure.** -/
theorem succeeds_paint : Succeeds paint surface fun _ => True := by
  refine (succeeds_define _).bind fun _ _ => (succeeds_define _).bind fun _ _ => ?_
  refine (succeeds_paintRings fun _ hlayer => hlayer).bind fun circles hcircles => ?_
  cases houter : circles.head? with
  | none => exact succeeds_pure trivial
  | some outer =>
    cases hinner : circles.getLast? with
    | none => exact succeeds_pure trivial
    | some inner =>
      exact succeeds_paintConnector _ (hcircles outer (List.mem_of_head? houter))
        (hcircles inner (List.mem_of_getLast? hinner))

theorem run_paint_eq_ok : (paint.run (.blank Style.canvasWidth Style.canvasHeight)).1 = .ok () := by
  obtain ⟨_, _, hrun, -, -⟩ := succeeds_paint (.blank Style.canvasWidth Style.canvasHeight) rfl
  rw [hrun]

/-- **The diagram has a text.** -/
theorem exists_document (style : Option String) : ∃ text, document style = .ok text := by
  obtain ⟨_, painted, hrun, hsurface, -⟩ := succeeds_paint (.blank Style.canvasWidth Style.canvasHeight) rfl
  have hsize : painted.toSurface.Writable := by
    rw [hsurface]
    exact ⟨Number.writable_of_lt (by decide +kernel), Number.writable_of_lt (by decide +kernel)⟩
  have hcanvas : canvas = .ok painted := by
    rw [canvas, hrun]
    rfl
  obtain ⟨text, htext⟩ := (painted.exists_document_iff style).mpr hsize
  refine ⟨text, ?_⟩
  rw [document, hcanvas]
  exact htext

end Concentric.Diagram
