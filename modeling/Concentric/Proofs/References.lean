import Concentric.Proofs.Fragments
import Concentric.Proofs.Identifiers
import Mathlib.Data.List.Nodup
import Mathlib.Data.List.Perm.Basic

/-!
# Identifiers and references of runs

Every moment of a run introduces nothing or names of one owner, and a builder refers to what it introduces
at the same moment (`Moment.contributes`). Owners of different moments are apart: rings by their indices, and
connectors because the number of a connector is the number of painted lines that it finds, to which each
connector that opens its group adds. Hence all identifiers of a run are different and references and definitions belong
together (`identifiers_linked`), at whatever places its steps fail.
-/

namespace Concentric

open Markup Text

section References

variable [DigitLimit]

/-! ## Moments -/

/-- The identifiers on the lines of a moment. -/
def Moment.identifiers (m : Moment) : Identifiers :=
  Concentric.identifiers m.drawing.defs m.drawing.body

/-- Who draws at a moment: a ring whose index has a text, or a connector that opens its group. -/
def Moment.owner? (m : Moment) : Option Owner :=
  match m.step with
  | .ring layer _ => if layer.index.Writable then some (.layer layer.index) else none
  | .connector .. =>
    if m.opens then some (.connector m.canvas.body.length) else none
  | _ => none

/-- The text of the index of a ring, if it has one. -/
def Step.indexText? : Step → Option String
  | .ring layer _ => layer.index.text.toOption
  | _ => none

/-- **What a moment introduces and refers to.** -/
inductive Moment.Contributes (m : Moment) : Identifiers → Prop
  /-- No identifiers. -/
  | nothing : m.Contributes .none
  /-- A label of its own follows any path. -/
  | label (hstep : m.step.isBuilder = false) (followed : List String) :
      m.Contributes ⟨[], [], [], followed, []⟩
  /-- The group of an owner with its paths and regions, each of which is referred to. -/
  | owned {owner : Owner} (howner : m.owner? = some owner) (paths regions followed : List Role)
      (hroles : (.group :: (paths ++ regions)).Nodup)
      (hfollowed : ∀ role, role ∈ followed ↔ role ∈ paths) :
      m.Contributes
        ⟨[owner.text], paths.map owner.name, regions.map owner.name, followed.map owner.name,
          regions.map owner.name⟩

omit [DigitLimit] in
theorem introduced_owned (owner : Owner) (paths regions followed : List Role) :
    (Identifiers.mk [owner.text] (paths.map owner.name) (regions.map owner.name)
        (followed.map owner.name) (regions.map owner.name)).introduced =
      (.group :: (paths ++ regions)).map owner.name := by
  rw [Identifiers.introduced, List.map_cons, List.map_append, owner.name_group, List.append_assoc]
  rfl

theorem Moment.contributes_ring {m : Moment} {layer : Layer}
    (hdraws : layer.index.Writable → m.owner? = some (.layer layer.index)) {surface : Surface}
    {spacing : Number} {drawing : Drawing Circle}
    (h : Ring.Drawn surface layer spacing drawing) :
    m.Contributes (Concentric.identifiers drawing.defs drawing.body) := by
  cases h with
  | refused e cause => exact .nothing
  | opened e hradius hcenter hindex cause =>
    have howner := hdraws hindex
    rw [Ring.identifiers_groupTag]
    exact .owned howner [] [] [] (by decide) (by simp)
  | circled e hradius hcenter hindex hr cause =>
    have howner := hdraws hindex
    rw [← List.singleton_append, identifiers_body_append, Ring.identifiers_groupTag,
      Ring.identifiers_circleLine]
    exact .owned howner [] [] [] (by decide) (by simp)
  | whole hradius hcenter hindex hr hhalf =>
    have howner := hdraws hindex
    rw [identifiers_split, Ring.identifiers_definitions, Ring.identifiers_lines]
    cases hcomponents : layer.components with
    | nil => exact .owned howner [.upper] [] [.upper] (by decide) (by simp)
    | cons component rest =>
      -- The lower path is defined once, however many components follow it.
      have hfollowed (role : Role) :
          role ∈ .upper :: (component :: rest).map (fun _ => Role.lower) ↔ role ∈ [.upper, .lower] := by
        cases role <;> simp
      have hnames : (Role.upper :: (component :: rest).map fun _ => .lower).map
          (Owner.layer layer.index).name =
            Ring.upperId layer.index.plainText ::
              (component :: rest).map fun _ => Ring.lowerId layer.index.plainText := by
        rw [List.map_cons, List.map_map]
        rfl
      have howned := Moment.Contributes.owned howner [.upper, .lower] [] _ (by decide) hfollowed
      rw [hnames] at howned
      exact howned

theorem Moment.contributes_interrupted {m : Moment}
    (howner : m.owner? = some (.connector m.canvas.body.length)) (marker : Option String) (defs : List String) :
    m.Contributes
      (Concentric.identifiers (Connector.missingMarkerLines marker defs)
        [Connector.groupTag (Connector.id m.canvas.body.length) false]) := by
  rw [identifiers_split, Connector.identifiers_missingMarkerLines, Connector.identifiers_groupTag]
  exact .owned howner [] [] [] (by decide) (by simp)

theorem Moment.contributes_connector {m : Moment}
    (howner : m.owner? = some (.connector m.canvas.body.length)) (segment : Segment)
    (clip : Option (List (Point Binary64))) (options : ConnectorOptions) (defs : List String) :
    m.Contributes
      (Concentric.identifiers
        (Connector.definitions (Connector.id m.canvas.body.length) segment.plainPathText clip options defs)
        (Connector.lines (Connector.id m.canvas.body.length) segment.plainPathText clip.isSome options)) := by
  rw [identifiers_split, Connector.identifiers_definitions, Connector.identifiers_lines,
    Connector.labelPath]
  cases clip <;> cases Connector.nonempty? options.label
  · exact .owned howner [] [] [] (by decide) (by simp)
  · exact .owned howner [.label] [] [.label] (by decide) (by simp)
  · exact .owned howner [] [.region] [] (by decide) (by simp)
  · exact .owned howner [.label] [.region] [.label] (by decide) (by simp)

/-- **Each moment introduces nothing or names of its owner,** unless lines are added as they are. -/
theorem Moment.contributes {m : Moment} (hstep : m.step.isVerbatim = false) :
    m.Contributes m.identifiers := by
  obtain ⟨canvas, step⟩ := m
  cases step with
  | arrowHead id color =>
    rw [Moment.identifiers, Moment.drawing, Step.drawing_arrowHead, identifiers_headLines]
    exact .nothing
  | arrowPattern id color =>
    rw [Moment.identifiers, Moment.drawing, Step.drawing_arrowPattern, identifiers_patternLines]
    exact .nothing
  | ring layer spacing =>
    rw [Moment.identifiers, Moment.drawing, Step.drawing_ring]
    have hdraws : layer.index.Writable →
        Moment.owner? ⟨canvas, .ring layer spacing⟩ = some (.layer layer.index) := fun hindex => if_pos hindex
    exact Moment.contributes_ring hdraws (Ring.drawn canvas.toSurface layer spacing)
  | connector span options =>
    rcases Moment.connector_cases canvas span options with
      ⟨-, -, hdefs, hbody⟩ | ⟨-, hinterrupted, hdefs, hbody⟩ | ⟨segment, clip, hsucceeds, -, hdefs, hbody⟩
    · rw [Moment.identifiers, hdefs, hbody]
      exact .nothing
    · have howner : Moment.owner? ⟨canvas, .connector span options⟩ = some (.connector canvas.body.length) :=
        if_pos (Moment.opens_of_interrupted hinterrupted)
      rw [Moment.identifiers, hdefs, hbody]
      exact Moment.contributes_interrupted howner _ canvas.defs
    · have howner : Moment.owner? ⟨canvas, .connector span options⟩ = some (.connector canvas.body.length) :=
        if_pos (Moment.opens_of_succeeds hsucceeds)
      rw [Moment.identifiers, hdefs, hbody]
      exact Moment.contributes_connector howner segment clip options canvas.defs
  | label pathId content offset attributes =>
    rw [Moment.identifiers, Moment.drawing, Step.drawing_label, identifiers_pathLabel]
    exact .label rfl _
  | define lines => exact absurd hstep Bool.noConfusion
  | paint lines => exact absurd hstep Bool.noConfusion
  | center =>
    rw [Moment.identifiers, Moment.drawing, Step.drawing_center]
    exact .nothing
  | render style =>
    rw [Moment.identifiers, Moment.drawing, Step.drawing_render]
    exact .nothing

/-- **What is drawn by a builder is read:** the paths of its labels and, if it succeeds, the group of its
owner. -/
theorem Moment.read_of_isBuilder {m : Moment} (hbuilder : m.step.isBuilder = true) :
    m.identifiers.followed.map ("#" ++ ·) = m.labels.map Label.reference ∧
      (m.succeeds = true → m.identifiers.groups = m.owner?.toList.map Owner.text) := by
  obtain ⟨canvas, step⟩ := m
  cases step with
  | arrowHead id color =>
    rw [Moment.identifiers, Moment.drawing, Step.drawing_arrowHead, identifiers_headLines]
    exact ⟨rfl, fun _ => rfl⟩
  | arrowPattern id color =>
    rw [Moment.identifiers, Moment.drawing, Step.drawing_arrowPattern, identifiers_patternLines]
    exact ⟨rfl, fun _ => rfl⟩
  | ring layer spacing =>
    have hdrawn := Ring.drawn canvas.toSurface layer spacing
    simp only [Moment.identifiers, Moment.labels, Moment.succeeds, Moment.drawing, Step.drawing_ring,
      Moment.owner?]
    generalize Ring.draw canvas.toSurface layer spacing = drawing at hdrawn ⊢
    cases hdrawn with
    | refused e cause => exact ⟨rfl, fun hsucceeds => absurd hsucceeds Bool.false_ne_true⟩
    | opened e hradius hcenter hindex cause =>
      rw [Ring.identifiers_groupTag]
      exact ⟨rfl, fun hsucceeds => absurd hsucceeds Bool.false_ne_true⟩
    | circled e hradius hcenter hindex hr cause =>
      rw [← List.singleton_append, identifiers_body_append, Ring.identifiers_groupTag,
        Ring.identifiers_circleLine]
      exact ⟨rfl, fun hsucceeds => absurd hsucceeds Bool.false_ne_true⟩
    | whole hradius hcenter hindex hr hhalf =>
      rw [identifiers_split, Ring.identifiers_definitions, Ring.identifiers_lines, if_pos hindex]
      have hlabels : ([] ++ (Ring.upperId layer.index.plainText :: layer.components.map fun _ =>
          Ring.lowerId layer.index.plainText)).map ("#" ++ ·) = (Ring.labels layer).map Label.reference := by
        rw [List.nil_append, Ring.labels, List.map_cons, List.map_cons, List.map_map, List.map_map]
        rfl
      exact ⟨hlabels, fun _ => rfl⟩
  | connector span options =>
    rcases Moment.connector_cases canvas span options with
      ⟨hfails, -, hdefs, hbody⟩ | ⟨hfails, -, hdefs, hbody⟩ | ⟨segment, clip, hsucceeds, -, hdefs, hbody⟩
    · rw [Moment.identifiers, hdefs, hbody, Moment.labels, hfails]
      exact ⟨rfl, fun hsucceeds => absurd hsucceeds Bool.false_ne_true⟩
    · rw [Moment.identifiers, hdefs, hbody, identifiers_split, Connector.identifiers_missingMarkerLines,
        Connector.identifiers_groupTag, Moment.labels, hfails]
      exact ⟨rfl, fun hsucceeds => absurd hsucceeds Bool.false_ne_true⟩
    · rw [Moment.identifiers, hdefs, hbody, identifiers_split, Connector.identifiers_definitions,
        Connector.identifiers_lines, Moment.labels, hsucceeds, Moment.owner?, Moment.opens, hsucceeds]
      have hlabels : ([] ++ Connector.labelPath canvas.body.length options).map ("#" ++ ·) =
          (Connector.labels canvas.body.length options).map Label.reference := by
        rw [List.nil_append, Connector.labelPath, Connector.labels, List.map_map, List.map_map]
        rfl
      exact ⟨hlabels, fun _ => rfl⟩
  | _ => exact absurd hbuilder Bool.false_ne_true

namespace Moment

variable {m : Moment} {found : Identifiers}

namespace Contributes

/-- What is introduced are names of the owner. -/
theorem exists_of_mem_introduced (h : m.Contributes found) {id : String} (hid : id ∈ found.introduced) :
    ∃ owner role, m.owner? = some owner ∧ owner.name role = id := by
  cases h with
  | nothing => exact absurd hid List.not_mem_nil
  | label hstep followed => exact absurd hid List.not_mem_nil
  | @owned owner howner paths regions followed hroles hfollowed =>
    rw [introduced_owned] at hid
    obtain ⟨role, -, hrole⟩ := List.mem_map.mp hid
    exact ⟨owner, role, howner, hrole⟩

/-- Nothing is introduced twice at one moment. -/
theorem nodup_introduced (h : m.Contributes found) : found.introduced.Nodup := by
  cases h with
  | nothing => exact .nil
  | label hstep followed => exact .nil
  | owned howner paths regions followed hroles hfollowed =>
    rw [introduced_owned]
    exact List.pairwise_map.mpr (hroles.imp fun hne hsame => hne (eq_of_name_eq hsame).2)

/-- The only number among the groups is that of a connector. -/
theorem numbers_eq (h : m.Contributes found) :
    found.groups.filterMap numberOf? = (m.owner?.bind Owner.number?).toList ∨
      found.groups.filterMap numberOf? = [] := by
  cases h with
  | nothing => exact .inr rfl
  | label hstep followed => exact .inr rfl
  | @owned owner howner paths regions followed hroles hfollowed =>
    refine .inl ?_
    have hnumber : numberOf? owner.text = owner.number? := by
      rw [← owner.name_group, numberOf?_name]
    rw [howner, Option.bind_some, List.filterMap_cons, hnumber]
    cases owner <;> rfl

/-- Each path is followed. -/
theorem paths_subset (h : m.Contributes found) : found.paths ⊆ found.followed := by
  cases h with
  | nothing => exact List.Subset.refl []
  | label hstep followed => exact List.nil_subset followed
  | owned howner paths regions followed hroles hfollowed =>
    exact List.map_subset _ fun role hrole => (hfollowed role).mpr hrole

/-- A builder follows its own paths only. -/
theorem followed_subset (h : m.Contributes found) (hbuilder : m.step.isBuilder = true) :
    found.followed ⊆ found.paths := by
  cases h with
  | nothing => exact List.Subset.refl []
  | label hstep followed =>
    rw [hbuilder] at hstep
    exact absurd hstep Bool.noConfusion
  | owned howner paths regions followed hroles hfollowed =>
    exact List.map_subset _ fun role hrole => (hfollowed role).mp hrole

/-- The clip regions are those that groups are clipped to. -/
theorem clips_eq (h : m.Contributes found) : found.clips = found.regions := by
  cases h <;> rfl

end Contributes

/-- The layer of a ring is the owner of its identifiers. -/
theorem indexText?_of_owner? {index : Number} (h : m.owner? = some (.layer index)) :
    m.step.indexText? = some index.plainText := by
  obtain ⟨canvas, step⟩ := m
  cases step with
  | ring layer spacing =>
    simp only [owner?, Option.ite_none_right_eq_some, Option.some.injEq, Owner.layer.injEq] at h
    obtain ⟨hindex, rfl⟩ := h
    rw [Step.indexText?, Number.text_of_writable hindex]
    rfl
  | connector span options => exact absurd h (by simp [owner?])
  | _ => exact absurd h (by simp [owner?])

/-- A connector that opens its group is named after the painted lines, and adds to them. -/
theorem length_of_owner? {number : Nat} (h : m.owner? = some (.connector number)) :
    number = m.canvas.body.length ∧ 0 < m.drawing.body.length := by
  obtain ⟨canvas, step⟩ := m
  cases step with
  | ring layer spacing => exact absurd h (by simp [owner?])
  | connector span options =>
    have hnumber : canvas.body.length = number := by
      simp only [owner?, Option.ite_none_right_eq_some, Option.some.injEq, Owner.connector.injEq] at h
      exact h.2
    refine ⟨hnumber.symm, ?_⟩
    rcases connector_cases canvas span options with
      ⟨hfails, hnot, -, -⟩ | ⟨-, -, -, hbody⟩ | ⟨segment, clip, -, -, -, hbody⟩
    · exact absurd h (by simp [owner?, opens, hfails, Step.isInterrupted, hnot])
    · rw [hbody]
      exact Nat.one_pos
    · rw [hbody]
      simp [Connector.lines]
  | _ => exact absurd h (by simp [owner?])

theorem isBuilder_of_owner? (m : Moment) {owner : Owner} (h : m.owner? = some owner) :
    m.step.isBuilder = true := by
  obtain ⟨canvas, step⟩ := m
  cases step with
  | ring layer spacing => rfl
  | connector span options => rfl
  | _ => exact absurd h (by simp [owner?])

/-- **Two moments whose owners have different identifiers.** -/
def Apart (m later : Moment) : Prop :=
  ∀ owner, m.owner? = some owner → ∀ owner', later.owner? = some owner' → owner.text ≠ owner'.text

/-- Different indices and grown lines keep owners apart. -/
theorem apart {later : Moment}
    (hindices : ∀ text, m.step.indexText? = some text →
      ∀ text', later.step.indexText? = some text' → text ≠ text')
    (hlength : m.canvas.body.length + m.drawing.body.length ≤ later.canvas.body.length) :
    Apart m later := by
  intro owner howner owner' howner' hsame
  -- Equal identifiers have equal numbers, which settles all but two rings and two connectors.
  have hnumbers : owner.number? = owner'.number? := by
    rw [← numberOf?_name owner .group, ← numberOf?_name owner' .group, owner.name_group,
      owner'.name_group, hsame]
  cases owner with
  | layer index =>
    cases owner' with
    | layer index' =>
      have htexts : index.plainText = index'.plainText := by
        have hchars := congrArg String.toList hsame
        simp only [Owner.text, Ring.id, String.toList_append] at hchars
        exact String.toList_injective (List.append_cancel_left hchars)
      exact hindices _ (indexText?_of_owner? howner) _ (indexText?_of_owner? howner') htexts
    | connector number' => exact absurd hnumbers (by simp [Owner.number?])
  | connector number =>
    cases owner' with
    | layer index' => exact absurd hnumbers (by simp [Owner.number?])
    | connector number' =>
      obtain ⟨hnumber, hpainted⟩ := length_of_owner? howner
      obtain ⟨hnumber', -⟩ := length_of_owner? howner'
      have hequal : number = number' := by simpa [Owner.number?] using hnumbers
      omega

end Moment

/-! ## Runs -/

/-- Different indices keep the owners of a run apart. -/
theorem Canvas.pairwise_apart (canvas : Canvas) {steps : List Step}
    (hindices : (steps.filterMap Step.indexText?).Nodup) :
    (canvas.history steps).Pairwise Moment.Apart := by
  rw [← map_step_history canvas steps, List.filterMap_map] at hindices
  have hapart := (List.pairwise_filterMap.mp hindices).and (pairwise_length_history canvas steps)
  exact hapart.imp fun h => Moment.apart h.1 h.2

/-- The identifiers of moments, one moment after the other. -/
def Identifiers.gather (moments : List Moment) : Identifiers where
  groups := moments.flatMap fun m => m.identifiers.groups
  paths := moments.flatMap fun m => m.identifiers.paths
  regions := moments.flatMap fun m => m.identifiers.regions
  followed := moments.flatMap fun m => m.identifiers.followed
  clips := moments.flatMap fun m => m.identifiers.clips

/-- The identifiers at the end of a run. -/
theorem identifiers_afterAll (width height : Number) (steps : List Step) :
    identifiers ((Canvas.blank width height).afterAll steps).defs
        ((Canvas.blank width height).afterAll steps).body =
      .gather ((Canvas.blank width height).history steps) := by
  simp only [Canvas.defs_afterAll, Canvas.body_afterAll, Canvas.blank, List.nil_append, identifiers,
    List.filterMap_flatMap, Identifiers.gather, Moment.identifiers]

/-- Up to their order, the identifiers of a run are those of its moments. -/
theorem perm_introduced_gather (moments : List Moment) :
    (Identifiers.gather moments).introduced.Perm
      (moments.flatMap fun m => m.identifiers.introduced) := by
  have hpaths := List.flatMap_append_perm moments (fun m => m.identifiers.groups)
    (fun m => m.identifiers.paths)
  have hregions := List.flatMap_append_perm moments
    (fun m => m.identifiers.groups ++ m.identifiers.paths) (fun m => m.identifiers.regions)
  exact (hpaths.append_right _).trans hregions

/-- **Identifiers and references that belong together,** as the moments of a run leave them. -/
structure Linked (moments : List Moment) (found : Identifiers) : Prop where
  /-- No identifier is introduced twice. -/
  distinct : found.introduced.Nodup
  /-- What is drawn has a group of its own. -/
  grouped : ∀ m ∈ moments, m.succeeds = true → ∀ owner, m.owner? = some owner →
    owner.text ∈ found.groups
  /-- The numbers of the connectors grow. -/
  numbered : (found.groups.filterMap numberOf?).Pairwise (· < ·)
  /-- The labels of a builder follow the paths that they are meant for. -/
  labelled : ∀ m ∈ moments, m.step.isBuilder = true →
    m.identifiers.followed.map ("#" ++ ·) = m.labels.map Label.reference
  /-- Each of these paths is defined exactly once. -/
  followed : ∀ m ∈ moments, m.step.isBuilder = true →
    ∀ id ∈ m.identifiers.followed, found.paths.count id = 1
  /-- A clipped group is clipped to exactly one region. -/
  clips : ∀ id ∈ found.clips, found.regions.count id = 1
  /-- Some label follows each path. -/
  paths : ∀ id ∈ found.paths, id ∈ found.followed
  /-- Some group is clipped to each region. -/
  regions : ∀ id ∈ found.regions, id ∈ found.clips

section

variable {moments : List Moment}

theorem nodup_introduced_gather (hcontributes : ∀ m ∈ moments, m.Contributes m.identifiers)
    (hapart : moments.Pairwise Moment.Apart) : (Identifiers.gather moments).introduced.Nodup := by
  rw [(perm_introduced_gather moments).nodup_iff]
  -- Within a moment the roles differ; between moments the owners do.
  refine List.pairwise_flatMap.mpr ⟨fun m hm => (hcontributes m hm).nodup_introduced, ?_⟩
  apply hapart.imp_of_mem
  intro m later hm hlater happart id hid id' hid' hsame
  obtain ⟨owner, role, howner, hname⟩ := (hcontributes m hm).exists_of_mem_introduced hid
  obtain ⟨owner', role', howner', hname'⟩ := (hcontributes later hlater).exists_of_mem_introduced hid'
  have hnames : owner.name role = owner'.name role' := by rw [hname, hname', hsame]
  exact happart owner howner owner' howner' (eq_of_name_eq hnames).1

/-- **The numbers of connectors grow,** because one that opens its group paints. -/
theorem pairwise_numbers_gather (hcontributes : ∀ m ∈ moments, m.Contributes m.identifiers)
    (hlength : moments.Pairwise fun m later =>
      m.canvas.body.length + m.drawing.body.length ≤ later.canvas.body.length) :
    ((Identifiers.gather moments).groups.filterMap numberOf?).Pairwise (· < ·) := by
  have howner : ∀ m ∈ moments, ∀ number ∈ m.identifiers.groups.filterMap numberOf?,
      m.owner? = some (.connector number) := by
    intro m hm number hnumber
    rcases (hcontributes m hm).numbers_eq with heq | hnone
    · rw [heq, Option.mem_toList, Option.bind_eq_some_iff] at hnumber
      obtain ⟨owner, howner, hnumber⟩ := hnumber
      cases owner with
      | layer index => exact absurd hnumber (by simp [Owner.number?])
      | connector number' =>
        obtain rfl : number' = number := by simpa [Owner.number?] using hnumber
        exact howner
    · rw [hnone] at hnumber
      exact absurd hnumber List.not_mem_nil
  -- A moment has at most one number, so only the numbers of different moments are compared.
  rw [Identifiers.gather, List.filterMap_flatMap]
  refine List.pairwise_flatMap.mpr ⟨?_, ?_⟩
  · intro m hm
    rcases (hcontributes m hm).numbers_eq with heq | hnone
    · rw [heq]
      cases m.owner?.bind Owner.number? with
      | none => exact .nil
      | some number => exact List.pairwise_singleton _ number
    · rw [hnone]
      exact .nil
  · apply hlength.imp_of_mem
    intro m later hm hlater hgrown number hnumber number' hnumber'
    obtain ⟨hfirst, hpainted⟩ := Moment.length_of_owner? (howner m hm number hnumber)
    obtain ⟨hsecond, -⟩ := Moment.length_of_owner? (howner later hlater number' hnumber')
    omega

theorem linked_gather (hcontributes : ∀ m ∈ moments, m.Contributes m.identifiers)
    (hapart : moments.Pairwise Moment.Apart)
    (hlength : moments.Pairwise fun m later =>
      m.canvas.body.length + m.drawing.body.length ≤ later.canvas.body.length) :
    Linked moments (.gather moments) := by
  have hdistinct := nodup_introduced_gather hcontributes hapart
  obtain ⟨hgroups, hregions, -⟩ := List.nodup_append.mp hdistinct
  obtain ⟨-, hpaths, -⟩ := List.nodup_append.mp hgroups
  have hclips : (Identifiers.gather moments).clips = (Identifiers.gather moments).regions := by
    have hall := List.flatMap_congr fun m hm => (hcontributes m hm).clips_eq
    exact hall
  refine ⟨hdistinct, ?_, pairwise_numbers_gather hcontributes hlength, ?_, ?_, ?_, ?_, ?_⟩
  · intro m hm hsucceeds owner howner
    have hgroups := (m.read_of_isBuilder (m.isBuilder_of_owner? howner)).2 hsucceeds
    have hgroup : owner.text ∈ m.identifiers.groups := by simp [hgroups, howner]
    exact List.mem_flatMap.mpr ⟨m, hm, hgroup⟩
  · exact fun m _ hbuilder => (m.read_of_isBuilder hbuilder).1
  · intro m hm hbuilder id hid
    have hpath := (hcontributes m hm).followed_subset hbuilder hid
    exact List.count_eq_one_of_mem hpaths (List.mem_flatMap.mpr ⟨m, hm, hpath⟩)
  · intro id hid
    rw [hclips] at hid
    exact List.count_eq_one_of_mem hregions hid
  · intro id hid
    obtain ⟨m, hm, hpath⟩ := List.mem_flatMap.mp hid
    exact List.mem_flatMap.mpr ⟨m, hm, (hcontributes m hm).paths_subset hpath⟩
  · intro id hid
    rw [hclips]
    exact hid

end

/-- **A run whose rings have different indices leaves identifiers and references that belong together,**
whichever of its steps fail. -/
theorem identifiers_linked {width height : Number} {steps : List Step}
    (hsteps : ∀ step ∈ steps, step.isVerbatim = false)
    (hindices : (steps.filterMap Step.indexText?).Nodup) :
    Linked ((Canvas.blank width height).history steps)
      (identifiers ((Canvas.blank width height).afterAll steps).defs
        ((Canvas.blank width height).afterAll steps).body) := by
  have hcontributes : ∀ m ∈ (Canvas.blank width height).history steps, m.Contributes m.identifiers :=
    fun m hm => Moment.contributes (hsteps m.step (Canvas.step_mem_of_mem_history hm))
  rw [identifiers_afterAll]
  exact linked_gather hcontributes (Canvas.pairwise_apart _ hindices)
    (Canvas.pairwise_length_history _ steps)

end References

section Broken

attribute [local instance] DigitLimit.standard

/-- A run with a ring that stays open, two connectors that fail, the second one behind the tag that opens its
group, and a label that would add a path. -/
def brokenRun : List Step :=
  [.ring ⟨1, "core", "#eee", ["a", "b"]⟩ 50,
   .ring ⟨0, "gap", "#eee", []⟩ (.whole Binary64.ceiling),
   .connector ⟨⟨0, 0⟩, ⟨.whole Binary64.ceiling, 5⟩⟩ { label := some "lost", clipping := true },
   .connector ⟨⟨0, 0⟩, ⟨10, 5⟩⟩ { width := .whole (10 ^ 4300 : Nat) },
   .label "layer-1-lower" (.markup ["<path id=\"layer-1-lower\"/>"]) "0%" "",
   .connector ⟨⟨0, 0⟩, ⟨10, 5⟩⟩ { label := some "kept", clipping := true },
   .connector ⟨⟨0, 0⟩, ⟨10, 5⟩⟩ {}]

theorem brokenRun_linked :
    (∀ step ∈ brokenRun, step.isVerbatim = false) ∧ (brokenRun.filterMap Step.indexText?).Nodup ∧
      ((Canvas.blank 410 410).history brokenRun).map Moment.succeeds =
        [true, false, false, false, true, true, true] ∧
      Linked ((Canvas.blank 410 410).history brokenRun)
        (identifiers ((Canvas.blank 410 410).afterAll brokenRun).defs
          ((Canvas.blank 410 410).afterAll brokenRun).body) :=
  ⟨by decide, by decide +kernel, by decide +kernel, identifiers_linked (by decide) (by decide +kernel)⟩

end Broken

end Concentric
