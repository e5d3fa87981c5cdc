import DomainStory.Proofs.Geometry.Exact
import DomainStory.Proofs.Diagram.Routing

/-!
# Fanning out

Every step of a flow is pushed to the side of the line between its actors, each by an amount of its
own. What counts as the side turns with the direction of the step (`Curve.aside_swap`). In exact
geometry this has two consequences for the steps of a flow between the same two actors:

* in one direction, no two of them have a control point in common (`Curve.control_eq_iff`);
* in opposite directions, two of them do exactly when one is as far from the start of the flow as
  the other is from its end (`Curve.control_swap_eq_iff`), as a question and its answer are that
  make up a flow.
-/

namespace DomainStory

/-! ## Points beside a line -/

namespace Curve

/-- The point at a distance from the middle between two points, at a right angle to the way from
the first to the second. -/
def aside {α : Type} [Plane α] (p q : Point α) (k : α) : Point α :=
  let d := p.displacement q
  let normal : Vec α := ⟨-d.y / d.length, d.x / d.length⟩
  (p.midpoint q).shift (normal.scale k)

variable {p q : Point ℝ} {spacing : ℝ} {i j n : Nat}

theorem aside_real (p q : Point ℝ) (k : ℝ) :
    aside p q k = ⟨(p.x + q.x) / 2 - (q.y - p.y) / p.distance q * k,
      (p.y + q.y) / 2 + (q.x - p.x) / p.distance q * k⟩ := by
  show Point.mk ((p.x + q.x) / (2.0 : ℝ) + -(q.y - p.y) / p.distance q * k)
    ((p.y + q.y) / (2.0 : ℝ) + (q.x - p.x) / p.distance q * k) = _
  congr 1
  · norm_num
    ring
  · norm_num

/-- Seen from the other end, the same side is the opposite one. -/
theorem aside_swap (p q : Point ℝ) (k : ℝ) : aside q p k = aside p q (-k) := by
  rw [aside_real, aside_real, Point.distance_comm q p]
  congr 1 <;> ring

theorem aside_injective (h : p ≠ q) : Function.Injective (aside p q) := by
  intro k k' hsame
  have hdistance : p.distance q ≠ 0 := (Point.distance_pos h).ne'
  rw [aside_real, aside_real] at hsame
  obtain ⟨hx, hy⟩ := Point.mk.inj hsame
  -- a distance along the normal shows on the axis where the points differ
  rcases Point.sub_ne_zero_of_ne h with hne | hne
  · exact mul_left_cancel₀ (div_ne_zero hne hdistance) (by linarith)
  · exact mul_left_cancel₀ (div_ne_zero hne hdistance) (by linarith)

/-- The steps of a flow have distances that go up evenly from one to the next. -/
theorem fanOffset_real (i n : Nat) (spacing : ℝ) :
    fanOffset i n spacing = (i - (n - 1) / 2) * spacing := by
  show ((i : ℝ) - ((n : ℝ) - (1.0 : ℝ)) / (2.0 : ℝ)) * spacing = _
  norm_num

theorem fanOffset_eq_iff (hspacing : spacing ≠ 0) :
    fanOffset i n spacing = fanOffset j n spacing ↔ i = j := by
  rw [fanOffset_real, fanOffset_real, mul_left_inj' hspacing, sub_left_inj, Nat.cast_inj]

/-- Two distances are opposite when one step comes as late as the other is early. -/
theorem fanOffset_eq_neg_iff (hspacing : spacing ≠ 0) :
    fanOffset i n spacing = -fanOffset j n spacing ↔ i + j + 1 = n := by
  rw [fanOffset_real, fanOffset_real, ← neg_mul, mul_left_inj' hspacing]
  have hcast : i + j + 1 = n ↔ (i : ℝ) + j + 1 = n := by exact_mod_cast Iff.rfl
  rw [hcast]
  constructor
  · intro h
    linarith
  · intro h
    linarith

/-- The control point of a step between different points is its own distance aside. -/
theorem control_of_ne (h : p ≠ q) (i n : Nat) (spacing : ℝ) :
    control p q i n spacing = aside p q (fanOffset i n spacing) := by
  have hlength : (0.0 : ℝ) < (p.displacement q).length := by
    norm_num
    exact Point.distance_pos h
  unfold control aside
  simp only [if_pos hlength]

/-- In one direction, the steps of a flow have different control points. -/
theorem control_eq_iff (h : p ≠ q) (hspacing : spacing ≠ 0) :
    control p q i n spacing = control p q j n spacing ↔ i = j := by
  rw [control_of_ne h, control_of_ne h, (aside_injective h).eq_iff, fanOffset_eq_iff hspacing]

/-- In opposite directions, two steps of a flow share a control point if one is as early as the
other is late. -/
theorem control_swap_eq_iff (h : p ≠ q) (hspacing : spacing ≠ 0) :
    control p q i n spacing = control q p j n spacing ↔ i + j + 1 = n := by
  rw [control_of_ne h, control_of_ne h.symm, aside_swap p q, (aside_injective h).eq_iff,
    fanOffset_eq_neg_iff hspacing]

end Curve

/-! ## Steps between the same actors -/

/-- One step answers another across the middle of their flow: it goes the other way, and comes as
early as the other is late. -/
structure DiagramEdge.Mirrors (edge edge' : DiagramEdge) : Prop where
  source : edge.source = edge'.target
  target : edge.target = edge'.source
  index : edge.index + edge'.index + 1 = edge.flowLength

namespace Diagram

variable {diagram : Diagram ℝ} {options : RouteOptions ℝ} {edge edge' : DiagramEdge}

/-- Two steps of a flow join the same actors, in either direction, and the actors stand apart.
Should a flow be in the diagram twice, the steps are those of its first place. -/
structure Alongside (diagram : Diagram ℝ) (edge edge' : DiagramEdge) : Prop where
  first : diagram.edges.find? (fun other => other.key = edge.key) = some edge
  first' : diagram.edges.find? (fun other => other.key = edge'.key) = some edge'
  flow : edge.flowOrdinal = edge'.flowOrdinal
  index : edge.index ≠ edge'.index
  actors : edge.source = edge'.source ∧ edge.target = edge'.target ∨
    edge.source = edge'.target ∧ edge.target = edge'.source
  apart : ∃ p q, diagram.position? edge'.source = some p ∧
    diagram.position? edge'.target = some q ∧ p ≠ q

namespace Alongside

theorem mem (h : diagram.Alongside edge edge') : edge ∈ diagram.edges :=
  List.mem_of_find?_eq_some h.first

theorem mem' (h : diagram.Alongside edge edge') : edge' ∈ diagram.edges :=
  List.mem_of_find?_eq_some h.first'

theorem flowLength_eq (h : diagram.Alongside edge edge') : edge'.flowLength = edge.flowLength := by
  obtain ⟨flow, hflow, -, -, hlength⟩ := mem_edges h.mem
  obtain ⟨flow', hflow', -, -, hlength'⟩ := mem_edges h.mem'
  rw [h.flow, hflow'] at hflow
  rw [hlength, hlength', Option.some.inj hflow]

/-- The first step goes from one place to another, the second goes the same way or back. -/
theorem positions (h : diagram.Alongside edge edge') :
    ∃ p q, p ≠ q ∧ diagram.position? edge.source = some p ∧ diagram.position? edge.target = some q ∧
      (diagram.position? edge'.source = some p ∧ diagram.position? edge'.target = some q ∧
          edge.source ≠ edge'.target ∨
        diagram.position? edge'.source = some q ∧ diagram.position? edge'.target = some p ∧
          edge.source = edge'.target ∧ edge.target = edge'.source) := by
  obtain ⟨p, q, hp, hq, hne⟩ := h.apart
  rcases h.actors with ⟨hsource, htarget⟩ | ⟨hsource, htarget⟩
  · refine ⟨p, q, hne, hsource ▸ hp, htarget ▸ hq, .inl ⟨hp, hq, fun hloop => ?_⟩⟩
    -- an actor does not stand apart from itself
    rw [← hsource, hloop, hq] at hp
    exact hne (Option.some.inj hp).symm
  · exact ⟨q, p, hne.symm, hsource ▸ hq, htarget ▸ hp, .inr ⟨hp, hq, hsource, htarget⟩⟩

/-- Both steps are drawn. -/
theorem routed (options : RouteOptions ℝ) (h : diagram.Alongside edge edge') :
    (∃ routed ∈ (diagram.route options .empty).2, routed.key = edge.key) ∧
      ∃ routed' ∈ (diagram.route options .empty).2, routed'.key = edge'.key := by
  obtain ⟨p, q, -, hsource, htarget, hends⟩ := h.positions
  refine ⟨exists_routed hsource htarget options .empty h.mem, ?_⟩
  rcases hends with ⟨hsource', htarget', -⟩ | ⟨hsource', htarget', -⟩
  · exact exists_routed hsource' htarget' options .empty h.mem'
  · exact exists_routed hsource' htarget' options .empty h.mem'

theorem control_eq_iff {routed routed' : RoutedEdge ℝ} (h : diagram.Alongside edge edge')
    (hspacing : options.fanSpacing ≠ 0)
    (hrouted : routed ∈ (diagram.route options .empty).2)
    (hrouted' : routed' ∈ (diagram.route options .empty).2)
    (hkey : routed.key = edge.key) (hkey' : routed'.key = edge'.key) :
    routed.control = routed'.control ↔ edge.Mirrors edge' := by
  obtain ⟨p, q, hne, hsource, htarget, hends⟩ := h.positions
  rw [control_of_first hsource htarget h.first hrouted hkey]
  rcases hends with ⟨hsource', htarget', hsame⟩ | ⟨hsource', htarget', hopposite⟩
  · rw [control_of_first hsource' htarget' h.first' hrouted' hkey']
    show Curve.control p q edge.index edge.flowLength options.fanSpacing
      = Curve.control p q edge'.index edge'.flowLength options.fanSpacing ↔ _
    rw [h.flowLength_eq, Curve.control_eq_iff hne hspacing]
    -- these are two steps, neither of which goes back
    constructor
    · intro hindex
      exact absurd hindex h.index
    · intro hmirrors
      exact absurd hmirrors.source hsame
  · rw [control_of_first hsource' htarget' h.first' hrouted' hkey']
    show Curve.control p q edge.index edge.flowLength options.fanSpacing
      = Curve.control q p edge'.index edge'.flowLength options.fanSpacing ↔ _
    rw [h.flowLength_eq, Curve.control_swap_eq_iff hne hspacing]
    constructor
    · intro hindex
      exact ⟨hopposite.1, hopposite.2, hindex⟩
    · intro hmirrors
      exact hmirrors.index

end Alongside

/-- Two steps of a flow between the same actors are drawn through different control points unless
they mirror each other, and through the same one if they do. -/
theorem route_alongside (hspacing : options.fanSpacing ≠ 0) (h : diagram.Alongside edge edge') :
    (∃ routed ∈ (diagram.route options .empty).2, routed.key = edge.key) ∧
      (∃ routed' ∈ (diagram.route options .empty).2, routed'.key = edge'.key) ∧
      ∀ routed ∈ (diagram.route options .empty).2, ∀ routed' ∈ (diagram.route options .empty).2,
        routed.key = edge.key → routed'.key = edge'.key →
          (routed.control = routed'.control ↔ edge.Mirrors edge') := by
  obtain ⟨hrouted, hrouted'⟩ := h.routed options
  refine ⟨hrouted, hrouted', ?_⟩
  intro routed hrouted routed' hrouted' hkey hkey'
  exact h.control_eq_iff hspacing hrouted hrouted' hkey hkey'

/-! ## An exchange -/

/-- The diagram of a story in which A and B stand a hundred apart. -/
noncomputable def exchange (text : String) : Diagram ℝ :=
  ((compose (Story.read .default text).domains .all .empty).diagram.place "A" ⟨0, 0⟩).place "B"
    ⟨100, 0⟩

/-- What A asks and B answers, as one flow. -/
def question : String := "@A (person)\n@B (person)\n## Question\nA asks B\nB answers A"

/-- The edge of a step in the first flow of an exchange. -/
def exchangeEdge (source action target : String) (length index : Nat) : DiagramEdge where
  key := ⟨0, 0, index⟩
  source
  target
  flowOrdinal := 0
  flowNumber := 1
  flowLength := length
  index
  content := ⟨source, action, target, none, none⟩

theorem flowsDistinct_exchange (text : String) : (exchange text).FlowsDistinct := by
  -- placing leaves the flows as they are
  unfold exchange place FlowsDistinct
  exact flowsDistinct_compose (Story.read .default text).domains .all (empty : Diagram ℝ)

theorem alongside_exchange {text ask answer : String} {length : Nat} {rest : List DiagramEdge}
    (hedges : (exchange text).edges
      = exchangeEdge "A" ask "B" length 0 :: exchangeEdge "B" answer "A" length 1 :: rest)
    (hfirst : (exchange text).position? "A" = some ⟨0, 0⟩)
    (hsecond : (exchange text).position? "B" = some ⟨100, 0⟩) :
    (exchange text).Alongside (exchangeEdge "A" ask "B" length 0)
      (exchangeEdge "B" answer "A" length 1) where
  first := find?_edges (flowsDistinct_exchange text) (by simp [hedges])
  first' := find?_edges (flowsDistinct_exchange text) (by simp [hedges])
  flow := rfl
  index := Nat.zero_ne_one
  actors := .inr ⟨rfl, rfl⟩
  apart := ⟨⟨100, 0⟩, ⟨0, 0⟩, hsecond, hfirst, by simp⟩

theorem fanSpacing_default_ne_zero : (RouteOptions.default : RouteOptions ℝ).fanSpacing ≠ 0 := by
  show (50.0 : ℝ) ≠ 0
  norm_num

/-- The question and the answer have curves of their own once a third step follows. -/
theorem route_alongside_thanks :
    (RouteOptions.default : RouteOptions ℝ).fanSpacing ≠ 0 ∧
      (exchange (question ++ "\nA thanks B")).Alongside (exchangeEdge "A" "asks" "B" 3 0)
        (exchangeEdge "B" "answers" "A" 3 1) ∧
      ∃ routed ∈ ((exchange (question ++ "\nA thanks B")).route .default .empty).2,
        ∃ routed' ∈ ((exchange (question ++ "\nA thanks B")).route .default .empty).2,
          routed.key = ⟨0, 0, 0⟩ ∧ routed'.key = ⟨0, 0, 1⟩ ∧ routed.control ≠ routed'.control := by
  have halongside : (exchange (question ++ "\nA thanks B")).Alongside
      (exchangeEdge "A" "asks" "B" 3 0) (exchangeEdge "B" "answers" "A" 3 1) :=
    alongside_exchange rfl rfl rfl
  obtain ⟨⟨routed, hrouted, hkey⟩, ⟨routed', hrouted', hkey'⟩, hcontrols⟩ :=
    route_alongside fanSpacing_default_ne_zero halongside
  refine ⟨fanSpacing_default_ne_zero, halongside, routed, hrouted, routed', hrouted', hkey, hkey',
    fun hsame => ?_⟩
  -- two steps of three do not mirror each other when both come early
  have hmirrors := (hcontrols routed hrouted routed' hrouted' hkey hkey').mp hsame
  exact absurd hmirrors.index (by decide)

/-- Alone, they are drawn through the same control point. -/
theorem question_overlaps :
    (RouteOptions.default : RouteOptions ℝ).fanSpacing ≠ 0 ∧
      (exchange question).Alongside (exchangeEdge "A" "asks" "B" 2 0)
        (exchangeEdge "B" "answers" "A" 2 1) ∧
      ∃ routed ∈ ((exchange question).route .default .empty).2,
        ∃ routed' ∈ ((exchange question).route .default .empty).2,
          routed.key = ⟨0, 0, 0⟩ ∧ routed'.key = ⟨0, 0, 1⟩ ∧ routed.control = routed'.control := by
  have halongside : (exchange question).Alongside (exchangeEdge "A" "asks" "B" 2 0)
      (exchangeEdge "B" "answers" "A" 2 1) := alongside_exchange rfl rfl rfl
  obtain ⟨⟨routed, hrouted, hkey⟩, ⟨routed', hrouted', hkey'⟩⟩ := halongside.routed .default
  refine ⟨fanSpacing_default_ne_zero, halongside, routed, hrouted, routed', hrouted', hkey, hkey',
    ?_⟩
  rw [halongside.control_eq_iff fanSpacing_default_ne_zero hrouted hrouted' hkey hkey']
  exact ⟨rfl, rfl, rfl⟩

end Diagram

end DomainStory
