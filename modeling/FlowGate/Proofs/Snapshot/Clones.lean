/-
# Captures behind clones of one filter

The clones of a layer refer to one cell, so for every event the first one that is asked may open a
window and change what the others find. Yet all captures behind them record the same: what a
single filter would have let through. Three steps lead there. What a layer answers and leaves in its
cell is what its filter answers and becomes; so asking several clones about one event is putting one
question to one filter several times. One event then leaves the captures equal, and the shared filter
like the single one. And so does a run.

Who asks the layers, and hands an event on, is not part of a layer. All that is used of it is said
in `Routing.Faithful`: for each event every layer is asked once, in order, and a capture gets the
event exactly when its layer answered yes. That clones refer to one cell is not assumed but follows
from what they copy. The pipelines of this library are one such routing.
-/

import FlowGate.Proofs.Snapshot.Draft
import FlowGate.Proofs.Snapshot.Repeats
import FlowGate.Snapshot.Pipeline

namespace FlowGate.Snapshot

open Config (Cycle)
open Time (ManualClock)

/-! ## Layers and their filters -/

namespace Layer

variable {layer : Layer} {store : Store}

/-- The question that an event puts to a layer. -/
def query (layer : Layer) (event : Event) (store : Store) : Query :=
  ⟨event.target, layer.now store⟩

theorem eventEnabled_eq (layer : Layer) (event : Event) (store : Store) :
    layer.eventEnabled event store =
      (layer.save store ((layer.filterIn store).ask (layer.query event store)).1,
        ((layer.filterIn store).answer (layer.query event store)).passes) := by
  rw [← Filter.ask_snd]
  rfl

/-- What is saved is found again. -/
theorem filterIn_save (present : layer.cell < store.cells.length) {filter : Filter}
    (cycle : filter.sampler.cycle = layer.cycle) (exempt : filter.exempt = layer.exempt)
    (clock : filter.clock = layer.clock) : layer.filterIn (layer.save store filter) = filter := by
  simp [filterIn, save, present, ← cycle, ← exempt, ← clock]

theorem filterIn_save_ask (present : layer.cell < store.cells.length) (query : Query) :
    layer.filterIn (layer.save store ((layer.filterIn store).ask query).1) =
      ((layer.filterIn store).ask query).1 :=
  filterIn_save present (Filter.cycle_ask _ _) (Filter.exempt_ask _ _) (Filter.clock_ask _ _)

theorem filterIn_save_askAll (present : layer.cell < store.cells.length) (queries : List Query) :
    layer.filterIn (layer.save store ((layer.filterIn store).askAll queries).1) =
      ((layer.filterIn store).askAll queries).1 :=
  filterIn_save present (Filter.cycle_askAll _ _) (Filter.exempt_askAll _ _)
    (Filter.clock_askAll _ _)

/-- Saving what is there changes nothing. -/
theorem save_filterIn (present : layer.cell < store.cells.length) :
    layer.save store (layer.filterIn store) = store := by
  have here : store.cells[layer.cell]?.getD {} = store.cells[layer.cell] := by simp [present]
  simp only [save, filterIn, here]
  exact congrArg (fun cells => { store with cells }) (List.set_getElem_self present)

theorem save_save (first second : Filter) :
    layer.save (layer.save store first) second = layer.save store second := by
  simp [save]

theorem present_save (present : layer.cell < store.cells.length) (filter : Filter) :
    layer.cell < (layer.save store filter).cells.length := by
  simpa [save] using present

theorem now_showing (layer : Layer) (store : Store) (instant : UInt64) :
    layer.now (store.showing instant) = instant := by
  cases named : layer.clock with
  | none => simp [now, Store.showing, named]
  | some number =>
      cases here : store.clocks[number]? with
      | none => simp [now, Store.showing, named, here]
      | some clock => simp [now, Store.showing, named, here, ManualClock.set]

end Layer

/-! ## Routing -/

namespace Routing

/-- About each event the layers are asked in order, and none of them decides about a capture that is
not behind it. The layer before a capture is asked once, and the capture gets the event if the layer
has use for events of the kind and answered yes to this one. A capture behind no layer gets every
event, if there is nobody else. -/
structure Faithful (route : Routing) : Prop where
  inOrder (event : Event) (store : Store) (filter : Option Layer)
    (filters : List (Option Layer)) :
    let first := route event store [filter]
    let others := route event first.1 filters
    route event store (filter :: filters) = (others.1, first.2 ++ others.2)
  filtered (event : Event) (store : Store) (layer : Layer) :
    let asked := layer.eventEnabled event store
    route event store [some layer] = (asked.1, [layer.enabled && asked.2])
  unfiltered (event : Event) (store : Store) : route event store [none] = (store, [true])

theorem faithful_inTurn : Faithful inTurn where
  inOrder _ _ filter _ := by
    cases filter with
    | none => rfl
    | some layer => rfl
  filtered _ _ _ := rfl
  unfiltered _ _ := rfl

/-- Clones of a layer and a capture behind none: one question is put to one filter, as often as
there are clones. -/
theorem Faithful.route_clones {route : Routing} (faithful : route.Faithful) (event : Event)
    {layer : Layer} {store : Store} (present : layer.cell < store.cells.length) (clones : Nat) :
    let asked := (layer.filterIn store).askAll (List.replicate clones (layer.query event store))
    route event store (List.replicate clones (some layer.clone) ++ [none]) =
      (layer.save store asked.1, asked.2.map (·.passes) ++ [true]) := by
  induction clones generalizing store with
  | zero =>
      show route event store [none] = (layer.save store (layer.filterIn store), [true])
      rw [faithful.unfiltered, Layer.save_filterIn present]
  | succ clones ih =>
      have shown : ∀ filter, layer.query event (layer.save store filter) =
          layer.query event store := fun _ => rfl
      have rest := ih (layer.present_save present
        ((layer.filterIn store).ask (layer.query event store)).1)
      simp only [shown, Layer.filterIn_save_ask present, Layer.save_save] at rest
      have first := faithful.filtered event store layer.clone
      have copy : layer.clone = layer := rfl
      simp only [copy, Layer.eventEnabled_eq, Layer.enabled, Bool.true_and] at first rest
      rw [List.replicate_succ, List.replicate_succ, List.cons_append, faithful.inOrder, copy, first,
        rest, Filter.askAll_cons]
      rfl

end Routing

/-! ## Arrivals -/

/-- An event and the instant at which it arrives. -/
structure Arrival where
  now : UInt64
  event : Event
  deriving DecidableEq

/-- What a filter is asked about an event that arrives. -/
def Arrival.query (arrival : Arrival) : Query := ⟨arrival.event.target, arrival.now⟩

/-- The record of the events that a single filter lets through, in order. -/
def Filter.letThrough (filter : Filter) : List Arrival → List Recorded
  | [] => []
  | arrival :: arrivals =>
    let (next, answer) := filter.ask arrival.query
    if answer.passes then arrival.event.recorded :: next.letThrough arrivals
    else next.letThrough arrivals

namespace Pipeline

/-- Send an event that arrives, while all clocks show the instant of its arrival. -/
def receive (route : Routing) (pipeline : Pipeline) (arrival : Arrival) : Pipeline :=
  { pipeline with store := pipeline.store.showing arrival.now }.sendBy route arrival.event

/-- Send event after event, each at its instant. -/
def receiveAll (route : Routing) (pipeline : Pipeline) (arrivals : List Arrival) : Pipeline :=
  arrivals.foldl (receive route) pipeline

/-- Where the clock is moved by hand, a run of arrivals is one of the runs that a pipeline carries
out. -/
theorem receiveAll_inTurn {pipeline : Pipeline} (clocked : pipeline.isClocked = true)
    (arrivals : List Arrival) :
    pipeline.receiveAll Routing.inTurn arrivals =
      (pipeline.performAll
        (arrivals.flatMap fun arrival => [.set arrival.now, .event arrival.event])).1 := by
  induction arrivals generalizing pipeline with
  | nil => rfl
  | cons arrival arrivals ih =>
      have set : pipeline.set arrival.now =
          { pipeline with store := pipeline.store.showing arrival.now } := if_pos clocked
      have still : (pipeline.receive Routing.inTurn arrival).isClocked = true := clocked
      rw [receiveAll, List.foldl_cons, ← receiveAll, ih still, receive, ← set]
      rfl

/-! ## Pipelines like a single filter -/

/-- A pipeline with a filter like this one, in which the capture behind the first clone and `more`
others have recorded this, and the one behind no clone has recorded that. -/
structure Mirrors (more : Nat) (pipeline : Pipeline) (one : Filter)
    (capture full : List Recorded) : Prop where
  present : pipeline.layer.cell < pipeline.store.cells.length
  alike : Filter.Alike pipeline.filter one
  acceptable : one.sampler.cycle.Acceptable
  captures : pipeline.captures =
    List.replicate (more + 1) ⟨some pipeline.layer.clone, capture⟩ ++ [⟨none, full⟩]

namespace Mirrors

variable {route : Routing} {more : Nat} {pipeline : Pipeline} {one : Filter}
  {capture full : List Recorded}

theorem present_showing (mirrors : Mirrors more pipeline one capture full) (instant : UInt64) :
    pipeline.layer.cell < (pipeline.store.showing instant).cells.length := mirrors.present

/-- About an event that arrives the shared filter is asked once for every clone. -/
theorem receive_eq (faithful : route.Faithful) (mirrors : Mirrors more pipeline one capture full)
    (arrival : Arrival) :
    let asked := pipeline.filter.askAll (List.replicate (more + 1) arrival.query)
    pipeline.receive route arrival =
      { pipeline with
        store := pipeline.layer.save (pipeline.store.showing arrival.now) asked.1
        captures := List.zipWith (Capture.receive arrival.event) pipeline.captures
          (asked.2.map (·.passes) ++ [true]) } := by
  intro asked
  have query : pipeline.layer.query arrival.event (pipeline.store.showing arrival.now) =
      arrival.query := by
    rw [Layer.query, Layer.now_showing]
    rfl
  have routed := faithful.route_clones arrival.event (mirrors.present_showing arrival.now)
    (more + 1)
  have filters : pipeline.captures.map Capture.filter =
      List.replicate (more + 1) (some pipeline.layer.clone) ++ [none] := by
    simp [mirrors.captures]
  rw [query] at routed
  rw [receive, sendBy, filters, routed]
  rfl

theorem filter_receive (faithful : route.Faithful)
    (mirrors : Mirrors more pipeline one capture full) (arrival : Arrival) :
    (pipeline.receive route arrival).filter =
      (pipeline.filter.askAll (List.replicate (more + 1) arrival.query)).1 := by
  rw [mirrors.receive_eq faithful]
  exact Layer.filterIn_save_askAll (mirrors.present_showing arrival.now) _

/-- Every clone gives the answer of a single filter, and the capture behind none gets the event. -/
theorem captures_receive (faithful : route.Faithful)
    (mirrors : Mirrors more pipeline one capture full) (arrival : Arrival) :
    (pipeline.receive route arrival).captures =
      List.replicate (more + 1)
          ⟨some pipeline.layer.clone,
            if (one.answer arrival.query).passes then arrival.event.recorded :: capture
            else capture⟩ ++
        [⟨none, arrival.event.recorded :: full⟩] := by
  have asked : (pipeline.filter.askAll (List.replicate (more + 1) arrival.query)).2.map (·.passes) =
      List.replicate (more + 1) (one.answer arrival.query).passes := by
    rw [(mirrors.alike.askAll _).1,
      (Filter.askAll_replicate_succ mirrors.acceptable arrival.query more).1]
    simp [List.replicate_succ, Answer.again]
  rw [mirrors.receive_eq faithful]
  show List.zipWith (Capture.receive arrival.event) pipeline.captures _ = _
  rw [asked, mirrors.captures, List.zipWith_append (by simp), List.zipWith_replicate, Nat.min_self]
  rfl

/-- One event leaves the captures behind clones equal and the filter like a single one. -/
theorem receive (faithful : route.Faithful) (mirrors : Mirrors more pipeline one capture full)
    (arrival : Arrival) :
    Mirrors more (pipeline.receive route arrival) (one.ask arrival.query).1
      (if (one.answer arrival.query).passes then arrival.event.recorded :: capture else capture)
      (arrival.event.recorded :: full) where
  present := by
    rw [mirrors.receive_eq faithful]
    exact Layer.present_save (mirrors.present_showing arrival.now) _
  alike := by
    rw [mirrors.filter_receive faithful arrival]
    exact (mirrors.alike.askAll _).2.trans
      (Filter.askAll_replicate_succ mirrors.acceptable arrival.query more).2
  acceptable := by
    rw [Filter.cycle_ask]
    exact mirrors.acceptable
  captures := mirrors.captures_receive faithful arrival

theorem filter_receiveAll (faithful : route.Faithful)
    (mirrors : Mirrors more pipeline one capture full) (arrivals : List Arrival) :
    (pipeline.receiveAll route arrivals).filter =
      (pipeline.filter.askAll
        ((arrivals.map Arrival.query).flatMap (List.replicate (more + 1)))).1 := by
  induction arrivals generalizing pipeline one capture full with
  | nil => rfl
  | cons arrival arrivals ih =>
      rw [receiveAll, List.foldl_cons, ← receiveAll, ih (mirrors.receive faithful arrival),
        mirrors.filter_receive faithful arrival, List.map_cons, List.flatMap_cons,
        Filter.askAll_append]

/-- After a run the shared filter is like the single one. -/
theorem alike_receiveAll (faithful : route.Faithful)
    (mirrors : Mirrors more pipeline one capture full) (arrivals : List Arrival) :
    Filter.Alike (pipeline.receiveAll route arrivals).filter
      (one.askAll (arrivals.map Arrival.query)).1 := by
  rw [mirrors.filter_receiveAll faithful arrivals]
  exact (mirrors.alike.askAll_repeated mirrors.acceptable _ more).2

/-- After a run the shared tally counts the answers of the single filter, repeated. -/
theorem tally_receiveAll (faithful : route.Faithful)
    (mirrors : Mirrors more pipeline one capture full) (arrivals : List Arrival) :
    (pipeline.receiveAll route arrivals).filter.sampler.tally =
      tallied pipeline.filter.sampler.tally
        (Answer.repeated more (one.askAll (arrivals.map Arrival.query)).2) := by
  rw [mirrors.filter_receiveAll faithful arrivals, Filter.tally_askAll,
    (mirrors.alike.askAll_repeated mirrors.acceptable _ more).1]

/-- What is let through is recorded when it arrives. -/
theorem reverse_letThrough_cons (one : Filter) (arrival : Arrival) (arrivals : List Arrival)
    (capture : List Recorded) :
    (one.letThrough (arrival :: arrivals)).reverse ++ capture =
      ((one.ask arrival.query).1.letThrough arrivals).reverse ++
        if (one.answer arrival.query).passes then arrival.event.recorded :: capture
        else capture := by
  by_cases passes : (one.answer arrival.query).passes = true
  · simp [Filter.letThrough, passes]
  · simp [Filter.letThrough, passes]

/-- A run leaves in every capture behind a clone what a single filter lets through, and in the one
behind none all that arrived. -/
theorem captures_receiveAll (faithful : route.Faithful)
    (mirrors : Mirrors more pipeline one capture full) (arrivals : List Arrival) :
    (pipeline.receiveAll route arrivals).captures =
      List.replicate (more + 1)
          ⟨some pipeline.layer.clone, (one.letThrough arrivals).reverse ++ capture⟩ ++
        [⟨none, (arrivals.map (·.event.recorded)).reverse ++ full⟩] := by
  induction arrivals generalizing pipeline one capture full with
  | nil => exact mirrors.captures
  | cons arrival arrivals ih =>
      have same : (pipeline.receive route arrival).layer = pipeline.layer := rfl
      rw [receiveAll, List.foldl_cons, ← receiveAll, ih (mirrors.receive faithful arrival), same,
        reverse_letThrough_cons, List.map_cons, List.reverse_cons, List.append_assoc]
      rfl

end Mirrors

/-- What is recorded behind clones of a layer, and what behind none. -/
theorem captured_of_captures {pipeline : Pipeline} {clones : Nat} {layer : Layer}
    {record full : List Recorded}
    (captures : pipeline.captures =
      List.replicate clones ⟨some layer, record⟩ ++ [⟨none, full⟩]) :
    (∀ clone < clones, pipeline.captured clone = record.reverse) ∧ pipeline.full = full := by
  constructor
  · intro clone present
    have sampled : pipeline.sampled = List.replicate clones record := by
      simp [Pipeline.sampled, captures]
    rw [Pipeline.captured, sampled, List.getElem?_replicate_of_lt present]
    rfl
  · simp [Pipeline.full, captures]

end Pipeline

/-- Let captures stand behind clones of one filter that was built, however many, and one more
capture behind none. Whenever events arrive, and from wherever, all captures behind clones record
just what a single filter would let through, in order, and the other one records everything. The
last window starts where that of the single filter does; the events passed, dropped and exempt are
counted once for every clone; and as many windows are opened, if no event arrives at the last
instant. -/
theorem clones_agree {draft : Draft} {filter : Filter} (built : draft.build = .ok filter)
    {route : Routing} (faithful : route.Faithful) (clocks : List ManualClock) (wall : UInt64)
    {clones : Nat} (positive : 0 < clones) (arrivals : List Arrival) :
    let one := (filter.askAll (arrivals.map Arrival.query)).1.sampler
    let after := (Pipeline.start filter clocks wall clones).receiveAll route arrivals
    let shared := after.filter.sampler
    (∀ clone < clones, after.captured clone = filter.letThrough arrivals) ∧
      after.full.reverse = arrivals.map (·.event.recorded) ∧
      shared.lastStart = one.lastStart ∧
      shared.tally.passed = UInt64.ofNat clones * one.tally.passed ∧
      shared.tally.suppressed = UInt64.ofNat clones * one.tally.suppressed ∧
      shared.tally.exempt = UInt64.ofNat clones * one.tally.exempt ∧
      ((∀ arrival ∈ arrivals, arrival.now < Word.top) →
        shared.tally.opened = one.tally.opened) := by
  intro one after shared
  obtain ⟨acceptable, fresh⟩ : filter.sampler.cycle.Acceptable ∧
      filter.sampler = { cycle := filter.sampler.cycle } := by
    obtain ⟨acceptable, rfl⟩ := (Draft.build_eq_ok_iff draft filter).mp built
    exact ⟨acceptable, rfl⟩
  obtain ⟨more, rfl⟩ := Nat.exists_eq_succ_of_ne_zero (Nat.ne_of_gt positive)
  have mirrors : Pipeline.Mirrors more (Pipeline.start filter clocks wall (more + 1))
      filter [] [] := ⟨Nat.one_pos, Filter.Alike.refl filter, acceptable, rfl⟩
  obtain ⟨captured, full⟩ :=
    Pipeline.captured_of_captures (mirrors.captures_receiveAll faithful arrivals)
  have empty : filter.sampler.tally = {} := by rw [fresh]
  have single : one.tally = tallied {} (filter.askAll (arrivals.map Arrival.query)).2 := by
    rw [← empty]
    exact Filter.tally_askAll filter _
  have counted : shared.tally =
      tallied {} (Answer.repeated more (filter.askAll (arrivals.map Arrival.query)).2) := by
    rw [← empty]
    exact mirrors.tally_receiveAll faithful arrivals
  obtain ⟨passed, suppressed, exempt⟩ :=
    Answer.tallied_repeated more (filter.askAll (arrivals.map Arrival.query)).2
  rw [single, counted]
  refine ⟨fun clone present => ?_, ?_, (mirrors.alike_receiveAll faithful arrivals).lastStart,
    passed, suppressed, exempt, ?_⟩
  · rw [captured clone present, List.append_nil, List.reverse_reverse]
  · rw [full, List.append_nil, List.reverse_reverse]
  · intro below
    have early : ∀ answer ∈ (filter.askAll (arrivals.map Arrival.query)).2,
        answer.query.now < Word.top := by
      intro answer given
      obtain ⟨query, listed, there, rfl⟩ := Filter.exists_of_mem_askAll given
      obtain ⟨arrival, among, rfl⟩ := List.mem_map.mp listed
      rw [Filter.query_answer]
      exact below arrival among
    simp only [tallied, Answer.countP_opens_repeated more early]

/-- An event from each of three targets, of which one is exempt, and one from the first target when
the next window is due. -/
def auditedArrivals : List Arrival :=
  [⟨1000, ⟨.info, "app", .plain "first"⟩⟩, ⟨1500, ⟨.info, "app::audit", .number 7⟩⟩,
    ⟨1500, ⟨.warn, "db", .quoted "slow"⟩⟩, ⟨2000, ⟨.info, "app", .absent⟩⟩]

/-- Three clones, asked in turn. For the first and the last event the first clone opens a window and
the others find it open. -/
theorem clones_agree_auditedArrivals :
    let draft : Draft := { cycle := ⟨100, 1000⟩, exempt := ["app::audit"], clock := some 0 }
    let filter : Filter :=
      { sampler := { cycle := ⟨100, 1000⟩ }, exempt := ["app::audit"], clock := some 0 }
    let one := (filter.askAll (auditedArrivals.map Arrival.query)).1.sampler
    let after :=
      (Pipeline.start filter [{ now := 0 }] 0 3).receiveAll Routing.inTurn auditedArrivals
    let shared := after.filter.sampler
    draft.build = .ok filter ∧
      filter.letThrough auditedArrivals =
        [⟨.info, "app", "first"⟩, ⟨.info, "app::audit", "7"⟩, ⟨.info, "app", ""⟩] ∧
      (∀ clone < 3, after.captured clone = filter.letThrough auditedArrivals) ∧
      after.full.reverse = auditedArrivals.map (·.event.recorded) ∧
      one.tally = ⟨2, 1, 1, 2⟩ ∧
      shared.tally.passed = 3 * one.tally.passed ∧
      shared.tally.opened = one.tally.opened := by
  intro draft filter one after shared
  have built : draft.build = .ok filter := rfl
  have below : ∀ arrival ∈ auditedArrivals, arrival.now < Word.top := by decide
  have agree := clones_agree built Routing.faithful_inTurn [{ now := 0 }] 0 (by decide : 0 < 3)
    auditedArrivals
  extract_lets at agree
  obtain ⟨captured, full, -, passed, -, -, opened⟩ := agree
  have three : UInt64.ofNat 3 = 3 := rfl
  rw [three] at passed
  exact ⟨built, by decide +kernel, captured, full, by decide +kernel, passed, opened below⟩

end FlowGate.Snapshot
