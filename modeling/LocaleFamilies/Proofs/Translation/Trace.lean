import LocaleFamilies.Proofs.Translation.Plans

/-! The events of a pass tell its whole effect. The state after a pass is the one that its events make
of the state before, one after another, and each event belongs to a plan of the pass: a request for
it, or a new file of it with the directory for the file. -/
namespace LocaleFamilies

universe u
variable {σ : Type u}

def Event.effect (storage : Storage σ) (backend : Backend σ) (state : σ) : Event → σ
  | .asked request =>
    match request.mode with
    | .create => (backend.create request state).1
    | .update => (backend.update request state).1
  | .prepared directory => (storage.makeDirectories directory state).1
  | .wrote path content => (storage.write path content state).1

def Event.effects (storage : Storage σ) (backend : Backend σ) (state : σ) (events : List Event) : σ :=
  events.foldl (effect storage backend) state

/-- Whether an event may happen under a plan. -/
inductive Plan.Allows (registry : Registry) (plan : Plan) : Event → Prop
  | creation : plan.Allows registry (.asked (plan.creation registry))
  | refresh : plan.Allows registry (.asked (plan.refresh registry))
  | prepared {target directory} : target ∈ plan.create → target.path.parent? = some directory →
    plan.Allows registry (.prepared directory)
  | wrote {target content} : target ∈ plan.create → plan.Allows registry (.wrote target.path content)

section Steps

variable {storage : Storage σ} {backend : Backend σ} {allowed : Event → Prop}

/-- The step from one point of a run to a later one: some allowed events, and their effect. -/
def Follows (storage : Storage σ) (backend : Backend σ) (allowed : Event → Prop)
    (before after : σ × List Event) : Prop :=
  ∃ more, after.2 = before.2 ++ more ∧ after.1 = Event.effects storage backend before.1 more ∧
    ∀ event ∈ more, allowed event

theorem Follows.refl (point : σ × List Event) : Follows storage backend allowed point point :=
  ⟨[], by simp, rfl, by simp⟩

theorem Follows.trans {first second third : σ × List Event}
    (left : Follows storage backend allowed first second)
    (right : Follows storage backend allowed second third) :
    Follows storage backend allowed first third := by
  obtain ⟨more, events, state, all⟩ := left
  obtain ⟨more', events', state', all'⟩ := right
  refine ⟨more ++ more', by rw [events', events, List.append_assoc], ?_, ?_⟩
  · rw [state', state, Event.effects, Event.effects, Event.effects, List.foldl_append]
  · intro event member
    rcases List.mem_append.mp member with inside | inside
    · exact all event inside
    · exact all' event inside

theorem Follows.single {state : σ} {events : List Event} {event : Event} (permitted : allowed event) :
    Follows storage backend allowed (state, events)
      (event.effect storage backend state, events ++ [event]) :=
  ⟨[event], rfl, rfl, by simpa using permitted⟩

theorem Follows.mono {allowed' : Event → Prop} {before after : σ × List Event}
    (follows : Follows storage backend allowed before after)
    (wider : ∀ event, allowed event → allowed' event) :
    Follows storage backend allowed' before after := by
  obtain ⟨more, events, state, all⟩ := follows
  exact ⟨more, events, state, fun event member => wider event (all event member)⟩

end Steps

namespace Work

variable (storage : Storage σ) (backend : Backend σ) (registry : Registry) (plan : Plan)

def point (work : Work σ) : σ × List Event := (work.state, work.events)

private theorem follows_write {target : Target} (member : target ∈ plan.create) (content : String)
    (work : Work σ) : Follows storage backend (plan.Allows registry) work.point
      (work.write storage target.path content).point := by
  have written (state : σ) (events : List Event) :
      Follows storage backend (plan.Allows registry) (state, events)
        ((storage.write target.path content state).1, events ++ [.wrote target.path content]) :=
    Follows.single (.wrote member)
  unfold write
  cases parent : target.path.parent? with
  | none =>
    simp only
    split
    · exact .refl _
    · split
      · exact written _ _
      · exact written _ _
  | some directory =>
    have made : Follows storage backend (plan.Allows registry) work.point
        ((storage.makeDirectories directory work.state).1, work.events ++ [.prepared directory]) :=
      Follows.single (.prepared member parent)
    simp only
    split
    · rw [if_neg (by simp)]
      split
      · exact made.trans (written _ _)
      · exact made.trans (written _ _)
    · exact made

private theorem follows_place {targets : List Target}
    (members : ∀ target ∈ targets, target ∈ plan.create) (name : String) (content : Content)
    (work : Work σ) : Follows storage backend (plan.Allows registry) work.point
      (place storage name targets content work).point := by
  induction targets generalizing content work with
  | nil => exact .refl _
  | cons target rest ih =>
    have later := ih fun other member => members other (List.mem_cons_of_mem _ member)
    have here := members target List.mem_cons_self
    unfold place
    cases content.get? target.locale with
    | none => exact later content { work with warnings := _ }
    | some text =>
      have written := follows_write storage backend registry plan here text work
      simp only
      split
      · exact written
      · exact written.trans (later _ _)

private theorem follows_create (work : Work σ) : Follows storage backend (plan.Allows registry)
    work.point (work.create storage backend registry plan).point := by
  unfold create
  split
  · exact .refl _
  · have asked : Follows storage backend (plan.Allows registry) work.point
        ((backend.create (plan.creation registry) work.state).1,
          work.events ++ [.asked (plan.creation registry)]) :=
      Follows.single .creation
    simp only
    split
    · exact asked.trans (follows_place storage backend registry plan (fun _ member => member) _ _ _)
    · exact asked

private theorem follows_update (work : Work σ) : Follows storage backend (plan.Allows registry)
    work.point (work.update backend registry plan).point := by
  unfold update
  split
  · exact .refl _
  · have asked : Follows storage backend (plan.Allows registry) work.point
        ((backend.update (plan.refresh registry) work.state).1,
          work.events ++ [.asked (plan.refresh registry)]) :=
      Follows.single .refresh
    simp only
    split
    · exact asked
    · exact asked

theorem follows_execute (state : σ) : Follows storage backend (plan.Allows registry) (state, [])
    (plan.execute storage backend registry state).point :=
  (follows_create storage backend registry plan (start state)).trans
    (follows_update storage backend registry plan _)

end Work

namespace Progress

variable (storage : Storage σ) (backend : Backend σ) (registry : Registry)

def point (progress : Progress σ) : σ × List Event := (progress.state, progress.events)

private theorem plan_of_dryOutcome {decision : Decision} {plan : Plan}
    (planned : decision.dryOutcome = .planned plan) : decision.plan = some plan := by
  unfold Decision.dryOutcome at planned
  split at planned
  · cases planned
  · rename_i found _
    cases planned
    exact found
  · cases planned

private theorem follows_step (progress : Progress σ) (decision : Decision) :
    Follows storage backend (fun event => ∃ plan, decision.plan = some plan ∧ plan.Allows registry event)
      progress.point (progress.step storage backend registry decision).point := by
  unfold step
  split
  · rename_i plan planned
    obtain ⟨more, events, state, all⟩ := Work.follows_execute storage backend registry plan progress.state
    refine ⟨more, ?_, state, fun event member => ⟨plan, plan_of_dryOutcome planned, all event member⟩⟩
    exact congrArg (progress.events ++ ·) events
  · exact .refl _

theorem follows_steps (decisions : List Decision) (progress : Progress σ) :
    Follows storage backend
      (fun event => ∃ decision ∈ decisions, ∃ plan, decision.plan = some plan ∧
        plan.Allows registry event)
      progress.point (decisions.foldl (step storage backend registry) progress).point := by
  induction decisions generalizing progress with
  | nil => exact .refl _
  | cons decision rest ih =>
    refine ((follows_step storage backend registry progress decision).mono ?_).trans
      ((ih (progress.step storage backend registry decision)).mono ?_)
    · exact fun event here => ⟨decision, List.mem_cons_self, here⟩
    · exact fun event ⟨other, member, later⟩ => ⟨other, List.mem_cons_of_mem _ member, later⟩

end Progress

/-- A pass does what its events do, and each event belongs to a plan of the pass. -/
theorem Project.follows_apply (project : Project) (scan : Scan) (storage : Storage σ)
    (backend : Backend σ) (state : σ) :
    Follows storage backend (fun event =>
        ∃ plan ∈ (project.discover scan).plans project.registry project.changes,
          plan.Allows project.registry event)
      (state, []) (project.apply scan storage backend state).1.point := by
  refine (Progress.follows_steps storage backend project.registry (project.decisions scan)
    ⟨state, [], []⟩).mono ?_
  rintro event ⟨decision, decided, plan, planned, allows⟩
  exact ⟨plan, List.mem_filterMap.mpr ⟨decision, decided, planned⟩, allows⟩

end LocaleFamilies
