import LocaleFamilies.Proofs.Translation.Trace

/-! Steps taken one after another until one fails. An attempt at some steps comes to the steps that
were taken and to the one that failed, if one did; the steps after that one are left. Steps that follow
others are tried in the state that those leave, and only if none of them fails. Work on a family that
goes on with an attempt takes over its events, its effect, its new files and its failure. -/
namespace LocaleFamilies

universe u

/-- What goes wrong with a result that is a failure. -/
def Failure.of? {ε α : Type} (failure : ε → Failure) : Except ε α → Option Failure
  | .ok _ => none
  | .error cause => some (failure cause)

namespace Event

/-- Why a step fails in a state, if it does. -/
def failure? {σ : Type u} (storage : Storage σ) (backend : Backend σ) (state : σ) :
    Event → Option Failure
  | .asked request =>
    match request.mode with
    | .create => Failure.of? .backend (backend.create request state).2
    | .update => Failure.of? .backend (backend.update request state).2
  | .prepared directory => Failure.of? (.directory directory) (storage.makeDirectories directory state).2
  | .wrote path content => Failure.of? (.file path) (storage.write path content state).2

def newFile? : Event → Option Path
  | .wrote path _ => some path
  | _ => none

def isRefresh : Event → Bool
  | .asked request => request.mode = .update
  | _ => false

end Event

/-- Steps that were tried. -/
structure Attempt where
  taken : List Event
  stopped : Option (Event × Failure)

namespace Attempt

def events (attempt : Attempt) : List Event :=
  attempt.taken ++ (attempt.stopped.map (·.1)).toList

def failure? (attempt : Attempt) : Option Failure := attempt.stopped.map (·.2)

def created (attempt : Attempt) : List Path := attempt.taken.filterMap Event.newFile?

variable {σ : Type u} (storage : Storage σ) (backend : Backend σ)

def make : List Event → σ → Attempt
  | [], _ => ⟨[], none⟩
  | step :: rest, state =>
    match step.failure? storage backend state with
    | some failure => ⟨[], some (step, failure)⟩
    | none =>
      let later := make rest (step.effect storage backend state)
      ⟨step :: later.taken, later.stopped⟩

variable {storage backend} {step : Event} {steps : List Event} {state : σ}

theorem make_cons_of_failure {failure : Failure}
    (fails : step.failure? storage backend state = some failure) :
    make storage backend (step :: steps) state = ⟨[], some (step, failure)⟩ := by
  simp only [make, fails]

theorem make_cons_of_success (succeeds : step.failure? storage backend state = none) :
    let later := make storage backend steps (step.effect storage backend state)
    make storage backend (step :: steps) state = ⟨step :: later.taken, later.stopped⟩ := by
  simp only [make, succeeds]

theorem make_append_of_stopped {stop : Event × Failure}
    (stopped : (make storage backend steps state).stopped = some stop) (more : List Event) :
    make storage backend (steps ++ more) state = make storage backend steps state := by
  induction steps generalizing state with
  | nil => cases stopped
  | cons step rest ih =>
    rw [List.cons_append]
    cases fails : step.failure? storage backend state with
    | some failure => rw [make_cons_of_failure fails, make_cons_of_failure fails]
    | none =>
      rw [make_cons_of_success fails] at stopped ⊢
      rw [make_cons_of_success fails, ih stopped]

theorem make_append_of_through (through : (make storage backend steps state).stopped = none)
    (more : List Event) :
    let later := make storage backend more (Event.effects storage backend state steps)
    make storage backend (steps ++ more) state = ⟨steps ++ later.taken, later.stopped⟩ := by
  induction steps generalizing state with
  | nil => rfl
  | cons step rest ih =>
    rw [List.cons_append]
    cases fails : step.failure? storage backend state with
    | some failure =>
      rw [make_cons_of_failure fails] at through
      cases through
    | none =>
      rw [make_cons_of_success fails] at through ⊢
      rw [ih through]
      rfl

theorem taken_eq_of_through (through : (make storage backend steps state).stopped = none) :
    (make storage backend steps state).taken = steps := by
  have whole := make_append_of_through through []
  rw [List.append_nil] at whole
  rw [whole]
  exact List.append_nil steps

end Attempt

namespace Work

variable {σ : Type u} (storage : Storage σ) (backend : Backend σ)

/-- Work that goes on with an attempt at some steps. -/
structure Advances (steps : List Event) (before after : Work σ) : Prop where
  state : after.state = Event.effects storage backend before.state
    (Attempt.make storage backend steps before.state).events
  events : after.events = before.events ++ (Attempt.make storage backend steps before.state).events
  created : after.created = before.created ++ (Attempt.make storage backend steps before.state).created
  failure : after.failure = (Attempt.make storage backend steps before.state).failure?

variable {storage backend}

theorem Advances.nil {work : Work σ} (clean : work.failure = none) :
    Advances storage backend [] work work :=
  ⟨rfl, by simp [Attempt.make, Attempt.events], by simp [Attempt.make, Attempt.created], clean⟩

/-- Work goes on with steps after others if the others are taken, and ends with them if one fails. -/
theorem Advances.append {steps more : List Event} {before between after : Work σ}
    (first : Advances storage backend steps before between)
    (second : between.failure = none → Advances storage backend more between after)
    (ended : between.failure ≠ none → after = between) :
    Advances storage backend (steps ++ more) before after := by
  cases stopped : (Attempt.make storage backend steps before.state).stopped with
  | some stop =>
    have failed : between.failure ≠ none := by
      rw [first.failure, Attempt.failure?, stopped]
      simp
    have same := Attempt.make_append_of_stopped stopped more
    rw [ended failed]
    exact ⟨same ▸ first.state, same ▸ first.events, same ▸ first.created, same ▸ first.failure⟩
  | none =>
    have clean : between.failure = none := by
      rw [first.failure, Attempt.failure?, stopped]
      rfl
    have later := second clean
    have taken := Attempt.taken_eq_of_through stopped
    have whole := Attempt.make_append_of_through stopped more
    have through : (Attempt.make storage backend steps before.state).events = steps := by
      simp [Attempt.events, stopped, taken]
    have state := first.state
    rw [through] at state
    refine ⟨?_, ?_, ?_, ?_⟩
    · rw [later.state, whole, state]
      simp [Attempt.events, Event.effects, List.foldl_append]
    · rw [later.events, first.events, through, whole, state]
      simp [Attempt.events]
    · rw [later.created, first.created, whole, state]
      simp [Attempt.created, taken]
    · rw [later.failure, whole, state]
      rfl

theorem Advances.single {step : Event} {before after : Work σ}
    (state : after.state = step.effect storage backend before.state)
    (events : after.events = before.events ++ [step])
    (failure : after.failure = step.failure? storage backend before.state)
    (created : after.created = before.created ++
      if after.failure.isNone then step.newFile?.toList else []) :
    Advances storage backend [step] before after := by
  cases fails : step.failure? storage backend before.state with
  | some cause =>
    have made : Attempt.make storage backend [step] before.state = ⟨[], some (step, cause)⟩ :=
      Attempt.make_cons_of_failure fails
    rw [failure, fails] at created
    refine ⟨?_, ?_, ?_, ?_⟩
    · rw [state, made]; rfl
    · rw [events, made]; rfl
    · rw [created, made]; rfl
    · rw [failure, fails, made]; rfl
  | none =>
    have made : Attempt.make storage backend [step] before.state = ⟨[step], none⟩ :=
      Attempt.make_cons_of_success fails
    rw [failure, fails] at created
    refine ⟨?_, ?_, ?_, ?_⟩
    · rw [state, made]; rfl
    · rw [events, made]; rfl
    · rw [created, made]
      cases newFile : step.newFile? <;> simp [Attempt.created, newFile]
    · rw [failure, fails, made]; rfl

end Work

end LocaleFamilies
