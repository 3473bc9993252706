import LocaleFamilies.Proofs.Translation.Attempt

/-! The script of a plan. The plan of a family and the content that the backend gives for it settle what
is to be done: new content is asked for, what there is of it is put at the planned places, and the
existing files are brought up to date. A plan is executed by an attempt at its script, so the work on a
family ends with the first step that fails. -/
namespace LocaleFamilies

universe u
variable {σ : Type u}

/-- The warnings that content calls for, when it is asked for some targets: one for each target that
it is missing for, then one for each locale that is no target's. -/
def Warning.due (backend : String) (targets : List Target) (content : Content) : List Warning :=
  (targets.filter fun target => !content.contains target.locale).map
      (fun target => .noContent backend target.locale) ++
    (content.keys.filter fun locale => locale ∉ targets.map (·.locale)).map (.unrequested backend)

/-- From names without quotes, what a warning is about is read back from its message. -/
theorem Warning.parts_message {backend : String} {locale : Code} (plain : '\'' ∉ backend.toList)
    (plain' : '\'' ∉ locale.toList) :
    Separated.parts '\'' (noContent backend locale).message.toList =
        ["backend ".toList, backend.toList, " returned no content for ".toList, locale.toList, []] ∧
      Separated.parts '\'' (unrequested backend locale).message.toList =
        ["backend ".toList, backend.toList, " returned unrequested locale ".toList, locale.toList,
          ", ignored".toList] := by
  -- Both messages are their parts with quotes between.
  constructor
  · have whole : (noContent backend locale).message.toList = Separated.join '\'' ["backend ".toList,
        backend.toList, " returned no content for ".toList, locale.toList, []] := by
      simp [message, Separated.join]
    rw [whole, Separated.parts_join _ (by simp) (by simp [plain, plain'])]
  · have whole : (unrequested backend locale).message.toList = Separated.join '\'' ["backend ".toList,
        backend.toList, " returned unrequested locale ".toList, locale.toList, ", ignored".toList] := by
      simp [message, Separated.join]
    rw [whole, Separated.parts_join _ (by simp) (by simp [plain, plain'])]

namespace Plan

/-- A request about some of the targets, with their locales and names in the order of the targets. -/
def inquiry (plan : Plan) (registry : Registry) (mode : Mode) (files : List Path)
    (targets : List Target) : Request where
  mode := mode
  files := files
  sourceLocale := plan.source.locale
  sourceName := registry.nameOf plan.source.locale
  targetLocales := targets.map (·.locale)
  targetNames := targets.map fun target => registry.nameOf target.locale

def opening (plan : Plan) (registry : Registry) : List Event :=
  if plan.create.isEmpty then []
  else [.asked (plan.inquiry registry .create [plan.source.path] plan.create)]

def placement (path : Path) (content : String) : List Event :=
  (path.parent?.map .prepared).toList ++ [.wrote path content]

def placements (targets : List Target) (content : Content) : List Event :=
  targets.flatMap fun target =>
    match content.get? target.locale with
    | none => []
    | some text => placement target.path text

def closing (plan : Plan) (registry : Registry) : List Event :=
  if plan.update.isEmpty then []
  else [.asked (plan.inquiry registry .update (plan.source.path :: plan.update.map (·.path))
    plan.update)]

def script (plan : Plan) (registry : Registry) (content : Content) : List Event :=
  plan.opening registry ++ placements plan.create content ++ plan.closing registry

/-- The content that a backend gives for the locales to be created; none if it fails or is not asked. -/
def answer (plan : Plan) (backend : Backend σ) (registry : Registry) (state : σ) : Content :=
  if plan.create.isEmpty then .empty
  else
    match (backend.create (plan.inquiry registry .create [plan.source.path] plan.create) state).2 with
    | .ok content => content
    | .error _ => .empty

section Attempt

variable (plan : Plan) (storage : Storage σ) (backend : Backend σ) (registry : Registry) (state : σ)

def attempt : Attempt :=
  .make storage backend (plan.script registry (plan.answer backend registry state)) state

def outcome : Outcome :=
  let attempt := plan.attempt storage backend registry state
  match attempt.stopped with
  | some (_, failure) => .failed plan attempt.created failure.message
  | none =>
    .applied plan attempt.created (attempt.taken.any Event.isRefresh)
      ((Warning.due backend.name plan.create (plan.answer backend registry state)).map (·.message))

end Attempt

end Plan

namespace Work

variable {storage : Storage σ} {backend : Backend σ}

private def prepare (storage : Storage σ) (directory : Path) (work : Work σ) : Work σ :=
  let (state, result) := storage.makeDirectories directory work.state
  { work with
    state := state
    events := work.events ++ [.prepared directory]
    failure := Failure.of? (.directory directory) result }

private def put (storage : Storage σ) (path : Path) (content : String) (work : Work σ) : Work σ :=
  let (state, result) := storage.write path content work.state
  { work with
    state := state
    events := work.events ++ [.wrote path content]
    created := if result.isOk then work.created ++ [path] else work.created
    failure := Failure.of? (.file path) result }

private theorem write_eq (path : Path) (content : String) {work : Work σ}
    (clean : work.failure = none) :
    work.write storage path content =
      match path.parent? with
      | none => work.put storage path content
      | some directory =>
        let prepared := work.prepare storage directory
        if prepared.failure.isSome then prepared else prepared.put storage path content := by
  unfold write
  cases path.parent? with
  | none =>
    rcases written : storage.write path content work.state with ⟨state, cause | done⟩ <;>
      simp [put, clean, written, Failure.of?, Except.isOk, Except.toBool]
  | some directory =>
    rcases made : storage.makeDirectories directory work.state with ⟨state, cause | done⟩
    · simp [prepare, made, Failure.of?]
    · rcases written : storage.write path content state with ⟨state, cause | done⟩ <;>
        simp [prepare, put, made, written, Failure.of?, Except.isOk, Except.toBool]

private theorem advances_prepare (directory : Path) (work : Work σ) :
    Advances storage backend [.prepared directory] work (work.prepare storage directory) := by
  refine .single rfl rfl rfl ?_
  simp [prepare, Event.newFile?]

private theorem advances_put (path : Path) (content : String) (work : Work σ) :
    Advances storage backend [.wrote path content] work (work.put storage path content) := by
  refine .single rfl rfl rfl ?_
  rcases written : storage.write path content work.state with ⟨state, cause | done⟩ <;>
    simp [put, written, Failure.of?, Except.isOk, Except.toBool, Event.newFile?]

theorem advances_write (path : Path) (content : String) {work : Work σ}
    (clean : work.failure = none) :
    Advances storage backend (Plan.placement path content) work (work.write storage path content) := by
  rw [write_eq path content clean, Plan.placement]
  cases path.parent? with
  | none => exact advances_put path content work
  | some directory =>
    refine (advances_prepare directory work).append (fun made => ?_) (fun failed => ?_)
    · simp only [made, Option.isSome_none]
      exact advances_put path content _
    · simp only [Option.isSome_iff_ne_none.mpr failed, if_true]

theorem warnings_write (path : Path) (content : String) {work : Work σ}
    (clean : work.failure = none) : (work.write storage path content).warnings = work.warnings := by
  rw [write_eq path content clean]
  cases path.parent? with
  | none => rfl
  | some directory =>
    simp only
    split <;> rfl

end Work

section Content

variable {target : Target} {targets : List Target} {content : Content}

/-- The other targets get the same once the content for one target is taken out. -/
private theorem Plan.placements_erase (other : target.locale ∉ targets.map (·.locale)) :
    placements targets (content.erase target.locale) = placements targets content := by
  refine List.flatMap_congr fun later member => ?_
  have apart : later.locale ≠ target.locale := fun same =>
    other (same ▸ List.mem_map_of_mem member)
  rw [SortedMap.get?_erase_of_ne content apart]

private theorem Warning.due_missing (backend : String)
    (missing : content.get? target.locale = none) :
    due backend (target :: targets) content =
      .noContent backend target.locale :: due backend targets content := by
  have absent : target.locale ∉ content.keys := by
    rw [SortedMap.mem_keys_iff, missing]
    simp
  have keys : (content.keys.filter fun locale => locale ∉ (target :: targets).map (·.locale)) =
      content.keys.filter fun locale => locale ∉ targets.map (·.locale) := by
    refine List.filter_congr fun locale member => ?_
    have apart : locale ≠ target.locale := fun same => absent (same ▸ member)
    simp [apart]
  have lacks : content.contains target.locale = false := by
    rw [SortedMap.contains, missing]
    rfl
  rw [due, keys, List.filter_cons_of_pos (by simp [lacks])]
  rfl

private theorem Warning.due_found (backend : String) {text : String}
    (found : content.get? target.locale = some text)
    (other : target.locale ∉ targets.map (·.locale)) :
    due backend (target :: targets) content =
      due backend targets (content.erase target.locale) := by
  have holds : content.contains target.locale = true := by
    rw [SortedMap.contains, found]
    rfl
  have missing : (targets.filter fun later => !(content.erase target.locale).contains later.locale) =
      targets.filter fun later => !content.contains later.locale := by
    refine List.filter_congr fun later member => ?_
    have apart : later.locale ≠ target.locale := fun same =>
      other (same ▸ List.mem_map_of_mem member)
    rw [SortedMap.contains, SortedMap.get?_erase_of_ne content apart, SortedMap.contains]
  have keys : ((content.erase target.locale).keys.filter fun locale =>
      locale ∉ targets.map (·.locale)) =
        content.keys.filter fun locale => locale ∉ (target :: targets).map (·.locale) := by
    rw [SortedMap.keys_erase, List.filter_filter]
    refine List.filter_congr fun locale _ => ?_
    rw [Bool.eq_iff_iff]
    simp [and_comm]
  rw [due, due, keys, missing, List.filter_cons_of_neg (by simp [holds])]

end Content

namespace Work

variable {storage : Storage σ} {backend : Backend σ}

theorem advances_place (name : String) {targets : List Target}
    (distinct : (targets.map (·.locale)).Nodup) (content : Content) {work : Work σ}
    (clean : work.failure = none) :
    Advances storage backend (Plan.placements targets content) work
      (place storage name targets content work) := by
  induction targets generalizing content work with
  | nil => exact ⟨rfl, (Advances.nil clean).events, (Advances.nil clean).created, clean⟩
  | cons target rest ih =>
    obtain ⟨other, distinct⟩ := List.nodup_cons.mp distinct
    unfold place Plan.placements
    rw [List.flatMap_cons]
    cases found : content.get? target.locale with
    | none =>
      let warned : Work σ := { work with
        warnings := work.warnings ++ [.noContent name target.locale] }
      have later : Advances storage backend (Plan.placements rest content) warned
          (place storage name rest content warned) := ih distinct content clean
      exact ⟨later.state, later.events, later.created, later.failure⟩
    | some text =>
      have written : Advances storage backend (Plan.placement target.path text) work
          (work.write storage target.path text) := advances_write target.path text clean
      refine written.append (fun clean => ?_) (fun failed => ?_)
      · simp only [clean]
        have later := ih distinct (content.erase target.locale) clean
        rw [Plan.placements_erase other] at later
        exact later
      · simp only [Option.isSome_iff_ne_none.mpr failed, if_true]

theorem warnings_place (name : String) {targets : List Target}
    (distinct : (targets.map (·.locale)).Nodup) (content : Content) {work : Work σ}
    (clean : work.failure = none) (placed : (place storage name targets content work).failure = none) :
    (place storage name targets content work).warnings =
      work.warnings ++ Warning.due name targets content := by
  induction targets generalizing content work with
  | nil => simp [place, Warning.due]
  | cons target rest ih =>
    obtain ⟨other, distinct⟩ := List.nodup_cons.mp distinct
    unfold place at placed ⊢
    cases found : content.get? target.locale with
    | none =>
      simp only [found] at placed ⊢
      let warned : Work σ := { work with
        warnings := work.warnings ++ [.noContent name target.locale] }
      have later : (place storage name rest content warned).warnings =
          warned.warnings ++ Warning.due name rest content := ih distinct content clean placed
      rw [later, Warning.due_missing name found, List.append_assoc]
      rfl
    | some text =>
      simp only [found] at placed ⊢
      cases failure : (work.write storage target.path text).failure with
      | some cause => simp [failure] at placed
      | none =>
        simp only [failure, Option.isSome_none] at placed ⊢
        rw [Warning.due_found name found other, ← warnings_write target.path text clean]
        exact ih distinct (content.erase target.locale) failure placed

end Work

section Requests

variable (plan : Plan) (registry : Registry)

theorem Plan.creation_eq :
    plan.creation registry = plan.inquiry registry .create [plan.source.path] plan.create := by
  simp [creation, request, inquiry, createLocales]

theorem Plan.refresh_eq : plan.refresh registry =
    plan.inquiry registry .update (plan.source.path :: plan.update.map (·.path)) plan.update := by
  simp [refresh, request, inquiry, updateLocales]

variable {plan} {storage : Storage σ} {backend : Backend σ} {work : Work σ}

namespace Work

variable (clean : work.failure = none)

include clean

theorem advances_create (distinct : plan.createLocales.Nodup) :
    Advances storage backend (plan.opening registry ++
        Plan.placements plan.create (plan.answer backend registry work.state)) work
      (work.create storage backend registry plan) := by
  rw [create, Plan.opening, Plan.answer]
  cases none : plan.create.isEmpty with
  | true =>
    rw [List.isEmpty_iff.mp none]
    exact .nil clean
  | false =>
    rw [if_neg Bool.false_ne_true, if_neg Bool.false_ne_true, if_neg Bool.false_ne_true,
      plan.creation_eq registry]
    have mode : (plan.inquiry registry .create [plan.source.path] plan.create).mode = .create := rfl
    generalize plan.inquiry registry .create [plan.source.path] plan.create = request at mode ⊢
    rcases answered : backend.create request work.state with ⟨state, cause | content⟩
    · have asked : Advances storage backend [.asked request] work
          { work with
            state := state
            events := work.events ++ [.asked request]
            failure := some (.backend cause) } := by
        refine .single ?_ rfl ?_ ?_ <;>
          simp [mode, answered, Event.effect, Event.failure?, Failure.of?]
      simp only [answered]
      refine asked.append (fun through => ?_) fun _ => rfl
      cases through
    · have asked : Advances storage backend [.asked request] work
          { work with state := state, events := work.events ++ [.asked request] } := by
        refine .single ?_ rfl ?_ ?_ <;>
          simp [mode, answered, clean, Event.effect, Event.failure?, Failure.of?, Event.newFile?]
      simp only [answered]
      exact asked.append (fun _ => advances_place backend.name distinct content clean)
        fun failed => absurd clean failed

theorem warnings_create (distinct : plan.createLocales.Nodup)
    (created : (work.create storage backend registry plan).failure = none) :
    (work.create storage backend registry plan).warnings = work.warnings ++
      Warning.due backend.name plan.create (plan.answer backend registry work.state) := by
  rw [create] at created ⊢
  rw [Plan.answer]
  cases none : plan.create.isEmpty with
  | true =>
    simp [List.isEmpty_iff.mp none, Warning.due, SortedMap.empty, SortedMap.keys]
  | false =>
    rw [none, if_neg Bool.false_ne_true, plan.creation_eq registry] at created
    rw [if_neg Bool.false_ne_true, if_neg Bool.false_ne_true, plan.creation_eq registry]
    generalize plan.inquiry registry .create [plan.source.path] plan.create = request at created ⊢
    rcases answered : backend.create request work.state with ⟨state, cause | content⟩
    · simp [answered] at created
    · simp only [answered] at created ⊢
      exact warnings_place backend.name distinct content clean created

theorem advances_update :
    Advances storage backend (plan.closing registry) work (work.update backend registry plan) := by
  rw [update, Plan.closing]
  cases none : plan.update.isEmpty with
  | true =>
    simp only [Bool.or_true, if_true]
    exact .nil clean
  | false =>
    rw [if_neg Bool.false_ne_true, if_neg (by simp [clean]), plan.refresh_eq registry]
    have mode : (plan.inquiry registry .update (plan.source.path :: plan.update.map (·.path))
      plan.update).mode = .update := rfl
    generalize plan.inquiry registry .update (plan.source.path :: plan.update.map (·.path))
      plan.update = request at mode ⊢
    rcases answered : backend.update request work.state with ⟨state, cause | done⟩ <;>
      refine .single ?_ ?_ ?_ ?_ <;>
        simp [mode, answered, clean, Event.effect, Event.failure?, Failure.of?, Event.newFile?]

omit clean in
theorem warnings_update : (work.update backend registry plan).warnings = work.warnings := by
  rw [update]
  split
  · rfl
  · simp only
    split <;> rfl

end Work

end Requests

namespace Plan

variable (plan : Plan) (storage : Storage σ) (backend : Backend σ) (registry : Registry) (state : σ)

private theorem any_isRefresh_script (content : Content) :
    (plan.script registry content).any Event.isRefresh = !plan.update.isEmpty := by
  have opening : (plan.opening registry).any Event.isRefresh = false := by
    unfold opening
    split <;> simp [inquiry, Event.isRefresh]
  have placements : (placements plan.create content).any Event.isRefresh = false := by
    rw [List.any_eq_false]
    intro event member
    obtain ⟨target, -, placed⟩ := List.mem_flatMap.mp member
    split at placed
    · cases placed
    · rcases List.mem_append.mp placed with made | wrote
      · obtain ⟨directory, -, rfl⟩ := Option.map_eq_some_iff.mp (Option.mem_toList.mp made)
        simp [Event.isRefresh]
      · rw [List.mem_singleton.mp wrote]
        simp [Event.isRefresh]
  rw [script, List.any_append, List.any_append, opening, placements, closing]
  cases plan.update.isEmpty <;> simp [inquiry, Event.isRefresh]

variable {plan} in
/-- A plan that names each locale once is executed by an attempt at its script. -/
theorem execute_eq (distinct : plan.createLocales.Nodup) :
    let work := plan.execute storage backend registry state
    let attempt := plan.attempt storage backend registry state
    work.events = attempt.events ∧
      work.state = Event.effects storage backend state attempt.events ∧
      work.outcome plan = plan.outcome storage backend registry state := by
  intro work attempt
  have fresh : (Work.start state).failure = none := rfl
  have created : Work.Advances storage backend
      (plan.opening registry ++ placements plan.create (plan.answer backend registry state))
      (.start state) ((Work.start state).create storage backend registry plan) :=
    Work.advances_create registry fresh distinct
  have ended (failed : ((Work.start state).create storage backend registry plan).failure ≠ none) :
      work = (Work.start state).create storage backend registry plan := by
    show Work.update backend registry plan _ = _
    rw [Work.update, if_pos (by simp [Option.isSome_iff_ne_none.mpr failed])]
  have executed : Work.Advances storage backend
      (plan.script registry (plan.answer backend registry state)) (.start state) work :=
    created.append (fun clean => Work.advances_update registry clean) ended
  have failure : work.failure = (plan.attempt storage backend registry state).failure? :=
    executed.failure
  refine ⟨executed.events, executed.state, ?_⟩
  rw [Work.outcome, outcome, show work.created = attempt.created from executed.created, failure,
    Attempt.failure?]
  cases stopped : (plan.attempt storage backend registry state).stopped with
  | some stop => rfl
  | none =>
    rw [Attempt.failure?, stopped] at failure
    have clean : ((Work.start state).create storage backend registry plan).failure = none := by
      by_contra failed
      exact failed (ended failed ▸ failure)
    have taken : (plan.attempt storage backend registry state).taken =
        plan.script registry (plan.answer backend registry state) :=
      Attempt.taken_eq_of_through stopped
    have warned : work.warnings =
        Warning.due backend.name plan.create (plan.answer backend registry state) :=
      (Work.warnings_update registry).trans (Work.warnings_create registry fresh distinct clean)
    simp only [Option.map_none, taken, any_isRefresh_script, warned]
    rfl

end Plan

end LocaleFamilies
