import LocaleFamilies.Proofs.Json.RoundTrip
import LocaleFamilies.Translation.Program
import Mathlib.Data.Set.List

/-! The written form of requests. A request has one if all its paths are text, and from it the request is
read back as it was, with every string as it is spelled and every list in its order. Without one the
program is not started. -/
namespace LocaleFamilies

theorem Path.text?_spelling_eq_some_iff (path : Path) (text : String) :
    Bytes.text? path.spelling = some text ↔ path = ofText text := by
  constructor
  · intro read
    rw [ofText, Bytes.ofText_of_text? read]
  · rintro rfl
    exact Bytes.text?_ofText text

namespace Request

open Json

variable (request : Request)

/-- The texts of paths, if they have them all, are what the paths are made of. -/
theorem texts?_eq_some_iff (paths : List Path) (texts : List String) :
    paths.mapM (fun path => Bytes.text? path.spelling) = some texts ↔
      paths = texts.map Path.ofText := by
  induction paths generalizing texts with
  | nil =>
    rw [List.mapM_nil, List.nil_eq, List.map_eq_nil_iff]
    exact Option.some_inj.trans eq_comm
  | cons path rest ih =>
    rw [eq_comm (b := texts.map Path.ofText), List.map_eq_cons_iff]
    simp only [List.mapM_cons, Option.bind_eq_bind, Option.bind_eq_some_iff, Option.pure_def,
      Option.some.injEq, Path.text?_spelling_eq_some_iff, ih]
    constructor
    · rintro ⟨text, rfl, others, rfl, rfl⟩
      exact ⟨text, others, rfl, rfl, rfl⟩
    · rintro ⟨text, others, rfl, rfl, rfl⟩
      exact ⟨text, rfl, others, rfl, rfl⟩

def document (files : List String) : Value :=
  .object [("mode", .string request.mode.name), ("files", .list (files.map .string)),
    ("sourceLocale", .string request.sourceLocale),
    ("sourceLocaleName", .string request.sourceName),
    ("targetLocales", .list (request.targetLocales.map .string)),
    ("targetLocaleNames", .list (request.targetNames.map .string))]

theorem render?_eq_some_iff (text : String) :
    request.render? = some text ↔ ∃ files, request.files = files.map Path.ofText ∧
      text = Json.render .compact (request.document files) := by
  unfold render? value?
  simp only [Option.map_eq_some_iff, Option.bind_eq_bind, Option.bind_eq_some_iff, Option.pure_def,
    Option.some.injEq, texts?_eq_some_iff]
  constructor
  · rintro ⟨_, ⟨files, spelled, rfl⟩, rfl⟩
    exact ⟨files, spelled, rfl⟩
  · rintro ⟨files, spelled, rfl⟩
    exact ⟨_, ⟨files, spelled, rfl⟩, rfl⟩

theorem exists_render?_iff :
    (∃ text, request.render? = some text) ↔
      ∀ path ∈ request.files, ∃ text, Bytes.text? path.spelling = some text := by
  simp only [render?_eq_some_iff, Path.text?_spelling_eq_some_iff]
  have spelled : (∃ files : List String, request.files = files.map Path.ofText) ↔
      ∀ path ∈ request.files, ∃ text, path = Path.ofText text := by
    have range := Set.ext_iff.mp (Set.range_list_map Path.ofText) request.files
    simpa only [Set.mem_range, Set.mem_ofPred_eq, eq_comm] using range
  rw [← spelled]
  exact ⟨fun ⟨_, files, same, _⟩ => ⟨files, same⟩, fun ⟨files, same⟩ => ⟨_, files, same, rfl⟩⟩

theorem readMode_name (mode : Mode) : readMode (.string (some mode.name)) = .ok mode := by
  cases mode <;> rfl

/-- The fields of a written request are taken one after another, each once. -/
theorem decode_document {files : List String} (spelled : request.files = files.map Path.ofText) :
    shape.decode (request.document files).reading = .ok request := by
  have paths := list_strings readPath Path.ofText (fun _ => rfl) files
  have locales := list_strings text id (fun _ => rfl) request.targetLocales
  have names := list_strings text id (fun _ => rfl) request.targetNames
  rw [List.map_id] at locales names
  rw [document, Value.reading, Shape.decode]
  simp only [fieldReadings, List.foldlM_cons, List.foldlM_nil, key, shape, once]
  rw [paths, locales, names]
  simp only [Value.reading, readMode_name, text]
  -- No name occurs twice, so each field finds its place in the draft free.
  rw [← spelled]
  rfl

theorem read_of_render? {text : String} (rendered : request.render? = some text) :
    read text = .ok request := by
  obtain ⟨files, spelled, rfl⟩ := (render?_eq_some_iff request text).mp rendered
  rw [read, decode_render Layout.isLegible_compact, decode_document request spelled]

theorem render?_eq_none {path : Path} (listed : path ∈ request.files)
    (broken : Bytes.text? path.spelling = none) : request.render? = none := by
  refine Option.eq_none_iff_forall_ne_some.mpr fun text rendered => ?_
  obtain ⟨spelled, read⟩ := request.exists_render?_iff.mp ⟨text, rendered⟩ path listed
  rw [broken] at read
  cases read

/-- A request can be written exactly if all its paths are text, and what is written is read back as the
same request. If a path is no text the request fails, and no program is started for it, since its outcome
is the same whatever starting one would do. -/
theorem writing_is_lossless :
    ((∃ text, request.render? = some text) ↔
        ∀ path ∈ request.files, ∃ text, Bytes.text? path.spelling = some text) ∧
      (∀ text, request.render? = some text → read text = .ok request) ∧
      ∀ path ∈ request.files, Bytes.text? path.spelling = none →
        ∀ launch directory command workspace,
          Program.ask launch directory command request workspace = (workspace, .error .unwritable) ∧
          (Program.backend launch directory command).create request workspace =
            (workspace, .error Program.Error.unwritable.message) ∧
          (Program.backend launch directory command).update request workspace =
            (workspace, .error Program.Error.unwritable.message) := by
  refine ⟨request.exists_render?_iff, fun text => request.read_of_render?,
    fun path listed broken launch directory command workspace => ?_⟩
  have refused : Program.ask launch directory command request workspace =
      (workspace, .error .unwritable) := by
    rw [Program.ask, request.render?_eq_none listed broken]
  refine ⟨refused, ?_, ?_⟩
  · simp only [Program.backend, refused]
    rfl
  · simp only [Program.backend, refused]
    rfl

end Request

end LocaleFamilies
