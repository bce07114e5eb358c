import Cmk.Jobs.Handlers
import Cmk.Mapper

/-!
# Cmk.Jobs.ErrorTexts

The texts of orbital errors, of `internal/event-processor/errors.go` and `helpers.go`. An error is
written as its code, a colon and its message; `parseOrbitalError` cuts at the first colon and
checks the code with a regular expression. The messages of failed tasks are joined by colons.

* `isScreamingSnakeCase_iff` — the check accepts the words of the regular expression.
* `parseOrbitalError_ofCode` — a code and any rest are read as they were written.
* `parseOrbitalError_cases`  — a text is a code and a rest, or it is read as a message.
* `resolveTasks_reason`      — with what a job is cancelled whose tasks are not resolved.
-/

namespace Cmk

open List ErrorMapper

def OrbitalError.string (e : OrbitalError) : String := e.code ++ ":" ++ e.message

structure OrbitalTask where
  errorMessage : String

/-- `listTasks` is orbital's list of the failed tasks of a job. -/
def mergeOrbitalTaskErrors (listTasks : Nat → Except Err (List OrbitalTask)) (job : Nat) :
    Except Err String := do
  let tasks ← listTasks job
  return ":".intercalate (tasks.map (·.errorMessage))

/-- `[A-Z]+` -/
def IsCodeWord (w : List Char) : Prop := w ≠ [] ∧ ∀ c ∈ w, 'A' ≤ c ∧ c ≤ 'Z'

/-- `^[A-Z]+(?:_[A-Z]+)*$` -/
def IsErrorCode (code : String) : Prop :=
  ∃ (w : List Char) (ws : List (List Char)), IsCodeWord w ∧ (∀ u ∈ ws, IsCodeWord u) ∧
    code.toList = w ++ ws.flatMap ('_' :: ·)

theorem IsCodeWord.not_mem {w : List Char} (h : IsCodeWord w) {c : Char}
    (hc : ¬ ('A' ≤ c ∧ c ≤ 'Z')) : c ∉ w :=
  fun hmem => hc (h.2 c hmem)

theorem intercalate_underscore (w : List Char) (ws : List (List Char)) :
    ['_'].intercalate (w :: ws) = w ++ ws.flatMap ('_' :: ·) := by
  induction ws generalizing w with
  | nil => simp
  | cons u ws ih =>
    rw [flatMap_cons, cons_append, ← ih u]
    simp

theorem isScreamingSnakeCase_iff (code : String) :
    isScreamingSnakeCase code.toList = true ↔ IsErrorCode code := by
  have hall : ∀ words : List (List Char),
      (words.all fun word => word ≠ [] && word.all fun c => 'A' ≤ c && c ≤ 'Z') = true ↔
        ∀ w ∈ words, IsCodeWord w := by
    simp [IsCodeWord]
  rw [isScreamingSnakeCase, hall]
  constructor
  · intro h
    cases hwords : code.toList.splitOn '_' with
    | nil => exact absurd hwords (splitOn_ne_nil _ _)
    | cons w ws =>
      rw [hwords] at h
      obtain ⟨hw, hws⟩ := forall_mem_cons.1 h
      refine ⟨w, ws, hw, hws, ?_⟩
      rw [← intercalate_underscore, ← hwords, intercalate_splitOn]
  · rintro ⟨w, ws, hw, hws, hcode⟩
    have h : ∀ u ∈ w :: ws, IsCodeWord u := forall_mem_cons.2 ⟨hw, hws⟩
    rw [hcode, ← intercalate_underscore, splitOn_intercalate _
      (fun u hu => (h u hu).not_mem (by decide)) (cons_ne_nil w ws)]
    exact h

theorem IsErrorCode.colon_not_mem {code : String} (h : IsErrorCode code) : ':' ∉ code.toList := by
  obtain ⟨w, ws, hw, hws, hcode⟩ := h
  rw [hcode, mem_append, mem_flatMap]
  rintro (hmem | ⟨u, hu, hmem⟩)
  · exact hw.not_mem (by decide) hmem
  · rcases mem_cons.1 hmem with hmem | hmem
    · exact absurd hmem (by decide)
    · exact (hws u hu).not_mem (by decide) hmem

theorem takeWhile_colon {code : List Char} (h : ':' ∉ code) (rest : List Char) :
    (code ++ ':' :: rest).takeWhile (· ≠ ':') = code := by
  rw [takeWhile_append_of_pos]
  · simp
  · intro c hc
    exact decide_eq_true fun hcolon => h (hcolon ▸ hc)

theorem parseOrbitalError_ofCode {code : String} (h : IsErrorCode code) (rest : String) :
    parseOrbitalError (code ++ ":" ++ rest) = ⟨rest, code⟩ := by
  have htext : (code ++ ":" ++ rest).toList = code.toList ++ ':' :: rest.toList := by simp
  unfold parseOrbitalError
  simp only [htext, takeWhile_colon h.colon_not_mem, (isScreamingSnakeCase_iff code).2 h]
  simp

theorem parseOrbitalError_cases (t : String) :
    (∃ code rest, IsErrorCode code ∧ t = code ++ ":" ++ rest) ∨
      parseOrbitalError t = ⟨t, defaultErrorCode⟩ := by
  by_cases h : ':' ∉ t.toList ∨ ¬ isScreamingSnakeCase (t.toList.takeWhile (· ≠ ':'))
  · exact .inr (if_pos h)
  obtain ⟨hcolon, hcode⟩ := not_or.1 h
  obtain ⟨code, rest, htext, hnot⟩ := eq_append_cons_of_mem (not_not.1 hcolon)
  rw [htext, takeWhile_colon hnot, not_not, ← String.toList_ofList (l := code),
    isScreamingSnakeCase_iff] at hcode
  refine .inl ⟨String.ofList code, String.ofList rest, hcode, String.toList_injective ?_⟩
  simp [htext]

theorem isErrorCode_keyVersionMismatch : IsErrorCode keyVersionMismatchCode := by
  rw [← isScreamingSnakeCase_iff]
  decide

theorem isVersionMismatchError_iff (t : String) :
    isVersionMismatchError t = true ↔ ∃ rest, t = "KEY_VERSION_MISMATCH:" ++ rest := by
  have hcolon : "KEY_VERSION_MISMATCH:" = keyVersionMismatchCode ++ ":" := by decide
  rw [isVersionMismatchError, decide_eq_true_iff, hcolon]
  constructor
  · intro h
    rcases parseOrbitalError_cases t with ⟨code, rest, hcode, rfl⟩ | hdefault
    · rw [parseOrbitalError_ofCode hcode] at h
      exact ⟨rest, by rw [← h]⟩
    · rw [hdefault] at h
      exact absurd h (show defaultErrorCode ≠ keyVersionMismatchCode by decide)
  · rintro ⟨rest, rfl⟩
    rw [parseOrbitalError_ofCode isErrorCode_keyVersionMismatch]

/-- Every error with a code is read as it was written, every other text is a message with the
default code, and a version mismatch is recognised by its code alone. -/
theorem orbital_error_texts :
    (∀ e : OrbitalError, IsErrorCode e.code → parseOrbitalError e.string = e) ∧
    (∀ t : String, (¬ ∃ code rest, IsErrorCode code ∧ t = code ++ ":" ++ rest) →
      parseOrbitalError t = ⟨t, defaultErrorCode⟩) ∧
    (∀ t : String,
      isVersionMismatchError t = true ↔ ∃ rest, t = "KEY_VERSION_MISMATCH:" ++ rest) ∧
    ∀ (listTasks : Nat → Except Err (List OrbitalTask)) (job : Nat) (first : OrbitalTask)
      (others : List OrbitalTask), listTasks job = .ok (first :: others) →
      (∃ rest, first.errorMessage = "KEY_VERSION_MISMATCH:" ++ rest) →
      ∃ text, mergeOrbitalTaskErrors listTasks job = .ok text ∧
        isVersionMismatchError text = true := by
  refine ⟨fun e he => parseOrbitalError_ofCode he e.message,
    fun t ht => (parseOrbitalError_cases t).resolve_left ht, isVersionMismatchError_iff, ?_⟩
  rintro listTasks job first others hlist ⟨rest, hfirst⟩
  refine ⟨":".intercalate ((first :: others).map (·.errorMessage)), ?_, ?_⟩
  · rw [mergeOrbitalTaskErrors, hlist]
    rfl
  · -- The joined text starts with the first message.
    rw [isVersionMismatchError_iff, List.map_cons, hfirst, String.intercalate_cons_append]
    exact ⟨_, rfl⟩

/-- The internal errors of `errorMapper`. -/
inductive ResolverError where
  | noConnectedRegionsForKey
  | targetNotConfigured
  | keyAccessMetadataNotFound
  | noTasksResolvedForJob
  deriving DecidableEq

def ResolverError.error : ResolverError → String
  | noConnectedRegionsForKey => "no connected regions found for key"
  | targetNotConfigured => "target not configured for region"
  | keyAccessMetadataNotFound => "key access metadata not found for system region"
  | noTasksResolvedForJob => "no tasks resolved for the job"

def ResolverError.exposedError : ResolverError → OrbitalError
  | noConnectedRegionsForKey =>
    ⟨"no connected regions found for key", "NO_CONNECTED_REGIONS_FOR_KEY"⟩
  | targetNotConfigured => ⟨"target not configured for region", "UNCONFIGURED_REGION"⟩
  | keyAccessMetadataNotFound => ⟨"key does not support system region", "UNSUPPORTED_REGION"⟩
  | noTasksResolvedForJob => ⟨"no tasks resolved for the job", "NO_TASKS_RESOLVED_FOR_JOB"⟩

def resolverErrors : List ResolverError :=
  [.noConnectedRegionsForKey, .targetNotConfigured, .keyAccessMetadataNotFound,
    .noTasksResolvedForJob]

section

variable {Error : Type} (is : Error → ResolverError → Bool) (text : Error → String) (err : Error)

/-- The address of an exposed error is its place in the table. -/
def errorMapper : ErrorMapper Error ResolverError Unit :=
  ⟨resolverErrors.mapIdx fun i e => ⟨[e], i, none⟩, []⟩

def OrbitalError.defaultError : OrbitalError := ⟨"Unknown", defaultErrorCode⟩

def transformOrbital : OrbitalError :=
  (((errorMapper.select is err).entryOf.bind (resolverErrors[·.exposedError]?)).map
    ResolverError.exposedError).getD .defaultError

/-- `is` is `errors.Is`, and `text err` is `err.Error()`. -/
def getOrbitalError : String :=
  if transformOrbital is err = .defaultError then text err else (transformOrbital is err).string

/-- The first error of the table that is in `err` is exposed. -/
theorem transformOrbital_eq : transformOrbital is err =
    ((resolverErrors.find? (is err)).map ResolverError.exposedError).getD .defaultError := by
  have hpriority : (@errorMapper Error).containsAsPriority is err = none := rfl
  rw [transformOrbital, select, getBestMatches, hpriority]
  cases h₀ : is err .noConnectedRegionsForKey <;> cases h₁ : is err .targetNotConfigured <;>
    cases h₂ : is err .keyAccessMetadataNotFound <;> cases h₃ : is err .noTasksResolvedForJob <;>
    simp [errorMapper, resolverErrors, addMatch, countMatchingErrors, Selected.entryOf,
      h₀, h₁, h₂, h₃, mapIdx_cons]

theorem exposedError_code (e : ResolverError) : IsErrorCode e.exposedError.code := by
  rw [← isScreamingSnakeCase_iff]
  cases e <;> decide

variable {is text err}

theorem getOrbitalError_unmatched (h : ∀ e, is err e = false) :
    getOrbitalError is text err = text err := by
  rw [getOrbitalError, transformOrbital_eq, find?_eq_none.2 fun e _ => by simp [h e]]
  rfl

theorem getOrbitalError_matched {e : ResolverError} (h : resolverErrors.find? (is err) = some e) :
    parseOrbitalError (getOrbitalError is text err) = e.exposedError ∧
      isVersionMismatchError (getOrbitalError is text err) = false := by
  have hdefault : e.exposedError ≠ .defaultError := by cases e <;> decide
  have hparse : parseOrbitalError e.exposedError.string = e.exposedError :=
    parseOrbitalError_ofCode (exposedError_code e) e.exposedError.message
  rw [getOrbitalError, transformOrbital_eq, h, Option.map_some, Option.getD_some, if_neg hdefault,
    isVersionMismatchError, hparse]
  exact ⟨rfl, by cases e <;> decide⟩

/-- `orbital.TaskResolverResult`. -/
inductive TaskResolverResult (Task : Type) where
  | cancel (reason : String)
  | complete (tasks : List Task)

variable {Task : Type} (is text) (handler : Option (Except Error (List Task))) (jobType : String)

/-- `handler` is what the handler of the job's type returns, none where the type has no handler. -/
def resolveTasks : TaskResolverResult Task :=
  match handler with
  | none => .cancel ("unsupported job type: " ++ jobType)
  | some (.error err) => .cancel (getOrbitalError is text err)
  | some (.ok []) => .cancel (getOrbitalError (· = ·) ResolverError.error .noTasksResolvedForJob)
  | some (.ok tasks) => .complete tasks

/-- What becomes of a job whose tasks are resolved. It goes on only with tasks. An error of the table
reaches who reads the reason as the first entry that is in it; only the text of another error is ever
taken for a version mismatch. -/
theorem resolveTasks_reason :
    (∀ tasks, resolveTasks is text handler jobType = .complete tasks →
      tasks ≠ [] ∧ handler = some (.ok tasks)) ∧
    (∀ err e, handler = some (.error err) → resolverErrors.find? (is err) = some e →
      ∃ reason, resolveTasks is text handler jobType = .cancel reason ∧
        parseOrbitalError reason = e.exposedError) ∧
    ∀ reason, resolveTasks is text handler jobType = .cancel reason →
      isVersionMismatchError reason = true →
      ∃ err, handler = some (.error err) ∧ (∀ e, is err e = false) ∧ reason = text err := by
  refine ⟨fun tasks h => ?_, ?_, fun reason h hmismatch => ?_⟩
  · unfold resolveTasks at h
    split at h
    case h_4 hne =>
      cases h
      exact ⟨fun hnil => hne (by rw [hnil]), rfl⟩
    all_goals cases h
  · rintro err e rfl he
    exact ⟨_, rfl, (getOrbitalError_matched he).1⟩
  · unfold resolveTasks at h
    split at h <;> cases h
    · obtain ⟨rest, hrest⟩ := (isVersionMismatchError_iff _).1 hmismatch
      have hhead := congrArg (·.toList.head?) hrest
      simp at hhead
    · rename_i err
      cases hfind : resolverErrors.find? (is err) with
      | some e => exact absurd hmismatch (by rw [(getOrbitalError_matched hfind).2]; nofun)
      | none =>
        have hnone : ∀ e, is err e = false := fun e => by
          simpa using find?_eq_none.1 hfind e (by cases e <;> decide)
        exact ⟨err, rfl, hnone, getOrbitalError_unmatched hnone⟩
    · exact absurd hmismatch (by rw [(getOrbitalError_matched rfl).2]; nofun)

end

end Cmk
