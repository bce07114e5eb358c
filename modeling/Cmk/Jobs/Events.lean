import Cmk.System

/-!
# Cmk.Jobs.Events

The Event row of a system, and the rest of the event factory of `internal/event-processor`.

There is one Event row for a system. `handleSystemStatus` and `systemKeyRotate` write it when a job
has been created, the job handlers delete it when a job of its type is done, and a recovery action
reads it (`getLastEvent`). `systemUnlinkDecommission` writes none.

`processInBatch` is the loop of `ProcessInBatch`: a page at a time by offset, with a count after
each page that decides whether there is another one.
-/

namespace Cmk

open Tx

namespace Repo

variable (r : Repo) (ctx : Ctx)

/-- A page, with the number of rows. The source does not ask for the number here; it only bounds
the loop of `processInBatch`. -/
def listPage {α : Type} (select : Db → List α) (offset : Nat) : Q (List α × Nat) :=
  r.query ctx id fun n d =>
    .ok (page (select d) (r.order n _) offset defaultLimit, (select d).length)

def processPage {α : Type} (select : Db → List α) (process : List α → M Unit) (offset : Nat)
    (items : List α) (next : M Unit) : M Unit := do
  process items
  if items.isEmpty then return ()
  let count ← r.count ctx fun d => (select d).length
  if count ≤ offset + defaultLimit then return ()
  next

def processFrom {α : Type} (select : Db → List α) (process : List α → M Unit) : Nat → Nat → M Unit
  | 0, _ => pure ()
  | pages + 1, offset => do
    let (items, _) ← r.listPage ctx select offset
    r.processPage ctx select process offset items
      (processFrom select process pages (offset + defaultLimit))

/-- `ProcessInBatch`. No process function adds rows to the listing it pages through, so the number
of rows at the beginning bounds the number of pages. -/
def processInBatch {α : Type} (select : Db → List α) (process : List α → M Unit) : M Unit := do
  let (items, rows) ← r.listPage ctx select 0
  r.processPage ctx select process 0 items
    (r.processFrom ctx select process (rows / defaultLimit) defaultLimit)

section

variable {r ctx} {α : Type}

theorem processFrom_keeps {R : Db → Db → Prop} {Q : World → World → Prop} {select : Db → List α}
    {process : List α → M Unit} (h : ∀ items, Keeps R Q (process items)) (pages offset : Nat) :
    Keeps R Q (r.processFrom ctx select process pages offset) := by
  induction pages generalizing offset with
  | zero => exact .pure _
  | succ pages ih =>
    exact .bind (.query _) fun _ => .bind (h _) fun _ => .ite (.pure _)
      (.bind (.query _) fun _ => .ite (.pure _) (ih _))

theorem processInBatch_keeps {R : Db → Db → Prop} {Q : World → World → Prop} {select : Db → List α}
    {process : List α → M Unit} (h : ∀ items, Keeps R Q (process items)) :
    Keeps R Q (r.processInBatch ctx select process) :=
  .bind (.query _) fun _ => .bind (h _) fun _ => .ite (.pure _)
    (.bind (.query _) fun _ => .ite (.pure _) (r.processFrom_keeps h _ _))

end

def firstEvent (identifier : UUID) : Q Event := r.first ctx (·.events.get? identifier)

/-- The events whose data names the key as `keyIDTo`. -/
def eventsTo (d : Db) (keyID : UUID) : List Event :=
  d.events.rows.filter (·.data.keyIDTo = some keyID)

def eventUpdates (ev row : Event) : Event :=
  { identifier := row.identifier
    type := ev.type
    data := ev.data
    status := nonZero "" ev.status row.status
    previousItemStatus := ev.previousItemStatus
    errorCode := nonZero "" ev.errorCode row.errorCode
    errorMessage := nonZero "" ev.errorMessage row.errorMessage }

def patchEvent (ev : Event) : M Unit :=
  r.exec ctx (.wrap .errUpdateResource) fun _ d =>
    (.ok (), { d with events := d.events.modify ev.identifier (eventUpdates ev) fun _ => rfl })

/-- `Patch` of an event that has only its identifier and its error set. -/
def patchEventError (identifier : UUID) (code message : String) : M Unit :=
  r.exec ctx (.wrap .errUpdateResource) fun _ d =>
    let f row : Event :=
      { row with
        errorCode := nonZero "" code row.errorCode
        errorMessage := nonZero "" message row.errorMessage }
    (.ok (), { d with events := d.events.modify identifier f fun _ => rfl })

def deleteEvent (identifier : UUID) (type : JobType) : M Unit :=
  r.exec ctx (.wrap .errDeleteResource) fun _ d =>
    (.ok (), { d with
      events := if (d.events.get? identifier).any (·.type = type) then d.events.delete identifier
        else d.events })

def systemsOf (d : Db) (keyConfigID : UUID) : List System :=
  d.systems.rows.filter (·.keyConfigurationID = some keyConfigID)

/-- `Patch` of the columns `status` and `target_key_configuration_id` alone. -/
def patchSystemStatus (id : UUID) (status : SystemStatus) : M Unit :=
  r.exec ctx (.wrap .errUpdateResource) fun _ d =>
    let f row : System := { row with status := status, targetKeyConfigurationID := none }
    (.ok (), { d with systems := d.systems.modify id f fun _ => rfl })

def firstKeyByID (id : UUID) : Q Key := r.first ctx fun d => byID d.keys id

def keyConfigurationUpdates (kc row : KeyConfiguration) : KeyConfiguration :=
  { id := row.id
    name := nonZero "" kc.name row.name
    description := nonZero "" kc.description row.description
    adminGroupID := nonZero UUID.nil kc.adminGroupID row.adminGroupID
    primaryKeyID := nonZero none kc.primaryKeyID row.primaryKeyID }

/-- `Patch` of a key configuration; the name is unique. -/
def patchKeyConfiguration (kc : KeyConfiguration) : M Unit :=
  r.exec ctx (.wrap .errUpdateResource) fun _ d =>
    if kc.name ≠ "" ∧ d.keyConfigurations.rows.any fun kc' => kc'.id ≠ kc.id ∧ kc'.name = kc.name then
      (.error (.err (.wrap (.sentinel .errUpdateResource)
        (.wrap (.sentinel .errUniqueConstraint) (.foreign "duplicated key")))), d)
    else
      (.ok (), { d with
        keyConfigurations :=
          d.keyConfigurations.modify kc.id (keyConfigurationUpdates kc) fun _ => rfl })

end Repo

namespace EventFactory

variable (f : EventFactory) (ctx : Ctx)

/-- Any failure of the lookup is reported as a missing event. -/
def getLastEvent (itemID : UUID) : Q Event := do
  match ← (f.repo.firstEvent ctx itemID).attempt with
  | .ok event => return event
  | .error _ => throw (.of .errNoPreviousEvent)

def systemUnlinkDecommission (system : System) (keyID : UUID) : M Job := do
  if system.status = .processing then throw (.of .errSystemProcessing)
  f.repo.transaction ctx fun ctx => do
    let _ ← f.repo.patchSystem ctx true { system with status := .processing }
  f.createSystemEventJob ctx .systemUnlinkDecommission
    { systemID := system.id, keyIDFrom := some keyID }

def systemSwitchNewPrimaryKey (system : System) (keyIDTo keyIDFrom : UUID) : M Job :=
  f.handleSystemStatus ctx system
    (f.createSystemEventJob ctx .systemSwitchNewPK
      { systemID := system.id, keyIDTo := some keyIDTo, keyIDFrom := some keyIDFrom })

/-- The status of the system is left as it is, whatever it is. -/
def systemKeyRotate (system : System) (keyID : UUID) : M Job := do
  let job ← f.createSystemEventJob ctx .systemKeyRotate
    { systemID := system.id, keyIDTo := some keyID, keyIDFrom := some keyID }
  -- a failure to store the event is only logged
  let _ ← (f.repo.setEvent ctx
    { identifier := job.externalID
      type := job.type
      data := job.data
      status := job.status
      previousItemStatus := system.status }).attempt
  return job

end EventFactory

export Repo (systemsOf)

end Cmk
