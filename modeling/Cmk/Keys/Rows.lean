import Cmk.Jobs.Events

/-!
# Cmk.Keys.Rows

The statements on keys and their versions.

* The state of a key is an enumeration of the database. A provider's status outside of it is refused;
  an empty one is no value: an insert takes the column default, a partial update leaves the column,
  and an update of all columns violates NOT NULL.
* The name of a key is unique in its key configuration, and a version is unique by its key and its ID
  at the provider.
* A label refers to its key and is not deleted with it; versions are.
-/

namespace Cmk

open Tx

namespace Repo

variable (r : Repo) (ctx : Ctx)

/-- A status that is the empty string. -/
abbrev noState : KeyState := .other ""

/-- Another key of the same key configuration has the name. -/
def keyNameTaken (d : Db) (key : Key) : Bool :=
  d.keys.rows.any fun k =>
    k.id ≠ key.id ∧ k.keyConfigurationID = key.keyConfigurationID ∧ k.name = key.name

def duplicatedKey : Exn := .err (.wrap (.sentinel .errUniqueConstraint) (.foreign "duplicated key"))

def createKey (key : Key) : M Key :=
  r.exec ctx (.wrap .errCreateResource) fun n d =>
    let key := { key with
      state := nonZero noState key.state .enabled
      createdAt := nonZero 0 key.createdAt (r.now n) }
    if ¬ key.state.valid then ((.error ((Exn.of .errInvalidKeyStateValue).wrap .errCreateResource)), d)
    else if keyNameTaken d key then (.error duplicatedKey, d)
    else
      match d.keys.insert? key with
      | none => (.error duplicatedKey, d)
      | some t => (.ok key, { d with keys := t })

def firstKeyOf (keyConfigID : UUID) : Q Key :=
  r.first ctx fun d => d.keys.rows.find? (·.keyConfigurationID = keyConfigID)

def keyUpdates (key row : Key) : Key :=
  { id := row.id
    keyConfigurationID := nonZero UUID.nil key.keyConfigurationID row.keyConfigurationID
    name := nonZero "" key.name row.name
    keyType := nonZero none key.keyType row.keyType
    state := nonZero noState key.state row.state
    underWorkflow := nonZero false key.underWorkflow row.underWorkflow
    description := nonZero "" key.description row.description
    nativeID := nonZero none key.nativeID row.nativeID
    createdAt := nonZero 0 key.createdAt row.createdAt
    cryptoAccessData := nonZero none key.cryptoAccessData row.cryptoAccessData
    errorDetail := nonZero none key.errorDetail row.errorDetail }

/-- What `Select("*").Updates(key)` makes of the row: every column is written. -/
def keyUpdatesAll (key row : Key) : Key := { key with id := row.id }

def patchedKey (all : Bool) (key : Key) : Key → Key := if all then keyUpdatesAll key else keyUpdates key

theorem patchedKey_id (all : Bool) (key row : Key) : (patchedKey all key row).id = row.id := by
  cases all <;> rfl

/-- Why the database does not accept the values of an update. -/
def keyPatchError (all : Bool) (key : Key) : Option Exn :=
  if key.id = UUID.nil then some (.err (.foreign "WHERE conditions required"))
  else if key.state = noState then
    if all then some (.err (.foreign "null value in column state")) else none
  else if ¬ key.state.valid then some (.of .errInvalidKeyStateValue)
  else none

/-- `Patch` of a key; the struct is read back from the row. -/
def patchKey (all : Bool) (key : Key) : M Key :=
  r.exec ctx (.wrap .errUpdateResource) fun _ d =>
    match keyPatchError all key with
    | some e => (.error (e.wrap .errUpdateResource), d)
    | none =>
      if (d.keys.get? key.id).any fun row => keyNameTaken d (patchedKey all key row) then
        (.error (duplicatedKey.wrap .errUpdateResource), d)
      else
        let t := d.keys.modify key.id (patchedKey all key) (patchedKey_id all key)
        (.ok ((t.get? key.id).getD key), { d with keys := t })

/-- The rows of `key_versions` go with the key, those of `key_labels` keep it. -/
def deleteKey (id : UUID) : M Unit :=
  r.exec ctx (.wrap .errDeleteResource) fun _ d =>
    if id = UUID.nil then
      (.error (.err (.wrap (.sentinel .errDeleteResource) (.foreign "WHERE conditions required"))), d)
    else if d.keyLabels.rows.any (·.resourceID = id) then
      (.error (.err (.wrap (.sentinel .errDeleteResource)
        (.foreign "violates foreign key constraint on table key_labels"))), d)
    else
      (.ok (), { d with
        keys := d.keys.delete id
        keyVersions := d.keyVersions.filter (·.keyID ≠ id) })

def deleteKeyVersions (keyID : UUID) : M Unit :=
  r.exec ctx (.wrap .errDeleteResource) fun _ d =>
    (.ok (), { d with keyVersions := d.keyVersions.filter (·.keyID ≠ keyID) })

/-- The row of a version; an empty status gets the column default. -/
def keyVersionRow (v : KeyVersion) : KeyVersion :=
  { v with status := if v.status = "" then "UNKNOWN" else v.status }

/-- `Set` on conflict of key and native ID: the time and the status are updated. -/
def setKeyVersion (v : KeyVersion) : M Unit :=
  r.exec ctx (.wrap .errSetResource) fun _ d =>
    (.ok (), { d with keyVersions := d.keyVersions.upsert (keyVersionRow v) })

def createKeyVersion (v : KeyVersion) : M Unit :=
  r.exec ctx (.wrap .errCreateResource) fun _ d =>
    match d.keyVersions.insert? (keyVersionRow v) with
    | none => (.error duplicatedKey, d)
    | some t => (.ok (), { d with keyVersions := t })

/-- `Patch` of a key configuration that has only its ID and its primary key set. -/
def patchPrimaryKeyID (keyConfigID keyID : UUID) : M Unit :=
  r.exec ctx (.wrap .errUpdateResource) fun _ d =>
    if keyConfigID = UUID.nil then
      (.error ((Exn.err (.foreign "WHERE conditions required")).wrap .errUpdateResource), d)
    else
      let f row : KeyConfiguration := { row with primaryKeyID := some keyID }
      (.ok (), { d with keyConfigurations := d.keyConfigurations.modify keyConfigID f fun _ => rfl })

/-- The name of a key configuration is unique. -/
def createKeyConfiguration (kc : KeyConfiguration) : M Unit :=
  r.exec ctx (.wrap .errCreateResource) fun _ d =>
    if d.keyConfigurations.rows.any (·.name = kc.name) then (.error duplicatedKey, d)
    else
      match d.keyConfigurations.insert? { kc with adminGroup := {} } with
      | none => (.error duplicatedKey, d)
      | some t => (.ok (), { d with keyConfigurations := t })

/-- `HasConnectedSystems`. -/
def hasConnectedSystems (keyConfigID : UUID) : Q Bool :=
  return 0 < (← r.count ctx fun d => (systemsOf d keyConfigID).length)

/-- `GetKeyConfigPrimaryKey`: a key configuration that is not found has no primary key. -/
def getKeyConfigPrimaryKey (keyConfigID : UUID) : Q (Option UUID) := do
  match ← (r.firstKeyConfiguration ctx keyConfigID).attempt with
  | .ok keyConfig => return keyConfig.primaryKeyID
  | .error e => if e.is .errNotFound then return none else throw e

def isPrimaryKey (key : Key) : Q Bool :=
  return (← r.getKeyConfigPrimaryKey ctx key.keyConfigurationID) = some key.id

end Repo

end Cmk
