import Cmk.Repo

/-!
# Cmk.Operator.Cluster

The database cluster and the responses of the tenant operator (`internal/operator`).

* `Catalogue` — the shared table of tenants. Its statements and transactions are those of the program.
* `Cluster`   — the schemas of the tenants and the world outside. What is done there is not put back
  by a transaction on the catalogue: the migration of a schema and `DROP SCHEMA` use connections of
  their own.
* `inSchema`  — a call of a manager in the context of a tenant. Every statement of it looks the tenant
  up first (`getSchemaFromCtx`) and is refused if there is no such tenant.
* `HandlerResponse` — what a handler tells orbital, with the helpers that set it.
-/

namespace Cmk

open Tx

/-- The error a Go call returned, as a value. A panic is not one. -/
def tryErr {D X α : Type} (p : Prog D X Exn α) : Prog D X Exn (Except Err α) := do
  match ← p.attempt with
  | .ok a => return .ok a
  | .error (.err e) => return .error e
  | .error .panic => throw .panic

abbrev Calls {D X α : Type} (p : Prog D X Exn α) : Prop := p.Raises (· ≠ .panic)

section

variable {D X α β : Type} {p : Prog D X Exn α} {h : Except Err α → Prog D X Exn β} {i : Bool}
  {s : St D X} {P : Except Exn β → St D X → Prop}

theorem wp_tryErr_bind (hp : Calls p)
    (herr : ∀ e s1, p.run i s = (.error (.err e), s1) → (h (.error e)).wp i P s1)
    (hok : ∀ a s1, p.run i s = (.ok a, s1) → (h (.ok a)).wp i P s1) :
    (tryErr p >>= h).wp i P s := by
  unfold tryErr
  rw [Prog.bind_assoc]
  refine wp_bind (wp_attempt ?_)
  unfold Prog.wp
  cases hr : p.run i s with
  | mk r s1 =>
    rcases r with (e | _) | a
    · exact herr e s1 hr
    · exact absurd rfl (hp i s .panic (congrArg Prod.fst hr))
    · exact hok a s1 hr

theorem Calls.wrap {w : Sentinel} (hp : Calls p) : Calls (p.mapError (.wrap w)) := by
  refine .mapError fun i s e he => ?_
  have h := hp i s e he
  cases e with
  | err e => exact fun h => by cases h
  | panic => exact absurd rfl h

end

/-- `model.Tenant`, with the columns of `multitenancy.TenantModel`. -/
structure TenantRow where
  id : String
  name : String
  status : String
  ownerType : String
  ownerID : String
  role : TenantRole
  domainURL : String
  schemaName : String
  deriving DecidableEq, Repr

structure Catalogue where
  tenants : Table TenantRow.id

structure Cluster where
  /-- The tables of a schema; `none` if there is no such schema. -/
  schemas : String → Option Db
  world : World

abbrev OpM := Prog Catalogue Cluster Exn

/-- What the migrations create. -/
def Db.empty : Db where
  workflows := .empty
  approvers := .empty
  approverGroups := .empty
  groups := .empty
  keyConfigurations := .empty
  keys := .empty
  keyVersions := .empty
  keyLabels := .empty
  systems := .empty
  systemProperties := .empty
  events := .empty
  workflowConfig := none
  tenants := .empty

/-- `CREATE SCHEMA IF NOT EXISTS`, and the migrations that are missing. -/
def Cluster.withSchema (x : Cluster) (name : String) : Cluster :=
  { x with schemas := Function.update x.schemas name (some ((x.schemas name).getD .empty)) }

namespace Repo

/-- The repository when every statement fails with an error. -/
def refusing (r : Repo) (e : Err) (he : e.is .errNotFound = false) : Repo :=
  { r with
    fault := fun _ => some e
    fault_found := fun _ e' h => by cases h; exact he }

end Repo

/-- `cmkcontext.CreateTenantContext`, in a handler of the operator. -/
def tenantContext (tenantID : String) : Ctx where
  tenant := tenantID
  userType := some .internalUser
  businessUserData := none
  internalUserData := some .tenantProvisioning
  inTx := false

/-- The connections of the operator. Statement number `n` on the catalogue may be refused (`fault`);
the call number `n` in a schema has a repository of its own. -/
structure Connections where
  fault : Nat → Option Err
  commit : Nat → Option Err
  repo : Nat → Repo
  /-- `MigrateTenantToLatest`. -/
  migrate : Nat → Option Err

namespace Connections

variable (c : Connections)

/-- The repository, the name and the tables that the statements of call `n` for a tenant get. -/
def connect (n : Nat) (tenantID : String) (d : Catalogue) (x : Cluster) : Repo × Option (String × Db) :=
  match d.tenants.get? tenantID with
  | none => ((c.repo n).refusing (.sentinel .errTenantNotFound) rfl, none)
  | some row =>
    match x.schemas row.schemaName with
    | none => ((c.repo n).refusing (.foreign "relation does not exist") rfl, none)
    | some db => (c.repo n, some (row.schemaName, db))

/-- A call of a manager in the context of a tenant. -/
def inSchema {α : Type} (tenantID : String) (p : Repo → Ctx → M α) : OpM α :=
  .call fun n d x =>
    let conn := c.connect n tenantID d x
    let db := (conn.2.map Prod.snd).getD .empty
    let q := (p conn.1 (tenantContext tenantID)).run false ⟨db, x.world, 0, []⟩
    (q.1,
      { schemas :=
          match conn.2 with
          | none => x.schemas
          | some (name, _) => Function.update x.schemas name (some q.2.db)
        world := q.2.ext })

/-- `Create` of a tenant. The ID, the domain and the name of the schema are unique. -/
def createTenantRow (tenant : TenantRow) : OpM Unit :=
  .exec fun n d =>
    match c.fault n with
    | some e => (.error (.err (.wrap (.sentinel .errCreateResource) e)), d)
    | none =>
      let duplicated : Exn := .err (.wrap (.sentinel .errUniqueConstraint) (.foreign "duplicated key"))
      if d.tenants.rows.any fun row =>
          row.domainURL = tenant.domainURL ∨ row.schemaName = tenant.schemaName then
        (.error duplicated, d)
      else
        match d.tenants.insert? tenant with
        | none => (.error duplicated, d)
        | some t => (.ok (), { d with tenants := t })

def migrateTenantToLatest (tenant : TenantRow) : OpM Unit :=
  .call fun n _ x =>
    match c.migrate n with
    | some e => (.error (.err e), x)
    | none => (.ok (), x.withSchema tenant.schemaName)

def transaction {α : Type} (txFunc : OpM α) : OpM α :=
  (Prog.transact (fun n => (c.commit n).map .err) txFunc).mapError (.wrap .errTransaction)

end Connections

inductive Answer where
  | complete
  | fail (message : String)
  | continueAndWaitFor (seconds : Nat)
  deriving DecidableEq, Repr

/-- `orbital.HandlerResponse`: the answers set so far, and the working state, `none` if `WorkingState()`
returns none. -/
structure HandlerResponse where
  answers : List Answer := []
  workingState : Option (List (String × String)) := none
  rawWorkingState : Option String := none
  deriving DecidableEq, Repr

namespace HandlerResponse

variable (resp : HandlerResponse)

def answer (a : Answer) : HandlerResponse := { resp with answers := resp.answers ++ [a] }

def useRawWorkingState (state : String) : HandlerResponse := { resp with rawWorkingState := some state }

/-- `err.Error()`, of an error that may be nil. -/
def errorText : Option Err → Except Exn String
  | some e => .ok e.error
  | none => .error .panic

def set (key value : String) (state : List (String × String)) : List (String × String) :=
  (key, value) :: state.filter (·.1 ≠ key)

def setWorkingState (err : Option Err) (state : String) : Except Exn HandlerResponse :=
  match resp.workingState with
  | none => .ok resp
  | some workingState => do
    let text ← errorText err
    return { resp with workingState := some (set "error" text (set "state" state workingState)) }

def reconcileAfterSecProcessing : Nat := 3

def reconcileAfterSecError : Nat := 15

def setErrorStateAndContinue (err : Option Err) (state : String) : Except Exn HandlerResponse := do
  let resp ← resp.setWorkingState err state
  return resp.answer (.continueAndWaitFor reconcileAfterSecError)

def setErrorStateAndFail (err : Option Err) (state : String) : Except Exn HandlerResponse := do
  let resp ← resp.setWorkingState err state
  let text ← errorText err
  return resp.answer (.fail text)

/-- `isIrrecoverable`: invalid input stays invalid. -/
def isIrrecoverable (err : Err) : Bool := err.is .errModelValidation

def setErrorState (err : Err) (state : String) : Except Exn HandlerResponse :=
  if isIrrecoverable err then resp.setErrorStateAndFail (some err) state
  else resp.setErrorStateAndContinue (some err) state

/-! ### What the helpers set -/

variable {resp} {err : Option Err} {state : String}

theorem setWorkingState_some (e : Err) (state : String) :
    ∃ ws, resp.setWorkingState (some e) state = .ok { resp with workingState := ws } := by
  obtain ⟨answers, workingState, raw⟩ := resp
  cases workingState with
  | none => exact ⟨none, rfl⟩
  | some ws => exact ⟨_, rfl⟩

theorem setErrorStateAndContinue_some (e : Err) (state : String) :
    ∃ ws, resp.setErrorStateAndContinue (some e) state =
      .ok ({ resp with workingState := ws }.answer (.continueAndWaitFor reconcileAfterSecError)) := by
  obtain ⟨ws, h⟩ := resp.setWorkingState_some e state
  exact ⟨ws, by rw [setErrorStateAndContinue, h]; rfl⟩

theorem setErrorStateAndFail_some (e : Err) (state : String) :
    ∃ ws, resp.setErrorStateAndFail (some e) state =
      .ok ({ resp with workingState := ws }.answer (.fail e.error)) := by
  obtain ⟨ws, h⟩ := resp.setWorkingState_some e state
  exact ⟨ws, by rw [setErrorStateAndFail, h]; rfl⟩

theorem setErrorState_some (e : Err) (state : String) :
    ∃ ws a, a ≠ .complete ∧ resp.setErrorState e state =
      .ok ({ resp with workingState := ws }.answer a) := by
  unfold setErrorState
  split
  · obtain ⟨ws, h⟩ := resp.setErrorStateAndFail_some e state
    exact ⟨ws, _, (fun h => by cases h), h⟩
  · obtain ⟨ws, h⟩ := resp.setErrorStateAndContinue_some e state
    exact ⟨ws, _, (fun h => by cases h), h⟩

/-- Without an error, the first helper panics if there is a working state to write it to. -/
theorem setErrorStateAndContinue_nil :
    resp.setErrorStateAndContinue none state =
      if resp.workingState = none then
        .ok (resp.answer (.continueAndWaitFor reconcileAfterSecError))
      else .error .panic := by
  unfold setErrorStateAndContinue setWorkingState
  cases hws : resp.workingState with
  | none =>
    rw [if_pos rfl]
    rfl
  | some ws =>
    rw [if_neg (fun h => by cases h)]
    rfl

end HandlerResponse

end Cmk
