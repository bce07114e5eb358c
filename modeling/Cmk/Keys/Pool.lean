import Cmk.Store
import Cmk.Tx.Thread

/-!
# Cmk.Keys.Pool

The keystore pool. `Pop` reads the newest keystore of a shared table and deletes it; a mutex guards
it within one process only, and the number of deleted rows is not looked at. A tenant gets its default
keystore by a `Pop` in a transaction (`initDefaultKeystoreFromPool`).

The calls interleave as threads under READ COMMITTED. Where such a call is, is one of a few phases
(`PopPhase`), and `thread_step` says what its next statement does.

* `KeystorePool.pop`, `DefaultKeystores.initDefaultKeystoreFromPool`: the code.
* `PopStep`: what one statement does.
* `Supply`: the invariant; a keystore is in the table, handed out, or about to be.
* `keystore_popped_once`: no keystore is handed out twice, if no call reads one that another call has
  read and has not deleted yet.
* `keystores_not_lost`: none is lost, in any interleaving.
-/

namespace Cmk

open Tx Function List Table

structure Keystore where
  id : UUID
  createdAt : Int
  provider : String
  /-- JSON text. -/
  config : String
  deriving DecidableEq, Repr

/-- The shared table `keystore_pool`, and the default keystore of every tenant. -/
structure PoolDb where
  keystores : Table Keystore.id
  /-- JSON text. -/
  defaultKeystore : String → Option String

/-- The keystores that calls have returned, newest first, with the tenant. This is history. -/
abbrev Handed := List (String × Keystore)

/-- `ORDER BY created_at desc, id`. -/
def Keystore.precedes (a b : Keystore) : Bool :=
  b.createdAt < a.createdAt || (a.createdAt = b.createdAt && a.id.toNat ≤ b.id.toNat)

def newest : List Keystore → Option Keystore
  | [] => none
  | ks :: rows =>
    match newest rows with
    | none => some ks
    | some ks' => if ks.precedes ks' then some ks else some ks'

/-- `manager.Pool`, with what its repository does not determine. The table is shared, so its
statements need no tenant. -/
structure KeystorePool where
  fault : Nat → Option Err
  commit : Nat → Option Err

namespace KeystorePool

variable (p : KeystorePool)

def first (n : Nat) (d : PoolDb) : Except Exn Keystore :=
  match p.fault n with
  | some e => .error (.wrap .errGetResource (.err e))
  | none =>
    match newest d.keystores.rows with
    | some ks => .ok ks
    | none => .error (.err (.wrap (.sentinel .errNotFound) (.foreign "record not found")))

/-- Was there a row to delete? A zero ID is no condition, and gorm refuses a deletion without one. -/
def delete (ks : Keystore) (n : Nat) (d : PoolDb) : Except Exn Bool × PoolDb :=
  match p.fault n with
  | some e => (.error (.wrap .errDeleteResource (.err e)), d)
  | none =>
    if ks.id = UUID.nil then
      (.error (.err (.wrap (.sentinel .errDeleteResource) (.foreign "WHERE conditions required"))), d)
    else (.ok (d.keystores.get? ks.id).isSome, { d with keystores := d.keystores.delete ks.id })

def pop : Prog PoolDb Handed Exn Keystore := do
  let ks ← (Prog.read p.first .done).mapError (.wrap .errPoolIsDrained)
  let _ ← (Prog.exec (p.delete ks)).mapError (.wrap .errCouldNotRemoveConfiguration)
  return ks

end KeystorePool

/-- What `TenantConfigManager` has for the default keystore; `C` is `model.KeystoreConfig`. -/
structure DefaultKeystores (C : Type) where
  keystorePool : KeystorePool
  unmarshal : String → Except Err C
  marshal : C → Except Err String

namespace DefaultKeystores

variable {C : Type} (m : DefaultKeystores C) (tenant : String)

def set (ksBytes : String) (n : Nat) (d : PoolDb) : Except Exn Unit × PoolDb :=
  match m.keystorePool.fault n with
  | some e => (.error (.wrap .errSetResource (.err e)), d)
  | none =>
    (.ok (), { d with defaultKeystore := update d.defaultKeystore tenant (some ksBytes) })

def setDefaultKeystore (keystore : C) : Prog PoolDb Handed Exn Unit :=
  match m.marshal keystore with
  | .error e => .done (.error (.wrap .errMarshalConfig (.err e)))
  | .ok ksBytes => (Prog.exec (m.set tenant ksBytes)).mapError (.wrap .errSetDefaultKeystore)

/-- The end of `getKeystoreConfigFromPool` and of the transaction. -/
def storeConfig (cfg : Keystore) : Prog PoolDb Handed Exn (Keystore × C) :=
  match m.unmarshal cfg.config with
  | .error e => .done (.error (.wrap .errUnmarshalConfig (.err e)))
  | .ok keystore => do
    m.setDefaultKeystore tenant keystore
    return (cfg, keystore)

/-- `initDefaultKeystoreFromPool`: the configuration, with the keystore it is from. -/
def initDefaultKeystoreFromPool : Prog PoolDb Handed Exn (Keystore × C) :=
  (Prog.transact (fun n => (m.keystorePool.commit n).map .err) do
    let cfg ← m.keystorePool.pop.mapError (.wrap .errGetKeystoreFromPool)
    m.storeConfig tenant cfg).mapError (.wrap .errTransaction)

def handOut (ks : Keystore) : Prog PoolDb Handed Exn Unit :=
  .call fun _ _ handed => (.ok (), (tenant, ks) :: handed)

def request : Prog PoolDb Handed Exn Unit := do
  let (ks, _) ← m.initDefaultKeystoreFromPool tenant
  handOut tenant ks

end DefaultKeystores

inductive PopPhase (C : Type) where
  | ready
  /-- The transaction is open. -/
  | begun
  | read (ks : Keystore)
  | deleted (ks : Keystore)
  | stored (ks : Keystore) (keystore : C) (ksBytes : String)
  /-- The transaction is about to be rolled back. -/
  | failing (e : Exn) (log : PoolDb → PoolDb)
  /-- Committed, but the caller has not got the keystore yet. -/
  | owed (ks : Keystore)
  | ended (r : Except Exn Unit)

namespace PopPhase

variable {C : Type}

/-- The keystore that a call has read in a transaction that is still open. -/
def holds : PopPhase C → Option Keystore
  | read ks => some ks
  | deleted ks => some ks
  | stored ks _ _ => some ks
  | _ => none

def owes : PopPhase C → Option Keystore
  | owed ks => some ks
  | _ => none

end PopPhase

namespace DefaultKeystores

variable {C : Type} (m : DefaultKeystores C) (tenant : String)

def afterCommit (r : Except Exn (Keystore × C)) : Prog PoolDb Handed Exn Unit :=
  ((Prog.done r).mapError (.wrap .errTransaction)).bind fun p => handOut tenant p.1

def inTransaction (body : Prog PoolDb Handed Exn (Keystore × C)) (log : PoolDb → PoolDb) :
    Thread PoolDb Handed Exn :=
  .tx [] (fun n => (m.keystorePool.commit n).map .err) body log (afterCommit tenant)

def afterRead (r : Except Exn Keystore) : Prog PoolDb Handed Exn (Keystore × C) :=
  ((((Prog.done r).mapError (.wrap .errPoolIsDrained)).bind fun ks =>
    ((Prog.exec (m.keystorePool.delete ks)).mapError (.wrap .errCouldNotRemoveConfiguration)).bind
      fun _ => .done (.ok ks)).mapError (.wrap .errGetKeystoreFromPool)).bind (m.storeConfig tenant)

/-- The rest of the transaction, given how the deletion ended. -/
def afterDelete (ks : Keystore) (r : Except Exn Bool) : Prog PoolDb Handed Exn (Keystore × C) :=
  ((((Prog.done r).mapError (.wrap .errCouldNotRemoveConfiguration)).bind
    fun _ => .done (.ok ks)).mapError (.wrap .errGetKeystoreFromPool)).bind (m.storeConfig tenant)

def deleteLog (ks : Keystore) (d : PoolDb) : PoolDb :=
  { d with keystores := d.keystores.delete ks.id }

def storeLog (ks : Keystore) (ksBytes : String) (d : PoolDb) : PoolDb :=
  { keystores := d.keystores.delete ks.id
    defaultKeystore := update d.defaultKeystore tenant (some ksBytes) }

def thread : PopPhase C → Thread PoolDb Handed Exn
  | .ready => .top [] (m.request tenant)
  | .begun => m.inTransaction tenant (do
      let cfg ← m.keystorePool.pop.mapError (.wrap .errGetKeystoreFromPool)
      m.storeConfig tenant cfg) id
  | .read ks => m.inTransaction tenant (m.afterRead tenant (.ok ks)) id
  | .deleted ks => m.inTransaction tenant (m.storeConfig tenant ks) (deleteLog ks)
  | .stored ks keystore ksBytes =>
    m.inTransaction tenant (.done (.ok (ks, keystore))) (storeLog tenant ks ksBytes)
  | .failing e log => m.inTransaction tenant (.done (.error e)) log
  | .owed ks => .top [] (handOut tenant ks)
  | .ended r => .top [] (.done r)

inductive PopStep (s s' : St PoolDb Handed) : PopPhase C → PopPhase C → Prop where
  | quiet {ph ph' : PopPhase C} (hdb : s'.db = s.db) (hext : s'.ext = s.ext)
      (hholds : ph'.holds = ph.holds ∨ ph'.holds = none) (howes : ph.owes = none)
      (howes' : ph'.owes = none) : PopStep s s' ph ph'
  | read {ks : Keystore} (hdb : s'.db = s.db) (hext : s'.ext = s.ext)
      (hnewest : newest s.db.keystores.rows = some ks) : PopStep s s' .begun (.read ks)
  | commit {ks : Keystore} {keystore : C} {ksBytes : String} (hext : s'.ext = s.ext)
      (hdb : s'.db.keystores = s.db.keystores.delete ks.id) :
      PopStep s s' (.stored ks keystore ksBytes) (.owed ks)
  | hand {ks : Keystore} {r : Except Exn Unit} (hdb : s'.db = s.db)
      (hext : s'.ext = (tenant, ks) :: s.ext) : PopStep s s' (.owed ks) (.ended r)

variable {tenant}

theorem PopStep.fails {s s' : St PoolDb Handed} {ph ph' : PopPhase C} (hdb : s'.db = s.db)
    (hext : s'.ext = s.ext) (howes : ph.owes = none) (hholds' : ph'.holds = none)
    (howes' : ph'.owes = none) : PopStep tenant s s' ph ph' :=
  .quiet hdb hext (.inr hholds') howes howes'

variable (tenant) (s : St PoolDb Handed)

theorem step_begun : ∃ ph', ((m.thread tenant .begun).step s).1 = m.thread tenant ph' ∧
    PopStep tenant s ((m.thread tenant .begun).step s).2 .begun ph' := by
  have hstep : ((m.thread tenant .begun).step s).1 =
      m.inTransaction tenant (m.afterRead tenant (m.keystorePool.first s.clock s.db)) id := rfl
  cases hfirst : m.keystorePool.first s.clock s.db with
  | error e =>
    rw [hfirst] at hstep
    exact ⟨.failing _ id, hstep, .fails rfl rfl rfl rfl rfl⟩
  | ok ks =>
    rw [hfirst] at hstep
    refine ⟨.read ks, hstep, .read rfl rfl ?_⟩
    unfold KeystorePool.first at hfirst
    split at hfirst
    · cases hfirst
    · split at hfirst
      · rename_i hnewest
        cases hfirst
        exact hnewest
      · cases hfirst

theorem step_read (ks : Keystore) :
    ∃ ph', ((m.thread tenant (.read ks)).step s).1 = m.thread tenant ph' ∧
      PopStep tenant s ((m.thread tenant (.read ks)).step s).2 (.read ks) ph' := by
  have hstep : ((m.thread tenant (.read ks)).step s).1 =
      m.inTransaction tenant (m.afterDelete tenant ks (m.keystorePool.delete ks s.clock s.db).1)
        fun d => (m.keystorePool.delete ks s.clock d).2 := rfl
  cases hdelete : (m.keystorePool.delete ks s.clock s.db).1 with
  | error e =>
    rw [hdelete] at hstep
    exact ⟨.failing _ _, hstep, .fails rfl rfl rfl rfl rfl⟩
  | ok b =>
    have hlog : (fun d => (m.keystorePool.delete ks s.clock d).2) = deleteLog ks := by
      unfold KeystorePool.delete at hdelete ⊢
      split at hdelete
      · cases hdelete
      · split at hdelete
        · cases hdelete
        · rename_i hid
          funext d
          simp only [if_neg hid]
          rfl
    rw [hdelete, hlog] at hstep
    exact ⟨.deleted ks, hstep, .quiet rfl rfl (.inl rfl) rfl rfl⟩

theorem step_deleted (ks : Keystore) :
    ∃ ph', ((m.thread tenant (.deleted ks)).step s).1 = m.thread tenant ph' ∧
      PopStep tenant s ((m.thread tenant (.deleted ks)).step s).2 (.deleted ks) ph' := by
  -- a configuration that cannot be read or written ends the transaction at once
  have hend : ∀ e, m.storeConfig tenant ks = .done (.error e) →
      ∃ ph', ((m.thread tenant (.deleted ks)).step s).1 = m.thread tenant ph' ∧
        PopStep tenant s ((m.thread tenant (.deleted ks)).step s).2 (.deleted ks) ph' := by
    intro e he
    simp only [thread, he]
    exact ⟨.ended _, rfl, .fails rfl rfl rfl rfl rfl⟩
  cases hunmarshal : m.unmarshal ks.config with
  | error e => exact hend (.wrap .errUnmarshalConfig (.err e)) (by simp only [storeConfig, hunmarshal])
  | ok keystore =>
    cases hmarshal : m.marshal keystore with
    | error e =>
      refine hend (.wrap .errMarshalConfig (.err e)) ?_
      simp only [storeConfig, hunmarshal, setDefaultKeystore, hmarshal]
      rfl
    | ok ksBytes =>
      have hbody : m.storeConfig tenant ks =
          (((Prog.exec (m.set tenant ksBytes)).mapError (.wrap .errSetDefaultKeystore)).bind
            fun _ => .done (.ok (ks, keystore))) := by
        simp only [storeConfig, hunmarshal, setDefaultKeystore, hmarshal]
        rfl
      have hstep : ((m.thread tenant (.deleted ks)).step s).1 = m.inTransaction tenant
          (((Prog.done (m.set tenant ksBytes s.clock (deleteLog ks s.db)).1).mapError
            (.wrap .errSetDefaultKeystore)).bind fun _ => .done (.ok (ks, keystore)))
          fun d => (m.set tenant ksBytes s.clock (deleteLog ks d)).2 := by
        simp only [thread, hbody]
        rfl
      have hquiet : ((m.thread tenant (.deleted ks)).step s).2 = { s with clock := s.clock + 1 } := by
        simp only [thread, hbody]
        rfl
      rw [hstep, hquiet]
      unfold DefaultKeystores.set
      cases m.keystorePool.fault s.clock with
      | some e => exact ⟨.failing _ _, rfl, .fails rfl rfl rfl rfl rfl⟩
      | none => exact ⟨.stored ks keystore ksBytes, rfl, .quiet rfl rfl (.inl rfl) rfl rfl⟩

theorem step_stored (ks : Keystore) (keystore : C) (ksBytes : String) :
    ∃ ph', ((m.thread tenant (.stored ks keystore ksBytes)).step s).1 = m.thread tenant ph' ∧
      PopStep tenant s ((m.thread tenant (.stored ks keystore ksBytes)).step s).2
        (.stored ks keystore ksBytes) ph' := by
  simp only [thread, inTransaction, Thread.step]
  cases m.keystorePool.commit s.clock with
  | some e => exact ⟨.ended _, rfl, .fails rfl rfl rfl rfl rfl⟩
  | none => exact ⟨.owed ks, rfl, .commit rfl rfl⟩

theorem thread_step (ph : PopPhase C) :
    ∃ ph', ((m.thread tenant ph).step s).1 = m.thread tenant ph' ∧
      PopStep tenant s ((m.thread tenant ph).step s).2 ph ph' := by
  cases ph with
  | ready => exact ⟨.begun, rfl, .quiet rfl rfl (.inl rfl) rfl rfl⟩
  | begun => exact m.step_begun tenant s
  | read ks => exact m.step_read tenant s ks
  | deleted ks => exact m.step_deleted tenant s ks
  | stored ks keystore ksBytes => exact m.step_stored tenant s ks keystore ksBytes
  | failing e log => exact ⟨.ended _, rfl, .quiet rfl rfl (.inl rfl) rfl rfl⟩
  | owed ks => exact ⟨.ended _, rfl, .hand rfl rfl⟩
  | ended r => exact ⟨.ended r, rfl, .quiet rfl rfl (.inl rfl) rfl rfl⟩

end DefaultKeystores

theorem newest_mem : ∀ {rows : List Keystore} {ks : Keystore}, newest rows = some ks → ks ∈ rows
  | ks' :: rows, ks, h => by
    unfold newest at h
    split at h
    · cases h
      exact mem_cons_self
    · rename_i ks1 hnewest
      split at h
      · cases h
        exact mem_cons_self
      · cases h
        exact mem_cons_of_mem _ (newest_mem hnewest)

section Runs

variable {C ι : Type} [DecidableEq ι] {m : DefaultKeystores C} {tenant : ι → String}
  {s₀ : St PoolDb Handed} {c : Pool ι PoolDb Handed Exn}

/-- Another call has read this keystore, and its transaction is still open. -/
def DefaultKeystores.HeldByOther (m : DefaultKeystores C) (tenant : ι → String)
    (c : Pool ι PoolDb Handed Exn) (i : ι) (ks : Keystore) : Prop :=
  ∃ j ph, j ≠ i ∧ c.threads j = m.thread (tenant j) ph ∧ ph.holds = some ks

/-- A call may take its next step: if it reads the newest keystore, no other call holds it. -/
def DefaultKeystores.Free (m : DefaultKeystores C) (tenant : ι → String)
    (c : Pool ι PoolDb Handed Exn) (i : ι) : Prop :=
  c.threads i = m.thread (tenant i) .begun →
    ∀ ks, newest c.st.db.keystores.rows = some ks → ¬ m.HeldByOther tenant c i ks

/-- The invariant of the calls, in phases `ph`. The `waiting` calls have committed and not returned
yet. -/
structure Supply (m : DefaultKeystores C) (tenant : ι → String) (rows₀ : List Keystore)
    (c : Pool ι PoolDb Handed Exn) (ph : ι → PopPhase C) (waiting : List ι) : Prop where
  threads : ∀ i, c.threads i = m.thread (tenant i) (ph i)
  held : ∀ i ks, (ph i).holds = some ks → ks ∈ c.st.db.keystores.rows
  apart : ∀ i j ks, i ≠ j → (ph i).holds = some ks → (ph j).holds ≠ some ks
  nodup : waiting.Nodup
  waits : ∀ i, i ∈ waiting ↔ (ph i).owes ≠ none
  supply : rows₀.Perm (c.st.db.keystores.rows ++ c.st.ext.map Prod.snd ++
    waiting.filterMap fun i => (ph i).owes)

variable {rows₀ : List Keystore} {ph : ι → PopPhase C} {ph' : PopPhase C} {waiting : List ι} {i : ι}

theorem filterMap_owes_update (hi : i ∉ waiting) :
    waiting.filterMap (fun j => (update ph i ph' j).owes) =
      waiting.filterMap fun j => (ph j).owes := by
  refine filterMap_congr fun j hj => ?_
  have hji : j ≠ i := by
    rintro rfl
    exact hi hj
  rw [update_of_ne hji]

omit [DecidableEq ι] in
theorem filterMap_owes_cons {ks : Keystore} (h : (ph i).owes = some ks) :
    (i :: waiting).filterMap (fun j => (ph j).owes) = ks :: waiting.filterMap fun j => (ph j).owes :=
  filterMap_cons_some (f := fun j => (ph j).owes) h

theorem waits_update {waiting' : List ι} (hwaits : ∀ j, j ∈ waiting ↔ (ph j).owes ≠ none)
    (hother : ∀ j, j ≠ i → (j ∈ waiting' ↔ j ∈ waiting)) (hi : i ∈ waiting' ↔ ph'.owes ≠ none) (j : ι) :
    j ∈ waiting' ↔ (update ph i ph' j).owes ≠ none := by
  by_cases hj : j = i
  · rw [hj, update_self, hi]
  · rw [update_of_ne hj, hother j hj, hwaits]

theorem holds_update (hi : ∀ ks, ph'.holds = some ks → (ph i).holds = some ks) (j : ι) (ks : Keystore)
    (h : (update ph i ph' j).holds = some ks) : (ph j).holds = some ks := by
  by_cases hj : j = i
  · subst hj
    rw [update_self] at h
    exact hi ks h
  · rwa [update_of_ne hj] at h

theorem threads_step (h : ∀ j, c.threads j = m.thread (tenant j) (ph j))
    (hi : ((c.threads i).step c.st).1 = m.thread (tenant i) ph') (j : ι) :
    (c.step i).threads j = m.thread (tenant j) (update ph i ph' j) := by
  by_cases hj : j = i
  · subst hj
    rw [update_self, ← hi]
    exact update_self ..
  · rw [update_of_ne hj, ← h j]
    exact update_of_ne hj ..

theorem Supply.step (h : Supply m tenant rows₀ c ph waiting) (hfree : m.Free tenant c i) :
    ∃ ph' waiting', Supply m tenant rows₀ (c.step i) ph' waiting' := by
  obtain ⟨ph', hthread, hstep⟩ := m.thread_step (tenant i) c.st (ph i)
  rw [← h.threads i] at hthread hstep
  have hthreads := threads_step h.threads hthread
  change DefaultKeystores.PopStep (tenant i) c.st (c.step i).st (ph i) ph' at hstep
  have hiwaits := h.waits i
  generalize hph : ph i = p at hstep hiwaits
  cases hstep with
  | quiet hdb hext hholds howes howes' =>
    have hi : i ∉ waiting := fun hi => hiwaits.1 hi howes
    have hless : ∀ ks, ph'.holds = some ks → (ph i).holds = some ks := by
      intro ks hks
      rcases hholds with heq | hnone
      · rw [hph, ← heq, hks]
      · rw [hnone] at hks
        cases hks
    refine ⟨update ph i ph', waiting, hthreads, fun j ks hj => ?_, fun j k ks hjk hj hk => ?_,
      h.nodup, waits_update h.waits (fun _ _ => Iff.rfl) ?_, ?_⟩
    · rw [hdb]
      exact h.held j ks (holds_update hless j ks hj)
    · exact h.apart j k ks hjk (holds_update hless j ks hj) (holds_update hless k ks hk)
    · simp [hi, howes']
    · rw [hdb, hext, filterMap_owes_update hi]
      exact h.supply
  | @read ks hdb hext hnewest =>
    have hi : i ∉ waiting := fun hi => hiwaits.1 hi rfl
    have hother : ∀ j, j ≠ i → (ph j).holds ≠ some ks := fun j hj hks =>
      hfree (by rw [h.threads i, hph]) ks hnewest ⟨j, ph j, hj, h.threads j, hks⟩
    refine ⟨update ph i (.read ks), waiting, hthreads, fun j ks' hj => ?_,
      fun j k ks' hjk hj hk => ?_, h.nodup, waits_update h.waits (fun _ _ => Iff.rfl) ?_, ?_⟩
    · rw [hdb]
      by_cases hji : j = i
      · subst hji
        rw [update_self] at hj
        cases hj
        exact newest_mem hnewest
      · rw [update_of_ne hji] at hj
        exact h.held j ks' hj
    · by_cases hji : j = i
      · subst hji
        rw [update_self] at hj
        rw [update_of_ne hjk.symm] at hk
        cases hj
        exact hother k hjk.symm hk
      · rw [update_of_ne hji] at hj
        by_cases hki : k = i
        · subst hki
          rw [update_self] at hk
          cases hk
          exact hother j hji hj
        · rw [update_of_ne hki] at hk
          exact h.apart j k ks' hjk hj hk
    · simp [hi, PopPhase.owes]
    · rw [hdb, hext, filterMap_owes_update hi]
      exact h.supply
  | @commit ks keystore ksBytes hext hdb =>
    have hi : i ∉ waiting := fun hi => hiwaits.1 hi rfl
    have hiks : (ph i).holds = some ks := by rw [hph]; rfl
    have hless : ∀ ks', (PopPhase.owed ks : PopPhase C).holds = some ks' → (ph i).holds = some ks' :=
      fun ks' hks' => by cases hks'
    refine ⟨update ph i (.owed ks), i :: waiting, hthreads, fun j ks' hj => ?_,
      fun j k ks' hjk hj hk => ?_, nodup_cons.2 ⟨hi, h.nodup⟩,
      waits_update h.waits (fun j hj => by simp [hj]) (by simp [PopPhase.owes]), ?_⟩
    · have hji : i ≠ j := by
        rintro rfl
        rw [update_self] at hj
        cases hj
      have hj' := holds_update hless j ks' hj
      rw [hdb, mem_delete]
      refine ⟨h.held j ks' hj', fun hid => h.apart i j ks hji hiks ?_⟩
      rw [hj', c.st.db.keystores.eq_of_key (h.held j ks' hj') (h.held i ks hiks) hid]
    · exact h.apart j k ks' hjk (holds_update hless j ks' hj) (holds_update hless k ks' hk)
    · have howes : (update ph i (.owed ks) i).owes = some ks := by
        rw [update_self]
        rfl
      rw [hdb, hext, filterMap_owes_cons howes, filterMap_owes_update hi]
      refine h.supply.trans ?_
      have hrows := perm_delete (h.held i ks hiks)
      refine ((hrows.append_right _).append_right _).trans ?_
      exact perm_middle.symm
  | @hand ks r hdb hext =>
    have hi : i ∈ waiting := hiwaits.2 (by simp [PopPhase.owes])
    have hless : ∀ ks', (PopPhase.ended r : PopPhase C).holds = some ks' → (ph i).holds = some ks' :=
      fun ks' hks' => by cases hks'
    have herase : i ∉ waiting.erase i := h.nodup.not_mem_erase
    refine ⟨update ph i (.ended r), waiting.erase i, hthreads, fun j ks' hj => ?_,
      fun j k ks' hjk hj hk => ?_, h.nodup.erase i,
      waits_update h.waits (fun j hj => mem_erase_of_ne hj) ?_, ?_⟩
    · rw [hdb]
      exact h.held j ks' (holds_update hless j ks' hj)
    · exact h.apart j k ks' hjk (holds_update hless j ks' hj) (holds_update hless k ks' hk)
    · simp [herase, PopPhase.owes]
    · rw [hdb, hext, filterMap_owes_update herase]
      refine h.supply.trans ?_
      have howes : (ph i).owes = some ks := by
        rw [hph]
        rfl
      have hwaiting := (perm_cons_erase hi).filterMap fun j => (ph j).owes
      rw [filterMap_owes_cons howes] at hwaiting
      refine (hwaiting.append_left _).trans ?_
      simp only [map_cons, append_assoc, cons_append]
      exact List.Perm.append_left _ perm_middle

omit [DecidableEq ι] in
theorem Supply.start (h₀ : s₀.ext = []) : Supply m tenant s₀.db.keystores.rows
    (Pool.start (fun i => m.request (tenant i)) s₀) (fun _ => .ready) [] where
  threads _ := rfl
  held i ks h := by cases h
  apart i j ks _ h := by cases h
  nodup := nodup_nil
  waits i := by simp [PopPhase.owes]
  supply := by simp [Pool.start, h₀]

theorem owes_of_ended {tenant : String} {p : PopPhase C} (h : (m.thread tenant p).Ended) :
    p.owes = none := by
  cases p with
  | owed ks =>
    obtain ⟨seen, r, h⟩ := h
    cases h
  | _ => rfl

/-- Calls that interleave. If no call reads a keystore that another call holds, no keystore is handed
out twice, and when all calls have ended, those handed out are the ones missing in the pool. -/
theorem keystore_popped_once (h₀ : s₀.ext = [])
    (hrun : Pool.Interleaved (m.Free tenant) (Pool.start (fun i => m.request (tenant i)) s₀) c) :
    (c.st.ext.map (·.2.id)).Nodup ∧
      c.st.db.keystores.rows.length + c.st.ext.length ≤ s₀.db.keystores.rows.length ∧
      ((∀ i, (c.threads i).Ended) →
        s₀.db.keystores.rows.Perm (c.st.db.keystores.rows ++ c.st.ext.map Prod.snd)) := by
  obtain ⟨ph, waiting, h⟩ : ∃ ph waiting, Supply m tenant s₀.db.keystores.rows c ph waiting := by
    induction hrun with
    | refl => exact ⟨_, _, Supply.start h₀⟩
    | tail _ hstep ih =>
      obtain ⟨ph, waiting, h⟩ := ih
      obtain ⟨i, hfree, rfl⟩ := hstep
      exact h.step hfree
  refine ⟨?_, ?_, fun hended => ?_⟩
  · have hids := (h.supply.map (·.id)).nodup_iff.1 s₀.db.keystores.nodup
    rw [List.map_append, List.map_append, List.map_map] at hids
    exact (List.nodup_append.1 (List.nodup_append.1 hids).1).2.1
  · have hlength := h.supply.length_eq
    simp only [List.length_append, List.length_map] at hlength
    omega
  · have hwaiting : waiting = [] := by
      refine List.eq_nil_iff_forall_not_mem.2 fun i hi => (h.waits i).1 hi ?_
      exact owes_of_ended (h.threads i ▸ hended i)
    have hsupply := h.supply
    rw [hwaiting] at hsupply
    simpa using hsupply

omit [DecidableEq ι] in
theorem DefaultKeystores.free_of_not_inTx (h : ∀ j, j ≠ i → (c.threads j).inTx = false) :
    m.Free tenant c i := by
  rintro - ks - ⟨j, p, hj, hthread, hholds⟩
  have hout := h j hj
  rw [hthread] at hout
  cases p with
  | read => cases hout
  | deleted => cases hout
  | stored => cases hout
  | _ => cases hholds

/-- What every interleaving keeps: a keystore of the pool that is not in the table any more was handed
out or is owed. -/
structure Stock (m : DefaultKeystores C) (tenant : ι → String) (pool : Table Keystore.id)
    (c : Pool ι PoolDb Handed Exn) (ph : ι → PopPhase C) : Prop where
  threads : ∀ i, c.threads i = m.thread (tenant i) (ph i)
  rows : ∀ ks ∈ c.st.db.keystores.rows, ks ∈ pool.rows
  held : ∀ i ks, (ph i).holds = some ks → ks ∈ pool.rows
  kept : ∀ ks ∈ pool.rows, ks ∈ c.st.db.keystores.rows ∨ (∃ t, (t, ks) ∈ c.st.ext) ∨
    ∃ i, (ph i).owes = some ks

theorem Stock.step {pool : Table Keystore.id} (h : Stock m tenant pool c ph) (i : ι) :
    ∃ ph', Stock m tenant pool (c.step i) ph' := by
  obtain ⟨ph', hthread, hstep⟩ := m.thread_step (tenant i) c.st (ph i)
  rw [← h.threads i] at hthread hstep
  have hthreads := threads_step h.threads hthread
  change DefaultKeystores.PopStep (tenant i) c.st (c.step i).st (ph i) ph' at hstep
  have hheld : (∀ ks, ph'.holds = some ks → ks ∈ pool.rows) →
      ∀ j ks, (update ph i ph' j).holds = some ks → ks ∈ pool.rows := by
    intro hi j ks hj
    by_cases hji : j = i
    · exact hi ks (by rwa [hji, update_self] at hj)
    · exact h.held j ks (by rwa [update_of_ne hji] at hj)
  have howed : ∀ ks, (ph i).owes ≠ some ks → (∃ j, (ph j).owes = some ks) →
      ∃ j, (update ph i ph' j).owes = some ks := by
    rintro ks hi ⟨j, hj⟩
    exact ⟨j, by rwa [update_of_ne (by rintro rfl; exact hi hj)]⟩
  have hholds := h.held i
  refine ⟨update ph i ph', ?_⟩
  generalize ph i = p at hstep hholds howed
  cases hstep with
  | quiet hdb hext hsame howes =>
    refine ⟨hthreads, hdb ▸ h.rows, hheld fun ks hks => ?_, fun ks hks => ?_⟩
    · rcases hsame with heq | hnone
      · exact hholds ks (heq ▸ hks)
      · exact absurd hks (hnone ▸ nofun)
    · rw [hdb, hext]
      exact (h.kept ks hks).imp_right (Or.imp_right (howed ks (howes ▸ nofun)))
  | read hdb hext hnewest =>
    refine ⟨hthreads, hdb ▸ h.rows, hheld fun ks hks => ?_, fun ks hks => ?_⟩
    · cases hks
      exact h.rows _ (newest_mem hnewest)
    · rw [hdb, hext]
      exact (h.kept ks hks).imp_right (Or.imp_right (howed ks nofun))
  | @commit ks _ _ hext hdb =>
    refine ⟨hthreads, fun r hr => ?_, hheld nofun, fun r hr => ?_⟩
    · exact h.rows r (mem_delete.1 (hdb ▸ hr)).1
    · rw [hdb, hext, mem_delete]
      by_cases hid : r.id = ks.id
      · -- the row that is deleted is the one the call has read
        cases pool.eq_of_key hr (hholds ks rfl) hid
        exact .inr (.inr ⟨i, by rw [update_self]; rfl⟩)
      · exact (h.kept r hr).imp (fun hrow => ⟨hrow, hid⟩) (Or.imp_right (howed r nofun))
  | @hand ks _ hdb hext =>
    refine ⟨hthreads, hdb ▸ h.rows, hheld nofun, fun r hr => ?_⟩
    rw [hdb, hext]
    by_cases hrks : r = ks
    · exact .inr (.inl ⟨tenant i, hrks ▸ mem_cons_self⟩)
    · refine (h.kept r hr).imp_right (Or.imp ?_ (howed r fun hks => hrks (Option.some.inj hks).symm))
      exact fun ht => ht.imp fun _ => mem_cons_of_mem _

/-- However the calls interleave, also where two of them are handed the same keystore: the pool gains
nothing, and when all have ended, every keystore of it is still there or was handed out. -/
theorem keystores_not_lost (m : DefaultKeystores C) (tenant : ι → String) (s₀ : St PoolDb Handed)
    (schedule : List ι) :
    let c := (Pool.start (fun i => m.request (tenant i)) s₀).steps schedule
    (∀ ks ∈ c.st.db.keystores.rows, ks ∈ s₀.db.keystores.rows) ∧
    ((∀ i, (c.threads i).Ended) → ∀ ks ∈ s₀.db.keystores.rows,
      ks ∈ c.st.db.keystores.rows ∨ ∃ t, (t, ks) ∈ c.st.ext) := by
  have hrun : ∀ c ph, Stock m tenant s₀.db.keystores c ph →
      ∃ ph', Stock m tenant s₀.db.keystores (c.steps schedule) ph' := by
    induction schedule with
    | nil => exact fun c ph h => ⟨ph, h⟩
    | cons i schedule ih =>
      intro c ph h
      obtain ⟨ph', h'⟩ := h.step i
      exact ih (c.step i) ph' h'
  intro c
  obtain ⟨ph, h⟩ := hrun (Pool.start _ s₀) (fun _ => .ready)
    ⟨fun _ => rfl, fun _ h => h, nofun, fun _ h => .inl h⟩
  refine ⟨h.rows, fun hended ks hks => (h.kept ks hks).imp_right fun hout => hout.resolve_right ?_⟩
  rintro ⟨i, hi⟩
  rw [owes_of_ended (h.threads i ▸ hended i)] at hi
  cases hi

end Runs

namespace Sample

/-- Everything succeeds. -/
def defaultKeystores : DefaultKeystores String := ⟨⟨fun _ => none, fun _ => none⟩, .ok, .ok⟩

/-- Two keystores. -/
def poolDb : PoolDb where
  keystores := ⟨[⟨1, 0, "p", "a"⟩, ⟨2, 1, "p", "b"⟩], by decide⟩
  defaultKeystore _ := none

def asking (i : Bool) : String := bif i then "t" else "u"

def twoTenantsAsk : Pool Bool PoolDb Handed Exn :=
  Pool.start (fun i => defaultKeystores.request (asking i)) ⟨poolDb, [], 0, []⟩

/-- One after the other. -/
def askInTurn : List Bool := List.replicate 7 false ++ List.replicate 7 true

def askTogether : List Bool :=
  [false, false, true, true] ++ List.replicate 5 false ++ List.replicate 5 true

theorem keystores_popped_in_turn :
    ((twoTenantsAsk.steps askInTurn).st.ext.map (·.2.id)).Nodup ∧
      (twoTenantsAsk.steps askInTurn).st.ext.map (·.2.id) = [1, 2] := by
  have halong : Pool.Along (fun c i => ∀ j, j ≠ i → (c.threads j).inTx = false) twoTenantsAsk
      askInTurn := by decide +kernel
  have hrun : Pool.Interleaved (defaultKeystores.Free asking) twoTenantsAsk
      (twoTenantsAsk.steps askInTurn) :=
    halong.interleaved.mono fun c i h => DefaultKeystores.free_of_not_inTx h
  exact ⟨(keystore_popped_once rfl hrun).1, by decide +kernel⟩

/-- Both tenants get the same keystore, and one keystore is left in the pool. -/
theorem keystore_popped_twice :
    (twoTenantsAsk.steps askTogether).st.ext.map (fun p => (p.1, p.2.id)) = [("t", 2), ("u", 2)] ∧
      (twoTenantsAsk.steps askTogether).st.db.keystores.rows.map (·.id) = [1] := by
  decide +kernel

end Sample

end Cmk
