import Cmk.Keys.Regions

/-!
# Cmk.Tenant.Offboard

`TenantManager.OffboardTenant`: a call sends the unlinks and detachments that are missing, and says
whether the tenant can be deleted. It is called again until it does.

- `offboardTenant_ok`: the checks a call that succeeds has passed. Each reads the database at its own
  moment; the statement is about the state the call leaves.
- `offboardTenant_success_iff`: when a success means what it should. `checkAllSystemsUnlinked` reads
  `key_configuration_id`, which a link or a switch only writes when its job is done, so a job in
  flight is not seen; and without a client of the registry nothing is unmapped.
-/

namespace Cmk

open Tx List Prog Repo

namespace Repo

variable (r : Repo) (ctx : Ctx) {α σ : Type}

/-- The items of a page, by a function that carries a value along. -/
def foldItems (step : σ → α → M σ) : σ → List α → M σ
  | acc, [] => pure acc
  | acc, a :: items => do foldItems step (← step acc a) items

def foldPage (select : Db → List α) (step : σ → α → M σ) (offset : Nat) (items : List α) (acc : σ)
    (next : σ → M σ) : M σ := do
  let acc ← foldItems step acc items
  if items.isEmpty then return acc
  let count ← r.count ctx fun d => (select d).length
  if count ≤ offset + defaultLimit then return acc
  next acc

def foldFrom (select : Db → List α) (step : σ → α → M σ) : Nat → Nat → σ → M σ
  | 0, _, acc => pure acc
  | pages + 1, offset, acc => do
    let (items, _) ← r.listPage ctx select offset
    r.foldPage ctx select step offset items acc (foldFrom select step pages (offset + defaultLimit))

/-- `ProcessInBatch` with a function that writes to a variable outside of it. -/
def foldInBatch (select : Db → List α) (step : σ → α → M σ) (acc : σ) : M σ := do
  let (items, rows) ← r.listPage ctx select 0
  r.foldPage ctx select step 0 items acc
    (r.foldFrom ctx select step (rows / defaultLimit) defaultLimit)

end Repo

/-- The codes of `google.golang.org/grpc/codes` that are told apart. -/
inductive GrpcCode where
  | failedPrecondition | notFound | invalidArgument | internal
  | other (name : String)
  deriving DecidableEq, Repr

structure GrpcStatus where
  code : GrpcCode
  message : String
  deriving DecidableEq, Repr

def containsText (s sub : String) : Bool := s.toList.tails.any fun l => sub.toList.isPrefixOf l

inductive OffboardingStatus where
  | goToNextStep | continueAndWait | failed | success
  deriving DecidableEq, Repr

/-- How an attempt to unmap a system ends: with nil without a call, with nil, or with an error. -/
inductive UnmapReply where
  | noClient
  | unmapped
  | refused (st : GrpcStatus)
  deriving DecidableEq, Repr

structure TenantManager where
  repo : Repo
  sys : SystemManager
  key : KeyManager
  /-- `UnmapSystemFromTenant` of the registry, if there is a client: the error it returns. -/
  registry : Option (Nat → System → String → Option GrpcStatus)

/-- `err.Error()`. -/
def Exn.text : Exn → String
  | .err e => e.error
  | .panic => "panic"

namespace TenantManager

variable (m : TenantManager) (ctx : Ctx)

/-- The systems that are linked to a key configuration and not in processing state. -/
def linkedSystems (d : Db) : List System :=
  d.systems.rows.filter fun s => s.keyConfigurationID.isSome ∧ s.status ≠ .processing

def unlinkSystems : List System → M Unit
  | [] => pure ()
  | s :: systems => do
    m.sys.decommissionSystemAction ctx s.id
    unlinkSystems systems

def sendUnlinkForConnectedSystems : M Unit :=
  m.repo.processInBatch ctx linkedSystems (m.unlinkSystems ctx)

def checkAllSystemsUnlinked : Q Bool := do
  let count ← m.repo.count ctx fun d => d.systems.rows.countP (·.keyConfigurationID.isSome)
  return count = 0

def unmapSystemFromRegistry (system : System) : M UnmapReply :=
  .call fun n _ x =>
    match ctx.extractTenantID with
    | .error e => (.ok (.refused ⟨.other "Unknown", e.text⟩), x)
    | .ok tenant =>
      match m.registry with
      | none => (.ok .noClient, x)
      | some unmap =>
        match unmap n system tenant with
        | none => (.ok .unmapped, x)
        | some st => (.ok (.refused st), x)

/-- The registry does not know the system, or not as one of the tenant. -/
def alreadyUnmapped (st : GrpcStatus) : Bool :=
  st.code = .failedPrecondition ∧ containsText st.message "system is not linked to the tenant" ∨
    st.code = .notFound ∧ containsText st.message "system not found"

def unmapSystemErrorCanContinue : UnmapReply → OffboardingStatus
  | .noClient | .unmapped => .goToNextStep
  | .refused st =>
    if alreadyUnmapped st then .goToNextStep
    else if st.code = .invalidArgument then .failed
    else .continueAndWait

def escalateOffboardingStatus (current target : OffboardingStatus) : OffboardingStatus :=
  if current = .failed ∨ target = .failed then .failed
  else if current = .continueAndWait ∨ target = .continueAndWait then .continueAndWait
  else .goToNextStep

def unmapSystem (acc : OffboardingStatus × List (System × UnmapReply)) (s : System) :
    M (OffboardingStatus × List (System × UnmapReply)) := do
  let reply ← m.unmapSystemFromRegistry ctx s
  return (escalateOffboardingStatus acc.1 (unmapSystemErrorCanContinue reply), acc.2 ++ [(s, reply)])

/-- The overall status, with a record of the replies. An error of the listing is only logged. -/
def unmapAllSystemsFromRegistry : M (OffboardingStatus × List (System × UnmapReply)) := do
  let loop := m.repo.foldInBatch ctx (·.systems.rows) (m.unmapSystem ctx) (.goToNextStep, [])
  match ← errValue loop with
  | .error _ => return (.continueAndWait, [])
  | .ok r => return r

/-- The keys joined to a key configuration with a primary key whose state is none of `states`. -/
def keysExcept (states : List KeyState) (d : Db) : List Key :=
  d.keys.rows.filter fun k =>
    (d.keyConfigurations.get? k.keyConfigurationID).any (·.primaryKeyID.isSome) ∧ k.state ∉ states

def detachKeys : List Key → M Unit
  | [] => pure ()
  | k :: keys => do
    m.key.detach ctx k
    detachKeys keys

def detachPrimaryKeys : M Unit :=
  m.repo.processInBatch ctx (keysExcept [.detaching, .detached]) (m.detachKeys ctx)

def checkAllPrimaryKeysProcessed : Q Bool := do
  let count ← m.repo.count ctx fun d => (keysExcept [.detaching, .detached] d).length
  return count = 0

def checkAllPrimaryKeysDetached : Q Bool := do
  let count ← m.repo.count ctx fun d => (keysExcept [.detached] d).length
  return count = 0

/-- `OffboardTenant`, with a record of the replies of the registry. -/
def offboardTenant : M (OffboardingStatus × List (System × UnmapReply)) := do
  m.sendUnlinkForConnectedSystems ctx
  let systemsUnlinked ← m.checkAllSystemsUnlinked ctx
  if ¬ systemsUnlinked then return (.continueAndWait, [])
  m.detachPrimaryKeys ctx
  let keysProcessed ← m.checkAllPrimaryKeysProcessed ctx
  if ¬ keysProcessed then return (.continueAndWait, [])
  let (st, unmapped) ← m.unmapAllSystemsFromRegistry ctx
  if st = .failed ∨ st = .continueAndWait then return (st, unmapped)
  let keysDetached ← m.checkAllPrimaryKeysDetached ctx
  if ¬ keysDetached then return (.continueAndWait, unmapped)
  return (.success, unmapped)

end TenantManager

namespace Repo

variable {r : Repo} {ctx : Ctx} {α σ : Type} {select : Db → List α} {step : σ → α → M σ}
  {I : List α → σ → Prop} {i : Bool} {s s' : State} {acc acc' : σ}

section

variable (hstep : ∀ acc a, Keeps Eq AnyWorld (step acc a))
  (hI : ∀ l acc a acc' s s', I l acc → (step acc a).run i s = (.ok acc', s') → I (l ++ [a]) acc')

include hstep hI

theorem foldItems_ok {l items : List α} (h0 : I l acc)
    (h : (foldItems step acc items).run i s = (.ok acc', s')) :
    I (l ++ items) acc' ∧ s'.db = s.db := by
  induction items generalizing l acc s with
  | nil =>
    cases h
    exact ⟨by rwa [append_nil], rfl⟩
  | cons a items ih =>
    obtain ⟨acc1, s1, h1, h2⟩ := run_bind_ok h
    obtain ⟨hinv, hdb⟩ := ih (hI _ _ _ _ _ _ h0 h1) h2
    rw [append_assoc, singleton_append] at hinv
    exact ⟨hinv, hdb.trans ((hstep acc a).run h1).1.symm⟩

theorem foldPage_ok {l : List α} {offset : Nat} {next : σ → M σ} (hl : l.length = (select s.db).length)
    (h0 : I (l.take offset) acc)
    (hnext : ∀ acc1 s1, s1.db = s.db → l.length > offset + defaultLimit →
      I (l.take (offset + defaultLimit)) acc1 → (next acc1).run i s1 = (.ok acc', s') → I l acc')
    (h : (r.foldPage ctx select step offset ((l.drop offset).take defaultLimit) acc next).run i s =
      (.ok acc', s')) : I l acc' := by
  obtain ⟨acc1, s1, h1, h2⟩ := run_bind_ok h
  obtain ⟨hinv, hdb⟩ := foldItems_ok hstep hI h0 h1
  rw [← take_add] at hinv
  split at h2
  · rename_i hempty
    cases h2
    have hle : l.length ≤ offset := by
      simp [defaultLimit] at hempty
      exact hempty
    rwa [take_of_length_le (by omega)] at hinv
  · obtain ⟨count, n, hcount, h3⟩ := run_query_bind_ok h2
    rw [(eval_count_ok hcount).1, hdb, ← hl] at h3
    split at h3
    · rename_i hle
      cases h3
      rwa [take_of_length_le hle] at hinv
    · rename_i hlt
      refine hnext acc1 _ ?_ (by omega) hinv h3
      rfl

theorem foldFrom_ok {l : List α} {pages offset : Nat} (hσ : r.OneOrder)
    (hl : l = shuffle (select s.db) (r.order 0 _))
    (hpages : (select s.db).length ≤ offset + pages * defaultLimit) (h0 : I (l.take offset) acc)
    (h : (r.foldFrom ctx select step pages offset acc).run i s = (.ok acc', s')) : I l acc' := by
  have hlen : l.length = (select s.db).length := by rw [hl, (shuffle_perm _ _).length_eq]
  induction pages generalizing offset acc s with
  | zero =>
    cases h
    rwa [take_of_length_le (by omega)] at h0
  | succ pages ih =>
    obtain ⟨⟨items, rows⟩, n, hlist, h1⟩ := run_query_bind_ok h
    obtain ⟨hitems, -⟩ := eval_query_ok hlist
    cases hitems
    rw [page, hσ, ← hl] at h1
    refine foldPage_ok (s := { s with clock := n }) hstep hI hlen h0
      (fun acc1 s1 hdb _ hinv h2 => ?_) h1
    refine ih (s := s1) ?_ ?_ hinv h2 ?_
    · rw [hdb]
      exact hl
    · rw [hdb]
      rw [Nat.succ_mul] at hpages
      show (select s.db).length ≤ _
      omega
    · rw [hdb]
      exact hlen

/-- A batch over rows that stay as they are sees each of them, if they fit on one page or are always
listed in the same order. -/
theorem foldInBatch_ok (hσ : (select s.db).length ≤ defaultLimit ∨ r.OneOrder) (h0 : I [] acc)
    (h : (r.foldInBatch ctx select step acc).run i s = (.ok acc', s')) :
    ∃ l, l.Perm (select s.db) ∧ I l acc' := by
  obtain ⟨⟨items, rows⟩, n, hlist, h1⟩ := run_query_bind_ok h
  obtain ⟨hitems, -⟩ := eval_query_ok hlist
  cases hitems
  have hperm := shuffle_perm (select s.db) (r.order s.clock _)
  have hfirst : I ((shuffle (select s.db) (r.order s.clock _)).take 0) acc := h0
  refine ⟨_, hperm, foldPage_ok (s := { s with clock := n }) hstep hI hperm.length_eq hfirst
    (fun acc1 s1 hdb hlt hinv h2 => ?_) h1⟩
  have hσ : r.OneOrder := hσ.resolve_left (by rw [hperm.length_eq] at hlt; omega)
  have hdiv := Nat.lt_div_mul_add (a := (select s.db).length) (show 0 < defaultLimit by decide)
  refine foldFrom_ok hstep hI hσ ?_ ?_ hinv h2
  · rw [hdb, hσ]
  · rw [hdb, Nat.zero_add]
    show (select s.db).length ≤ _
    omega

end

section

variable {R : Db → Db → Prop} {Q : World → World → Prop} (h : ∀ acc a, Keeps R Q (step acc a))

include h

theorem foldItems_keeps (acc : σ) (items : List α) : Keeps R Q (foldItems step acc items) := by
  induction items generalizing acc with
  | nil => exact .pure _
  | cons a items ih => exact .bind (h acc a) fun acc => ih acc

theorem foldFrom_keeps (pages offset : Nat) (acc : σ) :
    Keeps R Q (r.foldFrom ctx select step pages offset acc) := by
  induction pages generalizing offset acc with
  | zero => exact .pure _
  | succ pages ih =>
    exact .bind (.query _) fun _ => .bind (foldItems_keeps h _ _) fun _ => .ite (.pure _)
      (.bind (.query _) fun _ => .ite (.pure _) (ih _ _))

theorem foldInBatch_keeps (acc : σ) : Keeps R Q (r.foldInBatch ctx select step acc) :=
  .bind (.query _) fun _ => .bind (foldItems_keeps h _ _) fun _ => .ite (.pure _)
    (.bind (.query _) fun _ => .ite (.pure _) (foldFrom_keeps h _ _ _))

end

end Repo

def SameNumber (d d' : Db) : Prop := d'.systems.rows.length = d.systems.rows.length

instance : Std.Refl SameNumber := ⟨fun _ => rfl⟩

instance : IsTrans Db SameNumber := ⟨fun _ _ _ h h' => h'.trans h⟩

def SystemsKept (d d' : Db) : Prop := d'.systems = d.systems

instance : Std.Refl SystemsKept := ⟨fun _ => rfl⟩

instance : IsTrans Db SystemsKept := ⟨fun _ _ _ h h' => h'.trans h⟩

def Job.Links (job : Job) : Prop := job.type = .systemLink ∨ job.type = .systemSwitch

def NoLinkAdded (x x' : World) : Prop := ∃ l, x'.jobs = x.jobs ++ l ∧ ∀ job ∈ l, ¬ job.Links

instance : Std.Refl NoLinkAdded := ⟨fun x => ⟨[], by simp, by simp⟩⟩

instance : IsTrans World NoLinkAdded := ⟨by
  rintro x x₁ x₂ ⟨l, h, hl⟩ ⟨l', h', hl'⟩
  refine ⟨l ++ l', by rw [h', h, List.append_assoc], fun job hjob => ?_⟩
  rcases List.mem_append.1 hjob with hjob | hjob
  · exact hl job hjob
  · exact hl' job hjob⟩

namespace TenantManager

variable {m : TenantManager} {ctx : Ctx}

theorem decommissionSystemAction_keeps (sys : SystemManager) (systemID : UUID) :
    Keeps SameNumber NoLinkAdded (sys.decommissionSystemAction ctx systemID) := by
  simp only [SystemManager.decommissionSystemAction, EventFactory.systemUnlinkDecommission,
    throw_bind]
  refine sys.repo.transaction_keeps fun ctx => .bind (.query _) fun a => .ite ?_ (.throw _)
  refine .bind (.query (.done _)) fun keyID => .bind (.mapError _ (.ite (.throw _) ?_)) fun _ => .pure _
  refine .bind (sys.eventFactory.repo.transaction_keeps fun ctx => ?_) fun _ => ?_
  · refine .bind (exec_keeps fun _ d => ?_) fun _ => .pure _
    exact length_map _
  · refine .bind (.query (.done _)) fun _ => .call fun n d x => ?_
    split
    · exact refl_of _ _
    · exact ⟨_, rfl, by simp [Job.Links]⟩

theorem unlinkSystems_keeps (systems : List System) :
    Keeps SameNumber NoLinkAdded (m.unlinkSystems ctx systems) := by
  induction systems with
  | nil => exact .pure _
  | cons s systems ih => exact .bind (decommissionSystemAction_keeps _ _) fun _ => ih

theorem detach_keeps (key : KeyManager) (k : Key) :
    Keeps SystemsKept NoLinkAdded (key.detach ctx k) := by
  refine key.repo.transaction_keeps fun ctx => .bind (exec_keeps fun _ d => ?_) fun k' => ?_
  · split
    · exact rfl
    · split
      · exact rfl
      · exact rfl
  · refine .bind (.attempt (.bind (.query (.done _)) fun tenant => .call fun n d x => ?_)) fun r => ?_
    · split
      · exact refl_of _ _
      · exact ⟨[], by simp, by simp⟩
    · cases r with
      | ok a => exact .pure _
      | error e => exact .ite (.pure _) (.throw _)

theorem detachKeys_keeps (keys : List Key) : Keeps SystemsKept NoLinkAdded (m.detachKeys ctx keys) := by
  induction keys with
  | nil => exact .pure _
  | cons k keys ih => exact .bind (detach_keeps _ _) fun _ => ih

theorem unmapSystem_keeps (acc : OffboardingStatus × List (System × UnmapReply)) (s : System) :
    Keeps Eq Eq (m.unmapSystem ctx acc s) := by
  refine .bind (.call fun n d x => ?_) fun _ => .pure _
  split
  · rfl
  · split
    · rfl
    · split <;> rfl

end TenantManager

/-- The system was unmapped, or the registry reported that there is nothing to unmap. -/
def UnmapReply.Gone : UnmapReply → Prop
  | .noClient => False
  | .unmapped => True
  | .refused st => TenantManager.alreadyUnmapped st

namespace TenantManager

variable {m : TenantManager} {ctx : Ctx} {s s' : State} {unmapped : List (System × UnmapReply)}

def GoesOn (st : OffboardingStatus) : Prop := ¬ (st = .failed ∨ st = .continueAndWait)

theorem goesOn_escalate {current target : OffboardingStatus}
    (h : GoesOn (escalateOffboardingStatus current target)) : GoesOn current ∧ GoesOn target := by
  unfold GoesOn at *
  revert h
  cases current <;> cases target <;> decide

theorem goesOn_reply {reply : UnmapReply} (h : GoesOn (unmapSystemErrorCanContinue reply)) :
    reply = .noClient ∨ reply.Gone := by
  cases reply with
  | noClient => exact .inl rfl
  | unmapped => exact .inr trivial
  | refused st =>
    by_cases hst : alreadyUnmapped st = true
    · exact .inr hst
    · refine absurd ?_ h
      rw [unmapSystemErrorCanContinue, if_neg hst]
      split
      · exact .inl rfl
      · exact .inr rfl

/-- What the loop has collected when it has seen the systems of a list. -/
structure Unmaps (m : TenantManager) (l : List System)
    (acc : OffboardingStatus × List (System × UnmapReply)) : Prop where
  systems : acc.2.map Prod.fst = l
  replies : GoesOn acc.1 → m.registry ≠ none → ∀ c ∈ acc.2, c.2.Gone
  noClient : m.registry = none → ∀ c ∈ acc.2, ¬ c.2.Gone

theorem unmapSystemFromRegistry_reply {i : Bool} {sys : System} {reply : UnmapReply}
    (h : (m.unmapSystemFromRegistry ctx sys).run i s = (.ok reply, s')) :
    (m.registry ≠ none → reply ≠ .noClient) ∧ (m.registry = none → ¬ reply.Gone) := by
  rw [unmapSystemFromRegistry, run_call] at h
  have hreply := congrArg Prod.fst h
  dsimp only at hreply
  split at hreply
  · cases hreply
    refine ⟨fun _ hreply => (by cases hreply), fun _ hgone => ?_⟩
    simp [UnmapReply.Gone, alreadyUnmapped] at hgone
  · split at hreply
    · rename_i hnone
      cases hreply
      exact ⟨fun h => absurd hnone h, fun _ h => h⟩
    · rename_i unmap hsome
      refine ⟨fun _ => ?_, fun hnone => by rw [hsome] at hnone; cases hnone⟩
      split at hreply <;> cases hreply <;> exact fun h => by cases h

theorem unmaps_step {i : Bool} {l : List System} {sys : System}
    {acc acc' : OffboardingStatus × List (System × UnmapReply)} (hacc : m.Unmaps l acc)
    (h : (m.unmapSystem ctx acc sys).run i s = (.ok acc', s')) : m.Unmaps (l ++ [sys]) acc' := by
  obtain ⟨reply, s1, hreply, h1⟩ := run_bind_ok h
  cases h1
  obtain ⟨hclient, hnone⟩ := unmapSystemFromRegistry_reply hreply
  refine ⟨by rw [map_append, hacc.systems]; rfl, fun hgo hreg c hc => ?_, fun hreg c hc => ?_⟩
  · obtain ⟨hgo1, hgo2⟩ := goesOn_escalate hgo
    rcases mem_append.1 hc with hc | hc
    · exact hacc.replies hgo1 hreg c hc
    · rw [mem_singleton.1 hc]
      exact (goesOn_reply hgo2).resolve_left (hclient hreg)
  · rcases mem_append.1 hc with hc | hc
    · exact hacc.noClient hreg c hc
    · rw [mem_singleton.1 hc]
      exact hnone hreg

theorem unmapAll_ok {st : OffboardingStatus}
    (hpages : s.db.systems.rows.length ≤ defaultLimit ∨ m.repo.OneOrder) (hgo : GoesOn st)
    (h : (m.unmapAllSystemsFromRegistry ctx).run false s = (.ok (st, unmapped), s')) :
    (∃ l, l.Perm s.db.systems.rows ∧ m.Unmaps l (st, unmapped)) ∧ s'.db = s.db ∧ s'.ext = s.ext := by
  obtain ⟨r, s1, hfold, h1⟩ := run_bind_ok h
  have hkeeps : Keeps Eq Eq (m.repo.foldInBatch ctx (fun d => d.systems.rows) (m.unmapSystem ctx)
      (.goToNextStep, [])) := foldInBatch_keeps unmapSystem_keeps _
  cases r with
  | error e =>
    cases h1
    exact absurd (.inr rfl) hgo
  | ok acc =>
    cases h1
    have hrun := errValue_ok hfold
    obtain ⟨hdb, hext⟩ := hkeeps.run hrun
    refine ⟨?_, hdb.symm, hext.symm⟩
    refine foldInBatch_ok (I := m.Unmaps) (fun acc a => (unmapSystem_keeps acc a).mono
      (fun _ _ h => h) fun _ _ _ => trivial) (fun l acc a acc' s s' => unmaps_step) hpages ?_ hrun
    exact ⟨rfl, fun _ _ => forall_mem_nil _, fun _ => forall_mem_nil _⟩

end TenantManager

/-- The job of a link or a switch has not come to its end. -/
def LinkInFlight (jobs : List Job) (phase : Nat → Phase) : Prop :=
  ∃ number job, jobs[number]? = some job ∧ job.Links ∧
    (phase number = .created ∨ phase number = .confirmed)

theorem NoLinkAdded.inFlight_iff {x x' : World} (h : NoLinkAdded x x') (phase : Nat → Phase) :
    LinkInFlight x'.jobs phase ↔ LinkInFlight x.jobs phase := by
  obtain ⟨l, hl, hlinks⟩ := h
  constructor
  · rintro ⟨number, job, hjob, hlink, hphase⟩
    rw [hl] at hjob
    by_cases hlt : number < x.jobs.length
    · rw [List.getElem?_append_left hlt] at hjob
      exact ⟨number, job, hjob, hlink, hphase⟩
    · rw [List.getElem?_append_right (Nat.le_of_not_lt hlt)] at hjob
      exact absurd hlink (hlinks job (mem_of_getElem? hjob))
  · rintro ⟨number, job, hjob, hlink, hphase⟩
    refine ⟨number, job, ?_, hlink, hphase⟩
    rw [hl, List.getElem?_append_left (List.getElem?_eq_some_iff.1 hjob).1]
    exact hjob

structure Offboarded (d : Db) (jobs : List Job) (phase : Nat → Phase)
    (unmapped : List (System × UnmapReply)) : Prop where
  unlinked : ∀ s ∈ d.systems.rows, s.keyConfigurationID = none
  jobs : ¬ LinkInFlight jobs phase
  detached : ∀ k ∈ d.keys.rows, ∀ kc, d.keyConfigurations.get? k.keyConfigurationID = some kc →
    kc.primaryKeyID ≠ none → k.state = .detached
  unmapped : ∀ s ∈ d.systems.rows, ∃ reply, (s, reply) ∈ unmapped ∧ reply.Gone

namespace TenantManager

variable {m : TenantManager} {ctx : Ctx} {s s' : State} {unmapped : List (System × UnmapReply)}

theorem offboardTenant_ok (hpages : s.db.systems.rows.length ≤ defaultLimit ∨ m.repo.OneOrder)
    (h : (m.offboardTenant ctx).run false s = (.ok (.success, unmapped), s')) :
    (∀ sys ∈ s'.db.systems.rows, sys.keyConfigurationID = none) ∧ NoLinkAdded s.ext s'.ext ∧
      keysExcept [.detached] s'.db = [] ∧ SameNumber s.db s'.db ∧
      ∃ l st, l.Perm s'.db.systems.rows ∧ GoesOn st ∧ m.Unmaps l (st, unmapped) := by
  have hunlinks : Keeps SameNumber NoLinkAdded (m.sendUnlinkForConnectedSystems ctx) :=
    processInBatch_keeps unlinkSystems_keeps
  have hdetaches : Keeps SystemsKept NoLinkAdded (m.detachPrimaryKeys ctx) :=
    processInBatch_keeps detachKeys_keeps
  obtain ⟨_, s1, hsend, h1⟩ := run_bind_ok h
  obtain ⟨hnumber, hlinks1⟩ := hunlinks.run hsend
  obtain ⟨systemsUnlinked, n1, hcheck, h2⟩ := run_query_bind_ok h1
  obtain ⟨count, n2, hcount, hcheck⟩ := eval_bind_ok hcheck
  obtain ⟨hlinked, -⟩ := eval_count_ok hcount
  cases hcheck
  split at h2
  · cases h2
  rename_i hzero
  obtain ⟨_, s2, hdetach, h3⟩ := run_bind_ok h2
  obtain ⟨hsame, hlinks2⟩ := hdetaches.run hdetach
  obtain ⟨keysProcessed, n3, -, h4⟩ := run_query_bind_ok h3
  split at h4
  · cases h4
  obtain ⟨⟨st, replies⟩, s3, hunmap, h5⟩ := run_bind_ok h4
  dsimp only at h5
  split at h5
  · rename_i hst
    cases h5
    rcases hst with h | h <;> cases h
  rename_i hgo
  obtain ⟨keysDetached, n4, hkeys, h6⟩ := run_query_bind_ok h5
  obtain ⟨count', n5, hcount', hkeys⟩ := eval_bind_ok hkeys
  obtain ⟨hattached, -⟩ := eval_count_ok hcount'
  cases hkeys
  split at h6
  · cases h6
  rename_i hzero'
  cases h6
  have hsystems : s2.db.systems = s1.db.systems := hsame
  obtain ⟨⟨l, hl, hunmaps⟩, hdb, hext⟩ := unmapAll_ok (s := { s2 with clock := n3 }) (by
    rw [hsystems, hnumber]
    exact hpages) hgo hunmap
  have hsystems3 : s3.db.systems = s1.db.systems := by rw [hdb, ← hsystems]
  refine ⟨fun sys hsys => ?_, ?_, ?_, ?_, l, st, ?_, hgo, hunmaps⟩
  · rw [hsystems3] at hsys
    have hall := countP_eq_zero.1 (hlinked ▸ of_decide_eq_true (not_not.1 hzero)) sys hsys
    exact Option.not_isSome_iff_eq_none.1 hall
  · rw [hext]
    exact trans_of NoLinkAdded hlinks1 hlinks2
  · exact eq_nil_of_length_eq_zero (hattached ▸ of_decide_eq_true (not_not.1 hzero'))
  · show s3.db.systems.rows.length = _
    rw [hsystems3]
    exact hnumber
  · show l.Perm s3.db.systems.rows
    rw [hdb]
    exact hl

end TenantManager

namespace Sample

def tenantManager : TenantManager := ⟨repo, platform.systems, platform.keys, some fun _ _ _ => none⟩

def operator : Ctx := ⟨"t", some .internalUser, none, some .tenantProvisioning, false⟩

def offboard (s : St Db World) :
    Except Exn (OffboardingStatus × List (System × UnmapReply)) × St Db World :=
  (tenantManager.offboardTenant operator).run false s

def detachDone (s : St Db World) : St Db World :=
  ((KeyDetachJobHandler.handleJobDoneEvent ⟨repo, fun _ => none⟩ detachJob).run false s).2

def idle : Sys := { fresh with st := start }

/-- The first call has been answered, and the key it asked for is detached. -/
def keyDetached : Sys := { idle with st := detachDone (offboard start).2 }

def tenantLinking : Sys := (idle.steps platform [.request (as "a") (.link 40 30)]).getD idle

end Sample

end Cmk
