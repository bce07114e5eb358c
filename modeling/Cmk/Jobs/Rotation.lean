import Cmk.Jobs.Quiet

/-!
# Cmk.Jobs.Rotation

Which systems a rotation of a key reaches.

Orbital refuses a second job of one type for one system while the first has not ended.
`handleSystemsOnKeyRotation` announces the rotation to the systems in the order of the listing and
returns the first error, so a system that still has a rotation hides all those listed after it.

* `Rotating`     — the system has a rotation job that has not ended.
* `Deduplicates` — orbital refuses a rotation job exactly to such a system.
* `Announced`    — the jobs that were created, by the systems they are for.
-/

namespace Cmk

open Tx List

variable {ctx : Ctx} {s : State} {i : Bool}

def Rotating (phase : Nat → Phase) (jobs : List Job) (id : UUID) : Prop :=
  ∃ n job, Pending jobs phase id n job ∧ job.type = .systemKeyRotate

/-- Orbital accepts a rotation job unless the system has one that has not ended. -/
structure EventFactory.Deduplicates (f : EventFactory) (phase : Nat → Phase) : Prop where
  refuses : ∀ n x id, Rotating phase x.jobs id →
    f.prepareJob n x id .systemKeyRotate = .error (.sentinel .errJobAlreadyExists)
  accepts : ∀ n x id, ¬ Rotating phase x.jobs id →
    ∃ status, f.prepareJob n x id .systemKeyRotate = .ok status

/-- The rotation jobs of the systems were added, and no others. -/
def Announced (jobs : List Job) (ids : List UUID) (jobs' : List Job) : Prop :=
  ∃ added, jobs' = jobs ++ added ∧ added.map Job.externalID = ids ∧
    ∀ job ∈ added, job.type = .systemKeyRotate

namespace Announced

variable {jobs jobs₁ jobs' : List Job} {ids ids' : List UUID} {phase : Nat → Phase} {id : UUID}

theorem refl (jobs : List Job) : Announced jobs [] jobs := ⟨[], by simp⟩

theorem single {job : Job} (hty : job.type = .systemKeyRotate) :
    Announced jobs [job.externalID] (jobs ++ [job]) :=
  ⟨[job], rfl, rfl, by simpa using hty⟩

theorem trans (h : Announced jobs ids jobs₁) (h' : Announced jobs₁ ids' jobs') :
    Announced jobs (ids ++ ids') jobs' := by
  obtain ⟨added, rfl, rfl, hty⟩ := h
  obtain ⟨added', rfl, rfl, hty'⟩ := h'
  refine ⟨added ++ added', by simp, by simp, fun job hjob => ?_⟩
  rcases mem_append.1 hjob with hjob | hjob
  · exact hty job hjob
  · exact hty' job hjob

theorem rotating_iff (h : Announced jobs ids jobs')
    (hphase : ∀ n, jobs.length ≤ n → phase n ≠ .ended) :
    Rotating phase jobs' id ↔ Rotating phase jobs id ∨ id ∈ ids := by
  obtain ⟨added, rfl, rfl, hty⟩ := h
  constructor
  · rintro ⟨n, job, ⟨hl, hid, hrun⟩, hrot⟩
    rcases Nat.lt_or_ge n jobs.length with hn | hn
    · rw [List.getElem?_append_left hn] at hl
      exact .inl ⟨n, job, ⟨hl, hid, hrun⟩, hrot⟩
    · rw [List.getElem?_append_right hn] at hl
      exact .inr (mem_map.2 ⟨job, mem_of_getElem? hl, hid⟩)
  · rintro (⟨n, job, ⟨hl, hid, hrun⟩, hrot⟩ | hid)
    · have hn : n < jobs.length := (List.getElem?_eq_some_iff.1 hl).1
      exact ⟨n, job, ⟨by rw [List.getElem?_append_left hn, hl], hid, hrun⟩, hrot⟩
    · obtain ⟨job, hjob, hid⟩ := mem_map.1 hid
      obtain ⟨k, hk⟩ := mem_iff_getElem?.1 hjob
      refine ⟨jobs.length + k, job, ⟨?_, hid, hphase _ (by omega)⟩, hty job hjob⟩
      rw [List.getElem?_append_right (by omega), Nat.add_sub_cancel_left, hk]

end Announced

/-- How far the loop over the systems got: it created the jobs of `done`, and stopped before `rest`. -/
structure Reached (phase : Nat → Phase) (s s' : St Db World) (systems done rest : List System) :
    Prop where
  split : systems = done ++ rest
  fresh : ∀ sys ∈ done, ¬ Rotating phase s.ext.jobs sys.id
  jobs : Announced s.ext.jobs (done.map System.id) s'.ext.jobs
  systems : s'.db.systems = s.db.systems

/-- The loop ended at the end of the list, or because of a system with a rotation. -/
def Stopped (phase : Nat → Phase) (s : St Db World) (systems : List System) :
    Except Exn Unit → St Db World → Prop
  | .ok _, s' => Reached phase s s' systems systems []
  | .error _, s' => ∃ done sys rest, Reached phase s s' systems done (sys :: rest) ∧
      Rotating phase s.ext.jobs sys.id

namespace Reached

variable {phase : Nat → Phase} {s s₁ s' : State} {systems items done rest done' rest' : List System}
  {tail : List System}

theorem rotating_iff (h : Reached phase s s₁ systems done rest)
    (hphase : ∀ n, s.ext.jobs.length ≤ n → phase n ≠ .ended)
    (hnd : (systems.map System.id).Nodup) {sys : System} (hsys : sys ∈ rest) :
    Rotating phase s₁.ext.jobs sys.id ↔ Rotating phase s.ext.jobs sys.id := by
  rw [h.split, map_append] at hnd
  have hnew : sys.id ∉ done.map System.id := fun hmem =>
    (nodup_append.1 hnd).2.2 _ hmem _ (mem_map_of_mem hsys) rfl
  rw [h.jobs.rotating_iff hphase]
  simp [hnew]

theorem trans (h : Reached phase s s₁ systems done (items ++ tail))
    (hphase : ∀ n, s.ext.jobs.length ≤ n → phase n ≠ .ended) (hnd : (systems.map System.id).Nodup)
    (h' : Reached phase s₁ s' items done' rest') :
    Reached phase s s' systems (done ++ done') (rest' ++ tail) where
  split := by rw [h.split, h'.split]; simp
  fresh sys hsys := by
    rcases mem_append.1 hsys with hsys | hsys
    · exact h.fresh sys hsys
    · rw [← h.rotating_iff hphase hnd (by rw [h'.split]; simp [hsys])]
      exact h'.fresh sys hsys
  jobs := by
    rw [map_append]
    exact h.jobs.trans h'.jobs
  systems := h'.systems.trans h.systems

theorem phase_of_length (h : Reached phase s s₁ systems done rest)
    (hphase : ∀ n, s.ext.jobs.length ≤ n → phase n ≠ .ended) :
    ∀ n, s₁.ext.jobs.length ≤ n → phase n ≠ .ended := by
  obtain ⟨added, heq, -⟩ := h.jobs
  intro n hn
  rw [heq, length_append] at hn
  exact hphase n (by omega)

theorem stopped (h : Reached phase s s₁ systems done (items ++ tail))
    (hphase : ∀ n, s.ext.jobs.length ≤ n → phase n ≠ .ended) (hnd : (systems.map System.id).Nodup)
    {res : Except Exn Unit} (h' : Stopped phase s₁ items res s') :
    match res with
    | .ok _ => Reached phase s s' systems (done ++ items) tail
    | .error _ => Stopped phase s systems res s' := by
  cases res with
  | ok u => exact h.trans hphase hnd h'
  | error e =>
    obtain ⟨done', sys, rest', h', hrot⟩ := h'
    refine ⟨done ++ done', sys, rest' ++ tail, h.trans hphase hnd h', ?_⟩
    rwa [← h.rotating_iff hphase hnd (by rw [h'.split]; simp)]

end Reached

namespace EventFactory

variable {f : EventFactory} {phase : Nat → Phase} {sys : System} {keyID : UUID}

theorem wp_systemKeyRotate (ht : ctx.tenant ≠ "") (hdup : f.Deduplicates phase) :
    (f.systemKeyRotate ctx sys keyID).wp i (fun res s' => s'.db.systems = s.db.systems ∧
      match res with
      | .ok _ => ¬ Rotating phase s.ext.jobs sys.id ∧ Announced s.ext.jobs [sys.id] s'.ext.jobs
      | .error _ => Rotating phase s.ext.jobs sys.id ∧ s'.ext.jobs = s.ext.jobs) s := by
  have htenant : ctx.extractTenantID = .ok ctx.tenant := if_neg ht
  unfold systemKeyRotate createSystemEventJob
  rw [htenant]
  refine wp_bind (wp_createJobFor_of (fun e s1 he hd hx => ?_)
    fun job s1 hok hext hty _ hd hx => ?_)
  · refine ⟨by rw [hd], ?_, by rw [hx]⟩
    by_contra hrot
    obtain ⟨status, hstatus⟩ := hdup.accepts s.clock s.ext sys.id hrot
    cases he.symm.trans hstatus
  · have hrot : ¬ Rotating phase s.ext.jobs sys.id := by
      intro hrot
      cases hok.symm.trans (hdup.refuses s.clock s.ext sys.id hrot)
    have hjobs : Announced s.ext.jobs [sys.id] s1.ext.jobs := by
      have hext : job.externalID = sys.id := hext
      rw [hx, ← hext]
      exact .single hty
    refine wp_bind (wp_attempt (wp_exec_any (fun e s' _ hd' hx' => ?_)
      fun s' _ hd' hx' => ?_))
    · have hsame : s'.db.systems = s.db.systems := by rw [hd', hd]
      exact ⟨hsame, hrot, hx' ▸ hjobs⟩
    · have hsame : s'.db.systems = s.db.systems := by rw [hd', hd]
      exact ⟨hsame, hrot, hx' ▸ hjobs⟩

end EventFactory

namespace KeyManager

variable {m : KeyManager} {phase : Nat → Phase} {keyID : UUID}

theorem wp_rotateSystems_order (ht : ctx.tenant ≠ "") (hdup : m.eventFactory.Deduplicates phase)
    (hphase : ∀ n, s.ext.jobs.length ≤ n → phase n ≠ .ended) {items : List System}
    (hnd : (items.map System.id).Nodup) :
    (m.rotateSystems ctx keyID items).wp i (Stopped phase s items) s := by
  induction items generalizing s with
  | nil => exact ⟨rfl, by simp, .refl _, rfl⟩
  | cons sys items ih =>
    refine wp_bind (wp_mono (EventFactory.wp_systemKeyRotate ht hdup) fun res s1 h => ?_)
    obtain ⟨hsys, h⟩ := h
    cases res with
    | error e => exact ⟨[], sys, items, ⟨rfl, by simp, h.2 ▸ .refl _, hsys⟩, h.1⟩
    | ok job =>
      have hone : Reached phase s s1 (sys :: items) [sys] (items ++ []) :=
        ⟨by simp, by simpa using h.1, h.2, hsys⟩
      refine wp_mono (ih (hone.phase_of_length hphase) (nodup_cons.1 hnd).2)
        fun res s' h' => ?_
      have hend := hone.stopped hphase hnd h'
      cases res with
      | ok u => exact hend
      | error e => exact hend

theorem wp_handleSystemsOnKeyRotation_order {key : Key} {σ : (n : Nat) → Equiv.Perm (Fin n)}
    (ht : ctx.tenant ≠ "") (hfault : ∀ n, m.repo.fault n = none)
    (horder : ∀ n k, m.repo.order n k = σ k) (hdup : m.eventFactory.Deduplicates phase)
    (hphase : ∀ n, s.ext.jobs.length ≤ n → phase n ≠ .ended) :
    (m.handleSystemsOnKeyRotation ctx key).wp i
      (Stopped phase s (shuffle (systemsOf s.db key.keyConfigurationID) (σ _))) s := by
  have hnd : ((shuffle (systemsOf s.db key.keyConfigurationID) (σ _)).map System.id).Nodup :=
    ((shuffle_perm _ _).map _).nodup_iff.2 ((filter_sublist.map _).nodup s.db.systems.nodup)
  generalize hL : shuffle (systemsOf s.db key.keyConfigurationID) (σ _) = L at hnd ⊢
  have hlen : L.length = (systemsOf s.db key.keyConfigurationID).length := by
    rw [← hL]
    exact (shuffle_perm _ _).length_eq
  refine Repo.wp_processInBatch_fixed (systemsOf s.db key.keyConfigurationID)
    (I := fun k s' => Reached phase s s' L (L.take k) (L.drop k)) ht hfault (fun n => horder n _) (fun k s' h => ?_) (fun k s' n h => ⟨h.1, h.2, h.3, h.4⟩)
    (fun k s' h => ?_) (fun k s' hk h => ?_) ⟨rfl, by simp, by simpa using .refl _, rfl⟩
  · rw [systemsOf, h.systems]
    rfl
  · rw [hL]
    have hsplit : L.drop k = (L.drop k).take defaultLimit ++ L.drop (k + defaultLimit) := by
      rw [← drop_drop, take_append_drop]
    have hitems : (((L.drop k).take defaultLimit).map System.id).Nodup :=
      (((take_sublist _ _).trans (drop_sublist _ _)).map _).nodup hnd
    rw [hsplit] at h
    refine wp_mono (wp_rotateSystems_order ht hdup (h.phase_of_length hphase) hitems)
      fun res s1 h' => ?_
    have hend := h.stopped hphase hnd h'
    cases res with
    | ok u =>
      rw [← take_add] at hend
      exact hend
    | error e => exact fun _ => hend
  · rw [take_of_length_le (by omega), drop_of_length_le (by omega)] at h
    exact h

end KeyManager

/-- The systems have a rotation after the loop exactly if none that had one before it is listed ahead
of one that had none. -/
theorem Stopped.rotating_iff {phase : Nat → Phase} {s s' : State} {systems : List System}
    {res : Except Exn Unit} (h : Stopped phase s systems res s')
    (hphase : ∀ n, s.ext.jobs.length ≤ n → phase n ≠ .ended)
    (hnd : (systems.map System.id).Nodup) :
    (∀ sys ∈ systems, Rotating phase s'.ext.jobs sys.id) ↔
      systems.Pairwise fun sys sys' => Rotating phase s.ext.jobs sys.id →
        Rotating phase s.ext.jobs sys'.id := by
  cases res with
  | ok u =>
    have h : Reached phase s s' systems systems [] := h
    refine iff_of_true (fun sys hsys => ?_) ?_
    · rw [h.jobs.rotating_iff hphase]
      exact .inr (mem_map_of_mem hsys)
    · exact pairwise_of_forall_mem_list fun sys hsys _ _ hrot => absurd hrot (h.fresh sys hsys)
  | error e =>
    obtain ⟨done, sys, rest, h, hrot⟩ := h
    have hleft : ∀ sys' ∈ sys :: rest, (Rotating phase s'.ext.jobs sys'.id ↔
        Rotating phase s.ext.jobs sys'.id) := fun _ => h.rotating_iff hphase hnd
    constructor
    · intro hall
      rw [h.split, pairwise_append]
      refine ⟨?_, ?_, fun a ha b _ hrot' => absurd hrot' (h.fresh a ha)⟩
      · exact pairwise_of_forall_mem_list fun a ha _ _ hrot' => absurd hrot' (h.fresh a ha)
      · refine pairwise_of_forall_mem_list fun a _ b hb _ => ?_
        rw [← hleft b hb]
        exact hall b (by rw [h.split]; exact mem_append_right _ hb)
    · intro hpair sys' hsys'
      rw [h.split, pairwise_append] at hpair
      rw [h.split] at hsys'
      rcases mem_append.1 hsys' with hdone | hmem
      · rw [h.jobs.rotating_iff hphase]
        exact .inr (mem_map_of_mem hdone)
      · rw [hleft sys' hmem]
        rcases mem_cons.1 hmem with rfl | hmem
        · exact hrot
        · exact (pairwise_cons.1 hpair.2.1).1 sys' hmem hrot

/-- A rotation reaches every system of the key configuration exactly if, in the order of the listing,
no system that still has a rotation comes before one that has none. -/
theorem rotation_reaches_iff (m : KeyManager) (ctx : Ctx) (key : Key) (s : St Db World) (i : Bool)
    (phase : Nat → Phase) (σ : (n : Nat) → Equiv.Perm (Fin n)) (ht : ctx.tenant ≠ "")
    (hfault : ∀ n, m.repo.fault n = none) (horder : ∀ n k, m.repo.order n k = σ k)
    (hdup : m.eventFactory.Deduplicates phase)
    (hphase : ∀ n, s.ext.jobs.length ≤ n → phase n ≠ .ended) :
    (∀ sys ∈ Repo.systemsOf s.db key.keyConfigurationID,
      Rotating phase ((m.handleSystemsOnKeyRotation ctx key).run i s).2.ext.jobs sys.id) ↔
    (shuffle (Repo.systemsOf s.db key.keyConfigurationID) (σ _)).Pairwise fun sys sys' =>
      Rotating phase s.ext.jobs sys.id → Rotating phase s.ext.jobs sys'.id := by
  have hperm := shuffle_perm (Repo.systemsOf s.db key.keyConfigurationID) (σ _)
  have hnd : ((Repo.systemsOf s.db key.keyConfigurationID).map System.id).Nodup :=
    (List.filter_sublist.map _).nodup s.db.systems.nodup
  have hstop : (m.handleSystemsOnKeyRotation ctx key).wp i
      (Stopped phase s (shuffle (Repo.systemsOf s.db key.keyConfigurationID) (σ _))) s :=
    KeyManager.wp_handleSystemsOnKeyRotation_order ht hfault horder hdup hphase
  rw [← hstop.rotating_iff hphase ((hperm.map _).nodup_iff.2 hnd)]
  simp only [hperm.mem_iff]

/-- While no job has ended, the systems with a rotation are those of the rotation jobs. -/
theorem rotating_created_iff {jobs : List Job} {id : UUID} : Rotating (fun _ => .created) jobs id ↔
    ∃ job ∈ jobs, job.externalID = id ∧ job.type = .systemKeyRotate := by
  constructor
  · rintro ⟨n, job, ⟨hl, hid, -⟩, hrot⟩
    exact ⟨job, mem_of_getElem? hl, hid, hrot⟩
  · rintro ⟨job, hjob, hid, hrot⟩
    obtain ⟨n, hn⟩ := mem_iff_getElem?.1 hjob
    exact ⟨n, job, ⟨hn, hid, by simp⟩, hrot⟩

namespace Sample

/-- An orbital manager that accepts no second job of one type for a system. -/
def deduplicating : EventFactory where
  repo := repo
  prepareJob _ x id type :=
    if ∃ job ∈ x.jobs, job.externalID = id ∧ job.type = type then
      .error (.sentinel .errJobAlreadyExists)
    else .ok "CREATED"
  prepareKeyJob _ _ _ _ := .ok "CREATED"

theorem deduplicating_deduplicates : deduplicating.Deduplicates fun _ => .created where
  refuses _ _ _ h := if_pos (rotating_created_iff.1 h)
  accepts _ _ _ h := ⟨_, if_neg fun hj => h (rotating_created_iff.2 hj)⟩

def connected (jobs : List Job) : St Db World where
  db :=
    { jobsDb with
      systems :=
        ⟨[{ system with status := .connected, keyConfigurationID := some 30 },
          { system with
            id := 41, identifier := "s2", status := .connected, keyConfigurationID := some 30 }],
          by decide⟩ }
  ext := { world with jobs := jobs }
  clock := 0
  commits := []

def rotatedJobs (jobs : List Job) : List Job :=
  ((keyManager deduplicating).handleSystemsOnKeyRotation (as "i") primaryKey).run false
    (connected jobs) |>.2.ext.jobs

def rotation : Job := ⟨40, .systemKeyRotate, { systemID := 40 }, "CREATED"⟩

end Sample

open Sample in
/-- Without a rotation on the way both systems get theirs. -/
theorem rotation_reaches_iff_fresh :
    (Repo.systemsOf (connected []).db 30).map System.id = [40, 41] ∧
    Rotating (fun _ => .created) (rotatedJobs []) 40 ∧
    Rotating (fun _ => .created) (rotatedJobs []) 41 := by
  have hall := (rotation_reaches_iff (keyManager deduplicating) (as "i") primaryKey (connected []) false
    (fun _ => .created) (fun _ => Equiv.refl _) (by decide) (fun _ => rfl) (fun _ _ => rfl)
    deduplicating_deduplicates (fun _ _ => by simp)).2 (by
      refine List.pairwise_of_forall_mem_list fun sys _ sys' _ hrot => ?_
      obtain ⟨job, hjob, -⟩ := rotating_created_iff.1 hrot
      cases hjob)
  have hids : (Repo.systemsOf (connected []).db 30).map System.id = [40, 41] := by decide +kernel
  have hrot : ∀ id ∈ (Repo.systemsOf (connected []).db 30).map System.id,
      Rotating (fun _ => .created) (rotatedJobs []) id := by
    intro id hid
    obtain ⟨sys, hsys, rfl⟩ := List.mem_map.1 hid
    exact hall sys hsys
  rw [hids] at hrot
  exact ⟨hids, hrot 40 (by simp), hrot 41 (by simp)⟩

open Sample in
/-- The first system still has its rotation, so the second gets none. -/
theorem second_system_missed :
    (Repo.systemsOf (connected [rotation]).db 30).map System.id = [40, 41] ∧
    Rotating (fun _ => .created) (rotatedJobs [rotation]) 40 ∧
    ¬ Rotating (fun _ => .created) (rotatedJobs [rotation]) 41 := by
  simp only [rotating_created_iff]
  decide +kernel

end Cmk
