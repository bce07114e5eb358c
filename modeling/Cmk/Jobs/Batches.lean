import Cmk.Jobs.Effects

/-!
# Cmk.Jobs.Batches

The loops over the systems and events of a key configuration.

* `wp_processInBatch`       — an invariant of every page is an invariant of the loop.
* `wp_processInBatch_one`   — a listing that fits on one page is processed once, all of it.
* `wp_processInBatch_fixed` — a listing that stays as it is, in an order that is fixed, is processed
  from its beginning to its end.

`ProcessInBatch` pages by offset and asks again for every page, so with a second page a row can be
missed or come twice unless the order is fixed; only the first rule can be used then.
-/

namespace Cmk

open Tx Function List Repo Deed

variable {offset : Nat}

variable {ctx : Ctx} {s s' : State} {i : Bool}

namespace Repo

variable {α : Type} {r : Repo} {select : Db → List α} {process : List α → M Unit}

/-- How a loop ends: in `I` if it succeeds, otherwise in `E`. -/
def Ended (I E : St Db World → Prop) : Except Exn Unit → St Db World → Prop
  | .ok _, s => I s
  | .error _, s => E s

section

variable {I E : State → Prop} (hclock : ∀ s n, I s → I { s with clock := n })
  (hIE : ∀ s, I s → (∃ k, r.Refuses ctx k) → E s)
  (hpage : ∀ s items, I s → items.Subperm (select s.db) → (process items).wp i (Ended I E) s)

include hclock hIE hpage

theorem wp_processPage {items : List α} {next : M Unit} (hI : I s)
    (hitems : items.Subperm (select s.db)) (hnext : ∀ s, I s → next.wp i (Ended I E) s) :
    (r.processPage ctx select process offset items next).wp i (Ended I E) s := by
  refine wp_bind (wp_mono (hpage s items hI hitems) fun res s' h => ?_)
  cases res with
  | error e => exact h
  | ok u =>
    simp only
    split
    · exact h
    · refine wp_query_bind (fun e n he => hIE _ (hclock _ _ h) ⟨_, eval_query_error rfl he⟩)
        fun count n _ => ?_
      split
      · exact hclock _ _ h
      · exact hnext _ (hclock _ _ h)

theorem wp_processFrom (pages : Nat) (hI : I s) :
    (r.processFrom ctx select process pages offset).wp i (Ended I E) s := by
  induction pages generalizing s offset with
  | zero => exact hI
  | succ pages ih =>
    refine wp_query_bind (fun e n he => hIE _ (hclock _ _ hI) ⟨_, eval_query_error rfl he⟩)
      fun a n ha => ?_
    obtain ⟨ha, -⟩ := eval_query_ok ha
    cases ha
    exact wp_processPage hclock hIE hpage (hclock _ _ hI) page_subperm fun s h => ih h

theorem wp_processInBatch (hI : I s) :
    (r.processInBatch ctx select process).wp i (Ended I E) s := by
  refine wp_query_bind (fun e n he => hIE _ (hclock _ _ hI) ⟨_, eval_query_error rfl he⟩)
    fun a n ha => ?_
  obtain ⟨ha, -⟩ := eval_query_ok ha
  cases ha
  exact wp_processPage hclock hIE hpage (hclock _ _ hI) page_subperm
    fun s h => wp_processFrom hclock hIE hpage _ h

end

theorem wp_processInBatch_one {Q : Post Unit}
    (hsmall : (select s.db).length ≤ defaultLimit)
    (hrefused : ∀ e n, (∃ k, r.Refuses ctx k) → Q (.error e) { s with clock := n })
    (hpage : ∀ items n, items.Perm (select s.db) → (process items).wp i (fun res s' =>
      match res with
      | .error e => Q (.error e) s'
      | .ok _ => (select s'.db).length ≤ defaultLimit ∧
          (∀ n, Q (.ok ()) { s' with clock := n }) ∧
          ∀ e n, (∃ k, r.Refuses ctx k) → Q (.error e) { s' with clock := n }) { s with clock := n }) :
    (r.processInBatch ctx select process).wp i Q s := by
  refine wp_query_bind (fun e n he => hrefused e n ⟨_, eval_query_error rfl he⟩)
    fun a n ha => ?_
  obtain ⟨ha, -⟩ := eval_query_ok ha
  cases ha
  refine wp_bind (wp_mono (hpage _ n (page_perm hsmall)) fun res s' h => ?_)
  cases res with
  | error e => exact h
  | ok u =>
    obtain ⟨hlen, hdone, herr⟩ := h
    simp only
    split
    · exact hdone _
    · refine wp_query_bind (fun e k he => herr e k ⟨_, eval_query_error rfl he⟩)
        fun count k hcount => ?_
      rw [(eval_count_ok hcount).1, if_pos (by omega)]
      exact hdone k

section

variable {rows : List α} {σ : Equiv.Perm (Fin rows.length)} {I : Nat → State → Prop}
  {Q : Post Unit} (ht : ctx.tenant ≠ "") (hfault : ∀ n, r.fault n = none)
  (horder : ∀ n, r.order n rows.length = σ) (hrows : ∀ k s, I k s → select s.db = rows)
  (hclock : ∀ k s n, I k s → I k { s with clock := n })
  (hpage : ∀ k s, I k s → (process (((shuffle rows σ).drop k).take defaultLimit)).wp i
    (Ended (I (k + defaultLimit)) fun s' => ∀ e, Q (.error e) s') s)
  (hdone : ∀ k s, rows.length ≤ k → I k s → Q (.ok ()) s)

include ht hfault horder hrows hclock hpage hdone

omit horder in
theorem wp_processPage_fixed {next : M Unit} (hI : I offset s)
    (hnext : ∀ s, I (offset + defaultLimit) s → next.wp i Q s) :
    (r.processPage ctx select process offset (((shuffle rows σ).drop offset).take defaultLimit)
      next).wp i Q s := by
  have hlen : (shuffle rows σ).length = rows.length := (shuffle_perm rows σ).length_eq
  refine wp_bind (wp_mono (hpage offset s hI) fun res s' h => ?_)
  cases res with
  | error e => exact h e
  | ok u =>
    have h : I (offset + defaultLimit) s' := h
    simp only
    split
    · rename_i hempty
      refine hdone _ _ ?_ h
      simp [defaultLimit] at hempty
      omega
    · refine wp_query_bind (fun e n he => ?_) fun count n hcount => ?_
      · rcases eval_query_error rfl he with h | h
        · exact absurd h ht
        · exact absurd (hfault _) h
      · obtain ⟨hcount, -⟩ := eval_count_ok hcount
        rw [hrows _ _ h] at hcount
        split
        · exact hdone _ _ (by omega) (hclock _ _ _ h)
        · exact hnext _ (hclock _ _ _ h)

theorem wp_processFrom_fixed (pages : Nat) (hI : I offset s)
    (hlen : rows.length ≤ offset + pages * defaultLimit) :
    (r.processFrom ctx select process pages offset).wp i Q s := by
  induction pages generalizing s offset with
  | zero => exact hdone _ _ (by omega) hI
  | succ pages ih =>
    refine wp_query_bind (fun e n he => ?_) fun a n ha => ?_
    · rcases eval_query_error rfl he with h | h
      · exact absurd h ht
      · exact absurd (hfault _) h
    · obtain ⟨ha, -⟩ := eval_query_ok ha
      cases ha
      have hsel := hrows _ _ hI
      subst hsel
      rw [page, horder]
      refine wp_processPage_fixed ht hfault hrows hclock hpage hdone (hclock _ _ _ hI)
        fun s h => ih h (by rw [Nat.succ_mul] at hlen; omega)

variable (rows) in
theorem wp_processInBatch_fixed (hI : I 0 s) :
    (r.processInBatch ctx select process).wp i Q s := by
  refine wp_query_bind (fun e n he => ?_) fun a n ha => ?_
  · rcases eval_query_error rfl he with h | h
    · exact absurd h ht
    · exact absurd (hfault _) h
  · obtain ⟨ha, -⟩ := eval_query_ok ha
    cases ha
    have hsel := hrows _ _ hI
    subst hsel
    rw [page, horder]
    refine wp_processPage_fixed ht hfault hrows hclock hpage hdone (hclock _ _ _ hI)
      fun s1 h => wp_processFrom_fixed ht hfault horder hrows hclock hpage hdone _ h ?_
    have hlt := Nat.lt_div_mul_add (a := (select s.db).length) (show 0 < defaultLimit by decide)
    omega

end

theorem wp_processInBatch_tenant {P : View → Prop} (hP : P s.view)
    (h : ctx.tenant ≠ "" → (r.processInBatch ctx select process).wp i (fun _ s' => P s'.view) s) :
    (r.processInBatch ctx select process).wp i (fun _ s' => P s'.view) s := by
  by_cases ht : ctx.tenant = ""
  · exact wp_query_bind (fun _ _ _ => hP) fun _ _ ha => absurd ht (eval_query_tenant ha)
  · exact h ht

end Repo

structure SwitchJob (keyIDTo keyIDFrom : UUID) (job : Job) : Prop where
  data : job.data.systemID = job.externalID
  type : job.type = .systemSwitchNewPK
  keyIDTo : job.data.keyIDTo = some keyIDTo
  keyIDFrom : job.data.keyIDFrom = some keyIDFrom

/-- The structs of a page are the rows of the systems, all with the key configuration `c`. -/
structure Current (v : View) (c : UUID) (items : List System) : Prop where
  rows : ∀ sys ∈ items, v.connection sys.id = some sys.connection
  names : ∀ sys ∈ items, v.name sys.id = some sys.name
  keyConfigurationID : ∀ sys ∈ items, sys.keyConfigurationID = some c
  nodup : (items.map System.id).Nodup

namespace Current

variable {v : View} {c : UUID} {items : List System} {sys : System}

theorem tail (h : Current v c (sys :: items)) {v' : View}
    (hname : v'.name = v.name) (hv : ∀ id, id ≠ sys.id → v'.connection id = v.connection id) :
    Current v' c items := by
  have hnd := nodup_cons.1 h.nodup
  refine ⟨fun sys' hs => ?_, fun sys' hs => ?_, fun sys' hs => ?_, hnd.2⟩
  · rw [hv _ fun heq => hnd.1 (heq ▸ mem_map_of_mem hs)]
    exact h.rows sys' (mem_cons_of_mem _ hs)
  · rw [hname]
    exact h.names sys' (mem_cons_of_mem _ hs)
  · exact h.keyConfigurationID sys' (mem_cons_of_mem _ hs)

theorem of_subperm {s : State} (h : items.Subperm (systemsOf s.db c)) :
    Current s.view c items := by
  have hmem : ∀ sys ∈ items, sys ∈ s.db.systems.rows ∧ sys.keyConfigurationID = some c := by
    intro sys hs
    have hs := h.subset hs
    rwa [systemsOf, mem_filter, decide_eq_true_eq] at hs
  refine ⟨fun sys hs => ?_, fun sys hs => ?_, fun sys hs => (hmem sys hs).2, ?_⟩
  · rw [view_connection, Db.connection, get?_key (hmem sys hs).1, Option.map_some]
  · rw [view_name, Db.name, get?_key (hmem sys hs).1, Option.map_some]
  · obtain ⟨l, hperm, hsub⟩ := h
    refine (hperm.map System.id).nodup_iff.1 ?_
    exact ((hsub.trans filter_sublist).map System.id).nodup s.db.systems.nodup

end Current

/-- The number of systems of a key configuration depends only on which systems have it. -/
theorem systemsOf_length_le {c : UUID}
    (h : ∀ id, (s'.view.connection id).map (·.2.1) = (s.view.connection id).map (·.2.1)) :
    (systemsOf s'.db c).length ≤ (systemsOf s.db c).length := by
  refine Table.length_filter_le fun row' hrow' hc => ?_
  have hid := h row'.id
  simp only [view_connection, Db.connection, get?_key hrow', Option.map_some,
    Option.map_map] at hid
  obtain ⟨row, hrow, hkc⟩ := Option.map_eq_some_iff.1 hid.symm
  refine ⟨row, mem_of_get? hrow, key_of_get? hrow, ?_⟩
  simp only [decide_eq_true_eq] at hc ⊢
  exact hkc.trans hc

namespace KeyConfigManager

variable {m : KeyConfigManager} {f : EventFactory} {keyIDTo keyIDFrom c : UUID}
  {G : View → Deed → Prop}

def SwitchFails (f : EventFactory) (ctx : Ctx) (items : List System) : Prop :=
  (∃ sys ∈ items, sys.status = .processing) ∨ (∃ k, f.repo.Refuses ctx k) ∨ f.RefusesJob

theorem wp_switchSystems (hin : ctx.inTx = true)
    (hsubmit : ∀ v job prev target stored, SwitchJob keyIDTo keyIDFrom job →
      (stored = false → ∃ n, f.repo.fault n ≠ none) → G v (.submit job prev (some c) target stored))
    {items : List System} (hcur : Current s.view c items) :
    (switchSystems f ctx keyIDTo keyIDFrom items).wp true (fun res s' =>
      f.Ran G s.view s'.view res ∧
      (∀ id, id ∉ items.map System.id → s'.view.connection id = s.view.connection id) ∧
      match res with
      | .ok _ => ∀ sys ∈ items, s'.view.connection sys.id =
          some (.processing, sys.keyConfigurationID, sys.targetKeyConfigurationID)
      | .error _ => SwitchFails f ctx items) s := by
  induction items generalizing s with
  | nil => exact ⟨.refl, fun _ _ => rfl, fun _ h => absurd h not_mem_nil⟩
  | cons sys items ih =>
    have hrow : s.view.connection sys.id = some sys.connection := hcur.rows sys mem_cons_self
    have hkc : sys.keyConfigurationID = some c := hcur.keyConfigurationID sys mem_cons_self
    have hnd := nodup_cons.1 hcur.nodup
    refine wp_bind (EventFactory.wp_submit hin rfl hrow (hcur.names sys mem_cons_self)
      (fun e s1 hr hv => ?_)
      (fun e s1 hr hst hv => ?_) fun job stored s1 hext hty hjob hst hstored hv => ?_)
    · refine ⟨.of_leads (hv ▸ .refl), fun id _ => hv ▸ rfl, ?_⟩
      rcases hr with hst | hr
      · exact .inl ⟨sys, mem_cons_self, hst⟩
      · exact .inr (.inl ⟨_, hr⟩)
    · refine ⟨?_, fun id hid => ?_, .inr (.inr hr)⟩
      · rw [hv]
        exact .single (.inr ⟨hr, _, _, _, rfl⟩) ⟨_, _, hst, hrow⟩
      · have hne : id ≠ sys.id := fun h => hid (h ▸ mem_cons_self)
        rw [hv]
        exact update_of_ne hne _ _
    · have hjobOk : SwitchJob keyIDTo keyIDFrom job :=
        ⟨by rw [hjob, hext], hty, by rw [hjob], by rw [hjob]⟩
      have hconn : s1.view.connection = update s.view.connection sys.id
          (some (.processing, sys.keyConfigurationID, sys.targetKeyConfigurationID)) := by
        rw [hv, submit_connection, hext]
      have hlead : Leads G s.view s1.view := by
        rw [hv, hkc]
        exact .single (hsubmit _ _ _ _ _ hjobOk hstored)
          ⟨hst, hjobOk.data, fun _ => by simp, _, by rw [hext, hrow, System.connection, hkc]⟩
      have hname : s1.view.name = s.view.name := by rw [hv, apply_name]
      refine wp_mono (ih (hcur.tail hname fun id hid => ?_)) fun res s' h => ?_
      · rw [hconn, update_of_ne hid]
      obtain ⟨hl, hframe, hres⟩ := h
      refine ⟨.after hlead hl, fun id hid => ?_, ?_⟩
      · rw [map_cons, mem_cons, not_or] at hid
        rw [hframe id hid.2, hconn, update_of_ne hid.1]
      · cases res with
        | error e =>
          rcases hres with ⟨sys', hs, hst⟩ | h
          · exact .inl ⟨sys', mem_cons_of_mem _ hs, hst⟩
          · exact .inr h
        | ok u =>
          intro sys' hs
          rcases mem_cons.1 hs with rfl | hs
          · rw [hframe _ hnd.1, hconn, update_self]
          · exact hres sys' hs

theorem wp_patchEvent {P : Post Unit} {ev : Event}
    (hrow : s.view.event ev.identifier = some ev)
    (hrefused : ∀ e s', m.repo.Refuses ctx s.clock → s'.view = s.view → P (.error e) s')
    (hdone : ∀ s', s'.view = (rekey ev keyIDTo).apply s.view → P (.ok ()) s') :
    (m.repo.patchEvent ctx (ev.rekey keyIDTo)).wp i P s := by
  have hupd : eventUpdates (ev.rekey keyIDTo) ev = ev.rekey keyIDTo := by
    simp only [eventUpdates, Event.rekey, nonZero_self]
  refine wp_exec_any (fun e s' hr hd hx => ?_) fun s' _ hd hx => ?_
  · exact hrefused e s' hr (view_congr hd hx)
  · refine hdone s' ?_
    have hrow : s.db.events.get? (ev.rekey keyIDTo).identifier = some ev := hrow
    refine view_events hd hx ((get?_modify _).trans ?_)
    rw [hrow, Option.map_some, hupd]
    rfl

theorem wp_rekeyEvents {events : List Event}
    (hrekey : ∀ v, ∀ ev ∈ events, G v (.rekey ev keyIDTo))
    (hrows : ∀ ev ∈ events, s.view.event ev.identifier = some ev ∧ ev.data.keyIDTo ≠ none)
    (hnd : (events.map Event.identifier).Nodup) :
    (m.rekeyEvents ctx keyIDTo events).wp i (fun res s' =>
      Leads G s.view s'.view ∧
      match res with
      | .ok _ => ∀ id, s'.view.event id = (s.view.event id).map fun ev =>
          if ev ∈ events then ev.rekey keyIDTo else ev
      | .error _ => ∃ k, m.repo.Refuses ctx k) s := by
  induction events generalizing s with
  | nil =>
    refine ⟨.refl, fun id => ?_⟩
    cases h : s.view.event id with
    | none => exact h
    | some ev => exact h
  | cons ev events ih =>
    obtain ⟨hnew, hnd⟩ := nodup_cons.1 hnd
    obtain ⟨hrow, hto⟩ := hrows ev mem_cons_self
    refine wp_bind (wp_patchEvent hrow (fun e s1 hr hv => ?_) fun s1 hv => ?_)
    · exact ⟨hv ▸ .refl, _, hr⟩
    have hlead : Leads G s.view s1.view := by
      rw [hv]
      exact .single (hrekey _ ev mem_cons_self) ⟨hrow, hto⟩
    have hevent : ∀ id, id ≠ ev.identifier → s1.view.event id = s.view.event id := by
      intro id hid
      rw [hv]
      exact update_of_ne hid _ _
    refine wp_mono (ih (fun v ev' h => hrekey v ev' (mem_cons_of_mem _ h))
      (fun ev' hev' => ?_) hnd) fun res s' ⟨hl, hres⟩ => ?_
    · have hne : ev'.identifier ≠ ev.identifier := fun h => hnew (h ▸ mem_map_of_mem hev')
      rw [hevent _ hne]
      exact hrows ev' (mem_cons_of_mem _ hev')
    refine ⟨hlead.trans hl, ?_⟩
    cases res with
    | error e => exact hres
    | ok u =>
      intro id
      rw [hres id]
      by_cases hid : id = ev.identifier
      · subst hid
        have hout : ev.rekey keyIDTo ∉ events := fun h =>
          hnew (mem_map.2 ⟨_, h, rfl⟩)
        rw [hv, hrow]
        simp [apply, View.setEvent, hout]
      · rw [hevent id hid]
        cases hev : s.view.event id with
        | none => rfl
        | some ev' =>
          have hne : ev' ≠ ev := fun h => hid (h ▸ (key_of_get? hev).symm)
          simp [hne]

end KeyConfigManager

structure RotateJob (keyID : UUID) (job : Job) : Prop where
  data : job.data.systemID = job.externalID
  type : job.type = .systemKeyRotate
  keyIDTo : job.data.keyIDTo = some keyID

/-- A job of the system has not been added to the jobs there were before. -/
def NoneAdded (jobs : List Job) (v : View) (id : UUID) : Prop :=
  ∃ added, v.jobs = jobs ++ added ∧ ∀ job ∈ added, job.externalID ≠ id

namespace KeyManager

variable {m : KeyManager} {keyID c : UUID} {G : View → Deed → Prop}

theorem wp_rotateSystems (ht : ctx.tenant ≠ "") (jobs : List Job) {items : List System}
    (hrotate : ∀ v job prev target, RotateJob keyID job →
      v.connection job.externalID = some (prev, some c, target) → NoneAdded jobs v job.externalID →
      G v (.rotate job prev))
    (hprepare : ∀ v job, RotateJob keyID job → (∃ n, m.eventFactory.repo.fault n ≠ none) →
      G v (.prepare job))
    (hcur : Current s.view c items) (hadded : ∀ sys ∈ items, NoneAdded jobs s.view sys.id) :
    (m.rotateSystems ctx keyID items).wp i (fun _ s' => Leads G s.view s'.view ∧
      s'.view.connection = s.view.connection) s := by
  induction items generalizing s with
  | nil => exact ⟨.refl, rfl⟩
  | cons sys items ih =>
    have hrow : s.view.connection sys.id = some sys.connection := hcur.rows sys mem_cons_self
    have hkc : sys.keyConfigurationID = some c := hcur.keyConfigurationID sys mem_cons_self
    refine wp_bind (wp_bind (EventFactory.wp_createSystemEventJob ht
      (fun e s1 _ hv => ⟨hv ▸ .refl, by rw [hv]⟩) fun job s1 hext hty hjob _ hv => ?_))
    have hext : job.externalID = sys.id := hext
    have hjobOk : RotateJob keyID job := ⟨by rw [hjob, hext], hty, by rw [hjob]⟩
    have hrest : ∀ s2 : State, Leads G s.view s2.view →
        s2.view.connection = s.view.connection → s2.view.jobs = s.view.jobs ++ [job] →
        (m.rotateSystems ctx keyID items).wp i (fun _ s' => Leads G s.view s'.view ∧
          s'.view.connection = s.view.connection) s2 := by
      intro s2 hlead hconn hjobs
      have hnd := nodup_cons.1 hcur.nodup
      refine wp_mono (ih (hcur.tail hlead.name fun id _ => by rw [hconn]) fun sys' hs => ?_)
        fun _ s' h => ⟨hlead.trans h.1, h.2.trans hconn⟩
      obtain ⟨added, hadd, hne⟩ := hadded sys' (mem_cons_of_mem _ hs)
      refine ⟨added ++ [job], by rw [hjobs, hadd, append_assoc], fun j hj => ?_⟩
      rcases mem_append.1 hj with hj | hj
      · exact hne j hj
      · rw [mem_singleton.1 hj, hext]
        exact fun heq => hnd.1 (heq ▸ mem_map_of_mem hs)
    refine wp_bind (EventFactory.wp_setEvent (fun r s2 hr hv2 => ?_) fun r s2 hv2 => ?_)
    · have hview : s2.view = (prepare job).apply s.view := hv2.trans hv
      refine hrest s2 ?_ (by rw [hview]; rfl) (by rw [hview]; rfl)
      rw [hview]
      exact .single (hprepare _ _ hjobOk ⟨_, hr.resolve_left ht⟩) trivial
    · have hview : s2.view = (rotate job sys.status).apply s.view := by
        rw [hv2, hv]
        rfl
      refine hrest s2 ?_ (by rw [hview]; rfl) (by rw [hview]; rfl)
      have hconn : s.view.connection job.externalID =
          some (sys.status, some c, sys.targetKeyConfigurationID) := by
        rw [hext, hrow, System.connection, hkc]
      rw [hview]
      refine .single (hrotate _ _ _ _ hjobOk hconn ?_) ⟨hty, hjobOk.data, _, hconn⟩
      exact hext ▸ hadded sys mem_cons_self

theorem wp_handleSystemsOnKeyRotation {key : Key}
    (hrotate : ∀ v job prev target, RotateJob key.id job →
      v.connection job.externalID = some (prev, some key.keyConfigurationID, target) →
      G v (.rotate job prev))
    (hprepare : ∀ v job, RotateJob key.id job → (∃ n, m.eventFactory.repo.fault n ≠ none) →
      G v (.prepare job)) :
    (m.handleSystemsOnKeyRotation ctx key).wp i (fun _ s' => Leads G s.view s'.view) s := by
  refine wp_processInBatch_tenant .refl fun ht => ?_
  refine wp_mono (wp_processInBatch (I := fun s' => Leads G s.view s'.view)
    (E := fun s' => Leads G s.view s'.view) (fun _ _ h => h) (fun _ h _ => h)
    (fun s1 items h hitems => ?_) .refl) fun res s' h => ?_
  · refine wp_mono (wp_rotateSystems ht s1.view.jobs
      (fun v job prev target hjob hc _ => hrotate v job prev target hjob hc) hprepare
      (.of_subperm hitems) fun _ _ => ⟨[], by simp, by simp⟩) fun res s' h' => ?_
    cases res with
    | ok _ => exact h.trans h'.1
    | error _ => exact h.trans h'.1
  · cases res with
    | ok _ => exact h
    | error _ => exact h

theorem wp_handleSystemsOnKeyRotation_one {key : Key}
    (hsmall : (systemsOf s.db key.keyConfigurationID).length ≤ defaultLimit)
    (hrotate : ∀ v job prev target, RotateJob key.id job →
      v.connection job.externalID = some (prev, some key.keyConfigurationID, target) →
      NoneAdded s.view.jobs v job.externalID → G v (.rotate job prev))
    (hprepare : ∀ v job, RotateJob key.id job → (∃ n, m.eventFactory.repo.fault n ≠ none) →
      G v (.prepare job)) :
    (m.handleSystemsOnKeyRotation ctx key).wp i (fun _ s' => Leads G s.view s'.view) s := by
  refine wp_processInBatch_tenant .refl fun ht => ?_
  refine wp_processInBatch_one hsmall (fun _ _ _ => .refl) fun items n hitems => ?_
  refine wp_mono (wp_rotateSystems (s := { s with clock := n }) ht _ hrotate hprepare
    (.of_subperm hitems.subperm) fun _ _ => ⟨[], by simp, by simp⟩) fun res s' ⟨hlead, hconn⟩ => ?_
  cases res with
  | error e => exact hlead
  | ok u =>
    refine ⟨le_trans (systemsOf_length_le fun id => ?_) hsmall, fun _ => hlead, fun _ _ _ => hlead⟩
    rw [hconn]
    rfl

end KeyManager

end Cmk
