import Cmk.Jobs.Batches

/-!
# Cmk.Jobs.Promotion

`UpdateKeyConfigurationByID` with a new primary key, as deeds.

* `Updates`  — the deeds of an update: events are rekeyed, the systems of the key configuration are
  submitted to a switch, and at the end its row is replaced.
* `Covered`  — the update has reached every system and every event.
* `Obstacle` — why an update can fail after it has created jobs.

An update with a listing of more than one page need not reach everything, so `Covered` is only known
when the listings are `OnePage`.
-/

namespace Cmk

open Tx Repo Option List Deed

variable {f : EventFactory} {c : UUID} {new old : Option UUID} {v v' : View} {Q : Post Unit}

variable {ctx : Ctx} {s s' : State}

structure Repo.Reliable (r : Repo) : Prop where
  fault : ∀ n, r.fault n = none
  commit : ∀ n, r.commit n = none

theorem Repo.Reliable.stored {r : Repo} (h : r.Reliable) {stored : Bool}
    (hs : stored = false → ∃ n, r.fault n ≠ none) : stored = true := by
  by_contra hf
  obtain ⟨n, hn⟩ := hs (by simpa using hf)
  exact hn (h.fault n)

/-- The deeds of a switch of the key configuration `c` from the primary key `old` to `new`. -/
def Switches (f : EventFactory) (c : UUID) (old new : Option UUID) (_ : View) : Deed → Prop
  | .rekey ev keyID => new = some keyID ∧ ev.data.keyIDTo = old
  | .submit job _ keyConfigID _ stored =>
      (∃ keyTo keyFrom, new = some keyTo ∧ old = some keyFrom ∧ SwitchJob keyTo keyFrom job) ∧
      keyConfigID = some c ∧ (stored = false → ∃ n, f.repo.fault n ≠ none)
  | _ => False

/-- The deeds of an update: those of the switch, and in the end the row is replaced. -/
def Updates (f : EventFactory) (c : UUID) (old new : Option UUID) (v : View) : Deed → Prop
  | .replace kc => kc.id = c ∧ kc.primaryKeyID = new.or old
  | δ => Switches f c old new v δ

theorem Switches.updates {δ : Deed} (h : Switches f c old new v δ) : Updates f c old new v δ := by
  cases δ with
  | replace kc => exact h.elim
  | _ => exact h

theorem Updates.not_rotate {job : Job} {prev : SystemStatus} {kcID target : Option UUID}
    {stored : Bool} (h : Updates f c old new v (.submit job prev kcID target stored)) :
    job.type ≠ .systemKeyRotate := by
  obtain ⟨⟨keyTo, keyFrom, -, -, hjob⟩, -⟩ := h
  rw [hjob.type]
  nofun

theorem Switches.keeps (h : Leads (f.Marked (Switches f c old new)) v v') :
    v'.key = v.key ∧ v'.keyConfiguration = v.keyConfiguration := by
  refine h.induct (I := fun w => w.key = v.key ∧ w.keyConfiguration = v.keyConfiguration) ⟨rfl, rfl⟩
    fun w δ hw hδ _ => ?_
  rcases hδ with hδ | ⟨-, id, kcID, target, rfl⟩
  · cases δ with
    | rekey ev keyID => exact hw
    | submit job prev kcID target stored =>
      rw [submit_key, submit_keyConfiguration]
      exact hw
    | _ => exact hδ.elim
  · exact hw

structure OnePage (d : Db) (c : UUID) (old : Option UUID) : Prop where
  systems : (Repo.systemsOf d c).length ≤ defaultLimit
  events : ∀ keyID, old = some keyID → (Repo.eventsTo d keyID).length ≤ defaultLimit

/-- Every system of the key configuration is being switched, and no event names the old key. -/
structure Covered (c : UUID) (old : Option UUID) (new : UUID) (v v' : View) : Prop where
  systems : old ≠ none → ∀ id status target, v.connection id = some (status, some c, target) →
    v'.connection id = some (.processing, some c, target)
  events : ∀ id ev, v'.event id = some ev → ev.data.keyIDTo = old → old ≠ none →
    ev.data.keyIDTo = some new

namespace KeyConfigManager

variable {m : KeyConfigManager} {f : EventFactory}

inductive Obstacle (m : KeyConfigManager) (f : EventFactory) (v : View) (c : UUID) : Prop where
  | processing (id : UUID) (target : Option UUID) :
      v.connection id = some (.processing, some c, target) → Obstacle m f v c
  | unreliable : ¬ (m.repo.Reliable ∧ f.repo.Reliable) → Obstacle m f v c
  | refusesJob : f.RefusesJob → Obstacle m f v c

variable {kc : KeyConfiguration} {new : UUID}

theorem eventsTo_rows {events : List Event} {keyID : UUID}
    (h : events.Subperm (eventsTo s.db keyID)) :
    (∀ ev ∈ events, s.view.event ev.identifier = some ev ∧ ev.data.keyIDTo = some keyID) ∧
      (events.map Event.identifier).Nodup := by
  constructor
  · intro ev hev
    have hev := h.subset hev
    rw [eventsTo, mem_filter, decide_eq_true_eq] at hev
    exact ⟨get?_key hev.1, hev.2⟩
  · obtain ⟨l, hperm, hsub⟩ := h
    refine (hperm.map Event.identifier).nodup_iff.1 ?_
    exact ((hsub.trans filter_sublist).map Event.identifier).nodup s.db.events.nodup

theorem wp_handleUpdatePrimaryKey (hrefused : ∀ e n, Q (.error e) { s with clock := n })
    (hfirst : kc.primaryKeyID = none → ∀ n, Q (.ok ()) { s with clock := n })
    (hswitch : ∀ old n, kc.primaryKeyID = some old → ctx.tenant ≠ "" →
      (do
        m.updatePrimaryKeySystemEvents ctx old new
        m.repo.processInBatch ctx (systemsOf · kc.id) (switchSystems f ctx new old) :
          M Unit).wp true Q { s with clock := n }) :
    (m.handleUpdatePrimaryKey f ctx kc new).wp true Q s := by
  simp only [handleUpdatePrimaryKey]
  refine wp_query_bind (fun _ _ _ => hrefused _ _) fun targetKey n _ => ?_
  cases validateKeyForPrimarySwitch targetKey with
  | error e => exact hrefused _ _
  | ok u =>
    simp only [Prog.ok_bind]
    cases hold : kc.primaryKeyID with
    | none => exact hfirst hold _
    | some old =>
      refine wp_query_bind (fun _ _ _ => hrefused _ _) fun sourceKey k hkey => ?_
      cases validateKeyForPrimarySwitch sourceKey with
      | error e => exact hrefused _ _
      | ok u => exact hswitch old k hold (eval_query_tenant hkey)

theorem wp_handleUpdatePrimaryKey_leads (hin : ctx.inTx = true) :
    (m.handleUpdatePrimaryKey f ctx kc new).wp true (fun res s' =>
      f.Ran (Switches f kc.id kc.primaryKeyID (some new)) s.view s'.view res) s := by
  refine wp_handleUpdatePrimaryKey (fun _ _ => .refl) (fun _ _ => .refl) fun old n hold _ => ?_
  generalize hG : Switches f kc.id kc.primaryKeyID (some new) = G
  have hended : ∀ (res : Except Exn Unit) s', Repo.Ended (fun s' => Leads G s.view s'.view)
      (fun s' => Leads (f.Marked G) s.view s'.view) res s' ↔ f.Ran G s.view s'.view res := by
    intro res s'
    cases res <;> rfl
  have hmarked : ∀ s' : State, Leads G s.view s'.view → (∃ k, m.repo.Refuses ctx k) →
      Leads (f.Marked G) s.view s'.view := fun _ h _ => h.mono fun _ _ => .inl
  refine wp_bind (wp_mono (wp_processInBatch (fun _ _ h => h) hmarked
    (fun s1 events h1 hevents => ?_) .refl) fun res s1 h1 => ?_)
  · obtain ⟨hrows, hnd⟩ := eventsTo_rows hevents
    refine wp_mono (wp_rekeyEvents (G := G) (fun v ev hev => ?_)
      (fun ev hev => ⟨(hrows ev hev).1, by rw [(hrows ev hev).2]; nofun⟩) hnd)
      fun res s' h => (hended res s').2 (.of_leads (h1.trans h.1))
    rw [← hG]
    exact ⟨rfl, (hrows ev hev).2.trans hold.symm⟩
  · cases res with
    | error e => exact h1
    | ok u =>
      refine wp_mono (wp_processInBatch (fun _ _ h => h) hmarked
        (fun s2 items h2 hitems => ?_) h1) fun res s' => (hended res s').1
      refine wp_mono (wp_switchSystems (G := G) hin
        (fun v job prev target stored hjob hstored => ?_) (.of_subperm hitems))
        fun res s' h => (hended res s').2 (.after h2 h.1)
      rw [← hG]
      exact ⟨⟨new, old, rfl, hold, hjob⟩, rfl, hstored⟩

theorem Obstacle.of_refuses (ht : ctx.tenant ≠ "")
    (h : (∃ k, m.repo.Refuses ctx k) ∨ ∃ k, f.repo.Refuses ctx k) : Obstacle m f v kc.id := by
  refine .unreliable fun ⟨hm, hf⟩ => ?_
  rcases h with ⟨k, hk⟩ | ⟨k, hk⟩
  · exact hk.resolve_left ht (hm.fault k)
  · exact hk.resolve_left ht (hf.fault k)

theorem wp_updatePrimaryKeySystemEvents {old : UUID}
    (hsmall : (eventsTo s.db old).length ≤ defaultLimit)
    (hrefused : ∀ e s', s'.view.jobs = s.view.jobs → Q (.error e) s')
    (hok : ∀ s', s'.view.jobs = s.view.jobs → s'.view.connection = s.view.connection →
      (∀ id ev, s'.view.event id = some ev → ev.data.keyIDTo = some old →
        ev.data.keyIDTo = some new) → Q (.ok ()) s') :
    (m.updatePrimaryKeySystemEvents ctx old new).wp true Q s := by
  refine wp_processInBatch_one hsmall (fun e n _ => hrefused _ _ rfl) fun events n hevents => ?_
  obtain ⟨hrows, hnd⟩ := eventsTo_rows hevents.subperm
  have hmem : ∀ id ev, s.view.event id = some ev → ev.data.keyIDTo = some old → ev ∈ events := by
    intro id ev hev hto
    refine hevents.mem_iff.2 (mem_filter.2 ⟨mem_of_get? hev, ?_⟩)
    simpa using hto
  refine wp_mono (wp_rekeyEvents (s := { s with clock := n })
    (G := fun _ δ => ∃ ev, δ = .rekey ev new) (fun v ev _ => ⟨ev, rfl⟩)
    (fun ev hev => ⟨(hrows ev hev).1, by rw [(hrows ev hev).2]; nofun⟩) hnd)
    fun res s' ⟨hlead, hres⟩ => ?_
  have hframe : s'.view.jobs = s.view.jobs ∧ s'.view.connection = s.view.connection := by
    refine hlead.induct (I := fun v => v.jobs = s.view.jobs ∧ v.connection = s.view.connection)
      ⟨rfl, rfl⟩ fun v δ hv hδ _ => ?_
    obtain ⟨ev, rfl⟩ := hδ
    exact hv
  cases res with
  | error e => exact hrefused _ _ hframe.1
  | ok u =>
    have hnone : ∀ id ev, s'.view.event id = some ev → ev.data.keyIDTo = some old →
        ev.data.keyIDTo = some new := by
      intro id ev' hev' hto
      rw [hres id] at hev'
      obtain ⟨ev, hev, rfl⟩ := map_eq_some_iff.1 hev'
      by_cases hin : ev ∈ events
      · rw [if_pos hin]; rfl
      · rw [if_neg hin] at hto
        exact absurd (hmem id ev hev hto) hin
    refine ⟨le_trans (Table.length_filter_le fun ev' hev' hto => ?_) hsmall, fun k => ?_,
      fun e k _ => hrefused _ _ hframe.1⟩
    · have hget := hres ev'.identifier
      rw [view_event, get?_key hev'] at hget
      obtain ⟨ev, hev, heq⟩ := map_eq_some_iff.1 hget.symm
      have hto : ev'.data.keyIDTo = some old := by simpa using hto
      refine ⟨ev, mem_of_get? hev, key_of_get? hev, ?_⟩
      by_cases hin : ev ∈ events
      · simpa using (hrows ev hin).2
      · rw [if_neg hin] at heq
        rw [heq]
        simpa using hto
    · exact hok _ hframe.1 hframe.2 hnone

theorem wp_switchSystems_all {old : UUID} (hin : ctx.inTx = true) (ht : ctx.tenant ≠ "")
    (hsmall : (systemsOf s.db kc.id).length ≤ defaultLimit)
    (hrefused : ∀ e s', Obstacle m f s.view kc.id → Q (.error e) s')
    (hok : ∀ s', (∀ id status target, s.view.connection id = some (status, some kc.id, target) →
        s'.view.connection id = some (.processing, some kc.id, target)) →
      (∀ id ev, s'.view.event id = some ev →
        ev.data.keyIDTo = some new ∨ s.view.event id = some ev) → Q (.ok ()) s') :
    (m.repo.processInBatch ctx (systemsOf · kc.id) (switchSystems f ctx new old)).wp true Q s := by
  refine wp_processInBatch_one hsmall (fun e n h => hrefused _ _ (.of_refuses ht (.inl h)))
    fun items n hitems => ?_
  have hcur : Current s.view kc.id items := .of_subperm hitems.subperm
  refine wp_mono (wp_switchSystems (s := { s with clock := n })
    (G := fun _ δ => match δ with
      | .submit job _ _ _ _ => SwitchJob new old job
      | _ => False) hin (fun _ _ _ _ _ h _ => h) hcur) fun res s' ⟨hlead, hframe, hres⟩ => ?_
  cases res with
  | error e =>
    refine hrefused _ _ ?_
    rcases hres with ⟨sys, hsys, hst⟩ | hr | hr
    · refine .processing sys.id sys.targetKeyConfigurationID ?_
      rw [hcur.rows sys hsys, System.connection, hst, hcur.keyConfigurationID sys hsys]
    · exact .of_refuses ht (.inr hr)
    · exact .refusesJob hr
  | ok u =>
    have hevents : ∀ id ev, s'.view.event id = some ev →
        ev.data.keyIDTo = some new ∨ s.view.event id = some ev := by
      refine Leads.induct hlead (I := fun v => ∀ id ev, v.event id = some ev →
        ev.data.keyIDTo = some new ∨ s.view.event id = some ev) (fun _ _ h => .inr h)
        fun v δ hv hδ _ => ?_
      cases δ with
      | submit job prev kcID target stored =>
        intro id ev hev
        cases stored with
        | false => exact hv id ev hev
        | true =>
          by_cases hid : id = job.externalID
          · subst hid
            have : job.event prev = ev := by simpa [apply, View.setEvent] using hev
            exact .inl (this ▸ hδ.keyIDTo)
          · refine hv id ev ?_
            simpa [apply, View.setEvent, View.addJob, View.setConnection, hid] using hev
      | _ => exact hδ.elim
    refine ⟨le_trans (systemsOf_length_le fun id => ?_) hsmall, fun k => hok _ ?_ hevents,
      fun e k h => hrefused _ _ (.of_refuses ht (.inl h))⟩
    · by_cases hid : id ∈ items.map System.id
      · obtain ⟨sys, hsys, rfl⟩ := mem_map.1 hid
        rw [hres sys hsys, hcur.rows sys hsys]
        rfl
      · rw [hframe id hid]
        rfl
    · intro id status target hconn
      obtain ⟨row, hrow, heq⟩ := map_eq_some_iff.1 hconn
      have hid : row.id = id := key_of_get? hrow
      obtain ⟨-, hkc, htarget⟩ : row.status = status ∧ row.keyConfigurationID = some kc.id ∧
          row.targetKeyConfigurationID = target := by
        simpa [System.connection] using heq
      have hmem : row ∈ items :=
        hitems.mem_iff.2 (mem_filter.2 ⟨mem_of_get? hrow, by simpa using hkc⟩)
      have hnew := hres row hmem
      rw [hid, hkc, htarget] at hnew
      exact hnew

theorem wp_handleUpdatePrimaryKey_one (hin : ctx.inTx = true)
    (hsmall : OnePage s.db kc.id kc.primaryKeyID) :
    (m.handleUpdatePrimaryKey f ctx kc new).wp true (fun res s' =>
      match res with
      | .ok _ => Covered kc.id kc.primaryKeyID new s.view s'.view
      | .error _ => s'.view.jobs = s.view.jobs ∨ Obstacle m f s.view kc.id) s := by
  refine wp_handleUpdatePrimaryKey (fun _ _ => .inl rfl) (fun hold n => ?_) fun old n hold ht => ?_
  · rw [hold]
    exact ⟨fun h => absurd rfl h, fun _ _ _ _ h => absurd rfl h⟩
  rw [hold]
  refine wp_bind (wp_updatePrimaryKeySystemEvents (s := { s with clock := n })
    (hsmall.events old hold) (fun e s' hjobs => .inl hjobs) fun s1 hjobs hconn hevents => ?_)
  have hsys : ∀ id, (s1.view.connection id).map (·.2.1) = (s.view.connection id).map (·.2.1) := by
    intro id
    rw [hconn]
    rfl
  refine wp_switchSystems_all hin ht ((systemsOf_length_le hsys).trans hsmall.systems)
    (fun e s' hob => .inr ?_) fun s' hsystems hev => ⟨fun _ id status target h => ?_, ?_⟩
  · cases hob with
    | processing id target h => exact .processing id target (hconn ▸ h)
    | unreliable h => exact .unreliable h
    | refusesJob h => exact .refusesJob h
  · exact hsystems id status target (hconn ▸ h)
  · intro id ev h hto _
    rcases hev id ev h with h | h
    · exact h
    · exact hevents id ev h hto

def NameTaken (v : View) (c : UUID) (name : String) : Prop :=
  ∃ id kc, v.keyConfiguration id = some kc ∧ kc.id ≠ c ∧ kc.name = name

theorem wp_patchKeyConfiguration {kc' : KeyConfiguration} (hid : kc'.id = kc.id)
    (hrow : s.view.keyConfiguration kc.id = some kc)
    (hrefused : ∀ e s', (∃ k, m.repo.Refuses ctx k) ∨ NameTaken s.view kc.id kc'.name →
      s'.view = s.view → Q (.error e) s')
    (hok : ∀ s', s'.view = (replace (keyConfigurationUpdates kc' kc)).apply s.view →
      Q (.ok ()) s') :
    (m.repo.patchKeyConfiguration ctx kc').wp true Q s := by
  refine wp_exec_any (fun e s' hr hd hx => hrefused _ _ (.inl ⟨_, hr⟩) (view_congr hd hx))
    fun s' _ hd hx => ?_
  split at hd
  · rename_i hname
    rw [if_pos hname]
    refine hrefused _ _ (.inr ?_) (view_congr hd hx)
    obtain ⟨other, hmem, hne, heq⟩ : ∃ other ∈ s.db.keyConfigurations.rows,
        other.id ≠ kc'.id ∧ other.name = kc'.name := by simpa using hname.2
    exact ⟨other.id, other, get?_key hmem, hid ▸ hne, heq⟩
  · rename_i hname
    rw [if_neg hname]
    refine hok s' ?_
    have hc : s'.db.connection = s.db.connection := by
      funext id
      simp only [Db.connection, hd]
    have hn : s'.db.name = s.db.name := by
      funext id
      simp only [Db.name, hd]
    have hk : s'.db.keyConfigurations.get? = Function.update s.db.keyConfigurations.get? kc.id
        (some (keyConfigurationUpdates kc' kc)) := by
      have hrow : s.db.keyConfigurations.get? kc.id = some kc := hrow
      have hmod := get?_modify (t := s.db.keyConfigurations) (k := kc'.id)
        (f := keyConfigurationUpdates kc') fun _ => rfl
      rw [hid, hrow, map_some, ← hid] at hmod
      rw [hd, ← hid]
      exact hmod
    rw [St.view, hn, hc, hk, hd, hx]
    rfl

def patched (kc : KeyConfiguration) (patch : KeyConfigurationPatch) : KeyConfiguration :=
  { kc with
    name := patch.name.getD kc.name
    description := patch.description.getD kc.description }

/-- What is known of a function of an update that has run from `v` to `v'`, when the listings fit on
one page each. -/
def Outcome (m : KeyConfigManager) (f : EventFactory) (kc : KeyConfiguration)
    (patch : KeyConfigurationPatch) (v v' : View) : Except Exn KeyConfiguration → Prop
  | .ok _ =>
    (∀ new, patch.primaryKeyID = some new → Covered kc.id kc.primaryKeyID new v v') ∧
    ∃ kc', v'.keyConfiguration = Function.update v.keyConfiguration kc.id (some kc') ∧
      kc'.id = kc.id ∧ kc'.primaryKeyID = patch.primaryKeyID.or kc.primaryKeyID
  | .error _ => v'.jobs = v.jobs ∨ Obstacle m f v kc.id ∨ NameTaken v kc.id (patched kc patch).name

theorem wp_update {patch : KeyConfigurationPatch} (hin : ctx.inTx = true) (ht : ctx.tenant ≠ "")
    (hrow : s.view.keyConfiguration kc.id = some kc) :
    (do
      let keyConfig ← match patch.primaryKeyID with
        | none => pure (patched kc patch)
        | some primaryKeyID => do
          (m.handleUpdatePrimaryKey f ctx (patched kc patch) primaryKeyID).mapError
            (.wrap .errUpdateKeyConfiguration)
          pure { patched kc patch with primaryKeyID := some primaryKeyID }
      (m.repo.patchKeyConfiguration ctx keyConfig).mapError (.wrap .errUpdateKeyConfiguration)
      return keyConfig : M KeyConfiguration).wp true (fun res s' =>
        f.Ran (Updates f kc.id kc.primaryKeyID patch.primaryKeyID) s.view s'.view res ∧
        (OnePage s.db kc.id kc.primaryKeyID → Outcome m f kc patch s.view s'.view res)) s := by
  -- the row is replaced in the state the switch has left
  have hpatch : ∀ (kc' : KeyConfiguration) (s1 : State), kc'.id = kc.id →
      kc'.name = (patched kc patch).name →
      kc'.primaryKeyID = patch.primaryKeyID.or kc.primaryKeyID →
      Leads (Switches f kc.id kc.primaryKeyID patch.primaryKeyID) s.view s1.view →
      (OnePage s.db kc.id kc.primaryKeyID → ∀ new, patch.primaryKeyID = some new →
        Covered kc.id kc.primaryKeyID new s.view s1.view) →
      (do
        (m.repo.patchKeyConfiguration ctx kc').mapError (.wrap .errUpdateKeyConfiguration)
        return kc' : M KeyConfiguration).wp true (fun res s' =>
          f.Ran (Updates f kc.id kc.primaryKeyID patch.primaryKeyID) s.view s'.view res ∧
          (OnePage s.db kc.id kc.primaryKeyID → Outcome m f kc patch s.view s'.view res)) s1 := by
    intro kc' s1 hid hname hprimary hlead hcov
    obtain ⟨-, hkcs⟩ := Switches.keeps (hlead.mono fun _ _ => .inl)
    have hlead' := hlead.mono fun v δ h => Switches.updates h
    have hrow1 : s1.view.keyConfiguration kc.id = some kc := by rw [hkcs, hrow]
    refine wp_bind (wp_mapError (wp_patchKeyConfiguration hid hrow1
      (fun e s2 hr hv => ?_) fun s2 hv => ?_))
    · refine ⟨.of_leads (hv ▸ hlead'), fun _ => .inr ?_⟩
      rcases hr with hr | hr
      · exact .inl (.of_refuses ht (.inl hr))
      · refine .inr ?_
        rw [NameTaken, hkcs] at hr
        rw [← hname]
        exact hr
    · have hnew : (keyConfigurationUpdates kc' kc).primaryKeyID =
          patch.primaryKeyID.or kc.primaryKeyID := by
        simp only [keyConfigurationUpdates, hprimary, nonZero]
        cases patch.primaryKeyID <;> cases kc.primaryKeyID <;> rfl
      have hstep : Leads (Updates f kc.id kc.primaryKeyID patch.primaryKeyID) s1.view s2.view := by
        rw [hv]
        exact .single ⟨rfl, hnew⟩ ⟨kc, hrow1⟩
      have hcov' : OnePage s.db kc.id kc.primaryKeyID → ∀ new, patch.primaryKeyID = some new →
          Covered kc.id kc.primaryKeyID new s.view s2.view := by
        intro hsmall new h
        obtain ⟨hsys, hev⟩ := hcov hsmall new h
        rw [hv]
        exact ⟨hsys, hev⟩
      refine ⟨hlead'.trans hstep, fun hsmall => ⟨hcov' hsmall,
        keyConfigurationUpdates kc' kc, ?_, rfl, hnew⟩⟩
      have hkc : s2.view.keyConfiguration = Function.update s1.view.keyConfiguration kc.id
          (some (keyConfigurationUpdates kc' kc)) := by
        rw [hv]
        rfl
      rw [← hkcs]
      exact hkc
  cases hp : patch.primaryKeyID with
  | none =>
    rw [hp] at hpatch
    exact hpatch _ s rfl rfl rfl .refl fun _ _ h => by cases h
  | some new =>
    rw [hp] at hpatch
    simp only [Prog.pure_bind]
    have hswitch : (m.handleUpdatePrimaryKey f ctx (patched kc patch) new).wp true (fun res s' =>
        f.Ran (Switches f kc.id kc.primaryKeyID (some new)) s.view s'.view res ∧
        (OnePage s.db kc.id kc.primaryKeyID → match res with
          | .ok _ => Covered kc.id kc.primaryKeyID new s.view s'.view
          | .error _ => s'.view.jobs = s.view.jobs ∨ Obstacle m f s.view kc.id)) s :=
      ⟨wp_handleUpdatePrimaryKey_leads hin, fun hsmall => wp_handleUpdatePrimaryKey_one hin hsmall⟩
    refine wp_bind (wp_mapError (wp_mono hswitch fun res s1 h => ?_))
    obtain ⟨hlead, hres⟩ := h
    cases res with
    | error e =>
      refine ⟨EventFactory.Ran.mono hlead fun v δ h => Switches.updates h, fun hsmall => ?_⟩
      rcases hres hsmall with h | h
      · exact .inl h
      · exact .inr (.inl h)
    | ok u =>
      refine hpatch _ s1 rfl rfl rfl hlead fun hsmall new' h => ?_
      cases h
      exact hres hsmall

/-- What is known when the function of an update of `kc` has run from `v` to `v'`. -/
structure Updated (m : KeyConfigManager) (f : EventFactory) (d : Db) (kc : KeyConfiguration)
    (patch : KeyConfigurationPatch) (v v' : View) (res : Except Exn KeyConfiguration) : Prop where
  row : v.keyConfiguration kc.id = some kc
  ran : f.Ran (Updates f kc.id kc.primaryKeyID patch.primaryKeyID) v v' res
  outcome : OnePage d kc.id kc.primaryKeyID → Outcome m f kc patch v v' res

variable {keyConfigID : UUID} {patch : KeyConfigurationPatch}

theorem wp_updateChecks {P : Post KeyConfiguration} {i : Bool}
    (hkept : ∀ e n, P (.error e) { s with clock := n })
    (hbody : ∀ n kc, byID s.db.keyConfigurations keyConfigID = some kc → ctx.tenant ≠ "" →
      (m.repo.transaction ctx fun ctx => do
        let keyConfig ← match patch.primaryKeyID with
          | none => pure (patched kc patch)
          | some primaryKeyID => do
            (m.handleUpdatePrimaryKey f ctx (patched kc patch) primaryKeyID).mapError
              (.wrap .errUpdateKeyConfiguration)
            pure { patched kc patch with primaryKeyID := some primaryKeyID }
        (m.repo.patchKeyConfiguration ctx keyConfig).mapError (.wrap .errUpdateKeyConfiguration)
        return keyConfig).wp i P { s with clock := n }) :
    (m.updateKeyConfigurationByID f ctx keyConfigID patch).wp i P s := by
  refine wp_query_bind (fun _ _ _ => hkept _ _) fun _ n _ => ?_
  refine wp_query_bind (fun _ _ _ => hkept _ _) fun kc k hkc => ?_
  have hkc := eval_mapError_ok hkc
  simp only [Prog.throw_bind]
  split
  · exact hkept _ _
  · exact hbody k kc (eval_first_ok hkc).1 (eval_query_tenant hkc)

theorem wp_updateKeyConfigurationByID {P : Except Exn KeyConfiguration → View → Prop}
    (hout : ctx.inTx = false) (hkept : ∀ e, P (.error e) s.view)
    (hdone : ∀ kc v' a, byID s.db.keyConfigurations keyConfigID = some kc →
      Updated m f s.db kc patch s.view v' (.ok a) → P (.ok a) v')
    (hfailed : ∀ kc v' res e, byID s.db.keyConfigurations keyConfigID = some kc →
      Updated m f s.db kc patch s.view v' res → ((∃ a, res = .ok a) → ∃ k, m.repo.commit k ≠ none) →
      P (.error e) { s.view with jobs := v'.jobs }) :
    (m.updateKeyConfigurationByID f ctx keyConfigID patch).wp false (fun res s' => P res s'.view)
      s := by
  refine wp_updateChecks (fun e _ => hkept e) fun n kc hkc ht => ?_
  refine wp_transaction_view hout (wp_mono (wp_update (s := { s with clock := n }) rfl ht
    (get?_of_byID hkc)) fun res s' ⟨hlead, hres⟩ => ⟨fun a ha => ?_, fun hc e => ?_⟩)
  · subst ha
    exact hdone kc _ a hkc ⟨get?_of_byID hkc, hlead, hres⟩
  · exact hfailed kc _ res e hkc ⟨get?_of_byID hkc, hlead, hres⟩ fun ⟨a, ha⟩ => hc a ha

theorem wp_updateKeyConfigurationByID_inTx {P : Post KeyConfiguration}
    (hin : ctx.inTx = true) (hkept : ∀ e n, P (.error e) { s with clock := n })
    (hdone : ∀ kc s' res, byID s.db.keyConfigurations keyConfigID = some kc →
      Updated m f s.db kc patch s.view s'.view res → P res s') :
    (m.updateKeyConfigurationByID f ctx keyConfigID patch).wp true P s := by
  refine wp_updateChecks hkept fun n kc hkc ht => ?_
  rw [transaction_inTx hin]
  exact wp_mono (wp_update (s := { s with clock := n }) hin ht (get?_of_byID hkc))
    fun res s' ⟨hlead, hres⟩ => hdone kc s' res hkc ⟨get?_of_byID hkc, hlead, hres⟩

end KeyConfigManager

end Cmk
