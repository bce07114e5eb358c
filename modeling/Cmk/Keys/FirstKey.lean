import Cmk.Keys.Primary

/-!
# Cmk.Keys.FirstKey

The first key of a key configuration. `setPrimaryIfFirstKey` asks whether the key configuration has
any key, in whatever state, so a key that waits for its keystore is in the way of all later ones and of
itself.

* `Empty`, `Leading` — a key configuration before and after it has got its first key.
* `KeyCall.Provisioned` — the request does not store a first key that is not ready.
-/

namespace Cmk

open Tx Function Option

/-- The key was stored for the key configuration, and is neither pending nor given up. -/
def Db.Settled (d : Db) (c k : UUID) : Prop :=
  ∃ key, d.keys.get? k = some key ∧ key.keyConfigurationID = c ∧
    key.state ≠ .pendingCreation ∧ key.state ≠ .error

structure Empty (c : UUID) (d : Db) : Prop where
  stored : d.refs.chosen c ≠ none
  noKeys : ∀ k, d.refs.owner k ≠ some c

/-- The key belongs to the key configuration and is its primary key. -/
structure Leading (c k : UUID) (d : Db) : Prop where
  owner : d.refs.owner k = some c
  chosen : d.refs.chosen c = some (some k)

namespace KeyCall

/-- A request to create a key or to complete one. If it creates the first key of the key
configuration, the keystore is ready and the provider gives the key a state of its own. -/
def Provisioned (c : UUID) (call : KeyCall) (s : St Db World) : Prop :=
  match call.request with
  | .create key => key.keyConfigurationID = c → key.keyType = some .byok →
    (∀ row ∈ s.db.keys.rows, row.keyConfigurationID ≠ c) →
    (∀ n, call.platform.keys.keystores.needsProvisioning n ≠ .ok true) ∧
    ∀ n resp, call.platform.keys.keystores.createKey n key = .ok resp →
      resp.status ≠ .pendingCreation ∧ resp.status ≠ .error
  | .syncPendingCreationKey _ => True
  | _ => False

theorem provisioned_step {c : UUID} {call : KeyCall} {s : State} (h : call.Provisioned c s) :
    (call.prog.run false s).2.db.refs = s.db.refs ∨
    ∃ key stored, call.request = .create key ∧
      KeyManager.Added call.platform.keys key s stored (call.prog.run false s).2 := by
  obtain ⟨platform, ctx, hout, request⟩ := call
  change Prog.wp false _ (fun _ s' => s'.db.refs = s.db.refs ∨ ∃ key stored, request = .create key ∧
    KeyManager.Added platform.keys key s stored s') s
  cases request with
  | create key =>
    refine wp_state_bind (KeyManager.wp_create hout (fun e s' hd => .inl (by rw [hd]))
      fun stored s' h => .inr ⟨key, stored, rfl, h⟩) fun _ _ h => h
  | syncPendingCreationKey keyID =>
    refine KeyManager.wp_syncPendingCreationKey hout (fun s' hd => .inl (by rw [hd]))
      (fun row st s' hrow h => ?_) fun row key' s' hrow hc h => ?_
    · exact .inl (h.refs (Repo.get?_of_byID hrow))
    · exact .inl (h.refs (Repo.get?_of_byID hrow) hc.same.2.1)
  | delete keyID => exact h.elim
  | updateKeyConfiguration keyConfigID patch => exact h.elim
  | postKeyConfigurations kc => exact h.elim

end KeyCall

section

variable {m : KeyManager} {c k : UUID} {key stored : Key} {s s' : State}

theorem owner_iff {d : Db} : d.refs.owner k = some c ↔
    ∃ row ∈ d.keys.rows, row.id = k ∧ row.keyConfigurationID = c := by
  constructor
  · intro h
    obtain ⟨row, hrow, hc⟩ := map_eq_some_iff.1 h
    obtain ⟨hmem, hid⟩ := Table.get?_eq_some.1 hrow
    exact ⟨row, hmem, hid, hc⟩
  · rintro ⟨row, hmem, rfl, rfl⟩
    simp only [Db.refs, get?_key hmem, map_some]

theorem Empty.rows {d : Db} (h : Empty c d) : ∀ row ∈ d.keys.rows, row.keyConfigurationID ≠ c :=
  fun row hrow hc => h.noKeys row.id (owner_iff.2 ⟨row, hrow, rfl, hc⟩)

theorem KeyManager.Added.owner (h : KeyManager.Added m key s stored s') : s'.db.refs.owner =
    update s.db.refs.owner key.id (some key.keyConfigurationID) := by
  rcases h.refs.2 with hr | hr
  · rw [hr]
    rfl
  · rw [hr]
    rfl

theorem KeyManager.Added.elsewhere (h : KeyManager.Added m key s stored s')
    (hc : key.keyConfigurationID ≠ c) : s'.db.refs.chosen c = s.db.refs.chosen c ∧
      ∀ k, s'.db.refs.owner k = some c ↔ s.db.refs.owner k = some c := by
  obtain ⟨hnew, hrefs⟩ := h.refs
  constructor
  · rcases hrefs with hr | hr
    · rw [hr]
      rfl
    · rw [hr]
      exact update_of_ne (Ne.symm hc) _ _
  · intro k
    rw [h.owner, update_apply]
    split
    · rename_i hk
      subst hk
      simp [hnew, hc]
    · rfl

theorem Leading.added (h : Leading c k s.db) (ha : KeyManager.Added m key s stored s') :
    Leading c k s'.db := by
  by_cases hc : key.keyConfigurationID = c
  · subst hc
    obtain ⟨issued, time, hissued, -, hprimary⟩ := ha.issued
    obtain ⟨-, hkc, -⟩ := hissued.same
    obtain ⟨row, hrow, -, hc⟩ := owner_iff.1 h.owner
    have hkcs : s'.db.keyConfigurations = s.db.keyConfigurations := by
      rcases hprimary with hp | hp
      · exact absurd (hc.trans hkc.symm) (hp.first row hrow)
      · exact hp.keyConfigurations
    have hne : k ≠ key.id := by
      rintro rfl
      have hnew := ha.refs.1
      rw [h.owner] at hnew
      cases hnew
    refine ⟨?_, ?_⟩
    · rw [ha.owner, update_of_ne hne]
      exact h.owner
    · simp only [Db.refs, hkcs]
      exact h.chosen
  · obtain ⟨hchosen, howner⟩ := ha.elsewhere hc
    exact ⟨(howner k).2 h.owner, hchosen.trans h.chosen⟩

theorem Issued.ready {issued : Key} (h : Issued m key issued)
    (hready : key.keyType = some .byok → (∀ n, m.keystores.needsProvisioning n ≠ .ok true) ∧
      ∀ n resp, m.keystores.createKey n key = .ok resp →
        resp.status ≠ .pendingCreation ∧ resp.status ≠ .error) :
    issued.state ≠ .pendingCreation ∧ issued.state ≠ .error := by
  cases h with
  | pending htype hneeds => exact absurd hneeds ((hready htype).1 _)
  | managed htype hresp => exact (hready htype).2 _ _ hresp
  | registered crypto htype => simp

theorem Key.stored_settled {time : Int} (h : key.state ≠ .pendingCreation ∧ key.state ≠ .error) :
    (key.stored time).state ≠ .pendingCreation ∧ (key.stored time).state ≠ .error := by
  simp only [Key.stored, Repo.nonZero]
  split
  · simp
  · exact h

theorem Empty.added (h : Empty c s.db) (ha : KeyManager.Added m key s stored s')
    (hready : key.keyConfigurationID = c → key.keyType = some .byok →
      (∀ n, m.keystores.needsProvisioning n ≠ .ok true) ∧
      ∀ n resp, m.keystores.createKey n key = .ok resp →
        resp.status ≠ .pendingCreation ∧ resp.status ≠ .error) :
    Empty c s'.db ∨ s'.db.Settled c key.id ∧ Leading c key.id s'.db ∧
      ∀ k, s'.db.refs.owner k = some c → k = key.id := by
  by_cases hc : key.keyConfigurationID = c
  · right
    subst hc
    obtain ⟨issued, time, hissued, rfl, hprimary⟩ := ha.issued
    obtain ⟨hid, hkc, -⟩ := hissued.same
    have hstate := hissued.ready (hready rfl)
    have hget : s'.db.keys.get? key.id = some (issued.stored time) := by
      rw [ha.inserted.keys, ← hid]
      exact update_self _ _ _
    refine ⟨⟨_, hget, hkc, Key.stored_settled hstate⟩, ⟨?_, ?_⟩, fun k hk => ?_⟩
    · rw [ha.owner, update_self]
    · have hp : Promoted issued s.db s'.db := by
        refine hprimary.resolve_right fun hp => ?_
        rcases hp.reason with ⟨row, hrow, hc⟩ | hpending
        · exact h.rows row hrow (hc.trans hkc)
        · exact hstate.1 hpending
      rw [hp.chosen, hid, hkc]
      simp only [Refs.choose, update_self]
      cases hs : s.db.refs.chosen key.keyConfigurationID with
      | none => exact absurd hs h.stored
      | some p => rfl
    · by_contra hne
      rw [ha.owner, update_of_ne hne] at hk
      exact h.noKeys k hk
  · left
    obtain ⟨hchosen, howner⟩ := ha.elsewhere hc
    exact ⟨hchosen ▸ h.stored, fun k hk => h.noKeys k ((howner k).1 hk)⟩

end

namespace KeyCall

variable {c k : UUID} {call : KeyCall} {s : State}

theorem leading_step (hcall : call.Provisioned c s) (h : Leading c k s.db) :
    Leading c k (call.prog.run false s).2.db := by
  rcases provisioned_step hcall with hr | ⟨key, stored, -, ha⟩
  · exact ⟨hr ▸ h.owner, hr ▸ h.chosen⟩
  · exact h.added ha

theorem empty_step (hcall : call.Provisioned c s) (h : Empty c s.db) :
    Empty c (call.prog.run false s).2.db ∨ ∃ k, (call.prog.run false s).2.db.Settled c k ∧
      Leading c k (call.prog.run false s).2.db ∧
      ∀ k', (call.prog.run false s).2.db.refs.owner k' = some c → k' = k := by
  rcases provisioned_step hcall with hr | ⟨key, stored, hreq, ha⟩
  · exact .inl ⟨hr ▸ h.stored, hr ▸ h.noKeys⟩
  · unfold Provisioned at hcall
    rw [hreq] at hcall
    exact (h.added ha fun hc htype => hcall hc htype h.rows).imp id fun hk => ⟨key.id, hk⟩

end KeyCall

theorem Db.Settled.owner {d : Db} {c k : UUID} (h : d.Settled c k) : d.refs.owner k = some c := by
  obtain ⟨key, hkey, hc, -⟩ := h
  simp only [Db.refs, hkey, map_some, hc]

/-- A key configuration begins without keys. The first key that is stored with a state other than
PENDING_CREATION and ERROR is the primary key from then on, if the first request that stores a key
finds its keystore ready. -/
theorem first_key_primary {c k : UUID} {kc : KeyConfiguration} {s₀ s s' : St Db World} {call : KeyCall}
    (hkc : s₀.db.keyConfigurations.get? c = some kc)
    (hempty : ∀ row ∈ s₀.db.keys.rows, row.keyConfigurationID ≠ c)
    (hbefore : Runs KeyCall.prog
      (fun call s => call.Provisioned c s ∧ ∀ k, ¬ s.db.Settled c k) s₀ s)
    (hs : ∀ k, ¬ s.db.Settled c k) (hcall : call.Provisioned c s)
    (hk : (call.prog.run false s).2.db.Settled c k)
    (hafter : Runs KeyCall.prog (fun call s => call.Provisioned c s) (call.prog.run false s).2 s') :
    (s'.db.keyConfigurations.get? c).map KeyConfiguration.primaryKeyID = some (some k) := by
  have hstart : Empty c s₀.db := by
    refine ⟨by simp [Db.refs, hkc], fun k hk => ?_⟩
    obtain ⟨row, hrow, -, hc⟩ := owner_iff.1 hk
    exact hempty row hrow hc
  -- as long as no key is settled there is none
  have hwait : (∀ k, ¬ s.db.Settled c k) → Empty c s.db := by
    refine hbefore.induct (I := fun s => (∀ k, ¬ s.db.Settled c k) → Empty c s.db) (fun _ => hstart) ?_
    intro call s hcall ih hs'
    rcases call.empty_step hcall.1 (ih hcall.2) with h | ⟨k, hk, -⟩
    · exact h
    · exact absurd hk (hs' k)
  have hlead : Leading c k (call.prog.run false s).2.db := by
    rcases call.empty_step hcall (hwait hs) with h | ⟨k', -, hlead, honly⟩
    · exact absurd hk.owner (h.noKeys k)
    · rw [honly k hk.owner]
      exact hlead
  exact (hafter.induct (I := fun s => Leading c k s.db) hlead
    fun call s hcall h => call.leading_step hcall h).chosen

namespace Sample

def unprovisioned (key : Key) : KeyCall :=
  { keyCall (.create key) with
    platform := { keyPlatform with
      keys := { keyPlatform.keys with
        keystores := { keystores with needsProvisioning := fun _ => .ok true } } } }

def pendingStateSync (keyID : UUID) : KeyCall where
  platform := keyPlatform
  ctx := ⟨"t", some .internalUser, none, some .taskPendingStateSync, false⟩
  outermost := rfl
  request := .syncPendingCreationKey keyID

def twoKeyConfigurations : St Db World :=
  ((keyCall (.postKeyConfigurations newKeyConfiguration)).prog.run false start).2

def newKey (id : UUID) (name : String) : KeyCall := keyCall (.create (enabledKey id 31 name))

end Sample

theorem first_key_primary_of_two :
    ((Runs.afterAll KeyCall.prog [Sample.newKey 22 "k2"]
      ((Sample.newKey 21 "k1").prog.run false
        Sample.twoKeyConfigurations).2).db.keyConfigurations.get? 31).map
        KeyConfiguration.primaryKeyID = some (some 21) := by
  have hkc : Sample.twoKeyConfigurations.db.keyConfigurations.get? 31 =
      some Sample.newKeyConfiguration := by decide +kernel
  have hempty : ∀ row ∈ Sample.twoKeyConfigurations.db.keys.rows, row.keyConfigurationID ≠ 31 := by
    decide +kernel
  have hready : ∀ id name s, (Sample.newKey id name).Provisioned 31 s := by
    intro id name s _ _ _
    refine ⟨fun n h => ?_, fun n resp h => ?_⟩
    · cases h
    · cases h
      simp
  have hsettled : ((Sample.newKey 21 "k1").prog.run false Sample.twoKeyConfigurations).2.db.Settled 31 21 := by
    refine ⟨{ Sample.enabledKey 21 31 "k1" with state := .pendingImport }, ?_⟩
    decide +kernel
  refine first_key_primary hkc hempty .refl (fun k hk => ?_) (hready 21 "k1" _) hsettled
    (Runs.of_along ⟨hready 22 "k2" _, trivial⟩)
  obtain ⟨row, hrow, -, hc⟩ := owner_iff.1 hk.owner
  exact hempty row hrow hc

/-- A key that waited for its keystore gets no key configuration a primary key. -/
theorem first_key_not_primary :
    let s := Runs.afterAll KeyCall.prog [Sample.unprovisioned (Sample.enabledKey 21 31 "k1"),
      Sample.pendingStateSync 21] Sample.twoKeyConfigurations
    (s.db.keys.get? 21).map (fun key => (key.keyConfigurationID, key.state)) = some (31, .pendingImport) ∧
    (s.db.keyConfigurations.get? 31).map KeyConfiguration.primaryKeyID = some none := by
  decide +kernel

end Cmk
