import Cmk.Jobs.Quiet

/-!
# Cmk.Jobs.Status

The status of a system and the key configurations it names.

* `LinkFields` — a CONNECTED system has a key configuration and no target, a DISCONNECTED system has
  neither.

Every deed but two leaves a system PROCESSING or FAILED, or connected with the fields set as they
should be. A disconnect keeps the target it finds, and a cancel puts back the status of the Event row
next to whatever key configuration the system has: `Deed.Tidies` says when these two are harmless.
-/

namespace Cmk

open Tx Function

variable {v v' : View} {p : Platform} {s s' : Sys}

def Connection.Fits : Connection → Prop
  | (.connected, keyConfigID, target) => keyConfigID ≠ none ∧ target = none
  | (.disconnected, keyConfigID, target) => keyConfigID = none ∧ target = none
  | (.processing, _, _) | (.failed, _, _) => True

instance : (c : Connection) → Decidable c.Fits
  | (.connected, _, _) | (.disconnected, _, _) => inferInstanceAs (Decidable (_ ∧ _))
  | (.processing, _, _) | (.failed, _, _) => .isTrue trivial

def LinkFields (v : View) : Prop := ∀ id c, v.connection id = some c → c.Fits

theorem LinkFields.set (id : UUID) {c : Connection} (h : LinkFields v) (hc : c.Fits)
    (hv : v'.connection = update v.connection id (some c)) : LinkFields v' := by
  intro id' c' hc'
  rw [hv] at hc'
  by_cases hid : id' = id
  · subst hid
    rw [update_self] at hc'
    cases hc'
    exact hc
  · rw [update_of_ne hid] at hc'
    exact h id' c' hc'

/-- The deed does not bring a system to rest with fields that do not fit. -/
def Deed.Tidies : Deed → Prop
  | .restore _ prev keyConfigID => Connection.Fits (prev, keyConfigID, none)
  | .disconnect _ target _ => target = none
  | .retarget _ _ _ _ => False
  | _ => True

theorem LinkFields.apply (h : LinkFields v) (δ : Deed) (hδ : δ.Tidies) :
    LinkFields (δ.apply v) := by
  cases δ with
  | submit job prev kcID target stored =>
    exact h.set _ (c := (.processing, kcID, target)) trivial Deed.submit_connection
  | mark id kcID target => exact h.set _ (c := (.processing, kcID, target)) trivial rfl
  | retarget id status kcID target => exact hδ.elim
  | prepare job => exact h
  | rotate job prev => exact h
  | retry job kcID target => exact h.set _ (c := (.processing, kcID, target)) trivial rfl
  | restore id prev kcID => exact h.set _ hδ rfl
  | rekey ev keyID => exact h
  | replace kc => exact h
  | connect job kcID => exact h.set _ (c := (.connected, some kcID, none)) ⟨nofun, rfl⟩ rfl
  | disconnect job target cleaned =>
    refine h.set job.data.systemID (c := (.disconnected, none, target)) ⟨rfl, hδ⟩ ?_
    cases cleaned <;> rfl
  | fail job kcID target error =>
    refine h.set job.data.systemID (c := (.failed, kcID, target)) trivial ?_
    cases error <;> rfl
  | clean job => exact h

theorem LinkFields.leads {G : View → Deed → Prop} (h : LinkFields v) (hl : Leads G v v')
    (hG : ∀ v δ, G v δ → δ.Tidies) : LinkFields v' :=
  hl.induct h fun _ _ hv hδ _ => hv.apply _ (hG _ _ hδ)

/-- An act that leaves link fields in order: the end of an unlink finds no target, and a cancel finds
an event whose status fits the key configuration of the system. -/
def FieldsKept (_ : Platform) (s : Sys) : Act → Prop
  | .request _ (.recover systemID .cancel) => ∀ ev ∈ s.view.event systemID,
      ∀ c ∈ s.view.connection systemID, Connection.Fits (ev.previousItemStatus, c.2.1, none)
  | .finish number ending _ => ∀ job ∈ s.view.jobs[number]?,
      job.type = .systemUnlink ∧ ending = .done ∨
        job.type = .systemUnlinkDecommission ∧ ending ≠ .canceled →
      ∀ c ∈ s.view.connection job.data.systemID, c.2.2 = none
  | .workflow _ _ => False
  | _ => True

instance (p : Platform) (s : Sys) : (act : Act) → Decidable (FieldsKept p s act)
  | .request _ (.recover systemID .cancel) => inferInstanceAs (Decidable
      (∀ ev ∈ s.view.event systemID, ∀ c ∈ s.view.connection systemID,
        Connection.Fits (ev.previousItemStatus, c.2.1, none)))
  | .finish number ending _ => inferInstanceAs (Decidable (∀ job ∈ s.view.jobs[number]?,
      job.type = .systemUnlink ∧ ending = .done ∨
        job.type = .systemUnlinkDecommission ∧ ending ≠ .canceled →
      ∀ c ∈ s.view.connection job.data.systemID, c.2.2 = none))
  | .workflow _ _ => .isFalse id
  | .request _ (.link _ _) | .request _ (.unlink _) | .request _ (.decommission _)
  | .request _ (.update _ _) | .request _ (.rotate _) | .request _ (.recover _ .retry)
  | .request _ (.recover _ (.other _)) | .confirm _ => .isTrue trivial

theorem LinkFields.answers {ctx : Ctx} {req : Request} {res : Except Exn Unit}
    (h : LinkFields s.view) (hans : Answers p s.st req res s'.view)
    (hkept : FieldsKept p s (.request ctx req)) : LinkFields s'.view := by
  by_cases hcancel : ∃ id, req = .recover id .cancel
  · obtain ⟨id, rfl⟩ := hcancel
    generalize s'.view = v' at hans
    cases hans with
    | kept => exact h
    | orphan => exact h
    | cancel _ prev kcID hen =>
      obtain ⟨⟨status, target, hconn⟩, ev, hev, rfl⟩ := hen
      exact h.apply (.restore id ev.previousItemStatus kcID) (hkept ev hev _ hconn)
  · refine h.leads hans.leads fun v δ hδ => ?_
    cases δ with
    | restore id prev kcID => exact absurd ⟨id, hδ⟩ hcancel
    | retarget | disconnect => exact hδ.elim
    | _ => trivial

theorem LinkFields.reacts {number : Nat} {job : Job} {ending : Ending} {res : Except Exn Unit}
    {message : String} (h : LinkFields s.view) (hjob : s.view.jobs[number]? = some job)
    (hreact : Reacts s.view job ending res s'.view)
    (hkept : FieldsKept p s (.finish number ending message)) : LinkFields s'.view := by
  generalize s'.view = v' at hreact
  cases hreact with
  | unlink target hty hen =>
    obtain ⟨status, kcID, hconn⟩ := hen
    exact h.apply (.disconnect job target true) (hkept job hjob (.inl ⟨hty, rfl⟩) _ hconn)
  | decommission _ _ target hty hne hen =>
    obtain ⟨status, kcID, hconn⟩ := hen
    exact h.apply (.disconnect job target false) (hkept job hjob (.inr ⟨hty, hne⟩) _ hconn)
  | refused | missing => exact h
  | _ => exact h.apply _ trivial

theorem LinkFields.step {act : Act} (h : LinkFields s.view) (hkept : FieldsKept p s act)
    (hstep : s.step p act = some s') : LinkFields s'.view := by
  cases act with
  | request ctx req =>
    obtain ⟨res, hans, -⟩ := Sys.step_request hstep
    exact h.answers hans hkept
  | workflow => exact hkept.elim
  | confirm number =>
    obtain ⟨-, -, -, -, hv, -⟩ := Sys.step_confirm hstep
    rw [hv]
    exact h
  | finish number ending message =>
    obtain ⟨job, res, hjob, -, hreact, -⟩ := Sys.step_finish hstep
    exact h.reacts hjob hreact hkept

/-- In a run whose acts keep the link fields in order, they are in order. -/
theorem link_fields_of_kept (s₀ s : Sys) (hstart : Start s₀)
    (hrun : Reach FieldsKept s₀ s) (id : UUID) (keyConfigID target : Option UUID) :
    (s.view.connection id = some (.connected, keyConfigID, target) →
      keyConfigID ≠ none ∧ target = none) ∧
    (s.view.connection id = some (.disconnected, keyConfigID, target) →
      keyConfigID = none ∧ target = none) := by
  have hfields : LinkFields s.view := by
    induction hrun with
    | start =>
      intro id c hc
      rw [hstart.systems id c hc]
      exact ⟨rfl, rfl⟩
    | step p act _ hkept hstep ih => exact ih.step hkept hstep
  exact ⟨fun hc => hfields id _ hc, fun hc => hfields id _ hc⟩

namespace Sample

/-- A linked system fails to switch to another key configuration, and is unlinked. -/
def unlinkedAfterSwitch : List Act :=
  linking ++ ask (.link 40 31) :: ends 1 .failed ++ ask (.unlink 40) :: ends 2 .done

end Sample

open Sample in
theorem link_fields_of_kept_linked :
    (after linking).view.connection 40 = some (.connected, some 30, none) ∧
      ((some 30 : Option UUID) ≠ none ∧ (none : Option UUID) = none) := by
  have hconn : (after linking).view.connection 40 = some (.connected, some 30, none) := by
    decide +kernel
  have hrun : Reach FieldsKept fresh (after linking) := after_reach (by decide +kernel)
  exact ⟨hconn, (link_fields_of_kept fresh _ start_fresh hrun 40 _ _).1 hconn⟩

open Sample in
/-- The target of the failed switch stays. -/
theorem unlinked_with_target : Start fresh ∧ ∃ s ∈ fresh.steps platform unlinkedAfterSwitch,
    s.view.connection 40 = some (.disconnected, none, some 31) := ⟨start_fresh, by decide +kernel⟩

end Cmk
