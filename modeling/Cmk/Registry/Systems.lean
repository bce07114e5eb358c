import Cmk.Errors
import Cmk.Tx.Retry

/-!
# Cmk.Registry.Systems

`GetSystemsWithFilter` of `internal/clients/registry/systems`: the systems of the registry that match a
filter, page by page, with retries while the registry is unavailable.

* `SystemsRegistry` — the matching systems in a fixed order, cut into pages for each limit, and the
  requests that fail: in attempt `n` those for the pages with a fault.
* `listPages` — one attempt. It appends to a list that was declared before the first attempt.
* `getSystemsWithFilter_once_iff` — every matching system is returned exactly once, exactly if no
  attempt listed a system before it failed, the first page is enough when the filter has no limit, and
  every system has a known type.
-/

namespace Cmk

open Tx List

structure RegistrySystem where
  region : String
  externalID : String
  type : String
  deriving DecidableEq, Repr

def RegistrySystem.name (s : RegistrySystem) : String × String := (s.region, s.externalID)

/-- `SystemFilter` without its limit. -/
structure SystemCriteria where
  region : String := ""
  externalID : String := ""
  tenantID : String := ""
  deriving DecidableEq, Repr

structure SystemFilter extends SystemCriteria where
  limit : Nat := 0
  deriving DecidableEq, Repr

/-- A page token is the number of the page, and 0 is the empty string. -/
structure ListSystemsRequest extends SystemCriteria where
  limit : Nat
  pageToken : Nat

structure ListSystemsResponse where
  systems : List RegistrySystem
  nextPageToken : Nat

structure SystemsRegistry where
  matching : SystemCriteria → List RegistrySystem
  pages : SystemCriteria → Nat → List (List RegistrySystem)
  pages_ne_nil : ∀ criteria limit, pages criteria limit ≠ []
  pages_flatten : ∀ criteria limit, (pages criteria limit).flatten = matching criteria
  /-- Why the request for a page fails in an attempt. -/
  fault : (attempt page : Nat) → Option Err
  /-- From this attempt on no request fails. -/
  bound : Nat
  bounded : ∀ attempt page, bound ≤ attempt → fault attempt page = none

def SystemsRegistry.listSystems (r : SystemsRegistry) (attempt : Nat) (req : ListSystemsRequest) :
    Except Err ListSystemsResponse :=
  match r.fault attempt req.pageToken with
  | some e => .error e
  | none =>
    let pages := r.pages req.toSystemCriteria req.limit
    .ok
      { systems := pages.getD req.pageToken []
        nextPageToken := if req.pageToken + 1 < pages.length then req.pageToken + 1 else 0 }

inductive SystemType where
  | system
  | subaccount
  deriving DecidableEq, Repr

/-- A system as `MapRegistrySystemsToCmkSystems` returns it, up to its new ID. -/
structure FetchedSystem where
  region : String
  identifier : String
  type : SystemType
  deriving DecidableEq, Repr

def FetchedSystem.name (s : FetchedSystem) : String × String := (s.region, s.identifier)

/-- The client, with `strings.ToUpper`. No attempts in the configuration means no end of them. -/
structure SystemsClient where
  registry : SystemsRegistry
  attempts : Nat
  toUpper : String → String

namespace SystemsClient

variable (c : SystemsClient)

def defaultListSystemsLimit : Nat := 100

def systemTypeStringMap (responseType : String) : Except Err SystemType :=
  if c.toUpper responseType = "SYSTEM" then .ok .system
  else if c.toUpper responseType = "SUBACCOUNT" then .ok .subaccount
  else .error (.sentinel .errUnsupportSystemType)

def mapRegistrySystemToCmkSystem (s : RegistrySystem) : Except Err FetchedSystem := do
  let type ← c.systemTypeStringMap s.type
  return ⟨s.region, s.externalID, type⟩

def mapRegistrySystemsToCmkSystems (systems : List RegistrySystem) : Except Err (List FetchedSystem) :=
  systems.mapM c.mapRegistrySystemToCmkSystem

def limitOf (filter : SystemFilter) : Nat :=
  if filter.limit ≠ 0 then filter.limit else defaultListSystemsLimit

/-- The loop over the pages, as many of them at most as the registry has. -/
def listPages (attempt : Nat) (filter : SystemFilter) : Nat → Nat → List RegistrySystem →
    Except Err Unit × List RegistrySystem
  | 0, _, grpcSystems => (.ok (), grpcSystems)
  | pages + 1, pageToken, grpcSystems =>
    match c.registry.listSystems attempt
        { filter with limit := limitOf filter, pageToken := pageToken } with
    | .error e =>
      if e.is .codeInternal then (.error (.wrap (.sentinel .errClientInternalError) e), grpcSystems)
      else (.error (.wrap (.sentinel .errSystemsClientFailedGettingSystems) e), grpcSystems)
    | .ok resp =>
      let grpcSystems := grpcSystems ++ resp.systems
      -- there is no paging without a limit
      if resp.nextPageToken = 0 ∨ filter.limit = 0 then (.ok (), grpcSystems)
      else listPages attempt filter pages resp.nextPageToken grpcSystems

def attempt (filter : SystemFilter) (n : Nat) (grpcSystems : List RegistrySystem) :
    Except Err Unit × List RegistrySystem :=
  c.listPages n filter (c.registry.pages filter.toSystemCriteria (limitOf filter)).length 0 grpcSystems

def retries : Nat := if c.attempts = 0 then c.registry.bound else c.attempts - 1

def getSystemsWithFilter (filter : SystemFilter) : Except Err (List FetchedSystem) :=
  if filter.tenantID = "" ∧ filter.externalID = "" ∧ filter.region = "" then
    .error (.wrap (.sentinel .errSystemsClientFailedGettingSystems)
      (.sentinel .errSystemsClientEmptyFilter))
  else
    match retry (·.is .codeUnavailable) (c.attempt filter) c.retries 0 [] with
    | (.error e, _) => .error (.wrap (.sentinel .errGettingSystem) e)
    | (.ok (), grpcSystems) =>
      (c.mapRegistrySystemsToCmkSystems grpcSystems).mapError (.wrap (.sentinel .errGettingSystem))

def asked (filter : SystemFilter) : List (List RegistrySystem) :=
  let pages := c.registry.pages filter.toSystemCriteria (limitOf filter)
  if filter.limit = 0 then pages.take 1 else pages

def Passes (filter : SystemFilter) (n : Nat) : Prop :=
  ∀ i, i < (c.asked filter).length → c.registry.fault n i = none

structure FailsAt (filter : SystemFilter) (n i : Nat) : Prop where
  lt : i < (c.asked filter).length
  fault : c.registry.fault n i ≠ none
  before : ∀ k, k < i → c.registry.fault n k = none

variable {c} {filter : SystemFilter} {n i : Nat} {acc : List RegistrySystem}

theorem FailsAt.unique {i' : Nat} (h : c.FailsAt filter n i) (h' : c.FailsAt filter n i') : i = i' := by
  rcases Nat.lt_trichotomy i i' with hlt | heq | hgt
  · exact (h.fault (h'.before i hlt)).elim
  · exact heq
  · exact (h'.fault (h.before i' hgt)).elim

theorem exists_failsAt (h : ¬ c.Passes filter n) : ∃ i, c.FailsAt filter n i := by
  have hex : ∃ i, i < (c.asked filter).length ∧ c.registry.fault n i ≠ none := by
    simpa [Passes] using h
  obtain ⟨hlt, hfault⟩ := Nat.find_spec hex
  refine ⟨Nat.find hex, hlt, hfault, fun k hk => ?_⟩
  by_contra hne
  exact Nat.find_min hex hk ⟨by omega, hne⟩

theorem length_asked_le :
    (c.asked filter).length ≤ (c.registry.pages filter.toSystemCriteria (limitOf filter)).length := by
  unfold asked
  dsimp only
  split
  · exact length_take_le' 1 _
  · exact le_refl _

theorem asked_pos : 0 < (c.asked filter).length := by
  have hne := length_pos_iff.2 (c.registry.pages_ne_nil filter.toSystemCriteria (limitOf filter))
  unfold asked
  dsimp only
  split
  · rw [length_take]
    omega
  · exact hne

theorem listPages_listed (pages : Nat) (hi : i < (c.asked filter).length)
    (hfault : c.registry.fault n i = none) :
    c.listPages n filter (pages + 1) i acc =
      if i + 1 < (c.asked filter).length then
        c.listPages n filter pages (i + 1) (acc ++ (c.asked filter).getD i [])
      else (.ok (), acc ++ (c.asked filter).getD i []) := by
  simp only [listPages, SystemsRegistry.listSystems, hfault]
  by_cases hlimit : filter.limit = 0
  · -- only the first page is asked for
    have hasked : c.asked filter =
        (c.registry.pages filter.toSystemCriteria (limitOf filter)).take 1 := if_pos hlimit
    have hlen : (c.asked filter).length = 1 := by
      have hpos : 0 < (c.asked filter).length := asked_pos
      rw [hasked, length_take] at hpos ⊢
      omega
    obtain rfl : i = 0 := by omega
    have hfirst : (c.asked filter).getD 0 [] =
        (c.registry.pages filter.toSystemCriteria (limitOf filter)).getD 0 [] := by
      rw [hasked, getD_eq_getElem?_getD, getElem?_take_of_lt Nat.one_pos,
        getD_eq_getElem?_getD]
    rw [if_pos (.inr hlimit), if_neg (by omega), hfirst]
  · have hasked : c.asked filter = c.registry.pages filter.toSystemCriteria (limitOf filter) :=
      if_neg hlimit
    rw [← hasked]
    by_cases hnext : i + 1 < (c.asked filter).length
    · simp only [hnext, if_true, hlimit, or_false, Nat.add_eq_zero_iff, one_ne_zero, and_false, if_false]
    · simp only [hnext, if_false, true_or, if_true]

theorem listPages_failed (pages : Nat)
    (hfault : c.registry.fault n i = some (.sentinel .codeUnavailable)) :
    c.listPages n filter (pages + 1) i acc =
      (.error (.wrap (.sentinel .errSystemsClientFailedGettingSystems) (.sentinel .codeUnavailable)),
        acc) := by
  simp only [listPages, SystemsRegistry.listSystems, hfault]
  rfl

theorem asked_drop (hi : i < (c.asked filter).length) :
    (c.asked filter).drop i = (c.asked filter).getD i [] :: (c.asked filter).drop (i + 1) := by
  rw [drop_eq_getElem_cons hi, getD_eq_getElem?_getD, getElem?_eq_getElem hi,
    Option.getD_some]

theorem listPages_passes (h : c.Passes filter n) (pages : Nat) (hi : i < (c.asked filter).length)
    (hpages : (c.asked filter).length ≤ i + pages) :
    c.listPages n filter pages i acc = (.ok (), acc ++ ((c.asked filter).drop i).flatten) := by
  induction pages generalizing i acc with
  | zero => omega
  | succ pages ih =>
    rw [listPages_listed pages hi (h i hi), asked_drop hi]
    split
    · rename_i hnext
      rw [ih hnext (by omega), flatten_cons, append_assoc]
    · rename_i hlast
      rw [drop_eq_nil_of_le (by omega)]
      simp

theorem listPages_fails {k : Nat} (h : c.FailsAt filter n k)
    (hfault : c.registry.fault n k = some (.sentinel .codeUnavailable)) (pages : Nat) (hi : i ≤ k)
    (hpages : (c.asked filter).length ≤ i + pages) :
    c.listPages n filter pages i acc =
      (.error (.wrap (.sentinel .errSystemsClientFailedGettingSystems) (.sentinel .codeUnavailable)),
        acc ++ (((c.asked filter).drop i).take (k - i)).flatten) := by
  have hk := h.lt
  induction pages generalizing i acc with
  | zero => omega
  | succ pages ih =>
    rcases Nat.lt_or_eq_of_le hi with hlt | rfl
    · rw [listPages_listed pages (by omega) (h.before i hlt), if_pos (by omega), ih hlt (by omega),
        asked_drop (i := i) (by omega), show k - i = k - (i + 1) + 1 by omega, take_succ_cons,
        flatten_cons, append_assoc]
    · rw [listPages_failed pages hfault]
      simp

theorem attempt_passes (h : c.Passes filter n) (acc : List RegistrySystem) :
    c.attempt filter n acc = (.ok (), acc ++ (c.asked filter).flatten) := by
  rw [attempt, listPages_passes h _ asked_pos (by rw [Nat.zero_add]; exact length_asked_le),
    drop_zero]

theorem attempt_fails (h : c.FailsAt filter n i)
    (hfault : c.registry.fault n i = some (.sentinel .codeUnavailable)) (acc : List RegistrySystem) :
    ∃ e, c.attempt filter n acc = (.error e, acc ++ ((c.asked filter).take i).flatten) ∧
      e.is .codeUnavailable := by
  rw [attempt, listPages_fails h hfault _ (Nat.zero_le i) (by rw [Nat.zero_add]; exact length_asked_le)]
  exact ⟨_, rfl, rfl⟩

def OnlyUnavailable (c : SystemsClient) : Prop :=
  ∀ n i, c.registry.fault n i = none ∨ c.registry.fault n i = some (.sentinel .codeUnavailable)

def Succeeds (c : SystemsClient) (filter : SystemFilter) : Prop :=
  ∃ n, n ≤ c.retries ∧ c.Passes filter n

/-- No attempt before the first one that passes lists a system and then fails. -/
def ListsNothingInVain (c : SystemsClient) (filter : SystemFilter) : Prop :=
  ∀ n i, (∀ k, k ≤ n → ¬ c.Passes filter k) → c.FailsAt filter n i →
    ((c.asked filter).take i).flatten = []

theorem Succeeds.exists_first (h : c.Succeeds filter) :
    ∃ j, j ≤ c.retries ∧ c.Passes filter j ∧ ∀ n, n < j → ¬ c.Passes filter n := by
  classical
  obtain ⟨n, hn, hpasses⟩ := h
  have hex : ∃ n, c.Passes filter n := ⟨n, hpasses⟩
  exact ⟨Nat.find hex, (Nat.find_min' hex hpasses).trans hn, Nat.find_spec hex,
    fun n hn => Nat.find_min hex hn⟩

theorem retry_attempts (hfaults : c.OnlyUnavailable) (hsucceeds : c.Succeeds filter) :
    ∃ vain, retry (·.is .codeUnavailable) (c.attempt filter) c.retries 0 [] =
      (.ok (), vain ++ (c.asked filter).flatten) ∧ (vain = [] ↔ c.ListsNothingInVain filter) := by
  obtain ⟨j, hj, hpasses, hmin⟩ := hsucceeds.exists_first
  choose! page hpage using fun n => @exists_failsAt c filter n
  have hfail : ∀ i, i < j → ∀ acc, ∃ e, c.attempt filter (0 + i) acc =
      (.error e, acc ++ ((c.asked filter).take (page (0 + i))).flatten) ∧ e.is .codeUnavailable := by
    intro i hi acc
    rw [Nat.zero_add]
    have hat := hpage i (hmin i hi)
    exact attempt_fails hat ((hfaults i (page i)).resolve_left hat.fault) acc
  have hok : ∀ acc, c.attempt filter (0 + j) acc = (.ok (), acc ++ (c.asked filter).flatten) := by
    intro acc
    rw [Nat.zero_add]
    exact attempt_passes hpasses acc
  refine ⟨_, retry_append (fun n => ((c.asked filter).take (page n)).flatten) j hj hfail hok, ?_⟩
  simp only [nil_append, Nat.zero_add, flatMap_eq_nil_iff, mem_range]
  constructor
  · intro h n i hnone hat
    have hn : n < j := by
      by_contra hle
      exact hnone j (by omega) hpasses
    rw [hat.unique (hpage n (hmin n hn))]
    exact h n hn
  · intro h n hn
    exact h n (page n) (fun k hk => hmin k (by omega)) (hpage n (hmin n hn))

def Knows (c : SystemsClient) (s : RegistrySystem) : Prop :=
  ∃ type, c.systemTypeStringMap s.type = .ok type

theorem mapRegistrySystems_ok {systems : List RegistrySystem} {fetched : List FetchedSystem}
    (h : c.mapRegistrySystemsToCmkSystems systems = .ok fetched) :
    fetched.map FetchedSystem.name = systems.map RegistrySystem.name ∧ ∀ s ∈ systems, c.Knows s := by
  induction systems generalizing fetched with
  | nil =>
    cases h
    exact ⟨rfl, by simp⟩
  | cons s systems ih =>
    rw [mapRegistrySystemsToCmkSystems, mapM_cons, mapRegistrySystemToCmkSystem] at h
    cases htype : c.systemTypeStringMap s.type with
    | error e =>
      rw [htype] at h
      cases h
    | ok type =>
      cases hrest : systems.mapM c.mapRegistrySystemToCmkSystem with
      | error e =>
        rw [htype, hrest] at h
        cases h
      | ok rest =>
        rw [htype, hrest] at h
        cases h
        obtain ⟨hnames, hknown⟩ := ih hrest
        refine ⟨?_, forall_mem_cons.2 ⟨⟨type, htype⟩, hknown⟩⟩
        rw [map_cons, map_cons, hnames]
        rfl

theorem mapRegistrySystems_known {systems : List RegistrySystem} (h : ∀ s ∈ systems, c.Knows s) :
    ∃ fetched, c.mapRegistrySystemsToCmkSystems systems = .ok fetched := by
  induction systems with
  | nil => exact ⟨[], rfl⟩
  | cons s systems ih =>
    obtain ⟨type, htype⟩ := h s mem_cons_self
    obtain ⟨fetched, hfetched⟩ := ih fun s hs => h s (mem_cons_of_mem _ hs)
    refine ⟨⟨s.region, s.externalID, type⟩ :: fetched, ?_⟩
    rw [mapRegistrySystemsToCmkSystems] at hfetched ⊢
    rw [mapM_cons, mapRegistrySystemToCmkSystem, htype, hfetched]
    rfl

/-- The matching systems are those asked for and, without a limit, those after the first page. -/
theorem matching_eq_append (c : SystemsClient) (filter : SystemFilter) : ∃ rest,
    c.registry.matching filter.toSystemCriteria = (c.asked filter).flatten ++ rest ∧
    (rest = [] ↔ (filter.limit = 0 →
      ((c.registry.pages filter.toSystemCriteria defaultListSystemsLimit).drop 1).flatten = [])) ∧
    (filter.limit ≠ 0 → rest = []) := by
  rw [← c.registry.pages_flatten filter.toSystemCriteria (limitOf filter)]
  unfold asked
  by_cases hlimit : filter.limit = 0
  · have hdefault : limitOf filter = defaultListSystemsLimit := if_neg (not_not.2 hlimit)
    rw [hdefault]
    refine ⟨((c.registry.pages filter.toSystemCriteria defaultListSystemsLimit).drop 1).flatten,
      ?_, ?_, ?_⟩
    · rw [if_pos hlimit, ← flatten_append, take_append_drop]
    · simp [hlimit]
    · exact fun h => absurd hlimit h
  · exact ⟨[], by rw [if_neg hlimit, append_nil], by simp [hlimit], fun _ => rfl⟩

/-- Without a limit an attempt asks for one page, so it lists nothing before it fails. -/
theorem listsNothingInVain_of_no_limit (hlimit : filter.limit = 0) : c.ListsNothingInVain filter := by
  intro n i _ hat
  have hlt := hat.lt
  unfold asked at hlt
  rw [if_pos hlimit, length_take] at hlt
  obtain rfl : i = 0 := by omega
  rfl

/-- Every matching system is returned exactly once, exactly if no attempt lists systems in vain, the
first page has them all when the filter has no limit, and their types are known. -/
theorem getSystemsWithFilter_once_iff (c : SystemsClient) (filter : SystemFilter)
    (hfilter : ¬ (filter.tenantID = "" ∧ filter.externalID = "" ∧ filter.region = ""))
    (hfaults : c.OnlyUnavailable) (hsucceeds : c.Succeeds filter) :
    (∃ fetched, c.getSystemsWithFilter filter = .ok fetched ∧
      (fetched.map FetchedSystem.name).Perm
        ((c.registry.matching filter.toSystemCriteria).map RegistrySystem.name)) ↔
    c.ListsNothingInVain filter ∧
      (filter.limit = 0 →
        ((c.registry.pages filter.toSystemCriteria defaultListSystemsLimit).drop 1).flatten = []) ∧
      ∀ s ∈ c.registry.matching filter.toSystemCriteria, c.Knows s := by
  obtain ⟨vain, hrun, hvain⟩ := retry_attempts hfaults hsucceeds
  obtain ⟨rest, hmatching, hrest, hlimit⟩ := matching_eq_append c filter
  -- of the two reasons for a wrong list one is absent
  have hor : vain = [] ∨ rest = [] := by
    by_cases h : filter.limit = 0
    · exact .inl (hvain.2 (listsNothingInVain_of_no_limit h))
    · exact .inr (hlimit h)
  rw [getSystemsWithFilter, if_neg hfilter, hrun, ← hvain, ← hrest, hmatching]
  constructor
  · rintro ⟨fetched, hfetched, hperm⟩
    cases hmap : c.mapRegistrySystemsToCmkSystems (vain ++ (c.asked filter).flatten) with
    | error e =>
      simp only [hmap] at hfetched
      cases hfetched
    | ok fetched' =>
      simp only [hmap] at hfetched
      cases hfetched
      obtain ⟨hnames, hknown⟩ := mapRegistrySystems_ok hmap
      have hlen := hperm.length_eq
      rw [hnames] at hlen
      simp only [List.length_map, List.length_append] at hlen
      have hvain : vain = [] := by
        rcases hor with h | h
        · exact h
        · rw [h, List.length_nil] at hlen
          exact List.length_eq_zero_iff.1 (by omega)
      have hrest : rest = [] := by
        rw [hvain, List.length_nil] at hlen
        exact List.length_eq_zero_iff.1 (by omega)
      subst hvain hrest
      rw [List.append_nil]
      exact ⟨rfl, rfl, hknown⟩
  · rintro ⟨rfl, rfl, hknown⟩
    rw [List.append_nil] at hknown ⊢
    obtain ⟨fetched, hfetched⟩ := mapRegistrySystems_known hknown
    refine ⟨fetched, ?_, ?_⟩
    · simp only [List.nil_append, hfetched]
      rfl
    · rw [(mapRegistrySystems_ok hfetched).1]

end SystemsClient

namespace Sample

/-- The systems in two pages. In the first attempt the request for one page may fail. -/
def twoPages (systems : List RegistrySystem) (failing : Option Nat) : SystemsRegistry where
  matching _ := systems
  pages _ limit := [systems.take limit, systems.drop limit]
  pages_ne_nil _ _ := by simp
  pages_flatten _ limit := by simp
  fault attempt page :=
    if attempt = 0 ∧ failing = some page then some (.sentinel .codeUnavailable) else none
  bound := 1
  bounded attempt page h := if_neg fun hand => by omega

theorem twoPages_fault (systems : List RegistrySystem) (failing : Option Nat) {n i : Nat}
    (h : ¬ (n = 0 ∧ failing = some i)) : (twoPages systems failing).fault n i = none := if_neg h

def systemsClient (systems : List RegistrySystem) (failing : Option Nat) : SystemsClient where
  registry := twoPages systems failing
  attempts := 3
  toUpper := id

def numbered (n : Nat) : List RegistrySystem :=
  (List.range n).map fun i => ⟨"r", toString i, "SYSTEM"⟩

end Sample

open Sample in
/-- The request for the first page fails, and the next attempt lists both systems. -/
theorem getSystemsWithFilter_once_retried :
    ∃ fetched, (systemsClient (numbered 2) (some 0)).getSystemsWithFilter
        { tenantID := "t", limit := 1 } = .ok fetched ∧
      (fetched.map FetchedSystem.name).Perm ((numbered 2).map RegistrySystem.name) := by
  refine (SystemsClient.getSystemsWithFilter_once_iff (systemsClient (numbered 2) (some 0))
    { tenantID := "t", limit := 1 } (by decide) (fun n i => ?_) ⟨1, by decide, fun i _ => ?_⟩).2
    ⟨fun n i _ hat => ?_, fun h => absurd h (by decide), fun s hs => ?_⟩
  · by_cases h : n = 0 ∧ some 0 = some i
    · exact .inr (if_pos h)
    · exact .inl (twoPages_fault _ _ h)
  · exact twoPages_fault _ _ (by simp)
  · obtain rfl : i = 0 := by
      by_contra hi
      exact hat.fault (twoPages_fault _ _ fun h => hi (Option.some_inj.1 h.2).symm)
    rfl
  · obtain ⟨i, -, rfl⟩ := List.mem_map.1 hs
    exact ⟨.system, rfl⟩

open Sample in
/-- The request for the second page fails: the system of the first page is returned twice. Without a
limit 100 of 101 systems are returned. -/
theorem getSystemsWithFilter_repeats :
    (systemsClient (numbered 2) (some 1)).getSystemsWithFilter { tenantID := "t", limit := 1 } =
      .ok [⟨"r", "0", .system⟩, ⟨"r", "0", .system⟩, ⟨"r", "1", .system⟩] ∧
    ((systemsClient (numbered 101) none).getSystemsWithFilter { tenantID := "t" }).map List.length =
      .ok 100 := by
  decide +kernel

end Cmk
