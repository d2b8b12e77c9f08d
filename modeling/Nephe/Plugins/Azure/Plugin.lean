import Nephe.CloudCommon
import Nephe.Plugins.Azure.Inventory

/-!
# The Azure plugin over all its accounts

The framework's `cloudCommon` keeps the accounts of the Azure plugin in its registry and hands
each call on an account to that account's config: `AddResourceFilters`, `RemoveResourceFilters`,
`DoInventoryPoll` and `ResetInventoryCache` reach the account's compute service, and
`AddCloudAccount` creates a fresh compute service for a new account or updates the service of a
registered one. This file composes the registry of `Nephe.CloudCommon` with the compute service of
`Nephe.Plugins.Azure.Compute` and follows every interleaving of calls on every account.

The account config of the framework is not in src/. The Azure one has a single service, the
compute service, and is identified with it here: `performInventorySync` runs `DoResourceInventory`
and records its error in the poll stats, `resetInventoryCache` is `ResetInventoryCache`, a new
config is `newComputeServiceConfig` with the clients and credentials `newCloudAccountConfig` built,
and `updateCloudAccountConfig` either leaves the service alone or calls its `UpdateServiceConfig`.
Each call carries what those helpers answered.

The main result is a simulation. In every reachable state of the plugin, the compute service of
every registered account is a state that `Nephe.Azure.Reachable` reaches, with the log of the calls
that reached that account since it was created. So every law of one compute service holds of each
account of the plugin, whatever the calls on the other accounts: the filter-store law, and the
snapshot law, which says when an account serves an inventory and that its reads agree.

A failed call changes nothing but the poll stats of a failed poll. `AddResourceFilters`,
`RemoveResourceFilters` and `ResetInventoryCache` can be repeated without effect; a poll cannot,
since Go ranges over the filters in a fresh order each time. A `ResetInventoryCache` never changes
what the next poll answers.

## Main definitions

* `Nephe.Azure.PluginCall`, `Nephe.Azure.pluginStep` — a call on the plugin and what it does
* `Nephe.Azure.PluginReachable` — the states and logs of every sequence of calls
* `Nephe.Azure.accountLog` — the calls of a plugin log that reached one account since its creation
* `Nephe.Azure.recordPollError` — what a failed call writes to an account
* `Nephe.Azure.PluginCall.Retriable` — the calls that can be repeated without effect

## Main results

* `Nephe.Azure.pluginStep_cases` — a call creates an account, removes one, runs one step of the
  compute service of one account, or changes nothing
* `Nephe.Azure.pluginStep_lookup_ne` — a call leaves every account but the one it names as it was
* `Nephe.Azure.pluginReachable_account` — the compute service of every account belongs to it and
  has run exactly the calls that reached it
* `Nephe.Azure.pluginReachable_registered` — an account is registered exactly when it was created
  after its last removal; adding a new account registers it and removing one deregisters it
* `Nephe.Azure.pluginReachable_accountLaws` — every account belongs to its key, keeps the
  filter-store law, and has its filters match its credentials once its failed updates are
  repaired
* `Nephe.Azure.pluginReachable_snapshot` — an account serves an inventory exactly when a poll of
  it returned nil since its creation and it was not reset after that poll
* `Nephe.Azure.pluginReachable_inventoryReads` — the cached VMs, the managed vnet IDs and the
  peerings of every account agree with each other
* `Nephe.Azure.pluginReachable_vpcInventory` — every VPC object of an account is tagged with that
  account and comes from its own snapshot, in its region
* `Nephe.Azure.pluginStep_error` — a call that fails changes no account but the poll stats of a
  failed poll, unless its `UpdateServiceConfig` failed
* `Nephe.Azure.pluginStep_retry` — a call on one account's compute service, made twice, does what
  it did once
* `Nephe.Azure.pluginStep_reset_poll` — a reset does not change what the next poll answers
-/

namespace Nephe.Azure

/-- What `updateCloudAccountConfig` did to the compute service of a registered account. -/
inductive AccountUpdate
  /-- It left the service alone and returned `err`. -/
  | unchanged (err : Option GoError)
  /-- It called `UpdateServiceConfig` with `newConfig`; `order` is the order in which its `range`
  visits the selectors. -/
  | updateServiceConfig (newConfig : ComputeServiceConfig) (order : List CloudEntitySelector)

/-- A call on the Azure plugin through `cloudCommon`. `addCloudAccount` carries what the account
config helpers answered: the clients and credentials of a new config, and the update of an
existing one. -/
inductive PluginCall
  | addCloudAccount (account : NamespacedName)
      (newCloudAccountConfig : Except GoError
        (AzureVirtualNetworksWrapper × AzureResourceGraphWrapper × AzureAccountConfig))
      (update : AccountUpdate)
  | removeCloudAccount (namespacedName : NamespacedName)
  | addResourceFilters (accountNamespacedName : NamespacedName) (selector : CloudEntitySelector)
  | removeResourceFilters (accNamespacedName selectorNamespacedName : NamespacedName)
  | doInventoryPoll (accountNamespacedName : NamespacedName) (order : List (List Query))
  | resetInventoryCache (accountNamespacedName : NamespacedName)

/-- The account a call names. -/
def PluginCall.account : PluginCall → NamespacedName
  | addCloudAccount account _ _ => account
  | removeCloudAccount namespacedName => namespacedName
  | addResourceFilters k _ | removeResourceFilters k _ | doInventoryPoll k _
  | resetInventoryCache k => k

/-- What one call on the plugin did. -/
inductive PluginEvent
  /-- A call on the registry: `RemoveCloudAccount`, or `AddCloudAccount` when it did not reach a
  compute service that exists. -/
  | account (e : AccountEvent ComputeServiceConfig)
  /-- A call that reached the compute service of the account. -/
  | service (accountNamespacedName : NamespacedName) (e : ComputeEvent)
  /-- A call for an account that is not registered, with the error it returned. -/
  | accountNotFound (accountNamespacedName : NamespacedName) (err : Option GoError)

namespace PluginEvent

/-- The event changed nothing: it neither created nor removed an account, nor reached a compute
service. -/
def Inert : PluginEvent → Prop
  | account (.created _ _) | account (.removed _) | service _ _ => False
  | _ => True

/-- The selector names of the event are slash-free, as Kubernetes guarantees. -/
def SlashFree : PluginEvent → Prop
  | service _ e => e.SlashFree
  | _ => True

instance : DecidablePred SlashFree := fun e =>
  match e with
  | service _ e => inferInstanceAs (Decidable e.SlashFree)
  | account _ | accountNotFound _ _ => inferInstanceAs (Decidable True)

end PluginEvent

variable (H : PluginHelpers)

/-- `AddCloudAccount` on the Azure plugin: a registered account is handed to the update, which may
run `UpdateServiceConfig` on its compute service; a new account gets a fresh compute service,
stored under the name it reports. -/
def addCloudAccount (account : NamespacedName)
    (newCloudAccountConfig : Except GoError
      (AzureVirtualNetworksWrapper × AzureResourceGraphWrapper × AzureAccountConfig))
    (update : AccountUpdate) (c : CloudCommon ComputeServiceConfig) :
    CloudCommon ComputeServiceConfig × PluginEvent :=
  match c.accountConfigs.lookup account with
  | some existingConfig =>
    match update with
    | .unchanged err => (c, .account (.updated account err))
    | .updateServiceConfig newConfig order =>
      let r := updateServiceConfig H existingConfig newConfig order
      (⟨c.accountConfigs.insert account r.1⟩, .service account (.updated r.2))
  | none =>
    match newCloudAccountConfig with
    | .error err => (c, .account (.creationFailed account err))
    | .ok (vnetAPIClient, resourceGraphAPIClient, credentials) =>
      let config := newComputeServiceConfig account vnetAPIClient resourceGraphAPIClient credentials
      (⟨c.accountConfigs.insert config.account config⟩, .account (.created account config))

/-- The event of a call that `cloudCommon` hands to the service of `k`, which returned `err`: `e`
when `k` is registered. -/
def serviceEvent (c : CloudCommon ComputeServiceConfig) (k : NamespacedName)
    (err : Option GoError) (e : ComputeEvent) : PluginEvent :=
  match c.getCloudAccountByName k with
  | none => .accountNotFound k err
  | some _ => .service k e

/-- One call on the plugin: the state after it and what it did. -/
def pluginStep (c : CloudCommon ComputeServiceConfig) :
    PluginCall → CloudCommon ComputeServiceConfig × PluginEvent
  | .addCloudAccount account newCloudAccountConfig update =>
    addCloudAccount H account newCloudAccountConfig update c
  | .removeCloudAccount namespacedName =>
    let r := CloudCommon.removeCloudAccount namespacedName c
    (r.1, .account r.2)
  | .addResourceFilters k selector =>
    let r := CloudCommon.addResourceFilters (addResourceFilters H) k selector c
    (r.1, serviceEvent c k r.2 (.ofAdd selector r.2))
  | .removeResourceFilters k selectorNamespacedName =>
    (CloudCommon.removeResourceFilters removeResourceFilters k selectorNamespacedName c,
      serviceEvent c k none (.removed selectorNamespacedName))
  | .doInventoryPoll k order =>
    let r := CloudCommon.doInventoryPoll (performInventorySync H · order) k c
    (r.1, serviceEvent c k r.2 (.polled r.2))
  | .resetInventoryCache k =>
    let r := CloudCommon.resetInventoryCache resetInventoryCache k c
    (r.1, serviceEvent c k r.2 .reset)

/-- The `range` orders a call carries visit the entries of the maps they range over. -/
def PluginCall.Visits (c : CloudCommon ComputeServiceConfig) : PluginCall → Prop
  | .addCloudAccount account _ (.updateServiceConfig _ order) =>
    ∀ computeCfg, c.accountConfigs.lookup account = some computeCfg →
      order.Perm computeCfg.selectors.values
  | .doInventoryPoll k order =>
    ∀ computeCfg, c.accountConfigs.lookup k = some computeCfg →
      order.Perm computeCfg.computeFilters.values
  | _ => True

/-- The states and logs of every sequence of calls on the plugin from `NewCloudCommon`. -/
inductive PluginReachable : CloudCommon ComputeServiceConfig → List PluginEvent → Prop
  | init : PluginReachable CloudCommon.newCloudCommon []
  | step {c log} (call : PluginCall) (visits : call.Visits c) : PluginReachable c log →
      PluginReachable (pluginStep H c call).1 (log ++ [(pluginStep H c call).2])

/-! ## The log of one account -/

/-- One event of the plugin log as the account `k` sees it: its creation starts the account's log
afresh, and a call that reached its compute service is appended to it. -/
def accountLogStep (k : NamespacedName) (acc : List ComputeEvent) : PluginEvent → List ComputeEvent
  | .account (.created k' _) => if k' = k then [] else acc
  | .service k' e => if k' = k then acc ++ [e] else acc
  | _ => acc

/-- The calls of the plugin log that reached the compute service of `k` since `k` was last
created. -/
def accountLog (k : NamespacedName) (log : List PluginEvent) : List ComputeEvent :=
  log.foldl (accountLogStep k) []

@[simp] theorem accountLog_append_singleton (k : NamespacedName) (log : List PluginEvent)
    (e : PluginEvent) : accountLog k (log ++ [e]) = accountLogStep k (accountLog k log) e :=
  List.foldl_append _ _ _ _

theorem mem_accountLogStep {k : NamespacedName} {acc : List ComputeEvent} {x : PluginEvent}
    {e : ComputeEvent} (h : e ∈ accountLogStep k acc x) : e ∈ acc ∨ x = .service k e := by
  cases x with
  | account a =>
    cases a with
    | created k' _ =>
      simp only [accountLogStep] at h
      split at h
      · exact absurd h (List.not_mem_nil _)
      · exact .inl h
    | _ => exact .inl h
  | service k' e' =>
    simp only [accountLogStep] at h
    split at h
    · subst_vars
      rcases List.mem_append.1 h with h | h
      · exact .inl h
      · rw [List.mem_singleton.1 h]; exact .inr rfl
    · exact .inl h
  | accountNotFound => exact .inl h

theorem mem_foldl_accountLogStep {k : NamespacedName} {e : ComputeEvent} (log : List PluginEvent)
    (acc : List ComputeEvent) (h : e ∈ log.foldl (accountLogStep k) acc) :
    e ∈ acc ∨ .service k e ∈ log := by
  induction log generalizing acc with
  | nil => exact .inl h
  | cons x rest ih =>
    rcases ih _ h with h | h
    · exact (mem_accountLogStep h).imp_right fun hx => List.mem_cons.2 (.inl hx.symm)
    · exact .inr (List.mem_cons_of_mem _ h)

/-- Every call of an account's log reached that account. -/
theorem mem_accountLog {k : NamespacedName} {log : List PluginEvent} {e : ComputeEvent}
    (h : e ∈ accountLog k log) : .service k e ∈ log :=
  (mem_foldl_accountLogStep log [] h).resolve_left (List.not_mem_nil _)

/-! ## What one call does -/

section Step

variable {c : CloudCommon ComputeServiceConfig} {k : NamespacedName} {err : Option GoError}
  {e : ComputeEvent}

theorem serviceEvent_of_none (h : c.getCloudAccountByName k = none) :
    serviceEvent c k err e = .accountNotFound k err := by
  simp only [serviceEvent, h]

theorem serviceEvent_of_some {computeCfg : ComputeServiceConfig}
    (h : c.getCloudAccountByName k = some computeCfg) : serviceEvent c k err e = .service k e := by
  simp only [serviceEvent, h]

/-- The event of a call depends on the registry only through whether the account is in it. -/
theorem serviceEvent_congr {c' : CloudCommon ComputeServiceConfig}
    (h : k ∈ c'.accountConfigs ↔ k ∈ c.accountConfigs) : serviceEvent c' k = serviceEvent c k := by
  have hsome : (c'.accountConfigs.lookup k).isSome = (c.accountConfigs.lookup k).isSome := by
    rw [Bool.eq_iff_iff, AList.lookup_isSome, AList.lookup_isSome, h]
  funext err e
  revert hsome
  simp only [serviceEvent, CloudCommon.getCloudAccountByName]
  cases c.accountConfigs.lookup k <;> cases c'.accountConfigs.lookup k <;> simp

variable (c)

/-- `AddCloudAccount` of an account with no entry, whose clients and credentials were built, stores
a fresh compute service under it and logs its creation. -/
theorem pluginStep_addCloudAccount_of_none (h : c.accountConfigs.lookup k = none)
    (vnetAPIClient : AzureVirtualNetworksWrapper) (resourceGraphAPIClient : AzureResourceGraphWrapper)
    (credentials : AzureAccountConfig) (update : AccountUpdate) :
    pluginStep H c
        (.addCloudAccount k (.ok (vnetAPIClient, resourceGraphAPIClient, credentials)) update) =
      (⟨c.accountConfigs.insert k
          (newComputeServiceConfig k vnetAPIClient resourceGraphAPIClient credentials)⟩,
        .account (.created k
          (newComputeServiceConfig k vnetAPIClient resourceGraphAPIClient credentials))) := by
  simp only [pluginStep, addCloudAccount, h]
  rfl

/-- After `RemoveCloudAccount` the account is not registered. -/
theorem not_mem_pluginStep_removeCloudAccount :
    k ∉ (pluginStep H c (.removeCloudAccount k)).1.accountConfigs :=
  AList.lookup_eq_none.1 CloudCommon.removeCloudAccount_getCloudAccountByName

/-- What one call can do: create a fresh compute service for an account that had none, remove an
account, run one step of the compute service of a registered account, or change nothing. -/
theorem pluginStep_cases (call : PluginCall) (visits : call.Visits c) :
    (∃ k computeCfg, c.accountConfigs.lookup k = none ∧ Reachable H computeCfg [] ∧
        computeCfg.account = k ∧ (pluginStep H c call).2 = .account (.created k computeCfg) ∧
        (pluginStep H c call).1 = ⟨c.accountConfigs.insert k computeCfg⟩) ∨
      (∃ k, (pluginStep H c call).2 = .account (.removed k) ∧
        (pluginStep H c call).1 = ⟨c.accountConfigs.erase k⟩) ∨
      (∃ k computeCfg e computeCfg', c.accountConfigs.lookup k = some computeCfg ∧
        ServiceStep H computeCfg e computeCfg' ∧ (pluginStep H c call).2 = .service k e ∧
        (pluginStep H c call).1 = ⟨c.accountConfigs.insert k computeCfg'⟩) ∨
      ((pluginStep H c call).2.Inert ∧ (pluginStep H c call).1 = c) := by
  cases call with
  | addCloudAccount account new update =>
    rcases hfound : c.accountConfigs.lookup account with _ | existing
    · rcases new with err | ⟨vnetAPIClient, resourceGraphAPIClient, credentials⟩
      · simp only [pluginStep, addCloudAccount, hfound]
        exact .inr (.inr (.inr ⟨trivial, trivial⟩))
      · simp only [pluginStep, addCloudAccount, hfound]
        exact .inl ⟨account, _, hfound, .init _ _ _ _, rfl, rfl, rfl⟩
    · rcases update with err | ⟨newConfig, order⟩
      · simp only [pluginStep, addCloudAccount, hfound]
        exact .inr (.inr (.inr ⟨trivial, trivial⟩))
      · simp only [pluginStep, addCloudAccount, hfound]
        exact .inr (.inr (.inl ⟨account, existing, _, _, hfound,
          .update existing newConfig order (visits existing hfound), rfl, rfl⟩))
  | removeCloudAccount n =>
    rcases hfound : c.getCloudAccountByName n with _ | existing
    · simp only [pluginStep, CloudCommon.removeCloudAccount, hfound]
      exact .inr (.inr (.inr ⟨trivial, trivial⟩))
    · simp only [pluginStep, CloudCommon.removeCloudAccount, hfound]
      exact .inr (.inl ⟨n, rfl, rfl⟩)
  | addResourceFilters k selector =>
    rcases hfound : c.getCloudAccountByName k with _ | computeCfg
    · simp only [pluginStep, CloudCommon.addResourceFilters,
        CloudCommon.withAccountConfig_of_none hfound, serviceEvent_of_none hfound]
      exact .inr (.inr (.inr ⟨trivial, trivial⟩))
    · simp only [pluginStep, CloudCommon.addResourceFilters,
        CloudCommon.withAccountConfig_of_some hfound, serviceEvent_of_some hfound]
      exact .inr (.inr (.inl ⟨k, computeCfg, _, _, hfound, .add computeCfg selector, rfl, rfl⟩))
  | removeResourceFilters k n =>
    rcases hfound : c.getCloudAccountByName k with _ | computeCfg
    · simp only [pluginStep, CloudCommon.removeResourceFilters_eq _ _ [],
        CloudCommon.withAccountConfig_of_none hfound, serviceEvent_of_none hfound]
      exact .inr (.inr (.inr ⟨trivial, trivial⟩))
    · simp only [pluginStep, CloudCommon.removeResourceFilters_eq _ _ [],
        CloudCommon.withAccountConfig_of_some hfound, serviceEvent_of_some hfound]
      exact .inr (.inr (.inl ⟨k, computeCfg, _, _, hfound, .remove computeCfg n, rfl, rfl⟩))
  | doInventoryPoll k order =>
    rcases hfound : c.getCloudAccountByName k with _ | computeCfg
    · simp only [pluginStep, CloudCommon.doInventoryPoll,
        CloudCommon.withAccountConfig_of_none hfound, serviceEvent_of_none hfound]
      exact .inr (.inr (.inr ⟨trivial, trivial⟩))
    · simp only [pluginStep, CloudCommon.doInventoryPoll,
        CloudCommon.withAccountConfig_of_some hfound, serviceEvent_of_some hfound]
      exact .inr (.inr (.inl ⟨k, computeCfg, _, _, hfound,
        .poll computeCfg order (visits computeCfg hfound), rfl, rfl⟩))
  | resetInventoryCache k =>
    rcases hfound : c.getCloudAccountByName k with _ | computeCfg
    · simp only [pluginStep, CloudCommon.resetInventoryCache,
        CloudCommon.withAccountConfig_of_none hfound, serviceEvent_of_none hfound]
      exact .inr (.inr (.inr ⟨trivial, trivial⟩))
    · simp only [pluginStep, CloudCommon.resetInventoryCache,
        CloudCommon.withAccountConfig_of_some hfound, serviceEvent_of_some hfound]
      exact .inr (.inr (.inl ⟨k, computeCfg, _, _, hfound, .reset computeCfg, rfl, rfl⟩))

/-- A call leaves every account but the one it names as it was. -/
theorem pluginStep_lookup_ne (call : PluginCall) (hk : k ≠ call.account) :
    (pluginStep H c call).1.accountConfigs.lookup k = c.accountConfigs.lookup k := by
  cases call with
  | addCloudAccount account new update =>
    simp only [pluginStep, addCloudAccount]
    split
    · split
      · rfl
      · exact AList.lookup_insert_ne hk
    · split
      · rfl
      · exact AList.lookup_insert_ne hk
  | removeCloudAccount n =>
    simp only [pluginStep, CloudCommon.removeCloudAccount]
    split
    · rfl
    · exact AList.lookup_erase_ne hk
  | removeResourceFilters k' n =>
    rw [pluginStep, CloudCommon.removeResourceFilters_eq _ _ []]
    exact CloudCommon.withAccountConfig_lookup_ne hk
  | addResourceFilters | doInventoryPoll | resetInventoryCache =>
    exact CloudCommon.withAccountConfig_lookup_ne hk

end Step

/-! ## Every interleaving of calls -/

theorem accountLogStep_of_inert {k : NamespacedName} {acc : List ComputeEvent} {x : PluginEvent}
    (hx : x.Inert) : accountLogStep k acc x = acc := by
  rcases x with (_ | _ | _ | _ | _) | _ | _
  all_goals first | rfl | exact hx.elim

variable {H}

/-- **The plugin simulates each account's compute service.** In every reachable state of the
plugin, the compute service of a registered account belongs to that account and is reached by the
run of the calls that reached it since it was created, whatever the calls on the other accounts. -/
theorem pluginReachable_account {c : CloudCommon ComputeServiceConfig} {log : List PluginEvent}
    (h : PluginReachable H c log) {k : NamespacedName} {computeCfg : ComputeServiceConfig}
    (hk : c.accountConfigs.lookup k = some computeCfg) :
    Reachable H computeCfg (accountLog k log) ∧ computeCfg.account = k := by
  induction h generalizing computeCfg with
  | init => simp [CloudCommon.newCloudCommon] at hk
  | @step c log call visits _ ih =>
    rw [accountLog_append_singleton]
    rcases pluginStep_cases H c call visits with ⟨k', cfg, -, init, hacc, he, hc⟩ | ⟨k', he, hc⟩ |
      ⟨k', cfg, e, cfg', hsome, hstep, he, hc⟩ | ⟨hinert, hc⟩
    · rw [hc] at hk
      rw [he]
      by_cases hk' : k' = k
      · subst hk'
        obtain rfl : cfg = computeCfg := by simpa using hk
        simpa [accountLogStep] using ⟨init, hacc⟩
      · simpa [accountLogStep, hk'] using ih (by simpa [AList.lookup_insert_ne (Ne.symm hk')] using hk)
    · rw [hc] at hk
      rw [he]
      by_cases hk' : k = k'
      · subst hk'; simp at hk
      · exact ih (by simpa [AList.lookup_erase_ne hk'] using hk)
    · rw [hc] at hk
      rw [he]
      by_cases hk' : k' = k
      · subst hk'
        obtain rfl : cfg' = computeCfg := by simpa using hk
        obtain ⟨run, hacc⟩ := ih hsome
        simpa [accountLogStep] using ⟨run.serviceStep hstep, hstep.account_eq.trans hacc⟩
      · simpa [accountLogStep, hk'] using ih (by simpa [AList.lookup_insert_ne (Ne.symm hk')] using hk)
    · rw [hc] at hk
      rw [accountLogStep_of_inert hinert]
      exact ih hk

/-! ### A run of the plugin

The test account `default/account01` is created in a region, with the query builders
`eastusHelpers`, which compile selectors for `eastus` only. -/

/-- `AddCloudAccount` of the test account in `region`. -/
def createAccount (region : String) : PluginCall :=
  .addCloudAccount eastusAccount.account
    (.ok (⟨.ok []⟩, ⟨fun _ _ => .ok []⟩, regionCredentials region)) (.unchanged none)

/-- The plugin after `AddCloudAccount` of the test account in `region`. -/
def pluginCreated (region : String) : CloudCommon ComputeServiceConfig × PluginEvent :=
  pluginStep eastusHelpers CloudCommon.newCloudCommon (createAccount region)

/-- The plugin after `AddCloudAccount` of the test account in `eastus` and `AddResourceFilters` of
`testSelector` on it. -/
def pluginSelected : CloudCommon ComputeServiceConfig × PluginEvent :=
  pluginStep eastusHelpers (pluginCreated "eastus").1
    (.addResourceFilters eastusAccount.account testSelector)

/-- The two calls of `pluginSelected` are a run. -/
theorem pluginReachable_selected :
    PluginReachable eastusHelpers pluginSelected.1 [(pluginCreated "eastus").2, pluginSelected.2] :=
  .step (.addResourceFilters eastusAccount.account testSelector) trivial
    (.step (createAccount "eastus") trivial .init)

/-- In every reachable state of the plugin, an account is registered exactly when
`AddCloudAccount` created it after its last `RemoveCloudAccount`. -/
theorem pluginReachable_mem {c : CloudCommon ComputeServiceConfig} {log : List PluginEvent}
    (h : PluginReachable H c log) (k : NamespacedName) :
    k ∈ c.accountConfigs ↔ ∃ computeCfg,
      SinceLast log (.account (.created k computeCfg)) (· = .account (.removed k)) := by
  induction h with
  | init => simp [CloudCommon.newCloudCommon, AList.not_mem_empty]
  | @step c log call visits _ ih =>
    simp only [sinceLast_append_singleton]
    rcases pluginStep_cases H c call visits with ⟨k', cfg, -, -, -, he, hc⟩ | ⟨k', he, hc⟩ |
      ⟨k', cfg, e, cfg', hsome, -, he, hc⟩ | ⟨hinert, hc⟩
    · rw [hc, he]
      by_cases hk : k = k'
      · subst hk
        simp only [AList.mem_insert, true_or, true_iff]
        exact ⟨cfg, .inl rfl⟩
      · simp [AList.mem_insert, hk, ih]
    · rw [hc, he]
      by_cases hk : k = k'
      · subst hk
        simp [AList.mem_erase]
      · simp [AList.mem_erase, hk, Ne.symm hk, ih]
    · have hmem : k' ∈ c.accountConfigs := AList.lookup_isSome.1 (by simp [hsome])
      rw [hc, he]
      simp only [AList.mem_insert, reduceCtorEq, false_or, not_false_eq_true, and_true, ← ih]
      exact ⟨fun h => h.elim (· ▸ hmem) id, .inr⟩
    · rw [hc]
      have hcreated : ∀ cfg, PluginEvent.account (.created k cfg) ≠ (pluginStep H c call).2 :=
        fun cfg hx => by rw [← hx] at hinert; exact hinert
      have hremoved : (pluginStep H c call).2 ≠ .account (.removed k) :=
        fun hx => by rw [hx] at hinert; exact hinert
      simp only [hcreated, hremoved, false_or, not_false_eq_true, and_true, ih]

/-- **Accounts come and go only through the registry.** In every reachable state of the plugin, an
account is registered exactly when `AddCloudAccount` created it after its last
`RemoveCloudAccount`; the calls on its compute service, and every call on other accounts, neither
register nor deregister it. From such a state, `AddCloudAccount` of an account that is not
registered, whose clients and credentials were built, registers a fresh compute service for it and
logs that creation, and `RemoveCloudAccount` deregisters its account. -/
theorem pluginReachable_registered {c : CloudCommon ComputeServiceConfig} {log : List PluginEvent}
    (h : PluginReachable H c log) (k : NamespacedName) :
    (k ∈ c.accountConfigs ↔ ∃ computeCfg,
        SinceLast log (.account (.created k computeCfg)) (· = .account (.removed k))) ∧
      (k ∉ c.accountConfigs → ∀ vnetAPIClient resourceGraphAPIClient credentials update,
        (pluginStep H c (.addCloudAccount k
            (.ok (vnetAPIClient, resourceGraphAPIClient, credentials)) update)).2 =
          .account (.created k
            (newComputeServiceConfig k vnetAPIClient resourceGraphAPIClient credentials)) ∧
        (pluginStep H c (.addCloudAccount k
            (.ok (vnetAPIClient, resourceGraphAPIClient, credentials)) update)).1.accountConfigs.lookup
            k =
          some (newComputeServiceConfig k vnetAPIClient resourceGraphAPIClient credentials)) ∧
      k ∉ (pluginStep H c (.removeCloudAccount k)).1.accountConfigs := by
  refine ⟨pluginReachable_mem h k, fun hk vnetAPIClient resourceGraphAPIClient credentials update =>
    ?_, not_mem_pluginStep_removeCloudAccount H c⟩
  rw [pluginStep_addCloudAccount_of_none H c (AList.lookup_eq_none.2 hk)]
  exact ⟨rfl, AList.lookup_insert _⟩

/-- From the empty registry, `AddCloudAccount` of the test account registers a fresh compute
service for it; after the test run the account is registered, as created and not removed. -/
theorem pluginReachable_registered_selected :
    (pluginCreated "eastus").1.accountConfigs.lookup eastusAccount.account =
        some (newComputeServiceConfig eastusAccount.account ⟨.ok []⟩ ⟨fun _ _ => .ok []⟩
          (regionCredentials "eastus")) ∧
      eastusAccount.account ∈ pluginSelected.1.accountConfigs ∧
      ∃ computeCfg, SinceLast [(pluginCreated "eastus").2, pluginSelected.2]
        (.account (.created eastusAccount.account computeCfg))
        (· = .account (.removed eastusAccount.account)) :=
  have mem : eastusAccount.account ∈ pluginSelected.1.accountConfigs :=
    AList.lookup_isSome.1 (by decide)
  ⟨((pluginReachable_registered (@PluginReachable.init eastusHelpers) eastusAccount.account).2.1
      (AList.not_mem_empty _) _ _ _ (.unchanged none)).2,
    mem, (pluginReachable_registered pluginReachable_selected eastusAccount.account).1.1 mem⟩

/-- **Every account keeps the laws of one compute service.** In every reachable state of the
plugin over slash-free selector names, the compute service of every registered account belongs to
that account, is reached by the calls that reached it since its creation, satisfies the
filter-store law over them, and has
every filter compiled with its current credentials once each of its failed `UpdateServiceConfig`
calls was followed by one that returned nil. -/
theorem pluginReachable_accountLaws {c : CloudCommon ComputeServiceConfig}
    {log : List PluginEvent} (h : PluginReachable H c log) (free : ∀ e ∈ log, e.SlashFree)
    {k : NamespacedName} {computeCfg : ComputeServiceConfig}
    (hk : c.accountConfigs.lookup k = some computeCfg) :
    computeCfg.account = k ∧ Reachable H computeCfg (accountLog k log) ∧
      FilterStoreLaw H computeCfg (accountLog k log) ∧
      (UpdatesRepaired (accountLog k log) → FiltersMatch H computeCfg) := by
  obtain ⟨run, hacc⟩ := pluginReachable_account h hk
  have free' : ∀ e ∈ accountLog k log, e.SlashFree := fun e he => free _ (mem_accountLog he)
  exact ⟨hacc, run, (reachable_storeInvariant run free').filterStoreLaw,
    reachable_filtersMatch_of_repaired run free'⟩

/-- After the test run the test account's compute service is `selectorAdded`, and the laws hold of
it over the log `[added testSelector]`. -/
theorem pluginReachable_accountLaws_selected :
    PluginReachable eastusHelpers pluginSelected.1 [(pluginCreated "eastus").2, pluginSelected.2] ∧
      (∀ e ∈ [(pluginCreated "eastus").2, pluginSelected.2], e.SlashFree) ∧
      pluginSelected.1.accountConfigs.lookup eastusAccount.account = some selectorAdded ∧
      (selectorAdded.account = eastusAccount.account ∧ Reachable eastusHelpers selectorAdded
          (accountLog eastusAccount.account [(pluginCreated "eastus").2, pluginSelected.2]) ∧
        FilterStoreLaw eastusHelpers selectorAdded
          (accountLog eastusAccount.account [(pluginCreated "eastus").2, pluginSelected.2]) ∧
        (UpdatesRepaired
            (accountLog eastusAccount.account [(pluginCreated "eastus").2, pluginSelected.2]) →
          FiltersMatch eastusHelpers selectorAdded)) :=
  have free : ∀ e ∈ [(pluginCreated "eastus").2, pluginSelected.2], e.SlashFree := by decide
  have hk : pluginSelected.1.accountConfigs.lookup eastusAccount.account = some selectorAdded := rfl
  ⟨pluginReachable_selected, free, hk, pluginReachable_accountLaws pluginReachable_selected free hk⟩

/-! ### The inventory of every account

The test run is now made in a cloud that holds `mixedCaseVnet` and answers every query with
`mixedCaseRow`: the test account is created, `testSelector` is added, and the account is polled. -/

/-- A fresh compute service of the test account in that cloud. -/
def inventoryFresh : ComputeServiceConfig :=
  newComputeServiceConfig eastusAccount.account ⟨.ok [mixedCaseVnet]⟩ ⟨fun _ _ => .ok [mixedCaseRow]⟩
    (regionCredentials "eastus")

/-- `inventoryFresh` after `AddResourceFilters testSelector` and a poll. -/
def inventoryPolled : ComputeServiceConfig :=
  (performInventorySync eastusHelpers
    (addResourceFilters eastusHelpers inventoryFresh testSelector).1 [["vm-query".toList]]).1

/-- The events of the three calls. -/
def inventoryEvents : List PluginEvent :=
  [.account (.created eastusAccount.account inventoryFresh),
    .service eastusAccount.account (.added testSelector),
    .service eastusAccount.account (.polled none)]

/-- The registry after the three calls. -/
def inventoryPlugin : CloudCommon ComputeServiceConfig :=
  ⟨AList.singleton eastusAccount.account inventoryPolled⟩

/-- The three calls are a run. -/
theorem pluginReachable_inventoryPolled :
    PluginReachable eastusHelpers inventoryPlugin inventoryEvents :=
  .step (.doInventoryPoll eastusAccount.account [["vm-query".toList]])
    (fun _ h => by cases h; exact .refl _)
    (.step (.addResourceFilters eastusAccount.account testSelector) trivial
      (.step (.addCloudAccount eastusAccount.account
        (.ok (⟨.ok [mixedCaseVnet]⟩, ⟨fun _ _ => .ok [mixedCaseRow]⟩, regionCredentials "eastus"))
        (.unchanged none)) trivial .init))

/-- **When an account serves an inventory.** In every reachable state of the plugin,
`GetVpcInventory` of a registered account returns an inventory exactly when a `DoInventoryPoll` of
the account returned nil since the account was created, with no `ResetInventoryCache` of it after
that poll. A failed poll keeps the inventory there was. -/
theorem pluginReachable_snapshot {c : CloudCommon ComputeServiceConfig} {log : List PluginEvent}
    (h : PluginReachable H c log) {k : NamespacedName} {computeCfg : ComputeServiceConfig}
    (hk : c.accountConfigs.lookup k = some computeCfg) :
    (getVpcInventory computeCfg).isSome ↔
      SinceLast (accountLog k log) (.polled none) (· = .reset) := by
  rw [getVpcInventory_isSome]
  exact (reachable_snapshot (pluginReachable_account h hk).1).1

/-- After the test run the test account serves an inventory, polled and not reset since. -/
theorem pluginReachable_snapshot_polled :
    PluginReachable eastusHelpers inventoryPlugin inventoryEvents ∧
      inventoryPlugin.accountConfigs.lookup eastusAccount.account = some inventoryPolled ∧
      ((getVpcInventory inventoryPolled).isSome ↔
        SinceLast (accountLog eastusAccount.account inventoryEvents) (.polled none) (· = .reset)) :=
  have hk : inventoryPlugin.accountConfigs.lookup eastusAccount.account = some inventoryPolled := rfl
  ⟨pluginReachable_inventoryPolled, hk, pluginReachable_snapshot pluginReachable_inventoryPolled hk⟩

/-- **The reads of an account agree.** In every reachable state of the plugin, for every
registered account, the vnet ID of every cached VM is a managed vnet ID, the cached VMs have
distinct lowercased IDs, and `getVnetPeers` returns the peerings of the snapshot's vnets with the
given lowercased ID. -/
theorem pluginReachable_inventoryReads {c : CloudCommon ComputeServiceConfig}
    {log : List PluginEvent} (h : PluginReachable H c log) {k : NamespacedName}
    {computeCfg : ComputeServiceConfig} (hk : c.accountConfigs.lookup k = some computeCfg) :
    (∀ row ∈ getCachedVirtualMachines computeCfg, row.VnetID ∈ getManagedVnetIDs computeCfg) ∧
      ((getCachedVirtualMachines computeCfg).map fun row => Strings.toLower row.ID).Nodup ∧
      ∀ id, getVnetPeers computeCfg id = computeCfg.resourcesCache.map fun snapshot =>
        (snapshot.vnets.filter fun vnet => Strings.toLower vnet.ID = id).flatMap vnetPeerings := by
  rcases hc : computeCfg.resourcesCache with _ | snapshot
  · simp [getCachedVirtualMachines, getVnetPeers, hc]
  have w := (reachable_snapshot (pluginReachable_account h hk).1).2 snapshot hc
  simp only [getCachedVirtualMachines, getManagedVnetIDs, getVnetPeers, hc, Option.map_some']
  exact ⟨w.vnetIDs, w.nodup, fun id => by rw [w.vnetPeers, (buildMapVpcPeers_lookup _ id).1]⟩

/-- After the test run the reads of the test account agree: it caches `mixedCaseRow`, whose vnet
ID is managed. -/
theorem pluginReachable_inventoryReads_polled :
    PluginReachable eastusHelpers inventoryPlugin inventoryEvents ∧
      inventoryPlugin.accountConfigs.lookup eastusAccount.account = some inventoryPolled ∧
      ((∀ row ∈ getCachedVirtualMachines inventoryPolled,
          row.VnetID ∈ getManagedVnetIDs inventoryPolled) ∧
        ((getCachedVirtualMachines inventoryPolled).map fun row => Strings.toLower row.ID).Nodup ∧
        ∀ id, getVnetPeers inventoryPolled id = inventoryPolled.resourcesCache.map fun snapshot =>
          (snapshot.vnets.filter fun vnet => Strings.toLower vnet.ID = id).flatMap vnetPeerings) :=
  have hk : inventoryPlugin.accountConfigs.lookup eastusAccount.account = some inventoryPolled := rfl
  ⟨pluginReachable_inventoryPolled, hk,
    pluginReachable_inventoryReads pluginReachable_inventoryPolled hk⟩

/-- **Every VPC object belongs to its account.** In every reachable state of the plugin, every
object `GetVpcInventory` of a registered account returns is tagged with that account's namespace
and name and its lowercased region, sits under the lowercased ID of its vnet, and its vnet is one
of the account's snapshot, in the account's region. -/
theorem pluginReachable_vpcInventory {c : CloudCommon ComputeServiceConfig}
    {log : List PluginEvent} (h : PluginReachable H c log) {k : NamespacedName}
    {computeCfg : ComputeServiceConfig} (hk : c.accountConfigs.lookup k = some computeCfg)
    {vpcMap : GoMap GoString VpcObject} (hinv : getVpcInventory computeCfg = some vpcMap)
    {id : GoString} {o : VpcObject} (ho : vpcMap.lookup id = some o) :
    o.AccountNamespace = k.Namespace ∧ o.AccountName = k.Name ∧
      o.Region = Strings.toLower computeCfg.credentials.region ∧ id = Strings.toLower o.vnet.ID ∧
      Strings.equalFold o.vnet.Location computeCfg.credentials.region ∧
      ∃ snapshot, computeCfg.resourcesCache = some snapshot ∧ o.vnet ∈ snapshot.vnets := by
  have hacc := (pluginReachable_account h hk).2
  rcases hc : computeCfg.resourcesCache with _ | snapshot
  · simp [getVpcInventory, hc] at hinv
  simp only [getVpcInventory, hc, Option.some.injEq] at hinv
  subst hinv
  rcases lookup_foldl_addVpcObject_vnet computeCfg _ ho with h₀ | ⟨hmem, hid, hloc, hns, hname, hregion⟩
  · simp at h₀
  · exact ⟨hacc ▸ hns, hacc ▸ hname, hregion, hid, hloc, snapshot, rfl, hmem⟩

/-- The VPC object of `mixedCaseVnet` for the test account: unmanaged, since the poll recorded
the vnet ID of `mixedCaseRow` as the cloud spells it. -/
def inventoryVpc : VpcObject :=
  ⟨mixedCaseVnet, "default".toList, "account01".toList, "eastus".toList, false⟩

/-- `inventoryVpc` under the lowercased ID of its vnet. -/
def inventoryVpcMap : GoMap GoString VpcObject :=
  AList.singleton (Strings.toLower mixedCaseVnet.ID) inventoryVpc

/-- After the test run `GetVpcInventory` of the test account holds `inventoryVpc` alone, tagged
with the account. -/
theorem pluginReachable_vpcInventory_polled :
    PluginReachable eastusHelpers inventoryPlugin inventoryEvents ∧
      inventoryPlugin.accountConfigs.lookup eastusAccount.account = some inventoryPolled ∧
      getVpcInventory inventoryPolled = some inventoryVpcMap ∧
      inventoryVpcMap.lookup (Strings.toLower mixedCaseVnet.ID) = some inventoryVpc ∧
      (inventoryVpc.AccountNamespace = eastusAccount.account.Namespace ∧
        inventoryVpc.AccountName = eastusAccount.account.Name ∧
        inventoryVpc.Region = Strings.toLower inventoryPolled.credentials.region ∧
        Strings.toLower mixedCaseVnet.ID = Strings.toLower inventoryVpc.vnet.ID ∧
        Strings.equalFold inventoryVpc.vnet.Location inventoryPolled.credentials.region ∧
        ∃ snapshot, inventoryPolled.resourcesCache = some snapshot ∧
          inventoryVpc.vnet ∈ snapshot.vnets) :=
  have hk : inventoryPlugin.accountConfigs.lookup eastusAccount.account = some inventoryPolled := rfl
  have hinv : getVpcInventory inventoryPolled = some inventoryVpcMap := rfl
  have ho : inventoryVpcMap.lookup (Strings.toLower mixedCaseVnet.ID) = some inventoryVpc := rfl
  ⟨pluginReachable_inventoryPolled, hk, hinv, ho,
    pluginReachable_vpcInventory pluginReachable_inventoryPolled hk hinv ho⟩

/-! ## Failures -/

/-- The error a call on a compute service returned. -/
def ComputeEvent.error : ComputeEvent → Option GoError
  | .addFailed _ err => some err
  | .updated err | .polled err => err
  | _ => none

@[simp] theorem ComputeEvent.error_ofAdd (selector : CloudEntitySelector) (err : Option GoError) :
    (ComputeEvent.ofAdd selector err).error = err := by
  cases err <;> rfl

@[simp] theorem ComputeEvent.error_polled (err : Option GoError) :
    (ComputeEvent.polled err).error = err :=
  rfl

/-- The error a call on the plugin returned. -/
def PluginEvent.error : PluginEvent → Option GoError
  | .account e => e.error
  | .service _ e => e.error
  | .accountNotFound _ err => err

/-- A call that reports the error its service returned returns that error whether or not the
account is registered. -/
theorem PluginEvent.error_serviceEvent {c : CloudCommon ComputeServiceConfig} {k : NamespacedName}
    {err : Option GoError} {e : ComputeEvent} (h : e.error = err) :
    (serviceEvent c k err e).error = err := by
  unfold serviceEvent; split <;> simp [PluginEvent.error, h]

variable (H)

/-- What a failed call writes to the compute service of `k`: a failed `DoInventoryPoll` of `k`
records its error in the poll stats, and no other failed call writes anything. -/
def recordPollError (call : PluginCall) (err : GoError) (k : NamespacedName)
    (computeCfg : ComputeServiceConfig) : ComputeServiceConfig :=
  match call with
  | .doInventoryPoll accountNamespacedName _ =>
    if k = accountNamespacedName then
      { computeCfg with
        inventoryStats := H.pollStats.updateInventoryPollStats (some err) computeCfg.inventoryStats }
    else computeCfg
  | _ => computeCfg

/-- A failing call other than a poll leaves every account as it was, unless it is an
`AddCloudAccount` whose `UpdateServiceConfig` failed. -/
theorem pluginStep_lookup_of_error (c : CloudCommon ComputeServiceConfig) (call : PluginCall)
    (notPoll : ∀ k order, call ≠ .doInventoryPoll k order)
    (failed : (pluginStep H c call).2.error.isSome)
    (notUpdate : ∀ k err, (pluginStep H c call).2 ≠ .service k (.updated err)) (k : NamespacedName) :
    (pluginStep H c call).1.accountConfigs.lookup k = c.accountConfigs.lookup k := by
  cases call with
  | addCloudAccount account new update =>
    rcases hfound : c.accountConfigs.lookup account with _ | existing
    · rcases new with err | ⟨vnetAPIClient, resourceGraphAPIClient, credentials⟩
      · simp only [pluginStep, addCloudAccount, hfound]
      · simp [pluginStep, addCloudAccount, hfound, PluginEvent.error, AccountEvent.error] at failed
    · rcases update with err | ⟨newConfig, order⟩
      · simp only [pluginStep, addCloudAccount, hfound]
      · simp only [pluginStep, addCloudAccount, hfound] at notUpdate
        exact absurd rfl (notUpdate account _)
  | removeCloudAccount n =>
    rcases hfound : c.getCloudAccountByName n with _ | existing <;>
      simp [pluginStep, CloudCommon.removeCloudAccount, hfound, PluginEvent.error,
        AccountEvent.error] at failed
  | addResourceFilters k' selector =>
    simp only [pluginStep, PluginEvent.error_serviceEvent (ComputeEvent.error_ofAdd _ _)] at failed ⊢
    obtain ⟨err, herr⟩ := Option.isSome_iff_exists.1 failed
    simpa using CloudCommon.withAccountConfig_error id
      (fun _ he => addResourceFilters_error H (Option.isSome_iff_exists.2 ⟨err, he⟩)) herr k
  | removeResourceFilters k' n =>
    rcases hfound : c.getCloudAccountByName k' with _ | computeCfg <;>
      simp [pluginStep, serviceEvent, hfound, PluginEvent.error, ComputeEvent.error] at failed
  | doInventoryPoll k' order => exact absurd rfl (notPoll k' order)
  | resetInventoryCache k' =>
    rcases hfound : c.getCloudAccountByName k' with _ | computeCfg
    · simp only [pluginStep, CloudCommon.resetInventoryCache,
        CloudCommon.withAccountConfig_of_none hfound]
    · simp [pluginStep, serviceEvent_of_some hfound, PluginEvent.error, ComputeEvent.error] at failed

/-- A failing poll records its error in the stats of the polled account and leaves every other
account as it was. -/
theorem pluginStep_doInventoryPoll_error (c : CloudCommon ComputeServiceConfig)
    (k' : NamespacedName) (order : List (List Query)) {err : GoError}
    (failed : (pluginStep H c (.doInventoryPoll k' order)).2.error = some err) (k : NamespacedName) :
    (pluginStep H c (.doInventoryPoll k' order)).1.accountConfigs.lookup k =
      (c.accountConfigs.lookup k).map (recordPollError H (.doInventoryPoll k' order) err k) := by
  simp only [pluginStep, PluginEvent.error_serviceEvent (ComputeEvent.error_polled _)] at failed
  exact CloudCommon.withAccountConfig_error _ (fun _ h => performInventorySync_error h) failed k

/-- **Failure atomicity of the plugin.** A call that returns an error leaves every account as it
was, unless it is an `AddCloudAccount` whose `UpdateServiceConfig` failed, with one exception: a
failed `DoInventoryPoll` records its error in the poll stats of the polled account. -/
theorem pluginStep_error (c : CloudCommon ComputeServiceConfig) (call : PluginCall) {err : GoError}
    (failed : (pluginStep H c call).2.error = some err)
    (notUpdate : ∀ k err, (pluginStep H c call).2 ≠ .service k (.updated err)) (k : NamespacedName) :
    (pluginStep H c call).1.accountConfigs.lookup k =
        (c.accountConfigs.lookup k).map (recordPollError H call err k) ∧
      ∀ order computeCfg, call = .doInventoryPoll k order →
        (pluginStep H c call).1.accountConfigs.lookup k = some computeCfg →
        computeCfg.inventoryStats.lastError = some err := by
  have hlookup : (pluginStep H c call).1.accountConfigs.lookup k =
      (c.accountConfigs.lookup k).map (recordPollError H call err k) := by
    cases call with
    | doInventoryPoll k' order => exact pluginStep_doInventoryPoll_error H c k' order failed k
    | _ =>
      rw [pluginStep_lookup_of_error H c _ (by intro _ _ h; cases h) (by simp [failed]) notUpdate k]
      cases c.accountConfigs.lookup k <;> rfl
  refine ⟨hlookup, fun order computeCfg hcall hk => ?_⟩
  subst hcall
  rw [hlookup] at hk
  obtain ⟨computeCfg₀, -, rfl⟩ := Option.map_eq_some'.1 hk
  simp [recordPollError, H.pollStats.some_lastError]

/-- The plugin after `AddCloudAccount` of the test account in `eastus` with a vnet client whose
listing fails. -/
def offlineCreated : CloudCommon ComputeServiceConfig × PluginEvent :=
  pluginStep eastusHelpers CloudCommon.newCloudCommon
    (.addCloudAccount eastusAccount.account
      (.ok (⟨.error "vnet listing failed".toList⟩, ⟨fun _ _ => .ok []⟩, regionCredentials "eastus"))
      (.unchanged none))

/-- A poll of that account fails with the listing's error, which it records in the account's
stats. -/
theorem pluginStep_error_offline :
    (pluginStep eastusHelpers offlineCreated.1
        (.doInventoryPoll eastusAccount.account [])).2.error = some "vnet listing failed".toList ∧
      (∀ k err, (pluginStep eastusHelpers offlineCreated.1
        (.doInventoryPoll eastusAccount.account [])).2 ≠ .service k (.updated err)) ∧
      ((pluginStep eastusHelpers offlineCreated.1
          (.doInventoryPoll eastusAccount.account [])).1.accountConfigs.lookup eastusAccount.account =
        (offlineCreated.1.accountConfigs.lookup eastusAccount.account).map
          (recordPollError eastusHelpers (.doInventoryPoll eastusAccount.account [])
            "vnet listing failed".toList eastusAccount.account) ∧
        ∀ order computeCfg, PluginCall.doInventoryPoll eastusAccount.account [] =
            .doInventoryPoll eastusAccount.account order →
          (pluginStep eastusHelpers offlineCreated.1
              (.doInventoryPoll eastusAccount.account [])).1.accountConfigs.lookup
              eastusAccount.account = some computeCfg →
          computeCfg.inventoryStats.lastError = some "vnet listing failed".toList) :=
  have failed : (pluginStep eastusHelpers offlineCreated.1
      (.doInventoryPoll eastusAccount.account [])).2.error = some "vnet listing failed".toList := rfl
  have notUpdate : ∀ k err, (pluginStep eastusHelpers offlineCreated.1
      (.doInventoryPoll eastusAccount.account [])).2 ≠ .service k (.updated err) :=
    fun _ _ h => by cases h
  ⟨failed, notUpdate, pluginStep_error eastusHelpers _ _ failed notUpdate _⟩

/-! ## Repeated calls -/

/-- The calls that can be repeated without effect. A poll is not one of them: Go ranges over the
filters in a fresh order each time, so a second poll may answer differently. -/
def PluginCall.Retriable : PluginCall → Prop
  | .addResourceFilters _ _ | .removeResourceFilters _ _ | .resetInventoryCache _ => True
  | .addCloudAccount _ _ _ | .removeCloudAccount _ | .doInventoryPoll _ _ => False

instance : DecidablePred PluginCall.Retriable := fun call =>
  match call with
  | .addResourceFilters _ _ | .removeResourceFilters _ _ | .resetInventoryCache _ =>
    inferInstanceAs (Decidable True)
  | .addCloudAccount _ _ _ | .removeCloudAccount _ | .doInventoryPoll _ _ =>
    inferInstanceAs (Decidable False)

/-- **Repeating a call is harmless.** `AddResourceFilters`, `RemoveResourceFilters` and
`ResetInventoryCache`, made again right after they returned, leave the state they left and return
what they returned, whether the account is registered or not, and whether the first call failed or
not. A controller that requeues one of them after a lost answer changes nothing. -/
theorem pluginStep_retry (c : CloudCommon ComputeServiceConfig) (call : PluginCall)
    (retriable : call.Retriable) : pluginStep H (pluginStep H c call).1 call = pluginStep H c call := by
  cases call with
  | addResourceFilters k selector =>
    simp only [pluginStep, CloudCommon.addResourceFilters,
      @CloudCommon.withAccountConfig_withAccountConfig _ _ (addResourceFilters H · selector) _ _
        fun accCfg => addResourceFilters_addResourceFilters H accCfg selector,
      serviceEvent_congr (CloudCommon.mem_withAccountConfig k)]
  | removeResourceFilters k n =>
    simp only [pluginStep, CloudCommon.removeResourceFilters_eq _ _ [],
      @CloudCommon.withAccountConfig_withAccountConfig _ _ (removeResourceFilters · n, none) _ _
        fun accCfg => congrArg (·, none) (removeResourceFilters_removeResourceFilters accCfg n),
      serviceEvent_congr (CloudCommon.mem_withAccountConfig k)]
  | resetInventoryCache k =>
    simp only [pluginStep, CloudCommon.resetInventoryCache,
      @CloudCommon.withAccountConfig_withAccountConfig _ _ (resetInventoryCache ·, none) _ _
        fun _ => rfl,
      serviceEvent_congr (CloudCommon.mem_withAccountConfig k)]
  | addCloudAccount | removeCloudAccount | doInventoryPoll => exact retriable.elim

/-- Adding `testSelector` to the test account a second time changes nothing. -/
theorem pluginStep_retry_selected :
    (PluginCall.addResourceFilters eastusAccount.account testSelector).Retriable ∧
      pluginStep eastusHelpers pluginSelected.1
          (.addResourceFilters eastusAccount.account testSelector) = pluginSelected :=
  ⟨trivial, pluginStep_retry eastusHelpers _ _ trivial⟩

/-- **A reset does not change the next poll.** `DoInventoryPoll` right after `ResetInventoryCache`
returns what it returns without the reset, and when it returns nil it leaves the state it leaves
without the reset: a poll never reads the snapshot it replaces, and one that returns nil marks the
stats initialized whatever the reset left. -/
theorem pluginStep_reset_poll (c : CloudCommon ComputeServiceConfig) (k : NamespacedName)
    (order : List (List Query)) :
    (pluginStep H (pluginStep H c (.resetInventoryCache k)).1 (.doInventoryPoll k order)).2 =
        (pluginStep H c (.doInventoryPoll k order)).2 ∧
      ((pluginStep H c (.doInventoryPoll k order)).2.error = none →
        (pluginStep H (pluginStep H c (.resetInventoryCache k)).1 (.doInventoryPoll k order)).1 =
          (pluginStep H c (.doInventoryPoll k order)).1) := by
  rcases h : c.getCloudAccountByName k with _ | accCfg
  · simp [pluginStep, CloudCommon.resetInventoryCache, CloudCommon.withAccountConfig_of_none h]
  have hreset : (pluginStep H c (.resetInventoryCache k)).1 =
      ⟨c.accountConfigs.insert k (resetInventoryCache accCfg)⟩ := by
    simp only [pluginStep, CloudCommon.resetInventoryCache, CloudCommon.withAccountConfig_of_some h]
  have h' : (⟨c.accountConfigs.insert k (resetInventoryCache accCfg)⟩ :
      CloudCommon ComputeServiceConfig).getCloudAccountByName k = some (resetInventoryCache accCfg) :=
    AList.lookup_insert _
  obtain ⟨herr, hstate⟩ := @performInventorySync_resetInventoryCache H accCfg order
  rw [hreset]
  simp only [pluginStep, CloudCommon.doInventoryPoll, CloudCommon.withAccountConfig_of_some h',
    CloudCommon.withAccountConfig_of_some h, serviceEvent_of_some h', serviceEvent_of_some h,
    PluginEvent.error, ComputeEvent.error, herr]
  exact ⟨trivial, fun hok => by rw [hstate hok, AList.insert_insert]⟩

end Nephe.Azure
