import Nephe.Basic

/-!
# The account registry of the plugin framework

`cloudCommon` keeps every cloud provider account of one plugin in the map `accountConfigs`, keyed
by the account's `NamespacedName`. `AddCloudAccount` creates a config for a new key and only hands
an existing config to `updateCloudAccountConfig`; `RemoveCloudAccount` deletes the entry when there
is one. `GetCloudAccountByAccountId` resolves the `namespace/name` form of a key by splitting it on
`/`.

The helpers `newCloudAccountConfig` and `updateCloudAccountConfig` read the account's secret, so
each call of `AddCloudAccount` carries what they answer at that moment. Configs are references:
`Config` stands for them and the registry only stores and compares them.

The other calls look an account up and hand it its config: `AddResourceFilters`,
`DoInventoryPoll` and `ResetInventoryCache` change the config or fail with a "not found" error of
their own, `RemoveResourceFilters` only logs a missing account, and `GetStatus` and
`GetCloudInventory` read the config. One definition, `withAccountConfig`, says what the first
three do, and each is that definition applied to its own operation and error text.

## Main definitions

* `Nephe.CloudCommon` — the registry, `accountConfigs`
* `Nephe.CloudCommon.addCloudAccount`, `removeCloudAccount`, `getCloudAccountByName`,
  `getCloudAccountByAccountId` — the registry's operations
* `Nephe.AccountEvent` — what one call did
* `Nephe.CloudCommon.Reachable` — the states and logs of every sequence of calls
* `Nephe.CloudCommon.withAccountConfig`, `readAccountConfig` — the calls on one account;
  `addResourceFilters`, `doInventoryPoll`, `resetInventoryCache`, `removeResourceFilters`,
  `getStatus`, `getCloudInventory` are its members

## Main results

* `Nephe.CloudCommon.reachable_lookup` — a key holds the config created for it after its last
  removal
* `Nephe.CloudCommon.accountRegistry_lifecycle` — the registry's lifecycle law
* `Nephe.CloudCommon.getCloudAccountByAccountId_string` — account IDs resolve exactly the
  registered keys
* `Nephe.CloudCommon.withAccountConfig_lookup_ne`, `mem_withAccountConfig` — a call on one account
  leaves the others as they were and registers or removes none
* `Nephe.CloudCommon.withAccountConfig_error` — a failing call writes to its account only what its
  operation writes when it fails
* `Nephe.CloudCommon.withAccountConfig_withAccountConfig` — repeating a call whose operation is
  idempotent changes nothing
-/

namespace Nephe

/-- What one call on the account registry did. -/
inductive AccountEvent (Config : Type)
  /-- `AddCloudAccount` found no entry, created a config and stored it. -/
  | created (key : NamespacedName) (config : Config)
  /-- `AddCloudAccount` found no entry, and `newCloudAccountConfig` failed. -/
  | creationFailed (key : NamespacedName) (err : GoError)
  /-- `AddCloudAccount` found an entry and handed it to `updateCloudAccountConfig`. -/
  | updated (key : NamespacedName) (err : Option GoError)
  /-- `RemoveCloudAccount` found the entry and deleted it. -/
  | removed (key : NamespacedName)
  /-- `RemoveCloudAccount` found no entry. -/
  | notFound (key : NamespacedName)
  deriving DecidableEq, Repr

namespace AccountEvent

variable {Config : Type}

/-- The key the call was made for. -/
def key : AccountEvent Config → NamespacedName
  | created k _ | creationFailed k _ | updated k _ | removed k | notFound k => k

/-- The error the call returned. -/
def error : AccountEvent Config → Option GoError
  | creationFailed _ err => some err
  | updated _ err => err
  | _ => none

/-- The event of a `RemoveCloudAccount(k)` call, whether or not it found an entry. -/
def RemovalOf (k : NamespacedName) : AccountEvent Config → Prop
  | removed key | notFound key => key = k
  | _ => False

@[simp] theorem removalOf_created {k k' : NamespacedName} {cfg : Config} :
    ¬ (created k' cfg).RemovalOf k := id

end AccountEvent

/-- A call on the registry. `addCloudAccount` carries the answers of the helpers it may call. -/
inductive AccountCall (Config : Type)
  | addCloudAccount (account : NamespacedName)
      (newCloudAccountConfig : NamespacedName → Except GoError Config)
      (updateCloudAccountConfig : Config → Option GoError)
  | removeCloudAccount (namespacedName : NamespacedName)

/-- `cloudCommon`, as far as its account registry goes. -/
structure CloudCommon (Config : Type) where
  accountConfigs : GoMap NamespacedName Config

namespace CloudCommon

variable {Config : Type} (getNamespacedName : Config → NamespacedName)

/-- `NewCloudCommon`: an empty registry. -/
def newCloudCommon : CloudCommon Config :=
  ⟨∅⟩

/-- `GetCloudAccountByName`. -/
def getCloudAccountByName (c : CloudCommon Config) (namespacedName : NamespacedName) :
    Option Config :=
  c.accountConfigs.lookup namespacedName

/-- `GetCloudAccountByAccountId`: the account ID must split on `/` into exactly two tokens, the
namespace and the name. -/
def getCloudAccountByAccountId (c : CloudCommon Config) (accountID : GoString) : Option Config :=
  match Strings.split accountID '/' with
  | [ns, name] => c.getCloudAccountByName ⟨ns, name⟩
  | _ => none

/-- `AddCloudAccount`: an existing entry is only updated; otherwise a new config is created and
stored under the name it reports (`GetNamespacedName`). -/
def addCloudAccount (account : NamespacedName)
    (newCloudAccountConfig : NamespacedName → Except GoError Config)
    (updateCloudAccountConfig : Config → Option GoError) (c : CloudCommon Config) :
    CloudCommon Config × AccountEvent Config :=
  match c.accountConfigs.lookup account with
  | some existingConfig => (c, .updated account (updateCloudAccountConfig existingConfig))
  | none =>
    match newCloudAccountConfig account with
    | .error err => (c, .creationFailed account err)
    | .ok config =>
      (⟨c.accountConfigs.insert (getNamespacedName config) config⟩, .created account config)

/-- `RemoveCloudAccount`. -/
def removeCloudAccount (namespacedName : NamespacedName) (c : CloudCommon Config) :
    CloudCommon Config × AccountEvent Config :=
  match c.getCloudAccountByName namespacedName with
  | none => (c, .notFound namespacedName)
  | some _ => (⟨c.accountConfigs.erase namespacedName⟩, .removed namespacedName)

/-- One call on the registry. -/
def step (c : CloudCommon Config) : AccountCall Config → CloudCommon Config × AccountEvent Config
  | .addCloudAccount account new update => addCloudAccount getNamespacedName account new update c
  | .removeCloudAccount namespacedName => removeCloudAccount namespacedName c

/-- The registry states and call logs of every sequence of calls from `NewCloudCommon`. -/
inductive Reachable : CloudCommon Config → List (AccountEvent Config) → Prop
  | init : Reachable newCloudCommon []
  | step {c log} (call : AccountCall Config) : Reachable c log →
      Reachable (step getNamespacedName c call).1 (log ++ [(step getNamespacedName c call).2])

/-- Every config created in the log reports the name it was created for. -/
def Reports (log : List (AccountEvent Config)) : Prop :=
  ∀ k cfg, AccountEvent.created k cfg ∈ log → getNamespacedName cfg = k

/-! ## What one call does -/

/-- A call creates a config for a key that had none, removes an entry that was there, or leaves
the registry as it was (and a `RemoveCloudAccount` that leaves it so found no entry). -/
theorem step_cases (c : CloudCommon Config) (call : AccountCall Config) :
    (∃ k cfg, (step getNamespacedName c call).2 = .created k cfg ∧
        c.accountConfigs.lookup k = none ∧
        (step getNamespacedName c call).1 = ⟨c.accountConfigs.insert (getNamespacedName cfg) cfg⟩) ∨
      (∃ k, (step getNamespacedName c call).2 = .removed k ∧
        (step getNamespacedName c call).1 = ⟨c.accountConfigs.erase k⟩) ∨
      ((∀ k cfg, (step getNamespacedName c call).2 ≠ .created k cfg) ∧
        (∀ k, (step getNamespacedName c call).2 ≠ .removed k) ∧
        (∀ k, (step getNamespacedName c call).2.RemovalOf k → c.accountConfigs.lookup k = none) ∧
        (step getNamespacedName c call).1 = c) := by
  cases call with
  | addCloudAccount account new update =>
    simp only [step, addCloudAccount]
    rcases hfound : c.accountConfigs.lookup account with _ | existing
    · rcases new account with err | config
      · simp [AccountEvent.RemovalOf]
      · exact .inl ⟨account, config, rfl, hfound, rfl⟩
    · simp [AccountEvent.RemovalOf]
  | removeCloudAccount namespacedName =>
    simp only [step, removeCloudAccount, getCloudAccountByName]
    rcases hfound : c.accountConfigs.lookup namespacedName with _ | existing
    · simp [AccountEvent.RemovalOf, hfound]
    · simp

variable {c : CloudCommon Config} {k : NamespacedName}
  {new : NamespacedName → Except GoError Config} {update : Config → Option GoError}

/-- `AddCloudAccount` of a key with no entry, whose `newCloudAccountConfig` returns a config,
stores that config under the name it reports and logs its creation. -/
theorem addCloudAccount_of_none {cfg : Config} (h : c.getCloudAccountByName k = none)
    (hnew : new k = .ok cfg) :
    addCloudAccount getNamespacedName k new update c =
      (⟨c.accountConfigs.insert (getNamespacedName cfg) cfg⟩, .created k cfg) := by
  rw [getCloudAccountByName] at h
  simp only [addCloudAccount, h, hnew]

/-- `AddCloudAccount` of a key with an entry leaves the registry as it was, whatever
`updateCloudAccountConfig` returns. -/
theorem addCloudAccount_of_some {cfg : Config} (h : c.getCloudAccountByName k = some cfg) :
    (addCloudAccount getNamespacedName k new update c).1 = c := by
  rw [getCloudAccountByName] at h
  simp only [addCloudAccount, h]

/-- After `RemoveCloudAccount` the key has no entry. -/
theorem removeCloudAccount_getCloudAccountByName :
    (removeCloudAccount k c).1.getCloudAccountByName k = none := by
  unfold removeCloudAccount
  split
  · assumption
  · exact AList.lookup_erase k _

variable {getNamespacedName}

/-- A call that returns an error leaves the registry unchanged. -/
theorem step_error (c : CloudCommon Config) (call : AccountCall Config)
    (failed : (step getNamespacedName c call).2.error.isSome) :
    (step getNamespacedName c call).1 = c := by
  rcases step_cases getNamespacedName c call with ⟨k, cfg, he, -⟩ | ⟨k, he, -⟩ | ⟨-, -, -, hc⟩
  · simp [he, AccountEvent.error] at failed
  · simp [he, AccountEvent.error] at failed
  · exact hc

/-- A call for one key leaves every other key's entry unchanged, provided a config it creates
reports that key. -/
theorem step_frame (c : CloudCommon Config) (call : AccountCall Config)
    (reports : Reports getNamespacedName [(step getNamespacedName c call).2])
    {k : NamespacedName} (hk : k ≠ (step getNamespacedName c call).2.key) :
    (step getNamespacedName c call).1.accountConfigs.lookup k = c.accountConfigs.lookup k := by
  rcases step_cases getNamespacedName c call with ⟨k', cfg, he, -, hc⟩ | ⟨k', he, hc⟩ |
    ⟨-, -, -, hc⟩
  · rw [hc, reports k' cfg (by simp [he])]
    rw [he] at hk
    exact AList.lookup_insert_ne hk
  · rw [hc]
    rw [he] at hk
    exact AList.lookup_erase_ne hk
  · rw [hc]

/-! ## Every sequence of calls -/

theorem Reports.mono {log log' : List (AccountEvent Config)}
    (reports : Reports getNamespacedName log) (hsub : log' ⊆ log) :
    Reports getNamespacedName log' :=
  fun k cfg h => reports k cfg (hsub h)

/-- Every event of a run was produced by one call from a state some prefix of the run reached. -/
theorem Reachable.prefix_step {c : CloudCommon Config} {log : List (AccountEvent Config)}
    (h : Reachable getNamespacedName c log) {pre rest : List (AccountEvent Config)}
    {e : AccountEvent Config} (hlog : log = pre ++ e :: rest) :
    ∃ c₁ call, Reachable getNamespacedName c₁ pre ∧
      (CloudCommon.step getNamespacedName c₁ call).2 = e := by
  induction h generalizing rest with
  | init => simp at hlog
  | @step c log call hreach ih =>
    rcases List.eq_nil_or_concat rest with rfl | ⟨rest', y, rfl⟩
    · obtain ⟨rfl, he⟩ := List.append_inj' hlog rfl
      exact ⟨c, call, hreach, by simpa using he⟩
    · rw [List.concat_eq_append, ← List.cons_append, ← List.append_assoc] at hlog
      exact ih (List.append_inj' hlog rfl).1

/-- In a reachable state a key holds exactly the config created for it after its last
`RemoveCloudAccount`. -/
theorem reachable_lookup {c : CloudCommon Config} {log : List (AccountEvent Config)}
    (h : Reachable getNamespacedName c log) (reports : Reports getNamespacedName log)
    (k : NamespacedName) (cfg : Config) :
    c.accountConfigs.lookup k = some cfg ↔
      SinceLast log (.created k cfg) (AccountEvent.RemovalOf k) := by
  induction h generalizing cfg with
  | init => simp [newCloudCommon]
  | @step c log call _ ih =>
    have ih := ih (reports.mono (by simp))
    have re : Reports getNamespacedName [(step getNamespacedName c call).2] :=
      reports.mono (by simp)
    rw [sinceLast_append_singleton]
    rcases step_cases getNamespacedName c call with ⟨k', cfg', he, hnone, hc⟩ | ⟨k', he, hc⟩ |
      ⟨hnc, -, hnf, hc⟩
    · rw [hc, he, re k' cfg' (by simp [he])]
      by_cases hk : k = k'
      · subst hk
        have hold : ¬ SinceLast log (.created k cfg) (AccountEvent.RemovalOf k) := by
          rw [← ih]; simp [hnone]
        simp [hold, eq_comm]
      · simp [AList.lookup_insert_ne hk, hk, ih]
    · rw [hc, he]
      by_cases hk : k = k'
      · subst hk; simp [AccountEvent.RemovalOf]
      · simp [AList.lookup_erase_ne hk, ih, AccountEvent.RemovalOf, Ne.symm hk]
    · rw [hc]
      have hne : AccountEvent.created k cfg ≠ (step getNamespacedName c call).2 :=
        fun he => hnc k cfg he.symm
      by_cases hrem : (step getNamespacedName c call).2.RemovalOf k
      · simp [hnf k hrem, hne, hrem]
      · simp [hne, hrem, ih]

/-- Once a config is created for a key, no later call creates another one for it until the key
is removed: later `AddCloudAccount` calls only update the stored config. -/
theorem reachable_no_recreate {c : CloudCommon Config} {log : List (AccountEvent Config)}
    (h : Reachable getNamespacedName c log) (reports : Reports getNamespacedName log)
    {k : NamespacedName} {cfg cfg' : Config} {pre post : List (AccountEvent Config)}
    (hlog : log = pre ++ .created k cfg :: post) (kept : ∀ e ∈ post, ¬ e.RemovalOf k) :
    AccountEvent.created k cfg' ∉ post := by
  intro hmem
  obtain ⟨mid, rest, rfl⟩ := List.append_of_mem hmem
  have hlog' : log = (pre ++ .created k cfg :: mid) ++ .created k cfg' :: rest := by simp [hlog]
  obtain ⟨c₁, call, hreach, he⟩ := h.prefix_step hlog'
  have hheld : c₁.accountConfigs.lookup k = some cfg :=
    (reachable_lookup hreach (reports.mono fun x hx => hlog' ▸ List.mem_append_left _ hx) k
      cfg).2 ⟨pre, mid, rfl, fun e he => kept e (by simp [he])⟩
  rcases step_cases getNamespacedName c₁ call with ⟨k', cfg'', he', hnone, -⟩ | ⟨k', he', -⟩ |
    ⟨hnc, -⟩
  · rw [he] at he'
    simp only [AccountEvent.created.injEq] at he'
    rw [← he'.1, hheld] at hnone
    exact Option.some_ne_none _ hnone
  · rw [he] at he'
    exact AccountEvent.noConfusion he'
  · exact hnc k cfg' he

variable (getNamespacedName) in
/-- The lifecycle law of the account registry, for a state `c` reached with the log `log`:
a key holds a config exactly when an `AddCloudAccount` created it after the key's last
`RemoveCloudAccount`, and no later `AddCloudAccount` replaces it before a removal. From `c`, an
`AddCloudAccount` of a key with no entry whose `newCloudAccountConfig` returns a config reporting
that key registers the config, an `AddCloudAccount` of a key with an entry changes nothing, a
`RemoveCloudAccount` leaves its key without an entry, and any call, for a key `k`, changes nothing
when it fails and leaves every key but `k` as it was. -/
def LifecycleLaw (c : CloudCommon Config) (log : List (AccountEvent Config)) : Prop :=
  (∀ k cfg, c.getCloudAccountByName k = some cfg ↔
      SinceLast log (.created k cfg) (AccountEvent.RemovalOf k)) ∧
    (∀ k cfg cfg' pre post, log = pre ++ .created k cfg :: post →
      (∀ e ∈ post, ¬ e.RemovalOf k) → AccountEvent.created k cfg' ∉ post) ∧
    (∀ k new update cfg, c.getCloudAccountByName k = none → new k = .ok cfg →
      getNamespacedName cfg = k →
      (step getNamespacedName c (.addCloudAccount k new update)).2 = .created k cfg ∧
        (step getNamespacedName c (.addCloudAccount k new update)).1.getCloudAccountByName k =
          some cfg) ∧
    (∀ k new update cfg, c.getCloudAccountByName k = some cfg →
      (step getNamespacedName c (.addCloudAccount k new update)).1 = c) ∧
    (∀ k, (step getNamespacedName c (.removeCloudAccount k)).1.getCloudAccountByName k = none) ∧
    ∀ call, Reports getNamespacedName [(step getNamespacedName c call).2] →
      ((step getNamespacedName c call).2.error.isSome → (step getNamespacedName c call).1 = c) ∧
      ∀ k, k ≠ (step getNamespacedName c call).2.key →
        (step getNamespacedName c call).1.getCloudAccountByName k = c.getCloudAccountByName k

theorem accountRegistry_lifecycle {c : CloudCommon Config} {log : List (AccountEvent Config)}
    (h : Reachable getNamespacedName c log) (reports : Reports getNamespacedName log) :
    LifecycleLaw getNamespacedName c log :=
  ⟨reachable_lookup h reports, fun _ _ _ _ _ hlog kept => reachable_no_recreate h reports hlog kept,
    fun _ _ _ _ hnone hnew hname => by
      simp only [step, addCloudAccount_of_none _ hnone hnew, hname, getCloudAccountByName,
        AList.lookup_insert, and_self],
    fun _ _ _ _ hsome => addCloudAccount_of_some _ hsome,
    fun _ => removeCloudAccount_getCloudAccountByName,
    fun call hcall => ⟨step_error c call, fun _ hk => step_frame c call hcall hk⟩⟩

/-- The account of the plugin tests. -/
def testAccount : NamespacedName :=
  ⟨"namespace01".toList, "account01".toList⟩

/-- `AddCloudAccount` of the test account, with a config that reports its name. -/
def testAdd : AccountCall Nat :=
  .addCloudAccount testAccount (fun _ => .ok 0) (fun _ => none)

/-- One account, added once with a config that reports its name: the registry then holds that
config under the account. -/
theorem accountRegistry_lifecycle_single_add :
    Reachable (fun _ => testAccount) (step (fun _ => testAccount) newCloudCommon testAdd).1
        [(step (fun _ => testAccount) newCloudCommon testAdd).2] ∧
      Reports (fun _ => testAccount) [(step (fun _ => testAccount) newCloudCommon testAdd).2] ∧
      (step (fun _ => testAccount) newCloudCommon testAdd).1.getCloudAccountByName testAccount =
        some 0 ∧
      LifecycleLaw (fun _ => testAccount) (step (fun _ => testAccount) newCloudCommon testAdd).1
        [(step (fun _ => testAccount) newCloudCommon testAdd).2] :=
  have reports : Reports (fun _ : Nat => testAccount)
      [(step (fun _ => testAccount) newCloudCommon testAdd).2] := fun _ _ h => by
    cases List.mem_singleton.1 h; rfl
  ⟨.step _ .init, reports, rfl, accountRegistry_lifecycle (.step _ .init) reports⟩

/-! ## Account IDs -/

/-- The ID `namespace/name` of a slash-free key resolves to what the key resolves to. -/
theorem getCloudAccountByAccountId_string_eq (c : CloudCommon Config) {k : NamespacedName}
    (free : k.SlashFree) : c.getCloudAccountByAccountId k.string = c.getCloudAccountByName k := by
  simp [getCloudAccountByAccountId, NamespacedName.split_string free]

/-- An ID that resolves is `String()` of a registered key. -/
theorem exists_string_of_getCloudAccountByAccountId (c : CloudCommon Config) {s : GoString}
    (found : (c.getCloudAccountByAccountId s).isSome) :
    ∃ k ∈ c.accountConfigs, s = k.string := by
  have hjoin := Strings.intercalate_split s
  unfold getCloudAccountByAccountId at found
  split at found
  · rename_i ns name hsplit
    refine ⟨⟨ns, name⟩, AList.lookup_isSome.1 found, ?_⟩
    rw [hsplit] at hjoin
    rw [NamespacedName.string_eq_intercalate, hjoin]
  · simp at found

/-- Over a registry of slash-free keys, an account ID resolves exactly when it is
`NamespacedName.String()` of a registered key, and then to what that key resolves to. -/
theorem getCloudAccountByAccountId_string (c : CloudCommon Config)
    (free : ∀ k ∈ c.accountConfigs, k.SlashFree) (s : GoString) :
    ((c.getCloudAccountByAccountId s).isSome ↔ ∃ k ∈ c.accountConfigs, s = k.string) ∧
      ∀ k ∈ c.accountConfigs, s = k.string →
        c.getCloudAccountByAccountId s = c.getCloudAccountByName k := by
  refine ⟨⟨exists_string_of_getCloudAccountByAccountId c, ?_⟩, ?_⟩
  · rintro ⟨k, hk, rfl⟩
    rw [getCloudAccountByAccountId_string_eq c (free k hk)]
    exact AList.lookup_isSome.2 hk
  · rintro k hk rfl
    exact getCloudAccountByAccountId_string_eq c (free k hk)

/-- The registry of the plugin tests: the test account alone. -/
def testRegistry : CloudCommon Nat :=
  ⟨AList.singleton testAccount 0⟩

/-- The test registry resolves the test account's ID. -/
theorem getCloudAccountByAccountId_string_registry :
    (∀ k ∈ testRegistry.accountConfigs, k.SlashFree) ∧
      (((testRegistry.getCloudAccountByAccountId testAccount.string).isSome ↔
          ∃ k ∈ testRegistry.accountConfigs, testAccount.string = k.string) ∧
        ∀ k ∈ testRegistry.accountConfigs, testAccount.string = k.string →
          testRegistry.getCloudAccountByAccountId testAccount.string =
            testRegistry.getCloudAccountByName k) :=
  have free : ∀ k ∈ testRegistry.accountConfigs, k.SlashFree := by
    intro k hk
    rw [testRegistry, AList.mem_keys, AList.keys_singleton, List.mem_singleton] at hk
    subst hk
    decide
  ⟨free, getCloudAccountByAccountId_string _ free _⟩

/-! ## Calls on one account

The other calls of `cloudCommon` find the account with `GetCloudAccountByName` and act on its
config under the account's lock. For these calls a config is the account's state as a value: what
a call does to it is written back under the account's key, where Go's pointer leads. -/

/-- `GetCloudAccounts`: a copy of the registry. -/
def getCloudAccounts (c : CloudCommon Config) : GoMap NamespacedName Config :=
  c.accountConfigs

/-- The calls that change one account: when the account is registered, `op` runs on its config
and the call returns what `op` returns; otherwise the call fails with `notFound`. -/
def withAccountConfig (notFound : GoError) (op : Config → Config × Option GoError)
    (accountNamespacedName : NamespacedName) (c : CloudCommon Config) :
    CloudCommon Config × Option GoError :=
  match c.getCloudAccountByName accountNamespacedName with
  | none => (c, some notFound)
  | some accCfg =>
    let (accCfg, err) := op accCfg
    (⟨c.accountConfigs.insert accountNamespacedName accCfg⟩, err)

/-- `AddResourceFilters`: the account's service adds the selector. -/
def addResourceFilters {Selector : Type}
    (serviceAddResourceFilters : Config → Selector → Config × Option GoError)
    (accountNamespacedName : NamespacedName) (selector : Selector) (c : CloudCommon Config) :
    CloudCommon Config × Option GoError :=
  withAccountConfig "unable to find cloud account config".toList
    (serviceAddResourceFilters · selector) accountNamespacedName c

/-- `DoInventoryPoll`: `performInventorySync` of the account. -/
def doInventoryPoll (performInventorySync : Config → Config × Option GoError)
    (accountNamespacedName : NamespacedName) (c : CloudCommon Config) :
    CloudCommon Config × Option GoError :=
  withAccountConfig
    ("unable to find cloud account config: ".toList ++ accountNamespacedName.string)
    performInventorySync accountNamespacedName c

/-- `ResetInventoryCache`: `resetInventoryCache` of the account, which returns nothing. Unlike
`DoInventoryPoll`'s, its error text has no colon before the account. -/
def resetInventoryCache (resetCache : Config → Config) (accountNamespacedName : NamespacedName)
    (c : CloudCommon Config) : CloudCommon Config × Option GoError :=
  withAccountConfig
    ("unable to find cloud account config ".toList ++ accountNamespacedName.string)
    (fun accCfg => (resetCache accCfg, none)) accountNamespacedName c

/-- `RemoveResourceFilters`: the account's service removes the selector; an account that is not
registered is only logged. -/
def removeResourceFilters (serviceRemoveResourceFilters : Config → NamespacedName → Config)
    (accNamespacedName selectorNamespacedName : NamespacedName) (c : CloudCommon Config) :
    CloudCommon Config :=
  match c.getCloudAccountByName accNamespacedName with
  | none => c
  | some accCfg =>
    ⟨c.accountConfigs.insert accNamespacedName
      (serviceRemoveResourceFilters accCfg selectorNamespacedName)⟩

/-- The calls that read one account: `read` of its config, or the error `notFound`. -/
def readAccountConfig {α : Type} (notFound : GoError) (read : Config → α)
    (accountNamespacedName : NamespacedName) (c : CloudCommon Config) : Except GoError α :=
  match c.getCloudAccountByName accountNamespacedName with
  | none => .error notFound
  | some accCfg => .ok (read accCfg)

/-- `GetStatus`: the status of the account's config. -/
def getStatus {Status : Type} (getAccountStatus : Config → Status)
    (accountNamespacedName : NamespacedName) (c : CloudCommon Config) : Except GoError Status :=
  readAccountConfig
    ("unable to find cloud account config: ".toList ++ accountNamespacedName.string)
    getAccountStatus accountNamespacedName c

/-- `GetCloudInventory`: the inventory of the account's service. -/
def getCloudInventory {Inventory : Type} (getServiceInventory : Config → Inventory)
    (accountNamespacedName : NamespacedName) (c : CloudCommon Config) :
    Except GoError Inventory :=
  readAccountConfig "unable to find cloud account config".toList getServiceInventory
    accountNamespacedName c

section WithAccountConfig

variable {notFound : GoError} {op : Config → Config × Option GoError} {k : NamespacedName}
  {c : CloudCommon Config}

theorem withAccountConfig_of_none (h : c.getCloudAccountByName k = none) :
    withAccountConfig notFound op k c = (c, some notFound) := by
  simp only [withAccountConfig, h]

theorem withAccountConfig_of_some {accCfg : Config} (h : c.getCloudAccountByName k = some accCfg) :
    withAccountConfig notFound op k c =
      (⟨c.accountConfigs.insert k (op accCfg).1⟩, (op accCfg).2) := by
  simp only [withAccountConfig, h]

/-- A call on one account leaves every other account's config as it was. -/
theorem withAccountConfig_lookup_ne {k' : NamespacedName} (hk : k' ≠ k) :
    (withAccountConfig notFound op k c).1.accountConfigs.lookup k' = c.accountConfigs.lookup k' := by
  rcases h : c.getCloudAccountByName k with _ | accCfg
  · rw [withAccountConfig_of_none h]
  · rw [withAccountConfig_of_some h]
    exact AList.lookup_insert_ne hk

/-- A call on one account registers no account and removes none. -/
theorem mem_withAccountConfig (k' : NamespacedName) :
    k' ∈ (withAccountConfig notFound op k c).1.accountConfigs ↔ k' ∈ c.accountConfigs := by
  rcases h : c.getCloudAccountByName k with _ | accCfg
  · rw [withAccountConfig_of_none h]
  · have hk : k ∈ c.accountConfigs := AList.lookup_isSome.1 (Option.isSome_iff_exists.2 ⟨_, h⟩)
    rw [withAccountConfig_of_some h, AList.mem_insert]
    exact ⟨fun h' => h'.elim (· ▸ hk) id, .inr⟩

/-- A failing call of the family writes to its account what the operation writes when it fails
with that error, and leaves every other account as it was. -/
theorem withAccountConfig_error {err : GoError} (onError : Config → Config)
    (writes : ∀ accCfg, (op accCfg).2 = some err → (op accCfg).1 = onError accCfg)
    (failed : (withAccountConfig notFound op k c).2 = some err) (k' : NamespacedName) :
    (withAccountConfig notFound op k c).1.accountConfigs.lookup k' =
      (c.accountConfigs.lookup k').map fun accCfg => if k' = k then onError accCfg else accCfg := by
  by_cases hk : k' = k
  · subst hk
    rcases h : c.accountConfigs.lookup k' with _ | accCfg
    · simp [withAccountConfig_of_none h, h]
    · rw [withAccountConfig_of_some h] at failed ⊢
      simp [h, writes accCfg failed]
  · simp [withAccountConfig_lookup_ne hk, hk]

/-- A call of the family whose operation gives the same answer when repeated on its own result
gives the same answer when repeated. -/
theorem withAccountConfig_withAccountConfig (idem : ∀ accCfg, op (op accCfg).1 = op accCfg) :
    withAccountConfig notFound op k (withAccountConfig notFound op k c).1 =
      withAccountConfig notFound op k c := by
  rcases h : c.getCloudAccountByName k with _ | accCfg
  · rw [withAccountConfig_of_none h, withAccountConfig_of_none h]
  · have h' : (withAccountConfig notFound op k c).1.getCloudAccountByName k = some (op accCfg).1 := by
      simp [withAccountConfig_of_some h, getCloudAccountByName]
    rw [withAccountConfig_of_some h', idem, withAccountConfig_of_some h, AList.insert_insert]

/-- `RemoveResourceFilters` does to the registry what a call of the family does, and returns no
error. -/
theorem removeResourceFilters_eq (serviceRemoveResourceFilters : Config → NamespacedName → Config)
    (selectorNamespacedName : NamespacedName) (notFound : GoError) :
    removeResourceFilters serviceRemoveResourceFilters k selectorNamespacedName c =
      (withAccountConfig notFound
        (fun accCfg => (serviceRemoveResourceFilters accCfg selectorNamespacedName, none)) k c).1 := by
  rcases h : c.getCloudAccountByName k with _ | accCfg <;>
    simp only [removeResourceFilters, withAccountConfig, h]

end WithAccountConfig

end CloudCommon

end Nephe
