import Nephe.Basic

/-!
# Credential resolution and credential comparison

Each cloud plugin turns the credentials part of a `CloudProviderAccount` into an account config.
`setAccountCredentials` reads the referenced Secret through the Kubernetes client, takes the
base64 text stored under the referenced key, decodes it, and unmarshals the JSON into the
provider's credential record; `compareAccountCredentials` decides whether a re-added account
changed its credentials.

The two plugins differ. The AWS `extractSecret` reads the key with an unchecked type assertion and
returns whatever the JSON held; the Azure one checks each step and rejects empty fields, and on any
failure the Azure `setAccountCredentials` still returns a config, with every credential field set
to `"default"`, alongside the error.

Base64 and JSON decoding are Go's standard library; `Codec` holds them, and every result here holds
for any decoders.

## Main definitions

* `Nephe.GoResult` — a Go call returns a value or panics
* `Nephe.Aws.setAccountCredentials`, `Nephe.Aws.compareAccountCredentials` — the AWS plugin
* `Nephe.Azure.setAccountCredentials`, `Nephe.Azure.compareAccountCredentials` — the Azure plugin

## Main results

* `Nephe.Aws.setAccountCredentials_missing_key` — the AWS plugin panics on a Secret without the
  referenced key
* `Nephe.Aws.setAccountCredentials_outcome` — the AWS plugin panics exactly when the Secret holds
  no string under the key, and accepts any JSON that unmarshals, empty fields included
* `Nephe.Azure.setAccountCredentials_resolves` — the Azure plugin never panics, and returns no
  error exactly when the decoded JSON gives all four fields a non-empty value
* `Nephe.Aws.compareAccountCredentials_eq_true`, `Nephe.Azure.compareAccountCredentials_eq_true` —
  the comparators report a change exactly when a stored field differs
-/

namespace Nephe

/-- How a Go call ends: it returns a value, or it panics. -/
inductive GoResult (α : Type)
  | ret (value : α)
  | panic
  deriving DecidableEq, Repr

/-- `SecretReference`: the Secret and the key in it that hold an account's credentials. -/
structure SecretReference where
  Name : GoString
  Namespace : GoString
  Key : GoString
  deriving DecidableEq, Repr

/-- A value of the `data` map of an unstructured Secret object: a string, or anything else. -/
inductive DataValue
  | string (s : GoString)
  | other
  deriving DecidableEq, Repr

/-- An unstructured Secret object, as credential resolution reads it: its `data` field, `none`
when the object has no `data` map. -/
structure Unstructured where
  data : Option (GoMap GoString DataValue)

/-- The Kubernetes client, as credential resolution uses it: `Get` of a Secret object. -/
structure Client where
  get : NamespacedName → Except GoError Unstructured

/-- `AwsAccountCredential`: the fields of the AWS credentials JSON. -/
structure AwsAccountCredential where
  AccessKeyID : GoString
  AccessKeySecret : GoString
  SessionToken : GoString
  RoleArn : GoString
  ExternalID : GoString
  deriving DecidableEq, Repr

/-- `AzureAccountCredential`: the fields of the Azure credentials JSON. -/
structure AzureAccountCredential where
  SubscriptionID : GoString
  ClientID : GoString
  TenantID : GoString
  ClientKey : GoString
  deriving DecidableEq, Repr

/-- The decoders of Go's standard library that credential resolution calls. `json.Unmarshal`
fills a zero record and returns its error; the record may be partly filled when it fails. -/
structure Codec where
  /-- `base64.StdEncoding.DecodeString`. -/
  decodeString : GoString → Except GoError GoString
  /-- `json.Unmarshal` into an `AwsAccountCredential`. -/
  unmarshalAws : GoString → AwsAccountCredential × Option GoError
  /-- `json.Unmarshal` into an `AzureAccountCredential`. -/
  unmarshalAzure : GoString → AzureAccountCredential × Option GoError

/-- The Secret `s` resolves to the record `cred`: the object has a `data` map, the referenced key
holds a string, the string decodes, and its JSON unmarshals to `cred` without error. -/
def SecretResolves {α : Type} (codec : Codec) (unmarshal : GoString → α × Option GoError)
    (client : Client) (s : SecretReference) (cred : α) : Prop :=
  ∃ data key decode, client.get ⟨s.Namespace, s.Name⟩ = .ok ⟨some data⟩ ∧
    data.lookup s.Key = some (.string key) ∧ codec.decodeString key = .ok decode ∧
    unmarshal decode = (cred, none)

/-- `internal.AccountCredentialsDefault`. -/
def accountCredentialsDefault : GoString :=
  "default".toList

namespace Aws

/-- `CloudProviderAccountAWSConfig`, the fields credential resolution reads. -/
structure CloudProviderAccountAWSConfig where
  Region : GoString
  Endpoint : GoString
  SecretRef : Option SecretReference

/-- `awsAccountConfig`. -/
structure AwsAccountConfig extends AwsAccountCredential where
  region : GoString
  endpoint : GoString
  deriving DecidableEq, Repr

variable (codec : Codec)

/-- The text of the AWS plugin's errors about a Secret: `<what>: <name>/<namespace>`. -/
def secretError (what : String) (s : SecretReference) : GoError :=
  (what ++ ": ").toList ++ s.Name ++ '/' :: s.Namespace

/-- The AWS `extractSecret`. `data[s.Key].(string)` is an unchecked type assertion: it panics
when the key is absent or holds no string. -/
def extractSecret (c : Client) (s : SecretReference) :
    GoResult (Except GoError AwsAccountCredential) :=
  match c.get ⟨s.Namespace, s.Name⟩ with
  | .error _ => .ret (.error (secretError "error fetching Secret" s))
  | .ok u =>
    match u.data with
    | none => .ret (.error (secretError "error missing Secret config data" s))
    | some data =>
      match data.lookup s.Key with
      | some (.string key) =>
        match codec.decodeString key with
        | .error _ => .ret (.error (secretError "error decoding Secret" s))
        | .ok decode =>
          match codec.unmarshalAws decode with
          | (_, some _) => .ret (.error (secretError "error unmarshalling credentials" s))
          | (cred, none) => .ret (.ok cred)
      | _ => .panic

/-- The AWS `setAccountCredentials`: the credentials of the Secret, with the trimmed region and
endpoint. A nil `SecretRef` is dereferenced by `extractSecret`. -/
def setAccountCredentials (client : Client) (credentials : CloudProviderAccountAWSConfig) :
    GoResult (Except GoError AwsAccountConfig) :=
  match credentials.SecretRef with
  | none => .panic
  | some secretRef =>
    match extractSecret codec client secretRef with
    | .panic => .panic
    | .ret (.error err) => .ret (.error err)
    | .ret (.ok accCred) =>
      .ret (.ok { accCred with
        region := Strings.trimSpace credentials.Region
        endpoint := Strings.trimSpace credentials.Endpoint })

/-- The AWS `compareAccountCredentials`: some field of the two configs differs. -/
def compareAccountCredentials (existing new : AwsAccountConfig) : Bool :=
  existing.AccessKeyID != new.AccessKeyID || existing.AccessKeySecret != new.AccessKeySecret ||
    existing.SessionToken != new.SessionToken || existing.RoleArn != new.RoleArn ||
    existing.ExternalID != new.ExternalID || existing.region != new.region ||
    existing.endpoint != new.endpoint

/-- A Secret whose `data` map lacks the referenced key makes the AWS plugin panic, whatever the
decoders. -/
theorem setAccountCredentials_missing_key (client : Client)
    (credentials : CloudProviderAccountAWSConfig) {secretRef : SecretReference}
    {data : GoMap GoString DataValue} (href : credentials.SecretRef = some secretRef)
    (hget : client.get ⟨secretRef.Namespace, secretRef.Name⟩ = .ok ⟨some data⟩)
    (hmissing : data.lookup secretRef.Key = none) :
    setAccountCredentials codec client credentials = .panic := by
  simp [setAccountCredentials, extractSecret, href, hget, hmissing]

/-- The AWS plugin accepts every Secret whose JSON unmarshals, whatever its fields hold, empty
ones included. -/
theorem setAccountCredentials_ok (client : Client) (credentials : CloudProviderAccountAWSConfig)
    {secretRef : SecretReference} {data : GoMap GoString DataValue} {key decode : GoString}
    {cred : AwsAccountCredential} (href : credentials.SecretRef = some secretRef)
    (hget : client.get ⟨secretRef.Namespace, secretRef.Name⟩ = .ok ⟨some data⟩)
    (hkey : data.lookup secretRef.Key = some (.string key))
    (hdecode : codec.decodeString key = .ok decode)
    (hjson : codec.unmarshalAws decode = (cred, none)) :
    setAccountCredentials codec client credentials =
      .ret (.ok { cred with
        region := Strings.trimSpace credentials.Region
        endpoint := Strings.trimSpace credentials.Endpoint }) := by
  simp [setAccountCredentials, extractSecret, href, hget, hkey, hdecode, hjson]

/-- The AWS account of the controller tests, its credentials in the Secret `namespace01/secret01`
under the key `credentials`. -/
def testAccountConfig : CloudProviderAccountAWSConfig :=
  ⟨"us-east-1".toList, [], some ⟨"secret01".toList, "namespace01".toList, "credentials".toList⟩⟩

/-- On the test account, a Secret object whose `data` map lacks the key `credentials` makes the
AWS plugin panic, whatever the decoders. -/
theorem setAccountCredentials_panics_without_key (codec : Codec) :
    setAccountCredentials codec ⟨fun _ => .ok ⟨some ∅⟩⟩ testAccountConfig = .panic :=
  setAccountCredentials_missing_key codec _ _ rfl rfl rfl

/-- **When the AWS plugin panics, and what it accepts.** For a config whose `SecretRef` names a
Secret the client returns with a `data` map, the AWS `setAccountCredentials` panics exactly when
the map holds no string under the referenced key; and when that string decodes and its JSON
unmarshals, it returns the record the JSON gave, whatever its fields hold, empty ones included. -/
theorem setAccountCredentials_outcome (client : Client)
    (credentials : CloudProviderAccountAWSConfig) {secretRef : SecretReference}
    {data : GoMap GoString DataValue} (href : credentials.SecretRef = some secretRef)
    (hget : client.get ⟨secretRef.Namespace, secretRef.Name⟩ = .ok ⟨some data⟩) :
    (setAccountCredentials codec client credentials = .panic ↔
        ∀ key, data.lookup secretRef.Key ≠ some (.string key)) ∧
      ∀ key decode cred, data.lookup secretRef.Key = some (.string key) →
        codec.decodeString key = .ok decode → codec.unmarshalAws decode = (cred, none) →
        setAccountCredentials codec client credentials =
          .ret (.ok { cred with
            region := Strings.trimSpace credentials.Region
            endpoint := Strings.trimSpace credentials.Endpoint }) := by
  refine ⟨⟨fun hpanic key hkey => ?_, fun hnone => ?_⟩, fun _ _ _ hkey hdecode hjson =>
    setAccountCredentials_ok codec client credentials href hget hkey hdecode hjson⟩
  · revert hpanic
    rcases hdecode : codec.decodeString key with _ | decode
    · simp [setAccountCredentials, extractSecret, href, hget, hkey, hdecode]
    · rcases hjson : codec.unmarshalAws decode with ⟨cred, _ | _⟩ <;>
        simp [setAccountCredentials, extractSecret, href, hget, hkey, hdecode, hjson]
  · rcases hkey : data.lookup secretRef.Key with _ | _ | _
    · exact setAccountCredentials_missing_key codec client credentials href hget hkey
    · exact absurd hkey (hnone _)
    · simp [setAccountCredentials, extractSecret, href, hget, hkey]

/-- Decoders under which every payload decodes to itself and every JSON unmarshals to the record
with all fields empty. -/
def emptyRecordCodec : Codec :=
  ⟨fun s => .ok s, fun _ => (⟨[], [], [], [], []⟩, none), fun _ => (⟨[], [], [], []⟩, none)⟩

/-- A client whose Secret holds `e30=`, the base64 text of an empty JSON object, under the key
`credentials`. -/
def emptyJsonClient : Client :=
  ⟨fun _ => .ok ⟨some (AList.singleton "credentials".toList (.string "e30=".toList))⟩⟩

/-- On the test account, a Secret whose JSON sets no field makes the AWS plugin neither panic nor
fail: it returns the record with every credential empty. -/
theorem setAccountCredentials_outcome_empty :
    testAccountConfig.SecretRef =
        some ⟨"secret01".toList, "namespace01".toList, "credentials".toList⟩ ∧
      setAccountCredentials emptyRecordCodec emptyJsonClient testAccountConfig ≠ .panic ∧
      setAccountCredentials emptyRecordCodec emptyJsonClient testAccountConfig =
        .ret (.ok ⟨⟨[], [], [], [], []⟩, "us-east-1".toList, []⟩) :=
  have href : testAccountConfig.SecretRef =
      some ⟨"secret01".toList, "namespace01".toList, "credentials".toList⟩ := rfl
  have outcome := setAccountCredentials_outcome emptyRecordCodec emptyJsonClient testAccountConfig
    href rfl
  ⟨href, fun h => outcome.1.1 h _ rfl, outcome.2 _ _ _ rfl rfl rfl⟩

/-- What a successful AWS resolution returns: the record the Secret decodes to, with the trimmed
region and endpoint. -/
theorem setAccountCredentials_eq_ok {client : Client} {credentials : CloudProviderAccountAWSConfig}
    {cfg : AwsAccountConfig} (h : setAccountCredentials codec client credentials = .ret (.ok cfg)) :
    (∃ secretRef, credentials.SecretRef = some secretRef ∧
      SecretResolves codec codec.unmarshalAws client secretRef cfg.toAwsAccountCredential) ∧
      cfg.region = Strings.trimSpace credentials.Region ∧
      cfg.endpoint = Strings.trimSpace credentials.Endpoint := by
  unfold setAccountCredentials at h
  rcases href : credentials.SecretRef with _ | secretRef
  · simp [href] at h
  simp only [href, extractSecret] at h
  rcases hget : client.get ⟨secretRef.Namespace, secretRef.Name⟩ with _ | ⟨_ | data⟩
  · simp [hget] at h
  · simp [hget] at h
  rcases hkey : data.lookup secretRef.Key with _ | _ | _
  · simp [hget, hkey] at h
  · rename_i key
    rcases hdecode : codec.decodeString key with _ | decode
    · simp [hget, hkey, hdecode] at h
    rcases hjson : codec.unmarshalAws decode with ⟨cred, _ | _⟩
    · simp only [hget, hkey, hdecode, hjson, GoResult.ret.injEq, Except.ok.injEq] at h
      subst h
      exact ⟨⟨secretRef, rfl, data, key, decode, hget, hkey, hdecode, hjson⟩, rfl, rfl⟩
    · simp [hget, hkey, hdecode, hjson] at h
  · simp [hget, hkey] at h

/-- The AWS comparator reports a change exactly when a stored field differs. -/
theorem compareAccountCredentials_eq_true (existing new : AwsAccountConfig) :
    compareAccountCredentials existing new = true ↔
      existing.toAwsAccountCredential ≠ new.toAwsAccountCredential ∨
        existing.region ≠ new.region ∨ existing.endpoint ≠ new.endpoint := by
  rcases existing with ⟨⟨_, _, _, _, _⟩, _, _⟩
  rcases new with ⟨⟨_, _, _, _, _⟩, _, _⟩
  simp only [compareAccountCredentials, Bool.or_eq_true, bne_iff_ne, ne_eq,
    AwsAccountCredential.mk.injEq, not_and_or, or_assoc]

end Aws

namespace Azure

/-- `CloudProviderAccountAzureConfig`, the fields credential resolution reads. -/
structure CloudProviderAccountAzureConfig where
  Region : List GoString
  SecretRef : Option SecretReference

/-- `azureAccountConfig`. -/
structure AzureAccountConfig extends AzureAccountCredential where
  region : GoString
  deriving DecidableEq, Repr

variable (codec : Codec) (ErrorMsgSecretReference : GoString)

/-- The text of the Azure plugin's errors about a Secret:
`<ErrorMsgSecretReference>, <what>: <namespace>/<name>`, where `ErrorMsgSecretReference` is the
constant `util.ErrorMsgSecretReference`. -/
def secretError (what : String) (s : SecretReference) : GoError :=
  ErrorMsgSecretReference ++ (", " ++ what ++ ": ").toList ++ s.Namespace ++ '/' :: s.Name

/-- Some credential field is empty. -/
def AzureAccountCredential.anyEmpty (cred : AzureAccountCredential) : Bool :=
  cred.SubscriptionID.isEmpty || cred.TenantID.isEmpty || cred.ClientID.isEmpty ||
    cred.ClientKey.isEmpty

/-- The Azure `extractSecret`: the credential record and the error, every step checked. -/
def extractSecret (c : Client) (s : SecretReference) : AzureAccountCredential × Option GoError :=
  let cred : AzureAccountCredential := ⟨[], [], [], []⟩
  let fail (what : String) := some (secretError ErrorMsgSecretReference what s)
  match c.get ⟨s.Namespace, s.Name⟩ with
  | .error _ => (cred, fail "failed to get Secret object")
  | .ok u =>
    match u.data with
    | none => (cred, fail "failed to get Secret data")
    | some data =>
      match data.lookup s.Key with
      | some (.string key) =>
        match codec.decodeString key with
        | .error _ => (cred, fail "failed to decode Secret key")
        | .ok decode =>
          match codec.unmarshalAzure decode with
          | (cred, some _) => (cred, fail "failed to unmarshall Secret credentials")
          | (cred, none) =>
            if AzureAccountCredential.anyEmpty cred then
              (cred, fail "Secret credentials cannot be empty")
            else (cred, none)
      | _ => (cred, some (secretError ErrorMsgSecretReference "failed to get Secret key" s ++
          ", key: ".toList ++ s.Key))

/-- The Azure `setAccountCredentials`: the region is `Region[0]`, trimmed; when the Secret does not
resolve, every credential field is `"default"` and the error is returned with the config. -/
def setAccountCredentials (client : Client) (credentials : CloudProviderAccountAzureConfig) :
    GoResult (AzureAccountConfig × Option GoError) :=
  match credentials.Region with
  | [] => .panic
  | region :: _ =>
    match credentials.SecretRef with
    | none => .panic
    | some secretRef =>
      let (accCred, err) := extractSecret codec ErrorMsgSecretReference client secretRef
      let accCred := if err.isSome then
          ⟨accountCredentialsDefault, accountCredentialsDefault, accountCredentialsDefault,
            accountCredentialsDefault⟩
        else accCred
      .ret ({ accCred with region := Strings.trimSpace region }, err)

/-- The Azure `compareAccountCredentials`: some field of the two configs differs. -/
def compareAccountCredentials (existing new : AzureAccountConfig) : Bool :=
  existing.SubscriptionID != new.SubscriptionID || existing.ClientID != new.ClientID ||
    existing.TenantID != new.TenantID || existing.ClientKey != new.ClientKey ||
    existing.region != new.region

/-- The Azure account of the plugin tests, in `eastus`, its credentials in the Secret
`namespace01/secret01` under the key `credentials`. -/
def testAccountConfig : CloudProviderAccountAzureConfig :=
  ⟨["eastus".toList], some ⟨"secret01".toList, "namespace01".toList, "credentials".toList⟩⟩

/-- What a successful Azure resolution returns: the config's region is the trimmed first region. -/
theorem setAccountCredentials_eq_none {client : Client}
    {credentials : CloudProviderAccountAzureConfig} {cfg : AzureAccountConfig}
    (h : setAccountCredentials codec ErrorMsgSecretReference client credentials =
      .ret (cfg, none)) :
    ∃ region rest, credentials.Region = region :: rest ∧ cfg.region = Strings.trimSpace region := by
  unfold setAccountCredentials at h
  rcases hr : credentials.Region with _ | ⟨region, rest⟩
  · simp [hr] at h
  rcases href : credentials.SecretRef with _ | secretRef
  · simp [hr, href] at h
  rcases hext : extractSecret codec ErrorMsgSecretReference client secretRef with ⟨accCred, err⟩
  simp only [hr, href, hext, GoResult.ret.injEq, Prod.mk.injEq] at h
  exact ⟨region, rest, rfl, by rw [← h.1]⟩

/-- The Azure comparator reports a change exactly when a stored field differs. -/
theorem compareAccountCredentials_eq_true (existing new : AzureAccountConfig) :
    compareAccountCredentials existing new = true ↔
      existing.toAzureAccountCredential ≠ new.toAzureAccountCredential ∨
        existing.region ≠ new.region := by
  rcases existing with ⟨⟨_, _, _, _⟩, _⟩
  rcases new with ⟨⟨_, _, _, _⟩, _⟩
  simp only [compareAccountCredentials, Bool.or_eq_true, bne_iff_ne, ne_eq,
    AzureAccountCredential.mk.injEq, not_and_or, or_assoc]

end Azure

/-- Credential change detection, for two account configs whose Secrets resolve: each plugin's
comparator reports a change exactly when the credential records differ as decoded, untrimmed
(`Aws.setAccountCredentials_eq_ok`), or the trimmed region, and for AWS the trimmed endpoint,
differs. -/
theorem compareAccountCredentials_detects_change (codec : Codec)
    (ErrorMsgSecretReference : GoString) :
    (∀ client₁ client₂ credentials₁ credentials₂ cfg₁ cfg₂,
      Aws.setAccountCredentials codec client₁ credentials₁ = .ret (.ok cfg₁) →
      Aws.setAccountCredentials codec client₂ credentials₂ = .ret (.ok cfg₂) →
      (Aws.compareAccountCredentials cfg₁ cfg₂ = true ↔
        cfg₁.toAwsAccountCredential ≠ cfg₂.toAwsAccountCredential ∨
          Strings.trimSpace credentials₁.Region ≠ Strings.trimSpace credentials₂.Region ∨
          Strings.trimSpace credentials₁.Endpoint ≠ Strings.trimSpace credentials₂.Endpoint)) ∧
    ∀ client₁ client₂ credentials₁ credentials₂ cfg₁ cfg₂,
      Azure.setAccountCredentials codec ErrorMsgSecretReference client₁ credentials₁ =
        .ret (cfg₁, none) →
      Azure.setAccountCredentials codec ErrorMsgSecretReference client₂ credentials₂ =
        .ret (cfg₂, none) →
      (Azure.compareAccountCredentials cfg₁ cfg₂ = true ↔
        cfg₁.toAzureAccountCredential ≠ cfg₂.toAzureAccountCredential ∨
          credentials₁.Region.head?.map Strings.trimSpace ≠
            credentials₂.Region.head?.map Strings.trimSpace) := by
  refine ⟨fun _ _ _ _ _ _ h₁ h₂ => ?_, fun _ _ _ _ _ _ h₁ h₂ => ?_⟩
  · obtain ⟨-, hr₁, he₁⟩ := Aws.setAccountCredentials_eq_ok codec h₁
    obtain ⟨-, hr₂, he₂⟩ := Aws.setAccountCredentials_eq_ok codec h₂
    rw [Aws.compareAccountCredentials_eq_true, hr₁, hr₂, he₁, he₂]
  · obtain ⟨_, _, hl₁, hr₁⟩ := Azure.setAccountCredentials_eq_none codec _ h₁
    obtain ⟨_, _, hl₂, hr₂⟩ := Azure.setAccountCredentials_eq_none codec _ h₂
    rw [Azure.compareAccountCredentials_eq_true, hl₁, hl₂, hr₁, hr₂]
    simp

/-! ## The secret-watcher test

The controller test first stores `{"accessKeyId": "keyId","accessKeySecret": "keySecret"}` in the
Secret. The payloads below are that JSON, and the same with a space after the key ID, as the
Secret holds them: base64-encoded. -/

/-- The first credentials of the secret-watcher test, base64-encoded. -/
def watcherPayload : GoString :=
  "eyJhY2Nlc3NLZXlJZCI6ICJrZXlJZCIsImFjY2Vzc0tleVNlY3JldCI6ICJrZXlTZWNyZXQifQ==".toList

/-- The same credentials with a space after the access key ID, base64-encoded. -/
def watcherPayloadSpaced : GoString :=
  "eyJhY2Nlc3NLZXlJZCI6ICJrZXlJZCAiLCJhY2Nlc3NLZXlTZWNyZXQiOiAia2V5U2VjcmV0In0=".toList

/-- The AWS record a credentials JSON holds, with the given access key ID. -/
def watcherCredential (accessKeyID : GoString) : AwsAccountCredential :=
  ⟨accessKeyID, "keySecret".toList, [], [], []⟩

/-- Go's decoders on the two payloads: `base64.StdEncoding.DecodeString` turns them into the two
JSON texts, and `json.Unmarshal` turns those into the records with the key IDs `keyId` and
`keyId `. On other inputs this stand-in fails. -/
def watcherCodec : Codec where
  decodeString s :=
    if s = watcherPayload then .ok
      "\x7b\"accessKeyId\": \"keyId\",\"accessKeySecret\": \"keySecret\"\x7d".toList
    else if s = watcherPayloadSpaced then .ok
      "\x7b\"accessKeyId\": \"keyId \",\"accessKeySecret\": \"keySecret\"\x7d".toList
    else .error "illegal base64 data".toList
  unmarshalAws s :=
    if s = "\x7b\"accessKeyId\": \"keyId\",\"accessKeySecret\": \"keySecret\"\x7d".toList then
      (watcherCredential "keyId".toList, none)
    else if s = "\x7b\"accessKeyId\": \"keyId \",\"accessKeySecret\": \"keySecret\"\x7d".toList then
      (watcherCredential "keyId ".toList, none)
    else (⟨[], [], [], [], []⟩, some "invalid character".toList)
  unmarshalAzure _ := (⟨[], [], [], []⟩, some "invalid character".toList)

/-- A client whose Secret holds `payload` under the key `credentials`. -/
def secretClient (payload : GoString) : Client :=
  ⟨fun _ => .ok ⟨some (AList.singleton "credentials".toList (.string payload))⟩⟩

/-- Two Secrets of the test account whose credentials differ only by a trailing space in the
access key ID: the AWS comparator reports a change, though every field is equal once trimmed. -/
theorem compareAccountCredentials_trailing_space :
    ∃ cfg₁ cfg₂, Aws.setAccountCredentials watcherCodec (secretClient watcherPayload)
        Aws.testAccountConfig = .ret (.ok cfg₁) ∧
      Aws.setAccountCredentials watcherCodec (secretClient watcherPayloadSpaced)
        Aws.testAccountConfig = .ret (.ok cfg₂) ∧
      Aws.compareAccountCredentials cfg₁ cfg₂ = true ∧
      [cfg₁.AccessKeyID, cfg₁.AccessKeySecret, cfg₁.SessionToken, cfg₁.RoleArn, cfg₁.ExternalID,
          cfg₁.region, cfg₁.endpoint].map Strings.trimSpace =
        [cfg₂.AccessKeyID, cfg₂.AccessKeySecret, cfg₂.SessionToken, cfg₂.RoleArn, cfg₂.ExternalID,
          cfg₂.region, cfg₂.endpoint].map Strings.trimSpace :=
  ⟨_, _, rfl, rfl, by decide, by decide⟩

end Nephe
