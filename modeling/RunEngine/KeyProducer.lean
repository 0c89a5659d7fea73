import Mathlib.Data.List.Basic
import Mathlib.Data.Option.Defs

/-! The run queue's key producer (`RunQueueShortKeyProducer`). Every key is a
`:`-joined path of named sections, and `decodeKey` reads the sections back. -/

namespace RunEngine.Keys

/-- Modelled from the spec: the schema's environment types are not under src/.
The producer only tells `DEVELOPMENT` apart from the deployed ones. -/
inductive RuntimeEnvironmentType where
  | PRODUCTION
  | STAGING
  | DEVELOPMENT
  | PREVIEW
  deriving DecidableEq, Repr

/-- The fields of `AuthenticatedEnvironment` that the producer reads. -/
structure AuthenticatedEnvironment where
  id : String
  organizationId : String
  projectId : String
  type : RuntimeEnvironmentType
  deriving DecidableEq, Repr

def sharedQueue : String := "sharedQueue"
def currentConcurrencyPart : String := "currentConcurrency"
def concurrencyLimitPart : String := "concurrency"
def envPart : String := "env"
def envTypePart : String := "envType"
def orgPart : String := "org"
def projectPart : String := "proj"
def queuePart : String := "queue"
def concurrencyKeyPart : String := "ck"
def taskPart : String := "task"
def messagePart : String := "message"

/-- JavaScript truthiness of an optional string: `undefined` and `""` are falsy. -/
def truthy (value : Option String) : Option String :=
  value.filter (· != "")

theorem mem_truthy {key : String} {value : Option String} :
    key ∈ truthy value ↔ value = some key ∧ key ≠ "" := by
  simp only [truthy, Option.mem_def, Option.filter_eq_some, bne_iff_ne, ne_eq]

def envKeySection (envId : String) : String := envPart ++ ":" ++ envId

def envTypeName (envType : RuntimeEnvironmentType) : String :=
  if envType = .DEVELOPMENT then "dev" else "deployed"

def envTypeKeySection (envType : RuntimeEnvironmentType) : String :=
  envTypePart ++ ":" ++ envTypeName envType

def projKeySection (projId : String) : String := projectPart ++ ":" ++ projId

def orgKeySection (orgId : String) : String := orgPart ++ ":" ++ orgId

def queueSection (queue : String) : String := queuePart ++ ":" ++ queue

def concurrencyKeySection (concurrencyKey : String) : String :=
  concurrencyKeyPart ++ ":" ++ concurrencyKey

def taskIdentifierSection (taskIdentifier : String) : String :=
  taskPart ++ ":" ++ taskIdentifier

def queueKey (env : AuthenticatedEnvironment) (queue : String) (concurrencyKey : Option String) :
    String :=
  String.intercalate ":"
    ([orgKeySection env.organizationId, projKeySection env.projectId, envTypeKeySection env.type,
      envKeySection env.id, queueSection queue] ++
      (truthy concurrencyKey).toList.map concurrencyKeySection)

def queueConcurrencyLimitKey (env : AuthenticatedEnvironment) (queue : String) : String :=
  String.intercalate ":" [queueKey env queue none, concurrencyLimitPart]

def envConcurrencyLimitKey (env : AuthenticatedEnvironment) : String :=
  String.intercalate ":" [envKeySection env.id, concurrencyLimitPart]

def sharedQueueKey : String := sharedQueue

def envSharedQueueKey (env : AuthenticatedEnvironment) : String :=
  if env.type = .DEVELOPMENT then
    String.intercalate ":"
      [orgKeySection env.organizationId, projKeySection env.projectId, envKeySection env.id,
        sharedQueue]
  else sharedQueueKey

/-- The `filter(Boolean)` drops the environment section when `environmentId` is empty. -/
def currentTaskIdentifierKey (orgId projectId taskIdentifier environmentId : String) : String :=
  String.intercalate ":"
    ([some (orgKeySection orgId), some (projKeySection projectId),
      some (taskIdentifierSection taskIdentifier), (truthy (some environmentId)).map envKeySection,
      some currentConcurrencyPart].filterMap truthy)

def currentConcurrencyKey (env : AuthenticatedEnvironment) (queue : String)
    (concurrencyKey : Option String) : String :=
  String.intercalate ":" [queueKey env queue concurrencyKey, currentConcurrencyPart]

def envCurrentConcurrencyKey (env : AuthenticatedEnvironment) : String :=
  String.intercalate ":" [envKeySection env.id, currentConcurrencyPart]

def messageKey (messageId : String) : String := messagePart ++ ":" ++ messageId

/-- `key.split(":")`: the text between separators, empty pieces included. -/
def segments (key : String) : List String :=
  (key.data.splitOn ':').map String.mk

/-- A piece of a key that holds no separator. -/
def ColonFree (part : String) : Prop := ':' ∉ part.data

instance : DecidablePred ColonFree := fun part => inferInstanceAs (Decidable (':' ∉ part.data))

private theorem splitOnP_append_sep (p : Char → Bool) {sep : Char} (separator : p sep = true)
    (xs ys : List Char) : (xs ++ sep :: ys).splitOnP p = xs.splitOnP p ++ ys.splitOnP p := by
  induction xs with
  | nil => simp [separator]
  | cons x xs ih =>
    by_cases split : p x
    · simp [split, ih]
    · obtain ⟨first, rest, pieces⟩ := List.exists_cons_of_ne_nil (List.splitOnP_ne_nil p xs)
      simp [split, ih, pieces]

theorem segments_append_colon (first second : String) :
    segments (first ++ ":" ++ second) = segments first ++ segments second := by
  have data : (first ++ ":" ++ second).data = first.data ++ ':' :: second.data := by
    simp only [String.data_append, List.append_assoc]; rfl
  simp only [segments, data, List.splitOn]
  rw [splitOnP_append_sep (fun c => c == ':') (beq_self_eq_true ':'), List.map_append]

theorem segments_of_colonFree {part : String} (free : ColonFree part) : segments part = [part] := by
  have single : part.data.splitOn ':' = [part.data] :=
    List.splitOnP_eq_single _ _ fun c member same => free (by rwa [← beq_iff_eq.mp same])
  simp [segments, single]

private theorem segments_intercalate_go (acc : String) (parts : List String) :
    segments (String.intercalate.go acc ":" parts) = segments acc ++ parts.flatMap segments := by
  induction parts generalizing acc with
  | nil => simp [String.intercalate.go]
  | cons part parts ih => simp [String.intercalate.go, ih, segments_append_colon]

theorem segments_intercalate (part : String) (parts : List String) :
    segments (String.intercalate ":" (part :: parts)) = segments part ++ parts.flatMap segments :=
  segments_intercalate_go part parts

theorem segments_section {tag value : String} (tagFree : ColonFree tag) (free : ColonFree value) :
    segments (tag ++ ":" ++ value) = [tag, value] := by
  rw [segments_append_colon, segments_of_colonFree tagFree, segments_of_colonFree free]; rfl

theorem segments_tags : ColonFree envPart ∧ ColonFree envTypePart ∧ ColonFree orgPart ∧
    ColonFree projectPart ∧ ColonFree queuePart ∧ ColonFree concurrencyKeyPart ∧
    ColonFree taskPart ∧ ColonFree messagePart ∧ ColonFree currentConcurrencyPart ∧
    ColonFree concurrencyLimitPart ∧ ColonFree sharedQueue := by decide

theorem envTypeName_colonFree (envType : RuntimeEnvironmentType) :
    ColonFree (envTypeName envType) := by
  unfold envTypeName; split <;> decide

/-- An id that fills one section of a key: non-empty and without a separator. -/
def IdPart (part : String) : Prop := part ≠ "" ∧ ColonFree part

instance : DecidablePred IdPart := fun part => inferInstanceAs (Decidable (part ≠ "" ∧ ColonFree part))

/-- The organization, project and environment ids of an environment are id parts. -/
def EnvIds (env : AuthenticatedEnvironment) : Prop :=
  IdPart env.organizationId ∧ IdPart env.projectId ∧ IdPart env.id

instance : DecidablePred EnvIds := fun env =>
  inferInstanceAs (Decidable (IdPart env.organizationId ∧ IdPart env.projectId ∧ IdPart env.id))

section Sections

variable {env : AuthenticatedEnvironment} (ids : EnvIds env)
include ids

theorem segments_queueKey {queue : String} (queueFree : ColonFree queue)
    (concurrencyKey : Option String) (keyFree : ∀ key ∈ truthy concurrencyKey, ColonFree key) :
    segments (queueKey env queue concurrencyKey) =
      [orgPart, env.organizationId, projectPart, env.projectId, envTypePart, envTypeName env.type,
        envPart, env.id, queuePart, queue] ++
        (truthy concurrencyKey).toList.flatMap fun key => [concurrencyKeyPart, key] := by
  have typeFree := envTypeName_colonFree env.type
  cases present : truthy concurrencyKey with
  | none =>
    simp [queueKey, present, segments_intercalate, orgKeySection, projKeySection, envKeySection,
      envTypeKeySection, queueSection, segments_section, segments_tags, ids.1.2, ids.2.1.2,
      ids.2.2.2, typeFree, queueFree]
  | some key =>
    simp [queueKey, present, segments_intercalate, orgKeySection, projKeySection, envKeySection,
      envTypeKeySection, queueSection, concurrencyKeySection, segments_section, segments_tags,
      ids.1.2, ids.2.1.2, ids.2.2.2, typeFree, queueFree, keyFree key (by simp [present])]

theorem segments_envKeys :
    segments (envConcurrencyLimitKey env) = [envPart, env.id, concurrencyLimitPart] ∧
      segments (envCurrentConcurrencyKey env) = [envPart, env.id, currentConcurrencyPart] := by
  simp [envConcurrencyLimitKey, envCurrentConcurrencyKey, envKeySection, segments_intercalate,
    segments_section, segments_tags, ids.2.2.2, segments_of_colonFree]

theorem segments_envSharedQueueKey (development : env.type = .DEVELOPMENT) :
    segments (envSharedQueueKey env) =
      [orgPart, env.organizationId, projectPart, env.projectId, envPart, env.id, sharedQueue] := by
  simp [envSharedQueueKey, development, orgKeySection, projKeySection, envKeySection,
    segments_intercalate, segments_section, segments_tags, ids.1.2, ids.2.1.2, ids.2.2.2,
    segments_of_colonFree]

end Sections

theorem truthy_append_colon (first second : String) :
    truthy (some (first ++ ":" ++ second)) = some (first ++ ":" ++ second) := by
  have filled : first ++ ":" ++ second ≠ "" := fun empty => by
    simpa using congrArg String.data empty
  simp [truthy, filled]

theorem segments_currentTaskIdentifierKey {orgId projectId environmentId : String}
    (orgFree : ColonFree orgId) (projectFree : ColonFree projectId) (envId : IdPart environmentId)
    (taskIdentifier : String) :
    segments (currentTaskIdentifierKey orgId projectId taskIdentifier environmentId) =
      [orgPart, orgId, projectPart, projectId, taskPart] ++ segments taskIdentifier ++
        [envPart, environmentId, currentConcurrencyPart] := by
  have present : truthy (some environmentId) = some environmentId := by simp [truthy, envId.1]
  simp [currentTaskIdentifierKey, present, truthy_append_colon, orgKeySection, projKeySection,
    envKeySection, taskIdentifierSection, segments_intercalate, segments_append_colon,
    segments_section, segments_tags, orgFree, projectFree, envId.2, segments_of_colonFree]
  rfl

theorem segments_messageKey {messageId : String} (free : ColonFree messageId) :
    segments (messageKey messageId) = [messagePart, messageId] :=
  segments_section segments_tags.2.2.2.2.2.2.2.1 free

/-- The inverse of `segments`: the pieces joined back with separators. -/
def joinSegments (pieces : List String) : String :=
  String.mk ([':'].intercalate (pieces.map String.data))

theorem joinSegments_segments (key : String) : joinSegments (segments key) = key := by
  have roundTrip : (String.data ∘ String.mk) = id := rfl
  simp [joinSegments, segments, roundTrip, List.intercalate_splitOn]

/-- The identifying arguments of one key constructor call: an environment by its id,
and a falsy concurrency key as none. -/
inductive KeyName where
  | queue (envId queue : String) (concurrencyKey : Option String)
  | queueConcurrencyLimit (envId queue : String)
  | currentConcurrency (envId queue : String) (concurrencyKey : Option String)
  | envConcurrencyLimit (envId : String)
  | envCurrentConcurrency (envId : String)
  | currentTaskIdentifier (orgId projectId taskIdentifier environmentId : String)
  | message (messageId : String)
  | envSharedQueue (envId : String)
  deriving DecidableEq, Repr

/-- The sections of a queue key after `envType:{t}`. -/
def decodeQueueSections : List String → Option KeyName
  | ["env", envId, "queue", queue] => some (.queue envId queue none)
  | ["env", envId, "queue", queue, "concurrency"] => some (.queueConcurrencyLimit envId queue)
  | ["env", envId, "queue", queue, "currentConcurrency"] =>
    some (.currentConcurrency envId queue none)
  | ["env", envId, "queue", queue, "ck", key] => some (.queue envId queue (some key))
  | ["env", envId, "queue", queue, "ck", key, "currentConcurrency"] =>
    some (.currentConcurrency envId queue (some key))
  | _ => none

/-- The sections of a task counter after `task`. The task identifier may hold
separators, so the environment is read from the end. -/
def decodeTaskSections (orgId projectId : String) (sections : List String) : Option KeyName :=
  match sections.reverse with
  | "currentConcurrency" :: envId :: "env" :: taskIdentifier =>
    some (.currentTaskIdentifier orgId projectId (joinSegments taskIdentifier.reverse) envId)
  | _ => none

def decodeKey (key : String) : Option KeyName :=
  match segments key with
  | ["env", envId, "concurrency"] => some (.envConcurrencyLimit envId)
  | ["env", envId, "currentConcurrency"] => some (.envCurrentConcurrency envId)
  | ["message", messageId] => some (.message messageId)
  | ["org", _, "proj", _, "env", envId, "sharedQueue"] => some (.envSharedQueue envId)
  | "org" :: _ :: "proj" :: _ :: "envType" :: _ :: sections => decodeQueueSections sections
  | "org" :: orgId :: "proj" :: projectId :: "task" :: sections =>
    decodeTaskSections orgId projectId sections
  | _ => none

/-- One call of a key constructor of the producer, with its arguments. -/
inductive KeyCall where
  | queueKey (env : AuthenticatedEnvironment) (queue : String) (concurrencyKey : Option String)
  | queueConcurrencyLimitKey (env : AuthenticatedEnvironment) (queue : String)
  | currentConcurrencyKey (env : AuthenticatedEnvironment) (queue : String)
      (concurrencyKey : Option String)
  | envConcurrencyLimitKey (env : AuthenticatedEnvironment)
  | envCurrentConcurrencyKey (env : AuthenticatedEnvironment)
  | currentTaskIdentifierKey (orgId projectId taskIdentifier environmentId : String)
  | messageKey (messageId : String)
  | envSharedQueueKey (env : AuthenticatedEnvironment)
  deriving DecidableEq, Repr

namespace KeyCall

def key : KeyCall → String
  | .queueKey env queue concurrencyKey => Keys.queueKey env queue concurrencyKey
  | .queueConcurrencyLimitKey env queue => Keys.queueConcurrencyLimitKey env queue
  | .currentConcurrencyKey env queue concurrencyKey =>
    Keys.currentConcurrencyKey env queue concurrencyKey
  | .envConcurrencyLimitKey env => Keys.envConcurrencyLimitKey env
  | .envCurrentConcurrencyKey env => Keys.envCurrentConcurrencyKey env
  | .currentTaskIdentifierKey orgId projectId taskIdentifier environmentId =>
    Keys.currentTaskIdentifierKey orgId projectId taskIdentifier environmentId
  | .messageKey messageId => Keys.messageKey messageId
  | .envSharedQueueKey env => Keys.envSharedQueueKey env

def name : KeyCall → KeyName
  | .queueKey env queue concurrencyKey => .queue env.id queue (truthy concurrencyKey)
  | .queueConcurrencyLimitKey env queue => .queueConcurrencyLimit env.id queue
  | .currentConcurrencyKey env queue concurrencyKey =>
    .currentConcurrency env.id queue (truthy concurrencyKey)
  | .envConcurrencyLimitKey env => .envConcurrencyLimit env.id
  | .envCurrentConcurrencyKey env => .envCurrentConcurrency env.id
  | .currentTaskIdentifierKey orgId projectId taskIdentifier environmentId =>
    .currentTaskIdentifier orgId projectId taskIdentifier environmentId
  | .messageKey messageId => .message messageId
  | .envSharedQueueKey env => .envSharedQueue env.id

/-- The calls whose keys can be read back: every id fills one section, and shared queue
keys are asked for development environments only. -/
def Assumed : KeyCall → Prop
  | .queueKey env _ _ | .queueConcurrencyLimitKey env _ | .currentConcurrencyKey env _ _
  | .envConcurrencyLimitKey env | .envCurrentConcurrencyKey env => EnvIds env
  | .currentTaskIdentifierKey orgId projectId _ environmentId =>
    IdPart orgId ∧ IdPart projectId ∧ IdPart environmentId
  | .messageKey messageId => IdPart messageId
  | .envSharedQueueKey env => EnvIds env ∧ env.type = .DEVELOPMENT

instance : DecidablePred Assumed
  | .queueKey env _ _ | .queueConcurrencyLimitKey env _ | .currentConcurrencyKey env _ _
  | .envConcurrencyLimitKey env | .envCurrentConcurrencyKey env =>
    inferInstanceAs (Decidable (EnvIds env))
  | .currentTaskIdentifierKey orgId projectId _ environmentId =>
    inferInstanceAs (Decidable (IdPart orgId ∧ IdPart projectId ∧ IdPart environmentId))
  | .messageKey messageId => inferInstanceAs (Decidable (IdPart messageId))
  | .envSharedQueueKey env => inferInstanceAs (Decidable (EnvIds env ∧ env.type = .DEVELOPMENT))

/-- Queue names and concurrency keys hold no separator. -/
def NamesColonFree : KeyCall → Prop
  | .queueKey _ queue concurrencyKey | .currentConcurrencyKey _ queue concurrencyKey =>
    ColonFree queue ∧ ∀ key ∈ concurrencyKey, ColonFree key
  | .queueConcurrencyLimitKey _ queue => ColonFree queue
  | _ => True

instance : DecidablePred NamesColonFree
  | .queueKey _ queue concurrencyKey | .currentConcurrencyKey _ queue concurrencyKey =>
    inferInstanceAs (Decidable (ColonFree queue ∧ ∀ key ∈ concurrencyKey, ColonFree key))
  | .queueConcurrencyLimitKey _ queue => inferInstanceAs (Decidable (ColonFree queue))
  | .envConcurrencyLimitKey _ | .envCurrentConcurrencyKey _ | .currentTaskIdentifierKey _ _ _ _
  | .messageKey _ | .envSharedQueueKey _ => isTrue trivial

end KeyCall

private theorem colonFree_truthy {concurrencyKey : Option String}
    (free : ∀ key ∈ concurrencyKey, ColonFree key) :
    ∀ key ∈ truthy concurrencyKey, ColonFree key :=
  fun key member => free key (mem_truthy.mp member).1

/-- Decoding a key gives back the identifying arguments of the call that built it. -/
theorem decodeKey_key {call : KeyCall} (assumed : call.Assumed) (free : call.NamesColonFree) :
    decodeKey call.key = some call.name := by
  cases call with
  | queueKey env queue concurrencyKey =>
    rw [KeyCall.key, KeyCall.name, decodeKey,
      segments_queueKey assumed free.1 concurrencyKey (colonFree_truthy free.2)]
    cases truthy concurrencyKey <;> rfl
  | queueConcurrencyLimitKey env queue =>
    rw [KeyCall.key, decodeKey, queueConcurrencyLimitKey, segments_intercalate,
      segments_queueKey assumed free none (by simp [truthy])]
    rfl
  | currentConcurrencyKey env queue concurrencyKey =>
    rw [KeyCall.key, KeyCall.name, decodeKey, currentConcurrencyKey, segments_intercalate,
      segments_queueKey assumed free.1 concurrencyKey (colonFree_truthy free.2)]
    cases truthy concurrencyKey <;> rfl
  | envConcurrencyLimitKey env =>
    rw [KeyCall.key, decodeKey, (segments_envKeys assumed).1]; rfl
  | envCurrentConcurrencyKey env =>
    rw [KeyCall.key, decodeKey, (segments_envKeys assumed).2]; rfl
  | currentTaskIdentifierKey orgId projectId taskIdentifier environmentId =>
    rw [KeyCall.key, decodeKey, segments_currentTaskIdentifierKey assumed.1.2 assumed.2.1.2
      assumed.2.2 taskIdentifier]
    show decodeTaskSections orgId projectId
      (segments taskIdentifier ++ [envPart, environmentId, currentConcurrencyPart]) = _
    rw [decodeTaskSections, List.reverse_append]
    show some (KeyName.currentTaskIdentifier orgId projectId
      (joinSegments (segments taskIdentifier).reverse.reverse) environmentId) = _
    rw [List.reverse_reverse, joinSegments_segments]
    rfl
  | messageKey messageId =>
    rw [KeyCall.key, decodeKey, segments_messageKey assumed.2]; rfl
  | envSharedQueueKey env =>
    rw [KeyCall.key, decodeKey, segments_envSharedQueueKey assumed.1 assumed.2]; rfl

theorem key_injective {first second : KeyCall} (firstAssumed : first.Assumed)
    (firstFree : first.NamesColonFree) (secondAssumed : second.Assumed)
    (secondFree : second.NamesColonFree) (same : first.key = second.key) :
    first.name = second.name := by
  have decoded := congrArg decodeKey same
  rwa [decodeKey_key firstAssumed firstFree, decodeKey_key secondAssumed secondFree,
    Option.some.injEq] at decoded

/-- An empty concurrency key names the same queue as none. -/
theorem queueKey_name_of_empty_concurrencyKey :
    (KeyCall.queueKey ⟨"env1", "org1", "proj1", .DEVELOPMENT⟩ "emails" (some "")).name =
      (KeyCall.queueKey ⟨"env1", "org1", "proj1", .DEVELOPMENT⟩ "emails" none).name :=
  key_injective (by decide) (by decide) (by decide) (by decide) (by decide)

/-- With a separator in a queue name, a queue key is another queue's limit key. -/
theorem keys_collide_on_queue_names :
    ¬ ∀ first second : KeyCall, first.Assumed → second.Assumed → first.key = second.key →
      first.name = second.name := fun injective => by
  have same := injective
    (.queueKey ⟨"env1", "org1", "proj1", .DEVELOPMENT⟩ "a:concurrency" none)
    (.queueConcurrencyLimitKey ⟨"env1", "org1", "proj1", .DEVELOPMENT⟩ "a")
    (by decide) (by decide) (by decide)
  simp [KeyCall.name] at same

end RunEngine.Keys
