import Mathlib.Data.List.Infix
import RunEngine.KeysFromQueue

/-! The producer's `SCAN` patterns, matched as Redis matches a key against a `MATCH` glob:
`stringmatchlen` over the key's bytes. The patterns put the prefix in unescaped, and their
stars also cover keys of other constructors: queues named like the shared queue, and task
counters whose identifier spells a queue's sections. -/

namespace RunEngine.Keys

def sharedQueueScanPattern (keyPrefix : String) : String := keyPrefix ++ "*" ++ sharedQueue

def queueCurrentConcurrencyScanPattern (keyPrefix : String) : String :=
  keyPrefix ++ orgPart ++ ":*:" ++ projectPart ++ ":*:" ++ envTypePart ++ ":*:" ++ envPart ++
    ":*:" ++ queuePart ++ ":*:" ++ currentConcurrencyPart

/-- A key or pattern as Redis holds it: its UTF-8 bytes. -/
def utf8 (text : String) : List UInt8 := text.data.flatMap String.utf8EncodeChar

/-- A byte as C's signed `char`, the type `stringmatchlen` compares range bounds in. -/
def signedChar (b : UInt8) : Int := if b.toNat < 128 then b.toNat else b.toNat - 256

def inRange (first last b : UInt8) : Bool :=
  decide (min (signedChar first) (signedChar last) ≤ signedChar b ∧
    signedChar b ≤ max (signedChar first) (signedChar last))

/-- Modelled from Redis's `stringmatchlen`, case-sensitive as `SCAN ... MATCH` calls it: the
loop over the pattern with `*` (42), `?` (63), `[` (91) classes with `^` (94), ranges `-` (45)
and `]` (93), and `\` (92) escapes. `inClass` is `some (negated, found)` while a class is read
against the key's next byte. -/
def globMatch : Option (Bool × Bool) → List UInt8 → List UInt8 → Bool
  | none, [], key => key.isEmpty
  | none, 42 :: pattern, key => key.tails.any (globMatch none pattern)
  | none, _ :: _, [] => false
  | none, 63 :: pattern, _ :: key => globMatch none pattern key
  | none, 91 :: 94 :: pattern, key => globMatch (some (true, false)) pattern key
  | none, 91 :: pattern, key => globMatch (some (false, false)) pattern key
  | none, 92 :: b :: pattern, k :: key => b == k && globMatch none pattern key
  | none, b :: pattern, k :: key => b == k && globMatch none pattern key
  | some _, _, [] => false
  | some (negated, found), [], _ :: key => found != negated && key.isEmpty
  | some (negated, found), 92 :: b :: pattern, k :: key =>
    globMatch (some (negated, found || b == k)) pattern (k :: key)
  | some (negated, found), 93 :: pattern, _ :: key =>
    found != negated && globMatch none pattern key
  | some (negated, found), first :: 45 :: last :: pattern, k :: key =>
    globMatch (some (negated, found || inRange first last k)) pattern (k :: key)
  | some (negated, found), b :: pattern, k :: key =>
    globMatch (some (negated, found || b == k)) pattern (k :: key)

/-- `stringmatchlen(pattern, key)`: its loop runs while both are non-empty, so an empty key
matches the empty pattern only. -/
def stringMatch (pattern key : List UInt8) : Bool :=
  if key.isEmpty then pattern.isEmpty else globMatch none pattern key

/-- Whether `SCAN` with `MATCH pattern` returns the key. -/
def keyMatches (pattern key : String) : Bool := stringMatch (utf8 pattern) (utf8 key)

example : keyMatches "org:[a-c]?:*" "org:b1:queue" = true := by decide
example : keyMatches "*" "" = false := by decide

/-! ## Literal runs and stars -/

/-- Bytes without a meaning in a glob: no `*`, `?`, `[` or `\`. -/
def GlobLiteral (bytes : List UInt8) : Prop := ∀ b ∈ bytes, b ≠ 42 ∧ b ≠ 63 ∧ b ≠ 91 ∧ b ≠ 92

instance (bytes : List UInt8) : Decidable (GlobLiteral bytes) :=
  inferInstanceAs (Decidable (∀ b ∈ bytes, _))

theorem utf8_append (first second : String) : utf8 (first ++ second) = utf8 first ++ utf8 second := by
  simp [utf8, String.data_append, List.flatMap_append]

theorem globMatch_literal {run : List UInt8} (literal : GlobLiteral run) (pattern key : List UInt8) :
    globMatch none (run ++ pattern) (run ++ key) = globMatch none pattern key := by
  induction run with
  | nil => rfl
  | cons b run ih =>
    obtain ⟨star, any, opening, escape⟩ := literal b (List.mem_cons_self _ _)
    rw [List.cons_append, List.cons_append, globMatch.eq_8 b _ b _ star any
      (fun _ same => absurd same opening) opening (fun _ _ same => absurd same escape),
      beq_self_eq_true, Bool.true_and]
    exact ih fun c member => literal c (List.mem_cons_of_mem _ member)

theorem globMatch_star_of_suffix {pattern key : List UInt8} (skip : List UInt8)
    (matched : globMatch none pattern key = true) :
    globMatch none (42 :: pattern) (skip ++ key) = true := by
  rw [globMatch.eq_2]
  exact List.any_eq_true.mpr ⟨key, (List.mem_tails _ _).mpr (List.suffix_append _ _), matched⟩

theorem globMatch_self {run : List UInt8} (literal : GlobLiteral run) :
    globMatch none run run = true := by
  simpa using globMatch_literal literal [] []

theorem globMatch_literal_star {run : List UInt8} (literal : GlobLiteral run)
    (skip : List UInt8) {pattern key : List UInt8} (matched : globMatch none pattern key = true) :
    globMatch none (run ++ 42 :: pattern) (run ++ (skip ++ key)) = true := by
  rw [globMatch_literal literal]
  exact globMatch_star_of_suffix skip matched

theorem keyMatches_of_globMatch {pattern key : String} (filled : utf8 key ≠ [])
    (matched : globMatch none (utf8 pattern) (utf8 key) = true) : keyMatches pattern key = true := by
  simpa [keyMatches, stringMatch, filled] using matched

theorem globMatch_section {part : String} (literal : GlobLiteral (utf8 part)) (skip : List UInt8)
    {pattern key : List UInt8} (matched : globMatch none pattern key = true) :
    globMatch none (utf8 part ++ (utf8 ":" ++ 42 :: pattern))
      (utf8 part ++ (utf8 ":" ++ (skip ++ key))) = true := by
  rw [globMatch_literal literal]
  exact globMatch_literal_star (by decide) skip matched

/-! ## The shared-queue pattern -/

theorem keyMatches_sharedQueueScanPattern {keyPrefix : String}
    (literal : GlobLiteral (utf8 keyPrefix)) (front : String) :
    keyMatches (sharedQueueScanPattern keyPrefix) (keyPrefix ++ (front ++ sharedQueue)) = true := by
  have shared : GlobLiteral (utf8 sharedQueue) := by decide
  have filled : utf8 sharedQueue ≠ [] := by decide
  refine keyMatches_of_globMatch ?_ ?_
  · rw [utf8_append, utf8_append]
    exact List.append_ne_nil_of_right_ne_nil _ (List.append_ne_nil_of_right_ne_nil _ filled)
  · rw [sharedQueueScanPattern, utf8_append, utf8_append, utf8_append, utf8_append,
      List.append_assoc, globMatch_literal literal]
    exact globMatch_star_of_suffix _ (globMatch_self shared)

theorem envSharedQueueKey_eq_append (env : AuthenticatedEnvironment) :
    ∃ front, envSharedQueueKey env = front ++ sharedQueue := by
  unfold envSharedQueueKey
  split
  · exact ⟨orgKeySection env.organizationId ++ ":" ++ projKeySection env.projectId ++ ":" ++
      envKeySection env.id ++ ":", by simp only [String.intercalate, String.intercalate.go]⟩
  · exact ⟨"", by simp [sharedQueueKey]⟩

theorem queueKey_eq_append (env : AuthenticatedEnvironment) (queue : String) :
    ∃ front, queueKey env queue none = front ++ queue :=
  ⟨orgKeySection env.organizationId ++ ":" ++ projKeySection env.projectId ++ ":" ++
      envTypeKeySection env.type ++ ":" ++ envKeySection env.id ++ ":" ++ queuePart ++ ":", by
    simp [queueKey, truthy, queueSection, String.intercalate, String.intercalate.go,
      String.append_assoc]⟩

theorem segments_queueKey_fifth {env : AuthenticatedEnvironment} (ids : EnvIds env)
    (queue : String) (concurrencyKey : Option String) :
    (segments (queueKey env queue concurrencyKey)).get? 4 = some envTypePart := by
  rw [segments_queueKey_parts ids]
  rfl

theorem queueKey_ne_envSharedQueueKey {env other : AuthenticatedEnvironment} (ids : EnvIds env)
    (otherIds : EnvIds other) (queue : String) (concurrencyKey : Option String) :
    queueKey env queue concurrencyKey ≠ envSharedQueueKey other := by
  intro same
  have fifth := segments_queueKey_fifth ids queue concurrencyKey
  rw [same] at fifth
  by_cases development : other.type = .DEVELOPMENT
  · rw [segments_envSharedQueueKey otherIds development] at fifth
    exact absurd fifth (by simp [envPart, envTypePart])
  · rw [envSharedQueueKey, if_neg development, sharedQueueKey,
      segments_of_colonFree (by decide)] at fifth
    exact absurd fifth (by simp)

/-- Every shared queue matches its pattern. -/
theorem keyMatches_envSharedQueueKey {keyPrefix : String} (literal : GlobLiteral (utf8 keyPrefix))
    (env : AuthenticatedEnvironment) :
    keyMatches (sharedQueueScanPattern keyPrefix) (keyPrefix ++ envSharedQueueKey env) = true := by
  obtain ⟨front, named⟩ := envSharedQueueKey_eq_append env
  rw [named]
  exact keyMatches_sharedQueueScanPattern literal front

theorem tenant_sharedQueue_matches :
    keyMatches (sharedQueueScanPattern "engine:") ("engine:" ++ envSharedQueueKey tenantEnvironment) =
      true :=
  keyMatches_envSharedQueueKey (by decide) tenantEnvironment

/-- But so does every queue whose name ends in `sharedQueue`, and none is a shared queue. -/
theorem keyMatches_queue_named_sharedQueue {keyPrefix : String}
    (literal : GlobLiteral (utf8 keyPrefix)) {env : AuthenticatedEnvironment} (ids : EnvIds env)
    (name : String) :
    keyMatches (sharedQueueScanPattern keyPrefix)
        (keyPrefix ++ queueKey env (name ++ sharedQueue) none) = true ∧
      ∀ other, EnvIds other → queueKey env (name ++ sharedQueue) none ≠ envSharedQueueKey other := by
  obtain ⟨front, named⟩ := queueKey_eq_append env (name ++ sharedQueue)
  refine ⟨?_, fun other otherIds => queueKey_ne_envSharedQueueKey ids otherIds _ _⟩
  rw [named, ← String.append_assoc front name sharedQueue]
  exact keyMatches_sharedQueueScanPattern literal (front ++ name)

/-! ## The queue counters' pattern -/

/-- The keys the queue counters' pattern describes: its literal sections with any text where
its stars are. -/
def queueCounterShape (orgId projectId envType envId queue : String) : String :=
  orgPart ++ ":" ++ orgId ++ ":" ++ projectPart ++ ":" ++ projectId ++ ":" ++ envTypePart ++ ":" ++
    envType ++ ":" ++ envPart ++ ":" ++ envId ++ ":" ++ queuePart ++ ":" ++ queue ++ ":" ++
    currentConcurrencyPart

theorem keyMatches_queueCounterShape {keyPrefix : String} (literal : GlobLiteral (utf8 keyPrefix))
    (orgId projectId envType envId queue : String) :
    keyMatches (queueCurrentConcurrencyScanPattern keyPrefix)
      (keyPrefix ++ queueCounterShape orgId projectId envType envId queue) = true := by
  have starred : utf8 ":*:" = utf8 ":" ++ 42 :: utf8 ":" := rfl
  have colon : GlobLiteral (utf8 ":") := by decide
  have filled : utf8 currentConcurrencyPart ≠ [] := by decide
  refine keyMatches_of_globMatch ?_ ?_
  · simp only [queueCounterShape, utf8_append]
    exact List.append_ne_nil_of_right_ne_nil _ (List.append_ne_nil_of_right_ne_nil _ filled)
  simp only [queueCurrentConcurrencyScanPattern, queueCounterShape, utf8_append, starred,
    List.append_assoc, List.cons_append]
  rw [globMatch_literal literal]
  refine globMatch_section (by decide) _ ?_
  iterate 4
    rw [globMatch_literal colon]
    refine globMatch_section (by decide) _ ?_
  exact globMatch_self (by decide)

theorem currentConcurrencyKey_eq_shape (env : AuthenticatedEnvironment) (queue : String)
    (concurrencyKey : Option String) :
    currentConcurrencyKey env queue concurrencyKey =
      queueCounterShape env.organizationId env.projectId (envTypeName env.type) env.id
        (queue ++ ((truthy concurrencyKey).map fun key =>
          ":" ++ concurrencyKeyPart ++ ":" ++ key).getD "") := by
  cases present : truthy concurrencyKey <;>
    simp [currentConcurrencyKey, queueKey, queueCounterShape, present, String.intercalate,
      String.intercalate.go, orgKeySection, projKeySection, envTypeKeySection, envKeySection,
      queueSection, concurrencyKeySection, String.append_assoc]

/-- Every queue counter matches its pattern. -/
theorem keyMatches_currentConcurrencyKey {keyPrefix : String}
    (literal : GlobLiteral (utf8 keyPrefix)) (env : AuthenticatedEnvironment) (queue : String)
    (concurrencyKey : Option String) :
    keyMatches (queueCurrentConcurrencyScanPattern keyPrefix)
      (keyPrefix ++ currentConcurrencyKey env queue concurrencyKey) = true := by
  rw [currentConcurrencyKey_eq_shape]
  exact keyMatches_queueCounterShape literal _ _ _ _ _

theorem tenant_counter_matches :
    keyMatches (queueCurrentConcurrencyScanPattern "engine:")
      ("engine:" ++ currentConcurrencyKey tenantEnvironment "emails" (some "tenant")) = true :=
  keyMatches_currentConcurrencyKey (by decide) tenantEnvironment "emails" (some "tenant")

/-- The task identifier of a task counter that spells a queue's sections. -/
def spellsQueueSections (front envType envId queue : String) : String :=
  front ++ ":" ++ envTypePart ++ ":" ++ envType ++ ":" ++ envPart ++ ":" ++ envId ++ ":" ++
    queuePart ++ ":" ++ queue

theorem currentTaskIdentifierKey_eq_shape (orgId projectId : String) {environmentId : String}
    (filled : environmentId ≠ "") (front envType envId queue : String) :
    currentTaskIdentifierKey orgId projectId (spellsQueueSections front envType envId queue)
        environmentId =
      queueCounterShape orgId (projectId ++ ":" ++ taskPart ++ ":" ++ front) envType envId
        (queue ++ ":" ++ envPart ++ ":" ++ environmentId) := by
  have present : truthy (some environmentId) = some environmentId := by simp [truthy, filled]
  have counted : truthy (some currentConcurrencyPart) = some currentConcurrencyPart := by decide
  simp only [currentTaskIdentifierKey, orgKeySection, projKeySection, taskIdentifierSection,
    envKeySection, present, Option.map_some', List.filterMap_cons, truthy_append_colon, counted,
    List.filterMap_nil]
  simp [String.intercalate, String.intercalate.go, queueCounterShape, spellsQueueSections,
    String.append_assoc]

theorem currentTaskIdentifierKey_ne_currentConcurrencyKey {orgId projectId environmentId : String}
    (orgFree : ColonFree orgId) (projectFree : ColonFree projectId) (envIdPart : IdPart environmentId)
    (taskIdentifier : String) {env : AuthenticatedEnvironment} (ids : EnvIds env) (queue : String)
    (concurrencyKey : Option String) :
    currentTaskIdentifierKey orgId projectId taskIdentifier environmentId ≠
      currentConcurrencyKey env queue concurrencyKey := by
  intro same
  have fifth : (segments (currentConcurrencyKey env queue concurrencyKey)).get? 4 =
      some envTypePart := by
    rw [currentConcurrencyKey, segments_intercalate, segments_queueKey_parts ids]
    rfl
  rw [← same, segments_currentTaskIdentifierKey orgFree projectFree envIdPart] at fifth
  exact absurd fifth (by simp [taskPart, envTypePart])

/-- A task counter whose identifier spells a queue's sections matches the queue counters'
pattern, and is no queue counter. -/
theorem keyMatches_task_counter {keyPrefix : String} (literal : GlobLiteral (utf8 keyPrefix))
    {orgId projectId environmentId : String} (orgFree : ColonFree orgId)
    (projectFree : ColonFree projectId) (envIdPart : IdPart environmentId)
    (front envType envId queue : String) :
    keyMatches (queueCurrentConcurrencyScanPattern keyPrefix) (keyPrefix ++
        currentTaskIdentifierKey orgId projectId (spellsQueueSections front envType envId queue)
          environmentId) = true ∧
      ∀ env otherQueue concurrencyKey, EnvIds env →
        currentTaskIdentifierKey orgId projectId (spellsQueueSections front envType envId queue)
          environmentId ≠ currentConcurrencyKey env otherQueue concurrencyKey := by
  refine ⟨?_, fun env otherQueue concurrencyKey ids =>
    currentTaskIdentifierKey_ne_currentConcurrencyKey orgFree projectFree envIdPart _ ids _ _⟩
  rw [currentTaskIdentifierKey_eq_shape orgId projectId envIdPart.1]
  exact keyMatches_queueCounterShape literal _ _ _ _ _

/-- Under the prefix `engine:`, a queue named `sharedQueue` is scanned as a shared queue, and a
task counter whose identifier spells a queue's sections as a queue counter; a prefix with a
glob class makes the shared-queue pattern miss the shared queue. -/
theorem scan_patterns_misclassify :
    (keyMatches (sharedQueueScanPattern "engine:")
        ("engine:" ++ queueKey tenantEnvironment sharedQueue none) = true ∧
      ∀ env, EnvIds env → queueKey tenantEnvironment sharedQueue none ≠
        envSharedQueueKey env) ∧
    (keyMatches (queueCurrentConcurrencyScanPattern "engine:") ("engine:" ++
        currentTaskIdentifierKey "org1" "proj1" (spellsQueueSections "x" "dev" "env2" "emails")
          "env1") = true ∧
      ∀ env queue concurrencyKey, EnvIds env →
        currentTaskIdentifierKey "org1" "proj1" (spellsQueueSections "x" "dev" "env2" "emails")
          "env1" ≠ currentConcurrencyKey env queue concurrencyKey) ∧
    keyMatches (sharedQueueScanPattern "q[1]:") ("q[1]:" ++ envSharedQueueKey tenantEnvironment) =
      false :=
  ⟨keyMatches_queue_named_sharedQueue (by decide) (by decide) "",
    keyMatches_task_counter (by decide) (by decide) (by decide) (by decide) _ _ _ _, by decide⟩

end RunEngine.Keys
