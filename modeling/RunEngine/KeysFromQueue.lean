import RunEngine.KeyProducer

/-! The keys `RunQueueShortKeyProducer` derives from a queue key without rereading state. It
drops its prefix, splits the key on `:` and reads the parts by position, or cuts the
concurrency-key section off with the regular expression `/:ck:.+$/`. -/

namespace RunEngine.Keys

def disabledConcurrencyLimitPart : String := "disabledConcurrency"

/-- `stripKeyPrefix(key)`: the key without the producer's prefix, when it starts with it. -/
def stripKeyPrefix (keyPrefix key : String) : String :=
  if keyPrefix.data.isPrefixOf key.data then ⟨key.data.drop keyPrefix.length⟩ else key

/-- `normalizeQueue(queue)`, the same code as `stripKeyPrefix`. -/
def normalizeQueue (keyPrefix queue : String) : String := stripKeyPrefix keyPrefix queue

/-- What `extractComponentsFromQueue` returns: the parts at odd positions, `undefined` past
the end. -/
structure QueueComponents where
  orgId : Option String
  projectId : Option String
  envType : Option String
  envId : Option String
  queue : Option String
  concurrencyKey : Option String
  deriving DecidableEq, Repr

def extractComponentsFromQueue (keyPrefix queue : String) : QueueComponents :=
  let parts := segments (normalizeQueue keyPrefix queue)
  ⟨parts.get? 1, parts.get? 3, parts.get? 5, parts.get? 7, parts.get? 9, parts.get? 11⟩

/-- A value in a template literal: `undefined` is printed by name. -/
def templateText : Option String → String
  | some text => text
  | none => "undefined"

/-- The `*FromQueue` derivations of one component: a tag, the component read from the queue
key, and a last part. -/
def keyFromQueueComponent (tag : String) (component : QueueComponents → Option String)
    (last keyPrefix queue : String) : String :=
  tag ++ ":" ++ templateText (component (extractComponentsFromQueue keyPrefix queue)) ++ ":" ++
    last

def disabledConcurrencyLimitKeyFromQueue (keyPrefix queue : String) : String :=
  keyFromQueueComponent orgPart QueueComponents.orgId disabledConcurrencyLimitPart keyPrefix queue

def envConcurrencyLimitKeyFromQueue (keyPrefix queue : String) : String :=
  keyFromQueueComponent envPart QueueComponents.envId concurrencyLimitPart keyPrefix queue

def envCurrentConcurrencyKeyFromQueue (keyPrefix queue : String) : String :=
  keyFromQueueComponent envPart QueueComponents.envId currentConcurrencyPart keyPrefix queue

def currentConcurrencyKeyFromQueue (queue : String) : String :=
  queue ++ ":" ++ currentConcurrencyPart

/-- The characters `.` does not match in a JavaScript regular expression. -/
def isLineTerminator (c : Char) : Bool :=
  c == '\n' || c == '\r' || c == '\u2028' || c == '\u2029'

/-- Whether `/:ck:.+$/` matches at the start of the text: `:ck:`, then at least one
character and no line terminator up to the end. -/
def concurrencyKeyTail (text : List Char) : Bool :=
  [':', 'c', 'k', ':'].isPrefixOf text &&
    (!(text.drop 4).isEmpty && (text.drop 4).all fun c => !isLineTerminator c)

/-- `text.replace(/:ck:.+$/, "")`: the text before the leftmost match, or all of it. -/
def stripConcurrencyKeyTail : List Char → List Char
  | [] => []
  | c :: rest => if concurrencyKeyTail (c :: rest) then [] else c :: stripConcurrencyKeyTail rest

def concurrencyLimitKeyFromQueue (queue : String) : String :=
  ⟨stripConcurrencyKeyTail queue.data⟩ ++ ":" ++ concurrencyLimitPart

/-! ## Parts by position -/

theorem colonFree_of_mem_segments {key part : String} (member : part ∈ segments key) :
    ColonFree part := by
  have pieces : ∀ (text piece : List Char), piece ∈ text.splitOn ':' → ':' ∉ piece := by
    intro text
    induction text with
    | nil => simp
    | cons c text ih =>
      intro piece member
      rw [List.splitOn, List.splitOnP_cons] at member
      split at member
      · rcases List.mem_cons.mp member with rfl | later
        · exact List.not_mem_nil _
        · exact ih piece later
      · next other =>
        obtain ⟨first, rest, split⟩ := List.exists_cons_of_ne_nil (List.splitOnP_ne_nil
          (· == ':') text)
        rw [List.splitOn] at ih
        rw [split] at member ih
        rcases List.mem_cons.mp member with rfl | later
        · rintro (_ | ⟨_, inner⟩)
          · exact other (beq_self_eq_true ':')
          · exact ih first (List.mem_cons_self _ _) inner
        · exact ih piece (List.mem_cons_of_mem _ later)
  obtain ⟨piece, found, rfl⟩ := List.mem_map.mp member
  exact pieces key.data piece found

theorem segments_queueKey_parts {env : AuthenticatedEnvironment} (ids : EnvIds env)
    (queue : String) (concurrencyKey : Option String) :
    segments (queueKey env queue concurrencyKey) =
      [orgPart, env.organizationId, projectPart, env.projectId, envTypePart,
        envTypeName env.type, envPart, env.id, queuePart] ++ segments queue ++
        (truthy concurrencyKey).toList.flatMap fun key => concurrencyKeyPart :: segments key := by
  have typeFree := envTypeName_colonFree env.type
  cases present : truthy concurrencyKey <;>
    simp [queueKey, present, segments_intercalate, orgKeySection, projKeySection, envKeySection,
      envTypeKeySection, queueSection, concurrencyKeySection, segments_section,
      segments_append_colon, segments_of_colonFree, segments_tags, ids.1.2, ids.2.1.2,
      ids.2.2.2, typeFree]

private theorem intercalate_go_append (first second sep : String) (parts : List String) :
    String.intercalate.go (first ++ second) sep parts =
      first ++ String.intercalate.go second sep parts := by
  induction parts generalizing second with
  | nil => rfl
  | cons part parts ih => simp only [String.intercalate.go, String.append_assoc, ih]

theorem queueKey_eq_org (env : AuthenticatedEnvironment) (queue : String)
    (concurrencyKey : Option String) :
    ∃ rest, queueKey env queue concurrencyKey = orgPart ++ ":" ++ rest :=
  ⟨_, intercalate_go_append (orgPart ++ ":") env.organizationId ":" _⟩

theorem prefix_of_prefix_append_cons {keyPrefix front rest : List Char} {sep : Char}
    (free : sep ∉ keyPrefix) (pre : keyPrefix <+: front ++ sep :: rest) :
    keyPrefix <+: front := by
  induction front generalizing keyPrefix with
  | nil =>
    cases keyPrefix with
    | nil => exact List.nil_prefix
    | cons c keyPrefix =>
      obtain ⟨rfl, -⟩ := List.cons_prefix_cons.mp pre
      exact absurd (List.mem_cons_self _ _) free
  | cons c front ih =>
    cases keyPrefix with
    | nil => exact List.nil_prefix
    | cons d keyPrefix =>
      obtain ⟨rfl, later⟩ := List.cons_prefix_cons.mp pre
      exact List.cons_prefix_cons.mpr
        ⟨rfl, ih (fun member => free (List.mem_cons_of_mem _ member)) later⟩

theorem segments_normalizeQueue_colonFree {keyPrefix first rest : String}
    (free : ColonFree keyPrefix) (firstFree : ColonFree first)
    (pre : keyPrefix.data <+: (first ++ ":" ++ rest).data) :
    segments (normalizeQueue keyPrefix (first ++ ":" ++ rest)) =
      ⟨first.data.drop keyPrefix.length⟩ :: segments rest := by
  have data : (first ++ ":" ++ rest).data = first.data ++ ':' :: rest.data := by
    simp only [String.data_append, List.append_assoc]; rfl
  rw [data] at pre
  have short : keyPrefix.length ≤ first.data.length :=
    (prefix_of_prefix_append_cons free pre).length_le
  have dropped : ∀ c ∈ first.data.drop keyPrefix.length, ¬ (c == ':') = true := fun c member =>
    fun same => firstFree (beq_iff_eq.mp same ▸ List.mem_of_mem_drop member)
  simp only [normalizeQueue, stripKeyPrefix, data, List.isPrefixOf_iff_prefix.mpr pre, if_true,
    segments, List.splitOn]
  rw [List.drop_append_of_le_length short,
    List.splitOnP_first (· == ':') _ dropped ':' (beq_self_eq_true ':') rest.data]
  rfl

theorem normalizeQueue_prefixed (keyPrefix queue : String) :
    normalizeQueue keyPrefix (keyPrefix ++ queue) = queue := by
  simp only [normalizeQueue, stripKeyPrefix, String.data_append, List.isPrefixOf_iff_prefix,
    List.prefix_append, if_true]
  exact congrArg String.mk (List.drop_left _ _)

theorem segments_queueKey_ids {env : AuthenticatedEnvironment} (ids : EnvIds env)
    (queue : String) (concurrencyKey : Option String) :
    (segments (queueKey env queue concurrencyKey)).get? 1 = some env.organizationId ∧
      (segments (queueKey env queue concurrencyKey)).get? 7 = some env.id := by
  rw [segments_queueKey_parts ids]
  exact ⟨rfl, rfl⟩

/-- The keys the three environment and organization derivations give for an environment. -/
def DerivesEnvKeys (keyPrefix queue : String) (env : AuthenticatedEnvironment) : Prop :=
  envConcurrencyLimitKeyFromQueue keyPrefix queue = envConcurrencyLimitKey env ∧
    envCurrentConcurrencyKeyFromQueue keyPrefix queue = envCurrentConcurrencyKey env ∧
    disabledConcurrencyLimitKeyFromQueue keyPrefix queue =
      orgPart ++ ":" ++ env.organizationId ++ ":" ++ disabledConcurrencyLimitPart

instance (keyPrefix queue : String) (env : AuthenticatedEnvironment) :
    Decidable (DerivesEnvKeys keyPrefix queue env) :=
  inferInstanceAs (Decidable (_ ∧ _ ∧ _))

theorem keyFromQueueComponent_of_eq {tag last keyPrefix queue value : String}
    {component : QueueComponents → Option String}
    (read : component (extractComponentsFromQueue keyPrefix queue) = some value) :
    keyFromQueueComponent tag component last keyPrefix queue = tag ++ ":" ++ value ++ ":" ++ last := by
  simp only [keyFromQueueComponent, read, templateText]

theorem derivesEnvKeys_of_parts {keyPrefix queue : String} {env : AuthenticatedEnvironment}
    (org : (segments (normalizeQueue keyPrefix queue)).get? 1 = some env.organizationId)
    (envId : (segments (normalizeQueue keyPrefix queue)).get? 7 = some env.id) :
    DerivesEnvKeys keyPrefix queue env :=
  ⟨keyFromQueueComponent_of_eq envId, keyFromQueueComponent_of_eq envId,
    keyFromQueueComponent_of_eq org⟩

/-! ## The concurrency-key cut -/

theorem stripConcurrencyKeyTail_cons_of_not {c : Char} {rest : List Char}
    (kept : concurrencyKeyTail (c :: rest) = false) :
    stripConcurrencyKeyTail (c :: rest) = c :: stripConcurrencyKeyTail rest := by
  simp [stripConcurrencyKeyTail, kept]

theorem stripConcurrencyKeyTail_colonFree_append {front : List Char} (free : ':' ∉ front)
    (rest : List Char) :
    stripConcurrencyKeyTail (front ++ rest) = front ++ stripConcurrencyKeyTail rest := by
  induction front with
  | nil => rfl
  | cons c front ih =>
    have other : c ≠ ':' := fun same => free (same ▸ List.mem_cons_self _ _)
    rw [List.cons_append, stripConcurrencyKeyTail_cons_of_not
      (by simp [concurrencyKeyTail, List.isPrefixOf, Ne.symm other]),
      ih (fun member => free (List.mem_cons_of_mem _ member)), List.cons_append]

theorem stripConcurrencyKeyTail_part {part : List Char} (free : ':' ∉ part)
    (notCk : part ≠ ['c', 'k']) {rest : List Char} (next : rest = [] ∨ rest.head? = some ':') :
    stripConcurrencyKeyTail (':' :: (part ++ rest)) =
      ':' :: (part ++ stripConcurrencyKeyTail rest) := by
  have kept : concurrencyKeyTail (':' :: (part ++ rest)) = false := by
    rcases next with rfl | next
    · rcases part with _ | ⟨a, _ | ⟨b, _ | ⟨d, tail⟩⟩⟩
      all_goals simp_all [concurrencyKeyTail, List.isPrefixOf]
    · obtain ⟨r, rfl⟩ : ∃ r, rest = ':' :: r := by
        cases rest with
        | nil => cases next
        | cons c r => cases next; exact ⟨r, rfl⟩
      rcases part with _ | ⟨a, _ | ⟨b, _ | ⟨d, tail⟩⟩⟩
      all_goals simp_all [concurrencyKeyTail, List.isPrefixOf]
      rintro rfl rfl
      exact absurd rfl (notCk rfl)
  rw [stripConcurrencyKeyTail_cons_of_not kept, stripConcurrencyKeyTail_colonFree_append free]

theorem stripConcurrencyKeyTail_parts {parts : List String}
    (plain : ∀ part ∈ parts, ColonFree part ∧ part ≠ concurrencyKeyPart)
    {rest : List Char} (next : rest = [] ∨ rest.head? = some ':') :
    stripConcurrencyKeyTail ((parts.map String.data).flatMap (':' :: ·) ++ rest) =
      (parts.map String.data).flatMap (':' :: ·) ++ stripConcurrencyKeyTail rest := by
  induction parts with
  | nil => rfl
  | cons part parts ih =>
    have following : (parts.map String.data).flatMap (':' :: ·) ++ rest = [] ∨
        ((parts.map String.data).flatMap (':' :: ·) ++ rest).head? = some ':' := by
      cases parts with
      | nil => exact next
      | cons => exact .inr rfl
    obtain ⟨free, notCk⟩ := plain part (List.mem_cons_self _ _)
    simp only [List.map_cons, List.flatMap_cons, List.cons_append, List.append_assoc]
    rw [stripConcurrencyKeyTail_part free (fun same => notCk (String.ext same)) following,
      ih fun part member => plain part (List.mem_cons_of_mem _ member)]

theorem intercalate_colon (first : List Char) (parts : List (List Char)) :
    [':'].intercalate (first :: parts) = first ++ parts.flatMap (':' :: ·) := by
  induction parts generalizing first with
  | nil => simp [List.intercalate]
  | cons part parts ih =>
    rw [List.intercalate, List.intersperse_cons_cons, List.flatten_cons, List.flatten_cons,
      ← List.intercalate, ih]
    simp

theorem data_of_segments (key : String) :
    key.data = [':'].intercalate ((segments key).map String.data) := by
  conv_lhs => rw [← joinSegments_segments key]
  rfl

theorem flatMap_colon_segments (key : String) :
    ((segments key).map String.data).flatMap (':' :: ·) = ':' :: key.data := by
  have pieces : (segments key).map String.data = key.data.splitOn ':' := by
    simp only [segments, List.map_map]
    exact List.map_id _
  obtain ⟨first, rest, split⟩ :=
    List.exists_cons_of_ne_nil (List.splitOnP_ne_nil (· == ':') key.data)
  conv_rhs => rw [data_of_segments key]
  rw [pieces, List.splitOn, split, intercalate_colon]
  rfl

/-- No part of the key, other than the concurrency key's marker, is `ck`: the ids and the
parts of the queue name. -/
def NoCkPart (env : AuthenticatedEnvironment) (queue : String) : Prop :=
  env.organizationId ≠ concurrencyKeyPart ∧ env.projectId ≠ concurrencyKeyPart ∧
    env.id ≠ concurrencyKeyPart ∧ concurrencyKeyPart ∉ segments queue

/-- The text holds no line terminator, so `.+$` matches all of it. -/
def OneLine (text : String) : Prop := ∀ c ∈ text.data, isLineTerminator c = false

theorem concurrencyKeyTail_section {key : String} (filled : key ≠ "") (oneLine : OneLine key) :
    concurrencyKeyTail (':' :: 'c' :: 'k' :: ':' :: key.data) = true := by
  have chars : key.data ≠ [] := fun empty => filled (String.ext empty)
  simp only [concurrencyKeyTail, List.isPrefixOf, beq_self_eq_true, Bool.true_and,
    List.drop_succ_cons, List.drop_zero]
  simpa using ⟨chars, oneLine⟩

theorem stripConcurrencyKeyTail_section {concurrencyKey : Option String}
    (oneLine : ∀ key ∈ concurrencyKey, OneLine key) :
    stripConcurrencyKeyTail ((((truthy concurrencyKey).toList.flatMap fun key =>
      concurrencyKeyPart :: segments key).map String.data).flatMap (':' :: ·)) = [] := by
  cases present : truthy concurrencyKey with
  | none => rfl
  | some key =>
    obtain ⟨rfl, filled⟩ := mem_truthy.mp present
    simp only [Option.toList_some, List.flatMap_cons, List.flatMap_nil, List.append_nil,
      List.map_cons, flatMap_colon_segments]
    show stripConcurrencyKeyTail (':' :: 'c' :: 'k' :: ':' :: key.data) = []
    rw [stripConcurrencyKeyTail, if_pos (concurrencyKeyTail_section filled (oneLine key rfl))]

/-- The cut leaves a queue key without its concurrency-key section, when no other part is
`ck` and the concurrency key is one line. -/
theorem stripConcurrencyKeyTail_queueKey {env : AuthenticatedEnvironment} (ids : EnvIds env)
    {queue : String} (noCk : NoCkPart env queue) {concurrencyKey : Option String}
    (oneLine : ∀ key ∈ concurrencyKey, OneLine key) :
    stripConcurrencyKeyTail (queueKey env queue concurrencyKey).data =
      (queueKey env queue none).data := by
  have typeNotCk : envTypeName env.type ≠ concurrencyKeyPart := by
    unfold envTypeName; split <;> decide
  set fixed := [env.organizationId, projectPart, env.projectId, envTypePart, envTypeName env.type,
    envPart, env.id, queuePart] ++ segments queue with fixed_def
  have plain : ∀ part ∈ fixed, ColonFree part ∧ part ≠ concurrencyKeyPart := by
    intro part member
    rcases List.mem_append.mp member with named | queued
    · simp only [List.mem_cons, List.mem_singleton, List.not_mem_nil, or_false] at named
      rcases named with rfl | rfl | rfl | rfl | rfl | rfl | rfl | rfl
      exacts [⟨ids.1.2, noCk.1⟩, by decide, ⟨ids.2.1.2, noCk.2.1⟩, by decide,
        ⟨envTypeName_colonFree env.type, typeNotCk⟩, by decide, ⟨ids.2.2.2, noCk.2.2.1⟩,
        by decide]
    · exact ⟨colonFree_of_mem_segments queued, fun same => noCk.2.2.2 (same ▸ queued)⟩
  have parts : ∀ concurrencyKey : Option String, segments (queueKey env queue concurrencyKey) =
      orgPart :: (fixed ++ (truthy concurrencyKey).toList.flatMap fun key =>
        concurrencyKeyPart :: segments key) := fun _ => by
    rw [segments_queueKey_parts ids, fixed_def]; rfl
  rw [data_of_segments (queueKey env queue concurrencyKey), data_of_segments (queueKey env queue none),
    parts, parts]
  simp only [List.map_cons, List.map_append, intercalate_colon, List.flatMap_append]
  rw [stripConcurrencyKeyTail_colonFree_append (by decide),
    stripConcurrencyKeyTail_parts plain (by cases truthy concurrencyKey <;> simp),
    stripConcurrencyKeyTail_section oneLine]
  simp [truthy]

/-! ## The derivations on queue keys -/

theorem concurrencyLimitKeyFromQueue_queueKey {env : AuthenticatedEnvironment} (ids : EnvIds env)
    {queue : String} (noCk : NoCkPart env queue) {concurrencyKey : Option String}
    (oneLine : ∀ key ∈ concurrencyKey, OneLine key) :
    concurrencyLimitKeyFromQueue (queueKey env queue concurrencyKey) =
      queueConcurrencyLimitKey env queue := by
  rw [concurrencyLimitKeyFromQueue, stripConcurrencyKeyTail_queueKey ids noCk oneLine]
  rfl

theorem currentConcurrencyKeyFromQueue_queueKey (env : AuthenticatedEnvironment) (queue : String)
    (concurrencyKey : Option String) :
    currentConcurrencyKeyFromQueue (queueKey env queue concurrencyKey) =
      currentConcurrencyKey env queue concurrencyKey := rfl

theorem derivesEnvKeys_prefixed {env : AuthenticatedEnvironment} (ids : EnvIds env)
    (queue : String) (concurrencyKey : Option String) (keyPrefix : String) :
    DerivesEnvKeys keyPrefix (keyPrefix ++ queueKey env queue concurrencyKey) env := by
  have read := segments_queueKey_ids ids queue concurrencyKey
  rw [← normalizeQueue_prefixed keyPrefix (queueKey env queue concurrencyKey)] at read
  exact derivesEnvKeys_of_parts read.1 read.2

/-- Without its prefix, a queue key is read right unless it starts with a prefix that holds a
separator: dropping that prefix moves the parts. -/
theorem derivesEnvKeys_unprefixed {env : AuthenticatedEnvironment} (ids : EnvIds env)
    (queue : String) (concurrencyKey : Option String) (keyPrefix : String)
    (unambiguous : ¬ keyPrefix.data <+: (queueKey env queue concurrencyKey).data ∨
      ColonFree keyPrefix) :
    DerivesEnvKeys keyPrefix (queueKey env queue concurrencyKey) env := by
  have read := segments_queueKey_ids ids queue concurrencyKey
  by_cases pre : keyPrefix.data <+: (queueKey env queue concurrencyKey).data
  · have free := unambiguous.resolve_left (not_not.mpr pre)
    obtain ⟨rest, named⟩ := queueKey_eq_org env queue concurrencyKey
    rw [named] at pre read ⊢
    rw [segments_append_colon, segments_of_colonFree (by decide)] at read
    have moved := segments_normalizeQueue_colonFree free (by decide) pre
    exact derivesEnvKeys_of_parts (by rw [moved]; exact read.1) (by rw [moved]; exact read.2)
  · have same : normalizeQueue keyPrefix (queueKey env queue concurrencyKey) =
        queueKey env queue concurrencyKey := by
      simp [normalizeQueue, stripKeyPrefix, pre]
    rw [← same] at read
    exact derivesEnvKeys_of_parts read.1 read.2

/-- The producer's derivations on a queue key `k`: the environment and organization keys on
`p ++ k`, and on `k` unless `k` starts with a prefix holding a separator; the queue's limit
key when no part is `ck` and the concurrency key is one line. -/
theorem keysFromQueue_of_queueKey {env : AuthenticatedEnvironment} (ids : EnvIds env)
    (queue : String) (concurrencyKey : Option String) (keyPrefix : String) :
    DerivesEnvKeys keyPrefix (keyPrefix ++ queueKey env queue concurrencyKey) env ∧
      ((¬ keyPrefix.data <+: (queueKey env queue concurrencyKey).data ∨ ColonFree keyPrefix) →
        DerivesEnvKeys keyPrefix (queueKey env queue concurrencyKey) env) ∧
      (NoCkPart env queue → (∀ key ∈ concurrencyKey, OneLine key) →
        concurrencyLimitKeyFromQueue (queueKey env queue concurrencyKey) =
          queueConcurrencyLimitKey env queue) :=
  ⟨derivesEnvKeys_prefixed ids queue concurrencyKey keyPrefix,
    derivesEnvKeys_unprefixed ids queue concurrencyKey keyPrefix,
    fun noCk oneLine => concurrencyLimitKeyFromQueue_queueKey ids noCk oneLine⟩

/-- A development environment of the examples. -/
def tenantEnvironment : AuthenticatedEnvironment := ⟨"env1", "org1", "proj1", .DEVELOPMENT⟩

theorem keysFromQueue_of_emailsKey :
    EnvIds tenantEnvironment ∧
      (DerivesEnvKeys "engine:" ("engine:" ++ queueKey tenantEnvironment "emails" (some "tenant"))
          tenantEnvironment ∧
        ((¬ "engine:".data <+: (queueKey tenantEnvironment "emails" (some "tenant")).data ∨
            ColonFree "engine:") →
          DerivesEnvKeys "engine:" (queueKey tenantEnvironment "emails" (some "tenant"))
            tenantEnvironment) ∧
        (NoCkPart tenantEnvironment "emails" → (∀ key ∈ some "tenant", OneLine key) →
          concurrencyLimitKeyFromQueue (queueKey tenantEnvironment "emails" (some "tenant")) =
            queueConcurrencyLimitKey tenantEnvironment "emails")) :=
  ⟨by decide, keysFromQueue_of_queueKey (by decide) "emails" (some "tenant") "engine:"⟩

/-- With the prefix `org:` a queue key read without prefix loses its first part, and a
queue named `ck:x` or a concurrency key over two lines defeats the cut. -/
theorem keysFromQueue_misread :
    ¬ DerivesEnvKeys "org:" (queueKey tenantEnvironment "emails" none) tenantEnvironment ∧
      concurrencyLimitKeyFromQueue (queueKey tenantEnvironment "ck:x" none) ≠
        queueConcurrencyLimitKey tenantEnvironment "ck:x" ∧
      concurrencyLimitKeyFromQueue (queueKey tenantEnvironment "emails" (some "a\nb")) ≠
        queueConcurrencyLimitKey tenantEnvironment "emails" := by
  decide

end RunEngine.Keys
