import RunEngine.KeysFromQueue

/-! Reading a queue key back. `extractComponentsFromQueue` inverts `queueKey` on names without
separators, and `globalCurrentConcurrencyKey` cuts a queue key at its environment section with
`/:env:.+$/`, the same kind of replace as the concurrency-key cut. -/

namespace RunEngine.Keys

/-- Whether `/<marker>.+$/` matches at the start of the text: the marker, then at least one
character and no line terminator up to the end. -/
def tailMatches (marker text : List Char) : Bool :=
  marker.isPrefixOf text &&
    (!(text.drop marker.length).isEmpty &&
      (text.drop marker.length).all fun c => !isLineTerminator c)

/-- `text.replace(/<marker>.+$/, replacement)`: the text before the leftmost match, then the
replacement; all of the text when nothing matches. -/
def replaceTail (marker replacement : List Char) : List Char → List Char
  | [] => []
  | c :: rest =>
    if tailMatches marker (c :: rest) then replacement else c :: replaceTail marker replacement rest

/-- `globalCurrentConcurrencyKey(queue)`: `queue.replace(/:env:.+$/, ":*")`. -/
def globalCurrentConcurrencyKey (queue : String) : String :=
  ⟨replaceTail (':' :: (envPart.data ++ [':'])) [':', '*'] queue.data⟩

instance (text : String) : Decidable (OneLine text) :=
  inferInstanceAs (Decidable (∀ c ∈ text.data, isLineTerminator c = false))

theorem stripConcurrencyKeyTail_eq_replaceTail (text : List Char) :
    stripConcurrencyKeyTail text = replaceTail (':' :: (concurrencyKeyPart.data ++ [':'])) [] text := by
  induction text with
  | nil => rfl
  | cons c rest ih =>
    show (if concurrencyKeyTail (c :: rest) then [] else c :: stripConcurrencyKeyTail rest) =
      if tailMatches _ (c :: rest) then [] else c :: replaceTail _ [] rest
    rw [ih]
    rfl

/-! ## The cut passes over other sections -/

section Cut

variable {tag replacement : List Char}

theorem replaceTail_colonFree_append {front : List Char} (free : ':' ∉ front) (rest : List Char) :
    replaceTail (':' :: tag) replacement (front ++ rest) =
      front ++ replaceTail (':' :: tag) replacement rest := by
  induction front with
  | nil => rfl
  | cons c front ih =>
    have other : c ≠ ':' := fun same => free (same ▸ List.mem_cons_self _ _)
    have kept : tailMatches (':' :: tag) (c :: (front ++ rest)) = false := by
      simp [tailMatches, List.isPrefixOf, Ne.symm other]
    rw [List.cons_append, replaceTail, if_neg (by rw [kept]; decide),
      ih fun member => free (List.mem_cons_of_mem _ member), List.cons_append]

theorem eq_of_prefix_append_sep {sep : Char} {part rest : List Char} (tagFree : sep ∉ tag)
    (free : sep ∉ part) (next : rest.head? = some sep) (pre : tag ++ [sep] <+: part ++ rest) :
    tag = part := by
  induction tag generalizing part with
  | nil =>
    cases part with
    | nil => rfl
    | cons c part =>
      obtain ⟨rfl, -⟩ := List.cons_prefix_cons.mp pre
      exact absurd (List.mem_cons_self _ _) free
  | cons t tag ih =>
    cases part with
    | nil =>
      obtain ⟨r, rest⟩ := rest
      · cases next
      obtain ⟨rfl, -⟩ := List.cons_prefix_cons.mp pre
      cases Option.some.inj next
      exact absurd (List.mem_cons_self _ _) tagFree
    | cons p part =>
      obtain ⟨rfl, later⟩ := List.cons_prefix_cons.mp pre
      rw [ih (fun member => tagFree (List.mem_cons_of_mem _ member))
        (fun member => free (List.mem_cons_of_mem _ member)) later]

theorem replaceTail_part {part rest : List Char} (tagFree : ':' ∉ tag) (free : ':' ∉ part)
    (other : part ≠ tag) (next : rest.head? = some ':') :
    replaceTail (':' :: (tag ++ [':'])) replacement (':' :: (part ++ rest)) =
      ':' :: (part ++ replaceTail (':' :: (tag ++ [':'])) replacement rest) := by
  have kept : tailMatches (':' :: (tag ++ [':'])) (':' :: (part ++ rest)) = false := by
    have unmarked : (tag ++ [':']).isPrefixOf (part ++ rest) = false := by
      rw [← Bool.not_eq_true, List.isPrefixOf_iff_prefix]
      exact fun pre => other (eq_of_prefix_append_sep tagFree free next pre).symm
    simp [tailMatches, List.isPrefixOf, unmarked]
  rw [replaceTail, if_neg (by rw [kept]; decide), replaceTail_colonFree_append free]

theorem replaceTail_parts {parts : List String} (tagFree : ':' ∉ tag)
    (plain : ∀ part ∈ parts, ColonFree part ∧ part.data ≠ tag) {rest : List Char}
    (next : rest.head? = some ':') :
    replaceTail (':' :: (tag ++ [':'])) replacement ((parts.map String.data).flatMap (':' :: ·) ++ rest) =
      (parts.map String.data).flatMap (':' :: ·) ++
        replaceTail (':' :: (tag ++ [':'])) replacement rest := by
  induction parts with
  | nil => rfl
  | cons part parts ih =>
    have following : ((parts.map String.data).flatMap (':' :: ·) ++ rest).head? = some ':' := by
      cases parts with
      | nil => exact next
      | cons => rfl
    obtain ⟨free, other⟩ := plain part (List.mem_cons_self _ _)
    simp only [List.map_cons, List.flatMap_cons, List.cons_append, List.append_assoc]
    rw [replaceTail_part tagFree free other following,
      ih fun part member => plain part (List.mem_cons_of_mem _ member)]

end Cut

/-! ## Reading a queue key back -/

/-- Reading a prefixed queue key gives back the components it was built from, when the ids
of the environment are non-empty and hold no separator and neither do the queue name and the
concurrency key: `undefined` for a falsy concurrency key. -/
theorem extractComponentsFromQueue_queueKey {env : AuthenticatedEnvironment} (ids : EnvIds env)
    {queue : String} (queueFree : ColonFree queue) {concurrencyKey : Option String}
    (keyFree : ∀ key ∈ concurrencyKey, ColonFree key) (keyPrefix : String) :
    extractComponentsFromQueue keyPrefix (keyPrefix ++ queueKey env queue concurrencyKey) =
      ⟨some env.organizationId, some env.projectId, some (envTypeName env.type), some env.id,
        some queue, truthy concurrencyKey⟩ := by
  have parts := segments_queueKey ids queueFree concurrencyKey
    fun key member => keyFree key (mem_truthy.mp member).1
  simp only [extractComponentsFromQueue, normalizeQueue_prefixed, parts]
  cases truthy concurrencyKey <;> rfl

theorem emailsKey_components :
    extractComponentsFromQueue "engine:"
        ("engine:" ++ queueKey tenantEnvironment "emails" (some "tenant")) =
      ⟨some tenantEnvironment.organizationId, some tenantEnvironment.projectId,
        some (envTypeName tenantEnvironment.type), some tenantEnvironment.id, some "emails",
        truthy (some "tenant")⟩ :=
  extractComponentsFromQueue_queueKey (by decide) (by decide)
    (fun key member => by cases member; decide) "engine:"

/-- The global key of a queue key is its organization, project and environment type sections
followed by `:*`: the same for every queue and concurrency key of every environment of one type
in a project. It needs the environment's ids non-empty and free of `:`, the organization and
project ids other than `env`, and the key on one line; otherwise the cut can start inside an
id (`a:env:b` gives `org:a:*`) or find no match. -/
theorem globalCurrentConcurrencyKey_queueKey {env : AuthenticatedEnvironment} (ids : EnvIds env)
    (notEnv : env.organizationId ≠ envPart ∧ env.projectId ≠ envPart) {queue : String}
    {concurrencyKey : Option String} (oneLine : OneLine (queueKey env queue concurrencyKey)) :
    globalCurrentConcurrencyKey (queueKey env queue concurrencyKey) =
      orgKeySection env.organizationId ++ ":" ++ projKeySection env.projectId ++ ":" ++
        envTypeKeySection env.type ++ ":*" := by
  have typeNotEnv : envTypeName env.type ≠ envPart := by unfold envTypeName; split <;> decide
  have plain : ∀ part ∈ [env.organizationId, projectPart, env.projectId, envTypePart,
      envTypeName env.type], ColonFree part ∧ part.data ≠ envPart.data := by
    intro part member
    simp only [List.mem_cons, List.mem_singleton, List.not_mem_nil, or_false] at member
    rcases member with rfl | rfl | rfl | rfl | rfl
    exacts [⟨ids.1.2, fun same => notEnv.1 (String.ext same)⟩, by decide,
      ⟨ids.2.1.2, fun same => notEnv.2 (String.ext same)⟩, by decide,
      ⟨envTypeName_colonFree env.type, fun same => typeNotEnv (String.ext same)⟩]
  set after := env.id.data ++ (((queuePart :: segments queue) ++
    (truthy concurrencyKey).toList.flatMap fun key => concurrencyKeyPart :: segments key).map
      String.data).flatMap (':' :: ·)
  have data : (queueKey env queue concurrencyKey).data =
      orgPart.data ++ (([env.organizationId, projectPart, env.projectId, envTypePart,
        envTypeName env.type].map String.data).flatMap (':' :: ·) ++
          ':' :: 'e' :: 'n' :: 'v' :: ':' :: after) := by
    rw [data_of_segments, segments_queueKey_parts ids]
    simp only [after, List.map_cons, List.map_append, List.cons_append, List.nil_append,
      intercalate_colon, List.flatMap_cons, List.flatMap_append, List.append_assoc]
    rfl
  have matched : tailMatches (':' :: (envPart.data ++ [':']))
      (':' :: 'e' :: 'n' :: 'v' :: ':' :: after) = true := by
    have filled : after ≠ [] := List.append_ne_nil_of_right_ne_nil _ (by simp)
    have oneLineAfter : ∀ c ∈ after, isLineTerminator c = false := fun c member =>
      oneLine c (by rw [data]; simp [member])
    simp only [tailMatches, envPart, List.isPrefixOf, List.cons_append, List.nil_append]
    simpa [List.all_eq_true] using ⟨filled, oneLineAfter⟩
  apply String.ext
  rw [globalCurrentConcurrencyKey, data, replaceTail_colonFree_append (by decide),
    replaceTail_parts (by decide) plain
      (show (':' :: 'e' :: 'n' :: 'v' :: ':' :: after).head? = some ':' from rfl),
    replaceTail, if_pos matched]
  simp [orgKeySection, projKeySection, envTypeKeySection, String.data_append]

theorem emailsKey_global :
    globalCurrentConcurrencyKey (queueKey tenantEnvironment "emails" (some "tenant")) =
      orgKeySection tenantEnvironment.organizationId ++ ":" ++
        projKeySection tenantEnvironment.projectId ++ ":" ++
        envTypeKeySection tenantEnvironment.type ++ ":*" :=
  globalCurrentConcurrencyKey_queueKey (by decide) (by decide) (by decide)

end RunEngine.Keys
