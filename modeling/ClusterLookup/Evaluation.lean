import ClusterLookup.Answer
import ClusterLookup.AnswerCache
import ClusterLookup.Cluster
import ClusterLookup.Request
import ClusterLookup.Settings

/-!
# Evaluations

The lookups of one template evaluation. An evaluation keeps its policy, its source and the sensitive
kind for life; what changes is its answer cache, the flag that sensitive data has been read, and the
state of its collaborator. It reads either from a cluster client through that cache, or from a
registry, where the cache plays no part.
-/

namespace ClusterLookup

inductive Source (σ : Type) where
  | cluster (client : ClusterClient σ)
  | registry (registry : Registry σ) (watcher : Identity)

def Source.path {σ : Type} : Source σ → Path
  | cluster _ => .cacheFirst
  | registry _ _ => .reactive

structure Evaluation (σ : Type) where
  policy : Policy
  source : Source σ
  sensitiveKind : String

/-- What changes during an evaluation: its cache, whether it has read sensitive data, and the state
of its collaborator. -/
structure Context (σ : Type) where
  cache : AnswerCache
  sensitive : Bool
  world : σ

/-- The context of an evaluation that has not read anything. -/
def Context.fresh {σ : Type} (world : σ) : Context σ := ⟨.empty, false, world⟩

abbrev Lookup (σ α : Type) : Type := Action Entry (Context σ) α

namespace Lookup
variable {σ α : Type}

/-- A call to the collaborator, entered into the journal with its answer. -/
def ask (call : Action Notice σ α) (entry : Except Failure α → Entry) : Lookup σ α := fun context =>
  let outcome := call context.world
  ⟨outcome.result, { context with world := outcome.state },
    outcome.journal.map Notice.entry ++ [entry outcome.result]⟩

/-- An action of which any failure outside the lookup family is wrapped. -/
def during (operation : String) (x : Lookup σ α) : Lookup σ α := fun context =>
  let outcome := x context
  ⟨outcome.result.mapError (·.during operation), outcome.state, outcome.journal⟩

def store (identity : Identity) (documents : List Document) : Lookup σ Unit :=
  Action.modify fun context => { context with cache := context.cache.store identity documents }

def storeDescriptor (type : GroupVersionKind) (descriptor : Descriptor) : Lookup σ Unit :=
  Action.modify fun context => { context with cache := context.cache.storeDescriptor type descriptor }

def noteSensitive : Lookup σ Unit := Action.modify fun context => { context with sensitive := true }

/-! ## What is logged -/

def readingRecord (event : String) (level : Level) (fields : List (String × Document)) : LogRecord :=
  ⟨"lookup.fetch", event, level, fields⟩

def lookupRecord (event : String) (level : Level) (fields : List (String × Document)) : LogRecord :=
  ⟨"lookup.facade", event, level, fields⟩

def objectFields (kind inNamespace name : String) : List (String × Document) :=
  [("kind", .text kind), ("namespace", .text inNamespace), ("name", .text name)]

def identityFields (identity : Identity) : List (String × Document) :=
  objectFields identity.type.kind identity.inNamespace identity.name

def argumentFields (arguments : Arguments) : List (String × Document) :=
  objectFields arguments.kind arguments.inNamespace arguments.name

def startRecord (arguments : Arguments) : LogRecord :=
  lookupRecord "lookup" .debug
    (("api_version", .text arguments.apiVersion) :: argumentFields arguments ++
      [("selector", (arguments.selector.map Document.text).getD .null)])

def resultRecord (arguments : Arguments) (found : Bool) : LogRecord :=
  lookupRecord "lookup_result" .debug (argumentFields arguments ++ [("found", .boolean found)])

def failureRecord (arguments : Arguments) (failure : Failure) : LogRecord :=
  lookupRecord "lookup_failed" .debug
    (argumentFields arguments ++ [("error", .text failure.message)])

/-- The record that the cache was asked, with the number of documents it holds. -/
def rememberedRecord (identity : Identity) : Option (List Document) → LogRecord
  | some documents => readingRecord "lookup_cache_hit" .debug
      (identityFields identity ++ [("count", .number documents.length 0)])
  | none => readingRecord "lookup_cache_miss" .debug (identityFields identity)

/-- The record that an object is now known not to exist. -/
def absenceRecord (identity : Identity) : LogRecord :=
  readingRecord "lookup_not_found_cached" .debug (identityFields identity)

/-- What is entered when a guard refuses a lookup; other failures of the arguments enter nothing. -/
def refusalEntries : Failure → List Entry
  | .restrictedNamespace requested restriction =>
    [.count (.denials .namespaces),
      .log (lookupRecord "lookup_denied" .info
        [("reason", .text Guard.namespaces.reason), ("namespace", .text requested),
          ("restriction", .text restriction)])]
  | .clusterScoped group kind name =>
    [.count (.denials .clusterScope),
      .log (readingRecord "lookup_denied" .info
        [("reason", .text Guard.clusterScope.reason), ("group", .text group), ("kind", .text kind),
          ("name", .text name)])]
  | _ => []

/-- The action that fails with what a guard found. -/
def refuse (failure : Failure) : Lookup σ α := do
  Action.note (refusalEntries failure)
  Action.fail failure

/-! ## The stages of a lookup -/

/-- The descriptor of a type. From a cluster client it is asked for once and then remembered. -/
def resolveType (source : Source σ) (type : GroupVersionKind) : Lookup σ Descriptor :=
  match source with
  | .cluster client => do
    match (← Action.read).cache.descriptor? type with
    | some descriptor => pure descriptor
    | none =>
      let descriptor ← ask (client.discover type) fun answer => .client (.discover type answer)
      storeDescriptor type descriptor
      pure descriptor
  | .registry registry _ =>
    during "registry resolve_type"
      (ask (registry.resolveType type) fun answer => .registry (.resolveType type answer))

def guardScope (policy : Policy) (identity : Identity) (descriptor : Descriptor) : Lookup σ Unit :=
  if policy.admits descriptor identity.type.kind identity.name then pure ()
  else refuse (.clusterScoped descriptor.group identity.type.kind identity.name)

def remembered (identity : Identity) : Lookup σ (Option (List Document)) := do
  let cached := (← Action.read).cache.find? identity
  Action.note [.count (.probes cached.isSome), .log (rememberedRecord identity cached)]
  pure cached

/-- The document of one object; null when it is known from the cache not to exist. -/
def getDocument (source : Source σ) (identity : Identity) (descriptor : Descriptor) :
    Lookup σ Document :=
  match source with
  | .cluster client => do
    match ← remembered identity with
    | some documents => pure (documents.head?.getD .null)
    | none =>
      let call := client.get descriptor identity.type.kind identity.inNamespace identity.name
      match ← (ask call fun answer => .client
          (.get descriptor identity.type.kind identity.inNamespace identity.name answer)).attempt with
      | .ok document =>
        store identity [document]
        pure document
      | .error failure =>
        if failure.isNotFound then
          store identity []
          Action.note [.log (absenceRecord identity)]
        Action.fail failure
  | .registry registry watcher => do
    let document ← during "registry get"
      (ask (registry.get watcher identity.type identity.inNamespace identity.name) fun answer =>
        .registry (.get watcher identity.type identity.inNamespace identity.name answer))
    if document.isNull then
      Action.fail
        (.notFound descriptor.group descriptor.resource identity.inNamespace identity.name)
    else pure document

def listDocuments (source : Source σ) (identity : Identity) (descriptor : Descriptor) :
    Lookup σ (List Document) :=
  match source with
  | .cluster client => do
    match ← remembered identity with
    | some documents => pure documents
    | none =>
      let documents ←
        ask (client.list descriptor identity.type.kind identity.inNamespace identity.selector)
          fun answer => .client
            (.list descriptor identity.type.kind identity.inNamespace identity.selector answer)
      store identity documents
      pure documents
  | .registry registry watcher =>
    during "registry list"
      (ask (registry.list watcher identity.type identity.inNamespace identity.selector) fun answer =>
        .registry (.list watcher identity.type identity.inNamespace identity.selector answer))

/-- The answer to a question, from the cache or from the source. -/
def readAnswer (source : Source σ) (identity : Identity) (descriptor : Descriptor) :
    Lookup σ Answer :=
  if identity.isList then Answer.items <$> listDocuments source identity descriptor
  else Answer.ofDocument <$> getDocument source identity descriptor

/-- The answer to a question that the guard lets pass; finding something of the sensitive kind sets
the flag. -/
def guardedAnswer (evaluation : Evaluation σ) (identity : Identity) (descriptor : Descriptor) :
    Lookup σ Answer := do
  guardScope evaluation.policy identity descriptor
  let answer ← readAnswer evaluation.source identity descriptor
  if answer.ending identity.isList = .found ∧ identity.type.kind = evaluation.sensitiveKind then
    noteSensitive
  pure answer

end Lookup

namespace Evaluation
variable {σ : Type}

def path (evaluation : Evaluation σ) : Path := evaluation.source.path

/-- The answer to a question whose arguments have been checked. -/
def answer (evaluation : Evaluation σ) (identity : Identity) : Lookup σ Answer := do
  let descriptor ← Lookup.resolveType evaluation.source identity.type
  Lookup.guardedAnswer evaluation identity descriptor

/-- A lookup that fails with `notFound` when the source says that there is no such object. -/
def lookupStrict (evaluation : Evaluation σ) (arguments : Arguments) : Lookup σ Answer :=
  match arguments.identity evaluation.policy with
  | .ok identity => evaluation.answer identity
  | .error failure => Lookup.refuse failure

/-- A lookup of one object, or with an empty name of a list. An object that does not exist is an
answer; every other failure of the lookup family is counted and logged, and stays a failure. -/
def lookup (evaluation : Evaluation σ) (arguments : Arguments) : Lookup σ Answer := do
  Action.note [.log (Lookup.startRecord arguments)]
  match ← (evaluation.lookupStrict arguments).attempt with
  | .ok answer =>
    Action.note [.count (.lookups evaluation.path (answer.ending arguments.name.isEmpty)),
      .log (Lookup.resultRecord arguments answer.isPresent)]
    pure answer
  | .error failure =>
    if failure.isNotFound then
      Action.note [.count (.lookups evaluation.path .notFound),
        .log (Lookup.resultRecord arguments false)]
      pure .absent
    else
      if failure.isLookup then
        Action.note [.count (.lookups evaluation.path .error),
          .log (Lookup.failureRecord arguments failure)]
      Action.fail failure

end Evaluation

end ClusterLookup
