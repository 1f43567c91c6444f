import SafetyConfig.Draft.Group

/-!
# Drafting sessions

A session keeps drafts and built entities under names of two separate kinds. A name that
is used again stands for the newer thing, and a step that fails changes nothing.
-/

namespace SafetyConfig

inductive EntityKind where
  | source
  | group
  | config
  deriving DecidableEq, Repr

inductive Draft where
  | source (d : SourceDraft)
  | group (d : GroupDraft)
  | config (d : ConfigDraft)
  deriving DecidableEq, Repr

inductive Entity where
  | source (s : Source)
  | group (g : Group)
  | config (c : Config)
  deriving DecidableEq, Repr

def Entity.toJson : Entity → Json
  | .source s => s.toJson
  | .group g => g.toJson
  | .config c => c.toJson

def Entity.toDraft : Entity → Draft
  | .source s => .source s.toDraft
  | .group g => .group g.toDraft
  | .config c => .config c.toDraft

def Draft.empty : EntityKind → Draft
  | .source => .source {}
  | .group => .group {}
  | .config => .config {}

def Draft.kind : Draft → EntityKind
  | .source _ => .source
  | .group _ => .group
  | .config _ => .config

def Draft.build : Draft → Except BuildError Entity
  | .source d => d.build.map .source
  | .group d => d.build.map .group
  | .config d => d.build.map .config

inductive Edit where
  | source (e : SourceEdit)
  | group (e : GroupEdit)
  deriving DecidableEq, Repr

inductive Step where
  | new (draft : String) (kind : EntityKind) (copied : Option String)
  | set (draft : String) (edit : Edit)
  | add (draft entity : String)
  | build (draft : String) (result : Option String)
  | describe (entity : String)
  | compare (entity other : String)
  | listSources (entity : String)
  | findGroup (entity id : String)
  | findSource (entity id : String)
  deriving DecidableEq, Repr

inductive Reply where
  | done
  | changed
  | entity (found : Option Entity)
  | truth (b : Bool)
  | ids (ids : List String)
  deriving DecidableEq, Repr

inductive StepError where
  | notBuilt (e : BuildError)
  /-- The step does not apply to what its names stand for. -/
  | notApplicable
  deriving DecidableEq, Repr

structure Session where
  drafts : List (String × Draft) := []
  entities : List (String × Entity) := []
  deriving DecidableEq, Repr

namespace Session

def draft (s : Session) (name : String) : Except StepError Draft :=
  match s.drafts.lookup name with
  | some d => .ok d
  | none => .error .notApplicable

def entity (s : Session) (name : String) : Except StepError Entity :=
  match s.entities.lookup name with
  | some e => .ok e
  | none => .error .notApplicable

def config (s : Session) (name : String) : Except StepError Config :=
  match s.entity name with
  | .ok (.config c) => .ok c
  | _ => .error .notApplicable

def putDraft (s : Session) (name : String) (d : Draft) : Session :=
  { s with drafts := (name, d) :: s.drafts }

def putEntity (s : Session) (name : Option String) (e : Entity) : Session :=
  match name with
  | some name => { s with entities := (name, e) :: s.entities }
  | none => s

def newDraft (s : Session) (kind : EntityKind) : Option String → Except StepError Draft
  | none => .ok (.empty kind)
  | some name =>
    match s.entity name with
    | .error e => .error e
    | .ok e => if e.toDraft.kind = kind then .ok e.toDraft else .error .notApplicable

def edited : Draft → Edit → Except StepError Draft
  | .source d, .source e => .ok (.source (d.edit e))
  | .group d, .group e => .ok (.group (d.edit e))
  | _, _ => .error .notApplicable

def extended : Draft → Entity → Except StepError Draft
  | .group d, .source s => .ok (.group (d.addSource s))
  | .config d, .group g => .ok (.config (d.addGroup g))
  | _, _ => .error .notApplicable

/-- One step, with its reply. -/
def step (s : Session) : Step → Except StepError (Reply × Session)
  | .new name kind copied => do
    let d ← s.newDraft kind copied
    return (.done, s.putDraft name d)
  | .set name edit => do
    let d ← edited (← s.draft name) edit
    return (.changed, s.putDraft name d)
  | .add name entity => do
    let d ← extended (← s.draft name) (← s.entity entity)
    return (.changed, s.putDraft name d)
  | .build name result => do
    match (← s.draft name).build with
    | .ok e => return (.entity (some e), s.putEntity result e)
    | .error e => throw (.notBuilt e)
  | .describe name => do
    return (.entity (some (← s.entity name)), s)
  | .compare name other => do
    return (.truth ((← s.entity name) = (← s.entity other)), s)
  | .listSources name => do
    return (.ids ((← s.config name).sources.map (·.id)), s)
  | .findGroup name id => do
    return (.entity (((← s.config name).findGroup? id).map .group), s)
  | .findSource name id => do
    return (.entity (((← s.config name).findSource? id).map .source), s)

/-- The replies to a list of steps, and the session after them. -/
def run (s : Session) : List Step → List (Except StepError Reply) × Session
  | [] => ([], s)
  | st :: sts =>
    match s.step st with
    | .ok (reply, next) =>
      let (replies, last) := next.run sts
      (.ok reply :: replies, last)
    | .error e =>
      let (replies, last) := s.run sts
      (.error e :: replies, last)

end Session

end SafetyConfig
