import AtlasOfUs.Agent.Step

namespace AtlasOfUs.Agent.DomainArchitectStep

open Library GraphApi

variable (codec : Codec)

structure LevelInfo where
  level : Int
  name : String
  description : String
  totalPointsRequired : Int
  deriving DecidableEq

def getLevelStructure (domainName : String) : List LevelInfo :=
  [⟨1, domainName ++ " Novice", "Beginning your journey in " ++ domainName, 100⟩,
    ⟨2, domainName ++ " Developing", "Building foundational skills in " ++ domainName, 200⟩,
    ⟨3, domainName ++ " Competent", "Demonstrating solid competence in " ++ domainName, 400⟩,
    ⟨4, domainName ++ " Advanced", "Achieving advanced mastery in " ++ domainName, 700⟩,
    ⟨5, domainName ++ " Master", "Expert-level mastery of " ++ domainName, 1000⟩]

/-- The S3 key of the avatar; the Unicode tables behind lower-casing and
`is_alphanumeric` are the caller's. -/
structure CharTables where
  toLowercase : String → String
  isAlphanumeric : Char → Bool

variable (tables : CharTables)

def sanitizeName (domainName : String) : String :=
  let underscored := (tables.toLowercase domainName).toList.map (fun c => if c = ' ' then '_' else c)
  String.ofList (underscored.filter (fun c => tables.isAlphanumeric c || c = '_'))

def avatarPrompt (domainName : String) : String :=
  "A beautiful, artistic icon representing the domain of '" ++ domainName ++
    "'. Clean, modern design suitable for an app avatar. " ++
    "Minimalist style with vibrant colors on a simple background. No text or words."

def queueAvatarGeneration (domainName : String) (elementId : ElementId) : ContextStep Unit := do
  if ← isQueueConfigured then
    let job : ImageGenJob := ⟨domainName, elementId, avatarPrompt domainName,
      "domains/" ++ sanitizeName tables domainName ++ "/avatar.png"⟩
    match ← queueImageGeneration job with
    | .ok _ => send (.stepProgress .domainArchitect "Domain avatar queued for generation")
    | .error _ => return ()

def domainRequest (domainName description : String) : CreateNodeRequest where
  labels := ["Domain"]
  properties := [("name", .str domainName), ("description", .str description)]

def levelRequest (info : LevelInfo) : CreateNodeRequest where
  labels := ["Domain_Level"]
  properties := [("name", .str info.name), ("description", .str info.description),
    ("level", .int info.level), ("total_points_required", .int info.totalPointsRequired)]

def createLevel (domainId : ElementId) (context : AgentContext) (info : LevelInfo) :
    ContextStep AgentContext := do
  let level ← (storeNode codec (levelRequest info)).failingIn context
  let request : CreateRelationshipRequest := ⟨domainId, level.elementId, "HAS_DOMAIN_LEVEL", none⟩
  let _ ← (storeRelationship codec request).failingIn context
  let node := CreatedNode.new info.name level.elementId "Domain_Level"
  send (.nodeCreated .domainArchitect node.name "Domain_Level" false)
  return context.addDomainLevel node

def execute (context : AgentContext) : ContextStep AgentContext := do
  let domainName := context.domainName
  send (.stepProgress .domainArchitect "Creating domain node...")
  let domain ← (storeNode codec
    (domainRequest domainName (context.description.getD ""))).failingIn context
  let domainNode := CreatedNode.new domainName domain.elementId "Domain"
  send (.nodeCreated .domainArchitect domainNode.name "Domain" false)
  queueAvatarGeneration tables domainName domain.elementId
  let context := context.setDomain domainNode
  let levels := getLevelStructure domainName
  send (.stepProgress .domainArchitect
    ("Creating " ++ toString levels.length ++ " domain levels..."))
  levels.foldlM (createLevel codec domain.elementId) context

theorem behaved_queueAvatarGeneration (domainName : String) (elementId : ElementId) :
    Behaved .domainArchitect (queueAvatarGeneration tables domainName elementId) := by
  refine Contract.bind (Contract.perform trivial (fun _ => id)) (fun configured => ?_)
  cases configured with
  | false => trivial
  | true =>
      refine Contract.bind (Contract.perform trivial (fun _ => id)) (fun result => ?_)
      cases result with
      | ok u => exact Behaved.send rfl
      | error e => trivial

theorem behaved_createLevel (domainId : ElementId) (context : AgentContext) (info : LevelInfo) :
    Behaved .domainArchitect (createLevel codec domainId context info) :=
  ((Behaved.storeNode codec _).failingIn context).bind fun _ =>
    ((Behaved.storeRelationship codec _).failingIn context).bind fun _ =>
      Contract.bind (Behaved.send rfl) fun _ => Contract.done _

theorem behaved (context : AgentContext) : Behaved .domainArchitect (execute codec tables context) := by
  refine Behaved.send_bind rfl ?_
  refine ((Behaved.storeNode codec _).failingIn context).bind fun domain => ?_
  refine Behaved.send_bind rfl ?_
  refine (behaved_queueAvatarGeneration tables _ _).bind fun _ => ?_
  refine Behaved.send_bind rfl ?_
  exact Contract.foldlM _ (fun context info _ => behaved_createLevel codec _ context info) _

end AtlasOfUs.Agent.DomainArchitectStep
