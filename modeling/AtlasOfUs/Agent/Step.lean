import AtlasOfUs.Agent.StepUtils
import AtlasOfUs.GraphApi.NodeService

namespace AtlasOfUs.Agent

open Library Similarity GraphApi

variable {ε α β : Type}

/-- A step fails with its message and with the context as it has become by then. -/
abbrev ContextStep (α : Type) := Service SseEvent Prompt (String × AgentContext) α

def Step.failingIn (context : AgentContext) (p : Step α) : ContextStep α :=
  Proc.mapErr (fun e => (e, context)) p

/-- One question to the language model and the parser its reply goes to. -/
def ask (prompt : Prompt) (parse : String → Parsed α) : Step α := do
  match ← generate prompt with
  | .error e => .fail ("LLM error: " ++ e)
  | .ok response => Proc.ofExit (parse response)

def similarTo (label : String) (limit : Int) (text : String) : Step (List SimilarNodeResult) :=
  Proc.mapErr (fun e => "Similarity search failed: " ++ e)
    (findSimilarNodes { text := some text, label := some label, limit := some limit })

def storeNode (codec : Codec) (request : CreateNodeRequest) : Step CreateNodeResult :=
  Proc.mapErr (ServiceError.toString codec) (createNode codec request false)

def storeRelationship (codec : Codec) (request : CreateRelationshipRequest) :
    Step CreateRelationshipResult :=
  Proc.mapErr (ServiceError.toString codec) (createRelationship request)

def collect : List (Except String α) → Except String (List α)
  | [] => .ok []
  | .error e :: _ => .error e
  | .ok a :: xs => (collect xs).map (a :: ·)

/-- `buffer_unordered(BATCH_SIZE)` with a batch size of one: the items run one
after the other, all of them, and only then does the first error count. -/
def batch (f : α → Step β) (xs : List α) : Step (List β) := do
  let results ← xs.mapM (fun x => (f x).attempt)
  Proc.ofExcept (collect results)

def SseEvent.stepOf (agent : AgentType) : SseEvent → Prop
  | .stepProgress a _ | .similarityCheck a _ _ _ | .verificationResult a _ _ _
  | .nodeCreated a _ _ _ => a = agent
  | _ => False

def Prompt.panics : Prompt → String → Bool
  | .knowledgeConcepts .., text | .skillConcepts .., text | .traitConcepts .., text
  | .milestoneConcepts .., text => previewCuts text
  | .verifySimilarKnowledge .., _ | .verifySimilarSkill .., _ | .knowledgeProperties .., _
  | .genericKnowledgeProperties .., _ => false
  | .skillProperties .., text | .genericSkillProperties .., text | .verifySimilarTrait .., text
  | .traitProperties .., text | .milestoneProperties .., text | .levelAssignment .., text
  | .prerequisiteAnalysis .., text => reversed text '{' '}'

def stepOps (agent : AgentType) : (services SseEvent Prompt).Op → Prop
  | .send event => event.stepOf agent
  | _ => True

def badReply : (o : (services SseEvent Prompt).Op) → (services SseEvent Prompt).Reply o → Prop
  | .generate prompt, reply => ∃ text, reply = Except.ok text ∧ prompt.panics text = true
  | _, _ => False

/-- The step reports on itself only, and panics exactly on a bad reply. -/
abbrev Behaved (agent : AgentType) (p : Service SseEvent Prompt ε α) : Prop :=
  Contract (stepOps agent) badReply p

namespace Behaved

variable {agent : AgentType}

theorem send {event : SseEvent} (h : event.stepOf agent) :
    Behaved agent (send event : Service SseEvent Prompt ε Unit) :=
  Contract.perform h (fun _ => id)

theorem send_bind {event : SseEvent} {f : Unit → Service SseEvent Prompt ε α}
    (h : event.stepOf agent) (hf : Behaved agent (f ())) :
    Behaved agent (AtlasOfUs.send event >>= f) :=
  (send h).bind (fun _ => hf)

theorem execute (q : Statement) :
    Behaved agent (execute q : Service SseEvent Prompt ε (Except String RowStream)) :=
  Contract.perform trivial (fun _ => id)

theorem generateEmbedding (text : String) :
    Behaved agent (generateEmbedding text : Service SseEvent Prompt ε (Except String Embedding)) :=
  Contract.perform trivial (fun _ => id)

theorem executeSimilarityQuery (label : Option String) (limit : Int) (key : SearchKey) :
    Behaved agent (executeSimilarityQuery label limit key :
      Service SseEvent Prompt String (List SimilarNodeResult)) :=
  Contract.bind (Contract.perform trivial (fun _ => id))
    (fun rows => (Contract.ofExcept rows).bind (fun _ => trivial))

theorem findSimilarNodes (request : FindSimilarNodesRequest) :
    Behaved agent (findSimilarNodes request : Service SseEvent Prompt String _) := by
  unfold Similarity.findSimilarNodes
  split
  · exact executeSimilarityQuery _ _ _
  · exact executeSimilarityQuery _ _ _
  · exact (generateEmbedding _).bind (fun v =>
      (Contract.ofExcept v).bind (fun _ => executeSimilarityQuery _ _ _))
  · trivial

theorem similarTo (label : String) (limit : Int) (text : String) :
    Behaved agent (similarTo label limit text) :=
  (findSimilarNodes _).mapErr

theorem createNode (codec : Codec) (request : CreateNodeRequest) :
    Behaved agent (createNode codec request false : Service SseEvent Prompt ServiceError _) := by
  refine (generateEmbedding _).bind (fun embedding => ?_)
  cases embedding with
  | error e => trivial
  | ok embedding =>
      refine (execute _).bind (fun result => ?_)
      cases result with
      | error e => trivial
      | ok result => cases h : result.firstRow <;> simp [h, Contract]

theorem storeNode (codec : Codec) (request : CreateNodeRequest) :
    Behaved agent (storeNode codec request) :=
  (createNode codec request).mapErr

theorem createRelationship (request : CreateRelationshipRequest) :
    Behaved agent (createRelationship request : Service SseEvent Prompt ServiceError _) := by
  refine (execute _).bind (fun result => ?_)
  cases result with
  | error e => trivial
  | ok result => cases h : result.firstRow <;> simp [h, Contract]

theorem storeRelationship (codec : Codec) (request : CreateRelationshipRequest) :
    Behaved agent (storeRelationship codec request) :=
  (createRelationship request).mapErr

theorem ask {prompt : Prompt} {parse : String → Parsed α}
    (h : ∀ text, parse text = .panicked ↔ prompt.panics text = true) :
    Behaved agent (ask prompt parse) := by
  refine ⟨trivial, fun reply => ⟨?_, ?_⟩⟩
  · rintro ⟨text, rfl, hp⟩
    change Proc.ofExit (parse text) = .panic
    rw [(h text).2 hp, Proc.ofExit_panicked]
  · intro hb
    cases reply with
    | error e => trivial
    | ok text =>
        change Contract _ _ (Proc.ofExit (parse text))
        cases hx : parse text with
        | ok a => trivial
        | err e => trivial
        | panicked => exact absurd ⟨text, rfl, (h text).1 hx⟩ hb

theorem failingIn {p : Step α} (h : Behaved agent p) (context : AgentContext) :
    Behaved agent (p.failingIn context) :=
  h.mapErr

theorem batch {f : α → Step β} {xs : List α} (h : ∀ x, Behaved agent (f x)) :
    Behaved agent (batch f xs) :=
  (Contract.mapM xs (fun x _ => (h x).attempt)).bind (fun rs => Contract.ofExcept (collect rs))

end Behaved

end AtlasOfUs.Agent
