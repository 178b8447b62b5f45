import AtlasOfUs.Agent.Models
import AtlasOfUs.Library.LineBuffer
import AtlasOfUs.Library.Utf8
import AtlasOfUs.TextWrapping

namespace AtlasOfUs.Agent

open Library

section Serialize

def AgentType.toJson : AgentType → Json
  | .domainArchitect => .str "domain_architect"
  | .knowledgeGenerator => .str "knowledge_generator"
  | .skillGenerator => .str "skill_generator"
  | .traitGenerator => .str "trait_generator"
  | .milestoneGenerator => .str "milestone_generator"
  | .levelDistributor => .str "level_distributor"
  | .prerequisiteMapper => .str "prerequisite_mapper"

def optionJson {α : Type} (toJson : α → Json) (a : Option α) : Json := (a.map toJson).getD .null

def CreatedNode.toJson (n : CreatedNode) : Json :=
  .object [("name", .str n.name), ("element_id", .str n.elementId), ("label", .str n.label),
    ("was_reused", .bool n.wasReused)]

def LevelRequirement.toJson (r : LevelRequirement) : Json :=
  .object [("level_id", .str r.levelId), ("component_id", .str r.componentId),
    ("component_name", .str r.componentName), ("component_type", .str r.componentType),
    ("proficiency", optionJson .str r.proficiency)]

def GeneralizationLink.toJson (l : GeneralizationLink) : Json :=
  .object [("specific_id", .str l.specificId), ("specific_name", .str l.specificName),
    ("general_id", .str l.generalId), ("general_name", .str l.generalName),
    ("node_type", .str l.nodeType)]

def PrerequisiteLink.toJson (l : PrerequisiteLink) : Json :=
  .object [("source_id", .str l.sourceId), ("source_name", .str l.sourceName),
    ("target_id", .str l.targetId), ("target_name", .str l.targetName),
    ("relationship_type", .str l.relationshipType)]

def DomainGraphRegistry.toJson (r : DomainGraphRegistry) : Json :=
  .object [("domain", optionJson CreatedNode.toJson r.domain),
    ("domain_levels", .array (r.domainLevels.map CreatedNode.toJson)),
    ("knowledge", .array (r.knowledge.map CreatedNode.toJson)),
    ("skills", .array (r.skills.map CreatedNode.toJson)),
    ("traits", .array (r.traits.map CreatedNode.toJson)),
    ("milestones", .array (r.milestones.map CreatedNode.toJson)),
    ("levelRequirements", .array (r.levelRequirements.map LevelRequirement.toJson)),
    ("generalizations", .array (r.generalizations.map GeneralizationLink.toJson)),
    ("prerequisites", .array (r.prerequisites.map PrerequisiteLink.toJson))]

/-- The statistics with the time that the generation took. -/
def DomainStatistics.toJson (generationTimeMs : Nat) (s : DomainStatistics) : Json :=
  .object [("domainLevelsCreated", .int s.domainLevelsCreated),
    ("knowledgeCreated", .int s.knowledgeCreated), ("skillsCreated", .int s.skillsCreated),
    ("traitsCreated", .int s.traitsCreated), ("milestonesCreated", .int s.milestonesCreated),
    ("relationshipsCreated", .int s.relationshipsCreated), ("nodesReused", .int s.nodesReused),
    ("generationTimeMs", .int generationTimeMs)]

def SseEvent.toJson (generationTimeMs : Nat) : SseEvent → Json
  | .started domainName totalAgents => .object [("type", .str "started"),
      ("domainName", .str domainName), ("totalAgents", .int totalAgents)]
  | .domainExists requestedName existingDomain => .object [("type", .str "domain_exists"),
      ("requestedName", .str requestedName), ("existingDomain", .str existingDomain)]
  | .agentStarted agent agentNumber agentName => .object [("type", .str "agent_started"),
      ("agent", agent.toJson), ("agentNumber", .int agentNumber), ("agentName", .str agentName)]
  | .stepProgress agent message => .object [("type", .str "step_progress"),
      ("agent", agent.toJson), ("message", .str message)]
  | .similarityCheck agent concept similarFound topScore =>
      .object [("type", .str "similarity_check"), ("agent", agent.toJson),
        ("concept", .str concept), ("similarFound", .int similarFound),
        ("topScore", optionJson .float topScore)]
  | .verificationResult agent concept decision generalizesTo =>
      .object [("type", .str "verification_result"), ("agent", agent.toJson),
        ("concept", .str concept), ("decision", .str decision),
        ("generalizesTo", optionJson .str generalizesTo)]
  | .nodeCreated agent nodeName label wasReused => .object [("type", .str "node_created"),
      ("agent", agent.toJson), ("nodeName", .str nodeName), ("label", .str label),
      ("wasReused", .bool wasReused)]
  | .agentCompleted agent nodesCreated nodesReused => .object [("type", .str "agent_completed"),
      ("agent", agent.toJson), ("nodesCreated", .int nodesCreated),
      ("nodesReused", .int nodesReused)]
  | .agentFailed agent error => .object [("type", .str "agent_failed"), ("agent", agent.toJson),
      ("error", .str error)]
  | .completed domainName statistics => .object [("type", .str "completed"),
      ("domainName", .str domainName), ("statistics", statistics.toJson generationTimeMs)]
  | .failed error lastAgent nodesCreatedBeforeFailure => .object [("type", .str "failed"),
      ("error", .str error), ("lastAgent", optionJson AgentType.toJson lastAgent),
      ("nodesCreatedBeforeFailure", optionJson DomainGraphRegistry.toJson nodesCreatedBeforeFailure)]

end Serialize

/-- What the server puts into the stream: an event, or a comment that keeps it alive. -/
inductive Frame
  | event (e : SseEvent)
  | keepAlive

def Frame.sent : Frame → Option SseEvent
  | .event e => some e
  | .keepAlive => none

section Stream

variable (stringify : Json → String) (generationTimeMs : Nat)

def Frame.line : Frame → List Char
  | .event e => "data: ".toList ++ (stringify (e.toJson generationTimeMs)).toList
  | .keepAlive => ": ping".toList

theorem Frame.line_event (e : SseEvent) : (Frame.event e).line stringify generationTimeMs =
    "data: ".toList ++ (stringify (e.toJson generationTimeMs)).toList := rfl

theorem Frame.line_keepAlive :
    Frame.keepAlive.line stringify generationTimeMs = ": ping".toList := rfl

def createSseStream (frames : List Frame) : List Char :=
  frames.flatMap (fun frame => frame.line stringify generationTimeMs ++ ['\n', '\n'])

/-- The text of an event is one line that opens and closes as an object does,
and is parsed back. -/
structure Renders (parse : String → Option Json) (e : SseEvent) : Prop where
  oneLine : '\n' ∉ (stringify (e.toJson generationTimeMs)).toList
  opens : (stringify (e.toJson generationTimeMs)).toList.head? = some '{'
  closes : (stringify (e.toJson generationTimeMs)).toList.getLast? = some '}'
  parsed : parse (stringify (e.toJson generationTimeMs)) = some (e.toJson generationTimeMs)

end Stream

namespace HttpService

inductive Callback
  | onEvent (event : Json)
  | onComplete

def isSpace (c : Char) : Bool :=
  let n := c.toNat
  (9 ≤ n && n ≤ 13) || n = 0x20 || n = 0xA0 || n = 0x1680 || (0x2000 ≤ n && n ≤ 0x200A) ||
    n = 0x2028 || n = 0x2029 || n = 0x202F || n = 0x205F || n = 0x3000 || n = 0xFEFF

/-- `event.type === 'completed' || event.type === 'failed'`. -/
def isFinal (event : Json) : Bool :=
  match (event.get "type").bind Json.asStr with
  | some type => type = "completed" || type = "failed"
  | none => false

variable (parse : String → Option Json)

def readLine (line : List Char) : List Callback × Bool :=
  if "data:".toList.isPrefixOf line then
    let jsonStr := String.ofList (Text.trimChars isSpace (line.drop 5))
    if jsonStr ≠ "" ∧ jsonStr ≠ "ping" then
      match parse jsonStr with
      | some event =>
          if isFinal event then ([.onEvent event, .onComplete], true) else ([.onEvent event], false)
      | none => ([], false)
    else ([], false)
  else ([], false)

def readLines : List (List Char) → List Callback × Bool
  | [] => ([], false)
  | line :: lines =>
      if (readLine parse line).2 then readLine parse line
      else ((readLine parse line).1 ++ (readLines lines).1, (readLines lines).2)

/-- One chunk after the other; the last line of `buffer.split('\n')` stays in the buffer. -/
def readChunks (decoder : Utf8.TextDecoder) (buffer : List Char) : List (List Nat) → List Callback
  | [] => [.onComplete]
  | value :: chunks =>
      let (decoder, text) := decoder.decode value
      let (calls, returned) := readLines parse (ended '\n' (buffer ++ text))
      if returned then calls else calls ++ readChunks decoder (unended '\n' (buffer ++ text)) chunks

/-- What the callbacks of `generateDomain` are called with, given the chunks of the response. -/
def generateDomain (chunks : List (List Nat)) : List Callback := readChunks parse {} [] chunks

variable {parse}

theorem readLines_append (xs ys : List (List Char)) :
    readLines parse (xs ++ ys) =
      if (readLines parse xs).2 then readLines parse xs
      else ((readLines parse xs).1 ++ (readLines parse ys).1, (readLines parse ys).2) := by
  induction xs with
  | nil => rfl
  | cons line xs ih =>
      rw [List.cons_append, readLines, readLines, ih]
      by_cases hline : (readLine parse line).2 = true
      · rw [if_pos hline, if_pos hline, if_pos hline]
      · rw [if_neg hline, if_neg hline]
        by_cases hxs : (readLines parse xs).2 = true
        · rw [if_pos hxs, if_pos hxs]
        · rw [if_neg hxs, if_neg hxs, List.append_assoc]

/-- The end of the stream completes the reading of what did not return by itself. -/
def atEnd (x : List Callback × Bool) : List Callback := if x.2 then x.1 else x.1 ++ [.onComplete]

theorem readChunks_eq (decoder : Utf8.TextDecoder) (buffer : List Char) (chunks : List (List Nat)) :
    readChunks parse decoder buffer chunks =
      atEnd (readLines parse (endedByChunk '\n' buffer (decoder.decodeAll chunks)).flatten) := by
  induction chunks generalizing decoder buffer with
  | nil => rfl
  | cons value chunks ih =>
      rw [readChunks, Utf8.TextDecoder.decodeAll, endedByChunk, List.flatten_cons, readLines_append]
      simp only [ih]
      rw [atEnd]
      by_cases hreturned : (readLines parse (ended '\n' (buffer ++ (decoder.decode value).2))).2 = true
      · rw [if_pos hreturned, if_pos hreturned, atEnd, if_pos hreturned]
      · rw [if_neg hreturned, if_neg hreturned, atEnd]
        simp only
        split
        · rfl
        · rw [List.append_assoc]

end HttpService

section Reading

variable {stringify : Json → String} {generationTimeMs : Nat} {parse : String → Option Json}

open HttpService

theorem isFinal_toJson (e : SseEvent) : isFinal (e.toJson generationTimeMs) = e.isFinal := by
  cases e <;> rfl

theorem trimChars_space {cs : List Char} (hopens : cs.head? = some '{')
    (hcloses : cs.getLast? = some '}') : Text.trimChars isSpace (' ' :: cs) = cs := by
  have hspace : ∀ c ∈ [' '], isSpace c = true := by
    intro c hc
    obtain rfl := List.mem_singleton.1 hc
    rfl
  have hnone : ∀ c ∈ ([] : List Char), isSpace c = true :=
    fun c hc => absurd hc List.not_mem_nil
  have h := Text.trimChars_blank hopens (by decide) hcloses (by decide) hspace hnone
  rwa [List.append_nil, List.singleton_append] at h

theorem readLine_event {e : SseEvent} (h : Renders stringify generationTimeMs parse e) :
    readLine parse ((Frame.event e).line stringify generationTimeMs) =
      if e.isFinal then ([.onEvent (e.toJson generationTimeMs), .onComplete], true)
      else ([.onEvent (e.toJson generationTimeMs)], false) := by
  generalize htext : stringify (e.toJson generationTimeMs) = text
  have hopens := h.opens
  have hcloses := h.closes
  have hparsed := h.parsed
  rw [htext] at hopens hcloses hparsed
  have htrim : String.ofList (Text.trimChars isSpace
      (((Frame.event e).line stringify generationTimeMs).drop 5)) = text := by
    rw [Frame.line_event, htext]
    change String.ofList (Text.trimChars isSpace (' ' :: text.toList)) = text
    rw [trimChars_space hopens hcloses, String.ofList_toList]
  have hne : text ≠ "" ∧ text ≠ "ping" := by
    constructor
    · rintro rfl
      cases hopens
    · rintro rfl
      revert hopens
      decide
  have hdata : "data:".toList.isPrefixOf ((Frame.event e).line stringify generationTimeMs) = true := by
    rw [Frame.line_event]
    rfl
  rw [readLine, if_pos hdata]
  simp only [htrim, hparsed, if_pos hne, isFinal_toJson]

theorem readLine_keepAlive :
    readLine parse (Frame.keepAlive.line stringify generationTimeMs) = ([], false) := rfl

theorem readLine_nil : readLine parse [] = ([], false) := rfl

def throughFirst {α : Type} (p : α → Bool) : List α → List α
  | [] => []
  | x :: xs => if p x then [x] else x :: throughFirst p xs

theorem notMem_line {frame : Frame}
    (h : ∀ e, frame.sent = some e → Renders stringify generationTimeMs parse e) :
    '\n' ∉ frame.line stringify generationTimeMs := by
  cases frame with
  | keepAlive =>
      rw [Frame.line_keepAlive]
      decide
  | event e =>
      rw [Frame.line_event, List.mem_append, not_or]
      exact ⟨by decide, (h e rfl).oneLine⟩

theorem ended_createSseStream {frames : List Frame}
    (h : ∀ e ∈ frames.filterMap Frame.sent, Renders stringify generationTimeMs parse e) :
    ended '\n' (createSseStream stringify generationTimeMs frames) =
      frames.flatMap (fun frame => [frame.line stringify generationTimeMs, []]) := by
  induction frames with
  | nil => rfl
  | cons frame frames ih =>
      have hframe : ∀ e, frame.sent = some e → Renders stringify generationTimeMs parse e := by
        intro e he
        apply h
        rw [List.filterMap_cons_some he]
        exact List.mem_cons_self
      have hframes : ∀ e ∈ frames.filterMap Frame.sent,
          Renders stringify generationTimeMs parse e := by
        intro e he
        apply h
        rw [List.mem_filterMap] at he ⊢
        obtain ⟨f, hf, hfe⟩ := he
        exact ⟨f, List.mem_cons_of_mem _ hf, hfe⟩
      rw [createSseStream, List.flatMap_cons, List.append_assoc]
      change ended '\n' (_ ++ '\n' :: ([] ++ '\n' :: createSseStream stringify generationTimeMs frames)) = _
      rw [ended_append_cons, ended_append_cons, ih hframes,
        List.splitOn_eq_singleton (notMem_line hframe), List.splitOn_nil, List.flatMap_cons]
      rfl

theorem readLines_frame (line : List Char) (rest : List (List Char)) :
    readLines parse (line :: [] :: rest) =
      if (readLine parse line).2 then readLine parse line
      else ((readLine parse line).1 ++ (readLines parse rest).1, (readLines parse rest).2) := by
  have hblank : readLines parse ([] :: rest) = readLines parse rest := by
    rw [readLines, readLine_nil, if_neg Bool.false_ne_true]
    rfl
  rw [readLines, hblank]

theorem atEnd_cons (call : Callback) (x : List Callback × Bool) :
    atEnd ([call] ++ x.1, x.2) = call :: atEnd x := by
  rw [atEnd, atEnd]
  cases x.2 <;> rfl

theorem atEnd_readLines {frames : List Frame}
    (h : ∀ e ∈ frames.filterMap Frame.sent, Renders stringify generationTimeMs parse e) :
    atEnd (readLines parse
        (frames.flatMap (fun frame => [frame.line stringify generationTimeMs, []]))) =
      (throughFirst SseEvent.isFinal (frames.filterMap Frame.sent)).map
        (fun e => .onEvent (e.toJson generationTimeMs)) ++ [.onComplete] := by
  induction frames with
  | nil => rfl
  | cons frame frames ih =>
      have ih := ih fun e he => h e (by
        rw [List.mem_filterMap] at he ⊢
        obtain ⟨f, hf, hfe⟩ := he
        exact ⟨f, List.mem_cons_of_mem _ hf, hfe⟩)
      rw [List.flatMap_cons, List.cons_append, List.cons_append, List.nil_append, readLines_frame]
      cases frame with
      | keepAlive =>
          rw [readLine_keepAlive, if_neg Bool.false_ne_true, List.filterMap_cons_none rfl]
          exact ih
      | event e =>
          have hsent : (Frame.event e :: frames).filterMap Frame.sent =
              e :: frames.filterMap Frame.sent := rfl
          have he : Renders stringify generationTimeMs parse e := h e (hsent ▸ List.mem_cons_self)
          rw [readLine_event he, hsent, throughFirst]
          cases e.isFinal with
          | true => rfl
          | false =>
              simp only [Bool.false_eq_true, if_false]
              rw [atEnd_cons, ih]
              rfl

theorem head_createSseStream (frames : List Frame) :
    (createSseStream stringify generationTimeMs frames).head? ≠ some Utf8.TextDecoder.bom := by
  have hd : (some 'd' : Option Char) ≠ some Utf8.TextDecoder.bom := by decide
  have hcolon : (some ':' : Option Char) ≠ some Utf8.TextDecoder.bom := by decide
  cases frames with
  | nil => exact fun h => by cases h
  | cons frame frames =>
      cases frame with
      | event e => exact hd
      | keepAlive => exact hcolon

/-- Whatever the cuts, the client is called back with the events the server
sent, up to the first final one, and is told once that this was all. -/
theorem generateDomain_chunkInvariant (stringify : Json → String) (parse : String → Option Json)
    (generationTimeMs : Nat) (frames : List Frame)
    (hrenders : ∀ e ∈ frames.filterMap Frame.sent, Renders stringify generationTimeMs parse e)
    (chunks : List (List Nat))
    (hchunks : chunks.flatten = Utf8.encode (createSseStream stringify generationTimeMs frames)) :
    HttpService.generateDomain parse chunks =
      (throughFirst SseEvent.isFinal (frames.filterMap Frame.sent)).map
        (fun e => .onEvent (e.toJson generationTimeMs)) ++ [.onComplete] := by
  have htext : ((Utf8.TextDecoder.mk {} false).decodeAll chunks).flatten =
      createSseStream stringify generationTimeMs frames := by
    rw [Utf8.TextDecoder.flatten_decodeAll]
    · rw [hchunks, Utf8.Decoder.decode_encode]
    · right
      rw [hchunks, Utf8.Decoder.decode_encode]
      exact head_createSseStream frames
  rw [HttpService.generateDomain, readChunks_eq, flatten_endedByChunk [] List.not_mem_nil,
    List.nil_append, htext, ended_createSseStream hrenders]
  exact atEnd_readLines hrenders

end Reading

section Example

def twoTexts : Json → String
  | .object (("type", .str "started") :: _) =>
      "\x7b\"type\":\"started\",\"domainName\":\"Schach ♞\",\"totalAgents\":7\x7d"
  | _ => "\x7b\"type\":\"failed\",\"error\":\"\",\"lastAgent\":null,\"nodesCreatedBeforeFailure\":null\x7d"

def parseTwo (text : String) : Option Json :=
  if text = twoTexts ((SseEvent.started "Schach ♞" 7).toJson 0) then
    some ((SseEvent.started "Schach ♞" 7).toJson 0)
  else if text = twoTexts ((SseEvent.failed "" none none).toJson 0) then
    some ((SseEvent.failed "" none none).toJson 0)
  else none

def twoFrames : List Frame :=
  [.event (.started "Schach ♞" 7), .keepAlive, .event (.failed "" none none)]

theorem renders_two : ∀ e ∈ twoFrames.filterMap Frame.sent, Renders twoTexts 0 parseTwo e := by
  intro e he
  have he : e = .started "Schach ♞" 7 ∨ e = .failed "" none none := by
    simpa [twoFrames, Frame.sent, eq_comm] using he
  rcases he with rfl | rfl
  · exact ⟨by decide +kernel, by decide +kernel, by decide +kernel, by rfl⟩
  · exact ⟨by decide +kernel, by decide +kernel, by decide +kernel, by rfl⟩

theorem generateDomain_byteByByte :
    HttpService.generateDomain parseTwo
        ((Utf8.encode (createSseStream twoTexts 0 twoFrames)).map (fun b => [b])) =
      [.onEvent ((SseEvent.started "Schach ♞" 7).toJson 0),
        .onEvent ((SseEvent.failed "" none none).toJson 0), .onComplete] := by
  apply generateDomain_chunkInvariant twoTexts parseTwo 0 twoFrames renders_two
  rw [← List.flatMap_def]
  exact List.flatMap_singleton' _

end Example

end AtlasOfUs.Agent
