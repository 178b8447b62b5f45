import AtlasOfUs.Agent.AsyncGeneration
import AtlasOfUs.Agent.EventStream
import AtlasOfUs.Agent.Verdict
import AtlasOfUs.Library.Channel

namespace AtlasOfUs.Agent

open Library GraphApi

section Channel

def channelCapacity : Nat := 64

/-- What a call puts into the channel, as `send_event` and `emit_event` do. -/
def channelEvent : Op SseEvent Prompt → Option SseEvent
  | .send event => some event
  | _ => none

abbrev Spawned := Pipe (services SseEvent Prompt) String DomainGenerationResult World SseEvent

/-- The generation that a request starts in the background, or the response that is not ok. -/
def generateDomainSse (codec : AsyncCodec) (tables : DomainArchitectStep.CharTables)
    (createProvider : Except String Unit) (request : GenerateDomainRequest) (w : World) :
    Except Handlers.ErrorResponse Spawned :=
  if !request.isValid then
    .error (AsyncGeneration.failure 400 "Validation failed" (codec.violations request))
  else
    match createProvider with
    | .ok _ =>
        .ok (.start (generateDomain codec.toCodec tables request.domainName request.description) w)
    | .error e =>
        .error (AsyncGeneration.failure 500 "Failed to initialize agent orchestrator" e)

def Spawned.after (env : Env) (schedule : Nat → Move) (generation : Spawned) (k : Nat) :
    Spawned :=
  Pipe.after env.handler channelEvent channelCapacity schedule generation k

theorem messages_channelEvent (calls : List AgentCall) :
    Pipe.messages channelEvent calls = sent calls := by
  apply List.filterMap_congr
  rintro ⟨o, r⟩ -
  cases o <;> rfl

end Channel

namespace HttpService

variable (parse : String → Option Json)

/-- The callbacks for the chunks that have come so far, and whether the reader has returned. -/
def readSoFar (decoder : Utf8.TextDecoder) (buffer : List Char) :
    List (List Nat) → List Callback × Bool
  | [] => ([], false)
  | value :: chunks =>
      let (decoder, text) := decoder.decode value
      let (calls, returned) := readLines parse (ended '\n' (buffer ++ text))
      if returned then (calls, true)
      else
        let rest := readSoFar decoder (unended '\n' (buffer ++ text)) chunks
        (calls ++ rest.1, rest.2)

variable {parse}

theorem readSoFar_eq (decoder : Utf8.TextDecoder) (buffer : List Char) (chunks : List (List Nat)) :
    readSoFar parse decoder buffer chunks =
      readLines parse (endedByChunk '\n' buffer (decoder.decodeAll chunks)).flatten := by
  induction chunks generalizing decoder buffer with
  | nil => rfl
  | cons value chunks ih =>
      rw [readSoFar, Utf8.TextDecoder.decodeAll, endedByChunk, List.flatten_cons, readLines_append]
      simp only [ih]
      split
      · next h => rw [← h]
      · rfl

theorem generateDomain_eq_atEnd (chunks : List (List Nat)) :
    generateDomain parse chunks = atEnd (readSoFar parse {} [] chunks) := by
  rw [generateDomain, readChunks_eq, readSoFar_eq]

theorem prefix_atEnd (x : List Callback × Bool) : x.1 <+: atEnd x := by
  rw [atEnd]
  split
  · exact List.prefix_refl _
  · exact List.prefix_append _ _

theorem readLines_mono {xs ys : List (List Char)} (h : xs <+: ys) :
    (readLines parse xs).1 <+: (readLines parse ys).1 := by
  obtain ⟨zs, rfl⟩ := h
  rw [readLines_append]
  split
  · exact List.prefix_refl _
  · exact List.prefix_append _ _

end HttpService

section Reading

variable {stringify : Json → String} {generationTimeMs : Nat} {parse : String → Option Json}

open HttpService

variable (parse) in
/-- Wherever the bytes that have come are cut, they are read as the lines that end in them. -/
theorem readSoFar_lines {frames : List Frame} {chunks : List (List Nat)}
    (hchunks : chunks.flatten <+: Utf8.encode (createSseStream stringify generationTimeMs frames)) :
    ∃ text, text <+: createSseStream stringify generationTimeMs frames ∧
      (chunks.flatten = Utf8.encode (createSseStream stringify generationTimeMs frames) →
        text = createSseStream stringify generationTimeMs frames) ∧
      readSoFar parse {} [] chunks = readLines parse (ended '\n' text) := by
  obtain ⟨rest, hrest⟩ := hchunks
  have hdecode := Utf8.Decoder.decode_encode (createSseStream stringify generationTimeMs frames)
  rw [← hrest, Utf8.Decoder.decode_append] at hdecode
  have hwhole := congrArg Prod.snd hdecode
  have hprefix : (({} : Utf8.Decoder).decode chunks.flatten).2 <+:
      createSseStream stringify generationTimeMs frames := ⟨_, hwhole⟩
  refine ⟨_, hprefix, ?_, ?_⟩
  · intro hall
    rw [hall, Utf8.Decoder.decode_encode]
  · rw [readSoFar_eq, flatten_endedByChunk [] List.not_mem_nil, List.nil_append,
      Utf8.TextDecoder.flatten_decodeAll]
    right
    intro hbom
    apply @head_createSseStream stringify generationTimeMs frames
    obtain ⟨more, hmore⟩ := hprefix
    rw [← hmore, List.head?_append, hbom]
    rfl

/-- What the client has been called back with is a beginning of what the events make it be called
back with. -/
theorem readSoFar_begins {frames : List Frame} {chunks : List (List Nat)}
    (hrenders : ∀ e ∈ frames.filterMap Frame.sent, Renders stringify generationTimeMs parse e)
    (hchunks : chunks.flatten <+: Utf8.encode (createSseStream stringify generationTimeMs frames)) :
    (readSoFar parse {} [] chunks).1 <+:
      (throughFirst SseEvent.isFinal (frames.filterMap Frame.sent)).map
        (fun e => .onEvent (e.toJson generationTimeMs)) ++ [.onComplete] := by
  obtain ⟨text, ⟨more, hmore⟩, -, hread⟩ := readSoFar_lines parse hchunks
  rw [hread, ← atEnd_readLines hrenders, ← ended_createSseStream hrenders, ← hmore, ended_append]
  exact (readLines_mono (List.prefix_append _ _)).trans (prefix_atEnd _)

theorem atEnd_readSoFar {frames : List Frame} {chunks : List (List Nat)}
    (hrenders : ∀ e ∈ frames.filterMap Frame.sent, Renders stringify generationTimeMs parse e)
    (hchunks : chunks.flatten = Utf8.encode (createSseStream stringify generationTimeMs frames)) :
    atEnd (readSoFar parse {} [] chunks) =
      (throughFirst SseEvent.isFinal (frames.filterMap Frame.sent)).map
        (fun e => .onEvent (e.toJson generationTimeMs)) ++ [.onComplete] := by
  obtain ⟨text, -, hall, hread⟩ := readSoFar_lines parse ⟨[], by rw [List.append_nil, hchunks]⟩
  rw [hread, hall hchunks, ended_createSseStream hrenders,
    atEnd_readLines hrenders]

theorem throughFirst_of_none {α : Type} {p : α → Bool} {xs : List α} (h : ∀ x ∈ xs, p x = false) :
    throughFirst p xs = xs := by
  induction xs with
  | nil => rfl
  | cons x xs ih =>
      rw [throughFirst, h x List.mem_cons_self, ih fun y hy => h y (List.mem_cons_of_mem _ hy)]
      rfl

theorem throughFirst_concat {α : Type} {p : α → Bool} {xs : List α} (h : ∀ x ∈ xs, p x = false)
    (y : α) : throughFirst p (xs ++ [y]) = xs ++ [y] := by
  induction xs with
  | nil =>
      change (if p y then [y] else [y]) = [y]
      split <;> rfl
  | cons x xs ih =>
      rw [List.cons_append, throughFirst, h x List.mem_cons_self,
        ih fun y hy => h y (List.mem_cons_of_mem _ hy)]
      rfl

theorem throughFirst_prefix_self {α : Type} (p : α → Bool) (xs : List α) :
    throughFirst p xs <+: xs := by
  induction xs with
  | nil => exact List.nil_prefix
  | cons x xs ih =>
      rw [throughFirst]
      split
      · exact List.cons_prefix_cons.2 ⟨rfl, List.nil_prefix⟩
      · exact List.cons_prefix_cons.2 ⟨rfl, ih⟩

end Reading

end AtlasOfUs.Agent
