import AtlasOfUs.Agent.Streaming
import AtlasOfUs.Editor.HttpService
import AtlasOfUs.Viewer.NodeTree

namespace AtlasOfUs.Agent

open Library GraphApi HttpService
open Viewer (truthy)
open Editor.HttpService (orElse)

inductive GeneratorState
  | loading
  | similarDomains
  | form
  | generating
  | completed
  | error
  deriving DecidableEq

structure DomainGenerator where
  domainName : String
  pageState : GeneratorState := .loading
  description : String := ""
  generationEvents : List Json := []
  currentAgent : Option Json := none
  completedAgents : Nat := 0
  error : Option String := none
  statistics : Option Json := none
  abortRef : Bool := false

namespace DomainGenerator

/-- The reset page and the request that it sends, if there is a description. -/
def handleStartGeneration (page : DomainGenerator) :
    DomainGenerator × Option GenerateDomainRequest :=
  if Text.trimChars isSpace page.description.toList = [] then
    ({ page with error := some "Please provide a description for the domain" }, none)
  else
    ({ page with
        pageState := .generating
        generationEvents := []
        error := none
        currentAgent := none
        completedAgents := 0
        statistics := none
        abortRef := true },
      some ⟨page.domainName, some page.description⟩)

def onEvent (page : DomainGenerator) (event : Json) : DomainGenerator :=
  let page := { page with generationEvents := page.generationEvents ++ [event] }
  match (event.get "type").bind Json.asStr with
  | some "agent_started" => { page with currentAgent := (event.get "agent").filter truthy }
  | some "agent_completed" => { page with completedAgents := page.completedAgents + 1 }
  | some "completed" =>
      { page with
        statistics := (event.get "statistics").filter truthy
        pageState := .completed }
  | some "failed" =>
      { page with
        error := some (orElse ((event.get "error").bind Json.asStr) "Generation failed")
        pageState := .error }
  | _ => page

def onError (page : DomainGenerator) (err : String) : DomainGenerator :=
  { page with error := some err, pageState := .error }

def onCallback (page : DomainGenerator) : Callback → DomainGenerator
  | .onEvent event => page.onEvent event
  | .onComplete => { page with abortRef := false }

def afterCallbacks (page : DomainGenerator) (calls : List Callback) : DomainGenerator :=
  calls.foldl onCallback page

def handleCancelGeneration (page : DomainGenerator) : DomainGenerator × Bool :=
  ({ page with abortRef := false, pageState := .form }, page.abortRef)

/-- What becomes of a response: more of it is awaited, it is over, the connection breaks, or the user
cancels. -/
inductive Ending
  | awaited
  | finished
  | broken (message : String)
  | cancelled

/-- The page that has read these chunks of the response. -/
def afterResponse (parse : String → Option Json) (page : DomainGenerator) (chunks : List (List Nat)) :
    Ending → DomainGenerator
  | .awaited => page.afterCallbacks (readSoFar parse {} [] chunks).1
  | .finished => page.afterCallbacks (HttpService.generateDomain parse chunks)
  | .broken message =>
      let read := readSoFar parse {} [] chunks
      if read.2 then page.afterCallbacks read.1 else (page.afterCallbacks read.1).onError message
  | .cancelled => (page.afterCallbacks (readSoFar parse {} [] chunks).1).handleCancelGeneration.1

def totalAgents : Nat := 6

def progressText (page : DomainGenerator) : String :=
  toString page.completedAgents ++ " of " ++ toString totalAgents ++ " agents completed"

section Events

variable (generationTimeMs : Nat)

def afterEvents (page : DomainGenerator) (events : List SseEvent) : DomainGenerator :=
  events.foldl (fun page e => page.onEvent (e.toJson generationTimeMs)) page

variable {generationTimeMs} {page : DomainGenerator} {events : List SseEvent}

theorem afterEvents_append (page : DomainGenerator) (xs ys : List SseEvent) :
    page.afterEvents generationTimeMs (xs ++ ys) =
      (page.afterEvents generationTimeMs xs).afterEvents generationTimeMs ys :=
  List.foldl_append

theorem onEvent_generationEvents (page : DomainGenerator) (e : SseEvent) :
    (page.onEvent (e.toJson generationTimeMs)).generationEvents =
      page.generationEvents ++ [e.toJson generationTimeMs] := by
  cases e <;> rfl

theorem onEvent_completedAgents (page : DomainGenerator) (e : SseEvent) :
    (page.onEvent (e.toJson generationTimeMs)).completedAgents =
      page.completedAgents + agentsEnded [e] := by
  cases e <;> rfl

theorem onEvent_pageState (page : DomainGenerator) {e : SseEvent} (he : e.isFinal = false) :
    (page.onEvent (e.toJson generationTimeMs)).pageState = page.pageState := by
  cases e with
  | completed name stats | failed error agent registry => cases he
  | _ => rfl

theorem afterEvents_generationEvents (page : DomainGenerator) (events : List SseEvent) :
    (page.afterEvents generationTimeMs events).generationEvents =
      page.generationEvents ++ events.map (SseEvent.toJson generationTimeMs) := by
  induction events generalizing page with
  | nil => exact (List.append_nil _).symm
  | cons e events ih =>
      change ((page.onEvent (e.toJson generationTimeMs)).afterEvents _ events).generationEvents = _
      rw [ih, onEvent_generationEvents, List.append_assoc]
      rfl

variable (generationTimeMs) in
theorem afterEvents_completedAgents (page : DomainGenerator) (events : List SseEvent) :
    (page.afterEvents generationTimeMs events).completedAgents =
      page.completedAgents + agentsEnded events := by
  induction events generalizing page with
  | nil => rfl
  | cons e events ih =>
      change ((page.onEvent (e.toJson generationTimeMs)).afterEvents _ events).completedAgents = _
      have hsplit : agentsEnded (e :: events) = agentsEnded [e] + agentsEnded events :=
        agentsEnded_append [e] events
      rw [ih, onEvent_completedAgents, hsplit, Nat.add_assoc]

theorem afterEvents_pageState (page : DomainGenerator) (hquiet : ∀ e ∈ events, e.isFinal = false) :
    (page.afterEvents generationTimeMs events).pageState = page.pageState := by
  induction events generalizing page with
  | nil => rfl
  | cons e events ih =>
      change ((page.onEvent (e.toJson generationTimeMs)).afterEvents _ events).pageState = _
      rw [ih _ fun e he => hquiet e (List.mem_cons_of_mem _ he),
        onEvent_pageState page (hquiet e List.mem_cons_self)]

/-- The callbacks of a beginning of the stream are those of some of its first events. -/
theorem exists_afterEvents {calls : List Callback}
    (hcalls : calls <+: events.map (fun e => .onEvent (e.toJson generationTimeMs)) ++ [.onComplete])
    (page : DomainGenerator) : ∃ seen b, seen <+: events ∧
      page.afterCallbacks calls = { page.afterEvents generationTimeMs seen with abortRef := b } := by
  have hfold : ∀ seen : List SseEvent,
      page.afterCallbacks (seen.map (fun e => .onEvent (e.toJson generationTimeMs))) =
        page.afterEvents generationTimeMs seen := fun seen => List.foldl_map
  rcases List.prefix_concat_iff.1 hcalls with rfl | hcalls
  · refine ⟨events, false, List.prefix_refl _, ?_⟩
    rw [← hfold events]
    exact List.foldl_append
  · obtain ⟨seen, hseen, rfl⟩ := List.prefix_map_iff.1 hcalls
    exact ⟨seen, _, hseen, hfold seen⟩

end Events

section Shown

variable (generationTimeMs : Nat)

/-- What the page shows after some of the events of a run, and what it then is to the run. -/
inductive Shows (passes : Prop)
    (x : Execution (services SseEvent Prompt) String DomainGenerationResult World)
    (seen : List SseEvent) (page : DomainGenerator) : Prop
  | going (hstate : page.pageState = .generating)
      (hopen : seen = sent x.calls → (∀ result, x.exit ≠ .ok result) ∧ ∀ e, x.exit = .err e → ¬ passes)
  | completed (result : DomainGenerationResult) (hexit : x.exit = .ok result)
      (hall : seen = sent x.calls) (hstate : page.pageState = .completed)
      (hstatistics : page.statistics = some (result.statistics.toJson generationTimeMs))
      (hcompleted : page.completedAgents = 7)
  | failed (e : String) (hexit : x.exit = .err e) (hpasses : passes)
      (hall : seen = sent x.calls) (hstate : page.pageState = .error)
      (herror : page.error = some (orElse (some e) "Generation failed"))
      (hcompleted : page.completedAgents < 7)

structure Fresh (page : DomainGenerator) : Prop where
  state : page.pageState = .generating
  events : page.generationEvents = []
  completed : page.completedAgents = 0

theorem fresh_start {page start : DomainGenerator} {request : GenerateDomainRequest}
    (h : page.handleStartGeneration = (start, some request)) : start.Fresh := by
  rw [handleStartGeneration] at h
  split at h
  · cases h
  · obtain ⟨rfl, -⟩ := Prod.mk.inj h
    exact ⟨rfl, rfl, rfl⟩

variable {generationTimeMs} {passes : Prop} {page : DomainGenerator} {seen : List SseEvent}
  {x : Execution (services SseEvent Prompt) String DomainGenerationResult World}

theorem Fresh.generating (hpage : page.Fresh) {calls : List AgentCall} (hquiet : Quiet calls)
    (hseen : seen <+: sent calls) :
    (page.afterEvents generationTimeMs seen).pageState = .generating := by
  rw [afterEvents_pageState page fun e he => hquiet e (hseen.subset he), hpage.state]

variable (generationTimeMs) in
theorem Fresh.shows (hpage : page.Fresh) (hx : Concluded passes x) (hseen : seen <+: sent x.calls) :
    Shows generationTimeMs passes x seen (page.afterEvents generationTimeMs seen) := by
  have hcount := afterEvents_completedAgents generationTimeMs page seen
  rw [hpage.completed, Nat.zero_add] at hcount
  cases hexit : x.exit with
  | ok result =>
      obtain ⟨before, hcalls, hquiet, hseven⟩ := hx.value result hexit
      have hsent : sent x.calls =
          sent before ++ [.completed result.domainName result.statistics] := by
        rw [hcalls, sent_append]
        rfl
      rw [hsent] at hseen
      rcases List.prefix_concat_iff.1 hseen with hall | hbefore
      · refine .completed result hexit (hall.trans hsent.symm) ?_ ?_ ?_
        · rw [hall, afterEvents_append]
          rfl
        · rw [hall, afterEvents_append]
          rfl
        · rw [hcount, hall, agentsEnded_append, hseven]
          rfl
      · refine .going (hpage.generating hquiet hbefore) fun hall => ?_
        have hlength := hbefore.length_le
        rw [hall, hsent, List.length_append, List.length_singleton] at hlength
        omega
  | err e =>
      by_cases hpasses : passes
      · have hfailure := hx.error e hexit hpasses
        obtain ⟨before, agent, registry, hcalls, hquiet⟩ := hfailure.report
        have hsent : sent x.calls = sent before ++ [.failed e agent registry] := by
          rw [hcalls, sent_append]
          rfl
        have hseen' := hseen
        rw [hsent] at hseen'
        rcases List.prefix_concat_iff.1 hseen' with hall | hbefore
        · refine .failed e hexit hpasses (hall.trans hsent.symm) ?_ ?_ ?_
          · rw [hall, afterEvents_append]
            rfl
          · rw [hall, afterEvents_append]
            rfl
          · rw [hcount, hall, ← hsent]
            exact hfailure.few
        · refine .going (hpage.generating hquiet hbefore) fun hall => ?_
          have hlength := hbefore.length_le
          rw [hall, hsent, List.length_append, List.length_singleton] at hlength
          omega
      · refine .going (hpage.generating (hx.stopped hpasses).2 hseen) fun _ => ⟨?_, fun _ _ => hpasses⟩
        rw [hexit]
        exact fun result h => by cases h
  | panicked =>
      refine .going (hpage.generating (hx.panic hexit) hseen) fun _ => ?_
      rw [hexit]
      exact ⟨fun result h => (by cases h), fun e h => (by cases h)⟩

end Shown

section Runs

variable {codec : AsyncCodec} {tables : DomainArchitectStep.CharTables} {env : Env} {w : World}
  {provider : Except String Unit} {request : GenerateDomainRequest} {generation : Spawned}

theorem generateDomainSse_ok (h : generateDomainSse codec tables provider request w = .ok generation) :
    generation =
      .start (generateDomain codec.toCodec tables request.domainName request.description) w := by
  unfold generateDomainSse at h
  split at h
  · cases h
  · cases provider with
    | ok _ => exact (Except.ok.inj h).symm
    | error e => cases h

variable (env)

theorem follows_generation (h : generateDomainSse codec tables provider request w = .ok generation)
    (schedule : Nat → Move) (k : Nat) :
    Pipe.Follows env.handler channelEvent
      (generateDomain codec.toCodec tables request.domainName request.description) w
      (generation.after env schedule k) := by
  rw [generateDomainSse_ok h]
  exact Pipe.follows_after schedule _ w k

theorem received_begins (h : generateDomainSse codec tables provider request w = .ok generation)
    (schedule : Nat → Move) (k : Nat) : (generation.after env schedule k).received <+:
      sent (env.exec (generateDomain codec.toCodec tables request.domainName request.description)
        w).calls := by
  rw [← messages_channelEvent]
  exact (follows_generation env h schedule k).received

variable {env}

/-- Events that the server has taken from the channel, in frames, and the bytes of them that have
come to the client, in chunks. -/
structure Arrives (stringify : Json → String) (parse : String → Option Json) (generationTimeMs : Nat)
    (received : List SseEvent) (frames : List Frame) (chunks : List (List Nat)) : Prop where
  framed : frames.filterMap Frame.sent = received
  renders : ∀ e ∈ received, Renders stringify generationTimeMs parse e
  bytes : chunks.flatten <+: Utf8.encode (createSseStream stringify generationTimeMs frames)

/-- What a page says of a run, in a world, is so. Of the run it says nothing once it shows that the
connection broke. -/
structure Truthful (generationTimeMs : Nat) (ending : Ending) (page : DomainGenerator)
    (x : Execution (services SseEvent Prompt) String DomainGenerationResult World) (world : World) :
    Prop where
  log : page.generationEvents <+: (sent x.calls).map (SseEvent.toJson generationTimeMs)
  state : page.pageState = .generating ∨ page.pageState = .completed ∨ page.pageState = .error ∨
    page.pageState = .form ∧ ending = .cancelled
  completed : page.pageState = .completed → ∃ result, x.exit = .ok result ∧
    page.statistics = some (result.statistics.toJson generationTimeMs) ∧ page.completedAgents = 7 ∧
    world = x.state
  error : page.pageState = .error →
    (∃ e, x.exit = .err e ∧ page.error = some (orElse (some e) "Generation failed") ∧
      page.completedAgents < 7 ∧ world = x.state) ∨
    ∃ message, ending = .broken message ∧ page.error = some message

theorem Truthful.afterResponse {generationTimeMs : Nat} {page : DomainGenerator}
    {x : Execution (services SseEvent Prompt) String DomainGenerationResult World} {world : World}
    {parse : String → Option Json} {chunks : List (List Nat)}
    (h : Truthful generationTimeMs .awaited (page.afterResponse parse chunks .awaited) x world)
    (ending : Ending) : Truthful generationTimeMs ending (page.afterResponse parse chunks ending) x world := by
  have hread : Truthful generationTimeMs ending (page.afterResponse parse chunks .awaited) x world := by
    refine ⟨h.log, ?_, h.completed, fun herror => .inl ((h.error herror).resolve_right ?_)⟩
    · rcases h.state with hstate | hstate | hstate | ⟨-, hcancelled⟩
      · exact .inl hstate
      · exact .inr (.inl hstate)
      · exact .inr (.inr (.inl hstate))
      · cases hcancelled
    · rintro ⟨message, hbroken, -⟩
      cases hbroken
  cases ending with
  | awaited => exact hread
  | finished =>
      rw [DomainGenerator.afterResponse, generateDomain_eq_atEnd, atEnd]
      split
      · exact hread
      · rw [afterCallbacks, List.foldl_append]
        exact ⟨hread.log, hread.state, hread.completed, hread.error⟩
  | broken message =>
      rw [DomainGenerator.afterResponse]
      split
      · exact hread
      · exact ⟨h.log, .inr (.inr (.inl rfl)), fun hstate => (by cases hstate),
          fun _ => .inr ⟨message, rfl, rfl⟩⟩
  | cancelled =>
      exact ⟨h.log, .inr (.inr (.inr ⟨rfl, rfl⟩)), fun hstate => (by cases hstate),
        fun hstate => (by cases hstate)⟩

variable {stringify : Json → String} {parse : String → Option Json} {generationTimeMs : Nat}
  {received : List SseEvent} {frames : List Frame} {chunks : List (List Nat)}

/-- Reading what has arrived is seeing some of the first events that were taken. -/
theorem Arrives.exists_seen
    (h : Arrives stringify parse generationTimeMs received frames chunks) (page : DomainGenerator) :
    ∃ seen b, seen <+: received ∧
      page.afterCallbacks (readSoFar parse {} [] chunks).1 =
        { page.afterEvents generationTimeMs seen with abortRef := b } := by
  have hread := readSoFar_begins (h.framed.symm ▸ h.renders) h.bytes
  rw [h.framed] at hread
  obtain ⟨seen, b, hseen, hpage⟩ := exists_afterEvents hread page
  exact ⟨seen, b, hseen.trans (throughFirst_prefix_self _ _), hpage⟩

theorem truthful_awaited {page start : DomainGenerator}
    (hstart : page.handleStartGeneration = (start, some request))
    (hgeneration : generateDomainSse codec tables provider request w = .ok generation)
    (schedule : Nat → Move) (k : Nat)
    (harrives : Arrives stringify parse generationTimeMs
      (generation.after env schedule k).received frames chunks) :
    Truthful generationTimeMs .awaited (start.afterResponse parse chunks .awaited)
      (env.exec (generateDomain codec.toCodec tables request.domainName request.description) w)
      (generation.after env schedule k).state := by
  have hfresh := fresh_start hstart
  have hconcluded := concluded_generateDomain codec.toCodec tables env w request.domainName
    request.description
  have hreceived := received_begins env hgeneration schedule k
  obtain ⟨seen, b, hseen, hpage⟩ := harrives.exists_seen start
  rw [DomainGenerator.afterResponse, hpage]
  have hshows := hfresh.shows generationTimeMs hconcluded
    (hseen.trans hreceived)
  have hlog : (start.afterEvents generationTimeMs seen).generationEvents <+:
      (sent (env.exec (generateDomain codec.toCodec tables request.domainName
        request.description) w).calls).map (SseEvent.toJson generationTimeMs) := by
    rw [afterEvents_generationEvents, hfresh.events, List.nil_append]
    exact (hseen.trans hreceived).map _
  have hdone : seen = sent (env.exec (generateDomain codec.toCodec tables request.domainName
        request.description) w).calls →
      (∃ before last, (env.exec (generateDomain codec.toCodec tables request.domainName
        request.description) w).calls = before ++ [⟨.send last, ()⟩] ∧ Quiet before) →
      (generation.after env schedule k).state = (env.exec (generateDomain codec.toCodec tables
        request.domainName request.description) w).state := by
    rintro hall ⟨before, last, hlast, -⟩
    have hwhole := hreceived.eq_of_length_le (hall ▸ hseen.length_le)
    rw [← messages_channelEvent] at hwhole
    exact (follows_generation env hgeneration schedule k).state_of_received hlast rfl hwhole
  cases hshows with
  | going hstate hopen =>
      exact ⟨hlog, .inl hstate, fun h => (by cases hstate.symm.trans h),
        fun h => (by cases hstate.symm.trans h)⟩
  | completed result hexit hall hstate hstatistics hcompleted =>
      have hlast := hconcluded.exists_last (.inl ⟨result, hexit⟩)
      exact ⟨hlog, .inr (.inl hstate), fun _ => ⟨result, hexit, hstatistics, hcompleted,
        hdone hall hlast⟩, fun h => (by cases hstate.symm.trans h)⟩
  | failed e hexit hpasses hall hstate herror hcompleted =>
      have hlast := hconcluded.exists_last (.inr ⟨hpasses, e, hexit⟩)
      exact ⟨hlog, .inr (.inr (.inl hstate)), fun h => (by cases hstate.symm.trans h),
        fun _ => .inl ⟨e, hexit, herror, hcompleted, hdone hall hlast⟩⟩

theorem throughFirst_sent {passes : Prop}
    {x : Execution (services SseEvent Prompt) String DomainGenerationResult World}
    (hx : Concluded passes x) : throughFirst SseEvent.isFinal (sent x.calls) = sent x.calls := by
  have hlast : ∀ before last, x.calls = before ++ [⟨.send last, ()⟩] ∧ Quiet before →
      throughFirst SseEvent.isFinal (sent x.calls) = sent x.calls := by
    rintro before last ⟨hcalls, hquiet⟩
    rw [hcalls, sent_append]
    exact throughFirst_concat hquiet last
  cases hexit : x.exit with
  | ok result =>
      obtain ⟨before, last, hends⟩ := hx.exists_last (.inl ⟨result, hexit⟩)
      exact hlast before last hends
  | err e =>
      by_cases hpasses : passes
      · obtain ⟨before, last, hends⟩ := hx.exists_last (.inr ⟨hpasses, e, hexit⟩)
        exact hlast before last hends
      · exact throughFirst_of_none (hx.stopped hpasses).2
  | panicked => exact throughFirst_of_none (hx.panic hexit)

/-- What a page shows that has read the whole response. -/
structure Told (generationTimeMs : Nat) (passes : Prop) (page : DomainGenerator)
    (x : Execution (services SseEvent Prompt) String DomainGenerationResult World) : Prop where
  log : page.generationEvents = (sent x.calls).map (SseEvent.toJson generationTimeMs)
  completed : page.pageState = .completed ↔ ∃ result, x.exit = .ok result
  error : page.pageState = .error ↔ passes ∧ ∃ e, x.exit = .err e
  going : (∀ result, x.exit ≠ .ok result) → ¬ (passes ∧ ∃ e, x.exit = .err e) →
    page.pageState = .generating
  abortRef : page.abortRef = false

theorem Fresh.told {start : DomainGenerator} (hfresh : start.Fresh) {passes : Prop}
    {x : Execution (services SseEvent Prompt) String DomainGenerationResult World}
    (hx : Concluded passes x)
    (harrives : Arrives stringify parse generationTimeMs (sent x.calls) frames chunks)
    (hbytes : chunks.flatten = Utf8.encode (createSseStream stringify generationTimeMs frames)) :
    Told generationTimeMs passes
      (start.afterCallbacks (HttpService.generateDomain parse chunks)) x := by
  have hpage : start.afterCallbacks (HttpService.generateDomain parse chunks) =
      { start.afterEvents generationTimeMs (sent x.calls) with abortRef := false } := by
    rw [generateDomain_eq_atEnd, atEnd_readSoFar (harrives.framed.symm ▸ harrives.renders) hbytes,
      harrives.framed, throughFirst_sent hx]
    refine List.foldl_append.trans (congrArg (onCallback · .onComplete) ?_)
    exact List.foldl_map
  have hlog : (start.afterEvents generationTimeMs (sent x.calls)).generationEvents =
      (sent x.calls).map (SseEvent.toJson generationTimeMs) := by
    rw [afterEvents_generationEvents, hfresh.events, List.nil_append]
  rw [hpage]
  cases hfresh.shows generationTimeMs hx (List.prefix_refl _) with
  | going hstate hopen =>
      obtain ⟨hnoResult, hnoError⟩ := hopen rfl
      refine ⟨hlog, ⟨fun h => (by cases hstate.symm.trans h), ?_⟩,
        ⟨fun h => (by cases hstate.symm.trans h), ?_⟩, fun _ _ => hstate, rfl⟩
      · rintro ⟨result, hexit⟩
        exact absurd hexit (hnoResult result)
      · rintro ⟨hpasses, e, hexit⟩
        exact absurd hpasses (hnoError e hexit)
  | completed result hexit hall hstate hstatistics hcompleted =>
      refine ⟨hlog, ⟨fun _ => ⟨result, hexit⟩, fun _ => hstate⟩,
        ⟨fun h => (by cases hstate.symm.trans h), ?_⟩, fun hnone => absurd hexit (hnone result), rfl⟩
      rintro ⟨-, e, he⟩
      cases hexit.symm.trans he
  | failed e hexit hpasses hall hstate herror hcompleted =>
      refine ⟨hlog, ⟨fun h => (by cases hstate.symm.trans h), ?_⟩,
        ⟨fun _ => ⟨hpasses, e, hexit⟩, fun _ => hstate⟩,
        fun _ hnone => absurd ⟨hpasses, e, hexit⟩ hnone, rfl⟩
      rintro ⟨result, hresult⟩
      cases hexit.symm.trans hresult

/-- Where neither end of the channel stops for good, the generation comes to its end, with or
without a client. A client that stays is told all of it, and how it has ended unless that is at
the check or by a panic: then the page shows a generation for ever. -/
theorem generatorPage_settles {page start : DomainGenerator}
    (hstart : page.handleStartGeneration = (start, some request))
    (hgeneration : generateDomainSse codec tables provider request w = .ok generation)
    {schedule : Nat → Move} (hfair : Pipe.Fair schedule) :
    ∃ k, (generation.after env schedule k).Settled ∧
      (generation.after env schedule k).state = (env.exec (generateDomain codec.toCodec tables
        request.domainName request.description) w).state ∧
      ((∀ i < k, schedule i ≠ .disconnect) → ∀ (stringify : Json → String)
        (parse : String → Option Json) (generationTimeMs : Nat) (frames : List Frame)
        (chunks : List (List Nat)),
        Arrives stringify parse generationTimeMs (generation.after env schedule k).received frames
          chunks →
        chunks.flatten = Utf8.encode (createSseStream stringify generationTimeMs frames) →
        Told generationTimeMs (PassesCheck env w.clock)
          (start.afterCallbacks (HttpService.generateDomain parse chunks))
          (env.exec (generateDomain codec.toCodec tables request.domainName request.description)
            w)) := by
  obtain ⟨k, hsettled⟩ := Pipe.exists_settled env.handler channelEvent
    (show 0 < channelCapacity by decide) hfair generation
  have hfollows := follows_generation env hgeneration schedule k
  refine ⟨k, hsettled, hfollows.state_of_ended hsettled.ended, ?_⟩
  intro hstays stringify parse generationTimeMs frames chunks harrives hbytes
  have hconnected : (generation.after env schedule k).connected = true := by
    rw [generateDomainSse_ok hgeneration]
    exact Pipe.connected_after hstays
  have hreceived := hfollows.received_of_settled hsettled hconnected
  rw [messages_channelEvent] at hreceived
  rw [hreceived] at harrives
  exact (fresh_start hstart).told (concluded_generateDomain codec.toCodec tables env w
    request.domainName request.description) harrives hbytes

/-- Every generation that succeeds is shown with more agents than there are, before it is shown as
completed. -/
theorem generatorPage_overcounts {page start : DomainGenerator}
    (hstart : page.handleStartGeneration = (start, some request))
    {result : DomainGenerationResult}
    (hexit : (env.exec (generateDomain codec.toCodec tables request.domainName
      request.description) w).exit = .ok result)
    (harrives : Arrives stringify parse generationTimeMs (sent (env.exec (generateDomain
      codec.toCodec tables request.domainName request.description) w).calls) frames chunks) :
    ∃ early : List (List Nat),
      early.flatten <+: Utf8.encode (createSseStream stringify generationTimeMs frames) ∧
      (start.afterCallbacks (readSoFar parse {} [] early).1).pageState = .generating ∧
      (start.afterCallbacks (readSoFar parse {} [] early).1).progressText =
        "7 of 6 agents completed" := by
  have hfresh := fresh_start hstart
  obtain ⟨before, hcalls, hquiet, hseven⟩ := (concluded_generateDomain codec.toCodec tables env w
    request.domainName request.description).value result hexit
  have hsplit := harrives.framed
  rw [hcalls, sent_append, List.filterMap_eq_append_iff] at hsplit
  obtain ⟨frames, rest, rfl, hframes, -⟩ := hsplit
  have hrenders : ∀ e ∈ frames.filterMap Frame.sent, Renders stringify generationTimeMs parse e := by
    intro e he
    apply harrives.renders e
    rw [hcalls, sent_append, ← hframes]
    exact List.mem_append_left _ he
  refine ⟨[Utf8.encode (createSseStream stringify generationTimeMs frames)], ?_, ?_⟩
  · rw [List.flatten_singleton, createSseStream, createSseStream, List.flatMap_append, Utf8.encode,
      Utf8.encode, List.flatMap_append]
    exact List.prefix_append _ _
  have hread := atEnd_readSoFar hrenders List.flatten_singleton
  rw [hframes, throughFirst_of_none hquiet] at hread
  have hpage : ∃ b, start.afterCallbacks (readSoFar parse {} []
      [Utf8.encode (createSseStream stringify generationTimeMs frames)]).1 =
        { start.afterEvents generationTimeMs (sent before) with abortRef := b } := by
    have hfold : start.afterCallbacks ((sent before).map fun e =>
        .onEvent (e.toJson generationTimeMs)) = start.afterEvents generationTimeMs (sent before) :=
      List.foldl_map
    rw [atEnd] at hread
    split at hread
    · rw [hread]
      refine ⟨false, List.foldl_append.trans (congrArg (onCallback · .onComplete) hfold)⟩
    · rw [List.append_cancel_right hread]
      exact ⟨_, hfold⟩
  obtain ⟨b, hpage⟩ := hpage
  rw [hpage]
  refine ⟨hfresh.generating hquiet (List.prefix_refl _), ?_⟩
  change toString (start.afterEvents generationTimeMs (sent before)).completedAgents ++ _ ++ _ ++ _ = _
  rw [afterEvents_completedAgents, hfresh.completed, hseven]
  rfl

end Runs

section Example

/-- The page of a domain that is not there yet, with a description. -/
def chessPage : DomainGenerator :=
  { domainName := "Chess", pageState := .form, description := "Boards" }

def chessRequest : GenerateDomainRequest := ⟨"Chess", some "Boards"⟩

def chessCodec : AsyncCodec where
  toCodec := replying ["Openings"] noLinks
  concepts := fun _ => .error ""
  violations := fun _ => ""

def chessGeneration : Spawned :=
  .start (generateDomain chessCodec.toCodec plainTables "Chess" (some "Boards"))
    (World.start emptyGraph)

theorem start_chess : chessPage.handleStartGeneration =
    (chessPage.handleStartGeneration.1, some chessRequest) := rfl

theorem generateDomainSse_chess : generateDomainSse chessCodec plainTables (.ok ()) chessRequest
    (World.start emptyGraph) = .ok chessGeneration := rfl

def alternating (i : Nat) : Move := if i % 2 = 0 then .work else .receive

theorem fair_alternating : Pipe.Fair alternating where
  works k := ⟨2 * k, by omega, if_pos (by omega)⟩
  receives k := ⟨2 * k + 1, by omega, if_neg (by omega)⟩

def embedsOnce : Env :=
  { Env.calm with embedding := fun n => if n = 0 then .ok [] else .error "down" }

def scalarText : Json → String
  | .str s => s
  | .int i => toString i
  | .bool b => toString b
  | _ => ""

def fieldTexts : Json → List String
  | .object fields => fields.map fun field => scalarText field.2
  | _ => []

/-- An event is written as its place among the events of the run. -/
def placeText (events : List SseEvent) (j : Json) : String :=
  String.ofList ('\x7b' :: (List.replicate
    (events.findIdx fun e => fieldTexts (e.toJson 0) = fieldTexts j) 'I' ++ ['\x7d']))

def parsePlace (events : List SseEvent) (text : String) : Option Json :=
  events[text.toList.length - 2]?.map (SseEvent.toJson 0)

theorem renders_place {events : List SseEvent} {e : SseEvent} (he : e ∈ events)
    (hdistinct : (events.map fun e => fieldTexts (e.toJson 0)).Nodup) :
    Renders (placeText events) 0 (parsePlace events) e where
  oneLine := by simp [placeText]
  opens := by rw [placeText, String.toList_ofList]; rfl
  closes := by
    rw [placeText, String.toList_ofList, ← List.cons_append]
    exact List.getLast?_concat
  parsed := by
    have hlt : events.findIdx (fun e' => fieldTexts (e'.toJson 0) = fieldTexts (e.toJson 0)) <
        events.length := List.findIdx_lt_length_of_exists ⟨e, he, decide_eq_true rfl⟩
    have hsame := of_decide_eq_true (List.findIdx_getElem (w := hlt))
    rw [parsePlace, placeText, String.toList_ofList, List.length_cons, List.length_append,
      List.length_replicate, List.length_singleton, Nat.add_assoc, Nat.add_sub_cancel,
      List.getElem?_eq_getElem hlt,
      List.inj_on_of_nodup_map hdistinct (List.getElem_mem hlt) he hsame]
    rfl

theorem arrives_all {events : List SseEvent}
    (hdistinct : (events.map fun e => fieldTexts (e.toJson 0)).Nodup) :
    Arrives (placeText events) (parsePlace events) 0 events (events.map .event)
      [Utf8.encode (createSseStream (placeText events) 0 (events.map .event))] where
  framed := by
    rw [List.filterMap_map]
    exact List.filterMap_some
  renders e he := renders_place he hdistinct
  bytes := by rw [List.flatten_singleton]

def fewEvents : List SseEvent :=
  [.started "Chess" 7, .agentStarted .domainArchitect 1 "Domain Architect",
    .stepProgress .domainArchitect "Creating domain node...",
    .agentFailed .domainArchitect "Embedding failed: down",
    .failed "Embedding failed: down" (some .domainArchitect) (some {})]

theorem arrives_few : Arrives (placeText fewEvents) (parsePlace fewEvents) 0
    (chessGeneration.after embedsOnce alternating 30).received (fewEvents.map .event)
    [Utf8.encode (createSseStream (placeText fewEvents) 0 (fewEvents.map .event))] := by
  have hreceived : (chessGeneration.after embedsOnce alternating 30).received = fewEvents := by
    decide +kernel
  rw [hreceived]
  exact arrives_all (by decide +kernel)

theorem generatorPage_settles_chess :
    ∃ k, (chessGeneration.after bracketed alternating k).Settled ∧
      (chessGeneration.after bracketed alternating k).state = (bracketed.exec (generateDomain
        chessCodec.toCodec plainTables "Chess" (some "Boards")) (World.start emptyGraph)).state ∧
      ((∀ i < k, alternating i ≠ .disconnect) → ∀ (stringify : Json → String)
        (parse : String → Option Json) (generationTimeMs : Nat) (frames : List Frame)
        (chunks : List (List Nat)),
        Arrives stringify parse generationTimeMs
          (chessGeneration.after bracketed alternating k).received frames chunks →
        chunks.flatten = Utf8.encode (createSseStream stringify generationTimeMs frames) →
        Told generationTimeMs (PassesCheck bracketed 0)
          (chessPage.handleStartGeneration.1.afterCallbacks (HttpService.generateDomain parse chunks))
          (bracketed.exec (generateDomain chessCodec.toCodec plainTables "Chess" (some "Boards"))
            (World.start emptyGraph))) :=
  generatorPage_settles start_chess generateDomainSse_chess fair_alternating

/-- The events of the generation of a domain with one concept of each kind. -/
def allEvents : List SseEvent :=
  sent (bracketed.exec (generateDomain chessCodec.toCodec plainTables "Chess" (some "Boards"))
    (World.start emptyGraph)).calls

theorem generatorPage_overcounts_chess : ∃ early : List (List Nat),
    early.flatten <+: Utf8.encode (createSseStream (placeText allEvents) 0 (allEvents.map .event)) ∧
      (chessPage.handleStartGeneration.1.afterCallbacks
        (readSoFar (parsePlace allEvents) {} [] early).1).pageState = .generating ∧
      (chessPage.handleStartGeneration.1.afterCallbacks
        (readSoFar (parsePlace allEvents) {} [] early).1).progressText = "7 of 6 agents completed" := by
  obtain ⟨result, hexit⟩ : ∃ result, (bracketed.exec (generateDomain chessCodec.toCodec plainTables
    "Chess" (some "Boards")) (World.start emptyGraph)).exit = .ok result := ⟨_, rfl⟩
  exact generatorPage_overcounts start_chess hexit (arrives_all (by decide +kernel))

end Example

end DomainGenerator

end AtlasOfUs.Agent
