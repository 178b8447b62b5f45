import AtlasOfUs.Agent.AsyncGeneration
import AtlasOfUs.Agent.Generator
import AtlasOfUs.TextWrapping

namespace AtlasOfUs

open Library Text

/-- The text starts with the one bracket and ends with the other. -/
def Enclosed (opening closing : Char) (s : String) : Prop :=
  ∃ middle, s.toList = opening :: (middle ++ [closing])

section Enclosed

variable {opening closing : Char} {s : String}

theorem Enclosed.head (h : Enclosed opening closing s) : s.toList.head? = some opening := by
  obtain ⟨middle, hs⟩ := h
  rw [hs, List.head?_cons]

theorem Enclosed.getLast (h : Enclosed opening closing s) : s.toList.getLast? = some closing := by
  obtain ⟨middle, hs⟩ := h
  rw [hs, ← List.cons_append, List.getLast?_append, List.getLast?_singleton, Option.some_or]

/-- In a text with prose around it that has none of these brackets on their own sides, the first
opening and the last closing bracket are those of the text. -/
theorem Enclosed.found {before behind : String} (h : Enclosed opening closing s)
    (hopening : isWhiteSpace opening = false) (hclosing : isWhiteSpace closing = false)
    (hbefore : opening ∉ before.toList) (hbehind : closing ∉ behind.toList) :
    ∃ first last, first < last ∧ find (trim (before ++ s ++ behind)) opening = some first ∧
      rfind (trim (before ++ s ++ behind)) closing = some last ∧
      (sliceInclusive (trim (before ++ s ++ behind)) first last : Agent.Parsed String) = .ok s := by
  have htrim : (trim (before ++ s ++ behind)).toList = before.toList.dropWhile isWhiteSpace ++ s.toList ++
      (behind.toList.reverse.dropWhile isWhiteSpace).reverse := by
    rw [trim, String.toList_ofList, String.toList_append, String.toList_append,
      trimChars_append h.head hopening h.getLast hclosing]
  have hfront : opening ∉ before.toList.dropWhile isWhiteSpace :=
    fun hmem => hbefore ((List.dropWhile_suffix isWhiteSpace).subset hmem)
  have hback : closing ∉ (behind.toList.reverse.dropWhile isWhiteSpace).reverse := fun hmem =>
    hbehind (List.mem_reverse.1 ((List.dropWhile_suffix isWhiteSpace).subset (List.mem_reverse.1 hmem)))
  obtain ⟨middle, hs⟩ := h
  generalize before.toList.dropWhile isWhiteSpace = front at htrim hfront
  generalize (behind.toList.reverse.dropWhile isWhiteSpace).reverse = back at htrim hback
  refine ⟨front.length, front.length + middle.length + 1, by omega, ?_, ?_, ?_⟩
  · apply find_of_notMem _ hfront
    · exact middle ++ [closing] ++ back
    · rw [htrim, hs]
      simp
  · have hlength : front.length + middle.length + 1 = (front ++ opening :: middle).length := by
      rw [List.length_append, List.length_cons]
      omega
    rw [hlength]
    apply rfind_of_notMem _ hback
    rw [htrim, hs]
    simp
  · rw [sliceInclusive_of_eq htrim, String.ofList_toList]
    rw [hs]
    simp
    omega

end Enclosed

section Prose

variable (codec : Codec) {before s behind : String}

theorem parseConceptList_prose (h : Enclosed '[' ']' s) (hbefore : '[' ∉ before.toList)
    (hbehind : ']' ∉ behind.toList) :
    Agent.parseConceptList codec (before ++ s ++ behind) = Agent.mapParsed (codec.strings s)
      (fun e => "Failed to parse JSON array: " ++ e ++ ". Content: " ++ s) := by
  obtain ⟨first, last, hlt, hfirst, hlast, hslice⟩ := h.found (by decide) (by decide) hbefore hbehind
  simp only [Agent.parseConceptList, hfirst, hlast, Agent.findOrPreview, Exit.ok_bind]
  rw [if_neg (by omega), hslice, Exit.ok_bind]

theorem parseObject_prose (noObject noClosing : String) (guard : Option String)
    (h : Enclosed '{' '}' s) (hbefore : '{' ∉ before.toList) (hbehind : '}' ∉ behind.toList) :
    Agent.parseObject codec noObject noClosing guard (before ++ s ++ behind) =
      Agent.mapParsed (codec.value s) ("Failed to parse JSON: " ++ ·) := by
  obtain ⟨first, last, hlt, hfirst, hlast, hslice⟩ := h.found (by decide) (by decide) hbefore hbehind
  have hguard : Agent.checkRange guard first last = .ok () := by
    cases guard with
    | none => rfl
    | some message => exact if_neg (by omega)
  simp only [Agent.parseObject, hfirst, hlast, Agent.okOr, Exit.ok_bind, hguard, hslice]

theorem bare (s : String) : "" ++ s ++ "" = s := by
  rw [String.append_empty, String.empty_append]

/-- What is written around the array or the object of a reply changes nothing in how it is read. -/
theorem parsers_ignore_prose (concept before s behind : String) :
    (Enclosed '[' ']' s → '[' ∉ before.toList → ']' ∉ behind.toList →
      Agent.parseConceptList codec (before ++ s ++ behind) = Agent.parseConceptList codec s) ∧
    (Enclosed '{' '}' s → '{' ∉ before.toList → '}' ∉ behind.toList →
      Agent.parseVerificationResponse codec (before ++ s ++ behind) concept =
          Agent.parseVerificationResponse codec s concept ∧
        Agent.knowledgeKind.parseKindProperties codec (before ++ s ++ behind) concept =
          Agent.knowledgeKind.parseKindProperties codec s concept) := by
  have hnone : ∀ c : Char, c ∉ ("" : String).toList := fun c => List.not_mem_nil
  constructor
  · intro h hbefore hbehind
    have halone := parseConceptList_prose codec h (hnone '[') (hnone ']')
    rw [bare] at halone
    rw [parseConceptList_prose codec h hbefore hbehind, halone]
  · intro h hbefore hbehind
    have hobject : ∀ noObject noClosing guard,
        Agent.parseObject codec noObject noClosing guard (before ++ s ++ behind) =
          Agent.parseObject codec noObject noClosing guard s := by
      intro noObject noClosing guard
      have halone := parseObject_prose codec noObject noClosing guard h (hnone '{') (hnone '}')
      rw [bare] at halone
      rw [parseObject_prose codec noObject noClosing guard h hbefore hbehind, halone]
    constructor
    · rw [Agent.parseVerificationResponse, Agent.parseVerificationResponse, hobject]
    · rw [Agent.GeneratorKind.parseKindProperties, Agent.GeneratorKind.parseKindProperties,
        Agent.parseProperties, Agent.parseProperties, hobject]

def quotedCodec : Codec where
  value := fun s =>
    if s = "\x7b\"decision\": \"create_new\", \"note\": \"\x7d\"\x7d" then
      .ok (.object [("decision", .str "create_new"), ("note", .str "\x7d")])
    else .error "expected value"
  strings := fun s => if s = "[\"a]\"]" then .ok ["a]"] else .error "expected value"
  float := fun q => toString q

/-- The brackets of a string are the first and the last of their kinds, as those of the prose are not. -/
theorem parsers_ignore_greeting :
    Agent.parseConceptList quotedCodec "Sure ]:  [\"a]\"] [see" = .ok ["a]"] ∧
      Agent.parseVerificationResponse quotedCodec
          "\x7d: \x7b\"decision\": \"create_new\", \"note\": \"\x7d\"\x7d \x7b" "Scales" =
        .ok ⟨"Scales", .createNew⟩ := by
  have h := parsers_ignore_prose quotedCodec "Scales" "Sure ]:  " "[\"a]\"]" " [see"
  have h' := parsers_ignore_prose quotedCodec "Scales" "\x7d: "
    "\x7b\"decision\": \"create_new\", \"note\": \"\x7d\"\x7d" " \x7b"
  constructor
  · refine (h.1 ⟨['"', 'a', ']', '"'], rfl⟩ (by decide) (by decide)).trans ?_
    decide
  · refine (h'.2 ⟨"\"decision\": \"create_new\", \"note\": \"\x7d\"".toList, by decide⟩ (by decide)
      (by decide)).1.trans ?_
    decide

end Prose

section Fences

def Blank (s : String) : Prop := ∀ c ∈ s.toList, isWhiteSpace c = true

instance (s : String) : Decidable (Blank s) :=
  decidable_of_iff (s.toList.all isWhiteSpace = true) List.all_eq_true

def backtick : Char := Char.ofNat 0x60

/-- The ways of wrapping a text: in white space, or also in a pair of fences. -/
inductive Wraps (t : String) : String → Prop
  | bare {before behind : String} (hbefore : Blank before) (hbehind : Blank behind) :
      Wraps t (before ++ t ++ behind)
  | fenced {fence before inside inside' behind : String} (hfence : fence = "```json" ∨ fence = "```")
      (hbefore : Blank before) (hinside : Blank inside) (hinside' : Blank inside')
      (hbehind : Blank behind) :
      Wraps t (before ++ (fence ++ (inside ++ t ++ inside') ++ "```") ++ behind)

variable {t : String}

theorem trim_wrapped {first last : Char} {before s behind : String} (hfirst : s.toList.head? = some first)
    (hp : isWhiteSpace first = false) (hlast : s.toList.getLast? = some last)
    (hq : isWhiteSpace last = false) (hbefore : Blank before) (hbehind : Blank behind) :
    trim (before ++ s ++ behind) = s := by
  rw [trim, String.toList_append, String.toList_append,
    trimChars_blank hfirst hp hlast hq hbefore hbehind, String.ofList_toList]

/-- A text in white space starts with a white character or with its own first one. -/
theorem head_blank {first c : Char} {before body behind : List Char} (hfirst : body.head? = some first)
    (hbefore : ∀ d ∈ before, isWhiteSpace d = true) (hwhite : isWhiteSpace c = false) (hc : first ≠ c) :
    (before ++ body ++ behind).head? ≠ some c := by
  intro h
  cases before with
  | nil =>
      rw [List.nil_append, List.head?_append, hfirst, Option.some_or] at h
      exact hc (Option.some.inj h)
  | cons d before =>
      obtain rfl := Option.some.inj h
      rw [hbefore d List.mem_cons_self] at hwhite
      cases hwhite

theorem trimStartMatches_once {pattern s : String} {c : Char} (hpattern : pattern.toList.head? = some c)
    (hs : s.toList.head? ≠ some c) : trimStartMatches (pattern ++ s) pattern = s := by
  obtain ⟨n, hn⟩ : ∃ n, (pattern ++ s).length = n + 1 := by
    obtain ⟨tail, htail⟩ := List.head?_eq_some_iff.1 hpattern
    refine ⟨tail.length + s.length, ?_⟩
    rw [String.length_append, ← String.length_toList, htail, List.length_cons]
    omega
  rw [trimStartMatches, hn, String.toList_append, dropPrefixes_once n hpattern hs, String.ofList_toList]

theorem trimEndMatches_once {pattern s : String} {c : Char} (hpattern : pattern.toList.getLast? = some c)
    (hs : s.toList.getLast? ≠ some c) : trimEndMatches (s ++ pattern) pattern = s := by
  obtain ⟨n, hn⟩ : ∃ n, (s ++ pattern).length = n + 1 := by
    obtain ⟨front, hfront⟩ := List.getLast?_eq_some_iff.1 hpattern
    refine ⟨s.length + front.length, ?_⟩
    have hlength : pattern.length = front.length + 1 := by
      rw [← String.length_toList, hfront, List.length_append]
      rfl
    rw [String.length_append, hlength]
    rfl
  rw [trimEndMatches, hn, String.toList_append, List.reverse_append,
    dropPrefixes_once n (by rw [List.head?_reverse, hpattern]) (by rwa [List.head?_reverse]),
    List.reverse_reverse, String.ofList_toList]

/-- What is taken off a fenced text: the fences and the white space inside them. -/
theorem unfenced {fence inside inside' : String} (h : Enclosed '{' '}' t)
    (hfence : fence.toList.head? = some backtick) (hinside : Blank inside)
    (hinside' : Blank inside') :
    trim (trimEndMatches (trimStartMatches (fence ++ (inside ++ t ++ inside') ++ "```") fence) "```") =
      t := by
  have hhead : (inside ++ t ++ inside' ++ "```").toList.head? ≠ some backtick := by
    rw [String.toList_append, String.toList_append, String.toList_append, List.append_assoc]
    exact head_blank h.head hinside (by decide) (by decide)
  have hlast : (inside ++ t ++ inside').toList.getLast? ≠ some backtick := by
    have hreverse : t.toList.reverse.head? = some '}' := by rw [List.head?_reverse, h.getLast]
    rw [← List.head?_reverse, String.toList_append, String.toList_append, List.reverse_append,
      List.reverse_append, ← List.append_assoc]
    exact head_blank hreverse (fun c hc => hinside' c (List.mem_reverse.1 hc)) (by decide) (by decide)
  rw [String.append_assoc, trimStartMatches_once hfence hhead, trimEndMatches_once rfl hlast,
    trim_wrapped h.head (by decide) h.getLast (by decide) hinside hinside']

/-- A text between fences starts with the long fence exactly if that is its fence. -/
theorem startsWith_json {fence inside inside' : String} (h : Enclosed '{' '}' t)
    (hfence : fence = "```json" ∨ fence = "```") (hinside : Blank inside) :
    (fence ++ (inside ++ t ++ inside') ++ "```").startsWith "```json" = true ↔ fence = "```json" := by
  rw [String.startsWith_string_iff, String.append_assoc, String.toList_append]
  constructor
  · intro hprefix
    rcases hfence with rfl | rfl
    · rfl
    · exfalso
      have hprefix : ['j', 's', 'o', 'n'] <+: (inside ++ t ++ inside' ++ "```").toList :=
        (List.prefix_append_right_inj ("```".toList)).1 hprefix
      obtain ⟨rest, hrest⟩ := hprefix
      have hhead : (inside ++ t ++ inside' ++ "```").toList.head? ≠ some 'j' := by
        rw [String.toList_append, String.toList_append, String.toList_append, List.append_assoc]
        exact head_blank h.head hinside (by decide) (by decide)
      exact hhead (by rw [← hrest]; rfl)
  · rintro rfl
    exact List.prefix_append _ _

/-- Whatever a text is wrapped in, both services take out exactly the text. -/
theorem extractJson_wrapped (t s : String) (h : Enclosed '{' '}' t) (hs : Wraps t s) :
    Agent.AsyncGeneration.extractJson s = t ∧ Worker.extractJson s = t := by
  have hextract : Worker.extractJson s = t := by
    cases hs with
    | @bare before behind hbefore hbehind =>
        have htrim : trim (before ++ t ++ behind) = t :=
          trim_wrapped h.head (by decide) h.getLast (by decide) hbefore hbehind
        have hfence : ∀ more : List Char, t.startsWith (String.ofList (backtick :: more)) = false := by
          intro more
          rw [Bool.eq_false_iff, Ne, String.startsWith_string_iff, String.toList_ofList]
          rintro ⟨rest, hrest⟩
          have hhead := h.head
          rw [← hrest] at hhead
          cases hhead
        have hlong : t.startsWith "```json" = false := hfence [backtick, backtick, 'j', 's', 'o', 'n']
        have hshort : t.startsWith "```" = false := hfence [backtick, backtick]
        simp only [Worker.extractJson, htrim, hlong, hshort, Bool.false_eq_true, if_false]
    | @fenced fence before inside inside' behind hfence hbefore hinside hinside' hbehind =>
        have hfirst : fence.toList.head? = some backtick := by
          rcases hfence with rfl | rfl <;> rfl
        have htrim : trim (before ++ (fence ++ (inside ++ t ++ inside') ++ "```") ++ behind) =
            fence ++ (inside ++ t ++ inside') ++ "```" := by
          have hhead : (fence ++ (inside ++ t ++ inside') ++ "```").toList.head? = some backtick := by
            rw [String.toList_append, String.toList_append, List.head?_append, List.head?_append, hfirst,
              Option.some_or, Option.some_or]
          have hlast : (fence ++ (inside ++ t ++ inside') ++ "```").toList.getLast? = some backtick := by
            rw [String.toList_append, List.getLast?_append]
            rfl
          exact trim_wrapped hhead (by decide) hlast (by decide) hbefore hbehind
        have hjson : (fence ++ (inside ++ t ++ inside') ++ "```").startsWith "```json" = true ↔
            fence = "```json" := startsWith_json h hfence hinside
        have hrest := unfenced h hfirst hinside hinside'
        rw [Worker.extractJson, htrim]
        rcases hfence with rfl | rfl
        · rw [if_pos (hjson.2 rfl), hrest]
        · have hshort : ("```" ++ (inside ++ t ++ inside') ++ "```").startsWith "```" = true := by
            rw [String.startsWith_string_iff, String.append_assoc, String.toList_append]
            exact List.prefix_append _ _
          rw [if_neg (fun hstarts => absurd (hjson.1 hstarts) (by decide)), if_pos hshort, hrest]
  exact ⟨hextract, hextract⟩

theorem extractJson_fenced : Worker.extractJson "\n```json \x7b\x7d```\x7b```\x7d\n```\t" = "\x7b\x7d```\x7b```\x7d" :=
  (extractJson_wrapped "\x7b\x7d```\x7b```\x7d" _ ⟨"\x7d```\x7b```".toList, by decide⟩
    (@Wraps.fenced _ "```json" "\n" " " "\n" "\t" (.inl rfl) (by decide) (by decide) (by decide)
      (by decide))).2

end Fences

end AtlasOfUs
