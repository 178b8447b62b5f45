import Mathlib.Algebra.Order.Ring.Rat
import Mathlib.Data.String.Basic
import AtlasOfUs.Library.Shelf

namespace AtlasOfUs.WikiToGraph

open Library

abbrev Bytes := List UInt8

structure NodeChoice where
  nodeType : String
  nodeName : String
  nodeDescription : String
  selectionReason : String
  deriving DecidableEq

structure SimilarNode where
  name : String
  description : String
  score : ℚ
  deriving DecidableEq

def MIN_CONFIDENCE_THRESHOLD : ℚ := 75 / 100

def CATEGORIES : List String :=
  ["Knowledge", "Pursuit", "Health", "Skill", "Personality", "Intrinsic"]

/-- The answers of the services while one file is processed: what is `none` failed, or is not in the
form that is asked for. -/
structure Answers where
  readable : Bool
  nodeChoice : Option NodeChoice
  embedded : Bool
  queried : Option (List SimilarNode)
  similarityChoice : Option String
  subTypes : Option (List String)
  merged : Bool
  deriving DecidableEq

structure NewNode where
  labels : List String
  name : String
  description : String
  aiReasoning : String
  deriving DecidableEq

def findSimilarNodes (answers : Answers) : Option (List SimilarNode) :=
  answers.queried.map (List.filter fun record => record.score > MIN_CONFIDENCE_THRESHOLD)

/-- The node that is created, if one is; `none` if something is raised on the way. -/
def processFile (answers : Answers) : Option (Option NewNode) := do
  guard answers.readable
  let choice ← answers.nodeChoice
  if choice.nodeType = "NONE" then return none
  guard answers.embedded
  let similarNodes ← findSimilarNodes answers
  if similarNodes ≠ [] then
    if (← answers.similarityChoice) = "DUPLICATE" then return none
  guard (choice.nodeType ∈ CATEGORIES)
  let subTypes ← answers.subTypes
  guard answers.merged
  return some ⟨["L1", choice.nodeType] ++ subTypes, choice.nodeName, choice.nodeDescription,
    choice.selectionReason⟩

/-- How the services treat one file, and then the calls of the store that move it. -/
structure Attempt where
  answers : Answers
  copied : Bool
  deleted : Bool
  deriving DecidableEq

abbrev Object := String × Bytes

def skips (object : Object) : Bool := object.1.toList.getLast? = some '/' || object.2 = []

def processed (key : String) : String := "processed/" ++ key

def visit (attempts : Nat → Object → Attempt) (n : Nat) (object : Object) : Visit :=
  let attempt := attempts n object
  if skips object || (processFile attempt.answers).isNone || !attempt.copied then .kept
  else if attempt.deleted then .moved
  else .copied

def pageSize : Nat := 1000

/-- The run over the bucket, after `m` pages. A listing that fails ends it. -/
def processAllFiles (attempts : Nat → Object → Attempt) (listed : Nat → Bool)
    (bucket : Shelf String Bytes) : Nat → Sweep String Bytes
  | 0 => .start bucket
  | m + 1 =>
      let job := processAllFiles attempts listed bucket m
      if listed m then job.turn pageSize processed (visit attempts) else { job with finished := true }

section Keys

theorem strictMono_processed : StrictMono processed := by
  intro k k' h
  change ("processed/" ++ k).toList < ("processed/" ++ k').toList
  rw [String.toList_append, String.toList_append]
  exact List.append_left_lt h

/-- A key before the folder of the processed files comes before all that is in it. -/
theorem lt_processed {key : String} (h : key < "processed/") (key' : String) :
    key < processed key' := by
  refine h.trans_le ?_
  change ¬ ("processed/" ++ key').toList < "processed/".toList
  rw [String.toList_append]
  exact List.le_append_left

theorem close_processed {bucket : Shelf String Bytes} (h : ∀ e ∈ bucket.entries, e.1 < "processed/") :
    Sweep.Close processed bucket.entries := fun e he e' _ => lt_processed (h e he) e'.1

structure IsFile (object : Object) : Prop where
  named : object.1.toList ≠ []
  noFolder : object.1.toList.getLast? ≠ some '/'
  filled : object.2 ≠ []

theorem IsFile.after {object : Object} (h : IsFile object) (n : Nat) :
    IsFile (Sweep.after processed n object) := by
  induction n with
  | zero => exact h
  | succ n ih =>
      have hkey : (Sweep.after processed (n + 1) object).1.toList =
          "processed/".toList ++ (Sweep.after processed n object).1.toList := by
        rw [Sweep.after, Function.iterate_succ_apply']
        exact String.toList_append
      refine ⟨?_, ?_, h.filled⟩
      · rw [hkey]
        exact List.append_ne_nil_of_right_ne_nil _ ih.named
      · rw [hkey, List.getLast?_append_of_ne_nil _ ih.named]
        exact ih.noFolder

theorem IsFile.not_skipped {object : Object} (h : IsFile object) : skips object = false := by
  rw [skips, decide_eq_false h.noFolder, decide_eq_false h.filled]
  rfl

end Keys

section Runs

variable {attempts : Nat → Object → Attempt} {bucket : Shelf String Bytes} {object : Object}

/-- The file is processed and then moved, or copied at least. -/
def Attempt.Succeeds (attempt : Attempt) : Prop :=
  (processFile attempt.answers).isSome = true ∧ attempt.copied = true

theorem visit_ne_kept {n : Nat} (hfile : IsFile object) (h : (attempts n object).Succeeds) :
    visit attempts n object ≠ .kept := by
  have hkept : (skips object || (processFile (attempts n object).answers).isNone ||
      !(attempts n object).copied) = false := by
    rw [hfile.not_skipped, h.2, Option.isNone_eq_false_iff.2 h.1]
    rfl
  rw [visit, if_neg (Bool.eq_false_iff.1 hkept)]
  split <;> exact fun heq => by cases heq

theorem processAllFiles_eq_turns {listed : Nat → Bool} {m : Nat} (h : ∀ k < m, listed k = true) :
    processAllFiles attempts listed bucket m =
      Sweep.turns pageSize processed (visit attempts) bucket m := by
  induction m with
  | zero => rfl
  | succ m ih =>
      rw [processAllFiles, if_pos (h m (Nat.lt_succ_self m)),
        ih fun k hk => h k (hk.trans (Nat.lt_succ_self m)), Sweep.turns_succ]

theorem finished_stays {listed : Nat → Bool} {k m : Nat} (hkm : k ≤ m)
    (h : (processAllFiles attempts listed bucket k).finished = true) :
    (processAllFiles attempts listed bucket m).finished = true ∧
      (processAllFiles attempts listed bucket m).seen =
        (processAllFiles attempts listed bucket k).seen := by
  induction hkm with
  | refl => exact ⟨h, rfl⟩
  | @step m hkm ih =>
      rw [processAllFiles]
      split
      · rwa [Sweep.turn_of_finished ih.1]
      · exact ⟨rfl, ih.2⟩

theorem finished_of_unlisted {listed : Nat → Bool} {k m : Nat} (hkm : k < m)
    (h : listed k = false) :
    (processAllFiles attempts listed bucket m).finished = true ∧
      (processAllFiles attempts listed bucket m).seen =
        (processAllFiles attempts listed bucket k).seen := by
  have hnext : processAllFiles attempts listed bucket (k + 1) =
      { processAllFiles attempts listed bucket k with finished := true } := by
    rw [processAllFiles, h]
    rfl
  have hover : (processAllFiles attempts listed bucket (k + 1)).finished = true := by rw [hnext]
  have hstays := finished_stays (Nat.succ_le_of_lt hkm) hover
  rwa [hnext] at hstays

/-- Of a bucket with more files than a page has, each file is processed again and again, for as long
as that and the listings succeed: the moved files come up after all the others. -/
theorem processAllFiles_rounds (hlow : ∀ e ∈ bucket.entries, e.1 < "processed/")
    (hfiles : ∀ e ∈ bucket.entries, IsFile e) (hlong : pageSize < bucket.entries.length) (m : Nat)
    {listed : Nat → Bool} (hlisted : ∀ k < m, listed k = true)
    (hdone : ∀ r < pageSize * m, ∀ e, (attempts r e).Succeeds) :
    let job := processAllFiles attempts listed bucket m
    job.finished = false ∧ job.seen.length = pageSize * m ∧
      ∀ r < pageSize * m, job.seen[r]? =
        (bucket.entries[r % bucket.entries.length]?).map fun e =>
          (processed^[r / bucket.entries.length] e.1, e.2) := by
  intro job
  have hjob : job = _ := processAllFiles_eq_turns hlisted
  rw [hjob]
  exact Sweep.seen_turns strictMono_processed (close_processed hlow) hlong fun r hr e he n =>
    visit_ne_kept ((hfiles e he).after n) (hdone r hr _)

/-- The run over a bucket is over after a page exactly if a listing failed by then, or enough files
have been left where they were on the pages before it: those that were passed over, and those that
were not processed or not copied. A bucket that one page holds is gone through once. -/
theorem processAllFiles_ends (attempts : Nat → Object → Attempt) (listed : Nat → Bool)
    (hlow : ∀ e ∈ bucket.entries, e.1 < "processed/") (m : Nat) :
    ((processAllFiles attempts listed bucket (m + 1)).finished = true ↔
      (∃ k ≤ m, listed k = false) ∨ bucket.entries.length ≤
        pageSize + Sweep.left (visit attempts) 0 (processAllFiles attempts listed bucket m).seen) ∧
      (bucket.entries.length ≤ pageSize →
        (processAllFiles attempts listed bucket (m + 1)).seen =
          if listed 0 then bucket.entries else []) := by
  constructor
  · by_cases hfails : ∃ k ≤ m, listed k = false
    · obtain ⟨k, hk, hunlisted⟩ := hfails
      exact iff_of_true (finished_of_unlisted (Nat.lt_succ_of_le hk) hunlisted).1
        (.inl ⟨k, hk, hunlisted⟩)
    · have hlisted : ∀ k < m + 1, listed k = true := by
        intro k hk
        by_contra hunlisted
        exact hfails ⟨k, Nat.lt_succ_iff.1 hk, Bool.eq_false_iff.2 hunlisted⟩
      rw [or_iff_right hfails, processAllFiles_eq_turns hlisted,
        processAllFiles_eq_turns fun k hk => hlisted k (hk.trans (Nat.lt_succ_self m))]
      exact Sweep.finished_iff strictMono_processed (close_processed hlow) m
  · intro hshort
    cases hlisted : listed 0 with
    | false => exact (finished_of_unlisted (Nat.succ_pos m) hlisted).2
    | true =>
        have hpage : (Sweep.turns pageSize processed (visit attempts) bucket 1).finished = true ∧
            (Sweep.turns pageSize processed (visit attempts) bucket 1).seen = bucket.entries :=
          Sweep.seen_of_le hshort 0
        have hfirst : processAllFiles attempts listed bucket 1 =
            Sweep.turns pageSize processed (visit attempts) bucket 1 := by
          refine processAllFiles_eq_turns fun k hk => ?_
          rwa [Nat.lt_one_iff.1 hk]
        rw [← hfirst] at hpage
        exact (finished_stays (Nat.succ_le_succ m.zero_le) hpage.1).2.trans hpage.2

end Runs

section Crowded

def crowded (count : Nat) : Shelf String Bytes where
  entries := (List.range count).map fun n => (.ofList (List.replicate (n + 1) '0'), [1])
  sorted := by
    rw [List.pairwise_map]
    refine List.pairwise_lt_range.imp fun {n n'} h => ?_
    obtain ⟨d, rfl⟩ := Nat.exists_eq_add_of_lt h
    have hreplicate : List.replicate (n + d + 1 + 1) '0' =
        List.replicate (n + 1) '0' ++ '0' :: List.replicate d '0' := by
      rw [← List.replicate_succ, List.replicate_append_replicate]
      congr 1
      omega
    have hlt : List.replicate (n + 1) '0' ++ [] <
        List.replicate (n + 1) '0' ++ '0' :: List.replicate d '0' :=
      List.append_left_lt (List.nil_lt_cons _ _)
    rw [List.append_nil] at hlt
    change (String.ofList _).toList < (String.ofList _).toList
    rwa [String.toList_ofList, String.toList_ofList, hreplicate]

variable {count : Nat}

theorem mem_crowded {e : Object} (h : e ∈ (crowded count).entries) : ∃ n,
    e.1.toList = List.replicate (n + 1) '0' ∧ e.2 = [1] := by
  obtain ⟨n, -, rfl⟩ := List.mem_map.1 h
  exact ⟨n, String.toList_ofList, rfl⟩

theorem low_crowded : ∀ e ∈ (crowded count).entries, e.1 < "processed/" := by
  intro e he
  obtain ⟨n, hkey, -⟩ := mem_crowded he
  change e.1.toList < "processed/".toList
  rw [hkey, List.replicate_succ]
  exact List.Lex.rel (by decide)

theorem isFile_crowded : ∀ e ∈ (crowded count).entries, IsFile e := by
  intro e he
  obtain ⟨n, hkey, hbody⟩ := mem_crowded he
  refine ⟨?_, ?_, ?_⟩
  · rw [hkey]
    exact List.cons_ne_nil _ _
  · rw [hkey, List.getLast?_replicate, if_neg (Nat.succ_ne_zero n)]
    decide
  · rw [hbody]
    exact List.cons_ne_nil _ _

def unmoved : Attempt :=
  ⟨⟨true, some ⟨"NONE", "", "", ""⟩, true, some [], none, none, true⟩, true, true⟩

theorem processAllFiles_rounds_crowded :
    let job := processAllFiles (fun _ _ => unmoved) (fun _ => true) (crowded 1001) 2
    job.finished = false ∧ job.seen.length = pageSize * 2 ∧
      ∀ r < pageSize * 2, job.seen[r]? =
        ((crowded 1001).entries[r % (crowded 1001).entries.length]?).map fun e =>
          (processed^[r / (crowded 1001).entries.length] e.1, e.2) :=
  processAllFiles_rounds low_crowded isFile_crowded
    (by rw [crowded, List.length_map, List.length_range, pageSize]; decide) 2 (fun _ _ => rfl)
    fun _ _ _ => ⟨by decide, rfl⟩

theorem processAllFiles_ends_crowded :
    ((processAllFiles (fun _ _ => unmoved) (· = 0) (crowded 1001) 2).finished = true ↔
      (∃ k ≤ 1, decide (k = 0) = false) ∨ (crowded 1001).entries.length ≤
        pageSize + Sweep.left (visit fun _ _ => unmoved) 0
          (processAllFiles (fun _ _ => unmoved) (· = 0) (crowded 1001) 1).seen) ∧
      ((crowded 1001).entries.length ≤ pageSize →
        (processAllFiles (fun _ _ => unmoved) (· = 0) (crowded 1001) 2).seen =
          if decide (0 = 0) then (crowded 1001).entries else []) :=
  processAllFiles_ends _ (· = 0) low_crowded 1

end Crowded

end AtlasOfUs.WikiToGraph
