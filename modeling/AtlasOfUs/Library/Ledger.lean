import AtlasOfUs.Library.GraphLinks
import AtlasOfUs.Library.Loop
import Mathlib.Data.List.Perm.Basic

namespace AtlasOfUs.Library

section Matching

variable {α β κ : Type} {R : α → β → Prop} {xs : List α} {ys : List β} {f : α → κ} {k : β → κ}

def Matches (R : α → β → Prop) (xs : List α) (ys : List β) : Prop :=
  ∃ zs, zs.Perm ys ∧ List.Forall₂ R xs zs

theorem Matches.length_eq (h : Matches R xs ys) : xs.length = ys.length := by
  obtain ⟨zs, hperm, hpairs⟩ := h
  exact hpairs.length_eq.trans hperm.length_eq

/-- Elements with keys of their own are matched by entries with the same keys,
each once. -/
theorem matches_iff (hkey : ∀ x y, R x y → f x = k y) (hys : (ys.map k).Nodup) :
    Matches R xs ys ↔ (xs.map f).Nodup ∧ (∀ key, key ∈ xs.map f ↔ key ∈ ys.map k) ∧
      ∀ x ∈ xs, ∀ y ∈ ys, f x = k y → R x y := by
  constructor
  · rintro ⟨zs, hperm, hpairs⟩
    have hkeys : zs.map k = xs.map f := map_eq_map_of_forall₂ hpairs fun x y h => (hkey x y h).symm
    have hpermKeys : (xs.map f).Perm (ys.map k) := hkeys ▸ hperm.map k
    refine ⟨hpermKeys.nodup_iff.2 hys, fun key => hpermKeys.mem_iff, ?_⟩
    intro x hx y hy hxy
    obtain ⟨z, hz, hxz⟩ := exists_mem_of_forall₂ hpairs.flip hx
    have hzy : z = y := List.inj_on_of_nodup_map hys (hperm.mem_iff.1 hz) hy
      ((hkey x z hxz).symm.trans hxy)
    exact hzy ▸ hxz
  · rintro ⟨hxs, hsame, hpair⟩
    have hfind : ∀ x ∈ xs, ∃ y, y ∈ ys ∧ k y = f x ∧ R x y := by
      intro x hx
      obtain ⟨y, hy, hxy⟩ := List.mem_map.1 ((hsame (f x)).1 (List.mem_map_of_mem hx))
      exact ⟨y, hy, hxy, hpair x hx y hy hxy.symm⟩
    obtain ⟨zs, hzs⟩ := exists_forall₂ hfind
    have hkeys : zs.map k = xs.map f := map_eq_map_of_forall₂ hzs fun x y h => h.2.1
    have hmem : ∀ z ∈ zs, z ∈ ys := by
      intro z hz
      obtain ⟨x, -, hz, -⟩ := exists_mem_of_forall₂ hzs hz
      exact hz
    have hnodup : zs.Nodup := List.Nodup.of_map k (hkeys ▸ hxs)
    refine ⟨zs, (List.perm_ext_iff_of_nodup hnodup hys.of_map).2 fun y => ⟨hmem y, ?_⟩,
      hzs.imp fun _ _ h => h.2.2⟩
    intro hy
    have hky : k y ∈ zs.map k := hkeys ▸ (hsame (k y)).2 (List.mem_map_of_mem hy)
    obtain ⟨z, hz, hzy⟩ := List.mem_map.1 hky
    exact List.inj_on_of_nodup_map hys (hmem z hz) hy hzy ▸ hz

end Matching

abbrev LinkKey (Id : Type) := String × Id × Id

structure Upsert (Id V : Type) where
  key : LinkKey Id
  set : Props V → Props V

def Edge.key {Id V : Type} (e : Edge Id V) : LinkKey Id := (e.type, e.source, e.target)

section Upserts

variable {Id V : Type} [DecidableEq Id] {g : Graph Id V} {us vs : List (Upsert Id V)}
  {u : Upsert Id V} {key : LinkKey Id} {sel : LinkKey Id → Bool}

namespace Graph

def upsert (g : Graph Id V) (u : Upsert Id V) : Graph Id V :=
  g.mergeEdge u.key.1 u.key.2.1 u.key.2.2 u.set

def HasEnds (g : Graph Id V) (key : LinkKey Id) : Prop := key.2.1 ∈ g.nodeIds ∧ key.2.2 ∈ g.nodeIds

instance (g : Graph Id V) (key : LinkKey Id) : Decidable (g.HasEnds key) :=
  inferInstanceAs (Decidable (_ ∧ _))

def part (sel : LinkKey Id → Bool) (g : Graph Id V) : List (Edge Id V) :=
  g.edges.filter fun e => sel e.key

@[simp] theorem upsert_nodeIds : (g.upsert u).nodeIds = g.nodeIds := mergeEdge_nodeIds

theorem hasEnds_upsert : (g.upsert u).HasEnds key ↔ g.HasEnds key := by
  rw [HasEnds, upsert_nodeIds, HasEnds]

theorem between_key {e : Edge Id V} :
    Edge.between key.1 key.2.1 key.2.2 e = true ↔ e.key = key := by
  rw [between_iff, Edge.key, Prod.ext_iff, Prod.ext_iff]

omit [DecidableEq Id] in
theorem mem_part {e : Edge Id V} : e ∈ g.part sel ↔ e ∈ g.edges ∧ sel e.key = true :=
  List.mem_filter

theorem part_upsert_of_mem (h : u.key ∈ g.edges.map Edge.key) :
    (g.upsert u).part sel = (g.part sel).map fun e =>
      if e.key = u.key then { e with props := u.set e.props } else e := by
  obtain ⟨e, he, hkey⟩ := List.mem_map.1 h
  have hany : g.edges.any (Edge.between u.key.1 u.key.2.1 u.key.2.2) = true :=
    List.any_eq_true.2 ⟨e, he, between_key.2 hkey⟩
  have hset : (g.upsert u).edges = g.edges.map fun e =>
      if e.key = u.key then { e with props := u.set e.props } else e := by
    rw [upsert, mergeEdge, if_pos hany]
    apply List.map_congr_left
    intro e _
    simp only [between_key]
  have hsel : (fun e : Edge Id V => sel e.key) ∘ (fun e =>
      if e.key = u.key then { e with props := u.set e.props } else e) = fun e => sel e.key := by
    funext e
    rw [Function.comp_apply]
    split <;> rfl
  rw [part, hset, List.filter_map, hsel, part]

theorem part_upsert_of_not_mem (h : u.key ∉ g.edges.map Edge.key) (hends : g.HasEnds u.key) :
    (g.upsert u).part sel = g.part sel ++ if sel u.key = true then
      [⟨g.freshId, u.key.1, u.key.2.1, u.key.2.2, u.set Props.empty⟩] else [] := by
  have hnew : ¬ g.Linked u.key.1 u.key.2.1 u.key.2.2 := by
    rintro ⟨e, he, hbetween⟩
    exact h (List.mem_map.2 ⟨e, he, between_key.1 hbetween⟩)
  rw [part, upsert, mergeEdge_of_unlinked hnew hends.1 hends.2, List.filter_append, part,
    List.filter_singleton]
  change _ ++ (bif sel u.key then _ else _) = _
  rw [Bool.cond_eq_ite]

def Holds (g : Graph Id V) (key : LinkKey Id) (P : Props V → Prop) : Prop :=
  ∃ e ∈ g.edges, e.key = key ∧ P e.props

instance (g : Graph Id V) (key : LinkKey Id) (P : Props V → Prop) [DecidablePred P] :
    Decidable (g.Holds key P) :=
  inferInstanceAs (Decidable (∃ e ∈ g.edges, e.key = key ∧ P e.props))

theorem holds_iff {P : Props V → Prop} :
    g.Holds key P ↔ ∃ e ∈ g.part (fun k => decide (k = key)), P e.props := by
  simp only [mem_part, decide_eq_true_eq, and_assoc]
  rfl

theorem holds_upsert_of_ne {P : Props V → Prop} (h : u.key ≠ key) :
    (g.upsert u).Holds key P ↔ g.Holds key P := by
  have hpart : (g.upsert u).part (fun k => decide (k = key)) =
      g.part (fun k => decide (k = key)) := by
    by_cases hmem : u.key ∈ g.edges.map Edge.key
    · rw [part_upsert_of_mem hmem]
      apply (List.map_congr_left _).trans (List.map_id _)
      intro e he
      have hkey : e.key = key := of_decide_eq_true (mem_part.1 he).2
      exact if_neg (hkey ▸ h.symm)
    · by_cases hends : g.HasEnds u.key
      · rw [part_upsert_of_not_mem hmem hends, if_neg (by simpa using h), List.append_nil]
      · rw [upsert, mergeEdge_of_absent hends]
  rw [holds_iff, hpart, holds_iff]

theorem holds_upsert_self {P : Props V → Prop} (hends : g.HasEnds u.key) :
    (g.upsert u).Holds u.key P ↔ g.Holds u.key (fun props => P (u.set props)) ∨
      (u.key ∉ g.edges.map Edge.key ∧ P (u.set Props.empty)) := by
  rw [holds_iff]
  by_cases hmem : u.key ∈ g.edges.map Edge.key
  · rw [part_upsert_of_mem hmem, or_iff_left fun h => h.1 hmem, holds_iff]
    constructor
    · rintro ⟨e', he', hP⟩
      obtain ⟨e, he, rfl⟩ := List.mem_map.1 he'
      rw [if_pos (of_decide_eq_true (mem_part.1 he).2)] at hP
      exact ⟨e, he, hP⟩
    · rintro ⟨e, he, hP⟩
      have hkey : e.key = u.key := of_decide_eq_true (mem_part.1 he).2
      refine ⟨_, List.mem_map_of_mem he, ?_⟩
      rwa [if_pos hkey]
  · have hnone : ∀ Q : Props V → Prop, ¬ g.Holds u.key Q := by
      rintro Q ⟨e, he, hkey, -⟩
      exact hmem (List.mem_map.2 ⟨e, he, hkey⟩)
    rw [part_upsert_of_not_mem hmem hends, if_pos (decide_eq_true rfl), or_iff_right (hnone _),
      and_iff_right hmem]
    constructor
    · rintro ⟨e, he, hP⟩
      rcases List.mem_append.1 he with he | he
      · exact absurd (holds_iff.2 ⟨e, he, hP⟩) (hnone P)
      · rwa [List.mem_singleton.1 he] at hP
    · intro hP
      exact ⟨_, List.mem_append_right _ (List.mem_singleton_self _), hP⟩

end Graph

def written (us : List (Upsert Id V)) (key : LinkKey Id) : Props V :=
  (us.filter (·.key = key)).foldl (fun props u => u.set props) Props.empty

theorem written_snoc_self : written (us ++ [u]) u.key = u.set (written us u.key) := by
  rw [written, List.filter_append, List.filter_cons_of_pos (by simp), List.filter_nil,
    List.foldl_append]
  rfl

theorem written_snoc_of_ne (h : u.key ≠ key) : written (us ++ [u]) key = written us key := by
  rw [written, List.filter_append, List.filter_cons_of_neg (by simpa using h), List.filter_nil,
    List.append_nil, written]

theorem written_of_not_mem (h : key ∉ us.map Upsert.key) : written us key = Props.empty := by
  have hnone : us.filter (·.key = key) = [] := by
    rw [List.filter_eq_nil_iff]
    intro u hu hkey
    exact h (List.mem_map.2 ⟨u, hu, of_decide_eq_true hkey⟩)
  rw [written, hnone]
  rfl

/-- Of these keys there is an edge for every one that was merged, just one, with
what was set on it. -/
structure Reflects (sel : LinkKey Id → Bool) (us : List (Upsert Id V)) (g : Graph Id V) : Prop where
  nodup : ((g.part sel).map Edge.key).Nodup
  keys : ∀ key, key ∈ (g.part sel).map Edge.key ↔ sel key = true ∧ key ∈ us.map Upsert.key
  props : ∀ e ∈ g.part sel, e.props = written us e.key

namespace Reflects

theorem start (h : g.part sel = []) : Reflects sel [] g where
  nodup := by rw [h]; exact List.nodup_nil
  keys key := by rw [h]; simp
  props e he := by rw [h] at he; cases he

theorem mem_edges (h : Reflects sel us g) (hsel : sel key = true) :
    key ∈ us.map Upsert.key ↔ key ∈ g.edges.map Edge.key := by
  constructor
  · intro hmem
    obtain ⟨e, he, rfl⟩ := List.mem_map.1 ((h.keys key).2 ⟨hsel, hmem⟩)
    exact List.mem_map_of_mem (Graph.mem_part.1 he).1
  · intro hmem
    obtain ⟨e, he, rfl⟩ := List.mem_map.1 hmem
    exact ((h.keys e.key).1 (List.mem_map_of_mem (Graph.mem_part.2 ⟨he, hsel⟩))).2

theorem upsert (h : Reflects sel us g) (hends : g.HasEnds u.key) :
    Reflects sel (us ++ [u]) (g.upsert u) := by
  by_cases hmem : u.key ∈ g.edges.map Edge.key
  · let update := fun e : Edge Id V => if e.key = u.key then { e with props := u.set e.props } else e
    have hkey : ∀ e, (update e).key = e.key := by
      intro e
      by_cases he : e.key = u.key
      · rw [show update e = { e with props := u.set e.props } from if_pos he]
        rfl
      · rw [show update e = e from if_neg he]
    have hpart : (g.upsert u).part sel = (g.part sel).map update := Graph.part_upsert_of_mem hmem
    have hkeys : ((g.upsert u).part sel).map Edge.key = (g.part sel).map Edge.key := by
      rw [hpart, List.map_map]
      exact List.map_congr_left fun e _ => hkey e
    refine ⟨hkeys ▸ h.nodup, fun key => ?_, fun e' he' => ?_⟩
    · rw [hkeys, h.keys, List.map_append, List.mem_append, List.map_singleton, List.mem_singleton]
      refine and_congr_right fun hsel => (or_iff_left_of_imp ?_).symm
      rintro rfl
      exact (h.mem_edges hsel).2 hmem
    · rw [hpart] at he'
      obtain ⟨e, he, rfl⟩ := List.mem_map.1 he'
      rw [hkey]
      by_cases heq : e.key = u.key
      · rw [show update e = { e with props := u.set e.props } from if_pos heq, heq,
          written_snoc_self, ← heq, h.props e he]
      · rw [show update e = e from if_neg heq, written_snoc_of_ne (Ne.symm heq), h.props e he]
  · have hpart : (g.upsert u).part sel = g.part sel ++ if sel u.key = true then
        [⟨g.freshId, u.key.1, u.key.2.1, u.key.2.2, u.set Props.empty⟩] else [] :=
      Graph.part_upsert_of_not_mem hmem hends
    have hold : ∀ e ∈ g.part sel, u.key ≠ e.key := by
      rintro e he heq
      exact hmem (heq ▸ List.mem_map_of_mem (Graph.mem_part.1 he).1)
    by_cases hsel : sel u.key = true
    · have hnew : u.key ∉ us.map Upsert.key := fun hus => hmem ((h.mem_edges hsel).1 hus)
      rw [if_pos hsel] at hpart
      have hkeys : ((g.upsert u).part sel).map Edge.key = (g.part sel).map Edge.key ++ [u.key] := by
        rw [hpart, List.map_append]
        rfl
      refine ⟨?_, fun key => ?_, fun e he => ?_⟩
      · rw [hkeys, List.nodup_append]
        refine ⟨h.nodup, List.nodup_singleton _, ?_⟩
        rintro key hkey key' hkey' rfl
        obtain ⟨e, he, rfl⟩ := List.mem_map.1 hkey
        exact hold e he (List.mem_singleton.1 hkey').symm
      · rw [hkeys, List.mem_append, h.keys, List.map_append, List.mem_append, List.map_singleton,
          and_or_left]
        refine or_congr_right ⟨fun hkey => ⟨?_, hkey⟩, And.right⟩
        rwa [List.mem_singleton.1 hkey]
      · rw [hpart, List.mem_append, List.mem_singleton] at he
        rcases he with he | rfl
        · rw [written_snoc_of_ne (hold e he), h.props e he]
        · have hwritten : written (us ++ [u]) u.key = u.set Props.empty := by
            rw [written_snoc_self, written_of_not_mem hnew]
          exact hwritten.symm
    · rw [if_neg hsel, List.append_nil] at hpart
      refine ⟨hpart ▸ h.nodup, fun key => ?_, fun e he => ?_⟩
      · rw [hpart, h.keys, List.map_append, List.mem_append, List.map_singleton]
        refine and_congr_right fun hkey => (or_iff_left fun heq => ?_).symm
        exact hsel (List.mem_singleton.1 heq ▸ hkey)
      · rw [hpart] at he
        rw [written_snoc_of_ne (hold e he), h.props e he]

theorem upserts (h : Reflects sel us g) (hends : ∀ v ∈ vs, g.HasEnds v.key) :
    Reflects sel (us ++ vs) (vs.foldl Graph.upsert g) := by
  induction vs generalizing us g with
  | nil => rwa [List.append_nil]
  | cons v vs ih =>
      have hstep := h.upsert (hends v List.mem_cons_self)
      have hrest := ih hstep fun v' hv' =>
        Graph.hasEnds_upsert.2 (hends v' (List.mem_cons_of_mem _ hv'))
      rwa [List.append_assoc, List.singleton_append] at hrest

end Reflects

end Upserts

end AtlasOfUs.Library
