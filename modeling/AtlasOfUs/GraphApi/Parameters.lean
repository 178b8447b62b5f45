import AtlasOfUs.GraphApi.NodeService

namespace AtlasOfUs.GraphApi

open Library

inductive Bolt
  | null
  | bool (b : Bool)
  | int (i : Int)
  | float (q : ℚ)
  | str (s : String)
  | list (vs : List Bolt)

/-- The printer of `serde_json`, `as_f64` for the integers beyond `i64`, the
lists the server stores, and the driver's picture of a node and of an edge. -/
structure Conversion where
  print : Json → String
  asF64 : Int → ℚ
  storeList : List Bolt → Option Value
  showNode : Node → Json
  showEdge : Edge → Json

variable (conv : Conversion)

mutual

def jsonValueToBoltType : Json → Bolt
  | .null => .null
  | .bool b => .bool b
  | .int i => if (Json.int i).asI64.isSome then .int i else .float (conv.asF64 i)
  | .float q => .float q
  | .str s => .str s
  | .array vs => .list (jsonValuesToBoltTypes vs)
  | .object fields => .str (conv.print (.object fields))

def jsonValuesToBoltTypes : List Json → List Bolt
  | [] => []
  | v :: vs => jsonValueToBoltType v :: jsonValuesToBoltTypes vs

end

def Bolt.asStr : Bolt → Option String
  | .str s => some s
  | _ => none

/-- What `SET x.key = value` leaves in the property: null removes it, and a
value the server does not store fails the statement. -/
def Bolt.stored : Bolt → Option (Option Value)
  | .null => some none
  | .bool b => some (some (.bool b))
  | .int i => some (some (.int i))
  | .float q => some (some (.float q))
  | .str s => some (some (.str s))
  | .list vs => (conv.storeList vs).map some

/-- The properties of a request, a map from keys to values. -/
structure PropertyMap where
  entries : List (String × Json)
  keys_nodup : (entries.map Prod.fst).Nodup

namespace PropertyMap

def empty : PropertyMap := ⟨[], List.nodup_nil⟩

def keys (properties : PropertyMap) : List String := properties.entries.map Prod.fst

def get (properties : PropertyMap) (key : String) : Option Json := properties.entries.lookup key

end PropertyMap

abbrev Params := String → Option Bolt

namespace Params

def empty : Params := fun _ => none

/-- `query.param(key, value)`: a parameter set a second time has the new value. -/
def param (params : Params) (key : String) (value : Bolt) : Params := fun k =>
  if k = key then some value else params k

/-- `for (key, value) in properties { query = query.param(&key, ...) }`. -/
def paramAll (params : Params) (properties : PropertyMap) : Params :=
  properties.entries.foldl (fun ps kv => ps.param kv.1 (jsonValueToBoltType conv kv.2)) params

def string (params : Params) (key : String) : Option String := (params key).bind Bolt.asStr

end Params

/-- `x.key = $key, ...`, each key with the value it is set to. -/
def setClauses (params : Params) (keys : List String) : Option (List (String × Option Value)) :=
  keys.mapM (fun key => ((params key).bind (Bolt.stored conv)).map (fun v => (key, v)))

def assign (assignments : List (String × Option Value)) (props : Props) : Props := fun key =>
  (assignments.lookup key).getD (props key)

theorem foldl_param (entries : List (String × Json)) (params : Params)
    (h : (entries.map Prod.fst).Nodup) (key : String) :
    (entries.foldl (fun ps kv => Params.param ps kv.1 (jsonValueToBoltType conv kv.2)) params) key =
      ((entries.lookup key).map (jsonValueToBoltType conv)).or (params key) := by
  induction entries generalizing params with
  | nil => rfl
  | cons kv entries ih =>
      rw [List.map_cons, List.nodup_cons] at h
      rw [List.foldl_cons, ih _ h.2, List.lookup_cons, Params.param]
      by_cases hkey : key = kv.1
      · have hnone : entries.lookup key = none := by
          rw [List.lookup_eq_none_iff]
          intro entry hentry
          rw [bne_iff_ne]
          rintro rfl
          exact h.1 (hkey ▸ List.mem_map_of_mem hentry)
        simp [hkey, hkey ▸ hnone]
      · have hbeq : (key == kv.1) = false := beq_eq_false_iff_ne.2 hkey
        rw [hbeq, if_neg hkey]

theorem paramAll_apply (params : Params) (properties : PropertyMap) (key : String) :
    params.paramAll conv properties key =
      ((properties.get key).map (jsonValueToBoltType conv)).or (params key) :=
  foldl_param conv _ _ properties.keys_nodup key

def bound (properties : PropertyMap) (parameter : String) (given : ElementId) : Option ElementId :=
  match properties.get parameter with
  | none => some given
  | some value => (jsonValueToBoltType conv value).asStr

theorem string_paramAll {params : Params} {parameter : String} (given : ElementId)
    (h : params parameter = some (.str given)) (properties : PropertyMap) :
    (params.paramAll conv properties).string parameter = bound conv properties parameter given := by
  rw [Params.string, paramAll_apply, bound, h]
  cases properties.get parameter <;> rfl

/-- The properties as the statement sets them, unless one of them is refused. -/
def PropertyMap.assignments (properties : PropertyMap) : Option (List (String × Option Value)) :=
  properties.entries.mapM
    (fun kv => ((jsonValueToBoltType conv kv.2).stored conv).map (fun v => (kv.1, v)))

theorem lookup_eq_of_mem {entries : List (String × Json)} (h : (entries.map Prod.fst).Nodup)
    {kv : String × Json} (hkv : kv ∈ entries) : entries.lookup kv.1 = some kv.2 := by
  induction entries with
  | nil => cases hkv
  | cons entry entries ih =>
      rw [List.map_cons, List.nodup_cons] at h
      rw [List.lookup_cons]
      rcases List.mem_cons.1 hkv with rfl | hkv
      · rw [BEq.rfl]
      · have hne : (kv.1 == entry.1) = false := by
          rw [beq_eq_false_iff_ne]
          intro heq
          exact h.1 (heq ▸ List.mem_map_of_mem hkv)
        rw [hne]
        exact ih h.2 hkv

theorem mapM_congr_left {α β γ : Type} {xs : List α} {k : α → γ} {f : γ → Option β}
    {f' : α → Option β} (h : ∀ x ∈ xs, f (k x) = f' x) : (xs.map k).mapM f = xs.mapM f' := by
  induction xs with
  | nil => rfl
  | cons x xs ih =>
      rw [List.map_cons, List.mapM_cons, List.mapM_cons, h x List.mem_cons_self,
        ih fun y hy => h y (List.mem_cons_of_mem x hy)]

theorem setClauses_paramAll (params : Params) (properties : PropertyMap) :
    setClauses conv (params.paramAll conv properties) properties.keys =
      properties.assignments conv := by
  refine mapM_congr_left fun kv hkv => ?_
  rw [paramAll_apply, PropertyMap.get, lookup_eq_of_mem properties.keys_nodup hkv]
  rfl

section Stored

variable {conv}

def PropertyMap.ofProperties (entries : Properties) (h : (entries.map Prod.fst).Nodup) :
    PropertyMap where
  entries := entries.map (fun kv => (kv.1, kv.2.toJson))
  keys_nodup := by
    rw [List.map_map]
    exact h

def KeepsValues (conv : Conversion) (entries : Properties) : Prop :=
  ∀ kv ∈ entries, (jsonValueToBoltType conv kv.2.toJson).stored conv = some (some kv.2)

theorem asStr_jsonValueToBoltType (v : Value) :
    (jsonValueToBoltType conv v.toJson).asStr = v.asStr := by
  cases v with
  | int i =>
      simp only [Value.toJson, jsonValueToBoltType]
      split <;> rfl
  | bool b | float q | str s | list vs => rfl

theorem lookup_map_snd {α β : Type} (f : α → β) (entries : List (String × α)) (key : String) :
    (entries.map (fun kv => (kv.1, f kv.2))).lookup key = (entries.lookup key).map f := by
  induction entries with
  | nil => rfl
  | cons kv entries ih =>
      rw [List.map_cons, List.lookup_cons, List.lookup_cons, ih]
      cases key == kv.1 <;> rfl

theorem bound_ofProperties {entries : Properties} (h : (entries.map Prod.fst).Nodup)
    (parameter : String) (given : ElementId) :
    bound conv (.ofProperties entries h) parameter given = boundId entries parameter given := by
  rw [bound, boundId, PropertyMap.get, PropertyMap.ofProperties, lookup_map_snd]
  cases entries.lookup parameter with
  | none => rfl
  | some v => exact asStr_jsonValueToBoltType v

theorem assignments_ofProperties {entries : Properties} (h : (entries.map Prod.fst).Nodup)
    (hkeeps : KeepsValues conv entries) :
    (PropertyMap.ofProperties entries h).assignments conv =
      some (entries.map (fun kv => (kv.1, some kv.2))) := by
  have hall : ∀ es : Properties, (∀ kv ∈ es, kv ∈ entries) →
      (es.map (fun kv => (kv.1, kv.2.toJson))).mapM (fun kv =>
        ((jsonValueToBoltType conv kv.2).stored conv).map (fun v => (kv.1, v))) =
      some (es.map (fun kv => (kv.1, some kv.2))) := by
    intro es hes
    induction es with
    | nil => rfl
    | cons kv es ih =>
        rw [List.map_cons, List.mapM_cons, hkeeps kv (hes kv List.mem_cons_self),
          ih fun kv' hkv' => hes kv' (List.mem_cons_of_mem _ hkv')]
        rfl
  exact hall entries fun _ h => h

theorem assign_some (entries : Properties) :
    assign (entries.map (fun kv => (kv.1, some kv.2))) = setAll entries := by
  funext props key
  rw [assign, lookup_map_snd, setAll]
  cases entries.lookup key <;> rfl

end Stored

end AtlasOfUs.GraphApi
