import AtlasOfUs.Library.UrlQuery

namespace AtlasOfUs.ObjectStore

open Library

abbrev Bytes := List UInt8

abbrev Store := String → String → Option Bytes

def Store.put (store : Store) (bucket key : String) (data : Bytes) : Store := fun b k =>
  if b = bucket ∧ k = key then some data else store b k

theorem Store.put_self (store : Store) (bucket key : String) (data : Bytes) :
    store.put bucket key data bucket key = some data := if_pos ⟨rfl, rfl⟩

theorem Store.put_of_ne (store : Store) {bucket key b k : String} (data : Bytes)
    (h : ¬ (b = bucket ∧ k = key)) : store.put bucket key data b k = store b k := if_neg h

/-- What becomes of a request for an object: the body of an upload may not be
read, and a call of the store may fail before or after it has been carried out. -/
inductive Fate
  | done
  | failed (applied : Bool)
  | unread
  deriving DecidableEq

structure S3ObjectParams where
  bucket : String
  key : String
  deriving DecidableEq

def S3ObjectParams.ofPairs (ps : List (List Char × List Char)) : Option S3ObjectParams :=
  (UrlQuery.field "bucket".toList ps).bind fun bucket =>
    (UrlQuery.field "key".toList ps).map fun key => ⟨.ofList bucket, .ofList key⟩

/-- The parameters in what stands after the question mark of a URL. -/
@[irreducible] def S3ObjectParams.ofQuery (query : String) : Option S3ObjectParams :=
  ofPairs (UrlQuery.pairs (UrlQuery.parse query.toList))

section Server

variable (infer : Bytes → Option String)

def contentType (data : Bytes) : String := (infer data).getD "application/octet-stream"

def returnS3Object (query : String) (fate : Fate) (store : Store) : Except Nat (Bytes × String) :=
  match S3ObjectParams.ofQuery query with
  | none => .error 400
  | some params =>
      match fate, store params.bucket params.key with
      | .done, some data => .ok (data, contentType infer data)
      | _, _ => .error 500

def uploadS3Object (query : String) (file : Bytes) (fate : Fate) (store : Store) :
    Except Nat String × Store :=
  match S3ObjectParams.ofQuery query with
  | none => (.error 400, store)
  | some params =>
      if file = [] then (.error 400, store)
      else
        match fate with
        | .done => (.ok "File uploaded successfully", store.put params.bucket params.key file)
        | .failed applied =>
            (.error 500, if applied then store.put params.bucket params.key file else store)
        | .unread => (.error 400, store)

variable {query : String} {params : S3ObjectParams} {file : Bytes} {fate : Fate} {store : Store}

theorem uploadS3Object_nil (h : S3ObjectParams.ofQuery query = some params) :
    uploadS3Object query [] fate store = (.error 400, store) := by
  rw [uploadS3Object, h]
  rfl

theorem uploadS3Object_of_ne (hfile : file ≠ []) (h : S3ObjectParams.ofQuery query = some params) :
    uploadS3Object query file fate store =
      match fate with
      | .done => (.ok "File uploaded successfully", store.put params.bucket params.key file)
      | .failed applied =>
          (.error 500, if applied then store.put params.bucket params.key file else store)
      | .unread => (.error 400, store) := by
  rw [uploadS3Object, h]
  exact if_neg hfile

end Server

section Client

def units (c : Char) : Nat := if c.toNat < 0x10000 then 1 else 2

/-- `text.replace(/[^...]/g, '_')`, for each unit of a character that is not kept. -/
def sanitize (kept : Char → Bool) (text : String) : List Char :=
  text.toList.flatMap fun c => if kept c then [c] else List.replicate (units c) '_'

def sanitizedName (name : String) : List Char :=
  sanitize (fun c => c.isAlphanum || c = '.' || c = '-') name

def sanitizedElementId (elementId : String) : List Char :=
  sanitize (fun c => c.isAlphanum || c = '-') elementId

def proofKey (elementId : String) (timestamp : Nat) (name : String) : String :=
  .ofList ("proofs/".toList ++ sanitizedElementId elementId ++ '/' :: (toString timestamp).toList ++
    '_' :: sanitizedName name)

def bucketName : String := "atlas-of-us-general-bucket"

def queryFront : List Char := "bucket=atlas-of-us-general-bucket&key=".toList

def uploadQuery (key : String) : String := .ofList (queryFront ++ UrlQuery.component key.toList)

/-- The client's `getS3Object` puts the key into the URL as it is. -/
def objectQuery (key : String) : String := .ofList (queryFront ++ key.toList)

def cleanFilename (key : String) : List Char :=
  let last := (key.toList.splitOn '/').getLast?.getD []
  let filename := if last = [] then "attachment".toList else last
  let rest := filename.dropWhile Char.isDigit
  if filename.head?.any Char.isDigit && rest.head? = some '_' then rest.drop 1 else filename

end Client

section Keys

theorem pairs_front (rest : List Char) :
    UrlQuery.pairs (UrlQuery.parse (queryFront ++ rest)) =
      ("bucket".toList, bucketName.toList) :: ("key".toList, UrlQuery.value rest) ::
        UrlQuery.pairs (((UrlQuery.parse rest).dropWhile (· ≠ '&')).drop 1) := by
  have hall : ∀ c ∈ bucketName.toList, decide (c ≠ '&') = true := List.all_eq_true.1 (by decide)
  have hfront : queryFront ++ UrlQuery.parse rest = "bucket".toList ++ '=' ::
      (bucketName.toList ++ '&' :: ("key".toList ++ '=' :: UrlQuery.parse rest)) := rfl
  rw [UrlQuery.parse_append (by decide), hfront, UrlQuery.pairs_cons (by decide),
    List.takeWhile_append_of_pos hall, List.dropWhile_append_of_pos hall,
    List.takeWhile_cons_of_neg (by decide), List.dropWhile_cons_of_neg (by decide), List.append_nil,
    List.drop_one, List.tail_cons, UrlQuery.pairs_cons (by decide),
    UrlQuery.decode_eq_self_iff.2 (by decide), UrlQuery.decode_eq_self_iff.2 (by decide),
    UrlQuery.decode_eq_self_iff.2 (by decide)]
  rfl

theorem ofQuery_ofList (query : List Char) : S3ObjectParams.ofQuery (.ofList query) =
    S3ObjectParams.ofPairs (UrlQuery.pairs (UrlQuery.parse query)) := by
  rw [S3ObjectParams.ofQuery, String.toList_ofList]

theorem key_of_ofQuery {rest : List Char} {params : S3ObjectParams}
    (h : S3ObjectParams.ofQuery (.ofList (queryFront ++ rest)) = some params) :
    params.key = .ofList (UrlQuery.value rest) := by
  rw [ofQuery_ofList, pairs_front, S3ObjectParams.ofPairs] at h
  obtain ⟨bucket, -, h⟩ := Option.bind_eq_some_iff.1 h
  obtain ⟨key, hkey, rfl⟩ := Option.map_eq_some_iff.1 h
  rw [UrlQuery.field, List.filter_cons_of_neg (by decide),
    List.filter_cons_of_pos (by simp)] at hkey
  split at hkey
  · next heq =>
      obtain ⟨rfl, -⟩ := List.cons.inj heq
      exact congrArg String.ofList (Option.some.inj hkey).symm
  · cases hkey

theorem ofQuery_front {rest : List Char} (hrest : '&' ∉ UrlQuery.parse rest) :
    S3ObjectParams.ofQuery (.ofList (queryFront ++ rest)) =
      some ⟨bucketName, .ofList (UrlQuery.value rest)⟩ := by
  have hall : ∀ c ∈ UrlQuery.parse rest, decide (c ≠ '&') = true := fun c hc =>
    decide_eq_true fun heq => hrest (heq ▸ hc)
  rw [ofQuery_ofList, pairs_front, List.dropWhile_eq_nil_iff.2 hall]
  rfl

theorem ofQuery_uploadQuery (key : String) :
    S3ObjectParams.ofQuery (uploadQuery key) = some ⟨bucketName, key⟩ := by
  rw [uploadQuery, ofQuery_front (UrlQuery.amp_notMem_parse (UrlQuery.amp_notMem_component _)),
    UrlQuery.value_component, String.ofList_toList]

theorem ofQuery_objectQuery {key : String} (h : UrlQuery.PlainValue key.toList) :
    S3ObjectParams.ofQuery (objectQuery key) = some ⟨bucketName, key⟩ := by
  rw [objectQuery, ofQuery_front (UrlQuery.amp_notMem_parse fun hamp => (h.inside _ hamp).1 rfl),
    UrlQuery.value_eq_self_iff.2 h, String.ofList_toList]

/-- A key that is put into the URL as it is is read as it is just if it is plain. -/
theorem ofQuery_objectQuery_iff (key : String) :
    S3ObjectParams.ofQuery (objectQuery key) = some ⟨bucketName, key⟩ ↔
      UrlQuery.PlainValue key.toList := by
  refine ⟨fun h => ?_, ofQuery_objectQuery⟩
  have hkey : String.ofList key.toList = String.ofList (UrlQuery.value key.toList) :=
    (String.ofList_toList).trans (key_of_ofQuery h)
  exact UrlQuery.value_eq_self_iff.1 (String.ofList_injective hkey).symm

section Proofs

variable {kept : Char → Bool} {text : String} {c : Char}

theorem mem_sanitize (h : c ∈ sanitize kept text) : kept c = true ∨ c = '_' := by
  obtain ⟨d, -, hc⟩ := List.mem_flatMap.1 h
  split at hc
  · next hkept =>
      rw [List.mem_singleton] at hc
      exact .inl (hc ▸ hkept)
  · exact .inr (List.eq_of_mem_replicate hc)

def isKeyChar (c : Char) : Bool := c.isAlphanum || "./-_".toList.contains c

theorem isKeyChar_of_sanitize (hkept : ∀ c, kept c = true → isKeyChar c = true)
    (h : c ∈ sanitize kept text) : isKeyChar c = true := by
  rcases mem_sanitize h with h | rfl
  · exact hkept c h
  · decide

theorem isDigit_of_mem_toString {n : Nat} (h : c ∈ (toString n).toList) : c.isDigit = true := by
  rw [Nat.toString_eq_repr, Nat.toList_repr] at h
  exact Nat.isDigit_of_mem_toDigits (by omega) (by omega) h

theorem toList_proofKey (elementId : String) (timestamp : Nat) (name : String) :
    (proofKey elementId timestamp name).toList =
      "proofs/".toList ++ sanitizedElementId elementId ++ '/' :: (toString timestamp).toList ++
        '_' :: sanitizedName name :=
  String.toList_ofList

theorem isKeyChar_of_mem_proofKey {elementId name : String} {timestamp : Nat}
    (h : c ∈ (proofKey elementId timestamp name).toList) : isKeyChar c = true := by
  rw [toList_proofKey] at h
  simp only [List.mem_append, List.mem_cons] at h
  rcases h with ((h | h) | rfl | h) | rfl | h
  · have hall : ∀ c ∈ "proofs/".toList, isKeyChar c = true := List.all_eq_true.1 (by decide)
    exact hall c h
  · refine isKeyChar_of_sanitize (fun c hc => ?_) h
    rw [Bool.or_eq_true, decide_eq_true_eq] at hc
    rcases hc with hc | rfl
    · rw [isKeyChar, hc, Bool.true_or]
    · decide
  · decide
  · rw [isKeyChar, Char.isAlphanum, isDigit_of_mem_toString h, Bool.or_true, Bool.true_or]
  · decide
  · refine isKeyChar_of_sanitize (fun c hc => ?_) h
    rw [Bool.or_eq_true, Bool.or_eq_true, decide_eq_true_eq, decide_eq_true_eq] at hc
    rcases hc with (hc | rfl) | rfl
    · rw [isKeyChar, hc, Bool.true_or]
    · decide
    · decide

theorem plainValue_of_keyChars {cs : List Char} (h : ∀ c ∈ cs, isKeyChar c = true) :
    UrlQuery.PlainValue cs := by
  have hnot : ∀ d, isKeyChar d = false → d ∉ cs := by
    intro d hd hmem
    rw [h d hmem] at hd
    cases hd
  have hne : ∀ d, isKeyChar d = false → ∀ c ∈ cs, c ≠ d := by
    rintro d hd c hc rfl
    exact hnot c hd hc
  have hstripped : ∀ c ∈ cs, UrlPath.isStripped c = false := by
    intro c hc
    by_contra hlow
    have hle : c.toNat ≤ 0x20 := by simpa [UrlPath.isStripped] using hlow
    have hall : ∀ n ≤ 0x20, isKeyChar (Char.ofNat n) = false := by decide
    exact hnot c (Char.ofNat_toNat c ▸ hall c.toNat hle) hc
  refine ⟨fun c hc => ⟨hne _ (by decide) c hc, hne _ (by decide) c hc, hne _ (by decide) c hc, ?_⟩,
    fun c hc => hstripped c (List.mem_of_getLast? hc), ?_⟩
  · rw [UrlPath.isSkipped, decide_eq_false (hne _ (by decide) c hc),
      decide_eq_false (hne _ (by decide) c hc), decide_eq_false (hne _ (by decide) c hc)]
    rfl
  · exact Percent.escapeFree_of_notMem (hnot _ (by decide))

/-- The key of a proof is the same at its upload and when it is asked for, and from it the name of the
file is told. -/
theorem proofKey_kept (elementId : String) (timestamp : Nat) (name : String) :
    S3ObjectParams.ofQuery (uploadQuery (proofKey elementId timestamp name)) =
        some ⟨bucketName, proofKey elementId timestamp name⟩ ∧
      S3ObjectParams.ofQuery (objectQuery (proofKey elementId timestamp name)) =
        some ⟨bucketName, proofKey elementId timestamp name⟩ ∧
      cleanFilename (proofKey elementId timestamp name) = sanitizedName name := by
  refine ⟨ofQuery_uploadQuery _, ofQuery_objectQuery
    (plainValue_of_keyChars fun c hc => isKeyChar_of_mem_proofKey hc), ?_⟩
  have hslash : '/' ∉ (toString timestamp).toList ++ '_' :: sanitizedName name := by
    simp only [List.mem_append, List.mem_cons, not_or]
    refine ⟨fun h => ?_, by decide, fun h => ?_⟩
    · cases isDigit_of_mem_toString h
    · rcases mem_sanitize h with h | h <;> cases h
  have hdigits : ∀ c ∈ (toString timestamp).toList, c.isDigit = true :=
    fun c hc => isDigit_of_mem_toString hc
  have hlast : ((proofKey elementId timestamp name).toList.splitOn '/').getLast?.getD [] =
      (toString timestamp).toList ++ '_' :: sanitizedName name := by
    rw [toList_proofKey, List.append_assoc, List.cons_append, List.splitOn_append_cons_self,
      List.splitOn_eq_singleton hslash, List.getLast?_concat, Option.getD_some]
  obtain ⟨d, ds, htext⟩ : ∃ d ds, (toString timestamp).toList = d :: ds := by
    apply List.exists_cons_of_ne_nil
    rw [Nat.toString_eq_repr, Nat.toList_repr]
    exact Nat.toDigits_ne_nil
  rw [cleanFilename, hlast, if_neg (List.append_ne_nil_of_right_ne_nil _ (List.cons_ne_nil _ _)),
    List.dropWhile_append_of_pos hdigits, List.dropWhile_cons_of_neg (by decide), htext]
  have hdigit : d.isDigit = true := hdigits d (htext ▸ List.mem_cons_self)
  simp [hdigit]

end Proofs

end Keys

end AtlasOfUs.ObjectStore
