import AtlasOfUs.GraphApi.Parameters
import AtlasOfUs.Text

namespace AtlasOfUs.GraphApi.QueryText

open Text

def setClause (x key : String) : String := x ++ "." ++ key ++ " = $" ++ key

/-- The text that `create_node` sends, for the keys of the request and `embedding`. -/
def createNode (labels keys : List String) : String :=
  let labelString := ":" ++ join ":" labels
  "CREATE (n" ++ labelString ++ ") SET " ++ join ", " (keys.map (setClause "n")) ++
    " RETURN elementId(n) AS elementId, n.name AS name"

/-- `HashMap::insert` of the embedding: a key that is there keeps its place. -/
def withEmbedding (keys : List String) : List String :=
  if "embedding" ∈ keys then keys else keys ++ ["embedding"]

def whereClause (key value : String) : String :=
  if key = "elementId" then "elementId(node) = '" ++ value ++ "'"
  else "node." ++ key ++ " = '" ++ value ++ "'"

/-- The text properties of a search, trimmed. The others are skipped. -/
def searched (properties : PropertyMap) : List (String × String) :=
  properties.entries.filterMap (fun kv => (kv.2.asStr).map (fun value => (trim kv.1, trim value)))

def whereText (properties : PropertyMap) : String :=
  join " AND " ((searched properties).map (fun kv => whereClause kv.1 kv.2))

def matchText (labels : Option (List String)) : String :=
  match labels with
  | some labels => join "\n" (labels.map (fun label => "MATCH (node:`" ++ label ++ "`)"))
  | none => "MATCH (node)"

def nodeWithRelationshipsQueryFragment (depth : Int) : String :=
  "\n" ++ join "\n" [
    "        OPTIONAL MATCH (node)-[r*1.." ++ toString depth ++ "]->(m)",
    "        UNWIND coalesce(r, [null]) AS unwound_relationships",
    "        UNWIND coalesce(m, [null]) AS unwound_affiliates",
    "        WITH",
    "            \x7b",
    "                id: id(node),",
    "                elementId: elementId(node),",
    "                labels: labels(node),",
    "                props: properties(node)",
    "            \x7d AS nodeWithMeta,",
    "            collect(distinct case when unwound_relationships is not null then \x7b",
    "                id: id(unwound_relationships),",
    "                elementId: elementId(unwound_relationships),",
    "                startId: id(startNode(unwound_relationships)),",
    "                startElementId: elementId(startNode(unwound_relationships)),",
    "                endId: id(endNode(unwound_relationships)),",
    "                endElementId: elementId(endNode(unwound_relationships)),",
    "                type: type(unwound_relationships),",
    "                props: properties(unwound_relationships)",
    "            \x7d else null end) AS relationshipsWithMeta,",
    "            collect(distinct case when unwound_affiliates is not null then \x7b",
    "                id: id(unwound_affiliates),",
    "                elementId: elementId(unwound_affiliates),",
    "                labels: labels(unwound_affiliates),",
    "                props: properties(unwound_affiliates)",
    "            \x7d else null end) AS affiliatedNodesWithMeta",
    "        RETURN",
    "            nodeWithMeta AS node,",
    "            relationshipsWithMeta AS relationships,",
    "            affiliatedNodesWithMeta AS affiliatedNodes",
    "        "]

def getNodesWithRelationships (labels : Option (List String)) (properties : PropertyMap)
    (depth : Int) : String :=
  (if searched properties = [] then matchText labels
    else matchText labels ++ ("\nWHERE " ++ whereText properties)) ++
    nodeWithRelationshipsQueryFragment depth

def relabelLines (labels : Option (List String)) : List String :=
  match labels with
  | some labels => "REMOVE n:_" :: labels.map (fun label => "SET n:`" ++ label ++ "`")
  | none => []

def setLines (keys : List String) : List String :=
  if keys = [] then [] else ["SET " ++ join ", " (keys.map (setClause "n"))]

def updateNode (labels : Option (List String)) (keys : List String) : String :=
  join "\n" (["MATCH (n)", "WHERE elementId(n) = $targetId"] ++ relabelLines labels ++
    setLines keys ++ ["RETURN n"])

def createRelationship (type : String) (keys : List String) : String :=
  "\n            MATCH (source), (target)" ++
  "\n            WHERE elementId(source) = $sourceId AND elementId(target) = $targetId" ++
  "\n            MERGE (source)-[r:" ++ type ++ "]->(target)" ++
  (if keys = [] then "" else "\n            SET " ++ join ", " (keys.map (setClause "r"))) ++
  "\n            RETURN elementId(r) AS elementId\n            "

/-- A new type makes a new relationship; the clauses then speak of that one. -/
def updateRelationship (type : String) (keys : List String) : String :=
  if type ≠ "" then
    "\n                MATCH (source)-[r]->(target)" ++
    "\n                WHERE elementId(r) = $targetId" ++
    "\n                CREATE (source)-[newR:" ++ type ++ "]->(target)" ++
    (if keys = [] then ""
      else "\n                SET " ++ replace (join ", " (keys.map (setClause "r"))) "r." "newR.") ++
    "\n                DELETE r\n                RETURN newR AS r\n                "
  else if keys = [] then
    "\n            MATCH ()-[r]->()" ++
    "\n            WHERE elementId(r) = $targetId" ++
    "\n            RETURN r\n            "
  else
    "\n                MATCH ()-[r]->()" ++
    "\n                WHERE elementId(r) = $targetId" ++
    "\n                SET " ++ join ", " (keys.map (setClause "r")) ++
    "\n                RETURN r\n                "

end AtlasOfUs.GraphApi.QueryText
