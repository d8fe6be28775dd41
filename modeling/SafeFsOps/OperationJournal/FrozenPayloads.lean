import SafeFsOps.OperationJournal.TreeBackupRecovery

/-!
# Frozen payloads

A stored payload is handed out frozen (`_freeze_json` of `operation_journal/journal_payloads.py`):
tuples for lists, read-only proxies for dicts, at every depth. `json.dumps` takes tuples
but no proxies, so what is planned on a stored payload is first made of plain dicts and
lists again (`jsonable_mapping` of `recursive_mkdir_recovery_actions.py`).

> `payloadToJson_jsonable`: a stored payload that is made plain again has its old text.
-/

namespace SafeFsOps.TreeBackups

/-! ## Containers -/

/-- A Python value that a payload is made of. -/
inductive PyValue where
  | null
  | bool (b : Bool)
  | int (n : Int)
  | float (x : FloatText)
  | str (s : String)
  | list (items : List PyValue)
  | tuple (items : List PyValue)
  | dict (members : List (String × PyValue))
  | mappingProxy (members : List (String × PyValue))

namespace PyValue

mutual

/-- `json.loads`. -/
def ofJson : Json → PyValue
  | .null => null
  | .bool b => bool b
  | .int n => int n
  | .float x => float x
  | .str s => str s
  | .arr items => list (ofItems items)
  | .obj members => dict (ofMembers members)

def ofItems : List Json → List PyValue
  | [] => []
  | v :: vs => ofJson v :: ofItems vs

def ofMembers : List (String × Json) → List (String × PyValue)
  | [] => []
  | (k, v) :: ms => (k, ofJson v) :: ofMembers ms

end

mutual

/-- `_freeze_json`. -/
def freezeJson : PyValue → PyValue
  | list items => tuple (freezeItems items)
  | tuple items => tuple (freezeItems items)
  | dict members => mappingProxy (freezeMembers members)
  | mappingProxy members => mappingProxy (freezeMembers members)
  | null => null
  | bool b => bool b
  | int n => int n
  | float x => float x
  | str s => str s

def freezeItems : List PyValue → List PyValue
  | [] => []
  | v :: vs => freezeJson v :: freezeItems vs

def freezeMembers : List (String × PyValue) → List (String × PyValue)
  | [] => []
  | (k, v) :: ms => (k, freezeJson v) :: freezeMembers ms

end

mutual

/-- `jsonable_value`. -/
def jsonableValue : PyValue → PyValue
  | list items => list (jsonableItems items)
  | tuple items => list (jsonableItems items)
  | dict members => dict (jsonableMembers members)
  | mappingProxy members => dict (jsonableMembers members)
  | null => null
  | bool b => bool b
  | int n => int n
  | float x => float x
  | str s => str s

def jsonableItems : List PyValue → List PyValue
  | [] => []
  | v :: vs => jsonableValue v :: jsonableItems vs

def jsonableMembers : List (String × PyValue) → List (String × PyValue)
  | [] => []
  | (k, v) :: ms => (k, jsonableValue v) :: jsonableMembers ms

end

mutual

/-- What `json.dumps` writes a value as, or its `TypeError`. -/
def encoded : PyValue → Except String Json
  | null => .ok .null
  | bool b => .ok (.bool b)
  | int n => .ok (.int n)
  | float x => .ok (.float x)
  | str s => .ok (.str s)
  | list items => (encodedItems items).map .arr
  | tuple items => (encodedItems items).map .arr
  | dict members => (encodedMembers members).map .obj
  | mappingProxy _ => .error "Object of type mappingproxy is not JSON serializable"

def encodedItems : List PyValue → Except String (List Json)
  | [] => .ok []
  | v :: vs => do
    let j ← encoded v
    let js ← encodedItems vs
    return j :: js

def encodedMembers : List (String × PyValue) → Except String (List (String × Json))
  | [] => .ok []
  | (k, v) :: ms => do
    let j ← encoded v
    let js ← encodedMembers ms
    return (k, j) :: js

end

/-- `_payload_to_json`. -/
def payloadToJson (payload : PyValue) : Except String String := (encoded payload).map fun j => String.ofList j.dumps

/-- `_frozen_payload`. -/
def frozenPayload (text : String) : Except String PyValue :=
  (TreeBackups.frozenPayload text).map fun members => freezeJson (ofJson (.obj members))

/-! ## There and back -/

mutual

theorem encoded_jsonableValue : ∀ j : Json, encoded (jsonableValue (freezeJson (ofJson j))) = .ok j
  | .null => rfl
  | .bool _ => rfl
  | .int _ => rfl
  | .float _ => rfl
  | .str _ => rfl
  | .arr items => by
    simp only [ofJson, freezeJson, jsonableValue, encoded, encodedItems_jsonableItems items, Except.map]
  | .obj members => by
    simp only [ofJson, freezeJson, jsonableValue, encoded, encodedMembers_jsonableMembers members, Except.map]

theorem encodedItems_jsonableItems : ∀ items : List Json,
    encodedItems (jsonableItems (freezeItems (ofItems items))) = .ok items
  | [] => rfl
  | v :: vs => by
    simp only [ofItems, freezeItems, jsonableItems, encodedItems, bind_eq_ok, pure_eq_ok]
    exact ⟨v, encoded_jsonableValue v, vs, encodedItems_jsonableItems vs, rfl⟩

theorem encodedMembers_jsonableMembers : ∀ members : List (String × Json),
    encodedMembers (jsonableMembers (freezeMembers (ofMembers members))) = .ok members
  | [] => rfl
  | (k, v) :: ms => by
    simp only [ofMembers, freezeMembers, jsonableMembers, encodedMembers, bind_eq_ok, pure_eq_ok]
    exact ⟨v, encoded_jsonableValue v, ms, encodedMembers_jsonableMembers ms, rfl⟩

end

end PyValue

/-! ## Sorting twice -/

/-- Members in order stay in order whatever becomes of their values. -/
theorem insertionSort_sortedMember {ms : List (String × Json)} (hsorted : ms.Pairwise fun p q => p.1 ≤ q.1)
    (hms : ∀ m ∈ ms, m.2.sorted = m.2) :
    (Json.sortedMembers ms).insertionSort (fun p q => p.1 ≤ q.1) = ms := by
  have hmap : ms.map Json.sortedMember = ms.map id := List.map_congr_left fun m hm => Prod.ext rfl (hms m hm)
  rw [Json.sortedMembers_eq, hmap, List.map_id]
  exact hsorted.insertionSort_eq

mutual

/-- What is sorted stays as it is. -/
theorem sorted_sorted : ∀ j : Json, j.sorted.sorted = j.sorted
  | .null => rfl
  | .bool _ => rfl
  | .int _ => rfl
  | .float _ => rfl
  | .str _ => rfl
  | .arr items => by
    have hitems := sortedItems_fixed items
    show Json.arr (Json.sortedItems (Json.sortedItems items)) = Json.arr (Json.sortedItems items)
    rw [Json.sortedItems_eq (Json.sortedItems items)]
    congr 1
    exact (List.map_congr_left hitems).trans (List.map_id _)
  | .obj members => by
    have hmembers := sortedMembers_fixed members
    show Json.obj _ = Json.obj _
    congr 1
    apply insertionSort_sortedMember
    · exact List.pairwise_insertionSort _ _
    · intro m hm
      exact hmembers m ((List.perm_insertionSort _ _).mem_iff.1 hm)

theorem sortedItems_fixed : ∀ (items : List Json), ∀ j ∈ Json.sortedItems items, j.sorted = j
  | [], _, h => absurd h List.not_mem_nil
  | v :: vs, j, h => by
    rcases List.mem_cons.1 h with heq | hmem
    · rw [heq]
      exact sorted_sorted v
    · exact sortedItems_fixed vs j hmem

theorem sortedMembers_fixed : ∀ (members : List (String × Json)), ∀ m ∈ Json.sortedMembers members, m.2.sorted = m.2
  | [], _, h => absurd h List.not_mem_nil
  | (k, v) :: ms, m, h => by
    rcases List.mem_cons.1 h with heq | hmem
    · rw [heq]
      exact sorted_sorted v
    · exact sortedMembers_fixed ms m hmem

end

/-- What was stored is stored as it is. -/
theorem stored_stored (members : Mapping) : Json.stored (Json.stored members) = Json.stored members :=
  Json.obj.inj (sorted_sorted (.obj members))

theorem payloadText_stored (members : Mapping) : payloadText (Json.stored members) = payloadText members := by
  have hsorted : (Json.obj (Json.stored members)).sorted = (Json.obj members).sorted := sorted_sorted (.obj members)
  rw [payloadText, payloadText, Json.dumps, Json.dumps, hsorted]

namespace PyValue

/-- The frozen payload of a stored text. -/
theorem frozenPayload_payloadText (members : Mapping) :
    frozenPayload (payloadText members) = .ok (freezeJson (ofJson (.obj (Json.stored members)))) := by
  rw [frozenPayload, TreeBackups.frozenPayload_payloadText]
  rfl

/-- A stored payload, made plain again, is written as it was. -/
theorem payloadToJson_jsonable {members : Mapping} {payload : PyValue}
    (h : frozenPayload (payloadText members) = .ok payload) :
    payloadToJson (jsonableValue payload) = .ok (payloadText members) := by
  rw [frozenPayload_payloadText] at h
  rw [← Except.ok.inj h, payloadToJson, encoded_jsonableValue]
  exact congrArg Except.ok (payloadText_stored members)

/-- As it is, it is not written. -/
theorem payloadToJson_frozen {members : Mapping} {payload : PyValue}
    (h : frozenPayload (payloadText members) = .ok payload) :
    payloadToJson payload = .error "Object of type mappingproxy is not JSON serializable" := by
  rw [frozenPayload_payloadText] at h
  rw [← Except.ok.inj h]
  rfl

end PyValue

end SafeFsOps.TreeBackups
