import RtspProxy.Lib.Keyset
import RtspProxy.Lib.Like
import RtspProxy.Nodes.Steps

/-!
# The camera catalog

`camera_catalog` of both stores. The database joins its cameras with their
placements and nodes in `_camera_catalog_query` and adds the conditions of a
query. A search text is normalized where a query is made; nothing below depends
on it.
-/

namespace RtspProxy.Nodes

open Lib Lib.Keyset Lib.Raising Lib.Like List

structure CameraCatalogItem where
  id : UUID
  name : String
  publicId : PublicId
  nodeId : UUID
  nodeName : String
  nodePort : Int
  placementMode : PlacementMode
  state : CameraState
  desiredRevision : Int
  appliedRevision : Int

structure CameraCatalogQuery where
  after : Option UUID := none
  limit : Nat := 50
  search : Option String := none
  nodeId : Option UUID := none
  state : Option CameraState := none
  bounded : 1 ≤ limit ∧ limit ≤ 100 := by decide

structure CameraCatalogPage where
  items : List CameraCatalogItem
  nextAfter : Option UUID

inductive CatalogError
  | node (error : NodeError)
  | valueError (code : String)
  | keyError

def cameraCatalogPage (items : List CameraCatalogItem) (nextAfter : Option UUID) :
    Except CatalogError CameraCatalogPage := do
  raiseIf (100 < items.length ∨ inOrder UUID.int (items.map (·.id)) ≠ items.map (·.id))
    (.valueError "camera_catalog_page_invalid")
  raiseIf (nextAfter ≠ none ∧ nextAfter ≠ items.getLast?.map (·.id))
    (.valueError "camera_catalog_cursor_invalid")
  return { items, nextAfter }

/-- The page made of the selected rows, of which there is one more than it has room for if more
follow. -/
def pageOf {Row : Type} (item : Row → Except CatalogError CameraCatalogItem) (limit : Nat)
    (selected : List Row) : Except CatalogError CameraCatalogPage := do
  let items ← (selected.take limit).mapM item
  cameraCatalogPage items (if limit < selected.length then items.getLast?.map (·.id) else none)

/-- The conditions on the node and on the state. -/
def CameraCatalogQuery.places (query : CameraCatalogQuery) (nodeId : UUID) (state : CameraState) :
    Prop :=
  (∀ want ∈ query.nodeId, nodeId = want) ∧ ∀ want ∈ query.state, state = want

instance (query : CameraCatalogQuery) (nodeId : UUID) (state : CameraState) :
    Decidable (query.places nodeId state) :=
  inferInstanceAs (Decidable (_ ∧ _))

/-- The condition on the texts, as the in-memory store has it. -/
def CameraCatalogQuery.finds (query : CameraCatalogQuery) (name : String) (publicId : PublicId) :
    Prop :=
  ∀ search ∈ query.search, search.toList <:+: name.toList ∨
    search.toList <:+: publicId.value.toList

instance (query : CameraCatalogQuery) (name : String) (publicId : PublicId) :
    Decidable (query.finds name publicId) :=
  inferInstanceAs (Decidable (∀ search ∈ query.search, _))

section Memory

variable [PythonText]

def InMemoryNodeStore.catalogItem (store : InMemoryNodeStore) (cam : CameraPlacement) :
    Except CatalogError CameraCatalogItem := do
  let nodeName ← orRaise ((store.nodes.reverse.find? (·.id = cam.nodeId)).map (·.name)) .keyError
  let name ← (validateCameraName cam.name).mapError .node
  return { cam with name, nodeName }

def CameraCatalogQuery.selects (query : CameraCatalogQuery) (cam : CameraPlacement) : Bool :=
  cam.state ≠ .deleted ∧ query.places cam.nodeId cam.state ∧ query.finds cam.name cam.publicId

def InMemoryNodeStore.cameraCatalog (store : InMemoryNodeStore) (query : CameraCatalogQuery) :
    Except CatalogError CameraCatalogPage :=
  pageOf store.catalogItem query.limit
    ((beyond (·.id.int) (query.after.map UUID.int) (store.cameras.filter query.selects)).take
      (query.limit + 1))

end Memory

namespace PostgresNodeStore

structure CameraRow where
  id : UUID
  name : String
  publicId : PublicId
  state : CameraState
  desiredRevision : Int
  appliedRevision : Int

structure PlacementRow where
  cameraId : UUID
  nodeId : UUID
  placementMode : PlacementMode

structure NodeRow where
  id : UUID
  name : String
  externalPort : Int

/-- The columns the catalog reads, and the primary keys. -/
structure CatalogTables where
  cameras : List CameraRow
  cameraPlacements : List PlacementRow
  mediaNodes : List NodeRow
  cameraKeys : (cameras.map (·.id)).Nodup
  placementKeys : (cameraPlacements.map (·.cameraId)).Nodup
  nodeKeys : (mediaNodes.map (·.id)).Nodup

def catalogRow (cam : CameraRow) (placement : PlacementRow) (node : NodeRow) :
    CameraCatalogItem where
  id := cam.id
  name := cam.name
  publicId := cam.publicId
  nodeId := placement.nodeId
  nodeName := node.name
  nodePort := node.externalPort
  placementMode := placement.placementMode
  state := cam.state
  desiredRevision := cam.desiredRevision
  appliedRevision := cam.appliedRevision

/-- `_camera_catalog_query`, less its order. -/
def cameraCatalogQuery (tables : CatalogTables) : List CameraCatalogItem :=
  (tables.cameras.filter (·.state ≠ .deleted)).flatMap fun cam =>
    (tables.cameraPlacements.filter (·.cameraId = cam.id)).flatMap fun placement =>
      (tables.mediaNodes.filter (·.id = placement.nodeId)).map (catalogRow cam placement)

theorem mem_camera_catalog_query {tables : CatalogTables} {row : CameraCatalogItem} :
    row ∈ cameraCatalogQuery tables ↔ ∃ cam ∈ tables.cameras, cam.state ≠ .deleted ∧
      ∃ placement ∈ tables.cameraPlacements, placement.cameraId = cam.id ∧
        ∃ node ∈ tables.mediaNodes, node.id = placement.nodeId ∧
          catalogRow cam placement node = row := by
  simp only [cameraCatalogQuery, mem_flatMap, mem_map, mem_filter, decide_eq_true_eq, and_assoc]

/-- Rows that agree on a key of their table are one. -/
theorem pairwise_of_key {Row Key : Type} {key : Row → Key} [DecidableEq Key] {rows : List Row}
    (keys : (rows.map key).Nodup) (value : Key) (relation : Row → Row → Prop) :
    (rows.filter (key · = value)).Pairwise relation := by
  have apart := (pairwise_map.mp keys).sublist (filter_sublist (p := (key · = value)))
  refine apart.imp_of_mem fun isFirst isSecond differ => absurd ?_ differ
  exact (of_decide_eq_true (mem_filter.mp isFirst).2).trans
    (of_decide_eq_true (mem_filter.mp isSecond).2).symm

theorem catalog_row_ids (tables : CatalogTables) :
    ((cameraCatalogQuery tables).map (·.id)).Nodup := by
  refine pairwise_map.mpr (pairwise_flatMap.mpr ⟨fun cam _ => ?_, ?_⟩)
  · refine pairwise_flatMap.mpr ⟨fun placement _ => ?_, pairwise_of_key tables.placementKeys _ _⟩
    exact pairwise_map.mpr (pairwise_of_key tables.nodeKeys _ _)
  · have apart := (pairwise_map.mp tables.cameraKeys).sublist
      (filter_sublist (p := (·.state ≠ .deleted)))
    refine apart.imp fun differ row isRow other isOther => ?_
    simp only [mem_flatMap, mem_map] at isRow isOther
    obtain ⟨_, _, _, _, rfl⟩ := isRow
    obtain ⟨_, _, _, _, rfl⟩ := isOther
    exact differ

def pattern (search : String) : List Char := '%' :: escaped search.toList ++ ['%']

/-- The conditions of a query; whatever the search text, `like` meets no error here. -/
def whereClause (query : CameraCatalogQuery) (row : CameraCatalogItem) : Bool :=
  query.places row.nodeId row.state ∧
    ∀ search ∈ query.search, like '\\' (pattern search) row.name.toList = some true ∨
      like '\\' (pattern search) row.publicId.value.toList = some true

theorem like_pattern (search text : String) :
    like '\\' (pattern search) text.toList = some (decide (search.toList <:+: text.toList)) :=
  like_contains _ _

theorem where_clause_iff (query : CameraCatalogQuery) (row : CameraCatalogItem) :
    whereClause query row = true ↔
      query.places row.nodeId row.state ∧ query.finds row.name row.publicId := by
  simp [whereClause, CameraCatalogQuery.finds, like_pattern]

def catalogItem [PythonText] (row : CameraCatalogItem) : Except CatalogError CameraCatalogItem := do
  let name ← (validateCameraName row.name).mapError .node
  return { row with name }

def cameraCatalog [PythonText] (tables : CatalogTables) (query : CameraCatalogQuery) :
    Except CatalogError CameraCatalogPage :=
  pageOf catalogItem query.limit ((beyond (·.id.int) (query.after.map UUID.int)
    ((cameraCatalogQuery tables).filter (whereClause query))).take (query.limit + 1))

end PostgresNodeStore

/-- Following `next_after` from a query reads these items and then stops. -/
inductive Enumerates (catalog : CameraCatalogQuery → Except CatalogError CameraCatalogPage) :
    CameraCatalogQuery → List CameraCatalogItem → Prop
  | last {query page} (read : catalog query = .ok page) (stops : page.nextAfter = none) :
    Enumerates catalog query page.items
  | next {query page after rest} (read : catalog query = .ok page)
    (more : page.nextAfter = some after)
    (follows : Enumerates catalog { query with after := some after } rest) :
    Enumerates catalog query (page.items ++ rest)

section Enumeration

variable {Row : Type} {key : Row → UUID} {item : Row → Except CatalogError CameraCatalogItem}
  {listed : Row → CameraCatalogItem} {selected matching : List Row} {limit : Nat}

theorem page_of_ok (bounded : limit ≤ 100)
    (strict : selected.Pairwise fun left right => (key left).int < (key right).int)
    (items : ∀ row ∈ selected, item row = .ok (listed row)) (ids : ∀ row, (listed row).id = key row) :
    pageOf item limit selected = .ok {
      items := (selected.take limit).map listed
      nextAfter :=
        if limit < selected.length then (selected.take limit).getLast?.map key else none } := by
  have made : ∀ rows ⊆ selected, rows.mapM item = .ok (rows.map listed) := by
    intro rows within
    induction rows with
    | nil => rfl
    | cons row rest ih =>
      obtain ⟨isRow, areRest⟩ := cons_subset.mp within
      rw [mapM_cons, items row isRow, ih areRest]
      rfl
  have isKey : (fun row => (listed row).id) = key := funext ids
  have sorted : inOrder UUID.int ((selected.take limit).map key) = (selected.take limit).map key := by
    apply Pairwise.insertionSort_eq
    rw [pairwise_map]
    exact (strict.sublist (take_sublist _ _)).imp le_of_lt
  rw [pageOf, made _ (take_subset _ _)]
  simp only [bind, Except.bind, cameraCatalogPage, raiseIf, map_map, getLast?_map,
    Option.map_map, Function.comp_def, isKey, sorted, length_map, length_take]
  rw [if_neg (by simp; omega), if_neg (by split_ifs <;> simp)]
  rfl

theorem enumerates_beyond (distinct : (matching.map fun row => (key row).int).Nodup)
    (items : ∀ row ∈ matching, item row = .ok (listed row)) (ids : ∀ row, (listed row).id = key row)
    {catalog : CameraCatalogQuery → Except CatalogError CameraCatalogPage}
    (query : CameraCatalogQuery) (pages : ∀ after, catalog { query with after } =
      pageOf item query.limit ((beyond (fun row => (key row).int) (after.map UUID.int) matching).take
        (query.limit + 1))) (count : Nat) :
    ∀ after, (beyond (fun row => (key row).int) (after.map UUID.int) matching).length = count →
      Enumerates catalog { query with after }
        ((beyond (fun row => (key row).int) (after.map UUID.int) matching).map listed) := by
  -- Every page but the last leaves fewer rows.
  induction count using Nat.strong_induction_on with
  | h count ih =>
    intro after isCount
    have page := pages after
    generalize isRows : beyond (fun row => (key row).int) (after.map UUID.int) matching = rows at *
    have strict : rows.Pairwise fun left right => (key left).int < (key right).int := by
      rw [← isRows]
      exact beyond_strict distinct
    have within : ∀ row ∈ rows.take (query.limit + 1), item row = .ok (listed row) := by
      intro row mem
      rw [← isRows] at mem
      exact items row (mem_beyond.mp (mem_of_mem_take mem)).1
    rw [page_of_ok query.bounded.2 (strict.sublist (take_sublist _ _)) within ids,
      take_take, Nat.min_eq_left (Nat.le_succ _), length_take] at page
    have positive := query.bounded.1
    by_cases more : query.limit < rows.length
    · obtain ⟨last, isLast⟩ : ∃ last, (rows.take query.limit).getLast? = some last := by
        refine ⟨_, getLast?_eq_some_getLast (ne_nil_of_length_pos ?_)⟩
        rw [length_take]
        omega
      have rest : beyond (fun row => (key row).int) (some (key last).int) matching =
          rows.drop query.limit := by
        rw [← isRows] at isLast ⊢
        exact beyond_advance distinct isLast
      have follows := ih (rows.drop query.limit).length (by rw [← isCount, length_drop]; omega)
        (some (key last)) (congrArg length rest)
      rw [Option.map_some, rest] at follows
      rw [if_pos (by omega), isLast] at page
      rw [← take_append_drop query.limit rows, map_append]
      exact .next page rfl follows
    · rw [if_neg (by omega), take_of_length_le (Nat.not_lt.mp more)] at page
      exact .last page rfl

end Enumeration

variable [PythonText]

/-- The item of a camera that has a valid name and a node. -/
def InMemoryNodeStore.listed (store : InMemoryNodeStore) (cam : CameraPlacement) :
    CameraCatalogItem :=
  { cam with
    nodeName := ((store.nodes.reverse.find? (·.id = cam.nodeId)).map (·.name)).getD "" }

omit [PythonText] in
theorem distinct_ints {Row : Type} {id : Row → UUID} {rows : List Row}
    (ids : (rows.map id).Nodup) (test : Row → Bool) :
    ((rows.filter test).map fun row => (id row).int).Nodup := by
  have kept : ((rows.filter test).map id).Nodup := ids.sublist (filter_sublist.map id)
  have ints := kept.map (f := UUID.int) fun _ _ => BitVec.eq_of_toNat_eq
  rw [map_map] at ints
  exact ints

/-- Both stores list every camera the query asks for once and in order, and ask for the same. -/
theorem catalog_pages_enumerate (store : InMemoryNodeStore)
    (tables : PostgresNodeStore.CatalogTables) (query : CameraCatalogQuery)
    (first : query.after = none)
    (ids : (store.cameras.map (·.id)).Nodup) (valid : ∀ cam ∈ store.cameras, cam.state ≠ .deleted →
      validateCameraName cam.name = .ok cam.name ∧ ∃ node ∈ store.nodes, node.id = cam.nodeId)
    (rowsValid : ∀ cam ∈ tables.cameras, cam.state ≠ .deleted →
      validateCameraName cam.name = .ok cam.name) :
    Enumerates store.cameraCatalog query
      ((inOrder (·.id.int) (store.cameras.filter query.selects)).map store.listed) ∧
    Enumerates (PostgresNodeStore.cameraCatalog tables) query (inOrder (·.id.int)
      ((PostgresNodeStore.cameraCatalogQuery tables).filter
        (PostgresNodeStore.whereClause query))) ∧
    (∀ row, PostgresNodeStore.whereClause query row = true ↔
      query.places row.nodeId row.state ∧ query.finds row.name row.publicId) ∧
    ∀ search text : String, like '\\' (PostgresNodeStore.pattern search) text.toList =
      some (decide (search.toList <:+: text.toList)) := by
  have fromStart : ∀ {Row : Type} {key : Row → Nat} (records : List Row),
      beyond key none records = inOrder key records := by
    intro Row key records
    simp [beyond, After]
  obtain ⟨after, limit, search, nodeId, state, bounded⟩ := query
  obtain rfl : after = none := first
  rw [← fromStart, ← fromStart]
  refine ⟨?_, ?_, PostgresNodeStore.where_clause_iff _, PostgresNodeStore.like_pattern⟩
  · refine enumerates_beyond (distinct_ints ids _) ?_ (fun _ => rfl)
      ⟨none, limit, search, nodeId, state, bounded⟩ (fun _ => rfl) _ none rfl
    intro cam mem
    obtain ⟨isCamera, isSelected⟩ := mem_filter.mp mem
    obtain ⟨name, node, isNode, ofCamera⟩ := valid cam isCamera (of_decide_eq_true isSelected).1
    obtain ⟨found, isFound⟩ : ∃ found, store.nodes.reverse.find? (·.id = cam.nodeId) = some found :=
      Option.isSome_iff_exists.mp (find?_isSome.mpr
        ⟨node, mem_reverse.mpr isNode, decide_eq_true ofCamera⟩)
    simp [InMemoryNodeStore.catalogItem, InMemoryNodeStore.listed, isFound, name, Except.mapError,
      orRaise, bind, Except.bind, pure, Except.pure]
  · rw [← map_id (beyond _ none _)]
    refine enumerates_beyond (distinct_ints (PostgresNodeStore.catalog_row_ids tables) _) ?_
      (fun _ => rfl) ⟨none, limit, search, nodeId, state, bounded⟩ (fun _ => rfl) _ none rfl
    intro row mem
    obtain ⟨cam, isCamera, kept, _, _, _, _, _, _, rfl⟩ :=
      PostgresNodeStore.mem_camera_catalog_query.mp (mem_filter.mp mem).1
    have name := rowsValid cam isCamera kept
    simp [PostgresNodeStore.catalogItem, PostgresNodeStore.catalogRow, name, Except.mapError,
      bind, Except.bind, pure, Except.pure]

def catalogSample : InMemoryNodeStore where
  nodes := sampleNodes
  cameras := [2, 1].map fun node =>
    { samplePlacement with id := node, nodeId := node, nodePort := 8554, placementMode := .automatic }

def catalogTables : PostgresNodeStore.CatalogTables where
  cameras := catalogSample.cameras.map fun cam => { cam with }
  cameraPlacements := catalogSample.cameras.map fun cam => { cam with cameraId := cam.id }
  mediaNodes := sampleNodes.map fun node => { node with }
  cameraKeys := by decide
  placementKeys := by decide
  nodeKeys := by decide

omit [PythonText] in
theorem catalog_pages_enumerate_sample :
    let text := plainText
    let query : CameraCatalogQuery := { limit := 1, search := some "gat" }
    Enumerates catalogSample.cameraCatalog query ((inOrder (·.id.int)
      (catalogSample.cameras.filter query.selects)).map catalogSample.listed) ∧
    Enumerates (PostgresNodeStore.cameraCatalog catalogTables) query (inOrder (·.id.int)
      ((PostgresNodeStore.cameraCatalogQuery catalogTables).filter
        (PostgresNodeStore.whereClause query))) := by
  intro text query
  have pages := catalog_pages_enumerate catalogSample catalogTables query rfl (by decide)
    (by decide) (by decide)
  exact ⟨pages.1, pages.2.1⟩

end RtspProxy.Nodes
