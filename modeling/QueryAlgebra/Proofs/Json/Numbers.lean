import QueryAlgebra.Json.Basic

/-!
The numbers in a JSON tree, and a tree with other numbers in their places. Exchanging the numbers
changes neither the depth of a tree nor the order of its keys.
-/

namespace QueryAlgebra.Json

mutual
def numbers : Json → List JsonNumber
  | number n => [n]
  | array items => itemsNumbers items
  | object entries => entriesNumbers entries
  | _ => []

def itemsNumbers : List Json → List JsonNumber
  | [] => []
  | item :: items => item.numbers ++ itemsNumbers items

def entriesNumbers : List (String × Json) → List JsonNumber
  | [] => []
  | (_, value) :: entries => value.numbers ++ entriesNumbers entries
end

variable (f : JsonNumber → JsonNumber)

mutual
def mapNumbers : Json → Json
  | number n => number (f n)
  | array items => array (mapItems items)
  | object entries => object (mapEntries entries)
  | leaf => leaf

def mapItems : List Json → List Json
  | [] => []
  | item :: items => item.mapNumbers :: mapItems items

def mapEntries : List (String × Json) → List (String × Json)
  | [] => []
  | (key, value) :: entries => (key, value.mapNumbers) :: mapEntries entries
end

mutual
theorem mapNumbers_id : (json : Json) → json.mapNumbers id = json
  | null | bool _ | number _ | string _ => rfl
  | array items => by rw [mapNumbers, mapItems_id items]
  | object entries => by rw [mapNumbers, mapEntries_id entries]

theorem mapItems_id : (items : List Json) → mapItems id items = items
  | [] => rfl
  | item :: items => by rw [mapItems, mapNumbers_id item, mapItems_id items]

theorem mapEntries_id : (entries : List (String × Json)) → mapEntries id entries = entries
  | [] => rfl
  | (key, value) :: entries => by rw [mapEntries, mapNumbers_id value, mapEntries_id entries]
end

mutual
theorem depth_mapNumbers : (json : Json) → (json.mapNumbers f).depth = json.depth
  | null | bool _ | number _ | string _ => rfl
  | array items => by rw [mapNumbers, depth, depth, depthItems_mapItems items]
  | object entries => by rw [mapNumbers, depth, depth, depthEntries_mapEntries entries]

theorem depthItems_mapItems : (items : List Json) → depthItems (mapItems f items) = depthItems items
  | [] => rfl
  | item :: items => by
      rw [mapItems, depthItems, depthItems, depth_mapNumbers item, depthItems_mapItems items]

theorem depthEntries_mapEntries : (entries : List (String × Json)) →
    depthEntries (mapEntries f entries) = depthEntries entries
  | [] => rfl
  | (key, value) :: entries => by
      rw [mapEntries, depthEntries, depthEntries, depth_mapNumbers value,
        depthEntries_mapEntries entries]
end

theorem mapEntries_eq_map (entries : List (String × Json)) :
    mapEntries f entries = entries.map fun entry => (entry.1, entry.2.mapNumbers f) := by
  induction entries with
  | nil => rfl
  | cons head tail ih => rw [mapEntries, List.map_cons, ih]

theorem keysIncrease_mapEntries (entries : List (String × Json)) (increase : keysIncrease entries) :
    keysIncrease (mapEntries f entries) := by
  rw [keysIncrease, mapEntries_eq_map, List.pairwise_map]
  exact increase

mutual
theorem ordered_mapNumbers : (json : Json) → json.Ordered → (json.mapNumbers f).Ordered
  | null, _ | bool _, _ | number _, _ | string _, _ => trivial
  | array items, ordered => orderedItems_mapItems items ordered
  | object entries, ordered =>
      ⟨keysIncrease_mapEntries f entries ordered.1, orderedEntries_mapEntries entries ordered.2⟩

theorem orderedItems_mapItems : (items : List Json) → OrderedItems items →
    OrderedItems (mapItems f items)
  | [], _ => trivial
  | item :: items, ordered =>
      ⟨ordered_mapNumbers item ordered.1, orderedItems_mapItems items ordered.2⟩

theorem orderedEntries_mapEntries : (entries : List (String × Json)) → OrderedEntries entries →
    OrderedEntries (mapEntries f entries)
  | [], _ => trivial
  | (_, value) :: entries, ordered =>
      ⟨ordered_mapNumbers value ordered.1, orderedEntries_mapEntries entries ordered.2⟩
end

end QueryAlgebra.Json
