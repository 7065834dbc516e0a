import QueryAlgebra.Floating.Basic

/-!
JSON values. A `Json` tree lists the entries of an object as they were written; a `Document` is a
tree whose objects list each key once, in the order of code points. `Json.normalize` makes a tree a
document by keeping the last entry of each key.
-/

namespace QueryAlgebra

/-- An integer of at most 64 bits, signed or not, or a finite float. -/
inductive JsonNumber where
  | integer (value : Int) (inRange : -2 ^ 63 ≤ value ∧ value < 2 ^ 64)
  | float (value : Binary64) (finite : value.isFinite)
  deriving DecidableEq, Repr

def JsonNumber.same : JsonNumber → JsonNumber → Bool
  | .integer n _, .integer m _ => n = m
  | .float x _, .float y _ => x.same y
  | _, _ => false

inductive Json where
  | null
  | bool (value : Bool)
  | number (value : JsonNumber)
  | string (value : String)
  | array (items : List Json)
  | object (entries : List (String × Json))

namespace Json

mutual
def depth : Json → Nat
  | array items => depthItems items + 1
  | object entries => depthEntries entries + 1
  | _ => 0

def depthItems : List Json → Nat
  | [] => 0
  | item :: items => max item.depth (depthItems items)

def depthEntries : List (String × Json) → Nat
  | [] => 0
  | (_, value) :: entries => max value.depth (depthEntries entries)
end

mutual
def same : Json → Json → Bool
  | null, null => true
  | bool a, bool b => a = b
  | number n, number m => n.same m
  | string s, string t => s = t
  | array items, array others => sameItems items others
  | object entries, object others => sameEntries entries others
  | _, _ => false

def sameItems : List Json → List Json → Bool
  | [], [] => true
  | item :: items, other :: others => item.same other && sameItems items others
  | _, _ => false

def sameEntries : List (String × Json) → List (String × Json) → Bool
  | [], [] => true
  | (key, value) :: entries, (otherKey, other) :: others =>
      key = otherKey && value.same other && sameEntries entries others
  | _, _ => false
end

def keysIncrease (entries : List (String × Json)) : Prop :=
  entries.Pairwise fun earlier later => earlier.1 < later.1

mutual
def Ordered : Json → Prop
  | array items => OrderedItems items
  | object entries => keysIncrease entries ∧ OrderedEntries entries
  | _ => True

def OrderedItems : List Json → Prop
  | [] => True
  | item :: items => item.Ordered ∧ OrderedItems items

def OrderedEntries : List (String × Json) → Prop
  | [] => True
  | (_, value) :: entries => value.Ordered ∧ OrderedEntries entries
end

def insertEntry (key : String) (value : Json) : List (String × Json) → List (String × Json)
  | [] => [(key, value)]
  | (other, old) :: entries =>
      if key < other then (key, value) :: (other, old) :: entries
      else if key = other then (key, value) :: entries
      else (other, old) :: insertEntry key value entries

mutual
def normalize : Json → Json
  | array items => array (normalizeItems items)
  | object entries => object (normalizeEntries [] entries)
  | leaf => leaf

def normalizeItems : List Json → List Json
  | [] => []
  | item :: items => item.normalize :: normalizeItems items

def normalizeEntries (placed : List (String × Json)) :
    List (String × Json) → List (String × Json)
  | [] => placed
  | (key, value) :: entries => normalizeEntries (insertEntry key value.normalize placed) entries
end

theorem mem_insertEntry (key : String) (value : Json) (entries : List (String × Json))
    (entry : String × Json) (member : entry ∈ insertEntry key value entries) :
    entry = (key, value) ∨ entry ∈ entries := by
  induction entries with
  | nil => simpa [insertEntry] using member
  | cons head tail ih =>
      unfold insertEntry at member
      grind

theorem keysIncrease_insertEntry (key : String) (value : Json) (entries : List (String × Json))
    (increase : keysIncrease entries) : keysIncrease (insertEntry key value entries) := by
  induction entries with
  | nil => simp [insertEntry, keysIncrease]
  | cons head tail ih =>
      obtain ⟨above, rest⟩ := List.pairwise_cons.mp increase
      unfold insertEntry
      split
      · rename_i below
        refine List.pairwise_cons.mpr ⟨?_, increase⟩
        intro entry member
        rcases List.mem_cons.mp member with rfl | member
        · exact below
        · exact String.lt_trans below (above entry member)
      · split
        · rename_i equal
          exact List.pairwise_cons.mpr ⟨fun entry member => equal ▸ above entry member, rest⟩
        · rename_i notBelow different
          refine List.pairwise_cons.mpr ⟨?_, ih rest⟩
          intro entry member
          rcases mem_insertEntry key value tail entry member with rfl | member
          · exact Std.lt_of_le_of_ne (String.not_lt.mp notBelow) (Ne.symm different)
          · exact above entry member

theorem orderedEntries_iff (entries : List (String × Json)) :
    OrderedEntries entries ↔ ∀ entry ∈ entries, entry.2.Ordered := by
  induction entries with
  | nil => simp [OrderedEntries]
  | cons head tail ih => simp [OrderedEntries, ih]

theorem orderedEntries_insertEntry (key : String) (value : Json) (entries : List (String × Json))
    (ordered : value.Ordered) (others : OrderedEntries entries) :
    OrderedEntries (insertEntry key value entries) := by
  rw [orderedEntries_iff] at others ⊢
  intro entry member
  rcases mem_insertEntry key value entries entry member with rfl | member
  · exact ordered
  · exact others entry member

mutual
theorem ordered_normalize : (json : Json) → json.normalize.Ordered
  | null | bool _ | number _ | string _ => by simp [normalize, Ordered]
  | array items => by
      simpa [normalize, Ordered] using orderedItems_normalizeItems items
  | object entries => by
      simpa [normalize, Ordered] using
        ordered_normalizeEntries [] entries List.Pairwise.nil (by simp [OrderedEntries])

theorem orderedItems_normalizeItems : (items : List Json) → OrderedItems (normalizeItems items)
  | [] => by simp [normalizeItems, OrderedItems]
  | item :: items => by
      simpa [normalizeItems, OrderedItems] using
        ⟨ordered_normalize item, orderedItems_normalizeItems items⟩

theorem ordered_normalizeEntries (placed : List (String × Json)) :
    (entries : List (String × Json)) → keysIncrease placed → OrderedEntries placed →
    keysIncrease (normalizeEntries placed entries) ∧
      OrderedEntries (normalizeEntries placed entries)
  | [], increase, ordered => by simpa [normalizeEntries] using ⟨increase, ordered⟩
  | (key, value) :: entries, increase, ordered => by
      simpa [normalizeEntries] using ordered_normalizeEntries _ entries
        (keysIncrease_insertEntry key _ placed increase)
        (orderedEntries_insertEntry key _ placed (ordered_normalize value) ordered)
end

end Json

/-- A JSON value with its object keys in order, each once. -/
structure Document where
  json : Json
  ordered : json.Ordered

namespace Document

def ofJson (json : Json) : Document := ⟨json.normalize, json.ordered_normalize⟩

def same (a b : Document) : Bool := a.json.same b.json

end Document
end QueryAlgebra
