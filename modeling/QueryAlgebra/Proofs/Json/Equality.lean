import Mathlib.Data.List.Sort
import QueryAlgebra.Proofs.Floating.Order
import QueryAlgebra.Proofs.Json.Lexing

/-!
Equality of JSON values. Comparing two trees entry by entry comes to the same as comparing them
without the signs of their zeros. For trees with their keys in order it is the structural equality,
for which only the values under the keys of an object count and not their order. Equal trees whose
zeros have the same signs are one tree.
-/

namespace QueryAlgebra

namespace Floating

variable {format : FloatFormat}

def plainZero (x : Floating format) : Floating format :=
  { x with negative := x.negative && !x.isZero }

theorem plainZero_eq_iff (x y : Floating format) :
    x.plainZero = y.plainZero ↔ x = y ∨ x.isZero ∧ y.isZero := by
  rw [ext_iff, ext_iff]
  simp only [plainZero, isZero, decide_eq_true_eq]
  grind

theorem isFinite_plainZero (x : Floating format) : x.plainZero.isFinite = x.isFinite :=
  rfl

theorem isNan_of_isFinite (x : Floating format) (finite : x.isFinite) : x.isNan = false := by
  simp only [isFinite, isNan, decide_eq_true_eq, decide_eq_false_iff_not] at finite ⊢
  omega

theorem same_iff_plainZero (x y : Floating format) (left : x.isFinite) (right : y.isFinite) :
    x.same y = true ↔ x.plainZero = y.plainZero := by
  simp [same_iff, plainZero_eq_iff, isNan_of_isFinite, left, right]

def zeroSign? (x : Floating format) : Option Bool :=
  if x.isZero then some x.negative else none

theorem eq_of_same (x y : Floating format) (equal : x.same y = true)
    (signs : x.zeroSign? = y.zeroSign?) : x = y := by
  rcases (x.same_iff y).mp equal with ⟨-, -, rfl | ⟨zero, zero'⟩⟩
  · rfl
  · have left : x.magnitude.val = 0 := of_decide_eq_true zero
    have right : y.magnitude.val = 0 := of_decide_eq_true zero'
    rw [zeroSign?, zeroSign?, if_pos zero, if_pos zero', Option.some.injEq] at signs
    exact (x.ext_iff y).mpr ⟨signs, left.trans right.symm⟩

theorem isSome_zeroSign?_of_same (x y : Floating format) (equal : x.same y = true) :
    x.zeroSign?.isSome = y.zeroSign?.isSome := by
  rcases (x.same_iff y).mp equal with ⟨-, -, rfl | ⟨zero, zero'⟩⟩
  · rfl
  · rw [zeroSign?, zeroSign?, if_pos zero, if_pos zero']
    rfl

end Floating

def JsonNumber.plainZero : JsonNumber → JsonNumber
  | integer n inRange => integer n inRange
  | float x finite => float x.plainZero (x.isFinite_plainZero.trans finite)

theorem JsonNumber.same_iff_plainZero (n m : JsonNumber) :
    n.same m = true ↔ n.plainZero = m.plainZero := by
  cases n with
  | integer n => cases m <;> simp [same, plainZero]
  | float x finite =>
      cases m with
      | integer m => simp [same, plainZero]
      | float y other => simpa [same, plainZero] using x.same_iff_plainZero y finite other

namespace Json

mutual
def plainZeros : Json → Json
  | number n => number n.plainZero
  | array items => array (itemsPlainZeros items)
  | object entries => object (entriesPlainZeros entries)
  | leaf => leaf

def itemsPlainZeros : List Json → List Json
  | [] => []
  | item :: items => item.plainZeros :: itemsPlainZeros items

def entriesPlainZeros : List (String × Json) → List (String × Json)
  | [] => []
  | (key, value) :: entries => (key, value.plainZeros) :: entriesPlainZeros entries
end

mutual
theorem same_iff_plainZeros : (a b : Json) → (a.same b = true ↔ a.plainZeros = b.plainZeros)
  | null, b | bool _, b | string _, b => by cases b <;> simp [same, plainZeros]
  | number n, b => by
      cases b with
      | number m => simpa [same, plainZeros] using n.same_iff_plainZero m
      | null | bool | string | array | object => simp [same, plainZeros]
  | array items, b => by
      cases b with
      | array others => simpa [same, plainZeros] using sameItems_iff_plainZeros items others
      | null | bool | string | number | object => simp [same, plainZeros]
  | object entries, b => by
      cases b with
      | object others => simpa [same, plainZeros] using sameEntries_iff_plainZeros entries others
      | null | bool | string | number | array => simp [same, plainZeros]

theorem sameItems_iff_plainZeros : (items others : List Json) →
    (sameItems items others = true ↔ itemsPlainZeros items = itemsPlainZeros others)
  | [], others => by cases others <;> simp [sameItems, itemsPlainZeros]
  | item :: items, others => by
      cases others with
      | nil => simp [sameItems, itemsPlainZeros]
      | cons other others =>
          simp [sameItems, itemsPlainZeros, same_iff_plainZeros item other,
            sameItems_iff_plainZeros items others]

theorem sameEntries_iff_plainZeros : (entries others : List (String × Json)) →
    (sameEntries entries others = true ↔ entriesPlainZeros entries = entriesPlainZeros others)
  | [], others => by cases others <;> simp [sameEntries, entriesPlainZeros]
  | (key, value) :: entries, others => by
      cases others with
      | nil => simp [sameEntries, entriesPlainZeros]
      | cons other others =>
          simp [sameEntries, entriesPlainZeros, same_iff_plainZeros value other.2,
            sameEntries_iff_plainZeros entries others, and_assoc]
end

theorem same_self (a : Json) : a.same a = true :=
  (same_iff_plainZeros a a).mpr rfl

theorem same_symm (a b : Json) (equal : a.same b) : b.same a := by
  rw [same_iff_plainZeros] at equal ⊢
  exact equal.symm

theorem same_trans (a b c : Json) (first : a.same b) (second : b.same c) : a.same c := by
  rw [same_iff_plainZeros] at first second ⊢
  exact first.trans second

/-- Structural equality: an integer never equals a float, the items of arrays are equal one by one,
and the values of objects are equal under equal keys, in whatever order the keys are listed. -/
inductive Equal : Json → Json → Prop where
  | null : Equal null null
  | bool (value : Bool) : Equal (bool value) (bool value)
  | integer (n : Int) (inRange : -2 ^ 63 ≤ n ∧ n < 2 ^ 64) :
      Equal (number (.integer n inRange)) (number (.integer n inRange))
  | float {x y : Binary64} (left : x.isFinite) (right : y.isFinite) (equal : x.Equal y) :
      Equal (number (.float x left)) (number (.float y right))
  | string (value : String) : Equal (string value) (string value)
  | array {items others : List Json} (count : items.length = others.length)
      (each : ∀ (index : Nat) (item other : Json), items[index]? = some item →
        others[index]? = some other → Equal item other) :
      Equal (array items) (array others)
  | object {entries others : List (String × Json)}
      (keys : ∀ key, key ∈ entries.map Prod.fst ↔ key ∈ others.map Prod.fst)
      (each : ∀ key value other, (key, value) ∈ entries → (key, other) ∈ others →
        Equal value other) :
      Equal (object entries) (object others)

theorem sameItems_iff (items others : List Json) :
    sameItems items others = true ↔ items.length = others.length ∧
      ∀ (index : Nat) (item other : Json), items[index]? = some item →
        others[index]? = some other → item.same other = true := by
  induction items generalizing others with
  | nil => cases others <;> simp [sameItems]
  | cons item items ih =>
      cases others with
      | nil => simp [sameItems]
      | cons other others =>
          rw [sameItems, Bool.and_eq_true, ih]
          constructor
          · rintro ⟨first, count, rest⟩
            refine ⟨congrArg (· + 1) count, ?_⟩
            intro index left right
            cases index with
            | zero => grind
            | succ index => exact rest index left right
          · rintro ⟨count, each⟩
            exact ⟨each 0 item other rfl rfl, Nat.succ.inj count,
              fun index => each (index + 1)⟩

theorem sameEntries_iff (entries others : List (String × Json)) :
    sameEntries entries others = true ↔ entries.map Prod.fst = others.map Prod.fst ∧
      sameItems (entries.map Prod.snd) (others.map Prod.snd) = true := by
  induction entries generalizing others with
  | nil => cases others <;> simp [sameEntries, sameItems]
  | cons entry entries ih =>
      cases others with
      | nil => simp [sameEntries]
      | cons other others =>
          rw [sameEntries.eq_def]
          simp only [Bool.and_eq_true, decide_eq_true_eq, ih, List.map_cons, List.cons.injEq,
            sameItems]
          grind

theorem keys_eq_of_keysIncrease (entries others : List (String × Json))
    (left : keysIncrease entries) (right : keysIncrease others)
    (keys : ∀ key, key ∈ entries.map Prod.fst ↔ key ∈ others.map Prod.fst) :
    entries.map Prod.fst = others.map Prod.fst := by
  have first : (entries.map Prod.fst).Pairwise (· < ·) := List.pairwise_map.mpr left
  have second : (others.map Prod.fst).Pairwise (· < ·) := List.pairwise_map.mpr right
  exact first.eq_of_mem_iff second keys

theorem index_of_keysIncrease (entries others : List (String × Json)) (key : String)
    (value other : Json) (increase : keysIncrease entries)
    (keys : entries.map Prod.fst = others.map Prod.fst) (left : (key, value) ∈ entries)
    (right : (key, other) ∈ others) :
    ∃ index : Nat, (entries.map Prod.snd)[index]? = some value ∧
      (others.map Prod.snd)[index]? = some other := by
  obtain ⟨index, first⟩ := List.mem_iff_getElem?.mp left
  obtain ⟨position, second⟩ := List.mem_iff_getElem?.mp right
  have distinct : (entries.map Prod.fst).Nodup :=
    (List.pairwise_map.mpr increase).imp fun below => String.ne_of_lt below
  have here : (entries.map Prod.fst)[index]? = some key := by simp [first]
  have there : (entries.map Prod.fst)[position]? = some key := by simp [keys, second]
  have same : index = position := by
    have inside := (List.getElem?_eq_some_iff.mp here).1
    exact (List.getElem?_inj inside distinct).mp (here.trans there.symm)
  subst same
  exact ⟨index, by simp [first], by simp [second]⟩

theorem ordered_of_getElem? (items : List Json) (ordered : OrderedItems items) (index : Nat)
    (item : Json) (found : items[index]? = some item) : item.Ordered := by
  induction items generalizing index with
  | nil => cases found
  | cons head items ih =>
      cases index with
      | zero =>
          cases found
          exact ordered.1
      | succ index => exact ih ordered.2 index found

theorem same_of_equal (a b : Json) (equal : a.Equal b) (left : a.Ordered) (right : b.Ordered) :
    a.same b = true := by
  induction equal with
  | null => rfl
  | bool value => exact decide_eq_true rfl
  | integer n inRange => exact decide_eq_true rfl
  | float x y equal => exact (Floating.same_iff_equal (by decide) _ _).mpr equal
  | string value => exact decide_eq_true rfl
  | @array items others count each ih =>
      refine (sameItems_iff items others).mpr ⟨count, ?_⟩
      intro index item other first second
      exact ih index item other first second (ordered_of_getElem? items left index item first)
        (ordered_of_getElem? others right index other second)
  | @object entries others keys each ih =>
      have listed := keys_eq_of_keysIncrease entries others left.1 right.1 keys
      refine (sameEntries_iff entries others).mpr ⟨listed, (sameItems_iff _ _).mpr ⟨?_, ?_⟩⟩
      · simpa using congrArg List.length listed
      · intro index value other first second
        rw [List.getElem?_map, Option.map_eq_some_iff] at first second
        rcases first with ⟨⟨key, _⟩, here, rfl⟩
        rcases second with ⟨⟨otherKey, _⟩, there, rfl⟩
        have sameKey : some key = some otherKey := by
          calc
            some key = (entries.map Prod.fst)[index]? := by rw [List.getElem?_map, here]; rfl
            _ = (others.map Prod.fst)[index]? := by rw [listed]
            _ = some otherKey := by rw [List.getElem?_map, there]; rfl
        cases sameKey
        have held := List.mem_of_getElem? here
        have otherHeld := List.mem_of_getElem? there
        exact ih key _ _ held otherHeld ((orderedEntries_iff entries).mp left.2 _ held)
          ((orderedEntries_iff others).mp right.2 _ otherHeld)

mutual
theorem equal_of_same : (a b : Json) → a.Ordered → a.same b = true → a.Equal b
  | null, b, _, equal => by
      cases b with
      | null => exact .null
      | bool | number | string | array | object => cases equal
  | bool value, b, _, equal => by
      cases b with
      | bool other =>
          obtain rfl : value = other := of_decide_eq_true equal
          exact .bool value
      | null | number | string | array | object => cases equal
  | number (.integer n inRange), b, _, equal => by
      cases b with
      | number m =>
          cases m with
          | integer m other =>
              obtain rfl : n = m := of_decide_eq_true equal
              exact .integer n inRange
          | float => cases equal
      | null | bool | string | array | object => cases equal
  | number (.float x finite), b, _, equal => by
      cases b with
      | number m =>
          cases m with
          | integer => cases equal
          | float y other =>
              exact .float finite other ((Floating.same_iff_equal (by decide) x y).mp equal)
      | null | bool | string | array | object => cases equal
  | string value, b, _, equal => by
      cases b with
      | string other =>
          obtain rfl : value = other := of_decide_eq_true equal
          exact .string value
      | null | bool | number | array | object => cases equal
  | array items, b, ordered, equal => by
      cases b with
      | array others =>
          exact .array ((sameItems_iff items others).mp equal).1
            (equal_of_sameItems items others ordered equal)
      | null | bool | number | string | object => cases equal
  | object entries, b, ordered, equal => by
      cases b with
      | object others =>
          -- The keys of both objects are one increasing list, so equal keys have equal indices.
          have listed := ((sameEntries_iff entries others).mp equal).1
          refine .object (fun key => by rw [listed]) ?_
          intro key value other left right
          obtain ⟨index, first, second⟩ :=
            index_of_keysIncrease entries others key value other ordered.1 listed left right
          exact equal_of_sameEntries entries others ordered.2 equal index value other first second
      | null | bool | number | string | array => cases equal

theorem equal_of_sameItems : (items others : List Json) → OrderedItems items →
    sameItems items others = true → ∀ (index : Nat) (item other : Json),
      items[index]? = some item → others[index]? = some other → item.Equal other
  | [], _, _, _, _, _, _, first, _ => by cases first
  | item :: items, others, ordered, equal, index, left, right, first, second => by
      cases others with
      | nil => cases equal
      | cons other others =>
          obtain ⟨head, tail⟩ := Bool.and_eq_true_iff.mp equal
          cases index with
          | zero =>
              cases first
              cases second
              exact equal_of_same item _ ordered.1 head
          | succ index =>
              exact equal_of_sameItems items others ordered.2 tail index left right first second

theorem equal_of_sameEntries : (entries others : List (String × Json)) → OrderedEntries entries →
    sameEntries entries others = true → ∀ (index : Nat) (value other : Json),
      (entries.map Prod.snd)[index]? = some value →
        (others.map Prod.snd)[index]? = some other → value.Equal other
  | [], _, _, _, _, _, _, first, _ => by cases first
  | (key, value) :: entries, others, ordered, equal, index, left, right, first, second => by
      cases others with
      | nil => cases equal
      | cons entry others =>
          rcases entry with ⟨otherKey, other⟩
          obtain ⟨head, tail⟩ := Bool.and_eq_true_iff.mp equal
          cases index with
          | zero =>
              cases first
              cases second
              exact equal_of_same value _ ordered.1 (Bool.and_eq_true_iff.mp head).2
          | succ index =>
              exact equal_of_sameEntries entries others ordered.2 tail index left right first second
end

end Json

def JsonNumber.zeroSign? : JsonNumber → Option Bool
  | integer _ _ => none
  | float x _ => x.zeroSign?

theorem JsonNumber.zeroSign?_of_same (n m : JsonNumber) (equal : n.same m = true) :
    n.zeroSign?.isSome = m.zeroSign?.isSome ∧ (n.zeroSign? = m.zeroSign? → n = m) := by
  cases n with
  | integer n =>
      cases m with
      | integer m =>
          obtain rfl : n = m := of_decide_eq_true equal
          exact ⟨rfl, fun _ => rfl⟩
      | float => cases equal
  | float x finite =>
      cases m with
      | integer => cases equal
      | float y other =>
          refine ⟨x.isSome_zeroSign?_of_same y equal, ?_⟩
          intro signs
          obtain rfl := x.eq_of_same y equal signs
          rfl

theorem JsonNumber.eq_of_same (n m : JsonNumber) (signs signs' : List Bool)
    (equal : n.same m = true)
    (zeros : [n].filterMap zeroSign? ++ signs = [m].filterMap zeroSign? ++ signs') :
    n = m ∧ signs = signs' := by
  obtain ⟨kind, agree⟩ := n.zeroSign?_of_same m equal
  cases first : n.zeroSign? with
  | none =>
      cases second : m.zeroSign? with
      | none => exact ⟨agree (first.trans second.symm), by simpa [first, second] using zeros⟩
      | some => simp [first, second] at kind
  | some sign =>
      cases second : m.zeroSign? with
      | none => simp [first, second] at kind
      | some sign' =>
          obtain ⟨rfl, rest⟩ : sign = sign' ∧ signs = signs' := by
            simpa [first, second] using zeros
          exact ⟨agree (first.trans second.symm), rest⟩

namespace Json

def zeroSigns (json : Json) : List Bool := json.numbers.filterMap JsonNumber.zeroSign?

mutual
/-- Equal trees whose zeros have the same signs are one tree. The signs that follow in a larger tree
are carried along. -/
theorem eq_of_same : (a b : Json) → (signs signs' : List Bool) → a.same b = true →
    a.numbers.filterMap JsonNumber.zeroSign? ++ signs =
      b.numbers.filterMap JsonNumber.zeroSign? ++ signs' → a = b ∧ signs = signs'
  | null, b, _, _, equal, zeros => by
      cases b with
      | null => exact ⟨rfl, zeros⟩
      | bool | number | string | array | object => cases equal
  | bool value, b, _, _, equal, zeros => by
      cases b with
      | bool other =>
          obtain rfl : value = other := of_decide_eq_true equal
          exact ⟨rfl, zeros⟩
      | null | number | string | array | object => cases equal
  | number n, b, signs, signs', equal, zeros => by
      cases b with
      | number m =>
          obtain ⟨rfl, rest⟩ := n.eq_of_same m signs signs' equal zeros
          exact ⟨rfl, rest⟩
      | null | bool | string | array | object => cases equal
  | string value, b, _, _, equal, zeros => by
      cases b with
      | string other =>
          obtain rfl : value = other := of_decide_eq_true equal
          exact ⟨rfl, zeros⟩
      | null | bool | number | array | object => cases equal
  | array items, b, signs, signs', equal, zeros => by
      cases b with
      | array others =>
          obtain ⟨rfl, rest⟩ := eq_of_sameItems items others signs signs' equal zeros
          exact ⟨rfl, rest⟩
      | null | bool | number | string | object => cases equal
  | object entries, b, signs, signs', equal, zeros => by
      cases b with
      | object others =>
          obtain ⟨rfl, rest⟩ := eq_of_sameEntries entries others signs signs' equal zeros
          exact ⟨rfl, rest⟩
      | null | bool | number | string | array => cases equal

theorem eq_of_sameItems : (items others : List Json) → (signs signs' : List Bool) →
    sameItems items others = true →
    (itemsNumbers items).filterMap JsonNumber.zeroSign? ++ signs =
      (itemsNumbers others).filterMap JsonNumber.zeroSign? ++ signs' →
    items = others ∧ signs = signs'
  | [], others, _, _, equal, zeros => by
      cases others with
      | nil => exact ⟨rfl, zeros⟩
      | cons other others => cases equal
  | item :: items, others, signs, signs', equal, zeros => by
      cases others with
      | nil => cases equal
      | cons other others =>
          obtain ⟨head, tail⟩ := Bool.and_eq_true_iff.mp equal
          simp only [itemsNumbers, List.filterMap_append, List.append_assoc] at zeros
          obtain ⟨rfl, after⟩ := eq_of_same item other _ _ head zeros
          obtain ⟨rfl, rest⟩ := eq_of_sameItems items others signs signs' tail after
          exact ⟨rfl, rest⟩

theorem eq_of_sameEntries : (entries others : List (String × Json)) →
    (signs signs' : List Bool) → sameEntries entries others = true →
    (entriesNumbers entries).filterMap JsonNumber.zeroSign? ++ signs =
      (entriesNumbers others).filterMap JsonNumber.zeroSign? ++ signs' →
    entries = others ∧ signs = signs'
  | [], others, _, _, equal, zeros => by
      cases others with
      | nil => exact ⟨rfl, zeros⟩
      | cons other others => cases equal
  | (key, value) :: entries, others, signs, signs', equal, zeros => by
      cases others with
      | nil => cases equal
      | cons other others =>
          rcases other with ⟨otherKey, other⟩
          obtain ⟨entry, tail⟩ := Bool.and_eq_true_iff.mp equal
          obtain ⟨sameKey, head⟩ := Bool.and_eq_true_iff.mp entry
          obtain rfl : key = otherKey := of_decide_eq_true sameKey
          simp only [entriesNumbers, List.filterMap_append, List.append_assoc] at zeros
          obtain ⟨rfl, after⟩ := eq_of_same value other _ _ head zeros
          obtain ⟨rfl, rest⟩ := eq_of_sameEntries entries others signs signs' tail after
          exact ⟨rfl, rest⟩
end

theorem eq_of_same_of_zeroSigns (a b : Json) (equal : a.same b = true)
    (zeros : a.zeroSigns = b.zeroSigns) : a = b :=
  (eq_of_same a b [] [] equal (by rw [← zeroSigns, ← zeroSigns, zeros])).1

end Json

theorem Document.same_iff_equal (a b : Document) : a.same b = true ↔ a.json.Equal b.json :=
  ⟨Json.equal_of_same a.json b.json a.ordered,
    fun equal => Json.same_of_equal a.json b.json equal a.ordered b.ordered⟩

end QueryAlgebra
