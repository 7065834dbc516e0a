import QueryAlgebra.Json.Reader
import QueryAlgebra.Proofs.Json.Lexing

/-!
Reading the tokens of a tree gives the tree, as long as no more arrays and objects are open at once
than the reader takes, and nothing beyond that.
-/

namespace QueryAlgebra
namespace JsonBuilder

open Json (depth depthItems depthEntries tokens itemsTokens entriesTokens)

theorem tokens_eq_cons (json : Json) :
    ∃ token rest, json.tokens = token :: rest ∧ token ≠ .closeArray := by
  cases json with
  | null => exact ⟨_, _, rfl, by simp⟩
  | bool b => exact ⟨_, _, rfl, by simp⟩
  | number n => exact ⟨_, _, rfl, by simp⟩
  | string s => exact ⟨_, _, rfl, by simp⟩
  | array items => exact ⟨_, _, rfl, by simp⟩
  | object entries => exact ⟨_, _, rfl, by simp⟩

theorem foldlM_firstItem (item : Json) (items : List Json) (rest : List JsonToken)
    (frames : List JsonFrame) :
    (itemsTokens (item :: items) ++ rest).foldlM step ⟨frames, .firstItem⟩ =
      (itemsTokens (item :: items) ++ rest).foldlM step ⟨frames, .value⟩ := by
  rcases tokens_eq_cons item with ⟨token, others, form, notClosing⟩
  have same : step ⟨frames, .firstItem⟩ token = step ⟨frames, .value⟩ token := by
    cases token <;> first | rfl | exact absurd rfl notClosing
  cases items with
  | nil => rw [itemsTokens, form, List.cons_append, List.foldlM_cons, List.foldlM_cons, same]
  | cons next items =>
      rw [itemsTokens, form, List.cons_append, List.cons_append, List.foldlM_cons,
        List.foldlM_cons, same]
      simp

theorem foldlM_firstKey (entry : String × Json) (entries : List (String × Json))
    (rest : List JsonToken) (frames : List JsonFrame) :
    (entriesTokens (entry :: entries) ++ rest).foldlM step ⟨frames, .firstKey⟩ =
      (entriesTokens (entry :: entries) ++ rest).foldlM step ⟨frames, .key []⟩ := by
  cases entries with
  | nil => rfl
  | cons next entries => rfl

/-- The outcome when so many arrays and objects are open at once: none if they are too many. -/
def within (levels : Nat) (outcome : Option JsonBuilder) : Option JsonBuilder :=
  if levels ≤ depthLimit then outcome else none

theorem within_of_le (levels : Nat) (outcome : Option JsonBuilder) (few : levels ≤ depthLimit) :
    within levels outcome = outcome :=
  if_pos few

theorem within_of_lt (levels : Nat) (outcome : Option JsonBuilder) (many : depthLimit < levels) :
    within levels outcome = none :=
  if_neg (by omega)

theorem within_within (levels others : Nat) (outcome : Option JsonBuilder) :
    within levels (within others outcome) = within (max levels others) outcome := by
  simp only [within, Nat.max_le]
  exact (ite_and ..).symm

theorem within_bind (levels : Nat) (builder : JsonBuilder)
    (next : JsonBuilder → Option JsonBuilder) :
    (within levels (some builder) >>= next) = within levels (next builder) := by
  unfold within
  split <;> rfl

mutual
/-- The tokens of a tree are read as the tree, if there is room for its arrays and objects among
those that are open already, and are refused otherwise. -/
theorem foldlM_tokens : (json : Json) → (frames : List JsonFrame) → frames.length ≤ depthLimit →
    json.tokens.foldlM step ⟨frames, .value⟩ =
      within (frames.length + json.depth) (some ⟨frames, .complete json⟩)
  | .null, frames, room | .bool _, frames, room | .number _, frames, room
  | .string _, frames, room => by
      simp [within, depth, tokens, step, takeValue, room]
  | .array items, frames, room => by
      by_cases full : frames.length < depthLimit
      · have opened : step ⟨frames, .value⟩ .openArray = some ⟨.array [] :: frames, .firstItem⟩ :=
          if_pos full
        rw [tokens, List.cons_append, List.foldlM_cons, opened, Option.bind_eq_bind,
          Option.bind_some]
        cases items with
        | nil => exact (within_of_le _ _ full).symm
        | cons item items =>
            rw [foldlM_firstItem, foldlM_itemsTokens (item :: items) [] frames (by simp) full]
            rfl
      · have refused : step ⟨frames, .value⟩ .openArray = none := if_neg full
        rw [tokens, List.cons_append, List.foldlM_cons, refused, depth, within_of_lt _ _ (by omega)]
        rfl
  | .object entries, frames, room => by
      by_cases full : frames.length < depthLimit
      · have opened : step ⟨frames, .value⟩ .openObject = some ⟨frames, .firstKey⟩ :=
          if_pos full
        rw [tokens, List.cons_append, List.foldlM_cons, opened, Option.bind_eq_bind,
          Option.bind_some]
        cases entries with
        | nil => exact (within_of_le _ _ full).symm
        | cons entry entries =>
            rw [foldlM_firstKey, foldlM_entriesTokens (entry :: entries) [] frames (by simp) full]
            rfl
      · have refused : step ⟨frames, .value⟩ .openObject = none := if_neg full
        rw [tokens, List.cons_append, List.foldlM_cons, refused, depth, within_of_lt _ _ (by omega)]
        rfl

theorem foldlM_itemsTokens : (items : List Json) → (read : List Json) → (frames : List JsonFrame) →
    items ≠ [] → frames.length < depthLimit →
    (itemsTokens items ++ [JsonToken.closeArray]).foldlM step ⟨.array read :: frames, .value⟩ =
      within (frames.length + (depthItems items + 1))
        (some ⟨frames, .complete (.array (read.reverse ++ items))⟩)
  | [], _, _, nonempty, _ => absurd rfl nonempty
  | [item], read, frames, _, room => by
      have value := foldlM_tokens item (.array read :: frames) room
      have closing : [JsonToken.closeArray].foldlM step ⟨.array read :: frames, .complete item⟩ =
          some ⟨frames, .complete (.array (read.reverse ++ [item]))⟩ := by
        rw [← List.reverse_cons]
        rfl
      have levels : (JsonFrame.array read :: frames).length + item.depth =
          frames.length + (depthItems [item] + 1) := by
        simp only [depthItems, List.length_cons]
        omega
      rw [itemsTokens, List.foldlM_append, value, within_bind, closing, levels]
  | item :: next :: items, read, frames, _, room => by
      have value := foldlM_tokens item (.array read :: frames) room
      have others := foldlM_itemsTokens (next :: items) (item :: read) frames (by simp) room
      -- The item and the ones after it are read at one level; the deeper of them decides.
      have levels : max ((JsonFrame.array read :: frames).length + item.depth)
          (frames.length + (depthItems (next :: items) + 1)) =
            frames.length + (depthItems (item :: next :: items) + 1) := by
        simp only [depthItems, List.length_cons]
        omega
      have comma : step ⟨.array read :: frames, .complete item⟩ .comma =
          some ⟨.array (item :: read) :: frames, .value⟩ := rfl
      rw [itemsTokens, List.append_assoc, List.foldlM_append, value, within_bind, List.cons_append,
        List.foldlM_cons, comma, Option.bind_eq_bind, Option.bind_some, others, within_within,
        levels]
      · simp
      · simp

theorem foldlM_entriesTokens : (entries : List (String × Json)) → (read : List (String × Json)) →
    (frames : List JsonFrame) → entries ≠ [] → frames.length < depthLimit →
    (entriesTokens entries ++ [JsonToken.closeObject]).foldlM step ⟨frames, .key read⟩ =
      within (frames.length + (depthEntries entries + 1))
        (some ⟨frames, .complete (.object (read.reverse ++ entries))⟩)
  | [], _, _, nonempty, _ => absurd rfl nonempty
  | [(key, content)], read, frames, _, room => by
      have value := foldlM_tokens content (.object read key :: frames) room
      have closing : [JsonToken.closeObject].foldlM step
          ⟨.object read key :: frames, .complete content⟩ =
            some ⟨frames, .complete (.object (read.reverse ++ [(key, content)]))⟩ := by
        rw [← List.reverse_cons]
        rfl
      have levels : (JsonFrame.object read key :: frames).length + content.depth =
          frames.length + (depthEntries [(key, content)] + 1) := by
        simp only [depthEntries, List.length_cons]
        omega
      have opening : (.string key :: .colon :: content.tokens).foldlM step ⟨frames, .key read⟩ =
          content.tokens.foldlM step ⟨.object read key :: frames, .value⟩ := rfl
      rw [entriesTokens, List.foldlM_append, opening, value, within_bind, closing, levels]
  | (key, content) :: next :: entries, read, frames, _, room => by
      have value := foldlM_tokens content (.object read key :: frames) room
      have others := foldlM_entriesTokens (next :: entries) ((key, content) :: read) frames
        (by simp) room
      have levels : max ((JsonFrame.object read key :: frames).length + content.depth)
          (frames.length + (depthEntries (next :: entries) + 1)) =
            frames.length + (depthEntries ((key, content) :: next :: entries) + 1) := by
        simp only [depthEntries, List.length_cons]
        omega
      have opening : (.string key :: .colon :: content.tokens).foldlM step ⟨frames, .key read⟩ =
          content.tokens.foldlM step ⟨.object read key :: frames, .value⟩ := rfl
      have comma : step ⟨.object read key :: frames, .complete content⟩ .comma =
          some ⟨frames, .key ((key, content) :: read)⟩ := rfl
      rw [entriesTokens, List.append_assoc, List.foldlM_append, opening, value, within_bind,
        List.cons_append, List.foldlM_cons, comma, Option.bind_eq_bind, Option.bind_some, others,
        within_within, levels]
      · simp
      · simp
end

end JsonBuilder

/-- A text with the tokens of a tree is read as the tree, if no more than the greatest number of its
arrays and objects are open at once, and refused otherwise. -/
theorem Json.read?_of_tokens (text : List Char) (json : Json)
    (tokens : JsonToken.ofText? text = some json.tokens) :
    Json.read? text = if json.depth ≤ JsonBuilder.depthLimit then some json else none := by
  have builder : json.tokens.foldlM JsonBuilder.step .start =
      JsonBuilder.within (0 + json.depth) (some ⟨[], .complete json⟩) :=
    JsonBuilder.foldlM_tokens json [] (by simp)
  rw [read?, tokens, Option.bind_eq_bind, Option.bind_some, builder, Nat.zero_add]
  unfold JsonBuilder.within
  split <;> rfl

theorem Json.read?_text (json : Json) (reread : JsonNumber → JsonNumber)
    (reads : ∀ number ∈ json.numbers, number.ReadsAs (reread number)) :
    Json.read? json.text =
      if json.depth ≤ JsonBuilder.depthLimit then some (json.mapNumbers reread) else none := by
  rw [read?_of_tokens _ _ (ofText?_text reread json reads), json.depth_mapNumbers]

namespace Json

theorem insertEntry_above (key : String) (value : Json) (entries : List (String × Json))
    (above : ∀ entry ∈ entries, entry.1 < key) :
    insertEntry key value entries = entries ++ [(key, value)] := by
  induction entries with
  | nil => rfl
  | cons head tail ih =>
      have notBelow : ¬key < head.1 := String.lt_asymm (above head (by simp))
      have different : key ≠ head.1 := fun same => notBelow (same ▸ above head (by simp))
      rw [insertEntry, if_neg notBelow, if_neg different, ih fun entry member =>
        above entry (by simp [member])]
      rfl

mutual
theorem normalize_of_ordered : (json : Json) → json.Ordered → json.normalize = json
  | null, _ | bool _, _ | number _, _ | string _, _ => rfl
  | array items, ordered => by
      rw [normalize, normalizeItems_of_ordered items ordered]
  | object entries, ordered => by
      rw [normalize, normalizeEntries_of_ordered [] entries ordered.1 ordered.2]
      rfl

theorem normalizeItems_of_ordered : (items : List Json) → OrderedItems items →
    normalizeItems items = items
  | [], _ => rfl
  | item :: items, ordered => by
      rw [normalizeItems, normalize_of_ordered item ordered.1,
        normalizeItems_of_ordered items ordered.2]

theorem normalizeEntries_of_ordered (placed : List (String × Json)) :
    (entries : List (String × Json)) → keysIncrease (placed ++ entries) → OrderedEntries entries →
    normalizeEntries placed entries = placed ++ entries
  | [], _, _ => by rw [normalizeEntries, List.append_nil]
  | (key, value) :: entries, increase, ordered => by
      have above : ∀ entry ∈ placed, entry.1 < key := fun entry member =>
        (List.pairwise_append.mp increase).2.2 entry member (key, value) (by simp)
      have shifted : placed ++ (key, value) :: entries = placed ++ [(key, value)] ++ entries := by
        simp
      rw [shifted] at increase ⊢
      rw [normalizeEntries, normalize_of_ordered value ordered.1, insertEntry_above _ _ _ above,
        normalizeEntries_of_ordered _ entries increase ordered.2]
end

end Json

theorem Document.ofJson_json (document : Document) : Document.ofJson document.json = document := by
  have same := Json.normalize_of_ordered document.json document.ordered
  cases document
  simp_all [Document.ofJson]

end QueryAlgebra
