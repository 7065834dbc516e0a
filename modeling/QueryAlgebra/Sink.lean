import QueryAlgebra.QueryError

/-!
Writing text into a sink that may have room for a limited number of characters. What fits of a text
is kept; the first text that does not fit ends the writing with an error.
-/

namespace QueryAlgebra

structure Sink where
  room : Option Nat
  held : String
  deriving DecidableEq, Repr

def Sink.empty (room : Option Nat) : Sink := ⟨room, ""⟩

abbrev Writer := ExceptT QueryError (StateM Sink)

namespace Writer

def write (text : String) : Writer Unit := fun sink =>
  match sink.room with
  | none => (.ok (), ⟨none, sink.held ++ text⟩)
  | some room =>
      if text.length ≤ room then (.ok (), ⟨some (room - text.length), sink.held ++ text⟩)
      else (.error .sinkRefused, ⟨some 0, sink.held ++ String.ofList (text.toList.take room)⟩)

theorem pure_apply (sink : Sink) : (pure () : Writer Unit) sink = (.ok (), sink) :=
  rfl

theorem write_empty : write "" = pure () := by
  funext ⟨room, held⟩
  rw [pure_apply]
  cases room <;> simp [write]

theorem write_append (first second : String) :
    (do write first; write second) = write (first ++ second) := by
  funext ⟨room, held⟩
  cases room with
  | none => simp [write, bind, ExceptT.bind, ExceptT.mk, ExceptT.bindCont, StateT.bind,
      String.append_assoc]
  | some room =>
      by_cases fits : first.length ≤ room
      · by_cases both : first.length + second.length ≤ room
        · have rest : second.length ≤ room - first.length := by omega
          simp [write, bind, ExceptT.bind, ExceptT.mk, ExceptT.bindCont, StateT.bind, fits, both,
            rest, String.append_assoc, Nat.sub_sub]
        · have rest : ¬ second.length ≤ room - first.length := by omega
          have whole : first.toList.take room = first.toList :=
            List.take_of_length_le (String.length_toList ▸ fits)
          simp [write, bind, ExceptT.bind, ExceptT.mk, ExceptT.bindCont, StateT.bind, fits, both,
            rest, whole, String.append_assoc, List.take_append, String.length_toList]
      · have both : ¬ first.length + second.length ≤ room := by omega
        have none_left : room - first.length = 0 := by omega
        simp [write, bind, ExceptT.bind, ExceptT.mk, ExceptT.bindCont, StateT.bind, fits, both,
          List.take_append, none_left, String.length_toList]
        rfl

def join (separator : String) : List (Writer Unit) → Writer Unit
  | [] => pure ()
  | [item] => item
  | item :: items => do
      item
      write separator
      join separator items

theorem join_write (separator : String) (texts : List String) :
    join separator (texts.map write) = write (separator.intercalate texts) := by
  induction texts with
  | nil => simpa [join] using write_empty.symm
  | cons first rest ih =>
      cases rest with
      | nil => simp [join]
      | cons second rest =>
          simp only [List.map_cons, join] at ih ⊢
          rw [ih, write_append, write_append, String.intercalate_cons_cons, String.append_assoc]

/-- What an empty sink holds after the writing, and the error if the writing was cut off. -/
def runInto (room : Option Nat) (writer : Writer Unit) : String × Except QueryError Unit :=
  let (result, sink) := writer.run.run (Sink.empty room)
  (sink.held, result)

end Writer
end QueryAlgebra
