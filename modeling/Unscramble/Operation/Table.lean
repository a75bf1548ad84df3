import Unscramble.Operation

/-! Operations by name. Every name stands for one operation, the one stored last. -/
namespace Unscramble

def insertEntry (name : Text) (op : Operation) : List (Text × Operation) → List (Text × Operation)
  | [] => [(name, op)]
  | (n, o) :: es => if n = name then (name, op) :: es else (n, o) :: insertEntry name op es

theorem mem_insertEntry {name n : Text} {op : Operation} {es : List (Text × Operation)}
    (h : n ∈ (insertEntry name op es).map (·.1)) : n = name ∨ n ∈ es.map (·.1) := by
  induction es with
  | nil => simpa [insertEntry] using h
  | cons e es ih =>
    by_cases he : e.1 = name
    · simpa [insertEntry, he] using h
    · simp only [insertEntry, if_neg he, List.map_cons, List.mem_cons] at h ⊢
      rcases h with h | h
      · exact .inr (.inl h)
      · rcases ih h with h | h
        · exact .inl h
        · exact .inr (.inr h)

theorem nodup_insertEntry (name : Text) (op : Operation) {es : List (Text × Operation)}
    (h : (es.map (·.1)).Nodup) : ((insertEntry name op es).map (·.1)).Nodup := by
  induction es with
  | nil => simp [insertEntry]
  | cons e es ih =>
    have hd := List.nodup_cons.1 h
    by_cases he : e.1 = name
    · simpa [insertEntry, he] using h
    · simp only [insertEntry, if_neg he, List.map_cons]
      refine List.nodup_cons.2 ⟨fun hm => ?_, ih hd.2⟩
      rcases mem_insertEntry hm with hm | hm
      · exact he hm
      · exact hd.1 hm

structure OperationTable where
  entries : List (Text × Operation)
  nodup : (entries.map (·.1)).Nodup
  deriving DecidableEq, Repr

namespace OperationTable

def empty : OperationTable := ⟨[], .nil⟩

def insert (t : OperationTable) (name : Text) (op : Operation) : OperationTable :=
  ⟨insertEntry name op t.entries, nodup_insertEntry name op t.nodup⟩

def ofList (es : List (Text × Operation)) : OperationTable :=
  es.foldl (fun t e => t.insert e.1 e.2) empty

def find? (t : OperationTable) (name : Text) : Option Operation := t.entries.lookup name

end OperationTable
end Unscramble
