import Unscramble.Operation.Table

/-! Tables of entries with names of their own keep the entries as they come, and find the same in any
order of them. -/
namespace Unscramble.OperationTable

theorem insertEntry_of_not_mem {name : Text} {es : List (Text × Operation)}
    (h : name ∉ es.map (·.1)) (op : Operation) : insertEntry name op es = es ++ [(name, op)] := by
  induction es with
  | nil => rfl
  | cons e es ih =>
    rw [insertEntry, if_neg (Ne.symm (List.ne_of_not_mem_cons h)),
      ih (List.not_mem_of_not_mem_cons h)]
    rfl

theorem entries_foldl (t : OperationTable) {es : List (Text × Operation)}
    (h : ((t.entries ++ es).map (·.1)).Nodup) :
    (es.foldl (fun t e => t.insert e.1 e.2) t).entries = t.entries ++ es := by
  induction es generalizing t with
  | nil => exact (List.append_nil _).symm
  | cons e es ih =>
    have hnot : e.1 ∉ t.entries.map (·.1) := by
      rw [List.map_append, List.map_cons] at h
      exact fun hm => (List.nodup_append.1 h).2.2 _ hm _ (.head _) rfl
    have hins : (t.insert e.1 e.2).entries = t.entries ++ [e] := insertEntry_of_not_mem hnot e.2
    have hcat : (t.insert e.1 e.2).entries ++ es = t.entries ++ e :: es := by
      rw [hins, List.append_assoc, List.singleton_append]
    rw [List.foldl_cons, ih _ (hcat ▸ h), hcat]

theorem entries_ofList {es : List (Text × Operation)} (h : (es.map (·.1)).Nodup) :
    (ofList es).entries = es := entries_foldl empty h

theorem entries_insert_ne_nil (table : OperationTable) (name : Text) (op : Operation) :
    (table.insert name op).entries ≠ [] := by
  obtain ⟨_ | ⟨e, es⟩, hd⟩ := table
  · exact List.cons_ne_nil _ _
  · simp only [insert, insertEntry]
    split <;> exact List.cons_ne_nil _ _

theorem entries_ofList_ne_nil {es : List (Text × Operation)} (h : es ≠ []) :
    (ofList es).entries ≠ [] := by
  rw [← List.dropLast_concat_getLast h, ofList, List.foldl_append]
  exact entries_insert_ne_nil _ _ _

theorem ofList_entries (t : OperationTable) : ofList t.entries = t := by
  obtain ⟨entries, hd⟩ := t
  have h := entries_ofList hd
  generalize ofList entries = u at h
  cases u
  subst h
  rfl

theorem lookup_of_perm {es fs : List (Text × Operation)} (h : es.Perm fs) (hd : (es.map (·.1)).Nodup)
    (name : Text) : es.lookup name = fs.lookup name := by
  induction h with
  | nil => rfl
  | cons e _ ih => rw [List.lookup_cons, List.lookup_cons, ih (List.nodup_cons.1 hd).2]
  | swap e f es =>
    have hne : f.1 ≠ e.1 := List.ne_of_not_mem_cons (List.nodup_cons.1 hd).1
    rw [List.lookup_cons, List.lookup_cons, List.lookup_cons, List.lookup_cons]
    by_cases hname : name = f.1
    · rw [hname, beq_false_of_ne hne]
    · rw [beq_false_of_ne hname]
  | trans h _ ih ih' => exact (ih hd).trans (ih' ((h.map _).nodup_iff.1 hd))

theorem find?_of_perm {t u : OperationTable} (h : t.entries.Perm u.entries) (name : Text) :
    t.find? name = u.find? name := lookup_of_perm h t.nodup name
end Unscramble.OperationTable
