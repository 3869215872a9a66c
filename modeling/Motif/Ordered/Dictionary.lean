/-!
Dictionaries from texts to texts, kept in ascending order of their keys.
-/

namespace Motif
namespace Ordered

/-- Puts an entry where its key belongs in an ascending list, in place of one with that key. -/
def putEntry (key value : String) : List (String × String) → List (String × String)
  | [] => [(key, value)]
  | e :: rest =>
    if key < e.1 then (key, value) :: e :: rest
    else if e.1 < key then e :: putEntry key value rest
    else (key, value) :: rest

theorem key_of_mem_putEntry {key value : String} {l : List (String × String)}
    {e : String × String} (h : e ∈ putEntry key value l) : e.1 = key ∨ e ∈ l := by
  induction l with
  | nil =>
    simp only [putEntry, List.mem_singleton] at h
    exact Or.inl (by rw [h])
  | cons d rest ih =>
    rw [putEntry] at h
    split at h
    · rcases List.mem_cons.mp h with rfl | h
      · exact Or.inl rfl
      · exact Or.inr h
    · split at h
      · rcases List.mem_cons.mp h with rfl | h
        · exact Or.inr List.mem_cons_self
        · exact (ih h).imp_right (List.mem_cons_of_mem d)
      · rcases List.mem_cons.mp h with rfl | h
        · exact Or.inl rfl
        · exact Or.inr (List.mem_cons_of_mem d h)

theorem sorted_putEntry {key value : String} {l : List (String × String)}
    (h : l.Pairwise fun a b => a.1 < b.1) :
    (putEntry key value l).Pairwise fun a b => a.1 < b.1 := by
  induction l with
  | nil => simp [putEntry]
  | cons d rest ih =>
    obtain ⟨hd, hrest⟩ := List.pairwise_cons.mp h
    rw [putEntry]
    split
    · next hk =>
      refine List.pairwise_cons.mpr ⟨fun e he => ?_, h⟩
      rcases List.mem_cons.mp he with rfl | he
      · exact hk
      · exact String.lt_trans hk (hd e he)
    · split
      · next hk =>
        refine List.pairwise_cons.mpr ⟨fun e he => ?_, ih hrest⟩
        rcases key_of_mem_putEntry he with hkey | he
        · rw [hkey]
          exact hk
        · exact hd e he
      · next h1 h2 =>
        have hkey : key = d.1 := String.le_antisymm (String.not_lt.mp h2) (String.not_lt.mp h1)
        refine List.pairwise_cons.mpr ⟨fun e he => ?_, hrest⟩
        rw [hkey]
        exact hd e he

theorem putEntry_eq_append {key value : String} {l : List (String × String)}
    (h : ∀ e ∈ l, e.1 < key) : putEntry key value l = l ++ [(key, value)] := by
  induction l with
  | nil => rfl
  | cons e rest ih =>
    have he : e.1 < key := h e List.mem_cons_self
    have hnot : ¬key < e.1 := fun hlt => String.lt_irrefl _ (String.lt_trans he hlt)
    rw [putEntry, if_neg hnot, if_pos he, ih fun d hd => h d (List.mem_cons_of_mem e hd)]
    rfl

end Ordered

structure Dictionary where
  entries : List (String × String)
  sorted : entries.Pairwise fun a b => a.1 < b.1

namespace Dictionary

def empty : Dictionary := ⟨[], List.Pairwise.nil⟩

def put (d : Dictionary) (key value : String) : Dictionary :=
  ⟨Ordered.putEntry key value d.entries, Ordered.sorted_putEntry d.sorted⟩

/-- Of two entries with the same key the later one stays. -/
def ofList (entries : List (String × String)) : Dictionary :=
  entries.foldl (fun d e => d.put e.1 e.2) empty

def get? (d : Dictionary) (key : String) : Option String :=
  (d.entries.find? (·.1 == key)).map (·.2)

def isEmpty (d : Dictionary) : Bool := d.entries.isEmpty

theorem entries_foldl_put {d : Dictionary} {es : List (String × String)}
    (h : (d.entries ++ es).Pairwise fun a b => a.1 < b.1) :
    (es.foldl (fun d e => d.put e.1 e.2) d).entries = d.entries ++ es := by
  induction es generalizing d with
  | nil => exact (List.append_nil _).symm
  | cons e rest ih =>
    have hlast : (d.put e.1 e.2).entries = d.entries ++ [e] :=
      Ordered.putEntry_eq_append fun c hc =>
        (List.pairwise_append.mp h).2.2 c hc e List.mem_cons_self
    have hrest : ((d.put e.1 e.2).entries ++ rest).Pairwise fun a b => a.1 < b.1 := by
      rw [hlast, List.append_assoc]
      exact h
    rw [List.foldl_cons, ih hrest, hlast, List.append_assoc]
    rfl

theorem ext {d e : Dictionary} (h : d.entries = e.entries) : d = e := by
  cases d
  cases e
  cases h
  rfl

theorem ofList_entries (d : Dictionary) : ofList d.entries = d := ext (entries_foldl_put d.sorted)

instance : BEq Dictionary := ⟨fun d e => d.entries == e.entries⟩

instance : Inhabited Dictionary := ⟨empty⟩

end Dictionary
end Motif
