/-!
Sets of texts, kept in ascending order without repetition.  Two sets with the same members are
equal, since a strictly ascending list is determined by its members.
-/

namespace Motif
namespace Ordered

/-- Puts a word where it belongs in an ascending list, unless it is there already. -/
def insertWord (w : String) : List String → List String
  | [] => [w]
  | v :: rest =>
    if w < v then w :: v :: rest
    else if v < w then v :: insertWord w rest
    else v :: rest

theorem mem_insertWord {w x : String} {l : List String} :
    x ∈ insertWord w l ↔ x = w ∨ x ∈ l := by
  induction l with
  | nil => simp [insertWord]
  | cons v rest ih =>
    rw [insertWord]
    split
    · simp
    · split
      · simp only [List.mem_cons, ih]
        constructor
        · rintro (h | h | h)
          · exact Or.inr (Or.inl h)
          · exact Or.inl h
          · exact Or.inr (Or.inr h)
        · rintro (h | h | h)
          · exact Or.inr (Or.inl h)
          · exact Or.inl h
          · exact Or.inr (Or.inr h)
      · next h1 h2 =>
        have : w = v := String.le_antisymm (String.not_lt.mp h2) (String.not_lt.mp h1)
        subst this
        simp

theorem sorted_insertWord {w : String} {l : List String} (h : l.Pairwise (· < ·)) :
    (insertWord w l).Pairwise (· < ·) := by
  induction l with
  | nil => simp [insertWord]
  | cons v rest ih =>
    obtain ⟨hv, hrest⟩ := List.pairwise_cons.mp h
    rw [insertWord]
    split
    · next hw =>
      refine List.pairwise_cons.mpr ⟨fun x hx => ?_, h⟩
      rcases List.mem_cons.mp hx with rfl | hx
      · exact hw
      · exact String.lt_trans hw (hv x hx)
    · split
      · next hw =>
        refine List.pairwise_cons.mpr ⟨fun x hx => ?_, ih hrest⟩
        rcases mem_insertWord.mp hx with rfl | hx
        · exact hw
        · exact hv x hx
      · exact h

end Ordered

structure WordSet where
  words : List String
  sorted : words.Pairwise (· < ·)

namespace WordSet

def empty : WordSet := ⟨[], List.Pairwise.nil⟩

def insert (s : WordSet) (w : String) : WordSet :=
  ⟨Ordered.insertWord w s.words, Ordered.sorted_insertWord s.sorted⟩

def ofList (ws : List String) : WordSet := ws.foldl insert empty

def size (s : WordSet) : Nat := s.words.length

instance : Membership String WordSet := ⟨fun s w => w ∈ s.words⟩

instance (w : String) (s : WordSet) : Decidable (w ∈ s) := inferInstanceAs (Decidable (w ∈ s.words))

instance : BEq WordSet := ⟨fun s t => s.words == t.words⟩

instance : Inhabited WordSet := ⟨empty⟩

theorem mem_words {s : WordSet} {w : String} : w ∈ s ↔ w ∈ s.words := Iff.rfl

theorem mem_insert {s : WordSet} {w x : String} : x ∈ s.insert w ↔ x = w ∨ x ∈ s :=
  Ordered.mem_insertWord

theorem mem_foldl_insert {ws : List String} {s : WordSet} {x : String} :
    x ∈ ws.foldl insert s ↔ x ∈ ws ∨ x ∈ s := by
  induction ws generalizing s with
  | nil => simp
  | cons w rest ih =>
    rw [List.foldl_cons, ih, mem_insert, List.mem_cons]
    constructor
    · rintro (h | h | h)
      · exact Or.inl (Or.inr h)
      · exact Or.inl (Or.inl h)
      · exact Or.inr h
    · rintro ((h | h) | h)
      · exact Or.inr (Or.inl h)
      · exact Or.inl h
      · exact Or.inr (Or.inr h)

theorem mem_ofList {ws : List String} {x : String} : x ∈ ofList ws ↔ x ∈ ws := by
  rw [ofList, mem_foldl_insert]
  simp [mem_words, empty]

theorem ext {s t : WordSet} (h : s.words = t.words) : s = t := by
  cases s
  cases t
  cases h
  rfl

theorem nodup_words (s : WordSet) : s.words.Nodup := s.sorted.imp fun h => String.ne_of_lt h

theorem ext_mem {s t : WordSet} (h : ∀ w, w ∈ s ↔ w ∈ t) : s = t := by
  have hperm : s.words.Perm t.words :=
    (List.perm_ext_iff_of_nodup s.nodup_words t.nodup_words).mpr h
  refine ext (List.Perm.eq_of_pairwise (fun v w _ _ hvw hwv => ?_) s.sorted t.sorted hperm)
  exact absurd (String.lt_trans hvw hwv) (String.lt_irrefl v)

theorem ofList_words (s : WordSet) : ofList s.words = s := ext_mem fun _ => mem_ofList

end WordSet
end Motif
