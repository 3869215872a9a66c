import Motif.Proofs.Wire.Records

/-!
Records of which entries were taken away.  A field that was has its default if it has one and is
missing otherwise, and what stands beside it is read as before.  None of this depends on the format,
as long as a document answers what the value says that it stands for.
-/

namespace Motif

open Document

/-! ## Taking entries away -/

namespace Json

/-- The paths that are gone under a key. -/
def beneath (key : String) (gone : List String → Bool) : List String → Bool :=
  fun path => gone (key :: path)

mutual

/-- The value without the entries at the paths that are gone. -/
def prune (gone : List String → Bool) : Json → Json
  | .obj fields => .obj (pruneFields gone fields)
  | v => v

def pruneFields (gone : List String → Bool) : List (String × Json) → List (String × Json)
  | [] => []
  | (key, v) :: rest =>
    if gone [key] then pruneFields gone rest
    else (key, v.prune (beneath key gone)) :: pruneFields gone rest

end

mutual

theorem Writable.prune {gone : List String → Bool} {v : Json} (h : v.Writable) :
    (v.prune gone).Writable := by
  cases v with
  | obj fields =>
    cases h with
    | obj h => exact .obj (writable_pruneFields h)
  | null => exact h
  | bool b => exact h
  | int n => exact h
  | float x => exact h
  | str s => exact h
  | arr items => exact h

theorem writable_pruneFields {gone : List String → Bool} {fields : List (String × Json)}
    (h : ∀ e ∈ fields, e.2.Writable) : ∀ e ∈ pruneFields gone fields, e.2.Writable := by
  cases fields with
  | nil => exact h
  | cons e rest =>
    obtain ⟨hfirst, hrest⟩ := List.forall_mem_cons.mp h
    have hpruned : ∀ e ∈ pruneFields gone rest, e.2.Writable := writable_pruneFields hrest
    rw [pruneFields]
    split
    · exact hpruned
    · exact List.forall_mem_cons.mpr ⟨hfirst.prune, hpruned⟩

end

mutual

theorem prune_of_none {gone : List String → Bool} (h : ∀ path, gone path = false) (v : Json) :
    v.prune gone = v := by
  cases v with
  | obj fields => exact congrArg obj (pruneFields_of_none h fields)
  | null => rfl
  | bool b => rfl
  | int n => rfl
  | float x => rfl
  | str s => rfl
  | arr items => rfl

theorem pruneFields_of_none {gone : List String → Bool} (h : ∀ path, gone path = false)
    (fields : List (String × Json)) : pruneFields gone fields = fields := by
  cases fields with
  | nil => rfl
  | cons e rest =>
    have hfirst : e.2.prune (beneath e.1 gone) = e.2 :=
      prune_of_none (fun path => h (e.1 :: path)) e.2
    rw [pruneFields, h, if_neg Bool.false_ne_true, pruneFields_of_none h rest, hfirst]

end

theorem isNull_prune (gone : List String → Bool) (v : Json) : (v.prune gone).isNull = v.isNull := by
  cases v <;> rfl

end Json

namespace Document

/-! ## Values in other formats -/

instance decidableEqExcept {ε α : Type} [DecidableEq ε] [DecidableEq α] : DecidableEq (Except ε α)
  | .ok a, .ok b => decidable_of_iff (a = b) (by simp)
  | .error d, .error e => decidable_of_iff (d = e) (by simp)
  | .ok _, .error _ => isFalse nofun
  | .error _, .ok _ => isFalse nofun

section

variable {ν : Type} [Format ν]

/-- The entries of a record that is given by name. -/
def record? (v : ν) : Option (List (String × ν)) :=
  match Format.parts v with
  | .ok (.named entries none) => some entries
  | _ => none

theorem parts_of_record? {v : ν} {entries : List (String × ν)} (h : record? v = some entries) :
    Format.parts v = .ok (.named entries none) := by
  rw [record?] at h
  split at h
  · next hparts =>
    obtain rfl := Option.some.inj h
    exact hparts
  · cases h

mutual

/-- Whether a document answers what a value says.  The entries of a record stand in the same order.
Of lists and truth values nothing is asked but that they are there. -/
def Shows (v : ν) : Json → Prop
  | .null => Format.isAbsent v = .ok true
  | .bool _ => Format.isAbsent v = .ok false
  | .int n => Format.isAbsent v = .ok false ∧ (Format.word v).map Int.ofNat = .ok n
  | .float x => Format.isAbsent v = .ok false ∧ Format.real v = .ok x
  | .str s => Format.isAbsent v = .ok false ∧ Format.text v = .ok s
  | .arr _ => Format.isAbsent v = .ok false
  | .obj fields => Format.isAbsent v = .ok false ∧ ∃ entries ∈ record? v, ShowsAll entries fields

def ShowsAll (entries : List (String × ν)) : List (String × Json) → Prop
  | [] => entries = []
  | (key, j) :: fields =>
    ∃ e ∈ entries.head?, e.1 = key ∧ Shows e.2 j ∧ ShowsAll entries.tail fields

end

mutual

instance decidableShows (v : ν) : (j : Json) → Decidable (Shows v j)
  | .null => inferInstanceAs (Decidable (_ = _))
  | .bool _ => inferInstanceAs (Decidable (_ = _))
  | .int _ => inferInstanceAs (Decidable (_ ∧ _))
  | .float _ => inferInstanceAs (Decidable (_ ∧ _))
  | .str _ => inferInstanceAs (Decidable (_ ∧ _))
  | .arr _ => inferInstanceAs (Decidable (_ = _))
  | .obj fields =>
    have := fun entries : List (String × ν) => decidableShowsAll entries fields
    inferInstanceAs (Decidable (_ ∧ ∃ entries ∈ record? v, ShowsAll entries fields))

instance decidableShowsAll (entries : List (String × ν)) :
    (fields : List (String × Json)) → Decidable (ShowsAll entries fields)
  | [] => decidable_of_iff (entries.isEmpty = true) List.isEmpty_iff
  | (key, j) :: fields =>
    have := fun v : ν => decidableShows v j
    have := decidableShowsAll entries.tail fields
    inferInstanceAs (Decidable
      (∃ e ∈ entries.head?, e.1 = key ∧ Shows e.2 j ∧ ShowsAll entries.tail fields))

end

theorem showsAll_cons {entries : List (String × ν)} {key : String} {j : Json}
    {fields : List (String × Json)} (h : ShowsAll entries ((key, j) :: fields)) :
    ∃ v rest, entries = (key, v) :: rest ∧ Shows v j ∧ ShowsAll rest fields := by
  obtain ⟨e, he, rfl, hv, hrest⟩ := h
  exact ⟨e.2, entries.tail, List.eq_cons_of_mem_head? he, hv, hrest⟩

theorem Shows.isAbsent {v : ν} {j : Json} (h : Shows v j) (hnull : j.isNull = false) :
    Format.isAbsent v = .ok false := by
  cases j with
  | null => cases hnull
  | bool b => exact h
  | int n => exact h.1
  | float x => exact h.1
  | str s => exact h.1
  | arr items => exact h
  | obj fields => exact h.1

theorem ShowsAll.filter {es : List (String × ν)} {fields : List (String × Json)}
    (h : ShowsAll es fields) (p : String → Bool) :
    ShowsAll (es.filter (p ·.1)) (fields.filter (p ·.1)) := by
  induction fields generalizing es with
  | nil =>
    obtain rfl : es = [] := h
    rfl
  | cons f rest ih =>
    obtain ⟨v, entries, rfl, hv, hrest⟩ := showsAll_cons h
    rw [List.filter_cons, List.filter_cons]
    split
    · exact ⟨_, rfl, rfl, hv, ih hrest⟩
    · exact ih hrest

end

mutual

/-- A value that can be written shows itself. -/
theorem shows_self {v : Json} (h : v.Writable) : Shows v v := by
  cases v with
  | null => exact rfl
  | bool b => exact rfl
  | int n =>
    cases h with
    | int h h' =>
      have hword : Json.word? (.int n) = .ok n.toNat := if_pos ⟨h, h'⟩
      exact ⟨rfl, (congrArg _ hword).trans (congrArg _ (Int.toNat_of_nonneg h))⟩
  | float x => exact ⟨rfl, rfl⟩
  | str s => exact ⟨rfl, rfl⟩
  | arr items => exact rfl
  | obj fields =>
    cases h with
    | obj h => exact ⟨rfl, fields, rfl, showsAll_self h⟩

theorem showsAll_self {fields : List (String × Json)} (h : ∀ e ∈ fields, e.2.Writable) :
    ShowsAll fields fields := by
  cases fields with
  | nil => rfl
  | cons e rest =>
    obtain ⟨hfirst, hrest⟩ := List.forall_mem_cons.mp h
    exact ⟨e, rfl, rfl, shows_self hfirst, showsAll_self hrest⟩

end

/-! ## Reading what is left -/

/-- Reading gives the value, or names one of the fields that it lacks.  Nothing else goes wrong. -/
inductive Settles {α ε : Type} (cause : ε → Cause) (a : α) : List String → Except ε α → Prop
  | ok : Settles cause a [] (.ok a)
  | missing {lacking : List String} {field : String} {e : ε} (hfield : field ∈ lacking)
    (h : cause e = .missing field) : Settles cause a lacking (.error e)

theorem Fields.settles_field {ν α : Type} {key : String} {decodeEntry decodeItem : Decoder ν α}
    {unnamed unplaced : Except Cause α} {es : List (String × ν)} {i : Nat} {v : ν} {a : α}
    {lacking : List String} (hone : occurrences key es = [(i, v)])
    (h : Settles (·.cause) a lacking (decodeEntry v)) :
    Settles (·.failure.cause) a lacking
      ((field key decodeEntry decodeItem unnamed unplaced).named es) := by
  simp only [field, hone]
  generalize decodeEntry v = r at h
  cases h with
  | ok => exact .ok
  | missing hfield hcause => exact .missing hfield hcause

variable {ν α β : Type} [Format ν]

/-- Every document that shows the value is read as `a`, as far as nothing is lacking. -/
def Means (decode : Decoder ν α) (j : Json) (a : α) (lacking : List String) : Prop :=
  ∀ v, Shows v j → Settles (·.cause) a lacking (decode v)

namespace Means

theorem text (s : String) : Means (ν := ν) Document.text (.str s) s [] := by
  intro v h
  rw [Document.text, lift, h.2]
  exact .ok

theorem real (x : Float) : Means (ν := ν) Document.real (.float x) x [] := by
  intro v h
  rw [Document.real, lift, h.2]
  exact .ok

theorem word (n : Nat) : Means (ν := ν) Document.word (.nat n) n [] := by
  rintro v ⟨-, h⟩
  rw [Document.word, lift]
  generalize Format.word v = r at h
  cases r with
  | error c => cases h
  | ok k =>
    obtain rfl : k = n := Int.ofNat.inj (Except.ok.inj h)
    exact .ok

theorem entry {decode : Decoder ν α} {j : Json} {a : α} {lacking : List String} {key : String}
    (h : Means decode j a lacking) : Means (Document.entry key decode) j a lacking := by
  intro v hv
  have hsettles := h v hv
  rw [Document.entry]
  generalize decode v = r at hsettles
  cases hsettles with
  | ok => exact .ok
  | missing hfield hcause => exact .missing hfield hcause

theorem optionalEntry {decode : Decoder ν α} {j : Json} {a : α} {lacking : List String}
    {key : String} (h : Means decode j a lacking) (hnull : j.isNull = false) :
    Means (Document.optionalEntry key decode) j (some a) lacking := by
  intro v hv
  have hsettles : Settles (·.cause) a lacking (Document.entry key decode v) := h.entry v hv
  simp only [Document.optionalEntry, hv.isAbsent hnull]
  generalize Document.entry key decode v = r at hsettles
  cases hsettles with
  | ok => exact .ok
  | missing hfield hcause => exact .missing hfield hcause

theorem entries_eq {es : List (String × ν)} {pairs : List (String × String)}
    (h : ShowsAll es (pairs.map fun p => (p.1, .str p.2))) : entries es = .ok pairs := by
  induction pairs generalizing es with
  | nil =>
    obtain rfl : es = [] := h
    rfl
  | cons p rest ih =>
    obtain ⟨v, others, rfl, hv, hrest⟩ := showsAll_cons h
    have hfirst : Document.entry p.1 Document.text v = .ok p.2 := by
      rw [Document.entry, Document.text, lift, hv.2]
      rfl
    rw [entries, hfirst, ih hrest]
    rfl

theorem dictionary (d : Dictionary) :
    Means (ν := ν) Document.dictionary (.ofDictionary d) d [] := by
  rintro v ⟨-, es, hrecord, hes⟩
  simp only [Document.dictionary, parts_of_record? hrecord, entries_eq hes, d.ofList_entries]
  exact .ok

end Means

namespace Fields

variable {gone : List String → Bool} {fields : List (String × Json)} {key : String} {j : Json}

theorem under_pruneFields (gone : List String → Bool) (key : String)
    (fields : List (String × Json)) :
    under key (Json.pruneFields gone fields) =
      if gone [key] then []
      else (under key fields).map fun e => (e.1, e.2.prune (Json.beneath key gone)) := by
  induction fields with
  | nil =>
    rw [Json.pruneFields, under_nil, List.map_nil, ite_self]
  | cons e rest ih =>
    rw [Json.pruneFields]
    by_cases hkey : e.1 = key
    · subst hkey
      rw [under_cons, if_pos (beq_self_eq_true _), List.map_cons]
      split
      · next hgone => rw [ih, if_pos hgone]
      · next hgone => rw [under_cons, if_pos (beq_self_eq_true _), ih, if_neg hgone]
    · have hother : ¬(e.1 == key) = true := fun h => hkey (eq_of_beq h)
      rw [under_cons, if_neg hother]
      split
      · exact ih
      · rw [under_cons, if_neg hother]
        exact ih

variable {es : List (String × ν)}

theorem occurrences_of_shows_nil (h : ShowsAll (es.filter (·.1 == key)) []) :
    occurrences key es = [] :=
  occurrences_of_filter_eq_nil h

/-- An entry that stands alone under its key is found exactly when it is not gone. -/
theorem occurrences_of_shows (h : ShowsAll es (Json.pruneFields gone fields))
    (hentry : under key fields = [(key, j)]) :
    gone [key] = true ∧ occurrences key es = [] ∨
      gone [key] = false ∧ ∃ i v, occurrences key es = [(i, v)] ∧
        Shows v (j.prune (Json.beneath key gone)) := by
  have hunder := h.filter (· == key)
  rw [← under, under_pruneFields, hentry] at hunder
  cases hgone : gone [key] with
  | true =>
    rw [hgone, if_pos rfl] at hunder
    exact .inl ⟨rfl, occurrences_of_shows_nil hunder⟩
  | false =>
    rw [hgone, if_neg Bool.false_ne_true] at hunder
    obtain ⟨v, rest, hfilter, hv, rfl⟩ := showsAll_cons hunder
    obtain ⟨i, hi⟩ := exists_occurrences hfilter
    exact .inr ⟨rfl, i, v, hi, hv⟩

/-- What the fields come to, read from any entries that show what is left of a record. -/
def Leaves (f : Fields ν α) (gone : List String → Bool) (fields : List (String × Json)) (a : α)
    (lacking : List String) : Prop :=
  ∀ es, ShowsAll es (Json.pruneFields gone fields) →
    Settles (·.failure.cause) a lacking (f.named es)

theorem leaves_pure (a : α) : (pure a : Fields ν α).Leaves gone fields a [] := fun _ _ => .ok

namespace Leaves

variable {f : Fields ν (α → β)} {g : α → β} {decode : Decoder ν α} {a : α}
  {lacking more : List String}

theorem also {x : Fields ν α} (h : f.Leaves gone fields g lacking)
    (hx : x.Leaves gone fields a more) :
    (f.also x).Leaves gone fields (g a) (lacking ++ more) := by
  intro es hes
  have hf := h es hes
  have hx := hx es hes
  simp only [Fields.also]
  generalize f.named es = r at hf
  generalize x.named es = q at hx
  cases hf with
  | ok =>
    cases hx with
    | ok => exact .ok
    | missing hfield hcause => exact .missing (List.mem_append_right _ hfield) hcause
  | missing hfield hcause =>
    cases hx with
    | ok => exact .missing (List.mem_append_left _ hfield) hcause
    | missing hfield' hcause' =>
      -- the earlier of the two faults counts, and either names a field that is lacking
      show Settles _ _ _ (.error (Fault.earlier _ _))
      rw [Fault.earlier]
      split
      · exact .missing (List.mem_append_right _ hfield') hcause'
      · exact .missing (List.mem_append_left _ hfield) hcause

theorem also_of_none {x : Fields ν α} (h : f.Leaves gone fields g lacking)
    (hx : x.Leaves gone fields a []) : (f.also x).Leaves gone fields (g a) lacking := by
  have hboth := h.also hx
  rwa [List.append_nil] at hboth

theorem defaulted {value : α} (h : f.Leaves gone fields g lacking)
    (hentry : under key fields = [(key, j)])
    (hd : Means decode (j.prune (Json.beneath key gone)) a []) :
    (f.also (.defaulted key decode value)).Leaves gone fields
      (g (if gone [key] then value else a)) lacking := by
  refine h.also_of_none fun es hes => ?_
  rcases occurrences_of_shows hes hentry with ⟨hgone, hnone⟩ | ⟨hgone, i, v, hone, hv⟩
  · rw [hgone, if_pos rfl]
    simp only [Fields.defaulted, field, hnone]
    exact .ok
  · rw [hgone, if_neg Bool.false_ne_true]
    exact settles_field hone (hd.entry v hv)

theorem required (h : f.Leaves gone fields g lacking) (hentry : under key fields = [(key, j)])
    (hd : Means decode (j.prune (Json.beneath key gone)) a more) :
    (f.also (.required key decode)).Leaves gone fields (g a)
      (lacking ++ if gone [key] then [key] else more) := by
  refine h.also fun es hes => ?_
  rcases occurrences_of_shows hes hentry with ⟨hgone, hnone⟩ | ⟨hgone, i, v, hone, hv⟩
  · rw [hgone, if_pos rfl]
    simp only [Fields.required, field, hnone]
    exact .missing (List.mem_singleton_self key) rfl
  · rw [hgone, if_neg Bool.false_ne_true]
    exact settles_field hone (hd.entry v hv)

/-- A field that is written only when it has a value, and stays where it is. -/
theorem possible {f : Fields ν (Option α → β)} {g : Option α → β} {value : Option α}
    {encode : α → Json} {reset : α → α} (h : f.Leaves gone fields g lacking)
    (hentry : under key fields = Json.optional key (value.map encode))
    (hkept : gone [key] = false) (hnull : ∀ a, (encode a).isNull = false)
    (hd : ∀ a, Means decode ((encode a).prune (Json.beneath key gone)) (reset a) []) :
    (f.also (.possible key decode)).Leaves gone fields (g (value.map reset)) lacking := by
  refine h.also_of_none fun es hes => ?_
  cases value with
  | none =>
    have hunder := hes.filter (· == key)
    rw [← under, under_pruneFields, hentry, hkept] at hunder
    simp only [Fields.possible, field, occurrences_of_shows_nil hunder]
    exact .ok
  | some a =>
    rcases occurrences_of_shows hes hentry with ⟨hgone, -⟩ | ⟨-, i, v, hone, hv⟩
    · cases hkept.symm.trans hgone
    · exact settles_field hone ((hd a).optionalEntry ((encode a).isNull_prune _ ▸ hnull a) v hv)

/-! ### Whole records -/

theorem means_read {f : Fields ν α} (h : f.Leaves gone fields a lacking) :
    Means f.read ((Json.obj fields).prune gone) a lacking := by
  rintro v ⟨-, es, hrecord, hes⟩
  have hsettles := h es hes
  simp only [read, parts_of_record? hrecord, readParts]
  generalize f.named es = r at hsettles
  cases hsettles with
  | ok => exact .ok
  | missing hfield hcause => exact .missing hfield hcause

end Leaves
end Fields
end Document
end Motif
