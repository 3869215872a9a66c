import Mathlib.Data.List.Basic
import Motif.Json.Decode

/-!
Records as documents.  Reading a record looks each of its fields up by its key.  As the keys are
distinct, a field that was written is found once, and one that was left out is not found at all.
-/

namespace Motif

open Document

namespace Json

/-- What can be written exactly: fractions that are finite, and counts of 64 bits. -/
inductive Writable : Json → Prop
  | null : Writable .null
  | bool (b : Bool) : Writable (.bool b)
  | int {n : Int} (h : 0 ≤ n) (h' : n ≤ Decimal.word64) : Writable (.int n)
  | float {x : Float} (h : x.isFinite = true) : Writable (.float x)
  | str (s : String) : Writable (.str s)
  | arr {items : List Json} (h : ∀ v ∈ items, Writable v) : Writable (.arr items)
  | obj {fields : List (String × Json)} (h : ∀ e ∈ fields, Writable e.2) : Writable (.obj fields)

/-- What a document that can be written is read as. -/
def Decodes {α : Type} (decode : Decoder Json α) (v : Json) (a : α) : Prop :=
  v.Writable → decode v = .ok a

namespace Decodes

variable {α : Type} {decode : Decoder Json α} {a : α} {v : Json}

theorem text (s : String) : Decodes Document.text (.str s) s := fun _ => rfl

theorem real (x : Float) : Decodes Document.real (.float x) x := fun _ => rfl

theorem bool (b : Bool) : Decodes bool? (.bool b) b := fun _ => rfl

theorem word (n : Nat) : Decodes Document.word (.nat n) n := by
  intro h
  cases h with
  | int h h' =>
    show (word? (.int n)).mapError _ = _
    rw [word?, if_pos ⟨h, h'⟩]
    rfl

theorem list {encode : α → Json} {as : List α} (h : ∀ a ∈ as, Decodes decode (encode a) a) :
    Decodes (list? decode) (.ofList encode as) as := by
  intro hw
  cases hw with
  | arr hw =>
    show (as.map encode).mapM decode = .ok as
    induction as with
    | nil => rfl
    | cons a rest ih =>
      have hhead : decode (encode a) = .ok a :=
        h a List.mem_cons_self (hw _ List.mem_cons_self)
      have htail := ih (fun b hb => h b (List.mem_cons_of_mem a hb))
        fun w hin => hw w (List.mem_cons_of_mem _ hin)
      rw [List.map_cons, List.mapM_cons, hhead]
      show ((rest.map encode).mapM decode >>= fun bs => pure (a :: bs)) = _
      rw [htail]
      rfl

theorem strings (ss : List String) : Decodes (list? Document.text) (.strings ss) ss :=
  list fun s _ => text s

theorem optional (h : Decodes decode v a) (hnull : v.isNull = false) :
    Decodes (Document.optional decode) v (some a) := by
  intro hw
  have habsent : Format.isAbsent v = .ok false := congrArg Except.ok hnull
  rw [Document.optional, habsent, h hw]
  rfl

theorem entries_map_str (es : List (String × String)) :
    entries (es.map fun e => (e.1, Json.str e.2)) = .ok es := by
  induction es with
  | nil => rfl
  | cons e rest ih =>
    have hentry : entry e.1 Document.text (Json.str e.2) = .ok e.2 := rfl
    rw [List.map_cons, entries, hentry, ih]
    rfl

theorem dictionary (d : Dictionary) : Decodes Document.dictionary (.ofDictionary d) d := by
  intro _
  have hparts : Format.parts (Json.ofDictionary d) =
      .ok (.named (d.entries.map fun e => (e.1, Json.str e.2)) none) := rfl
  simp only [Document.dictionary, hparts, entries_map_str, d.ofList_entries]

theorem wordSet (s : WordSet) : Decodes wordSet? (.strings s.words) s := by
  intro hw
  rw [wordSet?, strings s.words hw]
  exact congrArg Except.ok s.ofList_words

end Decodes
end Json

/-! ## Fields -/

namespace Document.Fields

open Json

variable {α β : Type} {es : List (String × Json)} {key : String} {v : Json}

/-- The entries with a key. -/
def under (key : String) (es : List (String × Json)) : List (String × Json) :=
  es.filter (·.1 == key)

@[simp]
theorem under_cons (e : String × Json) (es : List (String × Json)) :
    under key (e :: es) = if e.1 == key then e :: under key es else under key es :=
  List.filter_cons

@[simp]
theorem under_nil : under key [] = [] := rfl

@[simp]
theorem under_append (es ds : List (String × Json)) :
    under key (es ++ ds) = under key es ++ under key ds := List.filter_append ..

@[simp]
theorem under_optional (name : String) (value : Option Json) :
    under key (Json.optional name value) =
      if name == key then Json.optional name value else [] := by
  cases value with
  | none =>
    show [] = if name == key then [] else []
    split <;> rfl
  | some v => exact under_cons (name, v) []

theorem map_occurrences {ν : Type} (key : String) (es : List (String × ν)) :
    (occurrences key es).map (·.2) = (es.filter (·.1 == key)).map (·.2) := by
  have hentries : (es.zipIdx.filter (·.1.1 == key)).map (·.1) = es.filter (·.1 == key) := by
    conv_rhs => rw [← List.zipIdx_map_fst 0 es, List.filter_map]
    rfl
  rw [occurrences, List.map_map, ← hentries, List.map_map]
  rfl

theorem occurrences_of_filter_eq_nil {ν : Type} {es : List (String × ν)}
    (h : es.filter (·.1 == key) = []) : occurrences key es = [] := by
  rw [← List.map_eq_nil_iff, map_occurrences, h]
  rfl

theorem exists_occurrences {ν : Type} {es : List (String × ν)} {v : ν}
    (h : es.filter (·.1 == key) = [(key, v)]) : ∃ i, occurrences key es = [(i, v)] := by
  have hvalues := map_occurrences key es
  rw [h, List.map_singleton, List.map_eq_singleton_iff] at hvalues
  obtain ⟨⟨i, w⟩, hoccurrences, rfl⟩ := hvalues
  exact ⟨i, hoccurrences⟩

/-- The fields read a value from the entries of a record. -/
def Reads (f : Fields Json α) (es : List (String × Json)) (a : α) : Prop :=
  (∀ e ∈ es, e.2.Writable) → f.named es = .ok a

theorem reads_pure (a : α) : (pure a : Fields Json α).Reads es a := fun _ => rfl

namespace Reads

variable {f : Fields Json (α → β)} {g : α → β} {decode : Decoder Json α} {a : α}

theorem also {x : Fields Json α} (h : f.Reads es g) (hx : x.Reads es a) :
    (f.also x).Reads es (g a) := by
  intro hw
  rw [Fields.also]
  simp only [h hw, hx hw]

theorem field {decodeEntry decodeItem : Decoder Json α} {unnamed unplaced : Except Cause α}
    (hentry : under key es = [(key, v)]) (h : Decodes decodeEntry v a) :
    (field key decodeEntry decodeItem unnamed unplaced).Reads es a := by
  intro hw
  have hmem : (key, v) ∈ es := List.mem_of_mem_filter (hentry ▸ List.mem_singleton_self (key, v))
  obtain ⟨i, hoccurrences⟩ := exists_occurrences hentry
  simp only [Fields.field, hoccurrences, h (hw _ hmem)]

theorem entry (h : Decodes decode v a) : Decodes (Document.entry key decode) v a := by
  intro hw
  rw [Document.entry, h hw]
  rfl

theorem required (h : f.Reads es g) (hentry : under key es = [(key, v)])
    (hd : Decodes decode v a) : (f.also (.required key decode)).Reads es (g a) :=
  h.also (field hentry (entry hd))

theorem defaulted {value : α} (h : f.Reads es g) (hentry : under key es = [(key, v)])
    (hd : Decodes decode v a) : (f.also (.defaulted key decode value)).Reads es (g a) :=
  h.also (field hentry (entry hd))

/-- A field that is written only when it has a value. -/
theorem field_of_optional {decodeEntry decodeItem : Decoder Json (Option α)}
    {unplaced : Except Cause (Option α)} {value : Option α} {encode : α → Json}
    (hentry : under key es = Json.optional key (value.map encode))
    (hd : ∀ a, Decodes decodeEntry (encode a) (some a)) :
    (Fields.field key decodeEntry decodeItem (.ok none) unplaced).Reads es value := by
  cases value with
  | none =>
    intro _
    simp only [Fields.field, occurrences_of_filter_eq_nil hentry, Except.mapError]
  | some a => exact field hentry (hd a)

theorem possible {f : Fields Json (Option α → β)} {g : Option α → β} {value : Option α}
    {encode : α → Json} (h : f.Reads es g)
    (hentry : under key es = Json.optional key (value.map encode))
    (hnull : ∀ a, (encode a).isNull = false) (hd : ∀ a, Decodes decode (encode a) a) :
    (f.also (.possible key decode)).Reads es (g value) := by
  refine h.also (field_of_optional hentry fun a hw => ?_)
  have habsent : Format.isAbsent (encode a) = .ok false := congrArg Except.ok (hnull a)
  rw [optionalEntry, habsent, entry (hd a) hw]
  rfl

theorem omitted {f : Fields Json (Option α → β)} {g : Option α → β} {value : Option α}
    {encode : α → Json} (h : f.Reads es g)
    (hentry : under key es = Json.optional key (value.map encode))
    (hnull : ∀ a, (encode a).isNull = false) (hd : ∀ a, Decodes decode (encode a) a) :
    (f.also (.defaulted key (Document.optional decode) none)).Reads es (g value) :=
  h.also (field_of_optional hentry fun a => entry (Decodes.optional (hd a) (hnull a)))

/-! ### Whole records -/

theorem decodes {f : Fields Json α} (h : f.Reads es a) : Decodes f.read (.obj es) a := by
  intro hw
  cases hw with
  | obj hw =>
    show f.readParts (.named es none) = _
    simp only [readParts, h hw]

/-- A record behind its tag, however the tag is read. -/
theorem decodes_taggedBy {f : Fields Json α} (h : f.Reads es a) {tag name : String}
    {unplaced : Cause} {named placed : Decoder Json (Fields Json α)} (htag : under tag es = [])
    (hname : named (.str name) = .ok f) :
    Decodes (taggedBy tag unplaced named placed) (.obj ((tag, .str name) :: es)) a := by
  intro hw
  cases hw with
  | obj hw =>
    have hrest : ∀ e ∈ es, e.2.Writable := fun e he => hw e (List.mem_cons_of_mem _ he)
    have hunder : under tag ((tag, Json.str name) :: es) = [(tag, .str name)] := by
      rw [under_cons, if_pos (beq_self_eq_true tag), htag]
    obtain ⟨i, htags⟩ := exists_occurrences hunder
    have hothers : ((tag, Json.str name) :: es).filter (·.1 != tag) = es := by
      rw [List.filter_cons_of_neg (by simp), List.filter_eq_self]
      rw [under, List.filter_eq_nil_iff] at htag
      exact fun e he => bne_iff_ne.mpr fun heq => htag e he (beq_iff_eq.mpr heq)
    have hparts : Format.parts (Json.obj ((tag, .str name) :: es)) =
        .ok (.named ((tag, .str name) :: es) none) := rfl
    simp only [taggedBy, hparts, htags, hname, hothers, readParts, h hrest]

theorem decodes_tagged {f : Fields Json α} (h : f.Reads es a) {tag name : String}
    {variants : List (String × Fields Json α)} (htag : under tag es = [])
    (hname : variants.find? (·.1 == name) = some (name, f)) :
    Decodes (tagged tag variants) (.obj ((tag, .str name) :: es)) a := by
  have hvariant : variant? variants (Json.str name) = .ok f := by
    simp only [variant?, Decodes.text name (.str name), hname]
  exact h.decodes_taggedBy htag hvariant

end Reads
end Document.Fields
end Motif
