import Mathlib
import Motif.Novelty.Rules
import Motif.Proofs.CodeSets
import Motif.Proofs.Regex.Search
import Motif.Proofs.Stops

/-!
Arms that construct.  The check for switch factories counts the arms and the constructions of a text
and tells the second number as that of the instantiating arms.  Cut at its arm markers, a text has
just the constructions of its pieces, so the number told is right if and only if nothing is
constructed before the first arm and no arm constructs twice.
-/

namespace Motif
namespace Rule

open Text Regex

/-! ## Constructions -/

/-- A word as it occurs in constructions, where no word begins like an arm marker does. -/
structure IsWord (w : List Char) : Prop where
  ne_nil : w ≠ []
  isWordChar : ∀ c ∈ w, isWordChar c = true
  head : w.head? ≠ some 'c'

def IsTypeName (name : List Char) : Prop :=
  ∃ c rest, name = c :: rest ∧ isAsciiUpper c = true ∧ ∀ d ∈ rest, isWordChar d = true

/-- What parts the words of a construction: blanks or a path separator. -/
def IsJoint (joint : List Char) : Prop :=
  joint ≠ [] ∧ (∀ c ∈ joint, isBlank c = true) ∨ joint = [':', ':']

/-- The text of a construction, by the keyword or by a path. -/
inductive Constructs : List Char → Prop
  | keyword {joint name gap : List Char} (hne : joint ≠ []) (hjoint : ∀ c ∈ joint, isBlank c = true)
    (hname : IsTypeName name) (hgap : ∀ c ∈ gap, isBlank c = true) :
    Constructs (['n', 'e', 'w'] ++ (joint ++ (name ++ (gap ++ ['(']))))
  | path {name gap : List Char} (hname : IsTypeName name) (hgap : ∀ c ∈ gap, isBlank c = true) :
    Constructs (name ++ ([':', ':', 'n', 'e', 'w'] ++ (gap ++ ['('])))

variable {before after text first joint second gap : List Char}

theorem isWordChar_of_isAsciiUpper {c : Char} (h : isAsciiUpper c = true) :
    isWordChar c = true := by
  have hascii : isAscii c = true := by
    rw [isAsciiUpper, Char.isUpper, decide_eq_true_eq] at h
    have hle : c.toNat ≤ 90 := UInt32.le_iff_toNat_le.mp h.2
    exact decide_eq_true (by omega)
  have halpha : c.isAlphanum = true := by
    rw [isAsciiUpper] at h
    rw [Char.isAlphanum, Char.isAlpha, h]
    rfl
  exact isWordChar_of_isAlphanum hascii halpha

theorem IsTypeName.isWord {name : List Char} (h : IsTypeName name) : IsWord name := by
  obtain ⟨c, rest, rfl, hupper, hrest⟩ := h
  refine ⟨List.cons_ne_nil c rest,
    List.forall_mem_cons.mpr ⟨isWordChar_of_isAsciiUpper hupper, hrest⟩, ?_⟩
  rw [List.head?_cons]
  rintro heq
  obtain rfl := Option.some.inj heq
  exact absurd hupper (by decide)

theorem fits_typeName :
    (one isAsciiUpper ++ wordChars).Fits before text after ↔ IsTypeName text := by
  simp only [fits_append, fits_one, wordChars, fits_many, IsTypeName]
  constructor
  · rintro ⟨t, u, rfl, ⟨c, rfl, hc⟩, hu⟩
    exact ⟨c, u, rfl, hc, hu⟩
  · rintro ⟨c, rest, rfl, hc, hrest⟩
    exact ⟨[c], rest, rfl, ⟨c, rfl, hc⟩, hrest⟩

theorem fits_call : call.Fits before text after ↔
    ∃ gap, text = gap ++ ['('] ∧ ∀ c ∈ gap, isBlank c = true := by
  simp only [call, blanks, fits_append, fits_many, fits_char]
  constructor
  · rintro ⟨gap, u, rfl, hgap, rfl⟩
    exact ⟨gap, rfl, hgap⟩
  · rintro ⟨gap, rfl, hgap⟩
    exact ⟨gap, _, rfl, hgap, rfl⟩

theorem fits_someBlanks : someBlanks.Fits before text after ↔
    text ≠ [] ∧ ∀ c ∈ text, isBlank c = true := by
  simp only [someBlanks, blanks, fits_append, fits_one, fits_many]
  constructor
  · rintro ⟨t, u, rfl, ⟨c, rfl, hc⟩, hu⟩
    exact ⟨List.cons_ne_nil c u, List.forall_mem_cons.mpr ⟨hc, hu⟩⟩
  · rintro ⟨hne, hall⟩
    cases text with
    | nil => exact absurd rfl hne
    | cons c rest =>
      obtain ⟨hc, hrest⟩ := List.forall_mem_cons.mp hall
      exact ⟨[c], rest, rfl, ⟨c, rfl, hc⟩, hrest⟩

theorem isWordEdge_cons {c : Char} (hc : isWordChar c = true) (before rest : List Char) :
    (⟨before, c :: rest⟩ : Regex.Place).isWordEdge = !before.head?.any isWordChar := by
  rw [Regex.Place.isWordEdge, List.head?_cons, Option.any_some, hc]
  cases before.head?.any isWordChar <;> rfl

theorem isWordEdge_append {w : List Char} (hw : IsWord w) (before rest after : List Char) :
    (⟨before, w ++ rest ++ after⟩ : Regex.Place).isWordEdge = true ↔
      before.head?.any isWordChar = false := by
  obtain ⟨c, w, rfl⟩ := List.exists_cons_of_ne_nil hw.ne_nil
  have hword := hw.isWordChar c List.mem_cons_self
  rw [List.cons_append, List.cons_append, isWordEdge_cons hword, Bool.not_eq_true']

theorem isWord_new : IsWord ['n', 'e', 'w'] :=
  ⟨by decide, List.all_eq_true.mp (by decide), by decide⟩

/-- A construction stands behind something else than a character of a word. -/
theorem fits_instantiation :
    instantiation.Fits before text after ↔
      before.head?.any isWordChar = false ∧ Constructs text := by
  have hcapital (b t a : List Char) : (one isAsciiUpper ++ wordChars).Fits b t a ↔ IsTypeName t :=
    fits_typeName
  rw [instantiation]
  generalize one isAsciiUpper ++ wordChars = capital at hcapital ⊢
  simp only [fits_either, fits_append_assoc]
  simp only [fits_append, fits_wordEdge, fits_literal, hcapital, fits_someBlanks, fits_call]
  constructor
  · rintro (⟨_, _, rfl, ⟨rfl, hedge⟩, _, _, rfl, rfl, joint, _, rfl, ⟨hne, hjoint⟩, name, _, rfl,
      hname, gap, rfl, hgap⟩ |
      ⟨_, _, rfl, ⟨rfl, hedge⟩, name, _, rfl, hname, _, _, rfl, rfl, gap, rfl, hgap⟩)
    · exact ⟨(isWordEdge_append isWord_new _ _ _).mp hedge, .keyword hne hjoint hname hgap⟩
    · exact ⟨(isWordEdge_append hname.isWord _ _ _).mp hedge, .path hname hgap⟩
  · rintro ⟨hedge, h⟩
    cases h with
    | @keyword joint name gap hne hjoint hname hgap =>
      refine .inl ⟨[], _, rfl, ⟨rfl, ?_⟩, _, _, rfl, rfl, joint, _, rfl, ⟨hne, hjoint⟩, name, _,
        rfl, hname, gap, rfl, hgap⟩
      exact (isWordEdge_append isWord_new _ _ _).mpr hedge
    | @path name gap hname hgap =>
      refine .inr ⟨[], _, rfl, ⟨rfl, ?_⟩, name, _, rfl, hname, _, _, rfl, rfl, gap, rfl, hgap⟩
      exact (isWordEdge_append hname.isWord _ _ _).mpr hedge

/-! ## What a construction is made of -/

theorem IsJoint.not_isWordChar {joint : List Char} (h : IsJoint joint) :
    ∀ c ∈ joint, isWordChar c = false := by
  rcases h with ⟨-, hblank⟩ | rfl
  · exact fun c hc => isWordChar_of_isBlank (hblank c hc)
  · exact List.forall_mem_cons.mpr
      ⟨by decide, List.forall_mem_cons.mpr ⟨by decide, List.forall_mem_nil _⟩⟩

theorem IsJoint.ne_nil {joint : List Char} (h : IsJoint joint) : joint ≠ [] := by
  rcases h with ⟨hne, -⟩ | rfl
  · exact hne
  · exact List.cons_ne_nil _ _

theorem not_isWordChar_of_mem_gap {gap : List Char} (h : ∀ c ∈ gap, isBlank c = true) :
    ∀ c ∈ gap ++ ['('], isWordChar c = false := by
  intro c hc
  rcases List.mem_append.mp hc with hc | hc
  · exact isWordChar_of_isBlank (h c hc)
  · obtain rfl := List.mem_singleton.mp hc
    decide

/-- A construction in its parts: two words with a joint between them, and a parenthesis behind
blanks. -/
structure Parts (text first joint second gap : List Char) : Prop where
  isWord_first : IsWord first
  isJoint : IsJoint joint
  isWord_second : IsWord second
  isBlank_gap : ∀ c ∈ gap, isBlank c = true
  text_eq : text = first ++ (joint ++ (second ++ (gap ++ ['('])))

theorem Constructs.exists_parts (h : Constructs text) :
    ∃ first joint second gap, Parts text first joint second gap := by
  cases h with
  | keyword hne hjoint hname hgap =>
    exact ⟨_, _, _, _, isWord_new, .inl ⟨hne, hjoint⟩, hname.isWord, hgap, rfl⟩
  | path hname hgap => exact ⟨_, _, _, _, hname.isWord, .inr rfl, isWord_new, hgap, rfl⟩

theorem Constructs.head (h : Constructs text) :
    ∃ c rest, text = c :: rest ∧ isWordChar c = true ∧ c ≠ 'c' := by
  obtain ⟨first, joint, second, gap, hparts⟩ := h.exists_parts
  obtain ⟨c, rest, hfirst⟩ := List.exists_cons_of_ne_nil hparts.isWord_first.ne_nil
  have hword := hparts.isWord_first.isWordChar c (by rw [hfirst]; exact List.mem_cons_self)
  have hhead := hparts.isWord_first.head
  rw [hfirst] at hhead
  refine ⟨c, _, by rw [hparts.text_eq, hfirst]; rfl, hword, ?_⟩
  rintro rfl
  exact hhead rfl

theorem Constructs.not_mem_eq (h : Constructs text) : '=' ∉ text := by
  obtain ⟨first, joint, second, gap, hparts⟩ := h.exists_parts
  have hword {w : List Char} (hw : IsWord w) : '=' ∉ w := fun hin =>
    absurd (hw.isWordChar _ hin) (by decide)
  have hblank {s : List Char} (hs : ∀ c ∈ s, isBlank c = true) : '=' ∉ s := fun hin =>
    absurd (hs _ hin) (by decide)
  have hjoint : '=' ∉ joint := by
    rcases hparts.isJoint with ⟨-, hj⟩ | rfl
    · exact hblank hj
    · decide
  rw [hparts.text_eq]
  simp [hword hparts.isWord_first, hjoint, hword hparts.isWord_second, hblank hparts.isBlank_gap]

/-- A word that begins inside a construction is its second one. -/
theorem Constructs.second_of_edge {u v : List Char} (h : Constructs (u ++ v)) (hu : u ≠ [])
    (hedge : ∀ c ∈ u.getLast?, isWordChar c = false) (hv : ∃ c ∈ v.head?, isWordChar c = true) :
    ∃ second gap, v = second ++ (gap ++ ['(']) ∧ IsWord second ∧ ∀ c ∈ gap, isBlank c = true := by
  obtain ⟨first, joint, second, gap, hparts⟩ := h.exists_parts
  obtain ⟨d, hd, hword⟩ := hv
  have hends {w : List Char} (hsuffix : w <:+ u) (hne : w ≠ []) :
      ¬ ∀ c ∈ w, isWordChar c = true := by
    intro hw
    have hsame : u.getLast? = some (w.getLast hne) := by
      obtain ⟨t, rfl⟩ := hsuffix
      rw [List.getLast?_append_of_ne_nil _ hne, List.getLast?_eq_some_getLast hne]
    have hlast := hedge _ hsame
    rw [hw _ (List.getLast_mem hne)] at hlast
    cases hlast
  have hbegins {w : List Char} (hlead : w <+: v) (hne : w ≠ []) :
      ¬ ∀ c ∈ w, isWordChar c = false := by
    intro hw
    obtain ⟨c, rest, rfl⟩ := List.exists_cons_of_ne_nil hne
    obtain ⟨t, rfl⟩ := hlead
    obtain rfl := Option.some.inj hd
    rw [hw c List.mem_cons_self] at hword
    cases hword
  -- `v` begins in the first word, in the joint, in the second word or behind it
  rcases List.append_eq_append_iff.mp hparts.text_eq with ⟨w, rfl, -⟩ | ⟨w, rfl, hrest⟩
  · refine absurd (fun c hc => ?_) (hends List.suffix_rfl hu)
    exact hparts.isWord_first.isWordChar c (List.mem_append_left _ hc)
  rcases List.append_eq_append_iff.mp hrest with ⟨x, rfl, htail⟩ | ⟨x, rfl, rfl⟩
  · rcases List.append_eq_append_iff.mp htail with ⟨y, rfl, hend⟩ | ⟨y, rfl, rfl⟩
    · have hne : v ≠ [] := List.ne_nil_of_mem (List.mem_of_mem_head? hd)
      refine absurd (fun c hc => ?_) (hbegins List.prefix_rfl hne)
      exact not_isWordChar_of_mem_gap hparts.isBlank_gap c (hend ▸ List.mem_append_right _ hc)
    · cases x with
      | nil => exact ⟨y, gap, rfl, hparts.isWord_second, hparts.isBlank_gap⟩
      | cons c rest =>
        have hsuffix : c :: rest <:+ first ++ (joint ++ c :: rest) := ⟨first ++ joint, by simp⟩
        refine absurd (fun c hc => ?_) (hends hsuffix (List.cons_ne_nil c rest))
        exact hparts.isWord_second.isWordChar c (List.mem_append_left _ hc)
  · cases x with
    | nil => exact ⟨second, gap, rfl, hparts.isWord_second, hparts.isBlank_gap⟩
    | cons c rest =>
      refine absurd (fun c hc => ?_) (hbegins (List.prefix_append _ _) (List.cons_ne_nil c rest))
      exact hparts.isJoint.not_isWordChar c (List.mem_append_right _ hc)

/-- No construction begins with the second word of another. -/
theorem not_constructs_of_second {second gap t : List Char} (hsecond : IsWord second)
    (hgap : ∀ c ∈ gap, isBlank c = true) (rest rest' : List Char)
    (heq : second ++ (gap ++ '(' :: rest) = t ++ rest') : ¬ Constructs t := by
  intro h
  obtain ⟨first, joint, second', gap', hparts⟩ := h.exists_parts
  obtain ⟨c, word, rfl⟩ := List.exists_cons_of_ne_nil hparts.isWord_second.ne_nil
  have hword := hparts.isWord_second.isWordChar c List.mem_cons_self
  rw [hparts.text_eq] at heq
  simp only [List.append_assoc, List.cons_append, List.nil_append] at heq
  -- the first words agree, and then a parenthesis stands where the other construction goes on
  have hopen : Stops isWordChar (gap ++ '(' :: rest) := by
    intro d hd
    refine not_isWordChar_of_mem_gap hgap d (List.mem_of_mem_head? ?_)
    cases gap <;> exact hd
  have hjoint (s : List Char) : Stops isWordChar (joint ++ s) := by
    obtain ⟨e, joint', rfl⟩ := List.exists_cons_of_ne_nil hparts.isJoint.ne_nil
    exact stops_cons (hparts.isJoint.not_isWordChar e List.mem_cons_self) _
  obtain ⟨-, htail⟩ := append_inj_of_stops hsecond.isWordChar hparts.isWord_first.isWordChar hopen
    (hjoint _) heq
  rcases hparts.isJoint with ⟨-, hblank⟩ | rfl
  · have hparenthesis : Stops isBlank ('(' :: rest) := stops_cons (by decide) rest
    have hletter : isBlank c = false := by
      rw [← Bool.not_eq_true]
      intro hblank
      rw [isWordChar_of_isBlank hblank] at hword
      cases hword
    obtain ⟨-, hsame⟩ := append_inj_of_stops hgap hblank hparenthesis (stops_cons hletter _) htail
    obtain ⟨rfl, -⟩ := List.cons.inj hsame
    exact absurd hword (by decide)
  · cases gap with
    | nil => exact absurd (List.cons.inj htail).1 (by decide)
    | cons g gap =>
      obtain ⟨rfl, -⟩ := List.cons.inj htail
      exact absurd (hgap _ List.mem_cons_self) (by decide)

theorem ways_instantiation_eq_nil_iff {before ahead : List Char} :
    instantiation.ways ⟨before, ahead⟩ = [] ↔
      ¬ (before.head?.any isWordChar = false ∧ ∃ t, Constructs t ∧ t <+: ahead) := by
  rw [List.eq_nil_iff_forall_not_mem, ← not_exists, not_iff_not]
  constructor
  · rintro ⟨w, hw⟩
    obtain ⟨t, -, hahead, hfits⟩ := mem_ways_iff.mp hw
    obtain ⟨hbefore, hconstructs⟩ := fits_instantiation.mp hfits
    exact ⟨hbefore, t, hconstructs, w.ahead, hahead.symm⟩
  · rintro ⟨hbefore, t, hconstructs, after, rfl⟩
    exact ⟨_, fits_instantiation.mpr ⟨hbefore, hconstructs⟩⟩

theorem not_isWordChar_getLast {u : List Char}
    (h : (u.reverse ++ before).head?.any isWordChar = false) :
    ∀ c ∈ u.getLast?, isWordChar c = false := by
  intro c hc
  rw [← List.head?_reverse] at hc
  rwa [List.head?_append, hc, Option.some_or, Option.any_some] at h

theorem isSolitary_instantiation : instantiation.IsSolitary := by
  intro before text after hfits u v htext hu hv
  rw [ways_instantiation_eq_nil_iff]
  rintro ⟨hedge, t, ht, rest, hrest⟩
  obtain ⟨-, hconstructs⟩ := fits_instantiation.mp hfits
  subst htext
  have hlast := not_isWordChar_getLast hedge
  have hfirst : ∃ c ∈ v.head?, isWordChar c = true := by
    obtain ⟨c, s, rfl, hword, -⟩ := ht.head
    obtain ⟨d, v', rfl⟩ := List.exists_cons_of_ne_nil hv
    obtain ⟨rfl, -⟩ := List.cons.inj hrest
    exact ⟨_, rfl, hword⟩
  obtain ⟨second, gap, rfl, hsecond, hgap⟩ := hconstructs.second_of_edge hu hlast hfirst
  refine not_constructs_of_second hsecond hgap after rest ?_ ht
  rw [hrest]
  simp

/-! ## Seams -/

/-- A place where an arm may begin: at an arrow, or where a word begins like the keyword does. -/
def IsSeam (before after : List Char) : Prop :=
  after.head? = some '=' ∨ before.head?.any isWordChar = false ∧ after.head? = some 'c'

theorem IsSeam.of_append {u : List Char} (hseam : IsSeam (u ++ before) after) (hu : u ≠ []) :
    IsSeam u after := by
  obtain ⟨c, rest, rfl⟩ := List.exists_cons_of_ne_nil hu
  exact hseam

theorem IsSeam.not_constructs (hseam : IsSeam before after) {t : List Char} (ht : t <+: after) :
    ¬ Constructs t := by
  intro h
  obtain ⟨c, rest, rfl, hword, hne⟩ := h.head
  obtain ⟨w, rfl⟩ := ht
  rcases hseam with hhead | ⟨-, hhead⟩
  · obtain rfl := Option.some.inj hhead
    exact absurd hword (by decide)
  · exact hne (Option.some.inj hhead)

/-- No construction goes over a seam. -/
theorem IsSeam.not_constructs_append {u v : List Char} (hseam : IsSeam (u.reverse ++ before) after)
    (hu : u ≠ []) (hv : v ≠ []) (hlead : v <+: after) : ¬ Constructs (u ++ v) := by
  intro h
  obtain ⟨c, w, rfl⟩ := List.exists_cons_of_ne_nil hv
  have hsame : after.head? = some c := by
    obtain ⟨w', rfl⟩ := hlead
    rfl
  rw [IsSeam, hsame] at hseam
  rcases hseam with hhead | ⟨hedge, hhead⟩
  · obtain rfl := Option.some.inj hhead
    exact h.not_mem_eq (List.mem_append_right _ List.mem_cons_self)
  · obtain rfl := Option.some.inj hhead
    have hlast := not_isWordChar_getLast hedge
    obtain ⟨second, gap, heq, hsecond, -⟩ := h.second_of_edge hu hlast ⟨'c', rfl, by decide⟩
    refine hsecond.head ?_
    obtain ⟨d, rest, rfl⟩ := List.exists_cons_of_ne_nil hsecond.ne_nil
    rw [(List.cons.inj heq).1]
    rfl

/-- A place before a seam has a construction ahead if and only if one ends before the seam. -/
theorem IsSeam.ways_append {u : List Char} (hseam : IsSeam (u.reverse ++ before) after)
    (hu : u ≠ []) :
    instantiation.ways ⟨before, u ++ after⟩ = [] ↔ instantiation.ways ⟨before, u⟩ = [] := by
  rw [ways_instantiation_eq_nil_iff, ways_instantiation_eq_nil_iff, not_iff_not]
  refine and_congr_right fun _ => exists_congr fun t => and_congr_right fun ht => ?_
  refine ⟨fun hlead => ?_, fun hlead => hlead.trans (List.prefix_append u after)⟩
  obtain ⟨rest, hrest⟩ := hlead
  rcases List.append_eq_append_iff.mp hrest with ⟨w, rfl, -⟩ | ⟨w, rfl, hafter⟩
  · exact List.prefix_append t w
  · cases w with
    | nil => exact ⟨[], by rw [List.append_nil, List.append_nil]⟩
    | cons c w =>
      exact absurd ht (hseam.not_constructs_append hu (List.cons_ne_nil c w) ⟨rest, hafter.symm⟩)

theorem starts_nil (before : List Char) : instantiation.starts before [] = 0 := by
  have hnone : instantiation.ways ⟨before, []⟩ = [] := by
    rw [ways_instantiation_eq_nil_iff]
    rintro ⟨-, t, ht, hlead⟩
    obtain ⟨c, rest, rfl, -⟩ := ht.head
    exact List.cons_ne_nil c rest (List.prefix_nil.mp hlead)
  rw [starts, if_pos hnone]

theorem IsSeam.starts_append {u : List Char} (hseam : IsSeam (u.reverse ++ before) after) :
    instantiation.starts before (u ++ after) =
      instantiation.starts before u + instantiation.starts (u.reverse ++ before) after := by
  induction u generalizing before with
  | nil =>
    rw [starts_nil, Nat.zero_add]
    rfl
  | cons c rest ih =>
    have hways := hseam.ways_append (List.cons_ne_nil c rest)
    rw [List.reverse_cons, List.append_assoc, List.singleton_append] at hseam ⊢
    have hrest := ih hseam
    rw [List.cons_append] at hways ⊢
    rw [starts, starts, hrest, ← Nat.add_assoc]
    simp only [hways]

/-- The places behind a first one look back no further than to it. -/
theorem starts_cons_congr (c : Char) (before before' : List Char) (ahead : List Char) :
    instantiation.starts (c :: before) ahead = instantiation.starts (c :: before') ahead := by
  have hways (c : Char) (before before' rest : List Char) :
      instantiation.ways ⟨c :: before, rest⟩ = [] ↔
        instantiation.ways ⟨c :: before', rest⟩ = [] := by
    rw [ways_instantiation_eq_nil_iff, ways_instantiation_eq_nil_iff]
    rfl
  induction ahead generalizing c before before' with
  | nil => rw [starts_nil, starts_nil]
  | cons d rest ih =>
    rw [starts, starts, ih d (c :: before) (c :: before')]
    simp only [hways c before before']

/-- The constructions behind a seam are those of the text from there on. -/
theorem IsSeam.starts_eq (hseam : IsSeam before after) :
    instantiation.starts before after = instantiation.starts [] after := by
  have hnone (before' : List Char) : instantiation.ways ⟨before', after⟩ = [] := by
    rw [ways_instantiation_eq_nil_iff]
    rintro ⟨-, t, ht, hlead⟩
    exact hseam.not_constructs hlead ht
  cases after with
  | nil => rw [starts_nil, starts_nil]
  | cons c rest =>
    rw [starts, starts, if_pos (hnone before), if_pos (hnone []), starts_cons_congr c before []]

theorem count_append {u v : List Char} (hseam : IsSeam u.reverse v) :
    instantiation.count (u ++ v) = instantiation.count u + instantiation.count v := by
  have hsplit : IsSeam (u.reverse ++ []) v := by rwa [List.append_nil]
  simp only [count_eq_starts isSolitary_instantiation]
  rw [hsplit.starts_append, List.append_nil, hseam.starts_eq]

theorem isSeam_of_fits_arm (h : arm.Fits before text after) :
    (text = ['c', 'a', 's', 'e'] ∨ text = ['=', '>']) ∧ IsSeam before (text ++ after) := by
  rw [arm, fits_either] at h
  rcases h with h | h
  · simp only [word, oneOf, fits_append, fits_wordEdge, fits_literal] at h
    obtain ⟨t, u, rfl, ⟨s, w, rfl, ⟨rfl, hedge⟩, rfl⟩, rfl, -⟩ := h
    refine ⟨.inl rfl, .inr ⟨?_, rfl⟩⟩
    have hword := isWordEdge_cons (by decide : isWordChar 'c' = true) before
      (['a', 's', 'e'] ++ ([] ++ after))
    rw [← Bool.not_eq_true']
    exact hword.symm.trans hedge
  · rw [fits_literal] at h
    subst h
    exact ⟨.inr rfl, .inl rfl⟩

theorem ne_nil_of_fits_arm (h : arm.Fits before text after) : text ≠ [] := by
  rcases (isSeam_of_fits_arm h).1 with rfl | rfl
  · exact List.cons_ne_nil _ _
  · exact List.cons_ne_nil _ _

end Rule

/-! ## A text in pieces -/

namespace Regex

/-- The pieces that begin with the given matches, each up to the next one. -/
def piecesAt : List Span → List (List Char)
  | [] => []
  | [m] => [m.text ++ m.after]
  | m :: n :: rest =>
    (m.text ++ m.after).take (n.before.length - m.before.length) :: piecesAt (n :: rest)

/-- The pieces of a text, cut where the matches begin. -/
def pieces (r : Regex) (text : List Char) : List (List Char) := piecesAt (r.findAll text)

/-- What stands before the first match. -/
def preamble (r : Regex) (text : List Char) : List Char :=
  ((r.findAll text).head?.map (·.before.reverse)).getD text

theorem piecesAt_cons_cons {m n : Span} (h : m.IsBefore n) (rest : List Span) :
    ∃ u, piecesAt (m :: n :: rest) = (m.text ++ u) :: piecesAt (n :: rest) ∧
      m.text ++ m.after = (m.text ++ u) ++ (n.text ++ n.after) ∧
      n.before = (m.text ++ u).reverse ++ m.before := by
  obtain ⟨u, hbefore, hafter⟩ := h
  have htext : m.text ++ m.after = (m.text ++ u) ++ (n.text ++ n.after) := by
    rw [hafter, List.append_assoc]
  refine ⟨u, ?_, htext, hbefore⟩
  have hlength : n.before.length - m.before.length = (m.text ++ u).length := by
    rw [hbefore, List.length_append, List.length_reverse, Nat.add_sub_cancel]
  rw [piecesAt, hlength, htext, List.take_left]

theorem length_piecesAt (spans : List Span) : (piecesAt spans).length = spans.length := by
  induction spans using piecesAt.induct with
  | case1 => rfl
  | case2 m => rfl
  | case3 m n rest ih =>
    rw [piecesAt, List.length_cons, ih]
    rfl

theorem length_pieces (r : Regex) (text : List Char) : (r.pieces text).length = r.count text :=
  length_piecesAt _

/-- The pieces begin with their matches. -/
theorem exists_span_of_mem_piecesAt {spans : List Span} (h : spans.Pairwise Span.IsBefore)
    {piece : List Char} (hpiece : piece ∈ piecesAt spans) : ∃ m ∈ spans, m.text <+: piece := by
  induction spans using piecesAt.induct with
  | case1 => exact absurd hpiece List.not_mem_nil
  | case2 m =>
    obtain rfl := List.mem_singleton.mp hpiece
    exact ⟨m, List.mem_cons_self, List.prefix_append _ _⟩
  | case3 m n rest ih =>
    obtain ⟨hfirst, hrest⟩ := List.pairwise_cons.mp h
    obtain ⟨u, hpieces, -, -⟩ := piecesAt_cons_cons (hfirst n List.mem_cons_self) rest
    rw [hpieces] at hpiece
    rcases List.mem_cons.mp hpiece with rfl | hpiece
    · exact ⟨m, List.mem_cons_self, List.prefix_append _ _⟩
    · obtain ⟨l, hl, hlead⟩ := ih hrest hpiece
      exact ⟨l, List.mem_cons_of_mem m hl, hlead⟩

theorem flatten_piecesAt {m : Span} {rest : List Span} (h : (m :: rest).Pairwise Span.IsBefore) :
    (piecesAt (m :: rest)).flatten = m.text ++ m.after := by
  induction rest generalizing m with
  | nil => exact List.append_nil _
  | cons n rest ih =>
    obtain ⟨hfirst, hrest⟩ := List.pairwise_cons.mp h
    obtain ⟨u, hpieces, htext, -⟩ := piecesAt_cons_cons (hfirst n List.mem_cons_self) rest
    rw [hpieces, List.flatten_cons, ih hrest, htext]

theorem preamble_append_pieces (r : Regex) (text : List Char) :
    r.preamble text ++ (r.pieces text).flatten = text := by
  rw [preamble, pieces]
  cases hspans : r.findAll text with
  | nil => exact List.append_nil text
  | cons m rest =>
    have hordered := pairwise_findAll r text
    rw [hspans] at hordered
    have hm : m ∈ r.findAll text := hspans ▸ List.mem_cons_self
    rw [flatten_piecesAt hordered]
    exact (fits_of_mem_findAll hm).1.symm

end Regex

namespace Rule

open Text Regex

theorem count_eq_sum_piecesAt {m : Span} {rest : List Span}
    (hordered : (m :: rest).Pairwise Span.IsBefore)
    (hfits : ∀ n ∈ m :: rest, arm.Fits n.before n.text n.after) :
    instantiation.count (m.text ++ m.after) =
      ((piecesAt (m :: rest)).map instantiation.count).sum := by
  induction rest generalizing m with
  | nil => rw [piecesAt, List.map_singleton, List.sum_singleton]
  | cons n rest ih =>
    obtain ⟨hfirst, hrest⟩ := List.pairwise_cons.mp hordered
    obtain ⟨hm, hothers⟩ := List.forall_mem_cons.mp hfits
    obtain ⟨u, hpieces, htext, hbefore⟩ := piecesAt_cons_cons (hfirst n List.mem_cons_self) rest
    -- the next arm begins behind a character of this one
    have hseam : IsSeam (m.text ++ u).reverse (n.text ++ n.after) := by
      have hnext := (isSeam_of_fits_arm (hothers n List.mem_cons_self)).2
      rw [hbefore] at hnext
      refine hnext.of_append fun hnil => ne_nil_of_fits_arm hm ?_
      exact (List.append_eq_nil_iff.mp (List.reverse_eq_nil_iff.mp hnil)).1
    rw [hpieces, htext, count_append hseam, ih hrest hothers, List.map_cons, List.sum_cons]

/-- A text has the constructions of its pieces. -/
theorem count_eq_preamble_add_sum (text : List Char) :
    instantiation.count text = instantiation.count (arm.preamble text) +
      ((arm.pieces text).map instantiation.count).sum := by
  rw [preamble, pieces]
  cases hspans : arm.findAll text with
  | nil => rfl
  | cons m rest =>
    have hordered := pairwise_findAll arm text
    rw [hspans] at hordered
    have hfits : ∀ n ∈ m :: rest, arm.Fits n.before n.text n.after := fun n hn =>
      (fits_of_mem_findAll (hspans ▸ hn)).2
    have hm : m ∈ arm.findAll text := hspans ▸ List.mem_cons_self
    have htext := (fits_of_mem_findAll hm).1
    have hseam : IsSeam m.before.reverse.reverse (m.text ++ m.after) := by
      rw [List.reverse_reverse]
      exact (isSeam_of_fits_arm (hfits m List.mem_cons_self)).2
    rw [← count_eq_sum_piecesAt hordered hfits]
    exact (congrArg instantiation.count htext).trans (count_append hseam)

theorem prefix_of_mem_pieces {text piece : List Char} (h : piece ∈ arm.pieces text) :
    ['c', 'a', 's', 'e'] <+: piece ∨ ['=', '>'] <+: piece := by
  obtain ⟨m, hm, hlead⟩ := exists_span_of_mem_piecesAt (pairwise_findAll arm text) h
  rcases (isSeam_of_fits_arm (fits_of_mem_findAll hm).2).1 with htext | htext
  · exact .inl (htext ▸ hlead)
  · exact .inr (htext ▸ hlead)

/-- Among pieces, as many construct as there are constructions if and only if none constructs
twice. -/
theorem countP_occursIn_le_sum (r : Regex) (pieces : List (List Char)) :
    pieces.countP r.occursIn ≤ (pieces.map r.count).sum ∧
      ((pieces.map r.count).sum = pieces.countP r.occursIn ↔ ∀ a ∈ pieces, r.count a ≤ 1) := by
  induction pieces with
  | nil => simp
  | cons a rest ih =>
    obtain ⟨hle, hsame⟩ := ih
    have hpos : 0 < r.count a ↔ r.occursIn a = true := count_pos_iff
    rw [List.map_cons, List.sum_cons, List.countP_cons, List.forall_mem_cons, ← hsame]
    cases hoccurs : r.occursIn a with
    | true =>
      have hcount : 0 < r.count a := hpos.mpr hoccurs
      rw [if_pos rfl]
      constructor <;> omega
    | false =>
      have hcount : ¬ 0 < r.count a := fun hlt => Bool.eq_false_iff.mp hoccurs (hpos.mp hlt)
      rw [if_neg Bool.false_ne_true]
      constructor <;> omega

/-- The check for switch factories fires on two arms and two constructions from the dispatch on,
those of the text before the first arm among them, and it tells their number.  No fewer are told
than there are arms that construct, and just as many if and only if nothing is constructed before
the first arm and no arm constructs twice. -/
theorem instantiating_arms_are_constructions (v : View) (evidence : List String) :
    let constructions (tail : List Char) := instantiation.count (arm.preamble tail) +
      ((arm.pieces tail).map instantiation.count).sum
    (switchFactory v = some evidence ↔
      ∃ m, dispatch.find? v.code = some m ∧
        let tail := m.text ++ m.after
        2 ≤ (arm.pieces tail).length ∧ 2 ≤ constructions tail ∧
          evidence = [String.ofList m.text ++ " dispatch",
            toString (arm.pieces tail).length ++ " arms",
            toString (constructions tail) ++ " instantiating arms"]) ∧
    ∀ tail : List Char,
      let arms := arm.pieces tail
      let instantiating := arms.countP instantiation.occursIn
      arm.preamble tail ++ arms.flatten = tail ∧
      (∀ a ∈ arms, ['c', 'a', 's', 'e'] <+: a ∨ ['=', '>'] <+: a) ∧
      instantiating ≤ constructions tail ∧
      (constructions tail = instantiating ↔
        instantiation.count (arm.preamble tail) = 0 ∧ ∀ a ∈ arms, instantiation.count a ≤ 1) := by
  intro constructions
  have hcount (tail : List Char) : instantiation.count tail = constructions tail :=
    count_eq_preamble_add_sum tail
  refine ⟨?_, fun tail => ?_⟩
  · rw [switchFactory, Option.bind_eq_some_iff]
    refine exists_congr fun m => and_congr_right fun _ => ?_
    simp only [hcount, length_pieces]
    split
    · next hfires =>
      rw [Option.some_inj, eq_comm]
      exact ⟨fun heq => ⟨hfires.1, hfires.2, heq⟩, fun h => h.2.2⟩
    · next hfires => exact ⟨fun h => absurd h (by simp), fun h => absurd ⟨h.1, h.2.1⟩ hfires⟩
  · intro arms instantiating
    obtain ⟨hle, hsame⟩ := countP_occursIn_le_sum instantiation arms
    have htotal : constructions tail = instantiation.count (arm.preamble tail) +
      (arms.map instantiation.count).sum := rfl
    refine ⟨preamble_append_pieces arm tail, fun a ha => prefix_of_mem_pieces ha, ?_, ?_⟩
    · rw [htotal]
      exact Nat.le_add_left_of_le hle
    · rw [htotal, ← hsame]
      omega

/-- One arm constructs twice and the other not at all. -/
theorem nested_construction_counts_as_arm :
    let f : Fragment := { (default : Fragment) with
      code := "switch (k) \x7b case 1: return new A(new B()); case 2: return null; \x7d" }
    let v := View.ofFragment f
    switchFactory v = some ["switch dispatch", "2 arms", "2 instantiating arms"] ∧
      ((dispatch.find? v.code).map fun m =>
        (arm.pieces (m.text ++ m.after)).countP instantiation.occursIn) = some 1 := by
  decide +kernel

end Rule
end Motif
