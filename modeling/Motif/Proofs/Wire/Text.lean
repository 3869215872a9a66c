import Mathlib.Data.List.Intervals
import Motif.Proofs.Wire.Numerals
import Motif.Proofs.Wire.Records

/-!
JSON text read back.
-/

namespace Motif
namespace Json

/-! ## White space -/

/-- White space and nothing else. -/
def AllSpace (s : List Char) : Prop := ∀ c ∈ s, isSpace c = true

theorem skipSpace_append {gap : List Char} (h : AllSpace gap) (s : List Char) :
    skipSpace (gap ++ s) = skipSpace s :=
  List.dropWhile_append_of_pos h

theorem skipSpace_cons {c : Char} (h : isSpace c = false) (s : List Char) :
    skipSpace (c :: s) = c :: s :=
  List.dropWhile_cons_of_neg (by simp [h])

/-! ## Strings -/

theorem string?_plain {fuel : Nat} {c : Char} (hquote : c ≠ '"') (hescape : c ≠ '\\')
    (hcontrol : ¬c.toNat < 32) (acc rest : List Char) :
    string? (fuel + 1) acc (c :: rest) = string? fuel (c :: acc) rest := by
  rw [string?.eq_def]
  simp only [if_neg hquote, if_neg hescape, if_neg hcontrol]

theorem string?_simple {fuel : Nat} {e d : Char} (hunit : e ≠ 'u') (h : simpleEscape? e = some d)
    (acc rest : List Char) :
    string? (fuel + 1) acc ('\\' :: e :: rest) = string? fuel (d :: acc) rest := by
  rw [string?.eq_def]
  simp only [if_neg (show '\\' ≠ '"' by decide), if_true]
  split
  · next hd =>
    rw [h, Option.some.injEq] at hd
    rw [hd]
  · next hnone => exact absurd (h.symm.trans hnone) (Option.some_ne_none d)

theorem escapedUnit?_control {n : Nat} (h : n < 32) (rest : List Char) :
    escapedUnit? ('0' :: '0' :: hexDigit (n / 16) :: hexDigit (n % 16) :: rest) =
      some (Char.ofNat n, rest) := by
  have hdigits : ∀ n < 32,
      Decimal.natOfDigits? 16 ['0', '0', hexDigit (n / 16), hexDigit (n % 16)] = some n := by
    decide
  have hhex : hex4? ('0' :: '0' :: hexDigit (n / 16) :: hexDigit (n % 16) :: rest) =
      some (n, rest) := by
    rw [hex4?, hdigits n h]
    rfl
  rw [escapedUnit?, hhex]
  simp only
  rw [if_neg (by omega), if_neg (by omega)]

theorem string?_escapeChar (fuel : Nat) (c : Char) (acc rest : List Char) :
    string? (fuel + 1) acc ((escapeChar c).toList ++ rest) = string? fuel (c :: acc) rest := by
  rw [escapeChar]
  by_cases hquote : c = '"'
  · rw [if_pos hquote, hquote]
    exact string?_simple (by decide) rfl acc rest
  by_cases hescape : c = '\\'
  · rw [if_neg hquote, if_pos hescape, hescape]
    exact string?_simple (by decide) rfl acc rest
  by_cases hline : c = '\n'
  · rw [if_neg hquote, if_neg hescape, if_pos hline, hline]
    exact string?_simple (by decide) rfl acc rest
  by_cases hreturn : c = '\r'
  · rw [if_neg hquote, if_neg hescape, if_neg hline, if_pos hreturn, hreturn]
    exact string?_simple (by decide) rfl acc rest
  by_cases htab : c = '\t'
  · rw [if_neg hquote, if_neg hescape, if_neg hline, if_neg hreturn, if_pos htab, htab]
    exact string?_simple (by decide) rfl acc rest
  rw [if_neg hquote, if_neg hescape, if_neg hline, if_neg hreturn, if_neg htab]
  by_cases hback : c.toNat = 8
  · have hc : c = Char.ofNat 8 := by rw [← hback, Char.ofNat_toNat]
    rw [if_pos hback, hc]
    exact string?_simple (by decide) rfl acc rest
  by_cases hfeed : c.toNat = 12
  · have hc : c = Char.ofNat 12 := by rw [← hfeed, Char.ofNat_toNat]
    rw [if_neg hback, if_pos hfeed, hc]
    exact string?_simple (by decide) rfl acc rest
  rw [if_neg hback, if_neg hfeed]
  by_cases hcontrol : c.toNat < 32
  · rw [if_pos hcontrol]
    simp only [String.toList_append, String.toList_ofList]
    show string? (fuel + 1) acc ('\\' :: 'u' :: ('0' :: '0' :: hexDigit (c.toNat / 16) ::
      hexDigit (c.toNat % 16) :: rest)) = _
    rw [string?.eq_def]
    simp only [if_neg (show '\\' ≠ '"' by decide), if_true, escapedUnit?_control hcontrol,
      Char.ofNat_toNat]
  · rw [if_neg hcontrol, String.toList_singleton]
    exact string?_plain hquote hescape hcontrol acc rest

def escaped (s : List Char) : List Char := s.flatMap fun c => (escapeChar c).toList

theorem toList_quoted (s : String) : (quoted s).toList = '"' :: (escaped s.toList ++ ['"']) := by
  have hfold (cs : List Char) (acc : String) :
      (cs.foldl (fun acc c => acc ++ escapeChar c) acc).toList = acc.toList ++ escaped cs := by
    induction cs generalizing acc with
    | nil => exact (List.append_nil _).symm
    | cons c rest ih =>
      rw [List.foldl_cons, ih, String.toList_append, List.append_assoc]
      rfl
  rw [quoted, String.toList_append, hfold]
  rfl

theorem string?_escaped {fuel : Nat} {s : List Char} (h : s.length < fuel) (acc rest : List Char) :
    string? fuel acc (escaped s ++ '"' :: rest) =
      some (String.ofList (acc.reverse ++ s), rest) := by
  induction s generalizing fuel acc with
  | nil =>
    obtain ⟨fuel, rfl⟩ := Nat.exists_eq_succ_of_ne_zero (Nat.ne_of_gt h)
    rw [List.append_nil]
    exact if_pos rfl
  | cons c s ih =>
    obtain ⟨fuel, rfl⟩ := Nat.exists_eq_succ_of_ne_zero (Nat.ne_zero_of_lt h)
    have hrest : escaped (c :: s) ++ '"' :: rest =
        (escapeChar c).toList ++ (escaped s ++ '"' :: rest) := by
      rw [escaped, List.flatMap_cons, List.append_assoc]
      rfl
    rw [hrest, string?_escapeChar, ih (Nat.lt_of_succ_lt_succ h), List.reverse_cons,
      List.append_assoc]
    rfl

theorem length_le_escaped (s : List Char) : s.length ≤ (escaped s).length := by
  induction s with
  | nil => exact Nat.le_refl 0
  | cons c s ih =>
    have hchar : 0 < (escapeChar c).toList.length := by
      rw [escapeChar]
      split_ifs <;> simp
    rw [escaped, List.flatMap_cons, List.length_append, List.length_cons]
    exact (Nat.add_comm _ _).trans_le (Nat.add_le_add hchar ih)

theorem string?_quoted {s : List Char} {rest : List Char} :
    string? ((escaped s ++ '"' :: rest).length + 1) [] (escaped s ++ '"' :: rest) =
      some (String.ofList s, rest) := by
  refine string?_escaped ?_ [] rest
  have hle := length_le_escaped s
  rw [List.length_append]
  omega

/-! ## Numerals -/

theorem isNumberChar_of_isSpace {c : Char} (h : isSpace c = true) : isNumberChar c = false := by
  simp only [isSpace, Bool.or_eq_true, beq_iff_eq] at h
  rcases h with ((rfl | rfl) | rfl) | rfl <;> decide

theorem isSpace_of_isNumberChar {c : Char} (h : isNumberChar c = true) : isSpace c = false := by
  by_contra hspace
  rw [isNumberChar_of_isSpace (Bool.of_not_eq_false hspace)] at h
  exact Bool.false_ne_true h

theorem value?_numeral {s rest : List Char} {v : Json} (h : Numeral s v)
    (hrest : Stops isNumberChar rest) (fuel : Nat) :
    value? (fuel + 1) (s ++ rest) = some (v, rest) := by
  have htake := takeWhile_append_of_stops h.chars hrest
  have hdrop := dropWhile_append_of_stops h.chars hrest
  obtain ⟨c, t, rfl⟩ := List.exists_cons_of_ne_nil h.nonempty
  have hc : isNumberChar c = true := h.chars c List.mem_cons_self
  -- no other value starts with a character of a numeral
  have hother {d : Char} {u : List Char} (heq : c :: (t ++ rest) = d :: u)
      (hd : isNumberChar d = false) : False := by
    obtain ⟨rfl, -⟩ := List.cons.inj heq
    exact Bool.false_ne_true (hd.symm.trans hc)
  rw [value?.eq_def]
  simp only
  rw [List.cons_append, skipSpace_cons (isSpace_of_isNumberChar hc)]
  split
  case h_8 =>
    rw [← List.cons_append, htake, hdrop, h.read]
    rfl
  case h_1 heq => cases heq
  all_goals next heq => exact (hother heq (by decide)).elim

/-! ## Layout -/

/-- What stands between the parts of a list at `level`, beside a comma. -/
def lineBreak : Option Nat → List Char
  | none => []
  | some n => '\n' :: List.replicate (2 * n) ' '

theorem allSpace_lineBreak (level : Option Nat) : AllSpace (lineBreak level) := by
  intro c hc
  cases level with
  | none => cases hc
  | some n =>
    rcases List.mem_cons.mp hc with rfl | hc
    · rfl
    · rw [List.eq_of_mem_replicate hc]
      rfl

/-- The texts of the parts of a list, with what stands between them. -/
def joined (gap : List Char) (parts : List String) : List Char :=
  List.intercalate (',' :: gap) (parts.map String.toList)

theorem joined_cons_cons (gap : List Char) (part other : String) (parts : List String) :
    joined gap (part :: other :: parts) =
      part.toList ++ (',' :: (gap ++ joined gap (other :: parts))) := by
  rw [joined, List.map_cons, List.map_cons, List.intercalate_cons_cons, List.append_assoc]
  rfl

theorem toList_enclosed (first last : String) (level : Option Nat) (item : String)
    (items : List String) : (enclosed first last level (item :: items)).toList =
      first.toList ++ (lineBreak (level.map (· + 1)) ++
        (joined (lineBreak (level.map (· + 1))) (item :: items) ++
          (lineBreak level ++ last.toList))) := by
  cases level with
  | none =>
    simp only [enclosed, String.toList_append, String.toList_intercalate, List.append_assoc]
    rfl
  | some n =>
    simp only [enclosed, indentation, String.toList_append, String.toList_intercalate,
      String.toList_ofList, List.append_assoc]
    rfl

theorem value?_space {gap : List Char} (h : AllSpace gap) (fuel : Nat) (s : List Char) :
    value? fuel (gap ++ s) = value? fuel s := by
  cases fuel with
  | zero => rfl
  | succ fuel => rw [value?, value?, skipSpace_append h]

theorem items?_space {gap : List Char} (h : AllSpace gap) (fuel : Nat) (acc : List Json)
    (s : List Char) : items? fuel acc (gap ++ s) = items? fuel acc s := by
  cases fuel with
  | zero => rfl
  | succ fuel => rw [items?, items?, value?_space h]

theorem fields?_space {gap : List Char} (h : AllSpace gap) (fuel : Nat)
    (acc : List (String × Json)) (s : List Char) :
    fields? fuel acc (gap ++ s) = fields? fuel acc s := by
  cases fuel with
  | zero => rfl
  | succ fuel => rw [fields?, fields?, skipSpace_append h]

/-! ## Values -/

/-- How a value starts. -/
def Opens (s : List Char) : Prop :=
  ∃ c t, s = c :: t ∧ isSpace c = false ∧ c ≠ ']' ∧ c ≠ '\x7d'

theorem Numeral.opens {s : List Char} {v : Json} (h : Numeral s v) : Opens s := by
  obtain ⟨c, t, rfl⟩ := List.exists_cons_of_ne_nil h.nonempty
  have hc : isNumberChar c = true := h.chars c List.mem_cons_self
  exact ⟨c, t, rfl, isSpace_of_isNumberChar hc, fun heq => absurd (heq ▸ hc) (by decide),
    fun heq => absurd (heq ▸ hc) (by decide)⟩

theorem enclosed_opens {first : Char} (h : isSpace first = false ∧ first ≠ ']' ∧ first ≠ '\x7d')
    (last : String) (level : Option Nat) (items : List String) :
    Opens (enclosed (String.singleton first) last level items).toList := by
  cases items with
  | nil =>
    rw [enclosed, String.toList_append, String.toList_singleton]
    exact ⟨first, _, rfl, h⟩
  | cons item items =>
    rw [toList_enclosed, String.toList_singleton]
    exact ⟨first, _, rfl, h⟩

/-- The text of a value, at any level, is read back as far as it goes. -/
structure ReadsBack (v : Json) : Prop where
  opens (level : Option Nat) : Opens (v.render level).toList
  value (level : Option Nat) {fuel : Nat} {rest : List Char}
    (hfuel : (v.render level).toList.length < fuel) (hrest : Stops isNumberChar rest) :
    value? fuel ((v.render level).toList ++ rest) = some (v, rest)

theorem readsBack_of_numeral {v : Json} (h : ∀ level, Numeral (v.render level).toList v) :
    ReadsBack v where
  opens level := (h level).opens
  value level fuel rest hfuel hrest := by
    obtain ⟨fuel, rfl⟩ := Nat.exists_eq_succ_of_ne_zero (Nat.ne_zero_of_lt hfuel)
    exact value?_numeral (h level) hrest fuel

theorem readsBack_str (s : String) : ReadsBack (.str s) where
  opens level := ⟨'"', _, toList_quoted s, by decide⟩
  value level fuel rest hfuel hrest := by
    obtain ⟨fuel, rfl⟩ := Nat.exists_eq_succ_of_ne_zero (Nat.ne_zero_of_lt hfuel)
    have hread : ((render level (.str s)).toList ++ rest) =
        '"' :: (escaped s.toList ++ '"' :: rest) := by
      rw [render, toList_quoted, List.cons_append, List.append_assoc]
      rfl
    rw [hread, value?, skipSpace_cons (by decide)]
    simp only [string?_quoted, Option.map_some, String.ofList_toList]

theorem stops_of_space {close : List Char} (h : AllSpace close) {rest : List Char}
    (hrest : Stops isNumberChar rest) : Stops isNumberChar (close ++ rest) := by
  cases close with
  | nil => exact hrest
  | cons c close => exact stops_cons (isNumberChar_of_isSpace (h c List.mem_cons_self)) _

theorem items?_render {items : List Json} (h : ∀ v ∈ items, ReadsBack v) (hne : items ≠ [])
    (level : Option Nat) {gap close : List Char} (hgap : AllSpace gap) (hclose : AllSpace close)
    {fuel : Nat} (hfuel : (joined gap (renderItems level items)).length + 1 < fuel)
    (acc : List Json) (rest : List Char) :
    items? fuel acc (joined gap (renderItems level items) ++ (close ++ ']' :: rest)) =
      some (.arr (acc.reverse ++ items), rest) := by
  induction items generalizing fuel acc with
  | nil => exact absurd rfl hne
  | cons v items ih =>
    obtain ⟨fuel, rfl⟩ := Nat.exists_eq_succ_of_ne_zero (Nat.ne_zero_of_lt hfuel)
    have hv := h v List.mem_cons_self
    cases items with
    | nil =>
      have hjoined : joined gap (renderItems level [v]) = (v.render level).toList :=
        List.intercalate_singleton
      rw [hjoined] at hfuel ⊢
      rw [items?, hv.value level (by omega) (stops_of_space hclose (stops_cons (by decide) rest))]
      simp only [skipSpace_append hclose, skipSpace_cons (show isSpace ']' = false by decide),
        List.reverse_cons]
    | cons w items =>
      have hjoined : joined gap (renderItems level (v :: w :: items)) = (v.render level).toList ++
          (',' :: (gap ++ joined gap (renderItems level (w :: items)))) :=
        joined_cons_cons _ _ _ _
      rw [hjoined, List.length_append, List.length_cons, List.length_append] at hfuel
      rw [hjoined, List.append_assoc, List.cons_append, List.append_assoc, items?,
        hv.value level (by omega) (stops_cons (by decide) _)]
      simp only [skipSpace_cons (show isSpace ',' = false by decide)]
      rw [items?_space hgap, ih (fun u hu => h u (List.mem_cons_of_mem v hu)) (List.cons_ne_nil _ _)
        (by omega), List.reverse_cons, List.append_assoc]
      rfl

theorem Opens.append {s : List Char} (h : Opens s) (t : List Char) : Opens (s ++ t) := by
  obtain ⟨c, u, rfl, hc⟩ := h
  exact ⟨c, u ++ t, rfl, hc⟩

theorem joined_opens {part : String} (h : Opens part.toList) (gap : List Char)
    (parts : List String) : Opens (joined gap (part :: parts)) := by
  cases parts with
  | nil => rwa [joined, List.map_singleton, List.intercalate_singleton]
  | cons other parts =>
    rw [joined_cons_cons]
    exact h.append _

theorem value?_of_items {gap s rest : List Char} (hgap : AllSpace gap) (hs : Opens s) {fuel : Nat}
    {v : Json} (h : items? fuel [] s = some (v, rest)) :
    value? (fuel + 1) ('[' :: (gap ++ s)) = some (v, rest) := by
  obtain ⟨c, t, rfl, hspace, hc, -⟩ := hs
  rw [value?, skipSpace_cons (by decide)]
  simp only [skipSpace_append hgap, skipSpace_cons hspace]
  split
  · next heq => exact absurd (List.cons.inj heq).1 hc
  · exact h

theorem readsBack_arr {items : List Json} (h : ∀ v ∈ items, ReadsBack v) :
    ReadsBack (.arr items) where
  opens level := @enclosed_opens '[' (by decide) _ _ _
  value level fuel rest hfuel hrest := by
    obtain ⟨fuel, rfl⟩ := Nat.exists_eq_succ_of_ne_zero (Nat.ne_zero_of_lt hfuel)
    cases items with
    | nil =>
      rw [render, renderItems, enclosed]
      rfl
    | cons v items =>
      have hgap := allSpace_lineBreak (level.map (· + 1))
      have hread : (render level (.arr (v :: items))).toList =
          '[' :: (lineBreak (level.map (· + 1)) ++
            (joined (lineBreak (level.map (· + 1)))
                (renderItems (level.map (· + 1)) (v :: items)) ++
              (lineBreak level ++ [']']))) := by
        rw [render, renderItems, toList_enclosed]
        rfl
      rw [hread] at hfuel ⊢
      simp only [List.length_cons, List.length_append] at hfuel
      simp only [List.cons_append, List.append_assoc]
      refine value?_of_items hgap ?_ ?_
      · exact (joined_opens ((h v List.mem_cons_self).opens _) _ _).append _
      · exact items?_render h (List.cons_ne_nil _ _) _ hgap (allSpace_lineBreak level)
          (by omega) [] rest

/-- What stands between a key and its value, beside a colon. -/
def keyBreak (level : Option Nat) : List Char := if level.isSome then [' '] else []

theorem allSpace_keyBreak (level : Option Nat) : AllSpace (keyBreak level) := by
  intro c hc
  cases level with
  | none => cases hc
  | some n =>
    rw [List.mem_singleton.mp hc]
    rfl

theorem toList_field (level : Option Nat) (key : String) (v : Json) :
    (quoted key ++ (if level.isSome then ": " else ":") ++ v.render level).toList =
      '"' :: (escaped key.toList ++ '"' :: ':' :: (keyBreak level ++ (v.render level).toList)) := by
  have hcolon : (if level.isSome then ": " else ":").toList = ':' :: keyBreak level := by
    cases level with
    | none => rfl
    | some n =>
      rw [if_pos Option.isSome_some]
      rfl
  simp only [String.toList_append, toList_quoted, hcolon, List.append_assoc, List.cons_append]
  rfl

/-- What may stand behind a field: more fields, or the end of them. -/
def fieldsBehind? (fuel : Nat) (acc : List (String × Json)) (rest : List Char) :
    Option (Json × List Char) :=
  match skipSpace rest with
  | ',' :: rest => fields? fuel acc rest
  | '\x7d' :: rest => some (.obj acc.reverse, rest)
  | _ => none

theorem fields?_field {v : Json} (h : ReadsBack v) (key : String) (level : Option Nat) {fuel : Nat}
    (hfuel : (v.render level).toList.length < fuel) {rest : List Char}
    (hrest : Stops isNumberChar rest) (acc : List (String × Json)) :
    fields? (fuel + 1) acc ('"' :: (escaped key.toList ++
        '"' :: ':' :: (keyBreak level ++ ((v.render level).toList ++ rest)))) =
      fieldsBehind? fuel ((key, v) :: acc) rest := by
  rw [fields?, skipSpace_cons (by decide)]
  simp only [string?_quoted, String.ofList_toList,
    skipSpace_cons (show isSpace ':' = false by decide), value?_space (allSpace_keyBreak level),
    h.value level hfuel hrest]
  rfl

theorem fields?_render {fields : List (String × Json)} (h : ∀ e ∈ fields, ReadsBack e.2)
    (hne : fields ≠ []) (level : Option Nat) {gap close : List Char} (hgap : AllSpace gap)
    (hclose : AllSpace close) {fuel : Nat}
    (hfuel : (joined gap (renderFields level fields)).length + 1 < fuel)
    (acc : List (String × Json)) (rest : List Char) :
    fields? fuel acc (joined gap (renderFields level fields) ++ (close ++ '\x7d' :: rest)) =
      some (.obj (acc.reverse ++ fields), rest) := by
  induction fields generalizing fuel acc with
  | nil => exact absurd rfl hne
  | cons e fields ih =>
    obtain ⟨fuel, rfl⟩ := Nat.exists_eq_succ_of_ne_zero (Nat.ne_zero_of_lt hfuel)
    obtain ⟨key, v⟩ := e
    have hv : ReadsBack v := h (key, v) List.mem_cons_self
    cases fields with
    | nil =>
      have hjoined : joined gap (renderFields level [(key, v)]) = _ :=
        List.intercalate_singleton.trans (toList_field level key v)
      rw [hjoined] at hfuel ⊢
      simp only [List.length_cons, List.length_append] at hfuel
      simp only [List.cons_append, List.append_assoc]
      have hstops := stops_of_space hclose (stops_cons (c := '\x7d') (by decide) rest)
      rw [fields?_field hv key level (by omega) hstops, fieldsBehind?]
      simp only [skipSpace_append hclose, skipSpace_cons (show isSpace '\x7d' = false by decide),
        List.reverse_cons]
    | cons d fields =>
      have hjoined : joined gap (renderFields level ((key, v) :: d :: fields)) = _ ++
          (',' :: (gap ++ joined gap (renderFields level (d :: fields)))) :=
        (joined_cons_cons _ _ _ _).trans (congrArg (· ++ _) (toList_field level key v))
      rw [hjoined] at hfuel ⊢
      simp only [List.length_cons, List.length_append] at hfuel
      simp only [List.cons_append, List.append_assoc]
      rw [fields?_field hv key level (by omega) (stops_cons (by decide) _), fieldsBehind?]
      simp only [skipSpace_cons (show isSpace ',' = false by decide)]
      rw [fields?_space hgap, ih (fun u hu => h u (List.mem_cons_of_mem _ hu))
        (List.cons_ne_nil _ _) (by omega), List.reverse_cons, List.append_assoc]
      rfl

theorem value?_of_fields {gap s rest : List Char} (hgap : AllSpace gap) (hs : Opens s) {fuel : Nat}
    {v : Json} (h : fields? fuel [] s = some (v, rest)) :
    value? (fuel + 1) ('\x7b' :: (gap ++ s)) = some (v, rest) := by
  obtain ⟨c, t, rfl, hspace, -, hc⟩ := hs
  rw [value?, skipSpace_cons (by decide)]
  simp only [skipSpace_append hgap, skipSpace_cons hspace]
  split
  · next heq => exact absurd (List.cons.inj heq).1 hc
  · exact h

theorem readsBack_obj {fields : List (String × Json)} (h : ∀ e ∈ fields, ReadsBack e.2) :
    ReadsBack (.obj fields) where
  opens level := @enclosed_opens '\x7b' (by decide) _ _ _
  value level fuel rest hfuel hrest := by
    obtain ⟨fuel, rfl⟩ := Nat.exists_eq_succ_of_ne_zero (Nat.ne_zero_of_lt hfuel)
    cases fields with
    | nil =>
      rw [render, renderFields, enclosed]
      rfl
    | cons e fields =>
      have hgap := allSpace_lineBreak (level.map (· + 1))
      have hread : (render level (.obj (e :: fields))).toList =
          '\x7b' :: (lineBreak (level.map (· + 1)) ++
            (joined (lineBreak (level.map (· + 1)))
                (renderFields (level.map (· + 1)) (e :: fields)) ++
              (lineBreak level ++ ['\x7d']))) := by
        rw [render, renderFields, toList_enclosed]
        rfl
      rw [hread] at hfuel ⊢
      simp only [List.length_cons, List.length_append] at hfuel
      simp only [List.cons_append, List.append_assoc]
      refine value?_of_fields hgap ?_ ?_
      · exact (joined_opens ⟨'"', _, toList_field _ e.1 e.2, by decide⟩ _ _).append _
      · exact fields?_render h (List.cons_ne_nil _ _) _ hgap (allSpace_lineBreak level)
          (by omega) [] rest

theorem readsBack_null : ReadsBack .null where
  opens level := by
    rw [render]
    exact ⟨'n', ['u', 'l', 'l'], rfl, by decide⟩
  value level fuel rest hfuel _ := by
    obtain ⟨fuel, rfl⟩ := Nat.exists_eq_succ_of_ne_zero (Nat.ne_zero_of_lt hfuel)
    rw [render]
    rfl

theorem readsBack_bool (b : Bool) : ReadsBack (.bool b) where
  opens level := by
    rw [render]
    cases b with
    | false => exact ⟨'f', ['a', 'l', 's', 'e'], rfl, by decide⟩
    | true => exact ⟨'t', ['r', 'u', 'e'], rfl, by decide⟩
  value level fuel rest hfuel _ := by
    obtain ⟨fuel, rfl⟩ := Nat.exists_eq_succ_of_ne_zero (Nat.ne_zero_of_lt hfuel)
    rw [render]
    cases b <;> rfl

theorem Writable.readsBack {v : Json} (h : v.Writable) : ReadsBack v := by
  induction h with
  | null => exact readsBack_null
  | bool b => exact readsBack_bool b
  | int h h' => exact readsBack_of_numeral fun level => by rw [render]; exact numeral_int h h'
  | float h => exact readsBack_of_numeral fun level => by rw [render]; exact numeral_float h
  | str s => exact readsBack_str s
  | arr _ ih => exact readsBack_arr ih
  | obj _ ih => exact readsBack_obj ih

/-- The text of a value, on one line or indented, is read back as that value. -/
theorem parse?_render {v : Json} (h : v.Writable) (level : Option Nat) :
    parse? (v.render level) = some v := by
  have hread : value? (2 * (v.render level).toList.length + 2) ((v.render level).toList ++ []) =
      some (v, []) := h.readsBack.value level (by omega) stops_nil
  rw [List.append_nil] at hread
  rw [parse?, hread]
  rfl

end Json
end Motif
