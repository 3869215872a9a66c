import Mathlib.Data.List.Induction
import Motif.Lexical.Prediction
import Motif.Proofs.Double.Sum
import Motif.Sequence

/-!
Both keyword voters choose the same topic.  One runs through the profiles that have hits and keeps
the leader unless it is passed, the other counts up what has to be beaten.  Each is a series of
challenges, and these leave the first of those with most votes, or nobody where there are no votes.
-/

namespace Motif
namespace Lexical

open Double

/-! ## Challenges -/

section

variable {α β : Type} {votes : α → ℕ} {leader : Option α} {xs : List α} {x : α}

/-- Who leads after one more candidate, who has to have more votes than the leader so far. -/
def challenge (votes : α → ℕ) (leader : Option α) (x : α) : Option α :=
  if leader.elim 0 votes < votes x then some x else leader

/-- Who leads after all of them, one after the other. -/
def winner (votes : α → ℕ) (xs : List α) : Option α := xs.foldl (challenge votes) none

/-- Nobody where there are no votes, else the first of those with most votes. -/
def IsWinner (votes : α → ℕ) (xs : List α) : Option α → Prop
  | none => ∀ x ∈ xs, votes x = 0
  | some x => Sequence.IsFirstGreatest votes xs x ∧ 0 < votes x

theorem challenge_of_lt (h : leader.elim 0 votes < votes x) :
    challenge votes leader x = some x := if_pos h

theorem challenge_of_le (h : votes x ≤ leader.elim 0 votes) :
    challenge votes leader x = leader := if_neg (Nat.not_lt.mpr h)

theorem IsWinner.challenge (h : IsWinner votes xs leader) (x : α) :
    IsWinner votes (xs ++ [x]) (challenge votes leader x) := by
  rcases Nat.lt_or_ge (leader.elim 0 votes) (votes x) with hmore | hmore
  · rw [challenge_of_lt hmore]
    refine ⟨.of_lt fun y hy => ?_, Nat.zero_lt_of_lt hmore⟩
    cases leader with
    | none => exact (h y hy).trans_lt hmore
    | some l => exact (h.1.le Nat.le_of_lt le_rfl hy).trans_lt hmore
  · rw [challenge_of_le hmore]
    cases leader with
    | none =>
      intro y hy
      rcases List.mem_append.mp hy with hy | hy
      · exact h y hy
      · rw [List.mem_singleton.mp hy]
        exact Nat.le_zero.mp hmore
    | some l => exact ⟨h.1.concat hmore, h.2⟩

theorem isWinner_winner (votes : α → ℕ) (xs : List α) : IsWinner votes xs (winner votes xs) := by
  induction xs using List.reverseRecOn with
  | nil => exact fun _ hx => absurd hx List.not_mem_nil
  | append_singleton xs x ih =>
    rw [winner, List.foldl_append]
    exact ih.challenge x

theorem winner_map (votes : β → ℕ) (f : α → β) (xs : List α) :
    winner votes (xs.map f) = (winner (fun x => votes (f x)) xs).map f := by
  have hstep (leader : Option α) (x : α) : challenge votes (leader.map f) (f x) =
      (challenge (fun x => votes (f x)) leader x).map f := by
    have hvotes : (leader.map f).elim 0 votes = leader.elim 0 fun x => votes (f x) := by
      cases leader <;> rfl
    rw [challenge, challenge, hvotes, apply_ite (Option.map f), Option.map_some]
  rw [winner, List.foldl_map]
  show xs.foldl (fun leader x => challenge votes leader (f x)) (Option.map f none) = _
  exact List.foldl_hom (Option.map f) hstep

end

/-! ## The two voters -/

namespace Profile

variable (text : List Char)

def votes (p : Profile) : ℕ := hits text p.keywords

def counted (p : Profile) : Profile × ℕ := (p, p.votes text)

/-- A profile without hits is passed over, and would not have passed anyone. -/
theorem lead_counted (best : Option Profile) (p : Profile) :
    (if 0 < p.votes text then lead (best.map (counted text)) (p.counted text)
      else best.map (counted text)) = (challenge (votes text) best p).map (counted text) := by
  rcases Nat.lt_or_ge (best.elim 0 (votes text)) (p.votes text) with hmore | hmore
  · rw [challenge_of_lt hmore, if_pos (Nat.zero_lt_of_lt hmore)]
    cases best with
    | none => rfl
    | some b => exact if_neg (Nat.not_le.mpr hmore)
  · rw [challenge_of_le hmore]
    split
    · next hvotes =>
      cases best with
      | none => exact absurd hvotes (Nat.not_lt.mpr hmore)
      | some b => exact if_pos hmore
    · rfl

theorem leader_eq (profiles : List Profile) :
    leader profiles text = (winner (votes text) profiles).map (counted text) := by
  have hread : leader profiles text = profiles.foldl
      (fun best p => if 0 < p.votes text then lead best (p.counted text) else best)
      (Option.map (counted text) none) := by
    rw [leader, List.foldl_filter, List.foldl_map]
    simp only [decide_eq_true_iff]
    rfl
  rw [hread]
  exact List.foldl_hom (Option.map (counted text)) (lead_counted text)

end Profile

namespace Label

variable (text : List Char)

def votes (l : Label) : ℕ := hits text l.keywords

/-- What has to be beaten are the votes of the label elected so far. -/
theorem elect_eq (elected : Option Label) (labels : List Label) :
    elect text (elected.elim 0 (votes text)) elected labels =
      (labels.foldl (challenge (votes text)) elected).map fun l => (l, l.votes text) := by
  induction labels generalizing elected with
  | nil => cases elected <;> rfl
  | cons l rest ih =>
    rw [elect, List.foldl_cons, ← ih]
    rcases Nat.lt_or_ge (elected.elim 0 (votes text)) (l.votes text) with hmore | hmore
    · rw [challenge_of_lt hmore]
      exact if_pos hmore
    · rw [challenge_of_le hmore]
      exact if_neg (Nat.not_lt.mpr hmore)

end Label

/-! ## One table for both -/

/-- A row of a table: what its keywords, as they are written, speak for. -/
structure Topic where
  name : String
  description : String
  keywords : List String

namespace Topic

def profile (t : Topic) : Profile := Profile.make t.name t.description t.keywords

def label (t : Topic) : Label := Label.make t.name t.keywords

/-- Whether a keyword occurs in a code, both in lower case. -/
def Occurs (code keyword : String) : Prop :=
  Text.lower keyword.toList <:+: Text.lower code.toList

instance (code : String) : DecidablePred (Occurs code) := fun keyword =>
  inferInstanceAs (Decidable (Text.lower keyword.toList <:+: Text.lower code.toList))

/-- How many of the keywords occur. -/
def votes (code : String) (t : Topic) : ℕ := t.keywords.countP (Occurs code)

variable (code : String) (table : List Topic)

theorem votes_eq_zero_iff {code : String} {t : Topic} :
    t.votes code = 0 ↔ ∀ k ∈ t.keywords, ¬Occurs code k := by
  rw [votes, List.countP_eq_zero]
  simp only [decide_eq_true_iff]

theorem votes_le_length (t : Topic) : t.votes code ≤ t.keywords.length := List.countP_le_length

theorem hits_lowered (keywords : List String) :
    hits (Text.lower code.toList) (keywords.map lowered) = keywords.countP (Occurs code) := by
  rw [hits, ← List.countP_eq_length_filter, List.countP_map]
  refine List.countP_congr fun k _ => ?_
  rw [Function.comp_apply, lowered, String.toList_ofList, Text.includes_iff, decide_eq_true_iff]
  rfl

theorem leader_profiles : Profile.leader (table.map profile) (Text.lower code.toList) =
    (winner (votes code) table).map fun t => (t.profile, t.votes code) := by
  have hvotes (t : Topic) : t.profile.votes (Text.lower code.toList) = t.votes code :=
    hits_lowered code t.keywords
  rw [Profile.leader_eq, winner_map, Option.map_map, funext hvotes]
  exact congrArg (Option.map · _) (funext fun t => congrArg (Prod.mk t.profile) (hvotes t))

theorem elect_labels : Label.elect (Text.lower code.toList) 0 none (table.map label) =
    (winner (votes code) table).map fun t => (t.label, t.votes code) := by
  have hvotes (t : Topic) : t.label.votes (Text.lower code.toList) = t.votes code :=
    hits_lowered code t.keywords
  have helect := Label.elect_eq (Text.lower code.toList) none (table.map label)
  rw [Option.elim_none] at helect
  rw [helect, ← winner, winner_map, Option.map_map, funext hvotes]
  exact congrArg (Option.map · _) (funext fun t => congrArg (Prod.mk t.label) (hvotes t))

theorem isWinner_eq_none_iff {code : String} {table : List Topic} {chosen : Option Topic}
    (h : IsWinner (votes code) table chosen) :
    chosen = none ↔ ∀ t ∈ table, ∀ k ∈ t.keywords, ¬Occurs code k := by
  cases chosen with
  | none => exact iff_of_true rfl fun t ht => votes_eq_zero_iff.mp (h t ht)
  | some t =>
    refine iff_of_false (Option.some_ne_none t) fun hsilent => ?_
    exact h.2.ne' (votes_eq_zero_iff.mpr (hsilent t h.1.mem))

end Topic

/-- Given the same table both voters choose the same topic: the first of those with most keywords in
the code, and none exactly when no keyword occurs.  A topic that is chosen has keywords, so their
share is no division by zero.  The confidence of the prediction is at most 0.9, and above zero for
all lists of keywords that fit into a machine. -/
theorem keyword_voters_agree (table : List Topic) (code : String) :
    let text := Text.lower code.toList
    let profiles := table.map Topic.profile
    let labels := table.map Topic.label
    ∃ chosen : Option Topic,
      Profile.leader profiles text = chosen.map (fun t => (t.profile, t.votes code)) ∧
      Label.elect text 0 none labels = chosen.map (fun t => (t.label, t.votes code)) ∧
      (chosen = none ↔ ∀ t ∈ table, ∀ k ∈ t.keywords, ¬Topic.Occurs code k) ∧
      (∀ t ∈ chosen, Sequence.IsFirstGreatest (Topic.votes code) table t ∧
        0 < t.votes code ∧ 0.0 < Confidence.ofNat t.keywords.length) ∧
      purpose profiles code = chosen.elim ⟨"computation", "General computation", 0.2⟩ (fun t =>
        ⟨t.name, t.description,
          Confidence.least (0.3 + 0.15 * Confidence.ofNat (t.votes code)) 0.9⟩) ∧
      prediction labels code = chosen.elim ⟨"unknown", 0.1⟩ (fun t =>
        ⟨t.name, Confidence.least (Confidence.ratio (t.votes code) t.keywords.length) 0.9⟩) ∧
      (prediction labels code).confidence ≤ 0.9 ∧
      ((∀ t ∈ table, t.keywords.length ≤ Decimal.word64) →
        0.0 < (prediction labels code).confidence) := by
  intro text profiles labels
  have hleader := Topic.leader_profiles code table
  have helect := Topic.elect_labels code table
  have hwinner := isWinner_winner (Topic.votes code) table
  generalize winner (Topic.votes code) table = chosen at hleader helect hwinner
  have hpurpose : purpose profiles code = chosen.elim ⟨"computation", "General computation", 0.2⟩
      fun t => ⟨t.name, t.description,
        Confidence.least (0.3 + 0.15 * Confidence.ofNat (t.votes code)) 0.9⟩ := by
    rw [purpose, hleader]
    cases chosen <;> rfl
  have hprediction : prediction labels code = chosen.elim ⟨"unknown", 0.1⟩ fun t =>
      ⟨t.name, Confidence.least (Confidence.ratio (t.votes code) t.keywords.length) 0.9⟩ := by
    rw [prediction, helect]
    cases chosen with
    | none => rfl
    | some t =>
      have hlength : t.label.keywords.length = t.keywords.length := List.length_map lowered
      rw [Option.map_some, Option.elim_some, ← hlength]
      rfl
  refine ⟨chosen, hleader, helect, Topic.isWinner_eq_none_iff hwinner, ?_, hpurpose, hprediction,
    ?_, ?_⟩
  · rintro t rfl
    have hlength : 0 < t.keywords.length := hwinner.2.trans_le (t.votes_le_length code)
    exact ⟨hwinner.1, hwinner.2, zero_lt_ofNat hlength⟩
  · rw [hprediction]
    cases chosen with
    | none => exact (by decide : (0.1 : Float) ≤ 0.9)
    | some t => exact Confidence.least_le_right (by decide)
  · intro hsizes
    rw [hprediction]
    cases chosen with
    | none => exact (by decide : (0.0 : Float) < 0.1)
    | some t =>
      have hratio := zero_lt_ratio hwinner.2 (t.votes_le_length code) (hsizes t hwinner.1.mem)
      exact Confidence.lt_least hratio (by decide)

/-- Two topics that tie, after one of which only one keyword occurs. -/
theorem keyword_voters_agree_tied :
    let table : List Topic := [⟨"builder", "", ["Pool Builder", "pool"]⟩,
      ⟨"pool", "Pooling", ["acquire", "RELEASE"]⟩, ⟨"lease", "", ["pool", "lease", "rent"]⟩]
    let code := "pool.acquire(); pool.Release();"
    (∃ t ∈ table, ∃ k ∈ t.keywords, Topic.Occurs code k) ∧
      (∀ t ∈ table, t.keywords.length ≤ Decimal.word64) ∧
      (∃ t : Topic, Sequence.IsFirstGreatest (Topic.votes code) table t ∧
        (purpose (table.map Topic.profile) code).purpose = t.name ∧
        (prediction (table.map Topic.label) code).label = t.name) ∧
      0.0 < (prediction (table.map Topic.label) code).confidence := by
  intro table code
  have hoccurs : ∃ t ∈ table, ∃ k ∈ t.keywords, Topic.Occurs code k := by decide +kernel
  have hsizes : ∀ t ∈ table, t.keywords.length ≤ Decimal.word64 := by decide
  obtain ⟨chosen, -, -, hnone, hsome, hpurpose, hprediction, -, hpositive⟩ :=
    keyword_voters_agree table code
  refine ⟨hoccurs, hsizes, ?_, hpositive hsizes⟩
  cases chosen with
  | none =>
    obtain ⟨t, ht, k, hk, hin⟩ := hoccurs
    exact absurd hin (hnone.mp rfl t ht k hk)
  | some t =>
    refine ⟨t, (hsome t rfl).1, ?_, ?_⟩
    · rw [hpurpose]
      rfl
    · rw [hprediction]
      rfl

end Lexical
end Motif
