import Motif.Program.Run
import Motif.Program.World
import Motif.Proofs.Labels

/-!
Files that cannot be read.  A session passes over them: what it tells about the other files and at
the end is what it would have told without them, but for identifiers and times.  They show in a
warning each and in the number of failures, together with the files that discovery had no success
with.
-/

namespace Motif

/-! ## What is told about a file -/

namespace Notice

/-- What discovery came to, if the notice shows it. -/
def discovery? : Notice → Option Verdict
  | verdict v => some v
  | integrated r => some r.discovery
  | heading _ | warning _ _ | summary _ _ | integratedSummary _ => none

def unstamped : Notice → Notice
  | heading title => heading title
  | warning path message => warning path message
  | verdict v => verdict v.unstamped
  | integrated r => integrated r.unstamped
  | summary s emerging => summary s.unstamped emerging
  | integratedSummary s => integratedSummary s.unstamped

end Notice

structure Session.Entry where
  path : String
  notices : List Notice

namespace Session.Entry

def discovery? (e : Entry) : Option Verdict := e.notices.findSome? Notice.discovery?

/-- No verdict, or one that is no success. -/
def isFailed (e : Entry) : Bool := !e.discovery?.any Verdict.isSuccess

theorem isFailed_eq_false {e : Entry} :
    e.isFailed = false ↔ ∃ v, e.discovery? = some v ∧ v.isSuccess = true := by
  rw [isFailed, Bool.not_eq_false', Option.any_eq_true]

def unstamped (e : Entry) : Entry := { e with notices := e.notices.map Notice.unstamped }

end Session.Entry

namespace Session

def entry (s : Session) (x : Input) : Entry :=
  ⟨x.path, .heading x.path :: (s.analyze x).2⟩

/-- What is told about each file, where a session learns from those before. -/
def entries (s : Session) : List Input → List Entry
  | [] => []
  | x :: rest => s.entry x :: (s.analyze x).1.entries rest

theorem path_entries (s : Session) (xs : List Input) :
    (s.entries xs).map (·.path) = xs.map (·.path) := by
  induction xs generalizing s with
  | nil => rfl
  | cons x rest ih => exact congrArg (x.path :: ·) (ih (s.analyze x).1)

theorem notices_analyzeAll (s : Session) (xs : List Input) :
    (s.analyzeAll xs).2 = (s.entries xs).flatMap (·.notices) := by
  induction xs generalizing s with
  | nil => rfl
  | cons x rest ih =>
    rw [entries, List.flatMap_cons, ← ih]
    rfl

/-! ## One file -/

variable {s t : Session} {x y : Input} {code : String}

theorem analyze_of_error {why : FileFault} (h : x.content = .error why) (s : Session) :
    s.analyze x =
      ({ s with failures := s.failures + 1 }, [.warning x.path why.message]) := by
  rw [analyze, h]
  rfl

theorem analyze_of_ok (h : x.content = .ok code) (s : Session) :
    s.analyze x =
      if s.isIntegrated then s.analyzeIntegrated x code else s.analyzePlain x code := by
  rw [analyze, h]

theorem failures_count (isGood : Bool) (s : Session) :
    (count isGood s).failures = s.failures + if isGood then 0 else 1 := by
  cases isGood <;> rfl

theorem exists_verdict_of_ok (h : x.content = .ok code) (s : Session) :
    ∃ v, (s.entry x).discovery? = some v ∧
      (s.analyze x).1.failures = s.failures + if v.isSuccess then 0 else 1 := by
  rw [entry, analyze_of_ok h]
  split
  · exact ⟨_, rfl, failures_count _ _⟩
  · let v := (s.service.analyze x.fragment code (context s.extra x.path)).2.1
    have hshown (v : Verdict) : (v.error?.toList.map (Notice.warning x.path) ++
        [Notice.verdict v]).findSome? Notice.discovery? = some v := by
      cases v <;> rfl
    exact ⟨v, hshown v, failures_count v.isSuccess _⟩

/-- A file shows a verdict if and only if it could be read. -/
theorem discovery?_entry_eq_none (s : Session) (x : Input) :
    (s.entry x).discovery? = none ↔ x.content.isOk = false := by
  cases hx : x.content with
  | error why =>
    rw [entry, analyze_of_error hx]
    exact iff_of_true rfl rfl
  | ok code =>
    obtain ⟨v, hv, -⟩ := exists_verdict_of_ok hx s
    rw [hv]
    exact iff_of_false (Option.some_ne_none v) Bool.noConfusion

theorem failures_analyze (s : Session) (x : Input) :
    (s.analyze x).1.failures = s.failures + if (s.entry x).isFailed then 1 else 0 := by
  cases hx : x.content with
  | error why =>
    rw [entry, analyze_of_error hx]
    rfl
  | ok code =>
    obtain ⟨v, hv, hfailures⟩ := exists_verdict_of_ok hx s
    rw [hfailures, Entry.isFailed, hv, Option.any_some]
    cases v.isSuccess <;> rfl

theorem failures_analyzeAll (s : Session) (xs : List Input) :
    (s.analyzeAll xs).1.failures = s.failures + (s.entries xs).countP Entry.isFailed := by
  induction xs generalizing s with
  | nil => rfl
  | cons x rest ih =>
    show ((s.analyze x).1.analyzeAll rest).1.failures = _
    rw [ih, failures_analyze, entries, List.countP_cons]
    omega

/-! ## Sessions that skip files -/

/-- Sessions that differ in labels and in the number of failures only. -/
structure Alike (s t : Session) : Prop where
  isIntegrated : s.isIntegrated = t.isIntegrated
  extra : s.extra = t.extra
  queues : s.service.queue = [] ∧ t.service.queue = []
  service : s.service.unstamped = t.service.unstamped
  integration : s.integration.unstamped = t.integration.unstamped

namespace Alike

theorem start (m : Manifest) (isIntegrated : Bool) (extra : List (String × String)) :
    Alike (Session.start m isIntegrated extra) (Session.start m isIntegrated extra) :=
  ⟨rfl, rfl, ⟨rfl, rfl⟩, rfl, rfl⟩

/-- Counting failures keeps sessions alike. -/
theorem count (h : Alike s t) (isGood isGood' : Bool) :
    Alike (s.count isGood) (t.count isGood') := by
  cases isGood <;> cases isGood' <;>
    exact ⟨h.isIntegrated, h.extra, h.queues, h.service, h.integration⟩

/-- A file that cannot be read changes nothing for those after it. -/
theorem skip (h : Alike s t) {why : FileFault} (hx : x.content = .error why) :
    Alike (s.analyze x).1 t := by
  rw [analyze_of_error hx]
  exact h.count false true

theorem analyzePlain (h : Alike s t) (hpath : x.path = y.path) (code : String) :
    Alike (s.analyzePlain x code).1 (t.analyzePlain y code).1 ∧
      (s.analyzePlain x code).2.map Notice.unstamped =
        (t.analyzePlain y code).2.map Notice.unstamped := by
  have hcontext : context s.extra x.path = context t.extra y.path := by rw [h.extra, hpath]
  obtain ⟨hservice, hverdict⟩ := Service.analyze_congr h.queues.1 h.queues.2 h.service x.fragment
    y.fragment code (context t.extra y.path)
  let r := s.service.analyze x.fragment code (context t.extra y.path)
  let r' := t.service.analyze y.fragment code (context t.extra y.path)
  have hs : s.analyzePlain x code = (Session.count r.2.1.isSuccess { s with service := r.1 },
      r.2.1.error?.toList.map (Notice.warning x.path) ++ [.verdict r.2.1]) := by
    rw [Session.analyzePlain, hcontext]
  have ht : t.analyzePlain y code = (Session.count r'.2.1.isSuccess { t with service := r'.1 },
      r'.2.1.error?.toList.map (Notice.warning y.path) ++ [.verdict r'.2.1]) := rfl
  have hshown (p : String) (v : Verdict) :
      (v.error?.toList.map (Notice.warning p) ++ [Notice.verdict v]).map Notice.unstamped =
        v.unstamped.error?.toList.map (Notice.warning p) ++ [Notice.verdict v.unstamped] := by
    cases v <;> rfl
  rw [hs, ht]
  constructor
  · have hqueues : r.1.queue = [] ∧ r'.1.queue = [] :=
      ⟨Service.queue_analyze h.queues.1 _ _ _, Service.queue_analyze h.queues.2 _ _ _⟩
    have halike : Alike { s with service := r.1 } { t with service := r'.1 } :=
      ⟨h.isIntegrated, h.extra, hqueues, hservice, h.integration⟩
    exact halike.count _ _
  · rw [hshown, hshown, hpath]
    exact congrArg (fun v => v.error?.toList.map (Notice.warning y.path) ++ [.verdict v]) hverdict

theorem analyzeIntegrated (h : Alike s t) (hpath : x.path = y.path) (code : String) :
    Alike (s.analyzeIntegrated x code).1 (t.analyzeIntegrated y code).1 ∧
      (s.analyzeIntegrated x code).2.map Notice.unstamped =
        (t.analyzeIntegrated y code).2.map Notice.unstamped := by
  let round (s : Session) (x : Input) : Round :=
    ⟨.lexical code, .clear, .clear, x.fragment, x.analysis, code, context s.extra x.path⟩
  have hround : (round s x).unstamped = (round t y).unstamped := by
    simp only [round, Round.unstamped, h.extra, hpath]
  let step := (round s x).conduct s.integration s.service
  let step' := (round t y).conduct t.integration t.service
  obtain ⟨hsr, hsi, hss⟩ := (round s x).conduct_unstamped h.queues.1 s.integration
  obtain ⟨htr, hti, hts⟩ := (round t y).conduct_unstamped h.queues.2 t.integration
  -- both are what the erased round comes to
  rw [hround, h.service, h.integration] at hsr hsi hss
  constructor
  · have hqueues : step.service.queue = [] ∧ step'.service.queue = [] :=
      ⟨Round.queue_conduct h.queues.1 _ _, Round.queue_conduct h.queues.2 _ _⟩
    have halike : Alike { s with service := step.service, integration := step.integration }
        { t with service := step'.service, integration := step'.integration } :=
      ⟨h.isIntegrated, h.extra, hqueues, hss.symm.trans hts, hsi.symm.trans hti⟩
    exact halike.count _ _
  · exact congrArg (fun r => [Notice.integrated r]) (hsr.symm.trans htr)

/-- The same file leads on to sessions that are alike, and shows the same. -/
theorem step (h : Alike s t) (hpath : x.path = y.path) (hx : x.content = .ok code)
    (hy : y.content = .ok code) :
    Alike (s.analyze x).1 (t.analyze y).1 ∧ (s.entry x).unstamped = (t.entry y).unstamped := by
  have hshown : Alike (s.analyze x).1 (t.analyze y).1 ∧
      (s.analyze x).2.map Notice.unstamped = (t.analyze y).2.map Notice.unstamped := by
    rw [analyze_of_ok hx, analyze_of_ok hy, h.isIntegrated]
    split
    · exact h.analyzeIntegrated hpath code
    · exact h.analyzePlain hpath code
  refine ⟨hshown.1, ?_⟩
  simp only [Entry.unstamped, entry, List.map_cons, hpath, hshown.2]

theorem summary (h : Alike s t) :
    s.summary.map Notice.unstamped = t.summary.map Notice.unstamped := by
  have hintegrated : (s.integration.summary s.service).unstamped =
      (t.integration.summary t.service).unstamped := by
    rw [← Integration.summary_unstamped _ h.queues.1, ← Integration.summary_unstamped _ h.queues.2,
      h.service, h.integration]
  have hsummary : (s.service.summary?.getD .none).unstamped =
      (t.service.summary?.getD .none).unstamped := by
    rw [← Service.summary?_unstamped h.queues.1, ← Service.summary?_unstamped h.queues.2, h.service]
  have hemerging : s.service.emerging? = t.service.emerging? := by
    rw [← Service.emerging?_unstamped h.queues.1, ← Service.emerging?_unstamped h.queues.2,
      h.service]
  rw [Session.summary, Session.summary, h.isIntegrated]
  split
  · exact congrArg (fun x => [Notice.heading "summary", .integratedSummary x]) hintegrated
  · rw [hemerging]
    exact congrArg (fun x => [Notice.heading "summary", .summary x _]) hsummary

end Alike

/-! ## All files -/

/-- The file at a path, with stamps that are numbered from `n` on. -/
def input (read : String → Except FileFault String) (n : Nat) (path : String) : Input :=
  { path, content := read path
    fragment := ⟨Uuid.ofNat n, Timestamp.epoch⟩
    analysis := ⟨Uuid.ofNat (n + 1), Timestamp.epoch⟩ }

def inputs (read : String → Except FileFault String) (n : Nat) : List String → List Input
  | [] => []
  | path :: rest => input read n path :: inputs read (n + 2) rest

section

variable (read : String → Except FileFault String)

theorem path_inputs (n : Nat) (files : List String) :
    (inputs read n files).map (·.path) = files := by
  induction files generalizing n with
  | nil => rfl
  | cons path rest ih => exact congrArg (path :: ·) (ih (n + 2))

/-- A session without the unreadable files shows the same for the others. -/
theorem Alike.run (h : Alike s t) (files : List String) (n k : Nat) :
    let all := inputs read n files
    let kept := inputs read k (files.filter fun path => (read path).isOk)
    Alike (s.analyzeAll all).1 (t.analyzeAll kept).1 ∧
      ((s.entries all).filter fun e => (read e.path).isOk).map Entry.unstamped =
        (t.entries kept).map Entry.unstamped := by
  induction files generalizing s t n k with
  | nil => exact ⟨h, rfl⟩
  | cons path rest ih =>
    intro all kept
    cases hread : read path with
    | error why =>
      have hskip : (read path).isOk = false := by rw [hread]; rfl
      have hkept : kept = inputs read k (rest.filter fun path => (read path).isOk) := by
        simp only [kept, List.filter_cons, hskip, Bool.false_eq_true, if_false]
      obtain ⟨halike, hshown⟩ := ih (h.skip (x := input read n path) hread) (n + 2) k
      rw [hkept]
      refine ⟨halike, ?_⟩
      rw [← hshown]
      simp only [all, inputs, entries, entry, input, List.filter_cons, hskip, Bool.false_eq_true,
        if_false]
    | ok code =>
      have hkeep : (read path).isOk = true := by rw [hread]; rfl
      have hkept : kept = input read k path ::
          inputs read (k + 2) (rest.filter fun path => (read path).isOk) := by
        simp only [kept, List.filter_cons, hkeep, if_true, inputs]
      obtain ⟨hstep, hentry⟩ := h.step (x := input read n path) (y := input read k path) rfl hread
        hread
      obtain ⟨halike, hshown⟩ := ih hstep (n + 2) (k + 2)
      rw [hkept]
      refine ⟨halike, ?_⟩
      have hfirst : (read (s.entry (input read n path)).path).isOk = true := hkeep
      show (List.filter _ (s.entry (input read n path) :: _)).map _ =
        (t.entry (input read k path)).unstamped :: List.map Entry.unstamped _
      rw [List.filter_cons, hfirst, if_pos rfl, List.map_cons, hentry, ← hshown]

theorem mem_entries {n : Nat} {files : List String} {e : Entry}
    (h : e ∈ s.entries (inputs read n files)) :
    ∃ (u : Session) (x : Input), e = u.entry x ∧ x.content = read e.path := by
  induction files generalizing s n with
  | nil => cases h
  | cons path rest ih =>
    rcases List.mem_cons.mp h with rfl | h
    · exact ⟨s, _, rfl, rfl⟩
    · exact ih h

end

end Session
end Motif
