import Motif.Proofs.Files

/-!
The program on a list of files.  In a world, where files and output are plain values, a run appends
what it tells of each file and at the end, and changes nothing else.  With unreadable files left
out, it tells the same of the others; the complaint at the end counts the failures.
-/

namespace Motif

/-! ## Asking the world -/

namespace World

/-- A request that asks and leaves the world as it is. -/
def Asks {α : Type} (x : StateM World α) : Prop := ∀ w, (x w).2 = w

namespace Asks

variable {α β : Type}

theorem pure (a : α) : Asks (Pure.pure a) := fun _ => rfl

theorem bind {x : StateM World α} {f : α → StateM World β} (hx : Asks x) (hf : ∀ a, Asks (f a)) :
    Asks (x >>= f) :=
  fun w => (hf (x w).1 (x w).2).trans (hx w)

theorem lookup (name : String) : Asks (host.lookup name) := fun _ => rfl

theorem read (path : String) : Asks (host.read path) := fun _ => rfl

theorem isThere (path : String) : Asks (host.isThere path) := fun _ => rfl

theorem firstThere (paths : List String) : Asks (Manifest.firstThere host paths) := by
  induction paths with
  | nil => exact pure none
  | cons path rest ih =>
    refine (isThere path).bind fun b => ?_
    cases b
    · exact ih
    · exact pure (some path)

theorem discover : Asks (Manifest.discover host) :=
  (lookup _).bind fun _ => bind (fun _ => rfl) fun _ => firstThere _

theorem readFile (path : String) : Asks (Manifest.readFile host path) := by
  refine (read path).bind fun r => ?_
  cases r with
  | error why => exact pure _
  | ok text => exact pure _

theorem overridden (m : Manifest) : Asks (Manifest.overridden host m) :=
  (lookup _).bind fun _ => (lookup _).bind fun _ => (lookup _).bind fun _ => pure _

theorem load (given : Option String) : Asks (Manifest.load host given) := by
  -- whatever returns the failure or looks up the overrides asks
  have hfinish {k : Except Manifest.LoadFault Manifest →
        StateM World (Except Manifest.LoadFailure Manifest)}
      (hfault : ∀ fault, k (.error fault) = Pure.pure (.error ⟨given, fault⟩))
      (hok : ∀ m, k (.ok m) = Manifest.overridden host m >>= fun m => Pure.pure (.ok m))
      (loaded : Except Manifest.LoadFault Manifest) : Asks (k loaded) := by
    cases loaded with
    | error fault =>
      rw [hfault]
      exact pure _
    | ok m =>
      rw [hok]
      exact (overridden m).bind fun _ => pure _
  cases given with
  | none =>
    refine discover.bind fun found => ?_
    cases found with
    | none => exact (pure _).bind (hfinish (fun _ => rfl) fun _ => rfl)
    | some path => exact (readFile path).bind (hfinish (fun _ => rfl) fun _ => rfl)
  | some path =>
    rw [Manifest.load, pure_bind]
    exact (readFile path).bind (hfinish (fun _ => rfl) fun _ => rfl)

theorem loadValid (given : Option String) : Asks (Program.loadValid host given) := by
  refine (load given).bind fun r => ?_
  cases r with
  | error f => exact pure _
  | ok m => cases hm : m.fault? <;> simp only [hm] <;> exact pure _

end Asks
end World

/-! ## Telling the world -/

namespace Notice

/-- The texts of the notices, each with a line feed behind it. -/
def lines : List Notice → String
  | [] => ""
  | n :: rest => n.text ++ "\n" ++ lines rest

theorem lines_append (ms ns : List Notice) : lines (ms ++ ns) = lines ms ++ lines ns := by
  induction ms with
  | nil => rw [List.nil_append, lines, String.empty_append]
  | cons m rest ih => rw [List.cons_append, lines, lines, ih, ← String.append_assoc]

end Notice

namespace World

/-- The world after the notices were told and some stamps taken.  Warnings go to a channel of their
own. -/
def after (w : World) (notices : List Notice) (taken : Nat) : World :=
  { w with
    output := w.output ++ Notice.lines (notices.filter (!·.isWarning))
    warnings := w.warnings ++ Notice.lines (notices.filter (·.isWarning))
    stamps := w.stamps + taken }

theorem after_nil (w : World) : w.after [] 0 = w := by
  simp only [after, List.filter_nil, Notice.lines, String.append_empty, Nat.add_zero]

theorem after_after (w : World) (ms ns : List Notice) (j k : Nat) :
    (w.after ms j).after ns k = w.after (ms ++ ns) (j + k) := by
  simp only [after, List.filter_append, Notice.lines_append, String.append_assoc, Nat.add_assoc]

end World

theorem bind_of_eq {α β : Type} {x : StateM World α} {f : α → StateM World β} {w w' : World} {a : α}
    (h : x w = (a, w')) : (x >>= f) w = f a w' := by
  show f (x w).1 (x w).2 = f a w'
  rw [h]

namespace Program

open World

theorem tell_host (w : World) (notices : List Notice) :
    tell host notices w = ((), w.after notices 0) := by
  induction notices generalizing w with
  | nil => rw [after_nil]; rfl
  | cons n rest ih =>
    have hworld : w.after [n] 0 =
        if n.isWarning then w.warn (n.text ++ "\n") else w.print (n.text ++ "\n") := by
      cases hn : n.isWarning <;> simp [after, hn, Notice.lines, warn, print]
    have hfirst : tell host (n :: rest) w = tell host rest (w.after [n] 0) := by
      rw [hworld, tell]
      cases n.isWarning <;> rfl
    rw [hfirst, ih, after_after]
    rfl

/-- A file is read, and two stamps are taken for it. -/
theorem analyzeFile_host (w : World) (s : Session) (path : String) :
    analyzeFile host s path w =
      ((s.analyze (Session.input w.read w.stamps path)).1,
        w.after (s.entry (Session.input w.read w.stamps path)).notices 2) := by
  let x := Session.input w.read w.stamps path
  have hrun : analyzeFile host s path w =
      let told := (tell host [.heading path] w).2
      let x : Session.Input :=
        ⟨path, told.read path, told.nextStamp.1, told.nextStamp.2.nextStamp.1⟩
      ((s.analyze x).1, (tell host (s.analyze x).2 told.nextStamp.2.nextStamp.2).2) := rfl
  rw [hrun, tell_host]
  show ((s.analyze x).1, (tell host (s.analyze x).2 (w.after [.heading path] 2)).2) = _
  rw [tell_host, after_after]
  rfl

theorem analyzeFiles_host (w : World) (s : Session) (files : List String) :
    analyzeFiles host s files w =
      ((s.analyzeAll (Session.inputs w.read w.stamps files)).1,
        w.after (s.analyzeAll (Session.inputs w.read w.stamps files)).2 (2 * files.length)) := by
  induction files generalizing w s with
  | nil => exact Prod.ext rfl (after_nil w).symm
  | cons path rest ih =>
    let x := Session.input w.read w.stamps path
    let w' := w.after (s.entry x).notices 2
    have hfirst : analyzeFiles host s (path :: rest) w =
        analyzeFiles host (s.analyze x).1 rest w' := by
      show analyzeFiles host (analyzeFile host s path w).1 rest (analyzeFile host s path w).2 = _
      rw [analyzeFile_host]
    have hcount : 2 + 2 * rest.length = 2 * (path :: rest).length := by
      rw [List.length_cons]
      omega
    rw [hfirst, ih, after_after, hcount]
    rfl

/-! ## Reports -/

/-- What is told of the files, and at the end. -/
structure Report where
  entries : List Session.Entry
  closing : List Notice

namespace Report

def notices (r : Report) : List Notice := r.entries.flatMap (·.notices) ++ r.closing

def failures (r : Report) : Nat := r.entries.countP Session.Entry.isFailed

end Report

/-- A run fails with the number of files that did, out of all. -/
def outcome (failures total : Nat) : Except Complaint Unit :=
  if failures = 0 then .ok ()
  else .error (.alone
    (toString failures ++ " of " ++ toString total ++ " files could not be analyzed"))

/-- The report on the files, where a session learns from one after the other. -/
def report (w : World) (m : Manifest) (context : List (String × String))
    (isIntegrated withSummary : Bool) (files : List String) : Report :=
  let s := Session.start m isIntegrated context
  let inputs := Session.inputs w.read w.stamps files
  { entries := s.entries inputs
    closing := if withSummary then (s.analyzeAll inputs).1.summary else [] }

section

variable (w : World) (path : Option String) (context : List (String × String))
  (isIntegrated withSummary : Bool) {m : Manifest}

theorem path_report (files : List String) :
    (report w m context isIntegrated withSummary files).entries.map (·.path) = files := by
  rw [report, Session.path_entries, Session.path_inputs]

theorem complaint?_report (files : List String) :
    ((Session.start m isIntegrated context).analyzeAll
        (Session.inputs w.read w.stamps files)).1.complaint? files.length =
      let failures := (report w m context isIntegrated withSummary files).failures
      if failures = 0 then none
      else some (toString failures ++ " of " ++ toString files.length ++
        " files could not be analyzed") := by
  have hfailures : ((Session.start m isIntegrated context).analyzeAll
      (Session.inputs w.read w.stamps files)).1.failures =
        (report w m context isIntegrated withSummary files).failures := by
    rw [Session.failures_analyzeAll]
    exact Nat.zero_add _
  rw [Session.complaint?, hfailures]

theorem mem_report {files : List String} {e : Session.Entry}
    (h : e ∈ (report w m context isIntegrated withSummary files).entries) :
    (e.discovery? = none ↔ (w.read e.path).isOk = false) ∧
      ∀ why, w.read e.path = .error why →
        e.notices = [.heading e.path, .warning e.path why.message] := by
  obtain ⟨s, x, rfl, hx⟩ := Session.mem_entries w.read h
  rw [← hx]
  refine ⟨Session.discovery?_entry_eq_none s x, fun why hwhy => ?_⟩
  rw [Session.entry, Session.analyze_of_error hwhy]

theorem analyze_of_load (hm : (loadValid host path w).1 = .ok m) (files : List String) :
    analyze host path files context isIntegrated withSummary w =
      (outcome (report w m context isIntegrated withSummary files).failures files.length,
        w.after (report w m context isIntegrated withSummary files).notices
          (2 * files.length)) := by
  let s := Session.start m isIntegrated context
  let inputs := Session.inputs w.read w.stamps files
  have hload : loadValid host path w = (.ok m, w) := Prod.ext hm (Asks.loadValid path w)
  have hnotices : (report w m context isIntegrated withSummary files).notices =
      (s.analyzeAll inputs).2 ++ if withSummary then (s.analyzeAll inputs).1.summary else [] := by
    rw [Session.notices_analyzeAll]
    rfl
  rw [analyze, bind_of_eq hload]
  show (analyzeFiles host s files >>= _) w = _
  rw [bind_of_eq (analyzeFiles_host w s files), complaint?_report w context isIntegrated withSummary,
    hnotices, outcome]
  cases withSummary with
  | false =>
    rw [if_neg Bool.false_ne_true, if_neg Bool.false_ne_true, List.append_nil]
    by_cases hzero : (report w m context isIntegrated false files).failures = 0 <;>
      simp only [hzero, if_true, if_false] <;> rfl
  | true =>
    rw [if_pos rfl, if_pos rfl, bind_of_eq (tell_host _ (s.analyzeAll inputs).1.summary),
      after_after]
    by_cases hzero : (report w m context isIntegrated true files).failures = 0 <;>
      simp only [hzero, if_true, if_false] <;> rfl

theorem analyze_of_complaint {c : Complaint} (hc : (loadValid host path w).1 = .error c)
    (files : List String) :
    analyze host path files context isIntegrated withSummary w = (.error c, w) := by
  have hload : loadValid host path w = (.error c, w) := Prod.ext hc (Asks.loadValid path w)
  rw [analyze, bind_of_eq hload]
  rfl

/-- Reports with and without the unreadable files. -/
theorem report_filter (m : Manifest) (files : List String) :
    let all := report w m context isIntegrated withSummary files
    let rest := report w m context isIntegrated withSummary (files.filter fun p => (w.read p).isOk)
    (all.entries.filter fun e => (w.read e.path).isOk).map Session.Entry.unstamped =
        rest.entries.map Session.Entry.unstamped ∧
      all.closing.map Notice.unstamped = rest.closing.map Notice.unstamped := by
  intro all rest
  obtain ⟨halike, hentries⟩ :=
    (Session.Alike.start m isIntegrated context).run w.read files w.stamps w.stamps
  refine ⟨hentries, ?_⟩
  cases withSummary with
  | false => rfl
  | true => exact halike.summary

end

/-- A run with an accepted manifest passes over the files that cannot be read: it shows the same of
the others, and the same summary at the end, as the run without such files, but for identifiers and
times.  It fails if and only if a file shows no success of discovery, with the number of these files
out of all. -/
theorem unreadable_files_are_passed_over (w : World) (path : Option String)
    (context : List (String × String)) (isIntegrated withSummary : Bool) (files : List String) :
    let isReadable (p : String) : Bool := (w.read p).isOk
    let run (files : List String) := analyze host path files context isIntegrated withSummary w
    match (loadValid host path w).1 with
    | .error c => run files = (.error c, w)
    | .ok m =>
      let readable := files.filter isReadable
      let all := report w m context isIntegrated withSummary files
      let rest := report w m context isIntegrated withSummary readable
      -- both runs tell what their reports hold, and no more
      run files = (outcome all.failures files.length, w.after all.notices (2 * files.length)) ∧
        run readable =
          (outcome rest.failures readable.length, w.after rest.notices (2 * readable.length)) ∧
        -- a file fails by showing no verdict, which is how unreadable ones do, or no success
        all.entries.map (·.path) = files ∧
        (all.failures = 0 ↔ ∀ e ∈ all.entries, ∃ v, e.discovery? = some v ∧ v.isSuccess = true) ∧
        (∀ e ∈ all.entries, (e.discovery? = none ↔ isReadable e.path = false) ∧
          ∀ why, w.read e.path = .error why →
            e.notices = [.heading e.path, .warning e.path why.message]) ∧
        -- the reports agree on all other files and at the end
        (all.entries.filter fun e => isReadable e.path).map Session.Entry.unstamped =
          rest.entries.map Session.Entry.unstamped ∧
        all.closing.map Notice.unstamped = rest.closing.map Notice.unstamped := by
  intro isReadable run
  split
  · next c hload =>
    exact analyze_of_complaint w path context isIntegrated withSummary hload files
  · next m hload =>
    intro readable all rest
    have hrun (files : List String) : run files = _ :=
      analyze_of_load w path context isIntegrated withSummary hload files
    have hpaths : all.entries.map (·.path) = files := path_report w context isIntegrated _ files
    have hfailures : all.failures = 0 ↔
        ∀ e ∈ all.entries, ∃ v, e.discovery? = some v ∧ v.isSuccess = true := by
      rw [Report.failures, List.countP_eq_zero]
      refine forall₂_congr fun e _ => ?_
      rw [Bool.not_eq_true, Session.Entry.isFailed_eq_false]
    obtain ⟨hentries, hclosing⟩ := report_filter w context isIntegrated withSummary m files
    refine ⟨hrun files, hrun readable, hpaths, hfailures, ?_, hentries, hclosing⟩
    intro e he
    exact mem_report w context isIntegrated withSummary he

end Program
end Motif
