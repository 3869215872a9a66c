import Motif.Proofs.Learning
import Motif.Proofs.Ledger
import Motif.Proofs.Serving

/-!
The events of an engine are a complete log of what it learns.  Posted to a ledger that starts from
the first catalog, they give back the catalog, the candidates, the retained records and the number
of observations after every request.  Each change is posted by the event that tells of it, so a
change without its event or an event with a stale value would stop the replay.
-/

namespace Motif

def Candidate.standing (c : Candidate) : Standing :=
  ⟨c.name, c.confidence, c.occurrences, c.fragments⟩

def Record.entry (r : Record) : Entry :=
  ⟨r.fragment, r.matched.length, r.proposed.length, r.confidence⟩

/-- What a ledger is to hold of an engine. -/
def Engine.ledger (e : Engine) : Ledger :=
  { patterns := e.catalog.patterns
    candidates := e.watchlist.candidates.map Candidate.standing
    retained := e.history.records.map Record.entry
    recorded := e.observations }

/-! ## The stores one by one -/

section

variable {l : Ledger} {delta : Float} {fragment : Uuid} {now : Timestamp}

theorem Catalog.post_reinforce {c d : Catalog} {name : String} {r : Reinforcement}
    (hl : l.patterns = c.patterns) (h : c.reinforce name delta = (d, some r)) :
    l.post (.patternReinforced r.pattern fragment r.before r.after now) =
      some { l with patterns := d.patterns } := by
  unfold reinforce at h
  split at h
  · cases h
  · next p hp =>
    cases h
    have hfind : l.patterns.find? (·.name == name) = some p := by
      rw [hl]
      exact hp
    have hset : Sequence.changeFirst (·.name == name)
        (fun q : Pattern => { q with
          baseConfidence := (p.reinforce delta c.cap).baseConfidence }) c.patterns =
        Sequence.changeFirst (·.name == name) (·.reinforce delta c.cap) c.patterns := by
      refine Sequence.changeFirst_congr fun q hq => ?_
      obtain rfl : p = q := Option.some.inj (hp.symm.trans hq)
      rfl
    simp only [Ledger.post, hfind, if_pos]
    rw [hl, hset]

theorem Catalog.replay_learn {c : Catalog} (hl : l.patterns = c.patterns) (ms : List Match) :
    l.replay (c.learn delta fragment now ms).2 =
      some { l with patterns := (c.learn delta fragment now ms).1.patterns } := by
  induction ms generalizing c l with
  | nil =>
    rw [learn, Ledger.replay_nil, ← hl]
  | cons m rest ih =>
    rw [learn]
    split
    · next d hd =>
      have hsame : c = d := by
        unfold reinforce at hd
        split at hd
        · exact congrArg Prod.fst hd
        · cases hd
      exact ih (hsame ▸ hl)
    · next d r hd =>
      rw [Ledger.replay_cons, post_reinforce hl hd]
      exact ih rfl

theorem Watchlist.standing?_eq {w : Watchlist}
    (hl : l.candidates = w.candidates.map Candidate.standing) (name : String) :
    l.standing? name = (w.get? name).map Candidate.standing := by
  rw [Ledger.standing?, hl, List.find?_map]
  rfl

theorem Watchlist.post_observe {w : Watchlist}
    (hl : l.candidates = w.candidates.map Candidate.standing) (p : Proposal) :
    l.post ((w.observe p.name p.description p.confidence fragment now).2.event fragment now) =
      some { l with
        candidates :=
          (w.observe p.name p.description p.confidence fragment now).1.candidates.map
            Candidate.standing } := by
  have hfind := standing?_eq hl p.name
  unfold observe
  cases h : w.get? p.name with
  | none =>
    rw [h] at hfind
    simp only [Sighting.event, Ledger.post, Candidate.propose, hfind, Option.map_none, hl,
      List.map_append]
    rfl
  | some c =>
    rw [h] at hfind
    have hfound := List.find?_some h
    have hname : c.name = p.name := eq_of_beq hfound
    simp only [Sighting.event, Ledger.post, Candidate.observe, hname, hfind, Option.map_some, hl]
    refine (if_pos rfl).trans (congrArg (fun cs => some { l with candidates := cs }) ?_)
    refine Sequence.changeFirst_map (fun _ => rfl) fun d hd => ?_
    obtain rfl : c = d := Option.some.inj (h.symm.trans hd)
    rfl

theorem Watchlist.replay_learn {w : Watchlist}
    (hl : l.candidates = w.candidates.map Candidate.standing) (ps : List Proposal) :
    l.replay (w.learn fragment now ps).2 =
      some { l with
        candidates := (w.learn fragment now ps).1.candidates.map Candidate.standing } := by
  induction ps generalizing w l with
  | nil => rw [learn, Ledger.replay_nil, ← hl]
  | cons p rest ih =>
    simp only [learn, Ledger.replay_cons]
    rw [post_observe hl p]
    exact ih rfl

theorem History.replay_add {h : History} (f : Fragment) (r : Record)
    (hl : l.retained = h.records.map Record.entry) :
    l.replay (.analysisRecorded r.fragment r.matched.length r.proposed.length r.confidence now ::
        Engine.trimming (h.add f r).2 (h.add f r).1.size now) =
      some { l with
        retained := (h.add f r).1.records.map Record.entry, recorded := l.recorded + 1 } := by
  have hremoved : (h.add f r).2 = (h.records ++ [r]).length - h.window := rfl
  have hrecords : (h.add f r).1.records = (h.records ++ [r]).drop (h.add f r).2 := rfl
  have hposted : l.retained ++ [r.entry] = (h.records ++ [r]).map Record.entry := by
    rw [hl, List.map_append, List.map_singleton]
  rw [Ledger.replay_cons, Engine.trimming]
  by_cases hnone : (h.add f r).2 = 0
  · rw [if_pos hnone, hrecords, hnone, List.drop_zero, ← hposted]
    rfl
  · have hsize : (h.records ++ [r]).length = (h.add f r).2 + (h.add f r).1.size := by
      rw [History.size, hrecords, List.length_drop]
      omega
    have hlen : (l.retained ++ [r.entry]).length = (h.add f r).2 + (h.add f r).1.size := by
      rw [hposted, List.length_map, hsize]
    rw [if_neg hnone, hrecords, List.map_drop, ← hposted]
    simp only [Ledger.post, Option.bind_some, Ledger.replay_cons, Ledger.replay_nil]
    exact congrArg (Option.bind · some) (if_pos hlen)

end

/-! ## One request -/

namespace Engine

theorem replay_commit (e : Engine) (now : Timestamp) (v : Evaluation) :
    e.ledger.replay (e.commit now v).events = some (e.commit now v).engine.ledger := by
  let record := Record.make v.fragment.id now (v.matched.map (·.pattern))
    ((Proposal.distinct v.proposed).map (·.name))
    (callConfidence v.matched v.proposed e.settings.confidenceFloor)
  have hmatched : record.matched.length = v.matched.length := List.length_map _
  have hproposed : record.proposed.length = (Proposal.distinct v.proposed).length := by
    show (Sequence.distinct _).length = _
    rw [Sequence.distinct_eq_self (Proposal.nodup_names_distinct v.proposed), List.length_map]
  simp only [commit, List.append_assoc, Ledger.replay_append]
  rw [Catalog.replay_learn rfl, Option.bind_some, Watchlist.replay_learn rfl, Option.bind_some,
    ← hmatched, ← hproposed]
  exact History.replay_add v.fragment record rfl

theorem replay_serve (e : Engine) (r : Request) :
    e.ledger.replay (e.serve r).events = some (e.serve r).engine.ledger := by
  cases r with
  | analyze stamp code context =>
    cases h : e.evaluate stamp code context with
    | ok v =>
      rw [serve_analyze_of_ok h]
      exact replay_commit e stamp.time v
    | error why =>
      rw [serve_analyze_of_error h]
      rfl
  | evaluate stamp code context =>
    cases h : e.evaluate stamp code context with
    | ok v =>
      rw [serve_evaluate_of_ok h]
      rfl
    | error why =>
      rw [serve_evaluate_of_error h]
      rfl
  | commit now v => exact replay_commit e now v
  | summary | insights | emerging | share | candidate | patterns => rfl

theorem replay_serveAll (e : Engine) (rs : List Request) :
    e.ledger.replay (e.serveAll rs).events = some (e.serveAll rs).engine.ledger := by
  induction rs generalizing e with
  | nil => rfl
  | cons r rest ih =>
    simp only [serveAll]
    rw [Ledger.replay_append, replay_serve, Option.bind_some, ih]

end Engine

/-! ## The events of one request -/

namespace EngineEvent

def reinforced? : EngineEvent → Option String
  | patternReinforced name _ _ _ _ => some name
  | _ => none

def sighted? : EngineEvent → Option String
  | candidateDiscovered name _ _ _ | candidateObserved name _ _ _ _ => some name
  | _ => none

end EngineEvent

/-- Whether the catalog has a pattern of the name. -/
def Catalog.knows (c : Catalog) (name : String) : Bool := c.outlines.any (·.1 == name)

theorem Catalog.knows_eq (c : Catalog) (name : String) : c.knows name = (c.get? name).isSome := by
  rw [knows, outlines, get?, List.any_map, List.isSome_find?]
  rfl

theorem Catalog.events_learn (delta : Float) (fragment : Uuid) (now : Timestamp) (c : Catalog)
    (ms : List Match) :
    (c.learn delta fragment now ms).2.map EngineEvent.reinforced? =
        ((ms.map (·.pattern)).filter c.knows).map some ∧
      ∀ ev ∈ (c.learn delta fragment now ms).2, ev.fragment? = some fragment ∧ ev.time = now := by
  induction ms generalizing c with
  | nil => exact ⟨rfl, fun _ h => absurd h List.not_mem_nil⟩
  | cons m rest ih =>
    have hknows := c.knows_eq m.pattern
    have hoff (d : Catalog) (h : (c.reinforce m.pattern delta).1 = d) : d.knows = c.knows := by
      funext name
      rw [knows, knows, ← h, outlines_reinforce]
    rw [learn, List.map_cons, List.filter_cons, hknows]
    cases h : c.get? m.pattern with
    | none =>
      have hr : c.reinforce m.pattern delta = (c, none) := by rw [reinforce, h]
      rw [hr]
      exact ih c
    | some p =>
      have hr : c.reinforce m.pattern delta =
          ((c.reinforce m.pattern delta).1,
            some ⟨m.pattern, p.baseConfidence, (p.reinforce delta c.cap).baseConfidence⟩) := by
        simp only [reinforce, h]
      rw [hr]
      obtain ⟨hnames, hevents⟩ := ih (c.reinforce m.pattern delta).1
      rw [hoff _ rfl] at hnames
      refine ⟨congrArg (some m.pattern :: ·) hnames, fun ev hev => ?_⟩
      rcases List.mem_cons.mp hev with rfl | hev
      · exact ⟨rfl, rfl⟩
      · exact hevents ev hev

theorem Watchlist.events_learn (fragment : Uuid) (now : Timestamp) (w : Watchlist)
    (ps : List Proposal) :
    (w.learn fragment now ps).2.map EngineEvent.sighted? = (ps.map (·.name)).map some ∧
      ∀ ev ∈ (w.learn fragment now ps).2, ev.fragment? = some fragment ∧ ev.time = now := by
  induction ps generalizing w with
  | nil => exact ⟨rfl, fun _ h => absurd h List.not_mem_nil⟩
  | cons p rest ih =>
    obtain ⟨hnames, hevents⟩ :=
      ih (w.observe p.name p.description p.confidence fragment now).1
    have hfirst (s : Sighting) : (s.event fragment now).sighted? = some s.candidate.name ∧
        (s.event fragment now).fragment? = some fragment ∧ (s.event fragment now).time = now := by
      cases s <;> exact ⟨rfl, rfl, rfl⟩
    have hname : (w.observe p.name p.description p.confidence fragment now).2.candidate.name =
        p.name := by
      unfold observe
      split
      · next c hc =>
        have hfound := List.find?_some hc
        exact eq_of_beq hfound
      · rfl
    simp only [learn, List.map_cons]
    rw [hnames, (hfirst _).1, hname]
    refine ⟨rfl, fun ev hev => ?_⟩
    rcases List.mem_cons.mp hev with rfl | hev
    · exact (hfirst _).2
    · exact hevents ev hev

namespace Engine

/-- The events of one commit: the patterns that the catalog has, in the order of the matches; the
candidates, each once; the record with its counts; and the trim, if the window overflows. -/
def IsBlock (e : Engine) (now : Timestamp) (v : Evaluation) (events : List EngineEvent) : Prop :=
  ∃ reinforced sighted trimmed,
    events = reinforced ++ sighted ++
      .analysisRecorded v.fragment.id v.matched.length (Proposal.distinct v.proposed).length
        (callConfidence v.matched v.proposed e.settings.confidenceFloor) now :: trimmed ∧
    reinforced.map EngineEvent.reinforced? =
      ((v.matched.map (·.pattern)).filter e.catalog.knows).map some ∧
    sighted.map EngineEvent.sighted? = ((Proposal.distinct v.proposed).map (·.name)).map some ∧
    (∀ ev ∈ reinforced ++ sighted, ev.fragment? = some v.fragment.id ∧ ev.time = now) ∧
    (trimmed = [] ∨ ∃ removed retained, 0 < removed ∧
      trimmed = [.historyTrimmed removed retained now])

theorem isBlock_commit (e : Engine) (now : Timestamp) (v : Evaluation) :
    e.IsBlock now v (e.commit now v).events := by
  obtain ⟨hpatterns, hfirst⟩ := Catalog.events_learn e.settings.patternReinforcement
    v.fragment.id now e.catalog v.matched
  obtain ⟨hnames, hsecond⟩ := Watchlist.events_learn v.fragment.id now e.watchlist
    (Proposal.distinct v.proposed)
  refine ⟨_, _, _, rfl, hpatterns, hnames, fun ev hev => ?_, ?_⟩
  · rcases List.mem_append.mp hev with hev | hev
    · exact hfirst ev hev
    · exact hsecond ev hev
  · rw [trimming]
    split
    · exact Or.inl rfl
    · next hremoved => exact Or.inr ⟨_, _, Nat.pos_of_ne_zero hremoved, rfl⟩

/-- What a request gives rise to: a block for what is committed, a rejection for code that is
refused, and nothing otherwise. -/
def Publishes (e : Engine) (events : List EngineEvent) : Request → Prop
  | .analyze stamp code context =>
    match e.evaluate stamp code context with
    | .ok v => e.IsBlock stamp.time v events
    | .error why => events = [rejection why stamp.time]
  | .evaluate stamp code context =>
    match e.evaluate stamp code context with
    | .ok _ => events = []
    | .error why => events = [rejection why stamp.time]
  | .commit now v => e.IsBlock now v events
  | _ => events = []

theorem publishes_serve (e : Engine) (r : Request) : e.Publishes (e.serve r).events r := by
  cases r with
  | analyze stamp code context =>
    cases h : e.evaluate stamp code context with
    | ok v =>
      rw [serve_analyze_of_ok h]
      simp only [Publishes, h]
      exact isBlock_commit e stamp.time v
    | error why =>
      rw [serve_analyze_of_error h]
      simp only [Publishes, h]
  | evaluate stamp code context =>
    cases h : e.evaluate stamp code context with
    | ok v =>
      rw [serve_evaluate_of_ok h]
      simp only [Publishes, h]
    | error why =>
      rw [serve_evaluate_of_error h]
      simp only [Publishes, h]
  | commit now v => exact isBlock_commit e now v
  | summary | insights | emerging | share | candidate | patterns => rfl

/-! ## The whole log -/

/-- An engine with the given catalog and detector, before any request. -/
def assemble (s : EngineSettings) (c : Catalog) (d : Detector) : Engine :=
  ((make s).withCatalog c).withDetector d

theorem events_serveAll_split (e : Engine) (before after : List Request) (r : Request) :
    (e.serveAll (before ++ r :: after)).events =
      (e.serveAll before).events ++ ((e.serveAll before).engine.serve r).events ++
        (((e.serveAll before).engine.serve r).engine.serveAll after).events := by
  rw [serveAll_append, List.append_assoc]
  rfl

/-- Whatever is asked of an engine, its events alone tell what it has learned. -/
theorem events_are_complete_log (s : EngineSettings) (c : Catalog) (d : Detector)
    (requests : List Request) :
    let e := assemble s c d
    let run := e.serveAll requests
    (Ledger.start e.catalog.patterns).replay run.events = some run.engine.ledger ∧
    EngineEvent.discoveries run.events = run.engine.watchlist.candidates.map (·.name) ∧
    (EngineEvent.discoveries run.events).Nodup ∧
    (∀ before rest name fragment occurrences confidence now,
      run.events =
        before ++ .candidateObserved name fragment occurrences confidence now :: rest →
      name ∈ EngineEvent.discoveries before) ∧
    EngineEvent.recordings run.events = run.engine.observations ∧
    EngineEvent.recordings run.events =
      run.engine.history.size + EngineEvent.removals run.events ∧
    (∀ before rest removed retained now,
      run.events = before ++ .historyTrimmed removed retained now :: rest →
      EngineEvent.recordings before = EngineEvent.removals before + removed + retained) ∧
    ∀ before r after, requests = before ++ r :: after →
      let k := (e.serveAll before).engine
      run.events = (e.serveAll before).events ++ (k.serve r).events ++
        ((k.serve r).engine.serveAll after).events ∧
      k.Publishes (k.serve r).events r ∧
      k.ledger.replay (k.serve r).events = some (k.serve r).engine.ledger := by
  intro e run
  have hreplay : (Ledger.start e.catalog.patterns).replay run.events = some run.engine.ledger :=
    replay_serveAll e requests
  obtain ⟨hrecorded, hretained, hnames⟩ := Ledger.replay_counts hreplay
  have hdiscovered : EngineEvent.discoveries run.events =
      run.engine.watchlist.candidates.map (·.name) := by
    rw [← List.nil_append (EngineEvent.discoveries run.events)]
    refine hnames.symm.trans ?_
    rw [Ledger.names, ledger, List.map_map]
    rfl
  have hempty : (Ledger.start e.catalog.patterns).names.Nodup := List.nodup_nil
  have hnodup := Ledger.nodup_names_of_replay hempty hreplay
  refine ⟨hreplay, hdiscovered, ?_, ?_, ?_, ?_, ?_, ?_⟩
  · rw [← List.nil_append (EngineEvent.discoveries run.events)]
    exact hnames ▸ hnodup
  · intro before rest name fragment occurrences confidence now hsplit
    rw [hsplit] at hreplay
    exact Ledger.mem_discoveries_of_observed hreplay
  · exact (hrecorded.trans (Nat.zero_add _)).symm
  · have hsize : run.engine.ledger.retained.length = run.engine.history.size := List.length_map _
    have hnone : (Ledger.start e.catalog.patterns).retained.length = 0 := rfl
    omega
  · intro before rest removed retained now hsplit
    rw [hsplit] at hreplay
    have htrim := Ledger.retained_of_trimmed hreplay
    have hnone : (Ledger.start e.catalog.patterns).retained.length = 0 := rfl
    omega
  · intro before r after hsplit k
    refine ⟨?_, publishes_serve k r, replay_serve k r⟩
    show (e.serveAll requests).events = _
    rw [hsplit]
    exact events_serveAll_split e before after r

end Engine
end Motif
