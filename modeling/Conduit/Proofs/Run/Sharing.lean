import Conduit.Proofs.Run.Results

/-!
# Sharing

All runs share one context, so what one of them leaves there can reach the others. A run that is over
has nobody left to work for it unless it was cancelled, and a run that has failed keeps its failure until
it is over. What a step brings about is brought about by one of its moves.
-/

namespace Conduit

/-! ## Idle runs -/

def Stage.Idle (S : Stage) (s : Nat) : Prop := ∀ d, (s, d) ∉ S.crew

theorem Tally.idle {S : Stage} {s : Nat} (h : Tally S s) (hz : (S.runs s).unfinished = 0) :
    S.Idle s := by
  intro d hd
  exact Multiset.countP_eq_zero.1 (h.unfinished.symm.trans hz) (s, d) hd ⟨rfl, rfl⟩

/-! ## Where duties come from -/

/-- The duty has nothing to do with an execution. -/
def Duty.isAside : Duty → Bool
  | .arriving _ _ _ => true
  | .skipping _ => true
  | .dispatched _ => true
  | .awaiting _ => true
  | .admitted _ => true
  | .leaving => true
  | _ => false

/-- Where a duty comes from in a move. -/
inductive Comes (r : Nat) (S S' : Stage) : Nat × Duty → Prop where
  | aside {d : Duty} (busy : ∃ e, (r, e) ∈ S.crew) (aside : d.isAside) : Comes r S S' (r, d)
  | begun {root : String} : Comes r S S' (S.nextRun, .dispatched root)
  | started {node : String} {n : GraphNode Component} {kind : String} {activity : Activity}
      {origin : Origin} (admitted : (r, .admitted node) ∈ S.crew)
      (node_eq : (S.runs r).graph.node? node = some n)
      (slot : n.slot = .ready (.basic kind activity) origin) :
      Comes r S S' (r, .performing node activity)
  | entered {node : String} (admitted : (r, .admitted node) ∈ S.crew) :
      Comes r S S' (r, .nesting node S.nextRun)
  | performed {node : String} {activity : Activity} {touches : List Touch} {result : Result}
      (performing : (r, .performing node activity) ∈ S.crew)
      (deeds : S'.deeds = .performed r node touches (some result) :: S.deeds) :
      Comes r S S' (r, .ended node result)
  | dozed {node : String} {activity next stopped : Activity} {scene : Scene} {ms : Nat} (wakeAt : Nat)
      (performing : (r, .performing node activity) ∈ S.crew)
      (burst : activity.burst S.network ⟨S.valuesOf r, S.cancelled (S.runs r).context, [], []⟩ =
        (scene, .asleep ms next stopped)) :
      Comes r S S' (r, .pausing node wakeAt next stopped)
  | resumed {node : String} {wakeAt : Nat} {next stopped : Activity}
      (pausing : (r, .pausing node wakeAt next stopped) ∈ S.crew) :
      Comes r S S' (r, .performing node next)
  | interrupted {node : String} {wakeAt : Nat} {next stopped : Activity}
      (pausing : (r, .pausing node wakeAt next stopped) ∈ S.crew) :
      Comes r S S' (r, .performing node stopped)
  | surfaced {node : String} {inner : Nat} {result : RunResult} (pipeline : String)
      (nesting : (r, .nesting node inner) ∈ S.crew)
      (deeds : S'.deeds = .concluded inner result :: S.deeds) :
      Comes r S S' (r, .ended node (World.nestedResult pipeline result))
  | settled {node : String} {result : Result} (ended : (r, .ended node result) ∈ S.crew)
      (events : S'.events = (r, .nodeCompleted node) :: S.events) :
      Comes r S S' (r, .going node)

theorem Move.comes {S S' : Stage} {r : Nat} (m : Move r S S') {p : Nat × Duty} (hp : p ∈ S'.crew) :
    p ∈ S.crew ∨ Comes r S S' p := by
  have mem : ∀ {d : Duty} {rest : Multiset (Nat × Duty)}, S.crew = (r, d) ::ₘ rest →
      (r, d) ∈ S.crew := fun crew => crew ▸ Multiset.mem_cons_self _ _
  have turned : ∀ {d e : Duty} {rest : Multiset (Nat × Duty)}, S.crew = (r, d) ::ₘ rest →
      Comes r S S' (r, e) → p ∈ (r, e) ::ₘ rest → p ∈ S.crew ∨ Comes r S S' p := by
    intro d e rest crew comes hp
    rcases Multiset.mem_cons.1 hp with rfl | hp
    · exact .inr comes
    · exact .inl (crew ▸ Multiset.mem_cons_of_mem hp)
  have aside : ∀ {d e : Duty} {rest : Multiset (Nat × Duty)}, S.crew = (r, d) ::ₘ rest →
      e.isAside → p ∈ (r, e) ::ₘ rest → p ∈ S.crew ∨ Comes r S S' p :=
    fun crew he => turned crew (.aside ⟨_, mem crew⟩ he)
  have spreads : ∀ {d : Duty} {rest : Multiset (Nat × Duty)} {run : Run} {source : String}
      {live : Bool}, S.crew = (r, d) ::ₘ rest →
      p ∈ (r, .leaving) ::ₘ (run.arrivals r source live + rest) →
      p ∈ S.crew ∨ Comes r S S' p := by
    intro d rest run source live crew hp
    rcases Multiset.mem_cons.1 hp with rfl | hp
    · exact .inr (.aside ⟨_, mem crew⟩ rfl)
    · rcases Multiset.mem_add.1 hp with hp | hp
      · obtain ⟨place, -, rfl⟩ := Multiset.mem_map.1 hp
        exact .inr (.aside ⟨_, mem crew⟩ rfl)
      · exact .inl (crew ▸ Multiset.mem_cons_of_mem hp)
  cases m
  -- The crew stays as it is, or a task is over.
  case conclude cancelled _ _ => exact .inl ((S.conclude_adds r cancelled).2.2.2.2 ▸ hp)
  case expire =>
    have hc := ((S.cancel (S.runs r).context true).conclude_adds r true).2.2.2.2
    exact .inl ((congrArg (p ∈ ·) hc).mp hp)
  case close crew => exact .inl (crew ▸ Multiset.mem_cons_of_mem hp)
  -- New tasks set out.
  case skip crew => exact spreads crew hp
  case spread crew _ _ _ => exact spreads crew hp
  case jump crew _ _ _ =>
    rcases Multiset.mem_cons.1 hp with rfl | hp
    · exact .inr (.aside ⟨_, mem crew⟩ rfl)
    · exact aside crew rfl hp
  case enter crew _ _ _ =>
    rcases Multiset.mem_cons.1 hp with rfl | hp
    · exact .inr (.entered (mem crew))
    · rcases Multiset.mem_cons.1 hp with rfl | hp
      · exact .inr .begun
      · exact .inl (crew ▸ Multiset.mem_cons_of_mem hp)
  -- The task goes over to another duty.
  case start crew _ node_eq slot => exact turned crew (.started (mem crew) node_eq slot) hp
  case finish crew burst => exact turned crew (.performed (mem crew) rfl) hp
  case doze crew burst => exact turned crew (.dozed _ (mem crew) burst) hp
  case resume crew => exact turned crew (.resumed (mem crew)) hp
  case interrupt crew _ => exact turned crew (.interrupted (mem crew)) hp
  case surface inner _ _ cancelled crew isOver =>
    exact turned crew (.surfaced _ (mem crew) (S.conclude_adds inner cancelled).2.1) hp
  case settle crew _ _ => exact turned crew (.settled (mem crew) rfl) hp
  case count source _ live _ edge passed s crew _ _ _ _ =>
    refine aside crew ?_ hp
    cases (s.gate.arrive passed).2 <;> rfl
  all_goals exact aside (by assumption) rfl hp

/-- The duty neither waits for a run nor comes after an execution. -/
def Duty.isPassing : Duty → Bool
  | .nesting _ _ => false
  | .ended _ _ => false
  | .going _ => false
  | _ => true

/-- How a duty comes about in a move. -/
inductive Arises (r : Nat) (S S' : Stage) : Nat × Duty → Prop where
  | passing {d : Duty} (busy : ∃ e, (r, e) ∈ S.crew) (passing : d.isPassing) : Arises r S S' (r, d)
  | entered {node : String} (busy : ∃ e, (r, e) ∈ S.crew) :
      Arises r S S' (r, .nesting node S.nextRun)
  | begun {d : Duty} (passing : d.isPassing) : Arises r S S' (S.nextRun, d)
  | performed {node : String} {touches : List Touch} {result : Result}
      (busy : ∃ e, (r, e) ∈ S.crew)
      (deeds : S'.deeds = .performed r node touches (some result) :: S.deeds) :
      Arises r S S' (r, .ended node result)
  | surfaced {node : String} {inner : Nat} {result : RunResult} (pipeline : String)
      (nesting : (r, .nesting node inner) ∈ S.crew)
      (deeds : S'.deeds = .concluded inner result :: S.deeds) :
      Arises r S S' (r, .ended node (World.nestedResult pipeline result))
  | settled {node : String} {result : Result} (ended : (r, .ended node result) ∈ S.crew)
      (events : S'.events = (r, .nodeCompleted node) :: S.events) :
      Arises r S S' (r, .going node)

section

variable {S S' : Stage} {r s : Nat}

theorem Move.arises (m : Move r S S') {p : Nat × Duty} (hp : p ∈ S'.crew) :
    p ∈ S.crew ∨ Arises r S S' p := by
  refine (m.comes hp).imp_right fun comes => ?_
  cases comes with
  | @aside d busy aside =>
    refine .passing busy ?_
    cases d with
    | nesting | ended | going => cases aside
    | _ => rfl
  | begun => exact .begun rfl
  | started busy _ _ => exact .passing ⟨_, busy⟩ rfl
  | entered busy => exact .entered ⟨_, busy⟩
  | performed busy deeds => exact .performed ⟨_, busy⟩ deeds
  | dozed _ busy _ => exact .passing ⟨_, busy⟩ rfl
  | resumed busy => exact .passing ⟨_, busy⟩ rfl
  | interrupted busy => exact .passing ⟨_, busy⟩ rfl
  | surfaced pipeline nesting deeds => exact .surfaced pipeline nesting deeds
  | settled ended events => exact .settled ended events

theorem Move.idle (m : Move r S S') (hs : s < S.nextRun) (h : S.Idle s) : S'.Idle s := by
  intro d hd
  rcases m.arises hd with hd | hd
  · exact h d hd
  cases hd with
  | passing busy _ | entered busy | performed busy _ => exact busy.elim h
  | begun _ => exact absurd hs (Nat.lt_irrefl _)
  | surfaced _ nesting _ => exact h _ nesting
  | settled ended _ => exact h _ ended

end

/-! ## What deeds come of -/

/-- What a deed of a move comes of. -/
inductive Occasion (r : Nat) (S S' : Stage) : Deed → Prop where
  | asked {source target : String} : Occasion r S S' (.asked r source target)
  | delivered {source target : String} {live : Bool} : Occasion r S S' (.delivered r source target live)
  | performed {node : String} {activity : Activity} {result : Option Result}
      (busy : (r, .performing node activity) ∈ S.crew)
      (deeds : S'.deeds = .performed r node (activity.touches S.network
        ⟨S.valuesOf r, S.cancelled (S.runs r).context, [], []⟩) result :: S.deeds)
      (values : S'.values = (S.setValues (S.runs r).context fun _ => (activity.burst S.network
        ⟨S.valuesOf r, S.cancelled (S.runs r).context, [], []⟩).1.values).values) :
      Occasion r S S' (.performed r node (activity.touches S.network
        ⟨S.valuesOf r, S.cancelled (S.runs r).context, [], []⟩) result)
  /-- A node fails by anything but its execution. -/
  | failed {node : String} {e : PipelineError} (other : ∀ v e', e ≠ .componentExecution v e') :
      Occasion r S S' (.failed r node e)
  | blamed {node : String} {result : Result} {e : ComponentError}
      (ended : (r, .ended node result) ∈ S.crew)
      (goesOn : S.cancelled (S.runs r).context = false)
      (verdict : result.verdict (S.valuesOf r) (S.runs r).failure.isSome = .error e) :
      Occasion r S S' (.failed r node (.componentExecution node e))
  | surfaced {node : String} {inner : Nat} {result : RunResult}
      (nesting : (r, .nesting node inner) ∈ S.crew)
      (taken : Entries.get? (S'.values (S.runs inner).context) Values.endKey = none) :
      Occasion r S S' (.concluded inner result)
  | concluded {t : Nat} {result : RunResult} (post : (t, r) ∈ S.posts) :
      Occasion r S S' (.concluded r result)

theorem Move.occasions {S S' : Stage} {r : Nat} (m : Move r S S') :
    ∃ news, S'.deeds = news ++ S.deeds ∧ ∀ d ∈ news, Occasion r S S' d := by
  have mem : ∀ {d : Duty} {rest : Multiset (Nat × Duty)}, S.crew = (r, d) ::ₘ rest →
      (r, d) ∈ S.crew := fun crew => crew ▸ Multiset.mem_cons_self _ _
  have asks : ∀ {source : String} {edge : Edge} {live : Bool} {X : Stage},
      ∀ d ∈ World.askDeeds r source edge live, Occasion r S X d := by
    intro source edge live X d hd
    rcases askDeeds_cases r source edge live with hn | ⟨-, hn⟩ <;> rw [hn] at hd
    · cases hd
    · exact List.mem_singleton.1 hd ▸ .asked
  have single : ∀ {d : Deed}, Occasion r S S' d → ∀ d' ∈ [d], Occasion r S S' d' :=
    fun h d' hm => List.mem_singleton.1 hm ▸ h
  have nothing : ∀ d ∈ ([] : List Deed), Occasion r S S' d := fun _ hd => absurd hd List.not_mem_nil
  cases m
  case lost => exact ⟨_, rfl, asks⟩
  case count => exact ⟨_, rfl, List.forall_mem_cons.2 ⟨.delivered, asks⟩⟩
  case refuse => exact ⟨_ :: _, (Stage.fail_adds ..).2.1, List.forall_mem_cons.2 ⟨.failed nofun, asks⟩⟩
  case unknown | unusable | exceed => exact ⟨[_], (Stage.fail_adds ..).2.1, single (.failed nofun)⟩
  case blame crew goesOn verdict =>
    exact ⟨[_], (Stage.fail_adds ..).2.1, single (.blamed (mem crew) goesOn verdict)⟩
  case finish crew burst =>
    exact ⟨[_], rfl, single (.performed (mem crew) rfl (by rw [burst]; rfl))⟩
  case doze crew burst =>
    exact ⟨[_], rfl, single (.performed (mem crew) rfl (by rw [burst]; rfl))⟩
  case surface inner node rest cancelled crew isOver =>
    refine ⟨[_], (Stage.conclude_adds ..).2.1, single (.surfaced (mem crew) ?_)⟩
    exact (values_setValues_erase ..).trans (if_pos ⟨rfl, rfl⟩)
  case conclude post _ =>
    exact ⟨[_], (Stage.conclude_adds ..).2.1, single (.concluded (post ▸ Multiset.mem_cons_self _ _))⟩
  case expire post _ =>
    exact ⟨[_], (Stage.conclude_adds ..).2.1, single (.concluded (post ▸ Multiset.mem_cons_self _ _))⟩
  all_goals exact ⟨[], rfl, nothing⟩

/-! ## Runs that are over -/

/-- A run that is over is cancelled or idle, and a run that has failed keeps a failure until it is
over. -/
structure Rested (S : Stage) : Prop where
  reported : Reported S
  tally : ∀ s, s < S.nextRun → Tally S s
  isOver : ∀ s result, .concluded s result ∈ S.deeds →
    s < S.nextRun ∧ (S.cancelled 0 = true ∨ S.Idle s)
  failed : ∀ s e, (s, e) ∈ failures S.deeds →
    (S.runs s).failure.isSome ∨ ∃ result, .concluded s result ∈ S.deeds

namespace Rested

variable {S S' : Stage} {r : Nat}

theorem isOver_move (h : Rested S) (m : Move r S S') (s : Nat) (result : RunResult)
    (hd : .concluded s result ∈ S'.deeds) :
    s < S'.nextRun ∧ (S'.cancelled 0 = true ∨ S'.Idle s) := by
  have old : .concluded s result ∈ S.deeds →
      s < S'.nextRun ∧ (S'.cancelled 0 = true ∨ S'.Idle s) := by
    intro hd
    obtain ⟨hlt, hrest⟩ := h.isOver s result hd
    exact ⟨hlt.trans_le (m.nextRun_le h.reported.oneContext.orderly), hrest.imp m.cancelled (m.idle hlt)⟩
  rcases m.effect h.reported.oneContext with ⟨news, hn, hp, -⟩ | ⟨q, node, e, news, hn, hp, -⟩ |
    ⟨q, begun, hn, -, -, isOver, -⟩ <;> rw [hn] at hd
  · exact old (concluded_append hp hd)
  · rcases List.mem_cons.1 hd with hd | hd
    · cases hd
    · exact old (concluded_append hp hd)
  · rcases List.mem_cons.1 hd with hd | hd
    · injection hd with hs
      subst hs
      exact ⟨begun.trans_le (m.nextRun_le h.reported.oneContext.orderly),
        isOver.imp_right fun hz => m.idle begun ((h.tally s begun).idle hz)⟩
    · exact old hd

theorem failed_move (h : Rested S) (m : Move r S S') (s : Nat) (e : PipelineError)
    (hf : (s, e) ∈ failures S'.deeds) :
    (S'.runs s).failure.isSome ∨ ∃ result, .concluded s result ∈ S'.deeds := by
  have kept : (S'.runs s).failure = (S.runs s).failure → (s, e) ∈ failures S.deeds →
      (S'.runs s).failure.isSome ∨ ∃ result, .concluded s result ∈ S'.deeds := by
    intro he hf
    exact (h.failed s e hf).imp (he ▸ id) fun ⟨result, hd⟩ => ⟨result, m.deeds_subset hd⟩
  rcases m.effect h.reported.oneContext with ⟨news, hn, hp, hk, -⟩ |
    ⟨q, node, e', news, hn, hp, -, -, -, hk, ho, -⟩ | ⟨q, -, hn, -, ho, -⟩ <;> rw [hn] at hf
  · exact kept (hk s) (failures_append hp _ ▸ hf)
  · by_cases hq : s = q
    · subst hq
      refine .inl ?_
      rw [hk]
      cases (S.runs s).failure <;> rfl
    · refine kept (ho s hq) ?_
      rw [← failures_append hp]
      refine (List.mem_cons.1 (show (s, e) ∈ (q, e') :: failures (news ++ S.deeds) from hf)
        ).resolve_left fun h => hq (congrArg Prod.fst h)
  · by_cases hq : s = q
    · subst hq
      exact .inr ⟨_, by rw [hn]; exact List.mem_cons_self⟩
    · exact kept (ho s hq) hf

theorem move (h : Rested S) (m : Move r S S') : Rested S' where
  reported := h.reported.move m
  tally s hs := by
    rcases m.known_or_begun hs with hold | ⟨hn, rfl⟩
    · exact (h.tally s hold).move_of_lt m hold
    · exact .begun h.reported.oneContext.orderly m hn
  isOver := h.isOver_move m
  failed := h.failed_move m

theorem cancel (h : Rested S) (c : Nat) : Rested (S.cancel c true) where
  reported := h.reported.cancel c
  tally s hs := (h.tally s hs).of_counts rfl rfl rfl rfl
  isOver s result hd := (h.isOver s result hd).imp_right fun hr =>
    hr.imp_left (Stage.cancelled_cancel _ c true)
  failed := h.failed

theorem failure_isSome (h : Rested S) {s : Nat} {d : Duty} (busy : (s, d) ∈ S.crew)
    (goesOn : S.cancelled 0 = false) {e : PipelineError} (hf : (s, e) ∈ failures S.deeds) :
    (S.runs s).failure.isSome := by
  refine (h.failed s e hf).resolve_right fun ⟨result, hd⟩ => ?_
  rcases (h.isOver s result hd).2 with hc | hi
  · rw [hc] at goesOn
    cases goesOn
  · exact hi d busy

end Rested

theorem Launch.rested_opening (l : Launch) : Rested l.opening :=
  ⟨l.reported_opening, fun _ hs => Nat.lt_one_iff.1 hs ▸ l.tally_opening, nofun, nofun⟩

theorem Launch.rested_broken (l : Launch) : Rested l.broken :=
  ⟨l.reported_broken, fun _ hs => Nat.lt_one_iff.1 hs ▸ l.tally_broken, nofun, nofun⟩

theorem Course.rested {l : Launch} {past : List (World × Act)} {w : World}
    (h : Course l.world past w) : Rested (w.view (l.allDeeds past)) :=
  h.invariant (fun _ => l.rested_opening) (fun _ => l.rested_broken) (fun m hS => hS.move m)
    fun c hS => hS.cancel c

theorem Course.idle_of_concluded {l : Launch} {past : List (World × Act)} {w : World}
    (h : Course l.world past w) (goesOn : (w.contexts.get 0).cancelled = false) {r : Nat}
    {result : RunResult} (hd : .concluded r result ∈ l.allDeeds past) :
    (w.view (l.allDeeds past)).Idle r :=
  (h.rested.isOver r result hd).2.resolve_left fun hc => Bool.false_ne_true (goesOn.symm.trans hc)

/-! ## What a step brings about -/

theorem Move.events_append {S S' : Stage} {r : Nat} (m : Move r S S') :
    ∃ told, S'.events = told ++ S.events := by
  cases m
  case refuse | unknown | unusable | exceed | blame => exact ⟨[_], (Stage.fail_adds ..).1⟩
  case surface | conclude | expire =>
    obtain ⟨_, _, h⟩ := (Stage.conclude_adds ..).1
    exact ⟨[_], h⟩
  case skip | start | abandon | settle => exact ⟨[_], rfl⟩
  case enter => exact ⟨[_, _], rfl⟩
  all_goals exact ⟨[], rfl⟩

/-- What was done, what happened and what was cancelled is never taken back. -/
structure Recalls (S S' : Stage) : Prop where
  deeds : ∃ news, S'.deeds = news ++ S.deeds
  events : ∃ told, S'.events = told ++ S.events
  cancelled : ∀ c, S.cancelled c = true → S'.cancelled c = true

theorem Recalls.trans {S S' S'' : Stage} (h : Recalls S S') (h' : Recalls S' S'') :
    Recalls S S'' where
  deeds := by
    obtain ⟨⟨news, hd⟩, ⟨news', hd'⟩⟩ := And.intro h.deeds h'.deeds
    exact ⟨news' ++ news, by rw [hd', hd, List.append_assoc]⟩
  events := by
    obtain ⟨⟨told, he⟩, ⟨told', he'⟩⟩ := And.intro h.events h'.events
    exact ⟨told' ++ told, by rw [he', he, List.append_assoc]⟩
  cancelled c hc := h'.cancelled c (h.cancelled c hc)

theorem Move.recalls {S S' : Stage} {r : Nat} (m : Move r S S') : Recalls S S' := by
  obtain ⟨news, hd, -⟩ := m.key 0 Values.errorKey
  exact ⟨⟨news, hd⟩, m.events_append, fun _ => m.cancelled⟩

theorem Moves.recalls {S S' : Stage} (h : Moves S S') : Recalls S S' := by
  induction h with
  | single m => exact m.recalls
  | head m _ ih => exact m.recalls.trans ih

/-- What was not so before some moves and is so after them is brought about by one of them. -/
theorem Moves.exists_move {P Q : Stage → Prop}
    (keep : ∀ {r : Nat} {S S' : Stage}, Move r S S' → P S → P S') {S S' : Stage} (h : Moves S S')
    (hP : P S) (before : ¬Q S) (after : Q S') :
    ∃ r X X', P X ∧ Move r X X' ∧ ¬Q X ∧ Q X' ∧ Recalls X S' := by
  induction h with
  | single m => exact ⟨_, _, _, hP, m, before, after, m.recalls⟩
  | @head S X _ _ m rest ih =>
    by_cases hQ : Q X
    · exact ⟨_, _, _, hP, m, before, hQ, m.recalls.trans rest.recalls⟩
    · exact ih (keep m hP) hQ after

/-- The execution of a node came to a result by the deeds since a stage: it was performed to its end, or
the run of the node's pipeline was concluded. -/
def CameTo (S₀ : Stage) (news : List Deed) (r : Nat) (node : String) (result : Result) : Prop :=
  (∃ touches, .performed r node touches (some result) ∈ news) ∨
    ∃ inner came pipeline, ((r, .nesting node inner) ∈ S₀.crew ∨ S₀.nextRun ≤ inner) ∧
      .concluded inner came ∈ news ∧ result = World.nestedResult pipeline came

theorem CameTo.mono {S₀ : Stage} {news others : List Deed} {r : Nat} {node : String}
    {result : Result} (h : CameTo S₀ news r node result) (hs : news ⊆ others) :
    CameTo S₀ others r node result :=
  h.imp (fun ⟨touches, hm⟩ => ⟨touches, hs hm⟩)
    fun ⟨inner, came, pipeline, hn, hm, he⟩ => ⟨inner, came, pipeline, hn, hs hm, he⟩

/-- What was done and what happened since a stage on which no task was in the middle of a step. -/
structure Since (S₀ S : Stage) (news : List Deed) (told : List (Nat × Happening)) : Prop where
  deeds : S.deeds = news ++ S₀.deeds
  events : S.events = told ++ S₀.events
  nextRun : S₀.nextRun ≤ S.nextRun
  nesting : ∀ r node inner, (r, .nesting node inner) ∈ S.crew →
    (r, .nesting node inner) ∈ S₀.crew ∨ S₀.nextRun ≤ inner
  ended : ∀ r node result, (r, .ended node result) ∈ S.crew → CameTo S₀ news r node result
  going : ∀ r node, (r, .going node) ∈ S.crew → (r, .nodeCompleted node) ∈ told

theorem Since.move {S₀ S S' : Stage} {r : Nat} {news : List Deed} {told : List (Nat × Happening)}
    (h : Since S₀ S news told) (ho : Orderly S) (m : Move r S S') :
    ∃ news told, Since S₀ S' news told := by
  obtain ⟨more, hd, -⟩ := m.key 0 Values.errorKey
  obtain ⟨also, he⟩ := m.events_append
  have added : ∀ {d : Deed}, S'.deeds = d :: S.deeds → d ∈ more ++ news := by
    intro d hs
    have hmore : more = [d] := List.append_cancel_right (hd.symm.trans hs)
    exact hmore ▸ List.mem_cons_self
  refine ⟨more ++ news, also ++ told, by rw [hd, h.deeds, List.append_assoc],
    by rw [he, h.events, List.append_assoc], h.nextRun.trans (m.nextRun_le ho), ?_, ?_, ?_⟩
  · intro q node inner hm
    rcases m.arises hm with hm | hm
    · exact h.nesting q node inner hm
    · cases hm with
      | entered _ => exact .inr h.nextRun
      | passing _ hp | begun hp => cases hp
  · intro q node result hm
    rcases m.arises hm with hm | hm
    · exact (h.ended q node result hm).mono (List.subset_append_right _ _)
    · cases hm with
      | performed _ deeds => exact .inl ⟨_, added deeds⟩
      | surfaced pipeline nesting deeds =>
        exact .inr ⟨_, _, pipeline, h.nesting _ _ _ nesting, added deeds, rfl⟩
      | passing _ hp | begun hp => cases hp
  · intro q node hm
    rcases m.arises hm with hm | hm
    · exact List.mem_append_right _ (h.going q node hm)
    · cases hm with
      | settled _ events =>
        have halso : also = [(r, .nodeCompleted node)] :=
          List.append_cancel_right (he.symm.trans events)
        exact List.mem_append_left _ (halso ▸ List.mem_cons_self)
      | passing _ hp | begun hp => cases hp

theorem World.exists_of_mem_crew {w : World} {L : List Deed} {r : Nat} {d : Duty}
    (h : (r, d) ∈ (w.view L).crew) : ∃ t, (w.tasks.get t).phase = .duty r d := by
  obtain ⟨t, -, ht⟩ := Multiset.mem_bind.1
    (show (r, d) ∈ (Multiset.range w.nextTask).bind fun t => (w.tasks.get t).phase.crew from h)
  refine ⟨t, ?_⟩
  cases hp : (w.tasks.get t).phase with
  | duty s e =>
    rw [hp] at ht
    obtain ⟨rfl, rfl⟩ := Prod.mk.inj (Multiset.mem_singleton.1 ht)
    rfl
  | _ =>
    rw [hp] at ht
    exact absurd ht (Multiset.notMem_zero _)

/-- In no world is a task in the middle of a step. -/
theorem World.since_view (w : World) (L : List Deed) : Since (w.view L) (w.view L) [] [] := by
  refine ⟨rfl, rfl, Nat.le_refl _, fun _ _ _ hm => .inl hm, fun r node result hm => ?_,
    fun r node hm => ?_⟩
  all_goals
    obtain ⟨t, ht⟩ := World.exists_of_mem_crew hm
    cases h : w.tasks.get t <;> rw [h] at ht <;> cases ht

theorem Course.exists_move {l : Launch} {past : List (World × Act)} {u : World}
    (h : Course l.world past u) {P Q : Stage → Prop}
    (keep : ∀ {r : Nat} {S S' : Stage}, Move r S S' → P S → P S')
    (hP : P (u.view (l.allDeeds past))) (cancel : ∀ {S : Stage} (c : Nat), Q (S.cancel c true) → Q S)
    (a : Act) (before : ¬Q (u.view (l.allDeeds past)))
    (after : Q ((u.act a).view (l.allDeeds ((u, a) :: past)))) :
    ∃ r X X' news told, P X ∧ Rested X ∧ Since (u.view (l.allDeeds past)) X news told ∧
      Move r X X' ∧ ¬Q X ∧ Q X' ∧ (∃ more, u.deeds a = more ++ news) ∧
      (∃ also, (u.act a).events.map (fun o => (o.run, o.happening)) =
        also ++ (told ++ u.events.map fun o => (o.run, o.happening))) ∧
      ∀ c, X.cancelled c = true → ((u.act a).contexts.get c).cancelled = true := by
  rw [l.allDeeds_cons] at after
  -- Neither time nor a cancelled context brings it about, so that it is a step.
  have hmoves : Moves (u.view (l.allDeeds past)) ((u.act a).view (u.deeds a ++ l.allDeeds past)) := by
    cases a with
    | step t =>
      refine (World.view_step h.awake t (l.allDeeds past)).resolve_left fun hv => ?_
      rw [show (u.act (.step t)).view _ = _ from hv.1] at after
      exact before after
    | pass ms =>
      rw [show (u.act (.pass ms)).view _ = _ from u.view_pass ms _] at after
      exact absurd after before
    | cancel c =>
      rw [show (u.act (.cancel c)).view _ = _ from u.view_cancel c _] at after
      exact absurd (cancel c after) before
  obtain ⟨r, X, X', ⟨hPX, hX, news, told, hsince⟩, m, hbefore, hafter, ⟨more, hmore⟩, ⟨also, halso⟩,
      hcancelled⟩ :=
    hmoves.exists_move (P := fun S => P S ∧ Rested S ∧
      ∃ news told, Since (u.view (l.allDeeds past)) S news told)
      (fun m ⟨hS, hrested, _, _, hsince⟩ => ⟨keep m hS, hrested.move m,
        hsince.move hrested.reported.oneContext.orderly m⟩)
      ⟨hP, h.rested, [], [], u.since_view _⟩ before after
  refine ⟨r, X, X', news, told, hPX, hX, hsince, m, hbefore, hafter, ⟨more, ?_⟩, ⟨also, ?_⟩,
    hcancelled⟩
  · rw [hsince.deeds, ← List.append_assoc] at hmore
    exact List.append_cancel_right hmore
  · rw [hsince.events] at halso
    exact halso

theorem Course.occasion {l : Launch} {past : List (World × Act)} {u : World}
    (h : Course l.world past u) {P : Stage → Prop}
    (keep : ∀ {r : Nat} {S S' : Stage}, Move r S S' → P S → P S')
    (hP : P (u.view (l.allDeeds past))) {a : Act} {d : Deed} (hd : d ∈ u.deeds a) :
    ∃ r X X' news told, P X ∧ Rested X ∧ Since (u.view (l.allDeeds past)) X news told ∧
      news ⊆ u.deeds a ∧ Occasion r X X' d := by
  have fresh : ¬∃ news, (u.view (l.allDeeds past)).deeds = news ++ l.allDeeds past ∧ d ∈ news := by
    rintro ⟨news, hn, hm⟩
    have hnil : news = [] := List.append_cancel_right (hn.symm.trans (List.nil_append _).symm)
    rw [hnil] at hm
    cases hm
  obtain ⟨r, X, X', news, told, hX, rested, since, m, before, ⟨news', hd', hm⟩, ⟨more, hmore⟩, -⟩ :=
    h.exists_move (Q := fun S => ∃ news, S.deeds = news ++ l.allDeeds past ∧ d ∈ news)
      keep hP (fun _ hS => hS) a fresh ⟨u.deeds a, l.allDeeds_cons .., hd⟩
  obtain ⟨extra, hextra, occasions⟩ := m.occasions
  have hnews : news' = extra ++ news := by
    rw [since.deeds, ← List.append_assoc] at hextra
    exact List.append_cancel_right (hd'.symm.trans hextra)
  rw [hnews, List.mem_append] at hm
  exact ⟨r, X, X', news, told, hX, rested, since, hmore ▸ List.subset_append_right _ _,
    occasions _ (hm.resolve_right fun hm => before ⟨news, since.deeds, hm⟩)⟩

/-! ## A sub-pipeline beside a branch -/

namespace Beside

def node (id : String) (predecessors successors : List String) (component : Component) :
    GraphNode Component :=
  ⟨id, "basic", .ready component (.shared "basic"), predecessors, successors.map fun v => ⟨v, none⟩⟩

/-- A node, a pipeline of the node `x` after it, and the nodes `b` and `c` beside that. -/
def graph (x : Activity) : Graph Component :=
  ⟨"outer", "a", [node "a" [] ["s", "b"] (.basic "basic" .done),
    node "s" ["a"] [] (.pipeline ⟨"inner", "x", [node "x" [] [] (.basic "basic" x)]⟩),
    node "b" ["a"] ["c"] (.basic "basic" .done), node "c" ["b"] [] (.basic "basic" .done)]⟩

def launch (x : Activity) : Launch := ⟨Http.unreachable, [], false, none, graph x, ⟨3, 8⟩, none⟩

end Beside

end Conduit
