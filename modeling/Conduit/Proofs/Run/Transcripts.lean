import Conduit.Proofs.Run.Conclusions
import Conduit.Proofs.Run.Halting

/-!
# Transcripts

The transcript of a run is what it has told, the newest first, with what a reader of it wants to know
beside: which nodes are executed just now, which failures ended no execution, which nodes count as
executed and what the run was concluded with. A move of a task adds one entry at most.
-/

namespace Conduit

/-! ## What a transcript shows of a stage -/

def Duty.executing : Duty → Multiset String
  | .performing node _ => {node}
  | .pausing node _ _ _ => {node}
  | .nesting node _ => {node}
  | .ended node _ => {node}
  | _ => 0

/-- The nodes that tasks execute for a run, one for each execution. -/
def executingIn (r : Nat) (crew : Multiset (Nat × Duty)) : Multiset String :=
  crew.bind fun p => if p.1 = r then p.2.executing else 0

def happeningsIn (r : Nat) (events : List (Nat × Happening)) : List Happening :=
  (events.filter fun e => e.1 == r).map Prod.snd

/-- A node fails for the reason before it is started. -/
def PipelineError.isRefusal : PipelineError → Bool
  | .componentExecution _ _ => false
  | _ => true

/-- The node that was refused in a run, with the text that says why. -/
def Deed.refusal? (r : Nat) : Deed → Option (String × String)
  | .failed s node e => if s = r ∧ e.isRefusal then some (node, e.message) else none
  | _ => none

def refusalsIn (r : Nat) (deeds : List Deed) : List (String × String) :=
  deeds.filterMap (Deed.refusal? r)

def Deed.result? (r : Nat) : Deed → Option RunResult
  | .concluded s result => if s = r then some result else none
  | _ => none

def resultsIn (r : Nat) (deeds : List Deed) : List RunResult := deeds.filterMap (Deed.result? r)

structure Transcript where
  events : List Happening
  executing : Multiset String
  refused : List (String × String)
  executed : List String
  results : List RunResult

def Stage.transcript (S : Stage) (r : Nat) : Transcript where
  events := happeningsIn r S.events
  executing := executingIn r S.crew
  refused := refusalsIn r S.deeds
  executed := (S.runs r).executed
  results := resultsIn r S.deeds

/-! ## Entries -/

/-- What a task adds to the transcript of its run. -/
inductive Transcript.Tells (x : Transcript) : Transcript → Prop where
  | start (node component : String) :
      Tells x { x with
        events := .nodeStarted node component :: x.events
        executing := node ::ₘ x.executing }
  | complete {node : String} {rest : Multiset String} (ends : x.executing = node ::ₘ rest) :
      Tells x { x with
        events := .nodeCompleted node :: x.events
        executing := rest
        executed := x.executed ++ [node] }
  | fail {node : String} {rest : Multiset String} (text : String)
      (ends : x.executing = node ::ₘ rest) :
      Tells x { x with events := .nodeFailed node text :: x.events, executing := rest }
  | refuse (node text : String) :
      Tells x { x with
        events := .nodeFailed node text :: x.events
        refused := (node, text) :: x.refused }
  | skip (node : String) : Tells x { x with events := .nodeSkipped node :: x.events }

theorem Transcript.Tells.results_eq {x y : Transcript} (h : x.Tells y) : y.results = x.results := by
  cases h <;> rfl

/-- The transcript when the run has been concluded. -/
def Transcript.concluded (x : Transcript) (result : RunResult) (early : Bool) : Transcript :=
  { x with
    events := .runCompleted result.isOk early :: x.events
    results := result :: x.results }

section

variable {S S' : Stage} {r s : Nat}

theorem executingIn_cons (d : Duty) (crew : Multiset (Nat × Duty)) :
    executingIn s ((r, d) ::ₘ crew) = (if r = s then d.executing else 0) + executingIn s crew :=
  Multiset.cons_bind ..

theorem executingIn_cons_self (d : Duty) (crew : Multiset (Nat × Duty)) :
    executingIn r ((r, d) ::ₘ crew) = d.executing + executingIn r crew := by
  rw [executingIn_cons, if_pos rfl]

theorem executingIn_add (crew others : Multiset (Nat × Duty)) :
    executingIn s (crew + others) = executingIn s crew + executingIn s others :=
  Multiset.add_bind ..

theorem executingIn_turn {d e : Duty} {rest : Multiset (Nat × Duty)}
    (crew : S.crew = (r, d) ::ₘ rest) (h : e.executing = d.executing) :
    executingIn s ((r, e) ::ₘ rest) = executingIn s S.crew := by
  rw [crew, executingIn_cons, executingIn_cons, h]

theorem executingIn_arrivals (run : Run) (source : String) (live : Bool) :
    executingIn s (run.arrivals r source live) = 0 := by
  unfold executingIn Run.arrivals
  rw [Multiset.bind_map]
  exact (Multiset.bind_congr fun _ _ => ite_self _).trans (Multiset.bind_zero _)

theorem happeningsIn_append (told events : List (Nat × Happening)) :
    happeningsIn s (told ++ events) = happeningsIn s told ++ happeningsIn s events := by
  unfold happeningsIn
  rw [List.filter_append, List.map_append]

theorem happeningsIn_singleton (h : Happening) :
    happeningsIn s [(r, h)] = if r = s then [h] else [] := by
  by_cases hs : r = s <;> simp [happeningsIn, hs]

/-- The deed neither refuses a node nor concludes a run. -/
def Deed.isMute : Deed → Bool
  | .failed _ _ e => !e.isRefusal
  | .concluded _ _ => false
  | _ => true

theorem Deed.isMute_iff {d : Deed} : d.isMute ↔ ∀ s, d.refusal? s = none ∧ d.result? s = none := by
  cases d with
  | failed q node e => cases he : e.isRefusal <;> simp [isMute, refusal?, result?, he]
  | concluded q result => simp [isMute, refusal?, result?]
  | _ => simp [isMute, refusal?, result?]

theorem refusalsIn_eq_nil {news : List Deed} (h : ∀ d ∈ news, d.isMute) : refusalsIn s news = [] :=
  List.filterMap_eq_nil_iff.2 fun d hd => (Deed.isMute_iff.1 (h d hd) s).1

theorem resultsIn_eq_nil {news : List Deed} (h : ∀ d ∈ news, d.isMute) : resultsIn s news = [] :=
  List.filterMap_eq_nil_iff.2 fun d hd => (Deed.isMute_iff.1 (h d hd) s).2

theorem isMute_askDeeds (source : String) (edge : Edge) (live : Bool) :
    ∀ d ∈ World.askDeeds r source edge live, d.isMute := by
  intro d hd
  unfold World.askDeeds at hd
  split at hd
  · rw [List.mem_singleton.1 hd]
    rfl
  · cases hd

/-! ## What operations do to the transcript -/

theorem transcript_withCrew (S : Stage) (crew : Multiset (Nat × Duty)) :
    (S.withCrew crew).transcript s = { S.transcript s with executing := executingIn s crew } := rfl

theorem transcript_withCrew_of {X : Stage} (hX : X.transcript s = S.transcript s)
    {crew : Multiset (Nat × Duty)} (hcrew : executingIn s crew = executingIn s S.crew) :
    (X.withCrew crew).transcript s = S.transcript s := by
  rw [transcript_withCrew, hX, hcrew]
  rfl

theorem transcript_change (S : Stage) {f : Run → Run}
    (hf : (f (S.runs r)).executed = (S.runs r).executed) :
    (S.change r f).transcript s = S.transcript s := by
  have hs : ((S.change r f).runs s).executed = (S.runs s).executed := S.lasting_change r hf
  unfold Stage.transcript
  rw [hs]
  rfl

theorem executed_setStatus (run : Run) (node : String) (status : NodeStatus) :
    (run.setStatus node status).executed = run.executed :=
  Run.Lasting.changeNode (f := Run.executed) (fun _ _ _ _ => rfl) run node _

theorem executed_released (run : Run) : run.released.executed = run.executed :=
  Run.apply_released (fun _ _ _ _ => rfl) run

theorem transcript_say (S : Stage) (h : Happening) :
    (S.say r h).transcript s =
      if r = s then { S.transcript s with events := h :: (S.transcript s).events }
      else S.transcript s := by
  have he : happeningsIn s (S.say r h).events =
      (if r = s then [h] else []) ++ happeningsIn s S.events := by
    rw [← happeningsIn_singleton, ← happeningsIn_append]
    rfl
  unfold Stage.transcript
  rw [he]
  by_cases hs : r = s <;> simp [hs, Stage.say]

theorem transcript_record (S : Stage) {news : List Deed} (mute : ∀ d ∈ news, d.isMute) :
    (S.record news).transcript s = S.transcript s := by
  have hr := refusalsIn_eq_nil (s := s) mute
  have hc := resultsIn_eq_nil (s := s) mute
  unfold refusalsIn at hr
  unfold resultsIn at hc
  unfold Stage.transcript Stage.record refusalsIn resultsIn
  rw [List.filterMap_append, List.filterMap_append, hr, hc]
  rfl

theorem transcript_fail (S : Stage) (node : String) (e : PipelineError) :
    (S.fail r node e).transcript s =
      if r = s then
        { S.transcript s with
          events := .nodeFailed node e.message :: (S.transcript s).events
          refused := if e.isRefusal then (node, e.message) :: (S.transcript s).refused
            else (S.transcript s).refused }
      else S.transcript s := by
  have executed : ((S.fail r node e).runs s).executed = (S.runs s).executed :=
    S.lasting_fail r (fun _ _ _ _ => rfl) node e
  obtain ⟨he, hd, -, -⟩ := S.fail_adds r node e
  unfold Stage.transcript refusalsIn resultsIn
  rw [he, hd, crew_fail, executed, ← List.singleton_append, happeningsIn_append,
    happeningsIn_singleton]
  by_cases hs : r = s
  · cases hr : e.isRefusal <;> simp [List.filterMap_cons, Deed.refusal?, Deed.result?, hs, hr]
  · simp [List.filterMap_cons, Deed.refusal?, Deed.result?, hs]

theorem transcript_conclude (S : Stage) (r s : Nat) (cancelled : Bool) :
    (S.conclude r cancelled).transcript s =
      if r = s then (S.transcript s).concluded (S.resultOf s cancelled) (S.runs s).ended
      else S.transcript s := by
  have hok : (S.resultOf r cancelled).isOk =
      ((S.runs r).failure.isNone && !(cancelled || S.cancelled (S.runs r).context)) := by
    unfold Stage.resultOf
    cases (S.runs r).failure with
    | some e => rfl
    | none => cases cancelled || S.cancelled (S.runs r).context <;> rfl
  have executed : ((S.conclude r cancelled).runs s).executed = (S.runs s).executed :=
    S.lasting_conclude r (fun _ _ _ _ => rfl) cancelled
  have events : (S.conclude r cancelled).events =
      [(r, .runCompleted (S.resultOf r cancelled).isOk (S.runs r).ended)] ++ S.events := by
    rw [hok]
    unfold Stage.conclude
    dsimp only
    split <;> rfl
  obtain ⟨-, hd, -, -, hc⟩ := S.conclude_adds r cancelled
  unfold Stage.transcript Transcript.concluded refusalsIn resultsIn
  rw [events, hd, hc, executed, happeningsIn_append, happeningsIn_singleton]
  by_cases hs : r = s
  · subst hs
    simp [List.filterMap_cons, Deed.refusal?, Deed.result?]
  · simp [List.filterMap_cons, Deed.refusal?, Deed.result?, hs]

theorem transcript_begin (S : Stage) (graph : Graph Component) (context supervisor : Nat)
    (limits : Limits) (hs : s < S.nextRun) :
    (S.begin graph context supervisor limits).transcript s = S.transcript s := by
  have hn : S.nextRun ≠ s := Nat.ne_of_gt hs
  have events : happeningsIn s (S.begin graph context supervisor limits).events =
      happeningsIn s S.events := by
    change happeningsIn s ([(S.nextRun, .runStarted graph.pipeline)] ++ S.events) = _
    rw [happeningsIn_append, happeningsIn_singleton, if_neg hn, List.nil_append]
  unfold Stage.transcript
  rw [events]
  simp only [Stage.begin, Function.update_of_ne hn.symm]

/-! ## What a move adds -/

/-- A run is concluded, with success only when nobody works for it any more. -/
structure Concludes (S S' : Stage) (s : Nat) (result : RunResult) (early : Bool) : Prop where
  transcript : S'.transcript s = (S.transcript s).concluded result early
  outcome : ∀ outcome, result = .ok outcome →
    (S.runs s).unfinished = 0 ∧ outcome = (S.runs s).outcome

theorem Concludes.of_isOver {cancelled early : Bool} (isOver : S.isOver s = some cancelled)
    (transcript : S'.transcript s = (S.transcript s).concluded (S.resultOf s cancelled) early) :
    Concludes S S' s (S.resultOf s cancelled) early := by
  refine ⟨transcript, fun outcome h => ?_⟩
  unfold Stage.resultOf at h
  split at h
  · cases h
  · split at h
    · cases h
    · next hc =>
      cases h
      unfold Stage.isOver at isOver
      split at isOver
      · next hz => exact ⟨hz, rfl⟩
      · split at isOver
        · cases isOver
          exact absurd rfl hc
        · cases isOver

/-- The transcript of the run stays as it is, or a task of the run adds to it. -/
def Speaks (S S' : Stage) (s : Nat) : Prop :=
  S'.transcript s = S.transcript s ∨
    (∃ d, (s, d) ∈ S.crew) ∧ (S.transcript s).Tells (S'.transcript s)

theorem executingIn_of_ne (hr : r ≠ s) {d e : Duty} {rest : Multiset (Nat × Duty)}
    (crew : S.crew = (r, d) ::ₘ rest) : executingIn s ((r, e) ::ₘ rest) = executingIn s S.crew := by
  rw [crew, executingIn_cons, executingIn_cons, if_neg hr, if_neg hr]

/-- A task tells something of its run, and nothing of the others. -/
theorem speaks_withCrew {X : Stage} {crew : Multiset (Nat × Duty)} {d : Duty} (busy : (r, d) ∈ S.crew)
    (others : ∀ s, r ≠ s → X.transcript s = S.transcript s)
    (hcrew : ∀ s, r ≠ s → executingIn s crew = executingIn s S.crew)
    (tells : (S.transcript r).Tells ((X.withCrew crew).transcript r)) :
    Speaks S (X.withCrew crew) s := by
  by_cases hr : r = s
  · subst hr
    exact .inr ⟨⟨d, busy⟩, tells⟩
  · exact .inl (transcript_withCrew_of (others s hr) (hcrew s hr))

/-- A task tells a happening after the change of its run, and goes over to another duty. -/
theorem speaks_say {X : Stage} {d e : Duty} {rest : Multiset (Nat × Duty)} {h : Happening}
    (crew : S.crew = (r, d) ::ₘ rest) (others : ∀ s, r ≠ s → X.transcript s = S.transcript s)
    (tells : (S.transcript r).Tells { X.transcript r with
      events := h :: (X.transcript r).events
      executing := e.executing + executingIn r rest }) :
    Speaks S ((X.say r h).withCrew ((r, e) ::ₘ rest)) s := by
  refine speaks_withCrew (crew ▸ Multiset.mem_cons_self _ _) (fun s hs => ?_)
    (fun s hs => executingIn_of_ne hs crew) ?_
  · rw [transcript_say, if_neg hs, others s hs]
  · rw [transcript_withCrew, executingIn_cons_self, transcript_say, if_pos rfl]
    exact tells

theorem speaks_refuse {X : Stage} {d : Duty} {rest : Multiset (Nat × Duty)} (node : String)
    {e : PipelineError} (crew : S.crew = (r, d) ::ₘ rest) (idle : d.executing = 0)
    (hX : ∀ s, X.transcript s = S.transcript s) (refusal : e.isRefusal) :
    Speaks S ((X.fail r node e).withCrew ((r, .leaving) ::ₘ rest)) s := by
  refine speaks_withCrew (crew ▸ Multiset.mem_cons_self _ _) (fun s hs => ?_)
    (fun s hs => executingIn_of_ne hs crew) ?_
  · rw [transcript_fail, if_neg hs, hX]
  · have hcrew : executingIn r ((r, .leaving) ::ₘ rest) = executingIn r S.crew :=
      executingIn_turn crew idle.symm
    rw [transcript_withCrew, hcrew, transcript_fail, if_pos rfl, if_pos refusal, hX]
    exact .refuse node e.message

/-- A task whose move is told of its run has something to do for it. -/
theorem Move.transcript (m : Move r S S') (hs : s < S.nextRun) :
    Speaks S S' s ∨ ∃ result early, Concludes S S' s result early := by
  have executing : ∀ {d : Duty} {rest : Multiset (Nat × Duty)}, S.crew = (r, d) ::ₘ rest →
      (S.transcript r).executing = d.executing + executingIn r rest := by
    intro d rest crew
    change executingIn r S.crew = _
    rw [crew, executingIn_cons_self]
  cases m
  -- Nothing is told.
  case giveUp d _ crew isOpen _ =>
    refine .inl (.inl (transcript_withCrew_of rfl (executingIn_turn crew ?_)))
    obtain ⟨_, _, _, rfl⟩ | ⟨_, rfl⟩ := Duty.eq_of_isOpen isOpen <;> rfl
  case stray crew _ _ | rest crew _ | resume crew | interrupt crew _ =>
    exact .inl (.inl (transcript_withCrew_of rfl (executingIn_turn crew rfl)))
  case lost crew _ _ _ _ =>
    exact .inl (.inl (transcript_withCrew_of (transcript_record S (isMute_askDeeds _ _ _))
      (executingIn_turn crew rfl)))
  case count source _ live _ edge passed st crew _ _ _ _ =>
    refine .inl (.inl (transcript_withCrew_of ?_ (executingIn_turn crew ?_)))
    · rw [transcript_record _ (List.forall_mem_cons.2 ⟨rfl, isMute_askDeeds source edge live⟩)]
      exact transcript_change S (Run.Lasting.changeNode (f := Run.executed) (fun _ _ _ _ => rfl) ..)
    · cases (st.gate.arrive passed).2 <;> rfl
  case take crew _ _ _ _ _ | queue crew _ _ _ _ _ | grant crew _ | withdraw crew _ _
      | halt crew _ =>
    exact .inl (.inl (transcript_withCrew_of (transcript_change S rfl) (executingIn_turn crew rfl)))
  case retreat crew _ =>
    exact .inl (.inl (transcript_withCrew_of (transcript_change S (executed_released _))
      (executingIn_turn crew rfl)))
  case close crew =>
    refine .inl (.inl (transcript_withCrew_of (transcript_change S rfl) ?_))
    simp [crew, executingIn_cons, Duty.executing]
  case finish crew _ | doze crew _ =>
    refine .inl (.inl (transcript_withCrew_of (transcript_record _ ?_) (executingIn_turn crew rfl)))
    exact List.forall_mem_singleton.2 rfl
  case jump crew _ _ _ =>
    refine .inl (.inl (transcript_withCrew_of (S := S) ?_ ?_))
    · exact transcript_change (S.setValues _ _) rfl
    · simp [crew, executingIn_cons, Duty.executing]
  case spread crew _ _ _ =>
    refine .inl (.inl (transcript_withCrew_of (S := S) ?_ ?_))
    · exact transcript_change (S.setValues _ _) rfl
    · simp [crew, executingIn_cons, executingIn_add, executingIn_arrivals, Duty.executing]
  -- A task tells something.
  case skip node rest crew =>
    have hcrew : ∀ s, executingIn s
        ((r, .leaving) ::ₘ ((S.runs r).arrivals r node false + rest)) = executingIn s S.crew := by
      intro s
      simp [crew, executingIn_cons, executingIn_add, executingIn_arrivals, Duty.executing]
    refine .inl (speaks_withCrew (crew ▸ Multiset.mem_cons_self _ _) (fun s hs => ?_)
      (fun s _ => hcrew s) ?_)
    · rw [transcript_say, if_neg hs, transcript_change S (executed_setStatus ..)]
    · rw [transcript_withCrew, hcrew, transcript_say, if_pos rfl,
        transcript_change S (executed_setStatus ..)]
      exact .skip node
  case refuse crew _ _ _ =>
    exact .inl (speaks_refuse _ crew rfl (fun s => transcript_record S (isMute_askDeeds _ _ _)) rfl)
  case unknown crew _ _ | unusable crew _ _ _ =>
    exact .inl (speaks_refuse _ crew rfl (fun _ => rfl) rfl)
  case exceed crew _ _ _ _ =>
    exact .inl (speaks_refuse _ crew rfl (fun s => transcript_change S rfl) rfl)
  case start node rest n kind activity origin crew _ _ _ =>
    refine .inl (speaks_say crew (fun s _ => transcript_change S (executed_setStatus ..)) ?_)
    have hcrew : (Duty.performing node activity).executing + executingIn r rest =
        node ::ₘ (S.transcript r).executing := by
      rw [executing crew, show (Duty.admitted node).executing = 0 from rfl, zero_add]
      exact Multiset.singleton_add node _
    rw [transcript_change S (executed_setStatus ..), hcrew]
    exact .start node n.componentId
  case enter t node rest n graph origin crew _ _ _ =>
    -- The run that begins is another one, and its task executes nothing.
    by_cases hr : r = s
    · subst hr
      refine .inl (.inr ⟨⟨_, crew ▸ Multiset.mem_cons_self _ _⟩, ?_⟩)
      have hcrew : executingIn r ((r, .nesting node S.nextRun) ::ₘ
          (S.nextRun, .dispatched graph.root) ::ₘ rest) = node ::ₘ (S.transcript r).executing := by
        rw [executing crew, executingIn_cons, executingIn_cons, if_pos rfl]
        simp [Duty.executing]
      rw [transcript_withCrew, hcrew, transcript_begin _ _ _ _ _ (by exact hs), transcript_say,
        if_pos rfl, transcript_change S (executed_setStatus ..)]
      exact .start node n.componentId
    · refine .inl (.inl (transcript_withCrew_of ?_
        (by simp [crew, executingIn_cons, hr, Duty.executing])))
      rw [transcript_begin _ _ _ _ _ (by exact hs), transcript_say, if_neg hr,
        transcript_change S (executed_setStatus ..)]
  case abandon node result rest crew _ =>
    have kept : ∀ s, (S.change r fun run => run.released.setStatus node .failed).transcript s =
        S.transcript s :=
      fun s => transcript_change S ((executed_setStatus ..).trans (executed_released _))
    refine .inl (speaks_say crew (fun s _ => kept s) ?_)
    rw [kept r, show Duty.leaving.executing = 0 from rfl, zero_add]
    exact .fail _ (executing crew)
  case blame node result e rest crew _ _ =>
    have kept : ∀ s, (S.change r Run.released).transcript s = S.transcript s :=
      fun s => transcript_change S (executed_released _)
    refine .inl (speaks_withCrew (crew ▸ Multiset.mem_cons_self _ _) (fun s hs => ?_)
      (fun s hs => executingIn_of_ne hs crew) ?_)
    · rw [transcript_fail, if_neg hs, kept s]
    · rw [transcript_withCrew, executingIn_cons_self, show Duty.leaving.executing = 0 from rfl,
        zero_add, transcript_fail, if_pos rfl, kept r]
      exact .fail _ (executing crew)
  case settle node result rest crew _ _ =>
    have hX : ∀ s, (S.change r fun run => run.released.completed node).transcript s =
        if r = s then { S.transcript s with executed := (S.transcript s).executed ++ [node] }
        else S.transcript s := by
      intro s
      unfold Stage.transcript
      by_cases hr : r = s
      · subst hr
        simp only [Stage.change, Function.update_self, if_true, Run.completed, executed_released]
      · simp only [Stage.change, Function.update_of_ne (Ne.symm hr), hr, if_false]
    refine .inl (speaks_say crew (fun s hs => (hX s).trans (if_neg hs)) ?_)
    rw [hX, if_pos rfl, show (Duty.going node).executing = 0 from rfl, zero_add]
    exact .complete (executing crew)
  -- A run is concluded.
  case surface inner node rest cancelled crew isOver =>
    have hcrew : ∀ e : Duty, e.executing = {node} →
        executingIn s ((r, e) ::ₘ rest) = executingIn s S.crew :=
      fun e he => executingIn_turn crew he
    by_cases hi : inner = s
    · subst hi
      refine .inr ⟨_, (S.runs inner).ended, .of_isOver isOver ?_⟩
      rw [transcript_withCrew, hcrew _ rfl]
      exact congrArg (fun x : Transcript => { x with executing := executingIn inner S.crew })
        ((transcript_conclude S inner inner cancelled).trans (if_pos rfl))
    · exact .inl (.inl (transcript_withCrew_of
        ((transcript_conclude S inner s cancelled).trans (if_neg hi)) (hcrew _ rfl)))
  case conclude t posts cancelled _ isOver =>
    have hc := transcript_conclude S r s cancelled
    by_cases hr : r = s
    · subst hr
      exact .inr ⟨_, _, .of_isOver isOver (hc.trans (if_pos rfl))⟩
    · exact .inl (.inl (hc.trans (if_neg hr)))
  case expire t posts _ _ =>
    have hc := transcript_conclude (S.cancel (S.runs r).context true) r s true
    by_cases hr : r = s
    · subst hr
      refine .inr ⟨_, _, hc.trans (if_pos rfl), fun outcome h => ?_⟩
      unfold Stage.resultOf at h
      split at h <;> cases h
    · exact .inl (.inl (hc.trans (if_neg hr)))

theorem Move.transcript_begun (m : Move r S S') (h : Rested S) (hn : S'.nextRun ≠ S.nextRun) :
    S'.transcript S.nextRun = ⟨[.runStarted (S'.runs S.nextRun).graph.pipeline], 0, [], [], []⟩ := by
  have ho := h.reported.oneContext.orderly
  cases m
  case enter t node rest n graph origin crew _ _ _ =>
    have hr := (ho.crew _ (crew ▸ Multiset.mem_cons_self _ _)).1
    -- Nobody worked for a run of that number before, nor was anything told or done in it.
    have hrest : executingIn S.nextRun rest = 0 := by
      refine (Multiset.bind_congr fun p hp => if_neg ?_).trans (Multiset.bind_zero _)
      exact Nat.ne_of_lt (ho.crew p (crew ▸ Multiset.mem_cons_of_mem hp)).1
    have hevents : happeningsIn S.nextRun S.events = [] := by
      refine List.map_eq_nil_iff.2 (List.filter_eq_nil_iff.2 fun e he => ?_)
      simpa using Nat.ne_of_lt (ho.events e he)
    have hrefused : refusalsIn S.nextRun S.deeds = [] := by
      refine List.filterMap_eq_nil_iff.2 fun d hd => ?_
      cases d with
      | failed q v e =>
        have hq := ho.deeds _ hd q (beq_self_eq_true q)
        exact if_neg fun h => Nat.ne_of_lt hq h.1
      | _ => rfl
    have hresults : resultsIn S.nextRun S.deeds = [] := by
      refine List.filterMap_eq_nil_iff.2 fun d hd => ?_
      cases d with
      | concluded q result => exact if_neg (Nat.ne_of_lt (h.isOver q result hd).1)
      | _ => rfl
    have hevents' : happeningsIn S.nextRun
        ((S.nextRun, .runStarted graph.pipeline) :: (r, .nodeStarted node n.componentId) :: S.events)
          = [.runStarted graph.pipeline] := by
      change happeningsIn S.nextRun ([(S.nextRun, .runStarted graph.pipeline)] ++
        ([(r, .nodeStarted node n.componentId)] ++ S.events)) = _
      rw [happeningsIn_append, happeningsIn_append, happeningsIn_singleton, happeningsIn_singleton,
        if_pos rfl, if_neg (Nat.ne_of_lt hr), hevents]
      rfl
    have hcrew : executingIn S.nextRun ((r, .nesting node S.nextRun) ::ₘ
        (S.nextRun, .dispatched graph.root) ::ₘ rest) = 0 := by
      rw [executingIn_cons, executingIn_cons, if_neg (Nat.ne_of_lt hr), if_pos rfl, hrest]
      rfl
    have hrun := Stage.runs_begin_self ((S.change r fun run => run.setStatus node .running).say r
      (.nodeStarted node n.componentId)) graph (S.runs r).context t (S.runs r).limits
    unfold Stage.transcript
    simp only [Stage.runs_withCrew]
    erw [hrun, hevents', hcrew]
    simp only [Stage.withCrew, Stage.begin, Stage.say, Stage.change, hrefused, hresults]
    rfl
  case refuse | unknown | unusable | exceed | blame => exact (hn (Stage.fail_adds ..).2.2.1).elim
  case surface | conclude | expire => exact (hn (Stage.conclude_adds ..).2.2.1).elim
  all_goals exact (hn rfl).elim

end

/-! ## Transcripts in order -/

/-- The events of a run, the newest first, account for its executions and its refusals. It is started
before anything else happens. A node is started when fewer than `limit` are executed, and every end
is that of an execution of its node. A failure that is the end of none is a refusal. -/
inductive Matched (pipeline : String) (limit : Nat) :
    List Happening → Multiset String → List (String × String) → Prop where
  | begin : Matched pipeline limit [.runStarted pipeline] 0 []
  | start {events : List Happening} {executing : Multiset String} {refused : List (String × String)}
      (node component : String) (before : Matched pipeline limit events executing refused)
      (room : executing.card < limit) :
      Matched pipeline limit (.nodeStarted node component :: events) (node ::ₘ executing) refused
  | complete {events : List Happening} {executing : Multiset String}
      {refused : List (String × String)} {node : String}
      (before : Matched pipeline limit events (node ::ₘ executing) refused) :
      Matched pipeline limit (.nodeCompleted node :: events) executing refused
  | fail {events : List Happening} {executing : Multiset String}
      {refused : List (String × String)} {node : String} (text : String)
      (before : Matched pipeline limit events (node ::ₘ executing) refused) :
      Matched pipeline limit (.nodeFailed node text :: events) executing refused
  | refuse {events : List Happening} {executing : Multiset String}
      {refused : List (String × String)} (node text : String)
      (before : Matched pipeline limit events executing refused) :
      Matched pipeline limit (.nodeFailed node text :: events) executing ((node, text) :: refused)
  | skip {events : List Happening} {executing : Multiset String}
      {refused : List (String × String)} (node : String)
      (before : Matched pipeline limit events executing refused) :
      Matched pipeline limit (.nodeSkipped node :: events) executing refused
  | conclude {events : List Happening} {executing : Multiset String}
      {refused : List (String × String)} (success early : Bool)
      (before : Matched pipeline limit events executing refused) :
      Matched pipeline limit (.runCompleted success early :: events) executing refused

/-- Whether the run that completed succeeded. -/
def Happening.success? : Happening → Option Bool
  | .runCompleted success _ => some success
  | _ => none

/-- The events of a transcript agree with what it shows beside. -/
structure Transcript.Sound (pipeline : String) (limit : Nat) (x : Transcript) : Prop where
  matched : Matched pipeline limit x.events x.executing x.refused
  executed : (x.events.filterMap Happening.completed?).reverse = x.executed
  results : x.events.filterMap Happening.success? = x.results.map Except.isOk

namespace Transcript.Sound

variable {pipeline : String} {limit : Nat} {x y : Transcript}

theorem begun (pipeline : String) (limit : Nat) :
    Sound pipeline limit ⟨[.runStarted pipeline], 0, [], [], []⟩ :=
  ⟨.begin, rfl, rfl⟩

theorem tells (h : x.Sound pipeline limit) (t : x.Tells y) (room : y.executing.card ≤ limit) :
    y.Sound pipeline limit := by
  obtain ⟨matched, executed, results⟩ := h
  cases t with
  | start node component =>
    rw [Multiset.card_cons] at room
    exact ⟨.start node component matched room, executed, results⟩
  | @complete node rest ends =>
    refine ⟨.complete (ends ▸ matched), ?_, results⟩
    exact List.reverse_cons.trans (congrArg (· ++ [node]) executed)
  | fail text ends => exact ⟨.fail text (ends ▸ matched), executed, results⟩
  | refuse node text => exact ⟨.refuse node text matched, executed, results⟩
  | skip node => exact ⟨.skip node matched, executed, results⟩

theorem concluded (h : x.Sound pipeline limit) (result : RunResult) (early : Bool) :
    (x.concluded result early).Sound pipeline limit := by
  obtain ⟨matched, executed, results⟩ := h
  exact ⟨.conclude _ early matched, executed, congrArg (List.cons result.isOk) results⟩

end Transcript.Sound

/-! ## The transcripts of all runs -/

theorem card_executingIn_le (r : Nat) (crew : Multiset (Nat × Duty)) :
    (executingIn r crew).card ≤ crewCount Duty.holds r crew := by
  induction crew using Multiset.induction with
  | empty => exact Nat.le_refl _
  | cons p crew ih =>
    obtain ⟨s, d⟩ := p
    rw [executingIn_cons, crewCount_cons, Multiset.card_add, add_comm]
    refine Nat.add_le_add ih ?_
    by_cases hs : s = r
    · cases d <;> simp [Duty.executing, Duty.holds, hs]
    · simp [hs]

/-- The transcripts of all runs are in order. A run that was concluded with success has nobody left to work
for it, and a run that was concluded and not cancelled has said its last word. -/
structure Transcribed (S : Stage) : Prop where
  concluded : Concluded S
  sound : ∀ s, s < S.nextRun →
    (S.transcript s).Sound (S.runs s).graph.pipeline (S.runs s).limits.parallel
  outcome : ∀ s outcome, .ok outcome ∈ (S.transcript s).results →
    S.Idle s ∧ outcome = (S.runs s).outcome
  last : ∀ s, (S.transcript s).results ≠ [] → S.cancelled 0 = true ∨
    ∃ success early events, (S.transcript s).events = .runCompleted success early :: events

theorem mem_resultsIn {r : Nat} {result : RunResult} {deeds : List Deed} :
    result ∈ resultsIn r deeds ↔ .concluded r result ∈ deeds := by
  constructor
  · intro h
    obtain ⟨d, hd, hr⟩ := List.mem_filterMap.1 h
    cases d with
    | concluded q result' =>
      obtain ⟨rfl, he⟩ := Option.ite_none_right_eq_some.1 hr
      exact Option.some.inj he ▸ hd
    | _ => cases hr
  · exact fun h => List.mem_filterMap.2 ⟨_, h, if_pos rfl⟩

namespace Transcribed

variable {S S' : Stage} {r : Nat}

theorem sound_move (h : Transcribed S) (m : Move r S S') (s : Nat) (hs : s < S'.nextRun) :
    (S'.transcript s).Sound (S'.runs s).graph.pipeline (S'.runs s).limits.parallel := by
  have rested := h.concluded.rested
  have tally := (rested.move m).tally s hs
  rcases m.known_or_begun hs with hold | ⟨hn, rfl⟩
  · have hframe := m.frame hold
    simp only [Run.frame, Prod.mk.injEq] at hframe
    obtain ⟨hg, -, -, hl⟩ := hframe
    rw [hg, hl]
    rcases m.transcript hold with (he | ⟨-, ht⟩) | ⟨result, early, hc⟩
    · exact he ▸ h.sound s hold
    · refine (h.sound s hold).tells ht ?_
      have hle := card_executingIn_le s S'.crew
      have hp := tally.permits
      rw [hl] at hp
      change (executingIn s S'.crew).card ≤ _
      omega
    · exact hc.transcript ▸ (h.sound s hold).concluded result early
  · exact m.transcript_begun rested hn ▸ .begun _ _

theorem outcome_move (h : Transcribed S) (m : Move r S S') (s : Nat) (outcome : RunOutcome)
    (ho : .ok outcome ∈ (S'.transcript s).results) : S'.Idle s ∧ outcome = (S'.runs s).outcome := by
  have rested := h.concluded.rested
  have hs' := ((rested.move m).isOver s _ (mem_resultsIn.1 ho)).1
  rcases m.known_or_begun hs' with hs | ⟨hn, rfl⟩
  · have kept : S.Idle s ∧ outcome = (S.runs s).outcome →
        S'.Idle s ∧ outcome = (S'.runs s).outcome := fun ⟨idle, he⟩ =>
      ⟨m.idle hs idle, he.trans (m.outcome_of_idle hs idle).symm⟩
    rcases m.transcript hs with (he | ⟨⟨d, busy⟩, ht⟩) | ⟨result, early, hc⟩
    · exact kept (h.outcome s outcome (he ▸ ho))
    · exact absurd busy ((h.outcome s outcome (ht.results_eq ▸ ho)).1 d)
    · rw [hc.transcript] at ho
      rcases List.mem_cons.1 ho with rfl | ho
      · obtain ⟨hz, he⟩ := hc.outcome outcome rfl
        exact kept ⟨(rested.tally s hs).idle hz, he⟩
      · exact kept (h.outcome s outcome ho)
  · rw [m.transcript_begun rested hn] at ho
    cases ho

theorem last_move (h : Transcribed S) (m : Move r S S') (s : Nat) (hr : (S'.transcript s).results ≠ []) :
    S'.cancelled 0 = true ∨
      ∃ success early events, (S'.transcript s).events = .runCompleted success early :: events := by
  have rested := h.concluded.rested
  obtain ⟨result, hd⟩ := List.exists_mem_of_ne_nil _ hr
  have hs' := ((rested.move m).isOver s _ (mem_resultsIn.1 hd)).1
  rcases m.known_or_begun hs' with hs | ⟨hn, rfl⟩
  · rcases m.transcript hs with (he | ⟨⟨d, busy⟩, ht⟩) | ⟨result, early, hc⟩
    · exact he ▸ (h.last s (he ▸ hr)).imp_left m.cancelled
    · rw [ht.results_eq] at hd
      rcases (rested.isOver s result (mem_resultsIn.1 hd)).2 with hc | idle
      · exact .inl (m.cancelled hc)
      · exact absurd busy (idle d)
    · exact .inr ⟨_, _, _, congrArg Transcript.events hc.transcript⟩
  · rw [m.transcript_begun rested hn] at hr
    exact absurd rfl hr

theorem move (h : Transcribed S) (m : Move r S S') : Transcribed S' where
  concluded := h.concluded.move m
  sound := h.sound_move m
  outcome := h.outcome_move m
  last := h.last_move m

theorem cancel (h : Transcribed S) (c : Nat) : Transcribed (S.cancel c true) where
  concluded := h.concluded.cancel c
  sound := h.sound
  outcome := h.outcome
  last s hr := (h.last s hr).imp_left (S.cancelled_cancel c true)

end Transcribed

theorem Launch.transcribed_opening (l : Launch) : Transcribed l.opening where
  concluded := l.concluded_opening
  sound s hs := by
    obtain rfl := Nat.lt_one_iff.1 hs
    exact .begun l.graph.pipeline _
  outcome s outcome ho := nomatch ho
  last s hr := absurd rfl hr

section

variable {l : Launch} {past : List (World × Act)} {w : World}

theorem Course.transcribed (h : Course l.world past w) (fits : l.Fits) :
    Transcribed (w.view (l.allDeeds past)) :=
  h.invariant (P := fun S => l.Fits → Transcribed S) (fun _ _ => l.transcribed_opening)
    (fun hb fits => absurd fits hb) (fun m hS fits => (hS fits).move m)
    (fun c hS fits => (hS fits).cancel c) fits

end

/-! ## Transcripts of worlds -/

def Task.executing (r : Nat) : Task → Multiset String
  | .pausing s node _ _ _ => if s = r then {node} else 0
  | .nesting s node _ => if s = r then {node} else 0
  | _ => 0

namespace World

/-- The nodes that are executed for a run, one for each execution that is under way. -/
def executing (w : World) (r : Nat) : Multiset String :=
  (Multiset.range w.nextTask).bind fun t => (w.tasks.get t).executing r

theorem executingIn_view (w : World) (L : List Deed) (r : Nat) :
    executingIn r (w.view L).crew = w.executing r := by
  unfold executingIn executing
  change ((Multiset.range w.nextTask).bind fun u => (w.tasks.get u).phase.crew).bind _ = _
  rw [Multiset.bind_assoc]
  refine Multiset.bind_congr fun t _ => ?_
  cases w.tasks.get t with
  | «over» | launching | conducting => rfl
  | _ => exact (Multiset.singleton_bind ..).trans (by simp [Duty.executing, Task.executing])

theorem happeningsIn_view (w : World) (L : List Deed) (r : Nat) :
    happeningsIn r (w.view L).events = w.happenings r := by
  change happeningsIn r (w.events.map fun o => (o.run, o.happening)) = _
  unfold happeningsIn happenings
  rw [List.filter_map, List.map_map]
  rfl

end World

end Conduit
