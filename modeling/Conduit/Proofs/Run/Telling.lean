import Conduit.Proofs.Run.History

/-!
# What a step tells

A step tells of at most one node that it is opened, and after that of at most one execution that it
ends. If the end of a run was asked for when a node is done, the run is halted in the same step. A
condition is evaluated before all else that the step does.
-/

namespace Conduit

namespace Happening

/-- An execution of the node has ended, or the node failed before one started. -/
def ends (v : String) : Happening → Bool
  | .nodeCompleted u => u == v
  | .nodeFailed u _ => u == v
  | _ => false

/-- A node is started or skipped. -/
def isOpening : Happening → Bool
  | .nodeStarted _ _ => true
  | .nodeSkipped _ => true
  | _ => false

def isClosing : Happening → Bool
  | .nodeCompleted _ => true
  | .nodeFailed _ _ => true
  | _ => false

theorem isClosing_of_isOpening {h : Happening} (ho : h.isOpening) : h.isClosing = false := by
  cases h with
  | nodeCompleted | nodeFailed => cases ho
  | _ => rfl

end Happening

def Deed.isAsk : Deed → Bool
  | .asked _ _ _ => true
  | _ => false

/-- The deed is one of an arrival at a gate. -/
def Deed.isOfArrival : Deed → Bool
  | .asked _ _ _ => true
  | .delivered _ _ _ _ => true
  | _ => false

theorem Deed.isAsk_of_not_isOfArrival {d : Deed} (h : d.isOfArrival = false) : d.isAsk = false := by
  cases d with
  | asked => cases h
  | _ => rfl

/-- The deed is one of an execution: it went on, the run that it conducted was concluded, or its node
failed for what it came to. -/
def Deed.isOfExecution : Deed → Bool
  | .performed _ _ _ _ => true
  | .concluded _ _ => true
  | .failed _ _ (.componentExecution _ _) => true
  | _ => false

theorem Deed.not_isOfArrival {d : Deed} (h : d.isOfExecution) : d.isOfArrival = false := by
  cases d with
  | asked | delivered => cases h
  | _ => rfl

namespace World

/-! ## What operations tell -/

section

variable (w : World)

@[simp] theorem events_wake (t : Nat) : (w.wake t).events = w.events := by
  unfold wake
  split <;> rfl

@[simp] theorem events_wakeAll (ts : List Nat) : (w.wakeAll ts).events = w.events := by
  unfold wakeAll
  induction ts generalizing w with
  | nil => rfl
  | cons t ts ih => rw [List.foldl_cons, ih, events_wake]

@[simp] theorem events_cancel (c : Nat) : (w.cancel c).events = w.events := by
  unfold cancel
  dsimp only
  split
  · rfl
  · exact events_wakeAll ..

@[simp] theorem events_close (t r : Nat) : (w.close t r).events = w.events := by
  unfold close
  dsimp only
  split
  · exact events_wake ..
  · rfl

@[simp] theorem events_release (r : Nat) : (w.release r).events = w.events := by
  unfold release
  split
  · rfl
  · exact events_wake ..

@[simp] theorem events_apply (c : Nat) (scene : Scene) : (w.apply c scene).events = w.events := by
  unfold apply
  dsimp only
  split
  · split <;> exact events_cancel ..
  · split <;> rfl

@[simp] theorem events_abandon (r : Nat) (node : String) : (w.abandon r node).events =
    ⟨r, w.now, .nodeFailed node PipelineError.cancelled.message⟩ :: w.events := rfl

@[simp] theorem events_fail (r : Nat) (node : String) (e : PipelineError) :
    (w.fail r node e).events = ⟨r, w.now, .nodeFailed node e.message⟩ :: w.events := by
  unfold fail
  dsimp only
  rw [changeRun_events]
  split <;> rfl

theorem events_conclude (r : Nat) (cancelled : Bool) : ∃ success early,
    (w.conclude r cancelled).1.events = ⟨r, w.now, .runCompleted success early⟩ :: w.events := by
  unfold conclude
  dsimp only
  split
  · exact ⟨_, _, rfl⟩
  · split <;> exact ⟨_, _, rfl⟩

theorem context_spawnIn (r : Nat) (task : Task) :
    ((w.spawnIn r task).runs.get r).context = (w.runs.get r).context := by
  unfold spawnIn spawn
  dsimp only
  rw [get_runs_changeRun, if_pos rfl]

theorem spawnArrivals_frame (r : Nat) (source : String) (live : Bool) :
    (w.spawnArrivals r source live).events = w.events ∧
      (w.spawnArrivals r source live).contexts = w.contexts ∧
      ((w.spawnArrivals r source live).runs.get r).context = (w.runs.get r).context := by
  unfold spawnArrivals
  generalize List.range _ = places
  induction places generalizing w with
  | nil => exact ⟨rfl, rfl, rfl⟩
  | cons place places ih =>
    obtain ⟨he, hc, hr⟩ := ih (w.spawnIn r (.arriving r source place live))
    exact ⟨he, hc, hr.trans (w.context_spawnIn r _)⟩

end

/-! ## The end of an execution -/

section

variable {v w : World} {r : Nat}

/-- If the end of the run is asked for, it is halted. -/
def EndsHalted (w : World) (r : Nat) : Prop :=
  (w.contextOf r).values.endRequested → (w.runs.get r).halted

theorem EndsHalted.close (h : w.EndsHalted r) (t : Nat) : (w.close t r).EndsHalted r := by
  have hc : ((w.close t r).runs.get r).context = (w.runs.get r).context ∧
      ((w.close t r).runs.get r).halted = (w.runs.get r).halted := by
    have hr : ((w.closed t r).runs.get r) =
        { w.runs.get r with unfinished := (w.runs.get r).unfinished - 1 } :=
      (get_runs_changeRun _ r r _).trans (if_pos rfl)
    rcases close_eq w t r with h | h
    · rw [h, hr]
      exact ⟨rfl, rfl⟩
    · rw [h, runs_wake, hr]
      exact ⟨rfl, rfl⟩
  have hx : (w.close t r).contexts = w.contexts := by
    rcases close_eq w t r with h | h
    · rw [h]
      rfl
    · rw [h]
      unfold wake
      split <;> rfl
  unfold EndsHalted contextOf
  rw [hc.1, hc.2, hx]
  exact h

theorem endRequested_erase_override (values : Values) :
    Values.endRequested (Entries.erase values Values.overrideKey) = values.endRequested := by
  unfold Values.endRequested
  rw [Entries.get?_erase, if_neg (by decide)]

theorem endsHalted_goOn (w : World) (r : Nat) (node : String) : (w.goOn r node).EndsHalted r := by
  unfold goOn
  dsimp only
  split
  · exact fun _ => congrArg Run.halted ((get_runs_changeRun w r r _).trans (if_pos rfl))
  next hends =>
  split
  · exact fun h => absurd h hends
  -- Taking back the request for a successor leaves that for an end.
  have herased : ∀ x : World,
      x.contexts = (w.setValues (w.runs.get r).context fun v =>
        Entries.erase v Values.overrideKey).contexts →
      (x.runs.get r).context = (w.runs.get r).context → x.EndsHalted r := by
    intro x hx hr h
    refine absurd ?_ hends
    unfold contextOf at h
    rw [hx, hr] at h
    have hg := congrArg Context.values ((Table.get_change w.contexts (w.runs.get r).context
      (w.runs.get r).context fun x =>
        { x with values := Entries.erase x.values Values.overrideKey }).trans (if_pos rfl))
    exact (endRequested_erase_override _).symm.trans ((congrArg Values.endRequested hg).symm.trans h)
  split
  · exact herased _ rfl (context_spawnIn ..)
  · obtain ⟨-, hc, hr⟩ := (w.setValues (w.runs.get r).context fun v =>
      Entries.erase v Values.overrideKey).spawnArrivals_frame r node true
    exact herased _ hc hr

theorem events_begin (w : World) (graph : Graph Component) (context supervisor : Nat)
    (limits : Limits) : (w.begin graph context supervisor limits).events =
      ⟨w.nextRun, w.now, .runStarted graph.pipeline⟩ :: w.events := rfl

theorem events_goOn (w : World) (r : Nat) (node : String) :
    (w.goOn r node).events = w.events := by
  unfold goOn
  dsimp only
  split
  · rfl
  split
  · rfl
  split
  · rfl
  · exact (spawnArrivals_frame ..).1

/-- From one world to another nothing is told of the nodes but, in the end, the end of an execution. -/
def Closes (v w : World) : Prop :=
  ∃ news, w.events = news ++ v.events ∧ (∀ o ∈ news, o.happening.isOpening = false) ∧
    (∀ o ∈ news.tail, o.happening.isClosing = false) ∧
    ∀ o ∈ news, ∀ node, o.happening = .nodeCompleted node → w.EndsHalted o.run

theorem Closes.of_events_eq (h : w.events = v.events) : Closes v w :=
  ⟨[], h, nofun, nofun, nofun⟩

theorem Closes.of_eq {x : World} (h : x.events = v.events) (hc : Closes x w) : Closes v w := by
  unfold Closes at hc ⊢
  exact h ▸ hc

theorem tail_append_singleton {news : List Occurrence} {o : Occurrence}
    (hclose : ∀ p ∈ news.tail, p.happening.isClosing = false)
    (ho : o.happening.isClosing = false) :
    ∀ p ∈ (news ++ [o]).tail, p.happening.isClosing = false := by
  intro p hp
  cases news with
  | nil => cases hp
  | cons q news =>
    rcases List.mem_append.1 hp with hp | hp
    · exact hclose p hp
    · exact List.mem_singleton.1 hp ▸ ho

theorem endsHalted_append_singleton {news : List Occurrence} {o : Occurrence}
    (hends : ∀ p ∈ news, ∀ node, p.happening = .nodeCompleted node → w.EndsHalted p.run)
    (ho : o.happening.isClosing = false) :
    ∀ p ∈ news ++ [o], ∀ node, p.happening = .nodeCompleted node → w.EndsHalted p.run := by
  intro p hp node hh
  rcases List.mem_append.1 hp with hp | hp
  · exact hends p hp node hh
  · rw [List.mem_singleton.1 hp] at hh
    rw [hh] at ho
    cases ho

theorem Closes.of_cons {x : World} {o : Occurrence} (h : x.events = o :: v.events)
    (hopening : o.happening.isOpening = false) (hclosing : o.happening.isClosing = false)
    (hc : Closes x w) : Closes v w := by
  obtain ⟨news, he, hopen, hclose, hends⟩ := hc
  refine ⟨news ++ [o], by rw [he, h, List.append_assoc, List.singleton_append], ?_,
    tail_append_singleton hclose hclosing, endsHalted_append_singleton hends hclosing⟩
  intro p hp
  rcases List.mem_append.1 hp with hp | hp
  · exact hopen p hp
  · exact List.mem_singleton.1 hp ▸ hopening

theorem closes_complete (w : World) (t r : Nat) (node : String) (result : Result) :
    Closes w (w.complete t r node result) := by
  have hone : ∀ x : World, ∀ e, x.events = ⟨r, w.now, .nodeFailed node e⟩ :: w.events →
      Closes w x := by
    intro x e he
    refine ⟨[⟨r, w.now, .nodeFailed node e⟩], he, ?_, nofun, ?_⟩
    · exact fun o ho => List.mem_singleton.1 ho ▸ rfl
    · exact fun o ho u hu => by cases List.mem_singleton.1 ho; cases hu
  have hnow : (w.release r).now = w.now := by
    unfold release
    split
    · rfl
    · exact wake_now ..
  unfold complete
  dsimp only
  split
  · exact hone _ _ (by rw [events_close, events_abandon, events_release, hnow])
  split
  · exact hone _ _ (by rw [events_close, events_fail, events_release, hnow])
  refine ⟨[⟨r, w.now, .nodeCompleted node⟩], ?_, ?_, nofun, ?_⟩
  · rw [events_close, events_goOn, emit_events, changeRun_events, events_release]
    exact congrArg (fun n => (⟨r, n, .nodeCompleted node⟩ : Occurrence) :: w.events) hnow
  · exact fun o ho => List.mem_singleton.1 ho ▸ rfl
  · intro o ho _ _
    rw [List.mem_singleton.1 ho]
    exact (endsHalted_goOn _ r node).close t

theorem closes_perform (w : World) (t r : Nat) (node : String) (activity : Activity) :
    Closes w (w.perform t r node activity) := by
  unfold perform
  dsimp only
  split
  · exact .of_eq (events_apply ..) (closes_complete ..)
  · exact .of_events_eq (events_apply ..)

theorem closes_pollNesting (w : World) (t r : Nat) (node : String) (inner : Nat) :
    Closes w (w.pollNesting t r node inner) := by
  unfold pollNesting
  dsimp only
  split
  · exact .of_events_eq rfl
  · obtain ⟨_, _, he⟩ := w.events_conclude inner ‹_›
    exact .of_cons he (by rfl) (by rfl) (.of_eq (by rfl) (closes_complete ..))

/-! ## The opening of a node -/

/-- From one world to another at most the opening of a node is told, and after it at most the end of
an execution. -/
def Tells (v w : World) : Prop :=
  ∃ news, w.events = news ++ v.events ∧ (∀ o ∈ news.dropLast, o.happening.isOpening = false) ∧
    (∀ o ∈ news.tail, o.happening.isClosing = false) ∧
    ∀ o ∈ news, ∀ node, o.happening = .nodeCompleted node → w.EndsHalted o.run

theorem Closes.tells (h : Closes v w) : Tells v w := by
  obtain ⟨news, he, hopen, hclose, hends⟩ := h
  exact ⟨news, he, fun o ho => hopen o (List.mem_of_mem_dropLast ho), hclose, hends⟩

theorem Tells.of_events_eq (h : w.events = v.events) : Tells v w := (Closes.of_events_eq h).tells

theorem Tells.of_eq {x : World} (h : x.events = v.events) (hc : Tells x w) : Tells v w := by
  unfold Tells at hc ⊢
  exact h ▸ hc

theorem Tells.of_cons {x : World} {o : Occurrence} (h : x.events = o :: v.events)
    (ho : o.happening.isOpening) (hc : Closes x w) : Tells v w := by
  obtain ⟨news, he, hopen, hclose, hends⟩ := hc
  have hclosing := Happening.isClosing_of_isOpening ho
  refine ⟨news ++ [o], by rw [he, h, List.append_assoc, List.singleton_append], ?_,
    tail_append_singleton hclose hclosing, endsHalted_append_singleton hends hclosing⟩
  rw [List.dropLast_concat]
  exact hopen

theorem tells_failed (w : World) (t r : Nat) (node : String) (e : PipelineError) :
    Tells w ((w.fail r node e).close t r) := by
  refine ⟨[⟨r, w.now, .nodeFailed node e.message⟩], ?_, nofun, nofun, ?_⟩
  · rw [events_close, events_fail]
    rfl
  · exact fun o ho u hu => by cases List.mem_singleton.1 ho; cases hu

theorem tells_start (w : World) (t r : Nat) (node : String) : Tells w (w.start t r node) := by
  have hleave : Tells w ((w.release r).close t r) :=
    .of_events_eq ((events_close ..).trans (events_release ..))
  unfold start
  split
  · exact hleave
  split
  · exact hleave
  next n _ =>
  split
  · exact hleave
  dsimp only
  have hone := fun v : World => Tells.of_cons (v := w) (w := v)
    (x := (w.changeRun r fun run => run.setStatus node .running).emit r
      (.nodeStarted node n.componentId)) rfl rfl
  split
  · exact hone _ (closes_perform ..)
  · refine hone _ (.of_cons (events_begin ..) rfl rfl (closes_pollNesting ..))

theorem tells_acquire (w : World) (t r : Nat) (node : String) : Tells w (w.acquire t r node) := by
  unfold acquire
  dsimp only
  split
  · exact .of_eq (by rfl) (tells_start ..)
  · exact .of_events_eq rfl

theorem tells_dispatch (w : World) (t r : Nat) (node : String) :
    Tells w (w.dispatch t r node) := by
  unfold dispatch
  split
  · exact .of_events_eq (events_close ..)
  split
  · exact tells_failed ..
  split
  · exact tells_failed ..
  dsimp only
  split
  · exact .of_eq (by rfl) (tells_failed ..)
  · exact .of_eq (by rfl) (tells_acquire ..)

theorem tells_arrive (w : World) (t r : Nat) (source : String) (place : Nat) (live : Bool) :
    Tells w (w.arrive t r source place live) := by
  unfold arrive
  split
  · exact .of_events_eq (events_close ..)
  split
  · exact .of_events_eq (events_close ..)
  dsimp only
  split
  · exact tells_failed ..
  next edge _ _ _ _ =>
  split
  · exact .of_events_eq (events_close ..)
  · exact .of_events_eq (events_close ..)
  · exact .of_eq (by rfl) (tells_dispatch ..)
  · refine .of_cons (o := ⟨r, w.now, .nodeSkipped edge.target⟩) ?_ rfl (.of_events_eq rfl)
    rw [events_close]
    exact (spawnArrivals_frame ..).1

theorem tells_pollAwaiting (w : World) (t r : Nat) (node : String) :
    Tells w (w.pollAwaiting t r node) := by
  unfold pollAwaiting
  dsimp only
  split
  · exact .of_eq (by rfl) (tells_start ..)
  split
  · exact .of_events_eq (events_close ..)
  · exact .of_events_eq rfl

theorem tells_pollPausing (w : World) (t r : Nat) (node : String) (wakeAt : Nat)
    (next stopped : Activity) : Tells w (w.pollPausing t r node wakeAt next stopped) := by
  unfold pollPausing
  dsimp only
  split
  · exact .of_eq (by rfl) (closes_perform ..).tells
  split
  · exact .of_eq (by rfl) (closes_perform ..).tells
  · exact .of_events_eq rfl

theorem tells_pollConducting (w : World) (t r : Nat) (deadline : Option Nat) :
    Tells w (w.pollConducting t r deadline) := by
  unfold pollConducting
  dsimp only
  split
  · next cancelled _ =>
    obtain ⟨_, _, he⟩ := w.events_conclude r cancelled
    refine (Closes.of_cons (x := (w.conclude r cancelled).1) he rfl rfl ?_).tells
    exact .of_events_eq rfl
  split
  · obtain ⟨_, _, he⟩ := (w.cancel (w.runs.get r).context).events_conclude r true
    rw [events_cancel] at he
    refine (Closes.of_cons (x := ((w.cancel (w.runs.get r).context).conclude r true).1) he rfl rfl
      ?_).tells
    exact .of_events_eq rfl
  · exact .of_events_eq rfl

theorem tells_step (w : World) (t : Nat) : Tells w (w.step t) := by
  refine .of_eq (x := { w with ready := w.ready.erase t }) rfl ?_
  unfold step poll
  split
  · exact .of_events_eq rfl
  · exact .of_events_eq rfl
  · exact tells_pollConducting ..
  · exact tells_arrive ..
  · exact tells_dispatch ..
  · exact tells_pollAwaiting ..
  · exact tells_pollPausing ..
  · exact (closes_pollNesting ..).tells

theorem tells_act (w : World) (a : Act) : Tells w (w.act a) := by
  cases a with
  | step t => exact tells_step w t
  | pass ms => exact .of_events_eq (events_wakeAll ..)
  | cancel c => exact .of_events_eq (events_cancel ..)

end

/-! ## The evaluation of a condition -/

section

variable (w : World) (t r : Nat) (node : String)

theorem ofExecution_completeDeeds (result : Result) :
    ∀ d ∈ w.completeDeeds r node result, d.isOfExecution := by
  unfold completeDeeds
  dsimp only
  split
  · nofun
  split
  · simp [Deed.isOfExecution]
  · nofun

theorem ofExecution_performDeeds (activity : Activity) :
    ∀ d ∈ w.performDeeds r node activity, d.isOfExecution := by
  unfold performDeeds
  dsimp only
  intro d hd
  rcases List.mem_append.1 hd with hd | hd
  · split at hd
    · exact ofExecution_completeDeeds _ r node _ d hd
    · cases hd
  · rw [List.mem_singleton.1 hd]
    rfl

theorem ofExecution_nestingDeeds (inner : Nat) :
    ∀ d ∈ w.nestingDeeds t r node inner, d.isOfExecution := by
  unfold nestingDeeds
  dsimp only
  split
  · nofun
  · intro d hd
    rcases List.mem_append.1 hd with hd | hd
    · exact ofExecution_completeDeeds _ r node _ d hd
    · rw [List.mem_singleton.1 hd]
      rfl

theorem ofExecution_startDeeds : ∀ d ∈ w.startDeeds t r node, d.isOfExecution := by
  unfold startDeeds
  split
  · nofun
  split
  · nofun
  split
  · nofun
  dsimp only
  split
  · exact ofExecution_performDeeds _ r node _
  · exact ofExecution_nestingDeeds _ t r node _

theorem ofExecution_awaitingDeeds : ∀ d ∈ w.awaitingDeeds t r node, d.isOfExecution := by
  unfold awaitingDeeds
  dsimp only
  split
  · exact ofExecution_startDeeds _ t r node
  · nofun

theorem ofExecution_pausingDeeds (wakeAt : Nat) (next stopped : Activity) :
    ∀ d ∈ w.pausingDeeds t r node wakeAt next stopped, d.isOfExecution := by
  unfold pausingDeeds
  dsimp only
  split
  · exact ofExecution_performDeeds _ r node next
  split
  · exact ofExecution_performDeeds _ r node stopped
  · nofun

theorem ofExecution_conductingDeeds (deadline : Option Nat) :
    ∀ d ∈ w.conductingDeeds r deadline, d.isOfExecution := by
  unfold conductingDeeds
  dsimp only
  split
  · simp [Deed.isOfExecution]
  · split
    · simp [Deed.isOfExecution]
    · nofun

theorem not_isOfArrival_dispatchDeeds : ∀ d ∈ w.dispatchDeeds t r node, d.isOfArrival = false := by
  unfold dispatchDeeds
  split
  · nofun
  split
  · simp [Deed.isOfArrival]
  split
  · simp [Deed.isOfArrival]
  dsimp only
  split
  · simp [Deed.isOfArrival]
  unfold acquireDeeds
  split
  · exact fun d hd => Deed.not_isOfArrival (ofExecution_startDeeds _ t r node d hd)
  · nofun

theorem dropLast_askDeeds (deeds : List Deed) (source : String) (edge : Edge) (live : Bool)
    (h : ∀ d ∈ deeds, d.isAsk = false) :
    ∀ d ∈ (deeds ++ askDeeds r source edge live).dropLast, d.isAsk = false := by
  unfold askDeeds
  split
  · rw [List.dropLast_concat]
    exact h
  · rw [List.append_nil]
    exact fun d hd => h d (List.mem_of_mem_dropLast hd)

theorem asks_arriveDeeds (source : String) (place : Nat) (live : Bool) :
    ∀ d ∈ (w.arriveDeeds t r source place live).dropLast, d.isAsk = false := by
  unfold arriveDeeds
  split
  · nofun
  split
  · nofun
  next edge _ =>
  dsimp only
  split
  · exact dropLast_askDeeds r [_] source edge live (by simp [Deed.isAsk])
  next passed _ =>
  split
  · exact dropLast_askDeeds r [] source edge live nofun
  · exact dropLast_askDeeds r [_] source edge live (by simp [Deed.isAsk])
  · rw [← List.singleton_append, ← List.append_assoc]
    refine dropLast_askDeeds r _ source edge live fun d hd => ?_
    rcases List.mem_append.1 hd with hd | hd
    · exact Deed.isAsk_of_not_isOfArrival (not_isOfArrival_dispatchDeeds _ t r edge.target d hd)
    · rw [List.mem_singleton.1 hd]
      rfl
  · exact dropLast_askDeeds r [_] source edge live (by simp [Deed.isAsk])

theorem asks_deeds (a : Act) : ∀ d ∈ (w.deeds a).dropLast, d.isAsk = false := by
  have hall : ∀ {deeds : List Deed}, (∀ d ∈ deeds, d.isOfExecution) →
      ∀ d ∈ deeds.dropLast, d.isAsk = false :=
    fun h d hd => Deed.isAsk_of_not_isOfArrival
      (Deed.not_isOfArrival (h d (List.mem_of_mem_dropLast hd)))
  cases a with
  | pass ms => exact fun d hd => nomatch (hd : d ∈ ([] : List Deed))
  | cancel c => exact fun d hd => nomatch (hd : d ∈ ([] : List Deed))
  | step t =>
    show ∀ d ∈ (pollDeeds _ t).dropLast, d.isAsk = false
    unfold pollDeeds
    split
    · nofun
    · nofun
    · exact hall (ofExecution_conductingDeeds _ _ _)
    · exact asks_arriveDeeds _ t _ _ _ _
    · exact fun d hd => Deed.isAsk_of_not_isOfArrival
        (not_isOfArrival_dispatchDeeds _ t _ _ d (List.mem_of_mem_dropLast hd))
    · exact hall (ofExecution_awaitingDeeds _ t _ _)
    · exact hall (ofExecution_pausingDeeds _ _ _ _ _ _ _)
    · exact hall (ofExecution_nestingDeeds _ t _ _ _)

end

end World

end Conduit
