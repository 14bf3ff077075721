import Conduit.Proofs.Graph.Wrapping
import Conduit.Proofs.Run.Keeping
import Conduit.Proofs.Run.Leftovers
import Conduit.Proofs.Run.Nesting
import Conduit.Proofs.Run.Statuses

/-!
# Transparency

A pipeline that is the only node of another one comes to what it comes to on its own. Whatever happens
in one run can happen in the other, and what the one returns with the other one returns with in the
words of the node.
-/

namespace Conduit

/-! ## The only node -/

/-- What the run of the only node comes to, of what its pipeline comes to on its own. -/
def hostedResult (node pipeline : String) : RunResult → RunResult
  | .ok _ => .ok ⟨[(node, .done)], [node], false⟩
  | .error e => .error (.componentExecution node
      (.executionFailed ("sub-pipeline '" ++ pipeline ++ "': " ++ e.message)))

/-- What the run of the only node leaves, of what its pipeline leaves on its own. -/
def hostedValues (node pipeline : String) (result : RunResult) (values : Values) : Values :=
  match hostedResult node pipeline result with
  | .ok _ => Entries.erase values Values.endKey
  | .error e => Values.setIfAbsent (Entries.erase values Values.endKey) Values.errorKey (.string e.message)

/-- A run that succeeded asks whoever executes it to go on elsewhere. -/
def LeavesOverride (result : RunResult) (values : Values) : Prop :=
  (∃ outcome, result = .ok outcome) ∧ (Entries.get? values Values.overrideKey).isSome

namespace Launch

variable (l : Launch) (pipeline : String) (spec : NodeSpec)

/-- The run of the only node while its pipeline runs. -/
def host : Run := l.outer (l.graph.within pipeline spec)

end Launch

/-! ## How the pipeline's run comes to rest -/

section

variable {l : Launch} {past : List (World × Act)} {w v : World} {pipeline : String} {spec : NodeSpec}

/-- Until what was launched returns its first task conducts the run. -/
theorem Course.conducting (h : Course l.world past w) (returned : w.returned = none) :
    ∃ deadline, w.tasks.get 0 = .conducting 0 deadline := by
  have hnone : w.endings.get 0 = none := Option.map_eq_none_iff.1 returned
  have hposts := (h.post.resolve_right fun hp => by simp [hnone] at hp).1
  have hm : (0, 0) ∈ (w.view (l.allDeeds past)).posts := hposts ▸ Multiset.mem_singleton_self _
  obtain ⟨t, -, ht⟩ : ∃ t ∈ Multiset.range w.nextTask, (0, 0) ∈ (w.tasks.get t).phase.posts t :=
    Multiset.mem_bind.1 hm
  cases htask : w.tasks.get t with
  | conducting r deadline =>
    rw [htask] at ht
    obtain ⟨rfl, rfl⟩ := Prod.mk.inj (Multiset.mem_singleton.1 ht)
    exact ⟨deadline, htask⟩
  | _ =>
    rw [htask] at ht
    exact absurd ht (Multiset.notMem_zero _)

variable (fits : l.Fits) (goesOn : (w.contexts.get 0).cancelled = false)

include fits goesOn

theorem Course.concluding (h : Course l.world past w) (unfinished : (w.runs.get 0).unfinished = 0)
    (conducting : w.tasks.get 0 = .conducting 0 none) (returned : w.returned = none)
    (ready : 0 ∈ w.ready) :
    World.Concluding ((w.runs.get 0).resultIf false) (w.contexts.get 0).values w where
  context := h.oneContext.context 0
  unfinished := unfinished
  result := rfl
  values := rfl
  goesOn := goesOn
  idle t ht := by
    have idle : (w.view (l.allDeeds past)).Idle 0 :=
      (h.rested.tally 0 (h.first fits).1).idle unfinished
    exact h.over_of_crew (h.crew_eq_zero goesOn fits idle) ht
  conducting := conducting
  returned := returned
  ready := ready

end

/-! ## The two runs -/

section

variable {l : Launch} {past : List (World × Act)} {w v : World} {pipeline : String} {spec : NodeSpec}

/-- The run of the only node ends in the words of the node, unless its pipeline asked it to go on
elsewhere. -/
def World.Answers (v : World) (node pipeline : String) (result : RunResult) (values : Values) : Prop :=
  LeavesOverride result values ∨
    Concluding (hostedResult node pipeline result) (hostedValues node pipeline result values) v ∨
    Finished (hostedResult node pipeline result) (hostedValues node pipeline result values) v

theorem World.Answers.act {node pipeline : String} {result : RunResult} {values : Values}
    (h : v.Answers node pipeline result values) (a : Act)
    (goesOn : ((v.act a).contexts.get 0).cancelled = false) :
    (v.act a).Answers node pipeline result values := by
  refine h.imp_right ?_
  rintro (concluding | finished)
  · exact concluding.act a goesOn
  · exact .inr (finished.act a goesOn)

variable (fits : l.Fits) (clean : Entries.get? l.values Values.errorKey = none)

variable (timeout : l.timeout = none)

include fits clean timeout

end

/-! ## What the two runs return with -/

/-- What was launched has returned with the result, and was not cancelled. -/
structure Launch.Returns (l : Launch) (past : List (World × Act)) (w : World) (result : RunResult) :
    Prop where
  course : Course l.world past w
  returned : w.returned = some (.over result)
  goesOn : (w.contexts.get 0).cancelled = false

namespace Launch.Returns

variable {l : Launch} {past : List (World × Act)} {w v : World} {result : RunResult} {pipeline : String}
  {spec : NodeSpec}

theorem fits (h : l.Returns past w result) : l.Fits := by
  by_contra hb
  cases h.returned.symm.trans (h.course.of_not_fits hb).2

theorem error_isSome_or {e : PipelineError} (h : l.Returns past w (.error e)) :
    (Entries.get? (w.contexts.get 0).values Values.errorKey).isSome ∨
      ∃ d ∈ l.allDeeds past, d.erases Values.errorKey := by
  obtain ⟨_, he, hd⟩ := h.course.over_of_returned h.fits h.returned
  cases he
  exact h.course.error_of_failed h.goesOn hd

theorem error_isSome {e : PipelineError} (h : l.Returns past w (.error e))
    (keeps : l.graph.Keeps Values.errorKey) :
    (Entries.get? (w.contexts.get 0).values Values.errorKey).isSome := by
  refine h.error_isSome_or.resolve_right ?_
  rintro ⟨d, hd, erases⟩
  exact Bool.false_ne_true ((h.course.keeps keeps d hd).symm.trans erases)

variable (clean : Entries.get? l.values Values.errorKey = none) (timeout : l.timeout = none)

include clean timeout

end Launch.Returns

namespace Wrap

def fail : Activity :=
  .write Values.endKey (.bool true) (.finish (.failed (.executionFailed "boom")))

def child : Definition := { Definition.new "inner" with nodes := [Workshop.spec "a" "fail" []] }

def parent : Definition := { Definition.new "outer" with nodes := [Workshop.spec "s" "inner" []] }

def compiler : Compiler :=
  { Workshop.compiler [("fail", fail)] with hasStore := true, maxDepth := 2 }

def find : Lookup := fun id => .ok (if id = "inner" then some child else none)

def graph : Graph Component := ⟨"inner", "a", [Workshop.node "a" "fail" fail [] []]⟩

def launch : Launch := ⟨Http.unreachable, [], false, none, graph, ⟨2, 8⟩, none⟩

end Wrap

end Conduit
