import Conduit.Proofs.Run.Turns

/-!
# Failures

A run keeps the error of its first failure until it is concluded, and a failure halts it for good. The
context keeps the text of the first failure in any of its runs, as long as no execution touches it.
-/

namespace Conduit

/-! ## Failures among deeds -/

/-- The run that failed, and its error. -/
def Deed.failed? : Deed → Option (Nat × PipelineError)
  | .failed r _ e => some (r, e)
  | _ => none

def failures (deeds : List Deed) : List (Nat × PipelineError) := deeds.filterMap Deed.failed?

theorem mem_failures {s : Nat} {deeds : List Deed} {e : PipelineError} :
    (s, e) ∈ failures deeds ↔ ∃ node, .failed s node e ∈ deeds := by
  constructor
  · intro h
    obtain ⟨d, hm, hd⟩ := List.mem_filterMap.1 h
    cases d with
    | failed r node e' =>
      cases hd
      exact ⟨node, hm⟩
    | _ => cases hd
  · rintro ⟨node, hm⟩
    exact List.mem_filterMap.2 ⟨_, hm, rfl⟩

theorem not_failed_of_calm {deeds : List Deed} (calm : failures deeds = []) (s : Nat) (node : String)
    (e : PipelineError) : .failed s node e ∉ deeds :=
  fun hd => List.not_mem_nil (calm ▸ mem_failures.2 ⟨node, hd⟩)

/-- Nothing failed or was concluded. -/
def Deed.isPlain : Deed → Bool
  | .failed _ _ _ => false
  | .concluded _ _ => false
  | _ => true

theorem failures_append {news : List Deed} (h : ∀ d ∈ news, d.isPlain) (deeds : List Deed) :
    failures (news ++ deeds) = failures deeds := by
  have hn : news.filterMap Deed.failed? = [] := by
    refine List.filterMap_eq_nil_iff.2 fun d hd => ?_
    cases d with
    | failed | concluded => cases h _ hd
    | asked | delivered | performed => rfl
  rw [failures, List.filterMap_append, hn, List.nil_append]
  rfl

theorem concluded_append {news : List Deed} (h : ∀ d ∈ news, d.isPlain) {deeds : List Deed}
    {s : Nat} {result : RunResult} (hm : .concluded s result ∈ news ++ deeds) :
    .concluded s result ∈ deeds :=
  (List.mem_append.1 hm).resolve_left fun hn => nomatch h _ hn

theorem isPlain_askDeeds (r : Nat) (source : String) (edge : Edge) (live : Bool) :
    ∀ d ∈ World.askDeeds r source edge live, d.isPlain := by
  intro d hd
  rcases askDeeds_cases r source edge live with hn | ⟨-, hn⟩ <;> rw [hn] at hd
  · cases hd
  · rw [List.mem_singleton.1 hd]
    rfl

/-! ## Untouched keys -/

/-- No execution wrote or erased the key. -/
def Untouched (k : String) (deeds : List Deed) : Prop :=
  ∀ d ∈ deeds, d.writes k = false ∧ d.erases k = false

instance (k : String) (deeds : List Deed) : Decidable (Untouched k deeds) :=
  inferInstanceAs (Decidable (∀ d ∈ deeds, d.writes k = false ∧ d.erases k = false))

theorem Untouched.mono {k : String} {deeds others : List Deed} (h : Untouched k others)
    (hs : deeds ⊆ others) : Untouched k deeds := fun d hd => h d (hs hd)

theorem Values.get?_setIfAbsent (values : Values) (key : String) (value : Value) :
    Entries.get? (values.setIfAbsent key value) key = (Entries.get? values key).or (some value) := by
  unfold setIfAbsent Entries.contains
  cases h : Entries.get? values key with
  | none => exact Entries.get?_insert_self ..
  | some v => exact h

/-! ## Runs in one context -/

/-- Nothing is done in runs that have not begun, and all runs share the first context. -/
structure OneContext (S : Stage) : Prop where
  orderly : Orderly S
  context : ∀ s, (S.runs s).context = 0


theorem OneContext.move {S S' : Stage} {r : Nat} (h : OneContext S) (m : Move r S S') : OneContext S' where
  orderly := h.orderly.move m
  context s := by
    by_cases hs : s < S.nextRun
    · exact (congrArg (fun p => p.2.1) (m.frame hs)).trans (h.context s)
    · have hs := Nat.le_of_not_lt hs
      by_cases hnew : S'.nextRun = S.nextRun
      · rw [(h.orderly.move m).fresh s (hnew ▸ hs)]
        rfl
      · obtain ⟨hn, graph, supervisor, hrun⟩ := m.run_begun hnew
        by_cases hself : s = S.nextRun
        · rw [hself, hrun]
          exact h.context r
        · rw [(h.orderly.move m).fresh s (by omega)]
          rfl

/-! ## What moves have to do with failures -/

/-- What a run comes to when it is over. The first failure wins over a cancellation. -/
def Run.resultIf (run : Run) (cancelled : Bool) : RunResult :=
  match run.failure with
  | some e => .error e
  | none => if cancelled then .error .cancelled else .ok run.outcome

/-- What the context says of errors. -/
def Stage.error (S : Stage) : Option Value := Entries.get? (S.values 0) Values.errorKey

/-- The error in the context is what it was, unless an execution touched it. -/
def ErrorKept (S S' : Stage) (news : List Deed) : Prop :=
  (∃ d ∈ news, d.writes Values.errorKey) ∨ S'.error = S.error ∨
    (∃ d ∈ news, d.erases Values.errorKey) ∧ S'.error = none

theorem ErrorKept.eq {S S' : Stage} {news : List Deed} (h : ErrorKept S S' news)
    (untouched : Untouched Values.errorKey news) : S'.error = S.error := by
  rcases h with ⟨d, hd, hw⟩ | h | ⟨⟨d, hd, he⟩, -⟩
  · rw [(untouched d hd).1] at hw
    cases hw
  · exact h
  · rw [(untouched d hd).2] at he
    cases he

/-- What a move has to do with failures. -/
inductive Effect (S S' : Stage) : Prop where
  | calm (news : List Deed) (deeds : S'.deeds = news ++ S.deeds) (plain : ∀ d ∈ news, d.isPlain)
      (failure : ∀ s, (S'.runs s).failure = (S.runs s).failure)
      (error : ErrorKept S S' news)
      (posts : S'.posts = S.posts ∧ S'.endings = S.endings)
  | failed (s : Nat) (node : String) (e : PipelineError) (news : List Deed)
      (deeds : S'.deeds = .failed s node e :: (news ++ S.deeds)) (plain : ∀ d ∈ news, d.isPlain)
      (busy : ∃ d, (s, d) ∈ S.crew) (goesOn : S.cancelled 0 = false) (halted : (S'.runs s).halted)
      (failure : (S'.runs s).failure = (S.runs s).failure.or (some e))
      (others : ∀ q, q ≠ s → (S'.runs q).failure = (S.runs q).failure)
      (error : S'.error = if (S.runs s).failure.isSome then S.error
        else S.error.or (some (.string e.message)))
      (posts : S'.posts = S.posts ∧ S'.endings = S.endings)
  | concluded (s : Nat) (begun : s < S.nextRun)
      (deeds : S'.deeds = .concluded s ((S.runs s).resultIf (S'.cancelled 0)) :: S.deeds)
      (failure : (S'.runs s).failure = none)
      (others : ∀ q, q ≠ s → (S'.runs q).failure = (S.runs q).failure)
      (isOver : S'.cancelled 0 = true ∨ (S.runs s).unfinished = 0)
      (error : S'.error = if (S.runs s).failure.isNone && S'.cancelled 0 then
        S.error.or (some (.string PipelineError.cancelled.message)) else S.error)
      (posts : (∃ t, S.posts = (t, s) ::ₘ S'.posts ∧ S'.endings = Function.update S.endings t
        (some (.over ((S.runs s).resultIf (S'.cancelled 0))))) ∨
          ∃ q node, (q, .nesting node s) ∈ S.crew)

namespace Stage

variable (S : Stage) (r : Nat)

theorem failure_fail (node : String) (e : PipelineError) :
    ((S.fail r node e).runs r).failure = (S.runs r).failure.or (some e) ∧
      ((S.fail r node e).runs r).halted := by
  have hn : ((S.runs r).setStatus node .failed).failure = (S.runs r).failure := by
    rw [Run.setStatus, Run.changeNode_eq]
  unfold fail keepFailure
  dsimp only
  simp only [change, say, record, setValues, Function.update_self, hn]
  cases hf : (S.runs r).failure with
  | none => simp
  | some e' => simp [hn, hf]

theorem error_fail (node : String) (e : PipelineError) (hc : (S.runs r).context = 0) :
    (S.fail r node e).error = if (S.runs r).failure.isSome then S.error
      else S.error.or (some (.string e.message)) := by
  have hn : ((S.runs r).setStatus node .failed).failure = (S.runs r).failure := by
    rw [Run.setStatus, Run.changeNode_eq]
  unfold fail keepFailure error
  dsimp only
  simp only [change, say, record, setValues, Function.update_self, hn, Run.context_setStatus, hc]
  cases hf : (S.runs r).failure with
  | none =>
    simp only [Option.isSome_none, Bool.false_eq_true, if_false, Function.update_self]
    exact Values.get?_setIfAbsent ..
  | some e' => simp

theorem failure_conclude (b : Bool) :
    ((S.conclude r b).runs r).failure = none ∧
      ((S.runs r).halted → ((S.conclude r b).runs r).halted) := by
  unfold conclude
  dsimp only
  split <;> simp [change, say, record, setValues]

theorem error_conclude (b : Bool) (hc : (S.runs r).context = 0) :
    (S.conclude r b).error = if (S.runs r).failure.isNone && (b || S.cancelled 0) then
      S.error.or (some (.string PipelineError.cancelled.message)) else S.error := by
  unfold conclude error
  dsimp only
  rw [hc]
  split
  · simp only [change, say, record, setValues, Function.update_self]
    exact Values.get?_setIfAbsent ..
  · rfl

theorem error_erase (c : Nat) {key : String} (hk : key ≠ Values.errorKey) :
    (S.setValues c fun v => Entries.erase v key).error = S.error := by
  unfold error
  rw [values_setValues_erase, if_neg fun h => hk h.2]

variable {S r}

theorem error_perform {X : Stage} {node : String} {activity : Activity} {pending : Pending}
    {scene : Scene} {result : Option Result} (hc : (S.runs r).context = 0)
    (burst : activity.burst S.network
      ⟨S.valuesOf r, S.cancelled (S.runs r).context, [], []⟩ = (scene, pending))
    (values : X.values = ((S.setValues (S.runs r).context fun _ => scene.values)).values) :
    ErrorKept S X [.performed r node (activity.touches S.network
      ⟨S.valuesOf r, S.cancelled (S.runs r).context, [], []⟩) result] := by
  have hx : X.error = Entries.get? scene.values Values.errorKey := by
    unfold error
    rw [values, hc]
    simp only [setValues, Function.update_self]
  have hs : S.error = Entries.get? (S.valuesOf r) Values.errorKey :=
    congrArg (fun c => Entries.get? (S.values c) Values.errorKey) hc.symm
  have hk := (Activity.bursts_of_burst burst).key Values.errorKey
  rw [← hx, ← hs] at hk
  rcases hk with h | h | ⟨h, hn⟩
  · exact .inl ⟨_, List.mem_singleton_self _, List.any_eq_true.2 h⟩
  · exact .inr (.inl h)
  · exact .inr (.inr ⟨⟨_, List.mem_singleton_self _, List.any_eq_true.2 h⟩, hn⟩)

end Stage

namespace Effect

variable {S S' X : Stage} {r s : Nat}

theorem of_update {run : Run} (news : List Deed) (runs : S'.runs = Function.update S.runs r run)
    (failure : run.failure = (S.runs r).failure) (deeds : S'.deeds = news ++ S.deeds)
    (plain : ∀ d ∈ news, d.isPlain)
    (error : ErrorKept S S' news)
    (posts : S'.posts = S.posts ∧ S'.endings = S.endings) : Effect S S' :=
  .calm news deeds plain (fun _ => Stage.lasting_update r runs failure) error posts

theorem of_runs (news : List Deed) (runs : S'.runs = S.runs) (deeds : S'.deeds = news ++ S.deeds)
    (plain : ∀ d ∈ news, d.isPlain)
    (error : ErrorKept S S' news)
    (posts : S'.posts = S.posts ∧ S'.endings = S.endings) : Effect S S' :=
  .calm news deeds plain (fun _ => by rw [runs]) error posts

theorem of_fail {news : List Deed} {node : String} {e : PipelineError} {d : Duty}
    {rest : Multiset (Nat × Duty)} (crew : S.crew = (r, d) ::ₘ rest)
    (goesOn : S.cancelled 0 = false) (failure : (X.runs r).failure = (S.runs r).failure)
    (others : ∀ s, s ≠ r → X.runs s = S.runs s) (context : (X.runs r).context = 0)
    (error : X.error = S.error) (deeds : X.deeds = news ++ S.deeds)
    (plain : ∀ d ∈ news, d.isPlain) (runs : S'.runs = (X.fail r node e).runs)
    (error' : S'.error = (X.fail r node e).error)
    (deeds' : S'.deeds = .failed r node e :: X.deeds)
    (posts : S'.posts = S.posts ∧ S'.endings = S.endings) : Effect S S' := by
  obtain ⟨hf, hh⟩ := X.failure_fail r node e
  refine .failed r node e news (by rw [deeds', deeds]) plain
    ⟨d, crew ▸ Multiset.mem_cons_self _ _⟩ goesOn (by rw [runs]; exact hh) ?_ ?_ ?_ posts
  · rw [runs, hf, failure]
  · intro q hq
    rw [runs, Stage.runs_fail_of_ne X r hq, others q hq]
  · rw [error', X.error_fail r node e context, failure, error]

theorem of_conclude {b : Bool} (begun : r < S.nextRun) (hX : X.runs = S.runs) (deeds : X.deeds = S.deeds)
    (error : X.error = S.error) (context : (S.runs r).context = 0)
    (stopped : b = true → X.cancelled 0 = true) (isOver : b = false → (S.runs r).unfinished = 0)
    (runs : S'.runs = (X.conclude r b).runs) (deeds' : S'.deeds = (X.conclude r b).deeds)
    (cancelled : S'.cancelled = (X.conclude r b).cancelled)
    (error' : S'.error = (X.conclude r b).error)
    (posts : (∃ t, S.posts = (t, r) ::ₘ S'.posts ∧
      S'.endings = Function.update S.endings t (some (.over (X.resultOf r b)))) ∨
        ∃ q node, (q, .nesting node r) ∈ S.crew) : Effect S S' := by
  have hor : (b || X.cancelled 0) = X.cancelled 0 := by
    cases b
    · exact Bool.false_or _
    · rw [stopped rfl, Bool.true_or]
  have hc : S'.cancelled 0 = X.cancelled 0 := by rw [cancelled, X.cancelled_conclude]
  have hresult : X.resultOf r b = (S.runs r).resultIf (S'.cancelled 0) := by
    rw [hc, ← hor, ← context, ← hX]
    rfl
  have hd : S'.deeds = .concluded r ((S.runs r).resultIf (S'.cancelled 0)) :: S.deeds := by
    rw [deeds', (X.conclude_adds r b).2.1, deeds, hresult]
  refine .concluded r begun hd ?_ ?_ ?_ ?_ (hresult ▸ posts)
  · rw [runs]
    exact (X.failure_conclude r b).1
  · intro q hq
    rw [runs, Stage.runs_conclude_of_ne X r hq, hX]
  · cases b
    · exact .inr (isOver rfl)
    · exact .inl (hc.trans (stopped rfl))
  · rw [error', X.error_conclude r b (by rw [hX, context]), hor, hX, error, hc]

end Effect

theorem unfinished_of_isOver {S : Stage} {r : Nat} (h : S.isOver r = some false) :
    (S.runs r).unfinished = 0 := by
  unfold Stage.isOver at h
  split at h
  · assumption
  · split at h <;> cases h

theorem Run.failure_changeNode (run : Run) (id : String) (f : NodeState → NodeState) :
    (run.changeNode id f).failure = run.failure := by
  rw [changeNode_eq]

theorem Move.effect {S S' : Stage} {r : Nat} (m : Move r S S') (h : OneContext S) : Effect S S' := by
  have hc := h.context r
  have goes : S.stops r = false → S.cancelled 0 = false :=
    fun hs => hc ▸ (Bool.or_eq_false_iff.1 hs).2
  have ne : ∀ {f : Run → Run} s, s ≠ r → (S.change r f).runs s = S.runs s :=
    fun s hs => S.runs_change_of_ne r hs _
  have released := (S.runs r).failure_released
  have changed := Run.failure_changeNode
  have nothing : ∀ d ∈ ([] : List Deed), d.isPlain := nofun
  have ends : ∀ {q : Nat} {b : Bool}, S.isOver q = some b →
      (b = true → S.cancelled 0 = true) ∧ (b = false → (S.runs q).unfinished = 0) := by
    intro q b hover
    refine ⟨?_, ?_⟩ <;> rintro rfl
    · exact h.context q ▸ cancelled_of_isOver hover
    · exact unfinished_of_isOver hover
  cases m
  -- No run fails, and what is told is no failure.
  case giveUp | stray | rest | resume | interrupt =>
    exact .of_runs [] rfl rfl nothing (.inr (.inl rfl)) ⟨rfl, rfl⟩
  case jump | spread =>
    exact .of_update [] rfl rfl rfl nothing (.inr (.inl (S.error_erase _ (by decide))))
      ⟨rfl, rfl⟩
  case lost => exact .of_runs _ rfl rfl (isPlain_askDeeds r _ _ _) (.inr (.inl rfl)) ⟨rfl, rfl⟩
  case finish burst | doze burst =>
    exact .of_runs [_] rfl rfl (by simp [Deed.isPlain]) (Stage.error_perform hc burst rfl)
      ⟨rfl, rfl⟩
  case take | queue | grant | withdraw | halt | close =>
    exact .of_update [] rfl rfl rfl nothing (.inr (.inl rfl)) ⟨rfl, rfl⟩
  case skip | start => exact .of_update [] rfl (changed ..) rfl nothing (.inr (.inl rfl)) ⟨rfl, rfl⟩
  case count source _ live _ edge _ _ _ _ _ _ _ =>
    refine .of_update (r := r) _ rfl (changed ..) rfl ?_ (.inr (.inl rfl)) ⟨rfl, rfl⟩
    intro d hd
    rcases List.mem_cons.1 hd with rfl | hd
    · rfl
    · exact isPlain_askDeeds r source edge live d hd
  case retreat => exact .of_update [] rfl released rfl nothing (.inr (.inl rfl)) ⟨rfl, rfl⟩
  case abandon | settle =>
    exact .of_update [] rfl ((changed ..).trans released) rfl nothing (.inr (.inl rfl)) ⟨rfl, rfl⟩
  -- The new run has not failed, as the number it takes was free.
  case enter t node rest n graph origin _ _ _ _ =>
    refine .calm [] rfl nothing (fun s => ?_) (.inr (.inl rfl)) ⟨rfl, rfl⟩
    have hk : (((S.change r fun run => run.setStatus node .running).say r
        (.nodeStarted node n.componentId)).runs s).failure = (S.runs s).failure :=
      S.lasting_change (f := Run.failure) (g := fun run => run.setStatus node .running) r (changed ..)
    by_cases hs : s = S.nextRun
    · subst hs
      refine (congrArg Run.failure (Function.update_self ..)).trans ?_
      rw [h.orderly.fresh S.nextRun (Nat.le_refl _)]
      rfl
    · exact (congrArg Run.failure (Function.update_of_ne hs _ _)).trans hk
  -- The run fails, which it could because it was not cancelled.
  case refuse crew goesOn _ _ =>
    exact .of_fail (X := S.record (World.askDeeds r _ _ _)) crew (goes goesOn) rfl (fun _ _ => rfl)
      hc rfl rfl (isPlain_askDeeds r _ _ _) rfl rfl (Stage.fail_adds ..).2.1
      ⟨(Stage.fail_adds ..).2.2.2, Stage.endings_fail ..⟩
  case unknown crew goesOn _ | unusable crew goesOn _ _ =>
    exact .of_fail (X := S) crew (goes goesOn) rfl (fun _ _ => rfl) hc rfl rfl nothing rfl rfl
      (S.fail_adds ..).2.1 ⟨(S.fail_adds ..).2.2.2, S.endings_fail ..⟩
  case exceed crew goesOn _ _ _ =>
    exact .of_fail crew (goes goesOn) (S.lasting_change (f := Run.failure) r rfl) ne
      ((S.lasting_change (f := Run.context) r rfl).trans hc) rfl rfl nothing rfl rfl
      (Stage.fail_adds ..).2.1 ⟨(Stage.fail_adds ..).2.2.2, Stage.endings_fail ..⟩
  case blame crew goesOn _ =>
    have hctx := S.lasting_change (f := Run.context) (s := r) r (Run.context_released _)
    exact .of_fail crew (hc ▸ goesOn) (S.lasting_change (f := Run.failure) r released) ne
      (hctx.trans hc) rfl rfl nothing rfl rfl (Stage.fail_adds ..).2.1
      ⟨(Stage.fail_adds ..).2.2.2, Stage.endings_fail ..⟩
  -- A run that had begun is concluded.
  case surface inner node _ _ crew isOver =>
    obtain ⟨-, -, hlt⟩ := h.orderly.crew (r, .nesting node inner)
      (crew ▸ Multiset.mem_cons_self _ _)
    exact .of_conclude (X := S) hlt rfl rfl rfl (h.context inner) (ends isOver).1 (ends isOver).2 rfl
      rfl rfl (Stage.error_erase _ _ (by decide))
      (.inr ⟨r, node, crew ▸ Multiset.mem_cons_self _ _⟩)
  case conclude post isOver =>
    have hlt := h.orderly.posts _ (post ▸ Multiset.mem_cons_self _ _)
    exact .of_conclude (X := S) hlt rfl rfl rfl hc (ends isOver).1 (ends isOver).2 rfl rfl rfl rfl
      (.inl ⟨_, post, rfl⟩)
  case expire post _ =>
    have hlt := h.orderly.posts _ (post ▸ Multiset.mem_cons_self _ _)
    refine .of_conclude (X := S.cancel (S.runs r).context true) (b := true) hlt rfl rfl rfl hc
      (fun _ => ?_) nofun rfl rfl rfl rfl (.inl ⟨_, post, rfl⟩)
    simp [Stage.cancel, hc]

/-! ## Courses -/

theorem Launch.oneContext_opening (l : Launch) : OneContext l.opening where
  orderly := l.orderly_opening
  context s := by
    by_cases h0 : s = 0
    · subst h0
      rfl
    · rw [l.orderly_opening.fresh s (Nat.one_le_iff_ne_zero.2 h0)]
      rfl

theorem Launch.oneContext_broken (l : Launch) : OneContext l.broken := ⟨l.orderly_broken, fun _ => rfl⟩

theorem OneContext.cancel {S : Stage} (h : OneContext S) (c : Nat) : OneContext (S.cancel c true) :=
  ⟨h.orderly.cancel c, h.context⟩

theorem Launch.failure_opening (l : Launch) (s : Nat) : (l.opening.runs s).failure = none := by
  by_cases h0 : s = 0
  · subst h0
    rfl
  · rw [l.orderly_opening.fresh s (Nat.one_le_iff_ne_zero.2 h0)]
    rfl

theorem Course.oneContext {l : Launch} {past : List (World × Act)} {w : World}
    (h : Course l.world past w) : OneContext (w.view (l.allDeeds past)) :=
  h.invariant (fun _ => l.oneContext_opening) (fun _ => l.oneContext_broken) (fun m hS => hS.move m)
    fun c hS => hS.cancel c

end Conduit
