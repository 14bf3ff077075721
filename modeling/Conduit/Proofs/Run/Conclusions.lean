import Conduit.Proofs.Run.FirstFailure
import Conduit.Proofs.Run.Sharing

/-!
# Conclusions

A run is concluded once. Unless it was cancelled, its first failure is what it comes to, or else how its
nodes stand, and nothing that happens later changes either.
-/

namespace Conduit

/-! ## The first failure of a run -/

/-- The first failure of the run. -/
def firstFailureIn (r : Nat) (deeds : List Deed) : Option PipelineError :=
  ((failures deeds).filterMap fun f => if f.1 = r then some f.2 else none).getLast?

theorem firstFailureIn_append {news : List Deed} (h : ∀ d ∈ news, d.isPlain) (r : Nat)
    (deeds : List Deed) : firstFailureIn r (news ++ deeds) = firstFailureIn r deeds := by
  unfold firstFailureIn
  rw [failures_append h]

theorem firstFailureIn_failed {news : List Deed} (h : ∀ d ∈ news, d.isPlain) (r s : Nat) (node : String)
    (e : PipelineError) (deeds : List Deed) :
    firstFailureIn r (.failed s node e :: (news ++ deeds)) =
      (firstFailureIn r deeds).or (if s = r then some e else none) := by
  have hf : failures (.failed s node e :: (news ++ deeds)) = (s, e) :: failures deeds := by
    rw [← failures_append h deeds]
    rfl
  unfold firstFailureIn
  rw [hf, List.filterMap_cons]
  dsimp only
  by_cases hs : s = r
  · simp only [if_pos hs, List.getLast?_cons]
    cases List.getLast? _ <;> rfl
  · simp only [if_neg hs, Option.or_none]

theorem firstFailureIn_eq_none {r : Nat} {deeds : List Deed} :
    firstFailureIn r deeds = none ↔ ∀ node e, .failed r node e ∉ deeds := by
  unfold firstFailureIn
  rw [List.getLast?_eq_none_iff, List.filterMap_eq_nil_iff]
  constructor
  · intro h node e hd
    have hf := h (r, e) (mem_failures.2 ⟨node, hd⟩)
    rw [if_pos rfl] at hf
    cases hf
  · rintro h ⟨s, e⟩ hf
    refine if_neg fun hs => ?_
    obtain ⟨node, hd⟩ := mem_failures.1 hf
    exact h node e (hs ▸ hd)

theorem exists_of_firstFailureIn {r : Nat} {deeds : List Deed} {e : PipelineError}
    (h : firstFailureIn r deeds = some e) : ∃ node, .failed r node e ∈ deeds := by
  obtain ⟨⟨s, e'⟩, hf, hs⟩ := List.mem_filterMap.1 (List.mem_of_getLast? h)
  dsimp only at hs
  split at hs
  · next hr =>
    cases hs
    exact hr ▸ mem_failures.1 hf
  · cases hs

/-! ## Conclusions that are still to come -/

/-- The duty waits for the run. -/
def Duty.awaits (s : Nat) : Duty → Bool
  | .nesting _ inner => inner == s
  | _ => false

def Deed.concludes (s : Nat) : Deed → Bool
  | .concluded r _ => r == s
  | _ => false

def awaiters (s : Nat) (crew : Multiset (Nat × Duty)) : Nat := crew.countP fun p => p.2.awaits s

theorem awaiters_cons (s r : Nat) (d : Duty) (crew : Multiset (Nat × Duty)) :
    awaiters s ((r, d) ::ₘ crew) = awaiters s crew + if d.awaits s then 1 else 0 :=
  Multiset.countP_cons ..

theorem awaiters_arrivals (s : Nat) (run : Run) (r : Nat) (source : String) (live : Bool)
    (crew : Multiset (Nat × Duty)) : awaiters s (run.arrivals r source live + crew) = awaiters s crew := by
  unfold awaiters
  rw [Multiset.countP_add, Multiset.countP_eq_zero.2, Nat.zero_add]
  intro p hp
  obtain ⟨place, -, rfl⟩ := Multiset.mem_map.1 hp
  exact Bool.false_ne_true

theorem countP_concludes {news : List Deed} (h : ∀ d ∈ news, d.isPlain) (s : Nat) (deeds : List Deed) :
    (news ++ deeds).countP (Deed.concludes s) = deeds.countP (Deed.concludes s) := by
  rw [List.countP_append, List.countP_eq_zero.2, Nat.zero_add]
  intro d hd
  have hp := h d hd
  cases d with
  | concluded r result => cases hp
  | _ => exact Bool.false_ne_true

/-- How often the run was concluded, and how often it is going to be. -/
def Stage.conclusions (S : Stage) (s : Nat) : Nat :=
  awaiters s S.crew + S.posts.countP (fun p => p.2 = s) + S.deeds.countP (Deed.concludes s)

section

variable {S S' : Stage} {r s : Nat}

theorem Stage.countP_concludes_conclude (X : Stage) (q : Nat) (b : Bool) (s : Nat) :
    (X.conclude q b).deeds.countP (Deed.concludes s) =
      X.deeds.countP (Deed.concludes s) + if q = s then 1 else 0 := by
  rw [(X.conclude_adds q b).2.1, List.countP_cons]
  simp only [Deed.concludes, beq_iff_eq]

/-! A task that turns from one duty to another leaves what is to be concluded as it was, unless it waits
for a run before or after. -/

theorem Stage.conclusions_turned {X : Stage} {d e : Duty} {rest : Multiset (Nat × Duty)}
    (crew : S.crew = (r, d) ::ₘ rest) (crew' : X.crew = (r, e) ::ₘ rest) (posts : X.posts = S.posts)
    (awaits : e.awaits s = d.awaits s)
    (deeds : X.deeds.countP (Deed.concludes s) = S.deeds.countP (Deed.concludes s)) :
    X.conclusions s = S.conclusions s := by
  unfold Stage.conclusions
  rw [crew, crew', posts, deeds, awaiters_cons, awaiters_cons, awaits]

theorem Stage.conclusions_spread {X : Stage} {d : Duty} {rest : Multiset (Nat × Duty)} {run : Run}
    {source : String} {live : Bool} (crew : S.crew = (r, d) ::ₘ rest) (awaits : d.awaits s = false)
    (crew' : X.crew = (r, .leaving) ::ₘ (run.arrivals r source live + rest))
    (posts : X.posts = S.posts) (deeds : X.deeds = S.deeds) : X.conclusions s = S.conclusions s := by
  unfold Stage.conclusions
  rw [crew, crew', posts, deeds, awaiters_cons, awaiters_cons, awaiters_arrivals, awaits]
  rfl

theorem Stage.conclusions_failed {X Y : Stage} {d : Duty} {rest : Multiset (Nat × Duty)}
    {node : String} {e : PipelineError} (news : List Deed) (crew : S.crew = (r, d) ::ₘ rest)
    (awaits : d.awaits s = false) (crew' : X.crew = (r, .leaving) ::ₘ rest)
    (posts : X.posts = (Y.fail r node e).posts) (posts' : Y.posts = S.posts)
    (deeds : X.deeds = (Y.fail r node e).deeds) (deeds' : Y.deeds = news ++ S.deeds)
    (plain : ∀ d ∈ news, d.isPlain) : X.conclusions s = S.conclusions s := by
  refine conclusions_turned crew crew' (posts.trans ((Y.fail_adds r node e).2.2.2.trans posts'))
    awaits.symm ?_
  rw [deeds, (Y.fail_adds r node e).2.1, deeds', List.countP_cons_of_neg Bool.false_ne_true,
    countP_concludes plain]

/-- What waits for a run does so until it concludes it. -/
theorem Move.conclusions (m : Move r S S') (hs : s < S.nextRun) : S'.conclusions s = S.conclusions s := by
  have concludes := Stage.countP_concludes_conclude (s := s)
  cases m
  -- The task turns from a duty that waits for no run to another one that waits for none.
  case lost crew _ _ _ _ =>
    exact Stage.conclusions_turned crew rfl rfl rfl (countP_concludes (isPlain_askDeeds r _ _ _) s _)
  case count passed s' crew _ _ _ _ =>
    refine Stage.conclusions_turned crew rfl rfl ?_
      (countP_concludes (List.forall_mem_cons.2 ⟨rfl, isPlain_askDeeds r _ _ _⟩) s _)
    cases (s'.gate.arrive passed).2 <;> rfl
  case refuse crew _ _ _ =>
    exact Stage.conclusions_failed (Y := S.record _) _ crew rfl rfl rfl rfl rfl rfl
      (isPlain_askDeeds r _ _ _)
  case unknown crew _ _ | unusable crew _ _ _ =>
    exact Stage.conclusions_failed (Y := S) [] crew rfl rfl rfl rfl rfl rfl nofun
  case exceed crew _ _ _ _ | blame crew _ _ =>
    exact Stage.conclusions_failed (Y := S.change r _) [] crew rfl rfl rfl rfl rfl rfl nofun
  case skip crew | spread crew _ _ _ => exact Stage.conclusions_spread crew rfl rfl rfl rfl
  -- The run that is entered is a new one, so what waits for it does not wait for the run at hand.
  case enter node rest _ _ _ crew _ _ _ =>
    unfold Stage.conclusions
    simp only [crew, Stage.withCrew, awaiters_cons, Duty.awaits, beq_false_of_ne (Nat.ne_of_gt hs)]
    rfl
  case jump crew _ _ _ =>
    unfold Stage.conclusions
    simp only [crew, Stage.withCrew, awaiters_cons, Duty.awaits]
    rfl
  case close crew =>
    unfold Stage.conclusions
    rw [crew, awaiters_cons]
    rfl
  -- The duty or the post that waited is gone, and the deed that concludes the run is there.
  case surface inner node rest cancelled crew isOver =>
    unfold Stage.conclusions
    simp only [crew, Stage.withCrew, Stage.setValues, awaiters_cons, Duty.awaits, concludes, beq_iff_eq,
      (S.conclude_adds inner cancelled).2.2.2.1, Bool.false_eq_true, if_false]
    omega
  case conclude posts cancelled post _ =>
    unfold Stage.conclusions
    simp only [post, concludes, Multiset.countP_cons, (S.conclude_adds r cancelled).2.2.2.2]
    omega
  case expire posts post _ =>
    unfold Stage.conclusions
    simp only [post, concludes, Multiset.countP_cons, (Stage.conclude_adds _ r true).2.2.2.2]
    simp only [Stage.cancel]
    omega
  case finish crew _ | doze crew _ =>
    exact Stage.conclusions_turned crew rfl rfl rfl
      (countP_concludes (List.forall_mem_singleton.2 rfl) s _)
  case giveUp d _ crew isOpen _ =>
    refine Stage.conclusions_turned crew rfl rfl ?_ rfl
    obtain ⟨_, _, _, rfl⟩ | ⟨_, rfl⟩ := Duty.eq_of_isOpen isOpen <;> rfl
  all_goals exact Stage.conclusions_turned (by assumption) rfl rfl (by rfl) rfl

theorem Move.outcome_of_idle (m : Move r S S') (hs : s < S.nextRun) (idle : S.Idle s) :
    (S'.runs s).outcome = (S.runs s).outcome := by
  have concluded : ∀ (X : Stage) (q : Nat) (b : Bool),
      ((X.conclude q b).runs s).outcome = (X.runs s).outcome := by
    intro X q b
    by_cases hq : s = q
    · subst hq
      unfold Stage.conclude
      dsimp only
      split <;> simp [Stage.change, Stage.say, Stage.record, Stage.setValues, Run.outcome]
    · exact congrArg Run.outcome (X.runs_conclude_of_ne q hq b)
  -- Nobody works for the run, so that another one is moved, if any.
  have ne : ∀ {d : Duty} {rest : Multiset (Nat × Duty)}, S.crew = (r, d) ::ₘ rest → s ≠ r := by
    rintro d rest crew rfl
    exact idle d (crew ▸ Multiset.mem_cons_self _ _)
  cases m
  case conclude => exact concluded ..
  case expire => exact concluded ..
  case surface => exact concluded ..
  case enter crew _ _ _ =>
    refine congrArg Run.outcome ((Function.update_of_ne (Nat.ne_of_lt hs) _ _).trans ?_)
    exact Function.update_of_ne (ne crew) _ _
  case refuse crew _ _ _ | unknown crew _ _ | unusable crew _ _ _ =>
    exact congrArg Run.outcome (Stage.runs_fail_of_ne _ _ (ne crew) _ _)
  case exceed crew _ _ _ _ | blame crew _ _ =>
    exact congrArg Run.outcome ((Stage.runs_fail_of_ne _ _ (ne crew) _ _).trans
      (Stage.runs_change_of_ne _ _ (ne crew) _))
  case giveUp | stray | lost | rest | resume | interrupt | finish | doze => rfl
  all_goals exact congrArg Run.outcome (Function.update_of_ne (ne ‹_›) _ _)

theorem Rested.conclusions_eq_zero (h : Rested S) (hs : S.nextRun ≤ s) : S.conclusions s = 0 := by
  have crew : awaiters s S.crew = 0 := by
    refine Multiset.countP_eq_zero.2 fun ⟨q, d⟩ hp hd => ?_
    have ho := (h.reported.oneContext.orderly.crew (q, d) hp).2
    cases d with
    | nesting node inner =>
      obtain rfl : inner = s := eq_of_beq hd
      exact absurd ho.2 (Nat.not_lt.2 hs)
    | _ => cases hd
  have posts : S.posts.countP (fun p => p.2 = s) = 0 := by
    refine Multiset.countP_eq_zero.2 fun p hp hps => ?_
    exact absurd (hps ▸ h.reported.oneContext.orderly.posts p hp) (Nat.not_lt.2 hs)
  have deeds : S.deeds.countP (Deed.concludes s) = 0 := by
    refine List.countP_eq_zero.2 fun d hd hc => ?_
    cases d with
    | concluded q result =>
      obtain rfl : q = s := eq_of_beq hc
      exact absurd (h.isOver q result hd).1 (Nat.not_lt.2 hs)
    | _ => cases hc
  unfold Stage.conclusions
  rw [crew, posts, deeds]

theorem Move.conclusions_begun (m : Move r S S') (h : Rested S) (hn : S'.nextRun ≠ S.nextRun) :
    S'.conclusions S.nextRun = 1 := by
  have hz := h.conclusions_eq_zero (Nat.le_refl _)
  unfold Stage.conclusions at hz
  cases m
  case enter crew _ _ _ =>
    unfold Stage.conclusions
    rw [crew, awaiters_cons] at hz
    simp only [Stage.withCrew, awaiters_cons, Duty.awaits, beq_self_eq_true, if_true] at hz ⊢
    simp only [Stage.begin, Stage.say, Stage.change, Bool.false_eq_true, if_false] at hz ⊢
    omega
  case refuse | unknown | unusable | exceed | blame => exact (hn (Stage.fail_adds ..).2.2.1).elim
  case surface | conclude | expire => exact (hn (Stage.conclude_adds ..).2.2.1).elim
  all_goals exact (hn rfl).elim

end

/-! ## What runs are concluded with -/

/-- What a run comes to that was not cancelled. -/
def Stage.resultIn (S : Stage) (s : Nat) : RunResult :=
  match firstFailureIn s S.deeds with
  | some e => .error e
  | none => .ok (S.runs s).outcome

/-- A run is concluded once, and with its first failure or with how its nodes stand, unless it was
cancelled. Before, it keeps its first failure. -/
structure Concluded (S : Stage) : Prop where
  rested : Rested S
  once : ∀ s, S.conclusions s ≤ 1
  failure : ∀ s, (∀ result, .concluded s result ∉ S.deeds) →
    (S.runs s).failure = firstFailureIn s S.deeds
  result : ∀ s result, .concluded s result ∈ S.deeds →
    S.cancelled 0 = true ∨ result = S.resultIn s

namespace Concluded

variable {S S' : Stage} {r s : Nat}

theorem once_move (h : Concluded S) (m : Move r S S') (s : Nat) : S'.conclusions s ≤ 1 := by
  by_cases hs : s < S.nextRun
  · exact (m.conclusions hs).trans_le (h.once s)
  by_cases hs' : s < S'.nextRun
  · obtain ⟨hn, rfl⟩ := (m.known_or_begun hs').resolve_left hs
    exact (m.conclusions_begun h.rested hn).le
  · rw [(h.rested.move m).conclusions_eq_zero (Nat.le_of_not_lt hs')]
    exact Nat.zero_le _

theorem not_concluded_of_move (h : Concluded S) (m : Move r S S') (news : List Deed)
    (deeds : S'.deeds = news ++ S.deeds) {result : RunResult} (hm : .concluded s result ∈ news)
    (result' : RunResult) : .concluded s result' ∉ S.deeds := by
  intro hd
  have hone := h.once_move m s
  have hnew := List.countP_pos_iff.2 ⟨_, hm, show Deed.concludes s _ = true from beq_self_eq_true s⟩
  have hold := List.countP_pos_iff.2 ⟨_, hd, show Deed.concludes s _ = true from beq_self_eq_true s⟩
  unfold Stage.conclusions at hone
  rw [deeds, List.countP_append] at hone
  omega

theorem failure_move (h : Concluded S) (m : Move r S S') (s : Nat)
    (hn : ∀ result, .concluded s result ∉ S'.deeds) :
    (S'.runs s).failure = firstFailureIn s S'.deeds := by
  have hold := h.failure s fun result hd => hn result (m.deeds_subset hd)
  rcases m.effect h.rested.reported.oneContext with ⟨news, hd, hp, hk, -⟩ |
    ⟨q, node, e, news, hd, hp, -, -, -, hk, ho, -⟩ | ⟨q, -, hd, -, ho, -⟩
  · rw [hk, hd, firstFailureIn_append hp, hold]
  · rw [hd, firstFailureIn_failed hp, ← hold]
    by_cases hq : s = q
    · rw [hq, hk, if_pos rfl]
    · rw [ho s hq, if_neg (Ne.symm hq), Option.or_none]
  · have hq : s ≠ q := by
      rintro rfl
      exact hn _ (hd ▸ List.mem_cons_self)
    rw [ho s hq, hold, hd]
    rfl

theorem resultIn_move (h : Concluded S) (m : Move r S S') (hs : s < S.nextRun) (idle : S.Idle s) :
    S'.resultIn s = S.resultIn s := by
  have hf : firstFailureIn s S'.deeds = firstFailureIn s S.deeds := by
    rcases m.effect h.rested.reported.oneContext with ⟨news, hd, hp, -⟩ |
      ⟨q, node, e, news, hd, hp, ⟨d, busy⟩, -⟩ | ⟨q, -, hd, -⟩
    · rw [hd, firstFailureIn_append hp]
    · have hq : q ≠ s := fun hq => idle d (hq ▸ busy)
      rw [hd, firstFailureIn_failed hp, if_neg hq, Option.or_none]
    · rw [hd]
      rfl
  unfold Stage.resultIn
  rw [hf, m.outcome_of_idle hs idle]

theorem result_move (h : Concluded S) (m : Move r S S') (s : Nat) (result : RunResult)
    (hd : .concluded s result ∈ S'.deeds) : S'.cancelled 0 = true ∨ result = S'.resultIn s := by
  have old : .concluded s result ∈ S.deeds → S'.cancelled 0 = true ∨ result = S'.resultIn s := by
    intro hd
    obtain ⟨hs, hc | idle⟩ := h.rested.isOver s result hd
    · exact .inl (m.cancelled hc)
    · exact (h.result s result hd).imp m.cancelled fun hr => hr.trans (h.resultIn_move m hs idle).symm
  rcases m.effect h.rested.reported.oneContext with ⟨news, hn, hp, -⟩ |
    ⟨q, node, e, news, hn, hp, -⟩ | ⟨q, begun, hn, -, -, isOver, -⟩
  · exact old (concluded_append hp (hn ▸ hd))
  · rw [hn] at hd
    exact old (concluded_append hp ((List.mem_cons.1 hd).resolve_left nofun))
  · by_cases hold : .concluded s result ∈ S.deeds
    · exact old hold
    rw [hn] at hd
    obtain ⟨rfl, rfl⟩ := Deed.concluded.inj ((List.mem_cons.1 hd).resolve_right hold)
    cases hc : S'.cancelled 0 with
    | true => exact .inl rfl
    | false =>
      have idle := (h.rested.tally s begun).idle (isOver.resolve_left (hc ▸ Bool.false_ne_true))
      have hfailure := h.failure s (h.not_concluded_of_move m [_] hn List.mem_cons_self)
      right
      rw [h.resultIn_move m begun idle]
      unfold Run.resultIf Stage.resultIn
      rw [hfailure]
      rfl

theorem move (h : Concluded S) (m : Move r S S') : Concluded S' :=
  ⟨h.rested.move m, h.once_move m, h.failure_move m, h.result_move m⟩

theorem cancel (h : Concluded S) (c : Nat) : Concluded (S.cancel c true) :=
  ⟨h.rested.cancel c, h.once, h.failure, fun s result hd =>
    (h.result s result hd).imp_left (Stage.cancelled_cancel _ c true)⟩

end Concluded

theorem Launch.concluded_opening (l : Launch) : Concluded l.opening where
  rested := l.rested_opening
  once s := by
    unfold Stage.conclusions
    have hc : awaiters s l.opening.crew = 0 := rfl
    have hd : l.opening.deeds.countP (Deed.concludes s) = 0 := rfl
    rw [hc, hd, Nat.zero_add]
    exact Multiset.countP_le_card (fun p : Nat × Nat => p.2 = s) {(0, 0)}
  failure s _ := l.failure_opening s
  result _ _ hd := nomatch hd

theorem Launch.concluded_broken (l : Launch) : Concluded l.broken where
  rested := l.rested_broken
  once _ := Nat.zero_le _
  failure _ _ := rfl
  result _ _ hd := nomatch hd

section

variable {l : Launch} {past : List (World × Act)} {w : World}

theorem Course.concluded (h : Course l.world past w) : Concluded (w.view (l.allDeeds past)) :=
  h.invariant (fun _ => l.concluded_opening) (fun _ => l.concluded_broken) (fun m hS => hS.move m)
    fun c hS => hS.cancel c

/-- A run that was not cancelled is concluded with its first failure, or with how its nodes stand. -/
theorem Course.result_of_concluded (h : Course l.world past w)
    (goesOn : (w.contexts.get 0).cancelled = false) {r : Nat} {result : RunResult}
    (hd : .concluded r result ∈ l.allDeeds past) : result =
      match firstFailureIn r (l.allDeeds past) with
      | some e => .error e
      | none => .ok (w.runs.get r).outcome :=
  (h.concluded.result r result hd).resolve_left fun hc => Bool.false_ne_true (goesOn.symm.trans hc)

theorem Course.result_of_calm (h : Course l.world past w)
    (goesOn : (w.contexts.get 0).cancelled = false) (calm : failures (l.allDeeds past) = []) {r : Nat}
    {result : RunResult} (hd : .concluded r result ∈ l.allDeeds past) :
    result = .ok (w.runs.get r).outcome := by
  have hnone : firstFailureIn r (l.allDeeds past) = none :=
    firstFailureIn_eq_none.2 fun node e hf => List.not_mem_nil (calm ▸ mem_failures.2 ⟨node, hf⟩)
  rw [h.result_of_concluded goesOn hd, hnone]

/-- Every run is concluded once, or is going to be. -/
theorem Course.conclusions_eq_one (h : Course l.world past w) (fits : l.Fits) {r : Nat}
    (hr : r < w.nextRun) :
    (w.view (l.allDeeds past)).conclusions r = 1 := by
  refine (h.invariant (P := fun S => Rested S ∧ ∀ s, s < S.nextRun → S.conclusions s = 1)
    (fun _ => ⟨l.rested_opening, fun s hs => ?_⟩) (fun hb => absurd fits hb)
    (fun {r S S'} m hS => ⟨hS.1.move m, fun s hs => ?_⟩)
    (fun c hS => ⟨hS.1.cancel c, hS.2⟩)).2 r hr
  · obtain rfl := Nat.lt_one_iff.1 hs
    rfl
  · rcases m.known_or_begun hs with hold | ⟨hn, rfl⟩
    · exact (m.conclusions hold).trans (hS.2 s hold)
    · exact m.conclusions_begun hS.1 hn

end

end Conduit
