import Conduit.Proofs.Run.JoinSafety
import Conduit.Proofs.Run.Sharing

/-!
# Early ends

A run ends early when one of its nodes completes while the end is asked for in the context. Which run
asked for it does not matter: the run of a pipeline takes the key away when it is concluded, and until
then the runs beside it end early as well.
-/

namespace Conduit

/-! ## Asking for the end -/

theorem Activity.Bursts.get? {network : Http.Network} {activity : Activity} {s s' : Scene}
    {ts : List Touch} {p : Pending} (b : activity.Bursts network s ts s' p) {k : String} {value : Value}
    (h : Entries.get? s'.values k = some value) :
    .write k value ∈ ts ∨ Entries.get? s.values k = some value := by
  induction b with
  | finish | pause | send => exact .inr h
  | look rest ih | cancel rest ih | emit rest ih | note rest ih | cut rest ih | pass rest ih
  | drop rest ih | reply _ rest ih => exact ih h
  | @write key v next s _ _ _ _ ih =>
    rcases ih h with h | h
    · exact .inl (List.mem_cons_of_mem _ h)
    · by_cases hk : key = k
      · subst hk
        rw [show Entries.get? (s.values.set key v) key = some v from Entries.get?_insert_self ..] at h
        exact .inl (Option.some.inj h ▸ List.mem_cons_self)
      · exact .inr ((Entries.get?_insert_of_ne _ _ hk).symm.trans h)
  | @erase key next s _ _ _ _ ih =>
    rcases ih h with h | h
    · exact .inl (List.mem_cons_of_mem _ h)
    · have he := Entries.get?_erase s.values key k
      split at he
      · cases he.symm.trans h
      · exact .inr (he.symm.trans h)

/-- An execution of the run asked for the end. -/
def Asks (deeds : List Deed) (s : Nat) : Prop :=
  ∃ node touches result value, .performed s node touches result ∈ deeds ∧
    .write Values.endKey value ∈ touches ∧ value.isTruthy

theorem Asks.mono {deeds others : List Deed} {s : Nat} (h : Asks deeds s) (hs : deeds ⊆ others) :
    Asks others s :=
  h.imp fun _ => .imp fun _ => .imp fun _ => .imp fun _ ⟨hd, hw⟩ => ⟨hs hd, hw⟩

def Stage.Ending (S : Stage) : Prop := (S.values 0).endRequested

theorem Stage.ending_iff {S : Stage} :
    S.Ending ↔ ∃ value, Entries.get? (S.values 0) Values.endKey = some value ∧ value.isTruthy := by
  unfold Ending Values.endRequested
  exact Option.any_eq_true _ _

section

variable {S S' : Stage} {r s q : Nat}

/-- What is the value of a key, other than that of the error, was so before, or it was just written by
an execution. -/
theorem Move.written (m : Move r S S') (hone : OneContext S) {k : String} {value : Value}
    (hk : k ≠ Values.errorKey) (h : Entries.get? (S'.values 0) k = some value) :
    Entries.get? (S.values 0) k = some value ∨ ∃ node activity touches result,
      (r, .performing node activity) ∈ S.crew ∧
        S'.deeds = .performed r node touches result :: S.deeds ∧ .write k value ∈ touches := by
  obtain ⟨news, hd, hkey⟩ := m.key 0 k
  obtain ⟨news', hd', occasions⟩ := m.occasions
  obtain rfl : news = news' := List.append_cancel_right (hd.symm.trans hd')
  rcases hkey with ⟨d, hm, hw⟩ | hsame | ⟨-, hnone⟩ | he
  · cases occasions d hm with
    | @performed node activity result busy deeds values =>
      have hvalues : S'.values 0 = (activity.burst S.network
          ⟨S.valuesOf r, S.cancelled (S.runs r).context, [], []⟩).1.values := by
        rw [values, Stage.setValues, hone.context r]
        exact Function.update_self 0 _ S.values
      rcases (activity.bursts S.network _).get? (hvalues ▸ h) with hw | hold
      · exact .inr ⟨node, activity, _, result, busy, deeds, hw⟩
      · exact .inl ((congrArg (fun c => Entries.get? (S.values c) k)
          (hone.context r)).symm.trans hold)
    | _ => cases hw
  · exact .inl (hsame.symm.trans h)
  · cases hnone.symm.trans h
  · exact absurd he hk

theorem Move.ending (m : Move r S S') (hone : OneContext S) (h : S'.Ending) :
    S.Ending ∨ Asks S'.deeds r ∧ (∃ d, (r, d) ∈ S.crew) ∧
      ∀ s result, .concluded s result ∈ S'.deeds → .concluded s result ∈ S.deeds := by
  obtain ⟨value, hv, truthy⟩ := Stage.ending_iff.1 h
  rcases m.written hone (by decide) hv with hold | ⟨node, activity, touches, result, busy, hd, hw⟩
  · exact .inl (Stage.ending_iff.2 ⟨value, hold, truthy⟩)
  · refine .inr ⟨⟨node, touches, result, value, hd ▸ List.mem_cons_self, hw, truthy⟩, ⟨_, busy⟩,
      fun s result hc => ?_⟩
    rw [hd] at hc
    exact (List.mem_cons.1 hc).resolve_left nofun

/-- The run of a pipeline takes the key away when it is concluded. -/
theorem Move.not_ending (m : Move r S S') (hone : OneContext S) (posts : ∀ p ∈ S.posts, p = (0, 0))
    (hs : s ≠ 0) {result : RunResult} (hc : .concluded s result ∈ S'.deeds) :
    .concluded s result ∈ S.deeds ∨ ¬S'.Ending := by
  obtain ⟨news, hd, occasions⟩ := m.occasions
  rw [hd, List.mem_append] at hc
  rcases hc with hc | hc
  · have occasion := occasions _ hc
    cases occasion with
    | surfaced nesting taken =>
      rw [hone.context] at taken
      refine .inr fun h => ?_
      obtain ⟨value, hv, -⟩ := Stage.ending_iff.1 h
      cases taken.symm.trans hv
    | concluded post => exact absurd (congrArg Prod.snd (posts _ post)) hs
  · exact .inl hc

/-- A run ends early only when a node of it has completed and the end is asked for. -/
theorem Move.ended (m : Move r S S') (h : (S'.runs q).ended) :
    (S.runs q).ended ∨ (∃ node, (q, .going node) ∈ S.crew) ∧ (S.valuesOf q).endRequested := by
  have same : (S'.runs q).ended = (S.runs q).ended →
      (S.runs q).ended ∨ (∃ node, (q, .going node) ∈ S.crew) ∧ (S.valuesOf q).endRequested :=
    fun he => .inl (he ▸ h)
  have lasting : Run.Lasting Run.ended := fun _ _ _ _ => rfl
  have released : (S.runs r).released.ended = (S.runs r).ended :=
    Run.apply_released (fun _ _ _ _ => rfl) _
  cases m
  case giveUp | stray | lost | rest | resume | interrupt | finish | doze => exact .inl h
  case take | queue | grant | withdraw | jump | spread | close =>
    exact same (Stage.lasting_update (f := Run.ended) r rfl rfl)
  case count | skip | start =>
    exact same (Stage.lasting_update (f := Run.ended) r rfl (lasting.changeNode ..))
  case retreat => exact same (Stage.lasting_update (f := Run.ended) r rfl released)
  case abandon | settle =>
    exact same (Stage.lasting_update (f := Run.ended) r rfl ((lasting.changeNode ..).trans released))
  case unknown | unusable => exact same (S.lasting_fail (f := Run.ended) r lasting _ _)
  case refuse => exact same (Stage.lasting_fail (f := Run.ended) _ r lasting _ _)
  case exceed =>
    exact same ((Stage.lasting_fail (f := Run.ended) _ r lasting _ _).trans
      (Stage.lasting_update (f := Run.ended) r rfl rfl))
  case blame =>
    exact same ((Stage.lasting_fail (f := Run.ended) _ r lasting _ _).trans
      (Stage.lasting_update (f := Run.ended) r rfl released))
  case surface inner _ _ _ _ _ => exact same (S.lasting_conclude (f := Run.ended) inner lasting _)
  case conclude => exact same (S.lasting_conclude (f := Run.ended) r lasting _)
  case expire => exact same (Stage.lasting_conclude (f := Run.ended) _ r lasting _)
  case enter t node rest n graph origin _ _ _ _ =>
    by_cases hq : q = S.nextRun
    · subst hq
      cases (congrArg Run.ended (Function.update_self ..)).symm.trans h
    · exact same ((congrArg Run.ended (Function.update_of_ne hq _ _)).trans
        (Stage.lasting_update (f := Run.ended) r rfl (lasting.changeNode ..)))
  case halt node rest crew ends =>
    by_cases hq : q = r
    · subst hq
      exact .inr ⟨⟨node, crew ▸ Multiset.mem_cons_self _ _⟩, ends⟩
    · exact same (congrArg Run.ended (Function.update_of_ne hq _ _))

end

/-! ## Who asked for the end -/

/-- The run is the first or not concluded, unless it was cancelled. -/
def Stage.Lingers (S : Stage) (s : Nat) : Prop :=
  s = 0 ∨ (∀ result, .concluded s result ∉ S.deeds) ∨ S.cancelled 0 = true

/-- When the end is asked for, a run that lingers has asked for it. -/
structure Attended (S : Stage) : Prop where
  rested : Rested S
  ending : S.Ending → ∃ s, Asks S.deeds s ∧ S.Lingers s
  ended : ∀ q, (S.runs q).ended → ∃ s, Asks S.deeds s

namespace Attended

variable {S S' : Stage} {r : Nat}

theorem ending_move (h : Attended S) (m : Move r S S') (he : S'.Ending) :
    ∃ s, Asks S'.deeds s ∧ S'.Lingers s := by
  have hone := h.rested.reported.oneContext
  rcases m.ending hone he with hold | ⟨asks, ⟨d, busy⟩, hconcluded⟩
  · obtain ⟨s, asks, lingers⟩ := h.ending hold
    refine ⟨s, asks.mono m.deeds_subset, ?_⟩
    by_cases hs : s = 0
    · exact .inl hs
    · refine .inr ((lingers.resolve_left hs).imp (fun hn result hc => ?_) m.cancelled)
      exact (m.not_ending hone h.rested.reported.posts hs hc).elim (hn result) fun hne => hne he
  · refine ⟨r, asks, .inr ?_⟩
    by_cases hover : ∃ result, .concluded r result ∈ S.deeds
    · obtain ⟨result, hd⟩ := hover
      have hc := (h.rested.isOver r result hd).2.resolve_right fun idle => idle d busy
      exact .inr (m.cancelled hc)
    · exact .inl fun result hc => hover ⟨result, hconcluded r result hc⟩

theorem move (h : Attended S) (m : Move r S S') : Attended S' where
  rested := h.rested.move m
  ending := h.ending_move m
  ended q hq := by
    have older : (∃ s, Asks S.deeds s) → ∃ s, Asks S'.deeds s :=
      fun ⟨s, asks⟩ => ⟨s, asks.mono m.deeds_subset⟩
    rcases m.ended hq with hq | ⟨-, hends⟩
    · exact older (h.ended q hq)
    · unfold Stage.valuesOf at hends
      rw [h.rested.reported.oneContext.context q] at hends
      obtain ⟨s, asks, -⟩ := h.ending hends
      exact older ⟨s, asks⟩

theorem cancel (h : Attended S) (c : Nat) : Attended (S.cancel c true) where
  rested := h.rested.cancel c
  ending he := (h.ending he).imp fun _ => .imp_right fun hs =>
    hs.imp_right fun hs => hs.imp_right (Stage.cancelled_cancel _ c true)
  ended := h.ended

end Attended

/-! ## Courses -/

section

variable {l : Launch} {past : List (World × Act)} {u w : World} {a : Act} {q : Nat}

theorem Launch.ended_opening (l : Launch) : (l.opening.runs q).ended = false := by
  by_cases h0 : q = 0
  · subst h0
    rfl
  · rw [l.orderly_opening.fresh q (Nat.one_le_iff_ne_zero.2 h0)]
    rfl

theorem Course.attended (h : Course l.world past w) (clean : l.values.endRequested = false) :
    Attended (w.view (l.allDeeds past)) := by
  refine h.invariant (fun _ => ?_) (fun _ => ?_) (fun m hS => hS.move m) fun c hS => hS.cancel c
  · refine ⟨l.rested_opening, fun he => ?_, fun q hq => ?_⟩
    · cases clean.symm.trans he
    · cases l.ended_opening.symm.trans hq
  · exact ⟨l.rested_broken, fun he => (nomatch clean.symm.trans he), nofun⟩

/-- No run ends early unless an execution writes the key for it. -/
theorem Course.not_ended (h : Course l.world past w)
    (clean : Entries.get? l.values Values.endKey = none)
    (unwritten : Unwritten Values.endKey (l.allDeeds past)) (r : Nat) :
    (w.runs.get r).ended = false := by
  refine Bool.eq_false_iff.2 fun he => ?_
  obtain ⟨s, node, touches, result, value, hd, hw, -⟩ :=
    (h.attended (Values.endRequested_of_absent clean)).ended r he
  have hu := unwritten _ hd
  exact Bool.false_ne_true (hu.symm.trans (List.any_eq_true.2 ⟨_, hw, beq_self_eq_true _⟩))

theorem World.happenings_of_events {told : List (Nat × Happening)}
    (h : w.events.map (fun o => (o.run, o.happening)) =
      told ++ u.events.map fun o => (o.run, o.happening)) (r : Nat) :
    w.happenings r = (told.filter fun p => p.1 == r).map Prod.snd ++ u.happenings r := by
  have pairs : ∀ v : World, v.happenings r =
      ((v.events.map fun o => (o.run, o.happening)).filter fun p => p.1 == r).map Prod.snd := by
    intro v
    rw [List.filter_map, List.map_map]
    rfl
  rw [pairs, h, List.filter_append, List.map_append, ← pairs]

theorem Course.ended_act (h : Course l.world past u) (clean : l.values.endRequested = false)
    (before : (u.runs.get q).ended = false) (after : ((u.act a).runs.get q).ended) :
    (∃ node news, (u.act a).happenings q = news ++ u.happenings q ∧ .nodeCompleted node ∈ news) ∧
      ∃ s, Asks (l.allDeeds ((u, a) :: past)) s ∧ (s = 0 ∨
        (∀ result, .concluded s result ∉ l.allDeeds past) ∨
          ((u.act a).contexts.get 0).cancelled = true) := by
  obtain ⟨r, X, X', news, told, attended, rested, since, m, hbefore, hafter, ⟨more, hmore⟩,
      ⟨also, halso⟩, hcancelled⟩ :=
    h.exists_move (P := Attended) (Q := fun S => (S.runs q).ended) (fun m hS => hS.move m)
      (h.attended clean) (fun _ hS => hS) a (Bool.eq_false_iff.1 before) after
  obtain ⟨⟨node, going⟩, hends⟩ := (m.ended hafter).resolve_left hbefore
  refine ⟨⟨node, _, World.happenings_of_events (halso.trans (List.append_assoc ..).symm) q, ?_⟩, ?_⟩
  · exact List.mem_map.2 ⟨(q, .nodeCompleted node), List.mem_filter.2
      ⟨List.mem_append_right _ (since.going q node going), beq_self_eq_true q⟩, rfl⟩
  · unfold Stage.valuesOf at hends
    rw [rested.reported.oneContext.context q] at hends
    obtain ⟨s, asks, lingers⟩ := attended.ending hends
    refine ⟨s, asks.mono ?_, lingers.imp_right fun hs => hs.imp (fun hn result hc => ?_) (hcancelled 0)⟩
    · rw [since.deeds, l.allDeeds_cons, hmore, List.append_assoc]
      exact List.subset_append_right _ _
    · refine hn result ?_
      rw [since.deeds]
      exact List.mem_append_right _ hc

/-- A run that has ended early did so in a step in which one of its nodes completed, when an execution had
asked for the end. That was an execution of the first run or of one that was not concluded before, unless
the runs were cancelled. -/
theorem Course.ended_early (h : Course l.world past w) (clean : l.values.endRequested = false)
    (he : (w.runs.get q).ended) :
    ∃ newer u a older, past = newer ++ (u, a) :: older ∧ (u.runs.get q).ended = false ∧
      (∃ node news, (u.act a).happenings q = news ++ u.happenings q ∧ .nodeCompleted node ∈ news) ∧
      ∃ s, Asks (l.allDeeds ((u, a) :: older)) s ∧ (s = 0 ∨
        (∀ result, .concluded s result ∉ l.allDeeds older) ∨
          ((u.act a).contexts.get 0).cancelled = true) := by
  induction h with
  | start =>
    obtain ⟨s, node, touches, result, value, hd, -⟩ := (Course.attended .start clean).ended q he
    obtain ⟨_, hd⟩ := Launch.concluded_of_mem_deeds hd
    cases hd
  | @next past u a before _ ih =>
    by_cases hu : (u.runs.get q).ended
    · obtain ⟨newer, u, a, older, rfl, hrest⟩ := ih hu
      exact ⟨_ :: newer, u, a, older, rfl, hrest⟩
    · have hu := Bool.eq_false_iff.2 hu
      exact ⟨[], u, a, past, rfl, hu, before.ended_act clean hu he⟩

end

/-! ## A pipeline that asks for its end -/

def Beside.ending : Launch := launch (.write Values.endKey (.bool true) .done)

/-- A run ends early because of a pipeline beside the node that has completed. -/
theorem ended_beside : ∃ past w, Course Beside.ending.world past w ∧
    (w.runs.get 0).ended ∧ ∃ newer u a older, past = newer ++ (u, a) :: older ∧
      (∃ node news, (u.act a).happenings 0 = news ++ u.happenings 0 ∧ .nodeCompleted node ∈ news) ∧
      ∃ s, Asks (Beside.ending.allDeeds ((u, a) :: older)) s := by
  have h := ((((Course.start : Course Beside.ending.world [] _).step 1 (by decide)).step 2
    (by decide)).step 4 (by decide)).step 3 (by decide)
  obtain ⟨newer, u, a, older, hp, -, hcompleted, s, asks, -⟩ :=
    h.ended_early (q := 0) (by decide) (by decide)
  exact ⟨_, _, h, by decide, newer, u, a, older, hp, hcompleted, s, asks⟩

end Conduit
