import Conduit.Proofs.Run.Tally

/-!
# Strides

Executions may send a run to any node. Every move is still some strides in the ledger of each run
that it finds, so what every stride keeps holds of all runs, whatever their executions write.
-/

namespace Conduit

/-! ## Moves as strides -/

section

variable {S S' : Stage} {r s : Nat}

theorem Move.strides (h : Move r S S') (ho : Orderly S) (hlt : s < S.nextRun) :
    Strides (S.runs s).graph s (S.ledger s) (S'.ledger s) := by
  by_cases hs : r = s
  · subst hs
    rcases h.turns_or_jumps ho with ht | ⟨_, _, _, -, he, hgo, hl⟩
    · exact ht.strides
    · rw [hl]
      exact .single (.jump he ((goesOn_iff S r).1 hgo))
  · exact (h.turns_of_ne hs hlt).strides

theorem Moves.strides (h : Moves S S') (ho : Orderly S) (hlt : s < S.nextRun) :
    Strides (S.runs s).graph s (S.ledger s) (S'.ledger s) ∧ s < S'.nextRun ∧
      (S'.runs s).graph = (S.runs s).graph := by
  induction h with
  | single h =>
    exact ⟨h.strides ho hlt, hlt.trans_le (h.nextRun_le ho), h.graph hlt⟩
  | head h _ ih =>
    obtain ⟨ht, hn, hg⟩ := ih (ho.move h) (hlt.trans_le (h.nextRun_le ho))
    rw [h.graph hlt] at ht hg
    exact ⟨(h.strides ho hlt).trans ht, hn, hg⟩

end

/-! ## Courses that go on -/

section

variable {l : Launch} {past newer : List (World × Act)} {v w : World}

theorem Course.unique {first : World} (h : Course first past v) (h' : Course first past w) :
    v = w := by
  cases h <;> cases h' <;> rfl

theorem Course.earlier {first : World} (h : Course first (newer ++ past) w) :
    ∃ v, Course first past v := by
  induction newer generalizing w with
  | nil => exact ⟨w, h⟩
  | cons p newer ih =>
    cases h with
    | next a before _ => exact ih before

theorem Course.of_mem {first u : World} {a : Act} (h : Course first past v) (hm : (u, a) ∈ past) :
    ∃ newer older, past = newer ++ (u, a) :: older ∧ Course first ((u, a) :: older) (u.act a) := by
  obtain ⟨newer, older, rfl⟩ := List.append_of_mem hm
  obtain ⟨_, hearlier⟩ := h.earlier
  cases hearlier with
  | next _ before allowed => exact ⟨newer, older, rfl, before.next a allowed⟩

/-- Whatever happens in a world of a course, the ledgers of its runs change in strides. -/
theorem Course.strides_act (h : Course l.world past w) (a : Act) {r : Nat} (hr : r < w.nextRun) :
    Strides (w.runs.get r).graph r ((w.view (l.allDeeds past)).ledger r)
        (((w.act a).view (l.allDeeds ((w, a) :: past))).ledger r) ∧
      r < (w.act a).nextRun ∧ ((w.act a).runs.get r).graph = (w.runs.get r).graph := by
  rw [l.allDeeds_cons]
  cases a with
  | step t =>
    rcases World.view_step h.awake t (l.allDeeds past) with ⟨hv, -⟩ | hv
    · have hn : (w.step t).nextRun = w.nextRun := congrArg Stage.nextRun hv
      have hg : (w.step t).runs.get = w.runs.get := congrArg Stage.runs hv
      refine ⟨?_, hr.trans_eq hn.symm, congrArg Run.graph (congrFun hg r)⟩
      exact hv ▸ .refl
    · exact hv.strides h.orderly hr
  | pass ms =>
    have hv := w.view_pass ms (l.allDeeds past)
    have hn : (w.pass ms).nextRun = w.nextRun := congrArg Stage.nextRun hv
    have hg : (w.pass ms).runs.get = w.runs.get := congrArg Stage.runs hv
    refine ⟨?_, hr.trans_eq hn.symm, congrArg Run.graph (congrFun hg r)⟩
    exact hv ▸ .refl
  | cancel c =>
    have hv := w.view_cancel c (l.allDeeds past)
    have hn : (w.cancel c).nextRun = w.nextRun := congrArg Stage.nextRun hv
    have hg : (w.cancel c).runs.get = w.runs.get := congrArg Stage.runs hv
    refine ⟨?_, hr.trans_eq hn.symm, congrArg Run.graph (congrFun hg r)⟩
    refine Turns.strides ?_
    simp only [World.act, World.deeds, List.nil_append, hv]
    exact Stage.ledger_cancel_turns _ _ c true

theorem Course.strides (h : Course l.world past v) (onward : Course l.world (newer ++ past) w)
    {r : Nat} (hr : r < v.nextRun) :
    Strides (v.runs.get r).graph r ((v.view (l.allDeeds past)).ledger r)
        ((w.view (l.allDeeds (newer ++ past))).ledger r) ∧
      r < w.nextRun ∧ (w.runs.get r).graph = (v.runs.get r).graph := by
  induction newer generalizing w with
  | nil =>
    obtain rfl := h.unique onward
    exact ⟨.refl, hr, rfl⟩
  | cons p newer ih =>
    cases onward with
    | next a before allowed =>
      obtain ⟨ht, hn, hg⟩ := ih before
      obtain ⟨ht', hn', hg'⟩ := before.strides_act a hn
      rw [hg] at ht' hg'
      exact ⟨ht.trans ht', hn', hg'⟩

variable {G : Graph Component → Prop} {P : Graph Component → Nat → Ledger → Prop}

theorem Strides.keep {g : Graph Component} {r : Nat} {x y : Ledger}
    (stride : ∀ {x y : Ledger}, Stride g r x y → P g r x → P g r y) (h : Strides g r x y)
    (hx : P g r x) : P g r y := by
  induction h with
  | refl => exact hx
  | tail _ ht ih => exact stride ht ih

/-- What holds of the ledger of every run that begins, and is kept by every stride, holds of the
ledgers of all runs after every course. -/
theorem Course.ledgers_of_strides (nested : Nested G)
    (opening : ∀ {g : Graph Component} (r limit : Nat) (cancelled : Bool), G g →
      P g r (Ledger.opening g limit cancelled))
    (stride : ∀ {g : Graph Component} {r : Nat} {x y : Ledger}, G g → Stride g r x y → P g r x →
      P g r y)
    (h : Course l.world past w) (fits : l.Fits) (graph : G l.graph) {r : Nat}
    (hr : r < w.nextRun) :
    G (w.runs.get r).graph ∧
      P (w.runs.get r).graph r ((w.view (l.allDeeds past)).ledger r) := by
  have hkeep : ∀ {g : Graph Component} {r : Nat} {x y : Ledger}, G g → Strides g r x y →
      P g r x → P g r y := fun hg ht hx => ht.keep (stride hg) hx
  have hall := h.invariant (P := fun S => Orderly S ∧ Ledgers G P S) ?_
    (fun hb => absurd fits hb) ?_ ?_
  · exact hall.2 r hr
  · exact fun _ => ⟨l.orderly_opening, l.ledgers_opening graph opening⟩
  · intro r S S' m hS
    exact ⟨hS.1.move m, hS.2.move nested opening hS.1 m fun s hlt hg hx =>
      hkeep hg (m.strides hS.1 hlt) hx⟩
  · intro S c hS
    refine ⟨hS.1.cancel c, fun s hlt => ⟨(hS.2 s hlt).1, ?_⟩⟩
    exact hkeep (hS.2 s hlt).1 (S.ledger_cancel_turns _ c true).strides (hS.2 s hlt).2

end

/-! ## Errands in worlds -/

def errandCount (kind : Errand → Bool) (errands : Multiset Errand) : Nat :=
  errands.countP fun e => kind e

theorem errandCount_cons (kind : Errand → Bool) (e : Errand) (errands : Multiset Errand) :
    errandCount kind (e ::ₘ errands) = errandCount kind errands + if kind e then 1 else 0 :=
  Multiset.countP_cons ..

theorem errandCount_add (kind : Errand → Bool) (errands others : Multiset Errand) :
    errandCount kind (errands + others) = errandCount kind errands + errandCount kind others :=
  Multiset.countP_add ..

def Duty.hasErrand (g : Graph Component) (kind : Errand → Bool) (d : Duty) : Bool :=
  decide (0 < errandCount kind (d.errands g))

theorem Duty.errandCount_errands (g : Graph Component) (kind : Errand → Bool) (d : Duty) :
    errandCount kind (d.errands g) = if d.hasErrand g kind then 1 else 0 := by
  unfold hasErrand
  rcases d.errands_cases g with h | ⟨e, h⟩ <;> rw [h]
  · rfl
  · rw [← Multiset.cons_zero, errandCount_cons]
    split <;> rfl

theorem errandCount_errandsIn (g : Graph Component) (kind : Errand → Bool) (r : Nat)
    (crew : Multiset (Nat × Duty)) :
    errandCount kind (errandsIn g r crew) = crewCount (Duty.hasErrand g kind) r crew := by
  induction crew using Multiset.induction with
  | empty => rfl
  | cons q crew ih =>
    obtain ⟨s, d⟩ := q
    rw [crewCount_cons]
    by_cases h : s = r
    · subst h
      rw [errandsIn_cons_self, errandCount_add, ih, d.errandCount_errands]
      simp [Nat.add_comm]
    · rw [errandsIn_cons_of_ne h, ih]
      simp [h]

namespace World

theorem errandCount_ledger (w : World) (L : List Deed) (r : Nat) (kind : Errand → Bool) :
    errandCount kind ((w.view L).ledger r).errands = (List.range w.nextTask).countP fun u =>
      (w.tasks.get u).phase.worksFor (Duty.hasErrand (w.runs.get r).graph kind) r := by
  have h := errandCount_errandsIn (w.runs.get r).graph kind r (w.view L).crew
  rw [crewCount_view] at h
  refine h.trans ?_
  simp only [List.countP_eq_length_filter, Multiset.range, Multiset.filter_coe, Multiset.coe_card,
    Bool.decide_eq_true]

theorem count_errands (w : World) (L : List Deed) (r : Nat) (e : Errand) :
    ((w.view L).ledger r).errands.count e = (List.range w.nextTask).countP fun u =>
      (w.tasks.get u).phase.worksFor (fun d => e ∈ d.errands (w.runs.get r).graph) r := by
  have h := w.errandCount_ledger L r fun f => decide (e = f)
  have hd : Duty.hasErrand (w.runs.get r).graph (fun f => decide (e = f)) =
      fun d => decide (e ∈ d.errands (w.runs.get r).graph) := by
    funext d
    unfold Duty.hasErrand errandCount
    simp only [decide_eq_true_eq, Multiset.countP_pos, exists_eq_right']
  rw [hd] at h
  simpa only [errandCount, Multiset.count, decide_eq_true_eq] using h

end World

end Conduit
