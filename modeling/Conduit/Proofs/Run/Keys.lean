import Conduit.Proofs.Run.Crew

/-!
# Keys

What a move does to the values of the contexts. A key gets a value by an execution that writes it,
or it is the key of the error. It loses its value by an execution that erases it, or it is a key
that a run takes back when it has done what the key asks for.
-/

namespace Conduit

namespace Values

variable {values : Values}

theorem endRequested_of_absent (h : Entries.get? values endKey = none) :
    values.endRequested = false := by
  unfold endRequested
  rw [h]
  rfl

theorem override?_of_absent (h : Entries.get? values overrideKey = none) :
    values.override? = none := by
  unfold override?
  rw [h]

end Values

/-! ## Touched keys -/

def Touch.writes (k : String) : Touch → Bool
  | .write key _ => key == k
  | .erase _ => false

def Touch.erases (k : String) : Touch → Bool
  | .write _ _ => false
  | .erase key => key == k

theorem Activity.Bursts.key {network : Http.Network} {activity : Activity} {s s' : Scene}
    {ts : List Touch} {p : Pending} (h : activity.Bursts network s ts s' p) (k : String) :
    (∃ t ∈ ts, t.writes k) ∨ Entries.get? s'.values k = Entries.get? s.values k ∨
      (∃ t ∈ ts, t.erases k) ∧ Entries.get? s'.values k = none := by
  induction h with
  | finish | pause | send => exact .inr (.inl rfl)
  | look rest ih | cancel rest ih | emit rest ih | note rest ih | cut rest ih | pass rest ih
  | drop rest ih | reply _ rest ih => exact ih
  | @write key value next s _ _ _ _ ih =>
    by_cases hk : key = k
    · exact .inl ⟨_, List.mem_cons_self, beq_iff_eq.2 hk⟩
    rcases ih with ⟨t, h, ht⟩ | h | ⟨⟨t, h, ht⟩, hn⟩
    · exact .inl ⟨t, List.mem_cons_of_mem _ h, ht⟩
    · exact .inr (.inl (h.trans (Entries.get?_insert_of_ne _ _ hk)))
    · exact .inr (.inr ⟨⟨t, List.mem_cons_of_mem _ h, ht⟩, hn⟩)
  | @erase key next s _ _ _ _ ih =>
    have he := Entries.get?_erase s.values key k
    rcases ih with ⟨t, h, ht⟩ | h | ⟨⟨t, h, ht⟩, hn⟩
    · exact .inl ⟨t, List.mem_cons_of_mem _ h, ht⟩
    · by_cases hk : key = k
      · rw [if_pos hk] at he
        exact .inr (.inr ⟨⟨_, List.mem_cons_self, beq_iff_eq.2 hk⟩, h.trans he⟩)
      · rw [if_neg hk] at he
        exact .inr (.inl (h.trans he))
    · exact .inr (.inr ⟨⟨t, List.mem_cons_of_mem _ h, ht⟩, hn⟩)

def Deed.writes (k : String) : Deed → Bool
  | .performed _ _ touches _ => touches.any (Touch.writes k)
  | _ => false

def Deed.erases (k : String) : Deed → Bool
  | .performed _ _ touches _ => touches.any (Touch.erases k)
  | _ => false

/-! ## What moves do to a key -/

/-- From one stage to another, the value of a key in a context is left alone or accounted for by new
deeds. -/
def KeyKept (S S' : Stage) (c : Nat) (k : String) (deeds : List Deed) : Prop :=
  (∃ d ∈ deeds, d.writes k) ∨
    Entries.get? (S'.values c) k = Entries.get? (S.values c) k ∨
    ((∃ d ∈ deeds, d.erases k) ∨ k = Values.endKey ∨ k = Values.overrideKey) ∧
      Entries.get? (S'.values c) k = none ∨
    k = Values.errorKey

variable {S S' : Stage} {r : Nat}

theorem values_setValues_erase (S : Stage) (c d : Nat) (key k : String) :
    Entries.get? ((S.setValues d fun v => Entries.erase v key).values c) k =
      if d = c ∧ key = k then none else Entries.get? (S.values c) k := by
  unfold Stage.setValues
  by_cases h : d = c
  · subst h
    simp only [Function.update_self, Entries.get?_erase, true_and]
  · simp only [Function.update_of_ne (Ne.symm h), h, false_and, if_false]

theorem values_setIfAbsent_error (S : Stage) (c d : Nat) (value : Value) (k : String) :
    Entries.get? ((S.setValues d fun v => v.setIfAbsent Values.errorKey value).values c) k =
        Entries.get? (S.values c) k ∨ k = Values.errorKey := by
  by_cases hk : k = Values.errorKey
  · exact .inr hk
  refine .inl ?_
  unfold Stage.setValues
  by_cases h : d = c
  · subst h
    simp only [Function.update_self, Values.setIfAbsent]
    split
    · rfl
    · exact Entries.get?_insert_of_ne _ _ (Ne.symm hk)
  · simp only [Function.update_of_ne (Ne.symm h)]

theorem values_fail (S : Stage) (r : Nat) (node : String) (e : PipelineError) (c : Nat)
    (k : String) :
    Entries.get? ((S.fail r node e).values c) k = Entries.get? (S.values c) k ∨
      k = Values.errorKey := by
  unfold Stage.fail Stage.keepFailure
  dsimp only
  split
  · exact .inl rfl
  · exact values_setIfAbsent_error _ c _ _ k

theorem values_conclude (S : Stage) (r : Nat) (b : Bool) (c : Nat) (k : String) :
    Entries.get? ((S.conclude r b).values c) k = Entries.get? (S.values c) k ∨
      k = Values.errorKey := by
  unfold Stage.conclude
  dsimp only
  split
  · exact values_setIfAbsent_error _ c _ _ k
  · exact .inl rfl

theorem KeyKept.perform {node : String} {activity : Activity} {result : Option Result} {X : Stage}
    (values : X.values = ((S.setValues (S.runs r).context fun _ =>
      (activity.burst S.network ⟨S.valuesOf r, S.cancelled (S.runs r).context, [], []⟩).1.values)
        ).values) (c : Nat) (k : String) :
    KeyKept S X c k [.performed r node (activity.touches S.network
      ⟨S.valuesOf r, S.cancelled (S.runs r).context, [], []⟩) result] := by
  by_cases hc : c = (S.runs r).context
  · subst hc
    have hv : X.values (S.runs r).context = (activity.burst S.network
        ⟨S.valuesOf r, S.cancelled (S.runs r).context, [], []⟩).1.values := by
      rw [values]
      exact Function.update_self ..
    unfold KeyKept
    rw [hv]
    rcases (activity.bursts S.network
      ⟨S.valuesOf r, S.cancelled (S.runs r).context, [], []⟩).key k with h | h | ⟨h, hn⟩
    · exact .inl ⟨_, List.mem_singleton_self _, List.any_eq_true.2 h⟩
    · exact .inr (.inl h)
    · exact .inr (.inr (.inl ⟨.inl ⟨_, List.mem_singleton_self _, List.any_eq_true.2 h⟩, hn⟩))
  · refine .inr (.inl ?_)
    rw [values]
    exact congrArg (Entries.get? · k) (Function.update_of_ne hc _ _)

theorem KeyKept.of_kept {deeds : List Deed} {c : Nat} {k : String}
    (h : Entries.get? (S'.values c) k = Entries.get? (S.values c) k ∨ k = Values.errorKey) :
    KeyKept S S' c k deeds :=
  h.elim (fun kept => .inr (.inl kept)) fun error => .inr (.inr (.inr error))

theorem Move.key (h : Move r S S') (c : Nat) (k : String) :
    ∃ deeds, S'.deeds = deeds ++ S.deeds ∧ KeyKept S S' c k deeds := by
  cases h
  case giveUp | stray | rest | resume | interrupt | skip | take | queue | grant | withdraw
      | retreat | start | enter | abandon | settle | halt | close =>
    exact ⟨[], rfl, .inr (.inl rfl)⟩
  case lost => exact ⟨_, rfl, .inr (.inl rfl)⟩
  case count =>
    exact ⟨_, rfl, .inr (.inl rfl)⟩
  case refuse source _ live _ edge e _ _ _ _ =>
    exact ⟨_ :: World.askDeeds r source edge live, (Stage.fail_adds ..).2.1,
      .of_kept (values_fail _ r _ _ c k)⟩
  case unknown | unusable | exceed | blame =>
    exact ⟨[_], (Stage.fail_adds ..).2.1, .of_kept (values_fail _ r _ _ c k)⟩
  case finish node _ activity scene result _ burst =>
    have hv := congrArg (fun p => p.1.values) burst
    exact ⟨_, rfl, KeyKept.perform (by rw [hv]; rfl) c k⟩
  case doze ms node _ activity _ _ scene wakeAt _ burst =>
    have hv := congrArg (fun p => p.1.values) burst
    exact ⟨_, rfl, KeyKept.perform (by rw [hv]; rfl) c k⟩
  case surface inner node _ cancelled _ _ =>
    refine ⟨[_], (S.conclude_adds inner cancelled).2.1, ?_⟩
    have he := values_setValues_erase (S.conclude inner cancelled) c (S.runs inner).context
      Values.endKey k
    split at he
    · next hk => exact .inr (.inr (.inl ⟨.inr (.inl hk.2.symm), he⟩))
    · exact .of_kept ((values_conclude S inner cancelled c k).imp_left he.trans)
  case jump | spread =>
    refine ⟨[], rfl, ?_⟩
    have he := values_setValues_erase S c (S.runs r).context Values.overrideKey k
    split at he
    · next hk => exact .inr (.inr (.inl ⟨.inr (.inr hk.2.symm), he⟩))
    · exact .inr (.inl he)
  case conclude t posts cancelled _ _ =>
    exact ⟨[_], (S.conclude_adds r cancelled).2.1, .of_kept (values_conclude S r cancelled c k)⟩
  case expire t posts _ _ =>
    exact ⟨[_], (Stage.conclude_adds ..).2.1, .of_kept (values_conclude _ r true c k)⟩

theorem Move.deeds_subset (h : Move r S S') : S.deeds ⊆ S'.deeds := by
  obtain ⟨deeds, hd, -⟩ := h.key 0 Values.errorKey
  rw [hd]
  exact List.subset_append_right _ _

/-- No execution wrote the key. -/
def Unwritten (k : String) (deeds : List Deed) : Prop := ∀ d ∈ deeds, d.writes k = false

instance (k : String) (deeds : List Deed) : Decidable (Unwritten k deeds) :=
  inferInstanceAs (Decidable (∀ d ∈ deeds, d.writes k = false))

theorem Move.absent (h : Move r S S') {k : String} (hk : k ≠ Values.errorKey)
    (hw : Unwritten k S'.deeds) (c : Nat) (ha : Entries.get? (S.values c) k = none) :
    Entries.get? (S'.values c) k = none := by
  obtain ⟨deeds, hd, hkey⟩ := h.key c k
  rcases hkey with ⟨d, hm, hdw⟩ | hsame | ⟨-, hnone⟩ | he
  · rw [hw d (hd ▸ List.mem_append_left _ hm)] at hdw
    cases hdw
  · exact hsame.trans ha
  · exact hnone
  · exact absurd he hk

end Conduit
