import Conduit.Proofs.Engine.History

/-!
# Invalidations

After an invalidation a definition is fetched from the store again, unless a fetch comes in between
that had found it before: such a straggler still keeps what it found. The main statement says that
nothing else can bring a definition back.
-/

namespace Conduit

/-! ## One step of a fetch -/

namespace Fetch

variable {find : String → Except PipelineError (Option Definition)} {kept : Kept} {id : String}
  {f g : Fetch} {d : Definition}

def IsOf (id : String) : Fetch → Prop
  | .asked i => i = id
  | .missed i => i = id
  | .found i _ => i = id
  | .over _ => False

theorem find_of_step (h : (f.step find kept).2 = .found id d) : find id = .ok (some d) := by
  cases f with
  | asked i =>
    unfold step at h
    dsimp only at h
    split at h <;> cases h
  | missed i =>
    unfold step at h
    dsimp only at h
    split at h
    · next hf =>
      cases h
      exact hf
    · cases h
    · cases h
  | found i e => cases h
  | «over» outcome => cases h

theorem eq_of_step (hf : f.IsOf id) (h : (f.step find kept).2 = .over (.ok d)) :
    kept.get? id = some d ∨ f = .found id d := by
  cases f with
  | asked i =>
    obtain rfl : i = id := hf
    unfold step at h
    dsimp only at h
    split at h
    · next hk =>
      cases h
      exact .inl hk
    · cases h
  | missed i =>
    unfold step at h
    dsimp only at h
    split at h <;> cases h
  | found i e =>
    obtain rfl : i = id := hf
    cases h
    exact .inr rfl
  | «over» outcome => exact hf.elim

theorem kept_of_step (h : (f.step find kept).1.get? id = some d) :
    kept.get? id = some d ∨ f = .found id d := by
  cases f with
  | asked i =>
    unfold step at h
    dsimp only at h
    split at h <;> exact .inl h
  | missed i =>
    unfold step at h
    dsimp only at h
    split at h <;> exact .inl h
  | found i e =>
    have h : (kept.insert i e).get? id = some d := h
    rw [Entries.get?_insert] at h
    split at h
    · next hi =>
      cases h
      exact .inr (hi ▸ rfl)
    · exact .inl h
  | «over» outcome => exact .inl h

theorem isOf_step (hf : f.IsOf id) (h : (f.step find kept).2 = g) :
    g.IsOf id ∨ ∃ outcome, g = .over outcome := by
  subst h
  cases f with
  | asked i =>
    unfold step
    dsimp only
    split
    · exact .inr ⟨_, rfl⟩
    · exact .inl hf
  | missed i =>
    unfold step
    dsimp only
    split
    · exact .inl hf
    · exact .inr ⟨_, rfl⟩
    · exact .inr ⟨_, rfl⟩
  | found i d => exact .inr ⟨_, rfl⟩
  | «over» outcome => exact hf.elim

end Fetch

namespace Progress

theorem fetching_of_ofFetch {f g : Fetch} (h : ofFetch f = .fetching g) :
    f = g ∧ ¬∃ outcome, g = .over outcome := by
  cases f with
  | «over» outcome => cases outcome <;> cases h
  | _ =>
    cases h
    exact ⟨rfl, fun ⟨_, h⟩ => nomatch h⟩

theorem fetched_of_ofFetch {f : Fetch} {d : Definition} (h : ofFetch f = .fetched d) :
    f = .over (.ok d) := by
  cases f with
  | «over» outcome =>
    cases outcome with
    | error e => cases h
    | ok e =>
      cases h
      rfl
  | _ => cases h

end Progress

namespace Engine

variable {e now : Engine} {n : Nat} {o : Order} {d : Definition} {id : String}

/-! ## One step of an order -/

theorem fetch_of_next {g : Fetch} (h : e.nextProgress o = .fetching g) :
    ∃ f, o.progress = .fetching f ∧ (f.step e.find e.kept).2 = g ∧
      ¬∃ outcome, g = .over outcome := by
  obtain ⟨target, purpose, task, progress⟩ := o
  unfold nextProgress at h
  cases progress with
  | fetching f => exact ⟨f, rfl, Progress.fetching_of_ofFetch h⟩
  | compiling created work =>
    cases work with
    | done result =>
      obtain ⟨outcome, created⟩ := result
      cases outcome <;> cases h
    | _ => cases h
  | _ => cases purpose <;> cases h

theorem fetched_of_next (h : e.nextProgress o = .fetched d) :
    o.progress = .fetched d ∨
      ∃ f, o.progress = .fetching f ∧ (f.step e.find e.kept).2 = .over (.ok d) := by
  obtain ⟨target, purpose, task, progress⟩ := o
  unfold nextProgress at h
  cases progress with
  | fetching f => exact .inr ⟨f, rfl, Progress.fetched_of_ofFetch h⟩
  | fetched e =>
    cases purpose with
    | definition => exact .inl h
    | _ => cases h
  | compiling created work =>
    cases work with
    | done result =>
      obtain ⟨outcome, created⟩ := result
      cases outcome <;> cases h
    | _ => cases h
  | _ => cases purpose <;> cases h

/-- Orders are numbered as they are placed, and fetch the definition that they are to. -/
structure IsOrderly (e : Engine) : Prop where
  unknown : ∀ n, e.nextOrder ≤ n → e.orders.get n = none
  fetches : ∀ n o id f, e.orders.get n = some o → o.target = .stored id →
    o.progress = .fetching f → f.IsOf id

theorem isOrderly_new (settings : Settings) (factories : List Factory) (store : Store)
    (files : Files) (network : Http.Network) :
    (new settings factories store files network).IsOrderly :=
  ⟨fun _ _ => rfl, fun _ _ _ _ h => nomatch h⟩

theorem IsOrderly.place (h : e.IsOrderly) (target : Target) (purpose : Purpose) :
    (e.place target purpose).IsOrderly := by
  constructor
  · intro n hn
    have hn : e.nextOrder + 1 ≤ n := hn
    exact (Table.get_set _ _ _ _).trans ((if_neg (by omega)).trans (h.unknown n (by omega)))
  · intro n o id f ho ht hp
    rw [show (e.place target purpose).orders.get n = _ from Table.get_set _ _ _ _] at ho
    split at ho
    · cases ho
      obtain rfl : target = .stored id := ht
      cases hp
      rfl
    · exact h.fetches n o id f ho ht hp

theorem IsOrderly.proceed (h : e.IsOrderly) (n : Nat) : (e.proceed n).IsOrderly := by
  cases hg : e.orders.get n with
  | none => exact (proceed_of_none hg).symm ▸ h
  | some p =>
    constructor
    · intro m hm
      rw [(e.proceed_frame n).2.2.2] at hm
      rw [orders_proceed hg]
      split
      · next hnm =>
        rw [hnm, h.unknown m hm] at hg
        cases hg
      · exact h.unknown m hm
    · intro m o id f ho ht hp
      rw [orders_proceed hg] at ho
      split at ho
      · cases ho
        obtain ⟨g, hg', hs, hover⟩ := fetch_of_next hp
        exact (Fetch.isOf_step (h.fetches n p id g hg ht hg') hs).resolve_right hover
      · exact h.fetches m o id f ho ht hp

theorem IsOrderly.act (h : e.IsOrderly) (a : Act) : (e.act a).IsOrderly := by
  cases a with
  | place target purpose => exact h.place target purpose
  | proceed n => exact h.proceed n
  | _ => exact ⟨h.unknown, h.fetches⟩

theorem IsOrderly.after (h : e.IsOrderly) (acts : List Act) : (e.after acts).IsOrderly := by
  induction acts generalizing e with
  | nil => exact h
  | cons a acts ih => exact ih (h.act a)

/-! ## What is kept and fetched -/

/-- Of the definitions of an id, only good ones are kept, about to be kept or fetched by orders of
the first number or later. -/
structure OnlyGood (good : Definition → Prop) (id : String) (first : Nat) (e : Engine) : Prop where
  kept : ∀ d, e.kept.get? id = some d → good d
  found : ∀ n o d, e.orders.get n = some o → o.progress = .fetching (.found id d) → good d
  fetched : ∀ n o d, first ≤ n → e.orders.get n = some o → o.target = .stored id →
    o.progress = .fetched d → good d

namespace OnlyGood

variable {good : Definition → Prop} {first : Nat}

theorem invalidate (h : OnlyGood good id first e) (i : String) :
    OnlyGood good id first (e.invalidate i) := by
  refine ⟨fun d hd => h.kept d ?_, h.found, h.fetched⟩
  have hd : (Entries.erase e.kept i).get? id = some d := hd
  rw [Entries.get?_erase] at hd
  split at hd
  · cases hd
  · exact hd

theorem place (h : OnlyGood good id first e) (target : Target) (purpose : Purpose) :
    OnlyGood good id first (e.place target purpose) := by
  have hget : ∀ n, (e.place target purpose).orders.get n = _ := fun n => Table.get_set _ _ _ _
  refine ⟨h.kept, fun n o d ho hp => ?_, fun n o d hn ho ht hp => ?_⟩
  · rw [hget] at ho
    split at ho
    · cases ho
      cases target <;> cases hp
    · exact h.found n o d ho hp
  · rw [hget] at ho
    split at ho
    · cases ho
      obtain rfl : target = .stored id := ht
      cases hp
    · exact h.fetched n o d hn ho ht hp

theorem proceed (h : OnlyGood good id first e) (orderly : e.IsOrderly)
    (held : ∀ d, e.find id = .ok (some d) → good d) (n : Nat) :
    OnlyGood good id first (e.proceed n) := by
  cases hg : e.orders.get n with
  | none => exact (proceed_of_none hg).symm ▸ h
  | some p =>
    refine ⟨fun d hd => ?_, fun m o d ho hp => ?_, fun m o d hm ho ht hp => ?_⟩
    · -- What is kept was kept already or has just been found by the order.
      rw [show (e.proceed n).kept = e.nextKept p from congrArg Engine.kept (proceed_eq hg)] at hd
      unfold nextKept at hd
      split at hd
      · next f hf =>
        rcases Fetch.kept_of_step hd with hk | rfl
        · exact h.kept d hk
        · exact h.found n p d hg hf
      · exact h.kept d hd
    · rw [orders_proceed hg] at ho
      split at ho
      · cases ho
        obtain ⟨f, -, hs, -⟩ := fetch_of_next hp
        exact held d (Fetch.find_of_step hs)
      · exact h.found m o d ho hp
    · rw [orders_proceed hg] at ho
      split at ho
      · next hnm =>
        subst hnm
        cases ho
        rcases fetched_of_next hp with hp | ⟨f, hf, hs⟩
        · exact h.fetched n p d hm hg ht hp
        · rcases Fetch.eq_of_step (orderly.fetches n p id f hg ht hf) hs with hk | rfl
          · exact h.kept d hk
          · exact h.found n p d hg hf
      · exact h.fetched m o d hm ho ht hp

theorem act (h : OnlyGood good id first e) (orderly : e.IsOrderly)
    (held : ∀ d, e.find id = .ok (some d) → good d) (a : Act) :
    OnlyGood good id first (e.act a) := by
  cases a with
  | place target purpose => exact h.place target purpose
  | proceed n => exact h.proceed orderly held n
  | invalidate i => exact h.invalidate i
  | invalidateAll => exact ⟨fun _ hd => (nomatch hd), h.found, h.fetched⟩
  | _ => exact ⟨h.kept, h.found, h.fetched⟩

theorem after (h : OnlyGood good id first e) (orderly : e.IsOrderly) (acts : List Act)
    (held : ∀ front back d, acts = front ++ back → (e.after front).find id = .ok (some d) →
      good d) :
    OnlyGood good id first (e.after acts) := by
  induction acts generalizing e with
  | nil => exact h
  | cons a acts ih =>
    refine ih (h.act orderly (fun d => held [] (a :: acts) d rfl) a) (orderly.act a) ?_
    exact fun front back d he => held (a :: front) back d (congrArg _ he)

end OnlyGood

/-- The store has held the definition at some time during the acts. -/
def HeldDuring (e : Engine) (acts : List Act) (id : String) (d : Definition) : Prop :=
  ∃ front back, acts = front ++ back ∧ (e.after front).find id = .ok (some d)

theorem HeldDuring.of_append {acts more : List Act} (h : e.HeldDuring (acts ++ more) id d)
    (kept : ∀ a ∈ more, a.stock? = none) : e.HeldDuring acts id d := by
  obtain ⟨front, back, he, hd⟩ := h
  rcases List.append_eq_append_iff.1 he with ⟨middle, rfl, rfl⟩ | ⟨middle, rfl, rfl⟩
  · rw [after_append, find_after fun a ha => kept a (List.mem_append_left _ ha)] at hd
    exact ⟨acts, [], (List.append_nil acts).symm, hd⟩
  · exact ⟨front, middle, rfl, hd⟩

/-- An order has found the definition and is about to keep it. -/
def Straggles (e : Engine) (id : String) (d : Definition) : Prop :=
  ∃ n o, n < e.nextOrder ∧ e.orders.get n = some o ∧ o.progress = .fetching (.found id d)

theorem IsReached.isOrderly (h : e.IsReached) : e.IsOrderly := by
  obtain ⟨settings, factories, store, files, network, acts, rfl⟩ := h
  exact (isOrderly_new settings factories store files network).after acts

/-- When a definition is invalidated, only stragglers can bring an old one back. -/
theorem onlyGood_since (reached : e.IsReached) {inv : Act}
    (invalidates : inv = .invalidate id ∨ inv = .invalidateAll) (acts : List Act) :
    OnlyGood (fun d => (e.act inv).HeldDuring acts id d ∨ e.Straggles id d) id e.nextOrder
      ((e.act inv).after acts) := by
  have orderly := reached.isOrderly
  have horders : (e.act inv).orders = e.orders := by
    rcases invalidates with rfl | rfl <;> rfl
  have hkept : (e.act inv).kept.get? id = none := by
    rcases invalidates with rfl | rfl
    · exact (Entries.get?_erase _ _ _).trans (if_pos rfl)
    · rfl
  refine OnlyGood.after ⟨fun d hd => ?_, fun m p d hp hf => ?_, fun m p d hm hp ht hf => ?_⟩
    (orderly.act inv) acts fun front back d he hd => .inl ⟨front, back, he, hd⟩
  · rw [hkept] at hd
    cases hd
  -- What is about to be kept at the invalidation is held by a straggler.
  · rw [horders] at hp
    refine .inr ⟨m, p, Nat.lt_of_not_le fun hm => ?_, hp, hf⟩
    rw [orderly.unknown m hm] at hp
    cases hp
  · rw [horders, orderly.unknown m hm] at hp
    cases hp

/-- What a call answers after an invalidation. The store stays as it is during the call. -/
theorem definition_since (reached : e.IsReached) {inv : Act}
    (invalidates : inv = .invalidate id ∨ inv = .invalidateAll) (acts : List Act)
    (h : (((e.act inv).after acts).definition id).2 = some (.ok d)) :
    (e.act inv).HeldDuring acts id d ∨ e.Straggles id d := by
  obtain ⟨more, kept, hmore⟩ := leadsTo_fulfil ((e.act inv).after acts) (.stored id) .definition
  obtain ⟨p, hp⟩ := orders_after (get_place ((e.act inv).after acts) (.stored id) .definition)
    (Nat.lt_succ_self _) more
  have hreached : (((e.act inv).after acts).fulfil (.stored id) .definition).2 = some p :=
    (congrArg (progress? · _) hmore).trans (congrArg (Option.map Order.progress) hp)
  have h : p.definition? = some (.ok d) :=
    (congrArg (Option.bind · Progress.definition?) hreached).symm.trans h
  have hfetched : p = .fetched d := by
    cases p with
    | fetched e =>
      cases h
      rfl
    | _ => cases h
  have hn : e.nextOrder ≤ ((e.act inv).after acts).nextOrder :=
    Nat.le_trans (e.le_nextOrder_act inv) (le_nextOrder_after _ acts)
  have hsince := onlyGood_since reached invalidates
    (acts ++ .place (.stored id) .definition :: more)
  rw [after_append] at hsince
  exact (hsince.fetched _ _ d hn hp rfl hfetched).imp_left fun held =>
    held.of_append (List.forall_mem_cons.2 ⟨rfl, kept⟩)

/-- A definition that is fetched after an invalidation of its id was held by the store at some time
since, or by a straggler: an order placed before the invalidation that had found the definition and
was about to keep it. -/
theorem fetched_since_invalidation (reached : e.IsReached) {inv : Act}
    (invalidates : inv = .invalidate id ∨ inv = .invalidateAll) (acts : List Act)
    (later : e.nextOrder ≤ n) (placed : ((e.act inv).after acts).orders.get n = some o)
    (target : o.target = .stored id) (fetched : o.progress = .fetched d) :
    (e.act inv).HeldDuring acts id d ∨ e.Straggles id d :=
  (onlyGood_since reached invalidates acts).fetched n o d later placed target fetched

end Engine

/-! ## A straggler -/

namespace Straggling

def old : Definition := { Definition.new "p" with name := "old" }

def new : Definition := { Definition.new "p" with name := "new" }

/-- A definition was found and not kept yet when another one took its place in the store. -/
def engine : Engine :=
  (Engine.new Settings.usual [] (.memory [("p", old)]) ⟨[], []⟩ Http.unreachable).after
    [.place (.stored "p") .definition, .proceed 0, .proceed 0,
      .restock (.memory [("p", new)]) ⟨[], []⟩]

/-- It is kept now, and another order fetches it. -/
def acts : List Engine.Act := [.proceed 0, .place (.stored "p") .definition, .proceed 1]

end Straggling

/-- After the invalidation the old definition is fetched, which the store holds no longer. -/
theorem fetched_since_invalidation_straggler :
    let since := Straggling.engine.act (.invalidate "p")
    (since.after Straggling.acts).progress? 1 = some (.fetched Straggling.old) ∧
      since.find "p" = .ok (some Straggling.new) ∧
      (since.HeldDuring Straggling.acts "p" Straggling.old ∨
        Straggling.engine.Straggles "p" Straggling.old) :=
  ⟨rfl, rfl, Engine.fetched_since_invalidation (n := 1) ⟨_, _, _, _, _, _, rfl⟩ (.inl rfl) _
    (by decide) rfl rfl rfl⟩

end Conduit
