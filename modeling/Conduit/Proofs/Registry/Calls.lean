import Conduit.Proofs.Registry.Building
import Mathlib.Data.List.Induction

/-!
# Calls of a registry

Any number of calls are asked and go on in any order. The main statement says that every call takes
effect at once: the prototypes are at all times what the changes published so far come to one after
the other, each call publishes the change that it asks for when it succeeds and nothing otherwise,
and each call ends after finitely many steps of its own.
-/

namespace Conduit.Registry

/-! ## What an operation asks for -/

namespace Operation

/-- The change is what the operation asks for. -/
inductive Asks (factories : Entries Factory) : Operation → Change → Prop where
  | register (name : String) (p : Prototype) : Asks factories (.register name p) (.put name p)
  | registerSpec {spec : PrototypeSpec} {p : Prototype} (h : built factories spec = .ok p) :
      Asks factories (.registerSpec spec) (.put spec.name p)
  | reload {specs : List PrototypeSpec} {m : Prototypes}
      (h : IsFilled factories factories specs m) : Asks factories (.reload (.ok specs)) (.replace m)
  | teardown : Asks factories .teardown (.replace [])

/-- The operation cannot succeed. The first spec whose prototype cannot be built tells why. -/
inductive Fails (factories : Entries Factory) : Operation → PipelineError → Prop where
  | registerSpec {spec : PrototypeSpec} {e : PipelineError} (h : built factories spec = .error e) :
      Fails factories (.registerSpec spec) e
  | unread (e : PipelineError) : Fails factories (.reload (.error e)) e
  | reload {before : List PrototypeSpec} {spec : PrototypeSpec} {after : List PrototypeSpec}
      {e : PipelineError} (good : ∀ s ∈ before, ∃ p, built factories s = .ok p)
      (bad : built factories spec = .error e) :
      Fails factories (.reload (.ok (before ++ spec :: after))) e

/-- What came of an operation: the changes that were published for it, by its outcome so far. -/
def Effect (factories : Entries Factory) (op : Operation) (published : List Change) :
    Option (Except PipelineError Nat) → Prop
  | none => published = []
  | some (.ok count) =>
    ∃ change, op.Asks factories change ∧ published = [change] ∧ count = change.size
  | some (.error e) => op.Fails factories e ∧ published = []

end Operation

/-- What a change makes of the prototypes by name: one name is given a prototype, or all are
replaced. -/
def Change.effect : Change → (String → Option Prototype) → String → Option Prototype
  | .put name p, m => Function.update m name (some p)
  | .replace prototypes, _ => prototypes.get?

theorem Change.get?_apply (change : Change) (m : Prototypes) :
    (change.apply m).get? = change.effect m.get? := by
  cases change with
  | put name p =>
    funext other
    simp only [apply, effect, Entries.get?_insert, Function.update_apply, eq_comm (a := other)]
  | replace prototypes => rfl

theorem Operation.Asks.sorted {factories : Entries Factory} {op : Operation} {change : Change}
    (h : op.Asks factories change) {m : Prototypes} (hm : m.Sorted) : (change.apply m).Sorted := by
  cases h with
  | register name p => exact hm.insert
  | registerSpec h => exact hm.insert
  | reload h => exact h.sorted
  | teardown => exact Entries.sorted_nil

/-! ## One step -/

namespace Call

variable {factories : Entries Factory} {op : Operation} {published : List Change} {r : Registry}

/-- The change that the next step publishes. -/
def publishes? : Call → Option Change
  | .publishing change => some change
  | _ => none

/-- The call carries the operation out, for which some changes were published. -/
def Serves (factories : Entries Factory) (op : Operation) (published : List Change) : Call → Prop
  | .loading source => op = .reload source ∧ published = []
  | .building spec => op = .registerSpec spec ∧ published = []
  | .filling rest specs m => published = [] ∧
    ∃ defaults done, op = .reload (.ok (done ++ specs)) ∧ factories = defaults ++ rest ∧
      (rest = [] ∨ done = []) ∧ IsFilled factories defaults done m
  | .publishing change => op.Asks factories change ∧ published = []
  | .over outcome => op.Effect factories published (some outcome)

theorem serves_ofOperation (factories : Entries Factory) (op : Operation) :
    (ofOperation op).Serves factories op [] := by
  cases op with
  | register name p => exact ⟨.register name p, rfl⟩
  | registerSpec spec => exact ⟨rfl, rfl⟩
  | reload source => exact ⟨rfl, rfl⟩
  | teardown => exact ⟨.teardown, rfl⟩

theorem Serves.effect {call : Call} (h : call.Serves factories op published) :
    op.Effect factories published call.outcome? := by
  cases call with
  | loading source => exact h.2
  | building spec => exact h.2
  | filling rest specs m => exact h.1
  | publishing change => exact h.2
  | «over» outcome => exact h

theorem Serves.asks {call : Call} (h : call.Serves factories op published) {change : Change}
    (hc : call.publishes? = some change) : op.Asks factories change := by
  cases call with
  | publishing c =>
    cases hc
    exact h.1
  | _ => cases hc

theorem run_withBuilt (r : Registry) (spec : PrototypeSpec) (next : Prototype → Call) (n : Nat) :
    (withBuilt r spec next n).1 = (r, match built r.factories spec with
      | .ok p => next p
      | .error e => .over (.error e)) := by
  refine (congrArg Prod.fst (StateM.bind_apply _ _ n)).trans ?_
  rw [← run_build r spec n]
  cases (r.build spec).run n with
  | mk outcome k => cases outcome <;> rfl

theorem registry_step (r : Registry) (call : Call) (n : Nat) :
    (call.step r n).1.1 = match call.publishes? with
      | some change => r.publish change
      | none => r := by
  cases call with
  | loading source => cases source <;> rfl
  | building spec => exact congrArg Prod.fst (run_withBuilt r spec _ n)
  | filling rest specs m =>
    match rest, specs with
    | (kind, f) :: rest, specs => rfl
    | [], spec :: specs => exact congrArg Prod.fst (run_withBuilt r spec _ n)
    | [], [] => rfl
  | publishing change => rfl
  | «over» outcome => rfl

theorem Serves.step {call : Call} (h : call.Serves r.factories op published)
    (nodup : (Entries.keys r.factories).Nodup) (n : Nat) :
    (call.step r n).1.2.Serves r.factories op (published ++ call.publishes?.toList) := by
  cases call with
  | loading source =>
    obtain ⟨rfl, rfl⟩ := h
    cases source with
    | error e => exact ⟨.unread e, rfl⟩
    | ok specs => exact ⟨rfl, [], [], rfl, rfl, .inr rfl, .nil⟩
  | building spec =>
    obtain ⟨rfl, rfl⟩ := h
    unfold step
    rw [run_withBuilt]
    cases hb : built r.factories spec with
    | ok p => exact ⟨.registerSpec hb, rfl⟩
    | error e => exact ⟨.registerSpec hb, rfl⟩
  | filling rest specs m =>
    obtain ⟨rfl, defaults, done, rfl, hf, hor, hm⟩ := h
    match rest, specs with
    -- No spec is built before the defaults are.
    | (kind, f) :: rest, specs =>
      obtain rfl : done = [] := hor.resolve_left (List.cons_ne_nil _ _)
      have new : kind ∉ Entries.keys defaults := by
        rw [hf] at nodup
        unfold Entries.keys at nodup
        rw [List.map_append] at nodup
        exact fun hk => (List.nodup_append.1 nodup).2.2 _ hk _ List.mem_cons_self rfl
      exact ⟨rfl, defaults ++ [(kind, f)], [], rfl, by rw [hf, List.append_cons], .inr rfl,
        hm.withDefault new n⟩
    | [], spec :: specs =>
      unfold step
      rw [run_withBuilt]
      cases hb : built r.factories spec with
      | ok p =>
        exact ⟨rfl, defaults, done ++ [spec], by rw [List.append_cons], hf, .inl rfl,
          hm.withSpec hb⟩
      | error e => exact ⟨.reload hm.builds hb, rfl⟩
    | [], [] =>
      obtain rfl : r.factories = defaults := hf.trans (List.append_nil _)
      rw [List.append_nil]
      exact ⟨.reload hm, rfl⟩
  | publishing change =>
    obtain ⟨ha, rfl⟩ := h
    exact ⟨change, ha, rfl, rfl⟩
  | «over» outcome => exact (List.append_nil published).symm ▸ h

theorem over_of_left {call : Call} (h : call.left r = 0) : ∃ outcome, call = .over outcome := by
  cases call with
  | loading source => cases source <;> cases h
  | «over» outcome => exact ⟨outcome, rfl⟩
  | _ => cases h

theorem left_congr {r' : Registry} (h : r'.factories = r.factories) {call : Call} :
    call.left r' = call.left r := by
  cases call with
  | loading source =>
    unfold left
    rw [h]
  | _ => rfl

theorem left_step (r r' : Registry) (call : Call) (n : Nat) :
    (call.step r n).1.2.left r' ≤ call.left r - 1 := by
  cases call with
  | loading source => cases source <;> exact Nat.le_refl _
  | building spec =>
    unfold step
    rw [run_withBuilt]
    cases built r.factories spec <;> simp [left]
  | filling rest specs m =>
    match rest, specs with
    | (kind, f) :: rest, specs =>
      change rest.length + specs.length + 2 ≤ rest.length + 1 + specs.length + 2 - 1
      omega
    | [], spec :: specs =>
      unfold step
      rw [run_withBuilt]
      cases built r.factories spec <;> simp [left]
    | [], [] => exact Nat.le_refl 1
  | publishing change => exact Nat.le_refl 0
  | «over» outcome => exact Nat.le_refl 0

end Call

namespace Service

/-! ## Histories -/

/-- Something that happens to a registry in service. -/
inductive Act where
  | ask (op : Operation)
  /-- The call of the number goes one step on. -/
  | proceed (call : Nat)

def Act.operation? : Act → Option Operation
  | .ask op => some op
  | .proceed _ => none

def Act.call? : Act → Option Nat
  | .ask _ => none
  | .proceed k => some k

def act (s : Service) : Act → Service
  | .ask op => s.ask op
  | .proceed k => s.proceed k

def after (s : Service) (acts : List Act) : Service := acts.foldl act s

/-- The change that an act publishes, and for which call. -/
def publishes? (s : Service) : Act → Option (Nat × Change)
  | .ask _ => none
  | .proceed k => ((s.calls.get k).bind Call.publishes?).map fun change => (k, change)

/-- The changes that are published, in order, and for which calls. -/
def publications (s : Service) : List Act → List (Nat × Change)
  | [] => []
  | a :: acts => (s.publishes? a).toList ++ (s.act a).publications acts

/-- The operations that are asked for. The calls are numbered in the order of asking. -/
def operations (acts : List Act) : List Operation := acts.filterMap Act.operation?

def changesOf (publications : List (Nat × Change)) (k : Nat) : List Change :=
  (publications.filter fun p => p.1 == k).map Prod.snd

def strides (acts : List Act) (k : Nat) : Nat := (acts.filterMap Act.call?).count k

theorem after_append (s : Service) (front back : List Act) :
    s.after (front ++ back) = (s.after front).after back := List.foldl_append

theorem publications_append (s : Service) (front back : List Act) :
    s.publications (front ++ back) = s.publications front ++ (s.after front).publications back := by
  induction front generalizing s with
  | nil => rfl
  | cons a front ih => exact (congrArg _ (ih (s.act a))).trans (List.append_assoc _ _ _).symm

theorem changesOf_append (front back : List (Nat × Change)) (k : Nat) :
    changesOf (front ++ back) k = changesOf front k ++ changesOf back k := by
  unfold changesOf
  rw [List.filter_append, List.map_append]

theorem publishes_proceed (s : Service) (k : Nat) :
    s.publishes? (.proceed k) =
      ((s.calls.get k).bind Call.publishes?).map fun change => (k, change) := rfl

theorem changesOf_publishes (s : Service) (k j : Nat) :
    changesOf (s.publishes? (.proceed k)).toList j =
      if k = j then ((s.calls.get k).bind Call.publishes?).toList else [] := by
  rw [publishes_proceed]
  unfold changesOf
  cases (s.calls.get k).bind Call.publishes? with
  | none => exact (ite_self []).symm
  | some change =>
    by_cases h : k = j
    · simp [h]
    · simp [h]

/-! ## One act -/

variable {s start now : Service} {ops : List Operation} {published : List (Nat × Change)}

theorem proceed_eq {k : Nat} {call : Call} (h : s.calls.get k = some call) :
    s.proceed k = { s with
      registry := match call.publishes? with
        | some change => s.registry.publish change
        | none => s.registry
      created := (call.step s.registry s.created).2
      calls := s.calls.set k (some (call.step s.registry s.created).1.2) } := by
  rw [← Call.registry_step s.registry call s.created]
  unfold proceed
  rw [h]
  rfl

theorem proceed_of_none {k : Nat} (h : s.calls.get k = none) : s.proceed k = s := by
  unfold proceed
  rw [h]

theorem factories_proceed (s : Service) (k : Nat) :
    (s.proceed k).registry.factories = s.registry.factories := by
  cases h : s.calls.get k with
  | none => rw [proceed_of_none h]
  | some call =>
    rw [proceed_eq h]
    dsimp only
    split <;> rfl

theorem nextCall_proceed (s : Service) (k : Nat) : (s.proceed k).nextCall = s.nextCall := by
  cases h : s.calls.get k with
  | none => rw [proceed_of_none h]
  | some call => rw [proceed_eq h]

theorem calls_proceed_of_ne (s : Service) {k j : Nat} (h : k ≠ j) :
    (s.proceed k).calls.get j = s.calls.get j := by
  cases hc : s.calls.get k with
  | none => rw [proceed_of_none hc]
  | some call =>
    rw [proceed_eq hc]
    exact (Table.get_set _ _ _ _).trans (if_neg h)

/-- The service is what the operations that were asked for and the changes that were published have
made of an earlier one without calls. -/
structure Follows (start now : Service) (ops : List Operation) (published : List (Nat × Change)) :
    Prop where
  factories : now.registry.factories = start.registry.factories
  prototypes : now.registry.prototypes =
    published.foldl (fun m p => p.2.apply m) start.registry.prototypes
  sorted : now.registry.prototypes.Sorted
  next : now.nextCall = ops.length
  known : ∀ p ∈ published, p.1 < ops.length
  calls : ∀ k op, ops[k]? = some op → ∃ call, now.calls.get k = some call ∧
    call.Serves start.registry.factories op (changesOf published k)
  unknown : ∀ k, ops.length ≤ k → now.calls.get k = none

theorem Follows.refl (h : start.registry.IsSorted) (next : start.nextCall = 0)
    (calls : ∀ k, start.calls.get k = none) : Follows start start [] [] where
  factories := rfl
  prototypes := rfl
  sorted := h.prototypes
  next := next
  known _ h := nomatch h
  calls _ _ h := nomatch h
  unknown k _ := calls k

theorem changesOf_of_unknown (h : ∀ p ∈ published, p.1 < ops.length) {k : Nat}
    (hk : ops.length ≤ k) : changesOf published k = [] := by
  unfold changesOf
  rw [List.filter_eq_nil_iff.2 fun p hp he => absurd (h p hp) ?_]
  · rfl
  · rw [eq_of_beq he]
    exact Nat.not_lt_of_le hk

theorem Follows.ask (h : Follows start now ops published) (op : Operation) :
    Follows start (now.ask op) (ops ++ [op]) published where
  factories := h.factories
  prototypes := h.prototypes
  sorted := h.sorted
  next := by
    rw [List.length_append]
    exact congrArg (· + 1) h.next
  known p hp := Nat.lt_of_lt_of_le (h.known p hp) (by simp)
  calls k o hk := by
    rcases Nat.lt_trichotomy k ops.length with hlt | rfl | hgt
    · rw [List.getElem?_append_left hlt] at hk
      obtain ⟨call, hc, hs⟩ := h.calls k o hk
      refine ⟨call, ?_, hs⟩
      unfold Service.ask
      rw [Table.get_set, if_neg (h.next ▸ Nat.ne_of_gt hlt), hc]
    · rw [List.getElem?_concat_length] at hk
      cases hk
      refine ⟨.ofOperation op, ?_, ?_⟩
      · rw [← h.next]
        exact Table.get_set_self _ _ _
      · rw [changesOf_of_unknown h.known (Nat.le_refl _)]
        exact Call.serves_ofOperation _ op
    · rw [List.getElem?_eq_none (by simp; omega)] at hk
      cases hk
  unknown k hk := by
    have hlen : ops.length + 1 ≤ k := by simpa using hk
    unfold Service.ask
    rw [Table.get_set, if_neg (by rw [h.next]; omega)]
    exact h.unknown k (by omega)

theorem Follows.proceed (h : Follows start now ops published)
    (nodup : (Entries.keys start.registry.factories).Nodup) (k : Nat) :
    Follows start (now.proceed k) ops (published ++ (now.publishes? (.proceed k)).toList) := by
  by_cases hk : k < ops.length
  -- A call that was asked goes on, and may publish its change.
  · obtain ⟨call, hc, hs⟩ := h.calls k _ (List.getElem?_eq_getElem hk)
    have hp : now.publishes? (.proceed k) = call.publishes?.map fun change => (k, change) := by
      rw [publishes_proceed, hc]
      rfl
    refine ⟨(now.factories_proceed k).trans h.factories, ?_, ?_,
      (now.nextCall_proceed k).trans h.next,
      fun p hp' => ?_, fun j o ho => ?_, fun j hj => ?_⟩
    · rw [proceed_eq hc, List.foldl_append, ← h.prototypes, hp]
      dsimp only
      cases call.publishes? <;> rfl
    · rw [proceed_eq hc]
      cases hpub : call.publishes? with
      | none => exact h.sorted
      | some change => exact (hs.asks hpub).sorted h.sorted
    · rcases List.mem_append.1 hp' with hp' | hp'
      · exact h.known p hp'
      · rw [hp, Option.mem_toList, Option.map_eq_some_iff] at hp'
        obtain ⟨change, -, rfl⟩ := hp'
        exact hk
    · rw [changesOf_append, changesOf_publishes]
      by_cases hkj : k = j
      · subst hkj
        rw [List.getElem?_eq_getElem hk] at ho
        cases ho
        rw [if_pos rfl, hc, proceed_eq hc]
        refine ⟨_, Table.get_set_self _ _ _, ?_⟩
        rw [← h.factories] at hs nodup ⊢
        exact hs.step nodup _
      · rw [if_neg hkj, List.append_nil, now.calls_proceed_of_ne hkj]
        exact h.calls j o ho
    · rw [now.calls_proceed_of_ne (Nat.ne_of_lt (Nat.lt_of_lt_of_le hk hj))]
      exact h.unknown j hj
  -- Nothing happens if there is no such call.
  · have hn := h.unknown k (Nat.le_of_not_lt hk)
    rw [proceed_of_none hn]
    have hp : now.publishes? (.proceed k) = none := by
      rw [publishes_proceed, hn]
      rfl
    rw [hp, Option.toList_none, List.append_nil]
    exact h

theorem Follows.act (h : Follows start now ops published)
    (nodup : (Entries.keys start.registry.factories).Nodup) (a : Act) :
    Follows start (now.act a) (ops ++ a.operation?.toList)
      (published ++ (now.publishes? a).toList) := by
  cases a with
  | ask op =>
    have hp : published ++ (now.publishes? (.ask op)).toList = published := List.append_nil _
    rw [hp]
    exact h.ask op
  | proceed k =>
    have ho : ops ++ (Act.proceed k).operation?.toList = ops := List.append_nil _
    rw [ho]
    exact h.proceed nodup k

theorem follows (h : Follows start start [] [])
    (nodup : (Entries.keys start.registry.factories).Nodup) (acts : List Act) :
    Follows start (start.after acts) (operations acts) (start.publications acts) := by
  induction acts using List.reverseRecOn with
  | nil => exact h
  | append_singleton acts a ih =>
    have ha := ih.act nodup a
    have hops : operations (acts ++ [a]) = operations acts ++ a.operation?.toList := by
      unfold operations
      rw [List.filterMap_append]
      cases h : a.operation? <;> simp [h]
    rw [hops, publications_append, after_append]
    rw [show (start.after acts).publications [a] =
      ((start.after acts).publishes? a).toList from List.append_nil _]
    exact ha

/-! ## Every call ends -/

/-- A call that goes on as often as it has steps left is over. -/
theorem over_after {k : Nat} {call : Call} (h : s.calls.get k = some call) (known : k < s.nextCall)
    (acts : List Act) (enough : call.left s.registry ≤ strides acts k) :
    ∃ outcome, (s.after acts).calls.get k = some (.over outcome) := by
  induction acts generalizing s call with
  | nil =>
    obtain ⟨outcome, rfl⟩ := Call.over_of_left (Nat.le_zero.1 enough)
    exact ⟨outcome, h⟩
  | cons a acts ih =>
    cases a with
    | ask op =>
      refine ih (s := s.ask op) ?_ (Nat.lt_succ_of_lt known) enough
      unfold ask
      rw [Table.get_set, if_neg (Nat.ne_of_gt known), h]
    | proceed j =>
      -- Only an act that proceeds with this call takes it a step further.
      have hcount : strides (.proceed j :: acts) k = strides acts k + if j == k then 1 else 0 :=
        List.count_cons
      rw [hcount] at enough
      by_cases hjk : j = k
      · subst hjk
        rw [beq_self_eq_true, if_pos rfl] at enough
        have hnext : (s.proceed j).calls.get j = some (call.step s.registry s.created).1.2 := by
          rw [proceed_eq h]
          exact Table.get_set_self _ _ _
        refine ih hnext (s.nextCall_proceed j ▸ known) ?_
        have hleft := Call.left_step s.registry (s.proceed j).registry call s.created
        change Call.left (s.proceed j).registry _ ≤ strides acts j
        omega
      · rw [if_neg (by simpa using hjk)] at enough
        refine ih ((s.calls_proceed_of_ne hjk).trans h) (s.nextCall_proceed j ▸ known) ?_
        exact Nat.le_trans (Nat.le_of_eq (Call.left_congr (s.factories_proceed j))) enough

theorem proceedBy_eq (s : Service) (k n : Nat) :
    proceedBy k n s = s.after (List.replicate n (.proceed k)) := by
  induction n generalizing s with
  | zero => rfl
  | succ n ih => exact ih (s.proceed k)

theorem strides_replicate (n k : Nat) : strides (List.replicate n (.proceed k)) k = n := by
  unfold strides
  rw [List.filterMap_replicate_of_some (f := Act.call?) rfl, List.count_replicate_self]

theorem isSome_perform (s : Service) (op : Operation) : (s.perform op).2.isSome := by
  unfold perform
  dsimp only
  rw [proceedBy_eq]
  obtain ⟨outcome, h⟩ := over_after (s := s.ask op) (Table.get_set_self _ _ _)
    (Nat.lt_succ_self s.nextCall)
    (.replicate ((Call.ofOperation op).left s.registry) (.proceed s.nextCall))
    (Nat.le_of_eq (strides_replicate _ _).symm)
  rw [h]
  rfl

/-! ## All calls together -/

theorem get?_foldl_apply (published : List (Nat × Change)) (m : Prototypes) :
    (published.foldl (fun m p => p.2.apply m) m).get? =
      published.foldl (fun m p => p.2.effect m) m.get? := by
  induction published generalizing m with
  | nil => rfl
  | cons p rest ih =>
    exact (ih (p.2.apply m)).trans
      (congrArg (fun m => rest.foldl (fun m p => p.2.effect m) m) (p.2.get?_apply m))

end Service

end Conduit.Registry
