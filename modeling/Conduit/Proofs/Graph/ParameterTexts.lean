import Conduit.Proofs.Graph.Creation
import Conduit.Proofs.Text

/-!
# Parameters given as texts

A node's parameter can be given as a document or as its text. Both have the same effect, apart from
the text of null and the text of an empty object. As documents these have nothing to apply, but the
text is looked at before it is read, and what it writes is merged onto the prototype's parameters.
-/

namespace Conduit

open Json Text

/-! ## Texts of documents -/

theorem Json.all_skipSpaces {c : Cursor} (h : ∀ x ∈ c.rest, isBlank x = true) :
    ∀ x ∈ c.skipSpaces.rest, isBlank x = true := fun x hx => h x (List.mem_of_mem_drop hx)

theorem Json.readLeaf_of_blank {c : Cursor} (h : ∀ x ∈ c.rest, isBlank x = true)
    (outcome : Json × Cursor) : readLeaf c ≠ .ok outcome := by
  unfold readLeaf
  split
  · rintro ⟨⟩
  · next x rest hr =>
    have hx : isBlank x = true := h x (hr ▸ List.mem_cons_self)
    have ne {y : Char} (hy : isBlank y = false) : x ≠ y := by
      rintro rfl
      rw [hx] at hy
      cases hy
    rw [if_neg (ne (y := 'n') rfl), if_neg (ne (y := 't') rfl), if_neg (ne (y := 'f') rfl),
      if_neg (ne (y := '-') rfl), if_neg (by rw [isDigit_of_isBlank hx]; decide),
      if_neg (ne (y := '"') rfl)]
    rintro ⟨⟩

theorem Json.readJson_of_blank (levels : Nat) {c : Cursor} (h : ∀ x ∈ c.rest, isBlank x = true)
    (outcome : Json × Cursor) : readJson levels c ≠ .ok outcome := by
  have blank := all_skipSpaces h
  unfold readJson
  dsimp only
  split
  · next hr => cases blank _ (hr ▸ List.mem_cons_self)
  · next hr => cases blank _ (hr ▸ List.mem_cons_self)
  · exact readLeaf_of_blank blank outcome

theorem Json.isEmptyParameter_text {text : String} {j : Json} (h : Json.parse text = .ok j) :
    isEmptyParameter (.string text) = false := by
  obtain ⟨outcome, hread, -⟩ := Except.exists_of_bind h
  refine Bool.eq_false_iff.2 fun hblank => ?_
  have hall : text.toList.all isBlank = true := hblank
  exact readJson_of_blank _ (List.all_eq_true.1 hall) outcome hread

/-! ## Components from parameters -/

/-- The slot holds what comes of making a component of the prototype from the parameters: the one
that nodes share, one for the node alone or, if it cannot be made, the reason. -/
inductive Prototype.Supplies (p : Prototype) (parameters : Json) (spec : NodeSpec) :
    Slot Component → Prop where
  | shared {component : Component}
      (h : p.factory.component p.name none parameters = .ok component) :
      Supplies p parameters spec (.ready component (.shared spec.componentId))
  | own {component : Component}
      (h : p.factory.component p.name (some spec.id) parameters = .ok component) :
      Supplies p parameters spec (.ready component .own)
  | unusable {e : ComponentError}
      (h : p.factory.component p.name (some spec.id) parameters = .error e) :
      Supplies p parameters spec (.unusable e.message)

theorem Prototype.supplies_ofComponent (p : Prototype) (parameters : Json) (spec : NodeSpec) :
    p.Supplies parameters spec
      (.ofComponent (p.factory.component p.name (some spec.id) parameters)) := by
  cases h : p.factory.component p.name (some spec.id) parameters with
  | ok component => exact .own h
  | error e => exact .unusable h

/-- The parameters of a node that gives a document: the prototype's own if the document is null or
an empty object, and otherwise the prototype's with the document merged onto them. -/
def Prototype.effective (p : Prototype) : Json → Json
  | .null | .object [] => p.parameters
  | j => p.parameters.merge j

theorem Json.isEmptyParameter_eq_true_iff {j : Json} (document : ∀ text, j ≠ .string text) :
    j.isEmptyParameter = true ↔ j = .null ∨ j = .object [] := by
  cases j with
  | string text => exact absurd rfl (document text)
  | object members => simp [isEmptyParameter]
  | _ => simp [isEmptyParameter]

theorem Prototype.effective_of_ne (p : Prototype) {j : Json} (hn : j ≠ .null)
    (ho : j ≠ .object []) : p.effective j = p.parameters.merge j := by
  unfold effective
  split
  · exact absurd rfl hn
  · exact absurd rfl ho
  · rfl

theorem Prototype.effective_eq (p : Prototype) {j : Json} (document : ∀ text, j ≠ .string text) :
    p.effective j = p.parameters.layered j := by
  unfold Json.layered
  split
  · next he =>
    rcases (isEmptyParameter_eq_true_iff document).1 he with rfl | rfl <;> rfl
  · next he =>
    rw [isEmptyParameter_eq_true_iff document, not_or] at he
    exact p.effective_of_ne he.1 he.2

/-- Merging comes to the same as leaving out what has nothing to apply, unless null takes the place
of other parameters or an empty object that of parameters that are no object. -/
theorem Prototype.merge_eq_effective_iff (p : Prototype) (j : Json) :
    p.parameters.merge j = p.effective j ↔
      (j = .null → p.parameters = .null) ∧
      (j = .object [] → ∃ members, p.parameters = .object members) := by
  by_cases hn : j = .null
  · subst hn
    exact ⟨fun h => ⟨fun _ => h.symm, fun h => (by cases h)⟩, fun h => (h.1 rfl).symm⟩
  by_cases ho : j = .object []
  · subst ho
    refine ⟨fun h => ⟨fun h => absurd h hn, fun _ => ?_⟩, fun h => ?_⟩
    · obtain ⟨members, hm⟩ := exists_merge_object p.parameters []
      exact ⟨members, h.symm.trans hm⟩
    · obtain ⟨members, hm⟩ := h.2 rfl
      change p.parameters.merge (.object []) = p.parameters
      rw [hm, merge_object, mergeMembers]
  · exact ⟨fun _ => ⟨fun h => absurd h hn, fun h => absurd h ho⟩,
      fun _ => (p.effective_of_ne hn ho).symm⟩

/-! ## Documents and their texts -/

theorem readParameter_of_not_string {j : Json} (h : ∀ text, j ≠ .string text) :
    readParameter j = .ok j := by
  cases j with
  | string text => exact absurd rfl (h text)
  | _ => rfl

theorem readParameter_text {text : String} {j : Json} (h : Json.parse text = .ok j) :
    readParameter (.string text) = .ok j := by
  unfold readParameter
  dsimp only
  rw [h]
  rfl

variable {p : Prototype} {spec : NodeSpec} {j : Json}

theorem Prototype.supplies_document (built : p.IsBuilt) (h : ∀ text, j ≠ .string text) :
    p.Supplies (p.effective j) spec (p.slot { spec with parameter := j }) := by
  rw [p.effective_eq h]
  unfold Json.layered
  cases he : j.isEmptyParameter with
  | true =>
    rw [p.slot_of_empty he]
    exact .shared built
  | false =>
    rw [p.slot_of_read he (readParameter_of_not_string h)]
    exact p.supplies_ofComponent _ spec

theorem Prototype.supplies_text {text : String} (h : Json.parse text = .ok j) :
    p.Supplies (p.parameters.merge j) spec (p.slot { spec with parameter := .string text }) := by
  rw [p.slot_of_read (isEmptyParameter_text h) (readParameter_text h)]
  exact p.supplies_ofComponent _ spec

theorem Prototype.slot_text {text : String} (h : Json.parse text = .ok j)
    (document : ∀ text, j ≠ .string text) (some : j.isEmptyParameter = false) :
    p.slot { spec with parameter := .string text } = p.slot { spec with parameter := j } := by
  rw [p.slot_of_read (isEmptyParameter_text h) (readParameter_text h),
    p.slot_of_read some (readParameter_of_not_string document)]

/-- A node that gives a document gets a component that is made from its effective parameters, and a
node that gives a text of the document gets one that is made from the prototype's parameters with
the document merged onto them. The two are the same unless the document is null or an empty object.
Then the parameters are the same exactly if null is merged onto null, or an empty object onto an
object. -/
theorem parameter_texts {c : Compiler} (known : c.prototypes.get? spec.componentId = some p)
    (built : p.IsBuilt) (document : ∀ text, j ≠ .string text) (find : Lookup) (stack : List String)
    (nested : Option (Definition → List String → Compiling (Graph Component))) (n : Nat) :
    let slot (parameter : Json) :=
      ((c.resolve stack nested { spec with parameter := parameter }).outcome find n).1
    (∃ s, slot j = .ok s ∧ p.Supplies (p.effective j) spec s) ∧
    (∀ text, Json.parse text = .ok j →
      (∃ s, slot (.string text) = .ok s ∧ p.Supplies (p.parameters.merge j) spec s) ∧
      (j ≠ .null → j ≠ .object [] → slot (.string text) = slot j)) ∧
    (p.parameters.merge j = p.effective j ↔
      (j = .null → p.parameters = .null) ∧
      (j = .object [] → ∃ members, p.parameters = .object members)) := by
  have resolved (parameter : Json) :
      ((c.resolve stack nested { spec with parameter := parameter }).outcome find n).1 =
        .ok (p.slot { spec with parameter := parameter }) :=
    @Compiler.outcome_resolve c { spec with parameter := parameter } p known find stack nested n
  refine ⟨⟨_, resolved j, Prototype.supplies_document built document⟩, fun text h => ⟨?_, ?_⟩,
    p.merge_eq_effective_iff j⟩
  · exact ⟨_, resolved _, Prototype.supplies_text h⟩
  · intro hnull hobject
    -- The two differ only for the documents that stand for no parameters at all.
    have some : j.isEmptyParameter = false := by
      rw [Bool.eq_false_iff, ne_eq, isEmptyParameter_eq_true_iff document]
      exact not_or.2 ⟨hnull, hobject⟩
    exact (resolved _).trans ((congrArg _ (Prototype.slot_text h document some)).trans
      (resolved _).symm)

/-- The document null leaves the prototype's greeting in place, and the text of null removes it. -/
theorem parameter_texts_null :
    let slot (parameter : Json) := ((Greeting.compiler.resolve [] none
      { Greeting.node with parameter := parameter }).outcome (fun _ => .ok none) 0).1
    let p := Greeting.prototype
    Json.parse "null" = .ok .null ∧ p.parameters.merge .null ≠ p.effective .null ∧
    (∃ s, slot .null = .ok s ∧ p.Supplies (p.effective .null) Greeting.node s) ∧
    (∃ s, slot (.string "null") = .ok s ∧
      p.Supplies (p.parameters.merge .null) Greeting.node s) ∧
    slot .null = .ok (.ready
      (.basic "context.set" (Library.setValues [("greeting", .string "hello")]))
      (.shared "greet")) ∧
    slot (.string "null") = .ok (.ready (.basic "context.set" (Library.setValues [])) .own) := by
  have known : Greeting.compiler.prototypes.get? Greeting.node.componentId =
      some Greeting.prototype := rfl
  have text : Json.parse "null" = .ok .null := by cbv
  obtain ⟨ofDocument, ofText, agree⟩ :=
    parameter_texts (j := .null) known rfl (fun _ h => by cases h) (fun _ => .ok none) [] none 0
  refine ⟨text, fun h => ?_, ofDocument, (ofText "null" text).1, rfl, ?_⟩
  · cases (agree.1 h).1 rfl
  · have known' : Greeting.compiler.prototypes.get?
        ({ Greeting.node with parameter := .string "null" } : NodeSpec).componentId =
          some Greeting.prototype := rfl
    refine (Compiler.outcome_resolve known' (fun _ => .ok none) [] none 0).trans ?_
    rw [Prototype.slot_of_read _ rfl (readParameter_text text)]
    rfl

end Conduit
