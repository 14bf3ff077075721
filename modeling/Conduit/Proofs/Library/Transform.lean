import Conduit.Component.Library.Transform
import Conduit.Proofs.Json.RoundTrip

/-!
# Values through a text and back

A value becomes a document and the document a text. The text read back gives the document and the
document the value, with null for the numbers that no document can hold.
-/

namespace Conduit

open Number

namespace Value

/-! ## Parts of a value -/

/-- The value stands somewhere in another. -/
inductive Part (part : Value) : Value → Prop where
  | self : Part part part
  | item {items : List Value} {v : Value} (h : v ∈ items) (inner : Part part v) :
      Part part (.array items)
  | member {members : List (String × Value)} {e : String × Value} (h : e ∈ members)
      (inner : Part part e.2) : Part part (.object members)

mutual

/-- How many levels of arrays and objects a value nests. -/
def depth : Value → Nat
  | .array items => depthItems items + 1
  | .object members => depthMembers members + 1
  | _ => 0

def depthItems : List Value → Nat
  | [] => 0
  | v :: items => max (depth v) (depthItems items)

def depthMembers : List (String × Value) → Nat
  | [] => 0
  | (_, v) :: members => max (depth v) (depthMembers members)

end

mutual

/-- The value with null in place of every number that is not finite. -/
def settled : Value → Value
  | .number x => if x.isFinite then .number x else .null
  | .array items => .array (settledItems items)
  | .object members => .object (settledMembers members)
  | v => v

def settledItems : List Value → List Value
  | [] => []
  | v :: items => settled v :: settledItems items

def settledMembers : List (String × Value) → List (String × Value)
  | [] => []
  | (k, v) :: members => (k, settled v) :: settledMembers members

end

/-- The members of all objects are in the order of their keys, as a map of keys has them. -/
def IsOrdered (v : Value) : Prop := ∀ members, Part (.object members) v → Entries.Sorted members

/-! ## The document of a value -/

theorem toItems_eq (items : List Value) : toItems items = items.map toJson := by
  induction items with
  | nil => rfl
  | cons v items ih => rw [toItems, ih, List.map_cons]

theorem toMembers_eq (members : List (String × Value)) :
    toMembers members = members.map fun e => (e.1, e.2.toJson) := by
  induction members with
  | nil => rfl
  | cons e members ih =>
    obtain ⟨k, v⟩ := e
    rw [toMembers, ih, List.map_cons]

mutual

theorem ofJson_toJson (v : Value) : ofJson v.toJson = v.settled := by
  cases v with
  | number x =>
    rw [toJson, settled]
    split <;> rfl
  | array items => rw [toJson, ofJson, settled, ofItems_toItems items]
  | object members => rw [toJson, ofJson, settled, ofMembers_toMembers members]
  | _ => rfl

theorem ofItems_toItems (items : List Value) : ofItems (toItems items) = settledItems items := by
  cases items with
  | nil => rfl
  | cons v items => rw [toItems, ofItems, settledItems, ofJson_toJson v, ofItems_toItems items]

theorem ofMembers_toMembers (members : List (String × Value)) :
    ofMembers (toMembers members) = settledMembers members := by
  cases members with
  | nil => rfl
  | cons e members =>
    obtain ⟨k, v⟩ := e
    rw [toMembers, ofMembers, settledMembers, ofJson_toJson v, ofMembers_toMembers members]

end

mutual

theorem depth_toJson (v : Value) : v.toJson.depth = v.depth := by
  cases v with
  | number x =>
    rw [toJson]
    split <;> rfl
  | array items => rw [toJson, Json.depth, depth, depthItems_toItems items]
  | object members => rw [toJson, Json.depth, depth, depthMembers_toMembers members]
  | _ => rfl

theorem depthItems_toItems (items : List Value) :
    Json.depthItems (toItems items) = depthItems items := by
  cases items with
  | nil => rfl
  | cons v items =>
    rw [toItems, Json.depthItems, depthItems, depth_toJson v, depthItems_toItems items]

theorem depthMembers_toMembers (members : List (String × Value)) :
    Json.depthMembers (toMembers members) = depthMembers members := by
  cases members with
  | nil => rfl
  | cons e members =>
    obtain ⟨k, v⟩ := e
    rw [toMembers, Json.depthMembers, depthMembers, depth_toJson v, depthMembers_toMembers members]

end

theorem exists_part_of_toJson {j : Json} {v : Value} (h : Json.Part j v.toJson) :
    ∃ w, Part w v ∧ j = w.toJson := by
  -- The induction is on the part of the document, which follows that of the value.
  generalize hdocument : v.toJson = document at h
  induction h generalizing v with
  | self => exact ⟨v, .self, hdocument.symm⟩
  | item h _ ih =>
    cases v with
    | array items =>
      cases hdocument
      rw [toItems_eq] at h
      obtain ⟨w, hw, hj⟩ := List.mem_map.1 h
      obtain ⟨part, hpart, hdoc⟩ := ih hj
      exact ⟨part, .item hw hpart, hdoc⟩
    | number x =>
      rw [toJson] at hdocument
      split at hdocument <;> cases hdocument
    | _ => cases hdocument
  | member h _ ih =>
    cases v with
    | object members =>
      cases hdocument
      rw [toMembers_eq] at h
      obtain ⟨e, he, hj⟩ := List.mem_map.1 h
      obtain ⟨part, hpart, hdoc⟩ := ih (congrArg Prod.snd hj)
      exact ⟨part, .member he hpart, hdoc⟩
    | number x =>
      rw [toJson] at hdocument
      split at hdocument <;> cases hdocument
    | _ => cases hdocument

/-- The text of every finite number in the value is read back as that number. -/
def NumbersReadBack (v : Value) : Prop :=
  ∀ x, Part (.number x) v → x.isFinite = true →
    Json.parse (Layout.document.render x) = .ok (.real x)

theorem faithful_toJson {v : Value} (ordered : v.IsOrdered) (numbers : v.NumbersReadBack) :
    v.toJson.Faithful := by
  refine ⟨fun members h => ?_, fun n h => ?_, fun x h => ?_⟩
  · obtain ⟨w, hw, hj⟩ := exists_part_of_toJson h
    cases w with
    | object members' =>
      cases hj
      rw [toMembers_eq]
      exact List.pairwise_map.2 (ordered members' hw)
    | number x =>
      rw [toJson] at hj
      split at hj <;> cases hj
    | _ => cases hj
  · obtain ⟨w, -, hj⟩ := exists_part_of_toJson h
    cases w with
    | number x =>
      rw [toJson] at hj
      split at hj <;> cases hj
    | _ => cases hj
  · obtain ⟨w, hw, hj⟩ := exists_part_of_toJson h
    cases w with
    | number y =>
      rw [toJson] at hj
      split at hj
      · next finite =>
        cases hj
        rw [Json.realText, if_pos finite, String.ofList_toList]
        exact numbers x hw finite
      · cases hj
    | _ => cases hj

end Value

namespace Library

open Number Json

/-! ## The two components -/

section

variable (network : Http.Network) (cancelAt : Option Nat) (keys : KeyMapping) (s : Scene)
  (now : Nat)

theorem play_jsonStringify {v : Value} (h : Entries.get? s.values keys.input = some v) :
    (jsonStringify keys).play network cancelAt s now =
      ({ s with values := s.values.set keys.output (.string v.toJson.pretty) }, .succeeded,
        now) := by
  rw [jsonStringify, Activity.play, h]
  rfl

theorem play_jsonParse {text : String} (h : Entries.get? s.values keys.input = some (.string text))
    {j : Json} (read : Json.parse text = .ok j) :
    (jsonParse keys).play network cancelAt s now =
      ({ s with values := s.values.set keys.output (.ofJson j) }, .succeeded, now) := by
  rw [jsonParse, Activity.play, h]
  simp only [read]
  rfl

theorem play_jsonParse_of_error {text : String}
    (h : Entries.get? s.values keys.input = some (.string text))
    {fault : Fault} (refused : Json.parse text = .error fault) :
    (jsonParse keys).play network cancelAt s now =
      (s, .failed (.executionFailed ("JSON parse error: " ++ fault.message)), now) := by
  rw [jsonParse, Activity.play, h]
  simp only [refused]
  rfl

end

/-- The parameters that name the two keys. -/
def keyParameters (input output : String) : Json :=
  .object [("input", .string input), ("output", .string output)]

theorem create_jsonStringify (input output : String) :
    jsonStringifyFactory.create (keyParameters input output) =
      .ok (.plain "transform.json_stringify" (jsonStringify ⟨input, output⟩)) := rfl

theorem create_jsonParse (input output : String) :
    jsonParseFactory.create (keyParameters input output) =
      .ok (.plain "transform.json_parse" (jsonParse ⟨input, output⟩)) := rfl

/-- A value that is written as a text under one key and read from there is restored under another
key, with null for the numbers that are not finite, and no other key changes. If the value nests
deeper than a text may, reading fails and changes nothing. -/
theorem parse_restores_stringified (network : Http.Network) (cancelAt : Option Nat) (a b c : String)
    (s : Scene) (now : Nat) {v : Value} (there : Entries.get? s.values a = some v) :
    ∃ stringify parse,
      jsonStringifyFactory.create (keyParameters a b) =
        .ok (.plain "transform.json_stringify" stringify) ∧
      jsonParseFactory.create (keyParameters b c) = .ok (.plain "transform.json_parse" parse) ∧
      ∃ written, stringify.play network cancelAt s now = (written, .succeeded, now) ∧
        (∀ k, k ≠ b → Entries.get? written.values k = Entries.get? s.values k) ∧
        (v.IsOrdered → v.NumbersReadBack → v.depth ≤ 127 →
          ∃ restored, parse.play network cancelAt written now = (restored, .succeeded, now) ∧
            Entries.get? restored.values c = some v.settled ∧
            ∀ k, k ≠ b → k ≠ c → Entries.get? restored.values k = Entries.get? s.values k) ∧
        (127 < v.depth →
          ∃ e, parse.play network cancelAt written now = (written, .failed e, now)) := by
  refine ⟨jsonStringify ⟨a, b⟩, jsonParse ⟨b, c⟩, create_jsonStringify a b, create_jsonParse b c, _,
    play_jsonStringify network cancelAt ⟨a, b⟩ s now there, fun k hk => ?_, ?_, ?_⟩
  · exact Entries.get?_insert_of_ne _ _ hk.symm
  · intro ordered numbers shallow
    have read := parse_pretty (Value.faithful_toJson ordered numbers)
      ((Value.depth_toJson v).symm ▸ shallow)
    refine ⟨_, play_jsonParse network cancelAt ⟨b, c⟩ _ now (Entries.get?_insert_self _ _ _) read,
      ?_, fun k hb hc => ?_⟩
    · rw [← Value.ofJson_toJson]
      exact Entries.get?_insert_self _ _ _
    · exact (Entries.get?_insert_of_ne _ _ hc.symm).trans (Entries.get?_insert_of_ne _ _ hb.symm)
  · intro deep
    obtain ⟨fault, refused⟩ := parse_pretty_of_deep ((Value.depth_toJson v).symm ▸ deep)
    exact ⟨_, play_jsonParse_of_error network cancelAt ⟨b, c⟩ _ now
      (Entries.get?_insert_self _ _ _) refused⟩

def oneAndHalf : Binary64 := .ofRatio false 3 2

/-- One and a half next to a NaN, in an array that is a member of an object. -/
def nestedNumbers : Value :=
  .object [("k", .array [.number oneAndHalf, .number .nan])]

def isNumber (x : Binary64) : Except Fault Json → Bool
  | .ok (.real y) => decide (y = x)
  | _ => false

theorem eq_of_isNumber {x : Binary64} {outcome : Except Fault Json}
    (h : isNumber x outcome = true) : outcome = .ok (.real x) := by
  unfold isNumber at h
  split at h
  · rw [of_decide_eq_true h]
  · cases h

theorem parse_render_oneAndHalf :
    Json.parse (Layout.document.render oneAndHalf) = .ok (.real oneAndHalf) :=
  eq_of_isNumber (by decide +kernel)

theorem parse_restores_stringified_nested :
    let s : Scene := ⟨[("a", nestedNumbers)], false, [], []⟩
    Entries.get? s.values "a" = some nestedNumbers ∧ nestedNumbers.IsOrdered ∧
      nestedNumbers.NumbersReadBack ∧ nestedNumbers.depth ≤ 127 ∧
      ∃ parse written restored,
        jsonParseFactory.create (keyParameters "b" "c") = .ok (.plain "transform.json_parse" parse) ∧
        parse.play Http.unreachable none written 0 = (restored, .succeeded, 0) ∧
        Entries.get? restored.values "c" =
          some (.object [("k", .array [.number oneAndHalf, .null])]) := by
  intro s
  have ordered : nestedNumbers.IsOrdered := by
    intro members h
    cases h with
    | self => exact List.pairwise_singleton _ _
    | member he inner =>
      obtain rfl := List.mem_singleton.1 he
      cases inner with
      | item hv inner =>
        simp only [List.mem_cons, List.not_mem_nil, or_false] at hv
        rcases hv with rfl | rfl <;> cases inner
  have numbers : nestedNumbers.NumbersReadBack := by
    intro x h finite
    cases h with
    | member he inner =>
      obtain rfl := List.mem_singleton.1 he
      cases inner with
      | item hv inner =>
        simp only [List.mem_cons, List.not_mem_nil, or_false] at hv
        rcases hv with rfl | rfl <;> cases inner
        · exact parse_render_oneAndHalf
        · exact absurd finite (by decide)
  have shallow : nestedNumbers.depth ≤ 127 := by decide
  have there : Entries.get? s.values "a" = some nestedNumbers := rfl
  obtain ⟨_, parse, -, created, written, -, -, restore, -⟩ :=
    parse_restores_stringified Http.unreachable none "a" "b" "c" s 0 there
  obtain ⟨restored, played, value, -⟩ := restore ordered numbers shallow
  refine ⟨there, ordered, numbers, shallow, parse, written, restored, created, played, ?_⟩
  rw [value]
  rfl

end Library

end Conduit
