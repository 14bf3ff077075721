import Conduit.Proofs.Entries
import Conduit.Proofs.Json.Leaves

/-!
# Documents are read back

A document that is written over several lines is read back as it was if it nests at most as deep as
a text may, and refused if it nests deeper. All that is asked of it is that its numbers are read
back and its members are in order.
-/

namespace Conduit.Json

open Number Text

/-! ## Parts of a document -/

/-- The document stands somewhere in another. -/
inductive Part (part : Json) : Json → Prop where
  | self : Part part part
  | item {items : List Json} {j : Json} (h : j ∈ items) (inner : Part part j) :
      Part part (.array items)
  | member {members : List (String × Json)} {e : String × Json} (h : e ∈ members)
      (inner : Part part e.2) : Part part (.object members)

mutual

def depth : Json → Nat
  | .array items => depthItems items + 1
  | .object members => depthMembers members + 1
  | _ => 0

def depthItems : List Json → Nat
  | [] => 0
  | j :: items => max (depth j) (depthItems items)

def depthMembers : List (String × Json) → Nat
  | [] => 0
  | (_, j) :: members => max (depth j) (depthMembers members)

end

/-- The members of all objects are in order, and every number is read back from its own text. -/
structure Faithful (j : Json) : Prop where
  sorted : ∀ members, Part (.object members) j → Entries.Sorted members
  integers : ∀ n, Part (.integer n) j → parse (String.ofList (integerText n)) = .ok (.integer n)
  reals : ∀ x, Part (.real x) j → parse (String.ofList (realText x)) = .ok (.real x)

theorem Faithful.item {items : List Json} (h : Faithful (.array items)) {j : Json}
    (hj : j ∈ items) : Faithful j :=
  ⟨fun ms part => h.sorted ms (.item hj part), fun n part => h.integers n (.item hj part),
    fun x part => h.reals x (.item hj part)⟩

theorem Faithful.member {members : List (String × Json)} (h : Faithful (.object members))
    {e : String × Json} (he : e ∈ members) : Faithful e.2 :=
  ⟨fun ms part => h.sorted ms (.member he part), fun n part => h.integers n (.member he part),
    fun x part => h.reals x (.member he part)⟩

/-! ## Spaces -/

theorem skipSpaces_cons {x : Char} (hx : Cursor.isSpace x = false) (text : List Char)
    (p : Position) : Cursor.skipSpaces ⟨x :: text, p⟩ = ⟨x :: text, p⟩ := by
  rw [Cursor.skipSpaces, List.takeWhile_cons_of_neg (by simp [hx])]
  rfl

theorem skipSpaces_append {spaces : List Char} (all : ∀ c ∈ spaces, Cursor.isSpace c = true)
    {x : Char} (hx : Cursor.isSpace x = false) (text : List Char) (p : Position) :
    ∃ q, Cursor.skipSpaces ⟨spaces ++ x :: text, p⟩ = ⟨x :: text, q⟩ := by
  have stop : ∀ c ∈ (x :: text).head?, Cursor.isSpace c = false := by simpa using hx
  have run := takeWhile_append_of_stop all stop
  refine ⟨spaces.foldl Position.after p, ?_⟩
  rw [Cursor.skipSpaces]
  simp only [run, Cursor.behind, List.drop_left]

theorem skipSpaces_indent (level : Nat) {x : Char} (hx : Cursor.isSpace x = false)
    (text : List Char) (p : Position) :
    ∃ q, Cursor.skipSpaces ⟨indent level ++ x :: text, p⟩ = ⟨x :: text, q⟩ := by
  refine skipSpaces_append (List.forall_mem_cons.2 ⟨rfl, fun c hc => ?_⟩) hx text p
  rw [List.eq_of_mem_replicate hc]
  rfl

theorem readJson_leaf (levels : Nat) {x : Char} (space : Cursor.isSpace x = false)
    (array : x ≠ '[') (object : x ≠ '\x7b') (text : List Char) (p : Position) :
    readJson levels ⟨x :: text, p⟩ = readLeaf ⟨x :: text, p⟩ := by
  unfold readJson
  rw [skipSpaces_cons space]
  dsimp only
  split
  · next h => exact absurd (List.cons.inj h).1 array
  · next h => exact absurd (List.cons.inj h).1 object
  · rfl

theorem readJson_space (levels : Nat) {x : Char} (hx : Cursor.isSpace x = false)
    (text : List Char) (p : Position) :
    ∃ q, readJson levels ⟨' ' :: x :: text, p⟩ = readJson levels ⟨x :: text, q⟩ := by
  have one : ∀ c ∈ [' '], Cursor.isSpace c = true := by simp [Cursor.isSpace]
  obtain ⟨q, spaces⟩ := skipSpaces_append one hx text p
  refine ⟨q, ?_⟩
  unfold readJson
  rw [← List.singleton_append, spaces, skipSpaces_cons hx]

/-! ## What reading a printed document comes to -/

/-- The document is read, if it nests no deeper than the levels, and otherwise refused. Of a
document whose numbers are not read back, a number may be refused or left in part. -/
inductive Outcome (j : Json) (levels : Nat) (rest : List Char) :
    Except Fault (Json × Cursor) → Prop where
  | read (shallow : j.depth ≤ levels) {j' : Json} {left : List Char}
      (numeral : ∀ c ∈ left, isNumeralChar c = true) (p : Position)
      (exact : j.Faithful → j' = j ∧ left = []) :
      Outcome j levels rest (.ok (j', ⟨left ++ rest, p⟩))
  | failed (e : Fault) (deep : j.Faithful → levels < j.depth) : Outcome j levels rest (.error e)

/-- What reading the further items of a printed array comes to. -/
inductive ItemsOutcome (items : List Json) (levels : Nat) (rest : List Char) :
    Except Fault (List Json × Cursor) → Prop where
  | read (shallow : depthItems items ≤ levels) {items' : List Json} (p : Position)
      (exact : (∀ j ∈ items, j.Faithful) → items' = items) :
      ItemsOutcome items levels rest (.ok (items', ⟨rest, p⟩))
  | failed (e : Fault) (deep : (∀ j ∈ items, j.Faithful) → levels < depthItems items) :
      ItemsOutcome items levels rest (.error e)

/-- What reading the further members of a printed object comes to. -/
inductive MembersOutcome (members : List (String × Json)) (levels : Nat) (rest : List Char) :
    Except Fault (List (String × Json) × Cursor) → Prop where
  | read (shallow : depthMembers members ≤ levels) {members' : List (String × Json)} (p : Position)
      (exact : (∀ e ∈ members, e.2.Faithful) → members' = members) :
      MembersOutcome members levels rest (.ok (members', ⟨rest, p⟩))
  | failed (e : Fault) (deep : (∀ e ∈ members, e.2.Faithful) → levels < depthMembers members) :
      MembersOutcome members levels rest (.error e)

/-! ## Leaves -/

theorem Outcome.whole {j j' : Json} {levels : Nat} {rest : List Char} (shallow : j.depth ≤ levels)
    (p : Position) (exact : j.Faithful → j' = j) : Outcome j levels rest (.ok (j', ⟨rest, p⟩)) :=
  have nothing : ∀ c ∈ ([] : List Char), isNumeralChar c = true := nofun
  .read shallow nothing p fun faithful => ⟨exact faithful, rfl⟩

theorem Outcome.of_yields {j : Json} (leaf : j.depth = 0) (levels : Nat) {rest : List Char}
    {outcome : Except Fault (Json × Cursor)} (h : Yields outcome j rest) :
    Outcome j levels rest outcome := by
  obtain ⟨p, rfl⟩ := h
  exact .whole (leaf ▸ Nat.zero_le levels) p fun _ => rfl

theorem readLeaf_null (rest : List Char) (p : Position) :
    Yields (readLeaf ⟨['n', 'u', 'l', 'l'] ++ rest, p⟩) .null rest := ⟨_, rfl⟩

theorem parse_null : parse (String.ofList ['n', 'u', 'l', 'l']) = .ok .null := by
  rw [parse, readAll, Cursor.ofText, String.toList_ofList,
    readJson_leaf maxLevels rfl (by decide) (by decide)]
  rfl

theorem readLeaf_bool (b : Bool) (rest : List Char) (p : Position) :
    Yields (readLeaf ⟨leafText (.bool b) ++ rest, p⟩) (.bool b) rest := by
  cases b <;> exact ⟨_, rfl⟩

theorem readLeaf_string (s : String) (rest : List Char) (p : Position) :
    Yields (readLeaf ⟨stringText s ++ rest, p⟩) (.string s) rest := by
  have read := readString_escapes s rest (Cursor.skip ⟨stringText s ++ rest, p⟩ 1).position
  rw [← List.singleton_append, ← List.append_assoc] at read
  exact read.bind fun q => .pure _ _ _

theorem readJson_numeral (levels : Nat) {x : Char} (hx : isNumeralChar x = true)
    (text : List Char) (p : Position) :
    readJson levels ⟨x :: text, p⟩ = readLeaf ⟨x :: text, p⟩ := by
  refine readJson_leaf levels (isSpace_of_isNumeralChar hx) ?_ ?_ text p
  all_goals
    rintro rfl
    cases hx

theorem readLeaf_of_parse {x : Char} {text : List Char} (numeral : IsNumeral (x :: text)) {j : Json}
    (h : parse (String.ofList (x :: text)) = .ok j) :
    Yields (readLeaf ⟨x :: text, ⟨1, 0⟩⟩) j [] := by
  have hx := numeral.2 x List.mem_cons_self
  obtain ⟨⟨j', left, q⟩, hread, h⟩ := Except.exists_of_bind h
  obtain ⟨_, hend, h⟩ := Except.exists_of_bind h
  cases h
  rw [Cursor.ofText, String.toList_ofList, readJson_numeral maxLevels hx] at hread
  have alike := readLeaf_extends ends_nil hx text ⟨1, 0⟩ ⟨1, 0⟩
  rw [hread] at alike
  have suffix : left <:+ x :: text := by
    generalize readLeaf ⟨x :: text ++ [], ⟨1, 0⟩⟩ = other at alike
    cases alike
    assumption
  cases left with
  | nil => exact ⟨q, hread⟩
  | cons y left =>
    have hy := isSpace_of_isNumeralChar (numeral.2 y (suffix.subset List.mem_cons_self))
    rw [atEnd, skipSpaces_cons hy] at hend
    cases hend

theorem Outcome.of_numeral {j : Json} (leaf : j.depth = 0) (levels : Nat) {text : List Char}
    (numeral : IsNumeral text) (faithful : j.Faithful → parse (String.ofList text) = .ok j)
    {rest : List Char} (ends : Ends rest) (p : Position) :
    Outcome j levels rest (readJson levels ⟨text ++ rest, p⟩) := by
  obtain ⟨x, text, rfl⟩ := List.exists_cons_of_ne_nil numeral.1
  have hx := numeral.2 x List.mem_cons_self
  have alone (h : j.Faithful) := readLeaf_of_parse numeral (faithful h)
  have alike := readLeaf_extends ends hx text ⟨1, 0⟩ p
  rw [List.cons_append, readJson_numeral levels hx]
  generalize readLeaf ⟨x :: text, ⟨1, 0⟩⟩ = single at alone alike
  rw [List.cons_append] at alike
  generalize readLeaf ⟨x :: (text ++ rest), p⟩ = more at alike ⊢
  cases alike with
  | ok j' suffix =>
    have left := fun c hc => numeral.2 c (suffix.subset hc)
    refine .read (leaf ▸ Nat.zero_le levels) left _ fun h => ?_
    obtain ⟨q, hq⟩ := alone h
    cases hq
    exact ⟨rfl, rfl⟩
  | error =>
    refine .failed _ fun h => ?_
    obtain ⟨q, hq⟩ := alone h
    cases hq

/-! ## Lists -/

theorem exists_cons_prettyText (level : Nat) (j : Json) :
    ∃ x text, prettyText level j = x :: text ∧ Cursor.isSpace x = false ∧ x ≠ ']' := by
  have numeral {text : List Char} (h : IsNumeral text) :
      ∃ x more, text = x :: more ∧ Cursor.isSpace x = false ∧ x ≠ ']' := by
    obtain ⟨x, more, rfl⟩ := List.exists_cons_of_ne_nil h.1
    have hx := h.2 x List.mem_cons_self
    refine ⟨x, more, rfl, isSpace_of_isNumeralChar hx, ?_⟩
    rintro rfl
    cases hx
  cases j with
  | null => exact ⟨_, _, rfl, rfl, by decide⟩
  | bool b => cases b <;> exact ⟨_, _, rfl, rfl, by decide⟩
  | integer n => exact numeral (isNumeral_integerText n)
  | real x =>
    by_cases finite : x.isFinite = true
    · exact numeral (isNumeral_realText finite)
    · exact ⟨'n', ['u', 'l', 'l'], if_neg finite, rfl, by decide⟩
  | string s => exact ⟨_, _, rfl, rfl, by decide⟩
  | array items => cases items <;> exact ⟨_, _, rfl, rfl, by decide⟩
  | object members =>
    cases members with
    | nil => exact ⟨_, _, rfl, rfl, by decide⟩
    | cons e members =>
      obtain ⟨key, value⟩ := e
      exact ⟨_, _, rfl, rfl, by decide⟩

section

variable {x : Char} (text : List Char) (p : Position)

theorem itemFollows_first (level : Nat) (hx : Cursor.isSpace x = false) (close : x ≠ ']') :
    ∃ q, itemFollows true ⟨indent level ++ x :: text, p⟩ = .ok (true, ⟨x :: text, q⟩) := by
  obtain ⟨q, spaces⟩ := skipSpaces_indent level hx text p
  refine ⟨q, ?_⟩
  rw [itemFollows, spaces]
  simp only [close, if_false, if_true]

theorem itemFollows_next (level : Nat) (hx : Cursor.isSpace x = false) (close : x ≠ ']') :
    ∃ q, itemFollows false ⟨',' :: (indent level ++ x :: text), p⟩ =
      .ok (true, ⟨x :: text, q⟩) := by
  obtain ⟨q, spaces⟩ := skipSpaces_indent level hx text ⟨p.line, p.column + 1⟩
  have comma : Cursor.skip ⟨',' :: (indent level ++ x :: text), p⟩ 1 =
      ⟨indent level ++ x :: text, ⟨p.line, p.column + 1⟩⟩ := rfl
  refine ⟨q, ?_⟩
  rw [itemFollows, skipSpaces_cons rfl]
  simp only [comma, spaces, close, if_false]
  rfl

theorem itemFollows_end (first : Bool) (level : Nat) :
    ∃ q, itemFollows first ⟨indent level ++ ']' :: text, p⟩ = .ok (false, ⟨']' :: text, q⟩) := by
  obtain ⟨q, spaces⟩ := skipSpaces_indent level (x := ']') rfl text p
  refine ⟨q, ?_⟩
  rw [itemFollows, spaces]
  rfl

theorem itemFollows_numeral (hx : isNumeralChar x = true) :
    ∃ e, itemFollows false ⟨x :: text, p⟩ = .error e := by
  have other {c : Char} (hc : isNumeralChar c = false) : x ≠ c := by
    rintro rfl
    exact absurd (hc.symm.trans hx) Bool.false_ne_true
  rw [itemFollows, skipSpaces_cons (isSpace_of_isNumeralChar hx)]
  simp only [other (c := ']') rfl, other (c := ',') rfl, if_false]
  exact ⟨_, rfl⟩

end

theorem readItemsFrom_numeral (levels : Nat) (fuel : List Char) {x : Char}
    (hx : isNumeralChar x = true) (text : List Char) (p : Position) :
    ∃ e, readItemsFrom (readJson levels) fuel false ⟨x :: text, p⟩ = .error e := by
  cases fuel with
  | nil => exact ⟨_, rfl⟩
  | cons f fuel =>
    obtain ⟨e, follows⟩ := itemFollows_numeral text p hx
    rw [readItemsFrom, follows]
    exact ⟨e, rfl⟩

theorem ItemsOutcome.cons {j : Json} {items : List Json} {levels : Nat} {more rest : List Char}
    {first : Bool} {c : Cursor} {fuel text : List Char} {p : Position}
    (enough : 0 < fuel.length) (follows : itemFollows first c = .ok (true, ⟨text, p⟩))
    (item : Outcome j levels more (readJson levels ⟨text, p⟩))
    (further : ∀ q, ItemsOutcome items levels rest
      (readItemsFrom (readJson levels) fuel.tail false ⟨more, q⟩)) :
    ItemsOutcome (j :: items) levels rest (readItemsFrom (readJson levels) fuel first c) := by
  obtain ⟨f, fuel, rfl⟩ := List.exists_cons_of_length_pos enough
  rw [List.tail_cons] at further
  rw [readItemsFrom, follows]
  simp only [bind, Except.bind, if_true]
  generalize readJson levels ⟨text, p⟩ = outcome at item
  cases item with
  | failed e deep =>
    refine .failed e fun faithful => ?_
    exact Nat.lt_of_lt_of_le (deep (faithful j List.mem_cons_self)) (Nat.le_max_left _ _)
  | @read shallow j' left numeral q exact =>
    cases left with
    | cons x left =>
      -- The number was read in part, and no item ends with a character of a numeral.
      obtain ⟨e, stuck⟩ := readItemsFrom_numeral levels fuel (numeral x List.mem_cons_self)
        (left ++ more) q
      simp only [List.cons_append, stuck]
      exact .failed e fun faithful =>
        absurd (exact (faithful j List.mem_cons_self)).2 (List.cons_ne_nil _ _)
    | nil =>
      have further := further q
      simp only [List.nil_append]
      generalize readItemsFrom (readJson levels) fuel false ⟨more, q⟩ = outcome at further
      cases further with
      | failed e deep =>
        refine .failed e fun faithful => ?_
        have := deep fun i hi => faithful i (List.mem_cons_of_mem j hi)
        exact Nat.lt_of_lt_of_le this (Nat.le_max_right _ _)
      | read shallow' r exact' =>
        refine .read (Nat.max_le.2 ⟨shallow, shallow'⟩) r fun faithful => ?_
        rw [(exact (faithful j List.mem_cons_self)).1,
          exact' fun i hi => faithful i (List.mem_cons_of_mem j hi)]

/-! ## Objects -/

section

variable {x : Char} (text : List Char) (p : Position)

theorem memberFollows_first (level : Nat) (key : String) :
    ∃ q, memberFollows true ⟨indent level ++ (stringText key ++ text), p⟩ =
      .ok (true, ⟨stringText key ++ text, q⟩) := by
  obtain ⟨q, spaces⟩ := skipSpaces_indent level (x := '"') rfl
    ((key.toList.flatMap escapeChar ++ ['"']) ++ text) p
  refine ⟨q, ?_⟩
  rw [memberFollows, stringText, List.cons_append, spaces]
  rfl

theorem memberFollows_next (level : Nat) (key : String) :
    ∃ q, memberFollows false ⟨',' :: (indent level ++ (stringText key ++ text)), p⟩ =
      .ok (true, ⟨stringText key ++ text, q⟩) := by
  rw [stringText, List.cons_append]
  generalize (key.toList.flatMap escapeChar ++ ['"']) ++ text = more
  obtain ⟨q, spaces⟩ := skipSpaces_indent level (x := '"') rfl more ⟨p.line, p.column + 1⟩
  have comma : Cursor.skip ⟨',' :: (indent level ++ '"' :: more), p⟩ 1 =
      ⟨indent level ++ '"' :: more, ⟨p.line, p.column + 1⟩⟩ := rfl
  refine ⟨q, ?_⟩
  rw [memberFollows, skipSpaces_cons rfl]
  simp only [comma, spaces]
  rfl

theorem memberFollows_end (first : Bool) (level : Nat) :
    ∃ q, memberFollows first ⟨indent level ++ '\x7d' :: text, p⟩ =
      .ok (false, ⟨'\x7d' :: text, q⟩) := by
  obtain ⟨q, spaces⟩ := skipSpaces_indent level (x := '\x7d') rfl text p
  refine ⟨q, ?_⟩
  rw [memberFollows, spaces]
  rfl

theorem memberFollows_numeral (hx : isNumeralChar x = true) :
    ∃ e, memberFollows false ⟨x :: text, p⟩ = .error e := by
  have other {c : Char} (hc : isNumeralChar c = false) : x ≠ c := by
    rintro rfl
    exact absurd (hc.symm.trans hx) Bool.false_ne_true
  rw [memberFollows, skipSpaces_cons (isSpace_of_isNumeralChar hx)]
  simp only [other (c := '\x7d') rfl, other (c := ',') rfl, if_false]
  exact ⟨_, rfl⟩

end

theorem readMembersFrom_numeral (levels : Nat) (fuel : List Char) {x : Char}
    (hx : isNumeralChar x = true) (text : List Char) (p : Position) :
    ∃ e, readMembersFrom (readJson levels) fuel false ⟨x :: text, p⟩ = .error e := by
  cases fuel with
  | nil => exact ⟨_, rfl⟩
  | cons f fuel =>
    obtain ⟨e, follows⟩ := memberFollows_numeral text p hx
    rw [readMembersFrom, follows]
    exact ⟨e, rfl⟩

theorem readKey (key : String) (text : List Char) (p : Position) :
    ∃ q r, readString (Cursor.skip ⟨stringText key ++ ':' :: text, p⟩ 1) =
        .ok (key, ⟨':' :: text, q⟩) ∧ readColon ⟨':' :: text, q⟩ = .ok ⟨text, r⟩ := by
  obtain ⟨q, read⟩ := readString_escapes key (':' :: text)
    (Cursor.skip ⟨stringText key ++ ':' :: text, p⟩ 1).position
  rw [← List.singleton_append, ← List.append_assoc] at read
  refine ⟨q, ⟨q.line, q.column + 1⟩, read, ?_⟩
  rw [readColon, skipSpaces_cons rfl]
  rfl

theorem MembersOutcome.cons {key : String} {j : Json} {members : List (String × Json)}
    {levels : Nat} {more rest : List Char} {first : Bool} {c : Cursor}
    {fuel text : List Char} {p : Position} (enough : 0 < fuel.length)
    (follows : memberFollows first c = .ok (true, ⟨stringText key ++ ':' :: text, p⟩))
    (value : ∀ q, Outcome j levels more (readJson levels ⟨text, q⟩))
    (further : ∀ q, MembersOutcome members levels rest
      (readMembersFrom (readJson levels) fuel.tail false ⟨more, q⟩)) :
    MembersOutcome ((key, j) :: members) levels rest
      (readMembersFrom (readJson levels) fuel first c) := by
  obtain ⟨f, fuel, rfl⟩ := List.exists_cons_of_length_pos enough
  rw [List.tail_cons] at further
  obtain ⟨q, r, hkey, hcolon⟩ := readKey key text p
  have value := value r
  rw [readMembersFrom, follows]
  simp only [bind, Except.bind, if_true, hkey, hcolon]
  -- The value is read whole, or short of some characters of a number that was not faithful.
  generalize readJson levels ⟨text, r⟩ = outcome at value
  cases value with
  | failed e deep =>
    refine .failed e fun faithful => ?_
    exact Nat.lt_of_lt_of_le (deep (faithful _ List.mem_cons_self)) (Nat.le_max_left _ _)
  | @read shallow j' left numeral q exact =>
    cases left with
    | cons x left =>
      obtain ⟨e, stuck⟩ := readMembersFrom_numeral levels fuel (numeral x List.mem_cons_self)
        (left ++ more) q
      simp only [List.cons_append, stuck]
      exact .failed e fun faithful =>
        absurd (exact (faithful _ List.mem_cons_self)).2 (List.cons_ne_nil _ _)
    | nil =>
      have further := further q
      simp only [List.nil_append]
      generalize readMembersFrom (readJson levels) fuel false ⟨more, q⟩ = outcome at further
      cases further with
      | failed e deep =>
        refine .failed e fun faithful => ?_
        have := deep fun i hi => faithful i (List.mem_cons_of_mem _ hi)
        exact Nat.lt_of_lt_of_le this (Nat.le_max_right _ _)
      | read shallow' r exact' =>
        refine .read (Nat.max_le.2 ⟨shallow, shallow'⟩) r fun faithful => ?_
        rw [(exact (faithful _ List.mem_cons_self)).1,
          exact' fun i hi => faithful i (List.mem_cons_of_mem _ hi)]

/-! ## Whole documents -/

theorem ends_prettyItems (level : Nat) (items : List Json) (rest : List Char) :
    Ends (prettyItems level items ++ rest) := by
  cases items <;> exact fun c hc => by cases hc; rfl

theorem ends_prettyMembers (level : Nat) (members : List (String × Json)) (rest : List Char) :
    Ends (prettyMembers level members ++ rest) := by
  cases members <;> exact fun c hc => by cases hc; rfl

theorem length_lt_prettyItems (level : Nat) (items : List Json) :
    items.length < (prettyItems level items).length := by
  induction items with
  | nil => simp [prettyItems]
  | cons j items ih =>
    simp only [prettyItems, List.length_cons, List.length_append]
    omega

theorem length_lt_prettyMembers (level : Nat) (members : List (String × Json)) :
    members.length < (prettyMembers level members).length := by
  induction members with
  | nil => simp [prettyMembers]
  | cons e members ih =>
    obtain ⟨key, j⟩ := e
    simp only [prettyMembers, List.length_cons, List.length_append]
    omega

/-! The bracket of an array or an object takes a level, and without one it is refused. -/

theorem readJson_array (levels : Nat) (text : List Char) (p : Position) :
    readJson (levels + 1) ⟨'[' :: text, p⟩ =
      readItemsFrom (readJson levels) text true ⟨text, ⟨p.line, p.column + 1⟩⟩ >>=
        fun (items, c) => .ok (.array items, c) := by
  rw [readJson, skipSpaces_cons rfl]
  rfl

theorem readJson_object (levels : Nat) (text : List Char) (p : Position) :
    readJson (levels + 1) ⟨'\x7b' :: text, p⟩ =
      readMembersFrom (readJson levels) text true ⟨text, ⟨p.line, p.column + 1⟩⟩ >>=
        fun (members, c) => .ok (ofMembers members, c) := by
  rw [readJson, skipSpaces_cons rfl]
  rfl

theorem readJson_zero {x : Char} (h : x = '[' ∨ x = '\x7b') (text : List Char) (p : Position) :
    ∃ e, readJson 0 ⟨x :: text, p⟩ = .error e := by
  rcases h with rfl | rfl
  all_goals
    rw [readJson, skipSpaces_cons rfl]
    exact ⟨_, rfl⟩

theorem Outcome.array {items : List Json} {levels : Nat} {rest text : List Char}
    (h : ∀ q, ItemsOutcome items levels rest (readItemsFrom (readJson levels) text true ⟨text, q⟩))
    (p : Position) :
    Outcome (.array items) (levels + 1) rest (readJson (levels + 1) ⟨'[' :: text, p⟩) := by
  have h := h ⟨p.line, p.column + 1⟩
  rw [readJson_array]
  generalize readItemsFrom (readJson levels) text true ⟨text, ⟨p.line, p.column + 1⟩⟩ = outcome at h
  cases h with
  | failed e deep =>
    exact .failed e fun faithful => Nat.succ_lt_succ (deep fun j hj => faithful.item hj)
  | read shallow q exact =>
    refine .whole (Nat.succ_le_succ shallow) q fun faithful => ?_
    rw [exact fun j hj => faithful.item hj]

theorem Outcome.object {members : List (String × Json)} {levels : Nat} {rest text : List Char}
    (h : ∀ q, MembersOutcome members levels rest
      (readMembersFrom (readJson levels) text true ⟨text, q⟩))
    (p : Position) :
    Outcome (.object members) (levels + 1) rest (readJson (levels + 1) ⟨'\x7b' :: text, p⟩) := by
  have h := h ⟨p.line, p.column + 1⟩
  rw [readJson_object]
  generalize readMembersFrom (readJson levels) text true ⟨text, ⟨p.line, p.column + 1⟩⟩ =
    outcome at h
  cases h with
  | failed e deep =>
    exact .failed e fun faithful => Nat.succ_lt_succ (deep fun e he => faithful.member he)
  | read shallow q exact =>
    refine .whole (Nat.succ_le_succ shallow) q fun faithful => ?_
    rw [exact fun e he => faithful.member he, ofMembers,
      Entries.ofPairs_of_sorted (faithful.sorted members .self)]

theorem Outcome.tooDeep {j : Json} (nests : 0 < j.depth) {x : Char} (h : x = '[' ∨ x = '\x7b')
    (rest text : List Char) (p : Position) : Outcome j 0 rest (readJson 0 ⟨x :: text, p⟩) := by
  obtain ⟨e, he⟩ := readJson_zero h text p
  rw [he]
  exact .failed e fun _ => nests

theorem Outcome.spaced {j : Json} {level levels : Nat} {rest : List Char}
    (h : ∀ p, Outcome j levels rest (readJson levels ⟨prettyText level j ++ rest, p⟩))
    (p : Position) :
    Outcome j levels rest (readJson levels ⟨' ' :: (prettyText level j ++ rest), p⟩) := by
  obtain ⟨x, text, hx, space, -⟩ := exists_cons_prettyText level j
  obtain ⟨q, spaced⟩ := readJson_space levels space (text ++ rest) p
  rw [hx, List.cons_append, spaced, ← List.cons_append, ← hx]
  exact h q

mutual

theorem outcome_readJson (j : Json) (level levels : Nat) {rest : List Char} (ends : Ends rest)
    (p : Position) : Outcome j levels rest (readJson levels ⟨prettyText level j ++ rest, p⟩) := by
  cases j with
  | null =>
    change Outcome .null levels rest (readJson levels ⟨'n' :: (['u', 'l', 'l'] ++ rest), p⟩)
    rw [readJson_leaf levels rfl (by decide) (by decide)]
    exact .of_yields rfl levels (readLeaf_null rest p)
  | bool b =>
    change Outcome (.bool b) levels rest (readJson levels ⟨leafText (.bool b) ++ rest, p⟩)
    have read := Outcome.of_yields rfl levels (readLeaf_bool b rest p)
    cases b
    all_goals
      rw [leafText, List.cons_append, readJson_leaf levels rfl (by decide) (by decide)]
      exact read
  | integer n =>
    refine .of_numeral rfl levels (isNumeral_integerText n) (fun faithful => ?_) ends p
    exact faithful.integers n .self
  | real x =>
    by_cases finite : x.isFinite = true
    · refine .of_numeral rfl levels (isNumeral_realText finite) (fun faithful => ?_) ends p
      exact faithful.reals x .self
    -- Null is written for the number, which then is not read back.
    · change Outcome (.real x) levels rest (readJson levels ⟨realText x ++ rest, p⟩)
      obtain ⟨q, read⟩ := readLeaf_null rest p
      rw [realText, if_neg finite, List.cons_append,
        readJson_leaf levels rfl (by decide) (by decide), ← List.cons_append, read]
      refine .whole (Nat.zero_le levels) q fun faithful => ?_
      have other := faithful.reals x .self
      rw [realText, if_neg finite] at other
      cases parse_null.symm.trans other
  | string s =>
    change Outcome (.string s) levels rest (readJson levels ⟨stringText s ++ rest, p⟩)
    rw [stringText, List.cons_append, readJson_leaf levels rfl (by decide) (by decide)]
    exact .of_yields rfl levels (readLeaf_string s rest p)
  | array items =>
    cases levels with
    | zero =>
      cases items <;> exact .tooDeep (j := .array _) (Nat.succ_pos _) (.inl rfl) _ _ p
    | succ levels =>
      cases items with
      | nil =>
        refine Outcome.array (fun q => ?_) p
        exact .read (Nat.zero_le levels) _ fun _ => rfl
      | cons j items =>
        obtain ⟨x, text, hx, space, close⟩ := exists_cons_prettyText (level + 1) j
        rw [prettyText, hx]
        simp only [List.cons_append, List.append_assoc]
        refine Outcome.array (fun q => ?_) p
        obtain ⟨r, follows⟩ := itemFollows_first (text ++ (prettyItems level items ++ rest)) q
          (level + 1) space close
        have item := outcome_readJson j (level + 1) levels (ends_prettyItems level items rest) r
        rw [hx, List.cons_append] at item
        refine ItemsOutcome.cons ?_ follows item fun q => ?_
        · simp only [List.length_append, List.length_cons]
          omega
        refine outcome_readItemsFrom items level levels rest ?_ q
        have := length_lt_prettyItems level items
        simp only [List.length_tail, List.length_append, List.length_cons]
        omega
  | object members =>
    cases levels with
    | zero =>
      cases members <;> exact .tooDeep (j := .object _) (Nat.succ_pos _) (.inr rfl) _ _ p
    | succ levels =>
      cases members with
      | nil =>
        refine Outcome.object (fun q => ?_) p
        exact .read (Nat.zero_le levels) _ fun _ => rfl
      | cons e members =>
        obtain ⟨key, j⟩ := e
        rw [prettyText]
        simp only [List.cons_append, List.append_assoc]
        refine Outcome.object (fun q => ?_) p
        obtain ⟨r, follows⟩ := memberFollows_first
          (':' :: ' ' :: (prettyText (level + 1) j ++ (prettyMembers level members ++ rest))) q
          (level + 1) key
        have value := Outcome.spaced fun p =>
          outcome_readJson j (level + 1) levels (ends_prettyMembers level members rest) p
        refine MembersOutcome.cons ?_ follows value fun q => ?_
        · simp only [List.length_append, List.length_cons]
          omega
        refine outcome_readMembersFrom members level levels rest ?_ q
        have := length_lt_prettyMembers level members
        simp only [List.length_tail, List.length_append, List.length_cons]
        omega

theorem outcome_readItemsFrom (items : List Json) (level levels : Nat) {fuel : List Char}
    (rest : List Char) (enough : items.length < fuel.length) (p : Position) :
    ItemsOutcome items levels rest
      (readItemsFrom (readJson levels) fuel false ⟨prettyItems level items ++ rest, p⟩) := by
  cases items with
  | nil =>
    obtain ⟨f, fuel, rfl⟩ := List.exists_cons_of_length_pos enough
    obtain ⟨q, follows⟩ := itemFollows_end rest p false level
    rw [prettyItems, List.append_assoc, List.singleton_append, readItemsFrom, follows]
    exact .read (Nat.zero_le levels) _ fun _ => rfl
  | cons j items =>
    obtain ⟨x, text, hx, space, close⟩ := exists_cons_prettyText (level + 1) j
    obtain ⟨q, follows⟩ := itemFollows_next (text ++ (prettyItems level items ++ rest)) p
      (level + 1) space close
    have item := outcome_readJson j (level + 1) levels (ends_prettyItems level items rest) q
    rw [hx, List.cons_append] at item
    rw [prettyItems, hx]
    simp only [List.cons_append, List.append_assoc]
    refine ItemsOutcome.cons (Nat.zero_lt_of_lt enough) follows item fun q => ?_
    refine outcome_readItemsFrom items level levels rest ?_ q
    rw [List.length_tail]
    exact Nat.lt_sub_of_add_lt enough

theorem outcome_readMembersFrom (members : List (String × Json)) (level levels : Nat)
    {fuel : List Char} (rest : List Char) (enough : members.length < fuel.length) (p : Position) :
    MembersOutcome members levels rest
      (readMembersFrom (readJson levels) fuel false ⟨prettyMembers level members ++ rest, p⟩) := by
  cases members with
  | nil =>
    obtain ⟨f, fuel, rfl⟩ := List.exists_cons_of_length_pos enough
    obtain ⟨q, follows⟩ := memberFollows_end rest p false level
    rw [prettyMembers, List.append_assoc, List.singleton_append, readMembersFrom, follows]
    exact .read (Nat.zero_le levels) _ fun _ => rfl
  | cons e members =>
    obtain ⟨key, j⟩ := e
    obtain ⟨q, follows⟩ := memberFollows_next
      (':' :: ' ' :: (prettyText (level + 1) j ++ (prettyMembers level members ++ rest))) p
      (level + 1) key
    have value := Outcome.spaced fun p =>
      outcome_readJson j (level + 1) levels (ends_prettyMembers level members rest) p
    rw [prettyMembers]
    simp only [List.cons_append, List.append_assoc]
    refine MembersOutcome.cons (Nat.zero_lt_of_lt enough) follows value fun q => ?_
    refine outcome_readMembersFrom members level levels rest ?_ q
    rw [List.length_tail]
    exact Nat.lt_sub_of_add_lt enough

end

/-- The text of a document is read as far as its depth allows. -/
theorem parse_pretty_cases (j : Json) :
    (j.depth ≤ maxLevels ∧ (j.Faithful → parse j.pretty = .ok j)) ∨
      ((j.Faithful → maxLevels < j.depth) ∧ ∃ e, parse j.pretty = .error e) := by
  have outcome := outcome_readJson j 0 maxLevels ends_nil ⟨1, 0⟩
  rw [parse, readAll, Cursor.ofText, pretty, String.toList_ofList]
  rw [List.append_nil] at outcome
  generalize readJson maxLevels ⟨prettyText 0 j, ⟨1, 0⟩⟩ = read at outcome
  cases outcome with
  | failed e deep => exact .inr ⟨deep, e, rfl⟩
  | read shallow _ p exact =>
    refine .inl ⟨shallow, fun faithful => ?_⟩
    obtain ⟨rfl, rfl⟩ := exact faithful
    rfl

/-- A faithful document that nests no deeper than texts may is read back. -/
theorem parse_pretty {j : Json} (faithful : j.Faithful) (shallow : j.depth ≤ maxLevels) :
    parse j.pretty = .ok j := by
  rcases parse_pretty_cases j with ⟨-, faithfully⟩ | ⟨deep, -⟩
  · exact faithfully faithful
  · exact absurd (deep faithful) (Nat.not_lt.2 shallow)

/-- A document that nests deeper than texts may is refused. -/
theorem parse_pretty_of_deep {j : Json} (deep : maxLevels < j.depth) :
    ∃ e, parse j.pretty = .error e := by
  rcases parse_pretty_cases j with ⟨shallow, -⟩ | ⟨-, refused⟩
  · exact absurd deep (Nat.not_lt.2 shallow)
  · exact refused

end Conduit.Json
