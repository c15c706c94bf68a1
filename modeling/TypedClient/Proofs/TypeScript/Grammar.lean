import TypedClient.Proofs.TypeScript.Token

/-!
# The grammar of type expressions

The second step of reading a type expression: its tokens make up a type. `IsUnion` and the
relations that it stands on are the grammar, with a level of its own for each operator, so that an
ampersand binds tighter than a bar. A type is the list of its alternatives, and parentheses leave
no trace but the grouping.

`read?` finds the type that tokens make up, one token at a time, with a stack of what is open. It
finds every reading that the grammar allows, so there is at most one, which is
`IsUnion.unique`.
-/

namespace TypedClient.TypeScript

/-- A member of an object type: its key, whether it may be missing, and its type. -/
structure Member (α : Type) where
  key : Token
  optional : Bool
  type : α

/-- One alternative of a type. -/
inductive Alternative where
  /-- A name, a keyword or a number. -/
  | word (written : String)
  /-- A text. -/
  | text (written : String)
  /-- A generic type with its arguments. -/
  | applied (name : String) (arguments : List (List Alternative))
  | tuple (items : List (List Alternative))
  | object (members : List (Member (List Alternative)))
  /-- What all of the operands, two or more, have in common. -/
  | both (operands : List (List Alternative))

/-- A type: the union of its alternatives. -/
abbrev TypeExpr := List Alternative

/-- The intersection of types. That of a single type is the type. -/
def meet : List TypeExpr → TypeExpr
  | [e] => e
  | es => [.both es]

/-- The union of intersections, each given by its operands. -/
def unite (gs : List (List TypeExpr)) : TypeExpr :=
  gs.flatMap meet

/-- Whether a token can be a key. -/
def Token.isKey : Token → Bool
  | .mark _ => false
  | _ => true

mutual

/-- A type: intersections with bars between them. -/
inductive IsUnion : List Token → List (List TypeExpr) → Prop where
  | one {ts es} : IsIntersection ts es → IsUnion ts [es]
  | bar {ts us es gs} : IsIntersection ts es → IsUnion us gs →
      IsUnion (ts ++ .mark '|' :: us) (es :: gs)

/-- An intersection: operands with ampersands between them. -/
inductive IsIntersection : List Token → List TypeExpr → Prop where
  | one {ts e} : IsOperand ts e → IsIntersection ts [e]
  | ampersand {ts us e es} : IsOperand ts e → IsIntersection us es →
      IsIntersection (ts ++ .mark '&' :: us) (e :: es)

/-- An operand: a word, a text, or what stands between brackets. -/
inductive IsOperand : List Token → TypeExpr → Prop where
  | word (w) : IsOperand [.word w] [.word w]
  | text (s) : IsOperand [.text s] [.text s]
  | group {ts gs} : IsUnion ts gs → IsOperand (.mark '(' :: (ts ++ [.mark ')'])) (unite gs)
  | applied (w) {ts es} : IsItems ts es →
      IsOperand (.word w :: .mark '<' :: (ts ++ [.mark '>'])) [.applied w es]
  | unit : IsOperand [.mark '[', .mark ']'] [.tuple []]
  | tuple {ts es} : IsItems ts es → IsOperand (.mark '[' :: (ts ++ [.mark ']'])) [.tuple es]
  | object {ts ms} : IsMembers ts ms →
      IsOperand (.mark '\x7b' :: (ts ++ [.mark '\x7d'])) [.object ms]

/-- Types with commas between them. -/
inductive IsItems : List Token → List TypeExpr → Prop where
  | one {ts gs} : IsUnion ts gs → IsItems ts [unite gs]
  | comma {ts us gs es} : IsUnion ts gs → IsItems us es →
      IsItems (ts ++ .mark ',' :: us) (unite gs :: es)

/-- A member of an object type. -/
inductive IsMember : List Token → Member TypeExpr → Prop where
  | required {key ts gs} : key.isKey = true → IsUnion ts gs →
      IsMember (key :: .mark ':' :: ts) ⟨key, false, unite gs⟩
  | optional {key ts gs} : key.isKey = true → IsUnion ts gs →
      IsMember (key :: .mark '?' :: .mark ':' :: ts) ⟨key, true, unite gs⟩

/-- Members with semicolons or commas between them and perhaps at the end. -/
inductive IsMembers : List Token → List (Member TypeExpr) → Prop where
  | nil : IsMembers [] []
  | last {ts m} : IsMember ts m → IsMembers ts [m]
  | more {ts us m ms} (c) : c = ';' ∨ c = ',' → IsMember ts m → IsMembers us ms →
      IsMembers (ts ++ .mark c :: us) (m :: ms)

end

/-- What was opened in front of a type, with the parts of it that have been read. -/
inductive Opening where
  | group
  | applied (name : String) (done : List TypeExpr)
  | tuple (done : List TypeExpr)
  | member (done : List (Member TypeExpr)) (key : Token) (optional : Bool)

/-- What has been read of a type in front of an operand: the alternatives that are complete, and the
operands of the intersection that is not. -/
structure Begun where
  alternatives : TypeExpr := []
  operands : List TypeExpr := []

/-- The type that is complete with one more operand. -/
def Begun.close (b : Begun) (e : TypeExpr) : TypeExpr :=
  b.alternatives ++ meet (b.operands ++ [e])

/-- What is open around the type that is being read, innermost first. -/
abbrev Around := List (Opening × Begun)

/-- What has been read, and what may come next. -/
inductive Reader where
  /-- An operand comes next. -/
  | operand (begun : Begun) (around : Around)
  /-- A word was read, which may have arguments. -/
  | word (w : String) (begun : Begun) (around : Around)
  /-- An operand was read. -/
  | operator (e : TypeExpr) (begun : Begun) (around : Around)
  /-- A member or the end of an object type comes next. -/
  | key (done : List (Member TypeExpr)) (begun : Begun) (around : Around)
  /-- A key was read. -/
  | colon (done : List (Member TypeExpr)) (key : Token) (optional : Bool) (begun : Begun)
      (around : Around)

namespace Reader

/-- A mark behind a type that stands inside of an opening. -/
def inside (e : TypeExpr) (c : Char) (b : Begun) (around : Around) : Opening → Option Reader
  | .group => if c = ')' then some (.operator e b around) else none
  | .applied w done =>
      if c = ',' then some (.operand {} ((.applied w (done ++ [e]), b) :: around))
      else if c = '>' then some (.operator [.applied w (done ++ [e])] b around)
      else none
  | .tuple done =>
      if c = ',' then some (.operand {} ((.tuple (done ++ [e]), b) :: around))
      else if c = ']' then some (.operator [.tuple (done ++ [e])] b around)
      else none
  | .member done k optional =>
      if c = ';' || c = ',' then some (.key (done ++ [⟨k, optional, e⟩]) b around)
      else if c = '\x7d' then some (.operator [.object (done ++ [⟨k, optional, e⟩])] b around)
      else none

/-- A token behind an operand. -/
def behind (e : TypeExpr) (b : Begun) (around : Around) : Token → Option Reader
  | .mark c =>
      if c = '&' then some (.operand ⟨b.alternatives, b.operands ++ [e]⟩ around)
      else if c = '|' then some (.operand ⟨b.close e, []⟩ around)
      else match around with
        | [] => none
        | (o, outer) :: around => inside (b.close e) c outer around o
  | _ => none

/-- A token where an operand comes next. -/
def start (b : Begun) (around : Around) : Token → Option Reader
  | .word w => some (.word w b around)
  | .text s => some (.operator [.text s] b around)
  | .mark c =>
      if c = '(' then some (.operand {} ((.group, b) :: around))
      else if c = '[' then some (.operand {} ((.tuple [], b) :: around))
      else if c = '\x7b' then some (.key [] b around)
      else match b, around with
        | ⟨[], []⟩, (.tuple [], outer) :: around =>
            if c = ']' then some (.operator [.tuple []] outer around) else none
        | _, _ => none

/-- One more token. -/
def step : Reader → Token → Option Reader
  | operand b around, t => start b around t
  | word w b around, t =>
      if t = .mark '<' then some (.operand {} ((.applied w [], b) :: around))
      else behind [.word w] b around t
  | operator e b around, t => behind e b around t
  | key done b around, t =>
      if t.isKey then some (.colon done t false b around)
      else if t = .mark '\x7d' then some (.operator [.object done] b around)
      else none
  | colon done k optional b around, t =>
      if t = .mark ':' then some (.operand {} ((.member done k optional, b) :: around))
      else if t = .mark '?' ∧ optional = false then some (.colon done k true b around)
      else none

/-- The type that has been read, when nothing is open. -/
def result? : Reader → Option TypeExpr
  | operator e b [] => some (b.close e)
  | word w b [] => some (b.close [.word w])
  | _ => none

/-- The type that tokens complete. -/
def run : Reader → List Token → Option TypeExpr
  | r, [] => r.result?
  | r, t :: ts => (r.step t).bind (fun r => r.run ts)

end Reader

/-- The type that tokens make up. -/
def read? (ts : List Token) : Option TypeExpr :=
  (Reader.operand {} []).run ts

namespace Reader

/-- A word stands for a type wherever it has no arguments. -/
theorem run_word {rest : List Token} (h : rest.head? ≠ some (.mark '<')) (w : String) (b : Begun)
    (around : Around) :
    (word w b around).run rest = (operator [.word w] b around).run rest := by
  cases rest with
  | nil => cases around <;> rfl
  | cons t rest =>
      have ht : t ≠ .mark '<' := fun heq => h (by rw [heq]; rfl)
      simp only [run, step, if_neg ht]

/-- A type is read up to its last operand, behind any alternatives. -/
def ReadsUnion (ts : List Token) (e : TypeExpr) : Prop :=
  ∃ b last, e = Begun.close b last ∧ ∀ before around rest, rest.head? ≠ some (.mark '<') →
    (operand ⟨before, []⟩ around).run (ts ++ rest) =
      (operator last ⟨before ++ b.alternatives, b.operands⟩ around).run rest

/-- An intersection is read up to its last operand, behind any operands. -/
def ReadsIntersection (ts : List Token) (es : List TypeExpr) : Prop :=
  ∃ init last, es = init ++ [last] ∧ ∀ b around rest, rest.head? ≠ some (.mark '<') →
    (operand b around).run (ts ++ rest) =
      (operator last ⟨b.alternatives, b.operands ++ init⟩ around).run rest

/-- An operand is read. -/
def ReadsOperand (ts : List Token) (e : TypeExpr) : Prop :=
  ∀ b around rest, rest.head? ≠ some (.mark '<') →
    (operand b around).run (ts ++ rest) = (operator e b around).run rest

/-- Whether types may be listed behind an opening. -/
def Lists (opening : List TypeExpr → Opening) : Prop :=
  ∀ done e b around, inside e ',' b around (opening done) =
    some (.operand {} ((opening (done ++ [e]), b) :: around))

/-- Listed types are read up to the last operand of the last of them. -/
def ReadsItems (ts : List Token) (es : List TypeExpr) : Prop :=
  ∃ init b' last, es = init ++ [Begun.close b' last] ∧ ∀ opening, Lists opening →
    ∀ done b around rest, rest.head? ≠ some (.mark '<') →
      (operand {} ((opening done, b) :: around)).run (ts ++ rest) =
        (operator last b' ((opening (done ++ init), b) :: around)).run rest

/-- A member is read up to the last operand of its type. -/
def ReadsMember (ts : List Token) (m : Member TypeExpr) : Prop :=
  ∃ b' last, m.type = Begun.close b' last ∧ ∀ done b around rest,
    rest.head? ≠ some (.mark '<') → (key done b around).run (ts ++ rest) =
      (operator last b' ((.member done m.key m.optional, b) :: around)).run rest

/-- The members of an object type are read up to its end. -/
def ReadsMembers (ts : List Token) (ms : List (Member TypeExpr)) : Prop :=
  ∀ done b around rest, (key done b around).run (ts ++ .mark '\x7d' :: rest) =
    (operator [.object (done ++ ms)] b around).run rest

variable {ts us : List Token} {e : TypeExpr} {es : List TypeExpr} {m : Member TypeExpr}
  {ms : List (Member TypeExpr)}

theorem ReadsIntersection.union (h : ReadsIntersection ts es) : ReadsUnion ts (unite [es]) := by
  obtain ⟨init, last, rfl, hrun⟩ := h
  refine ⟨⟨[], init⟩, last, List.append_nil _, fun before around rest hrest => ?_⟩
  rw [hrun _ around rest hrest, List.append_nil, List.nil_append]

theorem ReadsUnion.bar (hs : ReadsIntersection ts es) (he : ReadsUnion us e) :
    ReadsUnion (ts ++ .mark '|' :: us) (meet es ++ e) := by
  obtain ⟨init, last, rfl, hleft⟩ := hs
  obtain ⟨b, last', rfl, hright⟩ := he
  refine ⟨⟨meet (init ++ [last]) ++ b.alternatives, b.operands⟩, last', ?_, ?_⟩
  · rw [Begun.close, Begun.close, List.append_assoc]
  · intro before around rest hrest
    rw [List.append_assoc, hleft _ around _ (by simp), ← List.append_assoc]
    exact hright _ around rest hrest

theorem ReadsOperand.intersection (h : ReadsOperand ts e) : ReadsIntersection ts [e] := by
  refine ⟨[], e, rfl, fun b around rest hrest => ?_⟩
  rw [List.append_nil]
  exact h b around rest hrest

theorem ReadsIntersection.ampersand (he : ReadsOperand ts e) (hs : ReadsIntersection us es) :
    ReadsIntersection (ts ++ .mark '&' :: us) (e :: es) := by
  obtain ⟨init, last, rfl, hright⟩ := hs
  refine ⟨e :: init, last, rfl, fun b around rest hrest => ?_⟩
  have hnext := hright ⟨b.alternatives, b.operands ++ [e]⟩ around rest hrest
  rw [List.append_assoc, List.singleton_append] at hnext
  rw [List.append_assoc, he b around _ (by simp)]
  exact hnext

theorem ReadsUnion.group (h : ReadsUnion ts e) :
    ReadsOperand (.mark '(' :: (ts ++ [.mark ')'])) e := by
  intro b around rest _
  obtain ⟨b', last, rfl, hrun⟩ := h
  rw [List.cons_append, List.append_assoc]
  exact hrun [] ((.group, b) :: around) (.mark ')' :: rest) (by simp)

theorem ReadsItems.applied (w : String) (h : ReadsItems ts es) :
    ReadsOperand (.word w :: .mark '<' :: (ts ++ [.mark '>'])) [.applied w es] := by
  intro b around rest _
  obtain ⟨init, b', last, rfl, hrun⟩ := h
  rw [List.cons_append, List.cons_append, List.append_assoc]
  exact hrun (.applied w) (fun _ _ _ _ => rfl) [] b around (.mark '>' :: rest) (by simp)

theorem ReadsItems.tuple (h : ReadsItems ts es) :
    ReadsOperand (.mark '[' :: (ts ++ [.mark ']'])) [.tuple es] := by
  intro b around rest _
  obtain ⟨init, b', last, rfl, hrun⟩ := h
  rw [List.cons_append, List.append_assoc]
  exact hrun .tuple (fun _ _ _ _ => rfl) [] b around (.mark ']' :: rest) (by simp)

theorem ReadsMembers.object (h : ReadsMembers ts ms) :
    ReadsOperand (.mark '\x7b' :: (ts ++ [.mark '\x7d'])) [.object ms] := by
  intro b around rest _
  rw [List.cons_append, List.append_assoc]
  exact h [] b around rest

theorem ReadsUnion.items (h : ReadsUnion ts e) : ReadsItems ts [e] := by
  obtain ⟨b', last, rfl, hrun⟩ := h
  refine ⟨[], b', last, rfl, fun opening _ done b around rest hrest => ?_⟩
  rw [List.append_nil]
  exact hrun [] _ rest hrest

theorem ReadsItems.comma (he : ReadsUnion ts e) (hs : ReadsItems us es) :
    ReadsItems (ts ++ .mark ',' :: us) (e :: es) := by
  obtain ⟨b', last, rfl, hleft⟩ := he
  obtain ⟨init, b'', last', rfl, hright⟩ := hs
  refine ⟨b'.close last :: init, b'', last', rfl,
    fun opening hlists done b around rest hrest => ?_⟩
  have hstep : (operator last b' ((opening done, b) :: around)).step (.mark ',') =
      some (.operand {} ((opening (done ++ [b'.close last]), b) :: around)) :=
    hlists _ _ _ _
  have hnext := hright opening hlists (done ++ [b'.close last]) b around rest hrest
  rw [List.append_assoc, List.singleton_append] at hnext
  rw [List.append_assoc, hleft [] _ _ (by simp), List.nil_append, List.cons_append, run, hstep,
    Option.bind_some, hnext]

theorem ReadsUnion.member {k : Token} (hk : k.isKey = true) (h : ReadsUnion ts e) :
    ReadsMember (k :: .mark ':' :: ts) ⟨k, false, e⟩ := by
  obtain ⟨b', last, rfl, hrun⟩ := h
  refine ⟨b', last, rfl, fun done b around rest hrest => ?_⟩
  rw [List.cons_append, run, step, if_pos hk, Option.bind_some]
  exact hrun [] _ rest hrest

theorem ReadsUnion.optionalMember {k : Token} (hk : k.isKey = true) (h : ReadsUnion ts e) :
    ReadsMember (k :: .mark '?' :: .mark ':' :: ts) ⟨k, true, e⟩ := by
  obtain ⟨b', last, rfl, hrun⟩ := h
  refine ⟨b', last, rfl, fun done b around rest hrest => ?_⟩
  rw [List.cons_append, run, step, if_pos hk, Option.bind_some]
  exact hrun [] _ rest hrest

theorem readsMembers_nil : ReadsMembers [] [] := by
  intro done b around rest
  rw [List.append_nil]
  rfl

theorem ReadsMember.last (h : ReadsMember ts m) : ReadsMembers ts [m] := by
  intro done b around rest
  obtain ⟨k, optional, type⟩ := m
  obtain ⟨b', last, rfl, hrun⟩ := h
  rw [hrun done b around _ (by simp)]
  rfl

theorem ReadsMember.more {c : Char} (hc : c = ';' ∨ c = ',') (h : ReadsMember ts m)
    (hs : ReadsMembers us ms) : ReadsMembers (ts ++ .mark c :: us) (m :: ms) := by
  intro done b around rest
  obtain ⟨k, optional, type⟩ := m
  obtain ⟨b', last, rfl, hrun⟩ := h
  have hnext := hs (done ++ [⟨k, optional, b'.close last⟩]) b around rest
  rw [List.append_assoc, List.singleton_append] at hnext
  rw [List.append_assoc, hrun done b around _ (by rcases hc with rfl | rfl <;> simp), ← hnext]
  rcases hc with rfl | rfl <;> rfl

/-- The reader follows the grammar, production by production. -/
theorem readsUnion_of_isUnion {gs : List (List TypeExpr)} (h : IsUnion ts gs) :
    ReadsUnion ts (unite gs) :=
  @IsUnion.rec (fun ts gs _ => ReadsUnion ts (unite gs)) (fun ts es _ => ReadsIntersection ts es)
    (fun ts e _ => ReadsOperand ts e) (fun ts es _ => ReadsItems ts es)
    (fun ts m _ => ReadsMember ts m) (fun ts ms _ => ReadsMembers ts ms)
    (fun _ hs => hs.union) (fun _ _ hs he => .bar hs he)
    (fun _ he => he.intersection) (fun _ _ he hs => .ampersand he hs)
    (fun w b around _ hrest => run_word hrest w b around) (fun _ _ _ _ _ => rfl)
    (fun _ he => he.group) (fun w _ _ _ hs => hs.applied w) (fun _ _ _ _ => rfl)
    (fun _ hs => hs.tuple) (fun _ hs => hs.object)
    (fun _ he => he.items) (fun _ _ he hs => .comma he hs)
    (fun hk _ he => he.member hk) (fun hk _ he => he.optionalMember hk)
    readsMembers_nil (fun _ hm => hm.last) (fun _ hc _ _ hm hs => hm.more hc hs) ts gs h

end Reader

/-- Two intersections with an ampersand between them make up one. -/
theorem IsIntersection.append {us : List Token} {fs : List TypeExpr} :
    ∀ {ts : List Token} {es : List TypeExpr}, IsIntersection ts es → IsIntersection us fs →
      IsIntersection (ts ++ .mark '&' :: us) (es ++ fs)
  | _, _, .one he, hf => .ampersand he hf
  | _, _, .ampersand he hrest, hf => by
      rw [List.append_assoc]
      exact .ampersand he (hrest.append hf)

namespace IsUnion

variable {ts us : List Token} {gs hs : List (List TypeExpr)}

theorem ne_nil (h : IsUnion ts gs) : gs ≠ [] := by
  cases h <;> exact List.cons_ne_nil _ _

/-- Every type that tokens make up is found. -/
theorem read?_eq (h : IsUnion ts gs) : read? ts = some (unite gs) := by
  obtain ⟨b, last, htype, hrun⟩ := Reader.readsUnion_of_isUnion h
  have hall := hrun [] [] [] (by simp)
  rw [List.append_nil] at hall
  rw [htype]
  exact hall

/-- Tokens make up at most one type. -/
theorem unique (h : IsUnion ts gs) (h' : IsUnion ts hs) : unite gs = unite hs :=
  Option.some.inj (h.read?_eq.symm.trans h'.read?_eq)

/-- Two types with a bar between them make up their union. -/
theorem append : ∀ {ts : List Token} {gs : List (List TypeExpr)},
    IsUnion ts gs → IsUnion us hs → IsUnion (ts ++ .mark '|' :: us) (gs ++ hs)
  | _, _, .one he, hf => .bar he hf
  | _, _, .bar he hrest, hf => by
      rw [List.append_assoc]
      exact .bar he (hrest.append hf)

/-- An ampersand between two types makes one intersection of the last of the first type and the
first of the second, and leaves the others. -/
theorem ampersand (hright : IsUnion us hs) : ∀ {ts : List Token} {gs : List (List TypeExpr)},
    IsUnion ts gs → ∃ ks, IsUnion (ts ++ .mark '&' :: us) ks ∧
      ks.flatten = gs.flatten ++ hs.flatten ∧ ks.length + 1 = gs.length + hs.length
  | _, _, .one hg => by
      cases hright with
      | one hh => exact ⟨_, .one (hg.append hh), by simp, rfl⟩
      | bar hh hrest =>
          have hjoined := IsUnion.bar (hg.append hh) hrest
          rw [List.append_assoc] at hjoined
          exact ⟨_, hjoined, by simp, Nat.add_comm _ _⟩
  | _, _, .bar hg hrest => by
      obtain ⟨ks, hks, hflat, hlength⟩ := ampersand hright hrest
      have hjoined := IsUnion.bar hg hks
      rw [← List.cons_append, ← List.append_assoc] at hjoined
      refine ⟨_, hjoined, ?_, ?_⟩
      · rw [List.flatten_cons, List.flatten_cons, hflat, List.append_assoc]
      · rw [List.length_cons, List.length_cons]
        omega

end IsUnion

mutual

/-- A union has an alternative for each of its intersections. -/
theorem IsUnion.length_le : ∀ {ts : List Token} {gs : List (List TypeExpr)}, IsUnion ts gs →
    gs.length ≤ (unite gs).length
  | _, _, .one hes => by
      simpa [unite] using Nat.succ_le_of_lt hes.length_pos
  | _, _, .bar hes hgs => by
      have hfirst := hes.length_pos
      have hrest := hgs.length_le
      simp only [unite, List.flatMap_cons, List.length_append, List.length_cons] at hrest ⊢
      omega

theorem IsIntersection.length_pos : ∀ {ts : List Token} {es : List TypeExpr},
    IsIntersection ts es → 0 < (meet es).length
  | _, _, .one he => he.length_pos
  | _, _ :: [], .ampersand he _ => he.length_pos
  | _, _ :: _ :: _, .ampersand _ _ => Nat.one_pos

theorem IsOperand.length_pos : ∀ {ts : List Token} {e : TypeExpr}, IsOperand ts e → 0 < e.length
  | _, _, .word _ | _, _, .text _ | _, _, .unit => Nat.one_pos
  | _, _, .applied _ _ | _, _, .tuple _ | _, _, .object _ => Nat.one_pos
  | _, _, .group hgs => (List.length_pos_iff.2 hgs.ne_nil).trans_le hgs.length_le

end

theorem unite_operand (e : TypeExpr) : unite [[e]] = e :=
  List.append_nil e

namespace IsOperand

variable {ts us : List Token} {e : TypeExpr} {es : List TypeExpr}

/-- An operand is a type. -/
theorem isUnion (h : IsOperand ts e) : IsUnion ts [[e]] :=
  .one (.one h)

theorem items (h : IsOperand ts e) : IsItems ts [e] :=
  unite_operand e ▸ .one h.isUnion

theorem comma (h : IsOperand ts e) (hs : IsItems us es) :
    IsItems (ts ++ .mark ',' :: us) (e :: es) := by
  have hitems := IsItems.comma h.isUnion hs
  rwa [unite_operand] at hitems

end IsOperand

/-- A text denotes a type when that is what its tokens make up. -/
def Denotes (s : String) (e : TypeExpr) : Prop :=
  ∃ gs, unite gs = e ∧ Spells s (IsUnion · gs)

/-- A text denotes at most one type. -/
theorem Denotes.unique {s : String} {e f : TypeExpr} (he : Denotes s e) (hf : Denotes s f) :
    e = f := by
  obtain ⟨gs, rfl, ts, hts, hgs⟩ := he
  obtain ⟨hs, rfl, us, hus, hhs⟩ := hf
  obtain rfl := Option.some.inj (hts.symm.trans hus)
  exact hgs.unique hhs

end TypedClient.TypeScript
