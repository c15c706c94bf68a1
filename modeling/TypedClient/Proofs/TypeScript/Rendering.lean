import TypedClient.Proofs.TypeScript.ModelType

/-!
# Writing types next to each other

`Rendering s e es` says that the text `s` was written for the type `e` and is read as the union of
the operands `es`. The operands of a union that has no parentheses are open to what stands next to
them: a bar only adds an alternative, but an ampersand takes the nearest operand away from the
others. So bars keep every type that the parts keep, as `rendering_bars` says, and by
`rendering_ampersands` ampersands do so only where each part is one operand.
-/

namespace TypedClient.TypeScript

/-- A text that was written for a type, with the operands that it is read as the union of. -/
structure Rendering (s : String) (e : TypeExpr) (es : List TypeExpr) : Prop where
  spells : Spells s (IsUnion · (es.map ([·])))
  ne_nil : e ≠ []
  length_le : e.length ≤ es.flatten.length
  /-- What is read as a word was meant to be that word. -/
  word_iff : ∀ w, e = [.word w] ↔ es.flatten = [.word w]
  /-- No parentheses stand around a word. -/
  eq_of_word : ∀ w, es.flatten = [.word w] → s = w

theorem flatten_operands (es : List TypeExpr) : (es.map ([·])).flatten = es := by
  rw [← List.flatMap_def, List.flatMap_singleton']

theorem unite_operands (es : List TypeExpr) : unite (es.map ([·])) = es.flatten := by
  rw [unite, List.flatMap_map, List.flatten_eq_flatMap]
  rfl

/-- Nothing is no type. -/
theorem not_isUnion_nil {gs : List (List TypeExpr)} : ¬ IsUnion [] gs := by
  intro h
  cases h.read?_eq

namespace Rendering

variable {s : String} {e : TypeExpr} {es : List TypeExpr}

theorem denotes (h : Rendering s e es) : Denotes s es.flatten :=
  ⟨_, unite_operands es, h.spells⟩

/-- The text is not empty. -/
theorem text_ne (h : Rendering s e es) : s ≠ "" := by
  rintro rfl
  obtain ⟨ts, hts, hes⟩ := h.spells
  cases hts
  exact not_isUnion_nil hes

theorem operands_ne_nil (h : Rendering s e es) : es ≠ [] := by
  obtain ⟨ts, -, hes⟩ := h.spells
  rintro rfl
  exact hes.ne_nil rfl

/-- The text is a word when the type is meant to be. -/
theorem eq_word_iff (h : Rendering s e es) {w : String} (hw : isWord w = true) :
    s = w ↔ e = [.word w] := by
  constructor
  · rintro rfl
    have hword : Denotes s [.word s] :=
      ⟨_, unite_operand _, _, tokens?_word hw, (IsOperand.word s).isUnion⟩
    exact (h.word_iff s).2 (h.denotes.unique hword)
  · exact fun he => h.eq_of_word w ((h.word_iff w).1 he)

end Rendering

/-- A text that is read as a single operand. -/
theorem rendering_single {s : String} {e f : TypeExpr} (h : Spells s (IsOperand · f))
    (hne : e ≠ []) (hle : e.length ≤ f.length) (hword : ∀ w, e = [.word w] ↔ f = [.word w])
    (heq : ∀ w, f = [.word w] → s = w) : Rendering s e [f] := by
  obtain ⟨ts, hts, hoperand⟩ := h
  refine ⟨⟨ts, hts, hoperand.isUnion⟩, hne, ?_, ?_, ?_⟩
  · rwa [List.flatten_singleton]
  · rwa [List.flatten_singleton]
  · rwa [List.flatten_singleton]

theorem rendering_word {w : String} (h : isWord w = true) :
    Rendering w [.word w] [[.word w]] :=
  rendering_single (spells_word h) (List.cons_ne_nil _ _) le_rfl (fun _ => Iff.rfl)
    (fun _ heq => by simpa using heq)

/-- A literal is read as the value that it stands for. -/
theorem rendering_literal {v : Value} (h : (Json.text? Json.compact 0 v).isSome = true) :
    Rendering (literal v) (literalType v) [literalType v] :=
  rendering_single (spells_literal h)
    (List.ne_nil_of_length_pos (length_literalType v ▸ Nat.one_pos)) le_rfl (fun _ => Iff.rfl)
    (fun _ => literal_of_word)

/-- An operand that is not a word and was not meant to be one. -/
theorem rendering_operand {s : String} {e f : TypeExpr} (h : Spells s (IsOperand · f))
    (hne : e ≠ []) (hle : e.length ≤ f.length) (he : ∀ w, e ≠ [.word w])
    (hf : ∀ w, f ≠ [.word w]) : Rendering s e [f] :=
  rendering_single h hne hle (fun w => iff_of_false (he w) (hf w))
    (fun w heq => absurd heq (hf w))

/-- An operand with one alternative that is not a word. -/
theorem rendering_alternative {s : String} {a b : Alternative} (h : Spells s (IsOperand · [b]))
    (ha : ∀ w, a ≠ .word w) (hb : ∀ w, b ≠ .word w) : Rendering s [a] [[b]] :=
  rendering_operand h (List.cons_ne_nil a []) le_rfl (fun w heq => ha w (List.cons.inj heq).1)
    (fun w heq => hb w (List.cons.inj heq).1)

/-- A union of two or more is not a word. -/
theorem ne_word_of_length {e : TypeExpr} (h : 2 ≤ e.length) (w : String) : e ≠ [.word w] := by
  rintro rfl
  exact absurd h (by simp)

namespace Rendering

variable {s : String} {e : TypeExpr} {es : List TypeExpr}

/-- Whether null is among the values of a type shows in its text. -/
theorem orNull_eq (h : Rendering s e es) (nullable : Bool) :
    TypeScript.orNull nullable s = if nullable && !holdsNull e then s ++ " | null" else s := by
  have hholds : holdsNull e = (s == "any" || s == "null") := by
    rw [Bool.eq_iff_iff, Bool.or_eq_true, beq_iff_eq, beq_iff_eq, h.eq_word_iff (by decide),
      h.eq_word_iff (by decide)]
    unfold holdsNull
    split
    · simp
    · simp_all
  rw [TypeScript.orNull, hholds, Bool.not_or, ← Bool.and_assoc]
  rfl

/-- Null is one more operand. -/
theorem add_null (h : Rendering s e es) :
    Rendering (s ++ " | null") (e ++ [.word "null"]) (es ++ [[.word "null"]]) := by
  have hle := h.length_le
  have hlength := List.length_pos_iff.2 h.ne_nil
  have hflat : (es ++ [[Alternative.word "null"]]).flatten = es.flatten ++ [.word "null"] := by
    simp
  have htype : 2 ≤ (e ++ [Alternative.word "null"]).length := by
    rw [List.length_append, List.length_singleton]
    omega
  have hread : 2 ≤ (es ++ [[Alternative.word "null"]]).flatten.length := by
    rw [hflat, List.length_append, List.length_singleton]
    omega
  refine ⟨?_, List.append_ne_nil_of_left_ne_nil h.ne_nil _, ?_,
    fun w => iff_of_false (ne_word_of_length htype w) (ne_word_of_length hread w),
    fun w heq => absurd heq (ne_word_of_length hread w)⟩
  · obtain ⟨ts, hts, hes⟩ := h.spells
    have hbar : Delimits " | " [.mark '|'] := by decide
    have hnull : tokens? "null" = some [.word "null"] := tokens?_word (by decide)
    have htext : s ++ " | null" = s ++ (" | " ++ "null") := rfl
    rw [htext, List.map_append]
    exact ⟨_, tokens?_delimited hts hbar hnull, hes.append (IsOperand.word "null").isUnion⟩
  · rw [hflat, List.length_append, List.length_append]
    omega

/-- A type where null may be added: the added null is open, and keeps what was kept without it. -/
theorem orNull (h : Rendering s e es) (nullable : Bool) :
    ∃ fs, Rendering (orNull nullable s) (withNull nullable e) fs ∧
      (2 ≤ fs.length ↔ (nullable = true ∧ holdsNull e = false) ∨ 2 ≤ es.length) ∧
      (withNull nullable e = fs.flatten ↔ e = es.flatten) := by
  rw [h.orNull_eq, withNull]
  split
  case isFalse hkeep =>
    refine ⟨es, h, ?_, Iff.rfl⟩
    simp only [Bool.and_eq_true, Bool.not_eq_true'] at hkeep
    rw [or_iff_right hkeep]
  case isTrue hadd =>
    simp only [Bool.and_eq_true, Bool.not_eq_true'] at hadd
    have hlength := List.length_pos_iff.2 h.operands_ne_nil
    refine ⟨es ++ [[.word "null"]], h.add_null, iff_of_true ?_ (.inl hadd), ?_⟩
    · rw [List.length_append, List.length_singleton]
      omega
    · rw [List.flatten_append, List.flatten_singleton, List.append_left_inj]

end Rendering

section

variable {α β γ : Type} {f : α → List β} {as : List α}

theorem length_flatMap_le {g : α → List γ} (h : ∀ a ∈ as, (f a).length ≤ (g a).length) :
    (as.flatMap f).length ≤ (as.flatMap g).length := by
  rw [List.length_flatMap, List.length_flatMap]
  exact List.sum_le_sum h

theorem length_le_flatMap (h : ∀ a ∈ as, 0 < (f a).length) :
    as.length ≤ (as.flatMap f).length := by
  have hle := length_flatMap_le (f := fun a => [a]) (g := f) h
  rwa [List.flatMap_singleton'] at hle

/-- Lists that are joined are no more than there were if each has a single item. -/
theorem length_flatMap_le_iff (h : ∀ a ∈ as, 0 < (f a).length) :
    (as.flatMap f).length ≤ as.length ↔ ∀ a ∈ as, ¬ 2 ≤ (f a).length := by
  induction as with
  | nil => simp
  | cons a as ih =>
      rw [List.forall_mem_cons] at h
      have hrest := length_le_flatMap h.2
      rw [List.forall_mem_cons, ← ih h.2, List.flatMap_cons, List.length_append, List.length_cons]
      omega

/-- Lists that are joined are equal one by one if none is longer than its counterpart. -/
theorem flatMap_eq_iff {g : α → List β} (h : ∀ a ∈ as, (f a).length ≤ (g a).length) :
    as.flatMap f = as.flatMap g ↔ ∀ a ∈ as, f a = g a := by
  constructor
  · intro heq
    induction as with
    | nil => exact fun a ha => absurd ha List.not_mem_nil
    | cons a as ih =>
        rw [List.forall_mem_cons] at h ⊢
        rw [List.flatMap_cons, List.flatMap_cons] at heq
        have hrest := length_flatMap_le h.2
        have hlength := congrArg List.length heq
        rw [List.length_append, List.length_append] at hlength
        obtain ⟨hfirst, heq⟩ := List.append_inj heq (by omega)
        exact ⟨hfirst, ih h.2 heq⟩
  · exact List.flatMap_congr

/-- Lists of one item each, joined, are the list of their items. -/
theorem map_eq_flatMap_iff {f : α → List (List β)} {g : α → List β}
    (h : ∀ a ∈ as, (f a).length = 1) :
    as.map g = as.flatMap f ↔ ∀ a ∈ as, g a = (f a).flatten := by
  have hle : ∀ a ∈ as, [g a].length ≤ (f a).length := fun a ha => (h a ha).ge
  rw [List.map_eq_flatMap, flatMap_eq_iff hle]
  refine forall₂_congr (fun a ha => ?_)
  obtain ⟨item, hitem⟩ := List.length_eq_one_iff.1 (h a ha)
  rw [hitem, List.flatten_singleton, List.singleton_inj]

end

section

variable {α : Type} {text : α → String} {type : α → TypeExpr} {operands : α → List TypeExpr}
  {as : List α}

/-- Texts with bars between them are read as all of their operands. -/
theorem spells_bars (h : ∀ a ∈ as, Rendering (text a) (type a) (operands a)) (hne : as ≠ []) :
    Spells (" | ".intercalate (as.map text))
      (IsUnion · (as.flatMap (fun a => (operands a).map ([·])))) := by
  have hbar : Delimits " | " [.mark '|'] := by decide
  refine spells_intercalate (P := fun ts a => IsUnion ts ((operands a).map ([·])))
    (Q := fun ts as => IsUnion ts (as.flatMap (fun a => (operands a).map ([·])))) hbar ?_ ?_ ?_ ?_
  · intro ts a hts
    rwa [List.flatMap_singleton]
  · intro ts us a as hts hus
    rw [List.flatMap_cons]
    exact hts.append hus
  · rw [List.forall₂_map_left_iff, List.forall₂_same]
    exact fun a ha => (h a ha).spells
  · simpa using hne

/-- Texts with ampersands between them: the operands are the same ones, but each ampersand makes one
intersection of two. -/
theorem spells_ampersands (h : ∀ a ∈ as, Rendering (text a) (type a) (operands a))
    (hne : as ≠ []) :
    Spells (" & ".intercalate (as.map text)) (fun ts => ∃ gs, IsUnion ts gs ∧
      gs.flatten = as.flatMap operands ∧
      gs.length + as.length = (as.flatMap operands).length + 1) := by
  have hampersand : Delimits " & " [.mark '&'] := by decide
  refine spells_intercalate (P := fun ts a => IsUnion ts ((operands a).map ([·])))
    (Q := fun ts as => ∃ gs, IsUnion ts gs ∧ gs.flatten = as.flatMap operands ∧
      gs.length + as.length = (as.flatMap operands).length + 1) hampersand ?_ ?_ ?_ ?_
  · intro ts a hts
    refine ⟨_, hts, ?_, ?_⟩
    · rw [flatten_operands, List.flatMap_singleton]
    · rw [List.length_map, List.flatMap_singleton, List.length_singleton]
  · rintro ts us a as hts ⟨gs, hgs, hflat, hlength⟩
    obtain ⟨ks, hks, hjoined, hcount⟩ := hgs.ampersand hts
    rw [flatten_operands, hflat] at hjoined
    rw [List.length_map] at hcount
    refine ⟨ks, hks, hjoined, ?_⟩
    rw [List.flatMap_cons, List.length_append, List.length_cons]
    omega
  · rw [List.forall₂_map_left_iff, List.forall₂_same]
    exact fun a ha => (h a ha).spells
  · simpa using hne

/-- Parentheses make one operand of a type. -/
theorem spells_group {s : String} {gs : List (List TypeExpr)} (h : Spells s (IsUnion · gs)) :
    Spells ("(" ++ s ++ ")") (IsOperand · (unite gs)) := by
  have hopen : Delimits "(" [.mark '('] := by decide
  have hclose : Delimits ")" [.mark ')'] := by decide
  obtain ⟨ts, hts, hgs⟩ := h
  rw [String.append_assoc]
  exact ⟨_, tokens?_closed hopen.1 (tokens?_ended hts hclose), .group hgs⟩

theorem joined_of_length {operator : String} {texts : List String} (h : 2 ≤ texts.length) :
    joined operator texts = "(" ++ operator.intercalate texts ++ ")" := by
  match texts, h with
  | _ :: _ :: _, _ => rfl

theorem meet_of_length {es : List TypeExpr} (h : 2 ≤ es.length) : meet es = [.both es] := by
  match es, h with
  | _ :: _ :: _, _ => rfl

/-- Several texts with bars between them are read as the union of what each is read as. -/
theorem rendering_bars (h : ∀ a ∈ as, Rendering (text a) (type a) (operands a))
    (htwo : 2 ≤ as.length) : Rendering (joined " | " (as.map text)) (as.flatMap type)
      [as.flatMap (fun a => (operands a).flatten)] := by
  have hunite : unite (as.flatMap (fun a => (operands a).map ([·]))) =
      as.flatMap (fun a => (operands a).flatten) := by
    rw [unite, List.flatMap_assoc]
    exact List.flatMap_congr (fun a _ => unite_operands (operands a))
  have htypes : as.length ≤ (as.flatMap type).length :=
    length_le_flatMap (fun a ha => List.length_pos_iff.2 (h a ha).ne_nil)
  have hle : (as.flatMap type).length ≤ (as.flatMap (fun a => (operands a).flatten)).length :=
    length_flatMap_le (fun a ha => (h a ha).length_le)
  have hspells := spells_group (spells_bars h (List.ne_nil_of_length_pos (by omega)))
  rw [hunite] at hspells
  rw [joined_of_length (by rwa [List.length_map])]
  exact rendering_operand hspells (List.ne_nil_of_length_pos (by omega)) hle
    (ne_word_of_length (by omega)) (ne_word_of_length (by omega))

/-- Several texts with ampersands between them are read as one operand. It is the intersection that
was meant where each text is one operand, read as it was meant. -/
theorem rendering_ampersands (h : ∀ a ∈ as, Rendering (text a) (type a) (operands a))
    (htwo : 2 ≤ as.length) :
    ∃ f, Rendering (joined " & " (as.map text)) (meet (as.map type)) [f] ∧
      (meet (as.map type) = f ↔
        (∀ a ∈ as, ¬ 2 ≤ (operands a).length) ∧ ∀ a ∈ as, type a = (operands a).flatten) := by
  obtain ⟨ts, hts, gs, hgs, hflat, hlength⟩ :=
    spells_ampersands h (List.ne_nil_of_length_pos (by omega))
  have hspells := spells_group ⟨ts, hts, hgs⟩
  have hpos : ∀ a ∈ as, 0 < (operands a).length :=
    fun a ha => List.length_pos_iff.2 (h a ha).operands_ne_nil
  have hsome := List.length_pos_iff.2 hgs.ne_nil
  have hle := hgs.length_le
  rw [joined_of_length (by rwa [List.length_map]), meet_of_length (by rwa [List.length_map])]
  by_cases hsingle : gs.length = 1
  · -- there is one intersection, with the one operand of each text
    have hcount : ∀ a ∈ as, ¬ 2 ≤ (operands a).length :=
      (length_flatMap_le_iff hpos).1 (by omega)
    have hone : ∀ a ∈ as, (operands a).length = 1 := fun a ha =>
      le_antisymm (Nat.lt_succ_iff.1 (not_le.1 (hcount a ha))) (hpos a ha)
    obtain ⟨g, rfl⟩ := List.length_eq_one_iff.1 hsingle
    rw [List.flatten_singleton] at hflat
    subst hflat
    have hunite : unite [as.flatMap operands] = [.both (as.flatMap operands)] := by
      rw [unite, List.flatMap_singleton, meet_of_length (by omega)]
    rw [hunite] at hspells
    refine ⟨_, rendering_alternative hspells nofun nofun, ?_⟩
    rw [and_iff_right hcount, List.singleton_inj, Alternative.both.injEq, map_eq_flatMap_iff hone]
  · -- some text has another operand, which is an alternative to the rest
    refine ⟨_, rendering_operand hspells (List.cons_ne_nil _ _) ?_ (by simp)
      (ne_word_of_length (by omega)), iff_of_false ?_ ?_⟩
    · rw [List.length_singleton]
      omega
    · intro heq
      rw [← heq, List.length_singleton] at hle
      omega
    · rintro ⟨hcount, -⟩
      have hlittle := (length_flatMap_le_iff hpos).2 hcount
      omega

end

end TypedClient.TypeScript
