import TypedClient.Draft.Lift
import TypedClient.Proofs.Model.Nodes

/-!
# Lifting models out of one operation at a time

Operations share the list of anonymous models that lifting adds to. `liftAll_fst` shows that they
share nothing else: what an operation becomes does not depend on the models that were lifted before
it, so it stays the same when other operations are left out. `liftAll_anonymous` shows that only
anonymous models are added.
-/

namespace TypedClient

/-- All models of a list are anonymous. -/
def AllAnonymous (models : List Model) : Prop :=
  ∀ m ∈ models, m.anonymous = true

namespace Model

variable {t : Traits} {ps : List (Property Model)} {i : Model} {ms : List Model}

/-- A model that needs a declaration becomes a reference and is listed once for its pointer. -/
theorem lift_declared (h : (node t ps i ms).isDeclared = true) (earlier : List Model)
    (name : String) :
    (node t ps i ms).lift earlier name =
      (referenceTo t.pointer t.pointer,
        if earlier.any (fun m => m.pointer = t.pointer) then earlier
        else earlier ++ [node { t with anonymous := true, sourceName := name } ps i ms]) := by
  simp only [lift, h, if_true]

/-- Of any other model at most the items are lifted. -/
theorem lift_undeclared (h : ¬ (node t ps i ms).isDeclared = true) :
    (∀ earlier name, (node t ps i ms).lift earlier name = (node t ps i ms, earlier)) ∨
    ∃ suffix, ∀ earlier name, (node t ps i ms).lift earlier name =
      (node t ps (i.lift earlier (name ++ suffix)).1 ms, (i.lift earlier (name ++ suffix)).2) := by
  by_cases harray : t.kind = .array
  · exact .inr ⟨"Item", fun _ _ => by simp only [lift, h, harray]; rfl⟩
  · by_cases hdictionary : t.kind = .dictionary
    · exact .inr ⟨"Value", fun _ _ => by simp only [lift, h, hdictionary]; rfl⟩
    · exact .inl (fun _ _ => by simp only [lift, h]; rfl)

/-- What lifting makes of a model does not depend on the models that are there or on the name. -/
theorem lift_fst (m : Model) (earlier other : List Model) (name otherName : String) :
    (m.lift earlier name).1 = (m.lift other otherName).1 := by
  induction m using induction_on_parts generalizing earlier other name otherName with
  | absent => rfl
  | node t ps i ms _ ih _ =>
      by_cases hdeclared : (node t ps i ms).isDeclared = true
      · rw [lift_declared hdeclared, lift_declared hdeclared]
      · obtain hsame | ⟨suffix, hitems⟩ := lift_undeclared hdeclared
        · rw [hsame, hsame]
        · rw [hitems, hitems, ih earlier other (name ++ suffix) (otherName ++ suffix)]

/-- Lifting adds anonymous models only. -/
theorem lift_anonymous (m : Model) {earlier : List Model} (h : AllAnonymous earlier)
    (name : String) : AllAnonymous (m.lift earlier name).2 := by
  induction m using induction_on_parts generalizing earlier name with
  | absent => exact h
  | node t ps i ms _ ih _ =>
      by_cases hdeclared : (node t ps i ms).isDeclared = true
      · rw [lift_declared hdeclared]
        intro m hm
        dsimp only at hm
        split at hm
        · exact h m hm
        · rcases List.mem_append.1 hm with hm | hm
          · exact h m hm
          · obtain rfl := List.mem_singleton.1 hm
            rfl
      · obtain hsame | ⟨suffix, hitems⟩ := lift_undeclared hdeclared
        · rw [hsame]
          exact h
        · rw [hitems]
          exact ih h _

end Model

namespace Operation

/-- What lifting makes of parameters does not depend on the models that are there. -/
theorem liftParameters_fst (chosen : Parameter → Bool) (name : String) (earlier other : List Model)
    (ps : List Parameter) :
    (liftParameters chosen name earlier ps).1 = (liftParameters chosen name other ps).1 := by
  induction ps generalizing earlier other with
  | nil => rfl
  | cons p rest ih =>
      simp only [liftParameters]
      split
      · rw [p.model.lift_fst earlier other, ih]
      · rw [ih]

theorem liftParameters_anonymous (chosen : Parameter → Bool) (name : String)
    {earlier : List Model} (h : AllAnonymous earlier) (ps : List Parameter) :
    AllAnonymous (liftParameters chosen name earlier ps).2 := by
  induction ps generalizing earlier with
  | nil => exact h
  | cons p rest ih =>
      simp only [liftParameters]
      split
      · exact ih (p.model.lift_anonymous h _)
      · exact ih h

/-- What lifting makes of results does not depend on the models that are there. -/
theorem liftResults_fst (name : String) (earlier other : List Model) (rs : List Result) :
    (liftResults name earlier rs).1 = (liftResults name other rs).1 := by
  induction rs generalizing earlier other with
  | nil => rfl
  | cons r rest ih =>
      simp only [liftResults]
      rw [r.model.lift_fst earlier other, ih]

theorem liftResults_anonymous (name : String) {earlier : List Model} (h : AllAnonymous earlier)
    (rs : List Result) : AllAnonymous (liftResults name earlier rs).2 := by
  induction rs generalizing earlier with
  | nil => exact h
  | cons r rest ih => exact ih (r.model.lift_anonymous h _)

/-- What lifting makes of an operation does not depend on the models that are there. -/
theorem lift_fst (early : Parameter → Bool) (earlier other : List Model) (op : Operation) :
    (op.lift early earlier).1 = (op.lift early other).1 := by
  simp only [lift]
  rw [liftParameters_fst early op.sourceName earlier other, liftParameters_fst _ _ _ _,
    liftResults_fst]

theorem lift_anonymous (early : Parameter → Bool) {earlier : List Model}
    (h : AllAnonymous earlier) (op : Operation) : AllAnonymous (op.lift early earlier).2 :=
  liftResults_anonymous _
    (liftParameters_anonymous _ _ (liftParameters_anonymous _ _ h op.parameters) _) op.results

@[simp] theorem path_lift (early : Parameter → Bool) (earlier : List Model) (op : Operation) :
    (op.lift early earlier).1.path = op.path := rfl

@[simp] theorem method_lift (early : Parameter → Bool) (earlier : List Model) (op : Operation) :
    (op.lift early earlier).1.method = op.method := rfl

@[simp] theorem tag_lift (early : Parameter → Bool) (earlier : List Model) (op : Operation) :
    (op.lift early earlier).1.tag = op.tag := rfl

/-- Each operation is lifted on its own. -/
theorem liftAll_fst (early : Parameter → Bool) (earlier : List Model) (ops : List Operation) :
    (liftAll early earlier ops).1 = ops.map (fun op => (op.lift early []).1) := by
  induction ops generalizing earlier with
  | nil => rfl
  | cons op rest ih =>
      simp only [liftAll, List.map_cons]
      rw [lift_fst early earlier [], ih]

/-- Operations add anonymous models only. -/
theorem liftAll_anonymous (early : Parameter → Bool) {earlier : List Model}
    (h : AllAnonymous earlier) (ops : List Operation) :
    AllAnonymous (liftAll early earlier ops).2 := by
  induction ops generalizing earlier with
  | nil => exact h
  | cons op rest ih => exact ih (op.lift_anonymous early h)

end Operation

end TypedClient
